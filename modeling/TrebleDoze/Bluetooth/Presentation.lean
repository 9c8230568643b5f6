import TrebleDoze.Bluetooth.OutStream

/-!
# The presentation position, and the latency of an output stream

`GetPresentationPosition` asks the stack for the delay of the remote device; `out_get_latency_ms`
reports it when the call succeeds and the delay is plausible, and else a delay of its own.

* `presents_hidl`: the HIDL session returns what the stack answers;
* `getPresentationPosition_fst`: the AIDL session does so only where there is nothing to return, since its
  flag is false in every case, and with it the HIDL session on a device that has the AIDL service;
* `presentation_position_agrees`: both together, with the latency that the stream makes of it.
-/

namespace TrebleDoze.Bluetooth

/-- `TimeSpec`, and `timespec`. -/
structure TimeSpec where
  tvSec : UInt64
  tvNSec : UInt64
  deriving DecidableEq, Repr, Inhabited

/-- The microseconds of a time, `(ts.tv_sec * 1000000000LL + ts.tv_nsec) / 1000`. -/
def TimeSpec.us (ts : TimeSpec) : Int64 :=
  (ts.tvSec.toInt64 * 1000000000 + ts.tvNSec.toInt64) / 1000

/-- `PresentationPosition`, in words of 64 bits; the casts between the signed ones of AIDL and the
unsigned ones of HIDL leave them as they are. -/
structure PresentationPosition where
  remoteDeviceAudioDelayNanos : UInt64
  transmittedOctets : UInt64
  transmittedOctetsTimestamp : TimeSpec
  deriving DecidableEq, Repr, Inhabited

/-! ### The sessions -/

/-- `GetPresentationPosition`; `answer` is what the call of the stack yields, nothing if it fails. -/
def BluetoothAudioSession.getPresentationPosition {κ : Tag → Type}
    (answer : Option PresentationPosition) (presentationPosition : PresentationPosition)
    (s : BluetoothAudioSession κ) : Bool × PresentationPosition :=
  if !s.isSessionReady then (false, presentationPosition)
  else
    let retval := false
    match answer with
    | none => (false, presentationPosition)
    | some presentationPosition => (retval, presentationPosition)

namespace Hidl

/-- How a call of the HIDL stack goes: whether the transaction is ok, and what the callback is given. -/
structure PositionAnswer where
  isOk : Bool
  reply : Option (BluetoothAudioStatus × PresentationPosition)
  deriving DecidableEq, Repr

/-- What the stack answers if the call succeeds. -/
def PositionAnswer.position (answer : PositionAnswer) : Option PresentationPosition :=
  match answer.isOk, answer.reply with
  | true, some (.success, position) => some position
  | _, _ => none

/-- `GetPresentationPosition`, without the AIDL service. -/
def BluetoothAudioSession.getPresentationPosition (answer : PositionAnswer)
    (position : PresentationPosition) (s : BluetoothAudioSession) : Bool × PresentationPosition :=
  if !s.isSessionReady then (false, position)
  else
    -- the callback runs before the status of the call is looked at
    let (retval, position) :=
      match answer.reply with
      | some (.success, reported) => (true, reported)
      | _ => (false, position)
    if !answer.isOk then (false, position) else (retval, position)

/-- `HidlToAidlMiddleware_2_0::GetPresentationPosition`. -/
def getPresentationPosition {κ : Tag → Type} (answer : Option PresentationPosition)
    (_position : PresentationPosition) (s : Bluetooth.BluetoothAudioSession κ) :
    Bool × PresentationPosition :=
  s.getPresentationPosition answer default

end Hidl

/-! ### The ports -/

namespace BluetoothAudioPort

/-- `GetPresentationPosition` of an AIDL port. -/
def getPresentationPositionAidl {κ : Tag → Type} (answer : Option PresentationPosition)
    (s : BluetoothAudioSession κ) (p : BluetoothAudioPort) (position : PresentationPosition) :
    Bool × PresentationPosition :=
  if !p.inUse then (false, position) else s.getPresentationPosition answer default

/-- `GetPresentationPosition` of a HIDL port, for that of its session. -/
def getPresentationPositionHidl (session : PresentationPosition → Bool × PresentationPosition)
    (p : BluetoothAudioPort) (position : PresentationPosition) : Bool × PresentationPosition :=
  if !p.inUse then (false, position) else session position

end BluetoothAudioPort

/-! ### The stream -/

/-- `kMinimumDelayMs`. -/
def kMinimumDelayMs : UInt64 := 50

/-- `kMaximumDelayMs`. -/
def kMaximumDelayMs : UInt64 := 1000

/-- `kExtraAudioSyncMs`. -/
def kExtraAudioSyncMs : UInt64 := 200

/-- What `out_calculate_feeding_delay_ms` works out. -/
structure FeedingDelay where
  latencyMs : UInt32
  frames : UInt64
  timestamp : TimeSpec
  deriving DecidableEq, Repr

namespace OutStream

/-- The delay that the stream makes up. -/
def legacyDelayMs (out : OutStream) : UInt64 :=
  out.framesCount * 1000 / out.sampleRate.toUInt64 + kExtraAudioSyncMs

/-- `out_calculate_feeding_delay_ms`, for `GetPresentationPosition` of the port and the time now. -/
def calculateFeedingDelayMs (getPresentationPosition : PresentationPosition →
    Bool × PresentationPosition) (now : TimeSpec) (out : OutStream) : FeedingDelay :=
  let (ok, position) := getPresentationPosition default
  let reportMs := position.remoteDeviceAudioDelayNanos / 1000000
  let timestampFetched := ok && decide (kMinimumDelayMs < reportMs) && decide (reportMs < kMaximumDelayMs)
  let delayReportMs := if timestampFetched then reportMs else out.legacyDelayMs
  let latencyFrames := delayReportMs * out.sampleRate.toUInt64 / 1000
  let presented := UInt64.ofNat out.framesPresented
  let frames := position.transmittedOctets / UInt64.ofNat out.frameSize
  let frames :=
    if presented < frames then presented
    else if latencyFrames < presented - frames then presented
    else frames
  { latencyMs := delayReportMs.toUInt32
    frames := if latencyFrames < frames then frames - latencyFrames else 0
    timestamp := if timestampFetched then position.transmittedOctetsTimestamp else now }

/-- `out_get_latency_ms`; it asks for no timestamp. -/
def getLatencyMs (getPresentationPosition : PresentationPosition → Bool × PresentationPosition)
    (out : OutStream) : UInt32 :=
  (out.calculateFeedingDelayMs getPresentationPosition default).latencyMs

/-- The latency that is due, for what the stack answers: the delay of the remote device in whole
milliseconds if that is strictly between 50 and 1000, and else the delay that the stream makes up. -/
def dueLatencyMs (answer : Option PresentationPosition) (out : OutStream) : UInt32 :=
  match answer with
  | none => out.legacyDelayMs.toUInt32
  | some position =>
    let delayMs := position.remoteDeviceAudioDelayNanos / 1000000
    if 50 < delayMs ∧ delayMs < 1000 then delayMs.toUInt32 else out.legacyDelayMs.toUInt32

end OutStream

/-! ### Where the answer of the stack arrives -/

/-- The result is true exactly when the session is ready and the stack answers, and carries the answer. -/
structure Presents (ready : Bool) (answer : Option PresentationPosition)
    (result : Bool × PresentationPosition) : Prop where
  flag : result.1 = true ↔ ready = true ∧ answer.isSome = true
  values : ready = true → ∀ position ∈ answer, result.2 = position

/-- A session presents what the stack answers, and a stream on its port reports the latency due. -/
structure PresentsLatency (ready : Bool) (answer : Option PresentationPosition)
    (session : Bool × PresentationPosition)
    (port : PresentationPosition → Bool × PresentationPosition) (out : OutStream) : Prop where
  presents : Presents ready answer session
  latency : out.getLatencyMs port = out.dueLatencyMs (if ready then answer else none)

section

variable {ready : Bool} {answer : Option PresentationPosition}
  {session : Bool × PresentationPosition}
  {port : PresentationPosition → Bool × PresentationPosition} {out : OutStream}

/-- Nothing is due of a session that is not ready, or whose stack fails. -/
theorem due_eq_none (hd : ¬ (ready = true ∧ answer.isSome = true)) :
    (if ready then answer else none) = none := by
  cases ready with
  | false => rfl
  | true => simpa using hd

theorem getLatencyMs_of_false (h : (port default).1 = false) :
    out.getLatencyMs port = out.legacyDelayMs.toUInt32 := by
  simp [OutStream.getLatencyMs, OutStream.calculateFeedingDelayMs, h]

theorem getLatencyMs_of_true {position : PresentationPosition} (h : port default = (true, position)) :
    out.getLatencyMs port = out.dueLatencyMs (some position) := by
  have hmin : kMinimumDelayMs = 50 := rfl
  have hmax : kMaximumDelayMs = 1000 := rfl
  simp only [OutStream.getLatencyMs, OutStream.calculateFeedingDelayMs, OutStream.dueLatencyMs, h, hmin,
    hmax, Bool.true_and, Bool.and_eq_true, decide_eq_true_eq]
  split_ifs <;> rfl

/-- The stream reports the latency due, of a port that presents what the stack answers. -/
theorem getLatencyMs_of_presents (h : Presents ready answer (port default)) :
    out.getLatencyMs port = out.dueLatencyMs (if ready then answer else none) := by
  by_cases hd : ready = true ∧ answer.isSome = true
  · obtain ⟨rfl, ha⟩ := hd
    obtain ⟨position, rfl⟩ := Option.isSome_iff_exists.1 ha
    have hp : port default = (true, position) := Prod.ext (h.flag.2 ⟨rfl, rfl⟩) (h.values rfl _ rfl)
    rw [getLatencyMs_of_true hp, if_pos rfl]
  · have hf : (port default).1 = false := by rw [← Bool.not_eq_true, h.flag]; exact hd
    rw [getLatencyMs_of_false hf, due_eq_none hd]
    rfl

/-- Where the flag is always false, the answer arrives if there is none to return. -/
theorem presentsLatency_iff_of_false (hs : session.1 = false) (hp : (port default).1 = false) :
    PresentsLatency ready answer session port out ↔ ¬ (ready = true ∧ answer.isSome = true) := by
  constructor
  · intro h hd
    rw [h.presents.flag.2 hd] at hs
    cases hs
  · intro hd
    refine ⟨⟨by simp [hs, hd], fun hr position ha => ?_⟩, ?_⟩
    · exact absurd ⟨hr, by simp [Option.mem_def.1 ha]⟩ hd
    · rw [getLatencyMs_of_false hp, due_eq_none hd]
      rfl

end

section

variable {κ : Tag → Type} (s : BluetoothAudioSession κ) (answer : Option PresentationPosition)

/-- The AIDL session never returns true. -/
theorem getPresentationPosition_fst (position : PresentationPosition) :
    (s.getPresentationPosition answer position).1 = false := by
  unfold BluetoothAudioSession.getPresentationPosition
  cases answer with
  | none => cases s.isSessionReady <;> rfl
  | some _ => cases s.isSessionReady <;> rfl

theorem presents_hidl (t : Hidl.BluetoothAudioSession) (answer : Hidl.PositionAnswer)
    (position : PresentationPosition) :
    Presents t.isSessionReady answer.position (t.getPresentationPosition answer position) := by
  unfold Hidl.BluetoothAudioSession.getPresentationPosition Hidl.PositionAnswer.position
  obtain ⟨isOk, reply⟩ := answer
  cases hr : t.isSessionReady with
  | false => exact ⟨by simp, by simp⟩
  | true =>
    cases isOk with
    | false => exact ⟨by simp, by simp⟩
    | true =>
      rcases reply with _ | ⟨status, reported⟩
      · exact ⟨by simp, by simp⟩
      · cases status <;> exact ⟨by simp, by simp⟩

end

/-- **Where the presentation position arrives**: from the AIDL session, directly or for the HIDL ports
on a device that has the service, exactly when there is none to return; from the HIDL session always. -/
theorem presentation_position_agrees {κ : Tag → Type} (s : BluetoothAudioSession κ)
    (answer : Option PresentationPosition) (t : Hidl.BluetoothAudioSession)
    (hidlAnswer : Hidl.PositionAnswer) (p : BluetoothAudioPort) (hp : p.inUse = true)
    (out : OutStream) :
    (PresentsLatency s.isSessionReady answer (s.getPresentationPosition answer default)
        (p.getPresentationPositionAidl answer s) out ↔
      ¬ (s.isSessionReady = true ∧ answer.isSome = true)) ∧
    (PresentsLatency s.isSessionReady answer (Hidl.getPresentationPosition answer default s)
        (p.getPresentationPositionHidl fun position =>
          Hidl.getPresentationPosition answer position s) out ↔
      ¬ (s.isSessionReady = true ∧ answer.isSome = true)) ∧
    PresentsLatency t.isSessionReady hidlAnswer.position (t.getPresentationPosition hidlAnswer default)
      (p.getPresentationPositionHidl fun position => t.getPresentationPosition hidlAnswer position)
      out := by
  have hs : ∀ position, (s.getPresentationPosition answer position).1 = false :=
    getPresentationPosition_fst s answer
  refine ⟨presentsLatency_iff_of_false (hs _) ?_, presentsLatency_iff_of_false (hs _) ?_, ?_⟩
  · simp [BluetoothAudioPort.getPresentationPositionAidl, hp, hs]
  · simp [BluetoothAudioPort.getPresentationPositionHidl, Hidl.getPresentationPosition, hp, hs]
  · refine ⟨presents_hidl t hidlAnswer default, getLatencyMs_of_presents ?_⟩
    simpa [BluetoothAudioPort.getPresentationPositionHidl, hp] using presents_hidl t hidlAnswer default

/-- The stream of the tests: 20 ms of buffer at 48 kHz, on the port. -/
def quietStream (p : BluetoothAudioPort) : OutStream where
  bluetoothOutput := p
  framesRendered := 0
  isA2dp := true
  framesPresented := 0
  lastWriteTimeUs := 0
  sampleRate := 48000
  framesCount := 960
  frameSize := 4

/-- The headset is 200 ms behind. -/
def lateHeadset : PresentationPosition := ⟨200000000, 3840, ⟨1, 0⟩⟩

/-- A HIDL session that the stack has started. -/
def startedHidlSession : Hidl.BluetoothAudioSession :=
  ((Hidl.BluetoothAudioSession.create .a2dpSoftwareEncoding).onSessionStarted (some 1)
    (some ⟨0, true⟩) .pcmConfig).1

/-- Its position arrives, and the stream reports the 200 ms. -/
theorem presentation_position_agrees_hidl :
    startedHidlSession.isSessionReady = true ∧
      (quietStream freshPort).getLatencyMs (freshPort.getPresentationPositionHidl fun position =>
        startedHidlSession.getPresentationPosition ⟨true, some (.success, lateHeadset)⟩ position) = 200 := by
  have h := (presentation_position_agrees startedSession none startedHidlSession
    ⟨true, some (.success, lateHeadset)⟩ freshPort (by decide) (quietStream freshPort)).2.2
  exact ⟨by decide, h.latency⟩

/-- A started AIDL session gets the same answer and returns false, and the stream reports the 220 ms of
its own. -/
theorem presentation_position_lost :
    startedSession.isSessionReady = true ∧
      (quietStream freshPort).getLatencyMs
        (freshPort.getPresentationPositionAidl (some lateHeadset) startedSession) = 220 ∧
      ¬ PresentsLatency startedSession.isSessionReady (some lateHeadset)
        (startedSession.getPresentationPosition (some lateHeadset) default)
        (freshPort.getPresentationPositionAidl (some lateHeadset) startedSession)
        (quietStream freshPort) := by
  refine ⟨by decide, by decide, fun h => ?_⟩
  have hflag := h.presents.flag.2 ⟨by decide, rfl⟩
  rw [getPresentationPosition_fst] at hflag
  cases hflag

end TrebleDoze.Bluetooth
