import TrebleDoze.Bluetooth.Presentation

/-!
# The frames that have been presented

`out_calculate_feeding_delay_ms` and `in_calculate_starving_delay_ms` take the counter of the stack, or
that of the HAL where the two are too far apart, and subtract the frames of the delay from it. The first
works on words without a sign; the second stores them in ones with a sign on the way.

* `framePosition`: the calculation on numbers, and `framePosition64_toNat` that the words follow it;
* `frames_bounds`: the position is between one and two delays behind the counter of the HAL;
* `presented_le_iff`: when the position of an output stream does not go back, also when the session has
  been configured for other frames in between.
-/

namespace TrebleDoze.Bluetooth

def ENOSYS : ℤ := 38

/-! ### The calculation -/

/-- The frames that have been presented, of those that the HAL has counted and the stack has counted,
with a latency in frames. -/
def framePosition (presented counted latency : ℕ) : ℕ :=
  (if presented < counted then presented
    else if latency < presented - counted then presented
    else counted) - latency

/-- The calculation on words. -/
def framePosition64 (presented counted latencyFrames : UInt64) : UInt64 :=
  let frames :=
    if presented < counted then presented
    else if latencyFrames < presented - counted then presented
    else counted
  if latencyFrames < frames then frames - latencyFrames else 0

section

variable {presented counted latency : ℕ}

theorem framePosition_le : framePosition presented counted latency ≤ presented - latency := by
  unfold framePosition
  split_ifs <;> omega

/-- The counter of the stack is used when it is one latency behind at most. -/
theorem le_framePosition : presented - 2 * latency ≤ framePosition presented counted latency := by
  unfold framePosition
  split_ifs <;> omega

end

/-- The words do not wrap around. -/
theorem framePosition64_toNat (presented counted latencyFrames : UInt64) :
    (framePosition64 presented counted latencyFrames).toNat =
      framePosition presented.toNat counted.toNat latencyFrames.toNat := by
  have hsub (frames : UInt64) :
      (if latencyFrames < frames then frames - latencyFrames else 0).toNat =
        frames.toNat - latencyFrames.toNat := by
    split_ifs with hlt
    · exact UInt64.toNat_sub_of_le _ _ (UInt64.le_of_lt hlt)
    · exact (Nat.sub_eq_zero_of_le (UInt64.le_iff_toNat_le.1 (UInt64.not_lt.1 hlt))).symm
  rw [framePosition64, hsub, framePosition]
  by_cases hreset : presented < counted
  · rw [if_pos hreset, if_pos (UInt64.lt_iff_toNat_lt.1 hreset)]
  · have hle := UInt64.not_lt.1 hreset
    rw [if_neg hreset, if_neg (fun h => hreset (UInt64.lt_iff_toNat_lt.2 h))]
    simp only [UInt64.lt_iff_toNat_lt, UInt64.toNat_sub_of_le _ _ hle]
    split_ifs <;> rfl

/-! ### The streams -/

namespace OutStream

/-- `delay_report_ms` of `out_calculate_feeding_delay_ms`. -/
def delayReportMs (getPresentationPosition : PresentationPosition → Bool × PresentationPosition)
    (out : OutStream) : UInt64 :=
  let (ok, position) := getPresentationPosition default
  let reportMs := position.remoteDeviceAudioDelayNanos / 1000000
  if ok && decide (kMinimumDelayMs < reportMs) && decide (reportMs < kMaximumDelayMs) then reportMs
  else out.legacyDelayMs

/-- The frames that the stack has absorbed. -/
def absorbedFrames (getPresentationPosition : PresentationPosition → Bool × PresentationPosition)
    (out : OutStream) : UInt64 :=
  (getPresentationPosition default).2.transmittedOctets / UInt64.ofNat out.frameSize

/-- `out_get_presentation_position`, with the pointers given or not. -/
def outGetPresentationPosition
    (getPresentationPosition : PresentationPosition → Bool × PresentationPosition) (now : TimeSpec)
    (given : Bool) (out : OutStream) : ℤ × Option (UInt64 × TimeSpec) :=
  if !given then (-EINVAL, none)
  else
    let delay := out.calculateFeedingDelayMs getPresentationPosition now
    (0, some (delay.frames, delay.timestamp))

end OutStream

/-- What `in_calculate_starving_delay_ms` works out. -/
structure StarvingDelay where
  frames : Int64
  time : Int64
  deriving DecidableEq

namespace BluetoothStreamIn

/-- `delay_report_ms` of `in_calculate_starving_delay_ms`. -/
def delayReportMs (getPresentationPosition : PresentationPosition → Bool × PresentationPosition) :
    UInt64 :=
  (getPresentationPosition default).2.remoteDeviceAudioDelayNanos / 1000000

/-- `in_calculate_starving_delay_ms`; a comparison of a word with a sign and one without takes both as
ones without. -/
def calculateStarvingDelayMs
    (getPresentationPosition : PresentationPosition → Bool × PresentationPosition)
    (sampleRate : UInt32) (i : BluetoothStreamIn) : StarvingDelay :=
  let position := (getPresentationPosition default).2
  let latencyFrames := delayReportMs getPresentationPosition * sampleRate.toUInt64 / 1000
  let presented := UInt64.ofNat i.framesPresented
  let frames := (position.transmittedOctets / UInt64.ofNat i.frameSize).toInt64
  let frames :=
    if presented < frames.toUInt64 then presented.toInt64
    else if latencyFrames < presented - frames.toUInt64 then presented.toInt64
    else frames
  { frames := if latencyFrames < frames.toUInt64 then (frames.toUInt64 - latencyFrames).toInt64 else 0
    time := position.transmittedOctetsTimestamp.us }

/-- `in_get_capture_position`, with the pointers given or not. -/
def inGetCapturePosition
    (getPresentationPosition : PresentationPosition → Bool × PresentationPosition)
    (sampleRate : UInt32) (given : Bool) (i : BluetoothStreamIn) : ℤ × Option StarvingDelay :=
  if !given then (-EINVAL, none)
  else if i.bluetoothInput.state = .standby then (-ENOSYS, none)
  else (0, some (i.calculateStarvingDelayMs getPresentationPosition sampleRate))

end BluetoothStreamIn

section

variable (getPresentationPosition : PresentationPosition → Bool × PresentationPosition)

theorem calculateFeedingDelayMs_frames (now : TimeSpec) (out : OutStream) :
    (out.calculateFeedingDelayMs getPresentationPosition now).frames =
      framePosition64 (UInt64.ofNat out.framesPresented) (out.absorbedFrames getPresentationPosition)
        (out.delayReportMs getPresentationPosition * out.sampleRate.toUInt64 / 1000) := rfl

/-- The conversions to words with a sign and back leave the bits as they are. -/
theorem calculateStarvingDelayMs_frames (sampleRate : UInt32) (i : BluetoothStreamIn) :
    (i.calculateStarvingDelayMs getPresentationPosition sampleRate).frames =
      (framePosition64 (UInt64.ofNat i.framesPresented)
        ((getPresentationPosition default).2.transmittedOctets / UInt64.ofNat i.frameSize)
        (BluetoothStreamIn.delayReportMs getPresentationPosition * sampleRate.toUInt64 / 1000)).toInt64 := by
  unfold BluetoothStreamIn.calculateStarvingDelayMs framePosition64
  simp only [UInt64.toUInt64_toInt64, apply_ite Int64.toUInt64, apply_ite UInt64.toInt64]
  rfl

end

/-! ### How far behind the HAL -/

/-- The position is between one and two latencies behind the counter of the HAL, or at zero. -/
structure BehindHal (presented latency : ℕ) (frames : ℤ) : Prop where
  lower : max 0 ((presented : ℤ) - 2 * latency) ≤ frames
  upper : frames ≤ max 0 ((presented : ℤ) - latency)

theorem behindHal_framePosition (presented counted latency : ℕ) :
    BehindHal presented latency (framePosition presented counted latency) := by
  have hle : framePosition presented counted latency ≤ presented - latency := framePosition_le
  have hge : presented - 2 * latency ≤ framePosition presented counted latency := le_framePosition
  constructor <;> omega

theorem latencyFrames_toNat {delayMs : UInt64} {sampleRate : UInt32}
    (h : delayMs.toNat * sampleRate.toNat < UInt64.size) :
    (delayMs * sampleRate.toUInt64 / 1000).toNat = delayMs.toNat * sampleRate.toNat / 1000 := by
  rw [UInt64.toNat_div, UInt64.toNat_mul, UInt32.toNat_toUInt64, Nat.mod_eq_of_lt h]
  rfl

theorem toInt_toInt64 {w : UInt64} (h : (w.toNat : ℤ) ≤ Int64.maxValue.toInt) :
    w.toInt64.toInt = w.toNat := by
  have hlt : w.toNat < 9223372036854775808 := by
    rw [show Int64.maxValue.toInt = 9223372036854775807 from rfl] at h
    omega
  exact BitVec.toInt_eq_toNat_of_lt (x := w.toBitVec) (by rw [UInt64.toNat_toBitVec]; omega)

section

variable {getPresentationPosition : PresentationPosition → Bool × PresentationPosition}

theorem behindHal_feeding (now : TimeSpec) {out : OutStream} (hout : out.framesPresented < UInt64.size)
    (hdelay : (out.delayReportMs getPresentationPosition).toNat * out.sampleRate.toNat < UInt64.size) :
    BehindHal out.framesPresented
      ((out.delayReportMs getPresentationPosition).toNat * out.sampleRate.toNat / 1000)
      (out.calculateFeedingDelayMs getPresentationPosition now).frames.toNat := by
  rw [calculateFeedingDelayMs_frames, framePosition64_toNat, latencyFrames_toNat hdelay,
    UInt64.toNat_ofNat_of_lt' hout]
  exact behindHal_framePosition ..

theorem behindHal_starving {i : BluetoothStreamIn} {sampleRate : UInt32}
    (hin : (i.framesPresented : ℤ) ≤ Int64.maxValue.toInt)
    (hdelay : (BluetoothStreamIn.delayReportMs getPresentationPosition).toNat * sampleRate.toNat <
      UInt64.size) :
    BehindHal i.framesPresented
      ((BluetoothStreamIn.delayReportMs getPresentationPosition).toNat * sampleRate.toNat / 1000)
      (i.calculateStarvingDelayMs getPresentationPosition sampleRate).frames.toInt := by
  have hsize : i.framesPresented < UInt64.size := by
    rw [show Int64.maxValue.toInt = 9223372036854775807 from rfl] at hin
    rw [show UInt64.size = 18446744073709551616 from rfl]
    omega
  have hframes := framePosition64_toNat (UInt64.ofNat i.framesPresented)
    ((getPresentationPosition default).2.transmittedOctets / UInt64.ofNat i.frameSize)
    (BluetoothStreamIn.delayReportMs getPresentationPosition * sampleRate.toUInt64 / 1000)
  rw [latencyFrames_toNat hdelay, UInt64.toNat_ofNat_of_lt' hsize] at hframes
  have hbehind := behindHal_framePosition i.framesPresented
    ((getPresentationPosition default).2.transmittedOctets / UInt64.ofNat i.frameSize).toNat
    ((BluetoothStreamIn.delayReportMs getPresentationPosition).toNat * sampleRate.toNat / 1000)
  rw [← hframes] at hbehind
  rwa [calculateStarvingDelayMs_frames, toInt_toInt64 (Int.le_trans hbehind.upper (by omega))]

theorem behindHal_of_inGetCapturePosition {i : BluetoothStreamIn} {sampleRate : UInt32} {given : Bool}
    {status : ℤ} {delay : StarvingDelay} (hin : (i.framesPresented : ℤ) ≤ Int64.maxValue.toInt)
    (hdelay : (BluetoothStreamIn.delayReportMs getPresentationPosition).toNat * sampleRate.toNat <
      UInt64.size)
    (h : i.inGetCapturePosition getPresentationPosition sampleRate given = (status, some delay)) :
    BehindHal i.framesPresented
      ((BluetoothStreamIn.delayReportMs getPresentationPosition).toNat * sampleRate.toNat / 1000)
      delay.frames.toInt := by
  unfold BluetoothStreamIn.inGetCapturePosition at h
  split_ifs at h
  · cases congrArg Prod.snd h
  · cases congrArg Prod.snd h
  · obtain rfl := Option.some.inj (congrArg Prod.snd h)
    exact behindHal_starving hin hdelay

end

/-- **The position of an output and of an input stream**, for any counters of the stack: between one and
two latencies behind what the HAL has counted, and not below zero. -/
theorem frames_bounds (getPresentationPosition : PresentationPosition → Bool × PresentationPosition)
    (now : TimeSpec) (out : OutStream) (i : BluetoothStreamIn) (sampleRate : UInt32)
    (hout : out.framesPresented < UInt64.size)
    (houtDelay : (out.delayReportMs getPresentationPosition).toNat * out.sampleRate.toNat < UInt64.size)
    (hin : (i.framesPresented : ℤ) ≤ Int64.maxValue.toInt)
    (hinDelay : (BluetoothStreamIn.delayReportMs getPresentationPosition).toNat * sampleRate.toNat <
      UInt64.size) :
    BehindHal out.framesPresented
        ((out.delayReportMs getPresentationPosition).toNat * out.sampleRate.toNat / 1000)
        (out.calculateFeedingDelayMs getPresentationPosition now).frames.toNat ∧
      BehindHal i.framesPresented
        ((BluetoothStreamIn.delayReportMs getPresentationPosition).toNat * sampleRate.toNat / 1000)
        (i.calculateStarvingDelayMs getPresentationPosition sampleRate).frames.toInt :=
  ⟨behindHal_feeding now hout houtDelay, behindHal_starving hin hinDelay⟩

/-- The late headset, an output stream at 5000 frames and an input stream at 100. -/
theorem frames_bounds_late :
    BehindHal 5000 9600
        (({ quietStream freshPort with framesPresented := 5000 } : OutStream).calculateFeedingDelayMs
          (fun _ => (true, lateHeadset)) default).frames.toNat ∧
      BehindHal 100 3200
        ((⟨freshPort, 100, 2⟩ : BluetoothStreamIn).calculateStarvingDelayMs
          (fun _ => (true, lateHeadset)) 16000).frames.toInt :=
  frames_bounds (fun _ => (true, lateHeadset)) default
    { quietStream freshPort with framesPresented := 5000 } ⟨freshPort, 100, 2⟩ 16000 (by decide)
    (by decide) (by decide) (by decide)

/-! ### Two queries -/

/-- Of two queries, the first took the counter of the HAL, because that of the stack was more than a
latency behind, and the second takes that of the stack, which has come near enough and is still below
where the HAL was. -/
def CatchesUp (presented₁ counted₁ presented₂ counted₂ latency : ℕ) : Prop :=
  latency < presented₁ - counted₁ ∧ counted₂ ≤ presented₂ ∧ presented₂ - counted₂ ≤ latency ∧
    counted₂ < presented₁

/-- Of two queries, the first took the lower of the two counters, which was more than the latency, and the
second takes that of the stack, which is below it: the bytes of the stack are fewer frames by now. -/
def Recounts (presented₁ counted₁ presented₂ counted₂ latency : ℕ) : Prop :=
  presented₁ - counted₁ ≤ latency ∧ counted₂ ≤ presented₂ ∧ presented₂ - counted₂ ≤ latency ∧
    counted₂ < min presented₁ counted₁ ∧ latency < min presented₁ counted₁

theorem framePosition_le_iff {presented₁ counted₁ presented₂ counted₂ latency : ℕ}
    (hpresented : presented₁ ≤ presented₂) :
    framePosition presented₁ counted₁ latency ≤ framePosition presented₂ counted₂ latency ↔
      ¬CatchesUp presented₁ counted₁ presented₂ counted₂ latency ∧
        ¬Recounts presented₁ counted₁ presented₂ counted₂ latency := by
  unfold framePosition CatchesUp Recounts
  split_ifs <;> omega

/-- The second query of a stream: neither of the counters has gone back, and the delay is the same. The
session may have been configured anew, for frames of another size. -/
structure SecondQuery
    (getPresentationPosition₁ getPresentationPosition₂ : PresentationPosition →
      Bool × PresentationPosition) (out₁ out₂ : OutStream) : Prop where
  sampleRate : out₂.sampleRate = out₁.sampleRate
  delay : out₂.delayReportMs getPresentationPosition₂ = out₁.delayReportMs getPresentationPosition₁
  presented : out₁.framesPresented ≤ out₂.framesPresented
  presented_lt : out₂.framesPresented < UInt64.size
  absorbed : (getPresentationPosition₁ default).2.transmittedOctets ≤
    (getPresentationPosition₂ default).2.transmittedOctets

section

variable {getPresentationPosition₁ getPresentationPosition₂ : PresentationPosition →
  Bool × PresentationPosition} {out₁ out₂ : OutStream}

theorem SecondQuery.absorbedFrames_le (h : SecondQuery getPresentationPosition₁ getPresentationPosition₂
      out₁ out₂) (hsize : out₂.frameSize = out₁.frameSize) :
    (out₁.absorbedFrames getPresentationPosition₁).toNat ≤
      (out₂.absorbedFrames getPresentationPosition₂).toNat := by
  rw [OutStream.absorbedFrames, OutStream.absorbedFrames, hsize, UInt64.toNat_div, UInt64.toNat_div]
  exact Nat.div_le_div_right (UInt64.le_iff_toNat_le.1 h.absorbed)

/-- **When the position of an output stream does not go back** between two queries: unless the counter
of the stack catches up with the HAL in between, or its bytes are counted in larger frames, which those of
a stream whose frames stay as they are never are. -/
theorem presented_le_iff (h : SecondQuery getPresentationPosition₁ getPresentationPosition₂ out₁ out₂)
    {now₁ now₂ : TimeSpec} {frames₁ frames₂ : UInt64} {timestamp₁ timestamp₂ : TimeSpec}
    (h₁ : out₁.outGetPresentationPosition getPresentationPosition₁ now₁ true =
      (0, some (frames₁, timestamp₁)))
    (h₂ : out₂.outGetPresentationPosition getPresentationPosition₂ now₂ true =
      (0, some (frames₂, timestamp₂))) :
    let counted₁ := (out₁.absorbedFrames getPresentationPosition₁).toNat
    let counted₂ := (out₂.absorbedFrames getPresentationPosition₂).toNat
    let latency := (out₁.delayReportMs getPresentationPosition₁ * out₁.sampleRate.toUInt64 / 1000).toNat
    (frames₁ ≤ frames₂ ↔
      ¬CatchesUp out₁.framesPresented counted₁ out₂.framesPresented counted₂ latency ∧
        ¬Recounts out₁.framesPresented counted₁ out₂.framesPresented counted₂ latency) ∧
      (out₂.frameSize = out₁.frameSize →
        ¬Recounts out₁.framesPresented counted₁ out₂.framesPresented counted₂ latency) := by
  intro counted₁ counted₂ latency
  have hframes₁ : (out₁.calculateFeedingDelayMs getPresentationPosition₁ now₁).frames = frames₁ :=
    congrArg (·.1) (Option.some.inj (congrArg Prod.snd h₁))
  have hframes₂ : (out₂.calculateFeedingDelayMs getPresentationPosition₂ now₂).frames = frames₂ :=
    congrArg (·.1) (Option.some.inj (congrArg Prod.snd h₂))
  constructor
  · rw [← hframes₁, ← hframes₂, UInt64.le_iff_toNat_le, calculateFeedingDelayMs_frames,
      calculateFeedingDelayMs_frames, framePosition64_toNat, framePosition64_toNat, h.delay, h.sampleRate,
      UInt64.toNat_ofNat_of_lt' h.presented_lt,
      UInt64.toNat_ofNat_of_lt' (Nat.lt_of_le_of_lt h.presented h.presented_lt)]
    exact framePosition_le_iff h.presented
  · rintro hsize ⟨-, -, -, hless, -⟩
    have hle : counted₁ ≤ counted₂ := h.absorbedFrames_le hsize
    omega

end

/-- A stack that has absorbed the bytes, 51 ms before the headset plays them: 2448 frames at 48 kHz. -/
def absorbing (bytes : UInt64) : PresentationPosition → Bool × PresentationPosition :=
  fun _ => (true, ⟨51000000, bytes, default⟩)

/-- A stream that has handed over 5000 frames. -/
def feedingStream : OutStream := { quietStream freshPort with framesPresented := 5000 }

/-- The stack goes from 3000 frames to 4000: the second position is 1000 frames further on. -/
theorem presented_le_iff_near :
    feedingStream.outGetPresentationPosition (absorbing 12000) default true =
        (0, some (552, default)) ∧
      feedingStream.outGetPresentationPosition (absorbing 16000) default true =
        (0, some (1552, default)) ∧
      (552 : UInt64) ≤ 1552 := by
  have hquery : SecondQuery (absorbing 12000) (absorbing 16000) feedingStream feedingStream :=
    ⟨rfl, rfl, Nat.le_refl _, by decide, by decide⟩
  have h₁ : feedingStream.outGetPresentationPosition (absorbing 12000) default true =
      (0, some (552, default)) := rfl
  have h₂ : feedingStream.outGetPresentationPosition (absorbing 16000) default true =
      (0, some (1552, default)) := rfl
  obtain ⟨hiff, hsize⟩ := presented_le_iff hquery h₁ h₂
  exact ⟨h₁, h₂, hiff.2 ⟨fun h => absurd h.1 (by decide), hsize rfl⟩⟩

/-- The stack was reset and has absorbed 1000 frames, then 3000: the position goes from 2552 to 552. Or it
has absorbed 16000 bytes in frames of four, then 20800 in frames of eight: it goes from 1552 to 152. -/
theorem presented_goes_back :
    (SecondQuery (absorbing 4000) (absorbing 12000) feedingStream feedingStream ∧
      feedingStream.outGetPresentationPosition (absorbing 4000) default true =
        (0, some (2552, default)) ∧
      feedingStream.outGetPresentationPosition (absorbing 12000) default true =
        (0, some (552, default)) ∧
      ¬(2552 : UInt64) ≤ 552) ∧
    SecondQuery (absorbing 16000) (absorbing 20800) feedingStream
        { feedingStream with frameSize := 8 } ∧
      feedingStream.outGetPresentationPosition (absorbing 16000) default true =
        (0, some (1552, default)) ∧
      OutStream.outGetPresentationPosition (absorbing 20800) default true
          { feedingStream with frameSize := 8 } = (0, some (152, default)) ∧
      ¬(1552 : UInt64) ≤ 152 :=
  ⟨⟨⟨rfl, rfl, Nat.le_refl _, by decide, by decide⟩, rfl, rfl, by decide⟩,
    ⟨rfl, rfl, Nat.le_refl _, by decide, by decide⟩, rfl, rfl, by decide⟩

end TrebleDoze.Bluetooth
