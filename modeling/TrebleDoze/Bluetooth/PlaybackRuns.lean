import TrebleDoze.Bluetooth.PlaybackStages

/-!
# What the client is told has been written

The runs of `Playback.lts` on the three kinds of devices.

* `PlaybackInv`, `PlaybackInv.step`: what has been disposed of is what the client has been told of, and a part
  of the audio in hand;
* `acknowledged_is_enqueued`: so the client is told of what has been enqueued or dropped, and of nothing else.
-/

namespace TrebleDoze.Bluetooth

open TrebleDoze.Lib
open Audio.StreamOut (WriteCommand writeThread)

namespace Playback

section

variable {σ χ ψ : Type} {D : PlaybackDevice σ χ ψ} {s s' : Playback σ} {current : List UInt8}
  {w : PcmWorld σ UInt8} {c : PcmCalls σ UInt8} {os : List (PcmCalls.Event UInt8)} {i j : ℕ}
  {a : Audio.Act WriteCommand} {es : List Event}

/-! ### The invariant -/

variable (D) in
/-- What is known of the stream of the legacy HAL. -/
structure HalOk (s : StreamSystem σ) : Prop where
  software : D.pcm.Software s.session
  opened : StreamSystem.OpenInv D.isA2dp s
  closed : Closed s

theorem HalOk.step {s s' : StreamSystem σ} (h : HalOk D s) {a : StreamSystem.Act χ}
    {os : List StreamSystem.Event} (hs : halStep D s a = some (s', os)) : HalOk D s' :=
  ⟨software_step h.software hs, h.opened.step hs, closed_step h.closed hs⟩

variable (D) in
/-- The three streams of events fit together: what has been disposed of is what the client has been told of,
and what has been disposed of the audio in hand. -/
structure PlaybackInv (w : PcmWorld σ UInt8) (tr : List Event) (s : Playback σ) : Prop where
  fast : FastOk (tr.filterMap Event.audio?) s.audio
  calls : CallsOk D w (tr.filterMap Event.pcm?) s.pcm
  hal : HalOk D s.stream
  stage : ∃ current, tr.flatMap Event.disposed = tr.flatMap (Event.acknowledged D) ++ current ∧
    Stage D (tr.filterMap Event.pcm?) s current

variable {tr : List Event}

theorem PlaybackInv.audio (h : PlaybackInv D w tr s) (hs : s.stepAudio D a = some (s', es)) :
    PlaybackInv D w (tr ++ es) s' := by
  obtain ⟨p', fs, hstep, rfl, haudio⟩ := audioStep_of_step hs
  have hf : (fs.map Event.audio).filterMap Event.audio? = fs := by
    rw [List.filterMap_map]
    exact List.filterMap_some
  have hp : (fs.map Event.audio).filterMap Event.pcm? = [] := by
    rw [List.filterMap_map]
    exact List.filterMap_eq_nil_iff.2 fun _ _ => rfl
  have hd : (fs.map Event.audio).flatMap Event.disposed = [] := by
    rw [List.flatMap_map]
    exact List.flatMap_eq_nil_iff.2 fun _ _ => rfl
  have hkept : HalOk D s'.stream ∧ s'.audio = p' ∧ s'.rings = s.rings ∧ s'.calls = s.calls ∧
      s'.begun = s.begun := by
    generalize joint s.audio a = j at haudio
    cases haudio with
    | alone => exact ⟨h.hal, rfl, rfl, rfl, rfl⟩
    | returns => exact ⟨h.hal, rfl, rfl, rfl, rfl⟩
    | calls buffer stream os hhal => exact ⟨h.hal.step hhal, rfl, rfl, rfl, rfl⟩
    | closes stream os hhal => exact ⟨h.hal.step hhal, rfl, rfl, rfl, rfl⟩
  obtain ⟨hhal, haudio', hrings, hcalls, hbegun⟩ := hkept
  refine ⟨?_, ?_, hhal, ?_⟩
  · rw [List.filterMap_append, hf, haudio']
    exact h.fast.step (Audio.FastPath.writeThread_serves true) trivial hstep
  · rw [List.filterMap_append, hp, List.append_nil]
    exact callsOk_congr h.calls hhal.software hrings hcalls hbegun
  · obtain ⟨current, heq, hstage⟩ := h.stage
    rw [List.flatMap_append, List.flatMap_append, List.filterMap_append, hp, hd, List.append_nil,
      List.append_nil]
    by_cases ha : ∃ env, a = .thread env
    · obtain ⟨env, rfl⟩ := ha
      obtain ⟨current', rfl, hstage'⟩ := hstage.thread h.fast hs
      exact ⟨current', by rw [heq, List.append_assoc], hstage'⟩
    · obtain ⟨hnil, hstage'⟩ := hstage.client (fun env he => ha ⟨env, he⟩) hs
      rw [hnil]
      exact ⟨current, by rw [heq]; simp, hstage'⟩

theorem PlaybackInv.legacy (h : PlaybackInv D w tr s) {a : StreamSystem.Act χ}
    (hs : s.stepHal D a = some (s', es)) : PlaybackInv D w (tr ++ es) s' := by
  obtain ⟨stream, os, ha, hhal, rfl, rfl⟩ := stepHal_cases hs
  have hdrops : (s.drops D a).filterMap Event.audio? = [] ∧ (s.drops D a).filterMap Event.pcm? = [] ∧
      (s.drops D a).flatMap (Event.acknowledged D) = [] := by
    unfold drops
    split
    · split_ifs <;> exact ⟨rfl, rfl, rfl⟩
    · exact ⟨rfl, rfl, rfl⟩
  have hhal' := h.hal.step hhal
  refine ⟨?_, ?_, hhal', ?_⟩
  · rw [List.filterMap_append, hdrops.1, List.append_nil]
    exact h.fast
  · rw [List.filterMap_append, hdrops.2.1, List.append_nil]
    exact callsOk_congr h.calls hhal'.software rfl rfl rfl
  · obtain ⟨current, heq, hstage⟩ := h.stage
    refine ⟨current ++ (s.drops D a).flatMap Event.disposed, ?_, ?_⟩
    · rw [List.flatMap_append, List.flatMap_append, hdrops.2.2, List.append_nil, heq, List.append_assoc]
    · rw [List.filterMap_append, hdrops.2.1, List.append_nil]
      exact hstage.hal (writerStep_of_hal h.hal.closed ha hhal)

variable (D) in
/-- What a step of the data path leaves as it is, and what it shows. -/
structure MovedBy (own : Bool) (c : PcmCalls σ UInt8) (os : List (PcmCalls.Event UInt8)) (s s' : Playback σ)
    (es : List Event) : Prop where
  events : es = os.map (Event.pcm own)
  audio : s'.audio = s.audio
  hal : HalOk D s.stream → HalOk D s'.stream
  rings : s'.rings = c.world.rings
  calls : s'.calls = c.calls
  begun : s'.begun = c.begun

theorem movedBy_of_moves {own : Bool} (hs : s.moves D own (c, os) = some (s', es)) :
    MovedBy D own c os s s' es := by
  obtain ⟨rfl, hmoved⟩ := moved_of_moves hs
  cases hmoved with
  | alone => exact ⟨rfl, rfl, id, rfl, rfl, rfl⟩
  | returns n stream os' _ hhal => exact ⟨rfl, rfl, fun h => h.step hhal, rfl, rfl, rfl⟩

theorem PlaybackInv.moves {own : Bool} (h : PlaybackInv D w tr s)
    (hc' : CallsOk D w (tr.filterMap Event.pcm? ++ os) c) {s₀ : Playback σ}
    (hs : s₀.moves D own (c, os) = some (s', es)) (haudio : s₀.audio = s.audio)
    (hstream : s₀.stream = s.stream)
    (hstage : ∀ current, Stage D (tr.filterMap Event.pcm?) s current →
      Stage D (tr.filterMap Event.pcm? ++ os) s' (current ++ es.flatMap Event.disposed)) :
    PlaybackInv D w (tr ++ es) s' := by
  obtain ⟨rfl, haudio', hhal, hrings, hcalls, hbegun⟩ := movedBy_of_moves hs
  have hf : (os.map (Event.pcm own)).filterMap Event.audio? = [] := by
    rw [List.filterMap_map]
    exact List.filterMap_eq_nil_iff.2 fun _ _ => rfl
  have hp : (os.map (Event.pcm own)).filterMap Event.pcm? = os := by
    rw [List.filterMap_map]
    exact List.filterMap_some
  have ha : (os.map (Event.pcm own)).flatMap (Event.acknowledged D) = [] := by
    rw [List.flatMap_map]
    exact List.flatMap_eq_nil_iff.2 fun _ _ => rfl
  have hhal' : HalOk D s'.stream := hhal (hstream ▸ h.hal)
  refine ⟨?_, ?_, hhal', ?_⟩
  · rw [List.filterMap_append, hf, List.append_nil, haudio', haudio]
    exact h.fast
  · rw [List.filterMap_append, hp]
    exact callsOk_congr hc' hhal'.software hrings hcalls hbegun
  · obtain ⟨current, heq, hst⟩ := h.stage
    refine ⟨current ++ (os.map (Event.pcm own)).flatMap Event.disposed, ?_, ?_⟩
    · rw [List.flatMap_append, List.flatMap_append, ha, List.append_nil, heq, List.append_assoc]
    · rw [List.filterMap_append, hp]
      exact hstage current hst

theorem PlaybackInv.others (h : PlaybackInv D w tr s)
    (hc' : CallsOk D w (tr.filterMap Event.pcm? ++ os) c) (hos : ∀ e ∈ os, e.call = j)
    (hj : s.own ≠ some j) (hs : s.moves D false (c, os) = some (s', es)) :
    PlaybackInv D w (tr ++ es) s' := by
  refine h.moves hc' hs rfl rfl fun current hst => ?_
  obtain ⟨rfl, rfl⟩ := Prod.mk.inj (Option.some.inj hs)
  have hnone : (os.map (Event.pcm false)).flatMap Event.disposed = [] := by
    rw [List.flatMap_map]
    exact List.flatMap_eq_nil_iff.2 fun _ _ => rfl
  rw [hnone, List.append_nil]
  exact hst.others h.calls hc' hos hj

/-- `out_write` makes a call only from its last point before `WriteData`. -/
theorem Stage.of_own {tr : List (PcmCalls.Event UInt8)} (h : Stage D tr s current) (hown : s.own = some i) :
    s.InWrite ∧ s.stream.writers = [(0, ⟨s.buffer.length, .ready⟩)] ∧ s.result = none ∧
      (∃ c, s.calls.find i = some c) ∧ .begun i (D.formed s.buffer) ∈ tr ∧
      current = PcmCalls.chunksBy i tr := by
  cases h with
  | away _ _ _ hnone | replying _ _ _ _ hnone | returned _ _ _ hnone => cases hown.symm.trans hnone
  | inside point current hin hw hres hpt =>
    cases point with
    | entered | refused | written | sleeping => cases hown.symm.trans hpt.1
    | ready =>
      rcases hpt with ⟨hnone, -⟩ | ⟨k, c, hown', hfind, hbegun, rfl⟩
      · cases hown.symm.trans hnone
      · obtain rfl : i = k := Option.some.inj (hown.symm.trans hown')
        exact ⟨hin, hw, hres, ⟨c, hfind⟩, hbegun, rfl⟩

theorem PlaybackInv.callsOk_iterate (h : PlaybackInv D w tr s) {d : PcmCall UInt8}
    (hfind : s.calls.find i = some d) (between : List (ℕ × ℕ)) : CallsOk D w
      (tr.filterMap Event.pcm? ++ (s.pcm.iterate D.pcm (Endpoint.writer UInt8) kWritePollMs i d between).2)
      (s.pcm.iterate D.pcm (Endpoint.writer UInt8) kWritePollMs i d between).1 := by
  have hstep : PcmCalls.step D.pcm (Endpoint.writer UInt8) kFmqSendTimeoutMs kWritePollMs s.pcm
      (.iterate i between) =
      some (s.pcm.iterate D.pcm (Endpoint.writer UInt8) kWritePollMs i d between) := by
    show (s.calls.find i).map _ = _
    rw [hfind]
    rfl
  exact PcmCalls.callsInv_step (fun _ => rfl) (fun hm hb => (Endpoint.buffer_writer hm).trans hb)
    (by decide) h.calls hstep

theorem PlaybackInv.iterate (h : PlaybackInv D w tr s) {between : List (ℕ × ℕ)} {d : PcmCall UInt8}
    (hfind : s.calls.find i = some d)
    (hs : s.moves D (s.own == some i)
      (s.pcm.iterate D.pcm (Endpoint.writer UInt8) kWritePollMs i d between) = some (s', es)) :
    PlaybackInv D w (tr ++ es) s' := by
  have hc' := h.callsOk_iterate hfind between
  have hos : ∀ e ∈ (s.pcm.iterate D.pcm (Endpoint.writer UInt8) kWritePollMs i d between).2, e.call = i :=
    PcmCalls.call_of_iterate
  generalize s.pcm.iterate D.pcm (Endpoint.writer UInt8) kWritePollMs i d between = r at hs hc' hos
  obtain ⟨c, os⟩ := r
  by_cases hown : s.own = some i
  · rw [hown, beq_self_eq_true] at hs
    refine h.moves hc' hs rfl rfl fun current hst => ?_
    obtain ⟨hin, hw, hres, -, hbegun, rfl⟩ := hst.of_own hown
    refine Stage.own hin hw hres hown h.hal.opened hc' (List.mem_append_left _ hbegun) ?_ hos hs
    intro n b hr
    cases hfind.symm.trans (h.calls.returned hr).1
  · rw [beq_eq_false_iff_ne.2 hown] at hs
    exact h.others hc' hos hown hs

theorem PlaybackInv.own_ne (h : PlaybackInv D w tr s) : s.own ≠ some s.begun := by
  intro hown
  obtain ⟨current, -, hst⟩ := h.stage
  exact absurd (h.calls.known (hst.of_own hown).2.2.2.2.1) (Nat.lt_irrefl _)

/-- The port of an open stream is in use, and `WriteData` goes on to `OutWritePcmData`. -/
theorem PlaybackInv.writeData_cases (h : PlaybackInv D w tr s) (hs : s.stepWriteData D = some (s', es)) :
    ∃ bytes, s.stream.writers.find 0 = some ⟨bytes, .ready⟩ ∧ s.own = none ∧
      ({ s with own := some s.begun } : Playback σ).moves D true
        (s.pcm.begin kFmqSendTimeoutMs (some (D.formed s.buffer))) = some (s', es) := by
  obtain ⟨out, bytes, hst, hfind, hown, ⟨huse, -⟩ | ⟨-, hs⟩⟩ := stepWriteData_cases hs
  · cases (h.hal.opened.inUse out hst).symm.trans huse
  · exact ⟨bytes, hfind, hown, hs⟩

theorem PlaybackInv.writeData (h : PlaybackInv D w tr s) (hs : s.stepWriteData D = some (s', es)) :
    PlaybackInv D w (tr ++ es) s' := by
  obtain ⟨bytes, hfind, hown, hs⟩ := h.writeData_cases hs
  have hc' := h.calls.begin (fun _ => rfl) (some (D.formed s.buffer))
  have hos : ∀ e ∈ (s.pcm.begin kFmqSendTimeoutMs (some (D.formed s.buffer))).2, e.call = s.begun :=
    PcmCalls.call_of_begin
  have hbegun : .begun s.begun (D.formed s.buffer) ∈
      (s.pcm.begin kFmqSendTimeoutMs (some (D.formed s.buffer))).2 := PcmCalls.begun_mem_begin
  generalize s.pcm.begin kFmqSendTimeoutMs (some (D.formed s.buffer)) = r at hs hc' hos hbegun
  obtain ⟨c, os⟩ := r
  refine h.moves hc' hs rfl rfl fun current hstage => ?_
  obtain ⟨-, -, hin, hw, hres, hpt⟩ := hstage.find hfind
  have hfresh : PcmCalls.chunksBy s.begun (tr.filterMap Event.pcm?) = [] :=
    (h.calls.fresh (Nat.le_refl s.begun)).1
  have hcurrent : current = PcmCalls.chunksBy s.begun (tr.filterMap Event.pcm?) := by
    rw [hfresh]
    rcases hpt with ⟨-, rfl⟩ | ⟨k, d, hown', -⟩
    · rfl
    · cases hown.symm.trans hown'
  rw [hcurrent]
  refine Stage.own (s := { s with own := some s.begun }) hin hw hres rfl h.hal.opened hc'
    (List.mem_append_right _ hbegun) ?_ hos hs
  intro n b hr
  obtain ⟨-, b', hb', -⟩ := h.calls.returned hr
  exact absurd (h.calls.known hb'.begun) (Nat.lt_irrefl _)

theorem PlaybackInv.peer (h : PlaybackInv D w tr s) (ring n : ℕ) :
    PlaybackInv D w (tr ++ []) (s.setPcm { s.pcm with
      world := s.pcm.world.interfere D.pcm (Endpoint.writer UInt8) (.peer ring n) }) := by
  have hstep : PcmCalls.step D.pcm (Endpoint.writer UInt8) kFmqSendTimeoutMs kWritePollMs s.pcm
      (.peer ring n) = some ({ s.pcm with
        world := s.pcm.world.interfere D.pcm (Endpoint.writer UInt8) (.peer ring n) }, []) := rfl
  have hc' : CallsOk D w (tr.filterMap Event.pcm? ++ []) _ :=
    PcmCalls.callsInv_step (fun _ => rfl) (fun hm hb => (Endpoint.buffer_writer hm).trans hb) (by decide)
      h.calls hstep
  rw [List.append_nil] at hc' ⊢
  obtain ⟨current, heq, hst⟩ := h.stage
  exact ⟨h.fast, callsOk_congr hc' h.hal.software rfl rfl rfl, h.hal, current, heq,
    hst.congr (.inl rfl) rfl rfl rfl rfl rfl rfl rfl⟩

/-- **Every step keeps the invariant.** -/
theorem PlaybackInv.step (h : PlaybackInv D w tr s) {a : Act χ} (hs : s.step D a = some (s', es)) :
    PlaybackInv D w (tr ++ es) s' := by
  cases a with
  | audio a => exact h.audio hs
  | hal a => exact h.legacy hs
  | writeData => exact h.writeData hs
  | begin buffer =>
    refine h.others (h.calls.begin (fun _ => rfl) buffer) PcmCalls.call_of_begin h.own_ne hs
  | iterate i between =>
    obtain ⟨d, hfind, hs⟩ := Option.bind_eq_some_iff.1 hs
    exact h.iterate hfind hs
  | peer ring n =>
    obtain ⟨rfl, rfl⟩ := Prod.mk.inj (Option.some.inj hs)
    exact h.peer ring n

theorem playbackInv_init (hw : D.pcm.Software w.session) : PlaybackInv D w [] (lts D w).init where
  fast := Audio.FastPath.fastInv_init
  calls := PcmCalls.callsInv_run (fun _ => rfl) (fun hm hb => (Endpoint.buffer_writer hm).trans hb)
    (by decide : 0 < kWritePollMs) hw .init
  hal := ⟨hw, ⟨fun _ ho => (by cases ho), fun _ ho => (by cases ho)⟩, fun _ => rfl⟩
  stage := ⟨[], rfl, .away (fun he => by cases he) (fun he => by cases he) rfl rfl rfl⟩

theorem playbackInv_run (hw : D.pcm.Software w.session) (h : (lts D w).Reach tr s) :
    PlaybackInv D w tr s :=
  h.inv (playbackInv_init hw) fun hi _ hs => hi.step hs

/-! ### What the client is told -/

end

end Playback

/-! ### The devices -/

/-- The HIDL session of a device without the AIDL service, on the data path. -/
def Hidl.BluetoothAudioSession.pcm : PcmControl Hidl.BluetoothAudioSession Hidl.BluetoothAudioSession.Call where
  isSessionReady s := s.isSessionReady
  dataMq s := s.dataMQ
  call s c := (s.call c).1
  Software s := s.sessionType.isSoftware = true
  software_call {s} c h := by rwa [s.sessionType_call]
  dataMq_of_ready {s} hs hr :=
    Hidl.DeviceSession.dataMQ_of_ready (κ := NoPayload) (s := .own s) hs hr

namespace PlaybackDevice

variable (κ : Tag → Type) (isA2dp isStereoToMono : Bool) (downmix : ℕ → List UInt8 → ℕ → UInt8)

/-- A stream of the AIDL port. -/
def aidl : PlaybackDevice (BluetoothAudioSession κ)
    { c : BluetoothAudioSession.Call κ // c.ofStack = true } (BluetoothAudioSession.Call κ) where
  control := SessionControl.aidl κ
  pcm := BluetoothAudioSession.pcm κ
  ends c := c.1.isEnd
  api := .aidl
  isA2dp := isA2dp
  isStereoToMono := isStereoToMono
  downmix := downmix
  software_call c h := (BluetoothAudioSession.pcm κ).software_call c.1 h
  software_register h := h
  software_unregister _ h := h

/-- A stream of the HIDL port, on a device with the AIDL service. -/
def hidlOverAidl : PlaybackDevice (BluetoothAudioSession κ)
    { c : BluetoothAudioSession.Call κ // c.ofStack = true } (BluetoothAudioSession.Call κ) where
  __ := aidl κ isA2dp isStereoToMono downmix
  control := SessionControl.hidlOverAidl κ
  api := .hidl
  software_call c h := (BluetoothAudioSession.pcm κ).software_call c.1 h
  software_register h := h
  software_unregister _ h := h

/-- A stream of the HIDL port, on a device without it. -/
def hidl : PlaybackDevice Hidl.BluetoothAudioSession Hidl.BluetoothAudioSession.Call
    Hidl.BluetoothAudioSession.Call where
  control := SessionControl.hidl
  pcm := Hidl.BluetoothAudioSession.pcm
  ends c := c == .onSessionEnded
  api := .hidl
  isA2dp := isA2dp
  isStereoToMono := isStereoToMono
  downmix := downmix
  software_call c h := Hidl.BluetoothAudioSession.pcm.software_call c h
  software_register h := h
  software_unregister _ h := h

end PlaybackDevice

/-- A queue of three bytes, on the session that the stack has started. -/
def threeBytes : PcmWorld (BluetoothAudioSession NoPayload) UInt8 where
  session := startedSession
  rings _ := .empty 3

/-- A stereo stream on it. -/
def threeBytesDevice : PlaybackDevice (BluetoothAudioSession NoPayload)
    { c : BluetoothAudioSession.Call NoPayload // c.ofStack = true } (BluetoothAudioSession.Call NoPayload) :=
  .aidl NoPayload true false fun _ _ _ => 0

/-- A step of `WriteThread`, to which `out_write` returns a number. -/
def writeThreadStep (result : ℕ) :
    Playback.Act { c : BluetoothAudioSession.Call NoPayload // c.ofStack = true } :=
  .audio (.thread (Audio.FastPath.answers result []))

/-- Four bytes go to the queue, with one of another stream among them; the stream is suspended, and the next
two are dropped. -/
def playsAndDrops : List (Playback.Act { c : BluetoothAudioSession.Call NoPayload // c.ofStack = true }) :=
  [.hal (.adevOpen quietConfig), .audio (.prepare 4 256 true), writeThreadStep 0,
    .audio (.putData [1, 2, 3, 4]), .audio (.putCommand .write), .audio .wake, writeThreadStep 0,
    writeThreadStep 0, writeThreadStep 0, .hal (.resume 0 (answered true .success)), .writeData,
    .iterate 0 [], .begin (some [9]), .peer 0 2, .iterate 1 [], .iterate 0 [], .hal (.count 0 100),
    writeThreadStep 4, writeThreadStep 0, .audio .takeStatus,
    .hal (.call (.setParameters none [("A2dpSuspended", "true")]) undisturbed), writeThreadStep 0,
    .audio (.putData [5, 6]), .audio (.putCommand .write), .audio .wake, writeThreadStep 0,
    writeThreadStep 0, writeThreadStep 0, .hal (.resume 0 undisturbed), .hal (.giveUp 0),
    writeThreadStep 2, writeThreadStep 0]

end TrebleDoze.Bluetooth
