import TrebleDoze.Bluetooth.StreamSystem
import TrebleDoze.Lib.Trace

/-!
# The frames that an output stream has presented

`frames_presented_` is to be the number of whole frames that the port has accepted since the stream was
opened.  `out_write` adds the frames it was given whenever `WriteData` accepts anything, and `closing` and
`exiting` reset the counter.

* `accepted`: the bytes that `WriteData` has accepted since the stream was opened;
* `Counts`: a write that adds to the counter adds the frames it completes, and nothing resets it;
* `kept_iff`: a step keeps the counter right and does not decrease it exactly when it meets this;
* `frames_presented_counted`: the counter in every run whose steps all do.
-/

namespace TrebleDoze.Bluetooth

open TrebleDoze.Lib

/-- Bytes on top of others complete the frame that these have left over. -/
theorem add_div_frames (counted bytes frameSize : ℕ) : (counted + bytes) / frameSize =
    counted / frameSize + (counted % frameSize + bytes) / frameSize := by
  rcases Nat.eq_zero_or_pos frameSize with rfl | hpos
  · simp
  · have hsplit : counted + bytes = frameSize * (counted / frameSize) + (counted % frameSize + bytes) := by
      have hdm := Nat.div_add_mod counted frameSize
      omega
    rw [hsplit, Nat.mul_add_div hpos]

namespace StreamSystem

/-- The bytes that `WriteData` accepts. -/
def Event.accepted : Event → ℕ
  | .writeData _ totalWritten => totalWritten
  | _ => 0

def Event.isOpened : Event → Bool
  | .opened => true
  | _ => false

/-- The bytes that `WriteData` has accepted since the stream was opened. -/
def accepted (tr : List Event) : ℕ := ((since Event.isOpened tr).map Event.accepted).sum

/-- Those of a write that has not counted them yet. -/
def uncounted (x : Writer) : ℕ :=
  match x.point with
  | .written totalWritten => totalWritten
  | _ => 0

/-- What `WriteData` has accepted makes, with the part of a frame left over before, as many frames as the
write was given. -/
def WholeFrames (counted frameSize : ℕ) (x : Writer) : Prop :=
  match x.point with
  | .written totalWritten =>
    totalWritten = 0 ∨ (counted % frameSize + totalWritten) / frameSize = x.bytes / frameSize
  | _ => True

instance (counted frameSize : ℕ) (x : Writer) : Decidable (WholeFrames counted frameSize x) := by
  unfold WholeFrames; split <;> infer_instance

section

variable {σ χ : Type} {S : SessionControl σ χ} {ends : χ → Bool} {api : Api} {isA2dp : Bool}
  {s s' : StreamSystem σ} {a : Act χ} {os tr : List Event}

/-- A write that counts has had whole frames accepted, and no parameter resets the counter once it
counts. -/
def Counts (s : StreamSystem σ) : Act χ → Prop
  | .call op _ => ∀ out ∈ s.stream, op.resets out = true → s.counted / out.frameSize = 0
  | .count i _ => ∀ out ∈ s.stream, ∀ x ∈ s.writers.find i, WholeFrames s.counted out.frameSize x
  | _ => True

instance (s : StreamSystem σ) (a : Act χ) : Decidable (Counts s a) := by
  unfold Counts; split <;> infer_instance

/-- The counter has not decreased, and is the number of whole frames counted. -/
def FramesKept (s s' : StreamSystem σ) : Prop :=
  ∀ out ∈ s.stream, ∀ out' ∈ s'.stream, out.framesPresented ≤ out'.framesPresented ∧
    out'.framesPresented = s'.counted / out'.frameSize

/-- The counter is the number of whole frames counted; what `WriteData` has accepted is counted, or has
yet to be. -/
structure CountInv (isA2dp : Bool) (tr : List Event) (s : StreamSystem σ) : Prop
    extends OpenInv isA2dp s where
  frames : ∀ out ∈ s.stream, out.framesPresented = s.counted / out.frameSize
  accepted : ∀ out ∈ s.stream, accepted tr = s.counted + s.writers.total uncounted

/-- A function that performs keeps the counter right exactly when it does not reset one that counts. -/
theorem kept_perform_iff (hi : CountInv isA2dp tr s) {op : StreamOp} {w : Around χ} {out : OutStream}
    {r : ℤ × StreamSystem σ} (hst : s.stream = some out) (hr : s.perform S ends op w out = some r)
    (hst' : s'.stream = r.2.stream) (hc' : s'.counted = r.2.counted) :
    FramesKept s s' ↔ (op.resets out = true → s.counted / out.frameSize = 0) := by
  have hframes := hi.frames out hst
  have hrun : (op.run S (w.request S s.session) out).2.framesPresented =
      if op.resets out then 0 else out.framesPresented := StreamOp.framesPresented_run (hi.inUse out hst)
  have hsame : out.Same (op.run S (w.request S s.session) out).2 := StreamOp.same_run
  unfold perform at hr
  split_ifs at hr
  obtain rfl := Option.some.inj hr
  have hkept : FramesKept s s' ↔ out.framesPresented ≤ (if op.resets out then 0 else out.framesPresented) ∧
      (if op.resets out then 0 else out.framesPresented) = s.counted / out.frameSize := by
    rw [← hrun]
    constructor
    · intro h
      have hk := h out hst _ hst'
      rwa [hc', hsame.frameSize] at hk
    · intro h o ho o' ho'
      obtain rfl := Option.some.inj (hst.symm.trans ho)
      obtain rfl := Option.some.inj (hst'.symm.trans ho')
      rwa [hc', hsame.frameSize]
  rw [hkept]
  cases hres : op.resets out with
  | false => simp [hframes]
  | true =>
    simp only [if_true, forall_const]
    constructor
    · intro h
      exact h.2.symm
    · intro h
      omega

/-- A write keeps the counter right exactly when it has had whole frames accepted. -/
theorem kept_count_iff (hi : CountInv isA2dp tr s) {out : OutStream} {bytes totalWritten : ℕ}
    {nowUs : ℤ} (hst : s.stream = some out)
    (hst' : s'.stream = some (out.countWrite bytes totalWritten nowUs).1)
    (hc' : s'.counted = s.counted + totalWritten) :
    FramesKept s s' ↔ WholeFrames s.counted out.frameSize ⟨bytes, .written totalWritten⟩ := by
  have hframes := hi.frames out hst
  have hcount : (out.countWrite bytes totalWritten nowUs).1.framesPresented = out.framesPresented +
      if totalWritten ≠ 0 then bytes / out.frameSize else 0 := OutStream.framesPresented_countWrite ..
  have hsame : out.Same (out.countWrite bytes totalWritten nowUs).1 := OutStream.same_countWrite ..
  have hkept : FramesKept s s' ↔
      out.framesPresented + (if totalWritten ≠ 0 then bytes / out.frameSize else 0) =
        (s.counted + totalWritten) / out.frameSize := by
    rw [← hcount]
    constructor
    · intro h
      have hk := (h out hst _ hst').2
      rwa [hc', hsame.frameSize] at hk
    · intro h o ho o' ho'
      obtain rfl := Option.some.inj (hst.symm.trans ho)
      obtain rfl := Option.some.inj (hst'.symm.trans ho')
      rw [hc', hsame.frameSize]
      exact ⟨by omega, h⟩
  rw [hkept, add_div_frames, hframes]
  unfold WholeFrames
  by_cases h0 : totalWritten = 0
  · simp [h0, Nat.mod_div_self]
  · simp only [h0, ne_eq, not_false_eq_true, if_true, false_or]
    omega

theorem kept_iff (hi : CountInv isA2dp tr s) (h : step S ends api isA2dp s a = some (s', os)) :
    Counts s a ↔ FramesKept s s' := by
  cases effect_of_step h with
  | stack a =>
    refine iff_of_true trivial fun out ho out' ho' => ?_
    obtain ⟨o, hst, rfl⟩ := Option.map_eq_some_iff.1 ho'
    obtain rfl := Option.some.inj (hst.symm.trans ho)
    exact ⟨Nat.le_refl _, hi.frames o hst⟩
  | openFails config session => exact iff_of_true trivial fun out ho out' ho' => by cases ho'
  | opens config session out hnone ho =>
    exact iff_of_true trivial fun o hmem => by simp [hnone] at hmem
  | closes session => exact iff_of_true trivial fun out ho out' ho' => by cases ho'
  | performs op w out r hst hr =>
    rw [kept_perform_iff hi hst hr rfl rfl]
    simp [Counts, hst]
  | resumes i w out bytes r hst hf hr =>
    exact (iff_of_true trivial (by simp [StreamOp.resets])).trans
      (kept_perform_iff hi hst hr rfl rfl).symm
  | writes i bytes out hst | givesUp i bytes out hst | passes i bytes accepted out hst =>
    refine iff_of_true trivial fun o ho o' ho' => ?_
    obtain rfl := Option.some.inj (ho.symm.trans ho')
    exact ⟨Nat.le_refl _, hi.frames o ho⟩
  | sleeps i bytes totalWritten nowUs lastWriteTimeUs out hst hf
  | counts i bytes totalWritten nowUs out hst hf =>
    rw [kept_count_iff hi hst rfl rfl]
    simp [Counts, hst, hf]
  | wakes i bytes lastWriteTimeUs out hst hf =>
    refine iff_of_true trivial fun o ho o' ho' => ?_
    obtain rfl := Option.some.inj ho'
    obtain rfl := Option.some.inj (hst.symm.trans ho)
    exact ⟨Nat.le_refl _, hi.frames out hst⟩

/-- A step of an open stream that leaves it open: what `WriteData` accepts in it is counted, or has yet
to be. -/
theorem counted_step {out : OutStream} (hst : s.stream = some out) (hopen : s'.stream.isSome = true)
    (h : step S ends api isA2dp s a = some (s', os)) :
    s'.counted + s'.writers.total uncounted =
        s.counted + s.writers.total uncounted + (os.map Event.accepted).sum ∧
      ∀ e ∈ os, e.isOpened = false := by
  cases effect_of_step h with
  | stack a => exact ⟨rfl, by simp⟩
  | openFails config session => cases hopen
  | opens config session out' hnone ho => simp [hst] at hnone
  | closes session => exact ⟨rfl, by simp⟩
  | performs op w out' r hst' hr =>
    obtain ⟨hw, hc⟩ := writers_perform hr
    refine ⟨?_, by simp⟩
    rw [hw, hc]
    rfl
  | resumes i w out' bytes r hst' hf hr =>
    obtain ⟨hw, hc⟩ := writers_perform hr
    refine ⟨?_, by simp⟩
    dsimp only
    have hput := Threads.total_put uncounted hf ⟨bytes, if r.1 ≠ 0 then .refused else .ready⟩
    have hnew : uncounted ⟨bytes, if r.1 ≠ 0 then .refused else .ready⟩ = 0 := by
      split_ifs <;> rfl
    rw [hw, hc]
    simp only [hnew, List.map_nil, List.sum_nil] at hput ⊢
    simp only [uncounted] at hput
    omega
  | writes i bytes out' hst' hf =>
    refine ⟨?_, by simp [Event.isOpened]⟩
    have hput := Threads.total_put_of_find uncounted hf
      ⟨bytes, if out'.bluetoothOutput.state ≠ .started then .entered else .ready⟩
    have hnew : uncounted
        ⟨bytes, if out'.bluetoothOutput.state ≠ .started then .entered else .ready⟩ = 0 := by
      split_ifs <;> rfl
    rw [hput, hnew]
    simp [Event.accepted]
  | passes i bytes accepted out' hst' hf =>
    refine ⟨?_, by simp [Event.isOpened]⟩
    have hput := Threads.total_put uncounted hf ⟨bytes, .written (out'.writeData accepted)⟩
    simp only [uncounted] at hput
    simp only [List.map_singleton, List.sum_singleton, Event.accepted]
    omega
  | sleeps i bytes totalWritten nowUs lastWriteTimeUs out' hst' hf =>
    refine ⟨?_, by simp⟩
    have hput := Threads.total_put uncounted hf ⟨bytes, .sleeping lastWriteTimeUs⟩
    simp only [uncounted] at hput
    simp only [List.map_nil, List.sum_nil]
    omega
  | givesUp i bytes out' hst' hf | counts i bytes totalWritten nowUs out' hst' hf
  | wakes i bytes lastWriteTimeUs out' hst' hf =>
    refine ⟨?_, by simp [Event.isOpened]⟩
    have hdrop := Threads.total_drop uncounted hf
    simp only [uncounted] at hdrop
    simp only [List.map_singleton, List.sum_singleton, Event.accepted]
    omega

theorem opened_step {out' : OutStream} (hst : s.stream = none) (hst' : s'.stream = some out')
    (h : step S ends api isA2dp s a = some (s', os)) :
    out'.framesPresented = 0 ∧ s'.counted = 0 ∧ s'.writers = [] ∧ os = [.opened] := by
  cases effect_of_step h with
  | stack a => simp [hear, hst] at hst'
  | openFails | closes => cases hst'
  | opens config session out hnone ho =>
    obtain rfl := Option.some.inj hst'
    exact ⟨(OutStream.opened_of_adevOpen ho).2.2, rfl, rfl, rfl⟩
  | performs op w out r h' | resumes i w out bytes r h' | writes i bytes out h'
  | givesUp i bytes out h' | passes i bytes accepted out h'
  | sleeps i bytes totalWritten nowUs lastWriteTimeUs out h' | counts i bytes totalWritten nowUs out h'
  | wakes i bytes lastWriteTimeUs out h' => simp [hst] at h'

theorem accepted_append (hos : ∀ e ∈ os, e.isOpened = false) :
    StreamSystem.accepted (tr ++ os) = StreamSystem.accepted tr + (os.map Event.accepted).sum := by
  unfold StreamSystem.accepted
  rw [since_append_of_false hos, List.map_append, List.sum_append]

theorem CountInv.step (hi : CountInv isA2dp tr s) (hc : Counts s a)
    (h : step S ends api isA2dp s a = some (s', os)) : CountInv isA2dp (tr ++ os) s' := by
  refine ⟨hi.toOpenInv.step h, fun out' ho' => ?_, fun out' ho' => ?_⟩
  · cases hst : s.stream with
    | none =>
      obtain ⟨hf, hcounted, -⟩ := opened_step hst ho' h
      rw [hf, hcounted, Nat.zero_div]
    | some out => exact ((kept_iff hi h).1 hc out hst out' ho').2
  · cases hst : s.stream with
    | none =>
      obtain ⟨-, hcounted, hwriters, rfl⟩ := opened_step hst ho' h
      rw [hcounted, hwriters, StreamSystem.accepted, since_snoc_true rfl]
      rfl
    | some out =>
      obtain ⟨hsum, hos⟩ := counted_step hst (by rw [Option.mem_def.1 ho']; rfl) h
      have ha := hi.accepted out hst
      rw [accepted_append hos, hsum, ha]

theorem countInv_run {session : σ} (h : (lts S ends api isA2dp session).Run Counts tr s) :
    CountInv isA2dp tr s := by
  refine h.inv ⟨openInv_init, fun o ho => by simp [lts] at ho, fun o ho => by simp [lts] at ho⟩ ?_
  intro tr s a s' os hi hc ha
  exact hi.step hc ha

/-- Between the writes, all that `WriteData` has accepted is counted. -/
theorem total_uncounted {ths : Threads Writer}
    (h : ∀ x ∈ ths, ∀ totalWritten, x.2.point ≠ .written totalWritten) : ths.total uncounted = 0 := by
  induction ths with
  | nil => rfl
  | cons x xs ih =>
    have hx : uncounted x.2 = 0 := by
      unfold uncounted
      split
      · rename_i totalWritten hw
        exact absurd hw (h x List.mem_cons_self totalWritten)
      · rfl
    rw [Threads.total_cons, hx, ih fun y hy => h y (List.mem_cons_of_mem _ hy)]

end

/-- `in_read` counts the frames that `ReadData` returns, and none when it fails before. -/
theorem framesPresented_inRead {σ χ : Type} (S : SessionControl σ χ) (r : Request σ)
    (polls : ℕ → List Notification) (readData : ℕ) (i : BluetoothStreamIn) :
    (inRead S r polls readData i).2.framesPresented = i.framesPresented +
      if (inRead S r polls readData i).1 < 0 then 0 else readData / i.frameSize := by
  have hnn : ¬ (readData : ℤ) < 0 := by omega
  unfold inRead
  generalize inStateTransitionTimeout polls .starting kBluetoothDefaultInputStateTimeoutMs
    i.bluetoothInput = settled
  obtain ⟨settled, port⟩ := settled
  cases settled with
  | false => simp [EBUSY]
  | true =>
    cases hs : port.state with
    | started | starting | unknown => simp [hs, hnn]
    | standby =>
      cases hok : (port.start S r).1 with
      | false => simp [hs, hok, EIO]
      | true => simp [hs, hok, hnn]
    | suspending => simp [hs, EBUSY]
    | disabled => simp [hs, EINVAL]

/-- **The frames that an output stream has presented** are those that its port has accepted since it was
opened, in all runs whose writes count what they have had accepted and in which no parameter resets the
counter; these are the steps that keep it so.  An input stream counts what it has read. -/
theorem frames_presented_counted {σ χ : Type} {S : SessionControl σ χ} {ends : χ → Bool} {api : Api}
    {isA2dp : Bool} {session : σ} {tr : List Event} {s : StreamSystem σ}
    (h : (lts S ends api isA2dp session).Run Counts tr s) :
    (∀ out ∈ s.stream, (∀ x ∈ s.writers, ∀ totalWritten, x.2.point ≠ .written totalWritten) →
      out.framesPresented = accepted tr / out.frameSize) ∧
    (∀ {a s' os}, step S ends api isA2dp s a = some (s', os) → (Counts s a ↔ FramesKept s s')) ∧
    ∀ r polls readData i, (inRead S r polls readData i).2.framesPresented = i.framesPresented +
      if (inRead S r polls readData i).1 < 0 then 0 else readData / i.frameSize := by
  have hi := countInv_run h
  refine ⟨fun out hst hw => ?_, fun ha => kept_iff hi ha, framesPresented_inRead S⟩
  rw [hi.accepted out hst, total_uncounted hw, Nat.add_zero]
  exact hi.frames out hst

/-- A write of two frames, of which the data path takes `accepted` bytes. -/
def writeTwo (accepted : ℕ) :
    List (Act { c : BluetoothAudioSession.Call NoPayload // c.ofStack = true }) :=
  [.adevOpen quietConfig, .call .resume (answered true .success), .write 0 8, .writeData 0 accepted,
    .count 0 1000]

/-- Both frames are accepted, and counted. -/
theorem frames_presented_counted_two : ∃ tr s out, a2dpLts.Run Counts tr s ∧ s.stream = some out ∧
    accepted tr = 8 ∧ out.framesPresented = accepted tr / out.frameSize := by
  obtain ⟨tr, s, h, ha, hs, hw⟩ := Lts.exists_run (M := a2dpLts) (C := Counts)
    (P := fun tr s => accepted tr = 8 ∧ s.stream.isSome = true ∧ s.writers = [])
    (writeTwo 8) (by decide)
  obtain ⟨out, hst⟩ := Option.isSome_iff_exists.1 hs
  exact ⟨tr, s, out, h, hst, ha, (frames_presented_counted h).1 out hst (by simp [hw])⟩

/-- A write of which half is accepted counts twice as much; and `closing` forgets what was counted. -/
theorem frames_presented_wrong :
    (∃ tr s, a2dpLts.Reach tr s ∧ s.writers = [] ∧
      s.stream.map (fun out => (out.framesPresented, accepted tr / out.frameSize)) = some (2, 1)) ∧
    ∃ tr s, a2dpLts.Reach tr s ∧ s.writers = [] ∧
      s.stream.map (fun out => (out.framesPresented, accepted tr / out.frameSize)) = some (0, 2) :=
  ⟨Lts.exists_run (writeTwo 4) (by decide),
    Lts.exists_run (writeTwo 8 ++ [.call (.setParameters none [("closing", "true")]) undisturbed])
      (by decide)⟩

end StreamSystem

end TrebleDoze.Bluetooth
