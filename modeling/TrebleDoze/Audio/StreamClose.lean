import TrebleDoze.Audio.StreamThread

/-!
# `close()` and the thread of a stream

`close()` raises the stop flag, wakes the thread and closes the stream of the legacy HAL without waiting
for the thread, which may be past its test of the flag.

* `pending`: the command that the thread will serve although the flag is raised;
* `CloseInv`, `closeInv_run`: in the runs that leave no such command behind (`Orderly`), nothing is pending
  once the stream is closed, and the legacy HAL is not called any more;
* `no_call_after_close`: so it is for both directions (`write_after_close`: not in all runs).
-/

namespace TrebleDoze.Audio

open TrebleDoze.Lib

namespace Stream

variable {χ : Type}

/-- The command that the thread serves before it looks at the stop flag again: the one it has read, or
the one in the queue when it has passed its test of the flag. -/
def pending (s : Stream χ) : Option χ :=
  match s.thread with
  | some (.serving command) => some command
  | some .waiting | some .woken => s.commandMQ
  | _ => none

/-- The step leaves the thread no command to serve with a closed stream, unless it is one that the legacy
HAL is not called for: neither is one pending when the stream is closed, nor does the client put one
into the queue after that while the thread is still going to read it. -/
def Orderly (d : Direction χ) (s : Stream χ) : Act χ → Prop
  | .closeStream => ∀ command ∈ s.pending, d.mayCall command = false
  | .putCommand command =>
    s.closing = .done → s.thread = some .waiting ∨ s.thread = some .woken → d.mayCall command = false
  | _ => True

instance [DecidableEq χ] (d : Direction χ) (s : Stream χ) (a : Act χ) : Decidable (Orderly d s a) := by
  unfold Orderly; split <;> infer_instance

/-- Nothing is pending after the stream is closed, and the legacy HAL was not called. -/
structure CloseInv (d : Direction χ) (tr : List (Event χ)) (s : Stream χ) : Prop where
  noneAfter : NoneAfter (· = .closed) Event.IsCall tr
  closed : .closed ∈ tr → s.closing = .done
  mStop : s.closing ≠ .no → s.mStop = true
  pending : s.closing = .done → ∀ command ∈ s.pending, d.mayCall command = false

section

variable {d : Direction χ} {s s' : Stream χ} {tr os : List (Event χ)} {pc : Pc χ}

theorem CloseInv.of_no_call (h : CloseInv d tr s) (hos : ∀ e ∈ os, ¬ e.IsCall ∧ e ≠ .closed)
    (hc : s'.closing = s.closing) (hs : s'.mStop = s.mStop)
    (hp : s.closing = .done → ∀ command ∈ s'.pending, d.mayCall command = false) :
    CloseInv d (tr ++ os) s' := by
  refine ⟨h.noneAfter.append_of_forall_not fun e he => (hos e he).1, fun hm => ?_, ?_, ?_⟩
  · rw [hc]
    rcases List.mem_append.1 hm with hm | hm
    · exact h.closed hm
    · exact absurd rfl (hos _ hm).2
  · rw [hc, hs]
    exact h.mStop
  · rw [hc]
    exact hp

/-- The thread serves what is pending, and looks at the flag before it reads another command. -/
theorem CloseInv.looped (h : CloseInv d tr s) (hpc : s.thread = some pc)
    (hl : Looped d s pc s' os) : CloseInv d (tr ++ os) s' := by
  cases hl with
  | stops | spurious | nothingToDo | noCall | returns | drops =>
    exact h.of_no_call (by simp) rfl rfl fun _ _ hm => by cases hm
  | goesOn hs =>
    -- with the flag down, the stream is not closed
    refine h.of_no_call (by simp) rfl rfl fun hd => ?_
    have hstop := h.mStop (by rw [hd]; decide)
    rw [hs] at hstop
    cases hstop
  | wakes hef =>
    refine h.of_no_call (by simp) rfl rfl fun hd => ?_
    have hp := h.pending hd
    unfold Stream.pending at hp
    rw [hpc] at hp
    exact hp
  | readsCommand command hc =>
    refine h.of_no_call (by simp [Event.IsCall]) rfl rfl fun hd command' hm => ?_
    have hp := h.pending hd
    unfold Stream.pending at hp
    rw [hpc] at hp
    obtain rfl := Option.some.inj hm
    exact hp command hc
  | calls command dataRead call hcall =>
    have hnot : s.closing ≠ .done := by
      intro hd
      have hp := h.pending hd
      unfold Stream.pending at hp
      rw [hpc] at hp
      have hnone := d.invoke_eq_none (hp command rfl) dataRead s.dataMQ s.mStatus
      rw [hcall] at hnone
      cases hnone
    refine ⟨h.noneAfter.append (noneAfter_singleton _) fun e he hce => ?_, fun hm => ?_, h.mStop,
      fun hd => absurd hd hnot⟩
    · subst hce
      exact absurd (h.closed he) hnot
    · rcases List.mem_append.1 hm with hm | hm
      · exact h.closed hm
      · rw [List.mem_singleton] at hm
        cases hm
  | replies hst => exact h.of_no_call (by simp [Event.IsCall]) rfl rfl fun _ _ hm => by cases hm

theorem CloseInv.closeStream (h : CloseInv d tr s) (hc : s.closing = .woken)
    (ho : Orderly d s .closeStream) : CloseInv d (tr ++ [.closed]) s.closeStream := by
  refine ⟨h.noneAfter.append_of_forall_not ?_, fun _ => rfl, fun _ => h.mStop (by rw [hc]; decide),
    fun _ => ho⟩
  intro e he hcall
  rw [List.mem_singleton] at he
  subst he
  obtain ⟨call, hcall⟩ := hcall
  cases hcall

theorem CloseInv.close (h : CloseInv d tr s) : CloseInv d tr s.close.2 := by
  unfold Stream.close
  split_ifs with hs
  · exact h
  · have hno : s.closing = .no := by
      by_contra hne
      exact hs (h.mStop hne)
    refine ⟨h.noneAfter, fun hm => ?_, fun _ => rfl, fun hd => by cases hd⟩
    have hd := h.closed hm
    rw [hno] at hd
    cases hd

theorem CloseInv.closeWake (h : CloseInv d tr s) (hc : s.closing = .flagged) :
    CloseInv d tr s.closeWake := by
  refine ⟨h.noneAfter, fun hm => ?_, fun _ => h.mStop (by rw [hc]; decide), fun hd => by cases hd⟩
  have hd := h.closed hm
  rw [hc] at hd
  cases hd

theorem CloseInv.prepare (h : CloseInv d tr s) (frameSize framesCount : UInt32) (created : Bool) :
    CloseInv d tr (s.prepare frameSize framesCount created).2 := by
  rcases prepare_cases s frameSize framesCount created with heq | ⟨-, heq⟩
  · rw [heq]
    exact h
  · rw [heq]
    exact ⟨h.noneAfter, h.closed, h.mStop, fun _ _ hm => by cases hm⟩

/-- What the client does to the queues and the event flag leaves what is pending. -/
theorem CloseInv.of_same (h : CloseInv d tr s) (hc : s'.closing = s.closing) (hs : s'.mStop = s.mStop)
    (ht : s'.thread = s.thread) (hq : s'.commandMQ = s.commandMQ) : CloseInv d (tr ++ []) s' := by
  refine h.of_no_call (by simp) hc hs fun hd => ?_
  have hp : s'.pending = s.pending := by
    unfold Stream.pending
    rw [ht, hq]
  rw [hp]
  exact h.pending hd

theorem CloseInv.putCommand (h : CloseInv d tr s) (command : χ) (ho : Orderly d s (.putCommand command)) :
    CloseInv d (tr ++ []) { s with commandMQ := some command } := by
  refine h.of_no_call (by simp) rfl rfl fun hd command' hm => ?_
  have hp := h.pending hd
  have hnew := ho hd
  unfold Stream.pending at hp hm
  dsimp only at hm
  split at hm
  · rename_i served hpc
    rw [hpc] at hp
    exact hp command' hm
  · rename_i hpc
    obtain rfl := Option.some.inj hm
    exact hnew (.inl hpc)
  · rename_i hpc
    obtain rfl := Option.some.inj hm
    exact hnew (.inr hpc)
  · cases hm

theorem CloseInv.step (hi : CloseInv d tr s) {a : Act χ} (ho : Orderly d s a)
    (hs : (lts d).step s a = some (s', os)) : CloseInv d (tr ++ os) s' := by
  cases step_cases hs with
  | prepare frameSize framesCount created =>
    rw [List.append_nil]
    exact hi.prepare frameSize framesCount created
  | putCommand command => exact hi.putCommand command ho
  | wake | putData | takeData | takeStatus => exact hi.of_same rfl rfl rfl rfl
  | close =>
    rw [List.append_nil]
    exact hi.close
  | closeWake hc =>
    rw [List.append_nil]
    exact hi.closeWake hc
  | closeStream hc => exact hi.closeStream hc ho
  | thread env h =>
    obtain ⟨pc, hpc, hl⟩ := threadLoop_cases h
    exact hi.looped hpc hl

theorem closeInv_run (h : (lts d).Run (Orderly d) tr s) : CloseInv d tr s := by
  refine h.inv ?_ fun hi ho hs => hi.step ho hs
  exact ⟨noneAfter_nil, by simp, fun hne => absurd rfl hne, fun hd => by cases hd⟩

end

end Stream

/-- **No function of the legacy HAL stream is called after it is closed**, in either direction, in the
runs whose steps are all `Orderly`. -/
theorem no_call_after_close (hasPosition : Bool) :
    (∀ tr s, (Stream.lts (StreamOut.writeThread hasPosition)).Run
        (Stream.Orderly (StreamOut.writeThread hasPosition)) tr s →
      NoneAfter (· = .closed) Event.IsCall tr) ∧
    ∀ tr s, (Stream.lts (StreamIn.readThread hasPosition)).Run
        (Stream.Orderly (StreamIn.readThread hasPosition)) tr s →
      NoneAfter (· = .closed) Event.IsCall tr :=
  ⟨fun _ _ h => (Stream.closeInv_run h).noneAfter, fun _ _ h => (Stream.closeInv_run h).noneAfter⟩

/-- An answer of the environment: the thread is woken by the bit and reads its data, and the legacy HAL
has taken four bytes. -/
def tookFour : Env := ⟨false, true, ⟨4, [], 0, 0⟩⟩

/-- The client prepares the queues, writes four bytes, waits for the status and closes the stream. -/
def writeThenClose : List (Act StreamOut.WriteCommand) :=
  [.prepare 4 256 true, .thread tookFour, .putData [1, 2, 3, 4], .putCommand .write, .wake,
    .thread tookFour, .thread tookFour, .thread tookFour, .thread tookFour, .thread tookFour,
    .takeStatus, .thread tookFour, .close, .closeWake, .closeStream, .thread tookFour, .thread tookFour,
    .thread tookFour]

theorem no_call_after_close_write : ∃ tr s,
    (Stream.lts (StreamOut.writeThread true)).Run (Stream.Orderly (StreamOut.writeThread true)) tr s ∧
      (.called (.write [1, 2, 3, 4]) ∈ tr ∧ .closed ∈ tr ∧ s.thread = some .exited) ∧
      NoneAfter (· = .closed) Event.IsCall tr := by
  obtain ⟨tr, s, h, hp⟩ := Lts.exists_run (M := Stream.lts (StreamOut.writeThread true))
    (C := Stream.Orderly (StreamOut.writeThread true))
    (P := fun tr s => .called (.write [1, 2, 3, 4]) ∈ tr ∧ .closed ∈ tr ∧ s.thread = some .exited)
    writeThenClose (by decide)
  exact ⟨tr, s, h, hp, (no_call_after_close true).1 tr s h⟩

/-- The client closes the stream while the thread has a command to write. -/
def closeWhileServing : List (Act StreamOut.WriteCommand) :=
  [.prepare 4 256 true, .thread tookFour, .putData [1, 2, 3, 4], .putCommand .write, .wake,
    .thread tookFour, .thread tookFour, .close, .closeWake, .closeStream, .thread tookFour]

/-- The thread calls `write` of the closed stream. -/
theorem write_after_close : ∃ tr s, (Stream.lts (StreamOut.writeThread true)).Reach tr s ∧
    ¬ NoneAfter (· = .closed) Event.IsCall tr :=
  Lts.exists_run closeWhileServing (by decide)

end TrebleDoze.Audio
