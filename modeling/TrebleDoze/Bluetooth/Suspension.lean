import TrebleDoze.Bluetooth.StreamSystem
import TrebleDoze.Lib.Trace

/-!
# Suspended A2DP streams

`A2dpSuspended=true` disables the port of an A2DP stream, whatever its `Suspend` meets; from then on the
stream drops what it is given, until the parameter comes with another value.

* `Unlifted`: the actions that go on until then;
* `SuspendedInv`, `suspendedInv_run`: the port stays disabled, and no write called in the meantime gets
  beyond its `resume`;
* `suspended_stays_disabled`: the main result, from every reachable state.
-/

namespace TrebleDoze.Bluetooth

open TrebleDoze.Lib

/-- A write that has not got beyond its `resume`. -/
def WritePoint.Held (point : WritePoint) : Prop := point = .entered ∨ point = .refused

namespace StreamSystem

/-- The event is a call of `out_write` by thread `i`. -/
def Event.CallsWrite (i : ℕ) (e : Event) : Prop := ∃ bytes, e = .write i bytes

/-- Thread `i` passes data to `WriteData`, or reports fewer bytes consumed than it was given. -/
def Event.Leaks (i : ℕ) : Event → Prop
  | .writeData j _ => j = i
  | .returned j bytes result => j = i ∧ result ≠ bytes
  | _ => False

section

variable {σ χ : Type} {S : SessionControl σ χ} {ends : χ → Bool} {api : Api} {isA2dp : Bool}
  {s s' : StreamSystem σ} {a : Act χ} {os tr : List Event}

/-- The stream is not opened anew, and no `A2dpSuspended` comes with another value than `true`. -/
def Unlifted (_ : StreamSystem σ) : Act χ → Prop
  | .adevOpen _ => False
  | .call op _ => op.lifts = false
  | _ => True

instance (s : StreamSystem σ) : (a : Act χ) → Decidable (Unlifted s a)
  | .adevOpen _ => inferInstanceAs (Decidable False)
  | .call op _ => inferInstanceAs (Decidable (op.lifts = false))
  | .stack _ | .adevClose | .write _ _ | .resume _ _ | .giveUp _ | .writeData _ _ | .count _ _
  | .wake _ => inferInstanceAs (Decidable True)

theorem lifts_of_unlifted {op : StreamOp} (hc : Unlifted s a) (ha : a.op = some op) :
    op.lifts = false := by
  cases a with
  | call op' w =>
    obtain rfl := Option.some.inj ha
    exact hc
  | resume i w =>
    obtain rfl := Option.some.inj ha
    rfl
  | stack | adevOpen | adevClose | write | giveUp | writeData | count | wake => cases ha

/-- While a suspension lasts: the port is disabled, the writes called since then are held, and none of
them leaks. -/
structure SuspendedInv (isA2dp : Bool) (tr : List Event) (s : StreamSystem σ) : Prop
    extends OpenInv isA2dp s where
  disabled : ∀ out ∈ s.stream, out.bluetoothOutput.state = .disabled
  held : ∀ i, (∃ e ∈ tr, e.CallsWrite i) → ∀ x, (i, x) ∈ s.writers → x.point.Held
  silent : ∀ i, NoneAfter (Event.CallsWrite i) (Event.Leaks i) tr

theorem SuspendedInv.disabled_step (hi : SuspendedInv isA2dp tr s) (hc : Unlifted s a)
    (h : step S ends api isA2dp s a = some (s', os)) :
    ∀ out ∈ s'.stream, out.bluetoothOutput.state = .disabled := by
  intro o ho
  rw [Option.mem_def] at ho
  cases moves_of_step h with
  | absent hst' => simp [hst'] at ho
  | opens out config ha => simp [ha, Unlifted] at hc
  | hears out acts hst hst' =>
    obtain rfl := Option.some.inj (hst'.symm.trans ho)
    exact BluetoothAudioPort.notifyAll_of_disabled (hi.inUse out hst) (hi.disabled out hst) _
  | performs out op w ha hst hfits hst' =>
    obtain rfl := Option.some.inj (hst'.symm.trans ho)
    exact StreamOp.state_run_of_disabled (hi.disabled out hst) fun _ => lifts_of_unlifted hc ha
  | works out out' hst hst' hsame hport =>
    obtain rfl := Option.some.inj (hst'.symm.trans ho)
    rw [hport]
    exact hi.disabled out hst

/-- What the invariant needs of the threads after a step: those that move on were held, or not called
since the suspension (`hw`), and only the latter leak (`hl`). -/
theorem SuspendedInv.extend (hi : SuspendedInv isA2dp tr s) (ho : OpenInv isA2dp s')
    (hd : ∀ out ∈ s'.stream, out.bluetoothOutput.state = .disabled)
    (hw : ∀ x ∈ s'.writers, x ∈ s.writers ∨ x.2.point.Held ∨ ¬ ∃ e ∈ tr, e.CallsWrite x.1)
    (hone : os.length ≤ 1) (hcalls : ∀ e ∈ os, ∀ i, ¬ e.CallsWrite i)
    (hl : ∀ i, (∃ e ∈ tr, e.CallsWrite i) → ∀ e ∈ os, ¬ e.Leaks i) :
    SuspendedInv isA2dp (tr ++ os) s' := by
  refine ⟨ho, hd, fun i ⟨e, he, hcall⟩ x hx => ?_, fun i => ?_⟩
  · have htr : ∃ e ∈ tr, e.CallsWrite i := by
      rcases List.mem_append.1 he with he | he
      · exact ⟨e, he, hcall⟩
      · exact absurd hcall (hcalls e he i)
    rcases hw _ hx with hx | hx | hx
    · exact hi.held i htr x hx
    · exact hx
    · exact absurd htr hx
  · have hos : NoneAfter (Event.CallsWrite i) (Event.Leaks i) os := by
      rcases os with _ | ⟨e, os⟩
      · exact noneAfter_nil
      · obtain rfl : os = [] := List.length_eq_zero_iff.1 (by simpa using hone)
        exact noneAfter_singleton e
    exact (hi.silent i).append hos fun e he hp x hx => hl i ⟨e, he, hp⟩ x hx

/-- A thread beyond its `resume` was not called since the suspension. -/
theorem SuspendedInv.not_called (hi : SuspendedInv isA2dp tr s) {i : ℕ} {x : Writer}
    (hf : s.writers.find i = some x) (hx : ¬ x.point.Held) : ¬ ∃ e ∈ tr, e.CallsWrite i :=
  fun hcall => hx (hi.held i hcall x (Threads.mem_of_find hf))

theorem SuspendedInv.movesOn (hi : SuspendedInv isA2dp tr s) {i : ℕ} {x : Writer}
    (hf : s.writers.find i = some x) (hx : ¬ x.point.Held) (ho : OpenInv isA2dp s')
    (hd : ∀ out ∈ s'.stream, out.bluetoothOutput.state = .disabled)
    (hw : ∀ y ∈ s'.writers, y.1 = i ∨ y ∈ s.writers) (hone : os.length ≤ 1)
    (hos : ∀ e ∈ os, ∀ j, ¬ e.CallsWrite j ∧ (e.Leaks j → j = i)) : SuspendedInv isA2dp (tr ++ os) s' := by
  have hn := hi.not_called hf hx
  refine hi.extend ho hd (fun y hy => ?_) hone (fun e he j => (hos e he j).1) fun j hj e he hleak => ?_
  · rcases hw y hy with hid | hold
    · exact .inr (.inr (hid ▸ hn))
    · exact .inl hold
  · obtain rfl := (hos e he j).2 hleak
    exact hn hj

theorem SuspendedInv.enters (hi : SuspendedInv isA2dp tr s) {i bytes : ℕ} {x : Writer}
    (hf : s.writers.find i = none) (hx : x.point.Held) (ho : OpenInv isA2dp s')
    (hd : ∀ out ∈ s'.stream, out.bluetoothOutput.state = .disabled)
    (hw : s'.writers = s.writers.put i x) : SuspendedInv isA2dp (tr ++ [.write i bytes]) s' := by
  refine ⟨ho, hd, fun j hj y hy => ?_, fun j => ?_⟩
  · rw [hw] at hy
    rcases Threads.mem_put hy with heq | hmem
    · obtain ⟨-, rfl⟩ := Prod.mk.inj heq
      exact hx
    · have hne : j ≠ i := by
        rintro rfl
        exact Threads.not_mem_of_find hf hmem
      obtain ⟨e, he, bytes', rfl⟩ := hj
      have htr : Event.write j bytes' ∈ tr := by
        rcases List.mem_append.1 he with he | he
        · exact he
        · simp [hne] at he
      exact hi.held j ⟨_, htr, bytes', rfl⟩ y hmem
  · refine (hi.silent j).append_of_forall_not fun e he => ?_
    obtain rfl := List.mem_singleton.1 he
    exact id

theorem SuspendedInv.step (hi : SuspendedInv isA2dp tr s) (hc : Unlifted s a)
    (h : step S ends api isA2dp s a = some (s', os)) : SuspendedInv isA2dp (tr ++ os) s' := by
  have ho := hi.toOpenInv.step h
  have hd := hi.disabled_step hc h
  cases effect_of_step h with
  | stack | closes =>
    exact hi.extend ho hd (fun x hx => .inl hx) (by simp) (by simp) (by simp)
  | openFails | opens => cases hc
  | performs op w out r hst hr =>
    refine hi.extend ho hd (fun x hx => .inl ?_) (by simp) (by simp) (by simp)
    rwa [(writers_perform hr).1] at hx
  | resumes i w out bytes r hst hf hr =>
    have hr1 : r.1 ≠ 0 := by
      unfold perform at hr
      split_ifs at hr
      obtain rfl := Option.some.inj hr
      rw [StreamOp.run_resume_of_disabled (hi.disabled out hst)]
      decide
    refine hi.extend ho hd (fun x hx => ?_) (by simp) (by simp) (by simp)
    rcases Threads.mem_put hx with rfl | hx
    · exact .inr (.inl (by simp [hr1, WritePoint.Held]))
    · rw [(writers_perform hr).1] at hx
      exact .inl hx
  | writes i bytes out hst hf =>
    have hpoint : out.bluetoothOutput.state ≠ .started := by
      rw [hi.disabled out hst]
      decide
    exact hi.enters hf (.inl (if_pos hpoint)) ho hd rfl
  | givesUp i bytes out hst hf =>
    refine hi.extend ho hd (fun x hx => .inl (Threads.mem_drop hx)) (by simp) (by simp [Event.CallsWrite])
      fun j _ e he => ?_
    obtain rfl := List.mem_singleton.1 he
    simp [Event.Leaks, OutStream.dropWrite, hi.disabled out hst]
  | passes i bytes accepted out hst hf | sleeps i bytes totalWritten nowUs lastWriteTimeUs out hst hf =>
    refine hi.movesOn hf (by simp [WritePoint.Held]) ho hd (fun y hy => ?_) (by simp)
      (by simp [Event.CallsWrite, Event.Leaks])
    rcases Threads.mem_put hy with rfl | hold
    · exact .inl rfl
    · exact .inr hold
  | counts i bytes totalWritten nowUs out hst hf | wakes i bytes lastWriteTimeUs out hst hf =>
    exact hi.movesOn hf (by simp [WritePoint.Held]) ho hd (fun y hy => .inr (Threads.mem_drop hy)) (by simp)
      (by simp +contextual [Event.CallsWrite, Event.Leaks])

theorem suspendedInv_run {session : σ} {s₁ : StreamSystem σ} (h₁ : SuspendedInv isA2dp [] s₁)
    (h : ((lts S ends api isA2dp session).startAt s₁).Run Unlifted tr s) : SuspendedInv isA2dp tr s := by
  refine h.inv (I := SuspendedInv isA2dp) h₁ ?_
  intro tr s a s' os hi hc ha
  exact hi.step hc ha

theorem disabled_of_suspend {out : OutStream} {audioCfg : Option UInt32} {params : AudioParams}
    {w : Around χ} (ho : OpenInv true s) (hst : s.stream = some out)
    (hp : params.lookup "A2dpSuspended" = some "true")
    (h : step S ends api true s (.call (.setParameters audioCfg params) w) = some (s', os)) :
    ∃ out', s'.stream = some out' ∧ out'.bluetoothOutput.state = .disabled := by
  simp only [step, hst, Option.map_eq_some_iff] at h
  obtain ⟨r, hr, h⟩ := h
  obtain ⟨rfl, -⟩ := Prod.mk.inj h
  unfold perform at hr
  split_ifs at hr
  obtain rfl := Option.some.inj hr
  exact ⟨_, rfl, StreamOp.state_run_suspended (ho.inUse out hst) (ho.isA2dp out hst) hp⟩

end

/-- **A suspended A2DP stream stays suspended**: from every reachable state, `A2dpSuspended=true` leaves
the port in `DISABLED`, and until the parameter comes with another value the port stays there, and every
`out_write` called reports all its bytes consumed and passes none of them to `WriteData`. -/
theorem suspended_stays_disabled {σ χ : Type} {S : SessionControl σ χ} {ends : χ → Bool} {api : Api}
    {session : σ} {tr : List Event} {s s₁ : StreamSystem σ} {out : OutStream}
    {audioCfg : Option UInt32} {params : AudioParams} {w : Around χ} {os : List Event}
    (h : (lts S ends api true session).Reach tr s) (hst : s.stream = some out)
    (hp : params.lookup "A2dpSuspended" = some "true")
    (hs : step S ends api true s (.call (.setParameters audioCfg params) w) = some (s₁, os)) :
    (∃ out₁, s₁.stream = some out₁ ∧ out₁.bluetoothOutput.state = .disabled) ∧
      ∀ {tr₂ s₂}, ((lts S ends api true session).startAt s₁).Run Unlifted tr₂ s₂ →
        (∀ out₂ ∈ s₂.stream, out₂.bluetoothOutput.state = .disabled) ∧
          ∀ i, NoneAfter (Event.CallsWrite i) (Event.Leaks i) tr₂ := by
  have ho := openInv_run h
  obtain ⟨out₁, hst₁, hd⟩ := disabled_of_suspend ho hst hp hs
  have hi : SuspendedInv true [] s₁ := by
    refine ⟨ho.step hs, fun o hmem => ?_, by simp, fun i => noneAfter_nil⟩
    obtain rfl := Option.some.inj (hst₁.symm.trans hmem)
    exact hd
  refine ⟨⟨out₁, hst₁, hd⟩, fun h₂ => ?_⟩
  have hi₂ := suspendedInv_run hi h₂
  exact ⟨hi₂.disabled, hi₂.silent⟩

/-- A started stream is suspended, though its `Suspend` fails; a write comes, and a late success. -/
theorem suspended_stays_disabled_write : ∃ tr s s₁ os tr₂ s₂,
    a2dpLts.Reach tr s ∧ a2dpLts.step s (.call (.setParameters none [("A2dpSuspended", "true")])
      (answered false .failure)) = some (s₁, os) ∧
    (a2dpLts.startAt s₁).Run Unlifted tr₂ s₂ ∧ tr₂ = [.write 0 100, .returned 0 100 100] ∧
    (∀ out₂ ∈ s₂.stream, out₂.bluetoothOutput.state = .disabled) ∧
    ∀ i, NoneAfter (Event.CallsWrite i) (Event.Leaks i) tr₂ := by
  obtain ⟨tr, s, h, hst, hs⟩ := Lts.exists_run (M := a2dpLts) (C := fun _ _ => True)
    (P := fun _ s => s.stream.isSome = true ∧
      ((a2dpLts.step s (.call (.setParameters none [("A2dpSuspended", "true")])
        (answered false .failure))).any fun r => ((a2dpLts.startAt r.1).exec Unlifted
          [.write 0 100, .stack (.report false .success), .resume 0 undisturbed, .giveUp 0] r.1).any
            fun q => q.1 = [.write 0 100, .returned 0 100 100]) = true)
    [.adevOpen quietConfig, .call .resume (answered true .success)] (by decide)
  obtain ⟨out, hst⟩ := Option.isSome_iff_exists.1 hst
  obtain ⟨⟨s₁, os⟩, hs, he⟩ := (Option.any_eq_true _ _).1 hs
  obtain ⟨⟨tr₂, s₂⟩, he, htr₂⟩ := (Option.any_eq_true _ _).1 he
  have h₂ : (a2dpLts.startAt s₁).Run Unlifted tr₂ s₂ := Lts.run_of_exec he
  have hmain := (suspended_stays_disabled h hst rfl hs).2 h₂
  exact ⟨tr, s, s₁, os, tr₂, s₂, h, hs, h₂, by simpa using htr₂, hmain.1, hmain.2⟩

end StreamSystem

end TrebleDoze.Bluetooth
