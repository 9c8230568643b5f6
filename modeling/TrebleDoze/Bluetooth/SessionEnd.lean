import TrebleDoze.Bluetooth.InStream

/-!
# Ports whose session has ended

`SessionChangedHandler` puts a port in `DISABLED`, where it stays until the stream is opened anew.  The
state is also that of a suspended port, and `A2dpSuspended` with another value than `true` takes every
A2DP port from it to `STANDBY` (`revived_after_end`).

* `state_of_endedBy`: a port is disabled after a function of the stream in which its session ended;
* `StreamSystem.NotRevived`: the parameter does not come while the session of the port has ended;
* `ended_stays_disabled`: then the port stays in `DISABLED`, and that of an input stream in every run.
-/

namespace TrebleDoze.Bluetooth

open TrebleDoze.Lib

section

variable {σ χ : Type} {S : SessionControl σ χ} {ends : χ → Bool} {p : BluetoothAudioPort}
  {ended : Bool} {s : σ} {state : BluetoothStreamState}

/-- The port is disabled once the session has ended, in what it is told of the acts of the stack. -/
theorem state_notifyAll_of_endedBy (hu : p.inUse = true) (hd : ended = true → p.state = .disabled)
    (acts : List (StackAct χ)) (he : (ended || S.endedBy ends p.cookie s acts) = true) :
    (p.notifyAll (S.acts s acts).2).state = .disabled := by
  rcases Bool.or_eq_true _ _ |>.mp he with he | he
  · exact BluetoothAudioPort.notifyAll_of_disabled hu (hd he) _
  · have hm := S.mem_acts_of_endedBy he
    exact BluetoothAudioPort.notifyAll_of_changed hu (by simpa [BluetoothAudioPort.changed] using hm)

/-- So it is after a function of the stream, which keeps a disabled port so (`hkeep`) and leaves one that
hears of a change while it asks disabled (`hchanged`). -/
theorem state_of_endedBy {asks : Option Req} {w : Around χ} (hfits : w.fits S s asks = true)
    (hkeep : ended = true → state = .disabled)
    (hchanged : ∀ req ∈ asks, p.changed ((w.request S s).meanwhile ++
      if S.ask req (w.request S s).isOk (w.request S s).session then (w.request S s).waiting else []) =
        true → state = .disabled)
    (he : (ended || S.endedBy ends p.cookie s (w.before ++ w.during)) = true) : state = .disabled := by
  rcases Bool.or_eq_true _ _ |>.mp he with he | he
  · exact hkeep he
  · cases asks with
    | none =>
      rw [w.acts_of_fits_none S s hfits] at he
      cases he
    | some req =>
      apply hchanged req rfl
      rw [w.notifications_of_fits S s hfits]
      have hm := S.mem_acts_of_endedBy he
      simpa [BluetoothAudioPort.changed] using hm

end

/-! ### Output streams -/

namespace StreamSystem

variable {σ χ : Type} {S : SessionControl σ χ} {ends : χ → Bool} {api : Api} {isA2dp : Bool}
  {s s' : StreamSystem σ} {a : Act χ} {os : List Event}

/-- The parameter `A2dpSuspended` comes with another value than `true` only to streams of other devices,
or while the session has not ended since the stream was opened. -/
def NotRevived (s : StreamSystem σ) (a : Act χ) : Prop :=
  (s.ended && s.stream.any fun out => out.isA2dp && a.op.any StreamOp.lifts) = false

instance (s : StreamSystem σ) (a : Act χ) : Decidable (NotRevived s a) := by
  unfold NotRevived; infer_instance

/-- The port is disabled once its session has ended. -/
structure EndedInv (isA2dp : Bool) (s : StreamSystem σ) : Prop extends OpenInv isA2dp s where
  disabled : ∀ out ∈ s.stream, s.ended = true → out.bluetoothOutput.state = .disabled

theorem EndedInv.step (hi : EndedInv isA2dp s) (hc : NotRevived s a)
    (h : step S ends api isA2dp s a = some (s', os)) : EndedInv isA2dp s' := by
  refine ⟨hi.toOpenInv.step h, fun o ho hend => ?_⟩
  rw [Option.mem_def] at ho
  cases moves_of_step h with
  | absent hst' => simp [hst'] at ho
  | opens out config ha hst' hu hA he => simp [he] at hend
  | hears out acts hst hst' he =>
    obtain rfl := Option.some.inj (hst'.symm.trans ho)
    exact state_notifyAll_of_endedBy (hi.inUse out hst) (hi.disabled out hst) acts (he ▸ hend)
  | performs out op w ha hst hfits hst' he =>
    obtain rfl := Option.some.inj (hst'.symm.trans ho)
    refine state_of_endedBy hfits (fun hd => ?_) (fun req hask => ?_) (he ▸ hend)
    · refine StreamOp.state_run_of_disabled (hi.disabled out hst hd) fun hA => ?_
      simpa [NotRevived, hst, ha, hd, hA] using hc
    · exact StreamOp.state_run_of_asks (hi.inUse out hst) hask
  | works out out' hst hst' hsame hport he =>
    obtain rfl := Option.some.inj (hst'.symm.trans ho)
    rw [hport]
    exact hi.disabled out hst (he ▸ hend)

theorem endedInv_run {session : σ} {tr : List Event}
    (h : (lts S ends api isA2dp session).Run NotRevived tr s) : EndedInv isA2dp s := by
  refine h.inv_state ⟨openInv_init, fun o ho => by simp [lts] at ho⟩ ?_
  intro s a s' os hi hc ha
  exact hi.step hc ha

end StreamSystem

/-! ### Input streams -/

namespace InSystem

variable {σ χ : Type} {S : SessionControl σ χ} {ends : χ → Bool} {api : Api} {s s' : InSystem σ}
  {a : Act χ} {os : List Unit}

/-- The port is in use, and disabled once its session has ended. -/
structure EndedInv (s : InSystem σ) : Prop where
  inUse : ∀ i ∈ s.stream, i.bluetoothInput.inUse = true
  disabled : ∀ i ∈ s.stream, s.ended = true → i.bluetoothInput.state = .disabled

theorem EndedInv.hear (hi : EndedInv s) (a : StackAct χ) : EndedInv (s.hear S ends a) := by
  constructor
  · intro o ho
    obtain ⟨i, hst, rfl⟩ := Option.map_eq_some_iff.1 ho
    simpa using hi.inUse i hst
  · intro o ho hend
    obtain ⟨i, hst, rfl⟩ := Option.map_eq_some_iff.1 ho
    have he : (s.ended || S.endedBy ends i.bluetoothInput.cookie s.session [a]) = true := by
      simpa [InSystem.hear, hst] using hend
    exact state_notifyAll_of_endedBy (hi.inUse i hst) (hi.disabled i hst) [a] he

/-- The two functions that ask for something leave the port as `Start` and `Suspend` do. -/
theorem EndedInv.perform (hi : EndedInv s) {i r : BluetoothStreamIn} {req : Req} {w : Around χ}
    (hst : s.stream = some i)
    (hr : r.bluetoothInput = if i.bluetoothInput.state = req.source then
      (i.bluetoothInput.request req (S.ask req (w.request S s.session).isOk
        (w.request S s.session).session) (w.request S s.session)).2 else i.bluetoothInput)
    (h : s.perform S ends req w i r = some s') : EndedInv s' := by
  have hu := hi.inUse i hst
  have hne : req.source ≠ .disabled := by cases req <;> decide
  have hcookie : r.bluetoothInput.cookie = i.bluetoothInput.cookie := by
    rw [hr]
    split_ifs
    · exact BluetoothAudioPort.cookie_request
    · rfl
  unfold InSystem.perform at h
  split_ifs at h with hf
  obtain rfl := Option.some.inj h
  constructor
  · intro o ho
    obtain rfl := Option.some.inj ho
    simpa [BluetoothAudioPort.inUse, hcookie] using hu
  · intro o ho hend
    obtain rfl := Option.some.inj ho
    refine state_of_endedBy hf (fun hd => ?_) (fun req' hask hc => ?_) hend
    · have hs := hi.disabled i hst hd
      rw [hr, hs, if_neg hne.symm]
      exact hs
    · simp only [asks, Option.mem_def] at hask
      split_ifs at hask with hs
      obtain rfl := Option.some.inj hask
      rw [hr, if_pos hs]
      exact BluetoothAudioPort.request_of_changed hu hs hc

theorem EndedInv.step (hi : EndedInv s) (h : step S ends api s a = some (s', os)) : EndedInv s' := by
  cases hst : s.stream with
  | none =>
    cases a with
    | stack a =>
      obtain ⟨rfl, -⟩ := Prod.mk.inj (Option.some.inj (by simpa [step] using h))
      exact hi.hear a
    | adevOpen loaded frameSize =>
      simp only [InSystem.step, hst] at h
      obtain ⟨rfl, -⟩ := Prod.mk.inj (Option.some.inj h)
      exact ⟨fun o ho => inUse_of_adevOpenInputStream ho, fun o ho hend => by cases hend⟩
    | adevClose | read | standby => simp [InSystem.step, hst] at h
  | some i =>
    cases a with
    | stack a =>
      obtain ⟨rfl, -⟩ := Prod.mk.inj (Option.some.inj (by simpa [step] using h))
      exact hi.hear a
    | adevOpen => simp [InSystem.step, hst] at h
    | adevClose =>
      simp only [InSystem.step, hst] at h
      obtain ⟨rfl, -⟩ := Prod.mk.inj (Option.some.inj h)
      constructor
      · intro o ho
        cases ho
      · intro o ho
        cases ho
    | read readData w =>
      simp only [InSystem.step, hst, Option.map_eq_some_iff] at h
      obtain ⟨r, hr, h⟩ := h
      obtain ⟨rfl, -⟩ := Prod.mk.inj h
      exact hi.perform hst (bluetoothInput_inRead readData i) hr
    | standby w =>
      simp only [InSystem.step, hst, Option.map_eq_some_iff] at h
      obtain ⟨r, hr, h⟩ := h
      obtain ⟨rfl, -⟩ := Prod.mk.inj h
      exact hi.perform hst (bluetoothInput_inStandby i) hr

theorem endedInv_run {session : σ} {tr : List Unit}
    (h : (lts S ends api session).Reach tr s) : EndedInv s := by
  refine h.inv_state ⟨fun o ho => by simp [lts] at ho, fun o ho => by simp [lts] at ho⟩ ?_
  intro s a s' os hi _ ha
  exact hi.step ha

end InSystem

/-- **A port whose session has ended stays in `DISABLED`** until the stream is opened anew: that of an
output stream in all runs in which no `A2dpSuspended` revives it, that of an input stream in all. -/
theorem ended_stays_disabled {σ χ : Type} (S : SessionControl σ χ) (ends : χ → Bool) (api : Api)
    (isA2dp : Bool) (session : σ) :
    (∀ {tr s}, (StreamSystem.lts S ends api isA2dp session).Run StreamSystem.NotRevived tr s →
      s.ended = true → ∀ out ∈ s.stream, out.bluetoothOutput.state = .disabled) ∧
    ∀ {tr s}, (InSystem.lts S ends api session).Reach tr s →
      s.ended = true → ∀ i ∈ s.stream, i.bluetoothInput.state = .disabled := by
  constructor
  · intro tr s h he out hst
    exact (StreamSystem.endedInv_run h).disabled out hst he
  · intro tr s h he i hst
    exact (InSystem.endedInv_run h).disabled i hst he

/-- The session ends under a stream, which is then put in standby. -/
theorem ended_stays_disabled_standby : ∃ tr s, a2dpLts.Run StreamSystem.NotRevived tr s ∧
    s.stream.map (fun out => out.bluetoothOutput.state) = some .disabled := by
  obtain ⟨tr, s, h, he, hs⟩ := Lts.exists_run (M := a2dpLts) (C := StreamSystem.NotRevived)
    (P := fun _ s => s.ended = true ∧ s.stream.isSome = true)
    [.adevOpen quietConfig, .stack (.call ⟨.onSessionEnded, rfl⟩), .call .standby undisturbed] (by decide)
  obtain ⟨out, hst⟩ := Option.isSome_iff_exists.1 hs
  have hd := (ended_stays_disabled (SessionControl.aidl NoPayload) (fun c => c.1.isEnd) .aidl
    (OutStream.isA2dpType startedSession.sessionType) startedSession).1 h he out hst
  exact ⟨tr, s, h, by simp [hst, hd]⟩

/-- A lifted suspension revives the port of a session that has ended. -/
theorem revived_after_end : ∃ tr s, a2dpLts.Reach tr s ∧ s.ended = true ∧
    s.session.isSessionReady = false ∧
    s.stream.map (fun out => out.bluetoothOutput.state) = some .standby :=
  Lts.exists_run (M := a2dpLts)
    [.adevOpen quietConfig, .stack (.call ⟨.onSessionEnded, rfl⟩),
      .call (.setParameters none [("A2dpSuspended", "false")]) undisturbed] (by decide)

end TrebleDoze.Bluetooth
