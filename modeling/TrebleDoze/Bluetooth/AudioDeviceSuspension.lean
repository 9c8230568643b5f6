import TrebleDoze.Bluetooth.AudioDeviceLoop

/-!
# Suspending all streams of the Bluetooth audio device

`adev_set_parameters` with `A2dpSuspended=true` goes through the open streams while their functions, the
stack and other opens and closes go on.  When it returns, every A2DP stream that was open when it locked
the mutex is disabled, and stays so until the suspension is lifted.

* `AudioStream.Suspended`: the property of one stream, and which functions keep it;
* `SuspendedInv`: what the loop has yet to bring about, `SuspendedInv.step`: no step undoes it;
* `set_parameters_suspends`: the main result.
-/

namespace TrebleDoze.Bluetooth

open TrebleDoze.Lib

/-! ### One stream -/

/-- The port is disabled, if the stream is an output stream of an A2DP port. -/
def AudioStream.Suspended (stream : AudioStream) : Prop :=
  ∀ out, stream = .output out → out.isA2dp = true → out.bluetoothOutput.state = .disabled

/-- The parameters lift a suspension. -/
def liftsSuspension (params : AudioParams) : Bool :=
  (params.lookup "A2dpSuspended").any (· != "true")

/-- The function is handed such parameters. -/
def StreamFn.lifts : StreamFn → Bool
  | output op => op.lifts
  | read | inStandby => false

theorem BluetoothAudioPort.state_notify_of_disabled {p : BluetoothAudioPort} (hs : p.state = .disabled)
    (n : Notification) : (p.notify n).state = .disabled := by
  by_cases hu : p.inUse = true
  · rw [state_notify hu, hs, onResult_disabled, ite_self]
  · rw [notify_of_ne fun h => hu h.1]
    exact hs

/-- A suspension that has asked the stack disables the port, whatever came of it. -/
theorem StreamOp.state_leave_setParameters (audioCfg : Option UInt32) (params : AudioParams)
    (out : OutStream) : ((setParameters audioCfg params).leave out).bluetoothOutput.state = .disabled := by
  have h : ({ out with bluetoothOutput := out.bluetoothOutput.setState .disabled } :
      OutStream).bluetoothOutput.state = .disabled := rfl
  dsimp only [leave]
  rw [OutStream.stopOn_of_disabled h, OutStream.stopOn_of_disabled h]
  exact h

namespace AudioStream.Suspended

variable {stream : AudioStream} {fn : StreamFn} {req : Req} {params : AudioParams}
  {audioCfg : Option UInt32}

theorem notify (h : stream.Suspended) (n : Notification) :
    (stream.setPort (stream.port.notify n)).Suspended := by
  intro out he ha
  cases stream with
  | output out' =>
    obtain rfl := AudioStream.output.inj he
    exact BluetoothAudioPort.state_notify_of_disabled (h out' rfl ha) n
  | input port => cases he

theorem leave (h : stream.Suspended) : (fn.leave stream).Suspended := by
  intro out he ha
  cases stream with
  | input port => cases fn <;> cases he
  | output out' =>
    cases fn with
    | read | inStandby => exact h out he ha
    | output op =>
      obtain rfl := AudioStream.output.inj he
      cases op with
      | standby | pause | resume => exact h out' rfl ha
      | setParameters audioCfg params => exact StreamOp.state_leave_setParameters audioCfg params out'

theorem enter (h : stream.Suspended) (ha : fn.asks stream = some req) :
    (fn.enter req stream).Suspended := by
  intro out he hA
  cases stream with
  | input port => cases fn <;> cases he
  | output out' =>
    cases fn with
    | read | inStandby => cases ha
    | output op =>
      have hout : out'.isA2dp = true := by
        obtain rfl := AudioStream.output.inj he
        cases op with
        | standby | pause | resume => exact hA
        | setParameters audioCfg params =>
          have hload : out'.Same (out'.loadAudioConfig audioCfg params) := OutStream.same_loadAudioConfig
          exact hload.isA2dp.symm.trans hA
      simp only [StreamFn.asks] at ha
      split_ifs at ha
      have hst := StreamOp.source_of_asks ha
      rw [h out' rfl hout] at hst
      cases req <;> cases hst

theorem runIdle (h : stream.Suspended) (hl : fn.lifts = false) : (fn.runIdle stream).Suspended := by
  intro out he ha
  cases stream with
  | input port => cases fn <;> cases he
  | output out' =>
    cases fn with
    | read | inStandby => exact h out he ha
    | output op =>
      obtain rfl := AudioStream.output.inj he
      have hA : out'.isA2dp = true := by
        rw [← StreamOp.same_run.isA2dp]
        exact ha
      exact StreamOp.state_run_of_disabled (h out' rfl hA) fun _ => hl

theorem of_runIdle (hu : stream.port.inUse = true) (hp : params.lookup "A2dpSuspended" = some "true") :
    (StreamFn.runIdle (.output (.setParameters audioCfg params)) stream).Suspended := by
  intro out he ha
  cases stream with
  | input port => cases he
  | output out' =>
    obtain rfl := AudioStream.output.inj he
    have hA : out'.isA2dp = true := by
      rw [← StreamOp.same_run.isA2dp]
      exact ha
    exact StreamOp.state_run_suspended hu hA hp

theorem of_leave : (StreamFn.leave (.output (.setParameters audioCfg params)) stream).Suspended := by
  intro out he ha
  cases stream with
  | input port => cases he
  | output out' =>
    obtain rfl := AudioStream.output.inj he
    exact StreamOp.state_leave_setParameters audioCfg params out'

end AudioStream.Suspended

/-! ### All streams -/

namespace BluetoothAudioDevice

/-- No `A2dpSuspended` comes with another value than `true`. -/
def Unlifted {κ : Tag → Type} (_ : BluetoothAudioDevice κ) : Act κ → Prop
  | .setParameters params => liftsSuspension params = false
  | .call _ fn => fn.lifts = false
  | _ => True

instance {κ : Tag → Type} (s : BluetoothAudioDevice κ) (a : Act κ) : Decidable (Unlifted s a) := by
  unfold Unlifted; split <;> infer_instance

/-- The loop with these parameters is in its function on the stream. -/
def Visiting (params : AudioParams) (x : StreamObject) : Prop :=
  ∃ c audioCfg, x.call = some c ∧ c.byDevice = true ∧ c.fn = .output (.setParameters audioCfg params)

variable {κ : Tag → Type}

/-- The loop with these parameters has yet to suspend stream `i`. -/
def Awaits (params : AudioParams) (s : BluetoothAudioDevice κ) (i : ℕ) (x : StreamObject) : Prop :=
  ∃ l, s.adevLoop = some l ∧ l.params = params ∧ (i ∈ l.rest ∨ Visiting params x)

/-- While the loop with these parameters goes through the streams `ids`, and after it: what it has not yet
suspended it will, and no other loop lifts the suspension. -/
structure SuspendedInv (params : AudioParams) (ids : List ℕ) (tr : List Event)
    (s : BluetoothAudioDevice κ) : Prop where
  fresh : ∀ i ∈ ids, i < s.allocated
  unlifted : ∀ l, s.adevLoop = some l → liftsSuspension l.params = false
  stage : ∀ i ∈ ids, ∀ x, s.streams.find i = some x → x.stage = .opened ∨ x.stage = .closing
  streams : ∀ i ∈ ids, ∀ x, s.streams.find i = some x →
    x.stream.Suspended ∨ (.unlocked ∉ tr ∧ Awaits params s i x)

/-- The port of an open stream is in use, and that of one to be torn down. -/
theorem Registry.inUse {s : BluetoothAudioDevice κ} (h : Registry s) {i : ℕ} {x : StreamObject}
    (hf : s.streams.find i = some x) (hx : x.stage = .opened ∨ x.stage = .closing) :
    x.stream.port.inUse = true := by
  have hreg : x.registration = some (x.sessionType, x.stream.port.cookie) := by
    rcases hx with hx | hx <;> simp [StreamObject.registration, hx]
  obtain ⟨held, hi, hp⟩ := h.cookies
  have hmem : (x.sessionType, x.stream.port.cookie) ∈ held :=
    hp.mem_iff.2 ((mem_registrations h.nodup).2 ⟨i, x, hf, hreg⟩)
  simpa [BluetoothAudioPort.inUse] using hi.ne_undefined hmem

section

variable {s s' : BluetoothAudioDevice κ} {params : AudioParams} {ids : List ℕ} {tr os : List Event}
  {i : ℕ} {x y : StreamObject} {a : Act κ}

theorem SuspendedInv.append (h : SuspendedInv params ids tr s) (hos : .unlocked ∉ os) :
    SuspendedInv params ids (tr ++ os) s :=
  ⟨h.fresh, h.unlifted, h.stage, fun i hi x hx =>
    (h.streams i hi x hx).imp id fun ⟨hn, hw⟩ => ⟨by simp [hn, hos], hw⟩⟩

/-- A stream changes, and the loop does not: what is suspended stays so, and the loop leaves it so. -/
theorem SuspendedInv.setStream (h : SuspendedInv params ids tr s) (hf : s.streams.find i = some x)
    (hst : i ∈ ids → x.stage = .opened ∨ x.stage = .closing → y.stage = .opened ∨ y.stage = .closing)
    (hs : i ∈ ids → x.stream.Suspended → y.stream.Suspended)
    (hv : i ∈ ids → Visiting params x → y.stream.Suspended ∨ Visiting params y) :
    SuspendedInv params ids tr (s.setStream i y) := by
  refine ⟨h.fresh, h.unlifted, fun j hj z hz => ?_, fun j hj z hz => ?_⟩
  · dsimp only [BluetoothAudioDevice.setStream] at hz
    rw [Threads.find_put] at hz
    split_ifs at hz with he
    · subst he
      obtain rfl := Option.some.inj hz
      exact hst hj (h.stage j hj x hf)
    · exact h.stage j hj z hz
  · dsimp only [BluetoothAudioDevice.setStream] at hz
    rw [Threads.find_put] at hz
    split_ifs at hz with he
    · subst he
      obtain rfl := Option.some.inj hz
      rcases h.streams j hj x hf with hsus | ⟨hn, l, hl, hp, hrest | hvis⟩
      · exact .inl (hs hj hsus)
      · exact .inr ⟨hn, l, hl, hp, .inl hrest⟩
      · exact (hv hj hvis).imp id fun hvis => ⟨hn, l, hl, hp, .inr hvis⟩
    · exact h.streams j hj z hz

theorem SuspendedInv.frame (h : SuspendedInv params ids tr s) (sessions : SessionsMap κ)
    (callbacks : SessionType → ℕ → Option ℕ) (inFlight : SessionType → List Notification)
    (opened : List ℕ) :
    SuspendedInv params ids tr { s with sessions := sessions, callbacks := callbacks
                                        inFlight := inFlight, openedStreamOuts := opened } :=
  ⟨h.fresh, h.unlifted, h.stage, h.streams⟩

theorem SuspendedInv.drop (h : SuspendedInv params ids tr s) (hn : (s.streams.map Prod.fst).Nodup) :
    SuspendedInv params ids tr { s with streams := s.streams.drop i } := by
  refine ⟨h.fresh, h.unlifted, fun j hj z hz => ?_, fun j hj z hz => ?_⟩
  · rw [Threads.find_drop hn] at hz
    split_ifs at hz
    exact h.stage j hj z hz
  · rw [Threads.find_drop hn] at hz
    split_ifs at hz
    exact h.streams j hj z hz

theorem Visiting.of_call (h : Visiting params x) (hc : x.call = none) : False := by
  obtain ⟨c, audioCfg, hx, -⟩ := h
  rw [hc] at hx
  cases hx

theorem SuspendedInv.register (h : SuspendedInv params ids tr s) (hr : Registry s)
    (hf : s.streams.find i = some x) (hs : s.register i x = some (s', os)) :
    SuspendedInv params ids (tr ++ os) s' := by
  unfold BluetoothAudioDevice.register at hs
  split at hs
  · rename_i hx
    -- a stream that is being set up is none of those that were open
    have hno : i ∈ ids → False := fun hi => by
      rcases h.stage i hi x hf with hst | hst <;> exact absurd (hx.symm.trans hst) (by simp)
    have hset : ∀ cookie, SuspendedInv params ids tr (s.setStream i { x with stage := .registered cookie }) :=
      fun cookie => h.setStream hf (fun hi => (hno hi).elim) (fun hi => (hno hi).elim) fun hi => (hno hi).elim
    dsimp only at hs
    split_ifs at hs
    · obtain ⟨rfl, rfl⟩ := Prod.mk.inj (Option.some.inj hs)
      exact ((h.drop hr.nodup).frame _ _ _ _).append (by simp)
    · obtain ⟨rfl, rfl⟩ := Prod.mk.inj (Option.some.inj hs)
      exact ((hset _).frame _ _ _ _).append (by simp)
  · cases hs

theorem SuspendedInv.tearDown (h : SuspendedInv params ids tr s) (hr : Registry s)
    (hs : s.tearDown i x = some (s', os)) : SuspendedInv params ids (tr ++ os) s' := by
  unfold BluetoothAudioDevice.tearDown at hs
  by_cases hx : x.stage = .closing ∧ s.inFlight x.sessionType = []
  · rw [if_pos hx] at hs
    obtain ⟨rfl, rfl⟩ := Prod.mk.inj (Option.some.inj hs)
    exact ((h.drop hr.nodup).frame _ _ _ _).append (by simp)
  · rw [if_neg hx] at hs
    cases hs

theorem SuspendedInv.beginCall (h : SuspendedInv params ids tr s) (hf : s.streams.find i = some x)
    (hc : x.call = none) {fn : StreamFn} (hl : fn.lifts = false) :
    SuspendedInv params ids tr (s.beginCall i x fn false) := by
  unfold BluetoothAudioDevice.beginCall
  split
  · rename_i req hasks
    exact h.setStream hf (fun _ => id) (fun _ hs => hs.enter hasks) fun _ hv => (hv.of_call hc).elim
  · exact h.setStream hf (fun _ => id) (fun _ hs => hs.runIdle hl) fun _ hv => (hv.of_call hc).elim

theorem SuspendedInv.endCall (h : SuspendedInv params ids tr s) (hf : s.streams.find i = some x)
    {c : StreamCall} (hc : x.call = some c) : SuspendedInv params ids tr (s.endCall i x c) := by
  have h' : SuspendedInv params ids tr
      (s.setStream i { x with stream := c.fn.leave x.stream, call := none }) := by
    refine h.setStream hf (fun _ => id) (fun _ hs => hs.leave) fun _ hv => .inl ?_
    obtain ⟨c', audioCfg, hx, -, hfn⟩ := hv
    obtain rfl := Option.some.inj (hc.symm.trans hx)
    rw [hfn]
    exact .of_leave
  unfold BluetoothAudioDevice.endCall
  cases hb : c.byDevice with
  | false => exact h'
  | true =>
    refine ⟨h'.fresh, fun l hl => ?_, h'.stage, fun j hj z hz => (h'.streams j hj z hz).imp id ?_⟩
    · obtain ⟨l', hl', rfl⟩ := Option.map_eq_some_iff.1 hl
      exact h'.unlifted l' hl'
    · rintro ⟨hn, l, hl, hp, hw⟩
      have hl : s.adevLoop = some l := hl
      exact ⟨hn, { l with current := none }, by simp [hl], hp, hw⟩

/-- A round of a loop: of this one, which suspends the stream, or of another, which does not lift it. -/
theorem SuspendedInv.visit (h : SuspendedInv params ids tr s) (hr : Registry s)
    (hp : params.lookup "A2dpSuspended" = some "true") {audioCfg : Option UInt32} {params' : AudioParams}
    {rest : List ℕ} (hl : s.adevLoop = some ⟨params', none, i :: rest⟩) (hf : s.streams.find i = some x)
    (current : Option ℕ) : SuspendedInv params ids (tr ++ [.visited i])
      { s.beginCall i x (.output (.setParameters audioCfg params')) true with
        adevLoop := some ⟨params', current, rest⟩ } := by
  have hun : .unlocked ∉ tr → .unlocked ∉ tr ++ [.visited i] := fun hn => by simp [hn]
  have hlift : StreamFn.lifts (.output (.setParameters audioCfg params')) = false := h.unlifted _ hl
  -- the stream after the round, and that it is suspended or the loop in its function
  obtain ⟨y, hy, hstage, hys⟩ : ∃ y,
      s.beginCall i x (.output (.setParameters audioCfg params')) true = s.setStream i y ∧
        y.stage = x.stage ∧ (i ∈ ids → y.stream.Suspended ∨ .unlocked ∉ tr ∧ params' = params ∧
          Visiting params y) := by
    unfold BluetoothAudioDevice.beginCall
    cases hasks : StreamFn.asks (.output (.setParameters audioCfg params')) x.stream with
    | some req =>
      refine ⟨_, rfl, rfl, fun hi => ?_⟩
      rcases h.streams i hi x hf with hs | ⟨hn, l, hl', hpl, -⟩
      · exact .inl (hs.enter hasks)
      · obtain rfl := Option.some.inj (hl.symm.trans hl')
        exact .inr ⟨hn, hpl, _, audioCfg, rfl, rfl, by rw [← hpl]⟩
    | none =>
      refine ⟨_, rfl, rfl, fun hi => .inl ?_⟩
      rcases h.streams i hi x hf with hs | ⟨hn, l, hl', hpl, -⟩
      · exact hs.runIdle hlift
      · obtain rfl := Option.some.inj (hl.symm.trans hl')
        have hp' : params'.lookup "A2dpSuspended" = some "true" := by
          rw [show params' = params from hpl]
          exact hp
        exact .of_runIdle (hr.inUse hf (h.stage i hi x hf)) hp'
  rw [hy]
  refine ⟨h.fresh, fun l hl' => ?_, fun j hj z hz => ?_, fun j hj z hz => ?_⟩
  · obtain rfl := Option.some.inj hl'
    exact hlift
  · dsimp only [BluetoothAudioDevice.setStream] at hz
    rw [Threads.find_put] at hz
    split_ifs at hz with he
    · subst he
      obtain rfl := Option.some.inj hz
      exact hstage ▸ h.stage j hj x hf
    · exact h.stage j hj z hz
  · dsimp only [BluetoothAudioDevice.setStream] at hz
    rw [Threads.find_put] at hz
    split_ifs at hz with he
    · subst he
      obtain rfl := Option.some.inj hz
      exact (hys hj).imp id fun ⟨hn, hpp, hv⟩ => ⟨hun hn, _, rfl, hpp, .inr hv⟩
    · refine (h.streams j hj z hz).imp id fun ⟨hn, l, hl', hpl, hw⟩ => ⟨hun hn, _, rfl, ?_, ?_⟩
      · obtain rfl := Option.some.inj (hl.symm.trans hl')
        exact hpl
      · obtain rfl := Option.some.inj (hl.symm.trans hl')
        exact hw.imp (fun hm => (List.mem_cons.1 hm).resolve_left he) id

theorem SuspendedInv.step (h : SuspendedInv params ids tr s) (hr : Registry s) (hi : Listed s)
    (hp : params.lookup "A2dpSuspended" = some "true") (hu : Unlifted s a)
    (hs : s.step a = some (s', os)) : SuspendedInv params ids (tr ++ os) s' := by
  cases effect_of_step hs with
  | refuses direction devices sessions hm => exact (h.frame _ _ _ _).append (by simp)
  | creates direction devices t ht =>
    -- the new stream is none of those that were open
    have hnew : ∀ j ∈ ids, j ≠ s.allocated := fun j hj => Nat.ne_of_lt (h.fresh j hj)
    refine SuspendedInv.append ?_ (by simp)
    refine ⟨fun j hj => Nat.lt_succ_of_lt (h.fresh j hj), h.unlifted, fun j hj z hz => ?_,
      fun j hj z hz => ?_⟩
    · dsimp only [BluetoothAudioDevice.setStream] at hz
      rw [Threads.find_put, if_neg (hnew j hj)] at hz
      exact h.stage j hj z hz
    · dsimp only [BluetoothAudioDevice.setStream] at hz
      rw [Threads.find_put, if_neg (hnew j hj)] at hz
      exact h.streams j hj z hz
  | registers i x s' os hf hs => exact h.register hr hf hs
  | loads i x config loaded cookie stage stream os hf hx hc hd hstage hos =>
    have hno : i ∈ ids → False := fun hj => by
      rcases h.stage i hj x hf with hst | hst <;> exact absurd (hx.symm.trans hst) (by simp)
    refine SuspendedInv.append ?_ (by rcases hos with rfl | rfl <;> simp)
    exact h.setStream hf (fun hj => (hno hj).elim) (fun hj => (hno hj).elim) fun hj => (hno hj).elim
  | publishes i x hf hx hl =>
    have hset : SuspendedInv params ids tr (s.setStream i { x with stage := .opened }) :=
      h.setStream hf (fun _ _ => .inl rfl) (fun _ => id) fun _ => .inr
    exact (hset.frame _ _ _ _).append (by simp)
  | removes i x hf hx hl =>
    have hset : SuspendedInv params ids tr (s.setStream i { x with stage := .closing }) :=
      h.setStream hf (fun _ _ => .inr rfl) (fun _ => id) fun _ => .inr
    exact (hset.frame _ _ _ _).append (by simp)
  | closes i x hf hx hd =>
    have hset : SuspendedInv params ids tr (s.setStream i { x with stage := .closing }) :=
      h.setStream hf (fun _ _ => .inr rfl) (fun _ => id) fun _ => .inr
    exact hset.append (by simp)
  | tearsDown i x s' os hf hs => exact h.tearDown hr hs
  | declines => exact h.append (by simp)
  | locks params' hl =>
    refine SuspendedInv.append ?_ (by simp)
    refine ⟨h.fresh, fun l hl' => ?_, h.stage, fun j hj z hz => ?_⟩
    · obtain rfl := Option.some.inj hl'
      exact hu
    · rcases h.streams j hj z hz with hsus | ⟨-, l, hl', -⟩
      · exact .inl hsus
      · rw [hl] at hl'
        cases hl'
  | visits audioCfg params' i rest x hl hf hc => exact h.visit hr hp hl hf _
  | misses audioCfg params' i rest hl hf =>
    refine SuspendedInv.append ?_ (by simp)
    have hlift := h.unlifted _ hl
    refine ⟨h.fresh, fun l hl' => ?_, h.stage, fun j hj z hz => (h.streams j hj z hz).imp id ?_⟩
    · obtain rfl := Option.some.inj hl'
      exact hlift
    · rintro ⟨hn, l, hl', hpl, hw⟩
      obtain rfl := Option.some.inj (hl.symm.trans hl')
      refine ⟨hn, _, rfl, hpl, hw.imp (fun hm => (List.mem_cons.1 hm).resolve_left ?_) id⟩
      rintro rfl
      rw [hf] at hz
      cases hz
  | unlocks params' hl =>
    refine ⟨h.fresh, by simp, h.stage, fun j hj z hz => .inl ?_⟩
    rcases h.streams j hj z hz with hsus | ⟨-, l, hl', -, hrest | ⟨c, -, hc, hb, -⟩⟩
    · exact hsus
    · obtain rfl := Option.some.inj (hl.symm.trans hl')
      cases hrest
    · -- the loop is in no function when it ends
      obtain ⟨l', hl₂, hcur⟩ := hi.current hz hc hb
      obtain rfl := Option.some.inj (hl.symm.trans hl₂)
      cases hcur
  | calls i fn x hf hx hc => exact (h.beginCall hf hc hu).append (by simp)
  | asks i isOk x c hf hc =>
    have hset : SuspendedInv params ids tr (s.setStream i { x with call := some { c with asked := true } }) := by
      refine h.setStream hf (fun _ => id) (fun _ => id) fun _ hv => .inr ?_
      obtain ⟨c', audioCfg, hx, hb, hfn⟩ := hv
      obtain rfl := Option.some.inj (hc.symm.trans hx)
      exact ⟨_, audioCfg, rfl, hb, hfn⟩
    exact (hset.frame _ _ _ _).append (by simp)
  | ends a i x c sessions hm hf hc => exact ((h.endCall hf hc).frame sessions _ _ _).append (by simp)
  | acts t a => exact (h.frame _ _ _ _).append (by simp)
  | passes t n rest hn hc => exact (h.frame _ _ _ _).append (by simp)
  | delivers t n rest i x hn hf =>
    have hset : SuspendedInv params ids tr
        (s.setStream i { x with stream := x.stream.setPort (x.stream.port.notify n) }) :=
      h.setStream hf (fun _ => id) (fun _ hs => hs.notify n) fun _ => .inr
    exact (hset.frame _ _ _ _).append (by simp)
  | dangles t n rest i hn hc hf => exact (h.frame _ _ _ _).append (by simp)

theorem suspendedInv_locked (hi : Listed s) (hp : params.lookup "A2dpSuspended" = some "true")
    (hr : Registry s) (hs : s.step (.setParameters params) = some (s', os)) :
    SuspendedInv params s.openedStreamOuts [] s' := by
  dsimp only [BluetoothAudioDevice.step, BluetoothAudioDevice.setParameters] at hs
  have hne : params.isEmpty = false := by
    cases params with
    | nil => cases hp
    | cons => rfl
  rw [hne, hp] at hs
  simp only [Bool.false_eq_true, Option.isNone_some, false_and, if_false] at hs
  split_ifs at hs
  obtain ⟨rfl, -⟩ := Prod.mk.inj (Option.some.inj hs)
  refine ⟨fun i hm => ?_, fun l hl => ?_, fun i hm x hx => ?_, fun i hm x hx => .inr ⟨by simp, ?_⟩⟩
  · obtain ⟨x, hx, -⟩ := hi.mem.1 hm
    exact hr.fresh hx
  · obtain rfl := Option.some.inj hl
    simp [liftsSuspension, hp]
  · obtain ⟨y, hy, hlisted⟩ := hi.mem.1 hm
    obtain rfl := Option.some.inj (hx.symm.trans hy)
    exact .inl (listed_iff.1 hlisted).1
  · exact ⟨_, rfl, rfl, .inl hm⟩

theorem suspendedInv_run {s₁ : BluetoothAudioDevice κ} (hr : Registry s₁) (hi : Listed s₁)
    (hp : params.lookup "A2dpSuspended" = some "true") (h₁ : SuspendedInv params ids [] s₁)
    (h : ((lts κ).startAt s₁).Run Unlifted tr s) : SuspendedInv params ids tr s := by
  have hall := h.inv (I := fun tr s => Registry s ∧ Listed s ∧ SuspendedInv params ids tr s)
    ⟨hr, hi, h₁⟩ fun ⟨hr, hi, hsus⟩ hu hs => ⟨hr.step hs, hi.step hr hs, hsus.step hr hi hp hu hs⟩
  exact hall.2.2

end

end BluetoothAudioDevice

/-- **`A2dpSuspended=true` suspends the device.**  From every reachable state, and whatever else goes on
meanwhile, when `adev_set_parameters` has returned the A2DP streams that were open when it locked the mutex
are disabled, as far as they are still there, and they stay so until the parameter comes with another
value. -/
theorem set_parameters_suspends {s s₁ s₂ : BluetoothAudioDevice κ}
    {tr os tr₂ : List BluetoothAudioDevice.Event} {params : AudioParams}
    (h : (BluetoothAudioDevice.lts κ).Reach tr s)
    (hp : params.lookup "A2dpSuspended" = some "true")
    (hs : s.step (.setParameters params) = some (s₁, os))
    (h₂ : ((BluetoothAudioDevice.lts κ).startAt s₁).Run BluetoothAudioDevice.Unlifted tr₂ s₂)
    (hu : .unlocked ∈ tr₂) :
    ∀ i ∈ s.openedStreamOuts, ∀ x out, s₂.streams.find i = some x → x.stream = .output out →
      out.isA2dp = true → out.bluetoothOutput.state = .disabled := by
  have hi := BluetoothAudioDevice.deviceInv_run h
  have h₁ := BluetoothAudioDevice.suspendedInv_locked hi.listed hp hi.registry hs
  have hfin := BluetoothAudioDevice.suspendedInv_run (hi.registry.step hs)
    (hi.listed.step hi.registry hs) hp h₁ h₂
  intro i hm x out hx hout hA
  rcases hfin.streams i hm x hx with hsus | ⟨hn, -⟩
  · exact hsus out hout hA
  · exact absurd hu hn

/-- Stream 0 plays, stream 1 does not. -/
def playOne : List (BluetoothAudioDevice.Act NoPayload) :=
  [startSession .a2dpSoftwareEncoding] ++ openOutput 0 .outBluetoothA2dp ++
    openOutput 1 .outBluetoothA2dp ++ [.call 0 (.output .resume), .ask 0 true,
    .stack .a2dpSoftwareEncoding (.report true .success), .deliver .a2dpSoftwareEncoding,
    .deliver .a2dpSoftwareEncoding, .wake 0 false]

/-- The loop waits for the stack on stream 0 when stream 1 is started, and a stream is opened; the stack
does not answer. -/
def suspendBoth : List (BluetoothAudioDevice.Act NoPayload) :=
  [.visit none, .ask 0 true, .call 1 (.output .resume), .ask 1 true,
    .adevOpen .output .outBluetoothA2dp, .wake 0 true, .wake 1 true, .visit none, .unlock,
    .call 1 (.output .resume)]

theorem set_parameters_suspends_both :
    ∃ tr, ∃ s s₁ s₂ : BluetoothAudioDevice NoPayload, ∃ os tr₂,
      (BluetoothAudioDevice.lts NoPayload).Reach tr s ∧
      s.step (.setParameters [("A2dpSuspended", "true")]) = some (s₁, os) ∧
      ((BluetoothAudioDevice.lts NoPayload).startAt s₁).Run BluetoothAudioDevice.Unlifted tr₂ s₂ ∧
      tr₂ = [.visited 0, .visited 1, .unlocked] ∧
      ∀ i ∈ s.openedStreamOuts, ∀ x out, s₂.streams.find i = some x → x.stream = .output out →
        out.isA2dp = true → out.bluetoothOutput.state = .disabled := by
  obtain ⟨tr, s, h, hs⟩ := Lts.exists_run (M := BluetoothAudioDevice.lts NoPayload)
    (C := fun _ _ => True) (P := fun _ s =>
      ((s.step (.setParameters [("A2dpSuspended", "true")])).any fun r =>
        (((BluetoothAudioDevice.lts NoPayload).startAt r.1).exec BluetoothAudioDevice.Unlifted
          suspendBoth r.1).any fun q => q.1 = [.visited 0, .visited 1, .unlocked]) = true)
    playOne (by decide)
  obtain ⟨⟨s₁, os⟩, hs, he⟩ := (Option.any_eq_true _ _).1 hs
  obtain ⟨⟨tr₂, s₂⟩, he, htr₂⟩ := (Option.any_eq_true _ _).1 he
  have h₂ : ((BluetoothAudioDevice.lts NoPayload).startAt s₁).Run BluetoothAudioDevice.Unlifted tr₂ s₂ :=
    Lts.run_of_exec he
  have htr : tr₂ = [.visited 0, .visited 1, .unlocked] := by simpa using htr₂
  exact ⟨tr, s, s₁, s₂, os, tr₂, h, hs, h₂, htr,
    set_parameters_suspends h rfl hs h₂ (by simp [htr])⟩

end TrebleDoze.Bluetooth
