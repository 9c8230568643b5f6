import TrebleDoze.Bluetooth.StreamSystem

/-!
# An input stream and the stack

The runs of one input stream: it is opened, read from, put in standby and closed, and the stack acts at
any time.  `in_read` and `in_standby` wait for the port to settle before and after they work on it; the
waiting leaves the port alone, so that what the stack does then is a step of its own.

* `inStandby`: the function of `hw/stream_apis.cc`, next to `inRead`;
* `bluetoothInput_inRead`, `bluetoothInput_inStandby`: what they do to the port when nothing is said in
  their waits.
-/

namespace TrebleDoze.Bluetooth

open TrebleDoze.Lib

section

variable {σ χ : Type} (S : SessionControl σ χ) (r : Request σ)

/-- `in_standby`; `polls` and `polls'` are what the port is told in its two waits. -/
def inStandby (polls polls' : ℕ → List Notification) (i : BluetoothStreamIn) : ℤ × BluetoothStreamIn :=
  let (settled, port) := inStateTransitionTimeout polls .starting kBluetoothDefaultInputStateTimeoutMs
    i.bluetoothInput
  if !settled then (0, { i with bluetoothInput := port })
  else
    let (retval, port, done) :=
      if port.state = .started then
        let (ok, port) := port.suspend S r
        (if ok then 0 else - EIO, port, false)
      else (0, port, decide (port.state ≠ .suspending))
    if done then (retval, { i with bluetoothInput := port })
    else
      let (settled, port) := inStateTransitionTimeout polls' .suspending
        kBluetoothDefaultInputStateTimeoutMs port
      (if settled then retval else 0, { i with bluetoothInput := port })

/-- `adev_open_input_stream`; `loaded` is what `LoadAudioConfig` returns.  The destructor of the port
tears it down. -/
def adevOpenInputStream (api : Api) (loaded : Bool) (frameSize : ℕ) (s : σ) :
    σ × Option BluetoothStreamIn :=
  let (ok, s, port) := (BluetoothAudioPort.create api).setUp S s
  if !ok then (s, none)
  else if !loaded then ((port.tearDown S s).1, none)
  else (s, some ⟨port, 0, frameSize⟩)

/-- `adev_close_input_stream`; the session that is left. -/
def adevCloseInputStream (i : BluetoothStreamIn) (s : σ) : σ :=
  let port := if i.bluetoothInput.state ≠ .disabled then i.bluetoothInput.stop else i.bluetoothInput
  (port.tearDown S s).1

variable {S r}

theorem inUse_of_adevOpenInputStream {api : Api} {loaded : Bool} {frameSize : ℕ} {s : σ}
    {i : BluetoothStreamIn} (h : (adevOpenInputStream S api loaded frameSize s).2 = some i) :
    i.bluetoothInput.inUse = true := by
  dsimp only [adevOpenInputStream] at h
  split_ifs at h with hok
  obtain rfl := Option.some.inj h
  exact BluetoothAudioPort.inUse_setUp (by simpa using hok)

theorem inStateTransitionTimeout_silent (state : BluetoothStreamState) (t : ℕ) (p : BluetoothAudioPort) :
    (inStateTransitionTimeout (fun _ => []) state t p).2 = p := by
  induction t with
  | zero => rfl
  | succ t ih =>
    rw [inStateTransitionTimeout]
    split_ifs
    · exact ih
    · rfl

/-- Where nothing is said in its waits, `in_read` asks for a start in `STANDBY`, and else leaves the port
alone. -/
theorem bluetoothInput_inRead (readData : ℕ) (i : BluetoothStreamIn) :
    (inRead S r (fun _ => []) readData i).2.bluetoothInput =
      if i.bluetoothInput.state = .standby then (i.bluetoothInput.start S r).2
      else i.bluetoothInput := by
  unfold inRead
  by_cases hs : i.bluetoothInput.state = .starting
  · rw [inStateTransitionTimeout_stuck hs]
    simp [hs]
  · rw [inStateTransitionTimeout_settled hs (by decide)]
    by_cases hb : i.bluetoothInput.state = .standby
    · simp only [hb, Bool.not_true, Bool.false_eq_true, if_false, if_true, ne_eq, reduceCtorEq,
        not_false_eq_true]
      split_ifs <;> rfl
    · simp only [hb, Bool.not_true, Bool.false_eq_true, if_false, ne_eq]
      split_ifs <;> rfl

/-- Likewise `in_standby` asks for a suspension in `STARTED`. -/
theorem bluetoothInput_inStandby (i : BluetoothStreamIn) :
    (inStandby S r (fun _ => []) (fun _ => []) i).2.bluetoothInput =
      if i.bluetoothInput.state = .started then (i.bluetoothInput.suspend S r).2
      else i.bluetoothInput := by
  unfold inStandby
  by_cases hs : i.bluetoothInput.state = .starting
  · rw [inStateTransitionTimeout_stuck hs]
    simp [hs]
  · rw [inStateTransitionTimeout_settled hs (by decide)]
    by_cases hb : i.bluetoothInput.state = .started
    · simp only [hb, Bool.not_true, Bool.false_eq_true, if_false, if_true]
      exact inStateTransitionTimeout_silent _ _ _
    · simp only [hb, Bool.not_true, Bool.false_eq_true, if_false]
      split_ifs
      · rfl
      · exact inStateTransitionTimeout_silent _ _ _
      · exact inStateTransitionTimeout_silent _ _ _

end

/-- The session, the stream if it is open, and whether the session has ended since the port was set up,
which the source does not keep. -/
structure InSystem (σ : Type) where
  session : σ
  stream : Option BluetoothStreamIn
  ended : Bool

namespace InSystem

/-- The actions of the system. -/
inductive Act (χ : Type) where
  | stack (a : StackAct χ)
  | adevOpen (loaded : Bool) (frameSize : ℕ)
  | adevClose
  | read (readData : ℕ) (w : Around χ)
  | standby (w : Around χ)

section

variable {σ χ : Type} (S : SessionControl σ χ) (ends : χ → Bool) (api : Api)

/-- An act of the stack. -/
def hear (a : StackAct χ) (s : InSystem σ) : InSystem σ where
  session := (S.acts s.session [a]).1
  stream := s.stream.map fun i =>
    { i with bluetoothInput := i.bluetoothInput.notifyAll (S.acts s.session [a]).2 }
  ended := s.ended ||
    s.stream.any fun i => S.endedBy ends i.bluetoothInput.cookie s.session [a]

/-- What a function asks for that asks in the state `req.source`. -/
def asks (req : Req) (i : BluetoothStreamIn) : Option Req :=
  if i.bluetoothInput.state = req.source then some req else none

/-- Such a function, which leaves the stream `r`. -/
def perform (req : Req) (w : Around χ) (i : BluetoothStreamIn) (r : BluetoothStreamIn)
    (s : InSystem σ) : Option (InSystem σ) :=
  if w.fits S s.session (asks req i) then
    let acts := w.before ++ w.during
    some { session := (S.acts s.session acts).1
           stream := some r
           ended := s.ended || S.endedBy ends i.bluetoothInput.cookie s.session acts }
  else none

def step (s : InSystem σ) (a : Act χ) : Option (InSystem σ × List Unit) :=
  match s.stream, a with
  | _, .stack a => some (s.hear S ends a, [])
  | none, .adevOpen loaded frameSize =>
    let r := adevOpenInputStream S api loaded frameSize s.session
    some (⟨r.1, r.2, false⟩, [])
  | some i, .adevClose => some ({ s with session := adevCloseInputStream S i s.session, stream := none }, [])
  | some i, .read readData w =>
    (s.perform S ends .start w i
      (inRead S (w.request S s.session) (fun _ => []) readData i).2).map (·, [])
  | some i, .standby w =>
    (s.perform S ends .suspend w i
      (inStandby S (w.request S s.session) (fun _ => []) (fun _ => []) i).2).map (·, [])
  | _, _ => none

/-- The session with no stream on it yet. -/
def lts (session : σ) : Lts (InSystem σ) (Act χ) Unit where
  init := ⟨session, none, false⟩
  step := step S ends api

end

end InSystem

end TrebleDoze.Bluetooth
