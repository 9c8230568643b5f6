import Mathlib.Data.Int.Notation
import TrebleDoze.Bluetooth.Port

/-!
# The streams of the audio HAL, and refused requests

`out_standby`, `out_pause`, `out_resume` and `in_read` of `hw/stream_apis.cc` look at the state of the
port first, and answer `EBUSY` while it is in transition (`allBusy_iff`).  A request that
`StartStream` or `SuspendStream` refuses leaves the port in just such a state, unless a callback moves
it on in the meantime (`refused_settles`, `refused_stuck`).

The frames that a stream counts are natural numbers here, and `uint64_t` in the source: that they
overflow is left out.
-/

namespace TrebleDoze.Bluetooth

def EIO : ℤ := 5
def EBUSY : ℤ := 16
def EINVAL : ℤ := 22

/-- `kBluetoothDefaultInputStateTimeoutMs`. -/
def kBluetoothDefaultInputStateTimeoutMs : ℕ := 20

/-- The members of `BluetoothStreamOut` that the functions here use. -/
structure BluetoothStreamOut where
  bluetoothOutput : BluetoothAudioPort
  framesRendered : ℕ

/-- The members of `BluetoothStreamIn` that `in_read` uses, with its frame size in bytes. -/
structure BluetoothStreamIn where
  bluetoothInput : BluetoothAudioPort
  framesPresented : ℕ
  frameSize : ℕ

section

variable {σ χ : Type} (S : SessionControl σ χ) (r : Request σ)

/-- The body of `out_standby` and of `out_pause`. -/
def outSuspend (out : BluetoothStreamOut) : ℤ × BluetoothStreamOut :=
  if out.bluetoothOutput.state = .started then
    let (ok, port) := out.bluetoothOutput.suspend S r
    (if ok then 0 else - EIO, { bluetoothOutput := port, framesRendered := 0 })
  else if out.bluetoothOutput.state = .starting ∨ out.bluetoothOutput.state = .suspending then
    (-EBUSY, out)
  else (0, out)

/-- `out_standby`. -/
def outStandby (out : BluetoothStreamOut) : ℤ × BluetoothStreamOut := outSuspend S r out

/-- `out_pause`. -/
def outPause (out : BluetoothStreamOut) : ℤ × BluetoothStreamOut := outSuspend S r out

/-- `out_resume`. -/
def outResume (out : BluetoothStreamOut) : ℤ × BluetoothStreamOut :=
  if out.bluetoothOutput.state = .standby then
    let (ok, port) := out.bluetoothOutput.start S r
    (if ok then 0 else - EIO, { out with bluetoothOutput := port })
  else if out.bluetoothOutput.state = .starting ∨ out.bluetoothOutput.state = .suspending then
    (-EBUSY, out)
  else if out.bluetoothOutput.state = .disabled then (-EINVAL, out)
  else (0, out)

theorem bluetoothOutput_outSuspend (out : BluetoothStreamOut) :
    (outSuspend S r out).2.bluetoothOutput =
      if out.bluetoothOutput.state = .started then (out.bluetoothOutput.suspend S r).2
      else out.bluetoothOutput := by
  unfold outSuspend
  split_ifs <;> rfl

theorem bluetoothOutput_outResume (out : BluetoothStreamOut) :
    (outResume S r out).2.bluetoothOutput =
      if out.bluetoothOutput.state = .standby then (out.bluetoothOutput.start S r).2
      else out.bluetoothOutput := by
  unfold outResume
  split_ifs <;> rfl

/-- `in_state_transition_timeout`, for a timeout of at least one ms; `polls t` is what the port is
told in the poll that leaves `t` ms. -/
def inStateTransitionTimeout (polls : ℕ → List Notification) (state : BluetoothStreamState) :
    ℕ → BluetoothAudioPort → Bool × BluetoothAudioPort
  | 0, p => (false, p)
  | t + 1, p =>
    if p.state = state then inStateTransitionTimeout polls state t (p.notifyAll (polls t))
    else (true, p)

/-- `in_read`; `readData` is what `ReadData` returns. -/
def inRead (polls : ℕ → List Notification) (readData : ℕ) (i : BluetoothStreamIn) :
    ℤ × BluetoothStreamIn :=
  let (settled, port) := inStateTransitionTimeout polls .starting kBluetoothDefaultInputStateTimeoutMs
    i.bluetoothInput
  if !settled then (-EBUSY, { i with bluetoothInput := port })
  else
    let (retval, port) :=
      if port.state ≠ .started then
        if port.state = .standby then
          let (ok, port) := port.start S r
          (if ok then 0 else - EIO, port)
        else if port.state = .suspending then (-EBUSY, port)
        else if port.state = .disabled then (-EINVAL, port)
        else (0, port)
      else (0, port)
    if retval ≠ 0 then (retval, { i with bluetoothInput := port })
    else (readData, { i with bluetoothInput := port
                             framesPresented := i.framesPresented + readData / i.frameSize })

/-! ### Busy streams -/

/-- The four functions answer `EBUSY`, if nobody tells the port anything. -/
structure AllBusy (p : BluetoothAudioPort) : Prop where
  standby : ∀ n, (outStandby S r ⟨p, n⟩).1 = -EBUSY
  pause : ∀ n, (outPause S r ⟨p, n⟩).1 = -EBUSY
  resume : ∀ n, (outResume S r ⟨p, n⟩).1 = -EBUSY
  read : ∀ readData n frameSize,
    (inRead S r (fun _ => []) readData ⟨p, n, frameSize⟩).1 = -EBUSY

variable {S r} {p : BluetoothAudioPort}

theorem inStateTransitionTimeout_stuck {state : BluetoothStreamState} (h : p.state = state) (t : ℕ) :
    inStateTransitionTimeout (fun _ => []) state t p = (false, p) := by
  induction t with
  | zero => rfl
  | succ t ih =>
    rw [inStateTransitionTimeout, if_pos h]
    exact ih

theorem inStateTransitionTimeout_settled {polls : ℕ → List Notification}
    {state : BluetoothStreamState} (h : p.state ≠ state) {t : ℕ} (ht : 0 < t) :
    inStateTransitionTimeout polls state t p = (true, p) := by
  obtain ⟨t, rfl⟩ := Nat.exists_eq_succ_of_ne_zero (by omega : t ≠ 0)
  rw [Nat.succ_eq_add_one, inStateTransitionTimeout, if_neg h]

theorem allBusy_iff : AllBusy S r p ↔ p.state = .starting ∨ p.state = .suspending := by
  constructor
  · intro h
    have hp := h.pause 0
    have hr := h.resume 0
    cases hs : p.state with
    | starting => exact .inl rfl
    | suspending => exact .inr rfl
    | standby | disabled | unknown => simp [outPause, outSuspend, hs, EBUSY] at hp
    | started => simp [outResume, hs, EBUSY] at hr
  · intro h
    have hne : p.state ≠ .started := by rcases h with h | h <;> simp [h]
    have hne' : p.state ≠ .standby := by rcases h with h | h <;> simp [h]
    refine ⟨fun n => by simp [outStandby, outSuspend, hne, h],
      fun n => by simp [outPause, outSuspend, hne, h],
      fun n => by simp [outResume, hne', h], fun readData n frameSize => ?_⟩
    unfold inRead
    rcases h with h | h
    · rw [inStateTransitionTimeout_stuck h]
      rfl
    · rw [inStateTransitionTimeout_settled (by simp [h]) (by decide)]
      simp [h, EBUSY]

/-! ### Refused requests -/

variable (S r p)

/-- If `StartStream` refuses a `Start`, the port is back in `STANDBY`, and the streams are not busy. -/
def StartSettles : Prop :=
  p.Refused S .start r → (p.start S r).2.state = .standby ∧ ¬ AllBusy S r (p.start S r).2

/-- If `SuspendStream` refuses a `Suspend`, the port is not in `SUSPENDING`, and the streams are not
busy. -/
def SuspendSettles : Prop :=
  p.Refused S .suspend r →
    (p.suspend S r).2.state ≠ .suspending ∧ ¬ AllBusy S r (p.suspend S r).2

variable {S r p}

theorem startSettles_of_refused (h : p.Refused S .start r) :
    StartSettles S r p ↔ p.failedMeanwhile r.meanwhile = true := by
  have hiff : (p.start S r).2.state = .standby ↔ p.failedMeanwhile r.meanwhile = true := by
    rw [show p.start S r = _ from BluetoothAudioPort.request_of_refused h]
    exact BluetoothAudioPort.notifyAll_starting (p := { p with state := .starting }) h.1 rfl
  unfold StartSettles
  rw [← hiff, allBusy_iff]
  constructor
  · intro hs
    exact (hs h).1
  · intro hs _
    exact ⟨hs, by simp [hs]⟩

theorem suspendSettles_of_refused (h : p.Refused S .suspend r) :
    SuspendSettles S r p ↔ p.heard r.meanwhile = true := by
  unfold SuspendSettles
  rw [show p.suspend S r = _ from BluetoothAudioPort.request_of_refused h, allBusy_iff]
  constructor
  · intro hs
    by_contra hn
    have hq := BluetoothAudioPort.notifyAll_of_not_heard (p := { p with state := .suspending }) h.1
      (eq_false_of_ne_true hn)
    exact (hs h).1 hq
  · intro hh _
    have hq := BluetoothAudioPort.notifyAll_suspending (p := { p with state := .suspending }) h.1 rfl hh
    rcases hq with hq | hq <;> simp [Req.transient, hq]

end

/-- **A request settles exactly when it is granted**, or when what the port is told in the meantime
settles it: for a `Start` that the stack reports a failure, for a `Suspend` anything. -/
theorem refused_settles {σ χ : Type} (S : SessionControl σ χ) (r : Request σ)
    (p : BluetoothAudioPort) :
    (StartSettles S r p ↔ p.Granted S .start r ∨ p.failedMeanwhile r.meanwhile = true) ∧
      (SuspendSettles S r p ↔ p.Granted S .suspend r ∨ p.heard r.meanwhile = true) := by
  constructor
  · rw [← BluetoothAudioPort.not_refused_iff]
    by_cases h : p.Refused S .start r
    · rw [startSettles_of_refused h]
      simp [h]
    · exact iff_of_true (fun h' => absurd h' h) (.inl h)
  · rw [← BluetoothAudioPort.not_refused_iff]
    by_cases h : p.Refused S .suspend r
    · rw [suspendSettles_of_refused h]
      simp [h]
    · exact iff_of_true (fun h' => absurd h' h) (.inl h)

/-- The A2DP session that the stack has started. -/
def startedSession : BluetoothAudioSession NoPayload :=
  ((BluetoothAudioSession.create .a2dpSoftwareEncoding).onSessionStarted (some 1) (some ⟨0, true⟩)
    ⟨.pcmConfig, ()⟩ []).1

/-- A port just set up on it. -/
def freshPort : BluetoothAudioPort :=
  ((BluetoothAudioPort.create .aidl).setUp (SessionControl.aidl NoPayload) startedSession).2.2

/-- The stack does not answer the request. -/
def unanswered : Request (BluetoothAudioSession NoPayload) := ⟨startedSession, false, [], []⟩

/-- A `Start` that is not answered leaves the port in `STARTING`, and all streams busy. -/
theorem refused_stuck : freshPort.Refused (SessionControl.aidl NoPayload) .start unanswered ∧
    (freshPort.start (SessionControl.aidl NoPayload) unanswered).1 = false ∧
    (freshPort.start (SessionControl.aidl NoPayload) unanswered).2.state = .starting ∧
    AllBusy (SessionControl.aidl NoPayload) unanswered
      (freshPort.start (SessionControl.aidl NoPayload) unanswered).2 ∧
    ¬ StartSettles (SessionControl.aidl NoPayload) unanswered freshPort := by
  have h : freshPort.Refused (SessionControl.aidl NoPayload) .start unanswered := by decide
  have hs : (freshPort.start (SessionControl.aidl NoPayload) unanswered).2.state = .starting := by
    decide
  refine ⟨h, by decide, hs, allBusy_iff.2 (.inl hs), fun hq => ?_⟩
  rw [(hq h).1] at hs
  cases hs

end TrebleDoze.Bluetooth
