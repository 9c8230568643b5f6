import TrebleDoze.Bluetooth.SessionControl

/-!
# The ports of the audio HAL

`BluetoothAudioPortAidl` (`hw/device_port_proxy.cc`) and `BluetoothAudioPortHidl`
(`hw/device_port_proxy_hidl.cc`) are one machine: they differ in the statuses that take a port out of
`STARTED` (`Api.leavesStarted`).  The callbacks that the session invokes change `state_` under
`cv_mutex_` while another thread is in `Start` or `Suspend`: what reaches the port then is an argument
of these (`Request`).  In the source a function may read `state_` and write it without the mutex (the
check of `Start` and its write, a handler against `Stop` or `SetState`); such a read and write are one
step here.

* `notifyAll_of_changed`, `notifyAll_of_not_changed`: where a list of notifications takes a port;
* `request_of_refused`: a refused call leaves the port where they take it from the state of transition.
-/

namespace TrebleDoze.Bluetooth

/-- `BluetoothStreamState`. -/
inductive BluetoothStreamState where
  | disabled | standby | starting | started | suspending | unknown
  deriving DecidableEq, Repr

/-- The interface of a port. -/
inductive Api where
  | aidl | hidl
  deriving DecidableEq, Repr

/-- The statuses on which `ControlResultHandler` takes a port from `STARTED` to `STANDBY`. -/
def Api.leavesStarted : Api → BluetoothAudioStatus → Bool
  | .aidl, status => status == .reconfiguration || status == .success
  | .hidl, status => status == .success

/-- The members of a port; its session type is that of the session it is used with. -/
structure BluetoothAudioPort where
  api : Api
  cookie : ℕ
  state : BluetoothStreamState
  deriving DecidableEq, Repr

/-- The two calls that ask the stack for something and wait for its answer. -/
inductive Req where
  | start | suspend
  deriving DecidableEq, Repr

/-- The state in which the call asks. -/
def Req.source : Req → BluetoothStreamState
  | start => .standby
  | suspend => .started

/-- The state in which it waits. -/
def Req.transient : Req → BluetoothStreamState
  | start => .starting
  | suspend => .suspending

/-- What the call asks the session. -/
def SessionControl.ask {σ χ : Type} (S : SessionControl σ χ) : Req → Bool → σ → Bool
  | .start => S.startStream
  | .suspend => S.suspendStream

theorem SessionControl.ask_eq {σ χ : Type} (S : SessionControl σ χ) (req : Req) (isOk : Bool) (s : σ) :
    S.ask req isOk s = (S.isSessionReady s && isOk) := by
  cases req with
  | start => exact S.startStream_eq isOk s
  | suspend => exact S.suspendStream_eq isOk s

/-- What a `Start` or a `Suspend` meets: the session and the answer of the stack when it asks for the
stream, what the session tells its observers before that, and what it tells them during the wait. -/
structure Request (σ : Type) where
  session : σ
  isOk : Bool
  meanwhile : List Notification
  waiting : List Notification

namespace BluetoothAudioPort

/-- The constructor. -/
def create (api : Api) : BluetoothAudioPort where
  api := api
  cookie := kObserversCookieUndefined
  state := .disabled

/-- `in_use`. -/
def inUse (p : BluetoothAudioPort) : Bool := p.cookie != kObserversCookieUndefined

/-! ### The callbacks -/

/-- The switch of `ControlResultHandler`: the state after `status`. -/
def onResult (api : Api) (state : BluetoothStreamState) (status : BluetoothAudioStatus) :
    BluetoothStreamState :=
  match state with
  | .started => if api.leavesStarted status then .standby else .started
  | .starting => if status = .success then .started else .standby
  | .suspending => if status = .success then .standby else .disabled
  | .disabled | .standby | .unknown => state

/-- `ControlResultHandler`. -/
def controlResultHandler (status : BluetoothAudioStatus) (p : BluetoothAudioPort) :
    BluetoothAudioPort :=
  if !p.inUse then p else { p with state := onResult p.api p.state status }

/-- `SessionChangedHandler`. -/
def sessionChangedHandler (p : BluetoothAudioPort) : BluetoothAudioPort :=
  if !p.inUse then p else { p with state := .disabled }

/-- `control_result_cb` of `SetUp`; nothing reads `start_resp`. -/
def controlResultCb (cookie : ℕ) (_startResp : Bool) (status : BluetoothAudioStatus)
    (p : BluetoothAudioPort) : BluetoothAudioPort :=
  if !p.inUse then p
  else if p.cookie ≠ cookie then p
  else p.controlResultHandler status

/-- `session_changed_cb` of `SetUp`. -/
def sessionChangedCb (cookie : ℕ) (p : BluetoothAudioPort) : BluetoothAudioPort :=
  if !p.inUse then p
  else if p.cookie ≠ cookie then p
  else p.sessionChangedHandler

/-- A notification for the port; it sets no other callbacks. -/
def notify (p : BluetoothAudioPort) : Notification → BluetoothAudioPort
  | .controlResult cookie startResp status => p.controlResultCb cookie startResp status
  | .sessionChanged cookie => p.sessionChangedCb cookie
  | .audioConfigurationChanged _ | .lowLatencyModeAllowed _ _ => p

/-- Notifications, one after the other. -/
def notifyAll (ns : List Notification) (p : BluetoothAudioPort) : BluetoothAudioPort := ns.foldl notify p

/-! ### The control functions -/

/-- The state in which `CondwaitState` ends, and what it returns then. -/
def condwaitState (state now : BluetoothStreamState) : Bool :=
  match state with
  | .starting => now != .starting && now == .started
  | .suspending => now != .suspending && now == .standby
  | _ => false

section

variable {σ χ : Type} (S : SessionControl σ χ)

/-- `SetUp`, for a device of the type of the session `s`. -/
def setUp (s : σ) (p : BluetoothAudioPort) : Bool × σ × BluetoothAudioPort :=
  if !S.isSessionReady s then (false, s, p)
  else
    let p := { p with state := .standby }
    let (cookie, s) := S.registerControlResultCback s
    (cookie != kObserversCookieUndefined, s, { p with cookie := cookie })

/-- `TearDown`. -/
def tearDown (s : σ) (p : BluetoothAudioPort) : σ × BluetoothAudioPort :=
  if !p.inUse then (s, p)
  else (S.unregisterControlResultCback p.cookie s, { p with cookie := kObserversCookieUndefined })

/-- The body of `Start` and of `Suspend`; `granted` is what `StartStream`, `SuspendStream` returns. -/
def request (req : Req) (granted : Bool) (r : Request σ) (p : BluetoothAudioPort) :
    Bool × BluetoothAudioPort :=
  if !p.inUse then (false, p)
  else if p.state = req.source then
    let p := { p with state := req.transient }
    let p := p.notifyAll r.meanwhile
    if granted then
      let p := p.notifyAll r.waiting
      (condwaitState req.transient p.state, p)
    else (false, p)
  else (false, p)

/-- `Start`. -/
def start (r : Request σ) (p : BluetoothAudioPort) : Bool × BluetoothAudioPort :=
  p.request .start (S.startStream r.isOk r.session) r

/-- `Suspend`. -/
def suspend (r : Request σ) (p : BluetoothAudioPort) : Bool × BluetoothAudioPort :=
  p.request .suspend (S.suspendStream r.isOk r.session) r

end

/-- `Stop`; `StopStream` changes nothing of the session. -/
def stop (p : BluetoothAudioPort) : BluetoothAudioPort :=
  if !p.inUse then p else { p with state := .disabled }

/-- `SetState`. -/
def setState (state : BluetoothStreamState) (p : BluetoothAudioPort) : BluetoothAudioPort :=
  { p with state := state }

theorem inUse_setUp {σ χ : Type} {S : SessionControl σ χ} {s : σ} {p : BluetoothAudioPort}
    (h : (p.setUp S s).1 = true) : (p.setUp S s).2.2.inUse = true := by
  unfold setUp at h ⊢
  split_ifs at h ⊢ with hr
  exact h

/-! ### What the notifications do -/

section

variable {p : BluetoothAudioPort} {n : Notification} {ns : List Notification}

/-- The control results in `ns` that reach the port. -/
def results (p : BluetoothAudioPort) (ns : List Notification) : List BluetoothAudioStatus :=
  ns.filterMap fun
    | .controlResult cookie _ status => if p.cookie = cookie then some status else none
    | _ => none

/-- The session tells the port that it has changed. -/
def changed (p : BluetoothAudioPort) (ns : List Notification) : Bool :=
  decide (.sessionChanged p.cookie ∈ ns)

/-- The notifications take a port from `STARTING` back to `STANDBY`: a failure first, or a success and
then a result that leaves `STARTED`; and no change of the session. -/
def failedMeanwhile (p : BluetoothAudioPort) (ns : List Notification) : Bool :=
  !p.changed ns && match p.results ns with
    | [] => false
    | status :: rest => status != .success || rest.any p.api.leavesStarted

/-- Something in `ns` reaches the port. -/
def heard (p : BluetoothAudioPort) (ns : List Notification) : Bool :=
  p.changed ns || !(p.results ns).isEmpty

theorem notify_eq (p : BluetoothAudioPort) (n : Notification) :
    p.notify n = { p with state := (p.notify n).state } := by
  cases n with
  | controlResult cookie startResp status =>
    simp only [notify, controlResultCb, controlResultHandler]
    split_ifs <;> rfl
  | sessionChanged cookie =>
    simp only [notify, sessionChangedCb, sessionChangedHandler]
    split_ifs <;> rfl
  | audioConfigurationChanged | lowLatencyModeAllowed => rfl

@[simp] theorem api_notify : (p.notify n).api = p.api := by rw [notify_eq]

@[simp] theorem cookie_notify : (p.notify n).cookie = p.cookie := by rw [notify_eq]

@[simp] theorem inUse_notify : (p.notify n).inUse = p.inUse := by simp [inUse]

theorem notify_of_ne (h : ¬ (p.inUse = true ∧ p.cookie = n.cookie)) : p.notify n = p := by
  cases n with
  | controlResult cookie startResp status =>
    simp only [notify, controlResultCb]
    split_ifs with hu hc
    · rfl
    · rfl
    · exact absurd ⟨by simpa using hu, not_not.1 hc⟩ h
  | sessionChanged cookie =>
    simp only [notify, sessionChangedCb]
    split_ifs with hu hc
    · rfl
    · rfl
    · exact absurd ⟨by simpa using hu, not_not.1 hc⟩ h
  | audioConfigurationChanged | lowLatencyModeAllowed => rfl

theorem state_notify (hu : p.inUse = true) : (p.notify n).state =
    if n = .sessionChanged p.cookie then .disabled
    else (p.results [n]).foldl (onResult p.api) p.state := by
  cases n with
  | controlResult cookie startResp status =>
    by_cases hc : p.cookie = cookie <;>
      simp [notify, controlResultCb, controlResultHandler, results, hu, hc]
  | sessionChanged cookie =>
    by_cases hc : p.cookie = cookie
    · simp [notify, sessionChangedCb, sessionChangedHandler, hu, hc]
    · simp [notify, sessionChangedCb, results, hu, hc, Ne.symm hc]
  | audioConfigurationChanged | lowLatencyModeAllowed => simp [notify, results]

theorem notifyAll_cons : p.notifyAll (n :: ns) = (p.notify n).notifyAll ns := rfl

theorem notifyAll_append (ms ns : List Notification) :
    p.notifyAll (ms ++ ns) = (p.notifyAll ms).notifyAll ns := List.foldl_append

@[simp] theorem cookie_notifyAll (ns : List Notification) : (p.notifyAll ns).cookie = p.cookie := by
  induction ns generalizing p with
  | nil => rfl
  | cons n ns ih => rw [notifyAll_cons, ih, cookie_notify]

@[simp] theorem inUse_notifyAll (ns : List Notification) : (p.notifyAll ns).inUse = p.inUse := by
  simp [inUse]

theorem onResult_disabled (api : Api) (sts : List BluetoothAudioStatus) :
    sts.foldl (onResult api) .disabled = .disabled := by
  induction sts with
  | nil => rfl
  | cons st sts ih => exact ih

theorem onResult_standby (api : Api) (sts : List BluetoothAudioStatus) :
    sts.foldl (onResult api) .standby = .standby := by
  induction sts with
  | nil => rfl
  | cons st sts ih => exact ih

theorem onResult_started (api : Api) (sts : List BluetoothAudioStatus) :
    sts.foldl (onResult api) .started =
      if sts.any api.leavesStarted then .standby else .started := by
  induction sts with
  | nil => rfl
  | cons st sts ih =>
    rw [List.foldl_cons, List.any_cons]
    cases h : api.leavesStarted st with
    | true => simpa [onResult, h] using onResult_standby api sts
    | false => simpa [onResult, h] using ih

theorem of_onResult_eq_started {api : Api} {state : BluetoothStreamState}
    {status : BluetoothAudioStatus} (h : onResult api state status = .started) :
    state = .started ∨ (state = .starting ∧ status = .success) := by
  cases state with
  | started => exact .inl rfl
  | starting =>
    by_cases hs : status = .success
    · exact .inr ⟨rfl, hs⟩
    · simp [onResult, hs] at h
  | suspending => by_cases hs : status = .success <;> simp [onResult, hs] at h
  | disabled | standby | unknown => cases h

theorem notifyAll_of_disabled (hu : p.inUse = true) (hs : p.state = .disabled)
    (ns : List Notification) : (p.notifyAll ns).state = .disabled := by
  induction ns generalizing p with
  | nil => exact hs
  | cons n ns ih =>
    rw [notifyAll_cons]
    apply ih
    · rwa [inUse_notify]
    · rw [state_notify hu, hs, onResult_disabled, ite_self]

theorem notifyAll_of_changed (hu : p.inUse = true) (hc : p.changed ns = true) :
    (p.notifyAll ns).state = .disabled := by
  induction ns generalizing p with
  | nil => cases hc
  | cons n ns ih =>
    rw [notifyAll_cons]
    have hu' : (p.notify n).inUse = true := by rwa [inUse_notify]
    by_cases hn : n = .sessionChanged p.cookie
    · apply notifyAll_of_disabled hu'
      rw [state_notify hu, if_pos hn]
    · have hm : Notification.sessionChanged p.cookie ∈ n :: ns := by simpa [changed] using hc
      have hns := (List.mem_cons.1 hm).resolve_left (Ne.symm hn)
      exact ih hu' (by simpa [changed] using hns)

theorem notifyAll_of_not_changed (hu : p.inUse = true) (hc : p.changed ns = false) :
    (p.notifyAll ns).state = (p.results ns).foldl (onResult p.api) p.state := by
  induction ns generalizing p with
  | nil => rfl
  | cons n ns ih =>
    have hnot : Notification.sessionChanged p.cookie ∉ n :: ns := by simpa [changed] using hc
    have hn : n ≠ .sessionChanged p.cookie := fun h => hnot (by simp [h])
    have hns : Notification.sessionChanged p.cookie ∉ ns := fun h => hnot (List.mem_cons_of_mem _ h)
    have happ : p.results ([n] ++ ns) = p.results [n] ++ p.results ns := List.filterMap_append
    have hres : (p.notify n).results ns = p.results ns := by simp [results]
    rw [notifyAll_cons, ih (by rwa [inUse_notify]) (by simpa [changed] using hns), hres, api_notify,
      state_notify hu, if_neg hn, ← List.foldl_append, ← happ]
    rfl

/-- From `STARTING`, the notifications lead back to `STANDBY` exactly when they bring a failure. -/
theorem notifyAll_starting (hu : p.inUse = true) (hs : p.state = .starting) :
    (p.notifyAll ns).state = .standby ↔ p.failedMeanwhile ns = true := by
  unfold failedMeanwhile
  cases hc : p.changed ns with
  | true =>
    rw [notifyAll_of_changed hu hc]
    simp
  | false =>
    rw [notifyAll_of_not_changed hu hc, hs]
    cases p.results ns with
    | nil => simp
    | cons st sts =>
      rw [List.foldl_cons]
      by_cases hst : st = .success
      · rw [show onResult p.api .starting st = .started by simp [onResult, hst], onResult_started]
        cases h : sts.any p.api.leavesStarted <;> simp [hst, h, -List.any_eq_true, -List.any_eq_false]
      · rw [show onResult p.api .starting st = .standby by simp [onResult, hst], onResult_standby]
        simp [hst]

theorem notifyAll_of_not_heard (hu : p.inUse = true) (hh : p.heard ns = false) :
    (p.notifyAll ns).state = p.state := by
  obtain ⟨hc, hr⟩ : p.changed ns = false ∧ p.results ns = [] := by simpa [heard] using hh
  rw [notifyAll_of_not_changed hu hc, hr]
  rfl

/-- From `SUSPENDING`, whatever reaches the port leads to a state in which it rests. -/
theorem notifyAll_suspending (hu : p.inUse = true) (hs : p.state = .suspending)
    (hh : p.heard ns = true) :
    (p.notifyAll ns).state = .standby ∨ (p.notifyAll ns).state = .disabled := by
  cases hc : p.changed ns with
  | true => exact .inr (notifyAll_of_changed hu hc)
  | false =>
    rw [notifyAll_of_not_changed hu hc, hs]
    cases hr : p.results ns with
    | nil => simp [heard, hc, hr] at hh
    | cons st sts =>
      rw [List.foldl_cons]
      by_cases hst : st = .success
      · rw [show onResult p.api .suspending st = .standby by simp [onResult, hst]]
        exact .inl (onResult_standby p.api sts)
      · rw [show onResult p.api .suspending st = .disabled by simp [onResult, hst]]
        exact .inr (onResult_disabled p.api sts)

end

/-! ### Requests -/

section

variable {σ : Type} {req : Req} {granted : Bool} {r : Request σ} {p : BluetoothAudioPort}

@[simp] theorem cookie_stop : p.stop.cookie = p.cookie := by
  unfold stop
  split_ifs <;> rfl

@[simp] theorem cookie_setState (state : BluetoothStreamState) : (p.setState state).cookie = p.cookie :=
  rfl

@[simp] theorem state_setState (state : BluetoothStreamState) : (p.setState state).state = state := rfl

theorem state_stop (hu : p.inUse = true) : p.stop.state = .disabled := by simp [stop, hu]

theorem request_of_not (h : ¬ (p.inUse = true ∧ p.state = req.source)) :
    p.request req granted r = (false, p) := by
  cases hu : p.inUse with
  | false => simp [request, hu]
  | true =>
    have hs : p.state ≠ req.source := fun hs => h ⟨hu, hs⟩
    simp [request, hu, hs]

/-- What reaches a port in `Start` and `Suspend` takes it on from the state of transition. -/
theorem request_snd (hu : p.inUse = true) (hs : p.state = req.source) :
    (p.request req granted r).2 = ({ p with state := req.transient } : BluetoothAudioPort).notifyAll
      (r.meanwhile ++ if granted then r.waiting else []) := by
  cases granted with
  | true => simp [request, hu, hs, notifyAll_append]
  | false => simp [request, hu, hs]

@[simp] theorem cookie_request : (p.request req granted r).2.cookie = p.cookie := by
  by_cases h : p.inUse = true ∧ p.state = req.source
  · rw [request_snd h.1 h.2, cookie_notifyAll]
  · rw [request_of_not h]

theorem request_of_changed (hu : p.inUse = true) (hs : p.state = req.source)
    (hc : p.changed (r.meanwhile ++ if granted then r.waiting else []) = true) :
    (p.request req granted r).2.state = .disabled := by
  rw [request_snd hu hs]
  exact notifyAll_of_changed hu hc

end

/-! ### Refused requests -/

section

variable {σ χ : Type} (S : SessionControl σ χ) (req : Req) (r : Request σ) (p : BluetoothAudioPort)

/-- The call asks, and `StartStream` or `SuspendStream` returns false. -/
def Refused : Prop :=
  p.inUse = true ∧ p.state = req.source ∧ S.ask req r.isOk r.session = false

/-- The call asks for nothing, or is granted. -/
def Granted : Prop :=
  p.inUse = false ∨ p.state ≠ req.source ∨ (S.isSessionReady r.session = true ∧ r.isOk = true)

instance : Decidable (p.Refused S req r) := by unfold Refused; infer_instance

instance : Decidable (p.Granted S req r) := by unfold Granted; infer_instance

variable {S req r p}

theorem not_refused_iff : ¬ p.Refused S req r ↔ p.Granted S req r := by
  unfold Refused Granted
  rw [S.ask_eq, not_and_or, not_and_or, Bool.not_eq_true, Bool.not_eq_false, Bool.and_eq_true]

/-- A refused call leaves the port where the notifications take it from the state of transition. -/
theorem request_of_refused (h : p.Refused S req r) : p.request req (S.ask req r.isOk r.session) r =
    (false, ({ p with state := req.transient } : BluetoothAudioPort).notifyAll r.meanwhile) := by
  obtain ⟨hu, hs, hr⟩ := h
  simp [request, hu, hs, hr]

end

end BluetoothAudioPort

end TrebleDoze.Bluetooth
