import TrebleDoze.Lib.Relay

/-!
# The fingerprint HAL in front of the vendor's

`hal/oplus-fp/BiometricsFingerprint.cpp` passes the calls of its client on to the vendor's HAL, and the
vendor's callbacks back to the client.  The client expects a message after `cancel` and messages after
`enumerate`, which some vendor HALs do not send: the shim sends them itself when none has come in before
the vendor's call returns.  The calls of the client are served by one thread; the callbacks come in
between its steps, in any order.

* `Shim.step`: one step of the thread, or of a callback;
* `Move`, `move_of_step`: what a step can do.
-/

namespace TrebleDoze.OplusFp

open TrebleDoze.Lib

/-- A client, by its callback. -/
abbrev Client := ℕ

/-- `FingerprintError`. -/
inductive FingerprintError where
  | noError
  | hwUnavailable
  | unableToProcess
  | timeout
  | noSpace
  | canceled
  | unableToRemove
  | lockout
  | vendor
  deriving DecidableEq, Repr

/-- `RequestStatus`. -/
inductive RequestStatus where
  | sysUnknown
  | sysOk
  | sysEnoent
  | sysEintr
  | sysEio
  | sysEagain
  | sysEnomem
  | sysEacces
  | sysEfault
  | sysEbusy
  | sysEinval
  | sysEnospc
  | sysEtimedout
  deriving DecidableEq, Repr

/-- A value of the vendor's enumeration, whose names are the same; `none` is a value without a name. -/
abbrev Oplus (ε : Type) := Option ε

/-- `OplusToAOSPFingerprintError`. -/
def oplusToAOSPFingerprintError (error : Oplus FingerprintError) : FingerprintError := error.getD .noError

/-- `OplusToAOSPRequestStatus`. -/
def oplusToAOSPRequestStatus (req : Oplus RequestStatus) : RequestStatus := req.getD .sysUnknown

/-- A call of `onError` at the client; without a client it is not made. -/
structure ErrorMessage where
  client : Option Client
  deviceId : UInt64
  error : FingerprintError
  vendorCode : Int32
  deriving DecidableEq, Repr

/-- The arguments of `onEnumerate`. -/
structure Finger where
  deviceId : UInt64
  fingerId : UInt32
  groupId : UInt32
  remaining : UInt32
  deriving DecidableEq, Repr

/-- A call of `onEnumerate` at the client; without a client it is not made. -/
structure EnumerateMessage where
  client : Option Client
  finger : Finger
  deriving DecidableEq, Repr

/-- The calls with messages of the shim's own. -/
inductive Call where
  | cancel
  | enumerate
  deriving DecidableEq, Repr

/-- Where the thread of the client's calls is: in the vendor's `cancel()` or `enumerate()`, at its own
message to the client, or dead. -/
inductive Thread where
  | idle
  | canceling (k : ℕ)
  | sendingError (k : ℕ)
  | enumerating (k : ℕ)
  | sendingFinger (k : ℕ) (finger : Finger) (rest : List Finger)
  | nullDereference (call : Call)
  deriving DecidableEq, Repr

/-- A `hidl_vec` of fingers, which has a size of 32 bits. -/
structure Fingers where
  list : List UInt32
  size : list.length < UInt32.size

/-- A call of `enumerate`: the client, and the known fingers. -/
structure Request where
  client : Option Client
  fingers : List UInt32
  deriving DecidableEq, Repr

/-- The variables of the shim; of the calls so far, how each has ended and how far the vendor's callbacks
for it are. -/
structure Shim where
  mOplusClientCallback : Option (Option Client)
  myDeviceId : UInt64
  knownFingers : Fingers
  receivedCancel : Bool
  receivedEnumerate : Bool
  thread : Thread
  cancels : ℕ
  canceled : ℕ → Relay.End (Option Client)
  cancelReports : ℕ → Relay.Answer ErrorMessage
  enumerates : ℕ
  enumerated : ℕ → Relay.End Request
  enumerations : ℕ → Relay.Answer EnumerateMessage

/-- The calls at clients, with the call of the client that they are for, if they are for one. -/
inductive Event where
  | onError (cancel : Option ℕ) (m : ErrorMessage)
  | onEnumerate (enumerate : ℕ) (m : EnumerateMessage)
  deriving DecidableEq, Repr

/-- The client's calls, their steps, and the vendor's callbacks, each in the two steps of its flag and its
call at the client. -/
inductive Act where
  | setNotify (clientCallback : Option Client)
  | onSyncTemplates (deviceId : UInt64) (fingerId : Fingers)
  | cancel
  | cancelReturns
  | sendError
  | onErrorCanceled (k : ℕ) (deviceId : UInt64) (vendorCode : Int32)
  | forwardError (k : ℕ)
  | onErrorOther (error : Oplus FingerprintError) (deviceId : UInt64) (vendorCode : Int32)
  | enumerate
  | enumerateReturns (status : Oplus RequestStatus)
  | sendFinger
  | onEnumerate (k : ℕ) (finger : Finger) (rest : List Finger)
  | onEnumerateNext (k : ℕ)
  | forwardEnumerate (k : ℕ)

/-- The client of the current callback object. -/
def Shim.client (s : Shim) : Option Client := s.mOplusClientCallback.join

/-- The current call of `enumerate`. -/
def Shim.request (s : Shim) : Request := ⟨s.client, s.knownFingers.list⟩

/-- An enumeration: a message without a finger when there is none, and otherwise one for each finger, the
remaining ones counted down to zero. -/
def CompleteEnumeration (fingers : List UInt32) (l : List Finger) : Prop :=
  if fingers = [] then l.map (fun f => (f.fingerId, f.remaining)) = [(0, 0)]
  else (l.map Finger.fingerId).Perm fingers ∧
    l.map (fun f => f.remaining.toNat) = (List.range fingers.length).reverse

instance (fingers : List UInt32) (l : List Finger) : Decidable (CompleteEnumeration fingers l) := by
  unfold CompleteEnumeration; infer_instance

/-- The loop over `knownFingers` in `enumerate`. -/
def sendFingers (myDeviceId : UInt64) : List UInt32 → UInt64 → List Finger
  | [], _ => []
  | finger :: rest, nFingers =>
    ⟨myDeviceId, finger, 0, (nFingers - 1).toUInt32⟩ :: sendFingers myDeviceId rest (nFingers - 1)

/-- The calls of `onEnumerate` in `enumerate`. -/
def ownFingers (myDeviceId : UInt64) (knownFingers : List UInt32) : List Finger :=
  let nFingers := UInt64.ofNat knownFingers.length
  if nFingers > 0 then sendFingers myDeviceId knownFingers nFingers else [⟨myDeviceId, 0, 0, 0⟩]

/-- The synthesised `onError`. -/
def Shim.ownError (s : Shim) : ErrorMessage := ⟨s.client, s.myDeviceId, .canceled, 0⟩

/-- The thread leaves `cancel`. -/
def Shim.endCancel (s : Shim) (k : ℕ) : Shim :=
  { s with thread := .idle, canceled := Function.update s.canceled k (.done s.client) }

/-- The thread leaves `enumerate`. -/
def Shim.endEnumerate (s : Shim) (k : ℕ) (e : Relay.End Request) : Shim :=
  { s with thread := .idle, enumerated := Function.update s.enumerated k e }

/-- A report of the vendor's sets its flag. -/
def Shim.noticeCancel (s : Shim) (k : ℕ) (m : ErrorMessage) : Shim :=
  { s with receivedCancel := true, cancelReports := Function.update s.cancelReports k (.noticed m []) }

/-- An enumerated finger sets its flag. -/
def Shim.noticeFinger (s : Shim) (k : ℕ) (m : EnumerateMessage) (rest : List EnumerateMessage) : Shim :=
  { s with receivedEnumerate := true, enumerations := Function.update s.enumerations k (.noticed m rest) }

/-- The steps of the thread of the client's calls. -/
def Shim.stepThread (s : Shim) : Act → Option (Shim × List Event)
  | .setNotify clientCallback =>
    if s.thread = .idle then some ({ s with mOplusClientCallback := some clientCallback }, []) else none
  | .cancel =>
    if s.thread = .idle then
      some ({ s with receivedCancel := false, thread := .canceling s.cancels, cancels := s.cancels + 1 },
        [])
    else none
  | .cancelReturns =>
    match s.thread with
    | .canceling k =>
      if !s.receivedCancel then some ({ s with thread := .sendingError k }, [])
      else some (s.endCancel k, [])
    | _ => none
  | .sendError =>
    match s.thread with
    | .sendingError k =>
      match s.client with
      | some _ => some (s.endCancel k, [.onError (some k) s.ownError])
      | none => some ({ s with thread := .nullDereference .cancel }, [])
    | _ => none
  | .enumerate =>
    if s.thread = .idle then
      some ({ s with
        receivedEnumerate := false, thread := .enumerating s.enumerates, enumerates := s.enumerates + 1 },
        [])
    else none
  | .enumerateReturns status =>
    match s.thread with
    | .enumerating k =>
      if oplusToAOSPRequestStatus status = .sysOk then
        if !s.receivedEnumerate then
          match ownFingers s.myDeviceId s.knownFingers.list with
          | finger :: rest => some ({ s with thread := .sendingFinger k finger rest }, [])
          | [] => none
        else some (s.endEnumerate k (.done s.request), [])
      else some (s.endEnumerate k .refused, [])
    | _ => none
  | .sendFinger =>
    match s.thread with
    | .sendingFinger k finger rest =>
      match s.client with
      | some _ =>
        match rest with
        | [] => some (s.endEnumerate k (.done s.request), [.onEnumerate k ⟨s.client, finger⟩])
        | finger' :: rest =>
          some ({ s with thread := .sendingFinger k finger' rest }, [.onEnumerate k ⟨s.client, finger⟩])
      | none => some ({ s with thread := .nullDereference .enumerate }, [])
    | _ => none
  | _ => none

/-- The thread is in `enumerate`. -/
def Thread.inEnumerate : Thread → Bool
  | .enumerating _ | .sendingFinger _ _ _ => true
  | .idle | .canceling _ | .sendingError _ | .nullDereference _ => false

/-- The vendor's callbacks, at the callback object that is registered.  A cancel is reported once at
most, and enumerated fingers are the known ones, once at most for a call; these go to the client that was
registered at the first of them.  While `enumerate` reads `knownFingers`, these are not replaced. -/
def Shim.stepCallback (s : Shim) (client : Option Client) : Act → Option (Shim × List Event)
  | .onSyncTemplates deviceId fingerId =>
    if s.thread.inEnumerate then none
    else some ({ s with myDeviceId := deviceId, knownFingers := fingerId }, [])
  | .onErrorCanceled k deviceId vendorCode =>
    match s.cancelReports k with
    | .silent =>
      if k < s.cancels then
        let m := ⟨client, deviceId, oplusToAOSPFingerprintError (some .canceled), vendorCode⟩
        some (s.noticeCancel k m, [])
      else none
    | _ => none
  | .forwardError k =>
    match s.cancelReports k with
    | .noticed m rest =>
      some ({ s with cancelReports := Function.update s.cancelReports k (.passed rest) },
        [.onError (some k) m])
    | _ => none
  | .onErrorOther error deviceId vendorCode =>
    if error = some .canceled then none
    else some (s, [.onError none ⟨client, deviceId, oplusToAOSPFingerprintError error, vendorCode⟩])
  | .onEnumerate k finger rest =>
    match s.enumerations k with
    | .silent =>
      if k < s.enumerates ∧ CompleteEnumeration s.knownFingers.list (finger :: rest) then
        some (s.noticeFinger k ⟨client, finger⟩ (rest.map (EnumerateMessage.mk client)), [])
      else none
    | _ => none
  | .onEnumerateNext k =>
    match s.enumerations k with
    | .passed (m :: rest) => some (s.noticeFinger k m rest, [])
    | _ => none
  | .forwardEnumerate k =>
    match s.enumerations k with
    | .noticed m rest =>
      some ({ s with enumerations := Function.update s.enumerations k (.passed rest) }, [.onEnumerate k m])
    | _ => none
  | _ => none

/-- An action of the vendor's. -/
def Act.isCallback : Act → Bool
  | .onSyncTemplates _ _ | .onErrorCanceled _ _ _ | .forwardError _ | .onErrorOther _ _ _
  | .onEnumerate _ _ _ | .onEnumerateNext _ | .forwardEnumerate _ => true
  | .setNotify _ | .cancel | .cancelReturns | .sendError | .enumerate | .enumerateReturns _
  | .sendFinger => false

/-- The process has died. -/
def Thread.dead : Thread → Bool
  | .nullDereference _ => true
  | .idle | .canceling _ | .sendingError _ | .enumerating _ | .sendingFinger _ _ _ => false

/-- A step; a dead process makes none, and the vendor has nothing to call before `setNotify`. -/
def Shim.step (s : Shim) (a : Act) : Option (Shim × List Event) :=
  if s.thread.dead then none
  else if a.isCallback then s.mOplusClientCallback.bind fun client => s.stepCallback client a
  else s.stepThread a

/-- The shim before the first call. -/
def Shim.init : Shim where
  mOplusClientCallback := none
  myDeviceId := 0
  knownFingers := ⟨[], by decide⟩
  receivedCancel := false
  receivedEnumerate := false
  thread := .idle
  cancels := 0
  canceled := fun _ => .pending
  cancelReports := fun _ => .silent
  enumerates := 0
  enumerated := fun _ => .pending
  enumerations := fun _ => .silent

/-- The shim with its client and the vendor's HAL. -/
def shim : Lts Shim Act Event := ⟨.init, Shim.step⟩

/-! ### What a step can do -/

/-- The steps, by their branches. -/
inductive Move (s : Shim) : Act → Shim → List Event → Prop
  | setNotify (c : Option Client) : s.thread = .idle →
      Move s (.setNotify c) { s with mOplusClientCallback := some c } []
  | cancel : s.thread = .idle → Move s .cancel
      { s with receivedCancel := false, thread := .canceling s.cancels, cancels := s.cancels + 1 } []
  | cancelSilent {k : ℕ} : s.thread = .canceling k → s.receivedCancel = false →
      Move s .cancelReturns { s with thread := .sendingError k } []
  | cancelReported {k : ℕ} : s.thread = .canceling k → s.receivedCancel = true →
      Move s .cancelReturns (s.endCancel k) []
  | sendError {k : ℕ} {c : Client} : s.thread = .sendingError k → s.client = some c →
      Move s .sendError (s.endCancel k) [.onError (some k) s.ownError]
  | cancelNull {k : ℕ} : s.thread = .sendingError k → s.client = none →
      Move s .sendError { s with thread := .nullDereference .cancel } []
  | enumerate : s.thread = .idle → Move s .enumerate
      { s with
        receivedEnumerate := false, thread := .enumerating s.enumerates, enumerates := s.enumerates + 1 }
      []
  | enumerateRefused {k : ℕ} {status : Oplus RequestStatus} : s.thread = .enumerating k →
      oplusToAOSPRequestStatus status ≠ .sysOk →
      Move s (.enumerateReturns status) (s.endEnumerate k .refused) []
  | enumerateSilent {k : ℕ} {status : Oplus RequestStatus} {finger : Finger} {rest : List Finger} :
      s.thread = .enumerating k → oplusToAOSPRequestStatus status = .sysOk → s.receivedEnumerate = false →
      ownFingers s.myDeviceId s.knownFingers.list = finger :: rest →
      Move s (.enumerateReturns status) { s with thread := .sendingFinger k finger rest } []
  | enumerateReported {k : ℕ} {status : Oplus RequestStatus} : s.thread = .enumerating k →
      oplusToAOSPRequestStatus status = .sysOk → s.receivedEnumerate = true →
      Move s (.enumerateReturns status) (s.endEnumerate k (.done s.request)) []
  | sendLast {k : ℕ} {finger : Finger} {c : Client} : s.thread = .sendingFinger k finger [] →
      s.client = some c → Move s .sendFinger (s.endEnumerate k (.done s.request))
        [.onEnumerate k ⟨s.client, finger⟩]
  | sendNext {k : ℕ} {finger finger' : Finger} {rest : List Finger} {c : Client} :
      s.thread = .sendingFinger k finger (finger' :: rest) → s.client = some c →
      Move s .sendFinger { s with thread := .sendingFinger k finger' rest }
        [.onEnumerate k ⟨s.client, finger⟩]
  | enumerateNull {k : ℕ} {finger : Finger} {rest : List Finger} :
      s.thread = .sendingFinger k finger rest → s.client = none →
      Move s .sendFinger { s with thread := .nullDereference .enumerate } []
  | onSyncTemplates (deviceId : UInt64) (fingerId : Fingers) : s.thread.inEnumerate = false →
      Move s (.onSyncTemplates deviceId fingerId)
        { s with myDeviceId := deviceId, knownFingers := fingerId } []
  | onErrorCanceled {k : ℕ} {deviceId : UInt64} {vendorCode : Int32} :
      s.cancelReports k = .silent → k < s.cancels → Move s (.onErrorCanceled k deviceId vendorCode)
        (s.noticeCancel k ⟨s.client, deviceId, .canceled, vendorCode⟩) []
  | forwardError {k : ℕ} {m : ErrorMessage} {rest : List ErrorMessage} :
      s.cancelReports k = .noticed m rest → Move s (.forwardError k)
        { s with cancelReports := Function.update s.cancelReports k (.passed rest) }
        [.onError (some k) m]
  | onErrorOther {error : Oplus FingerprintError} {deviceId : UInt64} {vendorCode : Int32}
      {m : ErrorMessage} : m.error ≠ .canceled →
      Move s (.onErrorOther error deviceId vendorCode) s [.onError none m]
  | onEnumerate {k : ℕ} {finger : Finger} {rest : List Finger} : s.enumerations k = .silent →
      k < s.enumerates → CompleteEnumeration s.knownFingers.list (finger :: rest) →
      Move s (.onEnumerate k finger rest)
        (s.noticeFinger k ⟨s.client, finger⟩ (rest.map (EnumerateMessage.mk s.client))) []
  | onEnumerateNext {k : ℕ} {m : EnumerateMessage} {rest : List EnumerateMessage} :
      s.enumerations k = .passed (m :: rest) → Move s (.onEnumerateNext k) (s.noticeFinger k m rest) []
  | forwardEnumerate {k : ℕ} {m : EnumerateMessage} {rest : List EnumerateMessage} :
      s.enumerations k = .noticed m rest → Move s (.forwardEnumerate k)
        { s with enumerations := Function.update s.enumerations k (.passed rest) } [.onEnumerate k m]

section

variable {s s' : Shim} {a : Act} {os : List Event} {client : Option Client}

/-- A value of the vendor's other than `ERROR_CANCELED` is translated to something else. -/
theorem oplusToAOSPFingerprintError_canceled {error : Oplus FingerprintError} :
    oplusToAOSPFingerprintError error = .canceled ↔ error = some .canceled := by
  cases error with
  | none => decide
  | some e => exact Option.some_inj.symm

theorem move_of_stepThread (h : s.stepThread a = some (s', os)) : Move s a s' os := by
  unfold Shim.stepThread at h
  cases a with
  | setNotify c =>
    dsimp only at h
    split_ifs at h with hp
    cases h
    exact .setNotify c hp
  | cancel =>
    dsimp only at h
    split_ifs at h with hp
    cases h
    exact .cancel hp
  | cancelReturns =>
    dsimp only at h
    split at h
    case h_1 k hp =>
      split_ifs at h with hr
      · cases h
        exact .cancelSilent hp (by simpa using hr)
      · cases h
        exact .cancelReported hp (by simpa using hr)
    case h_2 => cases h
  | sendError =>
    dsimp only at h
    split at h
    case h_1 k hp =>
      split at h
      case h_1 c hc =>
        cases h
        exact .sendError hp hc
      case h_2 hc =>
        cases h
        exact .cancelNull hp hc
    case h_2 => cases h
  | enumerate =>
    dsimp only at h
    split_ifs at h with hp
    cases h
    exact .enumerate hp
  | enumerateReturns status =>
    dsimp only at h
    split at h
    case h_1 k hp =>
      split_ifs at h with hok hr
      · split at h
        case h_1 finger rest hf =>
          cases h
          exact .enumerateSilent hp hok (by simpa using hr) hf
        case h_2 => cases h
      · cases h
        exact .enumerateReported hp hok (by simpa using hr)
      · cases h
        exact .enumerateRefused hp hok
    case h_2 => cases h
  | sendFinger =>
    dsimp only at h
    split at h
    case h_1 k finger rest hp =>
      split at h
      case h_1 c hc =>
        split at h
        case h_1 =>
          cases h
          exact .sendLast hp hc
        case h_2 finger' rest =>
          cases h
          exact .sendNext hp hc
      case h_2 hc =>
        cases h
        exact .enumerateNull hp hc
    case h_2 => cases h
  | _ => cases h

theorem move_of_stepCallback (hc : s.mOplusClientCallback = some client)
    (h : s.stepCallback client a = some (s', os)) : Move s a s' os := by
  have hclient : client = s.client := by rw [Shim.client, hc]; rfl
  subst hclient
  unfold Shim.stepCallback at h
  cases a with
  | onSyncTemplates deviceId fingerId =>
    dsimp only at h
    split_ifs at h with hp
    cases h
    exact .onSyncTemplates deviceId fingerId (Bool.not_eq_true _ ▸ hp)
  | onErrorCanceled k deviceId vendorCode =>
    dsimp only at h
    split at h
    case h_1 hk =>
      split_ifs at h with hlt
      cases h
      exact .onErrorCanceled hk hlt
    case h_2 => cases h
  | forwardError k =>
    dsimp only at h
    split at h
    case h_1 m rest hk =>
      cases h
      exact .forwardError hk
    case h_2 => cases h
  | onErrorOther error deviceId vendorCode =>
    dsimp only at h
    split_ifs at h with he
    cases h
    exact .onErrorOther (mt oplusToAOSPFingerprintError_canceled.1 he)
  | onEnumerate k finger rest =>
    dsimp only at h
    split at h
    case h_1 hk =>
      split_ifs at h with hlt
      cases h
      exact .onEnumerate hk hlt.1 hlt.2
    case h_2 => cases h
  | onEnumerateNext k =>
    dsimp only at h
    split at h
    case h_1 m rest hk =>
      cases h
      exact .onEnumerateNext hk
    case h_2 => cases h
  | forwardEnumerate k =>
    dsimp only at h
    split at h
    case h_1 m rest hk =>
      cases h
      exact .forwardEnumerate hk
    case h_2 => cases h
  | _ => cases h

theorem move_of_step (h : s.step a = some (s', os)) : Move s a s' os := by
  unfold Shim.step at h
  split_ifs at h with hdead hcallback
  · obtain ⟨client, hc, h⟩ := Option.bind_eq_some_iff.1 h
    exact move_of_stepCallback hc h
  · exact move_of_stepThread h

end

end TrebleDoze.OplusFp
