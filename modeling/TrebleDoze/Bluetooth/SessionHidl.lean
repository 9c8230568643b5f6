import TrebleDoze.Bluetooth.Session

/-!
# `BluetoothAudioSession` (HIDL)

The session object of `utils/session/BluetoothAudioSession.cpp` with its 2.1 wrapper
(`BluetoothAudioSession_2_1.cpp`), as they work when there is no AIDL service; where there is one
(`HidlToAidlMiddleware.cpp`) every control method goes to the AIDL session of `fromSessionType`.
Of an audio configuration only the kind is kept: `UpdateAudioConfig` reads no more of it.
-/

namespace TrebleDoze.Bluetooth.Hidl

/-- `SessionType` of 2.1, without the suffix `_DATAPATH`; that of 2.0 is its beginning. -/
inductive SessionType where
  | unknown
  | a2dpSoftwareEncoding
  | a2dpHardwareOffload
  | hearingAidSoftwareEncoding
  | leAudioSoftwareEncoding
  | leAudioSoftwareDecoded
  | leAudioHardwareOffloadEncoding
  | leAudioHardwareOffloadDecoding
  deriving DecidableEq, Repr

namespace SessionType

/-- The number of the session type in the interface. -/
def code : SessionType → ℕ
  | unknown => 0
  | a2dpSoftwareEncoding => 1
  | a2dpHardwareOffload => 2
  | hearingAidSoftwareEncoding => 3
  | leAudioSoftwareEncoding => 4
  | leAudioSoftwareDecoded => 5
  | leAudioHardwareOffloadEncoding => 6
  | leAudioHardwareOffloadDecoding => 7

/-- `is_2_0_session_type`. -/
def is20 : SessionType → Bool
  | a2dpSoftwareEncoding | a2dpHardwareOffload | hearingAidSoftwareEncoding => true
  | _ => false

/-- `is_unsupported_2_1_session_type`. -/
def isUnsupported21 : SessionType → Bool
  | leAudioHardwareOffloadEncoding | leAudioHardwareOffloadDecoding => true
  | _ => false

/-- `session_type_2_1_`, as the constructor of `BluetoothAudioSession_2_1` sets it. -/
def type21 (t : SessionType) : SessionType := if t.is20 || t.isUnsupported21 then unknown else t

/-- `is_software_session` of the two `UpdateAudioConfig` together. -/
def isSoftware : SessionType → Bool
  | a2dpSoftwareEncoding | hearingAidSoftwareEncoding | leAudioSoftwareEncoding
  | leAudioSoftwareDecoded => true
  | _ => false

end SessionType

/-- `from_session_type_2_1`, and `from_session_type_2_0`. -/
def fromSessionType : SessionType → Bluetooth.SessionType
  | .a2dpSoftwareEncoding => .a2dpSoftwareEncoding
  | .a2dpHardwareOffload => .a2dpHardwareOffloadEncoding
  | .hearingAidSoftwareEncoding => .hearingAidSoftwareEncoding
  | .leAudioSoftwareEncoding => .leAudioSoftwareEncoding
  | .leAudioSoftwareDecoded => .leAudioSoftwareDecoding
  | .leAudioHardwareOffloadEncoding => .leAudioHardwareOffloadEncoding
  | .leAudioHardwareOffloadDecoding => .leAudioHardwareOffloadDecoding
  | .unknown => .unknown

/-- `to_hidl_status`. -/
def toHidlStatus : BluetoothAudioStatus → BluetoothAudioStatus
  | .success => .success
  | .unsupportedCodecConfiguration => .unsupportedCodecConfiguration
  | _ => .failure

/-- The kinds of a HIDL `AudioConfiguration`. -/
inductive ConfigKind where
  | pcmConfig | codecConfig
  deriving DecidableEq, Repr

/-- The members of the HIDL `BluetoothAudioSession`. -/
structure BluetoothAudioSession where
  sessionType : SessionType
  stackIface : Option ℕ
  dataMQ : Option DataMQ
  observers : List (ℕ × Unit)
  deriving DecidableEq, Repr

namespace BluetoothAudioSession

/-- The constructor. -/
def create (sessionType : SessionType) : BluetoothAudioSession where
  sessionType := sessionType
  stackIface := none
  dataMQ := none
  observers := []

/-- `IsSessionReady`. -/
def isSessionReady (s : BluetoothAudioSession) : Bool :=
  let dataMQValid := s.sessionType == .a2dpHardwareOffload || s.dataMQ.any (·.isValid)
  s.stackIface.isSome && dataMQValid

/-- What `UpdateAudioConfig` returns. -/
def updateAudioConfig (kind : ConfigKind) (s : BluetoothAudioSession) : Bool :=
  ((s.sessionType == .a2dpSoftwareEncoding || s.sessionType == .hearingAidSoftwareEncoding) &&
      kind == .pcmConfig) ||
    (s.sessionType == .a2dpHardwareOffload && kind == .codecConfig)

/-- What `UpdateAudioConfig` of 2.1 returns, for the type `session_type_2_1_`. -/
def updateAudioConfig21 (type21 : SessionType) (kind : ConfigKind) : Bool :=
  (type21.isSoftware && kind == .pcmConfig) ||
    (type21 == .a2dpHardwareOffload && kind == .codecConfig)

/-- `UpdateDataPath`. -/
def updateDataPath (dataMQ : Option DataMQ) (s : BluetoothAudioSession) :
    Bool × BluetoothAudioSession :=
  match dataMQ with
  | none => (true, { s with dataMQ := none })
  | some desc =>
    if desc.isValid then (true, { s with dataMQ := some desc }) else (false, { s with dataMQ := none })

/-- `ReportSessionStatus`. -/
def reportSessionStatus (s : BluetoothAudioSession) : List Notification :=
  s.observers.map fun o => .sessionChanged o.1

/-- The body that `OnSessionStarted` of 2.0 and of 2.1 share; `configOk` is what their
`UpdateAudioConfig` returns. -/
def started (configOk : Bool) (stackIface : Option ℕ) (dataMQ : Option DataMQ)
    (s : BluetoothAudioSession) : BluetoothAudioSession × List Notification :=
  if stackIface.isNone then (s, [])
  else if !configOk then (s, [])
  else
    let (pathOk, s) := s.updateDataPath dataMQ
    if !pathOk then (s, [])
    else
      let s := { s with stackIface := stackIface }
      (s, s.reportSessionStatus)

/-- `OnSessionStarted`. -/
def onSessionStarted (stackIface : Option ℕ) (dataMQ : Option DataMQ) (kind : ConfigKind)
    (s : BluetoothAudioSession) : BluetoothAudioSession × List Notification :=
  s.started (s.updateAudioConfig kind) stackIface dataMQ

/-- `OnSessionStarted` of 2.1. -/
def onSessionStarted21 (stackIface : Option ℕ) (dataMQ : Option DataMQ) (kind : ConfigKind)
    (s : BluetoothAudioSession) : BluetoothAudioSession × List Notification :=
  if s.sessionType.type21 = .unknown then s.onSessionStarted stackIface dataMQ kind
  else s.started (updateAudioConfig21 s.sessionType.type21 kind) stackIface dataMQ

/-- `OnSessionEnded`. -/
def onSessionEnded (s : BluetoothAudioSession) : BluetoothAudioSession × List Notification :=
  let toggled := s.isSessionReady
  let s := { s with stackIface := none }
  let s := (s.updateDataPath none).2
  (s, if toggled then s.reportSessionStatus else [])

/-- `RegisterStatusCback`. -/
def registerStatusCback (s : BluetoothAudioSession) : ℕ × BluetoothAudioSession :=
  let r := registerObserver (observersCookieGetInitValue s.sessionType.code) () s.observers
  (r.1, { s with observers := r.2 })

/-- `UnregisterStatusCback`. -/
def unregisterStatusCback (cookie : ℕ) (s : BluetoothAudioSession) : BluetoothAudioSession :=
  { s with observers := unregisterObserver cookie s.observers }

/-- `ReportControlStatus`. -/
def reportControlStatus (startResp : Bool) (status : BluetoothAudioStatus)
    (s : BluetoothAudioSession) : List Notification :=
  s.observers.map fun o => .controlResult o.1 startResp status

/-- `StartStream`. -/
def startStream (isOk : Bool) (s : BluetoothAudioSession) : Bool :=
  if !s.isSessionReady then false
  else if !isOk then false
  else true

/-- `SuspendStream`. -/
def suspendStream (isOk : Bool) (s : BluetoothAudioSession) : Bool :=
  if !s.isSessionReady then false
  else if !isOk then false
  else true

/-- The calls of the stack's side, by the providers of 2.0 and 2.1. -/
inductive Call where
  | onSessionStarted (stackIface : Option ℕ) (dataMQ : Option DataMQ) (kind : ConfigKind)
  | onSessionStarted21 (stackIface : Option ℕ) (dataMQ : Option DataMQ) (kind : ConfigKind)
  | onSessionEnded
  deriving DecidableEq, Repr

/-- The session after a call, and what the call tells the observers. -/
def call (s : BluetoothAudioSession) : Call → BluetoothAudioSession × List Notification
  | .onSessionStarted stackIface dataMQ kind => s.onSessionStarted stackIface dataMQ kind
  | .onSessionStarted21 stackIface dataMQ kind => s.onSessionStarted21 stackIface dataMQ kind
  | .onSessionEnded => s.onSessionEnded

end BluetoothAudioSession

end TrebleDoze.Bluetooth.Hidl
