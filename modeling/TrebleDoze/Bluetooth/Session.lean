import TrebleDoze.Bluetooth.Types

/-!
# `BluetoothAudioSession` (AIDL)

The session object of `utils/aidl_session/BluetoothAudioSession.cpp`.  Every method runs under the
session's recursive mutex, so each is one function on the members; the callbacks it invokes are the
notifications it returns, in order.  What the Bluetooth stack answers (`isOk`) is an argument.
-/

namespace TrebleDoze.Bluetooth

/-- `PortStatusCallbacks`: which of the two callbacks that may be null are set. -/
structure PortStatusCallbacks where
  audioConfigurationChangedCb : Bool
  lowLatencyModeAllowedCb : Bool
  deriving DecidableEq, Repr

/-- The members of `BluetoothAudioSession`; a port of the stack is a number. -/
structure BluetoothAudioSession (κ : Tag → Type) where
  sessionType : SessionType
  stackIface : Option ℕ
  dataMq : Option DataMQ
  audioConfig : Option (AudioConfiguration κ)
  latencyModes : List LatencyMode
  lowLatencyAllowed : Bool
  observers : List (ℕ × PortStatusCallbacks)

namespace BluetoothAudioSession

variable {κ : Tag → Type}

/-- The constructor. -/
def create (sessionType : SessionType) : BluetoothAudioSession κ where
  sessionType := sessionType
  stackIface := none
  dataMq := none
  audioConfig := none
  latencyModes := []
  lowLatencyAllowed := true
  observers := []

/-! ### The state of the session -/

/-- The session types that need no data queue, in `IsSessionReady`. -/
def needsNoDataMq : SessionType → Bool
  | .a2dpHardwareOffloadEncoding | .leAudioHardwareOffloadEncoding | .leAudioHardwareOffloadDecoding
  | .leAudioBroadcastHardwareOffloadEncoding | .a2dpHardwareOffloadDecoding | .hfpHardwareOffload =>
    true
  | _ => false

/-- `IsSessionReady`. -/
def isSessionReady (s : BluetoothAudioSession κ) : Bool :=
  let isMqValid := needsNoDataMq s.sessionType || s.dataMq.any (·.isValid)
  s.stackIface.isSome && isMqValid && s.audioConfig.isSome

/-- The tags `UpdateAudioConfig` accepts for a session type. -/
def acceptsTag (sessionType : SessionType) (tag : Tag) : Bool :=
  (sessionType.isSoftware && tag == .pcmConfig) ||
    (sessionType.isOffloadA2dp && (tag == .a2dp || tag == .a2dpConfig)) ||
    (sessionType == .hfpHardwareOffload && tag == .hfpConfig) ||
    (sessionType.isOffloadLeAudioUnicast && tag == .leAudioConfig) ||
    (sessionType == .leAudioBroadcastHardwareOffloadEncoding && tag == .leAudioBroadcastConfig)

/-- `UpdateAudioConfig`. -/
def updateAudioConfig (audioConfig : AudioConfiguration κ) (s : BluetoothAudioSession κ) :
    Bool × BluetoothAudioSession κ :=
  if acceptsTag s.sessionType audioConfig.tag then (true, { s with audioConfig := some audioConfig })
  else (false, s)

/-- `UpdateDataPath`. -/
def updateDataPath (mqDesc : Option DataMQ) (s : BluetoothAudioSession κ) :
    Bool × BluetoothAudioSession κ :=
  match mqDesc with
  | none => (true, { s with dataMq := none })
  | some desc =>
    if desc.isValid then (true, { s with dataMq := some desc })
    else (false, { s with dataMq := none })

/-- `ReportSessionStatus`. -/
def reportSessionStatus (s : BluetoothAudioSession κ) : List Notification :=
  s.observers.map fun o => .sessionChanged o.1

/-- `OnSessionStarted`. -/
def onSessionStarted (stackIface : Option ℕ) (mqDesc : Option DataMQ)
    (audioConfig : AudioConfiguration κ) (latencyModes : List LatencyMode)
    (s : BluetoothAudioSession κ) : BluetoothAudioSession κ × List Notification :=
  if stackIface.isNone then (s, [])
  else
    let (configOk, s) := s.updateAudioConfig audioConfig
    if !configOk then (s, [])
    else
      let (pathOk, s) := s.updateDataPath mqDesc
      if !pathOk then ({ s with audioConfig := none }, [])
      else
        let s := { s with stackIface := stackIface, latencyModes := latencyModes }
        (s, s.reportSessionStatus)

/-- `OnSessionEnded`. -/
def onSessionEnded (s : BluetoothAudioSession κ) : BluetoothAudioSession κ × List Notification :=
  let toggled := s.isSessionReady
  let s := { s with audioConfig := none, stackIface := none }
  let s := (s.updateDataPath none).2
  (s, if toggled then s.reportSessionStatus else [])

/-- `ReportAudioConfigChanged`. -/
def reportAudioConfigChanged (audioConfig : AudioConfiguration κ) (s : BluetoothAudioSession κ) :
    BluetoothAudioSession κ × List Notification :=
  if !s.sessionType.isOffloadLeAudioUnicast then (s, [])
  else if audioConfig.tag ≠ .leAudioConfig then (s, [])
  else
    ({ s with audioConfig := some audioConfig },
      s.observers.filterMap fun o =>
        if o.2.audioConfigurationChangedCb then some (.audioConfigurationChanged o.1) else none)

/-! ### The observers -/

/-- `RegisterStatusCback`. -/
def registerStatusCback (callbacks : PortStatusCallbacks) (s : BluetoothAudioSession κ) :
    ℕ × BluetoothAudioSession κ :=
  let r := registerObserver (observersCookieGetInitValue s.sessionType.code) callbacks s.observers
  (r.1, { s with observers := r.2 })

/-- `UnregisterStatusCback`. -/
def unregisterStatusCback (cookie : ℕ) (s : BluetoothAudioSession κ) : BluetoothAudioSession κ :=
  { s with observers := unregisterObserver cookie s.observers }

/-- `ReportControlStatus`. -/
def reportControlStatus (startResp : Bool) (status : BluetoothAudioStatus)
    (s : BluetoothAudioSession κ) : List Notification :=
  s.observers.map fun o => .controlResult o.1 startResp status

/-! ### The stream methods -/

/-- `StartStream`. -/
def startStream (isOk : Bool) (s : BluetoothAudioSession κ) : Bool :=
  if !s.isSessionReady then false
  else if !isOk then false
  else true

/-- `SuspendStream`. -/
def suspendStream (isOk : Bool) (s : BluetoothAudioSession κ) : Bool :=
  if !s.isSessionReady then false
  else if !isOk then false
  else true

/-! ### Calls -/

/-- The calls of the stack's side and of the ports that may change the session. -/
inductive Call (κ : Tag → Type) where
  | onSessionStarted (stackIface : Option ℕ) (mqDesc : Option DataMQ)
      (audioConfig : AudioConfiguration κ) (latencyModes : List LatencyMode)
  | onSessionEnded
  | reportAudioConfigChanged (audioConfig : AudioConfiguration κ)
  | registerStatusCback (callbacks : PortStatusCallbacks)
  | unregisterStatusCback (cookie : ℕ)

/-- The session after a call, and what the call tells the observers. -/
def call (s : BluetoothAudioSession κ) : Call κ → BluetoothAudioSession κ × List Notification
  | .onSessionStarted stackIface mqDesc audioConfig latencyModes =>
    s.onSessionStarted stackIface mqDesc audioConfig latencyModes
  | .onSessionEnded => s.onSessionEnded
  | .reportAudioConfigChanged audioConfig => s.reportAudioConfigChanged audioConfig
  | .registerStatusCback callbacks => ((s.registerStatusCback callbacks).2, [])
  | .unregisterStatusCback cookie => (s.unregisterStatusCback cookie, [])

/-! ### What a started session is -/

section

variable (s : BluetoothAudioSession κ) (mqDesc : Option DataMQ) (audioConfig : AudioConfiguration κ)
  (latencyModes : List LatencyMode)

theorem updateAudioConfig_of_accepts {s : BluetoothAudioSession κ}
    (h : acceptsTag s.sessionType audioConfig.tag = true) :
    s.updateAudioConfig audioConfig = (true, { s with audioConfig := some audioConfig }) := by
  simp [updateAudioConfig, h]

theorem updateAudioConfig_of_not_accepts {s : BluetoothAudioSession κ}
    (h : acceptsTag s.sessionType audioConfig.tag = false) :
    s.updateAudioConfig audioConfig = (false, s) := by
  simp [updateAudioConfig, h]

/-- The descriptor can be mapped, or there is none. -/
def descOk : Option DataMQ → Bool
  | none => true
  | some desc => desc.isValid

theorem updateDataPath_of_ok {mqDesc : Option DataMQ} (h : descOk mqDesc = true) :
    s.updateDataPath mqDesc = (true, { s with dataMq := mqDesc }) := by
  cases mqDesc with
  | none => rfl
  | some desc =>
    have : desc.isValid = true := h
    simp [updateDataPath, this]

theorem updateDataPath_of_not_ok {mqDesc : Option DataMQ} (h : descOk mqDesc = false) :
    s.updateDataPath mqDesc = (false, { s with dataMq := none }) := by
  cases mqDesc with
  | none => cases h
  | some desc =>
    have : desc.isValid = false := h
    simp [updateDataPath, this]

/-- The ways `OnSessionStarted` can go. -/
inductive Started : Option ℕ → BluetoothAudioSession κ → List Notification → Prop
  | noIface : Started none s []
  | badConfig (iface : ℕ) (h : acceptsTag s.sessionType audioConfig.tag = false) :
      Started (some iface) s []
  | badMq (iface : ℕ) (h : acceptsTag s.sessionType audioConfig.tag = true)
      (hd : descOk mqDesc = false) :
      Started (some iface) { s with audioConfig := none, dataMq := none } []
  | ok (iface : ℕ) (h : acceptsTag s.sessionType audioConfig.tag = true)
      (hd : descOk mqDesc = true) :
      Started (some iface)
        { s with audioConfig := some audioConfig, dataMq := mqDesc, stackIface := some iface
                 latencyModes := latencyModes }
        s.reportSessionStatus

theorem onSessionStarted_cases (stackIface : Option ℕ) :
    Started s mqDesc audioConfig latencyModes stackIface
      (s.onSessionStarted stackIface mqDesc audioConfig latencyModes).1
      (s.onSessionStarted stackIface mqDesc audioConfig latencyModes).2 := by
  unfold onSessionStarted
  cases stackIface with
  | none => exact .noIface
  | some iface =>
    cases h : acceptsTag s.sessionType audioConfig.tag with
    | false => simpa [updateAudioConfig_of_not_accepts _ h] using Started.badConfig iface h
    | true =>
      cases hd : descOk mqDesc with
      | false =>
        simpa [updateAudioConfig_of_accepts _ h, updateDataPath_of_not_ok _ hd] using
          Started.badMq iface h hd
      | true =>
        simpa [updateAudioConfig_of_accepts _ h, updateDataPath_of_ok _ hd, reportSessionStatus] using
          Started.ok iface h hd

/-- `OnSessionEnded` leaves a session with neither stack nor queue nor configuration. -/
theorem onSessionEnded_eq : s.onSessionEnded =
    ({ s with audioConfig := none, stackIface := none, dataMq := none },
      if s.isSessionReady then s.reportSessionStatus else []) := rfl

@[simp] theorem isSessionReady_of_stackIface {s : BluetoothAudioSession κ} (h : s.stackIface = none) :
    s.isSessionReady = false := by simp [isSessionReady, h]

@[simp] theorem isSessionReady_of_audioConfig {s : BluetoothAudioSession κ}
    (h : s.audioConfig = none) : s.isSessionReady = false := by simp [isSessionReady, h]

theorem sessionType_call {s : BluetoothAudioSession κ} (c : Call κ) :
    (s.call c).1.sessionType = s.sessionType := by
  cases c with
  | onSessionStarted iface mqDesc cfg modes =>
    have hs := onSessionStarted_cases s mqDesc cfg modes iface
    dsimp only [call]
    generalize s.onSessionStarted iface mqDesc cfg modes = r at hs
    obtain ⟨s', ns⟩ := r
    cases hs with
    | noIface | badConfig | badMq | ok => rfl
  | onSessionEnded | registerStatusCback | unregisterStatusCback => rfl
  | reportAudioConfigChanged cfg =>
    dsimp only [call, reportAudioConfigChanged]
    split_ifs <;> rfl

end

end BluetoothAudioSession

end TrebleDoze.Bluetooth
