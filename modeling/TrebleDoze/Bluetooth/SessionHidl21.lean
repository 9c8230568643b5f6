import TrebleDoze.Bluetooth.HidlLeAudio
import TrebleDoze.Lib.Exit

/-!
# The configurations of a HIDL session

The audio configurations that `BluetoothAudioSession` (HIDL) and `BluetoothAudioSession_2_1` keep, as
they work when there is no AIDL service. The constructor of 2.1 makes `UNKNOWN` of the session types of
2.0, so that the branch of its `GetAudioConfig` for `A2DP_HARDWARE_OFFLOAD_DATAPATH` is never taken; for
these types it converts the configurations to and from 2.0.

* `session_onSessionStarted`, `session_onSessionStarted21`: the other members go as in `SessionHidl`;
* `configInv_run`: a session that has been started has configurations of its kind, in every run;
* `keepsKind_iff`: when `GetAudioConfig` returns the kind of the session, and `OnSessionStarted` reads
  the member that there is.
-/

namespace TrebleDoze.Bluetooth.Hidl

open TrebleDoze.Lib

/-! ### The configurations -/

/-- `PcmParameters` of 2.0. -/
structure PcmParameters20 where
  sampleRate : BitVec 32
  channelMode : BitVec 32
  bitsPerSample : BitVec 32
  deriving DecidableEq, Repr

/-- `AudioConfiguration` of 2.0. -/
inductive AudioConfiguration20 where
  | pcmConfig (data : PcmParameters20)
  | codecConfig (data : CodecConfiguration)
  deriving DecidableEq, Repr

/-- `getDiscriminator`. -/
def AudioConfiguration20.kind : AudioConfiguration20 → ConfigKind
  | pcmConfig _ => .pcmConfig
  | codecConfig _ => .codecConfig

/-- The discriminators of 2.1. -/
inductive ConfigKind21 where
  | pcmConfig | codecConfig | leAudioCodecConfig
  deriving DecidableEq, Repr

/-- The discriminator of 2.1 for one of 2.0. -/
def ConfigKind.to21 : ConfigKind → ConfigKind21
  | pcmConfig => .pcmConfig
  | codecConfig => .codecConfig

/-- `getDiscriminator` of 2.1. -/
def AudioConfiguration21.kind : AudioConfiguration21 → ConfigKind21
  | pcmConfig _ => .pcmConfig
  | codecConfig _ => .codecConfig
  | leAudioCodecConfig _ => .leAudioCodecConfig

/-- `pcmConfig()`, which ends the process on another member. -/
def AudioConfiguration21.getPcmConfig : AudioConfiguration21 → Except Abort PcmParameters
  | pcmConfig data => .ok data
  | _ => .error .wrongTag

/-- `{}` of the union of 2.1: its first member, with zeros. -/
def AudioConfiguration21.zero : AudioConfiguration21 := .pcmConfig
  { sampleRate := 0, channelMode := 0, bitsPerSample := 0, dataIntervalUs := 0 }

/-- `kInvalidSoftwareAudioConfiguration` of 2.1. -/
def kInvalidSoftwareAudioConfiguration21 : AudioConfiguration21 := .zero

/-- `kInvalidOffloadAudioConfiguration` of 2.1. -/
def kInvalidOffloadAudioConfiguration21 : AudioConfiguration21 := .zero

/-- The one or the other, as the type `session_type_2_1_` has it. -/
def invalidConfig21 (type21 : SessionType) : AudioConfiguration21 :=
  if type21 = .a2dpHardwareOffload then kInvalidOffloadAudioConfiguration21
  else kInvalidSoftwareAudioConfiguration21

/-- `kInvalidCodecConfiguration`. -/
def kInvalidCodecConfiguration : CodecConfiguration where
  codecType := .unknown
  encodedAudioBitrate := 0x00000000
  peerMtu := 0xffff
  isScmstEnabled := false
  config := .sbcConfig
    { sampleRate := 0, channelMode := 0, blockLength := 0, numSubbands := 0, allocMethod := 0,
      bitsPerSample := 0, minBitpool := 0, maxBitpool := 0 }

/-- The conversion of 2.1 for a session of 2.0; `dataIntervalUs` is not passed. -/
def toConfig20 : AudioConfiguration21 → Except Abort AudioConfiguration20
  | .codecConfig data => .ok (.codecConfig data)
  | config => do
    let pcm ← config.getPcmConfig
    return .pcmConfig
      { sampleRate := pcm.sampleRate
        channelMode := pcm.channelMode
        bitsPerSample := pcm.bitsPerSample }

/-- The conversion of `GetAudioConfig` of 2.1. -/
def fromConfig20 : AudioConfiguration20 → AudioConfiguration21
  | .codecConfig data => .codecConfig data
  | .pcmConfig data => .pcmConfig
    { sampleRate := data.sampleRate
      channelMode := data.channelMode
      bitsPerSample := data.bitsPerSample
      dataIntervalUs := 0 }

section

variable (V : Values)

/-- `kInvalidPcmParameters`. -/
def kInvalidPcmParameters : PcmParameters20 where
  sampleRate := V.sampleRate .unknown
  channelMode := V.channelMode .unknown
  bitsPerSample := V.bitsPerSample .unknown

/-- `kInvalidOffloadAudioConfiguration` or `kInvalidSoftwareAudioConfiguration`, as the session type
has it. -/
def invalidConfig20 (sessionType : SessionType) : AudioConfiguration20 :=
  if sessionType = .a2dpHardwareOffload then .codecConfig kInvalidCodecConfiguration
  else .pcmConfig (kInvalidPcmParameters V)

end

/-- The configuration is of the kind of the session type. -/
structure OfSessionKind (t : SessionType) (config : AudioConfiguration21) : Prop where
  offload : t = .a2dpHardwareOffload → config.kind = .codecConfig
  software : t.isSoftware = true → config.kind = .pcmConfig

/-! ### The session -/

/-- `BluetoothAudioSession_2_1`, with its `audio_session`. -/
structure ConfigSession where
  session : BluetoothAudioSession
  /-- `audio_config_` of 2.0. -/
  audioConfig : AudioConfiguration20
  audioConfig21 : AudioConfiguration21
  deriving DecidableEq, Repr

namespace ConfigSession

/-- The constructor. -/
def create (sessionType : SessionType) : ConfigSession where
  session := .create sessionType
  audioConfig := .pcmConfig { sampleRate := 0, channelMode := 0, bitsPerSample := 0 }
  audioConfig21 := .zero

/-- `session_type_2_1_`. -/
def type21 (s : ConfigSession) : SessionType := s.session.sessionType.type21

section

variable (V : Values)

/-- `OnSessionStarted` of 2.0. -/
def onSessionStarted (stackIface : Option ℕ) (dataMQ : Option DataMQ) (config : AudioConfiguration20)
    (s : ConfigSession) : ConfigSession :=
  if stackIface.isNone then s
  else if !s.session.updateAudioConfig config.kind then s
  else
    let s := { s with audioConfig := config }
    let (pathOk, session) := s.session.updateDataPath dataMQ
    if !pathOk then
      { s with session := session, audioConfig := invalidConfig20 V session.sessionType }
    else { s with session := { session with stackIface := stackIface } }

/-- `OnSessionStarted` of 2.1. -/
def onSessionStarted21 (stackIface : Option ℕ) (dataMQ : Option DataMQ)
    (config : AudioConfiguration21) (s : ConfigSession) : Except Abort ConfigSession :=
  if s.type21 = .unknown then do
    let config ← toConfig20 config
    return s.onSessionStarted V stackIface dataMQ config
  else if stackIface.isNone then .ok s
  else if !((s.type21.isSoftware && config.kind == .pcmConfig) ||
      (s.type21 == .a2dpHardwareOffload && config.kind == .codecConfig)) then .ok s
  else
    let s := { s with audioConfig21 := config }
    let (pathOk, session) := s.session.updateDataPath dataMQ
    if !pathOk then .ok { s with session := session, audioConfig21 := invalidConfig21 s.type21 }
    else .ok { s with session := { session with stackIface := stackIface } }

/-- `OnSessionEnded`. -/
def onSessionEnded (s : ConfigSession) : ConfigSession :=
  { s with
    session := s.session.onSessionEnded.1
    audioConfig := invalidConfig20 V s.session.sessionType }

/-- `GetAudioConfig` of 2.0. -/
def getAudioConfig (s : ConfigSession) : AudioConfiguration20 :=
  if s.session.isSessionReady then s.audioConfig else invalidConfig20 V s.session.sessionType

/-- `GetAudioConfig` of 2.1. -/
def getAudioConfig21 (s : ConfigSession) : AudioConfiguration21 :=
  if s.session.isSessionReady then
    if s.type21 ≠ .unknown then s.audioConfig21 else fromConfig20 (s.getAudioConfig V)
  else invalidConfig21 s.type21

/-- The calls of the stack's side. -/
inductive Call where
  | onSessionStarted (stackIface : Option ℕ) (dataMQ : Option DataMQ) (config : AudioConfiguration20)
  | onSessionStarted21 (stackIface : Option ℕ) (dataMQ : Option DataMQ)
    (config : AudioConfiguration21)
  | onSessionEnded
  deriving DecidableEq, Repr

/-- The session after a call. -/
def call (s : ConfigSession) : Call → Except Abort ConfigSession
  | .onSessionStarted stackIface dataMQ config => .ok (s.onSessionStarted V stackIface dataMQ config)
  | .onSessionStarted21 stackIface dataMQ config => s.onSessionStarted21 V stackIface dataMQ config
  | .onSessionEnded => .ok (s.onSessionEnded V)

/-- The session after several calls, one of which may have ended the process. -/
def calls (s : ConfigSession) : List Call → Except Abort ConfigSession
  | [] => .ok s
  | c :: cs => do
    let s ← s.call V c
    s.calls cs

end

variable {V : Values} {s s' : ConfigSession} {t : SessionType} {stackIface : Option ℕ}
  {dataMQ : Option DataMQ}

/-! ### What a call does -/

theorem sessionType_updateDataPath (session : BluetoothAudioSession) :
    (session.updateDataPath dataMQ).2.sessionType = session.sessionType := by
  unfold BluetoothAudioSession.updateDataPath
  cases dataMQ with
  | none => rfl
  | some desc =>
    dsimp only
    split_ifs <;> rfl

/-- The members that `SessionHidl` has go as they do there. -/
theorem session_onSessionStarted (config : AudioConfiguration20) :
    (s.onSessionStarted V stackIface dataMQ config).session =
      (s.session.onSessionStarted stackIface dataMQ config.kind).1 := by
  dsimp only [onSessionStarted, BluetoothAudioSession.onSessionStarted, BluetoothAudioSession.started]
  split_ifs <;> rfl

theorem toConfig20_kind {config : AudioConfiguration21} {config20 : AudioConfiguration20}
    (h : toConfig20 config = .ok config20) : config.kind = config20.kind.to21 := by
  cases config with
  | pcmConfig data =>
    obtain rfl := Except.ok.inj h
    rfl
  | codecConfig data =>
    obtain rfl := Except.ok.inj h
    rfl
  | leAudioCodecConfig data => cases h

theorem to21_injective {kind kind' : ConfigKind} (h : kind.to21 = kind'.to21) : kind = kind' := by
  revert h
  cases kind <;> cases kind' <;> decide

@[inherit_doc session_onSessionStarted]
theorem session_onSessionStarted21 {config : AudioConfiguration21} {kind : ConfigKind}
    (hk : config.kind = kind.to21)
    (hs : s.onSessionStarted21 V stackIface dataMQ config = .ok s') :
    s'.session = (s.session.onSessionStarted21 stackIface dataMQ kind).1 := by
  rw [BluetoothAudioSession.onSessionStarted21]
  by_cases htype : s.type21 = .unknown
  · have htype' : s.session.sessionType.type21 = .unknown := htype
    rw [onSessionStarted21, if_pos htype] at hs
    rw [if_pos htype']
    obtain ⟨config20, hc, hs⟩ := bind_eq_ok_iff.1 hs
    obtain rfl := Except.ok.inj hs
    rw [session_onSessionStarted, to21_injective ((toConfig20_kind hc).symm.trans hk)]
  · have haccepts : BluetoothAudioSession.updateAudioConfig21 s.session.sessionType.type21 kind =
        ((s.type21.isSoftware && config.kind == .pcmConfig) ||
          (s.type21 == .a2dpHardwareOffload && config.kind == .codecConfig)) := by
      rw [hk]
      cases kind <;> rfl
    have htype' : ¬s.session.sessionType.type21 = .unknown := htype
    rw [if_neg htype', haccepts]
    dsimp only [onSessionStarted21, BluetoothAudioSession.started] at hs ⊢
    rw [if_neg htype] at hs
    split_ifs at hs ⊢ <;>
    · obtain rfl := Except.ok.inj hs
      rfl

/-- The configurations are of the kind of the session type, those apart that its sessions do not use. -/
structure KindsOf (t : SessionType) (kind20 : ConfigKind) (kind21 : ConfigKind21) : Prop where
  offload : t = .a2dpHardwareOffload → kind20 = .codecConfig
  software20 : t = .a2dpSoftwareEncoding ∨ t = .hearingAidSoftwareEncoding → kind20 = .pcmConfig
  software21 : t.type21 ≠ .unknown → kind21 = .pcmConfig

theorem kindsOf_of_accepts {session : BluetoothAudioSession} {kind20 : ConfigKind}
    {kind21 : ConfigKind21} (h : session.updateAudioConfig kind20 = true) :
    KindsOf session.sessionType kind20 kind21 := by
  simp only [BluetoothAudioSession.updateAudioConfig, Bool.or_eq_true, Bool.and_eq_true,
    beq_iff_eq] at h
  obtain ⟨ht | ht, rfl⟩ | ⟨ht, rfl⟩ := h
  · rw [ht]
    exact ⟨by decide, fun _ => rfl, fun h => absurd rfl h⟩
  · rw [ht]
    exact ⟨by decide, fun _ => rfl, fun h => absurd rfl h⟩
  · rw [ht]
    exact ⟨fun _ => rfl, by decide, fun h => absurd rfl h⟩

theorem kindsOf_invalid20 {kind20 : ConfigKind} {kind21 : ConfigKind21} (h : KindsOf t kind20 kind21) :
    KindsOf t (invalidConfig20 V t).kind kind21 := by
  refine ⟨fun ht => ?_, fun ht => ?_, h.software21⟩
  · rw [invalidConfig20, if_pos ht]
    rfl
  · rw [invalidConfig20, if_neg (by rcases ht with rfl | rfl <;> decide)]
    rfl

theorem kindsOf_software21 {kind20 : ConfigKind} (ht : t.type21 ≠ .unknown) :
    KindsOf t kind20 .pcmConfig := by
  refine ⟨fun h => ?_, fun h => ?_, fun _ => rfl⟩
  · subst h
    exact absurd rfl ht
  · rcases h with rfl | rfl <;> exact absurd rfl ht

/-- The branches of 2.1 for the A2DP offload are not taken. -/
theorem type21_ne_offload (t : SessionType) : t.type21 ≠ .a2dpHardwareOffload := by
  cases t <;> decide

theorem invalidConfig21_type21 (t : SessionType) : invalidConfig21 t.type21 = .zero := by
  rw [invalidConfig21, if_neg (type21_ne_offload t)]
  rfl

variable (t) in
/-- A session that has been started has configurations of the kind of its type. -/
structure ConfigInv (s : ConfigSession) : Prop where
  sessionType : s.session.sessionType = t
  kinds : s.session.stackIface.isSome = true → KindsOf t s.audioConfig.kind s.audioConfig21.kind

theorem configInv_create : ConfigInv t (create t) := ⟨rfl, fun h => by cases h⟩

theorem ConfigInv.onSessionStarted (h : ConfigInv t s) (config : AudioConfiguration20) :
    ConfigInv t (s.onSessionStarted V stackIface dataMQ config) := by
  obtain ⟨rfl, hkinds⟩ := h
  dsimp only [ConfigSession.onSessionStarted]
  split_ifs with hiface haccepts hpath
  · exact ⟨rfl, hkinds⟩
  · exact ⟨rfl, hkinds⟩
  · have hk : KindsOf s.session.sessionType config.kind s.audioConfig21.kind :=
      kindsOf_of_accepts (by simpa using haccepts)
    refine ⟨sessionType_updateDataPath s.session, fun _ => ?_⟩
    dsimp only
    rw [sessionType_updateDataPath]
    exact kindsOf_invalid20 hk
  · exact ⟨sessionType_updateDataPath s.session, fun _ => kindsOf_of_accepts (by simpa using haccepts)⟩

theorem ConfigInv.onSessionStarted21 (h : ConfigInv t s) {config : AudioConfiguration21}
    (hs : s.onSessionStarted21 V stackIface dataMQ config = .ok s') : ConfigInv t s' := by
  dsimp only [ConfigSession.onSessionStarted21] at hs
  split_ifs at hs with htype hiface haccepts hpath
  · obtain ⟨config20, -, hs⟩ := bind_eq_ok_iff.1 hs
    obtain rfl := Except.ok.inj hs
    exact h.onSessionStarted config20
  · obtain rfl := Except.ok.inj hs
    exact h
  · obtain rfl := Except.ok.inj hs
    exact h
  · obtain rfl := Except.ok.inj hs
    obtain ⟨rfl, -⟩ := h
    refine ⟨sessionType_updateDataPath s.session, fun _ => ?_⟩
    dsimp only [type21] at htype ⊢
    rw [invalidConfig21_type21]
    exact kindsOf_software21 htype
  · obtain rfl := Except.ok.inj hs
    obtain ⟨rfl, -⟩ := h
    refine ⟨sessionType_updateDataPath s.session, fun _ => ?_⟩
    simp only [Bool.not_eq_true', Bool.not_eq_false, Bool.or_eq_true, Bool.and_eq_true,
      beq_iff_eq] at haccepts
    dsimp only
    rcases haccepts with ⟨-, hkind⟩ | ⟨hoffload, -⟩
    · rw [hkind]
      exact kindsOf_software21 htype
    · exact absurd hoffload (type21_ne_offload _)

theorem ConfigInv.call (h : ConfigInv t s) {c : Call} (hs : s.call V c = .ok s') :
    ConfigInv t s' := by
  cases c with
  | onSessionStarted stackIface dataMQ config =>
    obtain rfl := Except.ok.inj hs
    exact h.onSessionStarted config
  | onSessionStarted21 stackIface dataMQ config => exact h.onSessionStarted21 hs
  | onSessionEnded =>
    obtain rfl := Except.ok.inj hs
    exact ⟨h.sessionType, fun hiface => by cases hiface⟩

theorem calls_cons_iff {c : Call} {cs : List Call} :
    s.calls V (c :: cs) = .ok s' ↔ ∃ s₁, s.call V c = .ok s₁ ∧ s₁.calls V cs = .ok s' :=
  bind_eq_ok_iff

theorem configInv_run {cs : List Call} (h : ConfigInv t s) (hs : s.calls V cs = .ok s') :
    ConfigInv t s' := by
  induction cs generalizing s with
  | nil =>
    obtain rfl := Except.ok.inj hs
    exact h
  | cons c cs ih =>
    obtain ⟨s₁, hc, hcs⟩ := calls_cons_iff.1 hs
    exact ih (h.call hc) hcs

/-! ### The kind of the configuration -/

theorem stackIface_of_ready {session : BluetoothAudioSession} (h : session.isSessionReady = true) :
    session.stackIface.isSome = true := by
  simp only [BluetoothAudioSession.isSessionReady, Bool.and_eq_true] at h
  exact h.1

theorem fromConfig20_kind (config : AudioConfiguration20) :
    (fromConfig20 config).kind = config.kind.to21 := by
  cases config <;> rfl

/-- A software session is one of 2.0, or one that 2.1 keeps the configuration of. -/
theorem software_cases {t : SessionType} (h : t.isSoftware = true) :
    (t = .a2dpSoftwareEncoding ∨ t = .hearingAidSoftwareEncoding) ∨ t.type21 ≠ .unknown := by
  revert h
  cases t <;> decide

/-- Ready, the configuration is of the kind of the session; otherwise it is of PCM. -/
theorem ConfigInv.ofSessionKind_iff (h : ConfigInv t s) :
    OfSessionKind t (s.getAudioConfig21 V) ↔
      (t = .a2dpHardwareOffload → s.session.isSessionReady = true) := by
  obtain ⟨rfl, hkinds⟩ := h
  by_cases hready : s.session.isSessionReady = true
  · have hk := hkinds (stackIface_of_ready hready)
    refine iff_of_true ?_ fun _ => hready
    rw [getAudioConfig21, if_pos hready]
    split_ifs with htype
    · refine ⟨fun ht => ?_, fun _ => hk.software21 htype⟩
      rw [type21, ht] at htype
      exact absurd rfl htype
    · rw [getAudioConfig, if_pos hready]
      refine ⟨fun ht => ?_, fun ht => ?_⟩
      · rw [fromConfig20_kind, hk.offload ht]
        rfl
      · rw [fromConfig20_kind, hk.software20 ((software_cases ht).resolve_right fun h => htype h)]
        rfl
  · have hzero : s.getAudioConfig21 V = .zero := by
      rw [getAudioConfig21, if_neg hready]
      exact invalidConfig21_type21 _
    rw [hzero]
    constructor
    · intro hkind ht
      exact absurd (hkind.offload ht) (by decide)
    · intro ht
      exact ⟨fun h => absurd (ht h) hready, fun _ => rfl⟩

/-! ### The member that is read -/

/-- A call hands over a configuration of which `OnSessionStarted` reads the member that there is: it is
not one for LE Audio, or the session is one of 2.1. -/
def Call.Readable (t : SessionType) : Call → Prop
  | .onSessionStarted21 _ _ config => config.kind = .leAudioCodecConfig → t.type21 ≠ .unknown
  | _ => True

theorem toConfig20_eq_ok_iff {config : AudioConfiguration21} :
    (∃ config20, toConfig20 config = .ok config20) ↔ config.kind ≠ .leAudioCodecConfig := by
  cases config with
  | pcmConfig data => exact iff_of_true ⟨_, rfl⟩ (fun h => by cases h)
  | codecConfig data => exact iff_of_true ⟨_, rfl⟩ (fun h => by cases h)
  | leAudioCodecConfig data => exact iff_of_false (fun ⟨_, h⟩ => by cases h) (fun h => h rfl)

theorem ConfigInv.call_isOk_iff (h : ConfigInv t s) (c : Call) :
    (∃ s', s.call V c = .ok s') ↔ c.Readable t := by
  obtain ⟨rfl, -⟩ := h
  cases c with
  | onSessionStarted stackIface dataMQ config => exact iff_of_true ⟨_, rfl⟩ trivial
  | onSessionEnded => exact iff_of_true ⟨_, rfl⟩ trivial
  | onSessionStarted21 stackIface dataMQ config =>
    by_cases htype : s.type21 = .unknown
    · have hcall : s.call V (.onSessionStarted21 stackIface dataMQ config) = (do
          let config20 ← toConfig20 config
          return s.onSessionStarted V stackIface dataMQ config20) := if_pos htype
      rw [hcall]
      constructor
      · rintro ⟨s', hs⟩ hkind
        obtain ⟨config20, hc, -⟩ := bind_eq_ok_iff.1 hs
        exact absurd hkind (toConfig20_eq_ok_iff.1 ⟨config20, hc⟩)
      · intro hread
        obtain ⟨config20, hc⟩ := toConfig20_eq_ok_iff.2 fun hkind => hread hkind htype
        exact ⟨_, bind_eq_ok_iff.2 ⟨config20, hc, rfl⟩⟩
    · refine iff_of_true ?_ fun _ => htype
      show ∃ s', s.onSessionStarted21 V stackIface dataMQ config = .ok s'
      dsimp only [ConfigSession.onSessionStarted21]
      split_ifs <;> exact ⟨_, rfl⟩

theorem ConfigInv.calls_isOk_iff (h : ConfigInv t s) (cs : List Call) :
    (∃ s', s.calls V cs = .ok s') ↔ ∀ c ∈ cs, c.Readable t := by
  induction cs generalizing s with
  | nil => exact iff_of_true ⟨s, rfl⟩ fun _ hc => by cases hc
  | cons c cs ih =>
    rw [List.forall_mem_cons, ← h.call_isOk_iff (V := V) c]
    constructor
    · rintro ⟨s', hs⟩
      obtain ⟨s₁, hc, hcs⟩ := calls_cons_iff.1 hs
      exact ⟨⟨s₁, hc⟩, (ih (h.call hc)).1 ⟨s', hcs⟩⟩
    · rintro ⟨⟨s₁, hc⟩, hcs⟩
      obtain ⟨s', hs⟩ := (ih (h.call hc)).2 hcs
      exact ⟨s', calls_cons_iff.2 ⟨s₁, hc, hs⟩⟩

end ConfigSession

/-- **When a session of HIDL 2.1 keeps to its kind**, over any history: no call of it reads a member that
is not there exactly if none hands a configuration for LE Audio to a session that is not of 2.1, and
`GetAudioConfig` then returns the kind of the session exactly if that is not an A2DP offload that is not
ready. -/
theorem keepsKind_iff (V : Values) (t : SessionType) (cs : List ConfigSession.Call) :
    ((∃ s, (ConfigSession.create t).calls V cs = .ok s) ↔ ∀ c ∈ cs, c.Readable t) ∧
      ∀ s, (ConfigSession.create t).calls V cs = .ok s →
        (OfSessionKind t (s.getAudioConfig21 V) ↔
          (t = .a2dpHardwareOffload → s.session.isSessionReady = true)) := by
  have hinit : ConfigSession.ConfigInv t (ConfigSession.create t) := ConfigSession.configInv_create
  exact ⟨hinit.calls_isOk_iff cs, fun s hs => (ConfigSession.configInv_run hinit hs).ofSessionKind_iff⟩

/-- LE Audio in software, started with PCM at 48 kHz. -/
def leAudioHistory : List ConfigSession.Call :=
  [.onSessionStarted21 (some 1) (some ⟨0, true⟩) (.pcmConfig ⟨0x02, 0x02, 0x01, 10000⟩)]

theorem keepsKind_iff_leAudio : ∃ s, (ConfigSession.create .leAudioSoftwareEncoding).calls values20
    leAudioHistory = .ok s ∧ OfSessionKind .leAudioSoftwareEncoding (s.getAudioConfig21 values20) := by
  have h := keepsKind_iff values20 .leAudioSoftwareEncoding leAudioHistory
  exact ⟨_, rfl, (h.2 _ rfl).2 (by decide)⟩

/-- An A2DP offload that the stack has not started, and one to which it hands a configuration for LE
Audio. -/
theorem offload_keeps_no_kind :
    ¬OfSessionKind .a2dpHardwareOffload
        ((ConfigSession.create .a2dpHardwareOffload).getAudioConfig21 values20) ∧
      (ConfigSession.create .a2dpHardwareOffload).onSessionStarted21 values20 (some 1) none
        (.leAudioCodecConfig ⟨⟨0, 0, 0, 0, 0⟩, 0⟩) = .error .wrongTag :=
  ⟨fun h => absurd (h.offload rfl) (by decide), rfl⟩

end TrebleDoze.Bluetooth.Hidl
