import TrebleDoze.Bluetooth.A2dpCodec
import Mathlib.Data.List.Sort
import Mathlib.Data.String.Basic

/-!
# The LE Audio offload setting

The content of the setting file, the maps that `BluetoothLeAudioCodecsProvider` loads from it, and the two
views of them: the codecs of each session type, and the capabilities of each scenario.

* `resolve`: the codec and the strategy that the name of a configuration stands for;
* `codecType_of_resolve_eq_none`: the view by capabilities leaves out the names that do not resolve;
* `perm_resolved_iff`: when the view by codecs leaves them out.
-/

namespace TrebleDoze.Bluetooth

/-! ### The content of the file -/

namespace Setting

/-- `setting::CodecType`. -/
inductive CodecType where
  | unknown | lc3 | aptxAdaptiveLe | aptxAdaptiveLex
  deriving DecidableEq, Repr

/-- `setting::AudioLocation`. -/
inductive AudioLocation where
  | unknown | mono | stereo
  deriving DecidableEq, Repr

/-- `setting::Scenario`. -/
structure Scenario where
  encode : Option String
  decode : Option String
  broadcast : Option String
  deriving DecidableEq, Repr

/-- `setting::Configuration`. -/
structure Configuration where
  name : Option String
  codecConfiguration : Option String
  strategyConfiguration : Option String
  deriving DecidableEq, Repr

/-- `setting::CodecConfiguration`. -/
structure CodecConfiguration where
  name : Option String
  codec : Option CodecType
  samplingFrequency : Option ℤ
  frameDurationUs : Option ℤ
  octetsPerCodecFrame : Option ℤ
  deriving DecidableEq, Repr

/-- `setting::StrategyConfiguration`. -/
structure StrategyConfiguration where
  name : Option String
  audioLocation : Option AudioLocation
  connectedDevice : Option ℕ
  channelCount : Option ℕ
  deriving DecidableEq, Repr

/-- `setting::LeAudioOffloadSetting`: each list may be there more than once. -/
structure LeAudioOffloadSetting where
  scenarioList : List (List Scenario)
  configurationList : List (List Configuration)
  codecConfigurationList : List (List CodecConfiguration)
  strategyConfigurationList : List (List StrategyConfiguration)
  deriving DecidableEq, Repr

end Setting

open Setting

/-! ### Loading the maps -/

/-- `IsValidCodecConfiguration`. -/
def isValidCodecConfiguration (c : CodecConfiguration) : Bool :=
  c.name.isSome && c.codec.isSome && c.samplingFrequency.isSome && c.frameDurationUs.isSome &&
    c.octetsPerCodecFrame.isSome

/-- `IsValidStrategyConfiguration`. -/
def isValidStrategyConfiguration (c : StrategyConfiguration) : Bool :=
  c.name.isSome &&
  match c.audioLocation, c.connectedDevice, c.channelCount with
  | some .stereo, some connectedDevice, some channelCount =>
    connectedDevice = 2 && channelCount = 1 || connectedDevice = 1 && channelCount = 2 ||
      connectedDevice = 0 && channelCount = 2
  | some .mono, some connectedDevice, some channelCount => connectedDevice = 1 && channelCount = 1
  | _, _, _ => false

/-- `insert` of an unordered map: what is there already stays. -/
def insertNew {α : Type} (map : List (String × α)) (key : String) (value : α) : List (String × α) :=
  if (map.lookup key).isSome then map else map ++ [(key, value)]

/-- The loop of the `Update…ToMap` functions: the valid elements, by their names. -/
def updateToMap {α : Type} (valid : α → Bool) (name : α → Option String) (lists : List (List α)) :
    List (String × α) :=
  lists.flatten.foldl (fun map a => if valid a then insertNew map ((name a).getD "") a else map) []

/-- `GetScenarios`. -/
def getScenarios (setting : LeAudioOffloadSetting) : List Scenario :=
  setting.scenarioList.flatten.filter fun s => s.encode.isSome && s.decode.isSome

/-- `UpdateConfigurationsToMap`. -/
def updateConfigurationsToMap (setting : LeAudioOffloadSetting) : List (String × Configuration) :=
  updateToMap (fun c => c.name.isSome && c.codecConfiguration.isSome && c.strategyConfiguration.isSome)
    Configuration.name setting.configurationList

/-- `UpdateCodecConfigurationsToMap`. -/
def updateCodecConfigurationsToMap (setting : LeAudioOffloadSetting) :
    List (String × CodecConfiguration) :=
  updateToMap isValidCodecConfiguration CodecConfiguration.name setting.codecConfigurationList

/-- `UpdateStrategyConfigurationsToMap`. -/
def updateStrategyConfigurationsToMap (setting : LeAudioOffloadSetting) :
    List (String × StrategyConfiguration) :=
  updateToMap isValidStrategyConfiguration StrategyConfiguration.name setting.strategyConfigurationList

/-- The maps of the provider. -/
structure Maps where
  supportedScenarios : List Scenario
  configurationMap : List (String × Configuration)
  codecConfigurationMap : List (String × CodecConfiguration)
  strategyConfigurationMap : List (String × StrategyConfiguration)
  deriving DecidableEq, Repr

namespace Maps

/-- The maps after they have been cleared. -/
def empty : Maps := ⟨[], [], [], []⟩

/-- None of the maps is empty. -/
def loaded (m : Maps) : Bool :=
  !(m.supportedScenarios.isEmpty || m.configurationMap.isEmpty || m.codecConfigurationMap.isEmpty ||
    m.strategyConfigurationMap.isEmpty)

end Maps

/-- The maps after `LoadConfigurationToMap`, which stops at the first one that stays empty. -/
def loadConfigurationToMap (setting : LeAudioOffloadSetting) : Maps :=
  let m := { Maps.empty with supportedScenarios := getScenarios setting }
  if m.supportedScenarios.isEmpty then m else
  let m := { m with configurationMap := updateConfigurationsToMap setting }
  if m.configurationMap.isEmpty then m else
  let m := { m with codecConfigurationMap := updateCodecConfigurationsToMap setting }
  if m.codecConfigurationMap.isEmpty then m else
  { m with strategyConfigurationMap := updateStrategyConfigurationsToMap setting }

/-! ### The codecs of each session type -/

/-- `CodecInfo::Transport::leAudio`. -/
structure LeAudioTransport where
  channelMode : List ChannelMode
  samplingFrequencyHz : List ℤ
  frameDurationUs : List ℤ
  bitdepth : List ℤ
  deriving DecidableEq, Repr

/-- `CodecInfo`; `none` stands for the initial value of a union. -/
structure CodecInfo where
  id : Option CodecId
  name : String
  transport : Option LeAudioTransport
  deriving DecidableEq, Repr

/-- `CodecInfo()`. -/
def CodecInfo.initial : CodecInfo := ⟨none, "", none⟩

/-- The codec info of a configuration with its codec and its strategy. -/
def composeCodecInfo (codecConfig : CodecConfiguration) (strategyConfig : StrategyConfiguration) :
    CodecInfo where
  id := if codecConfig.codec = some .lc3 then some .lc3 else some (.vendor 0 0)
  name := if codecConfig.codec = some .lc3 then "LC3" else "UNDEFINE"
  transport := some
    { channelMode := [match strategyConfig.audioLocation with
        | some .mono => if strategyConfig.channelCount = some 1 then .mono else .dualMono
        | some .stereo => .stereo
        | _ => .unknown]
      samplingFrequencyHz := [codecConfig.samplingFrequency.getD 0]
      frameDurationUs := [codecConfig.frameDurationUs.getD 0]
      -- the octets stand in for the bit depth
      bitdepth := [codecConfig.octetsPerCodecFrame.getD 0] }

/-- The codec and the strategy of a configuration, as far as they are in the maps. -/
def findCodecAndStrategy (m : Maps) (config : Configuration) :
    Option (CodecConfiguration × StrategyConfiguration) := do
  let codecConfig ← m.codecConfigurationMap.lookup (config.codecConfiguration.getD "")
  let strategyConfig ← m.strategyConfigurationMap.lookup (config.strategyConfiguration.getD "")
  some (codecConfig, strategyConfig)

/-- `config_codec_info_map_[name]`: names without an entry get a new one. -/
def configCodecInfo (m : Maps) (name : String) : CodecInfo :=
  match m.configurationMap.lookup name with
  | none => .initial
  | some config =>
    match findCodecAndStrategy m config with
    | none => .initial
    | some (codecConfig, strategyConfig) => composeCodecInfo codecConfig strategyConfig

/-- A `std::set` of names, in its order. -/
def nameSet (names : List String) : List String :=
  names.foldr (fun name set => if name ∈ set then set else set.orderedInsert (· ≤ ·) name) []

/-- The names that the scenarios give to one side. -/
def configNames (m : Maps) (side : Scenario → Option String) : List String :=
  nameSet (m.supportedScenarios.filterMap side)

/-- `session_codecs_map_`, as `GetLeAudioCodecInfo` fills it. -/
def sessionCodecs (m : Maps) : List (SessionType × List CodecInfo) :=
  [(.leAudioHardwareOffloadEncoding, (configNames m Scenario.encode).map (configCodecInfo m)),
    (.leAudioHardwareOffloadDecoding, (configNames m Scenario.decode).map (configCodecInfo m)),
    (.leAudioBroadcastHardwareOffloadEncoding,
      (configNames m Scenario.broadcast).map (configCodecInfo m))]

/-! ### The capabilities of each scenario -/

/-- `CodecType`, as far as LE Audio offload knows it. -/
inductive CodecType where
  | unknown | lc3 | aptxAdaptiveLe | aptxAdaptiveLex
  deriving DecidableEq, Repr

/-- `AudioLocation`: `kMonoAudio` is the unknown one, and `kStereoAudio` the two in front. -/
inductive AudioLocation where
  | unknown | frontLeftAndRight
  deriving DecidableEq, Repr

/-- `Lc3Capabilities`, and likewise `AptxAdaptiveLeCapabilities`. -/
structure FrameCapabilities where
  samplingFrequencyHz : List ℤ
  frameDurationUs : List ℤ
  octetsPerFrame : List ℤ
  deriving DecidableEq, Repr

/-- `LeAudioCodecCapabilities`. -/
inductive LeAudioCodecCapabilities where
  | lc3 (capabilities : FrameCapabilities)
  | aptxAdaptiveLe (capabilities : FrameCapabilities)
  deriving DecidableEq, Repr

/-- `UnicastCapability`. -/
structure UnicastCapability where
  codecType : CodecType
  supportedChannel : AudioLocation := .unknown
  deviceCount : ℕ := 0
  channelCountPerDevice : ℕ := 0
  leAudioCodecCapabilities : Option LeAudioCodecCapabilities := none
  deriving DecidableEq, Repr

/-- `BroadcastCapability`. -/
structure BroadcastCapability where
  codecType : CodecType
  supportedChannel : AudioLocation := .unknown
  channelCountPerStream : ℕ := 0
  leAudioCodecCapabilities : Option (List FrameCapabilities) := none
  deriving DecidableEq, Repr

/-- `LeAudioCodecCapabilitiesSetting`. -/
structure LeAudioCodecCapabilitiesSetting where
  unicastEncodeCapability : UnicastCapability
  unicastDecodeCapability : UnicastCapability
  broadcastCapability : BroadcastCapability
  deriving DecidableEq, Repr

/-- `GetCodecType`. -/
def getCodecType : Option Setting.CodecType → CodecType
  | some .lc3 => .lc3
  | some .aptxAdaptiveLe => .aptxAdaptiveLe
  | some .aptxAdaptiveLex => .aptxAdaptiveLex
  | _ => .unknown

/-- `GetAudioLocation`. -/
def getAudioLocation : Option Setting.AudioLocation → AudioLocation
  | some .stereo => .frontLeftAndRight
  | _ => .unknown

/-- `ComposeLc3Capability` and `ComposeAptxAdaptiveLeCapability`. -/
def composeFrameCapabilities (c : CodecConfiguration) : FrameCapabilities :=
  ⟨[c.samplingFrequency.getD 0], [c.frameDurationUs.getD 0], [c.octetsPerCodecFrame.getD 0]⟩

/-- The lookups at the start of `GetUnicastCapability` and `GetBroadcastCapability`. -/
def resolve (m : Maps) (codingDirection : String) : Option (CodecConfiguration × StrategyConfiguration) :=
  if codingDirection = "invalid" then none
  else (m.configurationMap.lookup codingDirection).bind (findCodecAndStrategy m)

/-- `ComposeUnicastCapability`. -/
def composeUnicastCapability (codecType : CodecType) (strategyConfig : StrategyConfiguration)
    (capabilities : LeAudioCodecCapabilities) : UnicastCapability where
  codecType := codecType
  supportedChannel := getAudioLocation strategyConfig.audioLocation
  deviceCount := strategyConfig.connectedDevice.getD 0
  channelCountPerDevice := strategyConfig.channelCount.getD 0
  leAudioCodecCapabilities := some capabilities

/-- `GetUnicastCapability`. -/
def getUnicastCapability (m : Maps) (codingDirection : String) : UnicastCapability :=
  match resolve m codingDirection with
  | none => { codecType := .unknown }
  | some (codecConfig, strategyConfig) =>
    let capabilities := composeFrameCapabilities codecConfig
    match getCodecType codecConfig.codec with
    | .lc3 => composeUnicastCapability .lc3 strategyConfig (.lc3 capabilities)
    | .aptxAdaptiveLe =>
      composeUnicastCapability .aptxAdaptiveLe strategyConfig (.aptxAdaptiveLe capabilities)
    | .aptxAdaptiveLex =>
      composeUnicastCapability .aptxAdaptiveLex strategyConfig (.aptxAdaptiveLe capabilities)
    | .unknown => { codecType := .unknown }

/-- `GetBroadcastCapability`. -/
def getBroadcastCapability (m : Maps) (codingDirection : String) : BroadcastCapability :=
  match resolve m codingDirection with
  | none => { codecType := .unknown }
  | some (codecConfig, strategyConfig) =>
    match getCodecType codecConfig.codec with
    | .lc3 =>
      { codecType := .lc3
        supportedChannel := getAudioLocation strategyConfig.audioLocation
        channelCountPerStream := strategyConfig.channelCount.getD 0
        leAudioCodecCapabilities := some [composeFrameCapabilities codecConfig] }
    | _ => { codecType := .unknown }

/-- `ComposeLeAudioCodecCapabilities`. -/
def composeLeAudioCodecCapabilities (m : Maps) (supportedScenarios : List Scenario) :
    List LeAudioCodecCapabilitiesSetting :=
  supportedScenarios.filterMap fun scenario =>
    let encode := getUnicastCapability m (scenario.encode.getD "")
    let decode := getUnicastCapability m (scenario.decode.getD "")
    let broadcast : BroadcastCapability :=
      match scenario.broadcast with
      | none => { codecType := .unknown }
      | some name => getBroadcastCapability m name
    if encode.codecType = .unknown ∧ decode.codecType = .unknown ∧ broadcast.codecType = .unknown then
      none
    else some ⟨encode, decode, broadcast⟩

/-! ### The two views -/

section

variable {m : Maps} {name : String} {names : List String}

/-- The view by capabilities has no codec for a name that does not resolve. -/
theorem codecType_of_resolve_eq_none (h : resolve m name = none) :
    (getUnicastCapability m name).codecType = .unknown ∧
      (getBroadcastCapability m name).codecType = .unknown := by
  unfold getUnicastCapability getBroadcastCapability
  rw [h]
  exact ⟨rfl, rfl⟩

theorem configCodecInfo_of_resolve {codecConfig : CodecConfiguration}
    {strategyConfig : StrategyConfiguration} (h : resolve m name = some (codecConfig, strategyConfig)) :
    configCodecInfo m name = composeCodecInfo codecConfig strategyConfig := by
  unfold resolve at h
  split_ifs at h with hn
  obtain ⟨config, hc, hf⟩ := Option.bind_eq_some_iff.1 h
  unfold configCodecInfo
  simp only [hc, hf]

/-- The codec infos of the names that resolve, and of no others. -/
def resolvedCodecInfo (m : Maps) (names : List String) : List CodecInfo :=
  names.filterMap fun name => (resolve m name).map fun r => composeCodecInfo r.1 r.2

/-- The view by codecs has the names that resolve, and no others, just when all of them do. -/
theorem perm_resolved_iff :
    (names.map (configCodecInfo m)).Perm (resolvedCodecInfo m names) ↔
      ∀ name ∈ names, (resolve m name).isSome := by
  constructor
  · intro h name hname
    have hlen := h.length_eq
    unfold resolvedCodecInfo at hlen
    rw [List.length_map, eq_comm, List.filterMap_length_eq_length] at hlen
    have hsome := hlen name hname
    rwa [Option.isSome_map] at hsome
  · intro h
    have heq : names.map (configCodecInfo m) = resolvedCodecInfo m names := by
      unfold resolvedCodecInfo
      induction names with
      | nil => rfl
      | cons name names ih =>
        obtain ⟨⟨codecConfig, strategyConfig⟩, hr⟩ := Option.isSome_iff_exists.1 (h name (by simp))
        rw [List.map_cons, List.filterMap_cons, hr, configCodecInfo_of_resolve hr,
          ih fun n hn => h n (by simp [hn])]
        rfl
    rw [heq]

theorem mem_nameSet : name ∈ nameSet names ↔ name ∈ names := by
  unfold nameSet
  induction names with
  | nil => rfl
  | cons n names ih =>
    rw [List.foldr_cons]
    split_ifs with hn
    · rw [ih, List.mem_cons]
      constructor
      · exact .inr
      · rintro (rfl | h)
        · exact ih.1 hn
        · exact h
    · rw [List.mem_orderedInsert, List.mem_cons, ih]

end

end TrebleDoze.Bluetooth
