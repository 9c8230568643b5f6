import TrebleDoze.Bluetooth.LeAudioConfigurationData

/-!
# `PopulateAseConfigurationFromFlat`

How `AudioSetConfigurationProviderJson` makes the ASE configurations of an audio set configuration from
its codec configuration and its QoS configurations.

* `setConfigurationFromFlatSubconfig_isOk_iff`: when a subconfiguration is translated;
* `of_processSubconfigs`: the lists after the loop over the subconfigurations;
* `appendsEach_iff`: when each subconfiguration is appended to the list of its direction.
-/

namespace TrebleDoze.Bluetooth

open Lib

/-! ### The flat configurations -/

/-- `le_audio::CodecId`. -/
structure FlatCodecId where
  codingFormat : UInt8
  vendorCompanyId : UInt16
  vendorCodecId : UInt16
  deriving DecidableEq, Repr

/-- `le_audio::AudioSetSubConfiguration`, as far as it is read. -/
structure FlatSubConfiguration where
  direction : Int8
  codecId : FlatCodecId
  codecConfiguration : List CodecSpecificConfiguration
  deriving DecidableEq, Repr

/-- `le_audio::CodecConfiguration`. -/
structure FlatCodecConfiguration where
  name : String
  subconfigurations : List FlatSubConfiguration
  deriving DecidableEq, Repr

/-- `le_audio::QosConfiguration`. -/
structure FlatQosConfiguration where
  name : String
  targetLatency : Int8
  retransmissionNumber : UInt8
  maxTransportLatency : UInt16
  deriving DecidableEq, Repr

/-- `le_audio::AudioSetConfiguration`, less its own name. -/
structure FlatAudioSetConfiguration where
  codecConfigName : String
  qosConfigName : List String
  deriving DecidableEq, Repr

/-- `CodecLocation`. -/
inductive CodecLocation where
  | host | adsp | controller
  deriving DecidableEq, Repr

/-- `LeAudioDataPathConfiguration`, as far as it is set. -/
structure LeAudioDataPathConfiguration where
  dataPathId : UInt8
  isTransparent : Bool
  deriving DecidableEq, Repr

/-- `AseDirectionConfiguration` with its data path. -/
structure LoadedDirectionConfiguration extends AseDirectionConfiguration where
  dataPathConfiguration : LeAudioDataPathConfiguration
  deriving DecidableEq, Repr

def kIsoDataPathHci : UInt8 := 0x00
def kIsoDataPathPlatformDefault : UInt8 := 0x01

/-- `kLeAudioDirectionSink`. -/
def kLeAudioDirectionSink : Int8 := 0x01

/-- `default_qos`. -/
def defaultQos : String := "QoS_Config_Balanced_Reliability"

/-- `*pointer`, for a pointer that may be null. -/
def dereference {α : Type} (pointer : Option α) : Except Fault α :=
  match pointer with
  | some value => .ok value
  | none => .error .nullDereferenced

/-! ### Translating a subconfiguration -/

section

variable (lc3 : UInt8) (allocationBits : AudioChannel → UInt32)

/-- The switch over the target latency in `populateAseConfiguration`. -/
def targetLatencyOf (targetLatency : Int8) : TargetLatency :=
  if targetLatency = 0x02 then .balancedLatencyReliability
  else if targetLatency = 0x03 then .higherReliability
  else if targetLatency = 0x01 then .lower
  else .undefined

/-- `populateAseConfiguration`, for the coding format that the interface gives to LC3. -/
def populateAseConfiguration (flatSubconfig : FlatSubConfiguration)
    (qosCfg : Option FlatQosConfiguration) : Except Fault LeAudioAseConfiguration := do
  let qosCfg ← dereference qosCfg
  let codecConfiguration ← populateConfigurationData allocationBits flatSubconfig.codecConfiguration
  .ok
    { targetLatency := targetLatencyOf qosCfg.targetLatency
      codecId := some (
        if flatSubconfig.codecId.codingFormat = lc3 then .lc3
        else .vendor flatSubconfig.codecId.vendorCompanyId.toNat
          flatSubconfig.codecId.vendorCodecId.toNat)
      codecConfiguration := codecConfiguration }

/-- `populateAseQosConfiguration`. -/
def populateAseQosConfiguration (qosCfg : Option FlatQosConfiguration) :
    Except Fault LeAudioAseQosConfiguration := do
  let qosCfg ← dereference qosCfg
  .ok
    { maxTransportLatencyMs := qosCfg.maxTransportLatency.toNat
      retransmissionNum := qosCfg.retransmissionNumber.toNat }

/-- The data path of a location. -/
def dataPathOf : CodecLocation → LeAudioDataPathConfiguration
  | .adsp => ⟨kIsoDataPathPlatformDefault, true⟩
  | .host => ⟨kIsoDataPathHci, true⟩
  | .controller => ⟨kIsoDataPathPlatformDefault, false⟩

/-- `SetConfigurationFromFlatSubconfig`. -/
def setConfigurationFromFlatSubconfig (flatSubconfig : FlatSubConfiguration)
    (qosCfg : Option FlatQosConfiguration) (location : CodecLocation) :
    Except Fault LoadedDirectionConfiguration := do
  let ase ← populateAseConfiguration lc3 allocationBits flatSubconfig qosCfg
  let qos ← populateAseQosConfiguration qosCfg
  .ok
    { aseConfiguration := ase
      qosConfiguration := some qos
      dataPathConfiguration := dataPathOf location }

/-! ### Populating the lists -/

/-- The two lists of ASE configurations. -/
structure AseConfigurations where
  source : List (Option LoadedDirectionConfiguration)
  sink : List (Option LoadedDirectionConfiguration)
  deriving DecidableEq, Repr

/-- The name of the QoS configuration for the sink. -/
def qosSinkKey (qosConfigName : List String) : String := qosConfigName.head?.getD defaultQos

/-- The name for the source: the second one, or else that for the sink. -/
def qosSourceKey (qosConfigName : List String) : String :=
  (qosConfigName[1]?).getD (qosSinkKey qosConfigName)

/-- The body of the loop over the subconfigurations, with `processSubconfig`. -/
def processSubconfig (qosSinkCfg qosSourceCfg : Option FlatQosConfiguration) (location : CodecLocation)
    (s : AseConfigurations) (subconfig : FlatSubConfiguration) : Except Fault AseConfigurations :=
  if subconfig.direction = kLeAudioDirectionSink then do
    let cfg ← setConfigurationFromFlatSubconfig lc3 allocationBits subconfig qosSinkCfg location
    .ok { s with sink := s.sink ++ [some cfg] }
  else do
    let cfg ← setConfigurationFromFlatSubconfig lc3 allocationBits subconfig qosSourceCfg location
    .ok { s with source := s.source ++ [some cfg] }

/-- `PopulateAseConfigurationFromFlat`. -/
def populateAseConfigurationFromFlat (flatCfg : Option FlatAudioSetConfiguration)
    (codecCfgs : List FlatCodecConfiguration) (qosCfgs : List FlatQosConfiguration)
    (location : CodecLocation) (s : AseConfigurations) : Except Fault AseConfigurations :=
  match flatCfg with
  | none => .ok s
  | some flatCfg =>
    let qosSinkCfg := qosCfgs.find? fun cfg => cfg.name = qosSinkKey flatCfg.qosConfigName
    let qosSourceCfg := qosCfgs.find? fun cfg => cfg.name = qosSourceKey flatCfg.qosConfigName
    match codecCfgs.find? fun cfg => cfg.name = flatCfg.codecConfigName with
    | none => .ok s
    | some codecCfg =>
      codecCfg.subconfigurations.foldlM
        (processSubconfig lc3 allocationBits qosSinkCfg qosSourceCfg location) s

end

/-! ### What should be appended -/

/-- The QoS configuration of a name: the first one. -/
def firstQosCfg (qosCfgs : List FlatQosConfiguration) (key : String) : Option FlatQosConfiguration :=
  qosCfgs.find? fun cfg => cfg.name = key

/-- The subconfigurations of the first codec configuration of the name, if there is one. -/
def namedSubconfigurations (flatCfg : Option FlatAudioSetConfiguration)
    (codecCfgs : List FlatCodecConfiguration) : List FlatSubConfiguration :=
  match flatCfg.bind fun flatCfg => codecCfgs.find? fun cfg => cfg.name = flatCfg.codecConfigName with
  | none => []
  | some codecCfg => codecCfg.subconfigurations

/-- The names of the QoS configurations. -/
def qosNames (flatCfg : Option FlatAudioSetConfiguration) : List String :=
  (flatCfg.map FlatAudioSetConfiguration.qosConfigName).getD []

/-- The subconfiguration is one for the sink. -/
def FlatSubConfiguration.isSink (subconfig : FlatSubConfiguration) : Bool :=
  subconfig.direction = kLeAudioDirectionSink

/-- The name of the QoS configuration for a subconfiguration: that of its direction. -/
def qosKeyOf (qosConfigName : List String) (subconfig : FlatSubConfiguration) : String :=
  if subconfig.isSink then qosSinkKey qosConfigName else qosSourceKey qosConfigName

section

variable (lc3 : UInt8) (allocationBits : AudioChannel → UInt32)

/-- The configuration is what the subconfiguration is translated to, with the first QoS configuration of
the name. -/
def Translates (qosCfgs : List FlatQosConfiguration) (qosConfigName : List String)
    (location : CodecLocation) (subconfig : FlatSubConfiguration)
    (cfg : Option LoadedDirectionConfiguration) : Prop :=
  ∃ qosCfg loaded, firstQosCfg qosCfgs (qosKeyOf qosConfigName subconfig) = some qosCfg ∧
    setConfigurationFromFlatSubconfig lc3 allocationBits subconfig (some qosCfg) location = .ok loaded ∧
    cfg = some loaded

/-- Each subconfiguration has been appended, once, to the list of its direction. -/
structure Appended (qosCfgs : List FlatQosConfiguration) (qosConfigName : List String)
    (location : CodecLocation) (subconfigs : List FlatSubConfiguration) (s s' : AseConfigurations) :
    Prop where
  sink : ∃ cfgs, s'.sink = s.sink ++ cfgs ∧
    List.Forall₂ (Translates lc3 allocationBits qosCfgs qosConfigName location)
      (subconfigs.filter FlatSubConfiguration.isSink) cfgs
  source : ∃ cfgs, s'.source = s.source ++ cfgs ∧
    List.Forall₂ (Translates lc3 allocationBits qosCfgs qosConfigName location)
      (subconfigs.filter fun subconfig => !subconfig.isSink) cfgs

/-- No null configuration is dereferenced, and each subconfiguration is appended. -/
def AppendsEach (flatCfg : Option FlatAudioSetConfiguration) (codecCfgs : List FlatCodecConfiguration)
    (qosCfgs : List FlatQosConfiguration) (location : CodecLocation) (s : AseConfigurations) : Prop :=
  ∃ s', populateAseConfigurationFromFlat lc3 allocationBits flatCfg codecCfgs qosCfgs location s =
      .ok s' ∧
    Appended lc3 allocationBits qosCfgs (qosNames flatCfg) location
      (namedSubconfigurations flatCfg codecCfgs) s s'

/-- A subconfiguration that can be translated: there is a QoS configuration for it, and its parameters can
be read. -/
def Translatable (qosCfgs : List FlatQosConfiguration) (qosConfigName : List String)
    (subconfig : FlatSubConfiguration) : Prop :=
  (firstQosCfg qosCfgs (qosKeyOf qosConfigName subconfig)).isSome = true ∧
    ∀ type, Readable subconfig.codecConfiguration type

end

/-! ### The loop -/

section

variable {lc3 : UInt8} {allocationBits : AudioChannel → UInt32} {qosCfgs : List FlatQosConfiguration}
  {qosConfigName : List String} {location : CodecLocation} {subconfig : FlatSubConfiguration}
  {subconfigs : List FlatSubConfiguration} {s s' : AseConfigurations}

theorem dereference_eq_ok_iff {α : Type} {pointer : Option α} {value : α} :
    dereference pointer = .ok value ↔ pointer = some value := by
  unfold dereference
  cases pointer with
  | none => simp
  | some v => simp

/-- **A subconfiguration is translated** just when there is a QoS configuration and its parameters can be
read. -/
theorem setConfigurationFromFlatSubconfig_isOk_iff {qosCfg : Option FlatQosConfiguration} :
    (∃ loaded, setConfigurationFromFlatSubconfig lc3 allocationBits subconfig qosCfg location =
        .ok loaded) ↔
      qosCfg.isSome = true ∧ ∀ type, Readable subconfig.codecConfiguration type := by
  have hread : (∃ ltvs, populateConfigurationData allocationBits subconfig.codecConfiguration =
      .ok ltvs) ↔ ∀ type, Readable subconfig.codecConfiguration type :=
    populateConfigurationData_isOk_iff
  rw [← hread]
  constructor
  · rintro ⟨loaded, h⟩
    unfold setConfigurationFromFlatSubconfig populateAseConfiguration at h
    obtain ⟨ase, hase, -⟩ := bind_eq_ok_iff.1 h
    obtain ⟨qos, hqos, hase⟩ := bind_eq_ok_iff.1 hase
    obtain ⟨ltvs, hltvs, -⟩ := bind_eq_ok_iff.1 hase
    exact ⟨Option.isSome_iff_exists.2 ⟨qos, dereference_eq_ok_iff.1 hqos⟩, ltvs, hltvs⟩
  · rintro ⟨hqos, ltvs, hltvs⟩
    obtain ⟨qos, rfl⟩ := Option.isSome_iff_exists.1 hqos
    unfold setConfigurationFromFlatSubconfig populateAseConfiguration populateAseQosConfiguration
    rw [hltvs]
    exact ⟨_, rfl⟩

/-- A configuration is translated and put in a list just when it is with the QoS configuration that is
found. -/
theorem bind_translation_eq_ok_iff {key : String}
    (put : Option LoadedDirectionConfiguration → AseConfigurations) :
    (do
      let cfg ← setConfigurationFromFlatSubconfig lc3 allocationBits subconfig
        (firstQosCfg qosCfgs key) location
      .ok (put (some cfg))) = Except.ok s' ↔
    ∃ cfg, (∃ qosCfg loaded, firstQosCfg qosCfgs key = some qosCfg ∧
      setConfigurationFromFlatSubconfig lc3 allocationBits subconfig (some qosCfg) location =
        .ok loaded ∧ cfg = some loaded) ∧ s' = put cfg := by
  rw [bind_eq_ok_iff]
  constructor
  · rintro ⟨loaded, h, hs⟩
    obtain ⟨hsome, -⟩ := setConfigurationFromFlatSubconfig_isOk_iff.1 ⟨loaded, h⟩
    obtain ⟨qosCfg, hq⟩ := Option.isSome_iff_exists.1 hsome
    rw [hq] at h
    exact ⟨some loaded, ⟨qosCfg, loaded, hq, h, rfl⟩, (Except.ok.inj hs).symm⟩
  · rintro ⟨cfg, ⟨qosCfg, loaded, hq, h, rfl⟩, rfl⟩
    rw [hq]
    exact ⟨loaded, h, rfl⟩

/-- The step for a subconfiguration: the list of its direction has its translation at the end. -/
theorem processSubconfig_eq_ok_iff :
    processSubconfig lc3 allocationBits (firstQosCfg qosCfgs (qosSinkKey qosConfigName))
        (firstQosCfg qosCfgs (qosSourceKey qosConfigName)) location s subconfig = .ok s' ↔
      ∃ cfg, Translates lc3 allocationBits qosCfgs qosConfigName location subconfig cfg ∧
        s' = if subconfig.isSink then { s with sink := s.sink ++ [cfg] }
          else { s with source := s.source ++ [cfg] } := by
  unfold processSubconfig Translates qosKeyOf FlatSubConfiguration.isSink
  by_cases hsink : subconfig.direction = kLeAudioDirectionSink
  · simp only [hsink, if_true, decide_true]
    exact bind_translation_eq_ok_iff fun cfg => { s with sink := s.sink ++ [cfg] }
  · simp only [hsink, if_false, decide_false, Bool.false_eq_true]
    exact bind_translation_eq_ok_iff fun cfg => { s with source := s.source ++ [cfg] }

/-- The list of a direction after a subconfiguration and those behind it. -/
theorem Appended.cons {cfg : Option LoadedDirectionConfiguration}
    (hcfg : Translates lc3 allocationBits qosCfgs qosConfigName location subconfig cfg)
    (h : Appended lc3 allocationBits qosCfgs qosConfigName location subconfigs
      (if subconfig.isSink then { s with sink := s.sink ++ [cfg] }
        else { s with source := s.source ++ [cfg] }) s') :
    Appended lc3 allocationBits qosCfgs qosConfigName location (subconfig :: subconfigs) s s' := by
  obtain ⟨⟨sinks, hsink, hsinks⟩, sources, hsource, hsources⟩ := h
  by_cases hdirection : subconfig.isSink = true
  · rw [if_pos hdirection] at hsink hsource
    constructor
    · refine ⟨cfg :: sinks, ?_, ?_⟩
      · rw [hsink, List.append_assoc, List.singleton_append]
      · rw [List.filter_cons_of_pos hdirection]
        exact .cons hcfg hsinks
    · refine ⟨sources, hsource, ?_⟩
      rw [List.filter_cons_of_neg (by simp [hdirection])]
      exact hsources
  · rw [if_neg hdirection] at hsink hsource
    constructor
    · refine ⟨sinks, hsink, ?_⟩
      rw [List.filter_cons_of_neg hdirection]
      exact hsinks
    · refine ⟨cfg :: sources, ?_, ?_⟩
      · rw [hsource, List.append_assoc, List.singleton_append]
      · rw [List.filter_cons_of_pos (by simp [hdirection])]
        exact .cons hcfg hsources

/-- **The lists after the loop** have the translations of all subconfigurations, each of which can be
translated. -/
theorem of_processSubconfigs
    (h : subconfigs.foldlM (processSubconfig lc3 allocationBits
      (firstQosCfg qosCfgs (qosSinkKey qosConfigName))
      (firstQosCfg qosCfgs (qosSourceKey qosConfigName)) location) s = .ok s') :
    Appended lc3 allocationBits qosCfgs qosConfigName location subconfigs s s' ∧
      ∀ subconfig ∈ subconfigs, Translatable qosCfgs qosConfigName subconfig := by
  induction subconfigs generalizing s with
  | nil =>
    obtain rfl := Except.ok.inj h
    refine ⟨⟨⟨[], ?_, .nil⟩, [], ?_, .nil⟩, fun _ hf => absurd hf List.not_mem_nil⟩
    · rw [List.append_nil]
    · rw [List.append_nil]
  | cons subconfig subconfigs ih =>
    rw [List.foldlM_cons, bind_eq_ok_iff] at h
    obtain ⟨s1, hstep, hrest⟩ := h
    obtain ⟨cfg, hcfg, rfl⟩ := processSubconfig_eq_ok_iff.1 hstep
    obtain ⟨happended, htranslatable⟩ := ih hrest
    refine ⟨happended.cons hcfg, List.forall_mem_cons.2 ⟨?_, htranslatable⟩⟩
    obtain ⟨qosCfg, loaded, hq, hloaded, -⟩ := hcfg
    refine ⟨Option.isSome_iff_exists.2 ⟨qosCfg, hq⟩, ?_⟩
    exact (setConfigurationFromFlatSubconfig_isOk_iff.1 ⟨loaded, hloaded⟩).2

/-- The loop gets to its end if each subconfiguration can be translated. -/
theorem exists_processSubconfigs
    (h : ∀ subconfig ∈ subconfigs, Translatable qosCfgs qosConfigName subconfig) :
    ∃ s', subconfigs.foldlM (processSubconfig lc3 allocationBits
      (firstQosCfg qosCfgs (qosSinkKey qosConfigName))
      (firstQosCfg qosCfgs (qosSourceKey qosConfigName)) location) s = .ok s' := by
  induction subconfigs generalizing s with
  | nil => exact ⟨s, rfl⟩
  | cons subconfig subconfigs ih =>
    obtain ⟨hfirst, hrest⟩ := List.forall_mem_cons.1 h
    obtain ⟨hqos, hread⟩ := hfirst
    obtain ⟨qosCfg, hq⟩ := Option.isSome_iff_exists.1 hqos
    obtain ⟨loaded, hloaded⟩ : ∃ loaded, setConfigurationFromFlatSubconfig lc3 allocationBits subconfig
        (some qosCfg) location = .ok loaded :=
      setConfigurationFromFlatSubconfig_isOk_iff.2 ⟨rfl, hread⟩
    obtain ⟨s1, hstep⟩ : ∃ s1, processSubconfig lc3 allocationBits
        (firstQosCfg qosCfgs (qosSinkKey qosConfigName))
        (firstQosCfg qosCfgs (qosSourceKey qosConfigName)) location s subconfig = .ok s1 :=
      ⟨_, processSubconfig_eq_ok_iff.2 ⟨some loaded, ⟨qosCfg, loaded, hq, hloaded, rfl⟩, rfl⟩⟩
    obtain ⟨s', hs'⟩ := ih (s := s1) hrest
    refine ⟨s', ?_⟩
    rw [List.foldlM_cons, hstep]
    exact hs'

/-- The call is the loop over the subconfigurations of the named codec configuration. -/
theorem populateAseConfigurationFromFlat_eq (flatCfg : Option FlatAudioSetConfiguration)
    (codecCfgs : List FlatCodecConfiguration) :
    populateAseConfigurationFromFlat lc3 allocationBits flatCfg codecCfgs qosCfgs location s =
      (namedSubconfigurations flatCfg codecCfgs).foldlM (processSubconfig lc3 allocationBits
        (firstQosCfg qosCfgs (qosSinkKey (qosNames flatCfg)))
        (firstQosCfg qosCfgs (qosSourceKey (qosNames flatCfg))) location) s := by
  unfold populateAseConfigurationFromFlat namedSubconfigurations
  cases flatCfg with
  | none => rfl
  | some flatCfg =>
    simp only [Option.bind_some]
    cases codecCfgs.find? fun cfg => cfg.name = flatCfg.codecConfigName with
    | none => rfl
    | some codecCfg => rfl

end

/-- **When each subconfiguration is appended** to the list of its direction: when there is a QoS
configuration for each of them, and its parameters can be read. -/
theorem appendsEach_iff (lc3 : UInt8) (allocationBits : AudioChannel → UInt32)
    (flatCfg : Option FlatAudioSetConfiguration) (codecCfgs : List FlatCodecConfiguration)
    (qosCfgs : List FlatQosConfiguration) (location : CodecLocation) (s : AseConfigurations) :
    AppendsEach lc3 allocationBits flatCfg codecCfgs qosCfgs location s ↔
      ∀ subconfig ∈ namedSubconfigurations flatCfg codecCfgs,
        Translatable qosCfgs (qosNames flatCfg) subconfig := by
  unfold AppendsEach
  rw [populateAseConfigurationFromFlat_eq]
  constructor
  · rintro ⟨s', hrun, -⟩
    exact (of_processSubconfigs hrun).2
  · intro h
    obtain ⟨s', hrun⟩ := exists_processSubconfigs h
    exact ⟨s', hrun, (of_processSubconfigs hrun).1⟩

/-- A subconfiguration for the sink whose QoS configuration does not exist: not even the default one. -/
theorem populateAseConfigurationFromFlat_null :
    populateAseConfigurationFromFlat 6 AudioChannel.location (some ⟨"One-OneChan", []⟩)
      [⟨"One-OneChan", [⟨1, ⟨6, 0, 0⟩, []⟩]⟩] [⟨"QoS_Config_Low_Latency", 1, 5, 20⟩] .host ⟨[], []⟩ =
        .error .nullDereferenced ∧
    ¬ AppendsEach 6 AudioChannel.location (some ⟨"One-OneChan", []⟩)
      [⟨"One-OneChan", [⟨1, ⟨6, 0, 0⟩, []⟩]⟩] [⟨"QoS_Config_Low_Latency", 1, 5, 20⟩] .host ⟨[], []⟩ := by
  have hrun : populateAseConfigurationFromFlat 6 AudioChannel.location (some ⟨"One-OneChan", []⟩)
      [⟨"One-OneChan", [⟨1, ⟨6, 0, 0⟩, []⟩]⟩] [⟨"QoS_Config_Low_Latency", 1, 5, 20⟩] .host ⟨[], []⟩ =
        .error .nullDereferenced := by decide
  refine ⟨hrun, ?_⟩
  rintro ⟨s', hok, -⟩
  rw [hrun] at hok
  cases hok

end TrebleDoze.Bluetooth
