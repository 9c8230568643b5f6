import Mathlib.Data.List.Forall2
import TrebleDoze.Bluetooth.LeAudioAse
import TrebleDoze.Bluetooth.LeAudioSettingLoader
import TrebleDoze.Lib.Trace

/-!
# The files of the LE Audio settings

`AudioSetConfigurationProviderJson` makes the settings from two files: the configurations by name, and the
scenarios with the names of theirs.  Both are read again at each call until there is a setting; from then
on what has been loaded is kept.

* `SettingFiles.named`: the scenarios and configurations whose settings the files give;
* `settings_of_files`: what is loaded after each sequence of calls, and when a call does not crash;
* `offered_from_files`: which configurations of the files `getLeAudioAseConfiguration` offers.
-/

namespace TrebleDoze.Bluetooth

open Lib

/-! ### The files and the static state -/

/-- `le_audio::AudioSetConfiguration`, with its own name. -/
structure NamedAudioSetConfiguration extends FlatAudioSetConfiguration where
  name : String
  deriving DecidableEq, Repr

/-- `le_audio::AudioSetConfigurations`. -/
structure FlatAudioSetConfigurations where
  qosConfigurations : List FlatQosConfiguration
  codecConfigurations : List FlatCodecConfiguration
  configurations : List NamedAudioSetConfiguration
  deriving DecidableEq, Repr

/-- `le_audio::AudioSetScenario`. -/
structure FlatAudioSetScenario where
  name : String
  configurations : List String
  deriving DecidableEq, Repr

/-- What the two files parse to; `none` for a file that cannot be loaded or parsed. -/
structure SettingFiles where
  configurations : Option FlatAudioSetConfigurations
  scenarios : Option (List FlatAudioSetScenario)
  deriving DecidableEq, Repr

/-- The value of a key in `configurations_`. -/
structure LoadedConfiguration extends AseConfigurations where
  flags : UInt32
  deriving DecidableEq, Repr

/-- `LeAudioAseConfigurationSetting`, with the data paths. -/
structure LoadedAseSetting where
  audioContext : UInt32
  packing : Packing
  source : List (Option LoadedDirectionConfiguration)
  sink : List (Option LoadedDirectionConfiguration)
  flags : UInt32
  deriving DecidableEq, Repr

/-- The setting, as far as it is matched. -/
def LoadedAseSetting.matched (setting : LoadedAseSetting) : LeAudioAseConfigurationSetting where
  audioContext := setting.audioContext
  packing := setting.packing
  sinkAseConfiguration :=
    some (setting.sink.map (Option.map LoadedDirectionConfiguration.toAseDirectionConfiguration))
  sourceAseConfiguration :=
    some (setting.source.map (Option.map LoadedDirectionConfiguration.toAseDirectionConfiguration))
  flags := some setting.flags

/-- The configurations of a setting for a direction. -/
def Direction.loaded (setting : LoadedAseSetting) : Direction → List (Option LoadedDirectionConfiguration)
  | .sink => setting.sink
  | .source => setting.source

@[simp] theorem Direction.configuration_matched {direction : Direction} {setting : LoadedAseSetting} :
    direction.configuration setting.matched = some ((direction.loaded setting).map
      (Option.map LoadedDirectionConfiguration.toAseDirectionConfiguration)) := by
  cases direction <;> rfl

/-- `configurations_`, the newest value of a key first, and `ase_configuration_settings_`. -/
structure AseSettings where
  configurations : List (String × LoadedConfiguration)
  settings : List LoadedAseSetting
  deriving DecidableEq, Repr

namespace AseSettings

def initial : AseSettings := ⟨[], []⟩

end AseSettings

/-- The bits of `AudioContext`. -/
structure AudioContexts where
  unspecified : UInt32
  conversational : UInt32
  media : UInt32
  game : UInt32
  instructional : UInt32
  voiceAssistants : UInt32
  liveAudio : UInt32
  notifications : UInt32
  ringtoneAlerts : UInt32
  alerts : UInt32
  emergencyAlarm : UInt32

/-- The bits that the interface defines. -/
def audioContexts : AudioContexts where
  unspecified := 0x0001
  conversational := 0x0002
  media := 0x0004
  game := 0x0008
  instructional := 0x0010
  voiceAssistants := 0x0020
  liveAudio := 0x0040
  notifications := 0x0100
  ringtoneAlerts := 0x0200
  alerts := 0x0400
  emergencyAlarm := 0x0800

/-- The context of a scenario; one of no known name is for no context. -/
def AudioContexts.ofScenario (A : AudioContexts) (scenarioName : String) : UInt32 :=
  if scenarioName = "Media" then
    A.alerts ||| A.instructional ||| A.notifications ||| A.emergencyAlarm ||| A.unspecified ||| A.media
  else if scenarioName = "Conversational" then A.ringtoneAlerts ||| A.conversational
  else if scenarioName = "Live" then A.liveAudio
  else if scenarioName = "Game" then A.game
  else if scenarioName = "VoiceAssistants" then A.voiceAssistants
  else 0

/-! ### Loading -/

section

variable (A : AudioContexts) (lc3 : UInt8) (allocationBits : AudioChannel → UInt32)

/-- The body of the loop over the configurations: one without subconfigurations is left out. -/
def loadConfiguration (root : FlatAudioSetConfigurations) (location : CodecLocation) (s : AseSettings)
    (flatCfg : NamedAudioSetConfiguration) : Except Fault AseSettings := do
  let lists ← populateAseConfigurationFromFlat lc3 allocationBits
    (some flatCfg.toFlatAudioSetConfiguration) root.codecConfigurations root.qosConfigurations location
    ⟨[], []⟩
  if lists.source.isEmpty && lists.sink.isEmpty then .ok s
  else .ok { s with configurations := (flatCfg.name, ⟨lists, 0⟩) :: s.configurations }

/-- `LoadConfigurationsFromFiles`. -/
def loadConfigurationsFromFiles (location : CodecLocation) (file : Option FlatAudioSetConfigurations)
    (s : AseSettings) : Except Fault (Bool × AseSettings) :=
  match file with
  | none => .ok (false, s)
  | some root =>
    if root.qosConfigurations.isEmpty then .ok (false, s)
    else if root.codecConfigurations.isEmpty then .ok (false, s)
    else if root.configurations.isEmpty then .ok (false, s)
    else do
      let s ← root.configurations.foldlM (loadConfiguration lc3 allocationBits root location) s
      .ok (true, s)

/-- The body of the loop over the scenarios: a setting for each name in `configurations_`. -/
def loadScenario (s : AseSettings) (scenario : FlatAudioSetScenario) : AseSettings :=
  { s with
    settings := s.settings ++ scenario.configurations.filterMap fun name =>
      (s.configurations.lookup name).map fun configuration =>
        { audioContext := A.ofScenario scenario.name
          packing := .sequential
          source := configuration.source
          sink := configuration.sink
          flags := configuration.flags } }

/-- `LoadScenariosFromFiles`. -/
def loadScenariosFromFiles (file : Option (List FlatAudioSetScenario)) (s : AseSettings) :
    Except Fault (Bool × AseSettings) :=
  match file with
  | none => .ok (false, s)
  | some scenarios =>
    if scenarios.isEmpty then .ok (false, s) else .ok (true, scenarios.foldl (loadScenario A) s)

/-- A loop of `LoadContent`, which the first file that does not load ends. -/
def loadFiles {φ : Type} (load : φ → AseSettings → Except Fault (Bool × AseSettings)) :
    List φ → AseSettings → Except Fault (Bool × AseSettings)
  | [], s => .ok (true, s)
  | file :: files, s => do
    let (loaded, s) ← load file s
    if loaded then loadFiles load files s else .ok (false, s)

/-- `LoadContent`. -/
def loadContent (configFiles : List (Option FlatAudioSetConfigurations))
    (scenarioFiles : List (Option (List FlatAudioSetScenario))) (location : CodecLocation)
    (s : AseSettings) : Except Fault (Bool × AseSettings) := do
  let (loaded, s) ← loadFiles (loadConfigurationsFromFiles lc3 allocationBits location) configFiles s
  if loaded then loadFiles (loadScenariosFromFiles A) scenarioFiles s else .ok (false, s)

/-- `GetLeAudioAseConfigurationSettings`, with `LoadAudioSetConfigurationProviderJson`: there is one file
of each kind; the answer is the list of settings of the new state. -/
def getLeAudioAseConfigurationSettings (s : AseSettings) (files : SettingFiles) :
    Except Fault AseSettings :=
  if s.configurations.isEmpty || s.settings.isEmpty then do
    let (_, s) ← loadContent A lc3 allocationBits [files.configurations] [files.scenarios] .host .initial
    .ok s
  else .ok s

/-- The state after a sequence of calls, by what the files parse to at each of them. -/
def afterCalls (calls : List SettingFiles) : Except Fault AseSettings :=
  calls.foldlM (getLeAudioAseConfigurationSettings A lc3 allocationBits) .initial

end

/-! ### What the files give -/

/-- The subconfigurations of a configuration. -/
def FlatAudioSetConfigurations.subconfigurations (root : FlatAudioSetConfigurations)
    (cfg : NamedAudioSetConfiguration) : List FlatSubConfiguration :=
  namedSubconfigurations (some cfg.toFlatAudioSetConfiguration) root.codecConfigurations

/-- The configuration that a name stands for: the last one of the name that has subconfigurations. -/
def FlatAudioSetConfigurations.resolve (root : FlatAudioSetConfigurations) (name : String) :
    Option NamedAudioSetConfiguration :=
  last (fun cfg => cfg.name = name && !(root.subconfigurations cfg).isEmpty) root.configurations

/-- None of the vectors is empty. -/
def FlatAudioSetConfigurations.complete (root : FlatAudioSetConfigurations) : Bool :=
  !root.qosConfigurations.isEmpty && !root.codecConfigurations.isEmpty && !root.configurations.isEmpty

/-- The subconfiguration is for the direction. -/
def FlatSubConfiguration.isFor (subconfig : FlatSubConfiguration) : Direction → Bool
  | .sink => subconfig.isSink
  | .source => !subconfig.isSink

/-- A scenario and a configuration that it names, with the file that has the configuration. -/
structure NamedSetting where
  root : FlatAudioSetConfigurations
  scenario : FlatAudioSetScenario
  configuration : NamedAudioSetConfiguration
  deriving DecidableEq, Repr

/-- The scenarios and configurations that two files give settings for. -/
def namedBy (root : FlatAudioSetConfigurations) (scenarios : List FlatAudioSetScenario) :
    List NamedSetting :=
  scenarios.flatMap fun scenario => scenario.configurations.filterMap fun name =>
    (root.resolve name).map fun configuration => ⟨root, scenario, configuration⟩

/-- The scenarios and configurations of the files, in the order of the scenarios and of their names. -/
def SettingFiles.named (files : SettingFiles) : List NamedSetting :=
  match files.configurations with
  | none => []
  | some root => if root.complete then namedBy root (files.scenarios.getD []) else []

/-- Each subconfiguration of each configuration that is read can be translated. -/
def SettingFiles.Translatable (files : SettingFiles) : Prop :=
  ∀ root, files.configurations = some root → root.complete = true → ∀ cfg ∈ root.configurations,
    ∀ subconfig ∈ root.subconfigurations cfg,
      Bluetooth.Translatable root.qosConfigurations cfg.qosConfigName subconfig

/-- Each call that reads the files finds them translatable; after one that gives a setting, none reads
them. -/
def ReadsWell : List SettingFiles → Prop
  | [] => True
  | files :: calls => files.Translatable ∧ (files.named = [] → ReadsWell calls)

/-- What the first files give that give a setting. -/
def namedByFirst (calls : List SettingFiles) : List NamedSetting :=
  ((calls.map SettingFiles.named).find? fun l => !l.isEmpty).getD []

section

variable (A : AudioContexts) (lc3 : UInt8) (allocationBits : AudioChannel → UInt32)

/-- The setting is for the context of the scenario and has, in each direction, the translations of the
configuration's subconfigurations, in their order. -/
structure NamedSetting.Carries (x : NamedSetting) (setting : LoadedAseSetting) : Prop where
  audioContext : setting.audioContext = A.ofScenario x.scenario.name
  packing : setting.packing = .sequential
  flags : setting.flags = 0
  configurations : ∀ direction : Direction,
    List.Forall₂ (Translates lc3 allocationBits x.root.qosConfigurations x.configuration.qosConfigName .host)
      ((x.root.subconfigurations x.configuration).filter (·.isFor direction)) (direction.loaded setting)

end

/-! ### The configurations -/

section

variable {A : AudioContexts} {lc3 : UInt8} {allocationBits : AudioChannel → UInt32}
  {root : FlatAudioSetConfigurations} {cfg : NamedAudioSetConfiguration} {s s' : AseSettings}

/-- The lists of a configuration are empty just when it has no subconfigurations. -/
theorem Appended.isEmpty {qosCfgs : List FlatQosConfiguration} {names : List String}
    {location : CodecLocation} {subconfigs : List FlatSubConfiguration} {lists : AseConfigurations}
    (h : Appended lc3 allocationBits qosCfgs names location subconfigs ⟨[], []⟩ lists) :
    (lists.source.isEmpty && lists.sink.isEmpty) = subconfigs.isEmpty := by
  obtain ⟨⟨sinks, hsink, hsinks⟩, sources, hsource, hsources⟩ := h
  rw [hsink, hsource, List.nil_append, List.nil_append]
  cases subconfigs with
  | nil =>
    cases hsinks
    cases hsources
    rfl
  | cons subconfig subconfigs =>
    cases hd : subconfig.isSink with
    | true =>
      rw [List.filter_cons_of_pos hd] at hsinks
      cases hsinks
      simp
    | false =>
      rw [List.filter_cons_of_pos (by simp [hd])] at hsources
      cases hsources
      simp

/-- The round of a configuration goes through just when its subconfigurations can be translated. -/
theorem loadConfiguration_isOk_iff {location : CodecLocation} :
    (∃ s', loadConfiguration lc3 allocationBits root location s cfg = .ok s') ↔
      ∀ subconfig ∈ root.subconfigurations cfg,
        Translatable root.qosConfigurations cfg.qosConfigName subconfig := by
  unfold loadConfiguration
  rw [populateAseConfigurationFromFlat_eq]
  constructor
  · rintro ⟨s', h⟩
    obtain ⟨lists, hlists, -⟩ := bind_eq_ok_iff.1 h
    exact (of_processSubconfigs hlists).2
  · intro h
    have hrun : ∃ lists, populateAseConfigurationFromFlat lc3 allocationBits
        (some cfg.toFlatAudioSetConfiguration) root.codecConfigurations root.qosConfigurations location
        ⟨[], []⟩ = .ok lists := by
      rw [populateAseConfigurationFromFlat_eq]
      exact exists_processSubconfigs h
    obtain ⟨lists, hlists⟩ := hrun
    rw [populateAseConfigurationFromFlat_eq] at hlists
    refine ⟨if lists.source.isEmpty && lists.sink.isEmpty then s
      else { s with configurations := (cfg.name, ⟨lists, 0⟩) :: s.configurations }, ?_⟩
    rw [bind_eq_ok_iff]
    refine ⟨lists, hlists, ?_⟩
    split_ifs <;> rfl

/-- What the round does: a configuration that has subconfigurations is the value of its name now. -/
theorem loadConfiguration_eq_ok {location : CodecLocation}
    (h : loadConfiguration lc3 allocationBits root location s cfg = .ok s') :
    s'.settings = s.settings ∧
      if (root.subconfigurations cfg).isEmpty then s'.configurations = s.configurations
      else ∃ lists, Appended lc3 allocationBits root.qosConfigurations cfg.qosConfigName location
        (root.subconfigurations cfg) ⟨[], []⟩ lists ∧
        s'.configurations = (cfg.name, ⟨lists, 0⟩) :: s.configurations := by
  unfold loadConfiguration at h
  rw [populateAseConfigurationFromFlat_eq] at h
  obtain ⟨lists, hlists, h⟩ := bind_eq_ok_iff.1 h
  have happended : Appended lc3 allocationBits root.qosConfigurations cfg.qosConfigName location
      (root.subconfigurations cfg) ⟨[], []⟩ lists := (of_processSubconfigs hlists).1
  rw [happended.isEmpty] at h
  split_ifs at h ⊢
  · obtain rfl := Except.ok.inj h
    exact ⟨rfl, rfl⟩
  · obtain rfl := Except.ok.inj h
    exact ⟨rfl, lists, happended, rfl⟩

/-- A loop goes through just when each of its rounds does, where that does not depend on the state. -/
theorem foldlM_isOk_iff {σ ι ε : Type} {f : σ → ι → Except ε σ} {P : ι → Prop}
    (hf : ∀ s i, (∃ s', f s i = .ok s') ↔ P i) (l : List ι) (s : σ) :
    (∃ s', l.foldlM f s = .ok s') ↔ ∀ i ∈ l, P i := by
  induction l generalizing s with
  | nil => exact ⟨fun _ i hi => absurd hi List.not_mem_nil, fun _ => ⟨s, rfl⟩⟩
  | cons i l ih =>
    rw [List.forall_mem_cons, ← hf s i]
    simp only [List.foldlM_cons, bind_eq_ok_iff]
    constructor
    · rintro ⟨s', s1, h1, h2⟩
      exact ⟨⟨s1, h1⟩, (ih s1).1 ⟨s', h2⟩⟩
    · rintro ⟨⟨s1, h1⟩, hl⟩
      obtain ⟨s', h2⟩ := (ih s1).2 hl
      exact ⟨s', s1, h1, h2⟩

variable (lc3 allocationBits root) in
/-- The value is what the configuration is loaded as. -/
def LoadedAs (location : CodecLocation) (cfg : NamedAudioSetConfiguration) (value : LoadedConfiguration) :
    Prop :=
  value.flags = 0 ∧ Appended lc3 allocationBits root.qosConfigurations cfg.qosConfigName location
    (root.subconfigurations cfg) ⟨[], []⟩ value.toAseConfigurations

/-- The map after the loop: a name stands for the last configuration of it that has subconfigurations. -/
theorem lookup_loadConfigurations {location : CodecLocation} {cfgs : List NamedAudioSetConfiguration}
    (h : cfgs.foldlM (loadConfiguration lc3 allocationBits root location) .initial = .ok s) :
    s.settings = [] ∧ ∀ name, Option.Rel (LoadedAs lc3 allocationBits root location)
      (last (fun cfg => cfg.name = name && !(root.subconfigurations cfg).isEmpty) cfgs)
      (s.configurations.lookup name) := by
  induction cfgs using List.reverseRecOn generalizing s with
  | nil =>
    obtain rfl := Except.ok.inj h
    exact ⟨rfl, fun _ => .none⟩
  | append_singleton cfgs cfg ih =>
    rw [List.foldlM_append, bind_eq_ok_iff] at h
    obtain ⟨s1, hs1, h⟩ := h
    rw [List.foldlM_cons, bind_eq_ok_iff] at h
    obtain ⟨s2, hs2, h⟩ := h
    obtain rfl := Except.ok.inj h
    obtain ⟨hsettings, hlookup⟩ := ih hs1
    obtain ⟨hsame, hcfg⟩ := loadConfiguration_eq_ok hs2
    refine ⟨hsame.trans hsettings, fun name => ?_⟩
    rw [last_snoc]
    by_cases hempty : (root.subconfigurations cfg).isEmpty = true
    · rw [if_pos hempty] at hcfg
      rw [if_neg (by simp [hempty]), hcfg]
      exact hlookup name
    · rw [if_neg hempty] at hcfg
      obtain ⟨lists, hlists, hcons⟩ := hcfg
      rw [hcons, List.lookup_cons]
      by_cases hname : cfg.name = name
      · have hkey : (name == cfg.name) = true := by simp [hname]
        rw [if_pos (by simp [hname, hempty]), hkey]
        exact .some ⟨rfl, hlists⟩
      · have hkey : (name == cfg.name) = false := by simpa using Ne.symm hname
        rw [if_neg (by simp [hname]), hkey]
        exact hlookup name

/-! ### The scenarios -/

variable {scenarios : List FlatAudioSetScenario}

theorem foldl_loadScenario : scenarios.foldl (loadScenario A) s =
    { s with
      settings := s.settings ++ scenarios.flatMap fun scenario =>
        scenario.configurations.filterMap fun name => (s.configurations.lookup name).map fun configuration =>
          { audioContext := A.ofScenario scenario.name
            packing := .sequential
            source := configuration.source
            sink := configuration.sink
            flags := configuration.flags } } := by
  induction scenarios generalizing s with
  | nil => simp
  | cons scenario scenarios ih =>
    rw [List.foldl_cons, ih, List.flatMap_cons]
    simp only [loadScenario, List.append_assoc]

theorem settings_loadScenarios_of_nil (hs : s.settings = []) (hc : s.configurations = []) :
    (scenarios.foldl (loadScenario A) s).settings = [] := by
  rw [foldl_loadScenario, hs, hc]
  simp

/-- The settings are those of the scenarios and configurations that the names stand for. -/
theorem carries_loadScenarios (hs : s.settings = [])
    (hl : ∀ name, Option.Rel (LoadedAs lc3 allocationBits root .host) (root.resolve name)
      (s.configurations.lookup name)) :
    List.Forall₂ (NamedSetting.Carries A lc3 allocationBits) (namedBy root scenarios)
      (scenarios.foldl (loadScenario A) s).settings := by
  rw [foldl_loadScenario, hs, List.nil_append]
  unfold namedBy
  refine List.rel_flatMap (R := Eq) (List.forall₂_refl scenarios) ?_
  rintro scenario _ rfl
  refine List.rel_filterMap (R := Eq) ?_ (List.forall₂_refl scenario.configurations)
  rintro name _ rfl
  have hname := hl name
  dsimp only
  generalize root.resolve name = chosen, s.configurations.lookup name = value at hname
  cases hname with
  | none => exact .none
  | some hloaded =>
    obtain ⟨hflags, ⟨sinks, hsink, hsinks⟩, sources, hsource, hsources⟩ := hloaded
    rw [List.nil_append] at hsink hsource
    subst hsink hsource
    refine .some ⟨rfl, rfl, hflags, fun direction => ?_⟩
    cases direction with
    | sink => exact hsinks
    | source => exact hsources

/-! ### The calls -/

variable {files : SettingFiles} {calls : List SettingFiles}

theorem getLeAudioAseConfigurationSettings_of_nil (hs : s.settings = []) :
    getLeAudioAseConfigurationSettings A lc3 allocationBits s files =
      match files.configurations with
      | none => .ok .initial
      | some root =>
        if root.complete then
          (root.configurations.foldlM (loadConfiguration lc3 allocationBits root .host) .initial).bind
            fun s => .ok ((files.scenarios.getD []).foldl (loadScenario A) s)
        else .ok .initial := by
  unfold getLeAudioAseConfigurationSettings
  rw [hs, List.isEmpty_nil, Bool.or_true, if_pos rfl]
  unfold loadContent
  rw [loadFiles]
  unfold loadConfigurationsFromFiles
  cases files.configurations with
  | none => rfl
  | some root =>
    dsimp only
    unfold FlatAudioSetConfigurations.complete
    cases root.qosConfigurations.isEmpty with
    | true => rfl
    | false =>
      cases root.codecConfigurations.isEmpty with
      | true => rfl
      | false =>
        cases root.configurations.isEmpty with
        | true => rfl
        | false =>
          cases root.configurations.foldlM (loadConfiguration lc3 allocationBits root .host) .initial with
          | error e => rfl
          | ok s1 =>
            rcases files.scenarios with _ | _ | ⟨scenario, scenarios⟩
            · rfl
            · rfl
            · rfl

theorem getLeAudioAseConfigurationSettings_of_ne_nil (hs : s.settings ≠ []) (hc : s.configurations ≠ []) :
    getLeAudioAseConfigurationSettings A lc3 allocationBits s files = .ok s := by
  unfold getLeAudioAseConfigurationSettings
  rw [if_neg (by simp [hs, hc])]

/-- A call that reads the files does not crash just when they can be translated. -/
theorem reads_isOk_iff (hs : s.settings = []) :
    (∃ s', getLeAudioAseConfigurationSettings A lc3 allocationBits s files = .ok s') ↔
      files.Translatable := by
  rw [getLeAudioAseConfigurationSettings_of_nil hs]
  unfold SettingFiles.Translatable
  cases files.configurations with
  | none =>
    refine ⟨fun _ root hroot => ?_, fun _ => ⟨_, rfl⟩⟩
    cases hroot
  | some root =>
    dsimp only
    by_cases hcomplete : root.complete = true
    · rw [if_pos hcomplete]
      have hloop : (∃ s', root.configurations.foldlM (loadConfiguration lc3 allocationBits root .host)
          .initial = .ok s') ↔ ∀ cfg ∈ root.configurations, ∀ subconfig ∈ root.subconfigurations cfg,
            Translatable root.qosConfigurations cfg.qosConfigName subconfig :=
        foldlM_isOk_iff (f := loadConfiguration lc3 allocationBits root .host)
          (fun _ _ => loadConfiguration_isOk_iff) root.configurations .initial
      constructor
      · rintro ⟨s', h⟩ root' hroot -
        obtain rfl := Option.some.inj hroot
        obtain ⟨s1, hs1, -⟩ := bind_eq_ok_iff.1 h
        exact hloop.1 ⟨s1, hs1⟩
      · intro h
        obtain ⟨s1, hs1⟩ := hloop.2 (h root rfl hcomplete)
        exact ⟨_, bind_eq_ok_iff.2 ⟨s1, hs1, rfl⟩⟩
    · rw [if_neg hcomplete]
      refine ⟨fun _ root' hroot hc => ?_, fun _ => ⟨_, rfl⟩⟩
      obtain rfl := Option.some.inj hroot
      exact absurd hc hcomplete

theorem carries_of_reads (hs : s.settings = [])
    (h : getLeAudioAseConfigurationSettings A lc3 allocationBits s files = .ok s') :
    List.Forall₂ (NamedSetting.Carries A lc3 allocationBits) files.named s'.settings ∧
      (s'.settings ≠ [] → s'.configurations ≠ []) := by
  rw [getLeAudioAseConfigurationSettings_of_nil hs] at h
  unfold SettingFiles.named
  cases hfile : files.configurations with
  | none =>
    rw [hfile] at h
    obtain rfl := Except.ok.inj h
    exact ⟨.nil, fun hne => absurd rfl hne⟩
  | some root =>
    rw [hfile] at h
    dsimp only at h ⊢
    by_cases hcomplete : root.complete = true
    · rw [if_pos hcomplete] at h ⊢
      obtain ⟨s1, hs1, hs'⟩ := bind_eq_ok_iff.1 h
      obtain rfl := Except.ok.inj hs'
      obtain ⟨hnil, hlookup⟩ := lookup_loadConfigurations hs1
      refine ⟨carries_loadScenarios hnil hlookup, fun hne hc => hne ?_⟩
      rw [foldl_loadScenario] at hc
      exact settings_loadScenarios_of_nil hnil hc
    · rw [if_neg hcomplete] at h ⊢
      obtain rfl := Except.ok.inj h
      exact ⟨.nil, fun hne => absurd rfl hne⟩

theorem foldlM_of_ne_nil (hs : s.settings ≠ []) (hc : s.configurations ≠ []) :
    calls.foldlM (getLeAudioAseConfigurationSettings A lc3 allocationBits) s = .ok s := by
  induction calls with
  | nil => rfl
  | cons files calls ih =>
    rw [List.foldlM_cons, getLeAudioAseConfigurationSettings_of_ne_nil hs hc]
    exact ih

theorem namedByFirst_cons : namedByFirst (files :: calls) =
    if files.named = [] then namedByFirst calls else files.named := by
  unfold namedByFirst
  rw [List.map_cons, List.find?_cons]
  cases hnamed : files.named with
  | nil => rfl
  | cons x l => rfl

theorem carries_foldlM (hs : s.settings = [])
    (h : calls.foldlM (getLeAudioAseConfigurationSettings A lc3 allocationBits) s = .ok s') :
    List.Forall₂ (NamedSetting.Carries A lc3 allocationBits) (namedByFirst calls) s'.settings := by
  induction calls generalizing s with
  | nil =>
    obtain rfl := Except.ok.inj h
    rw [hs]
    exact .nil
  | cons files calls ih =>
    rw [List.foldlM_cons, bind_eq_ok_iff] at h
    obtain ⟨s1, hs1, h⟩ := h
    obtain ⟨hcarries, hne⟩ := carries_of_reads hs hs1
    rw [namedByFirst_cons]
    by_cases hnamed : files.named = []
    · rw [if_pos hnamed]
      rw [hnamed, List.forall₂_nil_left_iff] at hcarries
      exact ih hcarries h
    · rw [if_neg hnamed]
      have hs1 : s1.settings ≠ [] := by
        intro hnil
        rw [hnil, List.forall₂_nil_right_iff] at hcarries
        exact hnamed hcarries
      rw [foldlM_of_ne_nil hs1 (hne hs1)] at h
      obtain rfl := Except.ok.inj h
      exact hcarries

/-- No call crashes just when those that read the files find them translatable. -/
theorem foldlM_isOk_iff_readsWell (hs : s.settings = []) :
    (∃ s', calls.foldlM (getLeAudioAseConfigurationSettings A lc3 allocationBits) s = .ok s') ↔
      ReadsWell calls := by
  induction calls generalizing s with
  | nil => exact ⟨fun _ => trivial, fun _ => ⟨s, rfl⟩⟩
  | cons files calls ih =>
    unfold ReadsWell
    rw [← reads_isOk_iff (A := A) hs]
    simp only [List.foldlM_cons, bind_eq_ok_iff]
    constructor
    · rintro ⟨s', s1, hs1, h⟩
      refine ⟨⟨s1, hs1⟩, fun hnamed => ?_⟩
      have hcarries := (carries_of_reads hs hs1).1
      rw [hnamed, List.forall₂_nil_left_iff] at hcarries
      exact (ih hcarries).1 ⟨s', h⟩
    · rintro ⟨⟨s1, hs1⟩, h⟩
      obtain ⟨hcarries, hne⟩ := carries_of_reads hs hs1
      by_cases hnil : s1.settings = []
      · rw [hnil, List.forall₂_nil_right_iff] at hcarries
        obtain ⟨s', hs'⟩ := (ih hnil).2 (h hcarries)
        exact ⟨s', s1, hs1, hs'⟩
      · exact ⟨s1, s1, hs1, foldlM_of_ne_nil hnil (hne hnil)⟩

end

/-- **The settings of the files**: the calls do not crash just when those that read the files find them
translatable, and what they load is, setting by setting, what the first files name that name anything. -/
theorem settings_of_files (A : AudioContexts) (lc3 : UInt8) (allocationBits : AudioChannel → UInt32)
    (calls : List SettingFiles) :
    ((∃ s, afterCalls A lc3 allocationBits calls = .ok s) ↔ ReadsWell calls) ∧
      ∀ s, afterCalls A lc3 allocationBits calls = .ok s →
        List.Forall₂ (NamedSetting.Carries A lc3 allocationBits) (namedByFirst calls) s.settings :=
  ⟨foldlM_isOk_iff_readsWell rfl, fun _ h => carries_foldlM rfl h⟩

/-! ### What is offered -/

section

variable {A : AudioContexts} {lc3 : UInt8} {allocationBits : AudioChannel → UInt32}
  {K : LeAudioConstants} {priorities : List (CodecId × Int32)} {direction : Direction}
  {capabilities : List (Option LeAudioDeviceCapabilities)}
  {requirements : List LeAudioConfigurationRequirement} {context : UInt32}
  {D : AseDirectionConfiguration} {remoteSink remoteSource : Option (List (Option LeAudioDeviceCapabilities))}

variable (K priorities direction capabilities requirements context D) in
/-- The configuration is wanted in the context, whatever its number of channels, and is not one for 44.1 kHz
where the peer says which sampling frequencies it supports. -/
def Wanted : Prop :=
  ∃ C, some C ∈ capabilities ∧ ∃ R ∈ requirements, ContextMatched context C ∧ context = R.audioContext ∧
    MeetsCapabilities K priorities D C ∧
    ¬ (Is44100 D.aseConfiguration.codecConfiguration ∧ HasSamplingFrequencies C) ∧
    MeetsRequirement K priorities D (direction.requirement R)

/-- The answer has the configuration for a context. -/
def Offered (direction : Direction) (context : UInt32) (D : AseDirectionConfiguration)
    (result : List LeAudioAseConfigurationSetting) : Prop :=
  ∃ setting ∈ result, setting.audioContext = context ∧ direction.Contains setting D

theorem offered_iff {settings : List LeAudioAseConfigurationSetting}
    (hr : Remote remoteSink remoteSource direction capabilities) :
    ∃ result, getLeAudioAseConfiguration K (codecPriorityMapOf priorities) settings remoteSink remoteSource
        requirements = .ok result ∧
      (Offered direction context D result ↔
        (∃ S ∈ settings, S.audioContext = context ∧ direction.Contains S D) ∧
          Wanted K priorities direction capabilities requirements context D) := by
  obtain ⟨result, hresult, hmem⟩ := getLeAudioAseConfiguration_eq_ok (K := K) hr
  refine ⟨result, hresult, ?_⟩
  constructor
  · rintro ⟨setting, hs, hcontext, l', hl', hD⟩
    obtain ⟨S, hS, C, hC, R, hR, hctx, hctx', l, hl, -, rfl⟩ := (hmem setting).1 hs
    rw [Direction.audioContext_restrict] at hcontext
    rw [Direction.configuration_restrict] at hl'
    obtain rfl := Option.some.inj hl'
    obtain ⟨hDl, hcap, h44100, hreq⟩ := mem_kept.1 hD
    subst hcontext
    exact ⟨⟨S, hS, rfl, l, hl, hDl⟩, C, hC, R, hR, hctx, hctx', hcap, h44100, hreq⟩
  · rintro ⟨⟨S, hS, rfl, l, hl, hD⟩, C, hC, R, hR, hctx, hctx', hcap, h44100, hreq⟩
    have hkept : some D ∈ kept K priorities direction l C R := mem_kept.2 ⟨hD, hcap, h44100, hreq⟩
    exact ⟨direction.restrict S (kept K priorities direction l C R),
      (hmem _).2 ⟨S, hS, C, hC, R, hR, hctx, hctx', l, hl, List.ne_nil_of_mem hkept, rfl⟩,
      Direction.audioContext_restrict, _, Direction.configuration_restrict, hkept⟩

/-- Lists that are related element by element have elements with related properties. -/
theorem exists_mem_iff_of_forall₂ {α β : Type} {R : α → β → Prop} {p : α → Prop} {q : β → Prop}
    {l : List α} {l' : List β} (h : List.Forall₂ R l l') (hpq : ∀ {a b}, R a b → (p a ↔ q b)) :
    (∃ a ∈ l, p a) ↔ ∃ b ∈ l', q b := by
  induction h with
  | nil => exact ⟨fun h => by simp at h, fun h => by simp at h⟩
  | cons hab _ ih =>
    simp only [List.mem_cons, exists_eq_or_imp]
    exact or_congr (hpq hab) ih

theorem Translates.unique {qosCfgs : List FlatQosConfiguration} {names : List String}
    {location : CodecLocation} {subconfig : FlatSubConfiguration}
    {cfg cfg' : Option LoadedDirectionConfiguration}
    (h : Translates lc3 allocationBits qosCfgs names location subconfig cfg)
    (h' : Translates lc3 allocationBits qosCfgs names location subconfig cfg') : cfg = cfg' := by
  obtain ⟨qosCfg, loaded, hq, hloaded, rfl⟩ := h
  obtain ⟨qosCfg', loaded', hq', hloaded', rfl⟩ := h'
  obtain rfl := Option.some.inj (hq.symm.trans hq')
  rw [Except.ok.inj (hloaded.symm.trans hloaded')]

variable (A lc3 allocationBits direction context D) in
/-- The configuration is the translation of a subconfiguration for the direction, in a scenario for the
context. -/
def NamedSetting.Gives (x : NamedSetting) : Prop :=
  A.ofScenario x.scenario.name = context ∧
    ∃ subconfig ∈ (x.root.subconfigurations x.configuration).filter (·.isFor direction), ∃ loaded,
      Translates lc3 allocationBits x.root.qosConfigurations x.configuration.qosConfigName .host subconfig
        (some loaded) ∧ loaded.toAseDirectionConfiguration = D

/-- A loaded list has the configuration just when it is the translation of one of the subconfigurations. -/
theorem mem_loaded_iff {qosCfgs : List FlatQosConfiguration} {names : List String}
    {location : CodecLocation} {subconfigs : List FlatSubConfiguration}
    {cfgs : List (Option LoadedDirectionConfiguration)}
    (h : List.Forall₂ (Translates lc3 allocationBits qosCfgs names location) subconfigs cfgs) :
    some D ∈ cfgs.map (Option.map LoadedDirectionConfiguration.toAseDirectionConfiguration) ↔
      ∃ subconfig ∈ subconfigs, ∃ loaded,
        Translates lc3 allocationBits qosCfgs names location subconfig (some loaded) ∧
          loaded.toAseDirectionConfiguration = D := by
  rw [List.mem_map, exists_mem_iff_of_forall₂ h]
  intro subconfig cfg hcfg
  constructor
  · rintro ⟨loaded, hloaded, rfl⟩
    rw [hcfg.unique hloaded]
    rfl
  · intro hD
    obtain ⟨loaded, rfl, rfl⟩ := Option.map_eq_some_iff.1 hD
    exact ⟨loaded, hcfg, rfl⟩

theorem NamedSetting.Carries.gives_iff {x : NamedSetting} {setting : LoadedAseSetting}
    (h : x.Carries A lc3 allocationBits setting) :
    x.Gives A lc3 allocationBits direction context D ↔
      setting.matched.audioContext = context ∧ direction.Contains setting.matched D := by
  unfold NamedSetting.Gives Direction.Contains
  rw [← h.audioContext, ← mem_loaded_iff (h.configurations direction), Direction.configuration_matched]
  simp only [Option.some.injEq, exists_eq_left']
  rfl

/-- **From the files to the answer**: after each sequence of calls, `getLeAudioAseConfiguration` offers a
configuration for a context just when it is wanted there and is the translation of a subconfiguration that
a scenario for the context names in the first files that name any. -/
theorem offered_from_files {calls : List SettingFiles} {s : AseSettings}
    (hs : afterCalls A lc3 allocationBits calls = .ok s)
    (hr : Remote remoteSink remoteSource direction capabilities) :
    ∃ result, getLeAudioAseConfiguration K (codecPriorityMapOf priorities)
        (s.settings.map LoadedAseSetting.matched) remoteSink remoteSource requirements = .ok result ∧
      (Offered direction context D result ↔
        (∃ x ∈ namedByFirst calls, x.Gives A lc3 allocationBits direction context D) ∧
          Wanted K priorities direction capabilities requirements context D) := by
  obtain ⟨result, hresult, hoffered⟩ := offered_iff (K := K) hr
  refine ⟨result, hresult, hoffered.trans (and_congr_left fun _ => ?_)⟩
  rw [exists_mem_iff_of_forall₂ (carries_foldlM rfl hs) fun h => h.gives_iff]
  simp

/-- One configuration for a sink. -/
def mediaRoot : FlatAudioSetConfigurations :=
  ⟨[⟨"Low", 1, 5, 20⟩], [⟨"One", [⟨1, ⟨6, 0, 0⟩, []⟩]⟩], [⟨⟨"One", ["Low"]⟩, "One_Low"⟩]⟩

/-- At the first call the files are not there; then the configuration is one for media. -/
def mediaFiles : List SettingFiles :=
  [⟨none, none⟩, ⟨some mediaRoot, some [⟨"Media", ["Missing", "One_Low"]⟩]⟩]

/-- What is loaded of it. -/
def mediaLoaded : AseDirectionConfiguration where
  aseConfiguration :=
    { targetLatency := .lower
      codecId := some .lc3
      codecConfiguration := [.frameDuration .us7500, .audioChannelAllocation 0, .octetsPerCodecFrame 0,
        .codecFrameBlocksPerSDU 0] }
  qosConfiguration := some ⟨20, 5⟩

theorem offered_from_files_media :
    ∃ s, afterCalls audioContexts 6 AudioChannel.location mediaFiles = .ok s ∧
    ∃ result, getLeAudioAseConfiguration leAudioConstants (codecPriorityMapOf [])
        (s.settings.map LoadedAseSetting.matched) (some [some ⟨.lc3, [], none⟩]) none
        [⟨0x0d15, none, none⟩] = .ok result ∧
      Offered .sink 0x0d15 mediaLoaded result := by
  obtain ⟨s, hs⟩ : ∃ s, afterCalls audioContexts 6 AudioChannel.location mediaFiles = .ok s := ⟨_, rfl⟩
  obtain ⟨result, hresult, hoffered⟩ := offered_from_files (K := leAudioConstants) (D := mediaLoaded)
    hs (.inl ⟨rfl, rfl⟩)
  have hnamed : namedByFirst mediaFiles =
      [⟨mediaRoot, ⟨"Media", ["Missing", "One_Low"]⟩, ⟨⟨"One", ["Low"]⟩, "One_Low"⟩⟩] := by decide
  have hwanted : Wanted leAudioConstants [] .sink [some ⟨.lc3, [], none⟩] [⟨0x0d15, none, none⟩] 0x0d15
      mediaLoaded :=
    ⟨⟨.lc3, [], none⟩, by simp, ⟨0x0d15, none, none⟩, by simp, .inl rfl, rfl,
      ⟨rfl, by simp [Disabled], by simp⟩, by simp [HasSamplingFrequencies], .inl rfl⟩
  refine ⟨s, hs, result, hresult, hoffered.2 ⟨?_, hwanted⟩⟩
  rw [hnamed]
  exact ⟨_, List.mem_singleton_self _, by decide, ⟨1, ⟨6, 0, 0⟩, []⟩, by decide,
    ⟨mediaLoaded, dataPathOf .host⟩, ⟨⟨"Low", 1, 5, 20⟩, _, by decide, by decide, rfl⟩, rfl⟩

end

end TrebleDoze.Bluetooth
