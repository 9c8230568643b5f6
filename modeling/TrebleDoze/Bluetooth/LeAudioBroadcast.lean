import TrebleDoze.Bluetooth.LeAudioMatch
import Mathlib.Data.List.ReduceOption

/-!
# `getLeAudioBroadcastConfiguration`

The broadcast settings are filtered by the capabilities of the sinks, and the first one left that meets a
requirement is returned through the pointer of the caller.

* `mem_filteredSettings`: the settings that are left;
* `firstMatch_isSome_iff`: when there is one to return;
* `writesFirstMatch_iff`: when it is returned.
-/

namespace TrebleDoze.Bluetooth

/-! ### Broadcast settings -/

/-- `Phy`. -/
inductive Phy where
  | oneM | twoM | coded
  deriving DecidableEq, Repr

/-- `LeAudioBisConfiguration`, over the ids of codecs and the LTVs, less what is not matched. -/
structure LeAudioBisConfiguration (Id Ltv : Type) where
  codecId : Id
  codecConfiguration : List Ltv
  deriving DecidableEq, Repr

/-- `LeAudioSubgroupBisConfiguration`. -/
structure LeAudioSubgroupBisConfiguration (Id Ltv : Type) where
  numBis : ℤ
  bisConfiguration : LeAudioBisConfiguration Id Ltv
  deriving DecidableEq, Repr

/-- `LeAudioBroadcastSubgroupConfiguration`. -/
structure LeAudioBroadcastSubgroupConfiguration (Id Ltv : Type) where
  bisConfigurations : List (LeAudioSubgroupBisConfiguration Id Ltv)
  deriving DecidableEq, Repr

/-- `LeAudioBroadcastConfigurationSetting`, less the fields that keep their initial values. -/
structure LeAudioBroadcastConfigurationSetting (Id Ltv : Type) where
  numBis : ℤ
  phy : List Phy
  subgroupsConfigurations : List (LeAudioBroadcastSubgroupConfiguration Id Ltv)
  deriving DecidableEq, Repr

/-- A subgroup with codecs and LTVs that can be matched. -/
abbrev BroadcastSubgroup := LeAudioBroadcastSubgroupConfiguration CodecId ConfigurationLtv

/-- A setting with codecs and LTVs that can be matched. -/
abbrev BroadcastSetting := LeAudioBroadcastConfigurationSetting CodecId ConfigurationLtv

/-- `LeAudioBroadcastSubgroupConfigurationRequirement`, as far as it is matched. -/
structure LeAudioBroadcastSubgroupConfigurationRequirement where
  bisNumPerSubgroup : ℤ
  deriving DecidableEq, Repr

/-- A pointer to the object of the caller. -/
inductive OutPointer where
  | null | caller
  deriving DecidableEq, Repr

/-- `*pointer = value`. -/
def OutPointer.assign {α : Type} (pointer : OutPointer) (value : α) : Except Fault α :=
  match pointer with
  | null => .error .nullDereferenced
  | caller => .ok value

section

variable (K : LeAudioConstants) (codecPriorityMap : CodecPriorityMap)

/-- `isMatchedBISConfiguration`. -/
def isMatchedBISConfiguration (bisCfg : LeAudioBisConfiguration CodecId ConfigurationLtv)
    (capabilities : LeAudioDeviceCapabilities) : Bool :=
  isMatchedValidCodec K codecPriorityMap bisCfg.codecId capabilities.codecId &&
    isCapabilitiesMatchedCodecConfiguration K bisCfg.codecConfiguration
      capabilities.codecSpecificCapabilities

/-- The inner loop of `getCapabilitiesMatchedBroadcastConfigurationSettings`. -/
def filteredBisCfg (capabilities : LeAudioDeviceCapabilities) (subCfg : BroadcastSubgroup) :
    BroadcastSubgroup where
  bisConfigurations := subCfg.bisConfigurations.filter fun bisCfg =>
    isMatchedBISConfiguration K codecPriorityMap bisCfg.bisConfiguration capabilities

/-- The outer loop: the subgroups that keep a BIS. -/
def filterSubgroup (capabilities : LeAudioDeviceCapabilities) (setting : BroadcastSetting) :
    List BroadcastSubgroup :=
  (setting.subgroupsConfigurations.map (filteredBisCfg K codecPriorityMap capabilities)).filter
    fun subgroupCfg => !subgroupCfg.bisConfigurations.isEmpty

/-- `getCapabilitiesMatchedBroadcastConfigurationSettings`. -/
def getCapabilitiesMatchedBroadcastConfigurationSettings (setting : BroadcastSetting)
    (capabilities : LeAudioDeviceCapabilities) : Option BroadcastSetting :=
  let filterSubgroup := filterSubgroup K codecPriorityMap capabilities setting
  if filterSubgroup.isEmpty then none
  else some { setting with subgroupsConfigurations := filterSubgroup }

/-- The first loop of `getLeAudioBroadcastConfiguration`: matching with the remote capabilities. -/
def filteredSettings (settings : List BroadcastSetting)
    (remoteSinkAudioCapabilities : List (Option LeAudioDeviceCapabilities)) : List BroadcastSetting :=
  settings.flatMap fun setting =>
    remoteSinkAudioCapabilities.filterMap fun capability =>
      capability.bind (getCapabilitiesMatchedBroadcastConfigurationSettings K codecPriorityMap setting)

/-- The subgroups with the number of BIS of a requirement. -/
def hasBisNumPerSubgroup (requirements : List LeAudioBroadcastSubgroupConfigurationRequirement)
    (subCfg : BroadcastSubgroup) : Bool :=
  requirements.any fun subReq => subReq.bisNumPerSubgroup = subCfg.bisConfigurations.length

/-- The body of the second loop: matching a setting with the requirements. -/
def matchRequirement (requirements : List LeAudioBroadcastSubgroupConfigurationRequirement)
    (setting : BroadcastSetting) : Option BroadcastSetting :=
  let subgroups := setting.subgroupsConfigurations.filter (hasBisNumPerSubgroup requirements)
  if subgroups.isEmpty then none else some { setting with subgroupsConfigurations := subgroups }

/-- `getLeAudioBroadcastConfiguration`, for the settings that are loaded: what is in the object of the
caller afterwards. -/
def getLeAudioBroadcastConfiguration (settings : List BroadcastSetting)
    (remoteSinkAudioCapabilities : Option (List (Option LeAudioDeviceCapabilities)))
    (requirements : List LeAudioBroadcastSubgroupConfigurationRequirement) (output : BroadcastSetting) :
    Except Fault BroadcastSetting :=
  -- `_aidl_return = nullptr`: the pointer is cleared, not the object
  let aidlReturn := OutPointer.null
  match remoteSinkAudioCapabilities with
  | none => .ok output
  | some remoteSinkAudioCapabilities =>
    match filteredSettings K codecPriorityMap settings remoteSinkAudioCapabilities with
    | [] => .ok output
    | setting :: rest =>
      if requirements.isEmpty then aidlReturn.assign setting else
      match (setting :: rest).findSome? (matchRequirement requirements) with
      | some filteredSetting => aidlReturn.assign filteredSetting
      | none => .ok output

end

/-! ### The first match -/

section

variable (K : LeAudioConstants) (codecPriorityMap : CodecPriorityMap)

/-- The setting to be returned: the first one that is left and, where there are requirements, has a
subgroup with the number of BIS of one of them. -/
def firstMatch (settings : List BroadcastSetting)
    (remoteSinkAudioCapabilities : Option (List (Option LeAudioDeviceCapabilities)))
    (requirements : List LeAudioBroadcastSubgroupConfigurationRequirement) : Option BroadcastSetting :=
  (filteredSettings K codecPriorityMap settings
    (remoteSinkAudioCapabilities.getD [])).findSome? fun setting =>
      if requirements.isEmpty then some setting else matchRequirement requirements setting

/-- A BIS of the settings matches a capability, and if there are requirements, the BIS of its subgroup
that do are as many as one of them says. -/
def HasMatch (settings : List BroadcastSetting)
    (remoteSinkAudioCapabilities : Option (List (Option LeAudioDeviceCapabilities)))
    (requirements : List LeAudioBroadcastSubgroupConfigurationRequirement) : Prop :=
  ∃ setting ∈ settings, ∃ capability, some capability ∈ remoteSinkAudioCapabilities.getD [] ∧
    ∃ subCfg ∈ setting.subgroupsConfigurations,
      (∃ bisCfg ∈ subCfg.bisConfigurations,
        isMatchedBISConfiguration K codecPriorityMap bisCfg.bisConfiguration capability = true) ∧
      (requirements = [] ∨ ∃ requirement ∈ requirements, requirement.bisNumPerSubgroup =
        (subCfg.bisConfigurations.filter fun bisCfg =>
          isMatchedBISConfiguration K codecPriorityMap bisCfg.bisConfiguration capability).length)

/-- No null pointer is dereferenced, and a match ends up in the object of the caller. -/
def WritesFirstMatch (settings : List BroadcastSetting)
    (remoteSinkAudioCapabilities : Option (List (Option LeAudioDeviceCapabilities)))
    (requirements : List LeAudioBroadcastSubgroupConfigurationRequirement) (output : BroadcastSetting) :
    Prop :=
  ∃ result, getLeAudioBroadcastConfiguration K codecPriorityMap settings remoteSinkAudioCapabilities
      requirements output = .ok result ∧
    ∀ setting, firstMatch K codecPriorityMap settings remoteSinkAudioCapabilities requirements =
      some setting → result = setting

end

section

variable {K : LeAudioConstants} {codecPriorityMap : CodecPriorityMap}
  {settings : List BroadcastSetting} {capability : LeAudioDeviceCapabilities}
  {capabilities : List (Option LeAudioDeviceCapabilities)}
  {remoteSinkAudioCapabilities : Option (List (Option LeAudioDeviceCapabilities))}
  {requirements : List LeAudioBroadcastSubgroupConfigurationRequirement}
  {setting filtered output : BroadcastSetting} {subCfg : BroadcastSubgroup}

/-- The subgroups that are left of a setting: each has the BIS of one of its subgroups that match, and
there are some. -/
theorem mem_filterSubgroup : subCfg ∈ filterSubgroup K codecPriorityMap capability setting ↔
    (∃ sub ∈ setting.subgroupsConfigurations, filteredBisCfg K codecPriorityMap capability sub = subCfg) ∧
      subCfg.bisConfigurations ≠ [] := by
  unfold filterSubgroup
  rw [List.mem_filter, List.mem_map, Bool.not_eq_true', List.isEmpty_eq_false_iff]

/-- **The settings that are left**: those with a subgroup left, for each of the capabilities. -/
theorem mem_filteredSettings :
    filtered ∈ filteredSettings K codecPriorityMap settings capabilities ↔
      ∃ setting ∈ settings, ∃ capability, some capability ∈ capabilities ∧
        filterSubgroup K codecPriorityMap capability setting ≠ [] ∧
        filtered = { setting with
          subgroupsConfigurations := filterSubgroup K codecPriorityMap capability setting } := by
  unfold filteredSettings
  simp only [List.mem_flatMap, List.mem_filterMap, Option.bind_eq_some_iff]
  refine exists_congr fun setting => and_congr_right fun _ => ?_
  constructor
  · rintro ⟨_, hc, capability, rfl, h⟩
    unfold getCapabilitiesMatchedBroadcastConfigurationSettings at h
    simp only [List.isEmpty_iff] at h
    split_ifs at h with hempty
    exact ⟨capability, hc, hempty, (Option.some.inj h).symm⟩
  · rintro ⟨capability, hc, hne, rfl⟩
    refine ⟨_, hc, capability, rfl, ?_⟩
    unfold getCapabilitiesMatchedBroadcastConfigurationSettings
    simp only [List.isEmpty_iff]
    exact if_neg hne

theorem matchRequirement_isSome_iff : (matchRequirement requirements setting).isSome = true ↔
    ∃ subCfg ∈ setting.subgroupsConfigurations, hasBisNumPerSubgroup requirements subCfg = true := by
  unfold matchRequirement
  simp only [List.isEmpty_iff, List.filter_eq_nil_iff]
  split_ifs with hnone
  · rw [Option.isSome_none]
    simp only [Bool.false_eq_true, false_iff]
    rintro ⟨subCfg, hmem, h⟩
    exact hnone subCfg hmem h
  · rw [Option.isSome_some]
    simp only [true_iff]
    by_contra hex
    exact hnone fun subCfg hmem h => hex ⟨subCfg, hmem, h⟩

/-- **There is a setting to return** just when there is a match. -/
theorem firstMatch_isSome_iff :
    (firstMatch K codecPriorityMap settings remoteSinkAudioCapabilities requirements).isSome = true ↔
      HasMatch K codecPriorityMap settings remoteSinkAudioCapabilities requirements := by
  unfold firstMatch HasMatch
  rw [List.findSome?_isSome_iff]
  simp only [mem_filteredSettings]
  -- a filtered subgroup that is not empty has a BIS that matches
  have hbis : ∀ (sub : BroadcastSubgroup) (capability : LeAudioDeviceCapabilities),
      (filteredBisCfg K codecPriorityMap capability sub).bisConfigurations ≠ [] ↔
        ∃ bisCfg ∈ sub.bisConfigurations,
          isMatchedBISConfiguration K codecPriorityMap bisCfg.bisConfiguration capability = true := by
    intro sub capability
    unfold filteredBisCfg
    simp only [ne_eq, List.filter_eq_nil_iff, not_forall, not_not, exists_prop]
  constructor
  · rintro ⟨_, ⟨setting, hs, capability, hc, hne, rfl⟩, hsome⟩
    refine ⟨setting, hs, capability, hc, ?_⟩
    by_cases hreq : requirements = []
    · obtain ⟨subCfg, hsub⟩ := List.exists_mem_of_ne_nil _ hne
      obtain ⟨⟨sub, hmem, rfl⟩, hnil⟩ := mem_filterSubgroup.1 hsub
      exact ⟨sub, hmem, (hbis sub capability).1 hnil, .inl hreq⟩
    · rw [if_neg (by simpa using hreq), matchRequirement_isSome_iff] at hsome
      obtain ⟨subCfg, hsub, hnum⟩ := hsome
      obtain ⟨⟨sub, hmem, rfl⟩, hnil⟩ := mem_filterSubgroup.1 hsub
      obtain ⟨requirement, hr, heq⟩ := List.any_eq_true.1 hnum
      exact ⟨sub, hmem, (hbis sub capability).1 hnil, .inr ⟨requirement, hr, of_decide_eq_true heq⟩⟩
  · rintro ⟨setting, hs, capability, hc, sub, hmem, hmatch, hreq⟩
    have hsub : filteredBisCfg K codecPriorityMap capability sub ∈
        filterSubgroup K codecPriorityMap capability setting :=
      mem_filterSubgroup.2 ⟨⟨sub, hmem, rfl⟩, (hbis sub capability).2 hmatch⟩
    refine ⟨_, ⟨setting, hs, capability, hc, List.ne_nil_of_mem hsub, rfl⟩, ?_⟩
    rcases hreq with rfl | ⟨requirement, hr, heq⟩
    · rfl
    · rw [if_neg (by simpa using List.ne_nil_of_mem hr), matchRequirement_isSome_iff]
      exact ⟨_, hsub, List.any_eq_true.2 ⟨requirement, hr, decide_eq_true heq⟩⟩

/-- What the call does: with a setting to return it writes through the pointer that it has cleared. -/
theorem getLeAudioBroadcastConfiguration_eq :
    getLeAudioBroadcastConfiguration K codecPriorityMap settings remoteSinkAudioCapabilities requirements
      output =
      match firstMatch K codecPriorityMap settings remoteSinkAudioCapabilities requirements with
      | some _ => .error .nullDereferenced
      | none => .ok output := by
  unfold getLeAudioBroadcastConfiguration firstMatch
  cases remoteSinkAudioCapabilities with
  | none =>
    have hnone : filteredSettings K codecPriorityMap settings [] = [] := by
      unfold filteredSettings
      simp only [List.filterMap_nil, List.flatMap_eq_nil_iff, implies_true]
    rw [Option.getD_none, hnone]
    rfl
  | some capabilities =>
    simp only [Option.getD_some]
    cases filteredSettings K codecPriorityMap settings capabilities with
    | nil => rfl
    | cons setting rest =>
      cases requirements.isEmpty with
      | true =>
        simp only [if_true, List.findSome?_cons]
        rfl
      | false =>
        simp only [Bool.false_eq_true, if_false]
        cases (setting :: rest).findSome? (matchRequirement requirements) <;> rfl

end

/-- **The first match is returned** just when there is none: otherwise a null pointer is dereferenced. -/
theorem writesFirstMatch_iff (K : LeAudioConstants) (codecPriorityMap : CodecPriorityMap)
    (settings : List BroadcastSetting)
    (remoteSinkAudioCapabilities : Option (List (Option LeAudioDeviceCapabilities)))
    (requirements : List LeAudioBroadcastSubgroupConfigurationRequirement) (output : BroadcastSetting) :
    WritesFirstMatch K codecPriorityMap settings remoteSinkAudioCapabilities requirements output ↔
      ¬ HasMatch K codecPriorityMap settings remoteSinkAudioCapabilities requirements := by
  unfold WritesFirstMatch
  rw [getLeAudioBroadcastConfiguration_eq, ← firstMatch_isSome_iff]
  cases firstMatch K codecPriorityMap settings remoteSinkAudioCapabilities requirements with
  | none => simp
  | some setting => simp

/-- A setting with one BIS of LC3. -/
def oneBis : BroadcastSetting where
  numBis := 1
  phy := [.twoM]
  subgroupsConfigurations := [⟨[⟨1, ⟨.lc3, [.samplingFrequency .hz16000]⟩⟩]⟩]

/-- A sink with LC3, and no requirements. -/
theorem getLeAudioBroadcastConfiguration_null :
    firstMatch leAudioConstants (fun _ => none) [oneBis] (some [some ⟨.lc3, [], none⟩]) [] = some oneBis ∧
    getLeAudioBroadcastConfiguration leAudioConstants (fun _ => none) [oneBis]
      (some [some ⟨.lc3, [], none⟩]) [] oneBis = .error .nullDereferenced ∧
    ¬ WritesFirstMatch leAudioConstants (fun _ => none) [oneBis] (some [some ⟨.lc3, [], none⟩]) []
      oneBis := by
  have herror : getLeAudioBroadcastConfiguration leAudioConstants (fun _ => none) [oneBis]
      (some [some ⟨.lc3, [], none⟩]) [] oneBis = .error .nullDereferenced := by decide
  refine ⟨by decide, herror, ?_⟩
  rintro ⟨result, hok, -⟩
  rw [herror] at hok
  cases hok

end TrebleDoze.Bluetooth
