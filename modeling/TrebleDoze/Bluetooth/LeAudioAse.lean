import TrebleDoze.Bluetooth.LeAudioMatch
import Mathlib.Data.List.ReduceOption

/-!
# `getLeAudioAseConfiguration`

The settings that are loaded are filtered by the capabilities of the peer, and what is left by the
requirements of the host.

* `getLeAudioAseConfiguration_eq_ok`: what a returned setting is made of;
* `Admitted`: what it is for a configuration to be wanted, whatever its number of channels;
* `getLeAudioAseConfiguration_sound_iff`: when each configuration that is returned is within all that a
  capability says, its channel counts included;
* `getLeAudioAseConfiguration_complete_iff`: when a configuration that is wanted is returned.
-/

namespace TrebleDoze.Bluetooth

section

variable (K : LeAudioConstants) (codecPriorityMap : CodecPriorityMap)

/-! ### The two passes -/

/-- `filterCapabilitiesAseDirectionConfiguration`. -/
def filterCapabilitiesAseDirectionConfiguration
    (directionConfigurations : List (Option AseDirectionConfiguration))
    (capabilities : LeAudioDeviceCapabilities) : List (Option AseDirectionConfiguration) :=
  directionConfigurations.filter fun directionConfiguration =>
    match directionConfiguration with
    | none => false
    | some configuration =>
      match configuration.aseConfiguration.codecId with
      | none => false
      | some codecId =>
        isMatchedValidCodec K codecPriorityMap codecId capabilities.codecId &&
          isCapabilitiesMatchedCodecConfiguration K configuration.aseConfiguration.codecConfiguration
            capabilities.codecSpecificCapabilities

/-- `filterRequirementAseDirectionConfiguration`. -/
def filterRequirementAseDirectionConfiguration
    (directionConfigurations : List (Option AseDirectionConfiguration))
    (requirements : Option (List (Option AseDirectionRequirement))) :
    List (Option AseDirectionConfiguration) :=
  match requirements with
  | none => directionConfigurations
  | some requirements =>
    directionConfigurations.filter fun directionConfiguration =>
      match directionConfiguration with
      | none => false
      | some configuration =>
        requirements.any fun requirement =>
          match requirement with
          | none => false
          | some requirement =>
            isMatchedAseConfiguration K codecPriorityMap configuration.aseConfiguration
              requirement.aseConfiguration

/-- `getCapabilitiesMatchedAseConfigurationSettings`. -/
def getCapabilitiesMatchedAseConfigurationSettings (setting : LeAudioAseConfigurationSetting)
    (capabilities : LeAudioDeviceCapabilities) (direction : Direction) :
    Option LeAudioAseConfigurationSetting :=
  if !isCapabilitiesMatchedContext setting.audioContext capabilities then none else
  match direction.configuration setting with
  | none => none
  | some directionConfiguration =>
    let validDirectionConfiguration := filterCapabilitiesAseDirectionConfiguration K codecPriorityMap
      directionConfiguration capabilities
    if validDirectionConfiguration.isEmpty then none
    else some (direction.restrict setting validDirectionConfiguration)

/-- `getRequirementMatchedAseConfigurationSettings`: the direction is that of the configurations which
the setting has, the sink if it has both. -/
def getRequirementMatchedAseConfigurationSettings (setting : LeAudioAseConfigurationSetting)
    (requirement : LeAudioConfigurationRequirement) :
    Except Undefined (Option LeAudioAseConfigurationSetting) :=
  if setting.audioContext ≠ requirement.audioContext then .ok none else
  let direction : Direction := if setting.sinkAseConfiguration.isSome then .sink else .source
  match direction.configuration setting with
  | none => .error .emptyOptional
  | some directionConfiguration =>
    let validDirectionConfiguration := filterRequirementAseDirectionConfiguration K codecPriorityMap
      directionConfiguration (direction.requirement requirement)
    if validDirectionConfiguration.isEmpty then .ok none
    else .ok (some (direction.restrict setting validDirectionConfiguration))

/-- The first loop of `getLeAudioAseConfiguration`: matching with the remote capabilities. -/
def matchCapabilities (settings : List LeAudioAseConfigurationSetting)
    (remoteAudioCapabilities : List (Option LeAudioDeviceCapabilities)) (direction : Direction) :
    List LeAudioAseConfigurationSetting :=
  settings.flatMap fun setting =>
    remoteAudioCapabilities.filterMap fun capability =>
      capability.bind fun capability =>
        getCapabilitiesMatchedAseConfigurationSettings K codecPriorityMap setting capability direction

/-- The second loop: matching with the requirements. -/
def matchRequirements (settings : List LeAudioAseConfigurationSetting)
    (requirements : List LeAudioConfigurationRequirement) :
    Except Undefined (List LeAudioAseConfigurationSetting) := do
  let filtered ← (settings.flatMap fun setting => requirements.map fun requirement =>
    (setting, requirement)).mapM fun p =>
      getRequirementMatchedAseConfigurationSettings K codecPriorityMap p.1 p.2
  .ok filtered.reduceOption

/-- `getLeAudioAseConfiguration`, for the settings that are loaded. -/
def getLeAudioAseConfiguration (settings : List LeAudioAseConfigurationSetting)
    (remoteSinkAudioCapabilities remoteSourceAudioCapabilities :
      Option (List (Option LeAudioDeviceCapabilities)))
    (requirements : List LeAudioConfigurationRequirement) :
    Except Undefined (List LeAudioAseConfigurationSetting) :=
  let (direction, remoteAudioCapabilities) :=
    if remoteSinkAudioCapabilities.isSome then (Direction.sink, remoteSinkAudioCapabilities)
    else (Direction.source, remoteSourceAudioCapabilities)
  match settings, remoteAudioCapabilities with
  -- the loop over the settings is where the optional is looked at
  | _ :: _, none => .error .emptyOptional
  | settings, remoteAudioCapabilities =>
    matchRequirements K codecPriorityMap
      (matchCapabilities K codecPriorityMap settings (remoteAudioCapabilities.getD []) direction)
      requirements

end

/-! ### What the passes keep -/

section

variable {K : LeAudioConstants} {calls : List (CodecId × Int32)}
  {directionConfigurations : List (Option AseDirectionConfiguration)}
  {D : AseDirectionConfiguration} {C : LeAudioDeviceCapabilities}

/-- The configuration fits the capabilities of the peer, whatever its number of channels. -/
structure MeetsCapabilities (K : LeAudioConstants) (calls : List (CodecId × Int32))
    (D : AseDirectionConfiguration) (C : LeAudioDeviceCapabilities) : Prop where
  codec : D.aseConfiguration.codecId = some C.codecId
  enabled : ¬ Disabled K calls C.codecId
  matched : ∀ cap ∈ C.codecSpecificCapabilities,
    Matched K D.aseConfiguration.codecConfiguration cap

/-- The configuration matches one of the requirements, unless there are none. -/
def MeetsRequirement (K : LeAudioConstants) (calls : List (CodecId × Int32))
    (D : AseDirectionConfiguration) (requirements : Option (List (Option AseDirectionRequirement))) :
    Prop :=
  requirements = none ∨ ∃ rs, requirements = some rs ∧ ∃ r, some r ∈ rs ∧
    isMatchedAseConfiguration K (codecPriorityMapOf calls) D.aseConfiguration r.aseConfiguration = true

/-- The peer says which sampling frequencies it supports. -/
def HasSamplingFrequencies (C : LeAudioDeviceCapabilities) : Prop :=
  ∃ cap ∈ C.codecSpecificCapabilities, cap.IsSamplingFrequencies

/-- What the first pass keeps: the configurations that fit the capabilities, less those for 44.1 kHz
where the peer says which sampling frequencies it supports. -/
theorem mem_filterCapabilities : some D ∈ filterCapabilitiesAseDirectionConfiguration K
      (codecPriorityMapOf calls) directionConfigurations C ↔
    some D ∈ directionConfigurations ∧ MeetsCapabilities K calls D C ∧
      ¬ (Is44100 D.aseConfiguration.codecConfiguration ∧ HasSamplingFrequencies C) := by
  unfold filterCapabilitiesAseDirectionConfiguration HasSamplingFrequencies
  rw [List.mem_filter, and_congr_right_iff]
  intro _
  cases hid : D.aseConfiguration.codecId with
  | none =>
    constructor
    · intro h
      simp only [hid, Bool.false_eq_true] at h
    · rintro ⟨⟨h, -, -⟩, -⟩
      rw [hid] at h
      cases h
  | some codecId =>
    simp only [hid, Bool.and_eq_true, isMatchedValidCodec_iff,
      isCapabilitiesMatchedCodecConfiguration_iff]
    constructor
    · rintro ⟨⟨rfl, hen⟩, hm, hno⟩
      exact ⟨⟨hid, hen, hm⟩, hno⟩
    · rintro ⟨⟨h, hen, hm⟩, hno⟩
      rw [hid] at h
      exact ⟨⟨Option.some.inj h, hen⟩, hm, hno⟩

theorem mem_filterRequirement {requirements : Option (List (Option AseDirectionRequirement))} :
    some D ∈ filterRequirementAseDirectionConfiguration K (codecPriorityMapOf calls)
        directionConfigurations requirements ↔
      some D ∈ directionConfigurations ∧ MeetsRequirement K calls D requirements := by
  unfold filterRequirementAseDirectionConfiguration MeetsRequirement
  cases requirements with
  | none => simp
  | some rs =>
    rw [List.mem_filter]
    simp only [List.any_eq_true, reduceCtorEq, Option.some.injEq, exists_eq_left', false_or]
    rw [and_congr_right_iff]
    intro _
    constructor
    · rintro ⟨r, hr, h⟩
      cases r with
      | none => cases h
      | some r => exact ⟨r, hr, h⟩
    · rintro ⟨r, hr, h⟩
      exact ⟨some r, hr, h⟩

variable {S setting : LeAudioAseConfigurationSetting} {direction : Direction}
  {R : LeAudioConfigurationRequirement}

theorem getCapabilitiesMatched_eq_some :
    getCapabilitiesMatchedAseConfigurationSettings K (codecPriorityMapOf calls) S C direction =
        some setting ↔
      ContextMatched S.audioContext C ∧ ∃ l, direction.configuration S = some l ∧
        filterCapabilitiesAseDirectionConfiguration K (codecPriorityMapOf calls) l C ≠ [] ∧
        setting = direction.restrict S
          (filterCapabilitiesAseDirectionConfiguration K (codecPriorityMapOf calls) l C) := by
  unfold getCapabilitiesMatchedAseConfigurationSettings
  rw [← isCapabilitiesMatchedContext_iff]
  cases hctx : isCapabilitiesMatchedContext S.audioContext C with
  | false => simp
  | true =>
    rw [if_neg (by simp)]
    cases hl : direction.configuration S with
    | none => simp
    | some l =>
      simp only [List.isEmpty_iff, Option.some.injEq, exists_eq_left', true_and]
      by_cases he : filterCapabilitiesAseDirectionConfiguration K (codecPriorityMapOf calls) l C = []
      · simp [he]
      · rw [if_neg he, Option.some.injEq]
        exact ⟨fun h => ⟨he, h.symm⟩, fun h => h.2.symm⟩

theorem getRequirementMatched_restrict (l : List (Option AseDirectionConfiguration)) :
    ∃ result, getRequirementMatchedAseConfigurationSettings K (codecPriorityMapOf calls)
        (direction.restrict S l) R = .ok result ∧
      ∀ setting, result = some setting ↔ S.audioContext = R.audioContext ∧
        filterRequirementAseDirectionConfiguration K (codecPriorityMapOf calls) l
          (direction.requirement R) ≠ [] ∧
        setting = direction.restrict S
          (filterRequirementAseDirectionConfiguration K (codecPriorityMapOf calls) l
            (direction.requirement R)) := by
  unfold getRequirementMatchedAseConfigurationSettings
  simp only [Direction.audioContext_restrict, Direction.of_restrict, Direction.configuration_restrict,
    Direction.restrict_restrict, List.isEmpty_iff]
  by_cases hctx : S.audioContext = R.audioContext
  · rw [if_neg (not_not.2 hctx)]
    by_cases he : filterRequirementAseDirectionConfiguration K (codecPriorityMapOf calls) l
        (direction.requirement R) = []
    · refine ⟨none, by rw [if_pos he], fun setting => ?_⟩
      simp [he]
    · refine ⟨some _, by rw [if_neg he], fun setting => ?_⟩
      rw [Option.some.injEq]
      exact ⟨fun h => ⟨hctx, he, h.symm⟩, fun h => h.2.2.symm⟩
  · refine ⟨none, by rw [if_pos hctx], fun setting => ?_⟩
    simp [hctx]

end

/-! ### The loops -/

section

variable {K : LeAudioConstants} {calls : List (CodecId × Int32)}
  {settings : List LeAudioAseConfigurationSetting}
  {remoteSink remoteSource : Option (List (Option LeAudioDeviceCapabilities))}
  {capabilities : List (Option LeAudioDeviceCapabilities)}
  {requirements : List LeAudioConfigurationRequirement} {direction : Direction}
  {setting : LeAudioAseConfigurationSetting}

theorem mapM_eq_ok {α β ε : Type} {f : α → Except ε β} {l : List α} (h : ∀ x ∈ l, ∃ y, f x = .ok y) :
    ∃ ys, l.mapM f = .ok ys ∧ ∀ y, y ∈ ys ↔ ∃ x ∈ l, f x = .ok y := by
  induction l with
  | nil => exact ⟨[], rfl, by simp⟩
  | cons x l ih =>
    obtain ⟨y, hy⟩ := h x (by simp)
    obtain ⟨ys, hys, hmem⟩ := ih fun x hx => h x (by simp [hx])
    refine ⟨y :: ys, ?_, fun z => ?_⟩
    · rw [List.mapM_cons, hy, hys]
      rfl
    · simp only [List.mem_cons, hmem, exists_eq_or_imp, hy, Except.ok.injEq]
      rw [@eq_comm _ z y]

theorem mem_matchCapabilities :
    setting ∈ matchCapabilities K (codecPriorityMapOf calls) settings capabilities direction ↔
      ∃ S ∈ settings, ∃ C, some C ∈ capabilities ∧
        getCapabilitiesMatchedAseConfigurationSettings K (codecPriorityMapOf calls) S C direction =
          some setting := by
  unfold matchCapabilities
  simp only [List.mem_flatMap, List.mem_filterMap, Option.bind_eq_some_iff]
  constructor
  · rintro ⟨S, hS, _, hC, C, rfl, h⟩
    exact ⟨S, hS, C, hC, h⟩
  · rintro ⟨S, hS, C, hC, h⟩
    exact ⟨S, hS, _, hC, C, rfl, h⟩

/-- The second loop does not fail on settings that have one direction each. -/
theorem matchRequirements_eq_ok
    (h : ∀ t ∈ settings, ∃ S l, t = direction.restrict S l) :
    ∃ result, matchRequirements K (codecPriorityMapOf calls) settings requirements = .ok result ∧
      ∀ setting, setting ∈ result ↔ ∃ t ∈ settings, ∃ R ∈ requirements,
        getRequirementMatchedAseConfigurationSettings K (codecPriorityMapOf calls) t R =
          .ok (some setting) := by
  have hok : ∀ p ∈ settings.flatMap fun t => requirements.map fun R => (t, R),
      ∃ y, getRequirementMatchedAseConfigurationSettings K (codecPriorityMapOf calls) p.1 p.2 = .ok y := by
    intro p hp
    obtain ⟨t, ht, hp⟩ := List.mem_flatMap.1 hp
    obtain ⟨R, -, rfl⟩ := List.mem_map.1 hp
    obtain ⟨S, l, rfl⟩ := h t ht
    obtain ⟨y, hy, -⟩ := getRequirementMatched_restrict l
    exact ⟨y, hy⟩
  obtain ⟨filtered, hfiltered, hmem⟩ := mapM_eq_ok hok
  refine ⟨filtered.reduceOption, ?_, fun setting => ?_⟩
  · unfold matchRequirements
    rw [hfiltered]
    rfl
  · rw [List.reduceOption_mem_iff, hmem]
    constructor
    · rintro ⟨p, hp, hy⟩
      obtain ⟨t, ht, hp⟩ := List.mem_flatMap.1 hp
      obtain ⟨R, hR, rfl⟩ := List.mem_map.1 hp
      exact ⟨t, ht, R, hR, hy⟩
    · rintro ⟨t, ht, R, hR, hy⟩
      exact ⟨(t, R), List.mem_flatMap.2 ⟨t, ht, List.mem_map.2 ⟨R, hR, rfl⟩⟩, hy⟩

/-- The capabilities that are matched, and their direction: those of the sink, or else of the source. -/
def Remote (remoteSink remoteSource : Option (List (Option LeAudioDeviceCapabilities)))
    (direction : Direction) (capabilities : List (Option LeAudioDeviceCapabilities)) : Prop :=
  (direction = .sink ∧ remoteSink = some capabilities) ∨
    (direction = .source ∧ remoteSink = none ∧ remoteSource = some capabilities)

/-- The configurations that pass both filters. -/
def kept (K : LeAudioConstants) (calls : List (CodecId × Int32)) (direction : Direction)
    (l : List (Option AseDirectionConfiguration)) (C : LeAudioDeviceCapabilities)
    (R : LeAudioConfigurationRequirement) : List (Option AseDirectionConfiguration) :=
  filterRequirementAseDirectionConfiguration K (codecPriorityMapOf calls)
    (filterCapabilitiesAseDirectionConfiguration K (codecPriorityMapOf calls) l C)
    (direction.requirement R)

theorem mem_kept {l : List (Option AseDirectionConfiguration)} {C : LeAudioDeviceCapabilities}
    {R : LeAudioConfigurationRequirement} {D : AseDirectionConfiguration} :
    some D ∈ kept K calls direction l C R ↔
      some D ∈ l ∧ MeetsCapabilities K calls D C ∧
        ¬ (Is44100 D.aseConfiguration.codecConfiguration ∧ HasSamplingFrequencies C) ∧
        MeetsRequirement K calls D (direction.requirement R) := by
  unfold kept
  rw [mem_filterRequirement, mem_filterCapabilities]
  simp only [and_assoc]

theorem kept_of_filterCapabilities_eq_nil {l : List (Option AseDirectionConfiguration)}
    {C : LeAudioDeviceCapabilities} {R : LeAudioConfigurationRequirement}
    (h : filterCapabilitiesAseDirectionConfiguration K (codecPriorityMapOf calls) l C = []) :
    kept K calls direction l C R = [] := by
  unfold kept filterRequirementAseDirectionConfiguration
  rw [h]
  cases direction.requirement R <;> rfl

/-- What a returned setting is made of: a setting that is loaded, a capability and a requirement that
agree on the context, and the configurations of one direction that pass both filters. -/
theorem getLeAudioAseConfiguration_eq_ok (hr : Remote remoteSink remoteSource direction capabilities) :
    ∃ result, getLeAudioAseConfiguration K (codecPriorityMapOf calls) settings remoteSink remoteSource
        requirements = .ok result ∧
      ∀ setting, setting ∈ result ↔ ∃ S ∈ settings, ∃ C, some C ∈ capabilities ∧ ∃ R ∈ requirements,
        ContextMatched S.audioContext C ∧ S.audioContext = R.audioContext ∧
        ∃ l, direction.configuration S = some l ∧ kept K calls direction l C R ≠ [] ∧
          setting = direction.restrict S (kept K calls direction l C R) := by
  have hget : getLeAudioAseConfiguration K (codecPriorityMapOf calls) settings remoteSink remoteSource
      requirements = matchRequirements K (codecPriorityMapOf calls)
        (matchCapabilities K (codecPriorityMapOf calls) settings capabilities direction)
        requirements := by
    unfold getLeAudioAseConfiguration
    rcases hr with ⟨rfl, rfl⟩ | ⟨rfl, rfl, rfl⟩ <;> cases settings <;> rfl
  have hone : ∀ t ∈ matchCapabilities K (codecPriorityMapOf calls) settings capabilities direction,
      ∃ S l, t = direction.restrict S l := by
    intro t ht
    obtain ⟨S, -, C, -, h⟩ := mem_matchCapabilities.1 ht
    obtain ⟨-, l, -, -, rfl⟩ := getCapabilitiesMatched_eq_some.1 h
    exact ⟨S, _, rfl⟩
  obtain ⟨result, hresult, hmem⟩ := matchRequirements_eq_ok hone
  refine ⟨result, by rw [hget, hresult], fun setting => ?_⟩
  rw [hmem]
  constructor
  · rintro ⟨t, ht, R, hR, h⟩
    obtain ⟨S, hS, C, hC, hcap⟩ := mem_matchCapabilities.1 ht
    obtain ⟨hctx, l, hl, -, rfl⟩ := getCapabilitiesMatched_eq_some.1 hcap
    obtain ⟨result', hresult', hsome⟩ := getRequirementMatched_restrict
      (filterCapabilitiesAseDirectionConfiguration K (codecPriorityMapOf calls) l C)
    obtain ⟨hctx', hne, rfl⟩ := (hsome setting).1 (Except.ok.inj (hresult'.symm.trans h))
    exact ⟨S, hS, C, hC, R, hR, hctx, hctx', l, hl, hne, rfl⟩
  · rintro ⟨S, hS, C, hC, R, hR, hctx, hctx', l, hl, hne, rfl⟩
    have hcap : getCapabilitiesMatchedAseConfigurationSettings K (codecPriorityMapOf calls) S C
        direction = some (direction.restrict S
          (filterCapabilitiesAseDirectionConfiguration K (codecPriorityMapOf calls) l C)) :=
      getCapabilitiesMatched_eq_some.2
        ⟨hctx, l, hl, mt kept_of_filterCapabilities_eq_nil hne, rfl⟩
    refine ⟨_, mem_matchCapabilities.2 ⟨S, hS, C, hC, hcap⟩, R, hR, ?_⟩
    obtain ⟨result', hresult', hsome⟩ := getRequirementMatched_restrict
      (filterCapabilitiesAseDirectionConfiguration K (codecPriorityMapOf calls) l C)
    have hres := (hsome (direction.restrict S (kept K calls direction l C R))).2 ⟨hctx', hne, rfl⟩
    rw [hresult', hres]

/-! ### What is wanted -/

/-- The configuration `D` of the setting `S` is wanted: it fits the capabilities `C` and the requirement
`R`, in a context that all of them are for. -/
structure Admitted (K : LeAudioConstants) (calls : List (CodecId × Int32)) (direction : Direction)
    (S : LeAudioAseConfigurationSetting) (C : LeAudioDeviceCapabilities)
    (R : LeAudioConfigurationRequirement) (D : AseDirectionConfiguration) : Prop where
  configuration : ∃ l, direction.configuration S = some l ∧ some D ∈ l
  context : ContextMatched S.audioContext C
  capabilities : MeetsCapabilities K calls D C
  audioContext : S.audioContext = R.audioContext
  requirement : MeetsRequirement K calls D (direction.requirement R)

/-- The setting has the configuration `D` for the direction. -/
def Direction.Contains (direction : Direction) (setting : LeAudioAseConfigurationSetting)
    (D : AseDirectionConfiguration) : Prop :=
  ∃ l, direction.configuration setting = some l ∧ some D ∈ l

variable (K calls settings requirements) in
/-- What is returned: settings of one direction, with the configurations that are wanted, in the setting's
context, by a capability that does not exclude them: one that does not say which sampling frequencies are
supported, if the configuration is for 44.1 kHz. -/
theorem returned_iff (hr : Remote remoteSink remoteSource direction capabilities) :
    ∃ result, getLeAudioAseConfiguration K (codecPriorityMapOf calls) settings remoteSink remoteSource
        requirements = .ok result ∧
      (∀ setting ∈ result, direction.other.configuration setting = none) ∧
      ∀ context D, (∃ setting ∈ result, setting.audioContext = context ∧ direction.Contains setting D) ↔
        ∃ S ∈ settings, S.audioContext = context ∧ ∃ C, some C ∈ capabilities ∧ ∃ R ∈ requirements,
          Admitted K calls direction S C R D ∧
          ¬ (Is44100 D.aseConfiguration.codecConfiguration ∧ HasSamplingFrequencies C) := by
  obtain ⟨result, hresult, hmem⟩ := getLeAudioAseConfiguration_eq_ok hr
  refine ⟨result, hresult, fun setting hs => ?_, fun context D => ?_⟩
  · obtain ⟨S, -, C, -, R, -, -, -, l, -, -, rfl⟩ := (hmem setting).1 hs
    exact Direction.configuration_other_restrict
  constructor
  · rintro ⟨setting, hs, hcontext, l', hl', hD⟩
    obtain ⟨S, hS, C, hC, R, hR, hctx, hctx', l, hl, -, rfl⟩ := (hmem setting).1 hs
    rw [Direction.audioContext_restrict] at hcontext
    rw [Direction.configuration_restrict] at hl'
    obtain rfl := Option.some.inj hl'
    obtain ⟨hDl, hcap, hno, hreq⟩ := mem_kept.1 hD
    exact ⟨S, hS, hcontext, C, hC, R, hR, ⟨⟨l, hl, hDl⟩, hctx, hcap, hctx', hreq⟩, hno⟩
  · rintro ⟨S, hS, hcontext, C, hC, R, hR, ⟨⟨l, hl, hDl⟩, hctx, hcap, hctx', hreq⟩, hno⟩
    have hD : some D ∈ kept K calls direction l C R := mem_kept.2 ⟨hDl, hcap, hno, hreq⟩
    exact ⟨_, (hmem _).2 ⟨S, hS, C, hC, R, hR, hctx, hctx', l, hl, List.ne_nil_of_mem hD, rfl⟩,
      Direction.audioContext_restrict.trans hcontext, _, Direction.configuration_restrict, hD⟩

/-! ### Soundness -/

section

variable (K calls settings capabilities requirements direction)

/-- An answer of settings of one direction, each configuration of which is within all that a capability of
the call says, in a setting that is loaded and for a requirement of the call. -/
def Sound (result : List LeAudioAseConfigurationSetting) : Prop :=
  ∀ setting ∈ result, direction.other.configuration setting = none ∧
    ∀ D, direction.Contains setting D → ∃ S ∈ settings, setting.audioContext = S.audioContext ∧
      ∃ C, some C ∈ capabilities ∧ ∃ R ∈ requirements, Admitted K calls direction S C R D ∧
        ∀ cap ∈ C.codecSpecificCapabilities, Satisfied K D.aseConfiguration.codecConfiguration cap

/-- A configuration that fits a capability, whatever its number of channels, also fits one that allows this
number: mostly the same one. -/
def CountsCovered : Prop :=
  ∀ S ∈ settings, ∀ C, some C ∈ capabilities → ∀ R ∈ requirements, ∀ D, Admitted K calls direction S C R D →
    ¬ (Is44100 D.aseConfiguration.codecConfiguration ∧ HasSamplingFrequencies C) →
    ∃ C', some C' ∈ capabilities ∧ Admitted K calls direction S C' R D ∧
      ∀ cap ∈ C'.codecSpecificCapabilities, CountAllowed K D.aseConfiguration.codecConfiguration cap

end

/-- **When the answer is sound**: when each configuration of a loaded setting that fits a capability and a
requirement of the call, but for its number of channels, fits a capability that allows this number. -/
theorem getLeAudioAseConfiguration_sound_iff
    (hr : Remote remoteSink remoteSource direction capabilities) :
    (∃ result, getLeAudioAseConfiguration K (codecPriorityMapOf calls) settings remoteSink remoteSource
        requirements = .ok result ∧ Sound K calls settings capabilities requirements direction result) ↔
      CountsCovered K calls settings capabilities requirements direction := by
  obtain ⟨result, hresult, hother, hiff⟩ :=
    returned_iff K calls settings requirements hr
  constructor
  · rintro ⟨_, hresult', hsound⟩ S hS C hC R hR D hD hno
    obtain rfl := Except.ok.inj (hresult.symm.trans hresult')
    obtain ⟨setting, hs, hctx, hcontains⟩ := (hiff S.audioContext D).2 ⟨S, hS, rfl, C, hC, R, hR, hD, hno⟩
    obtain ⟨S', -, hctx', C', hC', R', -, hD', hsat⟩ := (hsound setting hs).2 D hcontains
    refine ⟨C', hC', ⟨hD.configuration, ?_, hD'.capabilities, hD.audioContext, hD.requirement⟩,
      fun cap hcap => (hsat cap hcap).2⟩
    rw [← hctx, hctx']
    exact hD'.context
  · refine fun h => ⟨result, hresult, fun setting hs => ⟨hother setting hs, fun D hcontains => ?_⟩⟩
    obtain ⟨S, hS, hctx, C, hC, R, hR, hD, hno⟩ :=
      (hiff setting.audioContext D).1 ⟨setting, hs, rfl, hcontains⟩
    obtain ⟨C', hC', hD', hcounts⟩ := h S hS C hC R hR D hD hno
    exact ⟨S, hS, hctx.symm, C', hC', R, hR, hD',
      fun cap hcap => ⟨hD'.capabilities.matched cap hcap, hcounts cap hcap⟩⟩

/-- A configuration for media as the loader makes it, for a sampling frequency. -/
def mediaConfiguration (freq : SamplingFrequency) : AseDirectionConfiguration where
  aseConfiguration :=
    { targetLatency := .balancedLatencyReliability
      codecId := some .lc3
      codecConfiguration := [.samplingFrequency freq, .frameDuration .us10000, .audioChannelAllocation 1,
        .octetsPerCodecFrame 100, .codecFrameBlocksPerSDU 1] }
  qosConfiguration := none

/-- A setting with that configuration for a sink. -/
def mediaSetting (freq : SamplingFrequency) : LeAudioAseConfigurationSetting where
  audioContext := 0x0004
  packing := .sequential
  sinkAseConfiguration := some [some (mediaConfiguration freq)]
  sourceAseConfiguration := none
  flags := none

/-- A peer that supports 16 kHz, 44.1 kHz and 48 kHz. -/
def mediaPeer : LeAudioDeviceCapabilities where
  codecId := .lc3
  codecSpecificCapabilities := [.supportedSamplingFrequencies 0x00c4, .supportedFrameDurations 0x03,
    .supportedAudioChannelCounts 0x01, .supportedOctetsPerCodecFrame 26 155,
    .supportedMaxCodecFramesPerSDU 1]
  metadata := some [some (.preferredAudioContexts 0x0006)]

/-- A requirement for media. -/
def mediaRequirement : LeAudioConfigurationRequirement where
  audioContext := 0x0004
  sinkAseRequirement := none
  sourceAseRequirement := none

/-- One channel goes to a peer for one channel. -/
theorem getLeAudioAseConfiguration_sound_mono : ∃ result,
    getLeAudioAseConfiguration leAudioConstants (codecPriorityMapOf [(.aac, -1)]) [mediaSetting .hz48000]
      (some [some mediaPeer]) none [mediaRequirement] = .ok result ∧
    Sound leAudioConstants [(.aac, -1)] [mediaSetting .hz48000] [some mediaPeer] [mediaRequirement] .sink
      result := by
  refine (getLeAudioAseConfiguration_sound_iff (.inl ⟨rfl, rfl⟩)).2 ?_
  intro S hS C hC R hR D hD _
  refine ⟨C, hC, hD, ?_⟩
  obtain rfl := List.mem_singleton.1 hS
  obtain rfl : C = mediaPeer := by simpa using hC
  obtain ⟨l, hl, hDl⟩ := hD.configuration
  obtain rfl := Option.some.inj hl
  obtain rfl : D = mediaConfiguration .hz48000 := by simpa using hDl
  have hcount : CountAllowed leAudioConstants
      (mediaConfiguration .hz48000).aseConfiguration.codecConfiguration (.supportedAudioChannelCounts 0x01) :=
    ⟨1, rfl, by decide⟩
  simp only [mediaPeer, List.forall_mem_cons, List.not_mem_nil, false_imp_iff, implies_true, and_true]
  exact ⟨trivial, trivial, hcount, trivial, trivial⟩

/-- A configuration for two channels. -/
def stereoConfiguration : AseDirectionConfiguration where
  aseConfiguration :=
    { targetLatency := .balancedLatencyReliability
      codecId := some .lc3
      codecConfiguration := [.samplingFrequency .hz48000, .frameDuration .us10000,
        .audioChannelAllocation 3, .octetsPerCodecFrame 100, .codecFrameBlocksPerSDU 1] }
  qosConfiguration := none

/-- A setting with that configuration for a sink. -/
def stereoSetting : LeAudioAseConfigurationSetting :=
  { mediaSetting .hz48000 with sinkAseConfiguration := some [some stereoConfiguration] }

/-- Two channels go to the peer for one channel. -/
theorem getLeAudioAseConfiguration_two_channels : ∃ result,
    getLeAudioAseConfiguration leAudioConstants (codecPriorityMapOf []) [stereoSetting]
      (some [some mediaPeer]) none [mediaRequirement] = .ok result ∧
    (∃ setting ∈ result, Direction.sink.Contains setting stereoConfiguration) ∧
    ¬ Sound leAudioConstants [] [stereoSetting] [some mediaPeer] [mediaRequirement] .sink result := by
  refine ⟨[stereoSetting], by decide, ⟨stereoSetting, by simp, _, rfl, by simp⟩, fun h => ?_⟩
  obtain ⟨S, -, -, C, hC, R, -, -, hsat⟩ :=
    (h stereoSetting (by simp)).2 stereoConfiguration ⟨_, rfl, by simp⟩
  obtain rfl : C = mediaPeer := by simpa using hC
  obtain ⟨allocation, hallocation, hallowed⟩ :=
    (hsat (.supportedAudioChannelCounts 0x01) (by simp [mediaPeer])).2
  have hthree : cfgTagMap stereoConfiguration.aseConfiguration.codecConfiguration .audioChannelAllocation =
      some (.audioChannelAllocation 3) := rfl
  obtain rfl : allocation = 3 :=
    ConfigurationLtv.audioChannelAllocation.inj (Option.some.inj (hallocation.symm.trans hthree))
  exact hallowed (by decide)

/-! ### Completeness -/

/-- A configuration is returned just when it is wanted by a capability that does not exclude it. -/
theorem contains_iff (hr : Remote remoteSink remoteSource direction capabilities)
    (D : AseDirectionConfiguration) :
    ∃ result, getLeAudioAseConfiguration K (codecPriorityMapOf calls) settings remoteSink remoteSource
        requirements = .ok result ∧
      ((∃ setting ∈ result, direction.Contains setting D) ↔
        ∃ S ∈ settings, ∃ C, some C ∈ capabilities ∧ ∃ R ∈ requirements,
          Admitted K calls direction S C R D ∧
          ¬ (Is44100 D.aseConfiguration.codecConfiguration ∧ HasSamplingFrequencies C)) := by
  obtain ⟨result, hresult, -, hiff⟩ := returned_iff K calls settings requirements hr
  refine ⟨result, hresult, ?_⟩
  constructor
  · rintro ⟨setting, hs, hcontains⟩
    obtain ⟨S, hS, -, hwanted⟩ := (hiff setting.audioContext D).1 ⟨setting, hs, rfl, hcontains⟩
    exact ⟨S, hS, hwanted⟩
  · rintro ⟨S, hS, hwanted⟩
    obtain ⟨setting, hs, -, hcontains⟩ := (hiff S.audioContext D).2 ⟨S, hS, rfl, hwanted⟩
    exact ⟨setting, hs, hcontains⟩

/-- **When a configuration that is wanted is returned**: when it is not one for 44.1 kHz, or is also
wanted by a capability that does not say which sampling frequencies are supported. -/
theorem getLeAudioAseConfiguration_complete_iff
    (hr : Remote remoteSink remoteSource direction capabilities) {S : LeAudioAseConfigurationSetting}
    (hS : S ∈ settings) {C : LeAudioDeviceCapabilities} (hC : some C ∈ capabilities)
    {R : LeAudioConfigurationRequirement} (hR : R ∈ requirements) {D : AseDirectionConfiguration}
    (hD : Admitted K calls direction S C R D) :
    (∃ result, getLeAudioAseConfiguration K (codecPriorityMapOf calls) settings remoteSink remoteSource
        requirements = .ok result ∧ ∃ setting ∈ result, direction.Contains setting D) ↔
      ¬ Is44100 D.aseConfiguration.codecConfiguration ∨
        ∃ S ∈ settings, ∃ C, some C ∈ capabilities ∧ ∃ R ∈ requirements,
          Admitted K calls direction S C R D ∧ ¬ HasSamplingFrequencies C := by
  obtain ⟨result, hresult, hiff⟩ := contains_iff hr D
  constructor
  · rintro ⟨_, hresult', hcontains⟩
    obtain rfl := Except.ok.inj (hresult.symm.trans hresult')
    obtain ⟨S', hS', C', hC', R', hR', hD', hno⟩ := hiff.1 hcontains
    by_cases h44 : Is44100 D.aseConfiguration.codecConfiguration
    · exact .inr ⟨S', hS', C', hC', R', hR', hD', fun hf => hno ⟨h44, hf⟩⟩
    · exact .inl h44
  · rintro (h44 | ⟨S', hS', C', hC', R', hR', hD', hf⟩)
    · exact ⟨result, hresult, hiff.2 ⟨S, hS, C, hC, R, hR, hD, fun h => h44 h.1⟩⟩
    · exact ⟨result, hresult, hiff.2 ⟨S', hS', C', hC', R', hR', hD', fun h => hf h.2⟩⟩

/-- The configuration for media is wanted, for the sampling frequencies of the peer. -/
theorem admitted_media {freq : SamplingFrequency}
    (h : 0x00c4 &&& leAudioConstants.supportedSamplingFrequencies freq ≠ 0) :
    Admitted leAudioConstants [] .sink (mediaSetting freq) mediaPeer mediaRequirement
      (mediaConfiguration freq) where
  configuration := ⟨_, rfl, by simp⟩
  context := .inr ⟨_, rfl, 0x0006, by simp, (by decide : (0x0004 : UInt32) &&& 0x0006 ≠ 0)⟩
  capabilities :=
    { codec := rfl
      enabled := by simp [Disabled]
      matched := by
        simp only [mediaPeer, List.forall_mem_cons, List.not_mem_nil, false_imp_iff, implies_true,
          and_true]
        exact ⟨⟨freq, rfl, h⟩, ⟨.us10000, rfl, by decide⟩, ⟨1, rfl⟩, ⟨100, rfl, by decide⟩,
          ⟨1, rfl, by decide⟩⟩ }
  audioContext := rfl
  requirement := .inl rfl

theorem getLeAudioAseConfiguration_complete_48000 : ∃ result,
    getLeAudioAseConfiguration leAudioConstants (codecPriorityMapOf []) [mediaSetting .hz48000]
      (some [some mediaPeer]) none [mediaRequirement] = .ok result ∧
    ∃ setting ∈ result, Direction.sink.Contains setting (mediaConfiguration .hz48000) :=
  (getLeAudioAseConfiguration_complete_iff (.inl ⟨rfl, rfl⟩) (by simp) (by simp) (by simp)
    (admitted_media (by decide))).2 (.inl (by decide))

/-- A configuration for 44.1 kHz, a sampling frequency that the loader knows and the peer supports, is
wanted and not returned. -/
theorem getLeAudioAseConfiguration_44100 :
    (0x07, .hz44100) ∈ loaderSamplingFreqMap ∧
    Admitted leAudioConstants [] .sink (mediaSetting .hz44100) mediaPeer mediaRequirement
      (mediaConfiguration .hz44100) ∧
    ¬ ∃ result,
      getLeAudioAseConfiguration leAudioConstants (codecPriorityMapOf []) [mediaSetting .hz44100]
        (some [some mediaPeer]) none [mediaRequirement] = .ok result ∧
      ∃ setting ∈ result, Direction.sink.Contains setting (mediaConfiguration .hz44100) := by
  refine ⟨by decide, admitted_media (by decide), ?_⟩
  rintro ⟨result, hresult, setting, hs, -⟩
  have hnil : getLeAudioAseConfiguration leAudioConstants (codecPriorityMapOf [])
      [mediaSetting .hz44100] (some [some mediaPeer]) none [mediaRequirement] = .ok [] := by decide
  rw [hnil] at hresult
  obtain rfl := Except.ok.inj hresult
  cases hs

end

end TrebleDoze.Bluetooth
