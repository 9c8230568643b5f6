import TrebleDoze.Bluetooth.LeAudioMatch
import Mathlib.Data.List.ReduceOption

/-!
# `getLeAudioAseQosConfiguration`

The search of the settings for the QoS of one direction.

* `candidates`: the configurations of a direction, in the order in which they are loaded;
* `search_candidates`: the loops are one search of these;
* `getLeAudioAseQosConfiguration_first`: the QoS is that of the first configuration that meets the
  requirement.
-/

namespace TrebleDoze.Bluetooth

/-- `AseQosDirectionRequirement`, as far as it is read. -/
structure AseQosDirectionRequirement where
  aseConfiguration : LeAudioAseConfiguration
  preferredRetransmissionNum : ℤ
  maxTransportLatencyMs : ℤ
  deriving DecidableEq, Repr

/-- `LeAudioAseQosConfigurationRequirement`, as far as it is read. -/
structure LeAudioAseQosConfigurationRequirement where
  audioContext : UInt32
  sinkAseQosRequirement : Option AseQosDirectionRequirement
  sourceAseQosRequirement : Option AseQosDirectionRequirement
  deriving DecidableEq, Repr

/-- `LeAudioAseQosConfigurationPair`. -/
structure LeAudioAseQosConfigurationPair where
  sinkQosConfiguration : Option LeAudioAseQosConfiguration := none
  sourceQosConfiguration : Option LeAudioAseQosConfiguration := none
  deriving DecidableEq, Repr

namespace Direction

/-- The requirement for the QoS of the direction. -/
def qosRequirement (requirement : LeAudioAseQosConfigurationRequirement) :
    Direction → Option AseQosDirectionRequirement
  | sink => requirement.sinkAseQosRequirement
  | source => requirement.sourceAseQosRequirement

/-- The QoS of the direction. -/
def qos (pair : LeAudioAseQosConfigurationPair) : Direction → Option LeAudioAseQosConfiguration
  | sink => pair.sinkQosConfiguration
  | source => pair.sourceQosConfiguration

/-- A pair with the QoS of the direction only. -/
def withQos (qosConfiguration : Option LeAudioAseQosConfiguration) :
    Direction → LeAudioAseQosConfigurationPair
  | sink => { sinkQosConfiguration := qosConfiguration }
  | source => { sourceQosConfiguration := qosConfiguration }

@[simp] theorem qos_withQos (direction : Direction) (q : Option LeAudioAseQosConfiguration) :
    direction.qos (direction.withQos q) = q := by
  cases direction <;> rfl

@[simp] theorem qos_other_withQos (direction : Direction) (q : Option LeAudioAseQosConfiguration) :
    direction.other.qos (direction.withQos q) = none := by
  cases direction <;> rfl

end Direction

/-! ### The search -/

section

variable (K : LeAudioConstants) (codecPriorityMap : CodecPriorityMap)

/-- `isMatchedQosRequirement`. -/
def isMatchedQosRequirement (settingQos : LeAudioAseQosConfiguration)
    (requirementQos : AseQosDirectionRequirement) : Bool :=
  if settingQos.retransmissionNum ≠ requirementQos.preferredRetransmissionNum then false
  else if settingQos.maxTransportLatencyMs > requirementQos.maxTransportLatencyMs then false
  else true

/-- The body of the inner loop of `getLeAudioAseQosConfiguration`: what it returns for a configuration, if
it returns. -/
def qosOfConfiguration (direction : Direction)
    (directionQosRequirement : Option AseQosDirectionRequirement) (cfg : AseDirectionConfiguration) :
    Option LeAudioAseQosConfigurationPair :=
  match directionQosRequirement with
  | none =>
    some { sinkQosConfiguration := cfg.qosConfiguration, sourceQosConfiguration := cfg.qosConfiguration }
  | some requirement =>
    match cfg.qosConfiguration with
    | none => none
    | some qosConfiguration =>
      if isMatchedAseConfiguration K codecPriorityMap cfg.aseConfiguration requirement.aseConfiguration &&
          isMatchedQosRequirement qosConfiguration requirement then
        some (direction.withQos cfg.qosConfiguration)
      else none

/-- The body of the outer loop. -/
def qosOfSetting (audioContext : UInt32) (direction : Direction)
    (directionQosRequirement : Option AseQosDirectionRequirement)
    (setting : LeAudioAseConfigurationSetting) : Option LeAudioAseQosConfigurationPair :=
  if setting.audioContext ≠ audioContext then none else
  match direction.configuration setting with
  | none => none
  | some directionConfiguration =>
    directionConfiguration.findSome? fun cfg =>
      cfg.bind (qosOfConfiguration K codecPriorityMap direction directionQosRequirement)

/-- `getLeAudioAseQosConfiguration`, for the settings that are loaded. -/
def getLeAudioAseQosConfiguration (settings : List LeAudioAseConfigurationSetting)
    (qosRequirement : LeAudioAseQosConfigurationRequirement) : LeAudioAseQosConfigurationPair :=
  -- without any requirement the direction is neither of the two, and taken as the source
  let (direction, directionQosRequirement) :=
    if qosRequirement.sinkAseQosRequirement.isSome then
      (Direction.sink, qosRequirement.sinkAseQosRequirement)
    else (Direction.source, qosRequirement.sourceAseQosRequirement)
  (settings.findSome? (qosOfSetting K codecPriorityMap qosRequirement.audioContext direction
    directionQosRequirement)).getD {}

end

/-! ### The first configuration that meets the requirement -/

/-- The configurations of a direction for a context, in the order in which they are loaded. -/
def candidates (audioContext : UInt32) (direction : Direction)
    (settings : List LeAudioAseConfigurationSetting) : List AseDirectionConfiguration :=
  (settings.filter fun setting => setting.audioContext = audioContext).flatMap fun setting =>
    ((direction.configuration setting).getD []).reduceOption

/-- The configuration meets the requirement: it matches the one required, and its QoS is within what is
asked for. -/
def MeetsQosRequirement (K : LeAudioConstants) (codecPriorityMap : CodecPriorityMap)
    (requirement : AseQosDirectionRequirement) (cfg : AseDirectionConfiguration) : Prop :=
  isMatchedAseConfiguration K codecPriorityMap cfg.aseConfiguration requirement.aseConfiguration = true ∧
    ∃ qosConfiguration, cfg.qosConfiguration = some qosConfiguration ∧
      qosConfiguration.retransmissionNum = requirement.preferredRetransmissionNum ∧
      qosConfiguration.maxTransportLatencyMs ≤ requirement.maxTransportLatencyMs

section

variable {K : LeAudioConstants} {codecPriorityMap : CodecPriorityMap}
  {settings : List LeAudioAseConfigurationSetting} {audioContext : UInt32} {direction : Direction}
  {requirement : AseQosDirectionRequirement} {cfg : AseDirectionConfiguration}

theorem isMatchedQosRequirement_iff {qosConfiguration : LeAudioAseQosConfiguration} :
    isMatchedQosRequirement qosConfiguration requirement = true ↔
      qosConfiguration.retransmissionNum = requirement.preferredRetransmissionNum ∧
        qosConfiguration.maxTransportLatencyMs ≤ requirement.maxTransportLatencyMs := by
  unfold isMatchedQosRequirement
  split_ifs with hnum hlat
  · simp [hnum]
  · simp [Int.not_le.2 hlat]
  · simp [not_not.1 hnum, Int.not_lt.1 hlat]

/-- The inner loop returns at a configuration just when it meets the requirement. -/
theorem qosOfConfiguration_of_meets
    (h : MeetsQosRequirement K codecPriorityMap requirement cfg) :
    qosOfConfiguration K codecPriorityMap direction (some requirement) cfg =
      some (direction.withQos cfg.qosConfiguration) := by
  obtain ⟨hase, qosConfiguration, hqos, hmatch⟩ := h
  unfold qosOfConfiguration
  simp only [hqos, hase, isMatchedQosRequirement_iff.2 hmatch, Bool.and_self, if_true]

theorem qosOfConfiguration_of_not_meets
    (h : ¬ MeetsQosRequirement K codecPriorityMap requirement cfg) :
    qosOfConfiguration K codecPriorityMap direction (some requirement) cfg = none := by
  unfold qosOfConfiguration
  cases hqos : cfg.qosConfiguration with
  | none => rfl
  | some qosConfiguration =>
    refine if_neg fun hmatch => h ?_
    rw [Bool.and_eq_true] at hmatch
    exact ⟨hmatch.1, qosConfiguration, hqos, isMatchedQosRequirement_iff.1 hmatch.2⟩

theorem findSome?_bind {α β : Type} (f : α → Option β) (l : List (Option α)) :
    (l.findSome? fun a => a.bind f) = l.reduceOption.findSome? f := by
  induction l with
  | nil => rfl
  | cons a l ih =>
    cases a with
    | none => rw [List.reduceOption_cons_of_none, ← ih, List.findSome?_cons, Option.bind_none]
    | some a => rw [List.reduceOption_cons_of_some, List.findSome?_cons, List.findSome?_cons, ih,
        Option.bind_some]

/-- **The loops are one search** of the configurations of the direction for the context. -/
theorem search_candidates (directionQosRequirement : Option AseQosDirectionRequirement) :
    settings.findSome? (qosOfSetting K codecPriorityMap audioContext direction directionQosRequirement) =
      (candidates audioContext direction settings).findSome?
        (qosOfConfiguration K codecPriorityMap direction directionQosRequirement) := by
  unfold candidates
  induction settings with
  | nil => rfl
  | cons setting settings ih =>
    rw [List.findSome?_cons, ih, List.filter_cons]
    by_cases hctx : setting.audioContext = audioContext
    · have hsetting : qosOfSetting K codecPriorityMap audioContext direction directionQosRequirement
          setting = ((direction.configuration setting).getD []).reduceOption.findSome?
            (qosOfConfiguration K codecPriorityMap direction directionQosRequirement) := by
        unfold qosOfSetting
        rw [if_neg (not_not.2 hctx), ← findSome?_bind]
        cases direction.configuration setting <;> rfl
      rw [hsetting, if_pos (decide_eq_true hctx), List.flatMap_cons, List.findSome?_append]
      cases ((direction.configuration setting).getD []).reduceOption.findSome?
        (qosOfConfiguration K codecPriorityMap direction directionQosRequirement) <;> rfl
    · have hsetting : qosOfSetting K codecPriorityMap audioContext direction directionQosRequirement
          setting = none := by
        unfold qosOfSetting
        rw [if_pos hctx]
      rw [hsetting, decide_eq_false hctx]
      rfl

/-- What a search gives: the pair of the first configuration that meets the requirement, if there is
one. -/
theorem search_cases (direction : Direction) (cfgs : List AseDirectionConfiguration) :
    ((∀ cfg ∈ cfgs, ¬ MeetsQosRequirement K codecPriorityMap requirement cfg) ∧
      cfgs.findSome? (qosOfConfiguration K codecPriorityMap direction (some requirement)) = none) ∨
    ∃ before cfg after, cfgs = before ++ cfg :: after ∧
      MeetsQosRequirement K codecPriorityMap requirement cfg ∧
      (∀ cfg' ∈ before, ¬ MeetsQosRequirement K codecPriorityMap requirement cfg') ∧
      cfgs.findSome? (qosOfConfiguration K codecPriorityMap direction (some requirement)) =
        some (direction.withQos cfg.qosConfiguration) := by
  induction cfgs with
  | nil => exact .inl ⟨fun _ h => absurd h List.not_mem_nil, rfl⟩
  | cons cfg cfgs ih =>
    by_cases hcfg : MeetsQosRequirement K codecPriorityMap requirement cfg
    · refine .inr ⟨[], cfg, cfgs, rfl, hcfg, fun _ h => absurd h List.not_mem_nil, ?_⟩
      rw [List.findSome?_cons, qosOfConfiguration_of_meets hcfg]
    · rw [List.findSome?_cons, qosOfConfiguration_of_not_meets hcfg]
      rcases ih with ⟨hnone, hsearch⟩ | ⟨before, cfg', after, rfl, hmeets, hbefore, hsearch⟩
      · exact .inl ⟨List.forall_mem_cons.2 ⟨hcfg, hnone⟩, hsearch⟩
      · exact .inr ⟨cfg :: before, cfg', after, rfl, hmeets, List.forall_mem_cons.2 ⟨hcfg, hbefore⟩,
          hsearch⟩

/-- The QoS is that of the first configuration of the list that meets the requirement. -/
def FirstQos (K : LeAudioConstants) (codecPriorityMap : CodecPriorityMap)
    (requirement : AseQosDirectionRequirement) (cfgs : List AseDirectionConfiguration)
    (qosConfiguration : LeAudioAseQosConfiguration) : Prop :=
  ∃ before cfg after, cfgs = before ++ cfg :: after ∧
    MeetsQosRequirement K codecPriorityMap requirement cfg ∧
    (∀ cfg' ∈ before, ¬ MeetsQosRequirement K codecPriorityMap requirement cfg') ∧
    cfg.qosConfiguration = some qosConfiguration

theorem FirstQos.unique {cfgs : List AseDirectionConfiguration} {q q' : LeAudioAseQosConfiguration}
    (h : FirstQos K codecPriorityMap requirement cfgs q)
    (h' : FirstQos K codecPriorityMap requirement cfgs q') : q = q' := by
  obtain ⟨before, cfg, after, rfl, hmeets, hbefore, hq⟩ := h
  obtain ⟨before', cfg', after', heq, hmeets', hbefore', hq'⟩ := h'
  rcases List.append_eq_append_iff.1 heq with ⟨l, hl, hr⟩ | ⟨l, hl, hr⟩
  · cases l with
    | nil =>
      obtain ⟨rfl, -⟩ := List.cons.inj hr
      exact Option.some.inj (hq.symm.trans hq')
    | cons c l =>
      obtain ⟨rfl, -⟩ := List.cons.inj hr
      exact absurd hmeets (hbefore' cfg (by simp [hl]))
  · cases l with
    | nil =>
      obtain ⟨rfl, -⟩ := List.cons.inj hr
      exact Option.some.inj (hq.symm.trans hq')
    | cons c l =>
      obtain ⟨rfl, -⟩ := List.cons.inj hr
      exact absurd hmeets' (hbefore cfg' (by simp [hl]))

/-- With the requirement of one direction, the answer is what a search of its configurations gives. -/
theorem getLeAudioAseQosConfiguration_eq {qosRequirement : LeAudioAseQosConfigurationRequirement}
    (hone : direction.qosRequirement qosRequirement = some requirement)
    (hother : direction.other.qosRequirement qosRequirement = none) :
    getLeAudioAseQosConfiguration K codecPriorityMap settings qosRequirement =
      ((candidates qosRequirement.audioContext direction settings).findSome?
        (qosOfConfiguration K codecPriorityMap direction (some requirement))).getD {} := by
  rw [← search_candidates]
  unfold getLeAudioAseQosConfiguration
  cases direction with
  | sink =>
    have hsink : qosRequirement.sinkAseQosRequirement = some requirement := hone
    simp only [hsink, Option.isSome_some, if_true]
  | source =>
    have hsource : qosRequirement.sourceAseQosRequirement = some requirement := hone
    have hsink : qosRequirement.sinkAseQosRequirement = none := hother
    simp only [hsink, hsource, Option.isSome_none, Bool.false_eq_true, if_false]

end

/-- **The QoS of a direction** is that of the first configuration that meets the requirement: nothing is
set for the other direction, and nothing at all if there is no such configuration. -/
theorem getLeAudioAseQosConfiguration_first (K : LeAudioConstants) (codecPriorityMap : CodecPriorityMap)
    (settings : List LeAudioAseConfigurationSetting)
    (qosRequirement : LeAudioAseQosConfigurationRequirement) (direction : Direction)
    (requirement : AseQosDirectionRequirement)
    (hone : direction.qosRequirement qosRequirement = some requirement)
    (hother : direction.other.qosRequirement qosRequirement = none) :
    direction.other.qos (getLeAudioAseQosConfiguration K codecPriorityMap settings qosRequirement) =
      none ∧
    (∀ qosConfiguration,
      direction.qos (getLeAudioAseQosConfiguration K codecPriorityMap settings qosRequirement) =
          some qosConfiguration ↔
        FirstQos K codecPriorityMap requirement
          (candidates qosRequirement.audioContext direction settings) qosConfiguration) ∧
    (getLeAudioAseQosConfiguration K codecPriorityMap settings qosRequirement = {} ↔
      ∀ cfg ∈ candidates qosRequirement.audioContext direction settings,
        ¬ MeetsQosRequirement K codecPriorityMap requirement cfg) := by
  rw [getLeAudioAseQosConfiguration_eq hone hother]
  rcases search_cases direction (candidates qosRequirement.audioContext direction settings) with
    ⟨hnone, hsearch⟩ | ⟨before, cfg, after, hcfgs, hmeets, hbefore, hsearch⟩
  · rw [hsearch, Option.getD_none]
    refine ⟨by cases direction <;> rfl, fun q => ?_, iff_of_true rfl hnone⟩
    constructor
    · intro h
      cases direction <;> cases h
    · rintro ⟨before, cfg, after, hcfgs, hmeets, -⟩
      exact absurd hmeets (hnone cfg (by simp [hcfgs]))
  · rw [hsearch, Option.getD_some, Direction.qos_withQos, Direction.qos_other_withQos]
    obtain ⟨q, hq⟩ : ∃ q, cfg.qosConfiguration = some q := by
      obtain ⟨-, q, hq, -⟩ := hmeets
      exact ⟨q, hq⟩
    have hfirst : FirstQos K codecPriorityMap requirement
        (candidates qosRequirement.audioContext direction settings) q :=
      ⟨before, cfg, after, hcfgs, hmeets, hbefore, hq⟩
    refine ⟨rfl, fun q' => ?_, iff_of_false ?_ ?_⟩
    · rw [hq, Option.some.injEq]
      constructor
      · rintro rfl
        exact hfirst
      · exact fun h => hfirst.unique h
    · rw [hq]
      intro h
      cases direction <;> cases h
    · intro hnone
      exact hnone cfg (by simp [hcfgs]) hmeets

/-- Two sink configurations for media, of which the second one is fast enough. -/
def mediaSettings : List LeAudioAseConfigurationSetting :=
  [{ audioContext := 4
     packing := .sequential
     sinkAseConfiguration := some
       [none, some ⟨⟨.lower, some .lc3, [.octetsPerCodecFrame 100]⟩, some ⟨95, 13⟩⟩,
        some ⟨⟨.lower, some .lc3, [.octetsPerCodecFrame 100]⟩, some ⟨20, 5⟩⟩]
     sourceAseConfiguration := none
     flags := none }]

theorem getLeAudioAseQosConfiguration_first_media :
    Direction.source.qos (getLeAudioAseQosConfiguration leAudioConstants (fun _ => none) mediaSettings
      ⟨4, some ⟨⟨.lower, some .lc3, []⟩, 5, 20⟩, none⟩) = none ∧
    Direction.sink.qos (getLeAudioAseQosConfiguration leAudioConstants (fun _ => none) mediaSettings
      ⟨4, some ⟨⟨.lower, some .lc3, []⟩, 5, 20⟩, none⟩) = some ⟨20, 5⟩ := by
  have h := getLeAudioAseQosConfiguration_first leAudioConstants (fun _ => none) mediaSettings
    ⟨4, some ⟨⟨.lower, some .lc3, []⟩, 5, 20⟩, none⟩ .sink ⟨⟨.lower, some .lc3, []⟩, 5, 20⟩ rfl rfl
  refine ⟨h.1, (h.2.1 ⟨20, 5⟩).2 ⟨[⟨⟨.lower, some .lc3, [.octetsPerCodecFrame 100]⟩, some ⟨95, 13⟩⟩],
    ⟨⟨.lower, some .lc3, [.octetsPerCodecFrame 100]⟩, some ⟨20, 5⟩⟩, [], by decide,
    ⟨by decide, ⟨20, 5⟩, rfl, by decide, by decide⟩, ?_, rfl⟩⟩
  intro cfg hcfg
  obtain rfl := List.mem_singleton.1 hcfg
  rintro ⟨-, q, hq, hnum, -⟩
  obtain rfl := Option.some.inj hq
  revert hnum
  decide

end TrebleDoze.Bluetooth
