import TrebleDoze.Bluetooth.LeAudioCodecsProvider

/-!
# The capabilities of a setting

What `GetLeAudioCodecCapabilities` lists for a setting, against the names in the setting itself.

* `lookup_updateToMap`: a map of the provider has the first valid element of each name;
* `resolve_loadConfigurationToMap`: a name is resolved through these;
* `listsCapabilities_fresh`: the capabilities are, in order, those of the scenarios that have some.
-/

namespace TrebleDoze.Bluetooth

open Setting CodecsProviderState

/-! ### The first valid element of a name -/

/-- The first valid element with the name. -/
def firstValid {α : Type} (valid : α → Bool) (name : α → Option String) (lists : List (List α))
    (n : String) : Option α :=
  lists.flatten.find? fun a => valid a && name a = some n

section

variable {α : Type} {valid : α → Bool} {name : α → Option String} {lists : List (List α)}
  {map : List (String × α)} {n : String}

theorem lookup_insertNew (key : String) (value : α) :
    (insertNew map key value).lookup n =
      (map.lookup n).or (if n = key then some value else none) := by
  unfold insertNew
  split_ifs with hmem heq heq
  · subst heq
    obtain ⟨old, hold⟩ := Option.isSome_iff_exists.1 hmem
    rw [hold, Option.some_or]
  · rw [Option.or_none]
  · rw [List.lookup_append, heq, List.lookup_cons, beq_self_eq_true]
  · have hne : (n == key) = false := beq_eq_false_iff_ne.2 heq
    rw [List.lookup_append, List.lookup_cons, hne]
    rfl

/-- **A map of the provider has the first valid element** of each name. -/
theorem lookup_updateToMap (hvalid : ∀ a, valid a = true → (name a).isSome) :
    (updateToMap valid name lists).lookup n = firstValid valid name lists n := by
  have hfold : ∀ (l : List α) (map : List (String × α)),
      (l.foldl (fun map a => if valid a then insertNew map ((name a).getD "") a else map) map).lookup n =
        (map.lookup n).or (l.find? fun a => valid a && name a = some n) := by
    intro l
    induction l with
    | nil =>
      intro map
      rw [List.find?_nil, Option.or_none]
      rfl
    | cons a l ih =>
      intro map
      rw [List.foldl_cons, ih, List.find?_cons]
      cases hva : valid a with
      | false => simp only [Bool.false_eq_true, if_false, Bool.false_and]
      | true =>
        obtain ⟨key, hkey⟩ := Option.isSome_iff_exists.1 (hvalid a hva)
        have hname : decide (name a = some n) = decide (n = key) := by
          rw [hkey, decide_eq_decide, Option.some.injEq, eq_comm]
        rw [hname, hkey]
        simp only [if_true, Bool.true_and, Option.getD_some, lookup_insertNew]
        by_cases heq : n = key
        · simp only [heq, if_true, decide_true, Option.or_assoc, Option.some_or]
        · simp only [heq, if_false, decide_false, Option.or_none]
  exact (hfold lists.flatten []).trans (Option.none_or)

theorem of_firstValid {a : α} (h : firstValid valid name lists n = some a) :
    valid a = true ∧ name a = some n := by
  have ha := List.find?_some h
  rwa [Bool.and_eq_true, decide_eq_true_eq] at ha

theorem firstValid_of_isEmpty (hvalid : ∀ a, valid a = true → (name a).isSome)
    (h : (updateToMap valid name lists).isEmpty = true) (n : String) :
    firstValid valid name lists n = none := by
  rw [← lookup_updateToMap hvalid, List.isEmpty_iff.1 h]
  rfl

end

/-! ### What the capabilities of a setting should be -/

/-- The condition under which a configuration is stored. -/
def isValidConfiguration (c : Configuration) : Bool :=
  c.name.isSome && c.codecConfiguration.isSome && c.strategyConfiguration.isSome

/-- The codec and the strategy that a name stands for, by the first valid elements of the names. -/
def firstResolved (setting : LeAudioOffloadSetting) (name : String) :
    Option (CodecConfiguration × StrategyConfiguration) := do
  let config ← firstValid isValidConfiguration Configuration.name setting.configurationList name
  let codecConfig ← config.codecConfiguration.bind
    (firstValid isValidCodecConfiguration CodecConfiguration.name setting.codecConfigurationList)
  let strategyConfig ← config.strategyConfiguration.bind
    (firstValid isValidStrategyConfiguration StrategyConfiguration.name
      setting.strategyConfigurationList)
  some (codecConfig, strategyConfig)

/-- The same, where the name `invalid` stands for nothing. -/
def firstNamed (setting : LeAudioOffloadSetting) (name : String) :
    Option (CodecConfiguration × StrategyConfiguration) :=
  if name = "invalid" then none else firstResolved setting name

/-- The location of a strategy with the numbers of devices and of channels that go with it. -/
def consistentCounts : List (Setting.AudioLocation × ℕ × ℕ) :=
  [(.stereo, 2, 1), (.stereo, 1, 2), (.stereo, 0, 2), (.mono, 1, 1)]

/-- The codecs that are supported for unicast. -/
def unicastCodecs : List CodecType := [.lc3, .aptxAdaptiveLe, .aptxAdaptiveLex]

/-- The one that is supported for broadcasts. -/
def broadcastCodecs : List CodecType := [.lc3]

/-- What a name stands for, if its codec is supported. -/
def supported (codecs : List CodecType) (resolved : Option (CodecConfiguration × StrategyConfiguration)) :
    Option (CodecConfiguration × StrategyConfiguration) :=
  resolved.filter fun r => getCodecType r.1.codec ∈ codecs

/-- The frequency, the frame duration and the octets of a codec configuration. -/
def HasFrame (c : CodecConfiguration) (f : FrameCapabilities) : Prop :=
  ∃ samplingFrequency frameDurationUs octets, c.samplingFrequency = some samplingFrequency ∧
    c.frameDurationUs = some frameDurationUs ∧ c.octetsPerCodecFrame = some octets ∧
    f = ⟨[samplingFrequency], [frameDurationUs], [octets]⟩

/-- A unicast side carries the codec and the strategy. -/
structure UnicastCarries (c : CodecConfiguration) (s : StrategyConfiguration) (u : UnicastCapability) :
    Prop where
  codecType : u.codecType = getCodecType c.codec
  supportedChannel : u.supportedChannel = getAudioLocation s.audioLocation
  deviceCount : s.connectedDevice = some u.deviceCount
  channelCount : s.channelCount = some u.channelCountPerDevice
  counts : ∃ location, s.audioLocation = some location ∧
    (location, u.deviceCount, u.channelCountPerDevice) ∈ consistentCounts
  capabilities : ∃ f, HasFrame c f ∧ u.leAudioCodecCapabilities =
    some (if u.codecType = .lc3 then .lc3 f else .aptxAdaptiveLe f)

/-- A broadcast carries the codec and the strategy. -/
structure BroadcastCarries (c : CodecConfiguration) (s : StrategyConfiguration)
    (b : BroadcastCapability) : Prop where
  codecType : b.codecType = getCodecType c.codec
  supportedChannel : b.supportedChannel = getAudioLocation s.audioLocation
  channelCount : s.channelCount = some b.channelCountPerStream
  counts : ∃ location device, s.audioLocation = some location ∧ s.connectedDevice = some device ∧
    (location, device, b.channelCountPerStream) ∈ consistentCounts
  capabilities : ∃ f, HasFrame c f ∧ b.leAudioCodecCapabilities = some [f]

/-- A unicast side is populated by what its name stands for, or not at all. -/
def UnicastSide (resolved : Option (CodecConfiguration × StrategyConfiguration))
    (u : UnicastCapability) : Prop :=
  match resolved with
  | none => u = { codecType := .unknown }
  | some (c, s) => UnicastCarries c s u

/-- Likewise a broadcast. -/
def BroadcastSide (resolved : Option (CodecConfiguration × StrategyConfiguration))
    (b : BroadcastCapability) : Prop :=
  match resolved with
  | none => b = { codecType := .unknown }
  | some (c, s) => BroadcastCarries c s b

section

variable (resolveName : String → Option (CodecConfiguration × StrategyConfiguration))

/-- What the encoding side of a scenario is populated by. -/
def encodeSide (scenario : Scenario) : Option (CodecConfiguration × StrategyConfiguration) :=
  scenario.encode.bind fun name => supported unicastCodecs (resolveName name)

def decodeSide (scenario : Scenario) : Option (CodecConfiguration × StrategyConfiguration) :=
  scenario.decode.bind fun name => supported unicastCodecs (resolveName name)

def broadcastSide (scenario : Scenario) : Option (CodecConfiguration × StrategyConfiguration) :=
  scenario.broadcast.bind fun name => supported broadcastCodecs (resolveName name)

/-- A scenario with both directions, one of whose names resolves to a supported codec. -/
def isPopulated (scenario : Scenario) : Bool :=
  scenario.encode.isSome && scenario.decode.isSome &&
    ((encodeSide resolveName scenario).isSome || (decodeSide resolveName scenario).isSome ||
      (broadcastSide resolveName scenario).isSome)

/-- An entry is that of a scenario: each side is populated by what its name stands for. -/
structure ScenarioEntry (scenario : Scenario) (entry : LeAudioCodecCapabilitiesSetting) : Prop where
  encode : UnicastSide (encodeSide resolveName scenario) entry.unicastEncodeCapability
  decode : UnicastSide (decodeSide resolveName scenario) entry.unicastDecodeCapability
  broadcast : BroadcastSide (broadcastSide resolveName scenario) entry.broadcastCapability

/-- The capabilities are, in order, one entry for each scenario of the setting that is populated. -/
def ListsCapabilities (setting : LeAudioOffloadSetting)
    (capabilities : List LeAudioCodecCapabilitiesSetting) : Prop :=
  List.Forall₂ (ScenarioEntry resolveName)
    (setting.scenarioList.flatten.filter (isPopulated resolveName)) capabilities

end

/-! ### The names in the maps -/

section

variable {setting : LeAudioOffloadSetting} {name : String} {c : CodecConfiguration}
  {s : StrategyConfiguration}

theorem isSome_name_of_isValidConfiguration (a : Configuration) (h : isValidConfiguration a = true) :
    a.name.isSome := by
  unfold isValidConfiguration at h
  rw [Bool.and_eq_true, Bool.and_eq_true] at h
  exact h.1.1

theorem isSome_name_of_isValidCodecConfiguration (a : CodecConfiguration)
    (h : isValidCodecConfiguration a = true) : a.name.isSome := by
  unfold isValidCodecConfiguration at h
  simp only [Bool.and_eq_true] at h
  exact h.1.1.1.1

theorem isSome_name_of_isValidStrategyConfiguration (a : StrategyConfiguration)
    (h : isValidStrategyConfiguration a = true) : a.name.isSome := by
  unfold isValidStrategyConfiguration at h
  rw [Bool.and_eq_true] at h
  exact h.1

/-- The maps of a setting that loads are those of its three kinds of configurations. -/
theorem maps_of_loaded (hl : (Bluetooth.loadConfigurationToMap setting).loaded = true) :
    Bluetooth.loadConfigurationToMap setting =
      ⟨getScenarios setting, updateConfigurationsToMap setting, updateCodecConfigurationsToMap setting,
        updateStrategyConfigurationsToMap setting⟩ := by
  revert hl
  unfold Bluetooth.loadConfigurationToMap
  simp only
  split_ifs <;> simp_all [Maps.loaded, Maps.empty]

/-- **A name is resolved through the first valid elements** of the names. -/
theorem resolve_loadConfigurationToMap
    (hl : (Bluetooth.loadConfigurationToMap setting).loaded = true) (name : String) :
    resolve (Bluetooth.loadConfigurationToMap setting) name = firstNamed setting name := by
  rw [maps_of_loaded hl]
  unfold resolve firstNamed
  by_cases hinvalid : name = "invalid"
  · rw [if_pos hinvalid, if_pos hinvalid]
  · rw [if_neg hinvalid, if_neg hinvalid]
    unfold firstResolved findCodecAndStrategy
    have hconfig : (updateConfigurationsToMap setting).lookup name =
        firstValid isValidConfiguration Configuration.name setting.configurationList name :=
      lookup_updateToMap isSome_name_of_isValidConfiguration
    simp only [hconfig, Option.bind_eq_bind]
    cases hc : firstValid isValidConfiguration Configuration.name setting.configurationList name with
    | none => rfl
    | some config =>
      -- a valid configuration names its codec and its strategy
      have hvalid := (of_firstValid hc).1
      unfold isValidConfiguration at hvalid
      rw [Bool.and_eq_true, Bool.and_eq_true] at hvalid
      obtain ⟨codecName, hcodec⟩ := Option.isSome_iff_exists.1 hvalid.1.2
      obtain ⟨strategyName, hstrategy⟩ := Option.isSome_iff_exists.1 hvalid.2
      simp only [Option.bind_some, hcodec, hstrategy, Option.getD_some]
      rw [updateCodecConfigurationsToMap, updateStrategyConfigurationsToMap,
        lookup_updateToMap isSome_name_of_isValidCodecConfiguration,
        lookup_updateToMap isSome_name_of_isValidStrategyConfiguration]

/-- In a setting that does not load no name resolves, or there is no scenario. -/
theorem firstNamed_of_not_loaded (hl : (Bluetooth.loadConfigurationToMap setting).loaded = false) :
    getScenarios setting = [] ∨ ∀ name, firstNamed setting name = none := by
  by_cases hs : (getScenarios setting).isEmpty
  · exact .inl (List.isEmpty_iff.1 hs)
  right
  intro name
  unfold firstNamed
  split_ifs with hinvalid
  · rfl
  unfold firstResolved
  by_cases hc : (updateConfigurationsToMap setting).isEmpty
  · rw [firstValid_of_isEmpty isSome_name_of_isValidConfiguration hc]
    rfl
  by_cases hcc : (updateCodecConfigurationsToMap setting).isEmpty
  · have hnone := firstValid_of_isEmpty isSome_name_of_isValidCodecConfiguration hcc
    simp [funext hnone]
  by_cases hsc : (updateStrategyConfigurationsToMap setting).isEmpty
  · have hnone := firstValid_of_isEmpty isSome_name_of_isValidStrategyConfiguration hsc
    simp [funext hnone]
  -- with no map empty, the setting loads
  · unfold Bluetooth.loadConfigurationToMap at hl
    simp [Maps.loaded, hs, hc, hcc, hsc] at hl

/-- A name stands for a valid codec configuration and a valid strategy configuration. -/
theorem valid_of_firstNamed (h : firstNamed setting name = some (c, s)) :
    isValidCodecConfiguration c = true ∧ isValidStrategyConfiguration s = true := by
  unfold firstNamed firstResolved at h
  split_ifs at h with hinvalid
  obtain ⟨config, -, h⟩ := Option.bind_eq_some_iff.1 h
  obtain ⟨c', hc, h⟩ := Option.bind_eq_some_iff.1 h
  obtain ⟨s', hs, h⟩ := Option.bind_eq_some_iff.1 h
  obtain ⟨rfl, rfl⟩ := Prod.mk.inj (Option.some.inj h)
  obtain ⟨codecName, -, hc⟩ := Option.bind_eq_some_iff.1 hc
  obtain ⟨strategyName, -, hs⟩ := Option.bind_eq_some_iff.1 hs
  exact ⟨(of_firstValid hc).1, (of_firstValid hs).1⟩

/-! ### What a valid name populates -/

theorem hasFrame_of_valid (h : isValidCodecConfiguration c = true) :
    HasFrame c (composeFrameCapabilities c) := by
  unfold isValidCodecConfiguration at h
  simp only [Bool.and_eq_true] at h
  obtain ⟨⟨⟨-, hsf⟩, hfd⟩, hoc⟩ := h
  obtain ⟨sf, hsf⟩ := Option.isSome_iff_exists.1 hsf
  obtain ⟨fd, hfd⟩ := Option.isSome_iff_exists.1 hfd
  obtain ⟨oc, hoc⟩ := Option.isSome_iff_exists.1 hoc
  refine ⟨sf, fd, oc, hsf, hfd, hoc, ?_⟩
  unfold composeFrameCapabilities
  rw [hsf, hfd, hoc]
  rfl

/-- A valid strategy configuration has a location, with the numbers that go with it. -/
theorem counts_of_valid (h : isValidStrategyConfiguration s = true) :
    ∃ location device channels, s.audioLocation = some location ∧ s.connectedDevice = some device ∧
      s.channelCount = some channels ∧ (location, device, channels) ∈ consistentCounts := by
  unfold isValidStrategyConfiguration at h
  rw [Bool.and_eq_true] at h
  obtain ⟨-, h⟩ := h
  unfold consistentCounts
  split at h
  · rename_i device channels hl hd hc
    refine ⟨_, _, _, hl, hd, hc, ?_⟩
    simp only [Bool.or_eq_true, Bool.and_eq_true, decide_eq_true_eq] at h
    rcases h with (⟨rfl, rfl⟩ | ⟨rfl, rfl⟩) | ⟨rfl, rfl⟩ <;> decide
  · rename_i device channels hl hd hc
    refine ⟨_, _, _, hl, hd, hc, ?_⟩
    simp only [Bool.and_eq_true, decide_eq_true_eq] at h
    obtain ⟨rfl, rfl⟩ := h
    decide
  · cases h

/-- What is resolved, if anything, is valid. -/
def ValidOrNone (resolved : Option (CodecConfiguration × StrategyConfiguration)) : Prop :=
  ∀ c s, resolved = some (c, s) →
    isValidCodecConfiguration c = true ∧ isValidStrategyConfiguration s = true

variable {m : Maps}

theorem getUnicastCapability_of_supported (hr : resolve m name = some (c, s))
    (ht : getCodecType c.codec ∈ unicastCodecs) :
    getUnicastCapability m name = composeUnicastCapability (getCodecType c.codec) s
      (if getCodecType c.codec = .lc3 then .lc3 (composeFrameCapabilities c)
        else .aptxAdaptiveLe (composeFrameCapabilities c)) := by
  unfold getUnicastCapability
  rw [hr]
  cases hct : getCodecType c.codec with
  | unknown =>
    rw [hct] at ht
    exact absurd ht (by decide)
  | lc3 => simp only [hct, if_true]
  | aptxAdaptiveLe => simp only [hct, reduceCtorEq, if_false]
  | aptxAdaptiveLex => simp only [hct, reduceCtorEq, if_false]

theorem getUnicastCapability_of_not_supported (h : supported unicastCodecs (resolve m name) = none) :
    getUnicastCapability m name = { codecType := .unknown } := by
  unfold getUnicastCapability
  cases hr : resolve m name with
  | none => rfl
  | some r =>
    rw [hr, supported, Option.filter_eq_none_iff] at h
    have hct := h r rfl
    cases ht : getCodecType r.1.codec with
    | unknown => simp only [ht]
    | lc3 => simp [ht, unicastCodecs] at hct
    | aptxAdaptiveLe => simp [ht, unicastCodecs] at hct
    | aptxAdaptiveLex => simp [ht, unicastCodecs] at hct

theorem of_supported {codecs : List CodecType}
    {resolved : Option (CodecConfiguration × StrategyConfiguration)}
    (h : supported codecs resolved = some (c, s)) :
    resolved = some (c, s) ∧ getCodecType c.codec ∈ codecs := by
  rw [supported, Option.filter_eq_some_iff, decide_eq_true_eq] at h
  exact h

theorem codecType_ne_unknown {codecs : List CodecType} {codecType : CodecType}
    {resolved : Option (CodecConfiguration × StrategyConfiguration)} (hcodecs : .unknown ∉ codecs)
    (h : supported codecs resolved = some (c, s)) (ht : codecType = getCodecType c.codec) :
    codecType ≠ .unknown := by
  rintro rfl
  have hmem := (of_supported h).2
  rw [← ht] at hmem
  exact hcodecs hmem

/-- The codec type of a side is unknown just when nothing populates it. -/
theorem eq_unknown_iff_of_supported {codecs : List CodecType}
    {resolved : Option (CodecConfiguration × StrategyConfiguration)} {t : CodecType}
    (hnone : supported codecs resolved = none → t = .unknown)
    (hsome : ∀ c s, supported codecs resolved = some (c, s) → t ≠ .unknown) :
    t = .unknown ↔ (supported codecs resolved).isSome = false := by
  cases hsup : supported codecs resolved with
  | none => exact iff_of_true (hnone hsup) rfl
  | some r => exact iff_of_false (hsome r.1 r.2 hsup) Bool.noConfusion

/-- The side for encoding or decoding is populated by what its name stands for. -/
theorem unicastSide_getUnicastCapability (hvalid : ValidOrNone (resolve m name)) :
    UnicastSide (supported unicastCodecs (resolve m name)) (getUnicastCapability m name) := by
  unfold UnicastSide
  cases hsup : supported unicastCodecs (resolve m name) with
  | none => exact getUnicastCapability_of_not_supported hsup
  | some r =>
    obtain ⟨c, s⟩ := r
    obtain ⟨hr, ht⟩ := of_supported hsup
    obtain ⟨hc, hs⟩ := hvalid c s hr
    obtain ⟨location, device, channels, hl, hd, hch, hcounts⟩ := counts_of_valid hs
    simp only
    rw [getUnicastCapability_of_supported hr ht]
    unfold composeUnicastCapability
    rw [hd, hch]
    exact ⟨rfl, rfl, hd, hch, ⟨location, hl, hcounts⟩, ⟨_, hasFrame_of_valid hc, rfl⟩⟩

/-- A unicast side is of an unknown codec just when nothing populates it. -/
theorem UnicastSide.codecType_iff {resolved : Option (CodecConfiguration × StrategyConfiguration)}
    {u : UnicastCapability} (h : UnicastSide (supported unicastCodecs resolved) u) :
    u.codecType = .unknown ↔ (supported unicastCodecs resolved).isSome = false := by
  refine eq_unknown_iff_of_supported (fun hsup => ?_) fun c s hsup => ?_
  · rw [hsup] at h
    exact congrArg UnicastCapability.codecType h
  · rw [hsup] at h
    exact codecType_ne_unknown (by decide) hsup (UnicastCarries.codecType h)

theorem getBroadcastCapability_of_supported (hr : resolve m name = some (c, s))
    (ht : getCodecType c.codec ∈ broadcastCodecs) :
    getBroadcastCapability m name =
      { codecType := getCodecType c.codec
        supportedChannel := getAudioLocation s.audioLocation
        channelCountPerStream := s.channelCount.getD 0
        leAudioCodecCapabilities := some [composeFrameCapabilities c] } := by
  have hlc3 : getCodecType c.codec = .lc3 := List.mem_singleton.1 ht
  unfold getBroadcastCapability
  rw [hr]
  simp only [hlc3]

theorem getBroadcastCapability_of_not_supported
    (h : supported broadcastCodecs (resolve m name) = none) :
    getBroadcastCapability m name = { codecType := .unknown } := by
  unfold getBroadcastCapability
  cases hr : resolve m name with
  | none => rfl
  | some r =>
    rw [hr, supported, Option.filter_eq_none_iff] at h
    have hct := h r rfl
    cases ht : getCodecType r.1.codec with
    | lc3 => simp [ht, broadcastCodecs] at hct
    | unknown => simp only [ht]
    | aptxAdaptiveLe => simp only [ht]
    | aptxAdaptiveLex => simp only [ht]

theorem broadcastSide_getBroadcastCapability (hvalid : ValidOrNone (resolve m name)) :
    BroadcastSide (supported broadcastCodecs (resolve m name)) (getBroadcastCapability m name) := by
  unfold BroadcastSide
  cases hsup : supported broadcastCodecs (resolve m name) with
  | none => exact getBroadcastCapability_of_not_supported hsup
  | some r =>
    obtain ⟨c, s⟩ := r
    obtain ⟨hr, ht⟩ := of_supported hsup
    obtain ⟨hc, hs⟩ := hvalid c s hr
    obtain ⟨location, device, channels, hl, hd, hch, hcounts⟩ := counts_of_valid hs
    simp only
    rw [getBroadcastCapability_of_supported hr ht, hch]
    exact ⟨rfl, rfl, hch, ⟨location, device, hl, hd, hcounts⟩, ⟨_, hasFrame_of_valid hc, rfl⟩⟩

theorem BroadcastSide.codecType_iff {resolved : Option (CodecConfiguration × StrategyConfiguration)}
    {b : BroadcastCapability} (h : BroadcastSide (supported broadcastCodecs resolved) b) :
    b.codecType = .unknown ↔ (supported broadcastCodecs resolved).isSome = false := by
  refine eq_unknown_iff_of_supported (fun hsup => ?_) fun c s hsup => ?_
  · rw [hsup] at h
    exact congrArg BroadcastCapability.codecType h
  · rw [hsup] at h
    exact codecType_ne_unknown (by decide) hsup (BroadcastCarries.codecType h)

/-! ### The list -/

/-- Elements that a filter keeps, and what a map makes of just these. -/
theorem forall₂_filter_filterMap {α β : Type} {R : α → β → Prop} {p : α → Bool} {f : α → Option β}
    {l : List α}
    (h : ∀ a ∈ l, (p a = false ∧ f a = none) ∨ (p a = true ∧ ∃ b, f a = some b ∧ R a b)) :
    List.Forall₂ R (l.filter p) (l.filterMap f) := by
  induction l with
  | nil => exact .nil
  | cons a l ih =>
    have hrest := ih fun a' ha' => h a' (List.mem_cons_of_mem a ha')
    rcases h a List.mem_cons_self with ⟨hp, hf⟩ | ⟨hp, b, hf, hr⟩
    · rw [List.filter_cons_of_neg (by simp [hp]), List.filterMap_cons_none hf]
      exact hrest
    · rw [List.filter_cons_of_pos hp, List.filterMap_cons_some hf]
      exact .cons hr hrest

theorem broadcastSide_codecType_iff {scenario : Scenario} {b : BroadcastCapability}
    (h : BroadcastSide (broadcastSide (resolve m) scenario) b) :
    b.codecType = .unknown ↔ (broadcastSide (resolve m) scenario).isSome = false := by
  unfold broadcastSide at h ⊢
  cases hbroadcast : scenario.broadcast with
  | none =>
    rw [hbroadcast] at h
    have hnone : b = { codecType := .unknown } := h
    rw [hnone]
    simp only [Option.bind_none, Option.isSome_none]
  | some name =>
    rw [hbroadcast] at h
    exact h.codecType_iff

/-- What is composed of the three capabilities of a scenario, if one of them has a codec. -/
def composedEntry (encode decode : UnicastCapability) (broadcast : BroadcastCapability) :
    Option LeAudioCodecCapabilitiesSetting :=
  if encode.codecType = .unknown ∧ decode.codecType = .unknown ∧ broadcast.codecType = .unknown then none
  else some ⟨encode, decode, broadcast⟩

/-- The entry of a scenario with both directions, out of the capability for its broadcast. -/
theorem scenarioEntry_of_broadcastSide (hvalid : ∀ name, ValidOrNone (resolve m name))
    {scenario : Scenario} {encodeName decodeName : String} (he : scenario.encode = some encodeName)
    (hd : scenario.decode = some decodeName) {b : BroadcastCapability}
    (hb : BroadcastSide (broadcastSide (resolve m) scenario) b) :
    (isPopulated (resolve m) scenario = false ∧
      composedEntry (getUnicastCapability m encodeName) (getUnicastCapability m decodeName) b = none) ∨
    (isPopulated (resolve m) scenario = true ∧ ∃ entry,
      composedEntry (getUnicastCapability m encodeName) (getUnicastCapability m decodeName) b =
        some entry ∧ ScenarioEntry (resolve m) scenario entry) := by
  have hue := unicastSide_getUnicastCapability (hvalid encodeName)
  have hud := unicastSide_getUnicastCapability (hvalid decodeName)
  have hpopulated : isPopulated (resolve m) scenario = false ↔
      (getUnicastCapability m encodeName).codecType = .unknown ∧
      (getUnicastCapability m decodeName).codecType = .unknown ∧ b.codecType = .unknown := by
    rw [hue.codecType_iff, hud.codecType_iff, broadcastSide_codecType_iff hb]
    unfold isPopulated encodeSide decodeSide
    simp only [he, hd, Option.isSome_some, Option.bind_some, Bool.and_self, Bool.true_and,
      Bool.or_eq_false_iff, and_assoc]
  cases hp : isPopulated (resolve m) scenario with
  | false => exact .inl ⟨rfl, if_pos (hpopulated.1 hp)⟩
  | true =>
    refine .inr ⟨rfl, _, if_neg fun hnot => ?_, ⟨?_, ?_, hb⟩⟩
    · rw [hpopulated.2 hnot] at hp
      cases hp
    · unfold encodeSide
      rw [he]
      exact hue
    · unfold decodeSide
      rw [hd]
      exact hud

/-- The capabilities that are composed are those of the scenarios that are populated. -/
theorem forall₂_composeLeAudioCodecCapabilities (hvalid : ∀ name, ValidOrNone (resolve m name))
    (scenarios : List Scenario)
    (hboth : ∀ scenario ∈ scenarios, scenario.encode.isSome = true ∧ scenario.decode.isSome = true) :
    List.Forall₂ (ScenarioEntry (resolve m)) (scenarios.filter (isPopulated (resolve m)))
      (composeLeAudioCodecCapabilities m scenarios) := by
  refine forall₂_filter_filterMap fun scenario hmem => ?_
  obtain ⟨hencode, hdecode⟩ := hboth scenario hmem
  obtain ⟨encodeName, he⟩ := Option.isSome_iff_exists.1 hencode
  obtain ⟨decodeName, hd⟩ := Option.isSome_iff_exists.1 hdecode
  have hentry := @scenarioEntry_of_broadcastSide m hvalid scenario encodeName decodeName he hd
  simp only [he, hd, Option.getD_some]
  cases hbroadcast : scenario.broadcast with
  | none =>
    refine hentry ?_
    rw [broadcastSide, hbroadcast]
    exact rfl
  | some name =>
    refine hentry ?_
    rw [broadcastSide, hbroadcast]
    exact broadcastSide_getBroadcastCapability (hvalid name)

end

/-- The scenarios that are populated are among those with both directions. -/
theorem filter_isPopulated (setting : LeAudioOffloadSetting)
    (resolveName : String → Option (CodecConfiguration × StrategyConfiguration)) :
    setting.scenarioList.flatten.filter (isPopulated resolveName) =
      (getScenarios setting).filter (isPopulated resolveName) := by
  unfold getScenarios
  rw [List.filter_filter]
  refine List.filter_congr fun scenario _ => ?_
  unfold isPopulated
  cases scenario.encode.isSome <;> cases scenario.decode.isSome <;> simp

theorem isPopulated_of_none {resolveName : String → Option (CodecConfiguration × StrategyConfiguration)}
    (h : ∀ name, resolveName name = none) (scenario : Scenario) :
    isPopulated resolveName scenario = false := by
  have hside : ∀ (codecs : List CodecType) (side : Option String),
      (side.bind fun name => supported codecs (resolveName name)) = none := by
    intro codecs side
    cases side with
    | none => rfl
    | some name => rw [Option.bind_some, h name, supported, Option.filter_none]
  unfold isPopulated encodeSide decodeSide broadcastSide
  rw [hside, hside, hside]
  simp only [Option.isSome_none, Bool.or_self, Bool.and_false]

/-- **The capabilities of a setting** are, in order, those of the scenarios with both directions one of
whose names, other than `invalid`, resolves to a supported codec through the first valid configurations. -/
theorem listsCapabilities_fresh (setting : LeAudioOffloadSetting) :
    ListsCapabilities (firstNamed setting) setting
      (getLeAudioCodecCapabilities (some setting) initial).1 := by
  unfold ListsCapabilities
  rw [filter_isPopulated]
  cases hl : (Bluetooth.loadConfigurationToMap setting).loaded with
  | true =>
    have hcapabilities : (getLeAudioCodecCapabilities (some setting) initial).1 =
        capabilitiesOf setting := by
      have hbefore : Before setting initial := before_initial
      have hc := (hbefore.codecCapabilities hl).1
      unfold call at hc
      rw [before_initial.parse] at hc
      exact Answer.codecCapabilities.inj hc
    have hscenarios : (Bluetooth.loadConfigurationToMap setting).supportedScenarios =
        getScenarios setting := by rw [maps_of_loaded hl]
    rw [hcapabilities, capabilitiesOf, hscenarios,
      ← funext (resolve_loadConfigurationToMap hl)]
    refine forall₂_composeLeAudioCodecCapabilities (fun name c s h => ?_) _ fun scenario hs => ?_
    · rw [resolve_loadConfigurationToMap hl] at h
      exact valid_of_firstNamed h
    · have hboth := (List.mem_filter.1 hs).2
      rwa [Bool.and_eq_true] at hboth
  | false =>
    have hcapabilities : (getLeAudioCodecCapabilities (some setting) initial).1 = [] := by
      have hloads : loads (some setting) = false := hl
      have hnothing := (call_of_not_loads (s := initial) hloads rfl rfl .codecCapabilities).1
      unfold call at hnothing
      rw [before_initial.parse] at hnothing
      exact Answer.codecCapabilities.inj hnothing
    have hnone : (getScenarios setting).filter (isPopulated (firstNamed setting)) = [] := by
      rcases firstNamed_of_not_loaded hl with h | h
      · rw [h, List.filter_nil]
      · rw [List.filter_eq_nil_iff]
        intro scenario _
        rw [isPopulated_of_none h]
        exact Bool.false_ne_true
    rw [hcapabilities, hnone]
    exact .nil

/-- A setting with a configuration of the name `invalid`, which its scenario names. -/
def namedInvalid : LeAudioOffloadSetting where
  scenarioList := [[⟨some "invalid", some "invalid", none⟩]]
  configurationList := [[⟨some "invalid", some "LC3_16k_1", some "MONO_ONE_CIS_PER_DEVICE"⟩]]
  codecConfigurationList := [[⟨some "LC3_16k_1", some .lc3, some 16000, some 7500, some 30⟩]]
  strategyConfigurationList := [[⟨some "MONO_ONE_CIS_PER_DEVICE", some .mono, some 1, some 1⟩]]

/-- The configuration of this name is not found. -/
theorem capabilities_namedInvalid :
    (getLeAudioCodecCapabilities (some namedInvalid) initial).1 = [] ∧
      firstResolved namedInvalid "invalid" =
        some (⟨some "LC3_16k_1", some .lc3, some 16000, some 7500, some 30⟩,
          ⟨some "MONO_ONE_CIS_PER_DEVICE", some .mono, some 1, some 1⟩) ∧
      ¬ ListsCapabilities (firstResolved namedInvalid) namedInvalid
        (getLeAudioCodecCapabilities (some namedInvalid) initial).1 := by
  refine ⟨by decide, by decide, fun h => ?_⟩
  exact absurd h.length_eq (by decide)

end TrebleDoze.Bluetooth
