import TrebleDoze.Bluetooth.LeAudioSetting

/-!
# `BluetoothLeAudioCodecsProvider`

The static state of the provider, and the two calls that load it and answer from it.

* `asIfAlone_iff`: when each call of a sequence answers as if it had been the only one;
* `codecListsAgree_iff`: when the two views of a setting agree.
-/

namespace TrebleDoze.Bluetooth

open Setting

/-- The static state: the two caches, the flag, and the maps. -/
structure CodecsProviderState where
  leAudioCodecCapabilities : List LeAudioCodecCapabilitiesSetting
  isInvalidFileContent : Bool
  maps : Maps
  sessionCodecsMap : List (SessionType × List CodecInfo)
  deriving DecidableEq, Repr

namespace CodecsProviderState

/-- The state that the process starts with. -/
def initial : CodecsProviderState := ⟨[], false, .empty, []⟩

/-- `ClearLeAudioCodecCapabilities`. -/
def clearLeAudioCodecCapabilities (s : CodecsProviderState) : CodecsProviderState :=
  { s with leAudioCodecCapabilities := [], maps := .empty, sessionCodecsMap := [] }

/-- `LoadConfigurationToMap`. -/
def loadConfigurationToMap (s : CodecsProviderState) (setting : LeAudioOffloadSetting) :
    CodecsProviderState :=
  { s.clearLeAudioCodecCapabilities with maps := Bluetooth.loadConfigurationToMap setting }

/-- `ParseFromLeAudioOffloadSettingFile`, for what reading the file gives. -/
def parseFromLeAudioOffloadSettingFile (file : Option LeAudioOffloadSetting) (s : CodecsProviderState) :
    Option LeAudioOffloadSetting :=
  if !s.leAudioCodecCapabilities.isEmpty || s.isInvalidFileContent then none else file

/-- `GetLeAudioCodecInfo`. -/
def getLeAudioCodecInfo (setting : Option LeAudioOffloadSetting) (s : CodecsProviderState) :
    List (SessionType × List CodecInfo) × CodecsProviderState :=
  -- what was stored before
  if !s.sessionCodecsMap.isEmpty then (s.sessionCodecsMap, s) else
  let s := { s with isInvalidFileContent := true }
  match setting with
  | none => ([], s)
  | some setting =>
    let s := s.loadConfigurationToMap setting
    if !s.maps.loaded then ([], s) else
    let codecs := sessionCodecs s.maps
    (codecs, { s with sessionCodecsMap := codecs, isInvalidFileContent := codecs.isEmpty })

/-- `GetLeAudioCodecCapabilities`. -/
def getLeAudioCodecCapabilities (setting : Option LeAudioOffloadSetting) (s : CodecsProviderState) :
    List LeAudioCodecCapabilitiesSetting × CodecsProviderState :=
  if !s.leAudioCodecCapabilities.isEmpty then (s.leAudioCodecCapabilities, s) else
  let s := { s with isInvalidFileContent := true }
  match setting with
  | none => ([], s)
  | some setting =>
    let s := s.loadConfigurationToMap setting
    if !s.maps.loaded then ([], s) else
    let capabilities := composeLeAudioCodecCapabilities s.maps s.maps.supportedScenarios
    (capabilities,
      { s with leAudioCodecCapabilities := capabilities, isInvalidFileContent := capabilities.isEmpty })

/-- The two calls, each with what it parses from the file. -/
inductive Call where
  | codecInfo | codecCapabilities
  deriving DecidableEq, Repr

/-- The answer of a call. -/
inductive Answer where
  | codecInfo (codecs : List (SessionType × List CodecInfo))
  | codecCapabilities (capabilities : List LeAudioCodecCapabilitiesSetting)
  deriving DecidableEq, Repr

/-- One call. -/
def call (file : Option LeAudioOffloadSetting) (s : CodecsProviderState) :
    Call → Answer × CodecsProviderState
  | .codecInfo =>
    let (codecs, s') := getLeAudioCodecInfo (parseFromLeAudioOffloadSettingFile file s) s
    (.codecInfo codecs, s')
  | .codecCapabilities =>
    let (capabilities, s') := getLeAudioCodecCapabilities (parseFromLeAudioOffloadSettingFile file s) s
    (.codecCapabilities capabilities, s')

/-- The answers of a sequence of calls. -/
def answers (file : Option LeAudioOffloadSetting) : CodecsProviderState → List Call → List Answer
  | _, [] => []
  | s, c :: calls => (call file s c).1 :: answers file (call file s c).2 calls

/-- Each call of the sequence answers as if it had been the only one. -/
def AsIfAlone (file : Option LeAudioOffloadSetting) (calls : List Call) : Prop :=
  answers file initial calls = calls.map fun c => (call file initial c).1

/-- The file can be read, and its setting loads. -/
def loads (file : Option LeAudioOffloadSetting) : Bool :=
  file.any fun setting => (Bluetooth.loadConfigurationToMap setting).loaded

/-! ### States before and after the capabilities have been asked for -/

section

variable {setting : LeAudioOffloadSetting} {file : Option LeAudioOffloadSetting}
  {s : CodecsProviderState} {calls : List Call}

/-- The codecs of a setting. -/
abbrev codecsOf (setting : LeAudioOffloadSetting) : List (SessionType × List CodecInfo) :=
  sessionCodecs (Bluetooth.loadConfigurationToMap setting)

/-- The capabilities of a setting. -/
abbrev capabilitiesOf (setting : LeAudioOffloadSetting) : List LeAudioCodecCapabilitiesSetting :=
  composeLeAudioCodecCapabilities (Bluetooth.loadConfigurationToMap setting)
    (Bluetooth.loadConfigurationToMap setting).supportedScenarios

/-- No capabilities have been asked for: the file can be parsed, and the codecs are stored or not. -/
structure Before (setting : LeAudioOffloadSetting) (s : CodecsProviderState) : Prop where
  capabilities : s.leAudioCodecCapabilities = []
  valid : s.isInvalidFileContent = false
  codecs : s.sessionCodecsMap = [] ∨ s.sessionCodecsMap = codecsOf setting

/-- The capabilities have been asked for: they are stored, the codecs are not, and the file is not parsed
any more. -/
structure After (setting : LeAudioOffloadSetting) (s : CodecsProviderState) : Prop where
  capabilities : s.leAudioCodecCapabilities = capabilitiesOf setting
  parse : parseFromLeAudioOffloadSettingFile (some setting) s = none
  codecs : s.sessionCodecsMap = []

theorem loads_some : loads (some setting) = (Bluetooth.loadConfigurationToMap setting).loaded := rfl

@[simp] theorem maps_loadConfigurationToMap :
    (s.loadConfigurationToMap setting).maps = Bluetooth.loadConfigurationToMap setting := rfl

theorem parse_of_invalid (h : s.isInvalidFileContent = true) :
    parseFromLeAudioOffloadSettingFile file s = none := by
  unfold parseFromLeAudioOffloadSettingFile
  rw [h, Bool.or_true, if_pos rfl]

theorem parse_of_stored (h : s.leAudioCodecCapabilities.isEmpty = false) :
    parseFromLeAudioOffloadSettingFile file s = none := by
  unfold parseFromLeAudioOffloadSettingFile
  rw [h, Bool.not_false, Bool.true_or, if_pos rfl]

theorem before_initial : Before setting initial := ⟨rfl, rfl, .inl rfl⟩

theorem Before.parse (h : Before setting s) :
    parseFromLeAudioOffloadSettingFile (some setting) s = some setting := by
  unfold parseFromLeAudioOffloadSettingFile
  rw [h.capabilities, h.valid]
  rfl

theorem Before.codecInfo (h : Before setting s) (hl : loads (some setting) = true) :
    (call (some setting) s .codecInfo).1 = .codecInfo (codecsOf setting) ∧
      Before setting (call (some setting) s .codecInfo).2 := by
  rw [loads_some] at hl
  unfold call
  simp only [h.parse]
  unfold getLeAudioCodecInfo
  rcases h.codecs with hc | hc
  · simp only [hc, List.isEmpty_nil, Bool.not_true, Bool.false_eq_true, if_false,
      maps_loadConfigurationToMap, hl]
    exact ⟨trivial, rfl, rfl, .inr rfl⟩
  · have hne : (!s.sessionCodecsMap.isEmpty) = true := by
      rw [hc]
      rfl
    rw [if_pos hne]
    exact ⟨congrArg Answer.codecInfo hc, h⟩

theorem Before.codecCapabilities (h : Before setting s) (hl : loads (some setting) = true) :
    (call (some setting) s .codecCapabilities).1 = .codecCapabilities (capabilitiesOf setting) ∧
      After setting (call (some setting) s .codecCapabilities).2 := by
  rw [loads_some] at hl
  unfold call
  simp only [h.parse]
  unfold getLeAudioCodecCapabilities
  simp only [h.capabilities, List.isEmpty_nil, Bool.not_true, Bool.false_eq_true, if_false,
    maps_loadConfigurationToMap, hl]
  refine ⟨trivial, rfl, ?_, rfl⟩
  -- without capabilities the file is marked as invalid
  cases he : (capabilitiesOf setting).isEmpty with
  | false => exact parse_of_stored he
  | true => exact parse_of_invalid rfl

theorem After.codecInfo (h : After setting s) :
    (call (some setting) s .codecInfo).1 = .codecInfo [] ∧
      After setting (call (some setting) s .codecInfo).2 := by
  unfold call
  simp only [h.parse]
  unfold getLeAudioCodecInfo
  simp only [h.codecs, List.isEmpty_nil, Bool.not_true, Bool.false_eq_true, if_false]
  exact ⟨trivial, h.capabilities, parse_of_invalid rfl, rfl⟩

theorem After.codecCapabilities (h : After setting s) :
    (call (some setting) s .codecCapabilities).1 = .codecCapabilities (capabilitiesOf setting) ∧
      After setting (call (some setting) s .codecCapabilities).2 := by
  unfold call
  simp only [h.parse]
  unfold getLeAudioCodecCapabilities
  by_cases he : s.leAudioCodecCapabilities.isEmpty
  · simp only [he, Bool.not_true, Bool.false_eq_true, if_false]
    have hnil : s.leAudioCodecCapabilities = [] := List.isEmpty_iff.1 he
    refine ⟨?_, h.capabilities, parse_of_invalid rfl, h.codecs⟩
    rw [← h.capabilities, hnil]
  · have hne : (!s.leAudioCodecCapabilities.isEmpty) = true := by simpa using he
    rw [if_pos hne]
    exact ⟨congrArg Answer.codecCapabilities h.capabilities, h⟩

/-! ### Sequences of calls -/

theorem alone (hl : loads (some setting) = true) (c : Call) :
    (call (some setting) initial c).1 = match c with
      | .codecInfo => .codecInfo (codecsOf setting)
      | .codecCapabilities => .codecCapabilities (capabilitiesOf setting) := by
  cases c with
  | codecInfo => exact (before_initial.codecInfo hl).1
  | codecCapabilities => exact (before_initial.codecCapabilities hl).1

/-- After the capabilities have been asked for, the answers are as they should be as long as the codecs
are not. -/
theorem After.answers_eq_iff (hl : loads (some setting) = true) (h : After setting s) :
    answers (some setting) s calls = calls.map (fun c => (call (some setting) initial c).1) ↔
      .codecInfo ∉ calls := by
  induction calls generalizing s with
  | nil => simp [answers]
  | cons c calls ih =>
    rw [answers, List.map_cons, List.cons.injEq, alone hl c]
    cases c with
    | codecInfo =>
      obtain ⟨ha, -⟩ := h.codecInfo
      rw [ha]
      constructor
      · rintro ⟨hf, -⟩
        cases hf
      · intro hf
        exact absurd List.mem_cons_self hf
    | codecCapabilities =>
      obtain ⟨ha, hs⟩ := h.codecCapabilities
      rw [ha, ih hs]
      simp

/-- Before that, they are as they should be as long as the codecs are not asked for after them. -/
theorem Before.answers_eq_iff (hl : loads (some setting) = true) (h : Before setting s) :
    answers (some setting) s calls = calls.map (fun c => (call (some setting) initial c).1) ↔
      calls.Pairwise fun c c' => ¬ (c = .codecCapabilities ∧ c' = .codecInfo) := by
  induction calls generalizing s with
  | nil => simp [answers]
  | cons c calls ih =>
    rw [answers, List.map_cons, List.cons.injEq, alone hl c, List.pairwise_cons]
    cases c with
    | codecInfo =>
      obtain ⟨ha, hs⟩ := h.codecInfo hl
      rw [ha, ih hs]
      simp
    | codecCapabilities =>
      obtain ⟨ha, hs⟩ := h.codecCapabilities hl
      have hnot : Call.codecInfo ∉ calls →
          calls.Pairwise fun c c' => ¬ (c = .codecCapabilities ∧ c' = .codecInfo) := by
        intro hf
        refine List.pairwise_of_forall_mem_list fun c _ c' hc' hcc => ?_
        rw [hcc.2] at hc'
        exact hf hc'
      rw [ha, hs.answers_eq_iff hl]
      constructor
      · rintro ⟨-, hf⟩
        refine ⟨fun c' hc' hcc => ?_, hnot hf⟩
        rw [hcc.2] at hc'
        exact hf hc'
      · rintro ⟨hall, -⟩
        exact ⟨rfl, fun hf => hall _ hf ⟨rfl, rfl⟩⟩

/-- The answer without content. -/
def Call.nothing : Call → Answer
  | codecInfo => .codecInfo []
  | codecCapabilities => .codecCapabilities []

/-- With a file that does not load, a call finds nothing, and stores nothing. -/
theorem call_of_not_loads (hl : loads file = false) (h1 : s.leAudioCodecCapabilities = [])
    (h2 : s.sessionCodecsMap = []) (c : Call) :
    (call file s c).1 = c.nothing ∧ (call file s c).2.leAudioCodecCapabilities = [] ∧
      (call file s c).2.sessionCodecsMap = [] := by
  have hparse : ∀ setting, parseFromLeAudioOffloadSettingFile file s = some setting →
      (Bluetooth.loadConfigurationToMap setting).loaded = false := by
    intro setting h
    unfold parseFromLeAudioOffloadSettingFile at h
    split_ifs at h
    rw [h] at hl
    exact hl
  cases hp : parseFromLeAudioOffloadSettingFile file s with
  | none =>
    cases c <;> simp [call, hp, getLeAudioCodecInfo, getLeAudioCodecCapabilities, h1, h2, Call.nothing]
  | some setting =>
    have hload := hparse setting hp
    cases c <;> simp [call, hp, getLeAudioCodecInfo, getLeAudioCodecCapabilities, h1, h2, Call.nothing,
      hload, loadConfigurationToMap, clearLeAudioCodecCapabilities]

theorem answers_of_not_loads (hl : loads file = false) (h1 : s.leAudioCodecCapabilities = [])
    (h2 : s.sessionCodecsMap = []) : answers file s calls = calls.map Call.nothing := by
  induction calls generalizing s with
  | nil => rfl
  | cons c calls ih =>
    obtain ⟨ha, h1', h2'⟩ := call_of_not_loads hl h1 h2 c
    rw [answers, ha, ih h1' h2', List.map_cons]

/-- **When each call answers as if it had been the only one**: when the file does not load, or the codecs
are never asked for after the capabilities. -/
theorem asIfAlone_iff (file : Option LeAudioOffloadSetting) (calls : List Call) :
    AsIfAlone file calls ↔ loads file = false ∨
      calls.Pairwise fun c c' => ¬ (c = .codecCapabilities ∧ c' = .codecInfo) := by
  unfold AsIfAlone
  cases hl : loads file with
  | false =>
    have hnothing : ∀ c, (call file initial c).1 = c.nothing := fun c =>
      (call_of_not_loads hl rfl rfl c).1
    rw [answers_of_not_loads hl rfl rfl]
    simp only [hnothing, true_or]
  | true =>
    obtain ⟨setting, rfl⟩ : ∃ setting, file = some setting := by
      cases file with
      | none => cases hl
      | some setting => exact ⟨setting, rfl⟩
    rw [before_initial.answers_eq_iff hl]
    simp

/-- Part of `le_audio_codec_capabilities.xml`, with the given scenarios. -/
def excerpt (scenarios : List Scenario) : LeAudioOffloadSetting where
  scenarioList := [scenarios]
  configurationList := [[
    ⟨some "OneChanMono_16_1", some "LC3_16k_1", some "MONO_ONE_CIS_PER_DEVICE"⟩,
    ⟨some "BcastStereo_16_2", some "LC3_16k_2", some "BROADCAST_STEREO"⟩]]
  codecConfigurationList := [[
    ⟨some "LC3_16k_1", some .lc3, some 16000, some 7500, some 30⟩,
    ⟨some "LC3_16k_2", some .lc3, some 16000, some 10000, some 40⟩]]
  strategyConfigurationList := [[
    ⟨some "MONO_ONE_CIS_PER_DEVICE", some .mono, some 1, some 1⟩,
    ⟨some "BROADCAST_STEREO", some .stereo, some 0, some 2⟩]]

/-- A scenario for encoding only, as the file has them. -/
def encodeOnly : Scenario := ⟨some "OneChanMono_16_1", some "invalid", none⟩

/-- The codecs are gone once the capabilities have been asked for. -/
theorem answers_codecInfo_after_capabilities :
    loads (some (excerpt [encodeOnly])) = true ∧
      ¬ AsIfAlone (some (excerpt [encodeOnly])) [.codecCapabilities, .codecInfo] := by
  have hl : loads (some (excerpt [encodeOnly])) = true := by decide
  refine ⟨hl, fun h => ?_⟩
  have hpairwise := (before_initial.answers_eq_iff hl).1 h
  revert hpairwise
  decide

end

end CodecsProviderState

/-! ### The two views of a setting -/

section

open CodecsProviderState

/-- The session types, and the side of the scenarios that each of them is for. -/
def codecPaths : List (SessionType × (Scenario → Option String)) :=
  [(.leAudioHardwareOffloadEncoding, Scenario.encode), (.leAudioHardwareOffloadDecoding, Scenario.decode),
    (.leAudioBroadcastHardwareOffloadEncoding, Scenario.broadcast)]

/-- The view by codecs agrees with that by capabilities: for each session type it has one codec for each
name of the scenarios that resolves, and none for the others. -/
def CodecListsAgree (setting : LeAudioOffloadSetting) : Prop :=
  ∀ path ∈ codecPaths, ∃ codecs,
    (getLeAudioCodecInfo (some setting) initial).1.lookup path.1 = some codecs ∧
    codecs.Perm (resolvedCodecInfo (Bluetooth.loadConfigurationToMap setting)
      (configNames (Bluetooth.loadConfigurationToMap setting) path.2))

/-- The views agree on a setting that loads just when the names that are asked for resolve. -/
theorem codecListsAgree_iff_names {setting : LeAudioOffloadSetting}
    (hl : loads (some setting) = true) :
    CodecListsAgree setting ↔ ∀ path ∈ codecPaths,
      ∀ name ∈ configNames (Bluetooth.loadConfigurationToMap setting) path.2,
        (resolve (Bluetooth.loadConfigurationToMap setting) name).isSome := by
  have hcodecs : (getLeAudioCodecInfo (some setting) initial).1 = codecsOf setting := by
    have hc := (before_initial.codecInfo hl).1
    unfold call at hc
    rw [before_initial.parse] at hc
    exact Answer.codecInfo.inj hc
  unfold CodecListsAgree
  refine forall₂_congr fun path hpath => ?_
  have hlookup : (getLeAudioCodecInfo (some setting) initial).1.lookup path.1 =
      some ((configNames (Bluetooth.loadConfigurationToMap setting) path.2).map
        (configCodecInfo (Bluetooth.loadConfigurationToMap setting))) := by
    rw [hcodecs]
    unfold codecPaths at hpath
    simp only [List.mem_cons, List.not_mem_nil, or_false] at hpath
    rcases hpath with rfl | rfl | rfl <;> rfl
  simp only [hlookup, Option.some.injEq, exists_eq_left', perm_resolved_iff]

/-- **When the two views of a setting agree**: when each name of the scenarios resolves. -/
theorem codecListsAgree_iff {setting : LeAudioOffloadSetting} (hl : loads (some setting) = true) :
    CodecListsAgree setting ↔ ∀ path ∈ codecPaths,
      ∀ scenario ∈ (Bluetooth.loadConfigurationToMap setting).supportedScenarios,
      ∀ name, path.2 scenario = some name →
        (resolve (Bluetooth.loadConfigurationToMap setting) name).isSome := by
  rw [codecListsAgree_iff_names hl]
  refine forall₂_congr fun path _ => ?_
  constructor
  · intro h scenario hs name hn
    exact h name (mem_nameSet.2 (List.mem_filterMap.2 ⟨scenario, hs, hn⟩))
  · intro h name hn
    obtain ⟨scenario, hs, hn⟩ := List.mem_filterMap.1 (mem_nameSet.1 hn)
    exact h scenario hs name hn

theorem codecListsAgree_both_directions : CodecListsAgree
    (excerpt [⟨some "OneChanMono_16_1", some "OneChanMono_16_1", some "BcastStereo_16_2"⟩]) := by
  refine (codecListsAgree_iff (by decide)).2 ?_
  decide

/-- The codecs for decoding have one for the name `invalid`. -/
theorem codecLists_encode_only :
    loads (some (excerpt [encodeOnly])) = true ∧ ¬ CodecListsAgree (excerpt [encodeOnly]) := by
  have hl : loads (some (excerpt [encodeOnly])) = true := by decide
  refine ⟨hl, fun h => ?_⟩
  have hinvalid := (codecListsAgree_iff_names hl).1 h
    (.leAudioHardwareOffloadDecoding, Scenario.decode) (by simp [codecPaths]) "invalid" (by decide)
  revert hinvalid
  decide

end

end TrebleDoze.Bluetooth
