import TrebleDoze.Bluetooth.LeAudioCodecsProvider

/-!
# The LE Audio part of `BluetoothAudioCodecs`

The two caches that `BluetoothAudioCodecs` keeps in front of the provider, and the calls that answer from
them.

* `run_codecInfoMap`: the map of codecs stays empty over each sequence of calls;
* `codecInfo_eq_codecsFromFile_iff`: when a call answers with the codecs of the file.
-/

namespace TrebleDoze.Bluetooth

open Setting CodecsProviderState

/-- The session types of LE Audio offload. -/
def SessionType.isLeAudioOffload (t : SessionType) : Bool :=
  t = .leAudioHardwareOffloadEncoding || t = .leAudioHardwareOffloadDecoding ||
    t = .leAudioBroadcastHardwareOffloadEncoding

/-- The static state: the two caches, and that of the provider. -/
structure LeAudioOffloadCodecs where
  kDefaultOffloadLeAudioCapabilities : List LeAudioCodecCapabilitiesSetting
  kDefaultOffloadLeAudioCodecInfoMap : List (SessionType × List CodecInfo)
  provider : CodecsProviderState
  deriving DecidableEq, Repr

namespace LeAudioOffloadCodecs

/-- The state that the process starts with. -/
def initial : LeAudioOffloadCodecs := ⟨[], [], CodecsProviderState.initial⟩

/-- `GetLeAudioOffloadCodecCapabilities`. -/
def getLeAudioOffloadCodecCapabilities (file : Option LeAudioOffloadSetting) (sessionType : SessionType)
    (s : LeAudioOffloadCodecs) : List LeAudioCodecCapabilitiesSetting × LeAudioOffloadCodecs :=
  if !sessionType.isLeAudioOffload then ([], s) else
  let s :=
    if s.kDefaultOffloadLeAudioCapabilities.isEmpty then
      let (capabilities, provider) := getLeAudioCodecCapabilities
        (parseFromLeAudioOffloadSettingFile file s.provider) s.provider
      { s with kDefaultOffloadLeAudioCapabilities := capabilities, provider := provider }
    else s
  (s.kDefaultOffloadLeAudioCapabilities, s)

/-- `GetLeAudioOffloadCodecInfo`. -/
def getLeAudioOffloadCodecInfo (file : Option LeAudioOffloadSetting) (sessionType : SessionType)
    (s : LeAudioOffloadCodecs) : List CodecInfo × LeAudioOffloadCodecs :=
  if !sessionType.isLeAudioOffload then ([], s) else
  let s :=
    if s.kDefaultOffloadLeAudioCodecInfoMap.isEmpty then
      -- what the provider answers goes into a variable of this block with the name of the cache
      let (_, provider) := getLeAudioCodecInfo
        (parseFromLeAudioOffloadSettingFile file s.provider) s.provider
      { s with provider := provider }
    else s
  ((s.kDefaultOffloadLeAudioCodecInfoMap.lookup sessionType).getD [], s)

/-- The two calls. -/
inductive Call where
  | codecInfo (sessionType : SessionType)
  | codecCapabilities (sessionType : SessionType)
  deriving DecidableEq, Repr

/-- The state after a call. -/
def call (file : Option LeAudioOffloadSetting) (s : LeAudioOffloadCodecs) : Call → LeAudioOffloadCodecs
  | .codecInfo sessionType => (getLeAudioOffloadCodecInfo file sessionType s).2
  | .codecCapabilities sessionType => (getLeAudioOffloadCodecCapabilities file sessionType s).2

/-- The state after a sequence of calls. -/
def run (file : Option LeAudioOffloadSetting) (calls : List Call) : LeAudioOffloadCodecs :=
  calls.foldl (call file) initial

/-- What the provider computes for a session type from the file. -/
def codecsFromFile (file : Option LeAudioOffloadSetting) (sessionType : SessionType) : List CodecInfo :=
  ((getLeAudioCodecInfo (parseFromLeAudioOffloadSettingFile file CodecsProviderState.initial)
    CodecsProviderState.initial).1.lookup sessionType).getD []

/-! ### The cache of the codecs -/

section

variable {file : Option LeAudioOffloadSetting} {sessionType : SessionType} {s : LeAudioOffloadCodecs}

theorem call_codecInfoMap (c : Call) :
    (call file s c).kDefaultOffloadLeAudioCodecInfoMap = s.kDefaultOffloadLeAudioCodecInfoMap := by
  cases c with
  | codecInfo t =>
    simp only [call, getLeAudioOffloadCodecInfo]
    split_ifs <;> rfl
  | codecCapabilities t =>
    simp only [call, getLeAudioOffloadCodecCapabilities]
    split_ifs <;> rfl

/-- **The map of codecs stays empty** over each sequence of calls. -/
theorem run_codecInfoMap (file : Option LeAudioOffloadSetting) (calls : List Call) :
    (run file calls).kDefaultOffloadLeAudioCodecInfoMap = [] := by
  have hstep : ∀ (calls : List Call) (s : LeAudioOffloadCodecs),
      (calls.foldl (call file) s).kDefaultOffloadLeAudioCodecInfoMap =
        s.kDefaultOffloadLeAudioCodecInfoMap := by
    intro calls
    induction calls with
    | nil => exact fun _ => rfl
    | cons c calls ih =>
      intro s
      rw [List.foldl_cons, ih, call_codecInfoMap]
  exact hstep calls initial

theorem codecInfo_of_empty (h : s.kDefaultOffloadLeAudioCodecInfoMap = []) :
    (getLeAudioOffloadCodecInfo file sessionType s).1 = [] := by
  unfold getLeAudioOffloadCodecInfo
  by_cases ht : (!sessionType.isLeAudioOffload) = true
  · rw [if_pos ht]
  · rw [if_neg ht, h]
    rfl

/-! ### The codecs of the file -/

theorem codecsFromFile_of_not_loads (hl : loads file = false) : codecsFromFile file sessionType = [] := by
  have hnothing := (call_of_not_loads (s := CodecsProviderState.initial) hl rfl rfl .codecInfo).1
  have hcodecs : (getLeAudioCodecInfo
      (parseFromLeAudioOffloadSettingFile file CodecsProviderState.initial)
      CodecsProviderState.initial).1 = [] := CodecsProviderState.Answer.codecInfo.inj hnothing
  unfold codecsFromFile
  rw [hcodecs]
  rfl

/-- The codecs of a file that loads are those of the names that its scenarios give to the side of the
session type. -/
theorem codecsFromFile_of_loads {setting : LeAudioOffloadSetting} {path : Scenario → Option String}
    (hl : loads (some setting) = true) (hpath : (sessionType, path) ∈ codecPaths) :
    codecsFromFile (some setting) sessionType =
      (configNames (Bluetooth.loadConfigurationToMap setting) path).map
        (configCodecInfo (Bluetooth.loadConfigurationToMap setting)) := by
  have hfresh := (before_initial.codecInfo hl).1
  have hcodecs : (getLeAudioCodecInfo
      (parseFromLeAudioOffloadSettingFile (some setting) CodecsProviderState.initial)
      CodecsProviderState.initial).1 = codecsOf setting :=
    CodecsProviderState.Answer.codecInfo.inj hfresh
  unfold codecsFromFile
  rw [hcodecs]
  unfold codecPaths at hpath
  simp only [List.mem_cons, Prod.mk.injEq, List.not_mem_nil, or_false] at hpath
  rcases hpath with ⟨rfl, rfl⟩ | ⟨rfl, rfl⟩ | ⟨rfl, rfl⟩ <;> rfl

/-- There are none for a session type just when no scenario has a name for its side. -/
theorem codecsFromFile_eq_nil_iff {setting : LeAudioOffloadSetting} {path : Scenario → Option String}
    (hl : loads (some setting) = true) (hpath : (sessionType, path) ∈ codecPaths) :
    codecsFromFile (some setting) sessionType = [] ↔
      ∀ scenario ∈ (Bluetooth.loadConfigurationToMap setting).supportedScenarios,
        path scenario = none := by
  rw [codecsFromFile_of_loads hl hpath, List.map_eq_nil_iff, List.eq_nil_iff_forall_not_mem]
  constructor
  · intro h scenario hs
    by_contra hsome
    obtain ⟨name, hn⟩ := Option.ne_none_iff_exists'.1 hsome
    exact h name (mem_nameSet.2 (List.mem_filterMap.2 ⟨scenario, hs, hn⟩))
  · intro h name hname
    obtain ⟨scenario, hs, hn⟩ := List.mem_filterMap.1 (mem_nameSet.1 hname)
    rw [h scenario hs] at hn
    cases hn

/-- The scenarios of a setting that loads are those that have both directions. -/
theorem supportedScenarios_eq (setting : LeAudioOffloadSetting) :
    (Bluetooth.loadConfigurationToMap setting).supportedScenarios = getScenarios setting := by
  unfold Bluetooth.loadConfigurationToMap
  simp only
  split_ifs <;> rfl

theorem exists_scenario_of_loads {setting : LeAudioOffloadSetting} (hl : loads (some setting) = true) :
    ∃ scenario, scenario ∈ getScenarios setting := by
  rw [loads_some] at hl
  unfold Maps.loaded at hl
  rw [supportedScenarios_eq, Bool.not_eq_true', Bool.or_eq_false_iff, Bool.or_eq_false_iff,
    Bool.or_eq_false_iff] at hl
  exact List.exists_mem_of_ne_nil _ (List.isEmpty_eq_false_iff.1 hl.1.1.1)

/-- The file has no codecs for a session type just when it does not load, or the session type is that of
broadcasts and no scenario has one. -/
theorem codecsFromFile_eq_nil_iff_scenarios (file : Option LeAudioOffloadSetting)
    (ht : sessionType.isLeAudioOffload = true) :
    codecsFromFile file sessionType = [] ↔ loads file = false ∨
      (sessionType = .leAudioBroadcastHardwareOffloadEncoding ∧
        ∀ setting, file = some setting → ∀ scenario ∈ getScenarios setting, scenario.broadcast = none) := by
  cases hl : loads file with
  | false => simp only [codecsFromFile_of_not_loads hl, true_or]
  | true =>
    obtain ⟨setting, rfl⟩ : ∃ setting, file = some setting := by
      cases file with
      | none => cases hl
      | some setting => exact ⟨setting, rfl⟩
    -- both directions are named by each scenario
    have hdirection : ∀ path : Scenario → Option String,
        (∀ scenario ∈ getScenarios setting, (path scenario).isSome) →
        ¬ ∀ scenario ∈ getScenarios setting, path scenario = none := by
      intro path hsome hnone
      obtain ⟨scenario, hs⟩ := exists_scenario_of_loads hl
      have hpath := hsome scenario hs
      rw [hnone scenario hs] at hpath
      cases hpath
    have hboth : ∀ scenario ∈ getScenarios setting,
        scenario.encode.isSome ∧ scenario.decode.isSome := by
      intro scenario hs
      have hvalid := (List.mem_filter.1 hs).2
      rwa [Bool.and_eq_true] at hvalid
    simp only [Bool.true_eq_false, false_or, Option.some.injEq, forall_eq']
    unfold SessionType.isLeAudioOffload at ht
    simp only [Bool.or_eq_true, decide_eq_true_eq] at ht
    rcases ht with (rfl | rfl) | rfl
    · have hpath : (.leAudioHardwareOffloadEncoding, Scenario.encode) ∈ codecPaths := by simp [codecPaths]
      rw [codecsFromFile_eq_nil_iff hl hpath, supportedScenarios_eq]
      simp only [reduceCtorEq, false_and, iff_false]
      exact hdirection _ fun scenario hs => (hboth scenario hs).1
    · have hpath : (.leAudioHardwareOffloadDecoding, Scenario.decode) ∈ codecPaths := by simp [codecPaths]
      rw [codecsFromFile_eq_nil_iff hl hpath, supportedScenarios_eq]
      simp only [reduceCtorEq, false_and, iff_false]
      exact hdirection _ fun scenario hs => (hboth scenario hs).2
    · have hpath : (.leAudioBroadcastHardwareOffloadEncoding, Scenario.broadcast) ∈ codecPaths := by
        simp [codecPaths]
      rw [codecsFromFile_eq_nil_iff hl hpath, supportedScenarios_eq]
      simp only [true_and]

end

/-- **When a call answers with the codecs of the file**, after any calls: when the file has none. The map
in which they should be kept is never filled. -/
theorem codecInfo_eq_codecsFromFile_iff (file : Option LeAudioOffloadSetting) (sessionType : SessionType)
    (before : List Call) (ht : sessionType.isLeAudioOffload = true) :
    (getLeAudioOffloadCodecInfo file sessionType (run file before)).1 = codecsFromFile file sessionType ↔
      loads file = false ∨ (sessionType = .leAudioBroadcastHardwareOffloadEncoding ∧
        ∀ setting, file = some setting →
          ∀ scenario ∈ getScenarios setting, scenario.broadcast = none) := by
  rw [codecInfo_of_empty (run_codecInfoMap file before), eq_comm,
    codecsFromFile_eq_nil_iff_scenarios file ht]

/-- A file without broadcasts, asked for them a second time. -/
theorem codecInfo_without_broadcasts :
    (getLeAudioOffloadCodecInfo (some (excerpt [encodeOnly])) .leAudioBroadcastHardwareOffloadEncoding
      (run (some (excerpt [encodeOnly])) [.codecInfo .leAudioBroadcastHardwareOffloadEncoding])).1 =
    codecsFromFile (some (excerpt [encodeOnly])) .leAudioBroadcastHardwareOffloadEncoding := by
  refine (codecInfo_eq_codecsFromFile_iff (some (excerpt [encodeOnly]))
    .leAudioBroadcastHardwareOffloadEncoding [.codecInfo .leAudioBroadcastHardwareOffloadEncoding]
    (by decide)).2 (.inr ⟨rfl, fun setting h => ?_⟩)
  obtain rfl := Option.some.inj h
  decide

/-- The same file, asked first for the codecs of encoding: it has one, and the answer has none. -/
theorem codecInfo_first_use :
    (getLeAudioOffloadCodecInfo (some (excerpt [encodeOnly])) .leAudioHardwareOffloadEncoding initial).1 =
      [] ∧
    codecsFromFile (some (excerpt [encodeOnly])) .leAudioHardwareOffloadEncoding =
      [⟨some .lc3, "LC3", some ⟨[.mono], [16000], [7500], [30]⟩⟩] := by
  decide

end LeAudioOffloadCodecs

end TrebleDoze.Bluetooth
