import TrebleDoze.Bluetooth.LeAudioBroadcast
import TrebleDoze.Bluetooth.LeAudioSetting

/-!
# `getBroadcastSettings`

The broadcast settings that are made of the codec infos, through tables to which a lookup may add.

* `Carries`: what it is for a setting to carry the values of its codec info;
* `getBroadcastSettings_known`: codec infos that are in the tables are carried over;
* `broadcastsCarried_iff`: when the settings carry the values of their codec infos.
-/

namespace TrebleDoze.Bluetooth

/-! ### The tables -/

/-- `operator[]` of a `std::map`: a key that is missing is added, with an initial value. -/
def lookupOrInsert {κ α : Type} [BEq κ] (map : List (κ × Option α)) (key : κ) :
    Option α × List (κ × Option α) :=
  match map.lookup key with
  | some value => (value, map)
  | none => (none, map ++ [(key, none)])

/-- `sampling_freq_map`; `none` stands for the initial value of the enumeration. -/
def samplingFreqMap : List (ℤ × Option SamplingFrequency) :=
  [(16000, some .hz16000), (48000, some .hz48000), (96000, some .hz96000)]

/-- `frame_duration_map`. -/
def frameDurationMap : List (ℤ × Option FrameDuration) :=
  [(7500, some .us7500), (10000, some .us10000)]

/-- The LTVs of a broadcast, whose enumerations may have their initial values. -/
inductive BroadcastLtv where
  | samplingFrequency (value : Option SamplingFrequency)
  | octetsPerCodecFrame (value : ℤ)
  | frameDuration (value : Option FrameDuration)
  | audioChannelAllocation (bitmask : UInt32)
  deriving DecidableEq, Repr

/-- A setting that is made of a codec info; `none` stands for the initial value of its id. -/
abbrev LoadedBroadcastSetting := LeAudioBroadcastConfigurationSetting (Option CodecId) BroadcastLtv

/-- The two tables, and the settings that are loaded. -/
structure BroadcastSettings where
  samplingFreqMap : List (ℤ × Option SamplingFrequency)
  frameDurationMap : List (ℤ × Option FrameDuration)
  broadcastSettings : List LoadedBroadcastSetting
  deriving DecidableEq, Repr

namespace BroadcastSettings

/-- The state that the process starts with. -/
def initial : BroadcastSettings := ⟨Bluetooth.samplingFreqMap, Bluetooth.frameDurationMap, []⟩

end BroadcastSettings

/-- `values[0]`. -/
def firstOf {α : Type} (values : List α) : Except Fault α :=
  match values with
  | [] => .error .outOfBounds
  | value :: _ => .ok value

section

variable (frontCenter : UInt32) (initialTransport : Option LeAudioTransport)

/-- The setting with one subgroup, of one BIS with the given codec. -/
def broadcastSettingOf (id : Option CodecId) (codecConfiguration : List BroadcastLtv) :
    LoadedBroadcastSetting where
  numBis := 1
  phy := [.twoM]
  subgroupsConfigurations := [⟨[⟨1, ⟨id, codecConfiguration⟩⟩]⟩]

/-- What the loop of `getBroadcastSettings` does with a codec info of LE Audio. -/
def pushBroadcastSetting (s : BroadcastSettings) (id : Option CodecId) (transport : LeAudioTransport) :
    Except Fault BroadcastSettings := do
  let octets ← firstOf transport.bitdepth
  let samplingFrequencyHz ← firstOf transport.samplingFrequencyHz
  let (freq, samplingFreqMap) := lookupOrInsert s.samplingFreqMap samplingFrequencyHz
  let frameDurationUs ← firstOf transport.frameDurationUs
  let (duration, frameDurationMap) := lookupOrInsert s.frameDurationMap frameDurationUs
  .ok
    { samplingFreqMap := samplingFreqMap
      frameDurationMap := frameDurationMap
      broadcastSettings := s.broadcastSettings ++ [broadcastSettingOf id
        [.samplingFrequency freq, .octetsPerCodecFrame octets, .frameDuration duration,
          .audioChannelAllocation frontCenter]] }

/-- The body of the loop: the initial value of a transport may be one of LE Audio, and codec infos of other
transports are left out. -/
def broadcastStep (s : BroadcastSettings) (codecInfo : CodecInfo) : Except Fault BroadcastSettings :=
  match codecInfo.transport.or initialTransport with
  | none => .ok s
  | some transport => pushBroadcastSetting frontCenter s codecInfo.id transport

/-- `getBroadcastSettings`, for the codec infos that are loaded. -/
def getBroadcastSettings (dbCodecInfo : List CodecInfo) (s : BroadcastSettings) :
    Except Fault BroadcastSettings :=
  if !s.broadcastSettings.isEmpty then .ok s else
  dbCodecInfo.foldlM (broadcastStep frontCenter initialTransport) { s with broadcastSettings := [] }

end

/-! ### What the settings carry -/

/-- The frequency in Hz. -/
def SamplingFrequency.hz : SamplingFrequency → ℤ
  | hz8000 => 8000
  | hz11025 => 11025
  | hz16000 => 16000
  | hz22050 => 22050
  | hz24000 => 24000
  | hz32000 => 32000
  | hz44100 => 44100
  | hz48000 => 48000
  | hz88200 => 88200
  | hz96000 => 96000
  | hz176400 => 176400
  | hz192000 => 192000
  | hz384000 => 384000

/-- The duration in microseconds. -/
def FrameDuration.us : FrameDuration → ℤ
  | us7500 => 7500
  | us10000 => 10000

/-- The setting is that of one BIS, with the frequency and the frame duration of the codec info. -/
def Carries (codecInfo : CodecInfo) (setting : LoadedBroadcastSetting) : Prop :=
  ∃ transport freq duration codecConfiguration, codecInfo.transport = some transport ∧
    transport.samplingFrequencyHz.head? = some (SamplingFrequency.hz freq) ∧
    transport.frameDurationUs.head? = some (FrameDuration.us duration) ∧
    setting = broadcastSettingOf codecInfo.id codecConfiguration ∧
    (∀ value, .samplingFrequency value ∈ codecConfiguration ↔ value = some freq) ∧
    (∀ value, .frameDuration value ∈ codecConfiguration ↔ value = some duration)

/-- The tables are as before, and the settings carry, in order, the values of some of the codec infos. -/
structure BroadcastsCarried (dbCodecInfo : List CodecInfo) (s : BroadcastSettings) : Prop where
  samplingFreqMap : s.samplingFreqMap = Bluetooth.samplingFreqMap
  frameDurationMap : s.frameDurationMap = Bluetooth.frameDurationMap
  broadcastSettings : ∃ carried, carried.Sublist dbCodecInfo ∧
    List.Forall₂ Carries carried s.broadcastSettings

/-- A codec info with the transport of LE Audio, none of whose vectors is empty. -/
def CodecInfo.HasVectors (codecInfo : CodecInfo) : Prop :=
  ∃ transport, codecInfo.transport = some transport ∧ transport.samplingFrequencyHz ≠ [] ∧
    transport.frameDurationUs ≠ [] ∧ transport.bitdepth ≠ []

/-- Its frequency and its frame duration are in the tables. -/
def CodecInfo.InTables (codecInfo : CodecInfo) : Prop :=
  ∃ transport, codecInfo.transport = some transport ∧
    (∃ hz ∈ transport.samplingFrequencyHz.head?, hz = 16000 ∨ hz = 48000 ∨ hz = 96000) ∧
    ∃ us ∈ transport.frameDurationUs.head?, us = 7500 ∨ us = 10000

/-! ### The loop -/

section

variable {κ α : Type} [BEq κ] {map : List (κ × Option α)} {key : κ} {value : Option α}

theorem lookupOrInsert_of_some (h : map.lookup key = some value) :
    lookupOrInsert map key = (value, map) := by
  unfold lookupOrInsert
  rw [h]

theorem lookupOrInsert_of_none (h : map.lookup key = none) :
    lookupOrInsert map key = (none, map ++ [(key, none)]) := by
  unfold lookupOrInsert
  rw [h]

theorem length_le_lookupOrInsert (map : List (κ × Option α)) (key : κ) :
    map.length ≤ (lookupOrInsert map key).2.length := by
  cases h : map.lookup key with
  | some value => rw [lookupOrInsert_of_some h]
  | none => simp [lookupOrInsert_of_none h]

end

section

variable {frontCenter : UInt32} {initialTransport : Option LeAudioTransport}
  {dbCodecInfo : List CodecInfo} {s s' : BroadcastSettings}

theorem getBroadcastSettings_initial :
    getBroadcastSettings frontCenter initialTransport dbCodecInfo .initial =
      dbCodecInfo.foldlM (broadcastStep frontCenter initialTransport) .initial := rfl

/-- The step for a codec info with vectors looks its values up in both tables. -/
theorem broadcastStep_of_hasVectors (frontCenter : UInt32) (initialTransport : Option LeAudioTransport)
    {codecInfo : CodecInfo} (h : codecInfo.HasVectors) :
    ∃ transport hz us octets, codecInfo.transport = some transport ∧
      transport.samplingFrequencyHz.head? = some hz ∧ transport.frameDurationUs.head? = some us ∧
      ∀ s, broadcastStep frontCenter initialTransport s codecInfo = .ok
        { samplingFreqMap := (lookupOrInsert s.samplingFreqMap hz).2
          frameDurationMap := (lookupOrInsert s.frameDurationMap us).2
          broadcastSettings := s.broadcastSettings ++ [broadcastSettingOf codecInfo.id
            [.samplingFrequency (lookupOrInsert s.samplingFreqMap hz).1, .octetsPerCodecFrame octets,
              .frameDuration (lookupOrInsert s.frameDurationMap us).1,
              .audioChannelAllocation frontCenter]] } := by
  obtain ⟨transport, ht, hf, hd, hb⟩ := h
  obtain ⟨hz, freqs, hf⟩ := List.exists_cons_of_ne_nil hf
  obtain ⟨us, durations, hd⟩ := List.exists_cons_of_ne_nil hd
  obtain ⟨octets, depths, hb⟩ := List.exists_cons_of_ne_nil hb
  refine ⟨transport, hz, us, octets, ht, by rw [hf, List.head?_cons], by rw [hd, List.head?_cons],
    fun s => ?_⟩
  unfold broadcastStep
  rw [ht, Option.some_or]
  simp only [pushBroadcastSetting, hf, hd, hb, firstOf, bind, Except.bind]

theorem length_le_of_broadcastStep (hinfos : ∀ codecInfo ∈ dbCodecInfo, codecInfo.HasVectors)
    (h : dbCodecInfo.foldlM (broadcastStep frontCenter initialTransport) s = .ok s') :
    s.samplingFreqMap.length ≤ s'.samplingFreqMap.length ∧
      s.frameDurationMap.length ≤ s'.frameDurationMap.length := by
  induction dbCodecInfo generalizing s with
  | nil =>
    obtain rfl := Except.ok.inj h
    exact ⟨Nat.le_refl _, Nat.le_refl _⟩
  | cons codecInfo dbCodecInfo ih =>
    obtain ⟨_, hz, us, _, -, -, -, hstep⟩ := broadcastStep_of_hasVectors frontCenter initialTransport
      (hinfos codecInfo List.mem_cons_self)
    rw [List.foldlM_cons, hstep] at h
    obtain ⟨hfreq, hduration⟩ := ih (fun c hc => hinfos c (List.mem_cons_of_mem _ hc)) h
    exact ⟨(length_le_lookupOrInsert _ hz).trans hfreq, (length_le_lookupOrInsert _ us).trans hduration⟩

theorem lookup_samplingFreqMap {hz : ℤ} (h : hz = 16000 ∨ hz = 48000 ∨ hz = 96000) :
    ∃ freq, samplingFreqMap.lookup hz = some (some freq) ∧ freq.hz = hz := by
  rcases h with rfl | rfl | rfl
  · exact ⟨.hz16000, rfl, rfl⟩
  · exact ⟨.hz48000, rfl, rfl⟩
  · exact ⟨.hz96000, rfl, rfl⟩

theorem lookup_frameDurationMap {us : ℤ} (h : us = 7500 ∨ us = 10000) :
    ∃ duration, frameDurationMap.lookup us = some (some duration) ∧ duration.us = us := by
  rcases h with rfl | rfl
  · exact ⟨.us7500, rfl, rfl⟩
  · exact ⟨.us10000, rfl, rfl⟩

theorem samplingFreqMap_grows {hz : ℤ} (h : ¬ (hz = 16000 ∨ hz = 48000 ∨ hz = 96000)) :
    samplingFreqMap.length < (lookupOrInsert samplingFreqMap hz).2.length := by
  have hnone : samplingFreqMap.lookup hz = none := by
    obtain ⟨h1, h2, h3⟩ : hz ≠ 16000 ∧ hz ≠ 48000 ∧ hz ≠ 96000 := by simpa only [not_or] using h
    simp only [samplingFreqMap, List.lookup_cons, beq_eq_false_iff_ne.2 h1, beq_eq_false_iff_ne.2 h2,
      beq_eq_false_iff_ne.2 h3, List.lookup_nil]
  rw [lookupOrInsert_of_none hnone, List.length_append]
  exact Nat.lt_succ_self _

theorem frameDurationMap_grows {us : ℤ} (h : ¬ (us = 7500 ∨ us = 10000)) :
    frameDurationMap.length < (lookupOrInsert frameDurationMap us).2.length := by
  have hnone : frameDurationMap.lookup us = none := by
    obtain ⟨h1, h2⟩ : us ≠ 7500 ∧ us ≠ 10000 := by simpa only [not_or] using h
    simp only [frameDurationMap, List.lookup_cons, beq_eq_false_iff_ne.2 h1, beq_eq_false_iff_ne.2 h2,
      List.lookup_nil]
  rw [lookupOrInsert_of_none hnone, List.length_append]
  exact Nat.lt_succ_self _

/-- **Codec infos that are in the tables are carried over**, and leave the tables as they are. -/
theorem getBroadcastSettings_known (frontCenter : UInt32) (initialTransport : Option LeAudioTransport)
    (hinfos : ∀ codecInfo ∈ dbCodecInfo, codecInfo.HasVectors)
    (hknown : ∀ codecInfo ∈ dbCodecInfo, codecInfo.InTables)
    (hf : s.samplingFreqMap = samplingFreqMap) (hd : s.frameDurationMap = frameDurationMap) :
    ∃ s' settings, dbCodecInfo.foldlM (broadcastStep frontCenter initialTransport) s = .ok s' ∧
      s'.samplingFreqMap = samplingFreqMap ∧ s'.frameDurationMap = frameDurationMap ∧
      s'.broadcastSettings = s.broadcastSettings ++ settings ∧
      List.Forall₂ Carries dbCodecInfo settings := by
  induction dbCodecInfo generalizing s with
  | nil => exact ⟨s, [], rfl, hf, hd, (List.append_nil _).symm, .nil⟩
  | cons codecInfo dbCodecInfo ih =>
    obtain ⟨transport, hz, us, octets, ht, hfreqs, hdurations, hstep⟩ :=
      broadcastStep_of_hasVectors frontCenter initialTransport (hinfos codecInfo List.mem_cons_self)
    obtain ⟨transport', ht', ⟨hz', hhz', hmemf⟩, us', hus', hmemd⟩ := hknown codecInfo List.mem_cons_self
    obtain rfl := Option.some.inj (ht.symm.trans ht')
    obtain rfl : hz = hz' := Option.some.inj (hfreqs.symm.trans hhz')
    obtain rfl : us = us' := Option.some.inj (hdurations.symm.trans hus')
    obtain ⟨freq, hlf, hfreq⟩ := lookup_samplingFreqMap hmemf
    obtain ⟨duration, hld, hduration⟩ := lookup_frameDurationMap hmemd
    rw [List.foldlM_cons, hstep, hf, hd, lookupOrInsert_of_some hlf, lookupOrInsert_of_some hld]
    let setting := broadcastSettingOf codecInfo.id
      [.samplingFrequency (some freq), .octetsPerCodecFrame octets, .frameDuration (some duration),
        .audioChannelAllocation frontCenter]
    obtain ⟨s', settings, hrun, hf', hd', hsettings, hcarries⟩ :=
      ih (s := ⟨samplingFreqMap, frameDurationMap, s.broadcastSettings ++ [setting]⟩)
        (fun c hc => hinfos c (List.mem_cons_of_mem _ hc))
        (fun c hc => hknown c (List.mem_cons_of_mem _ hc)) rfl rfl
    refine ⟨s', setting :: settings, hrun, hf', hd', ?_, .cons ?_ hcarries⟩
    · rw [hsettings, List.append_assoc, List.singleton_append]
    · refine ⟨transport, freq, duration, _, ht, ?_, ?_, rfl, ?_, ?_⟩
      · rw [hfreqs, hfreq]
      · rw [hdurations, hduration]
      · simp
      · simp

theorem inTables_of_unchanged (hinfos : ∀ codecInfo ∈ dbCodecInfo, codecInfo.HasVectors)
    (hf : s.samplingFreqMap = samplingFreqMap) (hd : s.frameDurationMap = frameDurationMap)
    (h : dbCodecInfo.foldlM (broadcastStep frontCenter initialTransport) s = .ok s')
    (hf' : s'.samplingFreqMap = samplingFreqMap) (hd' : s'.frameDurationMap = frameDurationMap) :
    ∀ codecInfo ∈ dbCodecInfo, codecInfo.InTables := by
  induction dbCodecInfo generalizing s with
  | nil => exact fun _ hc => absurd hc List.not_mem_nil
  | cons codecInfo dbCodecInfo ih =>
    obtain ⟨transport, hz, us, octets, ht, hfreqs, hdurations, hstep⟩ :=
      broadcastStep_of_hasVectors frontCenter initialTransport (hinfos codecInfo List.mem_cons_self)
    rw [List.foldlM_cons, hstep, hf, hd] at h
    have hrest : ∀ c ∈ dbCodecInfo, c.HasVectors := fun c hc => hinfos c (List.mem_cons_of_mem _ hc)
    obtain ⟨hlef, hled⟩ := length_le_of_broadcastStep hrest h
    rw [hf'] at hlef
    rw [hd'] at hled
    -- a table that has grown stays longer
    have hmemf : hz = 16000 ∨ hz = 48000 ∨ hz = 96000 := by
      by_contra hnot
      exact absurd hlef (Nat.not_le.2 (samplingFreqMap_grows hnot))
    have hmemd : us = 7500 ∨ us = 10000 := by
      by_contra hnot
      exact absurd hled (Nat.not_le.2 (frameDurationMap_grows hnot))
    obtain ⟨freq, hlf, -⟩ := lookup_samplingFreqMap hmemf
    obtain ⟨duration, hld, -⟩ := lookup_frameDurationMap hmemd
    rw [lookupOrInsert_of_some hlf, lookupOrInsert_of_some hld] at h
    exact List.forall_mem_cons.2
      ⟨⟨transport, ht, ⟨hz, hfreqs, hmemf⟩, us, hdurations, hmemd⟩, ih hrest rfl rfl h⟩

end

/-- **When the settings carry the values of their codec infos**: when the frequency and the frame duration
of each are in the tables. Others get an initial value, and a place in the tables. -/
theorem broadcastsCarried_iff (frontCenter : UInt32) (initialTransport : Option LeAudioTransport)
    (dbCodecInfo : List CodecInfo) (hinfos : ∀ codecInfo ∈ dbCodecInfo, codecInfo.HasVectors) :
    (∃ s, getBroadcastSettings frontCenter initialTransport dbCodecInfo .initial = .ok s ∧
      BroadcastsCarried dbCodecInfo s) ↔
    ∀ codecInfo ∈ dbCodecInfo, codecInfo.InTables := by
  rw [getBroadcastSettings_initial]
  constructor
  · rintro ⟨s, hrun, hcarried⟩
    exact inTables_of_unchanged hinfos rfl rfl hrun hcarried.samplingFreqMap hcarried.frameDurationMap
  · intro hknown
    obtain ⟨s, settings, hrun, hf, hd, hsettings, hcarries⟩ :=
      getBroadcastSettings_known (s := .initial) frontCenter initialTransport hinfos hknown rfl rfl
    refine ⟨s, hrun, hf, hd, dbCodecInfo, List.Sublist.refl _, ?_⟩
    rw [hsettings]
    exact hcarries

/-- A codec info of LC3 with a frequency. -/
def lc3At (hz : ℤ) : CodecInfo := ⟨some .lc3, "LC3", some ⟨[.stereo], [hz], [10000], [40]⟩⟩

theorem broadcastsCarried_lc3 :
    ∃ s, getBroadcastSettings 4 none [lc3At 16000, lc3At 48000] .initial = .ok s ∧
      BroadcastsCarried [lc3At 16000, lc3At 48000] s := by
  refine (broadcastsCarried_iff 4 none [lc3At 16000, lc3At 48000] ?_).2 ?_
  · simp [lc3At, CodecInfo.HasVectors]
  · simp [lc3At, CodecInfo.InTables]

/-- 24 kHz is not in the table: the setting gets an initial value, and the table a new entry. -/
theorem getBroadcastSettings_24000 :
    getBroadcastSettings 4 none [lc3At 24000] .initial = .ok
      { samplingFreqMap := samplingFreqMap ++ [(24000, none)]
        frameDurationMap := frameDurationMap
        broadcastSettings := [broadcastSettingOf (some .lc3)
          [.samplingFrequency none, .octetsPerCodecFrame 40, .frameDuration (some .us10000),
            .audioChannelAllocation 4]] } ∧
    ¬ ∃ s, getBroadcastSettings 4 none [lc3At 24000] .initial = .ok s ∧
      BroadcastsCarried [lc3At 24000] s := by
  have hrun : getBroadcastSettings 4 none [lc3At 24000] .initial = .ok
      { samplingFreqMap := samplingFreqMap ++ [(24000, none)]
        frameDurationMap := frameDurationMap
        broadcastSettings := [broadcastSettingOf (some .lc3)
          [.samplingFrequency none, .octetsPerCodecFrame 40, .frameDuration (some .us10000),
            .audioChannelAllocation 4]] } := by decide
  refine ⟨hrun, ?_⟩
  rintro ⟨s, hs, hcarried⟩
  rw [hrun] at hs
  obtain rfl := Except.ok.inj hs
  exact absurd hcarried.samplingFreqMap (by decide)

end TrebleDoze.Bluetooth
