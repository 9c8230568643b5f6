import TrebleDoze.Bluetooth.LeAudioTypes
import Mathlib.Data.List.Induction

/-!
# Matching LE Audio configurations

The predicates of `LeAudioOffloadAudioProvider` that match a configuration with the capabilities of the
peer and with the requirements of the host.

* `Satisfied`: what it is for a configuration to be within a capability;
* `Matched`: the part of it without the number of channels, which the code does not compare;
* `isCapabilitiesMatchedCodecConfiguration_iff`: the code matches just so, less the one sampling frequency
  that its table does not have.
-/

namespace TrebleDoze.Bluetooth

section

variable (K : LeAudioConstants)

/-- `freq_to_support_bitmask_map`. -/
def freqToSupportBitmaskMap : List (SamplingFrequency × UInt32) :=
  [(.hz8000, K.supportedSamplingFrequencies .hz8000),
    (.hz11025, K.supportedSamplingFrequencies .hz11025),
    (.hz16000, K.supportedSamplingFrequencies .hz16000),
    (.hz22050, K.supportedSamplingFrequencies .hz22050),
    (.hz24000, K.supportedSamplingFrequencies .hz24000),
    (.hz32000, K.supportedSamplingFrequencies .hz32000),
    (.hz48000, K.supportedSamplingFrequencies .hz48000),
    (.hz88200, K.supportedSamplingFrequencies .hz88200),
    (.hz96000, K.supportedSamplingFrequencies .hz96000),
    (.hz176400, K.supportedSamplingFrequencies .hz176400),
    (.hz192000, K.supportedSamplingFrequencies .hz192000),
    (.hz384000, K.supportedSamplingFrequencies .hz384000)]

/-- `fduration_to_support_fduration_map`. -/
def fdurationToSupportFdurationMap : List (FrameDuration × UInt32) :=
  [(.us7500, K.supportedFrameDurations .us7500), (.us10000, K.supportedFrameDurations .us10000)]

/-- `cap_to_cfg_tag_map`, for the tag of a capability. -/
def capToCfgTag : CapabilitiesLtv → ConfigurationTag
  | .supportedSamplingFrequencies _ => .samplingFrequency
  | .supportedMaxCodecFramesPerSDU _ => .codecFrameBlocksPerSDU
  | .supportedFrameDurations _ => .frameDuration
  | .supportedAudioChannelCounts _ => .audioChannelAllocation
  | .supportedOctetsPerCodecFrame _ _ => .octetsPerCodecFrame

/-- The sampling frequencies that the loader of the settings knows, by their code
(`sampling_freq_map` of `BluetoothLeAudioAseConfigurationSettingProvider.cpp`). -/
def loaderSamplingFreqMap : List (UInt8 × SamplingFrequency) :=
  [(0x01, .hz8000), (0x03, .hz16000), (0x05, .hz24000), (0x06, .hz32000), (0x07, .hz44100),
    (0x08, .hz48000)]

/-! ### Codecs -/

/-- `codec_priority_map_`. -/
abbrev CodecPriorityMap := CodecId → Option UInt32

/-- `setCodecPriority`: the priority is stored as an unsigned number. -/
def setCodecPriority (codecPriorityMap : CodecPriorityMap) (codecId : CodecId) (priority : Int32) :
    CodecPriorityMap :=
  fun id => if id = codecId then some priority.toUInt32 else codecPriorityMap id

/-- The map after some calls of `setCodecPriority`. -/
def codecPriorityMapOf (calls : List (CodecId × Int32)) : CodecPriorityMap :=
  calls.foldl (fun m call => setCodecPriority m call.1 call.2) fun _ => none

variable (codecPriorityMap : CodecPriorityMap)

/-- `isMatchedValidCodec`. -/
def isMatchedValidCodec (cfgCodec reqCodec : CodecId) : Bool :=
  if codecPriorityMap cfgCodec = some K.codecPriorityDisabled.toUInt32 then false
  else cfgCodec = reqCodec

/-! ### Capabilities -/

/-- `isCapabilitiesMatchedContext`. -/
def isCapabilitiesMatchedContext (settingContext : UInt32) (capabilities : LeAudioDeviceCapabilities) :
    Bool :=
  match capabilities.metadata with
  | none => true
  | some metadata => metadata.any fun m =>
    match m with
    | some (.preferredAudioContexts values) => settingContext &&& values ≠ 0
    | _ => false

/-- `isMatchedSamplingFreq`. -/
def isMatchedSamplingFreq (cfgFreq : SamplingFrequency) (bitmask : UInt32) : Bool :=
  match (freqToSupportBitmaskMap K).find? fun f => cfgFreq = f.1 with
  | some f => bitmask &&& f.2 ≠ 0
  | none => false

/-- `isMatchedFrameDuration`. -/
def isMatchedFrameDuration (cfgFduration : FrameDuration) (bitmask : UInt32) : Bool :=
  match (fdurationToSupportFdurationMap K).find? fun f => cfgFduration = f.1 with
  | some f => bitmask &&& f.2 ≠ 0
  | none => false

/-- `isMatchedAudioChannel`, which compares nothing. -/
def isMatchedAudioChannel (_cfgChannel _capabilityChannel : UInt32) : Bool := true

/-- `isMatchedCodecFramesPerSDU`. -/
def isMatchedCodecFramesPerSDU (cfgFrameSdu capabilityFrameSdu : ℤ) : Bool :=
  cfgFrameSdu ≤ capabilityFrameSdu

/-- `isMatchedOctetsPerCodecFrame`. -/
def isMatchedOctetsPerCodecFrame (cfgOctets min max : ℤ) : Bool :=
  cfgOctets ≥ min && cfgOctets ≤ max

/-- `cfg_tag_map`: the LTVs by their tags, a later one in place of an earlier one. -/
def cfgTagMap (codecCfg : List ConfigurationLtv) (tag : ConfigurationTag) : Option ConfigurationLtv :=
  codecCfg.reverse.find? fun cfg => cfg.tag = tag

/-- The body of the loop of `isCapabilitiesMatchedCodecConfiguration`. -/
def isMatchedCapability (codecCfg : List ConfigurationLtv) (codecCapability : CapabilitiesLtv) : Bool :=
  match cfgTagMap codecCfg (capToCfgTag codecCapability), codecCapability with
  | some (.samplingFrequency freq), .supportedSamplingFrequencies bitmask =>
    isMatchedSamplingFreq K freq bitmask
  | some (.frameDuration duration), .supportedFrameDurations bitmask =>
    isMatchedFrameDuration K duration bitmask
  | some (.audioChannelAllocation allocation), .supportedAudioChannelCounts bitmask =>
    isMatchedAudioChannel allocation bitmask
  | some (.codecFrameBlocksPerSDU value), .supportedMaxCodecFramesPerSDU max =>
    isMatchedCodecFramesPerSDU value max
  | some (.octetsPerCodecFrame value), .supportedOctetsPerCodecFrame min max =>
    isMatchedOctetsPerCodecFrame value min max
  -- there is no LTV with the tag
  | _, _ => false

/-- `isCapabilitiesMatchedCodecConfiguration`. -/
def isCapabilitiesMatchedCodecConfiguration (codecCfg : List ConfigurationLtv)
    (codecCapabilities : List CapabilitiesLtv) : Bool :=
  codecCapabilities.all (isMatchedCapability K codecCfg)

/-! ### Requirements -/

/-- `isMatchedAseConfiguration`. -/
def isMatchedAseConfiguration (settingCfg requirementCfg : LeAudioAseConfiguration) : Bool :=
  (match requirementCfg.codecId with
    | none => true
    | some reqCodec =>
      match settingCfg.codecId with
      | none => false
      | some cfgCodec => isMatchedValidCodec K codecPriorityMap cfgCodec reqCodec) &&
  settingCfg.targetLatency = requirementCfg.targetLatency &&
  requirementCfg.codecConfiguration.all fun cfg =>
    cfgTagMap settingCfg.codecConfiguration cfg.tag = some cfg

end

/-! ### Codecs that are enabled -/

section

variable {K : LeAudioConstants} {calls : List (CodecId × Int32)} {codecId : CodecId}

/-- The codec has been disabled through `setCodecPriority`: its last priority is that of disabled ones. -/
def Disabled (K : LeAudioConstants) (calls : List (CodecId × Int32)) (codecId : CodecId) : Prop :=
  (calls.reverse.find? fun call => call.1 = codecId).map Prod.snd = some K.codecPriorityDisabled

theorem codecPriorityMapOf_eq (calls : List (CodecId × Int32)) (codecId : CodecId) :
    codecPriorityMapOf calls codecId =
      (calls.reverse.find? fun call => call.1 = codecId).map fun call => call.2.toUInt32 := by
  induction calls using List.reverseRecOn with
  | nil => rfl
  | append_singleton calls call ih =>
    have hstep : codecPriorityMapOf (calls ++ [call]) =
        setCodecPriority (codecPriorityMapOf calls) call.1 call.2 := by
      unfold codecPriorityMapOf
      rw [List.foldl_append]
      rfl
    rw [hstep, List.reverse_append, List.reverse_singleton, List.singleton_append, List.find?_cons]
    unfold setCodecPriority
    by_cases h : codecId = call.1
    · simp [h]
    · rw [if_neg h, ih]
      simp [Ne.symm h]

theorem disabled_iff :
    codecPriorityMapOf calls codecId = some K.codecPriorityDisabled.toUInt32 ↔ Disabled K calls codecId := by
  rw [codecPriorityMapOf_eq]
  unfold Disabled
  cases calls.reverse.find? fun call => call.1 = codecId with
  | none => simp
  | some call =>
    have hinj : ∀ a b : Int32, a.toUInt32 = b.toUInt32 → a = b := by
      rintro ⟨a⟩ ⟨b⟩ h
      exact congrArg Int32.ofUInt32 h
    simp only [Option.map_some, Option.some.injEq]
    exact ⟨hinj _ _, congrArg Int32.toUInt32⟩

theorem isMatchedValidCodec_iff {reqCodec : CodecId} :
    isMatchedValidCodec K (codecPriorityMapOf calls) codecId reqCodec = true ↔
      codecId = reqCodec ∧ ¬ Disabled K calls reqCodec := by
  unfold isMatchedValidCodec
  by_cases h : Disabled K calls codecId
  · rw [if_pos (disabled_iff.2 h)]
    constructor
    · intro hf
      cases hf
    · rintro ⟨rfl, hn⟩
      exact absurd h hn
  · rw [if_neg (mt disabled_iff.1 h), decide_eq_true_iff]
    constructor
    · rintro rfl
      exact ⟨rfl, h⟩
    · exact And.left

end

/-! ### What is matched -/

section

variable (K : LeAudioConstants)

/-- The configuration has the LTV that the capability is about, and its value is one that the capability
allows; the numbers of channels are not compared. -/
def Matched (codecCfg : List ConfigurationLtv) : CapabilitiesLtv → Prop
  | .supportedSamplingFrequencies bitmask =>
    ∃ freq, cfgTagMap codecCfg .samplingFrequency = some (.samplingFrequency freq) ∧
      bitmask &&& K.supportedSamplingFrequencies freq ≠ 0
  | .supportedFrameDurations bitmask =>
    ∃ duration, cfgTagMap codecCfg .frameDuration = some (.frameDuration duration) ∧
      bitmask &&& K.supportedFrameDurations duration ≠ 0
  | .supportedAudioChannelCounts _ =>
    ∃ allocation, cfgTagMap codecCfg .audioChannelAllocation = some (.audioChannelAllocation allocation)
  | .supportedMaxCodecFramesPerSDU max =>
    ∃ value, cfgTagMap codecCfg .codecFrameBlocksPerSDU = some (.codecFrameBlocksPerSDU value) ∧
      value ≤ max
  | .supportedOctetsPerCodecFrame min max =>
    ∃ value, cfgTagMap codecCfg .octetsPerCodecFrame = some (.octetsPerCodecFrame value) ∧
      min ≤ value ∧ value ≤ max

/-- The channels of an allocation: one for each of its locations. -/
def channelCount (allocation : UInt32) : ℕ := (List.range 32).countP allocation.toNat.testBit

/-- The capability allows the number of channels of the configuration, if it is about that. -/
def CountAllowed (codecCfg : List ConfigurationLtv) : CapabilitiesLtv → Prop
  | .supportedAudioChannelCounts bitmask =>
    ∃ allocation, cfgTagMap codecCfg .audioChannelAllocation = some (.audioChannelAllocation allocation) ∧
      bitmask &&& K.supportedAudioChannelCounts (channelCount allocation) ≠ 0
  | _ => True

/-- The configuration is within the capability: it has the LTV that the capability is about, with a value
that the capability allows. -/
def Satisfied (codecCfg : List ConfigurationLtv) (cap : CapabilitiesLtv) : Prop :=
  Matched K codecCfg cap ∧ CountAllowed K codecCfg cap

/-- The capability is about the sampling frequency. -/
def CapabilitiesLtv.IsSamplingFrequencies : CapabilitiesLtv → Prop
  | supportedSamplingFrequencies _ => True
  | _ => False

/-- The configuration is one for 44.1 kHz. -/
def Is44100 (codecCfg : List ConfigurationLtv) : Prop :=
  cfgTagMap codecCfg .samplingFrequency = some (.samplingFrequency .hz44100)

instance (codecCfg : List ConfigurationLtv) : Decidable (Is44100 codecCfg) :=
  inferInstanceAs (Decidable (_ = _))

variable {K} {codecCfg : List ConfigurationLtv}

/-- The context is one that the peer prefers, or the peer does not say. -/
def ContextMatched (context : UInt32) (capabilities : LeAudioDeviceCapabilities) : Prop :=
  capabilities.metadata = none ∨ ∃ metadata, capabilities.metadata = some metadata ∧
    ∃ values, some (.preferredAudioContexts values) ∈ metadata ∧ context &&& values ≠ 0

theorem isCapabilitiesMatchedContext_iff {context : UInt32} {capabilities : LeAudioDeviceCapabilities} :
    isCapabilitiesMatchedContext context capabilities = true ↔ ContextMatched context capabilities := by
  unfold isCapabilitiesMatchedContext ContextMatched
  cases capabilities.metadata with
  | none => simp
  | some metadata =>
    simp only [List.any_eq_true, reduceCtorEq, Option.some.injEq, exists_eq_left', false_or]
    constructor
    · rintro ⟨m, hm, h⟩
      rcases m with _ | _ | _
      · cases h
      · exact ⟨_, hm, of_decide_eq_true h⟩
      · cases h
    · rintro ⟨values, hm, h⟩
      exact ⟨_, hm, decide_eq_true h⟩

theorem tag_of_cfgTagMap {tag : ConfigurationTag} {cfg : ConfigurationLtv}
    (h : cfgTagMap codecCfg tag = some cfg) : cfg.tag = tag := by
  have htag := List.find?_some h
  exact of_decide_eq_true htag

/-- The table of sampling frequencies has them all but one. -/
theorem isMatchedSamplingFreq_iff {freq : SamplingFrequency} {bitmask : UInt32} :
    isMatchedSamplingFreq K freq bitmask = true ↔
      bitmask &&& K.supportedSamplingFrequencies freq ≠ 0 ∧ freq ≠ .hz44100 := by
  cases freq <;> simp [isMatchedSamplingFreq, freqToSupportBitmaskMap]

theorem isMatchedFrameDuration_iff {duration : FrameDuration} {bitmask : UInt32} :
    isMatchedFrameDuration K duration bitmask = true ↔
      bitmask &&& K.supportedFrameDurations duration ≠ 0 := by
  cases duration <;> simp [isMatchedFrameDuration, fdurationToSupportFdurationMap]

/-- The code finds one capability matched when it is, but for the sampling frequency that the table does not
have. -/
theorem isMatchedCapability_iff {cap : CapabilitiesLtv} :
    isMatchedCapability K codecCfg cap = true ↔
      Matched K codecCfg cap ∧ ¬ (cap.IsSamplingFrequencies ∧ Is44100 codecCfg) := by
  unfold isMatchedCapability
  cases hcfg : cfgTagMap codecCfg (capToCfgTag cap) with
  | none => cases cap <;> simp_all [capToCfgTag, Matched]
  | some cfg =>
    have htag := tag_of_cfgTagMap hcfg
    -- the LTV that is found has the tag of the capability, so that their kinds agree
    cases cap with
    | supportedSamplingFrequencies bitmask =>
      cases cfg with
      | samplingFrequency freq =>
        have hget : cfgTagMap codecCfg .samplingFrequency = some (.samplingFrequency freq) := hcfg
        simp [Matched, CapabilitiesLtv.IsSamplingFrequencies, Is44100, hget, isMatchedSamplingFreq_iff]
      | _ => cases htag
    | supportedFrameDurations bitmask =>
      cases cfg with
      | frameDuration duration =>
        have hget : cfgTagMap codecCfg .frameDuration = some (.frameDuration duration) := hcfg
        simp [Matched, CapabilitiesLtv.IsSamplingFrequencies, hget, isMatchedFrameDuration_iff]
      | _ => cases htag
    | supportedAudioChannelCounts bitmask =>
      cases cfg with
      | audioChannelAllocation allocation =>
        have hget : cfgTagMap codecCfg .audioChannelAllocation =
            some (.audioChannelAllocation allocation) := hcfg
        simp [Matched, CapabilitiesLtv.IsSamplingFrequencies, hget, isMatchedAudioChannel]
      | _ => cases htag
    | supportedMaxCodecFramesPerSDU max =>
      cases cfg with
      | codecFrameBlocksPerSDU value =>
        have hget : cfgTagMap codecCfg .codecFrameBlocksPerSDU =
            some (.codecFrameBlocksPerSDU value) := hcfg
        simp [Matched, CapabilitiesLtv.IsSamplingFrequencies, hget, isMatchedCodecFramesPerSDU]
      | _ => cases htag
    | supportedOctetsPerCodecFrame min max =>
      cases cfg with
      | octetsPerCodecFrame value =>
        have hget : cfgTagMap codecCfg .octetsPerCodecFrame = some (.octetsPerCodecFrame value) := hcfg
        simp [Matched, CapabilitiesLtv.IsSamplingFrequencies, hget, isMatchedOctetsPerCodecFrame]
      | _ => cases htag

/-- **The code finds the capabilities matched** just when each of them is, and a configuration for 44.1 kHz
meets no capability about the sampling frequency. -/
theorem isCapabilitiesMatchedCodecConfiguration_iff {caps : List CapabilitiesLtv} :
    isCapabilitiesMatchedCodecConfiguration K codecCfg caps = true ↔
      (∀ cap ∈ caps, Matched K codecCfg cap) ∧
        ¬ (Is44100 codecCfg ∧ ∃ cap ∈ caps, cap.IsSamplingFrequencies) := by
  unfold isCapabilitiesMatchedCodecConfiguration
  rw [List.all_eq_true]
  simp only [isMatchedCapability_iff]
  constructor
  · intro h
    refine ⟨fun cap hcap => (h cap hcap).1, ?_⟩
    rintro ⟨h44, cap, hcap, hs⟩
    exact (h cap hcap).2 ⟨hs, h44⟩
  · rintro ⟨hm, hno⟩ cap hcap
    exact ⟨hm cap hcap, fun ⟨hs, h44⟩ => hno ⟨h44, cap, hcap, hs⟩⟩

end

end TrebleDoze.Bluetooth
