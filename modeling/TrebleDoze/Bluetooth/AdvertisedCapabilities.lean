import TrebleDoze.Bluetooth.A2dpNegotiation
import TrebleDoze.Bluetooth.LeAudioOffloadCodecs

/-!
# The capabilities that the provider factory advertises

`getProviderCapabilities` tells the stack what the sessions of a type can be configured to. The validators
that `startSession` calls do not look at what it returns: each has the lists of its codec once more.

* `CodecConfiguration.Within`, `PcmConfiguration.Within`: a configuration is one that capabilities allow;
* `isOffloadCodecConfigurationValid_iff`, `isSoftwarePcmConfigurationValid_iff`: the validators, in terms of
  the capabilities;
* `sessions_advertised`: what the sessions hold is advertised, and what is advertised for the A2DP and
  hearing aid types is accepted.
-/

namespace TrebleDoze.Bluetooth

open TrebleDoze.Lib

namespace AudioCodecs

/-! ### What is advertised -/

/-- `CodecCapabilities::Capabilities`, the members that are set. -/
inductive Capabilities where
  | sbcCapabilities (capability : SbcCapabilities)
  | aacCapabilities (capability : AacCapabilities)
  | ldacCapabilities (capability : LdacCapabilities)
  | aptxCapabilities (capability : AptxCapabilities)
  | opusCapabilities (capability : OpusCapabilities)

/-- `{}` of the union: its first member, with nothing in it. -/
def Capabilities.none : Capabilities := .sbcCapabilities
  { sampleRateHz := [], channelMode := [], blockLength := [], numSubbands := [], allocMethod := []
    bitsPerSample := [], minBitpool := 0, maxBitpool := 0 }

/-- `CodecCapabilities`. -/
structure CodecCapabilities where
  codecType : CodecType
  capabilities : Capabilities

/-- `kDefaultOffloadA2dpCodecCapabilities`. -/
def kDefaultOffloadA2dpCodecCapabilities : List CodecCapabilities :=
  [⟨.sbc, .none⟩, ⟨.aac, .none⟩, ⟨.ldac, .none⟩, ⟨.aptx, .none⟩, ⟨.aptxHd, .none⟩, ⟨.opus, .none⟩]

/-- An iteration of the loop of `GetA2dpOffloadCodecCapabilities`. -/
def fillCapabilities (codecCapability : CodecCapabilities) : CodecCapabilities :=
  match codecCapability.codecType with
  | .sbc => { codecCapability with capabilities := .sbcCapabilities kDefaultOffloadSbcCapability }
  | .aac => { codecCapability with capabilities := .aacCapabilities kDefaultOffloadAacCapability }
  | .ldac => { codecCapability with capabilities := .ldacCapabilities kDefaultOffloadLdacCapability }
  | .aptx => { codecCapability with capabilities := .aptxCapabilities kDefaultOffloadAptxCapability }
  | .aptxHd => { codecCapability with capabilities := .aptxCapabilities kDefaultOffloadAptxHdCapability }
  | .opus => { codecCapability with capabilities := .opusCapabilities kDefaultOffloadOpusCapability }
  | _ => codecCapability

/-- `GetA2dpOffloadCodecCapabilities`. -/
def getA2dpOffloadCodecCapabilities (sessionType : SessionType) : List CodecCapabilities :=
  if sessionType ≠ .a2dpHardwareOffloadEncoding ∧ sessionType ≠ .a2dpHardwareOffloadDecoding then []
  else kDefaultOffloadA2dpCodecCapabilities.map fillCapabilities

/-! ### Within what is advertised -/

/-- Every parameter is one of the values of the capability, and the bitpools are in its range. -/
@[mk_iff] structure SbcConfiguration.Within (data : SbcConfiguration) (capability : SbcCapabilities) :
    Prop where
  sampleRateHz : data.sampleRateHz ∈ capability.sampleRateHz
  blockLength : data.blockLength ∈ capability.blockLength
  numSubbands : data.numSubbands ∈ capability.numSubbands
  bitsPerSample : data.bitsPerSample ∈ capability.bitsPerSample
  channelMode : data.channelMode ∈ capability.channelMode
  allocMethod : data.allocMethod ∈ capability.allocMethod
  bitpool : data.minBitpool ≤ data.maxBitpool
  minBitpool : capability.minBitpool ≤ data.minBitpool
  maxBitpool : data.maxBitpool ≤ capability.maxBitpool

/-- Every parameter is one of the values of the capability, and the bit rate varies only if it may. -/
@[mk_iff] structure AacConfiguration.Within (data : AacConfiguration) (capability : AacCapabilities) :
    Prop where
  sampleRateHz : data.sampleRateHz ∈ capability.sampleRateHz
  bitsPerSample : data.bitsPerSample ∈ capability.bitsPerSample
  channelMode : data.channelMode ∈ capability.channelMode
  objectType : data.objectType ∈ capability.objectType
  variableBitRate : data.variableBitRateEnabled = false ∨ capability.variableBitRateSupported = true

/-- Every parameter is one of the values of the capability. -/
@[mk_iff] structure LdacConfiguration.Within (data : LdacConfiguration) (capability : LdacCapabilities) :
    Prop where
  sampleRateHz : data.sampleRateHz ∈ capability.sampleRateHz
  bitsPerSample : data.bitsPerSample ∈ capability.bitsPerSample
  channelMode : data.channelMode ∈ capability.channelMode
  qualityIndex : data.qualityIndex ∈ capability.qualityIndex

@[inherit_doc LdacConfiguration.Within, mk_iff]
structure AptxConfiguration.Within (data : AptxConfiguration) (capability : AptxCapabilities) : Prop where
  sampleRateHz : data.sampleRateHz ∈ capability.sampleRateHz
  bitsPerSample : data.bitsPerSample ∈ capability.bitsPerSample
  channelMode : data.channelMode ∈ capability.channelMode

@[inherit_doc LdacConfiguration.Within, mk_iff]
structure OpusConfiguration.Within (data : OpusConfiguration) (capability : OpusCapabilities) : Prop where
  samplingFrequencyHz : data.samplingFrequencyHz ∈ capability.samplingFrequencyHz
  frameDurationUs : data.frameDurationUs ∈ capability.frameDurationUs
  channelMode : data.channelMode ∈ capability.channelMode

/-- The configuration has the member of the capabilities, and stays within it. -/
def CodecSpecific.Within : CodecSpecific → Capabilities → Prop
  | .sbcConfig data, .sbcCapabilities capability => data.Within capability
  | .aacConfig data, .aacCapabilities capability => data.Within capability
  | .ldacConfig data, .ldacCapabilities capability => data.Within capability
  | .aptxConfig data, .aptxCapabilities capability => data.Within capability
  | .opusConfig (some data), .opusCapabilities capability => data.Within capability
  | _, _ => False

/-- The configuration is for the codec of the capabilities, and stays within them. -/
def CodecConfiguration.Within (codecConfig : CodecConfiguration) (capability : CodecCapabilities) : Prop :=
  codecConfig.codecType = capability.codecType ∧ codecConfig.config.Within capability.capabilities

/-! ### The validators and what is advertised -/

section

variable (codecSpecific : CodecSpecific)

theorem isOffloadSbcConfigurationValid_iff : isOffloadSbcConfigurationValid codecSpecific = true ↔
    codecSpecific.Within (.sbcCapabilities kDefaultOffloadSbcCapability) := by
  cases codecSpecific <;>
    simp [isOffloadSbcConfigurationValid, CodecSpecific.Within, SbcConfiguration.within_iff,
      containedInVector, and_assoc]

theorem isOffloadAacConfigurationValid_iff : isOffloadAacConfigurationValid codecSpecific = true ↔
    codecSpecific.Within (.aacCapabilities kDefaultOffloadAacCapability) := by
  cases codecSpecific <;>
    simp [isOffloadAacConfigurationValid, CodecSpecific.Within, AacConfiguration.within_iff,
      containedInVector, and_assoc]

theorem isOffloadLdacConfigurationValid_iff : isOffloadLdacConfigurationValid codecSpecific = true ↔
    codecSpecific.Within (.ldacCapabilities kDefaultOffloadLdacCapability) := by
  cases codecSpecific <;>
    simp [isOffloadLdacConfigurationValid, CodecSpecific.Within, LdacConfiguration.within_iff,
      containedInVector, and_assoc]

theorem isOffloadAptxValid_iff (capability : AptxCapabilities) :
    isOffloadAptxValid capability codecSpecific = true ↔
      codecSpecific.Within (.aptxCapabilities capability) := by
  cases codecSpecific <;>
    simp [isOffloadAptxValid, CodecSpecific.Within, AptxConfiguration.within_iff, containedInVector,
      and_assoc]

theorem isOffloadOpusConfigurationValid_iff : isOffloadOpusConfigurationValid codecSpecific = true ↔
    codecSpecific.Within (.opusCapabilities kDefaultOffloadOpusCapability) := by
  cases codecSpecific with
  | opusConfig data =>
    cases data <;>
      simp [isOffloadOpusConfigurationValid, CodecSpecific.Within, OpusConfiguration.within_iff,
        containedInVector, and_assoc]
  | sbcConfig | aacConfig | ldacConfig | aptxConfig | other =>
    simp [isOffloadOpusConfigurationValid, CodecSpecific.Within]

end

/-- **The validators accept what is advertised**, and nothing else. -/
theorem isOffloadCodecConfigurationValid_iff (t : SessionType) (codecConfig : CodecConfiguration) :
    isOffloadCodecConfigurationValid t codecConfig = true ↔
      ∃ c ∈ getA2dpOffloadCodecCapabilities t, codecConfig.Within c := by
  unfold isOffloadCodecConfigurationValid getA2dpOffloadCodecCapabilities
  by_cases ht : t ≠ .a2dpHardwareOffloadEncoding ∧ t ≠ .a2dpHardwareOffloadDecoding
  · rw [if_pos ht, if_pos ht]
    simp
  · rw [if_neg ht, if_neg ht]
    obtain ⟨codecType, encodedAudioBitrate, peerMtu, isScmstEnabled, config⟩ := codecConfig
    cases codecType <;>
      simp [kDefaultOffloadA2dpCodecCapabilities, fillCapabilities, CodecConfiguration.Within,
        isOffloadSbcConfigurationValid_iff, isOffloadAacConfigurationValid_iff,
        isOffloadLdacConfigurationValid_iff, isOffloadAptxConfigurationValid,
        isOffloadAptxHdConfigurationValid, isOffloadAptxValid_iff, isOffloadOpusConfigurationValid_iff]

end AudioCodecs

/-! ### The factory -/

/-- `PcmCapabilities`. -/
structure PcmCapabilities where
  sampleRateHz : List ℤ
  channelMode : List ChannelMode
  bitsPerSample : List ℤ
  dataIntervalUs : List ℤ

/-- `kDefaultSoftwarePcmCapabilities`. -/
def kDefaultSoftwarePcmCapabilities : PcmCapabilities where
  sampleRateHz := [8000, 16000, 24000, 32000, 44100, 48000, 88200, 96000]
  channelMode := [.mono, .stereo]
  bitsPerSample := [16, 24, 32]
  dataIntervalUs := []

/-- `AudioCapabilities`. -/
inductive AudioCapabilities where
  | pcmCapabilities (capability : PcmCapabilities)
  | a2dpCapabilities (capability : AudioCodecs.CodecCapabilities)
  | leAudioCapabilities (capability : LeAudioCodecCapabilitiesSetting)

/-- `getProviderCapabilities`. -/
def getProviderCapabilities (file : Option Setting.LeAudioOffloadSetting) (sessionType : SessionType)
    (s : LeAudioOffloadCodecs) : List AudioCapabilities × LeAudioOffloadCodecs :=
  if sessionType = .a2dpHardwareOffloadEncoding ∨ sessionType = .a2dpHardwareOffloadDecoding then
    ((AudioCodecs.getA2dpOffloadCodecCapabilities sessionType).map .a2dpCapabilities, s)
  else if sessionType = .leAudioHardwareOffloadEncoding ∨
      sessionType = .leAudioHardwareOffloadDecoding ∨
      sessionType = .leAudioBroadcastHardwareOffloadEncoding then
    let (dbCodecCapabilities, s) := s.getLeAudioOffloadCodecCapabilities file sessionType
    (dbCodecCapabilities.map .leAudioCapabilities, s)
  else if sessionType ≠ .unknown then ([.pcmCapabilities kDefaultSoftwarePcmCapabilities], s)
  else ([], s)

/-- Every parameter is one of the values of the capability; it says nothing of the data interval. -/
@[mk_iff] structure PcmConfiguration.Within (pcmConfig : PcmConfiguration) (capability : PcmCapabilities) :
    Prop where
  sampleRateHz : pcmConfig.sampleRateHz ∈ capability.sampleRateHz
  bitsPerSample : pcmConfig.bitsPerSample ∈ capability.bitsPerSample
  channelMode : pcmConfig.channelMode ∈ capability.channelMode

/-- The configuration has the member of the capabilities, and stays within it. -/
def AudioConfiguration.Within : AudioConfiguration ProviderPayload → AudioCapabilities → Prop
  | ⟨.pcmConfig, pcmConfig⟩, .pcmCapabilities capability => PcmConfiguration.Within pcmConfig capability
  | ⟨.a2dpConfig, codecConfig⟩, .a2dpCapabilities capability =>
    AudioCodecs.CodecConfiguration.Within codecConfig capability
  | _, _ => False

/-- One of the capabilities of the session type allows the configuration. -/
def Advertised (file : Option Setting.LeAudioOffloadSetting) (codecs : LeAudioOffloadCodecs)
    (t : SessionType) (cfg : AudioConfiguration ProviderPayload) : Prop :=
  ∃ c ∈ (getProviderCapabilities file t codecs).1, cfg.Within c

/-- The class of the session type asks no more of a configuration than its capabilities. -/
def SessionType.asksForCapabilities : SessionType → Bool
  | a2dpSoftwareEncoding | a2dpSoftwareDecoding | hearingAidSoftwareEncoding
  | a2dpHardwareOffloadEncoding | a2dpHardwareOffloadDecoding => true
  | _ => false

theorem isSoftwarePcmConfigurationValid_iff (pcmConfig : PcmConfiguration) :
    isSoftwarePcmConfigurationValid pcmConfig = true ↔
      pcmConfig.Within kDefaultSoftwarePcmCapabilities := by
  simp [isSoftwarePcmConfigurationValid, PcmConfiguration.within_iff, kDefaultSoftwarePcmCapabilities,
    and_assoc]

section

variable {file : Option Setting.LeAudioOffloadSetting} {codecs : LeAudioOffloadCodecs} {t : SessionType}

/-- A codec configuration is advertised when the validator takes it. -/
theorem advertised_a2dpConfig_iff (codecConfig : AudioCodecs.CodecConfiguration) :
    Advertised file codecs t ⟨.a2dpConfig, codecConfig⟩ ↔
      AudioCodecs.isOffloadCodecConfigurationValid t codecConfig = true := by
  rw [AudioCodecs.isOffloadCodecConfigurationValid_iff]
  unfold Advertised getProviderCapabilities
  by_cases ht : t = .a2dpHardwareOffloadEncoding ∨ t = .a2dpHardwareOffloadDecoding
  · rw [if_pos ht]
    simp [AudioConfiguration.Within]
  · -- the other types advertise capabilities of another kind, or none
    rw [if_neg ht, AudioCodecs.getA2dpOffloadCodecCapabilities, if_pos (not_or.1 ht)]
    split_ifs <;> simp [AudioConfiguration.Within]

/-- A PCM configuration is advertised when the validator takes it, for the types that have no list of their
own. -/
theorem advertised_pcmConfig_iff (ht : t.isSoftware = true) (pcmConfig : PcmConfiguration) :
    Advertised file codecs t ⟨.pcmConfig, pcmConfig⟩ ↔
      isSoftwarePcmConfigurationValid pcmConfig = true := by
  rw [isSoftwarePcmConfigurationValid_iff]
  cases t with
  | a2dpSoftwareEncoding | a2dpSoftwareDecoding | hearingAidSoftwareEncoding | leAudioSoftwareEncoding
  | leAudioSoftwareDecoding | leAudioBroadcastSoftwareEncoding | hfpSoftwareEncoding
  | hfpSoftwareDecoding => simp [Advertised, getProviderCapabilities, AudioConfiguration.Within]
  | _ => cases ht

theorem isSoftwarePcmConfigurationValid_of_accepts {toUint32 : ℚ → UInt32} {pcmConfig : PcmConfiguration}
    (h : softwareAccepts toUint32 t pcmConfig = true) : isSoftwarePcmConfigurationValid pcmConfig = true := by
  cases hv : isSoftwarePcmConfigurationValid pcmConfig with
  | true => rfl
  | false =>
    unfold softwareAccepts pcmQueueSize at h
    split at h <;> simp [hv] at h

theorem advertised_of_accepts {toUint32 : ℚ → UInt32} {cfg : AudioConfiguration ProviderPayload}
    (htag : cfg.tag = .pcmConfig ∨ cfg.tag = .a2dpConfig)
    (h : Provider.accepts (providerChecks toUint32) t cfg = true) : Advertised file codecs t cfg := by
  obtain ⟨tag, value⟩ := cfg
  rcases htag with rfl | rfl
  · have hsoftware : t.isSoftware = true ∧ softwareAccepts toUint32 t value = true := by
      cases t <;> first | exact ⟨rfl, h⟩ | cases h
    exact (advertised_pcmConfig_iff hsoftware.1 value).2
      (isSoftwarePcmConfigurationValid_of_accepts hsoftware.2)
  · exact (advertised_a2dpConfig_iff value).2 (by cases t <;> exact h)

theorem accepts_iff_advertised {toUint32 : ℚ → UInt32} {cfg : AudioConfiguration ProviderPayload}
    (ht : t.asksForCapabilities = true) (htag : cfg.tag = .pcmConfig ∨ cfg.tag = .a2dpConfig) :
    Provider.accepts (providerChecks toUint32) t cfg = true ↔ Advertised file codecs t cfg := by
  refine ⟨advertised_of_accepts htag, fun h => ?_⟩
  obtain ⟨tag, value⟩ := cfg
  rcases htag with rfl | rfl
  · cases t with
    | a2dpSoftwareEncoding | a2dpSoftwareDecoding | hearingAidSoftwareEncoding =>
      exact (advertised_pcmConfig_iff rfl value).1 h
    | a2dpHardwareOffloadEncoding | a2dpHardwareOffloadDecoding =>
      simp [Advertised, getProviderCapabilities, AudioConfiguration.Within] at h
    | _ => cases ht
  · have hv := (advertised_a2dpConfig_iff value).1 h
    cases t with
    | a2dpHardwareOffloadEncoding | a2dpHardwareOffloadDecoding => exact hv
    | _ => cases hv

end

/-- **The factory advertises what its sessions take**, in every state that the providers can reach, and
whatever has been loaded of the LE Audio codecs: a PCM or codec configuration of a session is one that the
capabilities of its type allow; and a provider of an A2DP or hearing aid type accepts such a configuration
just when they allow it, a start with any other leaving everything as it was. -/
theorem sessions_advertised {toUint32 : ℚ → UInt32} {s : ProviderService ProviderPayload}
    {tr : List ProviderService.Event} (h : (ProviderService.lts (providerChecks toUint32)).Reach tr s)
    (file : Option Setting.LeAudioOffloadSetting) (codecs : LeAudioOffloadCodecs) (t : SessionType) :
    (∀ cfg, (s.sessions t).audioConfig = some cfg → cfg.tag = .pcmConfig ∨ cfg.tag = .a2dpConfig →
      Advertised file codecs t cfg) ∧
      ∀ i x host cfg modes made mapped s' os, s.providers.find i = some x → x.sessionType = t →
        t.asksForCapabilities = true → cfg.tag = .pcmConfig ∨ cfg.tag = .a2dpConfig →
        s.step (providerChecks toUint32) (.startSession i (some host) cfg modes made mapped) =
            some (s', os) →
          (os = [.returned true] ↔ Advertised file codecs t cfg) ∧ (os ≠ [.returned true] → s' = s) := by
  have hi := ProviderService.serviceInv_run h
  refine ⟨fun cfg hcfg htag => advertised_of_accepts htag ((hi.sessions t).checked cfg hcfg), ?_⟩
  rintro i x host cfg modes made mapped s' os hf rfl hasks htag hs
  have hm : x.sessionType.queueMade ≠ .startSession := by
    cases hx : x.sessionType <;> rw [hx] at hasks <;> first | decide | cases hasks
  have hr := ProviderService.startSession_returned hi hf hm hs
  exact ⟨hr.1.trans (accepts_iff_advertised hasks htag), hr.2⟩

/-- The SBC configuration of a headset. -/
def headsetConfig : AudioConfiguration ProviderPayload :=
  ⟨.a2dpConfig, { codecType := .sbc, encodedAudioBitrate := 328000, peerMtu := 672
                  isScmstEnabled := false
                  config := .sbcConfig ⟨44100, .jointStereo, 16, 8, .allocMdL, 16, 2, 53⟩ }⟩

theorem sessions_advertised_headset : ∃ tr, ∃ s s' : ProviderService ProviderPayload,
    (ProviderService.lts (providerChecks truncUint32)).Reach tr s ∧
      s.step (providerChecks truncUint32) (.startSession 0 (some 1) headsetConfig [] true true) =
        some (s', [.returned true]) ∧
      Advertised none LeAudioOffloadCodecs.initial .a2dpHardwareOffloadEncoding headsetConfig := by
  obtain ⟨tr, s, h, hf⟩ := Lts.exists_run (M := ProviderService.lts (providerChecks truncUint32))
    (C := fun _ _ => True) (P := fun _ s => (s.providers.find 0).any (fun x => decide
      (x.sessionType = .a2dpHardwareOffloadEncoding)) = true) openOffload (by decide)
  obtain ⟨x, hx, ht⟩ := (Option.any_eq_true _ _).1 hf
  have ht : x.sessionType = .a2dpHardwareOffloadEncoding := of_decide_eq_true ht
  have hadvertised : Advertised none LeAudioOffloadCodecs.initial .a2dpHardwareOffloadEncoding
      headsetConfig := (advertised_a2dpConfig_iff _).2 (by decide)
  obtain ⟨⟨s', os⟩, hs⟩ : ∃ r, s.step (providerChecks truncUint32)
      (.startSession 0 (some 1) headsetConfig [] true true) = some r :=
    ⟨_, by simp only [ProviderService.step, hx, Option.map_some]; rfl⟩
  obtain rfl := ((sessions_advertised h none LeAudioOffloadCodecs.initial _).2 0 x 1 headsetConfig [] true
    true s' os hx ht rfl (.inr rfl) hs).1.2 hadvertised
  exact ⟨tr, s, s', h, hs, hadvertised⟩

end TrebleDoze.Bluetooth
