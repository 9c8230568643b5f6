import TrebleDoze.Bluetooth.HidlBridge

/-!
# LE Audio configurations from AIDL to HIDL

The conversion of `HidlToAidlMiddleware.cpp` for the configurations of HIDL 2.1. A `LOG(FATAL)` ends the
process, and so does `get` of a union on a member that it does not hold.

* `carried_iff`: when a converted LC3 configuration is the same one;
* `toHidlLeaudioConfig21_lc3`: a unicast configuration with LC3 ends the process;
* `toHidlAudioConfig21_iff`: when a configuration for LE Audio is converted as it should be.
-/

namespace TrebleDoze.Bluetooth

/-! ### The configurations of AIDL -/

/-- `PcmConfiguration`. -/
structure PcmConfiguration where
  sampleRateHz : ℤ
  channelMode : ChannelMode
  bitsPerSample : ℤ
  dataIntervalUs : ℤ
  deriving DecidableEq, Repr

/-- `Lc3Configuration`. -/
structure Lc3Configuration where
  pcmBitDepth : ℤ
  samplingFrequencyHz : ℤ
  frameDurationUs : ℤ
  octetsPerFrame : ℤ
  blocksPerSdu : ℤ
  deriving DecidableEq, Repr

/-- `LeAudioCodecConfiguration`; the members beside LC3 are not read here. -/
inductive LeAudioCodecConfiguration where
  | lc3Config (data : Lc3Configuration)
  | other
  deriving DecidableEq, Repr

/-- `LeAudioConfiguration::StreamMap`. -/
structure LeAudioStreamMap where
  audioChannelAllocation : BitVec 32
  deriving DecidableEq, Repr

/-- `LeAudioConfiguration`. -/
structure LeAudioConfiguration where
  streamMap : List LeAudioStreamMap
  leAudioCodecConfig : LeAudioCodecConfiguration
  deriving DecidableEq, Repr

/-- `LeAudioBroadcastConfiguration::BroadcastStreamMap`. -/
structure BroadcastStreamMap where
  audioChannelAllocation : BitVec 32
  leAudioCodecConfig : LeAudioCodecConfiguration
  deriving DecidableEq, Repr

/-- `LeAudioBroadcastConfiguration`. -/
structure LeAudioBroadcastConfiguration where
  streamMap : List BroadcastStreamMap
  deriving DecidableEq, Repr

namespace Hidl

/-- The members of `AudioConfiguration`, those apart of which the conversion reads the tag only. -/
def Payload : Tag → Type
  | .pcmConfig => PcmConfiguration
  | .a2dpConfig => AudioCodecs.CodecConfiguration
  | .leAudioConfig => LeAudioConfiguration
  | .leAudioBroadcastConfig => LeAudioBroadcastConfiguration
  | .hfpConfig | .a2dp => Unit

/-! ### The configurations of HIDL 2.1 -/

/-- `Lc3FrameDuration`. -/
inductive Lc3FrameDuration where
  | duration10000us | duration7500us
  deriving DecidableEq, Repr

/-- The values of the enumerators of 2.1, of which no two durations share one. -/
structure Values21 extends Values where
  lc3FrameDuration : Lc3FrameDuration → BitVec 32
  lc3FrameDuration_injective : Function.Injective lc3FrameDuration

/-- `PcmParameters`. -/
structure PcmParameters where
  sampleRate : BitVec 32
  channelMode : BitVec 32
  bitsPerSample : BitVec 32
  dataIntervalUs : ℕ
  deriving DecidableEq, Repr

/-- `Lc3Parameters`. -/
structure Lc3Parameters where
  pcmBitDepth : BitVec 32
  samplingFrequency : BitVec 32
  frameDuration : BitVec 32
  octetsPerFrame : ℕ
  blocksPerSdu : ℕ
  deriving DecidableEq, Repr

/-- `Lc3CodecConfiguration`. -/
structure Lc3CodecConfiguration where
  lc3Config : Lc3Parameters
  audioChannelAllocation : BitVec 32
  deriving DecidableEq, Repr

/-- `AudioConfiguration` of 2.1. -/
inductive AudioConfiguration21 where
  | pcmConfig (data : PcmParameters)
  | codecConfig (data : CodecConfiguration)
  | leAudioCodecConfig (data : Lc3CodecConfiguration)
  deriving DecidableEq, Repr

/-- What a structure of 2.1 holds before its fields are set, and what a union is made with. -/
structure Uninitialized21 extends Uninitialized where
  frameDuration : BitVec 32
  audioConfig : AudioConfiguration21

/-- What ends the process: `LOG(FATAL)`, or `get` of a member that the union does not hold. -/
inductive Abort where
  | fatal | wrongTag
  deriving DecidableEq, Repr

/-! ### The conversion -/

/-- `getTag() == LeAudioCodecConfiguration::lc3Config`. -/
def isLc3Config : LeAudioCodecConfiguration → Bool
  | .lc3Config _ => true
  | .other => false

/-- `get<LeAudioCodecConfiguration::lc3Config>()`. -/
def getLc3Config : LeAudioCodecConfiguration → Except Abort Lc3Configuration
  | .lc3Config data => .ok data
  | .other => .error .wrongTag

section

variable (V : Values21) (old : Uninitialized21)

/-- `to_hidl_sample_rate_2_1`. -/
def toHidlSampleRate21 (sampleRateHz : ℤ) : BitVec 32 :=
  V.sampleRate ((sampleRateToHidl21Map.lookup sampleRateHz).getD .unknown)

/-- `to_hidl_pcm_config_2_1`. -/
def toHidlPcmConfig21 (pcmConfig : PcmConfiguration) : PcmParameters where
  sampleRate := toHidlSampleRate21 V pcmConfig.sampleRateHz
  channelMode := toHidlChannelMode V.toValues pcmConfig.channelMode
  bitsPerSample := toHidlBitsPerSample V.toValues pcmConfig.bitsPerSample
  dataIntervalUs := toUint32 pcmConfig.dataIntervalUs

/-- `to_hidl_lc3_config_2_1`: the frame duration is set from the sampling frequency, and not set when
that is neither 10000 nor 7500. -/
def toHidlLc3Config21 (lc3Config : Lc3Configuration) : Lc3Parameters where
  pcmBitDepth := toHidlBitsPerSample V.toValues lc3Config.pcmBitDepth
  samplingFrequency := toHidlSampleRate21 V lc3Config.samplingFrequencyHz
  frameDuration :=
    if lc3Config.samplingFrequencyHz = 10000 then V.lc3FrameDuration .duration10000us
    else if lc3Config.samplingFrequencyHz = 7500 then V.lc3FrameDuration .duration7500us
    else old.frameDuration
  octetsPerFrame := toUint32 lc3Config.octetsPerFrame
  blocksPerSdu := toUint32 lc3Config.blocksPerSdu

/-- `to_hidl_leaudio_config_2_1`. -/
def toHidlLeaudioConfig21 (unicastConfig : LeAudioConfiguration) :
    Except Abort Lc3CodecConfiguration := do
  if isLc3Config unicastConfig.leAudioCodecConfig then throw .fatal
  let leCodecConfig ← getLc3Config unicastConfig.leAudioCodecConfig
  pure ⟨toHidlLc3Config21 V old leCodecConfig,
    unicastConfig.streamMap.foldl (fun allocation map => allocation ||| map.audioChannelAllocation) 0⟩

/-- `to_hidl_leaudio_broadcast_config_2_1`; the fields that the initializer of the result does not name
are zero. -/
def toHidlLeaudioBroadcastConfig21 (broadcastConfig : LeAudioBroadcastConfiguration) :
    Except Abort Lc3CodecConfiguration :=
  match broadcastConfig.streamMap with
  | [] => pure ⟨⟨0, 0, 0, 0, 0⟩, 0⟩
  | first :: rest => do
    if !isLc3Config first.leAudioCodecConfig then throw .fatal
    let leCodecConfig ← getLc3Config first.leAudioCodecConfig
    pure ⟨toHidlLc3Config21 V old leCodecConfig,
      (first :: rest).foldl (fun allocation map => allocation ||| map.audioChannelAllocation) 0⟩

/-- `to_hidl_audio_config_2_1`. -/
def toHidlAudioConfig21 : AudioConfiguration Payload → Except Abort AudioConfiguration21
  | ⟨.pcmConfig, value⟩ => pure (.pcmConfig (toHidlPcmConfig21 V value))
  | ⟨.a2dpConfig, value⟩ =>
    pure (.codecConfig (toHidlCodecConfig20 V.toValues old.toUninitialized value))
  | ⟨.a2dp, _⟩ => pure old.audioConfig
  | ⟨.leAudioConfig, value⟩ => .leAudioCodecConfig <$> toHidlLeaudioConfig21 V old value
  | ⟨.leAudioBroadcastConfig, value⟩ =>
    .leAudioCodecConfig <$> toHidlLeaudioBroadcastConfig21 V old value
  | ⟨.hfpConfig, _⟩ => throw .fatal

end

/-! ### The same configuration -/

/-- The frequency of a sample rate of HIDL. -/
def SampleRate.hz : SampleRate → Option ℤ
  | unknown => none
  | rate44100 => some 44100
  | rate48000 => some 48000
  | rate88200 => some 88200
  | rate96000 => some 96000
  | rate176400 => some 176400
  | rate192000 => some 192000
  | rate16000 => some 16000
  | rate24000 => some 24000
  | rate8000 => some 8000
  | rate32000 => some 32000

/-- The number of bits of a sample of HIDL. -/
def BitsPerSample.bits : BitsPerSample → Option ℤ
  | unknown => none
  | bits16 => some 16
  | bits24 => some 24
  | bits32 => some 32

/-- The length of a frame. -/
def Lc3FrameDuration.us : Lc3FrameDuration → ℤ
  | duration10000us => 10000
  | duration7500us => 7500

/-- The LC3 configuration of HIDL is the one of AIDL, with the channels of all streams; a sampling
frequency that HIDL does not have is left open. -/
structure Carried (V : Values21) (lc3Config : Lc3Configuration) (allocations : List (BitVec 32))
    (hidl : Lc3CodecConfiguration) : Prop where
  samplingFrequency : ∀ rate : SampleRate, rate.hz = some lc3Config.samplingFrequencyHz →
    hidl.lc3Config.samplingFrequency = V.sampleRate rate
  frameDuration : ∃ duration : Lc3FrameDuration, duration.us = lc3Config.frameDurationUs ∧
    hidl.lc3Config.frameDuration = V.lc3FrameDuration duration
  octetsPerFrame : (hidl.lc3Config.octetsPerFrame : ℤ) = lc3Config.octetsPerFrame
  blocksPerSdu : (hidl.lc3Config.blocksPerSdu : ℤ) = lc3Config.blocksPerSdu
  pcmBitDepth : ∃ depth : BitsPerSample, depth.bits = some lc3Config.pcmBitDepth ∧
    hidl.lc3Config.pcmBitDepth = V.bitsPerSample depth
  audioChannelAllocation : hidl.audioChannelAllocation = orAll allocations

/-- The numbers of the configuration have a counterpart in HIDL. -/
structure FitsHidl (lc3Config : Lc3Configuration) : Prop where
  octetsPerFrame : 0 ≤ lc3Config.octetsPerFrame ∧ lc3Config.octetsPerFrame < 2 ^ 32
  blocksPerSdu : 0 ≤ lc3Config.blocksPerSdu ∧ lc3Config.blocksPerSdu < 2 ^ 32
  pcmBitDepth : lc3Config.pcmBitDepth ∈ [16, 24, 32]

/-- The frame duration comes out right: the sampling frequency is the same number, or the field is not
set and the value that it holds is the one of the duration. -/
def DurationMet (V : Values21) (held : BitVec 32) (lc3Config : Lc3Configuration) : Prop :=
  lc3Config.samplingFrequencyHz = 10000 ∧ lc3Config.frameDurationUs = 10000 ∨
    lc3Config.samplingFrequencyHz = 7500 ∧ lc3Config.frameDurationUs = 7500 ∨
    lc3Config.samplingFrequencyHz ≠ 10000 ∧ lc3Config.samplingFrequencyHz ≠ 7500 ∧
      ∃ duration : Lc3FrameDuration, duration.us = lc3Config.frameDurationUs ∧
        held = V.lc3FrameDuration duration

/-! ### The fields -/

theorem lookup_hz {rate : SampleRate} {hz : ℤ} (h : rate.hz = some hz) :
    sampleRateToHidl21Map.lookup hz = some rate := by
  cases rate with
  | unknown => cases h
  | _ =>
    obtain rfl := Option.some.inj h
    rfl

theorem toUint32_eq_iff {x : ℤ} : (toUint32 x : ℤ) = x ↔ 0 ≤ x ∧ x < 2 ^ 32 := by
  unfold toUint32
  omega

theorem foldl_or_eq {σ : Type} (allocation : σ → BitVec 32) (streams : List σ) (acc : BitVec 32) :
    streams.foldl (fun all stream => all ||| allocation stream) acc =
      acc ||| orAll (streams.map allocation) := by
  induction streams generalizing acc with
  | nil => exact BitVec.or_zero.symm
  | cons stream streams ih =>
    rw [List.foldl_cons, ih, BitVec.or_assoc]
    rfl

theorem foldl_or_zero {σ : Type} (allocation : σ → BitVec 32) (streams : List σ) :
    streams.foldl (fun all stream => all ||| allocation stream) 0 = orAll (streams.map allocation) :=
  (foldl_or_eq allocation streams 0).trans BitVec.zero_or

section

variable {V : Values21} {old : Uninitialized21} {lc3Config : Lc3Configuration}

theorem exists_bits_iff : (∃ depth : BitsPerSample, depth.bits = some lc3Config.pcmBitDepth ∧
      toHidlBitsPerSample V.toValues lc3Config.pcmBitDepth = V.bitsPerSample depth) ↔
    lc3Config.pcmBitDepth ∈ [16, 24, 32] := by
  simp only [List.mem_cons, List.not_mem_nil, or_false]
  constructor
  · rintro ⟨depth, hbits, -⟩
    cases depth with
    | unknown => cases hbits
    | bits16 => exact .inl (Option.some.inj hbits).symm
    | bits24 => exact .inr (.inl (Option.some.inj hbits).symm)
    | bits32 => exact .inr (.inr (Option.some.inj hbits).symm)
  · rintro (h | h | h) <;> rw [h]
    · exact ⟨.bits16, rfl, rfl⟩
    · exact ⟨.bits24, rfl, rfl⟩
    · exact ⟨.bits32, rfl, rfl⟩

theorem exists_us_iff {duration : Lc3FrameDuration} {us : ℤ} :
    (∃ d : Lc3FrameDuration, d.us = us ∧ V.lc3FrameDuration duration = V.lc3FrameDuration d) ↔
      us = duration.us := by
  constructor
  · rintro ⟨d, rfl, hd⟩
    rw [V.lc3FrameDuration_injective hd]
  · rintro rfl
    exact ⟨duration, rfl, rfl⟩

theorem exists_duration_iff : (∃ duration : Lc3FrameDuration, duration.us = lc3Config.frameDurationUs ∧
      (toHidlLc3Config21 V old lc3Config).frameDuration = V.lc3FrameDuration duration) ↔
    DurationMet V old.frameDuration lc3Config := by
  unfold DurationMet
  simp only [toHidlLc3Config21]
  by_cases h10 : lc3Config.samplingFrequencyHz = 10000
  · rw [if_pos h10, exists_us_iff]
    simp [h10, Lc3FrameDuration.us]
  rw [if_neg h10]
  by_cases h75 : lc3Config.samplingFrequencyHz = 7500
  · rw [if_pos h75, exists_us_iff]
    simp [h75, Lc3FrameDuration.us]
  · rw [if_neg h75]
    simp [h10, h75]

/-- **When a converted LC3 configuration is the same one**. -/
theorem carried_iff {allocations : List (BitVec 32)} :
    Carried V lc3Config allocations ⟨toHidlLc3Config21 V old lc3Config, orAll allocations⟩ ↔
      DurationMet V old.frameDuration lc3Config ∧ FitsHidl lc3Config := by
  constructor
  · intro h
    exact ⟨exists_duration_iff.1 h.frameDuration, toUint32_eq_iff.1 h.octetsPerFrame,
      toUint32_eq_iff.1 h.blocksPerSdu, exists_bits_iff.1 h.pcmBitDepth⟩
  · rintro ⟨hduration, hfits⟩
    refine ⟨fun rate hrate => ?_, exists_duration_iff.2 hduration, toUint32_eq_iff.2 hfits.octetsPerFrame,
      toUint32_eq_iff.2 hfits.blocksPerSdu, exists_bits_iff.2 hfits.pcmBitDepth, rfl⟩
    show toHidlSampleRate21 V lc3Config.samplingFrequencyHz = _
    rw [toHidlSampleRate21, lookup_hz hrate, Option.getD_some]

/-! ### The two conversions -/

/-- The test of a unicast configuration is the wrong way round. -/
theorem toHidlLeaudioConfig21_lc3 (streamMap : List LeAudioStreamMap) :
    toHidlLeaudioConfig21 V old ⟨streamMap, .lc3Config lc3Config⟩ = .error .fatal := rfl

theorem toHidlLeaudioConfig21_other (streamMap : List LeAudioStreamMap) :
    toHidlLeaudioConfig21 V old ⟨streamMap, .other⟩ = .error .wrongTag := rfl

theorem toHidlLeaudioBroadcastConfig21_lc3 {first : BroadcastStreamMap} {rest : List BroadcastStreamMap}
    (h : first.leAudioCodecConfig = .lc3Config lc3Config) :
    toHidlLeaudioBroadcastConfig21 V old ⟨first :: rest⟩ = .ok ⟨toHidlLc3Config21 V old lc3Config,
      orAll ((first :: rest).map (·.audioChannelAllocation))⟩ := by
  rw [← foldl_or_zero]
  obtain ⟨allocation, codec⟩ := first
  obtain rfl : codec = .lc3Config lc3Config := h
  rfl

theorem toHidlLeaudioBroadcastConfig21_other {first : BroadcastStreamMap}
    {rest : List BroadcastStreamMap} (h : first.leAudioCodecConfig = .other) :
    toHidlLeaudioBroadcastConfig21 V old ⟨first :: rest⟩ = .error .fatal := by
  obtain ⟨allocation, codec⟩ := first
  obtain rfl : codec = .other := h
  rfl

end

/-! ### The conversion of a configuration -/

/-- The codec of a configuration for LE Audio and the channels of its streams; a broadcast has the codec
of its first stream, and none without a stream. -/
def leAudioCodec : AudioConfiguration Payload → Option (LeAudioCodecConfiguration × List (BitVec 32))
  | ⟨.leAudioConfig, value⟩ =>
    some (value.leAudioCodecConfig, value.streamMap.map (·.audioChannelAllocation))
  | ⟨.leAudioBroadcastConfig, value⟩ => value.streamMap.head?.map fun first =>
    (first.leAudioCodecConfig, value.streamMap.map (·.audioChannelAllocation))
  | _ => none

/-- The codec is converted as it should be: LC3 to the same configuration, and every other one is
rejected. -/
def ConvertsCodec (V : Values21) (allocations : List (BitVec 32))
    (result : Except Abort AudioConfiguration21) : LeAudioCodecConfiguration → Prop
  | .lc3Config lc3Config =>
    ∃ hidl, result = .ok (.leAudioCodecConfig hidl) ∧ Carried V lc3Config allocations hidl
  | .other => ∃ abort, result = .error abort

/-- A configuration for LE Audio is converted as its codec should be. -/
def ConvertsLeAudio (V : Values21) (config : AudioConfiguration Payload)
    (result : Except Abort AudioConfiguration21) : Prop :=
  ∀ codec allocations, leAudioCodec config = some (codec, allocations) →
    ConvertsCodec V allocations result codec

/-- The configurations that have a codec: those for unicast, and those for a broadcast with a stream. -/
theorem leAudioCodec_eq_some {config : AudioConfiguration Payload} {codec : LeAudioCodecConfiguration}
    {allocations : List (BitVec 32)} (h : leAudioCodec config = some (codec, allocations)) :
    (∃ streamMap, config = ⟨.leAudioConfig, LeAudioConfiguration.mk streamMap codec⟩) ∨
      ∃ first rest, config = ⟨.leAudioBroadcastConfig, LeAudioBroadcastConfiguration.mk (first :: rest)⟩ ∧
        first.leAudioCodecConfig = codec ∧
        allocations = (first :: rest).map (·.audioChannelAllocation) := by
  obtain ⟨tag, value⟩ := config
  cases tag with
  | leAudioConfig =>
    obtain ⟨streamMap, codec⟩ := value
    cases h
    exact .inl ⟨streamMap, rfl⟩
  | leAudioBroadcastConfig =>
    obtain ⟨streamMap⟩ := value
    cases streamMap with
    | nil => cases h
    | cons first rest =>
      cases h
      exact .inr ⟨first, rest, rfl, rfl, rfl⟩
  | _ => cases h

section

variable (V : Values21) (old : Uninitialized21) {config : AudioConfiguration Payload}
  {allocations : List (BitVec 32)}

theorem toHidlAudioConfig21_lc3 {lc3Config : Lc3Configuration}
    (h : leAudioCodec config = some (.lc3Config lc3Config, allocations)) :
    config.tag = .leAudioConfig ∧ toHidlAudioConfig21 V old config = .error .fatal ∨
      config.tag = .leAudioBroadcastConfig ∧ toHidlAudioConfig21 V old config =
        .ok (.leAudioCodecConfig ⟨toHidlLc3Config21 V old lc3Config, orAll allocations⟩) := by
  rcases leAudioCodec_eq_some h with ⟨streamMap, rfl⟩ | ⟨first, rest, rfl, hcodec, rfl⟩
  · exact .inl ⟨rfl, congrArg (AudioConfiguration21.leAudioCodecConfig <$> ·)
      (toHidlLeaudioConfig21_lc3 streamMap)⟩
  · have hrun : toHidlLeaudioBroadcastConfig21 V old ⟨first :: rest⟩ = _ :=
      toHidlLeaudioBroadcastConfig21_lc3 hcodec
    exact .inr ⟨rfl, congrArg (AudioConfiguration21.leAudioCodecConfig <$> ·) hrun⟩

theorem toHidlAudioConfig21_other (h : leAudioCodec config = some (.other, allocations)) :
    ∃ abort, toHidlAudioConfig21 V old config = .error abort := by
  rcases leAudioCodec_eq_some h with ⟨streamMap, rfl⟩ | ⟨first, rest, rfl, hcodec, rfl⟩
  · exact ⟨.wrongTag, congrArg (AudioConfiguration21.leAudioCodecConfig <$> ·)
      (toHidlLeaudioConfig21_other streamMap)⟩
  · have hrun : toHidlLeaudioBroadcastConfig21 V old ⟨first :: rest⟩ = _ :=
      toHidlLeaudioBroadcastConfig21_other hcodec
    exact ⟨.fatal, congrArg (AudioConfiguration21.leAudioCodecConfig <$> ·) hrun⟩

end

/-- **When a configuration for LE Audio is converted as it should be**: one with LC3 is iff it is for a
broadcast, the frame duration comes out right, and its numbers have a counterpart. -/
theorem toHidlAudioConfig21_iff (V : Values21) (old : Uninitialized21)
    (config : AudioConfiguration Payload) :
    ConvertsLeAudio V config (toHidlAudioConfig21 V old config) ↔
      ∀ lc3Config allocations, leAudioCodec config = some (.lc3Config lc3Config, allocations) →
        config.tag = .leAudioBroadcastConfig ∧ DurationMet V old.frameDuration lc3Config ∧
          FitsHidl lc3Config := by
  constructor
  · intro h lc3Config allocations hcodec
    obtain ⟨hidl, hresult, hcarried⟩ := h _ _ hcodec
    rcases toHidlAudioConfig21_lc3 V old hcodec with ⟨-, hrun⟩ | ⟨htag, hrun⟩
    · rw [hrun] at hresult
      cases hresult
    · rw [hrun] at hresult
      cases hresult
      exact ⟨htag, carried_iff.1 hcarried⟩
  · intro h codec allocations hcodec
    cases codec with
    | lc3Config lc3Config =>
      obtain ⟨htag, hcarried⟩ := h _ _ hcodec
      rcases toHidlAudioConfig21_lc3 V old hcodec with ⟨hunicast, -⟩ | ⟨-, hrun⟩
      · rw [htag] at hunicast
        cases hunicast
      · exact ⟨_, hrun, carried_iff.2 hcarried⟩
    | other => exact toHidlAudioConfig21_other V old hcodec

/-- The values of the interface. -/
def values21 : Values21 where
  toValues := values20
  lc3FrameDuration
    | .duration10000us => 0x00 | .duration7500us => 0x01
  lc3FrameDuration_injective d d' h := by
    cases d <;> cases d' <;> first | rfl | exact absurd h (by decide)

/-- LC3 at 48 kHz with frames of 10 ms, for one stream on the left. -/
def lc3Left : LeAudioConfiguration where
  streamMap := [⟨1⟩]
  leAudioCodecConfig := .lc3Config ⟨16, 48000, 10000, 100, 1⟩

theorem toHidlAudioConfig21_lc3Left : ¬ ∀ (V : Values21) (old : Uninitialized21)
    (config : AudioConfiguration Payload), ConvertsLeAudio V config (toHidlAudioConfig21 V old config) := by
  intro h
  obtain ⟨hidl, hresult, -⟩ := h values21 ⟨⟨⟨0, 0, 0, 0, 0, 0, 0, 0⟩, ⟨0, 0, 0, .disabled, 0⟩, ⟨0, 0, 0, 0⟩,
    .aptxConfig ⟨0, 0, 0⟩⟩, 0, .pcmConfig ⟨0, 0, 0, 0⟩⟩ ⟨.leAudioConfig, lc3Left⟩
    (.lc3Config ⟨16, 48000, 10000, 100, 1⟩) [1] rfl
  cases hresult

end Hidl

end TrebleDoze.Bluetooth
