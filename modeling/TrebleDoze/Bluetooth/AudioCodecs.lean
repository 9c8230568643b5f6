import TrebleDoze.Bluetooth.A2dpCodec
import TrebleDoze.Bluetooth.Types

/-!
# `BluetoothAudioCodecs`

The offload codec configurations of the AIDL interface and their validators, which look each parameter
up in the list of values that the default capability of the codec has. Of the union `CodecSpecific` the
members that no validator reads are one, `other`.
-/

namespace TrebleDoze.Bluetooth.AudioCodecs

/-! ### Configurations -/

/-- `CodecType`. -/
inductive CodecType where
  | unknown | sbc | aac | aptx | aptxHd | ldac | lc3 | vendor | aptxAdaptive | opus
  | aptxAdaptiveLe | aptxAdaptiveLex
  deriving DecidableEq, Repr

/-- `SbcChannelMode`. -/
inductive SbcChannelMode where
  | unknown | jointStereo | stereo | dual | mono
  deriving DecidableEq, Repr

/-- `SbcAllocMethod`. -/
inductive SbcAllocMethod where
  | allocMdS | allocMdL
  deriving DecidableEq, Repr

/-- `AacObjectType`. -/
inductive AacObjectType where
  | mpeg2Lc | mpeg4Lc | mpeg4Ltp | mpeg4Scalable
  deriving DecidableEq, Repr

/-- `LdacChannelMode`. -/
inductive LdacChannelMode where
  | unknown | stereo | dual | mono
  deriving DecidableEq, Repr

/-- `LdacQualityIndex`. -/
inductive LdacQualityIndex where
  | high | mid | low | abr
  deriving DecidableEq, Repr

/-- `SbcConfiguration`. -/
structure SbcConfiguration where
  sampleRateHz : ℤ
  channelMode : SbcChannelMode
  blockLength : ℤ
  numSubbands : ℤ
  allocMethod : SbcAllocMethod
  bitsPerSample : ℤ
  minBitpool : ℤ
  maxBitpool : ℤ
  deriving DecidableEq, Repr

/-- `AacConfiguration`. -/
structure AacConfiguration where
  objectType : AacObjectType
  sampleRateHz : ℤ
  channelMode : ChannelMode
  variableBitRateEnabled : Bool
  bitsPerSample : ℤ
  deriving DecidableEq, Repr

/-- `LdacConfiguration`. -/
structure LdacConfiguration where
  sampleRateHz : ℤ
  channelMode : LdacChannelMode
  qualityIndex : LdacQualityIndex
  bitsPerSample : ℤ
  deriving DecidableEq, Repr

/-- `AptxConfiguration`. -/
structure AptxConfiguration where
  sampleRateHz : ℤ
  channelMode : ChannelMode
  bitsPerSample : ℤ
  deriving DecidableEq, Repr

/-- `OpusConfiguration`. -/
structure OpusConfiguration where
  samplingFrequencyHz : ℤ
  frameDurationUs : ℤ
  channelMode : ChannelMode
  deriving DecidableEq, Repr

/-- `CodecConfiguration::CodecSpecific`. -/
inductive CodecSpecific where
  | sbcConfig (data : SbcConfiguration)
  | aacConfig (data : AacConfiguration)
  | ldacConfig (data : LdacConfiguration)
  | aptxConfig (data : AptxConfiguration)
  | opusConfig (data : Option OpusConfiguration)
  | other
  deriving DecidableEq, Repr

/-- `CodecConfiguration`. -/
structure CodecConfiguration where
  codecType : CodecType
  encodedAudioBitrate : ℤ
  peerMtu : ℤ
  isScmstEnabled : Bool
  config : CodecSpecific
  deriving DecidableEq, Repr

/-! ### Capabilities -/

/-- `SbcCapabilities`. -/
structure SbcCapabilities where
  sampleRateHz : List ℤ
  channelMode : List SbcChannelMode
  blockLength : List ℤ
  numSubbands : List ℤ
  allocMethod : List SbcAllocMethod
  bitsPerSample : List ℤ
  minBitpool : ℤ
  maxBitpool : ℤ

/-- `AacCapabilities`. -/
structure AacCapabilities where
  objectType : List AacObjectType
  sampleRateHz : List ℤ
  channelMode : List ChannelMode
  variableBitRateSupported : Bool
  bitsPerSample : List ℤ

/-- `LdacCapabilities`. -/
structure LdacCapabilities where
  sampleRateHz : List ℤ
  channelMode : List LdacChannelMode
  qualityIndex : List LdacQualityIndex
  bitsPerSample : List ℤ

/-- `AptxCapabilities`. -/
structure AptxCapabilities where
  sampleRateHz : List ℤ
  channelMode : List ChannelMode
  bitsPerSample : List ℤ

/-- `OpusCapabilities`. -/
structure OpusCapabilities where
  samplingFrequencyHz : List ℤ
  frameDurationUs : List ℤ
  channelMode : List ChannelMode

/-- `kDefaultOffloadSbcCapability`. -/
def kDefaultOffloadSbcCapability : SbcCapabilities where
  sampleRateHz := [44100]
  channelMode := [.mono, .jointStereo]
  blockLength := [4, 8, 12, 16]
  numSubbands := [8]
  allocMethod := [.allocMdL]
  bitsPerSample := [16]
  minBitpool := 2
  maxBitpool := 53

/-- `kDefaultOffloadAacCapability`. -/
def kDefaultOffloadAacCapability : AacCapabilities where
  objectType := [.mpeg2Lc]
  sampleRateHz := [44100]
  channelMode := [.stereo]
  variableBitRateSupported := true
  bitsPerSample := [16]

/-- `kDefaultOffloadLdacCapability`. -/
def kDefaultOffloadLdacCapability : LdacCapabilities where
  sampleRateHz := [44100, 48000, 88200, 96000]
  channelMode := [.dual, .stereo]
  qualityIndex := [.high]
  bitsPerSample := [16, 24, 32]

/-- `kDefaultOffloadAptxCapability`. -/
def kDefaultOffloadAptxCapability : AptxCapabilities where
  sampleRateHz := [44100, 48000]
  channelMode := [.stereo]
  bitsPerSample := [16]

/-- `kDefaultOffloadAptxHdCapability`. -/
def kDefaultOffloadAptxHdCapability : AptxCapabilities where
  sampleRateHz := [44100, 48000]
  channelMode := [.stereo]
  bitsPerSample := [24]

/-- `kDefaultOffloadOpusCapability`. -/
def kDefaultOffloadOpusCapability : OpusCapabilities where
  samplingFrequencyHz := [48000]
  frameDurationUs := [10000, 20000]
  channelMode := [.mono, .stereo]

/-! ### Validators -/

/-- `ContainedInVector`. -/
def containedInVector {α : Type} [DecidableEq α] (vector : List α) (target : α) : Bool :=
  decide (target ∈ vector)

/-- `IsOffloadSbcConfigurationValid`. -/
def isOffloadSbcConfigurationValid : CodecSpecific → Bool
  | .sbcConfig data =>
    containedInVector kDefaultOffloadSbcCapability.sampleRateHz data.sampleRateHz &&
      containedInVector kDefaultOffloadSbcCapability.blockLength data.blockLength &&
      containedInVector kDefaultOffloadSbcCapability.numSubbands data.numSubbands &&
      containedInVector kDefaultOffloadSbcCapability.bitsPerSample data.bitsPerSample &&
      containedInVector kDefaultOffloadSbcCapability.channelMode data.channelMode &&
      containedInVector kDefaultOffloadSbcCapability.allocMethod data.allocMethod &&
      data.minBitpool ≤ data.maxBitpool &&
      kDefaultOffloadSbcCapability.minBitpool ≤ data.minBitpool &&
      kDefaultOffloadSbcCapability.maxBitpool ≥ data.maxBitpool
  | _ => false

/-- `IsOffloadAacConfigurationValid`. -/
def isOffloadAacConfigurationValid : CodecSpecific → Bool
  | .aacConfig data =>
    containedInVector kDefaultOffloadAacCapability.sampleRateHz data.sampleRateHz &&
      containedInVector kDefaultOffloadAacCapability.bitsPerSample data.bitsPerSample &&
      containedInVector kDefaultOffloadAacCapability.channelMode data.channelMode &&
      containedInVector kDefaultOffloadAacCapability.objectType data.objectType &&
      (!data.variableBitRateEnabled || kDefaultOffloadAacCapability.variableBitRateSupported)
  | _ => false

/-- `IsOffloadLdacConfigurationValid`. -/
def isOffloadLdacConfigurationValid : CodecSpecific → Bool
  | .ldacConfig data =>
    containedInVector kDefaultOffloadLdacCapability.sampleRateHz data.sampleRateHz &&
      containedInVector kDefaultOffloadLdacCapability.bitsPerSample data.bitsPerSample &&
      containedInVector kDefaultOffloadLdacCapability.channelMode data.channelMode &&
      containedInVector kDefaultOffloadLdacCapability.qualityIndex data.qualityIndex
  | _ => false

/-- What the validators of aptX and aptX HD do with their capabilities. -/
def isOffloadAptxValid (capability : AptxCapabilities) : CodecSpecific → Bool
  | .aptxConfig data =>
    containedInVector capability.sampleRateHz data.sampleRateHz &&
      containedInVector capability.bitsPerSample data.bitsPerSample &&
      containedInVector capability.channelMode data.channelMode
  | _ => false

/-- `IsOffloadAptxConfigurationValid`. -/
def isOffloadAptxConfigurationValid : CodecSpecific → Bool :=
  isOffloadAptxValid kDefaultOffloadAptxCapability

/-- `IsOffloadAptxHdConfigurationValid`. -/
def isOffloadAptxHdConfigurationValid : CodecSpecific → Bool :=
  isOffloadAptxValid kDefaultOffloadAptxHdCapability

/-- `IsOffloadOpusConfigurationValid`. -/
def isOffloadOpusConfigurationValid : CodecSpecific → Bool
  | .opusConfig (some data) =>
    containedInVector kDefaultOffloadOpusCapability.samplingFrequencyHz data.samplingFrequencyHz &&
      containedInVector kDefaultOffloadOpusCapability.frameDurationUs data.frameDurationUs &&
      containedInVector kDefaultOffloadOpusCapability.channelMode data.channelMode
  | _ => false

/-- `IsOffloadCodecConfigurationValid`. -/
def isOffloadCodecConfigurationValid (sessionType : SessionType) (codecConfig : CodecConfiguration) :
    Bool :=
  if sessionType ≠ .a2dpHardwareOffloadEncoding ∧ sessionType ≠ .a2dpHardwareOffloadDecoding then false
  else
    match codecConfig.codecType with
    | .sbc => isOffloadSbcConfigurationValid codecConfig.config
    | .aac => isOffloadAacConfigurationValid codecConfig.config
    | .ldac => isOffloadLdacConfigurationValid codecConfig.config
    | .aptx => isOffloadAptxConfigurationValid codecConfig.config
    | .aptxHd => isOffloadAptxHdConfigurationValid codecConfig.config
    | .opus => isOffloadOpusConfigurationValid codecConfig.config
    | _ => false

end TrebleDoze.Bluetooth.AudioCodecs
