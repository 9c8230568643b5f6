import TrebleDoze.Bluetooth.Types

/-!
# The types of LE Audio configurations

The codec-specific LTVs, the settings that are loaded, the capabilities of the peer and the requirements
of the host, as far as they are matched with each other.  A bit mask is its 32 bits.
-/

namespace TrebleDoze.Bluetooth

/-- A fault in memory: a null pointer is dereferenced, or an array is accessed outside its bounds. -/
inductive Fault where
  | nullDereferenced | outOfBounds
  deriving DecidableEq, Repr

/-- `CodecSpecificConfigurationLtv::SamplingFrequency`. -/
inductive SamplingFrequency where
  | hz8000 | hz11025 | hz16000 | hz22050 | hz24000 | hz32000 | hz44100 | hz48000 | hz88200 | hz96000
  | hz176400 | hz192000 | hz384000
  deriving DecidableEq, Repr

/-- `CodecSpecificConfigurationLtv::FrameDuration`. -/
inductive FrameDuration where
  | us7500 | us10000
  deriving DecidableEq, Repr

/-- `CodecSpecificConfigurationLtv::Tag`. -/
inductive ConfigurationTag where
  | codecFrameBlocksPerSDU | samplingFrequency | frameDuration | audioChannelAllocation
  | octetsPerCodecFrame
  deriving DecidableEq, Repr

/-- `CodecSpecificConfigurationLtv`. -/
inductive ConfigurationLtv where
  | codecFrameBlocksPerSDU (value : ℤ)
  | samplingFrequency (value : SamplingFrequency)
  | frameDuration (value : FrameDuration)
  | audioChannelAllocation (bitmask : UInt32)
  | octetsPerCodecFrame (value : ℤ)
  deriving DecidableEq, Repr

/-- `getTag`. -/
def ConfigurationLtv.tag : ConfigurationLtv → ConfigurationTag
  | codecFrameBlocksPerSDU _ => .codecFrameBlocksPerSDU
  | samplingFrequency _ => .samplingFrequency
  | frameDuration _ => .frameDuration
  | audioChannelAllocation _ => .audioChannelAllocation
  | octetsPerCodecFrame _ => .octetsPerCodecFrame

/-- `CodecSpecificCapabilitiesLtv`. -/
inductive CapabilitiesLtv where
  | supportedSamplingFrequencies (bitmask : UInt32)
  | supportedMaxCodecFramesPerSDU (value : ℤ)
  | supportedFrameDurations (bitmask : UInt32)
  | supportedAudioChannelCounts (bitmask : UInt32)
  | supportedOctetsPerCodecFrame (min max : ℤ)
  deriving DecidableEq, Repr

/-- `MetadataLtv`; only the preferred audio contexts are looked at. -/
inductive MetadataLtv where
  | preferredAudioContexts (values : UInt32)
  | other
  deriving DecidableEq, Repr

/-- `LeAudioAseConfiguration::TargetLatency`. -/
inductive TargetLatency where
  | undefined | lower | balancedLatencyReliability | higherReliability
  deriving DecidableEq, Repr

/-- `LeAudioAseConfiguration`, less the fields that are not matched. -/
structure LeAudioAseConfiguration where
  targetLatency : TargetLatency
  codecId : Option CodecId
  codecConfiguration : List ConfigurationLtv
  deriving DecidableEq, Repr

/-- `LeAudioAseQosConfiguration`, as far as it is compared. -/
structure LeAudioAseQosConfiguration where
  maxTransportLatencyMs : ℤ
  retransmissionNum : ℤ
  deriving DecidableEq, Repr

/-- `AseDirectionConfiguration`. -/
structure AseDirectionConfiguration where
  aseConfiguration : LeAudioAseConfiguration
  qosConfiguration : Option LeAudioAseQosConfiguration
  deriving DecidableEq, Repr

/-- `Packing`. -/
inductive Packing where
  | sequential | interleaved
  deriving DecidableEq, Repr

/-- `LeAudioAseConfigurationSetting`. -/
structure LeAudioAseConfigurationSetting where
  audioContext : UInt32
  packing : Packing
  sinkAseConfiguration : Option (List (Option AseDirectionConfiguration))
  sourceAseConfiguration : Option (List (Option AseDirectionConfiguration))
  flags : Option UInt32
  deriving DecidableEq, Repr

/-- `LeAudioDeviceCapabilities`. -/
structure LeAudioDeviceCapabilities where
  codecId : CodecId
  codecSpecificCapabilities : List CapabilitiesLtv
  metadata : Option (List (Option MetadataLtv))
  deriving DecidableEq, Repr

/-- `AseDirectionRequirement`. -/
structure AseDirectionRequirement where
  aseConfiguration : LeAudioAseConfiguration
  deriving DecidableEq, Repr

/-- `LeAudioConfigurationRequirement`. -/
structure LeAudioConfigurationRequirement where
  audioContext : UInt32
  sinkAseRequirement : Option (List (Option AseDirectionRequirement))
  sourceAseRequirement : Option (List (Option AseDirectionRequirement))
  deriving DecidableEq, Repr

/-- The direction of a stream: `kLeAudioDirectionSink` and `kLeAudioDirectionSource`. -/
inductive Direction where
  | sink | source
  deriving DecidableEq, Repr

namespace Direction

/-- The configurations of a setting for the direction. -/
def configuration (setting : LeAudioAseConfigurationSetting) :
    Direction → Option (List (Option AseDirectionConfiguration))
  | sink => setting.sinkAseConfiguration
  | source => setting.sourceAseConfiguration

/-- The requirements for the direction. -/
def requirement (requirement : LeAudioConfigurationRequirement) :
    Direction → Option (List (Option AseDirectionRequirement))
  | sink => requirement.sinkAseRequirement
  | source => requirement.sourceAseRequirement

/-- The other direction. -/
def other : Direction → Direction
  | sink => source
  | source => sink

/-- The setting with nothing but the configurations of a direction. -/
def restrict (setting : LeAudioAseConfigurationSetting)
    (configurations : List (Option AseDirectionConfiguration)) :
    Direction → LeAudioAseConfigurationSetting
  | sink => { setting with
      sinkAseConfiguration := some configurations, sourceAseConfiguration := none }
  | source => { setting with
      sinkAseConfiguration := none, sourceAseConfiguration := some configurations }

section

variable {direction : Direction} {setting : LeAudioAseConfigurationSetting}
  {configurations configurations' : List (Option AseDirectionConfiguration)}

@[simp] theorem configuration_restrict :
    direction.configuration (direction.restrict setting configurations) = some configurations := by
  cases direction <;> rfl

@[simp] theorem configuration_other_restrict :
    direction.other.configuration (direction.restrict setting configurations) = none := by
  cases direction <;> rfl

@[simp] theorem restrict_restrict :
    direction.restrict (direction.restrict setting configurations) configurations' =
      direction.restrict setting configurations' := by
  cases direction <;> rfl

@[simp] theorem audioContext_restrict :
    (direction.restrict setting configurations).audioContext = setting.audioContext := by
  cases direction <;> rfl

/-- The direction of a restricted setting can be told from the configurations it has. -/
@[simp] theorem of_restrict :
    (if (direction.restrict setting configurations).sinkAseConfiguration.isSome then sink else source) =
      direction := by
  cases direction <;> rfl

end

end Direction

/-- The constants of the interface that the matching of LE Audio configurations uses. -/
structure LeAudioConstants where
  /-- The bit of a sampling frequency in `SupportedSamplingFrequencies`. -/
  supportedSamplingFrequencies : SamplingFrequency → UInt32
  /-- The bit of a frame duration in `SupportedFrameDurations`. -/
  supportedFrameDurations : FrameDuration → UInt32
  /-- The bit of a number of channels in `SupportedAudioChannelCounts`. -/
  supportedAudioChannelCounts : ℕ → UInt32
  /-- `CODEC_PRIORITY_DISABLED`. -/
  codecPriorityDisabled : Int32

/-- The constants that the interface defines: one bit each, in the order of the enumerations, and for one
channel to eight. -/
def leAudioConstants : LeAudioConstants where
  supportedSamplingFrequencies
    | .hz8000 => 0x0001
    | .hz11025 => 0x0002
    | .hz16000 => 0x0004
    | .hz22050 => 0x0008
    | .hz24000 => 0x0010
    | .hz32000 => 0x0020
    | .hz44100 => 0x0040
    | .hz48000 => 0x0080
    | .hz88200 => 0x0100
    | .hz96000 => 0x0200
    | .hz176400 => 0x0400
    | .hz192000 => 0x0800
    | .hz384000 => 0x1000
  supportedFrameDurations
    | .us7500 => 0x01
    | .us10000 => 0x02
  supportedAudioChannelCounts
    | 1 => 0x01
    | 2 => 0x02
    | 3 => 0x04
    | 4 => 0x08
    | 5 => 0x10
    | 6 => 0x20
    | 7 => 0x40
    | 8 => 0x80
    | _ => 0
  codecPriorityDisabled := -1

end TrebleDoze.Bluetooth
