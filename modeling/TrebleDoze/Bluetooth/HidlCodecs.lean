import TrebleDoze.Bluetooth.HidlSingleBit
import TrebleDoze.Bluetooth.SessionHidl

/-!
# The supported codecs of the HIDL interface

The codec configurations of HIDL 2.0, whose parameters are words of bit fields, and the validators of
`BluetoothAudioSupportedCodecsDB.cpp`: a parameter has to be a single bit, and a bit that the default
capability of the codec has. The values of the enumerators are those of the interface, a parameter here.

* `Values.SingleBits`: the enumerators of 2.0 are single bits of their fields;
* `IsBit.admits_self`, `IsBit.admits_mem`: an enumerator of the capability passes both tests.
-/

namespace TrebleDoze.Bluetooth.Hidl

/-! ### The enumerations -/

/-- `SampleRate`, with the two rates that 2.1 adds. -/
inductive SampleRate where
  | unknown | rate44100 | rate48000 | rate88200 | rate96000 | rate176400 | rate192000 | rate16000
  | rate24000 | rate8000 | rate32000
  deriving DecidableEq, Repr

/-- `ChannelMode`. -/
inductive ChannelMode where
  | unknown | mono | stereo
  deriving DecidableEq, Repr

/-- `BitsPerSample`. -/
inductive BitsPerSample where
  | unknown | bits16 | bits24 | bits32
  deriving DecidableEq, Repr

/-- `SbcChannelMode`. -/
inductive SbcChannelMode where
  | unknown | jointStereo | stereo | dual | mono
  deriving DecidableEq, Repr

/-- `SbcBlockLength`. -/
inductive SbcBlockLength where
  | blocks4 | blocks8 | blocks12 | blocks16
  deriving DecidableEq, Repr

/-- `SbcNumSubbands`. -/
inductive SbcNumSubbands where
  | subband4 | subband8
  deriving DecidableEq, Repr

/-- `SbcAllocMethod`. -/
inductive SbcAllocMethod where
  | allocMdS | allocMdL
  deriving DecidableEq, Repr

/-- `AacObjectType`. -/
inductive AacObjectType where
  | mpeg2Lc | mpeg4Lc | mpeg4Ltp | mpeg4Scalable
  deriving DecidableEq, Repr

/-- `AacVariableBitRate`. -/
inductive AacVariableBitRate where
  | enabled | disabled
  deriving DecidableEq, Repr

/-- `LdacChannelMode`. -/
inductive LdacChannelMode where
  | unknown | stereo | dual | mono
  deriving DecidableEq, Repr

/-- `LdacQualityIndex`. -/
inductive LdacQualityIndex where
  | qualityHigh | qualityMid | qualityLow | qualityAbr
  deriving DecidableEq, Repr

/-- `CodecType`. -/
inductive CodecType where
  | unknown | sbc | aac | aptx | aptxHd | ldac
  deriving DecidableEq, Repr

/-- The values of the enumerators. -/
structure Values where
  sampleRate : SampleRate → BitVec 32
  channelMode : ChannelMode → BitVec 32
  bitsPerSample : BitsPerSample → BitVec 32
  sbcChannelMode : SbcChannelMode → BitVec 32
  sbcBlockLength : SbcBlockLength → BitVec 32
  sbcNumSubbands : SbcNumSubbands → BitVec 32
  sbcAllocMethod : SbcAllocMethod → BitVec 32
  aacObjectType : AacObjectType → BitVec 32
  ldacChannelMode : LdacChannelMode → BitVec 32
  ldacQualityIndex : LdacQualityIndex → BitVec 32

/-- The value is one bit of the field. -/
def IsBit (field v : BitVec 32) : Prop := ∃ i < 32, field.getLsbD i = true ∧ v = BitVec.twoPow 32 i

instance (field v : BitVec 32) : Decidable (IsBit field v) :=
  inferInstanceAs (Decidable (∃ i < 32, field.getLsbD i = true ∧ v = BitVec.twoPow 32 i))

/-- The enumerators of 2.0 are single bits of their fields, the quality indices of LDAC apart, which
are numbers in the order of the interface. -/
structure Values.SingleBits (V : Values) : Prop where
  sampleRate : ∀ r, r ≠ .unknown → r ≠ .rate8000 → r ≠ .rate32000 → IsBit 0xff (V.sampleRate r)
  channelMode : ∀ m, m ≠ .unknown → IsBit 0x03 (V.channelMode m)
  bitsPerSample : ∀ b, b ≠ .unknown → IsBit 0x07 (V.bitsPerSample b)
  sbcChannelMode : ∀ m, m ≠ .unknown → IsBit 0x0f (V.sbcChannelMode m)
  sbcBlockLength : ∀ l, IsBit 0xf0 (V.sbcBlockLength l)
  sbcNumSubbands : ∀ n, IsBit 0x0c (V.sbcNumSubbands n)
  sbcAllocMethod : ∀ m, IsBit 0x03 (V.sbcAllocMethod m)
  aacObjectType : ∀ t, IsBit 0xf0 (V.aacObjectType t)
  ldacChannelMode : ∀ m, m ≠ .unknown → IsBit 0x07 (V.ldacChannelMode m)
  ldacQualityIndex : V.ldacQualityIndex .qualityHigh ≤ V.ldacQualityIndex .qualityLow

/-- The values of the interface. -/
def values20 : Values where
  sampleRate
    | .unknown => 0x00 | .rate44100 => 0x01 | .rate48000 => 0x02 | .rate88200 => 0x04
    | .rate96000 => 0x08 | .rate176400 => 0x10 | .rate192000 => 0x20 | .rate16000 => 0x40
    | .rate24000 => 0x80 | .rate8000 => 0x100 | .rate32000 => 0x200
  channelMode
    | .unknown => 0x00 | .mono => 0x01 | .stereo => 0x02
  bitsPerSample
    | .unknown => 0x00 | .bits16 => 0x01 | .bits24 => 0x02 | .bits32 => 0x04
  sbcChannelMode
    | .unknown => 0x00 | .jointStereo => 0x01 | .stereo => 0x02 | .dual => 0x04 | .mono => 0x08
  sbcBlockLength
    | .blocks4 => 0x80 | .blocks8 => 0x40 | .blocks12 => 0x20 | .blocks16 => 0x10
  sbcNumSubbands
    | .subband4 => 0x08 | .subband8 => 0x04
  sbcAllocMethod
    | .allocMdS => 0x02 | .allocMdL => 0x01
  aacObjectType
    | .mpeg2Lc => 0x80 | .mpeg4Lc => 0x40 | .mpeg4Ltp => 0x20 | .mpeg4Scalable => 0x10
  ldacChannelMode
    | .unknown => 0x00 | .stereo => 0x01 | .dual => 0x02 | .mono => 0x04
  ldacQualityIndex
    | .qualityHigh => 0x00 | .qualityMid => 0x01 | .qualityLow => 0x02 | .qualityAbr => 0x7f

theorem values20_singleBits : values20.SingleBits where
  sampleRate r := by cases r <;> decide
  channelMode m := by cases m <;> decide
  bitsPerSample b := by cases b <;> decide
  sbcChannelMode m := by cases m <;> decide
  sbcBlockLength l := by cases l <;> decide
  sbcNumSubbands n := by cases n <;> decide
  sbcAllocMethod m := by cases m <;> decide
  aacObjectType t := by cases t <;> decide
  ldacChannelMode m := by cases m <;> decide
  ldacQualityIndex := by decide

/-! ### Configurations -/

/-- `SbcParameters`. -/
structure SbcParameters where
  sampleRate : BitVec 32
  channelMode : BitVec 32
  blockLength : BitVec 32
  numSubbands : BitVec 32
  allocMethod : BitVec 32
  bitsPerSample : BitVec 32
  minBitpool : ℕ
  maxBitpool : ℕ
  deriving DecidableEq, Repr

/-- `AacParameters`. -/
structure AacParameters where
  objectType : BitVec 32
  sampleRate : BitVec 32
  channelMode : BitVec 32
  variableBitRateEnabled : AacVariableBitRate
  bitsPerSample : BitVec 32
  deriving DecidableEq, Repr

/-- `LdacParameters`. -/
structure LdacParameters where
  sampleRate : BitVec 32
  channelMode : BitVec 32
  qualityIndex : BitVec 32
  bitsPerSample : BitVec 32
  deriving DecidableEq, Repr

/-- `AptxParameters`. -/
structure AptxParameters where
  sampleRate : BitVec 32
  channelMode : BitVec 32
  bitsPerSample : BitVec 32
  deriving DecidableEq, Repr

/-- `CodecConfiguration::CodecSpecific`. -/
inductive CodecSpecific where
  | sbcConfig (data : SbcParameters)
  | aacConfig (data : AacParameters)
  | ldacConfig (data : LdacParameters)
  | aptxConfig (data : AptxParameters)
  deriving DecidableEq, Repr

/-- `CodecConfiguration`. -/
structure CodecConfiguration where
  codecType : CodecType
  encodedAudioBitrate : ℕ
  peerMtu : ℕ
  isScmstEnabled : Bool
  config : CodecSpecific
  deriving DecidableEq, Repr

/-! ### Capabilities -/

/-- Enumerators joined by `|`. -/
def orAll (values : List (BitVec 32)) : BitVec 32 := values.foldr (· ||| ·) 0

section

variable (V : Values)

/-- `kDefaultOffloadSbcCapability`. -/
def kDefaultOffloadSbcCapability : SbcParameters where
  sampleRate := V.sampleRate .rate44100
  channelMode := orAll [V.sbcChannelMode .mono, V.sbcChannelMode .jointStereo]
  blockLength := orAll [V.sbcBlockLength .blocks4, V.sbcBlockLength .blocks8,
    V.sbcBlockLength .blocks12, V.sbcBlockLength .blocks16]
  numSubbands := V.sbcNumSubbands .subband8
  allocMethod := V.sbcAllocMethod .allocMdL
  bitsPerSample := V.bitsPerSample .bits16
  minBitpool := 2
  maxBitpool := 53

/-- `kDefaultOffloadAacCapability`. -/
def kDefaultOffloadAacCapability : AacParameters where
  objectType := V.aacObjectType .mpeg2Lc
  sampleRate := V.sampleRate .rate44100
  channelMode := V.channelMode .stereo
  variableBitRateEnabled := .enabled
  bitsPerSample := V.bitsPerSample .bits16

/-- `kDefaultOffloadLdacCapability`. -/
def kDefaultOffloadLdacCapability : LdacParameters where
  sampleRate := orAll [V.sampleRate .rate44100, V.sampleRate .rate48000, V.sampleRate .rate88200,
    V.sampleRate .rate96000]
  channelMode := orAll [V.ldacChannelMode .dual, V.ldacChannelMode .stereo]
  qualityIndex := V.ldacQualityIndex .qualityHigh
  bitsPerSample := orAll [V.bitsPerSample .bits16, V.bitsPerSample .bits24, V.bitsPerSample .bits32]

/-- `kDefaultOffloadAptxCapability`. -/
def kDefaultOffloadAptxCapability : AptxParameters where
  sampleRate := orAll [V.sampleRate .rate44100, V.sampleRate .rate48000]
  channelMode := V.channelMode .stereo
  bitsPerSample := V.bitsPerSample .bits16

/-- `kDefaultOffloadAptxHdCapability`. -/
def kDefaultOffloadAptxHdCapability : AptxParameters where
  sampleRate := orAll [V.sampleRate .rate44100, V.sampleRate .rate48000]
  channelMode := V.channelMode .stereo
  bitsPerSample := V.bitsPerSample .bits24

/-! ### Validators -/

/-- `value & capability`, as a condition. -/
def intersects (value capability : BitVec 32) : Bool := value &&& capability != 0

/-- `IsOffloadSbcConfigurationValid`. -/
def isOffloadSbcConfigurationValid : CodecSpecific → Bool
  | .sbcConfig data =>
    let capability := kDefaultOffloadSbcCapability V
    if !isSingleBit data.sampleRate 0xff || !isSingleBit data.channelMode 0x0f ||
        !isSingleBit data.blockLength 0xf0 || !isSingleBit data.numSubbands 0x0c ||
        !isSingleBit data.allocMethod 0x03 || !isSingleBit data.bitsPerSample 0x07 ||
        data.minBitpool > data.maxBitpool then false
    else
      intersects data.sampleRate capability.sampleRate &&
        intersects data.channelMode capability.channelMode &&
        intersects data.blockLength capability.blockLength &&
        intersects data.numSubbands capability.numSubbands &&
        intersects data.allocMethod capability.allocMethod &&
        intersects data.bitsPerSample capability.bitsPerSample &&
        (capability.minBitpool ≤ data.minBitpool && data.maxBitpool ≤ capability.maxBitpool)
  | _ => false

/-- `IsOffloadAacConfigurationValid`. -/
def isOffloadAacConfigurationValid : CodecSpecific → Bool
  | .aacConfig data =>
    let capability := kDefaultOffloadAacCapability V
    if !isSingleBit data.objectType 0xf0 || !isSingleBit data.sampleRate 0xff ||
        !isSingleBit data.channelMode 0x03 || !isSingleBit data.bitsPerSample 0x07 then false
    else
      intersects data.objectType capability.objectType &&
        intersects data.sampleRate capability.sampleRate &&
        intersects data.channelMode capability.channelMode &&
        (data.variableBitRateEnabled = .disabled || capability.variableBitRateEnabled = .enabled) &&
        intersects data.bitsPerSample capability.bitsPerSample
  | _ => false

/-- `IsOffloadLdacConfigurationValid`: the quality index is compared with the enumerators, and not
with the capability. -/
def isOffloadLdacConfigurationValid : CodecSpecific → Bool
  | .ldacConfig data =>
    let capability := kDefaultOffloadLdacCapability V
    if !isSingleBit data.sampleRate 0xff || !isSingleBit data.channelMode 0x07 ||
        (data.qualityIndex > V.ldacQualityIndex .qualityLow &&
          data.qualityIndex != V.ldacQualityIndex .qualityAbr) ||
        !isSingleBit data.bitsPerSample 0x07 then false
    else
      intersects data.sampleRate capability.sampleRate &&
        intersects data.channelMode capability.channelMode &&
        intersects data.bitsPerSample capability.bitsPerSample
  | _ => false

/-- What the validators of aptX and aptX HD do with their capabilities. -/
def isOffloadAptxValid (capability : AptxParameters) : CodecSpecific → Bool
  | .aptxConfig data =>
    if !isSingleBit data.sampleRate 0xff || !isSingleBit data.channelMode 0x03 ||
        !isSingleBit data.bitsPerSample 0x07 then false
    else
      intersects data.sampleRate capability.sampleRate &&
        intersects data.channelMode capability.channelMode &&
        intersects data.bitsPerSample capability.bitsPerSample
  | _ => false

/-- `IsOffloadAptxConfigurationValid`. -/
def isOffloadAptxConfigurationValid : CodecSpecific → Bool :=
  isOffloadAptxValid (kDefaultOffloadAptxCapability V)

/-- `IsOffloadAptxHdConfigurationValid`. -/
def isOffloadAptxHdConfigurationValid : CodecSpecific → Bool :=
  isOffloadAptxValid (kDefaultOffloadAptxHdCapability V)

/-- `IsOffloadCodecConfigurationValid`. -/
def isOffloadCodecConfigurationValid (sessionType : SessionType) (codecConfig : CodecConfiguration) :
    Bool :=
  if sessionType ≠ .a2dpHardwareOffload then false
  else if codecConfig.encodedAudioBitrate < 0x00000001 ∨
      0x00ffffff < codecConfig.encodedAudioBitrate then false
  else
    match codecConfig.codecType with
    | .sbc => isOffloadSbcConfigurationValid V codecConfig.config
    | .aac => isOffloadAacConfigurationValid V codecConfig.config
    | .ldac => isOffloadLdacConfigurationValid V codecConfig.config
    | .aptx => isOffloadAptxConfigurationValid V codecConfig.config
    | .aptxHd => isOffloadAptxHdConfigurationValid V codecConfig.config
    | .unknown => false

end

/-! ### Enumerators that are advertised -/

/-- A value passes the test of its field and that of the capability. -/
structure Admits (field capability v : BitVec 32) : Prop where
  single : isSingleBit v field = true
  intersects : intersects v capability = true

section

variable {field v : BitVec 32} {values : List (BitVec 32)}

theorem IsBit.ne_zero (h : IsBit field v) : v ≠ 0 := by
  obtain ⟨i, hi, -, rfl⟩ := h
  intro hzero
  have hbit := congrArg (·.getLsbD i) hzero
  simp [hi] at hbit

theorem and_orAll_ne_zero (hv : v ≠ 0) (hmem : v ∈ values) : v &&& orAll values ≠ 0 := by
  induction values with
  | nil => exact nomatch hmem
  | cons u values ih =>
    show v &&& (u ||| orAll values) ≠ 0
    rw [BitVec.and_or_distrib_left]
    intro hzero
    obtain ⟨hu, hrest⟩ := BitVec.or_eq_zero_iff.1 hzero
    rcases List.mem_cons.1 hmem with rfl | htail
    · rw [BitVec.and_self] at hu
      exact hv hu
    · exact ih htail hrest

theorem IsBit.isSingleBit (h : IsBit field v) : isSingleBit v field = true := by
  obtain ⟨i, hi, hfield, rfl⟩ := h
  exact isSingleBit_twoPow hi hfield

theorem IsBit.admits_self (h : IsBit field v) : Admits field v v := by
  refine ⟨h.isSingleBit, ?_⟩
  rw [Hidl.intersects, BitVec.and_self]
  simpa using h.ne_zero

theorem IsBit.admits_mem (h : IsBit field v) (hmem : v ∈ values) : Admits field (orAll values) v := by
  refine ⟨h.isSingleBit, ?_⟩
  rw [Hidl.intersects]
  simpa using and_orAll_ne_zero h.ne_zero hmem

end

end TrebleDoze.Bluetooth.Hidl
