import TrebleDoze.Bluetooth.HidlCodecs
import Mathlib.Order.Interval.Finset.Nat

/-!
# The offload capabilities of HIDL 2.0

What `GetOffloadCodecCapabilities` publishes for each codec, and how far a configuration that the
validators accept stays within it. The validators ask that a value has one bit in common with its
field and one with the capability; they do not look at the bits outside the field, and the one of
LDAC does not compare the quality index with the capability.

* `Admits.isBit_iff`: an accepted value is a value of the capability when it has no bit outside its
  field;
* `accepted_advertised_iff`: when the whole of an accepted configuration is within what is published.
-/

namespace TrebleDoze.Bluetooth.Hidl

/-! ### What is published -/

/-- `CodecCapabilities::Capabilities`. -/
inductive Capabilities where
  | sbcCapabilities (data : SbcParameters)
  | aacCapabilities (data : AacParameters)
  | ldacCapabilities (data : LdacParameters)
  | aptxCapabilities (data : AptxParameters)
  deriving DecidableEq, Repr

/-- `{}` of the union: its first member, with zeros. -/
def Capabilities.zero : Capabilities := .sbcCapabilities
  { sampleRate := 0, channelMode := 0, blockLength := 0, numSubbands := 0, allocMethod := 0,
    bitsPerSample := 0, minBitpool := 0, maxBitpool := 0 }

/-- `CodecCapabilities`. -/
structure CodecCapabilities where
  codecType : CodecType
  capabilities : Capabilities
  deriving DecidableEq, Repr

/-- `kDefaultOffloadA2dpCodecCapabilities`. -/
def kDefaultOffloadA2dpCodecCapabilities : List CodecCapabilities :=
  [⟨.sbc, .zero⟩, ⟨.aac, .zero⟩, ⟨.ldac, .zero⟩, ⟨.aptx, .zero⟩, ⟨.aptxHd, .zero⟩]

section

variable (V : Values)

/-- An iteration of the loop of `GetOffloadCodecCapabilities`. -/
def fillCapabilities (codecCapability : CodecCapabilities) : CodecCapabilities :=
  match codecCapability.codecType with
  | .sbc => { codecCapability with capabilities := .sbcCapabilities (kDefaultOffloadSbcCapability V) }
  | .aac => { codecCapability with capabilities := .aacCapabilities (kDefaultOffloadAacCapability V) }
  | .ldac =>
    { codecCapability with capabilities := .ldacCapabilities (kDefaultOffloadLdacCapability V) }
  | .aptx =>
    { codecCapability with capabilities := .aptxCapabilities (kDefaultOffloadAptxCapability V) }
  | .aptxHd =>
    { codecCapability with capabilities := .aptxCapabilities (kDefaultOffloadAptxHdCapability V) }
  | .unknown => ⟨.unknown, .zero⟩

/-- `GetOffloadCodecCapabilities`. -/
def getOffloadCodecCapabilities (sessionType : SessionType) : List CodecCapabilities :=
  if sessionType ≠ .a2dpHardwareOffload then []
  else kDefaultOffloadA2dpCodecCapabilities.map (fillCapabilities V)

end

/-- The capabilities in the list for a codec. -/
def capabilitiesOf (codecType : CodecType) (published : List CodecCapabilities) : Option Capabilities :=
  (published.find? (·.codecType = codecType)).map (·.capabilities)

/-! ### Within what is published -/

/-- Every parameter is one value of the capability. -/
structure SbcParameters.Within (data capability : SbcParameters) : Prop where
  sampleRate : IsBit capability.sampleRate data.sampleRate
  channelMode : IsBit capability.channelMode data.channelMode
  blockLength : IsBit capability.blockLength data.blockLength
  numSubbands : IsBit capability.numSubbands data.numSubbands
  allocMethod : IsBit capability.allocMethod data.allocMethod
  bitsPerSample : IsBit capability.bitsPerSample data.bitsPerSample
  minBitpool : capability.minBitpool ≤ data.minBitpool
  bitpool : data.minBitpool ≤ data.maxBitpool
  maxBitpool : data.maxBitpool ≤ capability.maxBitpool

@[inherit_doc SbcParameters.Within]
structure AacParameters.Within (data capability : AacParameters) : Prop where
  objectType : IsBit capability.objectType data.objectType
  sampleRate : IsBit capability.sampleRate data.sampleRate
  channelMode : IsBit capability.channelMode data.channelMode
  variableBitRateEnabled : data.variableBitRateEnabled = .disabled ∨
    capability.variableBitRateEnabled = .enabled
  bitsPerSample : IsBit capability.bitsPerSample data.bitsPerSample

/-- Every parameter is one value of the capability; its quality index is a number and not a field. -/
structure LdacParameters.Within (data capability : LdacParameters) : Prop where
  sampleRate : IsBit capability.sampleRate data.sampleRate
  channelMode : IsBit capability.channelMode data.channelMode
  qualityIndex : data.qualityIndex = capability.qualityIndex
  bitsPerSample : IsBit capability.bitsPerSample data.bitsPerSample

@[inherit_doc SbcParameters.Within]
structure AptxParameters.Within (data capability : AptxParameters) : Prop where
  sampleRate : IsBit capability.sampleRate data.sampleRate
  channelMode : IsBit capability.channelMode data.channelMode
  bitsPerSample : IsBit capability.bitsPerSample data.bitsPerSample

/-- The configuration has the member of the capabilities, and stays within it. -/
def CodecSpecific.Within : CodecSpecific → Capabilities → Prop
  | .sbcConfig data, .sbcCapabilities capability => data.Within capability
  | .aacConfig data, .aacCapabilities capability => data.Within capability
  | .ldacConfig data, .ldacCapabilities capability => data.Within capability
  | .aptxConfig data, .aptxCapabilities capability => data.Within capability
  | _, _ => False

/-! ### What the validators leave open -/

/-- No bit of the value is outside the field. -/
abbrev InField (field v : BitVec 32) : Prop := v &&& field = v

/-- No parameter has a bit outside the field that its validator tests. -/
def CodecSpecific.InFields : CodecSpecific → Prop
  | .sbcConfig data =>
    InField 0xff data.sampleRate ∧ InField 0x0f data.channelMode ∧ InField 0xf0 data.blockLength ∧
      InField 0x0c data.numSubbands ∧ InField 0x03 data.allocMethod ∧ InField 0x07 data.bitsPerSample
  | .aacConfig data =>
    InField 0xf0 data.objectType ∧ InField 0xff data.sampleRate ∧ InField 0x03 data.channelMode ∧
      InField 0x07 data.bitsPerSample
  | .ldacConfig data =>
    InField 0xff data.sampleRate ∧ InField 0x07 data.channelMode ∧ InField 0x07 data.bitsPerSample
  | .aptxConfig data =>
    InField 0xff data.sampleRate ∧ InField 0x03 data.channelMode ∧ InField 0x07 data.bitsPerSample

/-- An LDAC configuration has the one quality index that is advertised. -/
def CodecSpecific.HighQuality (V : Values) : CodecSpecific → Prop
  | .ldacConfig data => data.qualityIndex = V.ldacQualityIndex .qualityHigh
  | _ => True

/-! ### One field -/

section

variable {w field capability v : BitVec 32}

theorem isBit_of_bitsBelow (h : bitsBelow w 32 = 1) : IsBit w w := by
  rw [bitsBelow, Nat.count_eq_card_filter_range, Finset.card_eq_one] at h
  obtain ⟨i, hi⟩ := h
  have hmem (k : ℕ) : (k < 32 ∧ w.getLsbD k = true) ↔ k = i := by
    have hk := Finset.ext_iff.1 hi k
    rwa [Finset.mem_filter, Finset.mem_range, Finset.mem_singleton] at hk
  obtain ⟨hi32, hset⟩ := (hmem i).2 rfl
  refine ⟨i, hi32, hset, BitVec.eq_of_getLsbD_eq fun k hk => ?_⟩
  rw [BitVec.getLsbD_twoPow, decide_eq_true hi32, Bool.true_and]
  by_cases hki : k = i
  · rw [hki, hset, decide_eq_true rfl]
  · rw [decide_eq_false (Ne.symm hki), Bool.eq_false_iff]
    exact fun hw => hki ((hmem k).1 ⟨hk, hw⟩)

/-- A value that passes both tests is a value of the capability when it is inside its field. -/
theorem Admits.isBit_iff (h : Admits field capability v) : IsBit capability v ↔ InField field v := by
  have hcommon := isBit_of_bitsBelow ((isSingleBit_iff v field).1 h.single)
  constructor
  · rintro ⟨i, hi, -, rfl⟩
    -- the bit that is common with the field can only be this one
    rw [InField, BitVec.and_comm, BitVec.and_twoPow]
    rw [BitVec.and_comm, BitVec.and_twoPow] at hcommon
    split_ifs with hfield
    · rfl
    · rw [if_neg hfield] at hcommon
      exact absurd rfl hcommon.ne_zero
  · intro hin
    rw [hin] at hcommon
    obtain ⟨i, hi, -, rfl⟩ := hcommon
    have hcap := h.intersects
    rw [Hidl.intersects, bne_iff_ne, BitVec.and_comm, and_testBit_ne_zero hi] at hcap
    exact ⟨i, hi, hcap, rfl⟩

end

/-! ### The validators -/

section

variable {V : Values} {config : CodecSpecific}

theorem sbc_within_iff (h : isOffloadSbcConfigurationValid V config = true) :
    config.Within (.sbcCapabilities (kDefaultOffloadSbcCapability V)) ↔
      config.InFields ∧ config.HighQuality V := by
  cases config with
  | sbcConfig data =>
    simp only [isOffloadSbcConfigurationValid, Bool.if_false_left, Bool.and_eq_true,
      Bool.not_eq_true', Bool.or_eq_true, not_or, Bool.not_eq_false, decide_eq_true_eq,
      decide_eq_false_iff_not, gt_iff_lt, not_lt] at h
    obtain ⟨⟨⟨⟨⟨⟨⟨hrate, hmode⟩, hblock⟩, hsub⟩, halloc⟩, hbits⟩, hpool⟩, ⟨⟨⟨⟨⟨hrate', hmode'⟩, hblock'⟩,
      hsub'⟩, halloc'⟩, hbits'⟩, hmin, hmax⟩ := h
    have rateIff := (Admits.mk hrate hrate').isBit_iff
    have modeIff := (Admits.mk hmode hmode').isBit_iff
    have blockIff := (Admits.mk hblock hblock').isBit_iff
    have subIff := (Admits.mk hsub hsub').isBit_iff
    have allocIff := (Admits.mk halloc halloc').isBit_iff
    have bitsIff := (Admits.mk hbits hbits').isBit_iff
    constructor
    · intro hin
      exact ⟨⟨rateIff.1 hin.sampleRate,
        modeIff.1 hin.channelMode,
        blockIff.1 hin.blockLength,
        subIff.1 hin.numSubbands,
        allocIff.1 hin.allocMethod,
        bitsIff.1 hin.bitsPerSample⟩, trivial⟩
    · rintro ⟨⟨irate, imode, iblock, isub, ialloc, ibits⟩, -⟩
      exact
        { sampleRate := rateIff.2 irate
          channelMode := modeIff.2 imode
          blockLength := blockIff.2 iblock
          numSubbands := subIff.2 isub
          allocMethod := allocIff.2 ialloc
          bitsPerSample := bitsIff.2 ibits
          minBitpool := hmin
          bitpool := hpool
          maxBitpool := hmax }
  | _ => exact absurd h Bool.false_ne_true

theorem aac_within_iff (h : isOffloadAacConfigurationValid V config = true) :
    config.Within (.aacCapabilities (kDefaultOffloadAacCapability V)) ↔
      config.InFields ∧ config.HighQuality V := by
  cases config with
  | aacConfig data =>
    simp only [isOffloadAacConfigurationValid, Bool.if_false_left, Bool.and_eq_true,
      Bool.not_eq_true', Bool.or_eq_true, not_or, Bool.not_eq_false, decide_eq_true_eq,
      decide_eq_false_iff_not] at h
    obtain ⟨⟨⟨⟨hobject, hrate⟩, hmode⟩, hbits⟩, ⟨⟨⟨hobject', hrate'⟩, hmode'⟩, hvbr⟩, hbits'⟩ := h
    have objectIff := (Admits.mk hobject hobject').isBit_iff
    have rateIff := (Admits.mk hrate hrate').isBit_iff
    have modeIff := (Admits.mk hmode hmode').isBit_iff
    have bitsIff := (Admits.mk hbits hbits').isBit_iff
    constructor
    · intro hin
      exact ⟨⟨objectIff.1 hin.objectType,
        rateIff.1 hin.sampleRate,
        modeIff.1 hin.channelMode,
        bitsIff.1 hin.bitsPerSample⟩, trivial⟩
    · rintro ⟨⟨iobject, irate, imode, ibits⟩, -⟩
      exact
        { objectType := objectIff.2 iobject
          sampleRate := rateIff.2 irate
          channelMode := modeIff.2 imode
          variableBitRateEnabled := hvbr
          bitsPerSample := bitsIff.2 ibits }
  | _ => exact absurd h Bool.false_ne_true

/-- The second stage of LDAC has no test of the quality index. -/
theorem ldac_within_iff (h : isOffloadLdacConfigurationValid V config = true) :
    config.Within (.ldacCapabilities (kDefaultOffloadLdacCapability V)) ↔
      config.InFields ∧ config.HighQuality V := by
  cases config with
  | ldacConfig data =>
    simp only [isOffloadLdacConfigurationValid, Bool.if_false_left, Bool.and_eq_true,
      Bool.not_eq_true', Bool.or_eq_true, not_or, Bool.not_eq_false, decide_eq_false_iff_not] at h
    obtain ⟨⟨⟨⟨hrate, hmode⟩, -⟩, hbits⟩, ⟨hrate', hmode'⟩, hbits'⟩ := h
    have rateIff := (Admits.mk hrate hrate').isBit_iff
    have modeIff := (Admits.mk hmode hmode').isBit_iff
    have bitsIff := (Admits.mk hbits hbits').isBit_iff
    constructor
    · intro hin
      exact ⟨⟨rateIff.1 hin.sampleRate,
        modeIff.1 hin.channelMode,
        bitsIff.1 hin.bitsPerSample⟩, hin.qualityIndex⟩
    · rintro ⟨⟨irate, imode, ibits⟩, hquality⟩
      exact
        { sampleRate := rateIff.2 irate
          channelMode := modeIff.2 imode
          qualityIndex := hquality
          bitsPerSample := bitsIff.2 ibits }
  | _ => exact absurd h Bool.false_ne_true

theorem aptx_within_iff {capability : AptxParameters}
    (h : isOffloadAptxValid capability config = true) :
    config.Within (.aptxCapabilities capability) ↔ config.InFields ∧ config.HighQuality V := by
  cases config with
  | aptxConfig data =>
    simp only [isOffloadAptxValid, Bool.if_false_left, Bool.and_eq_true, Bool.not_eq_true',
      Bool.or_eq_true, not_or, Bool.not_eq_false, decide_eq_false_iff_not] at h
    obtain ⟨⟨⟨hrate, hmode⟩, hbits⟩, ⟨hrate', hmode'⟩, hbits'⟩ := h
    have rateIff := (Admits.mk hrate hrate').isBit_iff
    have modeIff := (Admits.mk hmode hmode').isBit_iff
    have bitsIff := (Admits.mk hbits hbits').isBit_iff
    constructor
    · intro hin
      exact ⟨⟨rateIff.1 hin.sampleRate,
        modeIff.1 hin.channelMode,
        bitsIff.1 hin.bitsPerSample⟩, trivial⟩
    · rintro ⟨⟨irate, imode, ibits⟩, -⟩
      exact
        { sampleRate := rateIff.2 irate
          channelMode := modeIff.2 imode
          bitsPerSample := bitsIff.2 ibits }
  | _ => exact absurd h Bool.false_ne_true

/-! ### The whole configuration -/

/-- The configuration is within what is published for its codec. -/
def Advertised (V : Values) (sessionType : SessionType) (codecConfig : CodecConfiguration) : Prop :=
  ∃ capability,
    capabilitiesOf codecConfig.codecType (getOffloadCodecCapabilities V sessionType) =
      some capability ∧ codecConfig.config.Within capability

theorem advertised_iff {sessionType : SessionType} {codecConfig : CodecConfiguration}
    {capability : Capabilities}
    (h : capabilitiesOf codecConfig.codecType (getOffloadCodecCapabilities V sessionType) =
      some capability) :
    Advertised V sessionType codecConfig ↔ codecConfig.config.Within capability := by
  rw [Advertised, h]
  simp only [Option.some.injEq, exists_eq_left']

/-- **When an accepted configuration is within what is published for its codec**: no parameter has
a bit outside its field, and the quality index of LDAC is the advertised one. -/
theorem accepted_advertised_iff {sessionType : SessionType} {codecConfig : CodecConfiguration}
    (h : isOffloadCodecConfigurationValid V sessionType codecConfig = true) :
    Advertised V sessionType codecConfig ↔
      codecConfig.config.InFields ∧ codecConfig.config.HighQuality V := by
  rw [isOffloadCodecConfigurationValid] at h
  split_ifs at h with hsession hbitrate
  rw [not_not] at hsession
  subst hsession
  obtain ⟨codecType, bitrate, mtu, scmst, config⟩ := codecConfig
  cases codecType with
  | unknown => exact absurd h Bool.false_ne_true
  | sbc => exact (advertised_iff rfl).trans (sbc_within_iff h)
  | aac => exact (advertised_iff rfl).trans (aac_within_iff h)
  | ldac => exact (advertised_iff rfl).trans (ldac_within_iff h)
  | aptx => exact (advertised_iff rfl).trans (aptx_within_iff h)
  | aptxHd => exact (advertised_iff rfl).trans (aptx_within_iff h)

end

/-- LDAC at 48 kHz. -/
def ldacConfiguration (qualityIndex : LdacQualityIndex) : CodecConfiguration where
  codecType := .ldac
  encodedAudioBitrate := 660000
  peerMtu := 679
  isScmstEnabled := false
  config := .ldacConfig
    { sampleRate := values20.sampleRate .rate48000
      channelMode := values20.ldacChannelMode .stereo
      qualityIndex := values20.ldacQualityIndex qualityIndex
      bitsPerSample := values20.bitsPerSample .bits32 }

theorem accepted_advertised_iff_ldac :
    isOffloadCodecConfigurationValid values20 .a2dpHardwareOffload (ldacConfiguration .qualityHigh) =
        true ∧
      Advertised values20 .a2dpHardwareOffload (ldacConfiguration .qualityHigh) :=
  ⟨by decide, (accepted_advertised_iff (by decide)).2 ⟨⟨by decide, by decide, by decide⟩, rfl⟩⟩

/-- A quality index that is not advertised is accepted. -/
theorem accepted_quality_mid :
    isOffloadCodecConfigurationValid values20 .a2dpHardwareOffload (ldacConfiguration .qualityMid) =
        true ∧
      ¬Advertised values20 .a2dpHardwareOffload (ldacConfiguration .qualityMid) := by
  refine ⟨by decide, fun hin => ?_⟩
  have hwithin := (advertised_iff rfl).1 hin
  exact absurd hwithin.qualityIndex (by decide)

end TrebleDoze.Bluetooth.Hidl
