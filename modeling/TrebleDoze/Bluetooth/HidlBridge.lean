import TrebleDoze.Bluetooth.AudioCodecs
import TrebleDoze.Bluetooth.HidlCodecs

/-!
# Codec configurations from AIDL to HIDL

The conversion of `HidlToAidlMiddleware.cpp`, with its lookup tables, and the two validators on either
side of it. What stands in a field of a structure that is not initialised is a parameter.

* `LinesUp`: the values that one side advertises for a parameter are admitted by the other;
* `isOffloadCodecConfigurationValid_toHidl`: a configuration that the AIDL validator accepts is accepted
  by that of HIDL.
-/

namespace TrebleDoze.Bluetooth.Hidl

/-! ### The tables -/

/-- `sample_rate_to_hidl_2_1_map`. -/
def sampleRateToHidl21Map : List (ℤ × SampleRate) :=
  [(44100, .rate44100), (48000, .rate48000), (88200, .rate88200), (96000, .rate96000),
    (176400, .rate176400), (192000, .rate192000), (16000, .rate16000), (24000, .rate24000),
    (8000, .rate8000), (32000, .rate32000)]

/-- `codec_type_to_hidl_2_0_map`. -/
def codecTypeToHidl20Map : List (AudioCodecs.CodecType × CodecType) :=
  [(.unknown, .unknown), (.sbc, .sbc), (.aac, .aac), (.aptx, .aptx), (.aptxHd, .aptxHd),
    (.ldac, .ldac), (.lc3, .unknown)]

/-- `sbc_channel_mode_to_hidl_2_0_map`. -/
def sbcChannelModeToHidl20Map : List (AudioCodecs.SbcChannelMode × SbcChannelMode) :=
  [(.unknown, .unknown), (.jointStereo, .jointStereo), (.stereo, .stereo), (.dual, .dual),
    (.mono, .mono)]

/-- `sbc_block_length_to_hidl_map`. -/
def sbcBlockLengthToHidlMap : List (ℤ × SbcBlockLength) :=
  [(4, .blocks4), (8, .blocks8), (12, .blocks12), (16, .blocks16)]

/-- `sbc_subbands_to_hidl_map`. -/
def sbcSubbandsToHidlMap : List (ℤ × SbcNumSubbands) := [(4, .subband4), (8, .subband8)]

/-- `sbc_alloc_method_to_hidl_map`. -/
def sbcAllocMethodToHidlMap : List (AudioCodecs.SbcAllocMethod × SbcAllocMethod) :=
  [(.allocMdS, .allocMdS), (.allocMdL, .allocMdL)]

/-- `aac_object_type_to_hidl_map`. -/
def aacObjectTypeToHidlMap : List (AudioCodecs.AacObjectType × AacObjectType) :=
  [(.mpeg2Lc, .mpeg2Lc), (.mpeg4Lc, .mpeg4Lc), (.mpeg4Ltp, .mpeg4Ltp),
    (.mpeg4Scalable, .mpeg4Scalable)]

/-- `ldac_channel_mode_to_hidl_map`. -/
def ldacChannelModeToHidlMap : List (AudioCodecs.LdacChannelMode × LdacChannelMode) :=
  [(.unknown, .unknown), (.stereo, .stereo), (.dual, .dual), (.mono, .mono)]

/-- `ldac_qindex_to_hidl_map`. -/
def ldacQindexToHidlMap : List (AudioCodecs.LdacQualityIndex × LdacQualityIndex) :=
  [(.high, .qualityHigh), (.mid, .qualityMid), (.low, .qualityLow), (.abr, .qualityAbr)]

/-! ### The conversion -/

/-- What a structure holds before its fields are set. -/
structure Uninitialized where
  sbc : SbcParameters
  aac : AacParameters
  ldac : LdacParameters
  config : CodecSpecific

/-- A conversion to `uint8_t`. -/
def toUint8 (x : ℤ) : ℕ := (x % 2 ^ 8).toNat

/-- A conversion to `uint32_t`. -/
def toUint32 (x : ℤ) : ℕ := (x % 2 ^ 32).toNat

/-- `if (map.find(key) != map.end()) field = map.at(key)`, on a field that holds `old`. -/
def assignFound {α β : Type} [BEq α] (map : List (α × β)) (value : β → BitVec 32) (old : BitVec 32)
    (key : α) : BitVec 32 :=
  ((map.lookup key).map value).getD old

/-- `to_hidl_codec_type_2_0`. -/
def toHidlCodecType20 (codecType : AudioCodecs.CodecType) : CodecType :=
  (codecTypeToHidl20Map.lookup codecType).getD .unknown

section

variable (V : Values)

/-- `to_hidl_sample_rate_2_0`. -/
def toHidlSampleRate20 (sampleRateHz : ℤ) : BitVec 32 :=
  V.sampleRate ((sampleRateToHidl21Map.lookup sampleRateHz).getD .unknown)

/-- `to_hidl_bits_per_sample`. -/
def toHidlBitsPerSample (bitPerSample : ℤ) : BitVec 32 :=
  V.bitsPerSample (if bitPerSample = 16 then .bits16 else if bitPerSample = 24 then .bits24
    else if bitPerSample = 32 then .bits32 else .unknown)

/-- `to_hidl_channel_mode`. -/
def toHidlChannelMode : Bluetooth.ChannelMode → BitVec 32
  | .mono => V.channelMode .mono
  | .stereo => V.channelMode .stereo
  | _ => V.channelMode .unknown

/-- `to_hidl_sbc_config`. -/
def toHidlSbcConfig (old : SbcParameters) (sbcConfig : AudioCodecs.SbcConfiguration) :
    SbcParameters where
  minBitpool := toUint8 sbcConfig.minBitpool
  maxBitpool := toUint8 sbcConfig.maxBitpool
  sampleRate := toHidlSampleRate20 V sbcConfig.sampleRateHz
  bitsPerSample := toHidlBitsPerSample V sbcConfig.bitsPerSample
  channelMode := assignFound sbcChannelModeToHidl20Map V.sbcChannelMode old.channelMode
    sbcConfig.channelMode
  blockLength := assignFound sbcBlockLengthToHidlMap V.sbcBlockLength old.blockLength
    sbcConfig.blockLength
  numSubbands := assignFound sbcSubbandsToHidlMap V.sbcNumSubbands old.numSubbands
    sbcConfig.numSubbands
  allocMethod := assignFound sbcAllocMethodToHidlMap V.sbcAllocMethod old.allocMethod
    sbcConfig.allocMethod

/-- `to_hidl_aac_config`. -/
def toHidlAacConfig (old : AacParameters) (aacConfig : AudioCodecs.AacConfiguration) :
    AacParameters where
  sampleRate := toHidlSampleRate20 V aacConfig.sampleRateHz
  bitsPerSample := toHidlBitsPerSample V aacConfig.bitsPerSample
  channelMode := toHidlChannelMode V aacConfig.channelMode
  objectType := assignFound aacObjectTypeToHidlMap V.aacObjectType old.objectType aacConfig.objectType
  variableBitRateEnabled := if aacConfig.variableBitRateEnabled then .enabled else .disabled

/-- `to_hidl_ldac_config`. -/
def toHidlLdacConfig (old : LdacParameters) (ldacConfig : AudioCodecs.LdacConfiguration) :
    LdacParameters where
  sampleRate := toHidlSampleRate20 V ldacConfig.sampleRateHz
  bitsPerSample := toHidlBitsPerSample V ldacConfig.bitsPerSample
  channelMode := assignFound ldacChannelModeToHidlMap V.ldacChannelMode old.channelMode
    ldacConfig.channelMode
  qualityIndex := assignFound ldacQindexToHidlMap V.ldacQualityIndex old.qualityIndex
    ldacConfig.qualityIndex

/-- `to_hidl_aptx_config`. -/
def toHidlAptxConfig (aptxConfig : AudioCodecs.AptxConfiguration) : AptxParameters where
  sampleRate := toHidlSampleRate20 V aptxConfig.sampleRateHz
  bitsPerSample := toHidlBitsPerSample V aptxConfig.bitsPerSample
  channelMode := toHidlChannelMode V aptxConfig.channelMode

/-- The union of `to_hidl_codec_config_2_0`. -/
def toHidlCodecSpecific (old : Uninitialized) : AudioCodecs.CodecSpecific → CodecSpecific
  | .sbcConfig data => .sbcConfig (toHidlSbcConfig V old.sbc data)
  | .aacConfig data => .aacConfig (toHidlAacConfig V old.aac data)
  | .ldacConfig data => .ldacConfig (toHidlLdacConfig V old.ldac data)
  | .aptxConfig data => .aptxConfig (toHidlAptxConfig V data)
  | _ => old.config

/-- `to_hidl_codec_config_2_0`. -/
def toHidlCodecConfig20 (old : Uninitialized) (codecConfig : AudioCodecs.CodecConfiguration) :
    CodecConfiguration where
  codecType := toHidlCodecType20 codecConfig.codecType
  encodedAudioBitrate := toUint32 codecConfig.encodedAudioBitrate
  peerMtu := toUint32 codecConfig.peerMtu
  isScmstEnabled := codecConfig.isScmstEnabled
  config := toHidlCodecSpecific V old codecConfig.config

end

/-! ### The parameters, one by one -/

/-- The values `advertised` for a parameter are converted to values that the field and the capability
of the other side admit. -/
def LinesUp {α : Type} (advertised : List α) (toHidl : α → BitVec 32) (field capability : BitVec 32) :
    Prop :=
  ∀ x ∈ advertised, Admits field capability (toHidl x)

section

variable {α : Type} (toHidl : α → BitVec 32) {field : BitVec 32}

theorem LinesUp.single {x : α} (h : IsBit field (toHidl x)) : LinesUp [x] toHidl field (toHidl x) := by
  intro y hy
  rw [List.mem_singleton.1 hy]
  exact h.admits_self

theorem LinesUp.join {advertised : List α} (h : ∀ x ∈ advertised, IsBit field (toHidl x)) :
    LinesUp advertised toHidl field (orAll (advertised.map toHidl)) :=
  fun x hx => (h x hx).admits_mem (List.mem_map_of_mem hx)

end

/-- The range of the bitpool is not changed by the conversion to `uint8_t`. -/
theorem toUint8_of_bitpool {x : ℤ} (hmin : 2 ≤ x) (hmax : x ≤ 53) : (toUint8 x : ℤ) = x := by
  unfold toUint8
  omega

section

variable {V : Values} (hV : V.SingleBits)

include hV

theorem isBit_sampleRate {hz : ℤ} (h : hz ∈ [44100, 48000, 88200, 96000]) :
    IsBit 0xff (toHidlSampleRate20 V hz) := by
  simp only [List.mem_cons, List.not_mem_nil, or_false] at h
  rcases h with rfl | rfl | rfl | rfl
  · exact hV.sampleRate .rate44100 nofun nofun nofun
  · exact hV.sampleRate .rate48000 nofun nofun nofun
  · exact hV.sampleRate .rate88200 nofun nofun nofun
  · exact hV.sampleRate .rate96000 nofun nofun nofun

theorem isBit_bitsPerSample {bits : ℤ} (h : bits ∈ [16, 24, 32]) :
    IsBit 0x07 (toHidlBitsPerSample V bits) := by
  simp only [List.mem_cons, List.not_mem_nil, or_false] at h
  rcases h with rfl | rfl | rfl
  · exact hV.bitsPerSample .bits16 nofun
  · exact hV.bitsPerSample .bits24 nofun
  · exact hV.bitsPerSample .bits32 nofun

theorem isBit_sbcChannelMode (old : BitVec 32) {mode : AudioCodecs.SbcChannelMode} (h : mode ≠ .unknown) :
    IsBit 0x0f (assignFound sbcChannelModeToHidl20Map V.sbcChannelMode old mode) := by
  cases mode with
  | unknown => exact absurd rfl h
  | jointStereo => exact hV.sbcChannelMode .jointStereo nofun
  | stereo => exact hV.sbcChannelMode .stereo nofun
  | dual => exact hV.sbcChannelMode .dual nofun
  | mono => exact hV.sbcChannelMode .mono nofun

theorem isBit_ldacChannelMode (old : BitVec 32) {mode : AudioCodecs.LdacChannelMode}
    (h : mode ≠ .unknown) :
    IsBit 0x07 (assignFound ldacChannelModeToHidlMap V.ldacChannelMode old mode) := by
  cases mode with
  | unknown => exact absurd rfl h
  | stereo => exact hV.ldacChannelMode .stereo nofun
  | dual => exact hV.ldacChannelMode .dual nofun
  | mono => exact hV.ldacChannelMode .mono nofun

theorem isBit_sbcBlockLength (old : BitVec 32) {length : ℤ} (h : length ∈ [4, 8, 12, 16]) :
    IsBit 0xf0 (assignFound sbcBlockLengthToHidlMap V.sbcBlockLength old length) := by
  simp only [List.mem_cons, List.not_mem_nil, or_false] at h
  rcases h with rfl | rfl | rfl | rfl
  · exact hV.sbcBlockLength .blocks4
  · exact hV.sbcBlockLength .blocks8
  · exact hV.sbcBlockLength .blocks12
  · exact hV.sbcBlockLength .blocks16

theorem linesUp_rate44100 :
    LinesUp [44100] (toHidlSampleRate20 V) 0xff (V.sampleRate .rate44100) :=
  LinesUp.single (toHidlSampleRate20 V) (isBit_sampleRate hV (by decide))

theorem linesUp_rate48000 : LinesUp [44100, 48000] (toHidlSampleRate20 V) 0xff
    (orAll [V.sampleRate .rate44100, V.sampleRate .rate48000]) :=
  LinesUp.join (toHidlSampleRate20 V) fun _ hx =>
    isBit_sampleRate hV (List.mem_append_left [88200, 96000] hx)

theorem linesUp_bits16 : LinesUp [16] (toHidlBitsPerSample V) 0x07 (V.bitsPerSample .bits16) :=
  LinesUp.single (toHidlBitsPerSample V) (isBit_bitsPerSample hV (by decide))

theorem linesUp_bits24 : LinesUp [24] (toHidlBitsPerSample V) 0x07 (V.bitsPerSample .bits24) :=
  LinesUp.single (toHidlBitsPerSample V) (isBit_bitsPerSample hV (by decide))

theorem linesUp_stereo : LinesUp [.stereo] (toHidlChannelMode V) 0x03 (V.channelMode .stereo) :=
  LinesUp.single (toHidlChannelMode V) (hV.channelMode .stereo nofun)

/-! ### The codecs -/

theorem sbc_toHidl (old : SbcParameters) {data : AudioCodecs.SbcConfiguration}
    (h : AudioCodecs.isOffloadSbcConfigurationValid (.sbcConfig data) = true) :
    isOffloadSbcConfigurationValid V (.sbcConfig (toHidlSbcConfig V old data)) = true := by
  simp only [AudioCodecs.isOffloadSbcConfigurationValid, AudioCodecs.containedInVector,
    Bool.and_eq_true, decide_eq_true_eq] at h
  obtain ⟨⟨⟨⟨⟨⟨⟨⟨hrate, hblock⟩, hsub⟩, hbits⟩, hmode⟩, halloc⟩, hpool⟩, hmin⟩, hmax⟩ := h
  have arate : Admits 0xff (kDefaultOffloadSbcCapability V).sampleRate
      (toHidlSbcConfig V old data).sampleRate := linesUp_rate44100 hV _ hrate
  have amode : Admits 0x0f (kDefaultOffloadSbcCapability V).channelMode
      (toHidlSbcConfig V old data).channelMode :=
    LinesUp.join (assignFound sbcChannelModeToHidl20Map V.sbcChannelMode old.channelMode)
      (fun mode hm => isBit_sbcChannelMode hV _ (by rintro rfl; exact absurd hm (by decide))) _ hmode
  have ablock : Admits 0xf0 (kDefaultOffloadSbcCapability V).blockLength
      (toHidlSbcConfig V old data).blockLength :=
    LinesUp.join (assignFound sbcBlockLengthToHidlMap V.sbcBlockLength old.blockLength)
      (fun _ hl => isBit_sbcBlockLength hV _ hl) _ hblock
  have asub : Admits 0x0c (kDefaultOffloadSbcCapability V).numSubbands
      (toHidlSbcConfig V old data).numSubbands :=
    LinesUp.single (assignFound sbcSubbandsToHidlMap V.sbcNumSubbands old.numSubbands)
      (hV.sbcNumSubbands .subband8) _ hsub
  have aalloc : Admits 0x03 (kDefaultOffloadSbcCapability V).allocMethod
      (toHidlSbcConfig V old data).allocMethod :=
    LinesUp.single (assignFound sbcAllocMethodToHidlMap V.sbcAllocMethod old.allocMethod)
      (hV.sbcAllocMethod .allocMdL) _ halloc
  have abits : Admits 0x07 (kDefaultOffloadSbcCapability V).bitsPerSample
      (toHidlSbcConfig V old data).bitsPerSample := linesUp_bits16 hV _ hbits
  have hlow : (2 : ℤ) ≤ data.minBitpool := hmin
  have hhigh : data.maxBitpool ≤ 53 := hmax
  have hmin8 := toUint8_of_bitpool hlow (by omega)
  have hmax8 := toUint8_of_bitpool (show 2 ≤ data.maxBitpool by omega) hhigh
  have bpool : ¬(toHidlSbcConfig V old data).minBitpool > (toHidlSbcConfig V old data).maxBitpool := by
    show ¬toUint8 data.minBitpool > toUint8 data.maxBitpool
    omega
  have bmin : (kDefaultOffloadSbcCapability V).minBitpool ≤ (toHidlSbcConfig V old data).minBitpool := by
    show 2 ≤ toUint8 data.minBitpool
    omega
  have bmax : (toHidlSbcConfig V old data).maxBitpool ≤ (kDefaultOffloadSbcCapability V).maxBitpool := by
    show toUint8 data.maxBitpool ≤ 53
    omega
  simp only [isOffloadSbcConfigurationValid, arate.single, amode.single, ablock.single, asub.single,
    aalloc.single, abits.single, bpool, arate.intersects, amode.intersects, ablock.intersects,
    asub.intersects, aalloc.intersects, abits.intersects, bmin, bmax, decide_true, decide_false,
    Bool.not_true, Bool.or_self, Bool.and_self, Bool.false_eq_true, if_false]

theorem aac_toHidl (old : AacParameters) {data : AudioCodecs.AacConfiguration}
    (h : AudioCodecs.isOffloadAacConfigurationValid (.aacConfig data) = true) :
    isOffloadAacConfigurationValid V (.aacConfig (toHidlAacConfig V old data)) = true := by
  simp only [AudioCodecs.isOffloadAacConfigurationValid, AudioCodecs.containedInVector,
    Bool.and_eq_true, decide_eq_true_eq] at h
  obtain ⟨⟨⟨⟨hrate, hbits⟩, hmode⟩, htype⟩, -⟩ := h
  have atype : Admits 0xf0 (kDefaultOffloadAacCapability V).objectType
      (toHidlAacConfig V old data).objectType :=
    LinesUp.single (assignFound aacObjectTypeToHidlMap V.aacObjectType old.objectType)
      (hV.aacObjectType .mpeg2Lc) _ htype
  have arate : Admits 0xff (kDefaultOffloadAacCapability V).sampleRate
      (toHidlAacConfig V old data).sampleRate := linesUp_rate44100 hV _ hrate
  have amode : Admits 0x03 (kDefaultOffloadAacCapability V).channelMode
      (toHidlAacConfig V old data).channelMode := linesUp_stereo hV _ hmode
  have abits : Admits 0x07 (kDefaultOffloadAacCapability V).bitsPerSample
      (toHidlAacConfig V old data).bitsPerSample := linesUp_bits16 hV _ hbits
  have henabled : (kDefaultOffloadAacCapability V).variableBitRateEnabled = .enabled := rfl
  simp only [isOffloadAacConfigurationValid, atype.single, arate.single, amode.single, abits.single,
    atype.intersects, arate.intersects, amode.intersects, abits.intersects, henabled, decide_true,
    Bool.or_true, Bool.not_true, Bool.or_self, Bool.and_self, Bool.false_eq_true, if_false]

/-- The quality index that AIDL advertises is compared with the enumerators, and not masked. -/
theorem ldac_toHidl (old : LdacParameters) {data : AudioCodecs.LdacConfiguration}
    (h : AudioCodecs.isOffloadLdacConfigurationValid (.ldacConfig data) = true) :
    isOffloadLdacConfigurationValid V (.ldacConfig (toHidlLdacConfig V old data)) = true := by
  simp only [AudioCodecs.isOffloadLdacConfigurationValid, AudioCodecs.containedInVector,
    Bool.and_eq_true, decide_eq_true_eq] at h
  obtain ⟨⟨⟨hrate, hbits⟩, hmode⟩, hquality⟩ := h
  have arate : Admits 0xff (kDefaultOffloadLdacCapability V).sampleRate
      (toHidlLdacConfig V old data).sampleRate :=
    LinesUp.join (toHidlSampleRate20 V) (fun _ hx => isBit_sampleRate hV hx) _ hrate
  have amode : Admits 0x07 (kDefaultOffloadLdacCapability V).channelMode
      (toHidlLdacConfig V old data).channelMode :=
    LinesUp.join (assignFound ldacChannelModeToHidlMap V.ldacChannelMode old.channelMode)
      (fun mode hm => isBit_ldacChannelMode hV _ (by rintro rfl; exact absurd hm (by decide))) _ hmode
  have abits : Admits 0x07 (kDefaultOffloadLdacCapability V).bitsPerSample
      (toHidlLdacConfig V old data).bitsPerSample :=
    LinesUp.join (toHidlBitsPerSample V) (fun _ hx => isBit_bitsPerSample hV hx) _ hbits
  have hhigh : (toHidlLdacConfig V old data).qualityIndex = V.ldacQualityIndex .qualityHigh := by
    have hindex : data.qualityIndex = .high := List.mem_singleton.1 hquality
    show assignFound ldacQindexToHidlMap V.ldacQualityIndex old.qualityIndex data.qualityIndex = _
    rw [hindex]
    rfl
  have hlow : ¬(toHidlLdacConfig V old data).qualityIndex > V.ldacQualityIndex .qualityLow := by
    rw [hhigh]
    exact BitVec.not_lt.2 hV.ldacQualityIndex
  simp only [isOffloadLdacConfigurationValid, arate.single, amode.single, abits.single, hlow,
    arate.intersects, amode.intersects, abits.intersects, decide_false, Bool.false_and, Bool.not_true,
    Bool.or_self, Bool.and_self, Bool.false_eq_true, if_false]

omit hV in
theorem aptxLike_toHidl {aidl : AudioCodecs.AptxCapabilities} {hidl : AptxParameters}
    (hrate : LinesUp aidl.sampleRateHz (toHidlSampleRate20 V) 0xff hidl.sampleRate)
    (hmode : LinesUp aidl.channelMode (toHidlChannelMode V) 0x03 hidl.channelMode)
    (hbits : LinesUp aidl.bitsPerSample (toHidlBitsPerSample V) 0x07 hidl.bitsPerSample)
    {data : AudioCodecs.AptxConfiguration}
    (h : AudioCodecs.isOffloadAptxValid aidl (.aptxConfig data) = true) :
    isOffloadAptxValid hidl (.aptxConfig (toHidlAptxConfig V data)) = true := by
  simp only [AudioCodecs.isOffloadAptxValid, AudioCodecs.containedInVector, Bool.and_eq_true,
    decide_eq_true_eq] at h
  obtain ⟨⟨hr, hb⟩, hm⟩ := h
  have arate : Admits 0xff hidl.sampleRate (toHidlAptxConfig V data).sampleRate := hrate _ hr
  have amode : Admits 0x03 hidl.channelMode (toHidlAptxConfig V data).channelMode := hmode _ hm
  have abits : Admits 0x07 hidl.bitsPerSample (toHidlAptxConfig V data).bitsPerSample := hbits _ hb
  simp only [isOffloadAptxValid, arate.single, amode.single, abits.single, arate.intersects,
    amode.intersects, abits.intersects, Bool.not_true, Bool.or_self, Bool.and_self,
    Bool.false_eq_true, if_false]

theorem aptx_toHidl {data : AudioCodecs.AptxConfiguration}
    (h : AudioCodecs.isOffloadAptxConfigurationValid (.aptxConfig data) = true) :
    isOffloadAptxConfigurationValid V (.aptxConfig (toHidlAptxConfig V data)) = true :=
  aptxLike_toHidl (linesUp_rate48000 hV) (linesUp_stereo hV) (linesUp_bits16 hV) h

theorem aptxHd_toHidl {data : AudioCodecs.AptxConfiguration}
    (h : AudioCodecs.isOffloadAptxHdConfigurationValid (.aptxConfig data) = true) :
    isOffloadAptxHdConfigurationValid V (.aptxConfig (toHidlAptxConfig V data)) = true :=
  aptxLike_toHidl (linesUp_rate48000 hV) (linesUp_stereo hV) (linesUp_bits24 hV) h

end

/-! ### The validators -/

/-- A bitrate in the range of the HIDL validator is not changed by the conversion to `uint32_t`. -/
theorem toUint32_of_bitrate {x : ℤ} (hlow : 1 ≤ x) (hhigh : x ≤ 0xffffff) :
    ¬(toUint32 x < 0x00000001 ∨ 0x00ffffff < toUint32 x) := by
  unfold toUint32
  omega

/-- A configuration that the AIDL validator accepts for one of the five codecs of HIDL is converted to
one that the HIDL validator accepts, whatever stood in the structures before. -/
theorem isOffloadCodecConfigurationValid_toHidl (V : Values) (hV : V.SingleBits) (old : Uninitialized)
    (codecConfig : AudioCodecs.CodecConfiguration)
    (hcodec : codecConfig.codecType ∈ [.sbc, .aac, .ldac, .aptx, .aptxHd])
    (hlow : 1 ≤ codecConfig.encodedAudioBitrate) (hhigh : codecConfig.encodedAudioBitrate ≤ 0xffffff)
    (h : AudioCodecs.isOffloadCodecConfigurationValid .a2dpHardwareOffloadEncoding codecConfig = true) :
    isOffloadCodecConfigurationValid V .a2dpHardwareOffload (toHidlCodecConfig20 V old codecConfig) =
      true := by
  have hrate : ¬((toHidlCodecConfig20 V old codecConfig).encodedAudioBitrate < 0x00000001 ∨
      0x00ffffff < (toHidlCodecConfig20 V old codecConfig).encodedAudioBitrate) :=
    toUint32_of_bitrate hlow hhigh
  unfold isOffloadCodecConfigurationValid
  rw [if_neg (by decide), if_neg hrate]
  obtain ⟨codecType, bitrate, peerMtu, isScmstEnabled, config⟩ := codecConfig
  simp only [List.mem_cons, List.not_mem_nil, or_false] at hcodec
  -- each validator accepts one member of the union only
  rcases hcodec with rfl | rfl | rfl | rfl | rfl
  · cases config with
    | sbcConfig data => exact sbc_toHidl hV old.sbc h
    | _ => exact nomatch h
  · cases config with
    | aacConfig data => exact aac_toHidl hV old.aac h
    | _ => exact nomatch h
  · cases config with
    | ldacConfig data => exact ldac_toHidl hV old.ldac h
    | _ => exact nomatch h
  · cases config with
    | aptxConfig data => exact aptx_toHidl hV h
    | _ => exact nomatch h
  · cases config with
    | aptxConfig data => exact aptxHd_toHidl hV h
    | _ => exact nomatch h

/-- SBC in joint stereo at 328 kbit/s, as it is usual for A2DP. -/
def sbcJointStereo : AudioCodecs.CodecConfiguration where
  codecType := .sbc
  encodedAudioBitrate := 328000
  peerMtu := 1005
  isScmstEnabled := false
  config := .sbcConfig ⟨44100, .jointStereo, 16, 8, .allocMdL, 16, 2, 53⟩

theorem isOffloadCodecConfigurationValid_toHidl_sbc :
    isOffloadCodecConfigurationValid values20 .a2dpHardwareOffload (toHidlCodecConfig20 values20
      ⟨⟨0, 0, 0, 0, 0, 0, 0, 0⟩, ⟨0, 0, 0, .disabled, 0⟩, ⟨0, 0, 0, 0⟩, .aptxConfig ⟨0, 0, 0⟩⟩
      sbcJointStereo) = true :=
  isOffloadCodecConfigurationValid_toHidl values20 values20_singleBits _ sbcJointStereo (by decide)
    (by decide) (by decide) (by decide)

end TrebleDoze.Bluetooth.Hidl
