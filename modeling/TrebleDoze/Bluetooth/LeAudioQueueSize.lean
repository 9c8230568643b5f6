import Mathlib.Data.Rat.Floor
import Mathlib.Tactic.Ring
import Mathlib.Tactic.Positivity
import TrebleDoze.Bluetooth.HidlLeAudio

/-!
# The queue of an LE Audio software provider

`LeAudioSoftwareAudioProvider::startSession` sizes the data queue from the PCM configuration: the rate in
kilohertz, times the whole milliseconds of the data interval, times two. The floating-point product is
taken exactly, and its conversion to `uint32_t` is a parameter, since it is not defined for a product out
of range.

* `dataMqSize_eq`: the size, for an interval of a millisecond or more;
* `holdsTwoIntervals_iff`: when the queue has room for two intervals.
-/

namespace TrebleDoze.Bluetooth

open Hidl (Payload)

/-! ### The provider -/

/-- The derived classes of `LeAudioSoftwareAudioProvider`. -/
inductive LeAudioSoftwareProvider where
  | output | input | broadcast
  deriving DecidableEq, Repr

/-- `session_type_`. -/
def LeAudioSoftwareProvider.sessionType : LeAudioSoftwareProvider → SessionType
  | output => .leAudioSoftwareEncoding
  | input => .leAudioSoftwareDecoding
  | broadcast => .leAudioBroadcastSoftwareEncoding

/-- `kBufferOutCount`. -/
def kBufferOutCount : ℤ := 2

/-- `kBufferInCount`. -/
def kBufferInCount : ℤ := 2

/-- `buffer_modifier`. -/
def bufferModifier (sessionType : SessionType) : ℤ :=
  if sessionType = .leAudioSoftwareEncoding ∨ sessionType = .leAudioBroadcastSoftwareEncoding then
    kBufferOutCount
  else if sessionType = .leAudioSoftwareDecoding then kBufferInCount
  else 0

/-- `channel_mode_to_channel_count`. -/
def channelModeToChannelCount : ChannelMode → ℤ
  | .mono => 1
  | .stereo => 2
  | _ => 0

/-- `bytes_per_sample`; 24 bits are sent unpacked. -/
def bytesPerSample (bitsPerSample : ℤ) : ℤ :=
  if bitsPerSample = 24 then 4 else bitsPerSample.tdiv 8

/-- `IsSoftwarePcmConfigurationValid`, with `kDefaultSoftwarePcmCapabilities`; the data interval is not
checked. -/
def isSoftwarePcmConfigurationValid (pcmConfig : PcmConfiguration) : Bool :=
  [8000, 16000, 24000, 32000, 44100, 48000, 88200, 96000].contains pcmConfig.sampleRateHz &&
    [16, 24, 32].contains pcmConfig.bitsPerSample &&
    [ChannelMode.mono, .stereo].contains pcmConfig.channelMode

section

variable (toUint32 : ℚ → UInt32)

/-- `data_mq_size`. -/
def dataMqSize (sessionType : SessionType) (pcmConfig : PcmConfiguration) : UInt32 :=
  toUint32 (((⌈(pcmConfig.sampleRateHz : ℚ)⌉ : ℤ) : ℚ) / 1000 *
    (channelModeToChannelCount pcmConfig.channelMode : ℚ) *
    (bytesPerSample pcmConfig.bitsPerSample : ℚ) *
    (pcmConfig.dataIntervalUs.tdiv 1000 : ℚ) * (bufferModifier sessionType : ℚ))

/-- The queue that is made for a PCM configuration, unless that is refused. -/
def pcmQueueSize (sessionType : SessionType) (pcmConfig : PcmConfiguration) : Option UInt32 :=
  if !isSoftwarePcmConfigurationValid pcmConfig then none
  else if dataMqSize toUint32 sessionType pcmConfig ≤ 0 then none
  else some (dataMqSize toUint32 sessionType pcmConfig)

/-- `startSession`, as far as the allocation of the queue: the size, or `none` where it returns
`EX_ILLEGAL_ARGUMENT` before. -/
def LeAudioSoftwareProvider.startSession (provider : LeAudioSoftwareProvider) :
    AudioConfiguration Payload → Option UInt32
  | ⟨.pcmConfig, pcmConfig⟩ => pcmQueueSize toUint32 provider.sessionType pcmConfig
  | _ => none

/-- The conversion drops the fraction of what `uint32_t` can hold. -/
def Truncates : Prop := ∀ x : ℚ, -1 < x → x < 4294967296 → (toUint32 x).toNat = ⌊x⌋.toNat

end

/-- A conversion that wraps what it cannot hold. -/
def truncUint32 (x : ℚ) : UInt32 := UInt32.ofNat ⌊x⌋.toNat

/-- The whole frames of an interval. -/
def intervalFrames (sampleRateHz us : ℤ) : ℤ := sampleRateHz * us / 1000000

/-- The size of a frame in bytes. -/
def frameBytes (pcmConfig : PcmConfiguration) : ℤ :=
  channelModeToChannelCount pcmConfig.channelMode * bytesPerSample pcmConfig.bitsPerSample

/-- The queue has room for two intervals. -/
structure HoldsTwoIntervals (pcmConfig : PcmConfiguration) (size : UInt32) : Prop where
  pos : 0 < size
  frames : 2 * intervalFrames pcmConfig.sampleRateHz pcmConfig.dataIntervalUs * frameBytes pcmConfig ≤
    (size.toNat : ℤ)

/-- An `int32_t`. -/
def InInt32 (x : ℤ) : Prop := -2147483648 ≤ x ∧ x < 2147483648

/-- The interval is shorter than a millisecond, or it has no more frames than its whole milliseconds. -/
def NoFrameLost (pcmConfig : PcmConfiguration) : Prop :=
  pcmConfig.dataIntervalUs < 1000 ∨
    intervalFrames pcmConfig.sampleRateHz pcmConfig.dataIntervalUs =
      intervalFrames pcmConfig.sampleRateHz (pcmConfig.dataIntervalUs / 1000 * 1000)

/-! ### The size -/

theorem bufferModifier_sessionType (provider : LeAudioSoftwareProvider) :
    bufferModifier provider.sessionType = 2 := by
  cases provider <;> rfl

/-- What the validator has checked, as bounds. -/
structure InRange (pcmConfig : PcmConfiguration) : Prop where
  rate_pos : 8000 ≤ pcmConfig.sampleRateHz
  rate_le : pcmConfig.sampleRateHz ≤ 96000
  frame_pos : 2 ≤ frameBytes pcmConfig
  frame_le : frameBytes pcmConfig ≤ 8

theorem inRange_of_valid {pcmConfig : PcmConfiguration}
    (h : isSoftwarePcmConfigurationValid pcmConfig = true) : InRange pcmConfig := by
  obtain ⟨rate, mode, bits, us⟩ := pcmConfig
  simp only [isSoftwarePcmConfigurationValid, Bool.and_eq_true, List.contains_iff_mem, List.mem_cons,
    List.not_mem_nil, or_false] at h
  obtain ⟨⟨hrate, hbits⟩, hmode⟩ := h
  have hframe : 2 ≤ channelModeToChannelCount mode * bytesPerSample bits ∧
      channelModeToChannelCount mode * bytesPerSample bits ≤ 8 := by
    rcases hmode with rfl | rfl <;> rcases hbits with rfl | rfl | rfl <;> decide
  refine ⟨?_, ?_, hframe.1, hframe.2⟩
  · show 8000 ≤ rate
    omega
  · show rate ≤ 96000
    omega

/-- The bytes of two buffers, in thousandths. -/
def milliBytes (pcmConfig : PcmConfiguration) : ℤ :=
  2 * frameBytes pcmConfig * (pcmConfig.sampleRateHz * pcmConfig.dataIntervalUs.tdiv 1000)

section

variable {toUint32 : ℚ → UInt32} {pcmConfig : PcmConfiguration}

theorem dataMqSize_eq_div (provider : LeAudioSoftwareProvider) :
    dataMqSize toUint32 provider.sessionType pcmConfig =
      toUint32 ((milliBytes pcmConfig : ℚ) / ((1000 : ℕ) : ℚ)) := by
  unfold dataMqSize
  rw [bufferModifier_sessionType, Int.ceil_intCast]
  congr 1
  simp only [milliBytes, frameBytes]
  push_cast
  ring

theorem milliBytes_lt (hr : InRange pcmConfig) (hus : InInt32 pcmConfig.dataIntervalUs)
    (hms : 0 ≤ pcmConfig.dataIntervalUs) :
    0 ≤ milliBytes pcmConfig ∧ milliBytes pcmConfig < 4294967296 * 1000 := by
  have hq0 : 0 ≤ pcmConfig.dataIntervalUs.tdiv 1000 := Int.tdiv_nonneg hms (by decide)
  have hq1 : pcmConfig.dataIntervalUs.tdiv 1000 ≤ 2147483 := by
    rw [Int.tdiv_eq_ediv_of_nonneg hms]
    have hlt := hus.2
    omega
  have hr0 : 0 ≤ pcmConfig.sampleRateHz := le_trans (by decide) hr.rate_pos
  have hw0 : 0 ≤ 2 * frameBytes pcmConfig := by
    have hpos := hr.frame_pos
    omega
  constructor
  · exact mul_nonneg hw0 (mul_nonneg hr0 hq0)
  · calc milliBytes pcmConfig ≤ 2 * 8 * (96000 * 2147483) := by
          unfold milliBytes
          have hw := hr.frame_le
          have hrate := hr.rate_le
          gcongr
      _ < 4294967296 * 1000 := by decide

theorem dataMqSize_toNat (htrunc : Truncates toUint32) (provider : LeAudioSoftwareProvider)
    (hr : InRange pcmConfig) (hus : InInt32 pcmConfig.dataIntervalUs)
    (hms : 0 ≤ pcmConfig.dataIntervalUs) :
    ((dataMqSize toUint32 provider.sessionType pcmConfig).toNat : ℤ) = milliBytes pcmConfig / 1000 := by
  obtain ⟨h0, h1⟩ := milliBytes_lt hr hus hms
  have hlow : (-1 : ℚ) < (milliBytes pcmConfig : ℚ) / ((1000 : ℕ) : ℚ) := by
    have : (0 : ℚ) ≤ (milliBytes pcmConfig : ℚ) / ((1000 : ℕ) : ℚ) :=
      div_nonneg (Int.cast_nonneg h0) (Nat.cast_nonneg _)
    linarith
  have hhigh : (milliBytes pcmConfig : ℚ) / ((1000 : ℕ) : ℚ) < 4294967296 := by
    rw [div_lt_iff₀ (by norm_num)]
    exact_mod_cast h1
  rw [dataMqSize_eq_div, htrunc _ hlow hhigh, Rat.floor_intCast_div_natCast]
  exact Int.toNat_of_nonneg (Int.ediv_nonneg h0 (by decide))

theorem dataMqSize_eq (htrunc : Truncates toUint32) (provider : LeAudioSoftwareProvider)
    (hr : InRange pcmConfig) (hus : InInt32 pcmConfig.dataIntervalUs)
    (hms : 1000 ≤ pcmConfig.dataIntervalUs) :
    ((dataMqSize toUint32 provider.sessionType pcmConfig).toNat : ℤ) =
      2 * frameBytes pcmConfig * (pcmConfig.sampleRateHz * (pcmConfig.dataIntervalUs / 1000)) / 1000 := by
  rw [dataMqSize_toNat htrunc provider hr hus (by omega), milliBytes,
    Int.tdiv_eq_ediv_of_nonneg (by omega)]

theorem dataMqSize_pos (htrunc : Truncates toUint32) (provider : LeAudioSoftwareProvider)
    (hr : InRange pcmConfig) (hus : InInt32 pcmConfig.dataIntervalUs)
    (hms : 1000 ≤ pcmConfig.dataIntervalUs) :
    0 < dataMqSize toUint32 provider.sessionType pcmConfig := by
  have hq : 1 ≤ pcmConfig.dataIntervalUs / 1000 := by omega
  have hbytes : 1000 ≤ 2 * frameBytes pcmConfig *
      (pcmConfig.sampleRateHz * (pcmConfig.dataIntervalUs / 1000)) := by
    calc (1000 : ℤ) ≤ 2 * 2 * (8000 * 1) := by decide
      _ ≤ _ := by
          have hw := hr.frame_pos
          have hrate := hr.rate_pos
          gcongr
  have hsize := dataMqSize_eq htrunc provider hr hus hms
  rw [UInt32.lt_iff_toNat_lt]
  show 0 < (dataMqSize toUint32 provider.sessionType pcmConfig).toNat
  omega

/-! ### Two intervals -/

theorem intervalFrames_whole (rate ms : ℤ) : intervalFrames rate (ms * 1000) = rate * ms / 1000 := by
  unfold intervalFrames
  rw [← mul_assoc]
  exact Int.mul_ediv_mul_of_pos_left (rate * ms) 1000 (by decide)

theorem intervalFrames_mono {rate us us' : ℤ} (hrate : 0 ≤ rate) (h : us ≤ us') :
    intervalFrames rate us ≤ intervalFrames rate us' :=
  Int.ediv_le_ediv (by decide) (mul_le_mul_of_nonneg_left h hrate)

/-- Two buffers of whole frames are in the size exactly if they are in the whole milliseconds. -/
theorem frames_le_iff {frames frame x : ℤ} (hframe : 0 < frame) :
    2 * frames * frame ≤ 2 * frame * x / 1000 ↔ frames ≤ x / 1000 := by
  rw [Int.le_ediv_iff_mul_le (by decide), Int.le_ediv_iff_mul_le (by decide)]
  have hleft : 2 * frames * frame * 1000 = 2 * frame * (frames * 1000) := by ring
  rw [hleft]
  exact mul_le_mul_iff_of_pos_left (by omega)

theorem intervalFrames_nonpos {rate us : ℤ} (hrate : 0 ≤ rate) (hus : us < 0) :
    intervalFrames rate us ≤ 0 := by
  have hprod : rate * us ≤ 0 := mul_nonpos_of_nonneg_of_nonpos hrate hus.le
  unfold intervalFrames
  omega

theorem pcmQueueSize_eq_some_iff {t : SessionType} {size : UInt32}
    (hvalid : isSoftwarePcmConfigurationValid pcmConfig = true) :
    pcmQueueSize toUint32 t pcmConfig = some size ↔
      0 < size ∧ dataMqSize toUint32 t pcmConfig = size := by
  unfold pcmQueueSize
  rw [if_neg (by rw [hvalid]; decide)]
  split_ifs with hsize
  · refine iff_of_false (fun h => by cases h) ?_
    rintro ⟨hpos, rfl⟩
    exact UInt32.not_lt.2 hsize hpos
  · rw [Option.some.injEq]
    constructor
    · rintro rfl
      exact ⟨UInt32.not_le.1 hsize, rfl⟩
    · exact fun h => h.2

/-- A size with which `startSession` proceeds, for an interval of a millisecond or more. -/
theorem startSession_of_size (htrunc : Truncates toUint32) (provider : LeAudioSoftwareProvider)
    (hvalid : isSoftwarePcmConfigurationValid pcmConfig = true)
    (hus : InInt32 pcmConfig.dataIntervalUs) (hms : 1000 ≤ pcmConfig.dataIntervalUs) {size : UInt32}
    (hsize : 2 * frameBytes pcmConfig *
      (pcmConfig.sampleRateHz * (pcmConfig.dataIntervalUs / 1000)) / 1000 = (size.toNat : ℤ)) :
    provider.startSession toUint32 ⟨.pcmConfig, pcmConfig⟩ = some size := by
  have hr := inRange_of_valid hvalid
  have heq : dataMqSize toUint32 provider.sessionType pcmConfig = size :=
    UInt32.toNat_inj.1 (Int.ofNat_inj.1 ((dataMqSize_eq htrunc provider hr hus hms).trans hsize))
  exact (pcmQueueSize_eq_some_iff hvalid).2 ⟨heq ▸ dataMqSize_pos htrunc provider hr hus hms, heq⟩

/-- **When the queue has room for two intervals**: for a PCM configuration that the validator accepts,
whatever its data interval, each size with which `startSession` proceeds to the allocation is positive and
that of two intervals or more exactly if the interval is shorter than a millisecond, or no whole frame of
it is lost when it is rounded to milliseconds. -/
theorem holdsTwoIntervals_iff (htrunc : Truncates toUint32) (provider : LeAudioSoftwareProvider)
    (hvalid : isSoftwarePcmConfigurationValid pcmConfig = true)
    (hus : InInt32 pcmConfig.dataIntervalUs) :
    (∀ size, provider.startSession toUint32 ⟨.pcmConfig, pcmConfig⟩ = some size →
        HoldsTwoIntervals pcmConfig size) ↔ NoFrameLost pcmConfig := by
  have hr := inRange_of_valid hvalid
  have hrate : 0 ≤ pcmConfig.sampleRateHz := le_trans (by decide) hr.rate_pos
  have hframe : 0 < frameBytes pcmConfig := lt_of_lt_of_le (by decide) hr.frame_pos
  have hstart : ∀ size, provider.startSession toUint32 ⟨.pcmConfig, pcmConfig⟩ = some size ↔
      0 < size ∧ dataMqSize toUint32 provider.sessionType pcmConfig = size := fun size =>
    pcmQueueSize_eq_some_iff hvalid
  unfold NoFrameLost
  rcases lt_or_ge pcmConfig.dataIntervalUs 1000 with hshort | hlong
  · refine iff_of_true (fun size hsize => ?_) (.inl hshort)
    obtain ⟨hpos, hsize⟩ := (hstart size).1 hsize
    refine ⟨hpos, ?_⟩
    rcases lt_or_ge pcmConfig.dataIntervalUs 0 with hneg | hnonneg
    · -- the conversion is not defined, but nothing is asked of a negative interval
      have hframes := intervalFrames_nonpos hrate hneg
      have hbound : 2 * intervalFrames pcmConfig.sampleRateHz pcmConfig.dataIntervalUs *
          frameBytes pcmConfig ≤ 0 :=
        mul_nonpos_of_nonpos_of_nonneg (by omega) hframe.le
      omega
    · -- the product is zero, and `startSession` returns
      have hzero := dataMqSize_toNat htrunc provider hr hus hnonneg
      rw [hsize, milliBytes, Int.tdiv_eq_ediv_of_nonneg hnonneg,
        Int.ediv_eq_zero_of_lt hnonneg hshort] at hzero
      have hsize0 : 0 < size.toNat := hpos
      omega
  · have hsize := dataMqSize_eq htrunc provider hr hus hlong
    have hle := intervalFrames_mono hrate (show pcmConfig.dataIntervalUs / 1000 * 1000 ≤
      pcmConfig.dataIntervalUs by omega)
    rw [intervalFrames_whole] at hle
    have hms := dataMqSize_pos htrunc provider hr hus hlong
    rw [intervalFrames_whole]
    constructor
    · intro h
      have hframes := (h _ ((hstart _).2 ⟨hms, rfl⟩)).frames
      rw [hsize, frames_le_iff hframe] at hframes
      exact .inr (le_antisymm hframes hle)
    · intro h size hstarted
      obtain ⟨hpos, rfl⟩ := (hstart size).1 hstarted
      refine ⟨hpos, ?_⟩
      rw [hsize, frames_le_iff hframe]
      exact (h.resolve_left (not_lt.2 hlong)).le

end

theorem truncates_truncUint32 : Truncates truncUint32 := by
  intro x _ hx
  have hfloor : ⌊x⌋ < 4294967296 := Int.floor_lt.2 (by exact_mod_cast hx)
  exact UInt32.toNat_ofNat_of_lt' (by show ⌊x⌋.toNat < 4294967296; omega)

/-- Stereo at 48 kHz, with intervals of 10 ms. -/
def wholeInterval : PcmConfiguration := ⟨48000, .stereo, 16, 10000⟩

theorem holdsTwoIntervals_iff_whole :
    LeAudioSoftwareProvider.output.startSession truncUint32 ⟨.pcmConfig, wholeInterval⟩ = some 3840 ∧
      HoldsTwoIntervals wholeInterval 3840 := by
  have hvalid : isSoftwarePcmConfigurationValid wholeInterval = true := by decide
  have hus : InInt32 wholeInterval.dataIntervalUs := ⟨by decide, by decide⟩
  have hstart := startSession_of_size truncates_truncUint32 .output hvalid hus (by decide)
    (show _ = (((3840 : UInt32).toNat : ℕ) : ℤ) by decide)
  exact ⟨hstart, (holdsTwoIntervals_iff truncates_truncUint32 .output hvalid hus).2 (.inr rfl) _ hstart⟩

/-- Stereo at 48 kHz, with intervals of 7.5 ms. -/
def halfInterval : PcmConfiguration := ⟨48000, .stereo, 16, 7500⟩

/-- The queue has 2688 bytes, of the 2880 of two intervals. -/
theorem halfInterval_too_small :
    LeAudioSoftwareProvider.output.startSession truncUint32 ⟨.pcmConfig, halfInterval⟩ = some 2688 ∧
      ¬HoldsTwoIntervals halfInterval 2688 := by
  have hstart := startSession_of_size truncates_truncUint32 .output
    (show isSoftwarePcmConfigurationValid halfInterval = true by decide) ⟨by decide, by decide⟩
    (by decide) (show _ = (((2688 : UInt32).toNat : ℕ) : ℤ) by decide)
  exact ⟨hstart, fun h => absurd h.frames (by decide)⟩

end TrebleDoze.Bluetooth
