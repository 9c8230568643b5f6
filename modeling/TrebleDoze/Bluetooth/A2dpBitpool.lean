import TrebleDoze.Bluetooth.A2dpSbc
import TrebleDoze.Lib.StepSearch
import Mathlib.Data.List.ReduceOption
import Mathlib.Order.Bounds.Basic

/-!
# The bitpool of an SBC configuration

`GetBitpool` looks for the bitpool of a bit rate, and `BuildConfiguration` uses it to narrow the range of
the bitpool to the bit rates of the hint.

* `getBitrate_mono`: the bit rate grows with the bitpool;
* `le_getBitpool_iff`: the bitpool values that the search reaches;
* `buildConfiguration_bitpools`: the bitpool range of a configuration that is built;
* `bitpool_inside_iff`: when that range is one that both sides support;
* `bitpool_ordered_iff`: when its minimum is not above its maximum;
* `getBitpool_inverse`: when the search is the inverse of `GetBitrate`, and when the parameters parsed
  from a configuration lead back to its bit rate.
-/

namespace TrebleDoze.Bluetooth.A2dpOffloadCodecSbc

open A2dpBits Lib

/-! ### The bit rate -/

section

variable {configuration configuration' : List UInt8} {bitpool : ℕ} {bitrate bitrate' : ℤ}

theorem getFrameSize_mono (configuration : List UInt8) : Monotone (getFrameSize configuration) := by
  intro b b' h
  unfold getFrameSize
  simp only [Nat.shiftLeft_eq, Nat.shiftRight_eq_div_pow]
  gcongr

theorem getBitrate_mono (configuration : List UInt8) : Monotone (getBitrate configuration) := by
  intro b b' h
  unfold getBitrate
  have hsize := getFrameSize_mono configuration h
  exact Nat.div_le_div_right (Nat.mul_le_mul_right _ (Nat.mul_le_mul_left 8 hsize))

theorem getBitrate_congr (h : ∀ i < 16, getBit i configuration' = getBit i configuration) :
    getBitrate configuration' = getBitrate configuration := by
  have hrange : ∀ r : Range, r.first + r.len ≤ 16 →
      findActiveBit r configuration' = findActiveBit r configuration := by
    intro r hr
    have hget : getRange r configuration' = getRange r configuration := by
      refine getRange_congr fun i hi => h i ?_
      have := Range.mem_iff.1 hi
      omega
    unfold findActiveBit
    rw [hget]
  funext bitpool
  unfold getBitrate getFrameSize
  rw [hrange kSamplingFrequency (by decide), hrange kSubbands (by decide),
    hrange kBlockLength (by decide), h kChannelModeMono (by decide),
    h kChannelModeDualChannel (by decide), h kChannelModeJointStereo (by decide)]

/-! ### The search for a bitpool -/

theorem getBitpool_eq_stepSearch (configuration : List UInt8) (bitrate : ℤ) :
    getBitpool configuration bitrate =
      max 2 (min (stepSearch (fun b => bitrate > getBitrate configuration b)
        [128, 64, 32, 16, 8, 4, 2, 1] 0) 250) :=
  rfl

/-- The bitpool values that are reached are 2 and those of a bit rate below the one that is asked for. -/
theorem le_getBitpool_iff (h : bitpool ≤ 250) :
    bitpool ≤ getBitpool configuration bitrate ↔
      bitpool ≤ 2 ∨ getBitrate configuration bitpool < bitrate := by
  have hp : ∀ a b, a ≤ b → bitrate > getBitrate configuration b →
      bitrate > getBitrate configuration a := by
    intro a b hab hb
    have hmono := getBitrate_mono configuration hab
    omega
  have hsearch : bitpool ≤ stepSearch (fun b => bitrate > getBitrate configuration b)
      [128, 64, 32, 16, 8, 4, 2, 1] 0 ↔ bitpool ≤ 0 ∨ bitrate > getBitrate configuration bitpool :=
    le_stepSearch_iff hp reaches_byte (by omega)
  rw [getBitpool_eq_stepSearch, le_max_iff, le_min_iff, hsearch]
  omega

/-- The bitpool is at most one at which the next bit rate is not below the one that is asked for. -/
theorem getBitpool_le_iff (h2 : 2 ≤ bitpool) (h : bitpool < 250) :
    getBitpool configuration bitrate ≤ bitpool ↔ bitrate ≤ getBitrate configuration (bitpool + 1) := by
  have hnext : bitpool + 1 ≤ getBitpool configuration bitrate ↔
      bitpool + 1 ≤ 2 ∨ getBitrate configuration (bitpool + 1) < bitrate :=
    le_getBitpool_iff (by omega)
  omega

/-- The bit rate of the bitpool that is found, unless it is the least one, is below the one asked for. -/
theorem getBitrate_getBitpool_lt (h : 2 < getBitpool configuration bitrate) :
    getBitrate configuration (getBitpool configuration bitrate) < bitrate := by
  rcases (le_getBitpool_iff (getBitpool_bounds configuration bitrate).2).1 le_rfl with h2 | hlt
  · omega
  · exact hlt

theorem getBitpool_mono (h : bitrate ≤ bitrate') :
    getBitpool configuration bitrate ≤ getBitpool configuration bitrate' := by
  refine (le_getBitpool_iff (getBitpool_bounds configuration bitrate).2).2 ?_
  by_cases h2 : 2 < getBitpool configuration bitrate
  · right
    have := getBitrate_getBitpool_lt h2
    omega
  · left
    omega

/-! ### The inverse of the bit rate -/

/-- The search finds the greatest bitpool whose bit rate is not above the one that is asked for just
when that is not the bit rate of a bitpool above 2. -/
theorem isGreatest_getBitpool_iff (h : getBitrate configuration 2 ≤ bitrate) :
    IsGreatest {b | 2 ≤ b ∧ b ≤ 250 ∧ getBitrate configuration b ≤ bitrate}
        (getBitpool configuration bitrate) ↔
      ∀ b, 3 ≤ b → b ≤ 250 → getBitrate configuration b ≠ bitrate := by
  obtain ⟨h2, h250⟩ := getBitpool_bounds configuration bitrate
  constructor
  · rintro ⟨-, hgreatest⟩ b hb3 hb heq
    -- such a bitpool would be found to be too great
    have hle : b ≤ getBitpool configuration bitrate := hgreatest ⟨by omega, hb, by omega⟩
    rcases (le_getBitpool_iff hb).1 hle with h | h
    · omega
    · omega
  · intro hne
    refine ⟨⟨h2, h250, ?_⟩, ?_⟩
    · by_cases hg : 2 < getBitpool configuration bitrate
      · exact (getBitrate_getBitpool_lt hg).le
      · have heq : getBitpool configuration bitrate = 2 := by omega
        rwa [heq]
    · rintro b ⟨hb2, hb, hle⟩
      refine (le_getBitpool_iff hb).2 ?_
      by_cases hb3 : 3 ≤ b
      · exact .inr (lt_of_le_of_ne hle (hne b hb3 hb))
      · left
        omega

end

/-! ### The range of a configuration that is built -/

/-- The single-choice fields that are selected, as a configuration without a bitpool range. -/
def selectFields (rcaps : List UInt8) (hint : Option CodecParameters) : List UInt8 :=
  setBits 4 [selectSamplingFrequency rcaps hint, selectChannelMode rcaps hint, selectBlockLength rcaps,
    selectSubbands rcaps, selectAllocationMethod rcaps].reduceOption

/-- The minimum of the bitpool range of the peer, that of the format if the range is not a valid one. -/
def repairedMinBitpool (rcaps : List UInt8) : ℕ :=
  let minBitpool := getRange kMinimumBitpool rcaps
  let maxBitpool := getRange kMaximumBitpool rcaps
  if minBitpool < 2 ∨ minBitpool > 250 ∨ maxBitpool < 2 ∨ maxBitpool > 250 ∨ minBitpool > maxBitpool
  then 2 else minBitpool

/-- The maximum of the bit rate of a hint, where it is one that is followed. -/
def ceiling (hint : Option CodecParameters) : Option ℤ :=
  hint.bind fun hint =>
    if hint.maxBitrate ≠ 0 ∧ hint.maxBitrate ≥ hint.minBitrate then some hint.maxBitrate else none

section

variable {rcaps config fields : List UInt8} {hint : Option CodecParameters} {bitrate : ℤ}

theorem mem_ceiling : bitrate ∈ ceiling hint ↔ ∃ h, hint = some h ∧
    h.maxBitrate ≠ 0 ∧ h.minBitrate ≤ h.maxBitrate ∧ h.maxBitrate = bitrate := by
  unfold ceiling
  rw [Option.mem_def, Option.bind_eq_some_iff]
  constructor
  · rintro ⟨h, hh, hc⟩
    split_ifs at hc with hmax
    exact ⟨h, hh, hmax.1, hmax.2, Option.some.inj hc⟩
  · rintro ⟨h, hh, h0, hle, rfl⟩
    exact ⟨h, hh, if_pos ⟨h0, hle⟩⟩

theorem repairedMinBitpool_bounds (rcaps : List UInt8) :
    2 ≤ repairedMinBitpool rcaps ∧ repairedMinBitpool rcaps ≤ 250 := by
  unfold repairedMinBitpool
  simp only
  split_ifs <;> omega

/-- The minimum that is selected: that of the peer, raised to the minimum of the hint. -/
theorem selectBitpool_fst (rcaps : List UInt8) (hint : Option CodecParameters) (fields : List UInt8) :
    (selectBitpool rcaps hint fields).1 =
      match hint with
      | none => repairedMinBitpool rcaps
      | some h => max (repairedMinBitpool rcaps) (getBitpool fields h.minBitrate) := by
  have hmin : getRange kMinimumBitpool capabilities = 2 := by decide
  have hbounds := (repairedMinBitpool_bounds rcaps).1
  unfold repairedMinBitpool at hbounds ⊢
  unfold selectBitpool
  simp only [hmin] at hbounds ⊢
  cases hint <;> split_ifs at hbounds ⊢ <;> simp only <;> omega

/-- The maximum that is selected: that of the format, lowered to the maximum of the hint. -/
theorem selectBitpool_snd (rcaps : List UInt8) (hint : Option CodecParameters) (fields : List UInt8) :
    (selectBitpool rcaps hint fields).2 =
      match ceiling hint with
      | none => 250
      | some bitrate => getBitpool fields bitrate := by
  have hmax : getRange kMaximumBitpool capabilities = 250 := by decide
  unfold selectBitpool ceiling
  simp only [hmax]
  cases hint with
  | none =>
    simp only [Option.bind_none]
    split_ifs <;> simp only <;> omega
  | some h =>
    have hb := (getBitpool_bounds fields h.maxBitrate).2
    simp only [Option.bind_some]
    split_ifs <;> simp only <;> omega

/-- The first two bytes are left as they are when the bitpool range is written. -/
theorem getBitrate_setRange (minBitpool maxBitpool : ℤ) (hl : fields.length = 4) :
    getBitrate (setRange kMaximumBitpool maxBitpool (setRange kMinimumBitpool minBitpool fields)) =
      getBitrate fields := by
  refine getBitrate_congr fun i hi => ?_
  have hmax : i ∉ kMaximumBitpool := by
    rw [Range.mem_iff]
    have hfirst : kMaximumBitpool.first = 24 := rfl
    omega
  have hmin : i ∉ kMinimumBitpool := by
    rw [Range.mem_iff]
    have hfirst : kMinimumBitpool.first = 16 := rfl
    omega
  rw [getBit_setRange (by rw [length_setRange, hl]; decide), if_neg hmax,
    getBit_setRange (by rw [hl]; decide), if_neg hmin]

/-- A configuration that is built, by the bits and the bitpool range that are selected. -/
theorem built_of_buildConfiguration (h : buildConfiguration rcaps hint = some config) :
    ∃ sf cm bl sb am,
      selectSamplingFrequency rcaps hint = some sf ∧ selectChannelMode rcaps hint = some cm ∧
      selectBlockLength rcaps = some bl ∧ selectSubbands rcaps = some sb ∧
      selectAllocationMethod rcaps = some am ∧
      Built config sf cm bl sb am (selectBitpool rcaps hint (selectFields rcaps hint)).1
        (selectBitpool rcaps hint (selectFields rcaps hint)).2 ∧
      getBitrate config = getBitrate (selectFields rcaps hint) := by
  obtain ⟨sf, cm, bl, sb, am, hsf, hcm, hbl, hsb, ham, hconfig⟩ := buildConfiguration_eq_some h
  have hfields : selectFields rcaps hint = setBits 4 [sf, cm, bl, sb, am] := by
    unfold selectFields
    rw [hsf, hcm, hbl, hsb, ham]
    rfl
  obtain ⟨hmin, hmax⟩ := selectBitpool_bounds rcaps hint (setBits 4 [sf, cm, bl, sb, am])
  refine ⟨sf, cm, bl, sb, am, hsf, hcm, hbl, hsb, ham, ?_, ?_⟩
  · rw [hconfig, hfields]
    exact built (mem_selectSamplingFrequency hsf) (mem_selectChannelMode hcm)
      (mem_selectBlockLength hbl) (mem_selectSubbands hsb) (mem_selectAllocationMethod ham)
      (validBitpool_lt hmin) (validBitpool_lt hmax)
  · rw [hconfig, hfields]
    exact getBitrate_setRange _ _ length_setBits

/-- The bitpool range of a configuration that is built, and its bit rates. -/
theorem buildConfiguration_bitpools (h : buildConfiguration rcaps hint = some config) :
    getRange kMinimumBitpool config = (selectBitpool rcaps hint (selectFields rcaps hint)).1 ∧
      getRange kMaximumBitpool config = (selectBitpool rcaps hint (selectFields rcaps hint)).2 ∧
      getBitrate config = getBitrate (selectFields rcaps hint) := by
  obtain ⟨sf, cm, bl, sb, am, -, -, -, -, -, hb, hrate⟩ := built_of_buildConfiguration h
  exact ⟨hb.minBitpool, hb.maxBitpool, hrate⟩

/-- **When the range is one that both sides support**: the maximum of the peer has to be that of the
format, or the hint has to lower the bit rate far enough. -/
theorem bitpool_inside_iff (h2 : 2 ≤ getRange kMinimumBitpool rcaps)
    (hle : getRange kMinimumBitpool rcaps ≤ getRange kMaximumBitpool rcaps)
    (h250 : getRange kMaximumBitpool rcaps ≤ 250) (h : buildConfiguration rcaps hint = some config) :
    (max (getRange kMinimumBitpool capabilities) (getRange kMinimumBitpool rcaps) ≤
        getRange kMinimumBitpool config ∧
      getRange kMaximumBitpool config ≤
        min (getRange kMaximumBitpool capabilities) (getRange kMaximumBitpool rcaps)) ↔
    (getRange kMaximumBitpool rcaps = 250 ∨ ∃ bitrate ∈ ceiling hint,
      bitrate ≤ getBitrate (selectFields rcaps hint) (getRange kMaximumBitpool rcaps + 1)) := by
  have hlmin : getRange kMinimumBitpool capabilities = 2 := by decide
  have hlmax : getRange kMaximumBitpool capabilities = 250 := by decide
  have hrmin : repairedMinBitpool rcaps = getRange kMinimumBitpool rcaps := by
    unfold repairedMinBitpool
    exact if_neg (by omega)
  obtain ⟨hmin, hmax, -⟩ := buildConfiguration_bitpools h
  -- the minimum is always one of the peer
  have hfst : getRange kMinimumBitpool rcaps ≤ getRange kMinimumBitpool config := by
    rw [hmin, selectBitpool_fst, hrmin]
    cases hint with
    | none => exact le_rfl
    | some h => exact le_max_left _ _
  rw [hlmin, hlmax, hmax, selectBitpool_snd]
  cases hc : ceiling hint with
  | none =>
    simp only [Option.mem_def, reduceCtorEq, false_and, exists_false, or_false]
    omega
  | some bitrate =>
    have hb := (getBitpool_bounds (selectFields rcaps hint) bitrate).2
    have hiff : (∃ r ∈ some bitrate,
        r ≤ (getBitrate (selectFields rcaps hint) (getRange kMaximumBitpool rcaps + 1) : ℤ)) ↔
        bitrate ≤ getBitrate (selectFields rcaps hint) (getRange kMaximumBitpool rcaps + 1) := by
      simp only [Option.mem_def, Option.some.injEq, exists_eq_left']
    rw [hiff]
    by_cases hr : getRange kMaximumBitpool rcaps = 250
    · simp only [hr, true_or, iff_true]
      omega
    · rw [← getBitpool_le_iff (by omega) (by omega)]
      simp only
      omega

/-- **When the range is not empty**: the hint sets no ceiling, or the minimum of the peer is 2 or has a
bit rate below the ceiling. -/
theorem bitpool_ordered_iff (h : buildConfiguration rcaps hint = some config) :
    getRange kMinimumBitpool config ≤ getRange kMaximumBitpool config ↔
      ∀ bitrate ∈ ceiling hint, repairedMinBitpool rcaps = 2 ∨
        getBitrate (selectFields rcaps hint) (repairedMinBitpool rcaps) < bitrate := by
  obtain ⟨hmin, hmax, -⟩ := buildConfiguration_bitpools h
  obtain ⟨h2, h250⟩ := repairedMinBitpool_bounds rcaps
  rw [hmin, hmax, selectBitpool_fst, selectBitpool_snd]
  cases hc : ceiling hint with
  | none =>
    simp only [Option.mem_def, reduceCtorEq, false_imp_iff, implies_true, iff_true]
    cases hint with
    | none => exact h250
    | some h => exact max_le h250 (getBitpool_bounds _ _).2
  | some bitrate =>
    obtain ⟨p, rfl, -, hle, rfl⟩ := mem_ceiling.1 hc
    -- the minimum of the hint is below its maximum, and so are their bitpools
    have hmono : getBitpool (selectFields rcaps (some p)) p.minBitrate ≤
        getBitpool (selectFields rcaps (some p)) p.maxBitrate := getBitpool_mono hle
    have hreach : repairedMinBitpool rcaps ≤ getBitpool (selectFields rcaps (some p)) p.maxBitrate ↔
        repairedMinBitpool rcaps ≤ 2 ∨ getBitrate (selectFields rcaps (some p))
          (repairedMinBitpool rcaps) < p.maxBitrate := le_getBitpool_iff h250
    simp only [Option.mem_def, Option.some.injEq, forall_eq', max_le_iff, hmono, and_true]
    rw [hreach]
    constructor
    · rintro (h | h)
      · left
        omega
      · exact .inr h
    · rintro (h | h)
      · left
        omega
      · exact .inr h

/-- A peer whose maximum is 53 is sent a configuration with a maximum of 250. -/
theorem bitpool_not_inside : ¬ ∀ (rcaps : List UInt8) (hint : Option CodecParameters)
    (config : List UInt8), rcaps.length = 4 → 2 ≤ getRange kMinimumBitpool rcaps →
    getRange kMinimumBitpool rcaps ≤ getRange kMaximumBitpool rcaps →
    getRange kMaximumBitpool rcaps ≤ 250 → buildConfiguration rcaps hint = some config →
    max (getRange kMinimumBitpool capabilities) (getRange kMinimumBitpool rcaps) ≤
        getRange kMinimumBitpool config ∧
      getRange kMaximumBitpool config ≤
        min (getRange kMaximumBitpool capabilities) (getRange kMaximumBitpool rcaps) := by
  intro h
  have hinside := h [0x3f, 0xff, 2, 53] none [0x21, 0x19, 2, 250] rfl (by decide) (by decide)
    (by decide) (by decide)
  exact absurd hinside.2 (by decide)

/-- The peer of that kind for which the hint keeps the range inside. -/
theorem bitpool_inside_hint :
    (max (getRange kMinimumBitpool capabilities) (getRange kMinimumBitpool [0x3f, 0xff, 2, 53]) ≤
        getRange kMinimumBitpool [0x21, 0x19, 2, 11] ∧
      getRange kMaximumBitpool [0x21, 0x19, 2, 11] ≤
        min (getRange kMaximumBitpool capabilities) (getRange kMaximumBitpool [0x3f, 0xff, 2, 53])) ↔
    (getRange kMaximumBitpool [0x3f, 0xff, 2, 53] = 250 ∨
      ∃ bitrate ∈ ceiling (some ⟨.stereo, 44100, 16, 0, 100000⟩),
        bitrate ≤ getBitrate (selectFields [0x3f, 0xff, 2, 53] (some ⟨.stereo, 44100, 16, 0, 100000⟩))
          (getRange kMaximumBitpool [0x3f, 0xff, 2, 53] + 1)) :=
  bitpool_inside_iff (by decide) (by decide) (by decide) (by decide +kernel)

/-- A peer whose minimum is 50, and a hint of 100 kbit/s: the maximum that is written is 11. -/
theorem bitpool_not_ordered : ¬ ∀ (rcaps : List UInt8) (hint : Option CodecParameters)
    (config : List UInt8), buildConfiguration rcaps hint = some config →
    getRange kMinimumBitpool config ≤ getRange kMaximumBitpool config := by
  intro h
  have hordered := h [0x3f, 0xff, 50, 250] (some ⟨.stereo, 44100, 16, 0, 100000⟩)
    [0x21, 0x19, 50, 11] (by decide +kernel)
  exact absurd hordered (by decide)

/-- Without a hint the range of that peer is not empty. -/
theorem bitpool_ordered_without_hint :
    getRange kMinimumBitpool [0x21, 0x19, 50, 250] ≤ getRange kMaximumBitpool [0x21, 0x19, 50, 250] ↔
      ∀ bitrate ∈ ceiling none, repairedMinBitpool [0x3f, 0xff, 50, 250] = 2 ∨
        getBitrate (selectFields [0x3f, 0xff, 50, 250] none)
          (repairedMinBitpool [0x3f, 0xff, 50, 250]) < bitrate :=
  bitpool_ordered_iff (by decide)

end

/-! ### Parameters that are fed back as a hint -/

section

variable {rcaps config : List UInt8} {hint : Option CodecParameters} {sf cm bl sb : ℕ}

theorem getSamplingFrequencyValue_bounds (h : sf ∈ kSamplingFrequency) :
    16000 ≤ getSamplingFrequencyValue (some sf) ∧ getSamplingFrequencyValue (some sf) ≤ 48000 := by
  have hmem : 0 ≤ sf ∧ sf < 4 := h
  obtain rfl | rfl | rfl | rfl : sf = 0 ∨ sf = 1 ∨ sf = 2 ∨ sf = 3 := by omega
  all_goals decide

theorem getBlockLengthValue_bounds (h : bl ∈ kBlockLength) :
    4 ≤ getBlockLengthValue (some bl) ∧ getBlockLengthValue (some bl) ≤ 16 := by
  have hmem : 8 ≤ bl ∧ bl < 12 := h
  obtain rfl | rfl | rfl | rfl : bl = 8 ∨ bl = 9 ∨ bl = 10 ∨ bl = 11 := by omega
  all_goals decide

theorem getSubbandsValue_bounds (h : sb ∈ kSubbands) :
    4 ≤ getSubbandsValue (some sb) ∧ getSubbandsValue (some sb) ≤ 8 := by
  have hmem : 12 ≤ sb ∧ sb < 14 := h
  obtain rfl | rfl : sb = 12 ∨ sb = 13 := by omega
  all_goals decide

/-- A configuration with one active bit in each field has no bit rate of zero. -/
theorem getBitrate_pos (hsf : Active kSamplingFrequency config sf) (hbl : Active kBlockLength config bl)
    (hsb : Active kSubbands config sb) (bitpool : ℕ) : 0 < getBitrate config bitpool := by
  obtain ⟨hf, -⟩ := getSamplingFrequencyValue_bounds hsf.1
  obtain ⟨hb1, hb2⟩ := getBlockLengthValue_bounds hbl.1
  obtain ⟨hs1, hs2⟩ := getSubbandsValue_bounds hsb.1
  have hsize : 4 ≤ getFrameSize config bitpool := by
    unfold getFrameSize
    exact Nat.le_add_right 4 _
  unfold getBitrate
  rw [findActiveBit_eq hsf, findActiveBit_eq hbl, findActiveBit_eq hsb]
  have hden : getBlockLengthValue (some bl) * getSubbandsValue (some sb) ≤ 16 * 8 :=
    Nat.mul_le_mul hb2 hs2
  have hnum : 8 * 4 * 16000 ≤ 8 * getFrameSize config bitpool * getSamplingFrequencyValue (some sf) :=
    Nat.mul_le_mul (Nat.mul_le_mul_left 8 hsize) hf
  exact Nat.div_pos (by omega) (Nat.mul_pos (by omega) (by omega))

theorem getSamplingFrequencyBit_of_value {samplingFrequencyHz : ℤ} (hb : sf ∈ kSamplingFrequency)
    (hv : getSamplingFrequencyValue (some sf) = samplingFrequencyHz) :
    getSamplingFrequencyBit samplingFrequencyHz = some sf := by
  have hmem : 0 ≤ sf ∧ sf < 4 := hb
  rw [← hv]
  obtain rfl | rfl | rfl | rfl : sf = 0 ∨ sf = 1 ∨ sf = 2 ∨ sf = 3 := by omega
  all_goals rfl

/-- The sampling frequency of a hint is selected if both sides have it. -/
theorem selectSamplingFrequency_hint {p : CodecParameters} (hb : sf ∈ kSamplingFrequency)
    (hv : getSamplingFrequencyValue (some sf) = p.samplingFrequencyHz)
    (hl : getBit sf capabilities = true) (hr : getBit sf rcaps = true) :
    selectSamplingFrequency rcaps (some p) = some sf := by
  unfold selectSamplingFrequency
  simp only [Option.bind_some, getSamplingFrequencyBit_of_value hb hv]
  exact selectBit_hint hl hr

/-- A channel mode has one bit, apart from stereo, which is hinted as joint stereo. -/
theorem getChannelModeBit_of_enum {channelMode : ChannelMode} (hb : cm ∈ kChannelMode)
    (hne : cm ≠ kChannelModeStereo) (hv : getChannelModeEnum cm = channelMode) :
    getChannelModeBit channelMode = some cm := by
  have hmem : 4 ≤ cm ∧ cm < 8 := hb
  have hstereo : kChannelModeStereo = 6 := rfl
  rw [← hv]
  obtain rfl | rfl | rfl : cm = 4 ∨ cm = 5 ∨ cm = 7 := by omega
  all_goals rfl

/-- The channel mode of a hint is selected if both sides have its bit. -/
theorem selectChannelMode_hint {p : CodecParameters} (hb : cm ∈ kChannelMode)
    (hne : cm ≠ kChannelModeStereo) (hv : getChannelModeEnum cm = p.channelMode)
    (hl : getBit cm capabilities = true) (hr : getBit cm rcaps = true) :
    selectChannelMode rcaps (some p) = some cm := by
  unfold selectChannelMode
  simp only [Option.bind_some, getChannelModeBit_of_enum hb hne hv]
  exact selectBit_hint hl hr

/-- A hint of stereo falls back to stereo if the peer has no joint stereo. -/
theorem selectChannelMode_stereo {p : CodecParameters} (hv : p.channelMode = .stereo)
    (hjoint : getBit kChannelModeJointStereo rcaps = false)
    (hr : getBit kChannelModeStereo rcaps = true) :
    selectChannelMode rcaps (some p) = some kChannelModeStereo := by
  have hbit : getChannelModeBit p.channelMode = some kChannelModeJointStereo := by
    rw [hv]
    rfl
  have hl : getBit kChannelModeStereo capabilities = true := by decide
  unfold selectChannelMode selectBit
  simp only [Option.bind_some, hbit, Option.toList_some, List.singleton_append, List.find?_cons,
    hjoint, hl, hr, Bool.and_false, Bool.and_self]

/-- Stereo is selected only where the peer has no joint stereo. -/
theorem not_jointStereo_of_stereo (h : selectChannelMode rcaps hint = some kChannelModeStereo) :
    getBit kChannelModeJointStereo rcaps = false := by
  by_contra hjoint
  rw [Bool.not_eq_false] at hjoint
  have hl : getBit kChannelModeJointStereo capabilities = true := by decide
  unfold selectChannelMode selectBit at h
  rw [List.find?_append] at h
  simp only [List.find?_cons, hl, hjoint, Bool.and_self, Option.or_eq_some_iff] at h
  rcases h with h | ⟨-, h⟩
  · -- the bit of a hint is never that of stereo alone
    have hmem := List.mem_of_find?_eq_some h
    rw [Option.mem_toList, Option.bind_eq_some_iff] at hmem
    obtain ⟨p, -, hp⟩ := hmem
    cases hm : p.channelMode <;> rw [hm] at hp <;> exact absurd hp (by decide)
  · exact absurd h (by decide)

/-- A hint with the channel mode that was selected selects the same bit again. -/
theorem selectChannelMode_again {p : CodecParameters} (h : selectChannelMode rcaps hint = some cm)
    (hp : p.channelMode = getChannelModeEnum cm) : selectChannelMode rcaps (some p) = some cm := by
  obtain ⟨-, hl, hr⟩ := selectBit_eq_some h
  by_cases hcm : cm = kChannelModeStereo
  · subst hcm
    exact selectChannelMode_stereo hp (not_jointStereo_of_stereo h) hr
  · exact selectChannelMode_hint (mem_selectChannelMode h) hcm hp.symm hl hr

theorem parsed_of_buildConfiguration (h : buildConfiguration rcaps hint = some config) :
    ∃ p, parseConfiguration config = .ok p ∧
      (∃ sf, selectSamplingFrequency rcaps hint = some sf ∧
        p.samplingFrequencyHz = getSamplingFrequencyValue (some sf)) ∧
      (∃ cm, selectChannelMode rcaps hint = some cm ∧ p.channelMode = getChannelModeEnum cm) ∧
      p.minBitrate = getBitrate config (getRange kMinimumBitpool config) ∧
      p.maxBitrate = getBitrate config (getRange kMaximumBitpool config) := by
  obtain ⟨sf, cm, bl, sb, am, hsf, hcm, hbl, hsb, ham, hb, -⟩ := built_of_buildConfiguration h
  obtain ⟨hmin, hmax⟩ := selectBitpool_bounds rcaps hint (selectFields rcaps hint)
  refine ⟨_, parseConfiguration_of_built hb (selectBit_eq_some hsf).2.1 (selectBit_eq_some hcm).2.1
    (selectBit_eq_some hsb).2.1 (selectBit_eq_some ham).2.1 hmin hmax, ⟨sf, hsf, rfl⟩, ⟨cm, hcm, rfl⟩,
    ?_, ?_⟩
  · rw [hb.minBitpool]
  · rw [hb.maxBitpool]

/-- With the parameters that were parsed as the hint, the same bits are selected again. -/
theorem buildConfiguration_again {p : SbcParameters} (h : buildConfiguration rcaps hint = some config)
    (hp : parseConfiguration config = .ok p) :
    ∃ config' p', buildConfiguration rcaps (some p.toCodecParameters) = some config' ∧
      parseConfiguration config' = .ok p' ∧
      p'.maxBitrate = getBitrate config
        (selectBitpool rcaps (some p.toCodecParameters) (selectFields rcaps hint)).2 := by
  obtain ⟨q, hq, ⟨sf, hsf, hqsf⟩, ⟨cm, hcm, hqcm⟩, -, -⟩ := parsed_of_buildConfiguration h
  obtain rfl : q = p := Except.ok.inj (hq.symm.trans hp)
  obtain ⟨_, _, bl, sb, am, -, -, hbl, hsb, ham, -⟩ := built_of_buildConfiguration h
  obtain ⟨-, hlsf, hrsf⟩ := selectBit_eq_some hsf
  have hsf' := selectSamplingFrequency_hint (mem_selectSamplingFrequency hsf) hqsf.symm hlsf hrsf
  have hcm' := selectChannelMode_again hcm hqcm
  have hfields : selectFields rcaps (some q.toCodecParameters) = selectFields rcaps hint := by
    unfold selectFields
    rw [hsf', hcm', hsf, hcm]
  have hbuild := buildConfiguration_of_select (length_of_buildConfiguration h) hsf' hcm' hbl hsb ham
  obtain ⟨q', hq', -, -, -, hmax⟩ := parsed_of_buildConfiguration hbuild
  obtain ⟨-, hpool, hrate⟩ := buildConfiguration_bitpools hbuild
  refine ⟨_, q', hbuild, hq', ?_⟩
  rw [hmax, hpool, hrate, hfields, (buildConfiguration_bitpools h).2.2]

/-- The bitpool that is found for the bit rate of another one has that bit rate just when it is the bit
rate of the least bitpool. -/
theorem getBitrate_getBitpool_eq_iff {fields : List UInt8} {bitpool : ℕ} (h2 : 2 ≤ bitpool) :
    getBitrate fields (getBitpool fields (getBitrate fields bitpool)) = getBitrate fields bitpool ↔
      getBitrate fields bitpool = getBitrate fields 2 := by
  have hfound := (getBitpool_bounds fields (getBitrate fields bitpool)).1
  have hmono := getBitrate_mono fields h2
  by_cases hg : 2 < getBitpool fields (getBitrate fields bitpool)
  · have hlt := getBitrate_getBitpool_lt hg
    have hmono' := getBitrate_mono fields hfound
    omega
  · have heq : getBitpool fields (getBitrate fields bitpool) = 2 := by omega
    rw [heq]
    exact eq_comm

/-- The bit rate of a configuration is reproduced by the parameters parsed from it just when its bitpool
range has no bit rate but the least. -/
theorem maxBitrate_again_iff {p : SbcParameters} (h : buildConfiguration rcaps hint = some config)
    (hp : parseConfiguration config = .ok p) :
    (∃ config' p', buildConfiguration rcaps (some p.toCodecParameters) = some config' ∧
        parseConfiguration config' = .ok p' ∧ p'.maxBitrate = p.maxBitrate) ↔
      getBitrate config (getRange kMinimumBitpool config) = getBitrate config 2 ∧
        getBitrate config (getRange kMaximumBitpool config) = getBitrate config 2 := by
  obtain ⟨q, hq, -, -, hmin, hmax⟩ := parsed_of_buildConfiguration h
  obtain rfl : q = p := Except.ok.inj (hq.symm.trans hp)
  obtain ⟨config₁, p₁, hbuild, hparse, hrate⟩ := buildConfiguration_again h hp
  have hiff : (∃ config' p', buildConfiguration rcaps (some q.toCodecParameters) = some config' ∧
        parseConfiguration config' = .ok p' ∧ p'.maxBitrate = q.maxBitrate) ↔
      p₁.maxBitrate = q.maxBitrate := by
    constructor
    · rintro ⟨config', p', hbuild', hparse', heq⟩
      obtain rfl : config₁ = config' := Option.some.inj (hbuild.symm.trans hbuild')
      obtain rfl : p₁ = p' := Except.ok.inj (hparse.symm.trans hparse')
      exact heq
    · exact fun heq => ⟨config₁, p₁, hbuild, hparse, heq⟩
  obtain ⟨sf, cm, bl, sb, am, hsf, hcm, hbl, hsb, ham, hb, hfields⟩ := built_of_buildConfiguration h
  obtain ⟨hvmin, hvmax⟩ := selectBitpool_bounds rcaps hint (selectFields rcaps hint)
  rw [← hb.minBitpool, validBitpool_iff] at hvmin
  rw [← hb.maxBitpool, validBitpool_iff] at hvmax
  have hpos := getBitrate_pos hb.samplingFrequency hb.blockLength hb.subbands
    (getRange kMaximumBitpool config)
  rw [hiff, hrate, hmax, selectBitpool_snd]
  by_cases hle : getBitrate config (getRange kMinimumBitpool config) ≤
      getBitrate config (getRange kMaximumBitpool config)
  · have hc : ceiling (some q.toCodecParameters) =
        some (getBitrate config (getRange kMaximumBitpool config) : ℤ) := by
      rw [← Option.mem_def, mem_ceiling]
      exact ⟨_, rfl, by omega, by omega, hmax⟩
    have hagain := @getBitrate_getBitpool_eq_iff (selectFields rcaps hint) _ hvmax.1
    have hleast := getBitrate_mono config hvmin.1
    rw [← hfields] at hagain
    simp only [hc]
    rw [Int.natCast_inj, hagain]
    omega
  · have hc : ceiling (some q.toCodecParameters) = none := by
      rw [Option.eq_none_iff_forall_not_mem]
      intro bitrate hb
      obtain ⟨r, hr, -, hle', -⟩ := mem_ceiling.1 hb
      obtain rfl := Option.some.inj hr
      omega
    have hmost := getBitrate_mono config hvmin.2
    simp only [hc]
    omega

/-- **When the search is the inverse of the bit rate**: the bit rate that is asked for must not be that
of a bitpool above 2; and so the parameters of a configuration lead back to its bit rate only where that
is the least one. -/
theorem getBitpool_inverse (config : List UInt8) :
    (∀ bitrate : ℤ, getBitrate config 2 ≤ bitrate →
      (IsGreatest {b | 2 ≤ b ∧ b ≤ 250 ∧ getBitrate config b ≤ bitrate} (getBitpool config bitrate) ↔
        ∀ b, 3 ≤ b → b ≤ 250 → getBitrate config b ≠ bitrate)) ∧
    ∀ (rcaps : List UInt8) (hint : Option CodecParameters) (p : SbcParameters),
      buildConfiguration rcaps hint = some config → parseConfiguration config = .ok p →
      ((∃ config' p', buildConfiguration rcaps (some p.toCodecParameters) = some config' ∧
          parseConfiguration config' = .ok p' ∧ p'.maxBitrate = p.maxBitrate) ↔
        getBitrate config (getRange kMinimumBitpool config) = getBitrate config 2 ∧
          getBitrate config (getRange kMaximumBitpool config) = getBitrate config 2) :=
  ⟨fun _ h => isGreatest_getBitpool_iff h, fun _ _ _ h hp => maxBitrate_again_iff h hp⟩

/-- The bit rate 327994, one above that of bitpool 53, and a configuration that is built. -/
theorem getBitpool_inverse_joint :
    (IsGreatest {b | 2 ≤ b ∧ b ≤ 250 ∧ getBitrate [0x21, 0x19, 2, 250] b ≤ (327994 : ℤ)}
        (getBitpool [0x21, 0x19, 2, 250] 327994) ↔
      ∀ b, 3 ≤ b → b ≤ 250 → getBitrate [0x21, 0x19, 2, 250] b ≠ (327994 : ℤ)) ∧
    ((∃ config' p', buildConfiguration [0x3f, 0xff, 2, 250]
        (some ⟨.stereo, 44100, 16, 46856, 1413956⟩) = some config' ∧
        parseConfiguration config' = .ok p' ∧ p'.maxBitrate = 1413956) ↔
      getBitrate [0x21, 0x19, 2, 250] (getRange kMinimumBitpool [0x21, 0x19, 2, 250]) =
        getBitrate [0x21, 0x19, 2, 250] 2 ∧
      getBitrate [0x21, 0x19, 2, 250] (getRange kMaximumBitpool [0x21, 0x19, 2, 250]) =
        getBitrate [0x21, 0x19, 2, 250] 2) :=
  ⟨(getBitpool_inverse [0x21, 0x19, 2, 250]).1 327994 (by decide),
    (getBitpool_inverse [0x21, 0x19, 2, 250]).2 [0x3f, 0xff, 2, 250] none
      ⟨⟨.stereo, 44100, 16, 46856, 1413956⟩, .loudness, 16, 8, 2, 250⟩ (by decide) rfl⟩

/-- The bit rate of bitpool 53 leads to bitpool 52, and that of bitpool 250 to a lower one. -/
theorem getBitpool_not_inverse :
    (getBitrate [0x21, 0x19, 2, 250] 2 ≤ (327993 : ℤ) ∧
      ¬ IsGreatest {b | 2 ≤ b ∧ b ≤ 250 ∧ getBitrate [0x21, 0x19, 2, 250] b ≤ (327993 : ℤ)}
        (getBitpool [0x21, 0x19, 2, 250] 327993)) ∧
    ∃ p p', buildConfiguration [0x3f, 0xff, 2, 250] none = some [0x21, 0x19, 2, 250] ∧
      parseConfiguration [0x21, 0x19, 2, 250] = .ok p ∧
      buildConfiguration [0x3f, 0xff, 2, 250] (some p.toCodecParameters) = some [0x21, 0x19, 2, 249] ∧
      parseConfiguration [0x21, 0x19, 2, 249] = .ok p' ∧ p'.maxBitrate ≠ p.maxBitrate := by
  have hpool : getBitpool [0x21, 0x19, 2, 250] 327993 = 52 := by decide +kernel
  refine ⟨⟨by decide, fun h => ?_⟩, ?_⟩
  · have hle : 53 ≤ getBitpool [0x21, 0x19, 2, 250] 327993 := h.2 ⟨by decide, by decide, by decide⟩
    omega
  · exact ⟨_, _, by decide, rfl, by decide +kernel, rfl, by decide +kernel⟩

end

end TrebleDoze.Bluetooth.A2dpOffloadCodecSbc
