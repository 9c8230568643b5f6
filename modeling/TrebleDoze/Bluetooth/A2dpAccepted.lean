import TrebleDoze.Bluetooth.A2dpBitpool
import TrebleDoze.Lib.Exit

/-!
# The SBC configurations that are accepted

`ParseConfiguration` accepts a configuration whose fields each have one active bit that the local
capabilities have, and whose bitpool values are those of the format; their order it does not look at.

* `parseConfiguration_ok_iff`: the configurations that are accepted;
* `bitrateSafe`: the bit rates of an accepted configuration are computed without overflow and without a
  division by zero;
* `parseConfiguration_wellFormed_iff`: when the parser accepts just the well-formed configurations.
-/

namespace TrebleDoze.Bluetooth.A2dpOffloadCodecSbc

open A2dpBits Lib

/-! ### Well-formed configurations -/

/-- The field has one active bit, and the local capabilities have it. -/
def SingleChoice (range : Range) (config : List UInt8) : Prop :=
  ∃ bit, Active range config bit ∧ getBit bit capabilities = true

/-- Every single-choice field has one active bit that the local capabilities have. -/
structure SingleChoices (config : List UInt8) : Prop where
  samplingFrequency : SingleChoice kSamplingFrequency config
  channelMode : SingleChoice kChannelMode config
  blockLength : SingleChoice kBlockLength config
  subbands : SingleChoice kSubbands config
  allocationMethod : SingleChoice kAllocationMethod config

/-- A well-formed configuration: the fields, and a bitpool range within that of the capabilities. -/
structure WellFormed (config : List UInt8) : Prop where
  length : config.length = 4
  fields : SingleChoices config
  minBitpool : getRange kMinimumBitpool capabilities ≤ getRange kMinimumBitpool config
  ordered : getRange kMinimumBitpool config ≤ getRange kMaximumBitpool config
  maxBitpool : getRange kMaximumBitpool config ≤ getRange kMaximumBitpool capabilities

/-- The ints that `GetFrameSize` and `GetBitrate` compute on the way to a bit rate, the divisor apart. -/
def bitrateInts (config : List UInt8) (bitpool : ℕ) : List ℕ :=
  let samplingFrequency := getSamplingFrequencyValue (findActiveBit kSamplingFrequency config)
  let subbands := getSubbandsValue (findActiveBit kSubbands config)
  let blocks := getBlockLengthValue (findActiveBit kBlockLength config)
  let mono := (4 * subbands) <<< (!getBit kChannelModeMono config).toNat
  let dual := (blocks * bitpool) <<< (getBit kChannelModeDualChannel config).toNat
  let joint := if getBit kChannelModeJointStereo config then subbands else 0
  [4 * subbands, mono, blocks * bitpool, dual, mono + dual + joint + 7, getFrameSize config bitpool,
    8 * getFrameSize config bitpool, 8 * getFrameSize config bitpool * samplingFrequency]

/-- The divisor of `GetBitrate`. -/
def bitrateDivisor (config : List UInt8) : ℕ :=
  getBlockLengthValue (findActiveBit kBlockLength config) *
    getSubbandsValue (findActiveBit kSubbands config)

/-- The bit rate is computed with no overflow of an int, and no division by zero. -/
def BitrateSafe (config : List UInt8) (bitpool : ℕ) : Prop :=
  (∀ n ∈ bitrateInts config bitpool, n < 2147483648) ∧
    bitrateDivisor config ≠ 0 ∧ bitrateDivisor config < 2147483648

section

variable {config : List UInt8} {p : SbcParameters} {bitpool sf bl sb : ℕ}

/-! ### The configurations that are accepted -/

/-- What `ParseConfiguration` has found when it accepts a configuration. -/
theorem parseConfiguration_eq_ok (h : parseConfiguration config = .ok p) :
    config.length = 4 ∧ SingleChoices config ∧
      validBitpool (getRange kMinimumBitpool config) = true ∧
      validBitpool (getRange kMaximumBitpool config) = true ∧
      p.minBitrate = getBitrate config (getRange kMinimumBitpool config) ∧
      p.maxBitrate = getBitrate config (getRange kMaximumBitpool config) := by
  unfold parseConfiguration at h
  split_ifs at h with hl
  rw [not_not, capabilities_eq] at hl
  obtain ⟨sf, hsf, h⟩ := bind_eq_ok_iff.1 h
  obtain ⟨cm, hcm, h⟩ := bind_eq_ok_iff.1 h
  split at h
  · cases h
  rename_i bl hbl
  obtain ⟨sb, hsb, h⟩ := bind_eq_ok_iff.1 h
  obtain ⟨am, ham, h⟩ := bind_eq_ok_iff.1 h
  dsimp only at h
  split_ifs at h with hmin hlmin hmax hlmax
  obtain rfl := Except.ok.inj h
  rw [Bool.not_eq_true', Bool.not_eq_false] at hmin hmax
  have hbl' := findActiveBit_eq_some_iff.1 hbl
  -- the local capabilities have every block length
  have hlocal : getBit bl capabilities = true := by
    have hmem : 8 ≤ bl ∧ bl < 12 := hbl'.1
    obtain rfl | rfl | rfl | rfl : bl = 8 ∨ bl = 9 ∨ bl = 10 ∨ bl = 11 := by omega
    all_goals decide
  exact ⟨hl, ⟨⟨sf, checkField_eq_ok hsf⟩, ⟨cm, checkField_eq_ok hcm⟩, ⟨bl, hbl', hlocal⟩,
    ⟨sb, checkField_eq_ok hsb⟩, ⟨am, checkField_eq_ok ham⟩⟩, hmin, hmax, rfl, rfl⟩

theorem parseConfiguration_ok_iff : (∃ p, parseConfiguration config = .ok p) ↔
    config.length = 4 ∧ SingleChoices config ∧
      validBitpool (getRange kMinimumBitpool config) = true ∧
      validBitpool (getRange kMaximumBitpool config) = true := by
  constructor
  · rintro ⟨p, h⟩
    obtain ⟨hl, hf, hmin, hmax, -⟩ := parseConfiguration_eq_ok h
    exact ⟨hl, hf, hmin, hmax⟩
  · rintro ⟨hl, hf, hmin, hmax⟩
    obtain ⟨sf, hsf, hlsf⟩ := hf.samplingFrequency
    obtain ⟨cm, hcm, hlcm⟩ := hf.channelMode
    obtain ⟨bl, hbl, -⟩ := hf.blockLength
    obtain ⟨sb, hsb, hlsb⟩ := hf.subbands
    obtain ⟨am, ham, hlam⟩ := hf.allocationMethod
    exact ⟨_, parseConfiguration_of_built ⟨hl, hsf, hcm, hbl, hsb, ham, rfl, rfl⟩ hlsf hlcm hlsb hlam
      hmin hmax⟩

/-! ### The arithmetic of the bit rate -/

theorem shiftLeft_toNat_le (n : ℕ) (b : Bool) : n <<< b.toNat ≤ 2 * n := by
  cases b with
  | false =>
    rw [Bool.toNat_false, Nat.shiftLeft_zero]
    omega
  | true =>
    rw [Bool.toNat_true, Nat.shiftLeft_eq]
    omega

/-- **The bit rates of a configuration with its fields set are safe to compute.** -/
theorem bitrateSafe (hf : SingleChoices config) (hb : bitpool ≤ 250) : BitrateSafe config bitpool := by
  obtain ⟨sf, hsf, -⟩ := hf.samplingFrequency
  obtain ⟨bl, hbl, -⟩ := hf.blockLength
  obtain ⟨sb, hsb, -⟩ := hf.subbands
  have hfrequency := (getSamplingFrequencyValue_bounds hsf.1).2
  obtain ⟨hb4, hb16⟩ := getBlockLengthValue_bounds hbl.1
  obtain ⟨hs4, hs8⟩ := getSubbandsValue_bounds hsb.1
  unfold BitrateSafe bitrateInts bitrateDivisor getFrameSize
  simp only [findActiveBit_eq hsf, findActiveBit_eq hbl, findActiveBit_eq hsb, Nat.shiftRight_eq_div_pow,
    Nat.reducePow]
  generalize getSamplingFrequencyValue (some sf) = frequency at *
  generalize getBlockLengthValue (some bl) = blocks at *
  generalize getSubbandsValue (some sb) = subbands at *
  have hprod : blocks * bitpool ≤ 16 * 250 := Nat.mul_le_mul hb16 hb
  have hmono := shiftLeft_toNat_le (4 * subbands) (!getBit kChannelModeMono config)
  have hdual := shiftLeft_toNat_le (blocks * bitpool) (getBit kChannelModeDualChannel config)
  have hjoint : (if getBit kChannelModeJointStereo config then subbands else 0) ≤ 8 := by
    split_ifs <;> omega
  generalize (4 * subbands) <<< (!getBit kChannelModeMono config).toNat = mono at *
  generalize (blocks * bitpool) <<< (getBit kChannelModeDualChannel config).toNat = dual at *
  generalize (if getBit kChannelModeJointStereo config then subbands else 0) = joint at *
  have hframe : 4 + (mono + dual + joint + 7) / 8 ≤ 1013 := by omega
  have hrate : 8 * (4 + (mono + dual + joint + 7) / 8) * frequency ≤ 8 * 1013 * 48000 :=
    Nat.mul_le_mul (Nat.mul_le_mul_left 8 hframe) hfrequency
  have hdiv1 : 4 * 4 ≤ blocks * subbands := Nat.mul_le_mul hb4 hs4
  have hdiv2 : blocks * subbands ≤ 16 * 8 := Nat.mul_le_mul hb16 hs8
  refine ⟨?_, by omega, by omega⟩
  simp only [List.forall_mem_cons, List.not_mem_nil, false_imp_iff, implies_true, and_true]
  refine ⟨by omega, by omega, by omega, by omega, by omega, ?_, ?_, ?_⟩ <;> omega

/-- **When the parser accepts just the well-formed configurations**: it does so on a configuration
unless that is well-formed but for a bitpool range whose maximum is below its minimum. -/
theorem parseConfiguration_wellFormed_iff (config : List UInt8) :
    (((∃ p, parseConfiguration config = .ok p) ↔ WellFormed config) ∧
      ∀ p, parseConfiguration config = .ok p → p.minBitrate ≤ p.maxBitrate ∧
        BitrateSafe config (getRange kMinimumBitpool config) ∧
        BitrateSafe config (getRange kMaximumBitpool config)) ↔
    (getRange kMinimumBitpool config ≤ getRange kMaximumBitpool config ∨ config.length ≠ 4 ∨
      ¬ SingleChoices config ∨ 250 < getRange kMinimumBitpool config ∨
      getRange kMaximumBitpool config < 2) := by
  have hlmin : getRange kMinimumBitpool capabilities = 2 := by decide
  have hlmax : getRange kMaximumBitpool capabilities = 250 := by decide
  constructor
  · rintro ⟨hiff, -⟩
    by_contra hnot
    simp only [not_or, not_le, not_lt, ne_eq, not_not] at hnot
    obtain ⟨hlt, hl, hf, hmin, hmax⟩ := hnot
    -- the range is the wrong way round, and the parser accepts it
    have hok : ∃ p, parseConfiguration config = .ok p :=
      parseConfiguration_ok_iff.2 ⟨hl, hf, validBitpool_iff.2 ⟨by omega, hmin⟩,
        validBitpool_iff.2 ⟨hmax, by omega⟩⟩
    have hordered := (hiff.1 hok).ordered
    omega
  · intro hcond
    have hordered : ∀ p, parseConfiguration config = .ok p →
        getRange kMinimumBitpool config ≤ getRange kMaximumBitpool config := by
      intro p h
      obtain ⟨hl, hf, hmin, hmax, -⟩ := parseConfiguration_eq_ok h
      rw [validBitpool_iff] at hmin hmax
      rcases hcond with h | h | h | h | h
      · exact h
      · exact absurd hl h
      · exact absurd hf h
      · omega
      · omega
    refine ⟨⟨?_, ?_⟩, ?_⟩
    · rintro ⟨p, h⟩
      obtain ⟨hl, hf, hmin, hmax, -⟩ := parseConfiguration_eq_ok h
      rw [validBitpool_iff] at hmin hmax
      exact ⟨hl, hf, by omega, hordered p h, by omega⟩
    · rintro ⟨hl, hf, hmin, hle, hmax⟩
      exact parseConfiguration_ok_iff.2 ⟨hl, hf, validBitpool_iff.2 ⟨by omega, by omega⟩,
        validBitpool_iff.2 ⟨by omega, by omega⟩⟩
    · intro p h
      obtain ⟨-, hf, hmin, hmax, hpmin, hpmax⟩ := parseConfiguration_eq_ok h
      rw [validBitpool_iff] at hmin hmax
      have hmono := getBitrate_mono config (hordered p h)
      exact ⟨by omega, bitrateSafe hf hmin.2, bitrateSafe hf hmax.2⟩

/-- A configuration with a bitpool range from 50 down to 8 is accepted. -/
theorem parseConfiguration_accepts_malformed : ¬ ∀ config : List UInt8,
    ((∃ p, parseConfiguration config = .ok p) ↔ WellFormed config) ∧
      ∀ p, parseConfiguration config = .ok p → p.minBitrate ≤ p.maxBitrate ∧
        BitrateSafe config (getRange kMinimumBitpool config) ∧
        BitrateSafe config (getRange kMaximumBitpool config) := by
  intro h
  have hwell := (h [0x21, 0x19, 50, 8]).1.1 ⟨_, rfl⟩
  exact absurd hwell.ordered (by decide)

end

end TrebleDoze.Bluetooth.A2dpOffloadCodecSbc
