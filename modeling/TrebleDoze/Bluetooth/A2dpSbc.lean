import TrebleDoze.Bluetooth.A2dpCodec

/-!
# `A2dpOffloadCodecSbc`

The SBC codec: its local capabilities, the configuration it builds from the capabilities of the peer and
a hint, and the parser of configurations.

* `selectBitpool_bounds`: the bitpool values of a configuration that is built are those of the format;
* `parseConfiguration_buildConfiguration`: the parser accepts each configuration that is built, and reads
  from it the bits that were selected.
-/

namespace TrebleDoze.Bluetooth.A2dpOffloadCodecSbc

open A2dpBits

/-! ### The format -/

/-- `kBitdepth`. -/
def kBitdepth : ℤ := 16

/-- `kDefaultMinimumBitpool`. -/
def kDefaultMinimumBitpool : ℕ := 2

/-- `kDefaultMaximumBitpool`. -/
def kDefaultMaximumBitpool : ℕ := 250

def kSamplingFrequency : Range := .upTo 0 3
def kChannelMode : Range := .upTo 4 7
def kBlockLength : Range := .upTo 8 11
def kSubbands : Range := .upTo 12 13
def kAllocationMethod : Range := .upTo 14 15
def kMinimumBitpool : Range := .upTo 16 23
def kMaximumBitpool : Range := .upTo 24 31
def kCapabilitiesSize : ℕ := 32 / 8

def kSamplingFrequency16000 : ℕ := kSamplingFrequency.first
def kSamplingFrequency32000 : ℕ := kSamplingFrequency.first + 1
def kSamplingFrequency44100 : ℕ := kSamplingFrequency.first + 2
def kSamplingFrequency48000 : ℕ := kSamplingFrequency.first + 3

def kChannelModeMono : ℕ := kChannelMode.first
def kChannelModeDualChannel : ℕ := kChannelMode.first + 1
def kChannelModeStereo : ℕ := kChannelMode.first + 2
def kChannelModeJointStereo : ℕ := kChannelMode.first + 3

def kBlockLength4 : ℕ := kBlockLength.first
def kBlockLength8 : ℕ := kBlockLength.first + 1
def kBlockLength12 : ℕ := kBlockLength.first + 2
def kBlockLength16 : ℕ := kBlockLength.first + 3

def kSubbands8 : ℕ := kSubbands.first
def kSubbands4 : ℕ := kSubbands.first + 1

def kAllocationMethodSnr : ℕ := kAllocationMethod.first
def kAllocationMethodLoudness : ℕ := kAllocationMethod.first + 1

/-! ### Conversion functions -/

/-- `GetSamplingFrequencyBit`; `none` stands for -1. -/
def getSamplingFrequencyBit (samplingFrequency : ℤ) : Option ℕ :=
  if samplingFrequency = 16000 then some kSamplingFrequency16000
  else if samplingFrequency = 32000 then some kSamplingFrequency32000
  else if samplingFrequency = 44100 then some kSamplingFrequency44100
  else if samplingFrequency = 48000 then some kSamplingFrequency48000
  else none

/-- `GetSamplingFrequencyValue`. -/
def getSamplingFrequencyValue (samplingFrequency : Option ℕ) : ℕ :=
  if samplingFrequency = some kSamplingFrequency16000 then 16000
  else if samplingFrequency = some kSamplingFrequency32000 then 32000
  else if samplingFrequency = some kSamplingFrequency44100 then 44100
  else if samplingFrequency = some kSamplingFrequency48000 then 48000
  else 0

/-- `GetChannelModeBit`; `none` stands for -1. -/
def getChannelModeBit : ChannelMode → Option ℕ
  | .stereo => some (kChannelModeJointStereo ||| kChannelModeStereo)
  | .dualMono => some kChannelModeDualChannel
  | .mono => some kChannelModeMono
  | .unknown => none

/-- `GetChannelModeEnum`. -/
def getChannelModeEnum (channelMode : ℕ) : ChannelMode :=
  if channelMode = kChannelModeMono then .mono
  else if channelMode = kChannelModeDualChannel then .dualMono
  else if channelMode = kChannelModeStereo ∨ channelMode = kChannelModeJointStereo then .stereo
  else .unknown

/-- `GetBlockLengthValue`. -/
def getBlockLengthValue (blockLength : Option ℕ) : ℕ :=
  if blockLength = some kBlockLength4 then 4
  else if blockLength = some kBlockLength8 then 8
  else if blockLength = some kBlockLength12 then 12
  else if blockLength = some kBlockLength16 then 16
  else 0

/-- `GetSubbandsValue`. -/
def getSubbandsValue (subbands : Option ℕ) : ℕ :=
  if subbands = some kSubbands4 then 4
  else if subbands = some kSubbands8 then 8
  else 0

/-- `SbcParameters::AllocationMethod`. -/
inductive AllocationMethod where
  | snr | loudness
  deriving DecidableEq, Repr

/-- `GetAllocationMethodEnum`. -/
def getAllocationMethodEnum (allocationMethod : ℕ) : AllocationMethod :=
  if allocationMethod = kAllocationMethodSnr then .snr else .loudness

/-- `GetFrameSize`. -/
def getFrameSize (configuration : List UInt8) (bitpool : ℕ) : ℕ :=
  let subbands := getSubbandsValue (findActiveBit kSubbands configuration)
  let blocks := getBlockLengthValue (findActiveBit kBlockLength configuration)
  let bits :=
    (4 * subbands) <<< (!getBit kChannelModeMono configuration).toNat +
      (blocks * bitpool) <<< (getBit kChannelModeDualChannel configuration).toNat +
      (if getBit kChannelModeJointStereo configuration then subbands else 0)
  4 + (bits + 7) >>> 3

/-- `GetBitrate`. -/
def getBitrate (configuration : List UInt8) (bitpool : ℕ) : ℕ :=
  let samplingFrequency :=
    getSamplingFrequencyValue (findActiveBit kSamplingFrequency configuration)
  let subbands := getSubbandsValue (findActiveBit kSubbands configuration)
  let blocks := getBlockLengthValue (findActiveBit kBlockLength configuration)
  let bits := 8 * getFrameSize configuration bitpool
  bits * samplingFrequency / (blocks * subbands)

/-- `GetBitpool`: a search by halves, clamped to the values of the format. -/
def getBitpool (configuration : List UInt8) (bitrate : ℤ) : ℕ :=
  let bitpool := [128, 64, 32, 16, 8, 4, 2, 1].foldl
    (fun bitpool i => if bitrate > getBitrate configuration (bitpool + i) then bitpool + i else bitpool)
    0
  max 2 (min bitpool 250)

/-! ### The codec -/

/-- The local capabilities, as the constructor sets them up. -/
def capabilities : List UInt8 :=
  let caps := setBits kCapabilitiesSize
    [kSamplingFrequency44100, kSamplingFrequency48000,
      kChannelModeMono, kChannelModeDualChannel, kChannelModeStereo, kChannelModeJointStereo,
      kBlockLength4, kBlockLength8, kBlockLength12, kBlockLength16,
      kSubbands4, kSubbands8, kSubbands4, kSubbands8,
      kAllocationMethodSnr, kAllocationMethodLoudness]
  setRange kMaximumBitpool kDefaultMaximumBitpool (setRange kMinimumBitpool kDefaultMinimumBitpool caps)

/-- `SbcParameters`. -/
structure SbcParameters extends CodecParameters where
  allocationMethod : AllocationMethod
  blockLength : ℕ
  subbands : ℕ
  minBitpool : ℕ
  maxBitpool : ℕ
  deriving DecidableEq, Repr

/-- The check of a bitpool value in `ParseConfiguration`: it is one of the format. -/
def validBitpool (bitpool : ℕ) : Bool := !(bitpool < 2 || bitpool > 250)

/-- `ParseConfiguration`. -/
def parseConfiguration (configuration : List UInt8) : Except A2dpStatus SbcParameters :=
  if configuration.length ≠ capabilities.length then .error .badLength else do
  let config := configuration
  let lcaps := capabilities
  let samplingFrequency ← checkField kSamplingFrequency .invalidSamplingFrequency
    .notSupportedSamplingFrequency lcaps config
  let channelMode ← checkField kChannelMode .invalidChannelMode .notSupportedChannelMode lcaps config
  -- the local capabilities are not asked for the block length
  match findActiveBit kBlockLength config with
  | none => .error .invalidBlockLength
  | some blockLength => do
  let subbands ← checkField kSubbands .invalidSubbands .notSupportedSubbands lcaps config
  let allocationMethod ← checkField kAllocationMethod .invalidAllocationMethod
    .notSupportedAllocationMethod lcaps config
  let minBitpool := getRange kMinimumBitpool config
  if !validBitpool minBitpool then .error .invalidMinimumBitpoolValue
  else if minBitpool < getRange kMinimumBitpool lcaps then .error .notSupportedMinimumBitpoolValue
  else
  let maxBitpool := getRange kMaximumBitpool config
  if !validBitpool maxBitpool then .error .invalidMaximumBitpoolValue
  else if maxBitpool > getRange kMaximumBitpool lcaps then .error .notSupportedMaximumBitpoolValue
  else
  .ok
    { channelMode := getChannelModeEnum channelMode
      samplingFrequencyHz := getSamplingFrequencyValue (some samplingFrequency)
      bitdepth := kBitdepth
      minBitrate := getBitrate config minBitpool
      maxBitrate := getBitrate config maxBitpool
      allocationMethod := getAllocationMethodEnum allocationMethod
      blockLength := getBlockLengthValue (some blockLength)
      subbands := getSubbandsValue (some subbands)
      minBitpool := minBitpool
      maxBitpool := maxBitpool }

/-- The selection of the sampling frequency in `BuildConfiguration`. -/
def selectSamplingFrequency (rcaps : List UInt8) (hint : Option CodecParameters) : Option ℕ :=
  let sfHint := hint.bind fun hint => getSamplingFrequencyBit hint.samplingFrequencyHz
  selectBit capabilities rcaps (sfHint.toList ++ [kSamplingFrequency44100, kSamplingFrequency48000])

/-- The selection of the channel mode. -/
def selectChannelMode (rcaps : List UInt8) (hint : Option CodecParameters) : Option ℕ :=
  let cmHint := hint.bind fun hint => getChannelModeBit hint.channelMode
  selectBit capabilities rcaps (cmHint.toList ++
    [kChannelModeJointStereo, kChannelModeStereo, kChannelModeDualChannel, kChannelModeMono])

/-- The selection of the block length. -/
def selectBlockLength (rcaps : List UInt8) : Option ℕ :=
  selectBit capabilities rcaps [kBlockLength16, kBlockLength12, kBlockLength8, kBlockLength4]

/-- The selection of the subbands. -/
def selectSubbands (rcaps : List UInt8) : Option ℕ :=
  selectBit capabilities rcaps [kSubbands8, kSubbands4]

/-- The selection of the allocation method. -/
def selectAllocationMethod (rcaps : List UInt8) : Option ℕ :=
  selectBit capabilities rcaps [kAllocationMethodLoudness, kAllocationMethodSnr]

/-- The selection of the bitpool, for a configuration in which the other fields are set. -/
def selectBitpool (rcaps : List UInt8) (hint : Option CodecParameters) (config : List UInt8) : ℕ × ℕ :=
  let minBitpool := getRange kMinimumBitpool rcaps
  let maxBitpool := getRange kMaximumBitpool rcaps
  let (minBitpool, maxBitpool) :=
    if minBitpool < 2 ∨ minBitpool > 250 ∨ maxBitpool < 2 ∨ maxBitpool > 250 ∨ minBitpool > maxBitpool
    then (2, 250) else (minBitpool, maxBitpool)
  let minBitpool := max minBitpool (getRange kMinimumBitpool capabilities)
  let maxBitpool := max maxBitpool (getRange kMaximumBitpool capabilities)
  match hint with
  | none => (minBitpool, maxBitpool)
  | some hint =>
    (max minBitpool (getBitpool config hint.minBitrate),
      if hint.maxBitrate ≠ 0 ∧ hint.maxBitrate ≥ hint.minBitrate then
        min maxBitpool (getBitpool config hint.maxBitrate)
      else maxBitpool)

/-- `BuildConfiguration`. -/
def buildConfiguration (remoteCapabilities : List UInt8) (hint : Option CodecParameters) :
    Option (List UInt8) :=
  if remoteCapabilities.length ≠ capabilities.length then none else do
  let rcaps := remoteCapabilities
  let config := List.replicate capabilities.length 0
  let samplingFrequency ← selectSamplingFrequency rcaps hint
  let config := setBit samplingFrequency true config
  let channelMode ← selectChannelMode rcaps hint
  let config := setBit channelMode true config
  let blockLength ← selectBlockLength rcaps
  let config := setBit blockLength true config
  let subbands ← selectSubbands rcaps
  let config := setBit subbands true config
  let allocationMethod ← selectAllocationMethod rcaps
  let config := setBit allocationMethod true config
  let (minBitpool, maxBitpool) := selectBitpool rcaps hint config
  some (setRange kMaximumBitpool maxBitpool (setRange kMinimumBitpool minBitpool config))

/-! ### The fields of a configuration that is built -/

theorem capabilities_eq : capabilities = [0x3f, 0xff, 2, 250] := by decide

theorem getBitpool_bounds (configuration : List UInt8) (bitrate : ℤ) :
    2 ≤ getBitpool configuration bitrate ∧ getBitpool configuration bitrate ≤ 250 := by
  unfold getBitpool
  exact ⟨le_max_left .., max_le (by decide) (min_le_right ..)⟩

theorem validBitpool_iff {bitpool : ℕ} : validBitpool bitpool = true ↔ 2 ≤ bitpool ∧ bitpool ≤ 250 := by
  unfold validBitpool
  rw [Bool.not_eq_true', Bool.or_eq_false_iff, decide_eq_false_iff_not, decide_eq_false_iff_not]
  omega

theorem validBitpool_lt {bitpool : ℕ} (h : validBitpool bitpool = true) : bitpool < 256 := by
  have := (validBitpool_iff.1 h).2
  omega

/-- The bitpool values of a configuration that is built are those of the format. -/
theorem selectBitpool_bounds (rcaps : List UInt8) (hint : Option CodecParameters) (config : List UInt8) :
    validBitpool (selectBitpool rcaps hint config).1 = true ∧
      validBitpool (selectBitpool rcaps hint config).2 = true := by
  have hmin : getRange kMinimumBitpool capabilities = 2 := by decide
  have hmax : getRange kMaximumBitpool capabilities = 250 := by decide
  simp only [validBitpool_iff]
  unfold selectBitpool
  simp only [hmin, hmax]
  generalize getRange kMinimumBitpool rcaps = rmin
  generalize getRange kMaximumBitpool rcaps = rmax
  cases hint with
  | none =>
    split_ifs with h
    · simp
    · simp only
      omega
  | some hint =>
    have h1 := getBitpool_bounds config hint.minBitrate
    have h2 := getBitpool_bounds config hint.maxBitrate
    simp only
    split_ifs <;> simp only <;> omega

theorem mem_selectSamplingFrequency {rcaps : List UInt8} {hint : Option CodecParameters} {bit : ℕ}
    (h : selectSamplingFrequency rcaps hint = some bit) : bit ∈ kSamplingFrequency := by
  refine mem_of_selectBit_hint (fun p b hp => ?_) (by decide) h
  unfold getSamplingFrequencyBit at hp
  split_ifs at hp <;> cases hp <;> decide

theorem mem_selectChannelMode {rcaps : List UInt8} {hint : Option CodecParameters} {bit : ℕ}
    (h : selectChannelMode rcaps hint = some bit) : bit ∈ kChannelMode := by
  refine mem_of_selectBit_hint (fun p b hp => ?_) (by decide) h
  unfold getChannelModeBit at hp
  split at hp <;> cases hp <;> decide

theorem mem_selectBlockLength {rcaps : List UInt8} {bit : ℕ} (h : selectBlockLength rcaps = some bit) :
    bit ∈ kBlockLength :=
  mem_of_selectBit (by decide) h

theorem mem_selectSubbands {rcaps : List UInt8} {bit : ℕ} (h : selectSubbands rcaps = some bit) :
    bit ∈ kSubbands :=
  mem_of_selectBit (by decide) h

theorem mem_selectAllocationMethod {rcaps : List UInt8} {bit : ℕ}
    (h : selectAllocationMethod rcaps = some bit) : bit ∈ kAllocationMethod :=
  mem_of_selectBit (by decide) h

/-- What `BuildConfiguration` has selected when it succeeds, and the configuration it has built. -/
theorem buildConfiguration_eq_some {rcaps : List UInt8} {hint : Option CodecParameters}
    {config : List UInt8} (h : buildConfiguration rcaps hint = some config) :
    ∃ sf cm bl sb am,
      selectSamplingFrequency rcaps hint = some sf ∧ selectChannelMode rcaps hint = some cm ∧
      selectBlockLength rcaps = some bl ∧ selectSubbands rcaps = some sb ∧
      selectAllocationMethod rcaps = some am ∧
      config =
        setRange kMaximumBitpool (selectBitpool rcaps hint (setBits 4 [sf, cm, bl, sb, am])).2
          (setRange kMinimumBitpool (selectBitpool rcaps hint (setBits 4 [sf, cm, bl, sb, am])).1
            (setBits 4 [sf, cm, bl, sb, am])) := by
  unfold buildConfiguration at h
  split_ifs at h with hl
  obtain ⟨sf, hsf, h⟩ := Option.bind_eq_some_iff.1 h
  obtain ⟨cm, hcm, h⟩ := Option.bind_eq_some_iff.1 h
  obtain ⟨bl, hbl, h⟩ := Option.bind_eq_some_iff.1 h
  obtain ⟨sb, hsb, h⟩ := Option.bind_eq_some_iff.1 h
  obtain ⟨am, ham, h⟩ := Option.bind_eq_some_iff.1 h
  exact ⟨sf, cm, bl, sb, am, hsf, hcm, hbl, hsb, ham, (Option.some.inj h).symm⟩

/-- The capabilities of the peer have the length of the format when a configuration is built. -/
theorem length_of_buildConfiguration {rcaps : List UInt8} {hint : Option CodecParameters}
    {config : List UInt8} (h : buildConfiguration rcaps hint = some config) : rcaps.length = 4 := by
  unfold buildConfiguration at h
  split_ifs at h with hl
  rw [not_not, capabilities_eq] at hl
  exact hl

/-- `BuildConfiguration` succeeds when a bit of each field can be selected. -/
theorem buildConfiguration_of_select {rcaps : List UInt8} {hint : Option CodecParameters}
    {sf cm bl sb am : ℕ} (hl : rcaps.length = 4) (hsf : selectSamplingFrequency rcaps hint = some sf)
    (hcm : selectChannelMode rcaps hint = some cm) (hbl : selectBlockLength rcaps = some bl)
    (hsb : selectSubbands rcaps = some sb) (ham : selectAllocationMethod rcaps = some am) :
    buildConfiguration rcaps hint = some
      (setRange kMaximumBitpool (selectBitpool rcaps hint (setBits 4 [sf, cm, bl, sb, am])).2
        (setRange kMinimumBitpool (selectBitpool rcaps hint (setBits 4 [sf, cm, bl, sb, am])).1
          (setBits 4 [sf, cm, bl, sb, am]))) := by
  have hlen : ¬ rcaps.length ≠ capabilities.length := by
    rw [hl, capabilities_eq]
    decide
  unfold buildConfiguration
  rw [if_neg hlen]
  simp only [hsf, hcm, hbl, hsb, ham, Option.bind_eq_bind, Option.bind_some]
  rfl

/-- A configuration that is built has one active bit in each field, and the bitpool values selected. -/
structure Built (config : List UInt8) (sf cm bl sb am minBitpool maxBitpool : ℕ) : Prop where
  length : config.length = 4
  samplingFrequency : Active kSamplingFrequency config sf
  channelMode : Active kChannelMode config cm
  blockLength : Active kBlockLength config bl
  subbands : Active kSubbands config sb
  allocationMethod : Active kAllocationMethod config am
  minBitpool : getRange kMinimumBitpool config = minBitpool
  maxBitpool : getRange kMaximumBitpool config = maxBitpool

theorem built {sf cm bl sb am minBitpool maxBitpool : ℕ} (hsf : sf ∈ kSamplingFrequency)
    (hcm : cm ∈ kChannelMode) (hbl : bl ∈ kBlockLength) (hsb : sb ∈ kSubbands)
    (ham : am ∈ kAllocationMethod) (hmin : minBitpool < 256) (hmax : maxBitpool < 256) :
    Built (setRange kMaximumBitpool maxBitpool
      (setRange kMinimumBitpool minBitpool (setBits 4 [sf, cm, bl, sb, am])))
      sf cm bl sb am minBitpool maxBitpool := by
  have hset : List.Forall₂ (fun r b => Active r (setBits 4 [sf, cm, bl, sb, am]) b)
      [kSamplingFrequency, kChannelMode, kBlockLength, kSubbands, kAllocationMethod]
      [sf, cm, bl, sb, am] :=
    active_setBits (by decide) (by decide)
      (.cons hsf (.cons hcm (.cons hbl (.cons hsb (.cons ham .nil)))))
  have hl : ∀ n, (setRange kMinimumBitpool n (setBits 4 [sf, cm, bl, sb, am])).length = 4 := by simp
  have hlast : ∀ {r : Range} {b : ℕ}, r.Disjoint kMinimumBitpool → r.Disjoint kMaximumBitpool →
      Active r (setBits 4 [sf, cm, bl, sb, am]) b →
      Active r (setRange kMaximumBitpool maxBitpool
        (setRange kMinimumBitpool minBitpool (setBits 4 [sf, cm, bl, sb, am]))) b := by
    intro r b hmin hmax ha
    refine (ha.setRange ?_ hmin).setRange ?_ hmax
    · rw [length_setBits]
      decide
    · rw [hl]
      decide
  simp only [List.forall₂_cons, List.forall₂_nil_right_iff] at hset
  obtain ⟨h1, h2, h3, h4, h5, -⟩ := hset
  refine ⟨by simp, hlast (by decide) (by decide) h1, hlast (by decide) (by decide) h2,
    hlast (by decide) (by decide) h3, hlast (by decide) (by decide) h4,
    hlast (by decide) (by decide) h5, ?_, ?_⟩
  · rw [getRange_setRange_of_disjoint (by rw [hl]; decide) (by decide),
      getRange_setRange (by rw [length_setBits]; decide)]
    have hlen : kMinimumBitpool.len = 8 := rfl
    rw [hlen]
    omega
  · rw [getRange_setRange (by rw [hl]; decide)]
    have hlen : kMaximumBitpool.len = 8 := rfl
    rw [hlen]
    omega

/-! ### The parser accepts what is built -/

/-- The parser reads back the fields of a configuration that is built. -/
theorem parseConfiguration_of_built {config : List UInt8} {sf cm bl sb am minBitpool maxBitpool : ℕ}
    (h : Built config sf cm bl sb am minBitpool maxBitpool) (hsf : getBit sf capabilities = true)
    (hcm : getBit cm capabilities = true) (hsb : getBit sb capabilities = true)
    (ham : getBit am capabilities = true) (hmin : validBitpool minBitpool = true)
    (hmax : validBitpool maxBitpool = true) :
    parseConfiguration config = .ok
      { channelMode := getChannelModeEnum cm
        samplingFrequencyHz := getSamplingFrequencyValue (some sf)
        bitdepth := kBitdepth
        minBitrate := getBitrate config minBitpool
        maxBitrate := getBitrate config maxBitpool
        allocationMethod := getAllocationMethodEnum am
        blockLength := getBlockLengthValue (some bl)
        subbands := getSubbandsValue (some sb)
        minBitpool := minBitpool
        maxBitpool := maxBitpool } := by
  have hlen : ¬ config.length ≠ capabilities.length := by
    rw [h.length, capabilities_eq]
    decide
  have hlmin : ¬ minBitpool < getRange kMinimumBitpool capabilities := by
    have hcaps : getRange kMinimumBitpool capabilities = 2 := by decide
    have := (validBitpool_iff.1 hmin).1
    omega
  have hlmax : ¬ maxBitpool > getRange kMaximumBitpool capabilities := by
    have hcaps : getRange kMaximumBitpool capabilities = 250 := by decide
    have := (validBitpool_iff.1 hmax).2
    omega
  unfold parseConfiguration
  rw [if_neg hlen]
  simp only [bind, Except.bind, checkField_eq h.samplingFrequency hsf, checkField_eq h.channelMode hcm,
    findActiveBit_eq h.blockLength, checkField_eq h.subbands hsb, checkField_eq h.allocationMethod ham,
    h.minBitpool, h.maxBitpool, hmin, hmax, Bool.not_true, Bool.false_eq_true, if_false,
    if_neg hlmin, if_neg hlmax]

/-- **The parser accepts each configuration that is built**, and reads from it the sampling frequency
and the channel mode of the bits that were selected. -/
theorem parseConfiguration_buildConfiguration {rcaps : List UInt8} {hint : Option CodecParameters}
    {config : List UInt8} (h : buildConfiguration rcaps hint = some config) :
    ∃ p sf cm, parseConfiguration config = .ok p ∧
      selectSamplingFrequency rcaps hint = some sf ∧ Active kSamplingFrequency config sf ∧
      selectChannelMode rcaps hint = some cm ∧ Active kChannelMode config cm ∧
      p.samplingFrequencyHz = getSamplingFrequencyValue (some sf) ∧
      p.channelMode = getChannelModeEnum cm := by
  obtain ⟨sf, cm, bl, sb, am, hsf, hcm, hbl, hsb, ham, hconfig⟩ := buildConfiguration_eq_some h
  obtain ⟨hmin, hmax⟩ := selectBitpool_bounds rcaps hint (setBits 4 [sf, cm, bl, sb, am])
  have hb := built (mem_selectSamplingFrequency hsf) (mem_selectChannelMode hcm)
    (mem_selectBlockLength hbl) (mem_selectSubbands hsb) (mem_selectAllocationMethod ham)
    (validBitpool_lt hmin) (validBitpool_lt hmax)
  rw [← hconfig] at hb
  refine ⟨_, sf, cm, parseConfiguration_of_built hb (selectBit_eq_some hsf).2.1
    (selectBit_eq_some hcm).2.1 (selectBit_eq_some hsb).2.1 (selectBit_eq_some ham).2.1 hmin hmax,
    hsf, hb.samplingFrequency, hcm, hb.channelMode, rfl, rfl⟩

end TrebleDoze.Bluetooth.A2dpOffloadCodecSbc
