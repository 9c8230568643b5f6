import TrebleDoze.Bluetooth.A2dpCodec

/-!
# `A2dpOffloadCodecAac`

The AAC codec: its local capabilities, the configuration it builds from the capabilities of the peer and
a hint, and the parser of configurations.

* `parseConfiguration_buildConfiguration`: the parser accepts each configuration that is built, and reads
  from it the bits that were selected.
-/

namespace TrebleDoze.Bluetooth.A2dpOffloadCodecAac

open A2dpBits

/-! ### The format -/

/-- `kBitdepth`. -/
def kBitdepth : ℤ := 24

def kObjectType : Range := .upTo 0 6
def kSamplingFrequency : Range := .upTo 8 19
def kChannels : Range := .upTo 20 23
def kVbrSupported : Range := .upTo 24 24
def kBitrate : Range := .upTo 25 47
def kCapabilitiesSize : ℕ := 48 / 8

def kObjectTypeMpeg2AacLc : ℕ := kObjectType.first
def kObjectTypeMpeg4AacLc : ℕ := kObjectType.first + 1

def kSamplingFrequency8000 : ℕ := kSamplingFrequency.first
def kSamplingFrequency11025 : ℕ := kSamplingFrequency.first + 1
def kSamplingFrequency12000 : ℕ := kSamplingFrequency.first + 2
def kSamplingFrequency16000 : ℕ := kSamplingFrequency.first + 3
def kSamplingFrequency22050 : ℕ := kSamplingFrequency.first + 4
def kSamplingFrequency24000 : ℕ := kSamplingFrequency.first + 5
def kSamplingFrequency32000 : ℕ := kSamplingFrequency.first + 6
def kSamplingFrequency44100 : ℕ := kSamplingFrequency.first + 7
def kSamplingFrequency48000 : ℕ := kSamplingFrequency.first + 8
def kSamplingFrequency64000 : ℕ := kSamplingFrequency.first + 9
def kSamplingFrequency88200 : ℕ := kSamplingFrequency.first + 10
def kSamplingFrequency96000 : ℕ := kSamplingFrequency.first + 11

def kChannels1 : ℕ := kChannels.first
def kChannels2 : ℕ := kChannels.first + 1

/-! ### Conversion functions -/

/-- `AacParameters::ObjectType`. -/
inductive ObjectType where
  | mpeg2AacLc | mpeg4AacLc
  deriving DecidableEq, Repr

/-- `GetObjectTypeEnum`. -/
def getObjectTypeEnum (objectType : ℕ) : ObjectType :=
  if objectType = kObjectTypeMpeg2AacLc then .mpeg2AacLc else .mpeg4AacLc

/-- The sampling frequencies of the format, each with its bit. -/
def samplingFrequencies : List (ℕ × ℕ) :=
  [(8000, kSamplingFrequency8000), (11025, kSamplingFrequency11025),
    (12000, kSamplingFrequency12000), (16000, kSamplingFrequency16000),
    (22050, kSamplingFrequency22050), (24000, kSamplingFrequency24000),
    (32000, kSamplingFrequency32000), (44100, kSamplingFrequency44100),
    (48000, kSamplingFrequency48000), (64000, kSamplingFrequency64000),
    (88200, kSamplingFrequency88200), (96000, kSamplingFrequency96000)]

/-- `GetSamplingFrequencyBit`; `none` stands for -1. -/
def getSamplingFrequencyBit (samplingFrequency : ℤ) : Option ℕ :=
  (samplingFrequencies.find? fun f => samplingFrequency = f.1).map Prod.snd

/-- `GetSamplingFrequencyValue`. -/
def getSamplingFrequencyValue (samplingFrequency : ℕ) : ℕ :=
  ((samplingFrequencies.find? fun f => samplingFrequency = f.2).map Prod.fst).getD 0

/-- `GetChannelsBit`; `none` stands for -1. -/
def getChannelsBit : ChannelMode → Option ℕ
  | .mono => some kChannels1
  | .stereo => some kChannels2
  | _ => none

/-- `GetChannelModeEnum`. -/
def getChannelModeEnum (channelMode : ℕ) : ChannelMode :=
  if channelMode = kChannels1 then .mono
  else if channelMode = kChannels2 then .stereo
  else .unknown

/-! ### The codec -/

/-- The local capabilities, as the constructor sets them up; 88.2 kHz and 96 kHz are not enabled. -/
def capabilities : List UInt8 :=
  let caps := setBits kCapabilitiesSize
    [kObjectTypeMpeg2AacLc, kObjectTypeMpeg4AacLc, kSamplingFrequency44100, kSamplingFrequency48000]
  let caps := setBit kSamplingFrequency88200 false caps
  let caps := setBit kSamplingFrequency96000 false caps
  let caps := setBit kChannels1 true caps
  let caps := setBit kChannels2 true caps
  setRange kVbrSupported 1 caps

/-- `AacParameters`. -/
structure AacParameters extends CodecParameters where
  objectType : ObjectType
  deriving DecidableEq, Repr

/-- `ParseConfiguration`. -/
def parseConfiguration (configuration : List UInt8) : Except A2dpStatus AacParameters :=
  if configuration.length ≠ capabilities.length then .error .badLength else do
  let config := configuration
  let lcaps := capabilities
  let objectType ← checkField kObjectType .invalidObjectType .notSupportedObjectType lcaps config
  let samplingFrequency ← checkField kSamplingFrequency .invalidSamplingFrequency
    .notSupportedSamplingFrequency lcaps config
  let channels ← checkField kChannels .invalidChannels .notSupportedChannels lcaps config
  let vbr := getRange kVbrSupported config
  if vbr ≠ 0 ∧ getRange kVbrSupported lcaps = 0 then .error .notSupportedVbr else
  let bitrate := getRange kBitrate config
  if vbr ≠ 0 ∧ getRange kBitrate lcaps ≠ 0 ∧ bitrate > getRange kBitrate lcaps then
    .error .notSupportedBitRate
  else
  .ok
    { channelMode := getChannelModeEnum channels
      samplingFrequencyHz := getSamplingFrequencyValue samplingFrequency
      bitdepth := kBitdepth
      minBitrate := if vbr ≠ 0 then 0 else bitrate
      maxBitrate := bitrate
      objectType := getObjectTypeEnum objectType }

/-- The selection of the object type in `BuildConfiguration`. -/
def selectObjectType (rcaps : List UInt8) : Option ℕ :=
  selectBit capabilities rcaps [kObjectTypeMpeg2AacLc, kObjectTypeMpeg4AacLc]

/-- The selection of the sampling frequency. -/
def selectSamplingFrequency (rcaps : List UInt8) (hint : Option CodecParameters) : Option ℕ :=
  let sfHint := hint.bind fun hint => getSamplingFrequencyBit hint.samplingFrequencyHz
  selectBit capabilities rcaps (sfHint.toList ++
    [kSamplingFrequency96000, kSamplingFrequency88200, kSamplingFrequency48000, kSamplingFrequency44100])

/-- The selection of the channels. -/
def selectChannels (rcaps : List UInt8) (hint : Option CodecParameters) : Option ℕ :=
  let chHint := hint.bind fun hint => getChannelsBit hint.channelMode
  selectBit capabilities rcaps (chHint.toList ++ [kChannels2, kChannels1])

/-- The setting of `kVbrSupported` when there is no hint, or one with no minimum of the bit rate. -/
def setVbrSupported (rcaps : List UInt8) (hint : Option CodecParameters) (config : List UInt8) :
    List UInt8 :=
  let vbr := (getRange kVbrSupported capabilities ≠ 0 ∧ getRange kVbrSupported rcaps ≠ 0 : Bool)
  match hint with
  | none => setRange kVbrSupported vbr.toNat config
  | some hint => if hint.minBitrate = 0 then setRange kVbrSupported vbr.toNat config else config

/-- The selection of the bit rate. -/
def selectBitrate (hint : Option CodecParameters) : ℤ :=
  let bitrate : ℤ := getRange kBitrate capabilities
  match hint with
  | none => bitrate
  | some hint =>
    if hint.maxBitrate > 0 ∧ bitrate ≠ 0 then min hint.maxBitrate bitrate
    else if hint.maxBitrate > 0 then hint.maxBitrate
    else bitrate

/-- `BuildConfiguration`. -/
def buildConfiguration (remoteCapabilities : List UInt8) (hint : Option CodecParameters) :
    Option (List UInt8) :=
  if remoteCapabilities.length ≠ capabilities.length then none else do
  let rcaps := remoteCapabilities
  let config := List.replicate capabilities.length 0
  let objectType ← selectObjectType rcaps
  let config := setBit objectType true config
  let samplingFrequency ← selectSamplingFrequency rcaps hint
  let config := setBit samplingFrequency true config
  let channels ← selectChannels rcaps hint
  let config := setBit channels true config
  let config := setVbrSupported rcaps hint config
  some (setRange kBitrate (selectBitrate hint) config)

/-! ### The fields of a configuration that is built -/

theorem capabilities_eq : capabilities = [0xc0, 1, 0x8c, 0x80, 0, 0] := by decide

theorem mem_selectObjectType {rcaps : List UInt8} {bit : ℕ} (h : selectObjectType rcaps = some bit) :
    bit ∈ kObjectType :=
  mem_of_selectBit (by decide) h

theorem mem_selectSamplingFrequency {rcaps : List UInt8} {hint : Option CodecParameters} {bit : ℕ}
    (h : selectSamplingFrequency rcaps hint = some bit) : bit ∈ kSamplingFrequency := by
  refine mem_of_selectBit_hint (fun p b hp => ?_) (by decide) h
  have hall : ∀ f ∈ samplingFrequencies, f.2 ∈ kSamplingFrequency := by decide
  obtain ⟨f, hf, rfl⟩ := Option.map_eq_some_iff.1 hp
  exact hall f (List.mem_of_find?_eq_some hf)

theorem mem_selectChannels {rcaps : List UInt8} {hint : Option CodecParameters} {bit : ℕ}
    (h : selectChannels rcaps hint = some bit) : bit ∈ kChannels := by
  refine mem_of_selectBit_hint (fun p b hp => ?_) (by decide) h
  unfold getChannelsBit at hp
  split at hp <;> cases hp <;> decide

/-- What `BuildConfiguration` has selected when it succeeds, and the configuration it has built. -/
theorem buildConfiguration_eq_some {rcaps : List UInt8} {hint : Option CodecParameters}
    {config : List UInt8} (h : buildConfiguration rcaps hint = some config) :
    ∃ ot sf ch,
      selectObjectType rcaps = some ot ∧ selectSamplingFrequency rcaps hint = some sf ∧
      selectChannels rcaps hint = some ch ∧
      config = setRange kBitrate (selectBitrate hint)
        (setVbrSupported rcaps hint (setBits 6 [ot, sf, ch])) := by
  unfold buildConfiguration at h
  split_ifs at h with hl
  obtain ⟨ot, hot, h⟩ := Option.bind_eq_some_iff.1 h
  obtain ⟨sf, hsf, h⟩ := Option.bind_eq_some_iff.1 h
  obtain ⟨ch, hch, h⟩ := Option.bind_eq_some_iff.1 h
  exact ⟨ot, sf, ch, hot, hsf, hch, (Option.some.inj h).symm⟩

/-- `BuildConfiguration` succeeds when a bit of each field can be selected. -/
theorem buildConfiguration_of_select {rcaps : List UInt8} {hint : Option CodecParameters}
    {ot sf ch : ℕ} (hl : rcaps.length = 6) (hot : selectObjectType rcaps = some ot)
    (hsf : selectSamplingFrequency rcaps hint = some sf) (hch : selectChannels rcaps hint = some ch) :
    buildConfiguration rcaps hint = some (setRange kBitrate (selectBitrate hint)
      (setVbrSupported rcaps hint (setBits 6 [ot, sf, ch]))) := by
  have hlen : ¬ rcaps.length ≠ capabilities.length := by
    rw [hl, capabilities_eq]
    decide
  unfold buildConfiguration
  rw [if_neg hlen]
  simp only [hot, hsf, hch, Option.bind_eq_bind, Option.bind_some]
  rfl

theorem setVbrSupported_cases (rcaps : List UInt8) (hint : Option CodecParameters)
    (config : List UInt8) :
    setVbrSupported rcaps hint config = config ∨
      ∃ v, setVbrSupported rcaps hint config = setRange kVbrSupported v config := by
  unfold setVbrSupported
  cases hint with
  | none => exact .inr ⟨_, rfl⟩
  | some hint =>
    by_cases h : hint.minBitrate = 0
    · exact .inr ⟨_, if_pos h⟩
    · exact .inl (if_neg h)

theorem length_setVbrSupported (rcaps : List UInt8) (hint : Option CodecParameters)
    (config : List UInt8) : (setVbrSupported rcaps hint config).length = config.length := by
  rcases setVbrSupported_cases rcaps hint config with h | ⟨v, h⟩ <;> rw [h]
  exact length_setRange

/-- A configuration that is built has one active bit in each field. -/
structure Built (config : List UInt8) (ot sf ch : ℕ) : Prop where
  length : config.length = 6
  objectType : Active kObjectType config ot
  samplingFrequency : Active kSamplingFrequency config sf
  channels : Active kChannels config ch

theorem built {rcaps : List UInt8} {hint : Option CodecParameters} {ot sf ch : ℕ} {bitrate : ℤ}
    (hot : ot ∈ kObjectType) (hsf : sf ∈ kSamplingFrequency) (hch : ch ∈ kChannels) :
    Built (setRange kBitrate bitrate (setVbrSupported rcaps hint (setBits 6 [ot, sf, ch]))) ot sf ch := by
  have hset : List.Forall₂ (fun r b => Active r (setBits 6 [ot, sf, ch]) b)
      [kObjectType, kSamplingFrequency, kChannels] [ot, sf, ch] :=
    active_setBits (by decide) (by decide) (.cons hot (.cons hsf (.cons hch .nil)))
  have hlen : (setVbrSupported rcaps hint (setBits 6 [ot, sf, ch])).length = 6 := by
    rw [length_setVbrSupported, length_setBits]
  have hlast : ∀ {r : Range} {b : ℕ}, r.Disjoint kVbrSupported → r.Disjoint kBitrate →
      Active r (setBits 6 [ot, sf, ch]) b →
      Active r (setRange kBitrate bitrate (setVbrSupported rcaps hint (setBits 6 [ot, sf, ch]))) b := by
    intro r b hvbr hbitrate ha
    have ha' : Active r (setVbrSupported rcaps hint (setBits 6 [ot, sf, ch])) b := by
      rcases setVbrSupported_cases rcaps hint (setBits 6 [ot, sf, ch]) with h | ⟨v, h⟩ <;> rw [h]
      · exact ha
      · refine ha.setRange ?_ hvbr
        rw [length_setBits]
        decide
    refine ha'.setRange ?_ hbitrate
    rw [hlen]
    decide
  simp only [List.forall₂_cons, List.forall₂_nil_right_iff] at hset
  obtain ⟨h1, h2, h3, -⟩ := hset
  exact ⟨by rw [length_setRange, hlen], hlast (by decide) (by decide) h1,
    hlast (by decide) (by decide) h2, hlast (by decide) (by decide) h3⟩

theorem built_of_buildConfiguration {rcaps : List UInt8} {hint : Option CodecParameters}
    {config : List UInt8} (h : buildConfiguration rcaps hint = some config) :
    ∃ ot sf ch,
      selectObjectType rcaps = some ot ∧ selectSamplingFrequency rcaps hint = some sf ∧
      selectChannels rcaps hint = some ch ∧ Built config ot sf ch ∧
      config = setRange kBitrate (selectBitrate hint)
        (setVbrSupported rcaps hint (setBits 6 [ot, sf, ch])) := by
  obtain ⟨ot, sf, ch, hot, hsf, hch, hconfig⟩ := buildConfiguration_eq_some h
  refine ⟨ot, sf, ch, hot, hsf, hch, ?_, hconfig⟩
  rw [hconfig]
  exact built (mem_selectObjectType hot) (mem_selectSamplingFrequency hsf) (mem_selectChannels hch)

/-! ### The parser accepts what is built -/

/-- The parser reads back the fields of a configuration that is built. -/
theorem parseConfiguration_of_built {config : List UInt8} {ot sf ch : ℕ} (h : Built config ot sf ch)
    (hot : getBit ot capabilities = true) (hsf : getBit sf capabilities = true)
    (hch : getBit ch capabilities = true) :
    parseConfiguration config = .ok
      { channelMode := getChannelModeEnum ch
        samplingFrequencyHz := getSamplingFrequencyValue sf
        bitdepth := kBitdepth
        minBitrate := if getRange kVbrSupported config ≠ 0 then 0 else getRange kBitrate config
        maxBitrate := getRange kBitrate config
        objectType := getObjectTypeEnum ot } := by
  have hlen : ¬ config.length ≠ capabilities.length := by
    rw [h.length, capabilities_eq]
    decide
  -- the local capabilities have a variable bit rate, and leave the bit rate open
  have hvbr : getRange kVbrSupported capabilities = 1 := by decide
  have hbitrate : getRange kBitrate capabilities = 0 := by decide
  unfold parseConfiguration
  rw [if_neg hlen]
  simp only [bind, Except.bind, checkField_eq h.objectType hot, checkField_eq h.samplingFrequency hsf,
    checkField_eq h.channels hch, hvbr, hbitrate, one_ne_zero, ne_eq, not_true_eq_false, and_false,
    false_and, if_false]

/-- **The parser accepts each configuration that is built**, and reads from it the sampling frequency
and the channel mode of the bits that were selected. -/
theorem parseConfiguration_buildConfiguration {rcaps : List UInt8} {hint : Option CodecParameters}
    {config : List UInt8} (h : buildConfiguration rcaps hint = some config) :
    ∃ p sf ch, parseConfiguration config = .ok p ∧
      selectSamplingFrequency rcaps hint = some sf ∧ Active kSamplingFrequency config sf ∧
      selectChannels rcaps hint = some ch ∧ Active kChannels config ch ∧
      p.samplingFrequencyHz = getSamplingFrequencyValue sf ∧
      p.channelMode = getChannelModeEnum ch := by
  obtain ⟨ot, sf, ch, hot, hsf, hch, hb, -⟩ := built_of_buildConfiguration h
  exact ⟨_, sf, ch, parseConfiguration_of_built hb (selectBit_eq_some hot).2.1
    (selectBit_eq_some hsf).2.1 (selectBit_eq_some hch).2.1, hsf, hb.samplingFrequency, hch, hb.channels,
    rfl, rfl⟩

end TrebleDoze.Bluetooth.A2dpOffloadCodecAac
