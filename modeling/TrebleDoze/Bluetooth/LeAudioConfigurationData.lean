import TrebleDoze.Bluetooth.LeAudioMatch
import TrebleDoze.Lib.Exit
import TrebleDoze.Lib.LittleEndian

/-!
# The codec configuration of a subconfiguration

How `AudioSetConfigurationProviderJson` reads the LTVs of a codec configuration from its parameters.

* `Reads`: what it is for a macro to read a number of some bytes;
* `readParam_eq_ok`: a parameter is read just when its bytes are there;
* `populateConfigurationData_eq_ok`: the LTVs that are read;
* `configurationDecodes_iff`: when they are those of the parameters.
-/

namespace TrebleDoze.Bluetooth

open Lib

/-! ### The parameters and the tables -/

/-- `CodecSpecificLtvGenericTypes`. -/
inductive LtvGenericType where
  | supportedSamplingFrequency | supportedFrameDuration | supportedAudioChannelAllocation
  | supportedOctetsPerCodecFrame | supportedCodecFrameBlocksPerSdu
  deriving DecidableEq, Repr

namespace LtvGenericType

/-- The number of a type in the schema. -/
def code : LtvGenericType → UInt8
  | supportedSamplingFrequency => 0x01
  | supportedFrameDuration => 0x02
  | supportedAudioChannelAllocation => 0x03
  | supportedOctetsPerCodecFrame => 0x04
  | supportedCodecFrameBlocksPerSdu => 0x05

/-- The bytes that the number of a parameter has. -/
def width : LtvGenericType → ℕ
  | supportedAudioChannelAllocation => 4
  | supportedOctetsPerCodecFrame => 2
  | _ => 1

end LtvGenericType

/-- `le_audio::CodecSpecificConfiguration`, as far as it is read: its type, and the bytes of its compound
value, which may be missing. -/
structure CodecSpecificConfiguration where
  type : UInt8
  compoundValue : Option (List UInt8)
  deriving DecidableEq, Repr

/-- `LookupCodecSpecificParam`. -/
def lookupCodecSpecificParam (params : List CodecSpecificConfiguration) (type : LtvGenericType) :
    Option CodecSpecificConfiguration :=
  params.find? fun csc => csc.type = type.code

/-- `frame_duration_map`, by the codes of the durations. -/
def loaderFrameDurationMap : List (UInt8 × FrameDuration) := [(0x00, .us7500), (0x01, .us10000)]

/-- The locations of `audio_channel_allocation_map`. -/
inductive AudioChannel where
  | notAllowed | frontLeft | frontRight | frontCenter | lowFreqEffects1 | backLeft | backRight
  | frontLeftOfCenter | frontRightOfCenter | backCenter | lowFreqEffects2 | sideLeft | sideRight
  | topFrontLeft | topFrontRight | topFrontCenter | topCenter | topBackLeft | topBackRight
  | topSideLeft | topSideRight | topBackCenter | bottomFrontCenter | bottomFrontLeft
  | bottomFrontRight | frontLeftWide | frontRightWide | leftSurround | rightSurround
  deriving DecidableEq, Repr

/-- The constants `kLeAudioLocation…`. -/
def AudioChannel.location : AudioChannel → UInt32
  | notAllowed => 0x00000000
  | frontLeft => 0x00000001
  | frontRight => 0x00000002
  | frontCenter => 0x00000004
  | lowFreqEffects1 => 0x00000008
  | backLeft => 0x00000010
  | backRight => 0x00000020
  | frontLeftOfCenter => 0x00000040
  | frontRightOfCenter => 0x00000080
  | backCenter => 0x00000100
  | lowFreqEffects2 => 0x00000200
  | sideLeft => 0x00000400
  | sideRight => 0x00000800
  | topFrontLeft => 0x00001000
  | topFrontRight => 0x00002000
  | topFrontCenter => 0x00004000
  | topCenter => 0x00008000
  | topBackLeft => 0x00010000
  | topBackRight => 0x00020000
  | topSideLeft => 0x00040000
  | topSideRight => 0x00080000
  | topBackCenter => 0x00100000
  | bottomFrontCenter => 0x00200000
  | bottomFrontLeft => 0x00400000
  | bottomFrontRight => 0x00800000
  | frontLeftWide => 0x01000000
  | frontRightWide => 0x02000000
  | leftSurround => 0x04000000
  | rightSurround => 0x08000000

/-- The channels of the table, in its order. -/
def audioChannels : List AudioChannel :=
  [.notAllowed, .frontLeft, .frontRight, .frontCenter, .lowFreqEffects1, .backLeft, .backRight,
    .frontLeftOfCenter, .frontRightOfCenter, .backCenter, .lowFreqEffects2, .sideLeft, .sideRight,
    .topFrontLeft, .topFrontRight, .topFrontCenter, .topCenter, .topBackLeft, .topBackRight,
    .topSideLeft, .topSideRight, .topBackCenter, .bottomFrontCenter, .bottomFrontLeft,
    .bottomFrontRight, .frontLeftWide, .frontRightWide, .leftSurround, .rightSurround]

/-! ### Reading -/

/-- `*(ptr + i)`, for a pointer to the bytes of a value. -/
def byteAt (value : List UInt8) (i : ℕ) : Except Fault UInt8 :=
  match value[i]? with
  | some byte => .ok byte
  | none => .error .outOfBounds

/-- `STREAM_TO_UINT8`. -/
def streamToUint8 (value : List UInt8) : Except Fault UInt8 := byteAt value 0

/-- `STREAM_TO_UINT16`. -/
def streamToUint16 (value : List UInt8) : Except Fault UInt16 := do
  let b0 ← byteAt value 0
  let b1 ← byteAt value 1
  .ok (b0.toUInt16 + (b1.toUInt16 <<< 8))

/-- `STREAM_TO_UINT32`. -/
def streamToUint32 (value : List UInt8) : Except Fault UInt32 := do
  let b0 ← byteAt value 0
  let b1 ← byteAt value 1
  let b2 ← byteAt value 2
  let b3 ← byteAt value 3
  .ok (b0.toUInt32 + (b1.toUInt32 <<< 8) + (b2.toUInt32 <<< 16) + (b3.toUInt32 <<< 24))

/-- How each field of `populateConfigurationData` is read: it keeps its initial value if there is no
parameter of the type. -/
def readParam {α : Type} (stream : List UInt8 → Except Fault α)
    (params : List CodecSpecificConfiguration) (type : LtvGenericType) (initial : α) :
    Except Fault α :=
  match lookupCodecSpecificParam params type with
  | none => .ok initial
  | some param =>
    match param.compoundValue with
    | none => .error .nullDereferenced
    | some value => stream value

section

variable (allocationBits : AudioChannel → UInt32)

/-- `populateAudioChannelAllocation`, for the bits that the interface gives to the channels. -/
def populateAudioChannelAllocation (audioLocation : UInt32) : UInt32 :=
  audioChannels.foldl (fun bitmask channel =>
    if audioLocation &&& channel.location ≠ 0 then bitmask ||| allocationBits channel else bitmask) 0

/-- The second half of `populateConfigurationData`: the LTVs of the fields that have been read. -/
def codecConfigurationOf (samplingFrequency frameDuration : UInt8) (audioChannelAllocation : UInt32)
    (octetsPerCodecFrame : UInt16) (codecFramesBlocksPerSdu : UInt8) : List ConfigurationLtv :=
  ((loaderSamplingFreqMap.lookup samplingFrequency).map .samplingFrequency).toList ++
    ((loaderFrameDurationMap.lookup frameDuration).map .frameDuration).toList ++
    [.audioChannelAllocation (populateAudioChannelAllocation allocationBits audioChannelAllocation),
      .octetsPerCodecFrame octetsPerCodecFrame.toNat,
      .codecFrameBlocksPerSDU codecFramesBlocksPerSdu.toNat]

/-- `populateConfigurationData`: the codec configuration that it makes. -/
def populateConfigurationData (params : List CodecSpecificConfiguration) :
    Except Fault (List ConfigurationLtv) := do
  let samplingFrequency ← readParam streamToUint8 params .supportedSamplingFrequency 0
  let frameDuration ← readParam streamToUint8 params .supportedFrameDuration 0
  let audioChannelAllocation ← readParam streamToUint32 params .supportedAudioChannelAllocation 0
  let octetsPerCodecFrame ← readParam streamToUint16 params .supportedOctetsPerCodecFrame 0
  let codecFramesBlocksPerSdu ← readParam streamToUint8 params .supportedCodecFrameBlocksPerSdu 0
  .ok (codecConfigurationOf allocationBits samplingFrequency frameDuration audioChannelAllocation
    octetsPerCodecFrame codecFramesBlocksPerSdu)

end

/-! ### What is read -/

theorem byteAt_eq_ok_iff {value : List UInt8} {i : ℕ} {byte : UInt8} :
    byteAt value i = .ok byte ↔ value[i]? = some byte := by
  unfold byteAt
  cases value[i]? with
  | none => simp
  | some b => simp

/-- The macro reads a little-endian number of so many bytes, which have to be there. -/
structure Reads {α : Type} (stream : List UInt8 → Except Fault α) (width : ℕ) (toNat : α → ℕ) : Prop where
  inside : ∀ value a, stream value = .ok a → width ≤ value.length
  reads : ∀ value, width ≤ value.length → ∃ a, stream value = .ok a ∧ toNat a = leNat (value.take width)

theorem reads_streamToUint8 : Reads streamToUint8 1 UInt8.toNat where
  inside value a h := by
    have hbyte := byteAt_eq_ok_iff.1 h
    exact (List.getElem?_eq_some_iff.1 hbyte).1
  reads value h := by
    rcases value with _ | ⟨b0, value⟩
    · exact absurd h (by simp)
    · exact ⟨b0, rfl, by simp [leNat]⟩

theorem reads_streamToUint16 : Reads streamToUint16 2 UInt16.toNat where
  inside value a h := by
    unfold streamToUint16 at h
    obtain ⟨b0, -, h⟩ := bind_eq_ok_iff.1 h
    obtain ⟨b1, hb1, -⟩ := bind_eq_ok_iff.1 h
    exact (List.getElem?_eq_some_iff.1 (byteAt_eq_ok_iff.1 hb1)).1
  reads value h := by
    rcases value with _ | ⟨b0, _ | ⟨b1, value⟩⟩
    · exact absurd h (by simp)
    · exact absurd h (by simp)
    · refine ⟨b0.toUInt16 + (b1.toUInt16 <<< 8), rfl, ?_⟩
      have h0 := b0.toNat_lt
      have h1 := b1.toNat_lt
      simp [leNat, Nat.shiftLeft_eq]
      omega

theorem reads_streamToUint32 : Reads streamToUint32 4 UInt32.toNat where
  inside value a h := by
    unfold streamToUint32 at h
    obtain ⟨b0, -, h⟩ := bind_eq_ok_iff.1 h
    obtain ⟨b1, -, h⟩ := bind_eq_ok_iff.1 h
    obtain ⟨b2, -, h⟩ := bind_eq_ok_iff.1 h
    obtain ⟨b3, hb3, -⟩ := bind_eq_ok_iff.1 h
    exact (List.getElem?_eq_some_iff.1 (byteAt_eq_ok_iff.1 hb3)).1
  reads value h := by
    rcases value with _ | ⟨b0, _ | ⟨b1, _ | ⟨b2, _ | ⟨b3, value⟩⟩⟩⟩
    · exact absurd h (by simp)
    · exact absurd h (by simp)
    · exact absurd h (by simp)
    · exact absurd h (by simp)
    · refine ⟨b0.toUInt32 + (b1.toUInt32 <<< 8) + (b2.toUInt32 <<< 16) + (b3.toUInt32 <<< 24), rfl, ?_⟩
      have h0 := b0.toNat_lt
      have h1 := b1.toNat_lt
      have h2 := b2.toNat_lt
      have h3 := b3.toNat_lt
      simp [leNat, Nat.shiftLeft_eq]
      omega

section

variable (params : List CodecSpecificConfiguration)

/-- The bytes of the first parameter of a type are there, if there is one. -/
def Readable (type : LtvGenericType) : Prop :=
  ∀ param, lookupCodecSpecificParam params type = some param →
    ∃ value, param.compoundValue = some value ∧ type.width ≤ value.length

/-- The number that the parameter of a type has, if there is one. -/
def paramValue (type : LtvGenericType) : Option ℕ :=
  (lookupCodecSpecificParam params type).bind fun param =>
    param.compoundValue.map fun value => leNat (value.take type.width)

/-- The bit mask is the union of those of the channels of a location. -/
def IsUnion (allocationBits : AudioChannel → UInt32) (location : ℕ) (bitmask : UInt32) : Prop :=
  ∀ i, bitmask.toBitVec.getLsbD i = true ↔
    ∃ channel, UInt32.ofNat location &&& channel.location ≠ 0 ∧
      (allocationBits channel).toBitVec.getLsbD i = true

/-- The LTVs are those of the parameters: there is one of a kind just when the parameter of that kind is
there with a known value, and it has the value of the parameter. -/
structure Decodes (allocationBits : AudioChannel → UInt32) (ltvs : List ConfigurationLtv) : Prop where
  samplingFrequency : ∀ freq, .samplingFrequency freq ∈ ltvs ↔
    ∃ code, paramValue params .supportedSamplingFrequency = some (UInt8.toNat code) ∧
      (code, freq) ∈ loaderSamplingFreqMap
  frameDuration : ∀ duration, .frameDuration duration ∈ ltvs ↔
    ∃ code, paramValue params .supportedFrameDuration = some (UInt8.toNat code) ∧
      (code, duration) ∈ loaderFrameDurationMap
  audioChannelAllocation : ∀ bitmask, .audioChannelAllocation bitmask ∈ ltvs ↔
    ∃ location, paramValue params .supportedAudioChannelAllocation = some location ∧
      IsUnion allocationBits location bitmask
  octetsPerCodecFrame : ∀ value : ℤ, .octetsPerCodecFrame value ∈ ltvs ↔
    ∃ octets, paramValue params .supportedOctetsPerCodecFrame = some octets ∧ value = octets
  codecFrameBlocksPerSDU : ∀ value : ℤ, .codecFrameBlocksPerSDU value ∈ ltvs ↔
    ∃ blocks, paramValue params .supportedCodecFrameBlocksPerSdu = some blocks ∧ value = blocks

/-- Only bytes of the values are read, and the LTVs are those of the parameters. -/
def ConfigurationDecodes (allocationBits : AudioChannel → UInt32) : Prop :=
  ∃ ltvs, populateConfigurationData allocationBits params = .ok ltvs ∧
    Decodes params allocationBits ltvs

end

section

variable {params : List CodecSpecificConfiguration} {type : LtvGenericType}

theorem paramValue_eq_none (h : lookupCodecSpecificParam params type = none) :
    paramValue params type = none := by
  unfold paramValue
  rw [h]
  rfl

theorem exists_paramValue (hr : Readable params type)
    (h : (lookupCodecSpecificParam params type).isSome = true) :
    ∃ n, paramValue params type = some n := by
  obtain ⟨param, hp⟩ := Option.isSome_iff_exists.1 h
  obtain ⟨value, hv, -⟩ := hr param hp
  refine ⟨leNat (value.take type.width), ?_⟩
  unfold paramValue
  rw [hp, Option.bind_some, hv, Option.map_some]

/-- **A parameter is read just when its bytes are there**: it gives its number, or the initial value if
there is none. -/
theorem readParam_eq_ok {α : Type} {stream : List UInt8 → Except Fault α} {toNat : α → ℕ} {initial : α}
    (hs : Reads stream type.width toNat) :
    (Readable params type → ∃ a, readParam stream params type initial = .ok a) ∧
      ∀ a, readParam stream params type initial = .ok a → Readable params type ∧
        (lookupCodecSpecificParam params type = none → a = initial) ∧
        ∀ n, paramValue params type = some n → toNat a = n := by
  unfold readParam Readable paramValue
  cases hp : lookupCodecSpecificParam params type with
  | none =>
    refine ⟨fun _ => ⟨initial, rfl⟩, fun a h => ⟨fun _ hf => ?_, fun _ => ?_, fun _ hf => ?_⟩⟩
    · cases hf
    · exact (Except.ok.inj h).symm
    · cases hf
  | some param =>
    simp only [Option.some.injEq, forall_eq', Option.bind_some, reduceCtorEq, false_implies, true_and]
    cases hv : param.compoundValue with
    | none =>
      constructor
      · rintro ⟨value, hf, -⟩
        cases hf
      · intro a hf
        cases hf
    | some value =>
      simp only [Option.some.injEq, exists_eq_left', Option.map_some, forall_eq']
      constructor
      · intro hlen
        obtain ⟨a, ha, -⟩ := hs.reads value hlen
        exact ⟨a, ha⟩
      · intro a ha
        have hlen := hs.inside value a ha
        obtain ⟨a', ha', hn⟩ := hs.reads value hlen
        obtain rfl := Except.ok.inj (ha.symm.trans ha')
        exact ⟨hlen, hn⟩

end

/-! ### The LTVs -/

section

variable {allocationBits : AudioChannel → UInt32} {params : List CodecSpecificConfiguration}
  {samplingFrequency frameDuration codecFramesBlocksPerSdu : UInt8} {audioChannelAllocation : UInt32}
  {octetsPerCodecFrame : UInt16} {ltvs : List ConfigurationLtv}

theorem isUnion_populateAudioChannelAllocation (audioLocation : UInt32) :
    IsUnion allocationBits audioLocation.toNat
      (populateAudioChannelAllocation allocationBits audioLocation) := by
  have hfold : ∀ (channels : List AudioChannel) (bitmask : UInt32) (i : ℕ),
      (channels.foldl (fun bitmask channel => if audioLocation &&& channel.location ≠ 0 then
        bitmask ||| allocationBits channel else bitmask) bitmask).toBitVec.getLsbD i = true ↔
      bitmask.toBitVec.getLsbD i = true ∨ ∃ channel ∈ channels, audioLocation &&& channel.location ≠ 0 ∧
        (allocationBits channel).toBitVec.getLsbD i = true := by
    intro channels
    induction channels with
    | nil =>
      intro bitmask i
      simp
    | cons channel channels ih =>
      intro bitmask i
      rw [List.foldl_cons, ih]
      by_cases h : audioLocation &&& channel.location ≠ 0
      · rw [if_pos h, UInt32.toBitVec_or, BitVec.getLsbD_or, Bool.or_eq_true]
        simp [h, or_assoc]
      · rw [if_neg h]
        simp only [List.mem_cons, exists_eq_or_imp, h, false_and, false_or]
  intro i
  have hall : ∀ channel : AudioChannel, channel ∈ audioChannels := by
    intro channel
    cases channel <;> decide
  unfold populateAudioChannelAllocation
  rw [hfold, UInt32.ofNat_toNat]
  simp only [hall, true_and, UInt32.toBitVec_zero, BitVec.getLsbD_zero, Bool.false_eq_true, false_or]

theorem IsUnion.unique {location : ℕ} {bitmask bitmask' : UInt32}
    (h : IsUnion allocationBits location bitmask) (h' : IsUnion allocationBits location bitmask') :
    bitmask = bitmask' := by
  rw [← UInt32.toBitVec_inj]
  refine BitVec.eq_of_getLsbD_eq fun i _ => ?_
  rw [Bool.eq_iff_iff, h i, h' i]

/-- The fields that are read from the parameters. -/
structure FieldsRead (params : List CodecSpecificConfiguration)
    (samplingFrequency frameDuration : UInt8) (audioChannelAllocation : UInt32)
    (octetsPerCodecFrame : UInt16) (codecFramesBlocksPerSdu : UInt8) : Prop where
  samplingFrequency :
    readParam streamToUint8 params .supportedSamplingFrequency 0 = .ok samplingFrequency
  frameDuration : readParam streamToUint8 params .supportedFrameDuration 0 = .ok frameDuration
  audioChannelAllocation :
    readParam streamToUint32 params .supportedAudioChannelAllocation 0 = .ok audioChannelAllocation
  octetsPerCodecFrame :
    readParam streamToUint16 params .supportedOctetsPerCodecFrame 0 = .ok octetsPerCodecFrame
  codecFramesBlocksPerSdu :
    readParam streamToUint8 params .supportedCodecFrameBlocksPerSdu 0 = .ok codecFramesBlocksPerSdu

/-- **The LTVs that are made** are those of the fields that are read. -/
theorem populateConfigurationData_eq_ok :
    populateConfigurationData allocationBits params = .ok ltvs ↔
      ∃ samplingFrequency frameDuration audioChannelAllocation octetsPerCodecFrame
        codecFramesBlocksPerSdu,
        FieldsRead params samplingFrequency frameDuration audioChannelAllocation octetsPerCodecFrame
          codecFramesBlocksPerSdu ∧
        codecConfigurationOf allocationBits samplingFrequency frameDuration audioChannelAllocation
          octetsPerCodecFrame codecFramesBlocksPerSdu = ltvs := by
  unfold populateConfigurationData
  constructor
  · intro h
    obtain ⟨sf, hsf, h⟩ := bind_eq_ok_iff.1 h
    obtain ⟨fd, hfd, h⟩ := bind_eq_ok_iff.1 h
    obtain ⟨aca, haca, h⟩ := bind_eq_ok_iff.1 h
    obtain ⟨octets, hoctets, h⟩ := bind_eq_ok_iff.1 h
    obtain ⟨blocks, hblocks, h⟩ := bind_eq_ok_iff.1 h
    exact ⟨sf, fd, aca, octets, blocks, ⟨hsf, hfd, haca, hoctets, hblocks⟩, Except.ok.inj h⟩
  · rintro ⟨sf, fd, aca, octets, blocks, hread, rfl⟩
    rw [hread.samplingFrequency, hread.frameDuration, hread.audioChannelAllocation,
      hread.octetsPerCodecFrame, hread.codecFramesBlocksPerSdu]
    rfl

/-- Something is made just when the parameters of all types can be read. -/
theorem populateConfigurationData_isOk_iff :
    (∃ ltvs, populateConfigurationData allocationBits params = .ok ltvs) ↔
      ∀ type, Readable params type := by
  constructor
  · rintro ⟨ltvs, h⟩ type
    obtain ⟨sf, fd, aca, octets, blocks, hread, -⟩ := populateConfigurationData_eq_ok.1 h
    cases type with
    | supportedSamplingFrequency =>
      exact ((readParam_eq_ok reads_streamToUint8).2 sf hread.samplingFrequency).1
    | supportedFrameDuration => exact ((readParam_eq_ok reads_streamToUint8).2 fd hread.frameDuration).1
    | supportedAudioChannelAllocation =>
      exact ((readParam_eq_ok reads_streamToUint32).2 aca hread.audioChannelAllocation).1
    | supportedOctetsPerCodecFrame =>
      exact ((readParam_eq_ok reads_streamToUint16).2 octets hread.octetsPerCodecFrame).1
    | supportedCodecFrameBlocksPerSdu =>
      exact ((readParam_eq_ok reads_streamToUint8).2 blocks hread.codecFramesBlocksPerSdu).1
  · intro h
    obtain ⟨sf, hsf⟩ := (readParam_eq_ok reads_streamToUint8).1 (h .supportedSamplingFrequency)
    obtain ⟨fd, hfd⟩ := (readParam_eq_ok reads_streamToUint8).1 (h .supportedFrameDuration)
    obtain ⟨aca, haca⟩ := (readParam_eq_ok reads_streamToUint32).1 (h .supportedAudioChannelAllocation)
    obtain ⟨octets, hoctets⟩ := (readParam_eq_ok reads_streamToUint16).1 (h .supportedOctetsPerCodecFrame)
    obtain ⟨blocks, hblocks⟩ :=
      (readParam_eq_ok reads_streamToUint8).1 (h .supportedCodecFrameBlocksPerSdu)
    exact ⟨_, populateConfigurationData_eq_ok.2
      ⟨sf, fd, aca, octets, blocks, ⟨hsf, hfd, haca, hoctets, hblocks⟩, rfl⟩⟩

theorem lookup_eq_some_iff_mem {κ α : Type} [BEq κ] [LawfulBEq κ] {map : List (κ × α)} {key : κ}
    {value : α} (hkeys : (map.map Prod.fst).Nodup) :
    map.lookup key = some value ↔ (key, value) ∈ map := by
  induction map with
  | nil => simp
  | cons entry map ih =>
    rw [List.map_cons, List.nodup_cons] at hkeys
    rw [List.lookup_cons, List.mem_cons, ← ih hkeys.2]
    by_cases hk : key = entry.1
    · subst hk
      have hnone : map.lookup entry.1 ≠ some value := by
        rw [ne_eq, ih hkeys.2]
        exact fun hmem => hkeys.1 (List.mem_map.2 ⟨_, hmem, rfl⟩)
      simp only [beq_self_eq_true, Option.some.injEq, hnone, or_false]
      constructor
      · rintro rfl
        rfl
      · intro h
        rw [← h]
    · have hne : (key, value) ≠ entry := fun h => hk (congrArg Prod.fst h)
      simp only [beq_eq_false_iff_ne.2 hk, hne, false_or]

theorem mem_codecConfigurationOf (ltv : ConfigurationLtv) :
    ltv ∈ codecConfigurationOf allocationBits samplingFrequency frameDuration audioChannelAllocation
        octetsPerCodecFrame codecFramesBlocksPerSdu ↔
      match ltv with
      | .samplingFrequency freq => (samplingFrequency, freq) ∈ loaderSamplingFreqMap
      | .frameDuration duration => (frameDuration, duration) ∈ loaderFrameDurationMap
      | .audioChannelAllocation bitmask => IsUnion allocationBits audioChannelAllocation.toNat bitmask
      | .octetsPerCodecFrame value => value = octetsPerCodecFrame.toNat
      | .codecFrameBlocksPerSDU value => value = codecFramesBlocksPerSdu.toNat := by
  unfold codecConfigurationOf
  cases ltv with
  | samplingFrequency freq =>
    simp only
    rw [← lookup_eq_some_iff_mem (by decide)]
    simp
  | frameDuration duration =>
    simp only
    rw [← lookup_eq_some_iff_mem (by decide)]
    simp
  | audioChannelAllocation bitmask =>
    have hunion : IsUnion allocationBits audioChannelAllocation.toNat
        (populateAudioChannelAllocation allocationBits audioChannelAllocation) :=
      isUnion_populateAudioChannelAllocation audioChannelAllocation
    have heq : bitmask = populateAudioChannelAllocation allocationBits audioChannelAllocation ↔
        IsUnion allocationBits audioChannelAllocation.toNat bitmask := by
      constructor
      · rintro rfl
        exact hunion
      · exact fun h => h.unique hunion
    simp [heq]
  | octetsPerCodecFrame value => simp
  | codecFrameBlocksPerSDU value => simp

theorem isSome_of_decodes (h : Decodes params allocationBits ltvs)
    (hread : FieldsRead params samplingFrequency frameDuration audioChannelAllocation octetsPerCodecFrame
      codecFramesBlocksPerSdu)
    (hltvs : codecConfigurationOf allocationBits samplingFrequency frameDuration audioChannelAllocation
      octetsPerCodecFrame codecFramesBlocksPerSdu = ltvs)
    (type : LtvGenericType) (htype : type ≠ .supportedSamplingFrequency) :
    (lookupCodecSpecificParam params type).isSome = true := by
  rw [Option.isSome_iff_ne_none]
  intro hnone
  have habsent : ∀ n, paramValue params type ≠ some n := by
    intro n hsome
    rw [paramValue_eq_none hnone] at hsome
    cases hsome
  cases type with
  | supportedSamplingFrequency => exact htype rfl
  | supportedFrameDuration =>
    -- the initial value is the code of 7.5 ms
    obtain rfl := ((readParam_eq_ok reads_streamToUint8).2 frameDuration hread.frameDuration).2.1 hnone
    have hmem : .frameDuration .us7500 ∈ ltvs := by
      rw [← hltvs, mem_codecConfigurationOf]
      show (0, FrameDuration.us7500) ∈ loaderFrameDurationMap
      decide
    obtain ⟨code, hcode, -⟩ := (h.frameDuration .us7500).1 hmem
    exact habsent _ hcode
  | supportedAudioChannelAllocation =>
    have hmem : .audioChannelAllocation
        (populateAudioChannelAllocation allocationBits audioChannelAllocation) ∈ ltvs := by
      rw [← hltvs, mem_codecConfigurationOf]
      exact isUnion_populateAudioChannelAllocation audioChannelAllocation
    obtain ⟨location, hlocation, -⟩ := (h.audioChannelAllocation _).1 hmem
    exact habsent _ hlocation
  | supportedOctetsPerCodecFrame =>
    have hmem : .octetsPerCodecFrame octetsPerCodecFrame.toNat ∈ ltvs := by
      rw [← hltvs, mem_codecConfigurationOf]
    obtain ⟨octets, hoctets, -⟩ := (h.octetsPerCodecFrame _).1 hmem
    exact habsent _ hoctets
  | supportedCodecFrameBlocksPerSdu =>
    have hmem : .codecFrameBlocksPerSDU codecFramesBlocksPerSdu.toNat ∈ ltvs := by
      rw [← hltvs, mem_codecConfigurationOf]
    obtain ⟨blocks, hblocks, -⟩ := (h.codecFrameBlocksPerSDU _).1 hmem
    exact habsent _ hblocks

/-- With the parameters of these types the LTVs are those of the parameters. -/
theorem decodes_of_isSome
    (hread : FieldsRead params samplingFrequency frameDuration audioChannelAllocation octetsPerCodecFrame
      codecFramesBlocksPerSdu)
    (hsome : ∀ type, type ≠ .supportedSamplingFrequency →
      (lookupCodecSpecificParam params type).isSome = true) :
    Decodes params allocationBits (codecConfigurationOf allocationBits samplingFrequency frameDuration
      audioChannelAllocation octetsPerCodecFrame codecFramesBlocksPerSdu) := by
  obtain ⟨hrsf, hsf0, hsf⟩ :=
    (readParam_eq_ok reads_streamToUint8).2 samplingFrequency hread.samplingFrequency
  obtain ⟨hrfd, -, hfd⟩ := (readParam_eq_ok reads_streamToUint8).2 frameDuration hread.frameDuration
  obtain ⟨hraca, -, haca⟩ :=
    (readParam_eq_ok reads_streamToUint32).2 audioChannelAllocation hread.audioChannelAllocation
  obtain ⟨hroctets, -, hoctets⟩ :=
    (readParam_eq_ok reads_streamToUint16).2 octetsPerCodecFrame hread.octetsPerCodecFrame
  obtain ⟨hrblocks, -, hblocks⟩ :=
    (readParam_eq_ok reads_streamToUint8).2 codecFramesBlocksPerSdu hread.codecFramesBlocksPerSdu
  refine ⟨fun freq => ?_, fun duration => ?_, fun bitmask => ?_, fun value => ?_, fun value => ?_⟩
  · rw [mem_codecConfigurationOf]
    simp only
    cases hp : lookupCodecSpecificParam params .supportedSamplingFrequency with
    | none =>
      -- the initial value is no code of a frequency
      obtain rfl := hsf0 hp
      rw [paramValue_eq_none hp]
      cases freq <;> simp [loaderSamplingFreqMap]
    | some param =>
      obtain ⟨n, hn⟩ := exists_paramValue hrsf (by rw [hp]; rfl)
      rw [hn, ← hsf n hn]
      simp only [Option.some.injEq, UInt8.toNat_inj, exists_eq_left']
  · obtain ⟨n, hn⟩ := exists_paramValue hrfd (hsome _ (by decide))
    rw [mem_codecConfigurationOf, hn, ← hfd n hn]
    simp only [Option.some.injEq, UInt8.toNat_inj, exists_eq_left']
  · obtain ⟨n, hn⟩ := exists_paramValue hraca (hsome _ (by decide))
    rw [mem_codecConfigurationOf, hn, ← haca n hn]
    simp only [Option.some.injEq, exists_eq_left']
  · obtain ⟨n, hn⟩ := exists_paramValue hroctets (hsome _ (by decide))
    rw [mem_codecConfigurationOf, hn, ← hoctets n hn]
    simp only [Option.some.injEq, exists_eq_left']
  · obtain ⟨n, hn⟩ := exists_paramValue hrblocks (hsome _ (by decide))
    rw [mem_codecConfigurationOf, hn, ← hblocks n hn]
    simp only [Option.some.injEq, exists_eq_left']

end

/-- **When the LTVs are those of the parameters**, read from bytes that are there: when each parameter has
as many bytes as its number, and those other than the sampling frequency are all there. -/
theorem configurationDecodes_iff (params : List CodecSpecificConfiguration)
    (allocationBits : AudioChannel → UInt32) :
    ConfigurationDecodes params allocationBits ↔
      (∀ type, Readable params type) ∧ ∀ type, type ≠ .supportedSamplingFrequency →
        (lookupCodecSpecificParam params type).isSome = true := by
  constructor
  · rintro ⟨ltvs, hrun, hdecodes⟩
    obtain ⟨sf, fd, aca, octets, blocks, hread, hltvs⟩ := populateConfigurationData_eq_ok.1 hrun
    exact ⟨populateConfigurationData_isOk_iff.1 ⟨ltvs, hrun⟩,
      fun type htype => isSome_of_decodes hdecodes hread hltvs type htype⟩
  · rintro ⟨hreadable, hsome⟩
    obtain ⟨ltvs, hrun⟩ := populateConfigurationData_isOk_iff.2 hreadable
    obtain ⟨sf, fd, aca, octets, blocks, hread, rfl⟩ := populateConfigurationData_eq_ok.1 hrun
    exact ⟨_, hrun, decodes_of_isSome hread hsome⟩

/-- Octets in a single byte: the second one is read behind the end of the value. -/
theorem populateConfigurationData_outOfBounds :
    populateConfigurationData AudioChannel.location [⟨0x04, some [40]⟩] = .error .outOfBounds ∧
      ¬ ConfigurationDecodes [⟨0x04, some [40]⟩] AudioChannel.location := by
  have hrun : populateConfigurationData AudioChannel.location [⟨0x04, some [40]⟩] =
      .error .outOfBounds := by decide
  refine ⟨hrun, ?_⟩
  rintro ⟨ltvs, hok, -⟩
  rw [hrun] at hok
  cases hok

end TrebleDoze.Bluetooth
