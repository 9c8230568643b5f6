import TrebleDoze.Bluetooth.A2dpAac
import TrebleDoze.Bluetooth.A2dpSbc
import Mathlib.Data.List.Nodup

/-!
# `A2dpOffloadCodecFactory`

The offloaded codecs by rank, and the choice of a codec, an endpoint of the peer and a configuration.

* `offloadCodecs_agree`: what a codec of the factory builds, it parses;
* `codecs_ordered_iff`: when the codecs are searched in the order of the hint;
* `complete_iff`: when the search over the endpoints of the peer is complete;
* `getConfiguration_parameters`: the parameters of the answer are parsed from its configuration.
-/

namespace TrebleDoze.Bluetooth

/-- `A2dpRemoteCapabilities`: an endpoint of the peer. -/
structure A2dpRemoteCapabilities where
  seid : ℤ
  id : CodecId
  capabilities : List UInt8
  deriving DecidableEq, Repr

/-- `A2dpConfigurationHint`, as far as it is read. -/
structure A2dpConfigurationHint where
  codecId : CodecId
  codecParameters : Option CodecParameters
  deriving DecidableEq, Repr

/-- `A2dpConfiguration`. -/
structure A2dpConfiguration where
  remoteSeid : ℤ
  id : CodecId
  parameters : CodecParameters
  configuration : List UInt8
  deriving DecidableEq, Repr

/-- The codec `A2dpOffloadCodecAac`. -/
def a2dpOffloadCodecAac : A2dpOffloadCodec where
  id := .aac
  parseConfiguration configuration :=
    (A2dpOffloadCodecAac.parseConfiguration configuration).map (·.toCodecParameters)
  buildConfiguration := A2dpOffloadCodecAac.buildConfiguration

/-- The codec `A2dpOffloadCodecSbc`. -/
def a2dpOffloadCodecSbc : A2dpOffloadCodec where
  id := .sbc
  parseConfiguration configuration :=
    (A2dpOffloadCodecSbc.parseConfiguration configuration).map (·.toCodecParameters)
  buildConfiguration := A2dpOffloadCodecSbc.buildConfiguration

/-- A factory: its codecs by rank, each once. -/
structure A2dpOffloadCodecFactory where
  rankedCodecs : List A2dpOffloadCodec
  nodup : (rankedCodecs.map A2dpOffloadCodec.id).Nodup

/-- The factory with the codecs that are enabled. -/
def a2dpOffloadCodecFactory : A2dpOffloadCodecFactory where
  rankedCodecs := [a2dpOffloadCodecAac, a2dpOffloadCodecSbc]
  nodup := by decide

namespace A2dpOffloadCodecFactory

variable (f : A2dpOffloadCodecFactory)

/-- `GetCodec`. -/
def getCodec (id : CodecId) : Option A2dpOffloadCodec := f.rankedCodecs.find? fun c => id = c.id

/-- The codecs in the order in which `GetConfiguration` tries them: the hinted one, then the others. The
others are found by a comparison with the hinted one, also where there is none. -/
def codecs (hint : A2dpConfigurationHint) : Except Undefined (List A2dpOffloadCodec) :=
  match f.getCodec hint.codecId with
  | some hintedCodec =>
    .ok (hintedCodec :: f.rankedCodecs.filter fun c => c.id ≠ hintedCodec.id)
  | none => if f.rankedCodecs.isEmpty then .ok [] else .error .endDereferenced

/-- The endpoint that is asked for a codec: the first one of the list. -/
def endpoint (remoteCapabilities : List A2dpRemoteCapabilities) (codec : A2dpOffloadCodec) :
    Option A2dpRemoteCapabilities :=
  remoteCapabilities.find? fun rc => codec.id = rc.id

/-- What `GetConfiguration` does with one codec. -/
def tryCodec (remoteCapabilities : List A2dpRemoteCapabilities) (hint : A2dpConfigurationHint)
    (codec : A2dpOffloadCodec) : Option A2dpConfiguration := do
  let rc ← endpoint remoteCapabilities codec
  let configuration ← codec.buildConfiguration rc.capabilities hint.codecParameters
  some
    { remoteSeid := rc.seid
      id := codec.id
      -- the status is only asserted to be `OK`
      parameters := (codec.parseConfiguration configuration).toOption.getD default
      configuration := configuration }

/-- `GetConfiguration`. -/
def getConfiguration (remoteCapabilities : List A2dpRemoteCapabilities)
    (hint : A2dpConfigurationHint) : Except Undefined (Option A2dpConfiguration) := do
  let codecs ← f.codecs hint
  .ok (codecs.findSome? (tryCodec remoteCapabilities hint))

/-- A codec of the factory builds a configuration for an endpoint. -/
def Builds (hint : A2dpConfigurationHint) (codec : A2dpOffloadCodec) (rc : A2dpRemoteCapabilities) :
    Prop :=
  codec ∈ f.rankedCodecs ∧ codec.id = rc.id ∧
    (codec.buildConfiguration rc.capabilities hint.codecParameters).isSome

/-- The search is complete: it finds a configuration just when some endpoint of the list has one, and
names the endpoint that it was built for. -/
def Complete (remoteCapabilities : List A2dpRemoteCapabilities) (hint : A2dpConfigurationHint) : Prop :=
  ∃ result, f.getConfiguration remoteCapabilities hint = .ok result ∧
    (result.isSome ↔ ∃ codec, ∃ rc ∈ remoteCapabilities, f.Builds hint codec rc) ∧
    ∀ configuration, result = some configuration →
      ∃ codec ∈ f.rankedCodecs, ∃ rc ∈ remoteCapabilities, codec.id = rc.id ∧
        codec.buildConfiguration rc.capabilities hint.codecParameters =
          some configuration.configuration ∧
        configuration.remoteSeid = rc.seid

/-- The order in which a hint has the codecs searched: a codec of the factory that it names comes first,
the others follow by rank, and each codec is there once. -/
structure SearchOrder (hint : A2dpConfigurationHint) (order : List A2dpOffloadCodec) : Prop where
  hinted : ∀ c ∈ f.rankedCodecs, c.id = hint.codecId → ∃ rest, order = c :: rest
  others : order.filter (fun c => c.id ≠ hint.codecId) =
    f.rankedCodecs.filter fun c => c.id ≠ hint.codecId
  once : order.Perm f.rankedCodecs

/-! ### The search -/

section

variable {f} {codec : A2dpOffloadCodec} {remoteCapabilities : List A2dpRemoteCapabilities}
  {rc : A2dpRemoteCapabilities} {hint : A2dpConfigurationHint} {configuration : A2dpConfiguration}

theorem getCodec_eq_some {id : CodecId} (h : f.getCodec id = some codec) :
    codec ∈ f.rankedCodecs ∧ codec.id = id := by
  have hid := List.find?_some h
  exact ⟨List.mem_of_find?_eq_some h, (of_decide_eq_true hid).symm⟩

/-- With a hint that names a codec of the factory, the codecs are tried in the order of the hint. -/
theorem codecs_eq_ok (h : (f.getCodec hint.codecId).isSome) :
    ∃ codecs, f.codecs hint = .ok codecs ∧ f.SearchOrder hint codecs := by
  obtain ⟨hintedCodec, hh⟩ := Option.isSome_iff_exists.1 h
  obtain ⟨hm, hid⟩ := getCodec_eq_some hh
  have hnodup : f.rankedCodecs.Nodup := .of_map _ f.nodup
  refine ⟨hintedCodec :: f.rankedCodecs.filter fun c => c.id ≠ hintedCodec.id, ?_, ?_, ?_, ?_⟩
  · unfold codecs
    rw [hh]
  · intro c hc hcid
    obtain rfl : c = hintedCodec := List.inj_on_of_nodup_map f.nodup hc hm (hcid.trans hid.symm)
    exact ⟨_, rfl⟩
  · rw [List.filter_cons_of_neg (by simp [hid]), List.filter_filter, hid]
    simp only [Bool.and_self]
  · have hnot : hintedCodec ∉ f.rankedCodecs.filter fun c => c.id ≠ hintedCodec.id := by
      simp [List.mem_filter]
    refine (List.perm_ext_iff_of_nodup (List.nodup_cons.2 ⟨hnot, hnodup.filter _⟩) hnodup).2
      fun codec => ?_
    simp only [List.mem_cons, List.mem_filter, ne_eq, decide_not, Bool.not_eq_true',
      decide_eq_false_iff_not]
    constructor
    · rintro (rfl | ⟨h, -⟩)
      · exact hm
      · exact h
    · intro h
      by_cases hc : codec.id = hintedCodec.id
      · exact .inl (List.inj_on_of_nodup_map f.nodup h hm hc)
      · exact .inr ⟨h, hc⟩

/-- **When the codecs are searched in the order of the hint**: it names a codec of the factory. With a
hint that does not, the end of the range is dereferenced. -/
theorem codecs_ordered_iff (f : A2dpOffloadCodecFactory) (hint : A2dpConfigurationHint) :
    (∃ order, f.codecs hint = .ok order ∧ f.SearchOrder hint order) ↔
      (f.getCodec hint.codecId).isSome ∨ f.rankedCodecs = [] := by
  constructor
  · rintro ⟨order, hok, -⟩
    cases hh : f.getCodec hint.codecId with
    | some c => exact .inl rfl
    | none =>
      unfold codecs at hok
      rw [hh] at hok
      simp only at hok
      split_ifs at hok with he
      exact .inr (List.isEmpty_iff.1 he)
  · rintro (h | h)
    · exact codecs_eq_ok h
    · have hnone : f.getCodec hint.codecId = none := by
        unfold getCodec
        rw [h]
        rfl
      refine ⟨[], ?_, ?_, ?_, ?_⟩
      · unfold codecs
        rw [hnone, h]
        rfl
      · intro c hc
        rw [h] at hc
        cases hc
      · rw [h]
      · rw [h]

/-- No local codec is LC3, and a hint may name it. -/
theorem codecs_of_lc3 : ¬ ∀ hint : A2dpConfigurationHint,
    ∃ order, a2dpOffloadCodecFactory.codecs hint = .ok order ∧
      a2dpOffloadCodecFactory.SearchOrder hint order := by
  intro h
  obtain ⟨order, hok, -⟩ := h ⟨.lc3, none⟩
  have herror : a2dpOffloadCodecFactory.codecs ⟨.lc3, none⟩ = .error .endDereferenced := rfl
  rw [herror] at hok
  cases hok

theorem endpoint_eq_some (h : endpoint remoteCapabilities codec = some rc) :
    rc ∈ remoteCapabilities ∧ codec.id = rc.id := by
  have hid := List.find?_some h
  exact ⟨List.mem_of_find?_eq_some h, of_decide_eq_true hid⟩

/-- What one codec answers with: its first endpoint, and a configuration it has built for it. -/
theorem tryCodec_eq_some (h : tryCodec remoteCapabilities hint codec = some configuration) :
    ∃ rc, endpoint remoteCapabilities codec = some rc ∧
      codec.buildConfiguration rc.capabilities hint.codecParameters = some configuration.configuration ∧
      configuration.remoteSeid = rc.seid ∧ configuration.id = codec.id ∧
      configuration.parameters =
        (codec.parseConfiguration configuration.configuration).toOption.getD default := by
  unfold tryCodec at h
  obtain ⟨rc, hrc, h⟩ := Option.bind_eq_some_iff.1 h
  obtain ⟨c, hc, h⟩ := Option.bind_eq_some_iff.1 h
  obtain rfl := Option.some.inj h
  exact ⟨rc, hrc, hc, rfl, rfl, rfl⟩

theorem tryCodec_isSome_iff : (tryCodec remoteCapabilities hint codec).isSome ↔
    ∃ rc, endpoint remoteCapabilities codec = some rc ∧
      (codec.buildConfiguration rc.capabilities hint.codecParameters).isSome := by
  unfold tryCodec
  cases endpoint remoteCapabilities codec with
  | none => simp
  | some rc =>
    cases hc : codec.buildConfiguration rc.capabilities hint.codecParameters <;> simp [hc]

/-- A configuration is found just when a codec of the factory builds one for its first endpoint. -/
theorem getConfiguration_eq_ok (remoteCapabilities : List A2dpRemoteCapabilities)
    (h : (f.getCodec hint.codecId).isSome) :
    ∃ result, f.getConfiguration remoteCapabilities hint = .ok result ∧
      (result.isSome ↔ ∃ codec rc, endpoint remoteCapabilities codec = some rc ∧ f.Builds hint codec rc) := by
  obtain ⟨codecs, hcodecs, horder⟩ := codecs_eq_ok h
  refine ⟨codecs.findSome? (tryCodec remoteCapabilities hint), ?_, ?_⟩
  · unfold getConfiguration
    rw [hcodecs]
    rfl
  unfold Builds
  rw [List.findSome?_isSome_iff]
  constructor
  · rintro ⟨codec, hc, h⟩
    obtain ⟨rc, hrc, hb⟩ := tryCodec_isSome_iff.1 h
    exact ⟨codec, rc, hrc, horder.once.mem_iff.1 hc, (endpoint_eq_some hrc).2, hb⟩
  · rintro ⟨codec, rc, hrc, hc, -, hb⟩
    exact ⟨codec, horder.once.mem_iff.2 hc, tryCodec_isSome_iff.2 ⟨rc, hrc, hb⟩⟩

/-- The answer comes from an endpoint of the list and a codec of the factory. -/
theorem getConfiguration_eq_some
    (h : f.getConfiguration remoteCapabilities hint = .ok (some configuration)) :
    ∃ codec ∈ f.rankedCodecs, ∃ rc ∈ remoteCapabilities, codec.id = rc.id ∧
      codec.buildConfiguration rc.capabilities hint.codecParameters = some configuration.configuration ∧
      configuration.remoteSeid = rc.seid ∧ configuration.id = codec.id ∧
      configuration.parameters =
        (codec.parseConfiguration configuration.configuration).toOption.getD default := by
  have hfind : ∃ codec ∈ f.rankedCodecs,
      tryCodec remoteCapabilities hint codec = some configuration := by
    cases hh : f.getCodec hint.codecId with
    | some hintedCodec =>
      obtain ⟨codecs, hcodecs, horder⟩ := codecs_eq_ok (by rw [hh]; rfl)
      unfold getConfiguration at h
      rw [hcodecs] at h
      obtain ⟨codec, hc, hsome⟩ := List.exists_of_findSome?_eq_some (Except.ok.inj h)
      exact ⟨codec, horder.once.mem_iff.1 hc, hsome⟩
    | none =>
      unfold getConfiguration codecs at h
      rw [hh] at h
      by_cases he : f.rankedCodecs.isEmpty <;> simp [he, bind, Except.bind] at h
  obtain ⟨codec, hc, h⟩ := hfind
  obtain ⟨rc, hrc, h⟩ := tryCodec_eq_some h
  obtain ⟨hm, hid⟩ := endpoint_eq_some hrc
  exact ⟨codec, hc, rc, hm, hid, h⟩

/-- **When the search is complete**, for a hint that names a codec of the factory: just when no endpoint
has a configuration, or a codec builds one for the first of its endpoints. -/
theorem complete_iff (h : (f.getCodec hint.codecId).isSome) : f.Complete remoteCapabilities hint ↔
    (∀ codec, ∀ rc ∈ remoteCapabilities, ¬ f.Builds hint codec rc) ∨
      ∃ codec rc, endpoint remoteCapabilities codec = some rc ∧ f.Builds hint codec rc := by
  obtain ⟨result, hresult, hsome⟩ := getConfiguration_eq_ok remoteCapabilities h
  unfold Complete
  rw [hresult]
  constructor
  · rintro ⟨_, heq, hiff, -⟩
    obtain rfl := Except.ok.inj heq
    by_cases hn : ∃ codec, ∃ rc ∈ remoteCapabilities, f.Builds hint codec rc
    · exact .inr (hsome.1 (hiff.2 hn))
    · exact .inl fun codec rc hrc hb => hn ⟨codec, rc, hrc, hb⟩
  · intro hcond
    refine ⟨result, rfl, ?_, ?_⟩
    · rw [hsome]
      constructor
      · rintro ⟨codec, rc, hrc, hb⟩
        exact ⟨codec, rc, (endpoint_eq_some hrc).1, hb⟩
      · rintro ⟨codec, rc, hrc, hb⟩
        rcases hcond with hn | hfirst
        · exact absurd hb (hn codec rc hrc)
        · exact hfirst
    · rintro configuration rfl
      obtain ⟨codec, hc, rc, hrc, hid, hb, hs, -⟩ := getConfiguration_eq_some hresult
      exact ⟨codec, hc, rc, hrc, hid, hb, hs⟩

/-- Two AAC endpoints, for the first of which a configuration is built. -/
theorem complete_first_endpoint : a2dpOffloadCodecFactory.Complete
    [⟨1, .aac, [0x40, 0x01, 0x8c, 0x80, 0, 0]⟩, ⟨2, .aac, [0x40, 0x00, 0x14, 0x80, 0, 0]⟩]
    ⟨.aac, none⟩ :=
  (complete_iff (by decide)).2 (.inr ⟨a2dpOffloadCodecAac, ⟨1, .aac, [0x40, 0x01, 0x8c, 0x80, 0, 0]⟩,
    rfl, by simp [a2dpOffloadCodecFactory], rfl, by decide⟩)

/-- The peer has two AAC endpoints, and the first one has no sampling frequency in common: nothing is
found, though the second one has a configuration. -/
theorem getConfiguration_two_endpoints :
    (a2dpOffloadCodecFactory.getCodec .aac).isSome ∧
      ¬ a2dpOffloadCodecFactory.Complete
        [⟨1, .aac, [0x40, 0x00, 0x14, 0x80, 0, 0]⟩, ⟨2, .aac, [0x40, 0x01, 0x8c, 0x80, 0, 0]⟩]
        ⟨.aac, none⟩ := by
  refine ⟨by decide, ?_⟩
  rintro ⟨result, hresult, hiff, -⟩
  have hnone : result = none := (Except.ok.inj hresult).symm.trans (by decide)
  have hsome := hiff.2 ⟨a2dpOffloadCodecAac, ⟨2, .aac, [0x40, 0x01, 0x8c, 0x80, 0, 0]⟩, by simp,
    by simp [a2dpOffloadCodecFactory], rfl, by decide⟩
  rw [hnone] at hsome
  cases hsome

end

end A2dpOffloadCodecFactory

/-! ### The codecs parse what they build -/

/-- A codec parses each configuration that it builds. -/
def A2dpOffloadCodec.Agrees (codec : A2dpOffloadCodec) : Prop :=
  ∀ rcaps hint config, codec.buildConfiguration rcaps hint = some config →
    ∃ p, codec.parseConfiguration config = .ok p

theorem offloadCodecs_agree {codec : A2dpOffloadCodec}
    (h : codec ∈ a2dpOffloadCodecFactory.rankedCodecs) : codec.Agrees := by
  intro rcaps hint config hb
  unfold a2dpOffloadCodecFactory at h
  rcases List.mem_pair.1 h with rfl | rfl
  · obtain ⟨p, -, -, hp, -⟩ := A2dpOffloadCodecAac.parseConfiguration_buildConfiguration hb
    refine ⟨p.toCodecParameters, ?_⟩
    unfold a2dpOffloadCodecAac
    simp only [hp, Except.map]
  · obtain ⟨p, -, -, hp, -⟩ := A2dpOffloadCodecSbc.parseConfiguration_buildConfiguration hb
    refine ⟨p.toCodecParameters, ?_⟩
    unfold a2dpOffloadCodecSbc
    simp only [hp, Except.map]

/-- What the factory asserts: the parameters of its answer are parsed from the configuration. -/
theorem A2dpOffloadCodecFactory.getConfiguration_parameters
    {remoteCapabilities : List A2dpRemoteCapabilities} {hint : A2dpConfigurationHint}
    {configuration : A2dpConfiguration}
    (h : a2dpOffloadCodecFactory.getConfiguration remoteCapabilities hint = .ok (some configuration)) :
    ∃ codec ∈ a2dpOffloadCodecFactory.rankedCodecs, configuration.id = codec.id ∧
      codec.parseConfiguration configuration.configuration = .ok configuration.parameters := by
  obtain ⟨codec, hc, rc, -, -, hb, -, hid, hparameters⟩ := getConfiguration_eq_some h
  obtain ⟨p, hp⟩ := offloadCodecs_agree hc _ _ _ hb
  refine ⟨codec, hc, hid, ?_⟩
  rw [hparameters, hp]
  rfl

/-- **Encoder and parser agree**, for both codecs: a configuration that is built is parsed, and the
sampling frequency and the channel mode parsed are those of the bits that were selected. -/
theorem parse_of_build :
    (∀ rcaps hint config, A2dpOffloadCodecSbc.buildConfiguration rcaps hint = some config →
      ∃ p sf cm, A2dpOffloadCodecSbc.parseConfiguration config = .ok p ∧
        A2dpOffloadCodecSbc.selectSamplingFrequency rcaps hint = some sf ∧
        A2dpBits.Active A2dpOffloadCodecSbc.kSamplingFrequency config sf ∧
        A2dpOffloadCodecSbc.selectChannelMode rcaps hint = some cm ∧
        A2dpBits.Active A2dpOffloadCodecSbc.kChannelMode config cm ∧
        p.samplingFrequencyHz = A2dpOffloadCodecSbc.getSamplingFrequencyValue (some sf) ∧
        p.channelMode = A2dpOffloadCodecSbc.getChannelModeEnum cm) ∧
    ∀ rcaps hint config, A2dpOffloadCodecAac.buildConfiguration rcaps hint = some config →
      ∃ p sf ch, A2dpOffloadCodecAac.parseConfiguration config = .ok p ∧
        A2dpOffloadCodecAac.selectSamplingFrequency rcaps hint = some sf ∧
        A2dpBits.Active A2dpOffloadCodecAac.kSamplingFrequency config sf ∧
        A2dpOffloadCodecAac.selectChannels rcaps hint = some ch ∧
        A2dpBits.Active A2dpOffloadCodecAac.kChannels config ch ∧
        p.samplingFrequencyHz = A2dpOffloadCodecAac.getSamplingFrequencyValue sf ∧
        p.channelMode = A2dpOffloadCodecAac.getChannelModeEnum ch :=
  ⟨fun _ _ _ => A2dpOffloadCodecSbc.parseConfiguration_buildConfiguration,
    fun _ _ _ => A2dpOffloadCodecAac.parseConfiguration_buildConfiguration⟩

/-- An endpoint for SBC, asked for 48 kHz and two channels, and one for AAC, asked for one channel. -/
theorem parse_of_build_48000 :
    (∃ p, A2dpOffloadCodecSbc.parseConfiguration [0x11, 0x19, 2, 250] = .ok p ∧
      p.samplingFrequencyHz = 48000 ∧ p.channelMode = .stereo) ∧
    ∃ p, A2dpOffloadCodecAac.parseConfiguration [0x40, 0, 0x88, 0x80, 0, 0] = .ok p ∧
      p.samplingFrequencyHz = 48000 ∧ p.channelMode = .mono := by
  obtain ⟨hsbc, haac⟩ := parse_of_build
  constructor
  · obtain ⟨p, sf, cm, hp, hsf, -, hcm, -, h1, h2⟩ := hsbc [0xff, 0xff, 2, 250]
      (some ⟨.stereo, 48000, 16, 0, 0⟩) [0x11, 0x19, 2, 250] (by decide +kernel)
    obtain rfl : 3 = sf := Option.some.inj hsf
    obtain rfl : 7 = cm := Option.some.inj hcm
    exact ⟨p, hp, h1, h2⟩
  · obtain ⟨p, sf, ch, hp, hsf, -, hch, -, h1, h2⟩ := haac [0x40, 0x01, 0x8c, 0x80, 0, 0]
      (some ⟨.mono, 48000, 24, 0, 0⟩) [0x40, 0, 0x88, 0x80, 0, 0] (by decide +kernel)
    obtain rfl : 16 = sf := Option.some.inj hsf
    obtain rfl : 20 = ch := Option.some.inj hch
    exact ⟨p, hp, h1, h2⟩

end TrebleDoze.Bluetooth
