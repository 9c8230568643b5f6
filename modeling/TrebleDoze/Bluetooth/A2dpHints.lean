import TrebleDoze.Bluetooth.A2dpAac
import TrebleDoze.Bluetooth.A2dpBitpool

/-!
# What a configuration that is built agrees with

The configurations that the SBC and the AAC codec build, against the capabilities of both sides and the
hint.

* `buildConfiguration_selects`: a configuration is built just when both sides share a usable bit for each
  field; each of its fields has one bit, which both sides have, and the values of the hint that both
  sides support are those chosen;
* `negotiatedBitrate_iff`: when the bit rate of AAC is within that of the peer;
* `maxBitrate_le_hint`: the bit rate of the hint is a ceiling.
-/

namespace TrebleDoze.Bluetooth

open A2dpBits

/-- The field has one active bit, and both sides have it. -/
def Agreed (lcaps rcaps : List UInt8) (range : Range) (config : List UInt8) : Prop :=
  ∃ bit, Active range config bit ∧ getBit bit lcaps = true ∧ getBit bit rcaps = true

/-- If both sides have a bit for the value of the hint, the active bit has that value. -/
def Honoured {α : Type} (lcaps rcaps : List UInt8) (range : Range) (value : ℕ → α) (hinted : α)
    (config : List UInt8) : Prop :=
  (∃ bit ∈ range, value bit = hinted ∧ getBit bit lcaps = true ∧ getBit bit rcaps = true) →
    ∃ bit, Active range config bit ∧ value bit = hinted

theorem agreed_of_selectBit {lcaps rcaps config : List UInt8} {range : Range} {candidates : List ℕ}
    {bit : ℕ} (h : selectBit lcaps rcaps candidates = some bit) (ha : Active range config bit) :
    Agreed lcaps rcaps range config :=
  ⟨bit, ha, (selectBit_eq_some h).2⟩

/-! ### SBC -/

namespace A2dpOffloadCodecSbc

/-- Both sides share a usable bit for each field. -/
structure Selectable (rcaps : List UInt8) (hint : Option CodecParameters) : Prop where
  samplingFrequency : SharesUsable capabilities rcaps kSamplingFrequency
    (hint.bind fun hint => getSamplingFrequencyBit hint.samplingFrequencyHz)
    [kSamplingFrequency44100, kSamplingFrequency48000]
  channelMode : SharesUsable capabilities rcaps kChannelMode
    (hint.bind fun hint => getChannelModeBit hint.channelMode)
    [kChannelModeJointStereo, kChannelModeStereo, kChannelModeDualChannel, kChannelModeMono]
  blockLength : SharesUsable capabilities rcaps kBlockLength none
    [kBlockLength16, kBlockLength12, kBlockLength8, kBlockLength4]
  subbands : SharesUsable capabilities rcaps kSubbands none [kSubbands8, kSubbands4]
  allocationMethod : SharesUsable capabilities rcaps kAllocationMethod none
    [kAllocationMethodLoudness, kAllocationMethodSnr]

/-- The fields of a configuration agree with both sides and with the hint. -/
structure Selected (rcaps : List UInt8) (hint : Option CodecParameters) (config : List UInt8) :
    Prop where
  samplingFrequency : Agreed capabilities rcaps kSamplingFrequency config
  channelMode : Agreed capabilities rcaps kChannelMode config
  blockLength : Agreed capabilities rcaps kBlockLength config
  subbands : Agreed capabilities rcaps kSubbands config
  allocationMethod : Agreed capabilities rcaps kAllocationMethod config
  hintedFrequency : ∀ h, hint = some h → Honoured capabilities rcaps kSamplingFrequency
    (fun bit => (getSamplingFrequencyValue (some bit) : ℤ)) h.samplingFrequencyHz config
  hintedChannelMode : ∀ h, hint = some h → Honoured capabilities rcaps kChannelMode
    getChannelModeEnum h.channelMode config

section

variable {rcaps config : List UInt8} {hint : Option CodecParameters}

/-- A configuration is built just when both sides share a usable bit for each field. -/
theorem isSome_buildConfiguration_iff (hl : rcaps.length = 4) :
    (buildConfiguration rcaps hint).isSome ↔ Selectable rcaps hint := by
  constructor
  · intro h
    obtain ⟨config, hb⟩ := Option.isSome_iff_exists.1 h
    obtain ⟨sf, cm, bl, sb, am, hsf, hcm, hbl, hsb, ham, -⟩ := buildConfiguration_eq_some hb
    exact
      { samplingFrequency := sharesUsable_of_selectBit hsf (mem_selectSamplingFrequency hsf)
        channelMode := sharesUsable_of_selectBit hcm (mem_selectChannelMode hcm)
        blockLength := sharesUsable_of_selectBit hbl (mem_selectBlockLength hbl)
        subbands := sharesUsable_of_selectBit hsb (mem_selectSubbands hsb)
        allocationMethod := sharesUsable_of_selectBit ham (mem_selectAllocationMethod ham) }
  · intro h
    obtain ⟨sf, hsf⟩ := exists_selectBit h.samplingFrequency
    obtain ⟨cm, hcm⟩ := exists_selectBit h.channelMode
    obtain ⟨bl, hbl⟩ := exists_selectBit h.blockLength
    obtain ⟨sb, hsb⟩ := exists_selectBit h.subbands
    obtain ⟨am, ham⟩ := exists_selectBit h.allocationMethod
    rw [buildConfiguration_of_select hl hsf hcm hbl hsb ham]
    rfl

/-- What is selected for the channel mode of a hint that both sides support. -/
theorem selectChannelMode_honours {h : CodecParameters} {bit : ℕ} (hb : bit ∈ kChannelMode)
    (hv : getChannelModeEnum bit = h.channelMode) (hl : getBit bit capabilities = true)
    (hr : getBit bit rcaps = true) :
    ∃ cm, selectChannelMode rcaps (some h) = some cm ∧ getChannelModeEnum cm = h.channelMode := by
  by_cases hstereo : bit = kChannelModeStereo
  · subst hstereo
    by_cases hjoint : getBit kChannelModeJointStereo rcaps = true
    · refine ⟨kChannelModeJointStereo, ?_, hv⟩
      exact selectChannelMode_hint (by decide) (by decide) hv (by decide) hjoint
    · rw [Bool.not_eq_true] at hjoint
      exact ⟨kChannelModeStereo, selectChannelMode_stereo hv.symm hjoint hr, hv⟩
  · exact ⟨bit, selectChannelMode_hint hb hstereo hv hl hr, hv⟩

theorem selected_of_buildConfiguration (h : buildConfiguration rcaps hint = some config) :
    Selected rcaps hint config := by
  obtain ⟨sf, cm, bl, sb, am, hsf, hcm, hbl, hsb, ham, hb, -⟩ := built_of_buildConfiguration h
  refine
    { samplingFrequency := agreed_of_selectBit hsf hb.samplingFrequency
      channelMode := agreed_of_selectBit hcm hb.channelMode
      blockLength := agreed_of_selectBit hbl hb.blockLength
      subbands := agreed_of_selectBit hsb hb.subbands
      allocationMethod := agreed_of_selectBit ham hb.allocationMethod
      hintedFrequency := ?_
      hintedChannelMode := ?_ }
  · rintro p rfl ⟨bit, hm, hv, hl, hr⟩
    rw [selectSamplingFrequency_hint hm hv hl hr] at hsf
    obtain rfl := Option.some.inj hsf
    exact ⟨bit, hb.samplingFrequency, hv⟩
  · rintro p rfl ⟨bit, hm, hv, hl, hr⟩
    obtain ⟨cm', hcm', hv'⟩ := selectChannelMode_honours hm hv hl hr
    obtain rfl := Option.some.inj (hcm'.symm.trans hcm)
    exact ⟨cm', hb.channelMode, hv'⟩

end

end A2dpOffloadCodecSbc

/-! ### AAC -/

namespace A2dpOffloadCodecAac

/-- Both sides share a usable bit for each field. -/
structure Selectable (rcaps : List UInt8) (hint : Option CodecParameters) : Prop where
  objectType : SharesUsable capabilities rcaps kObjectType none
    [kObjectTypeMpeg2AacLc, kObjectTypeMpeg4AacLc]
  samplingFrequency : SharesUsable capabilities rcaps kSamplingFrequency
    (hint.bind fun hint => getSamplingFrequencyBit hint.samplingFrequencyHz)
    [kSamplingFrequency96000, kSamplingFrequency88200, kSamplingFrequency48000, kSamplingFrequency44100]
  channels : SharesUsable capabilities rcaps kChannels
    (hint.bind fun hint => getChannelsBit hint.channelMode) [kChannels2, kChannels1]

/-- The fields of a configuration agree with both sides and with the hint. -/
structure Selected (rcaps : List UInt8) (hint : Option CodecParameters) (config : List UInt8) :
    Prop where
  objectType : Agreed capabilities rcaps kObjectType config
  samplingFrequency : Agreed capabilities rcaps kSamplingFrequency config
  channels : Agreed capabilities rcaps kChannels config
  vbrSupported : getBit kVbrSupported.first config = true →
    getBit kVbrSupported.first capabilities = true ∧ getBit kVbrSupported.first rcaps = true
  hintedFrequency : ∀ h, hint = some h → Honoured capabilities rcaps kSamplingFrequency
    (fun bit => (getSamplingFrequencyValue bit : ℤ)) h.samplingFrequencyHz config
  hintedChannels : ∀ h, hint = some h → Honoured capabilities rcaps kChannels
    getChannelModeEnum h.channelMode config

section

variable {rcaps config : List UInt8} {hint : Option CodecParameters} {h : CodecParameters} {bit : ℕ}

/-- A configuration is built just when both sides share a usable bit for each field. -/
theorem isSome_buildConfiguration_iff (hl : rcaps.length = 6) :
    (buildConfiguration rcaps hint).isSome ↔ Selectable rcaps hint := by
  constructor
  · intro h
    obtain ⟨config, hb⟩ := Option.isSome_iff_exists.1 h
    obtain ⟨ot, sf, ch, hot, hsf, hch, -⟩ := buildConfiguration_eq_some hb
    exact
      { objectType := sharesUsable_of_selectBit hot (mem_selectObjectType hot)
        samplingFrequency := sharesUsable_of_selectBit hsf (mem_selectSamplingFrequency hsf)
        channels := sharesUsable_of_selectBit hch (mem_selectChannels hch) }
  · intro h
    obtain ⟨ot, hot⟩ := exists_selectBit h.objectType
    obtain ⟨sf, hsf⟩ := exists_selectBit h.samplingFrequency
    obtain ⟨ch, hch⟩ := exists_selectBit h.channels
    rw [buildConfiguration_of_select hl hot hsf hch]
    rfl

/-- The sampling frequency of a hint is selected if both sides have it. -/
theorem selectSamplingFrequency_hint (hm : bit ∈ kSamplingFrequency)
    (hv : (getSamplingFrequencyValue bit : ℤ) = h.samplingFrequencyHz)
    (hl : getBit bit capabilities = true) (hr : getBit bit rcaps = true) :
    selectSamplingFrequency rcaps (some h) = some bit := by
  have hbit : getSamplingFrequencyBit h.samplingFrequencyHz = some bit := by
    have hmem : 8 ≤ bit ∧ bit < 20 := hm
    rw [← hv]
    obtain rfl | rfl | rfl | rfl | rfl | rfl | rfl | rfl | rfl | rfl | rfl | rfl : bit = 8 ∨ bit = 9 ∨
      bit = 10 ∨ bit = 11 ∨ bit = 12 ∨ bit = 13 ∨ bit = 14 ∨ bit = 15 ∨ bit = 16 ∨ bit = 17 ∨
      bit = 18 ∨ bit = 19 := by omega
    all_goals rfl
  unfold selectSamplingFrequency
  simp only [Option.bind_some, hbit]
  exact selectBit_hint hl hr

theorem selectChannels_hint (hm : bit ∈ kChannels) (hv : getChannelModeEnum bit = h.channelMode)
    (hl : getBit bit capabilities = true) (hr : getBit bit rcaps = true) :
    selectChannels rcaps (some h) = some bit := by
  have hbit : getChannelsBit h.channelMode = some bit := by
    have hmem : 20 ≤ bit ∧ bit < 24 := hm
    rw [← hv]
    -- the local capabilities have one and two channels only
    obtain rfl | rfl | rfl | rfl : bit = 20 ∨ bit = 21 ∨ bit = 22 ∨ bit = 23 := by omega
    · rfl
    · rfl
    · exact absurd hl (by decide)
    · exact absurd hl (by decide)
  unfold selectChannels
  simp only [Option.bind_some, hbit]
  exact selectBit_hint hl hr

theorem getRange_kVbrSupported_ne_zero (data : List UInt8) :
    getRange kVbrSupported data ≠ 0 ↔ getBit kVbrSupported.first data = true := by
  have hbit : getRange kVbrSupported data = 0 ||| (getBit kVbrSupported.first data).toNat <<< 0 := rfl
  rw [hbit, Nat.zero_or, Nat.shiftLeft_zero]
  cases getBit kVbrSupported.first data <;> decide

theorem vbrSupported_of_set {fields : List UInt8} (hlen : fields.length = 6)
    (hfields : getBit kVbrSupported.first fields = false)
    (h : getBit kVbrSupported.first (setVbrSupported rcaps hint fields) = true) :
    getBit kVbrSupported.first capabilities = true ∧ getBit kVbrSupported.first rcaps = true := by
  have hroom : kVbrSupported.first + kVbrSupported.len ≤ 8 * fields.length := by
    rw [hlen]
    decide
  have hset : ∀ v : Bool, getBit kVbrSupported.first (setRange kVbrSupported v.toNat fields) = v := by
    intro v
    rw [getBit_setRange hroom, if_pos (by decide)]
    cases v <;> decide
  unfold setVbrSupported at h
  have hboth : ∀ {b : Bool}, b = true → (b = decide (getRange kVbrSupported capabilities ≠ 0 ∧
      getRange kVbrSupported rcaps ≠ 0)) →
      getBit kVbrSupported.first capabilities = true ∧ getBit kVbrSupported.first rcaps = true := by
    intro b hb heq
    rw [hb, eq_comm, decide_eq_true_iff, getRange_kVbrSupported_ne_zero,
      getRange_kVbrSupported_ne_zero] at heq
    exact heq
  cases hint with
  | none =>
    simp only [hset] at h
    exact hboth h rfl
  | some p =>
    simp only at h
    split_ifs at h with hmin
    · rw [hset] at h
      exact hboth h rfl
    · rw [hfields] at h
      cases h

theorem selected_of_buildConfiguration (h : buildConfiguration rcaps hint = some config) :
    Selected rcaps hint config := by
  obtain ⟨ot, sf, ch, hot, hsf, hch, hb, hconfig⟩ := built_of_buildConfiguration h
  have hlen : (setVbrSupported rcaps hint (setBits 6 [ot, sf, ch])).length = 6 := by
    rw [length_setVbrSupported, length_setBits]
  refine
    { objectType := agreed_of_selectBit hot hb.objectType
      samplingFrequency := agreed_of_selectBit hsf hb.samplingFrequency
      channels := agreed_of_selectBit hch hb.channels
      vbrSupported := ?_
      hintedFrequency := ?_
      hintedChannels := ?_ }
  · intro hvbr
    rw [hconfig, getBit_setRange (by rw [hlen]; decide), if_neg (by decide)] at hvbr
    refine vbrSupported_of_set length_setBits ?_ hvbr
    -- none of the bits that are selected is the vbr bit
    have hmot : 0 ≤ ot ∧ ot < 7 := hb.objectType.1
    have hmsf : 8 ≤ sf ∧ sf < 20 := hb.samplingFrequency.1
    have hmch : 20 ≤ ch ∧ ch < 24 := hb.channels.1
    rw [getBit_setBits fun b hb => by simp only [List.mem_cons, List.not_mem_nil, or_false] at hb; omega,
      decide_eq_false_iff_not]
    intro hmem
    have hfirst : kVbrSupported.first = 24 := rfl
    simp only [List.mem_cons, List.not_mem_nil, or_false] at hmem
    omega
  · rintro p rfl ⟨bit, hm, hv, hl, hr⟩
    rw [selectSamplingFrequency_hint hm hv hl hr] at hsf
    obtain rfl := Option.some.inj hsf
    exact ⟨bit, hb.samplingFrequency, hv⟩
  · rintro p rfl ⟨bit, hm, hv, hl, hr⟩
    rw [selectChannels_hint hm hv hl hr] at hch
    obtain rfl := Option.some.inj hch
    exact ⟨bit, hb.channels, hv⟩

/-- The bit rate of a configuration that is built: what the field has kept of the one selected. -/
theorem getRange_kBitrate (h : buildConfiguration rcaps hint = some config) :
    getRange kBitrate config = (selectBitrate hint % 2 ^ kBitrate.len).toNat := by
  obtain ⟨ot, sf, ch, -, -, -, -, hconfig⟩ := built_of_buildConfiguration h
  have hlen : (setVbrSupported rcaps hint (setBits 6 [ot, sf, ch])).length = 6 := by
    rw [length_setVbrSupported, length_setBits]
  rw [hconfig, getRange_setRange (by rw [hlen]; decide)]

theorem parsed_bitrate (h : buildConfiguration rcaps hint = some config) :
    ∃ p, parseConfiguration config = .ok p ∧
      p.maxBitrate = (selectBitrate hint % 2 ^ kBitrate.len).toNat := by
  obtain ⟨ot, sf, ch, hot, hsf, hch, hb, -⟩ := built_of_buildConfiguration h
  refine ⟨_, parseConfiguration_of_built hb (selectBit_eq_some hot).2.1 (selectBit_eq_some hsf).2.1
    (selectBit_eq_some hch).2.1, ?_⟩
  rw [getRange_kBitrate h]

/-- The local capabilities leave the bit rate open. -/
theorem getRange_kBitrate_capabilities : getRange kBitrate capabilities = 0 := by decide

/-- The bit rate of a hint is taken over, the local capabilities setting no limit. -/
theorem selectBitrate_hint (hpos : 0 < h.maxBitrate) : selectBitrate (some h) = h.maxBitrate := by
  unfold selectBitrate
  simp only [getRange_kBitrate_capabilities, Nat.cast_zero, ne_eq, not_true_eq_false, and_false,
    if_false, if_pos hpos]

/-- Without a bit rate in the hint, the bit rate is left open. -/
theorem selectBitrate_open (hint : Option CodecParameters)
    (hnone : ∀ h, hint = some h → h.maxBitrate ≤ 0) : selectBitrate hint = 0 := by
  unfold selectBitrate
  simp only [getRange_kBitrate_capabilities, Nat.cast_zero]
  cases hint with
  | none => rfl
  | some h =>
    have hmax : ¬ h.maxBitrate > 0 := not_lt.2 (hnone h rfl)
    simp only [hmax, false_and, if_false]

/-- The bit rate written is within that of the peer, and is the one of a hint that the field and both
limits admit; a limit of zero is none. -/
structure NegotiatedBitrate (rcaps : List UInt8) (hint : Option CodecParameters)
    (config : List UInt8) : Prop where
  le_remote : getRange kBitrate rcaps ≠ 0 → getRange kBitrate config ≤ getRange kBitrate rcaps
  hinted : ∀ h, hint = some h → 0 ≤ h.maxBitrate → h.maxBitrate < 2 ^ kBitrate.len →
    (getRange kBitrate capabilities ≠ 0 → h.maxBitrate ≤ getRange kBitrate capabilities) →
    (getRange kBitrate rcaps ≠ 0 → h.maxBitrate ≤ getRange kBitrate rcaps) →
    (getRange kBitrate config : ℤ) = h.maxBitrate

end

/-- **The bit rate is within that of the peer** just when the field keeps no more of the hint than that:
the bit rate of the peer is not looked at. -/
theorem negotiatedBitrate_iff (rcaps : List UInt8) (hint : Option CodecParameters)
    (config : List UInt8) (hbuild : buildConfiguration rcaps hint = some config) :
    NegotiatedBitrate rcaps hint config ↔
      (getRange kBitrate rcaps ≠ 0 → ∀ h, hint = some h → 0 < h.maxBitrate →
        h.maxBitrate % 2 ^ kBitrate.len ≤ getRange kBitrate rcaps) := by
  have hrate := getRange_kBitrate hbuild
  have hlen : (2 : ℤ) ^ kBitrate.len = 8388608 := by decide
  rw [hlen] at hrate ⊢
  constructor
  · rintro hn hremote h rfl hpos
    have hle := hn.le_remote hremote
    rw [hrate, selectBitrate_hint hpos] at hle
    omega
  · intro hcond
    by_cases hpos : ∃ h, hint = some h ∧ 0 < h.maxBitrate
    · obtain ⟨h, rfl, hpos⟩ := hpos
      rw [selectBitrate_hint hpos] at hrate
      constructor
      · intro hremote
        have hkept := hcond hremote h rfl hpos
        rw [hrate]
        omega
      · intro h' heq h0 hfit _ _
        obtain rfl := Option.some.inj heq
        rw [hrate]
        rw [hlen] at hfit
        omega
    · -- a hint of no bit rate, or none at all, leaves the field at zero
      have hnone : ∀ h, hint = some h → h.maxBitrate ≤ 0 := fun h heq =>
        not_lt.1 fun hlt => hpos ⟨h, heq, hlt⟩
      rw [selectBitrate_open hint hnone] at hrate
      constructor
      · intro _
        rw [hrate]
        exact Nat.zero_le _
      · intro h heq h0 _ _ _
        have hmax := hnone h heq
        rw [hrate]
        omega

/-- A peer of 128 kbit/s, and a hint of 96 kbit/s. -/
theorem negotiatedBitrate_iff_within :
    NegotiatedBitrate [0xc0, 1, 0x8c, 0x81, 0xf4, 0] (some ⟨.stereo, 44100, 16, 0, 96000⟩)
      [0x80, 1, 0x04, 0x81, 0x77, 0] :=
  (negotiatedBitrate_iff [0xc0, 1, 0x8c, 0x81, 0xf4, 0] (some ⟨.stereo, 44100, 16, 0, 96000⟩)
    [0x80, 1, 0x04, 0x81, 0x77, 0] (by decide)).2 fun _ h heq _ => by
      obtain rfl := Option.some.inj heq
      decide

/-- The same peer, and a hint of 320 kbit/s, which is written. -/
theorem buildConfiguration_above_remote :
    buildConfiguration [0xc0, 1, 0x8c, 0x81, 0xf4, 0] (some ⟨.stereo, 44100, 16, 0, 320000⟩) =
      some [0x80, 1, 0x04, 0x84, 0xe2, 0] ∧
    getRange kBitrate [0xc0, 1, 0x8c, 0x81, 0xf4, 0] = 128000 ∧
    getRange kBitrate [0x80, 1, 0x04, 0x84, 0xe2, 0] = 320000 ∧
    ¬ NegotiatedBitrate [0xc0, 1, 0x8c, 0x81, 0xf4, 0] (some ⟨.stereo, 44100, 16, 0, 320000⟩)
      [0x80, 1, 0x04, 0x84, 0xe2, 0] := by
  refine ⟨by decide, by decide, by decide, fun hn => ?_⟩
  exact absurd (hn.le_remote (by decide)) (by decide)

end A2dpOffloadCodecAac

/-- **The fields of a configuration are negotiated**: there is one just when both sides share a usable
bit for each field, and its fields agree with both sides and with the hint. -/
theorem buildConfiguration_selects (rcaps : List UInt8) (hint : Option CodecParameters) :
    (rcaps.length = A2dpOffloadCodecSbc.capabilities.length →
      ((A2dpOffloadCodecSbc.buildConfiguration rcaps hint).isSome ↔
        A2dpOffloadCodecSbc.Selectable rcaps hint) ∧
      ∀ config, A2dpOffloadCodecSbc.buildConfiguration rcaps hint = some config →
        A2dpOffloadCodecSbc.Selected rcaps hint config) ∧
    (rcaps.length = A2dpOffloadCodecAac.capabilities.length →
      ((A2dpOffloadCodecAac.buildConfiguration rcaps hint).isSome ↔
        A2dpOffloadCodecAac.Selectable rcaps hint) ∧
      ∀ config, A2dpOffloadCodecAac.buildConfiguration rcaps hint = some config →
        A2dpOffloadCodecAac.Selected rcaps hint config) := by
  rw [A2dpOffloadCodecSbc.capabilities_eq, A2dpOffloadCodecAac.capabilities_eq]
  refine ⟨fun hl => ⟨?_, ?_⟩, fun hl => ⟨?_, ?_⟩⟩
  · exact A2dpOffloadCodecSbc.isSome_buildConfiguration_iff hl
  · exact fun _ h => A2dpOffloadCodecSbc.selected_of_buildConfiguration h
  · exact A2dpOffloadCodecAac.isSome_buildConfiguration_iff hl
  · exact fun _ h => A2dpOffloadCodecAac.selected_of_buildConfiguration h

/-- A peer with every bit of SBC and a hint of 48 kHz, and one with AAC at two rates and a hint of 44.1 kHz. -/
theorem buildConfiguration_selects_stereo :
    A2dpOffloadCodecSbc.Selectable [0xff, 0xff, 2, 250] (some ⟨.stereo, 48000, 16, 0, 0⟩) ∧
      A2dpOffloadCodecSbc.Selected [0xff, 0xff, 2, 250] (some ⟨.stereo, 48000, 16, 0, 0⟩)
        [17, 25, 2, 250] ∧
      A2dpOffloadCodecAac.Selectable [0xc0, 1, 0x8c, 0x81, 0xf4, 0] (some ⟨.stereo, 44100, 16, 0, 96000⟩) ∧
      A2dpOffloadCodecAac.Selected [0xc0, 1, 0x8c, 0x81, 0xf4, 0] (some ⟨.stereo, 44100, 16, 0, 96000⟩)
        [0x80, 1, 0x04, 0x81, 0x77, 0] := by
  have hsbc := (buildConfiguration_selects [0xff, 0xff, 2, 250]
    (some ⟨.stereo, 48000, 16, 0, 0⟩)).1 (by decide)
  have haac := (buildConfiguration_selects [0xc0, 1, 0x8c, 0x81, 0xf4, 0]
    (some ⟨.stereo, 44100, 16, 0, 96000⟩)).2 (by decide)
  exact ⟨hsbc.1.1 (by decide +kernel), hsbc.2 _ (by decide +kernel), haac.1.1 (by decide), haac.2 _ (by decide)⟩

/-! ### The ceiling of the hint -/

/-- **The bit rate of the hint is a ceiling** for the configurations of both codecs. -/
theorem maxBitrate_le_hint (rcaps : List UInt8) (hint : CodecParameters) (hpos : 0 < hint.maxBitrate)
    (hle : hint.minBitrate ≤ hint.maxBitrate) :
    (∀ config, A2dpOffloadCodecSbc.buildConfiguration rcaps (some hint) = some config →
      A2dpOffloadCodecSbc.getBitrate config 2 < hint.maxBitrate →
      ∃ p, A2dpOffloadCodecSbc.parseConfiguration config = .ok p ∧ p.maxBitrate ≤ hint.maxBitrate) ∧
    (∀ config, A2dpOffloadCodecAac.buildConfiguration rcaps (some hint) = some config →
      ∃ p, A2dpOffloadCodecAac.parseConfiguration config = .ok p ∧ p.maxBitrate ≤ hint.maxBitrate) := by
  constructor
  · intro config h h2
    obtain ⟨p, hp, -, -, -, hmax⟩ := A2dpOffloadCodecSbc.parsed_of_buildConfiguration h
    obtain ⟨-, hpool, hrate⟩ := A2dpOffloadCodecSbc.buildConfiguration_bitpools h
    have hceiling : A2dpOffloadCodecSbc.ceiling (some hint) = some hint.maxBitrate := by
      rw [← Option.mem_def, A2dpOffloadCodecSbc.mem_ceiling]
      exact ⟨hint, rfl, by omega, hle, rfl⟩
    refine ⟨p, hp, ?_⟩
    rw [hmax, hpool, A2dpOffloadCodecSbc.selectBitpool_snd, hceiling]
    simp only
    rw [hrate] at h2 ⊢
    -- the search stays below the bit rate, unless it ends at the least bitpool
    by_cases hg : 2 < A2dpOffloadCodecSbc.getBitpool
        (A2dpOffloadCodecSbc.selectFields rcaps (some hint)) hint.maxBitrate
    · exact (A2dpOffloadCodecSbc.getBitrate_getBitpool_lt hg).le
    · have heq := (A2dpOffloadCodecSbc.getBitpool_bounds
        (A2dpOffloadCodecSbc.selectFields rcaps (some hint)) hint.maxBitrate).1
      rw [show A2dpOffloadCodecSbc.getBitpool (A2dpOffloadCodecSbc.selectFields rcaps (some hint))
        hint.maxBitrate = 2 by omega]
      exact h2.le
  · intro config h
    obtain ⟨p, hp, hmax⟩ := A2dpOffloadCodecAac.parsed_bitrate h
    refine ⟨p, hp, ?_⟩
    rw [hmax, A2dpOffloadCodecAac.selectBitrate_hint hpos]
    -- the field keeps a remainder
    have hlen : A2dpOffloadCodecAac.kBitrate.len = 23 := rfl
    rw [hlen]
    omega

/-- A hint of 200 kbit/s for a peer with each of the codecs. -/
theorem maxBitrate_le_hint_each :
    (∃ p, A2dpOffloadCodecSbc.parseConfiguration [0x21, 0x19, 2, 29] = .ok p ∧
      p.maxBitrate ≤ 200000) ∧
    ∃ p, A2dpOffloadCodecAac.parseConfiguration [0x80, 1, 0x04, 0x83, 0x0d, 0x40] = .ok p ∧
      p.maxBitrate ≤ 200000 :=
  ⟨(maxBitrate_le_hint [0x3f, 0xff, 2, 250] ⟨.stereo, 44100, 16, 0, 200000⟩ (by decide)
      (by decide)).1 [0x21, 0x19, 2, 29] (by decide +kernel) (by decide),
    (maxBitrate_le_hint [0xc0, 1, 0x8c, 0x80, 0, 0] ⟨.stereo, 44100, 16, 0, 200000⟩ (by decide)
      (by decide)).2 [0x80, 1, 0x04, 0x83, 0x0d, 0x40] (by decide)⟩

end TrebleDoze.Bluetooth
