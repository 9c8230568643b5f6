import TrebleDoze.Bluetooth.A2dpBits
import TrebleDoze.Bluetooth.Types
import Mathlib.Data.List.Induction
import Mathlib.Data.List.Forall2
import Mathlib.Data.List.Pairwise

/-!
# `A2dpOffloadCodec`

The types of the A2DP codec extensibility, and what the offloaded codecs have in common: a configuration
is built by selecting, for each field, one bit that the local and the remote capabilities share, and is
parsed by looking for the active bit of each field.

* `selectBit_eq_some`, `exists_selectBit`: what a selected bit is, and when there is one;
* `checkField_eq`, `checkField_eq_ok`: the check passes a field whose active bit the local capabilities
  have, and no other.
-/

namespace TrebleDoze.Bluetooth

open A2dpBits

/-- `ChannelMode`. -/
inductive ChannelMode where
  | unknown | mono | stereo | dualMono
  deriving DecidableEq, Repr, Inhabited

/-- `CodecParameters`. -/
structure CodecParameters where
  channelMode : ChannelMode
  samplingFrequencyHz : ℤ
  bitdepth : ℤ
  minBitrate : ℤ
  maxBitrate : ℤ
  deriving DecidableEq, Repr, Inhabited

/-- The statuses of `A2dpStatus` that the codecs answer with, `OK` apart. -/
inductive A2dpStatus where
  | badLength
  | invalidSamplingFrequency | notSupportedSamplingFrequency
  | invalidChannelMode | notSupportedChannelMode
  | invalidBlockLength
  | invalidSubbands | notSupportedSubbands
  | invalidAllocationMethod | notSupportedAllocationMethod
  | invalidMinimumBitpoolValue | notSupportedMinimumBitpoolValue
  | invalidMaximumBitpoolValue | notSupportedMaximumBitpoolValue
  | invalidObjectType | notSupportedObjectType
  | invalidChannels | notSupportedChannels
  | notSupportedVbr | notSupportedBitRate
  deriving DecidableEq, Repr

/-- `A2dpOffloadCodec`: `ok` is the status `OK`, and `none` that no configuration is built. -/
structure A2dpOffloadCodec where
  id : CodecId
  parseConfiguration : List UInt8 → Except A2dpStatus CodecParameters
  buildConfiguration : List UInt8 → Option CodecParameters → Option (List UInt8)

/-! ### Selecting a bit -/

/-- One `if … else if …` of `BuildConfiguration`: the first of the candidates that the local and the
remote capabilities have. -/
def selectBit (lcaps rcaps : List UInt8) (candidates : List ℕ) : Option ℕ :=
  candidates.find? fun bit => getBit bit lcaps && getBit bit rcaps

section

variable {lcaps rcaps config : List UInt8} {candidates : List ℕ} {bit : ℕ}

theorem selectBit_eq_some (h : selectBit lcaps rcaps candidates = some bit) :
    bit ∈ candidates ∧ getBit bit lcaps = true ∧ getBit bit rcaps = true := by
  have hp := List.find?_some h
  rw [Bool.and_eq_true] at hp
  exact ⟨List.mem_of_find?_eq_some h, hp⟩

theorem mem_of_selectBit {range : Range} (hc : ∀ b ∈ candidates, b ∈ range)
    (h : selectBit lcaps rcaps candidates = some bit) : bit ∈ range :=
  hc bit (selectBit_eq_some h).1

theorem mem_of_selectBit_hint {range : Range} {hint : Option CodecParameters}
    {hintBit : CodecParameters → Option ℕ} (hh : ∀ p b, hintBit p = some b → b ∈ range)
    (hc : ∀ b ∈ candidates, b ∈ range)
    (h : selectBit lcaps rcaps ((hint.bind hintBit).toList ++ candidates) = some bit) : bit ∈ range := by
  refine mem_of_selectBit (fun b hb => ?_) h
  rw [List.mem_append, Option.mem_toList, Option.bind_eq_some_iff] at hb
  rcases hb with ⟨p, -, hp⟩ | hb
  · exact hh p b hp
  · exact hc b hb

end

/-- Both sides have a bit of the field that the hint selects or that the fallback list names. -/
def SharesUsable (lcaps rcaps : List UInt8) (range : Range) (hintBit : Option ℕ) (fallback : List ℕ) :
    Prop :=
  ∃ bit ∈ range, (hintBit = some bit ∨ bit ∈ fallback) ∧
    getBit bit lcaps = true ∧ getBit bit rcaps = true

section

variable {lcaps rcaps : List UInt8} {range : Range} {hintBit : Option ℕ} {fallback : List ℕ} {bit : ℕ}

theorem sharesUsable_of_selectBit
    (h : selectBit lcaps rcaps (hintBit.toList ++ fallback) = some bit) (hm : bit ∈ range) :
    SharesUsable lcaps rcaps range hintBit fallback := by
  obtain ⟨hb, hshared⟩ := selectBit_eq_some h
  rw [List.mem_append, Option.mem_toList] at hb
  exact ⟨bit, hm, hb, hshared⟩

theorem exists_selectBit (h : SharesUsable lcaps rcaps range hintBit fallback) :
    ∃ bit, selectBit lcaps rcaps (hintBit.toList ++ fallback) = some bit := by
  obtain ⟨b, -, hb, hl, hr⟩ := h
  rw [← Option.isSome_iff_exists]
  unfold selectBit
  rw [List.find?_isSome]
  refine ⟨b, ?_, ?_⟩
  · rwa [List.mem_append, Option.mem_toList]
  · rw [hl, hr]
    rfl

theorem selectBit_hint (hl : getBit bit lcaps = true) (hr : getBit bit rcaps = true) :
    selectBit lcaps rcaps ((some bit).toList ++ fallback) = some bit := by
  unfold selectBit
  simp only [Option.toList_some, List.singleton_append, List.find?_cons, hl, hr, Bool.and_self]

end

/-! ### Checking a field -/

/-- The check of a field in `ParseConfiguration`: its active bit, if the local capabilities have it. -/
def checkField (range : Range) (invalid notSupported : A2dpStatus) (lcaps config : List UInt8) :
    Except A2dpStatus ℕ :=
  match findActiveBit range config with
  | none => .error invalid
  | some bit => if getBit bit lcaps then .ok bit else .error notSupported

section

variable {range : Range} {invalid notSupported : A2dpStatus} {lcaps config : List UInt8} {bit : ℕ}

theorem checkField_eq (ha : Active range config bit) (hl : getBit bit lcaps = true) :
    checkField range invalid notSupported lcaps config = .ok bit := by
  unfold checkField
  rw [findActiveBit_eq ha]
  simp only [hl, if_true]

/-- A field passes its check with its active bit, which the local capabilities have. -/
theorem checkField_eq_ok (h : checkField range invalid notSupported lcaps config = .ok bit) :
    Active range config bit ∧ getBit bit lcaps = true := by
  unfold checkField at h
  cases hfind : findActiveBit range config with
  | none =>
    rw [hfind] at h
    cases h
  | some b =>
    rw [hfind] at h
    simp only at h
    split_ifs at h with hl
    obtain rfl := Except.ok.inj h
    exact ⟨findActiveBit_eq_some_iff.1 hfind, hl⟩

end

/-! ### Configurations with some bits set -/

/-- An empty configuration in which the bits of a list have been set. -/
def setBits (size : ℕ) (bits : List ℕ) : List UInt8 :=
  bits.foldl (fun config bit => setBit bit true config) (List.replicate size 0)

section

variable {size : ℕ} {bits : List ℕ} {range : Range} {bit : ℕ}

@[simp] theorem length_setBits : (setBits size bits).length = size := by
  have h := length_foldl_setBit bits id (fun _ => true) (List.replicate size 0)
  rwa [List.length_replicate] at h

theorem getBit_replicate (size i : ℕ) : getBit i (List.replicate size 0) = false := by
  rw [getBit_eq_testBit, List.getD_eq_getElem?_getD, List.getElem?_replicate]
  split <;> simp

theorem getBit_setBits (h : ∀ b ∈ bits, b < 8 * size) (i : ℕ) :
    getBit i (setBits size bits) = decide (i ∈ bits) := by
  induction bits using List.reverseRecOn with
  | nil => exact getBit_replicate size i
  | append_singleton bits b ih =>
    have hb : b < 8 * size := h b (by simp)
    have hlen : b / 8 < (setBits size bits).length := by
      rw [length_setBits]
      omega
    have hstep : setBits size (bits ++ [b]) = setBit b true (setBits size bits) := by
      unfold setBits
      rw [List.foldl_append]
      rfl
    rw [hstep, getBit_setBit hlen, ih fun c hc => h c (by simp [hc])]
    by_cases hi : i = b <;> simp [hi]

/-- With one bit for each of some disjoint fields, the bit of each field is active. -/
theorem active_setBits {ranges : List Range} (hs : ∀ r ∈ ranges, r.first + r.len ≤ 8 * size)
    (hd : ranges.Pairwise Range.Disjoint) (hm : List.Forall₂ (fun r b => b ∈ r) ranges bits) :
    List.Forall₂ (fun r b => Active r (setBits size bits) b) ranges bits := by
  obtain ⟨hlen, hm⟩ := List.forall₂_iff_zip.1 hm
  have hfst : (ranges.zip bits).map Prod.fst = ranges := List.map_fst_zip hlen.le
  have hsnd : (ranges.zip bits).map Prod.snd = bits := List.map_snd_zip hlen.ge
  have hlt : ∀ b ∈ bits, b < 8 * size := by
    intro b hb
    rw [← hsnd] at hb
    obtain ⟨⟨r, b⟩, hf, rfl⟩ := List.mem_map.1 hb
    have h1 := hs r (List.of_mem_zip hf).1
    have h2 := Range.mem_iff.1 (hm hf)
    simp only
    omega
  have hsymm : Std.Symm fun f g : Range × ℕ => f.1.Disjoint g.1 := ⟨fun _ _ => Range.Disjoint.symm⟩
  rw [← hfst, List.pairwise_map] at hd
  refine List.forall₂_iff_zip.2 ⟨hlen, fun {r b} hf => ⟨hm hf, fun i hi => ?_⟩⟩
  rw [getBit_setBits hlt, decide_eq_decide]
  constructor
  · intro hib
    rw [← hsnd] at hib
    obtain ⟨⟨r', i⟩, hg, rfl⟩ := List.mem_map.1 hib
    by_contra hne
    have hfg : (r, b) ≠ (r', i) := by
      intro heq
      exact hne (congrArg Prod.snd heq).symm
    exact (hd.forall hf hg hfg).not_mem hi (hm hg)
  · rintro rfl
    exact (List.of_mem_zip hf).2

end

end TrebleDoze.Bluetooth
