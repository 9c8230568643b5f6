import TrebleDoze.Lib.Loop
import Mathlib.Data.Nat.Count

/-!
# `IsSingleBit`

The loop with which the HIDL validators ask that a value names one enumerator of a bit field. It runs
over the bits from the lowest one on and stops at the first that is above one of the two operands.

* `isSingleBit_iff`: its answer is whether the operands have exactly one bit in common;
* `isSingleBit_returns`: the loop ends, and the bit may be any one of the word;
* `isSingleBit_twoPow`: an enumerator that is a bit of the mask.
-/

namespace TrebleDoze.Bluetooth.Hidl

open Lib

/-- An iteration of the loop, on `test_bit` and `single`. -/
def isSingleBitBody (bitmasks bitfield : BitVec 32) :
    BitVec 32 × Bool → Iter (BitVec 32 × Bool) Bool
  | (testBit, single) =>
    if testBit ≤ bitmasks ∧ testBit ≤ bitfield then
      if bitfield &&& testBit ≠ 0 ∧ bitmasks &&& testBit ≠ 0 then
        if single then .done false
        else if testBit = 0x80000000 then .done true
        else .next (testBit <<< 1, true)
      else if testBit = 0x80000000 then .done single
      else .next (testBit <<< 1, single)
    else .done single

/-- `IsSingleBit`; `test_bit` takes 32 values at most. -/
def isSingleBit (bitmasks bitfield : BitVec 32) : Bool :=
  (loop (isSingleBitBody bitmasks bitfield) 32 (0x00000001, false)).getD false

/-! ### The bits of a word -/

/-- The number of bits below `i` that are set in `w`. -/
def bitsBelow (w : BitVec 32) (i : ℕ) : ℕ := Nat.count (fun k => w.getLsbD k) i

section

variable {w b f : BitVec 32} {i j : ℕ}

theorem bitsBelow_zero : bitsBelow w 0 = 0 := Nat.count_zero _

theorem bitsBelow_succ : bitsBelow w (i + 1) = bitsBelow w i + if w.getLsbD i then 1 else 0 :=
  Nat.count_succ ..

theorem bitsBelow_le (h : i ≤ j) : bitsBelow w i ≤ bitsBelow w j := Nat.count_monotone _ h

theorem bitsBelow_eq (h : ∀ k, i ≤ k → w.getLsbD k = false) (hij : i ≤ j) :
    bitsBelow w j = bitsBelow w i := by
  induction j, hij using Nat.le_induction with
  | base => rfl
  | succ j hj ih => rw [bitsBelow_succ, ih, h j hj, if_neg (by decide), Nat.add_zero]

theorem toNat_testBit (hi : i < 32) : (BitVec.twoPow 32 i).toNat = 2 ^ i := by
  rw [BitVec.toNat_twoPow, Nat.mod_eq_of_lt (Nat.pow_lt_pow_right (by decide) hi)]

theorem getLsbD_of_lt (hi : i < 32) (h : ¬BitVec.twoPow 32 i ≤ b) (k : ℕ) (hk : i ≤ k) :
    b.getLsbD k = false := by
  rw [BitVec.not_le, BitVec.lt_def, toNat_testBit hi, BitVec.toNat_lt_iff_getLsbD_eq_false i hi] at h
  have hbit := h (k - i)
  rwa [show i + (k - i) = k by omega] at hbit

theorem and_testBit_ne_zero (hi : i < 32) : b &&& BitVec.twoPow 32 i ≠ 0 ↔ b.getLsbD i = true := by
  rw [BitVec.and_twoPow]
  split
  · rename_i hb
    refine iff_of_true (fun h => ?_) hb
    have hbit := congrArg BitVec.toNat h
    rw [toNat_testBit hi] at hbit
    exact absurd hbit (Nat.pos_iff_ne_zero.1 (Nat.two_pow_pos i))
  · rename_i hb
    exact iff_of_false (by simp) hb

theorem testBit_eq_last (hi : i < 32) : BitVec.twoPow 32 i = 0x80000000 ↔ i = 31 := by
  constructor
  · intro h
    have hpow := congrArg BitVec.toNat h
    rw [toNat_testBit hi] at hpow
    exact Nat.pow_right_injective (Nat.le_refl 2) hpow
  · rintro rfl
    decide

theorem testBit_shiftLeft : BitVec.twoPow 32 i <<< 1 = BitVec.twoPow 32 (i + 1) := by
  rw [BitVec.twoPow, BitVec.twoPow, BitVec.shiftLeft_add]

/-! ### The loop -/

/-- Before the iteration for the bit `i`: `single` says whether one common bit has been seen, and no
second one has. -/
def SingleInv (w : BitVec 32) (s : BitVec 32 × Bool) : Prop :=
  ∃ i < 32, s.1 = BitVec.twoPow 32 i ∧ bitsBelow w i = s.2.toNat

theorem testBit_common_iff (hi : i < 32) :
    (f &&& BitVec.twoPow 32 i ≠ 0 ∧ b &&& BitVec.twoPow 32 i ≠ 0) ↔ (b &&& f).getLsbD i = true := by
  rw [and_testBit_ne_zero hi, and_testBit_ne_zero hi, BitVec.getLsbD_and, Bool.and_eq_true, and_comm]

/-- An iteration that goes on counts its bit; the index of the bit is the variant. -/
theorem SingleInv.next {s s' : BitVec 32 × Bool} (hs : SingleInv (b &&& f) s)
    (h : isSingleBitBody b f s = .next s') :
    SingleInv (b &&& f) s' ∧ 31 - s'.1.toNat.log2 < 31 - s.1.toNat.log2 := by
  obtain ⟨i, hi, ht, hcount⟩ := hs
  obtain ⟨testBit, single⟩ := s
  subst ht
  simp only [isSingleBitBody, testBit_common_iff hi, testBit_eq_last hi, testBit_shiftLeft] at h
  have hlog (k : ℕ) (hk : k < 32) : (BitVec.twoPow 32 k).toNat.log2 = k := by
    rw [toNat_testBit hk, Nat.log2_two_pow]
  have hgo (single' : Bool) (hlast : i ≠ 31) (hs' : (BitVec.twoPow 32 (i + 1), single') = s')
      (hcount' : bitsBelow (b &&& f) (i + 1) = single'.toNat) :
      SingleInv (b &&& f) s' ∧ 31 - s'.1.toNat.log2 < 31 - (BitVec.twoPow 32 i).toNat.log2 := by
    subst hs'
    refine ⟨⟨i + 1, by omega, rfl, hcount'⟩, ?_⟩
    rw [hlog i hi, hlog (i + 1) (by omega)]
    omega
  split_ifs at h with hle hbit hsingle hlast hlast
  · refine hgo true hlast (Iter.next.inj h) ?_
    rw [bitsBelow_succ, if_pos hbit, hcount, Bool.eq_false_iff.2 hsingle]
    rfl
  · refine hgo single hlast (Iter.next.inj h) ?_
    rw [bitsBelow_succ, if_neg hbit, hcount, Nat.add_zero]

/-- An iteration that ends the loop knows the number of common bits: no bit is left above, or a second
one has been found. -/
theorem SingleInv.done {s : BitVec 32 × Bool} {r : Bool} (hs : SingleInv (b &&& f) s)
    (h : isSingleBitBody b f s = .done r) : r = true ↔ bitsBelow (b &&& f) 32 = 1 := by
  obtain ⟨i, hi, ht, hcount⟩ := hs
  obtain ⟨testBit, single⟩ := s
  subst ht
  simp only [isSingleBitBody, testBit_common_iff hi, testBit_eq_last hi, testBit_shiftLeft] at h
  have hlen (n : ℕ) (hn : n ≤ 32) (single' : Bool) (hcount' : bitsBelow (b &&& f) n = single'.toNat)
      (hrest : ∀ k, n ≤ k → (b &&& f).getLsbD k = false) (hr : single' = r) :
      r = true ↔ bitsBelow (b &&& f) 32 = 1 := by
    rw [bitsBelow_eq hrest hn, hcount', hr]
    cases r <;> decide
  split_ifs at h with hle hbit hsingle hlast hlast
  · -- a second common bit
    have htwo : bitsBelow (b &&& f) (i + 1) = 2 := by
      rw [bitsBelow_succ, if_pos hbit, hcount, hsingle]
      rfl
    have hle32 := bitsBelow_le (w := b &&& f) (show i + 1 ≤ 32 by omega)
    rw [← Iter.done.inj h]
    exact iff_of_false (by decide) (by omega)
  · -- bit 31 is the first common one
    refine hlen (i + 1) (by omega) true ?_ (fun k hk => BitVec.getLsbD_of_ge _ k (by omega))
      (Iter.done.inj h)
    rw [bitsBelow_succ, if_pos hbit, hcount, Bool.eq_false_iff.2 hsingle]
    rfl
  · -- bit 31 is not common
    refine hlen (i + 1) (by omega) single ?_ (fun k hk => BitVec.getLsbD_of_ge _ k (by omega))
      (Iter.done.inj h)
    rw [bitsBelow_succ, if_neg hbit, hcount, Nat.add_zero]
  · -- one of the operands has no bit from here on
    refine hlen i (by omega) single hcount (fun k hk => ?_) (Iter.done.inj h)
    rw [BitVec.getLsbD_and]
    rcases not_and_or.1 hle with hb | hf
    · rw [getLsbD_of_lt hi hb k hk, Bool.false_and]
    · rw [getLsbD_of_lt hi hf k hk, Bool.and_false]

/-- The loop ends within its 32 iterations, and knows the number of common bits. -/
theorem loop_isSingleBit (bitmasks bitfield : BitVec 32) :
    loop (isSingleBitBody bitmasks bitfield) 32 (0x00000001, false) =
        some (isSingleBit bitmasks bitfield) ∧
      (isSingleBit bitmasks bitfield = true ↔ bitsBelow (bitmasks &&& bitfield) 32 = 1) := by
  have hinit : SingleInv (bitmasks &&& bitfield) (0x00000001, false) :=
    ⟨0, by decide, by decide, bitsBelow_zero⟩
  obtain ⟨r, hr, hiff⟩ := loop_of_variant (I := SingleInv (bitmasks &&& bitfield))
    (Q := fun r => r = true ↔ bitsBelow (bitmasks &&& bitfield) 32 = 1)
    (fun s => 31 - s.1.toNat.log2) SingleInv.next SingleInv.done hinit
    (show 31 - (1#32).toNat.log2 < 32 by decide)
  have hres : isSingleBit bitmasks bitfield = r := by rw [isSingleBit, hr, Option.getD_some]
  rw [hres]
  exact ⟨hr, hiff⟩

theorem isSingleBit_iff (bitmasks bitfield : BitVec 32) :
    isSingleBit bitmasks bitfield = true ↔ bitsBelow (bitmasks &&& bitfield) 32 = 1 :=
  (loop_isSingleBit bitmasks bitfield).2

theorem bitsBelow_eq_one_iff : bitsBelow w 32 = 1 ↔ ∃! i, w.getLsbD i = true := by
  rw [bitsBelow, Nat.count_eq_card_filter_range, Finset.card_eq_one]
  have hmem (i : ℕ) : i ∈ (Finset.range 32).filter (fun k => w.getLsbD k = true) ↔
      w.getLsbD i = true := by
    rw [Finset.mem_filter, Finset.mem_range, and_iff_right_of_imp BitVec.lt_of_getLsbD]
  constructor
  · rintro ⟨i, hi⟩
    refine ⟨i, (hmem i).1 (by rw [hi]; exact Finset.mem_singleton_self i), fun j hj => ?_⟩
    have hj' := (hmem j).2 hj
    rw [hi] at hj'
    exact Finset.mem_singleton.1 hj'
  · rintro ⟨i, hi, hunique⟩
    refine ⟨i, Finset.ext fun j => ?_⟩
    rw [hmem, Finset.mem_singleton]
    constructor
    · exact hunique j
    · rintro rfl
      exact hi

/-- **`IsSingleBit`.**  For every two words the loop ends, and it answers `true` exactly when one bit,
be it the last one, is set in both. -/
theorem isSingleBit_returns (bitmasks bitfield : BitVec 32) :
    Returns (isSingleBitBody bitmasks bitfield) (0x00000001, false) (isSingleBit bitmasks bitfield) ∧
      (isSingleBit bitmasks bitfield = true ↔ ∃! i, (bitmasks &&& bitfield).getLsbD i = true) := by
  obtain ⟨hloop, hiff⟩ := loop_isSingleBit bitmasks bitfield
  exact ⟨returns_of_loop hloop, hiff.trans bitsBelow_eq_one_iff⟩

theorem isSingleBit_twoPow {mask : BitVec 32} (hi : i < 32) (hmask : mask.getLsbD i = true) :
    isSingleBit (BitVec.twoPow 32 i) mask = true := by
  have hcommon : BitVec.twoPow 32 i &&& mask = BitVec.twoPow 32 i := by
    rw [BitVec.and_comm, BitVec.and_twoPow, if_pos hmask]
  have hbits (n : ℕ) : bitsBelow (BitVec.twoPow 32 i) n = if i < n then 1 else 0 := by
    induction n with
    | zero => rfl
    | succ n ih =>
      rw [bitsBelow_succ, ih, BitVec.getLsbD_twoPow]
      simp only [hi, decide_true, Bool.true_and, decide_eq_true_eq]
      split_ifs <;> omega
  rw [isSingleBit_iff, hcommon, hbits, if_pos hi]

end

end TrebleDoze.Bluetooth.Hidl
