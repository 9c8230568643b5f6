import Mathlib.Data.Nat.Bitwise
import Mathlib.Tactic.Common
import Mathlib.Tactic.IntervalCases
import Mathlib.Tactic.Positivity
import Mathlib.Tactic.Ring
import Mathlib.Tactic.Zify

/-!
# `A2dpBits`

The capabilities and configurations of A2DP codecs are vectors of bytes; `hal/A2dpBits.h` looks at them
as bits, numbered from the most significant bit of the first byte, and at ranges of bits as numbers.

* `getBit_setBit`, `getBit_setRange`: what a bit is after a bit or a range has been set;
* `getRange_setRange`: a range reads as the number it was set to, as far as it has room for it;
* `findActiveBit_eq_some_iff`: `find_active_bit` finds the only bit that is set in a range.
-/

namespace TrebleDoze.Bluetooth.A2dpBits

/-- `Range`: its first bit and its length. -/
structure Range where
  first : ℕ
  len : ℕ
  deriving DecidableEq, Repr

/-- The range from `first` to `last`. -/
def Range.upTo (first last : ℕ) : Range := ⟨first, last - first + 1⟩

/-- The bits of the range. -/
instance : Membership ℕ Range := ⟨fun r i => r.first ≤ i ∧ i < r.first + r.len⟩

instance (r : Range) (i : ℕ) : Decidable (i ∈ r) :=
  inferInstanceAs (Decidable (r.first ≤ i ∧ i < r.first + r.len))

/-- Two ranges without a bit in common. -/
def Range.Disjoint (r r' : Range) : Prop := r.first + r.len ≤ r'.first ∨ r'.first + r'.len ≤ r.first

instance (r r' : Range) : Decidable (r.Disjoint r') :=
  inferInstanceAs (Decidable (r.first + r.len ≤ r'.first ∨ r'.first + r'.len ≤ r.first))

theorem Range.mem_iff {r : Range} {i : ℕ} : i ∈ r ↔ r.first ≤ i ∧ i < r.first + r.len := Iff.rfl

theorem Range.Disjoint.symm {r r' : Range} (h : r.Disjoint r') : r'.Disjoint r := Or.symm h

theorem Range.Disjoint.not_mem {r r' : Range} (h : r.Disjoint r') {i : ℕ} (hi : i ∈ r) : i ∉ r' := by
  intro hi'
  rw [Range.mem_iff] at hi hi'
  rcases h with h | h <;> omega

/-- `get` of a bit. -/
def getBit (bit : ℕ) (data : List UInt8) : Bool :=
  ((data.getD (bit >>> 3) 0).toNat >>> (7 - (bit &&& 7))) &&& 1 ≠ 0

/-- `get` of a range. -/
def getRange (range : Range) (data : List UInt8) : ℕ :=
  (List.range range.len).foldl
    (fun v i => v ||| (getBit (range.first + i) data).toNat <<< ((range.len - 1) - i)) 0

/-- `set` of a bit. -/
def setBit (bit : ℕ) (value : Bool) (data : List UInt8) : List UInt8 :=
  let m : UInt8 := 1 <<< UInt8.ofNat (7 - (bit &&& 7))
  data.modify (bit >>> 3) fun byte => if value then byte ||| m else byte &&& ~~~m

/-- `set` of a range. -/
def setRange (range : Range) (value : ℤ) (data : List UInt8) : List UInt8 :=
  (List.range range.len).foldl
    (fun data i => setBit (range.first + i) ((value >>> ((range.len - 1) - i)) % 2 ≠ 0) data) data

/-- `find_active_bit`; `none` stands for -1. -/
def findActiveBit (range : Range) (data : List UInt8) : Option ℕ :=
  let v := getRange range data
  match (List.range range.len).find? fun i => (v >>> i) &&& 1 ≠ 0 with
  | none => none
  | some i => if v ^^^ (1 <<< i) = 0 then some (range.first + (range.len - 1) - i) else none

/-! ### Bits -/

section

variable {data : List UInt8} {bit bit' : ℕ} {value : Bool}

theorem getBit_eq_testBit (bit : ℕ) (data : List UInt8) :
    getBit bit data = (data.getD (bit / 8) 0).toNat.testBit (7 - bit % 8) := by
  have hand : bit &&& 7 = bit % 8 := Nat.and_two_pow_sub_one_eq_mod bit 3
  have hdiv : bit >>> 3 = bit / 8 := Nat.shiftRight_eq_div_pow bit 3
  unfold getBit Nat.testBit
  rw [hand, hdiv, Nat.and_comm, Bool.eq_iff_iff, decide_eq_true_iff, bne_iff_ne]

@[simp] theorem length_setBit : (setBit bit value data).length = data.length := by simp [setBit]

theorem testBit_mask {k : ℕ} (hk : k < 8) (j : ℕ) :
    ((1 : UInt8) <<< UInt8.ofNat k).toNat.testBit j = decide (k = j) := by
  have h : ((1 : UInt8) <<< UInt8.ofNat k).toNat = 2 ^ k := by
    interval_cases k <;> rfl
  rw [h, Nat.testBit_two_pow]

theorem testBit_not (b : UInt8) {j : ℕ} (hj : j < 8) :
    (~~~b).toNat.testBit j = !b.toNat.testBit j := by
  have hb : (~~~b).toNat = 2 ^ 8 - (b.toNat + 1) := by
    rw [UInt8.toNat_not]
    have := b.toNat_lt
    simp only [UInt8.size]
    omega
  rw [hb, Nat.testBit_two_pow_sub_succ b.toNat_lt]
  simp [hj]

theorem testBit_set (b : UInt8) {j k : ℕ} (hj : j < 8) (hk : k < 8) :
    (if value then b ||| 1 <<< UInt8.ofNat k else b &&& ~~~(1 <<< UInt8.ofNat k)).toNat.testBit j =
      if k = j then value else b.toNat.testBit j := by
  cases value with
  | true =>
    rw [if_pos rfl, UInt8.toNat_or, Nat.testBit_or, testBit_mask hk]
    by_cases h : k = j <;> simp [h]
  | false =>
    rw [if_neg Bool.false_ne_true, UInt8.toNat_and, Nat.testBit_and, testBit_not _ hj, testBit_mask hk]
    by_cases h : k = j <;> simp [h]

theorem getBit_setBit (h : bit / 8 < data.length) :
    getBit bit' (setBit bit value data) = if bit' = bit then value else getBit bit' data := by
  have hand : bit &&& 7 = bit % 8 := Nat.and_two_pow_sub_one_eq_mod bit 3
  have hdiv : bit >>> 3 = bit / 8 := Nat.shiftRight_eq_div_pow bit 3
  have hk : 7 - bit % 8 < 8 := by omega
  have hj : 7 - bit' % 8 < 8 := by omega
  rw [getBit_eq_testBit, getBit_eq_testBit]
  unfold setBit
  rw [hand, hdiv, List.getD_eq_getElem?_getD, List.getD_eq_getElem?_getD, List.getElem?_modify]
  by_cases hb : bit / 8 = bit' / 8
  · have hd : data[bit' / 8]? = some data[bit' / 8] := List.getElem?_eq_getElem (hb ▸ h)
    simp only [hb, if_true, hd, Option.map_eq_map, Option.map_some, Option.getD_some]
    rw [testBit_set _ hj hk]
    by_cases he : bit' = bit
    · rw [if_pos he, if_pos (by rw [he])]
    · rw [if_neg he, if_neg (by omega)]
  · have he : bit' ≠ bit := by rintro rfl; exact hb rfl
    simp only [if_neg hb, if_neg he, Option.map_eq_map, Option.map_id']

end

/-! ### Ranges -/

section

variable {range : Range} {data : List UInt8} {bit : ℕ} {value : ℤ}

theorem testBit_toNat (b : Bool) (j : ℕ) : b.toNat.testBit j = (decide (j = 0) && b) := by
  cases b with
  | false => simp
  | true => cases j <;> simp [Nat.testBit_succ]

/-- The first `n` bits of a range, as bits of the number they make up. -/
theorem testBit_foldl_getBit (first k n : ℕ) (hn : n ≤ k + 1) (j : ℕ) :
    ((List.range n).foldl (fun v i => v ||| (getBit (first + i) data).toNat <<< (k - i)) 0).testBit j =
      (decide (j ≤ k ∧ k < n + j) && getBit (first + (k - j)) data) := by
  induction n with
  | zero =>
    simp
  | succ n ih =>
    rw [List.range_succ, List.foldl_append, List.foldl_cons, List.foldl_nil, Nat.testBit_or,
      ih (by omega), Nat.testBit_shiftLeft, testBit_toNat]
    by_cases hj : j = k - n
    · have h2 : j ≤ k ∧ k < n + 1 + j := by omega
      have h3 : k - j = n := by omega
      simp [h2, h3, ← hj]
    · have h1 : ¬ (k - n ≤ j ∧ j - (k - n) = 0) := by omega
      have h2 : (j ≤ k ∧ k < n + j) ↔ (j ≤ k ∧ k < n + 1 + j) := by omega
      rw [← Bool.and_assoc, ← Bool.decide_and, decide_eq_false h1, Bool.false_and, Bool.or_false]
      simp only [h2]

theorem testBit_eq (v k : ℕ) : decide ((v >>> k) &&& 1 ≠ 0) = v.testBit k := by
  unfold Nat.testBit
  rw [Nat.and_comm, Bool.eq_iff_iff, decide_eq_true_iff, bne_iff_ne]

theorem testBit_getRange (range : Range) (data : List UInt8) (j : ℕ) :
    (getRange range data).testBit j =
      (decide (j < range.len) && getBit (range.first + (range.len - 1 - j)) data) := by
  unfold getRange
  rcases Nat.eq_zero_or_pos range.len with h | h
  · simp [h]
  · rw [testBit_foldl_getBit range.first (range.len - 1) range.len (by omega)]
    have hiff : (j ≤ range.len - 1 ∧ range.len - 1 < range.len + j) ↔ j < range.len := by omega
    simp only [hiff]

theorem length_foldl_setBit (l : List ℕ) (bit : ℕ → ℕ) (value : ℕ → Bool) (data : List UInt8) :
    (l.foldl (fun data i => setBit (bit i) (value i) data) data).length = data.length := by
  induction l generalizing data with
  | nil => rfl
  | cons i l ih => rw [List.foldl_cons, ih, length_setBit]

@[simp] theorem length_setRange : (setRange range value data).length = data.length :=
  length_foldl_setBit _ _ _ _

theorem getBit_foldl_setBit (first n : ℕ) (v : ℕ → Bool) (h : first + n ≤ 8 * data.length) (bit : ℕ) :
    getBit bit ((List.range n).foldl (fun data i => setBit (first + i) (v i) data) data) =
      if first ≤ bit ∧ bit < first + n then v (bit - first) else getBit bit data := by
  induction n with
  | zero =>
    rw [if_neg (by omega)]
    rfl
  | succ n ih =>
    rw [List.range_succ, List.foldl_append, List.foldl_cons, List.foldl_nil,
      getBit_setBit (by rw [length_foldl_setBit]; omega), ih (by omega)]
    by_cases hb : bit = first + n
    · rw [if_pos hb, if_pos (by omega)]
      congr 1
      omega
    · have hiff : (first ≤ bit ∧ bit < first + n) ↔ (first ≤ bit ∧ bit < first + (n + 1)) := by omega
      rw [if_neg hb]
      simp only [hiff]

theorem testBit_emod_two_pow (value : ℤ) {k len : ℕ} (h : k < len) :
    (value % 2 ^ len).toNat.testBit k = decide ((value >>> k) % 2 ≠ 0) := by
  obtain ⟨d, rfl⟩ : ∃ d, len = k + 1 + d := ⟨len - (k + 1), by omega⟩
  have hpow : (2 : ℤ) ^ (k + 1 + d) = 2 ^ k * (2 * 2 ^ d) := by ring
  have hpos : (0 : ℤ) < 2 ^ k := by positivity
  have hmod : ((value % 2 ^ (k + 1 + d)).toNat : ℤ) = value % 2 ^ (k + 1 + d) :=
    Int.toNat_of_nonneg (Int.emod_nonneg value (by positivity))
  -- the bits above `len` are a multiple of two after the shift
  have hdiv : (value % 2 ^ (k + 1 + d)) / 2 ^ k % 2 = value / 2 ^ k % 2 := by
    have hsplit : value % 2 ^ (k + 1 + d) =
        value + 2 ^ k * (2 * (2 ^ d * -(value / 2 ^ (k + 1 + d)))) := by
      rw [Int.emod_def, hpow]
      ring
    rw [hsplit, Int.add_mul_ediv_left _ _ hpos.ne']
    omega
  rw [Nat.testBit_eq_decide_div_mod_eq, decide_eq_decide, Int.shiftRight_eq_div_pow]
  zify
  rw [hmod, hdiv]
  omega

/-- A bit of a range is the bit of the number, the first one its most significant. -/
theorem getBit_setRange (h : range.first + range.len ≤ 8 * data.length) (bit : ℕ) :
    getBit bit (setRange range value data) =
      if bit ∈ range then (value % 2 ^ range.len).toNat.testBit (range.len - 1 - (bit - range.first))
      else getBit bit data := by
  unfold setRange
  rw [getBit_foldl_setBit range.first range.len _ h]
  by_cases hb : bit ∈ range
  · have hlt : range.len - 1 - (bit - range.first) < range.len := by
      have := Range.mem_iff.1 hb
      omega
    rw [if_pos hb, if_pos (Range.mem_iff.1 hb), testBit_emod_two_pow value hlt]
  · rw [if_neg hb, if_neg fun h => hb (Range.mem_iff.2 h)]

/-- A range reads as the number it was set to, as far as it has room for it. -/
theorem getRange_setRange (h : range.first + range.len ≤ 8 * data.length) :
    getRange range (setRange range value data) = (value % 2 ^ range.len).toNat := by
  have hlt : (value % 2 ^ range.len).toNat < 2 ^ range.len := by
    have hpos : (0 : ℤ) < 2 ^ range.len := by positivity
    zify
    rw [Int.toNat_of_nonneg (Int.emod_nonneg value hpos.ne')]
    exact Int.emod_lt_of_pos value hpos
  apply Nat.eq_of_testBit_eq
  intro j
  rw [testBit_getRange, getBit_setRange h]
  by_cases hj : j < range.len
  · rw [if_pos ⟨by omega, by omega⟩]
    simp only [hj, decide_true, Bool.true_and]
    congr 1
    omega
  · have hle : 2 ^ range.len ≤ 2 ^ j := Nat.pow_le_pow_right (by omega) (by omega)
    rw [Nat.testBit_eq_false_of_lt (hlt.trans_le hle)]
    simp [hj]

theorem getRange_congr {data' : List UInt8} (h : ∀ i ∈ range, getBit i data' = getBit i data) :
    getRange range data' = getRange range data := by
  apply Nat.eq_of_testBit_eq
  intro j
  rw [testBit_getRange, testBit_getRange]
  by_cases hj : j < range.len
  · rw [h _ ⟨by omega, by omega⟩]
  · simp [hj]

theorem getRange_setRange_of_disjoint {range' : Range} (h : range'.first + range'.len ≤ 8 * data.length)
    (hd : range.Disjoint range') : getRange range (setRange range' value data) = getRange range data := by
  refine getRange_congr fun i hi => ?_
  rw [getBit_setRange h, if_neg (hd.not_mem hi)]

/-- `bit` is the bit of the range that is set, and the only one. -/
def Active (range : Range) (data : List UInt8) (bit : ℕ) : Prop :=
  bit ∈ range ∧ ∀ i ∈ range, getBit i data = decide (i = bit)

theorem Active.setRange {range' : Range} (ha : Active range data bit)
    (hl : range'.first + range'.len ≤ 8 * data.length) (hd : range.Disjoint range') :
    Active range (setRange range' value data) bit := by
  refine ⟨ha.1, fun i hi => ?_⟩
  rw [getBit_setRange hl, if_neg (hd.not_mem hi)]
  exact ha.2 i hi

theorem findActiveBit_eq (h : Active range data bit) : findActiveBit range data = some bit := by
  obtain ⟨⟨h1, h2⟩, hb⟩ := h
  -- the number that the range reads as has one bit
  have hv : getRange range data = 2 ^ (range.len - 1 - (bit - range.first)) := by
    apply Nat.eq_of_testBit_eq
    intro j
    rw [testBit_getRange, Nat.testBit_two_pow]
    by_cases hj : j < range.len
    · rw [hb _ ⟨by omega, by omega⟩]
      simp only [hj, decide_true, Bool.true_and, decide_eq_decide]
      omega
    · simp only [hj, decide_false, Bool.false_and, false_eq_decide_iff]
      omega
  have hfind : ((List.range range.len).find? fun i => (getRange range data >>> i) &&& 1 ≠ 0) =
      some (range.len - 1 - (bit - range.first)) := by
    rw [List.find?_range_eq_some]
    simp only [testBit_eq, hv, Nat.testBit_two_pow, decide_true, List.mem_range, true_and,
      Bool.not_eq_true', decide_eq_false_iff_not]
    exact ⟨by omega, fun j hj => by omega⟩
  unfold findActiveBit
  simp only [hfind]
  rw [hv, Nat.one_shiftLeft, Nat.xor_self, if_pos rfl]
  congr 1
  omega

theorem active_of_findActiveBit (h : findActiveBit range data = some bit) : Active range data bit := by
  unfold findActiveBit at h
  simp only at h
  split at h
  · cases h
  rename_i k hfind
  split_ifs at h with hv
  obtain rfl := Option.some.inj h
  have hk : k < range.len := List.mem_range.1 (List.mem_of_find?_eq_some hfind)
  -- the number that the range reads as has one bit
  rw [Nat.xor_eq_zero_iff, Nat.one_shiftLeft] at hv
  refine ⟨⟨by omega, by omega⟩, fun i hi => ?_⟩
  obtain ⟨h1, h2⟩ := Range.mem_iff.1 hi
  have hbit := testBit_getRange range data (range.len - 1 - (i - range.first))
  have hlt : range.len - 1 - (i - range.first) < range.len := by omega
  have hi' : range.first + (range.len - 1 - (range.len - 1 - (i - range.first))) = i := by omega
  rw [hv, Nat.testBit_two_pow, decide_eq_true hlt, Bool.true_and, hi'] at hbit
  rw [← hbit, decide_eq_decide]
  omega

theorem findActiveBit_eq_some_iff : findActiveBit range data = some bit ↔ Active range data bit :=
  ⟨active_of_findActiveBit, findActiveBit_eq⟩

end

end TrebleDoze.Bluetooth.A2dpBits
