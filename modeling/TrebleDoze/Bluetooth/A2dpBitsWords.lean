import TrebleDoze.Bluetooth.A2dpBits

/-!
# `A2dpBits` on machine words

`A2dpBits.h` reads a range as an `unsigned` and sets it from an `int`, bit by bit with shifts of these.

* `Word.toNat_getRange`, `Word.setRange_eq`, `Word.findActiveBit_eq`: on the ranges that a word has room
  for, the words compute what `A2dpBits` computes on numbers;
* `range_access`: what a range reads as after it has been set, what the other bits are then, and when
  `find_active_bit` finds which bit.
-/

namespace TrebleDoze.Bluetooth.A2dpBits

namespace Word

/-- `get` of a range, as an `unsigned`. -/
def getRange (range : Range) (data : List UInt8) : UInt32 :=
  (List.range range.len).foldl (fun v i =>
    v ||| (getBit (range.first + i) data).toUInt32 <<< UInt32.ofNat ((range.len - 1) - i)) 0

/-- `set` of a range, from an `int`. -/
def setRange (range : Range) (value : Int32) (data : List UInt8) : List UInt8 :=
  (List.range range.len).foldl (fun data i =>
    setBit (range.first + i) ((value >>> Int32.ofNat ((range.len - 1) - i)) &&& 1 ≠ 0) data) data

/-- `find_active_bit`. -/
def findActiveBit (range : Range) (data : List UInt8) : ℤ :=
  let v := getRange range data
  match (List.range range.len).find? fun i => (v >>> UInt32.ofNat i) &&& 1 ≠ 0 with
  | none => -1
  | some i => if v ^^^ (1 <<< UInt32.ofNat i) = 0 then (range.first + (range.len - 1) - i : ℕ) else -1

/-! ### The bits of words -/

section

variable {range : Range} {data : List UInt8} {k : ℕ}

theorem toNat_ofNat_mod (hk : k < 32) : (UInt32.ofNat k).toNat % 32 = k := by
  rw [UInt32.toNat_ofNat']
  omega

theorem and_one_ne_zero (x : BitVec 32) : x &&& 1#32 ≠ 0#32 ↔ x.toInt % 2 ≠ 0 := by
  have hx : (x &&& 1#32).toNat = x.toNat % 2 := by
    rw [BitVec.toNat_and]
    exact Nat.and_two_pow_sub_one_eq_mod x.toNat 1
  rw [ne_eq, ← BitVec.toNat_inj, hx, BitVec.toInt_eq_toNat_cond]
  simp only [BitVec.toNat_ofNat, Nat.zero_mod]
  split <;> omega

theorem shiftRight_and_one (value : Int32) (hk : k < 32) :
    (value >>> Int32.ofNat k) &&& 1 ≠ 0 ↔ (value.toInt >>> k) % 2 ≠ 0 := by
  have hsmod : ((Int32.ofNat k).toBitVec.smod 32).toNat = k := by
    rw [show (Int32.ofNat k).toBitVec = BitVec.ofNat 32 k from rfl]
    interval_cases k <;> rfl
  have hshift : (value >>> Int32.ofNat k).toBitVec.toInt = value.toInt >>> k := by
    rw [Int32.toBitVec_shiftRight, BitVec.sshiftRight_eq', BitVec.toInt_sshiftRight, hsmod]
    rfl
  rw [← hshift, ← and_one_ne_zero, ne_eq, ← Int32.toBitVec_inj, Int32.toBitVec_and]
  rfl

theorem toNat_bit_shiftLeft (b : Bool) (hk : k < 32) :
    (b.toUInt32 <<< UInt32.ofNat k).toNat = b.toNat <<< k := by
  have hb : b.toUInt32.toNat = b.toNat := by cases b <;> rfl
  have hlt : b.toNat <<< k < 2 ^ 32 := by
    rw [Nat.shiftLeft_eq]
    have hpow : 2 ^ k < 2 ^ 32 := Nat.pow_lt_pow_right (by decide) hk
    cases b <;> simp only [Bool.toNat_false, Bool.toNat_true] <;> omega
  rw [UInt32.toNat_shiftLeft, toNat_ofNat_mod hk, hb, Nat.mod_eq_of_lt hlt]

/-! ### The words and the numbers -/

theorem toNat_foldl_or (l : List ℕ) (bit : ℕ → Bool) (shift : ℕ → ℕ) (hs : ∀ i ∈ l, shift i < 32)
    (v : UInt32) :
    (l.foldl (fun v i => v ||| (bit i).toUInt32 <<< UInt32.ofNat (shift i)) v).toNat =
      l.foldl (fun v i => v ||| (bit i).toNat <<< shift i) v.toNat := by
  induction l generalizing v with
  | nil => rfl
  | cons i l ih =>
    rw [List.foldl_cons, List.foldl_cons, ih fun j hj => hs j (List.mem_cons_of_mem _ hj),
      UInt32.toNat_or, toNat_bit_shiftLeft _ (hs i List.mem_cons_self)]

theorem toNat_getRange (h : range.len ≤ 32) (data : List UInt8) :
    (getRange range data).toNat = A2dpBits.getRange range data := by
  refine toNat_foldl_or (List.range range.len) (fun i => getBit (range.first + i) data)
    (fun i => range.len - 1 - i) (fun i hi => ?_) 0
  have := List.mem_range.1 hi
  omega

theorem setRange_eq (h : range.len ≤ 32) (value : Int32) (data : List UInt8) :
    setRange range value data = A2dpBits.setRange range value.toInt data := by
  unfold setRange A2dpBits.setRange
  refine List.foldl_ext _ _ _ fun data' i hi => ?_
  have hlt : range.len - 1 - i < 32 := by
    have := List.mem_range.1 hi
    omega
  rw [decide_eq_decide.2 (shiftRight_and_one value hlt)]

theorem bit_test (v : UInt32) (hk : k < 32) :
    (v >>> UInt32.ofNat k) &&& 1 ≠ 0 ↔ (v.toNat >>> k) &&& 1 ≠ 0 := by
  rw [ne_eq, ← UInt32.toNat_inj, UInt32.toNat_and, UInt32.toNat_shiftRight, toNat_ofNat_mod hk]
  rfl

theorem xor_test (v : UInt32) (hk : k < 32) :
    v ^^^ (1 <<< UInt32.ofNat k) = 0 ↔ v.toNat ^^^ (1 <<< k) = 0 := by
  rw [← UInt32.toNat_inj, UInt32.toNat_xor]
  have h := toNat_bit_shiftLeft true hk
  rw [show true.toUInt32 = 1 from rfl, Bool.toNat_true] at h
  rw [h]
  rfl

theorem findActiveBit_eq (h : range.len ≤ 32) (data : List UInt8) :
    findActiveBit range data = (A2dpBits.findActiveBit range data).elim (-1) Nat.cast := by
  have hv := toNat_getRange h data
  have hfind : ((List.range range.len).find? fun i => (getRange range data >>> UInt32.ofNat i) &&& 1 ≠ 0) =
      (List.range range.len).find? fun i => (A2dpBits.getRange range data >>> i) &&& 1 ≠ 0 := by
    rw [← List.head?_filter, ← List.head?_filter]
    refine congrArg List.head? (List.filter_congr fun i hi => ?_)
    have hlt := List.mem_range.1 hi
    rw [← hv, decide_eq_decide.2 (bit_test _ (by omega))]
  unfold findActiveBit A2dpBits.findActiveBit
  simp only [hfind]
  cases hf : (List.range range.len).find? fun i => (A2dpBits.getRange range data >>> i) &&& 1 ≠ 0 with
  | none => rfl
  | some i =>
    have hi : i < range.len := List.mem_range.1 (List.mem_of_find?_eq_some hf)
    simp only
    rw [← hv]
    by_cases hx : getRange range data ^^^ (1 <<< UInt32.ofNat i) = 0
    · rw [if_pos hx, if_pos ((xor_test _ (by omega)).1 hx)]
      rfl
    · rw [if_neg hx, if_neg (mt (xor_test _ (by omega)).2 hx)]
      rfl

end

end Word

/-! ### Access to a range -/

section

variable {range : Range} {data : List UInt8}

theorem active_iff {bit : ℕ} : Active range data bit ↔
    bit ∈ range ∧ getBit bit data = true ∧ ∀ i ∈ range, getBit i data = true → i = bit := by
  constructor
  · rintro ⟨hm, hb⟩
    refine ⟨hm, by simpa using hb bit hm, fun i hi h => ?_⟩
    rw [hb i hi] at h
    exact of_decide_eq_true h
  · rintro ⟨hm, hset, honly⟩
    refine ⟨hm, fun i hi => ?_⟩
    by_cases he : i = bit
    · rw [he, hset, decide_eq_true rfl]
    · rw [decide_eq_false he, Bool.eq_false_iff]
      exact fun h => he (honly i hi h)

/-- No bit is active in a range just when none is set, or several are. -/
theorem not_active_iff : (¬ ∃ bit, Active range data bit) ↔
    (∀ i ∈ range, getBit i data = false) ∨
      ∃ i ∈ range, ∃ j ∈ range, i ≠ j ∧ getBit i data = true ∧ getBit j data = true := by
  constructor
  · intro hn
    by_cases hnone : ∀ i ∈ range, getBit i data = false
    · exact .inl hnone
    push Not at hnone
    obtain ⟨i, hi, hset⟩ := hnone
    have hset : getBit i data = true := by simpa using hset
    by_cases honly : ∀ j ∈ range, getBit j data = true → j = i
    · exact absurd ⟨i, active_iff.2 ⟨hi, hset, honly⟩⟩ hn
    push Not at honly
    obtain ⟨j, hj, hsetj, hne⟩ := honly
    exact .inr ⟨i, hi, j, hj, hne.symm, hset, hsetj⟩
  · rintro (hnone | ⟨i, hi, j, hj, hne, hseti, hsetj⟩) ⟨bit, hact⟩
    · obtain ⟨hm, hset, -⟩ := active_iff.1 hact
      rw [hnone bit hm] at hset
      exact Bool.false_ne_true hset
    · obtain ⟨-, -, honly⟩ := active_iff.1 hact
      exact hne ((honly i hi hseti).trans (honly j hj hsetj).symm)

end

/-- **Access to a range** of at most 31 bits that lies inside the data: it reads as the number it was set
to, modulo two to its length; the other bits, and the length of the data, are as before; and
`find_active_bit` finds the one bit that is set, or -1 when none or several are. -/
theorem range_access (range : Range) (data : List UInt8)
    (hin : range.first + range.len ≤ 8 * data.length) (hlen : range.len ≤ 31) :
    (∀ value : Int32,
      ((Word.getRange range (Word.setRange range value data)).toNat : ℤ) = value.toInt % 2 ^ range.len ∧
        (Word.setRange range value data).length = data.length ∧
        ∀ bit ∉ range, getBit bit (Word.setRange range value data) = getBit bit data) ∧
      (∀ bit : ℕ, Word.findActiveBit range data = bit ↔
        bit ∈ range ∧ getBit bit data = true ∧ ∀ i ∈ range, getBit i data = true → i = bit) ∧
      (Word.findActiveBit range data = -1 ↔
        (∀ i ∈ range, getBit i data = false) ∨
          ∃ i ∈ range, ∃ j ∈ range, i ≠ j ∧ getBit i data = true ∧ getBit j data = true) := by
  have hword : range.len ≤ 32 := by omega
  refine ⟨fun value => ⟨?_, ?_, fun bit hb => ?_⟩, fun bit => ?_, ?_⟩
  · rw [Word.toNat_getRange hword, Word.setRange_eq hword, getRange_setRange hin]
    exact Int.toNat_of_nonneg (Int.emod_nonneg _ (by positivity))
  · rw [Word.setRange_eq hword, length_setRange]
  · rw [Word.setRange_eq hword, getBit_setRange hin, if_neg hb]
  · rw [← active_iff, ← findActiveBit_eq_some_iff, Word.findActiveBit_eq hword]
    cases findActiveBit range data with
    | none => simp
    | some b => simp
  · rw [← not_active_iff, Word.findActiveBit_eq hword]
    cases hf : findActiveBit range data with
    | none =>
      refine iff_of_true rfl fun ⟨bit, hact⟩ => ?_
      rw [findActiveBit_eq hact] at hf
      cases hf
    | some b =>
      refine iff_of_false ?_ fun hn => hn ⟨b, active_of_findActiveBit hf⟩
      simp

/-- Five bits across the border of two bytes, set from a negative number. -/
theorem range_access_border :
    ((Word.getRange ⟨6, 5⟩ (Word.setRange ⟨6, 5⟩ (-3) [255, 0])).toNat : ℤ) = 29 :=
  ((range_access ⟨6, 5⟩ [255, 0] (by decide) (by decide)).1 (-3)).1

end TrebleDoze.Bluetooth.A2dpBits
