import Mathlib.Algebra.Order.Ring.Nat
import Mathlib.Data.List.Basic
import Mathlib.Tactic.Common

/-!
# Little-endian numbers and the fields of a record

`leNat bs` is the number that the bytes `bs` spell, least significant byte first, and `leBytes w n`
the `w` bytes of `n`. `leField off w bs` is the field of `w` bytes at the offset `off` of a record, and
`leSetField off w n bs` the record with `n` in that field.

* `leNat_leBytes`: the bytes of a number that fits spell it;
* `leField_append`, `leField_zero`: the fields of a record written one after the other;
* `leField_leSetField`, `leField_leSetField_of_disjoint`: the field that is set, and the others.
-/

namespace TrebleDoze.Lib

/-- The number spelled by `bs`. -/
def leNat : List UInt8 → ℕ
  | [] => 0
  | b :: bs => b.toNat + 256 * leNat bs

/-- The `w` low bytes of `n`. -/
def leBytes : ℕ → ℕ → List UInt8
  | 0, _ => []
  | w + 1, n => UInt8.ofNat n :: leBytes w (n / 256)

/-- The number in the `w` bytes from the offset `off` on. -/
def leField (off w : ℕ) (bs : List UInt8) : ℕ := leNat ((bs.drop off).take w)

/-- The record with `n` in the `w` bytes from the offset `off` on. -/
def leSetField (off w n : ℕ) (bs : List UInt8) : List UInt8 :=
  bs.take off ++ (leBytes w n ++ bs.drop (off + w))

@[simp] theorem length_leBytes (w n : ℕ) : (leBytes w n).length = w := by
  induction w generalizing n with
  | zero => rfl
  | succ w ih => simp [leBytes, ih]

theorem leNat_leBytes {w n : ℕ} (h : n < 256 ^ w) : leNat (leBytes w n) = n := by
  induction w generalizing n with
  | zero =>
    have hn : n = 0 := by simpa using h
    simp [leBytes, leNat, hn]
  | succ w ih =>
    have hq : n / 256 < 256 ^ w := by
      rw [pow_succ] at h
      omega
    show (UInt8.ofNat n).toNat + 256 * leNat (leBytes w (n / 256)) = n
    rw [ih hq, UInt8.toNat_ofNat']
    omega

section

variable {off w v n : ℕ} {bs : List UInt8}

theorem leField_append (h : v ≤ off) : leField off w (leBytes v n ++ bs) = leField (off - v) w bs := by
  have hfirst : (leBytes v n).drop off = [] := List.drop_of_length_le (by simpa using h)
  unfold leField
  rw [List.drop_append, hfirst, length_leBytes, List.nil_append]

theorem leField_zero (h : n < 256 ^ w) : leField 0 w (leBytes w n ++ bs) = n := by
  have htake : (leBytes w n ++ bs).take w = leBytes w n := List.take_left' (length_leBytes w n)
  unfold leField
  rw [List.drop_zero, htake, leNat_leBytes h]

end

/-! ### Setting a field -/

section

variable {off w n i m off' w' : ℕ} {bs xs ys : List UInt8}

theorem leField_congr (h : ∀ i, off ≤ i → i < off + w → xs[i]? = ys[i]?) :
    leField off w xs = leField off w ys := by
  unfold leField
  congr 1
  refine List.ext_getElem? fun j => ?_
  rw [List.getElem?_take, List.getElem?_take]
  split
  · rw [List.getElem?_drop, List.getElem?_drop]
    exact h (off + j) (by omega) (by omega)
  · rfl

theorem length_leSetField (h : off + w ≤ bs.length) : (leSetField off w n bs).length = bs.length := by
  simp only [leSetField, List.length_append, List.length_take, length_leBytes, List.length_drop]
  omega

theorem getElem?_leSetField_of_outside (hlen : off + w ≤ bs.length) (h : i < off ∨ off + w ≤ i) :
    (leSetField off w n bs)[i]? = bs[i]? := by
  have htake : (bs.take off).length = off := by
    rw [List.length_take]
    omega
  unfold leSetField
  rcases h with h | h
  · rw [List.getElem?_append_left (by omega), List.getElem?_take_of_lt h]
  · rw [List.getElem?_append_right (by omega), List.getElem?_append_right (by simp; omega),
      List.getElem?_drop, htake, length_leBytes]
    congr 1
    omega

theorem drop_leSetField (hlen : off + w ≤ bs.length) (h : off + w ≤ m) :
    (leSetField off w n bs).drop m = bs.drop m := by
  refine List.ext_getElem? fun j => ?_
  rw [List.getElem?_drop, List.getElem?_drop]
  exact getElem?_leSetField_of_outside hlen (.inr (by omega))

theorem leField_leSetField (hlen : off + w ≤ bs.length) (h : n < 256 ^ w) :
    leField off w (leSetField off w n bs) = n := by
  have htake : (bs.take off).length = off := by
    rw [List.length_take]
    omega
  have hdrop : (leSetField off w n bs).drop off = leBytes w n ++ bs.drop (off + w) := by
    exact List.drop_left' htake
  rw [leField, hdrop, List.take_left' (length_leBytes w n), leNat_leBytes h]

theorem leField_leSetField_of_disjoint (hlen : off + w ≤ bs.length)
    (h : off' + w' ≤ off ∨ off + w ≤ off') :
    leField off' w' (leSetField off w n bs) = leField off' w' bs :=
  leField_congr fun _ _ _ => getElem?_leSetField_of_outside hlen (by omega)

theorem leField_take (h : off + w ≤ m) : leField off w (bs.take m) = leField off w bs :=
  leField_congr fun _ _ hi => List.getElem?_take_of_lt (by omega)

end

end TrebleDoze.Lib
