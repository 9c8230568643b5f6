import Mathlib.Data.Nat.Bitwise
import Mathlib.Tactic.Common
import Mathlib.Tactic.Ring

/-!
# Pages

Addresses of 64 bits, rounded to pages by masking; a page has a power of two of bytes.

* `roundDown`, `toNat_roundDown`: the start of the page of an address;
* `PageRange`: a range of whole pages, and no more than it takes, around a range of bytes;
* `pageRange`: the range that is computed by masking the start and the end.
-/

namespace TrebleDoze.Lib

/-- `address & ~(pageSize - 1)`. -/
def roundDown (pageSize address : UInt64) : UInt64 := address &&& ~~~(pageSize - 1)

section

variable {pageSize : UInt64} {k : ℕ}

theorem and_not_low {n a : ℕ} (ha : a < 2 ^ n) (hk : k ≤ n) :
    a &&& (2 ^ n - 2 ^ k) = a - a % 2 ^ k := by
  have hlow : a - a % 2 ^ k = (a >>> k) <<< k := by
    rw [Nat.shiftRight_eq_div_pow, Nat.shiftLeft_eq, Nat.div_mul_self_eq_mod_sub_self]
  have hmask : 2 ^ n - 2 ^ k = (2 ^ (n - k) - 1) <<< k := by
    rw [Nat.shiftLeft_eq, Nat.sub_mul, one_mul, ← pow_add, Nat.sub_add_cancel hk]
  rw [hlow, hmask]
  apply Nat.eq_of_testBit_eq
  intro i
  rw [Nat.testBit_and, Nat.testBit_shiftLeft, Nat.testBit_shiftLeft, Nat.testBit_shiftRight,
    Nat.testBit_two_pow_sub_one]
  by_cases hi : k ≤ i
  · have hadd : k + (i - k) = i := by omega
    by_cases hn : i < n
    · simp [hi, hadd, show i - k < n - k by omega]
    · have hfalse : a.testBit i = false :=
        Nat.testBit_eq_false_of_lt (ha.trans_le (Nat.pow_le_pow_right (by decide) (by omega)))
      simp [hadd, hfalse]
  · simp [hi]

theorem toNat_roundDown (hp : pageSize.toNat = 2 ^ k) (address : UInt64) :
    (roundDown pageSize address).toNat = address.toNat - address.toNat % 2 ^ k := by
  have hlt := pageSize.toNat_lt
  have hk : k < 64 := by
    rw [hp] at hlt
    exact (Nat.pow_lt_pow_iff_right (by decide)).1 hlt
  have hpos : 0 < 2 ^ k := Nat.two_pow_pos k
  have hmask : (~~~(pageSize - 1)).toNat = 2 ^ 64 - 2 ^ k := by
    rw [UInt64.toNat_not, UInt64.toNat_sub_of_le _ _ (by rw [UInt64.le_iff_toNat_le, hp]; exact hpos), hp]
    simp only [UInt64.size, UInt64.toNat_one]
    omega
  rw [roundDown, UInt64.toNat_and, hmask, and_not_low address.toNat_lt hk.le]

end

/-- The range is made of whole pages, covers the bytes, and has no page without one of them. -/
structure PageRange (pageSize start length : ℕ) (address count : ℕ) : Prop where
  start_dvd : pageSize ∣ start
  length_dvd : pageSize ∣ length
  start_le : start ≤ address
  le_end : address + count ≤ start + length
  start_tight : address < start + pageSize
  end_tight : start + length < address + count + pageSize

section

variable {pageSize address count : UInt64} {k : ℕ}

/-- The end of the page of the last byte, which may be the end of the address space. -/
theorem toNat_roundDown_end (hp : pageSize.toNat = 2 ^ k)
    (hfit : address.toNat + count.toNat ≤ UInt64.size) :
    ∃ stop, (roundDown pageSize (address + count + pageSize - 1)).toNat = stop % UInt64.size ∧
      pageSize.toNat ∣ stop ∧ address.toNat + count.toNat ≤ stop ∧
        stop < address.toNat + count.toNat + pageSize.toNat := by
  have hlt := pageSize.toNat_lt
  have hpos : 0 < pageSize.toNat := hp ▸ Nat.two_pow_pos k
  have hdvd : pageSize.toNat ∣ UInt64.size := by
    have hk : k < 64 := by
      rw [hp] at hlt
      exact (Nat.pow_lt_pow_iff_right (by decide)).1 hlt
    exact hp ▸ Nat.pow_dvd_pow 2 hk.le
  have hword : (address + count + pageSize - 1).toNat =
      (address.toNat + count.toNat + pageSize.toNat - 1) % UInt64.size := by
    rw [UInt64.toNat_sub, UInt64.toNat_add, UInt64.toNat_add, UInt64.toNat_one]
    simp only [UInt64.size]
    omega
  rw [toNat_roundDown hp, hword, ← hp]
  generalize hlast : address.toNat + count.toNat + pageSize.toNat - 1 = last
  have hmod := Nat.mod_lt last hpos
  refine ⟨last - last % pageSize.toNat, ?_, Nat.dvd_sub_mod last, by omega, by omega⟩
  rw [Nat.mod_mod_of_dvd last hdvd]
  rcases Nat.lt_or_ge last UInt64.size with hin | hout
  · rw [Nat.mod_eq_of_lt hin]
    exact (Nat.mod_eq_of_lt ((Nat.sub_le _ _).trans_lt hin)).symm
  · -- the page ends with the address space
    obtain ⟨r, rfl⟩ := Nat.exists_eq_add_of_le hout
    have hr : r < pageSize.toNat := by omega
    have hrmod : (UInt64.size + r) % pageSize.toNat = r := by
      rw [Nat.add_mod, Nat.mod_eq_zero_of_dvd hdvd, Nat.zero_add, Nat.mod_mod, Nat.mod_eq_of_lt hr]
    have hsize : (UInt64.size + r) % UInt64.size = r := by
      rw [Nat.add_mod_left, Nat.mod_eq_of_lt (by simp only [UInt64.size]; omega)]
    rw [hrmod, hsize, Nat.add_sub_cancel, Nat.mod_self, Nat.sub_self]

/-- The range from the page of the first byte to the end of the page of the last one. -/
theorem pageRange (hp : pageSize.toNat = 2 ^ k) (hfit : address.toNat + count.toNat ≤ UInt64.size)
    (hsmall : count.toNat + 2 * pageSize.toNat ≤ UInt64.size) :
    PageRange pageSize.toNat (roundDown pageSize address).toNat
      (roundDown pageSize (address + count + pageSize - 1) - roundDown pageSize address).toNat
      address.toNat count.toNat := by
  have hpos : 0 < pageSize.toNat := hp ▸ Nat.two_pow_pos k
  have hmod := Nat.mod_lt address.toNat hpos
  have hstart := toNat_roundDown hp address
  rw [← hp] at hstart
  have hdvd : pageSize.toNat ∣ (roundDown pageSize address).toNat := hstart ▸ Nat.dvd_sub_mod _
  obtain ⟨stop, hstop, hsdvd, hge, hlt⟩ := toNat_roundDown_end hp hfit
  have hlength : (roundDown pageSize (address + count + pageSize - 1) -
      roundDown pageSize address).toNat = stop - (roundDown pageSize address).toNat := by
    rw [UInt64.toNat_sub, hstop]
    have := (roundDown pageSize address).toNat_lt
    simp only [UInt64.size] at hsmall ⊢
    omega
  have hle : (roundDown pageSize address).toNat ≤ address.toNat := by omega
  refine ⟨hdvd, hlength ▸ Nat.dvd_sub hsdvd hdvd, hle, ?_, by omega, ?_⟩
  · rw [hlength]
    omega
  · rw [hlength]
    omega

end

end TrebleDoze.Lib
