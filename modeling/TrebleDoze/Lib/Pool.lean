import Mathlib.Data.List.Nodup
import Mathlib.Data.List.Perm.Subperm
import Mathlib.Data.List.Range
import Mathlib.Tactic.Common

/-!
# Numbers handed out from a window

A pool hands out the numbers of the window `[base, base + n)`, the first one that is free each time.

* `firstFree base n ids`: the number handed out next when `ids` are taken;
* `Within.append_firstFree`, `Within.filter`: the numbers taken stay distinct numbers of the window;
* `firstFree_eq_none_iff`: the pool is exhausted exactly when all `n` numbers are taken.
-/

namespace TrebleDoze.Lib

/-- The first number of the window that is not taken. -/
def firstFree (base n : ℕ) (ids : List ℕ) : Option ℕ :=
  ((List.range n).find? fun i => !(ids.any fun id => id == base + i)).map (base + ·)

/-- Distinct numbers of the window. -/
structure Within (base n : ℕ) (ids : List ℕ) : Prop where
  nodup : ids.Nodup
  lower : ∀ id ∈ ids, base ≤ id
  upper : ∀ id ∈ ids, id < base + n

variable {base n id : ℕ} {ids : List ℕ}

theorem Within.nil : Within base n [] := ⟨List.nodup_nil, by simp, by simp⟩

theorem firstFree_eq_some (h : firstFree base n ids = some id) :
    id ∉ ids ∧ base ≤ id ∧ id < base + n := by
  obtain ⟨i, hi, rfl⟩ := Option.map_eq_some_iff.1 h
  have hlt : i < n := List.mem_range.1 (List.mem_of_find?_eq_some hi)
  have hfree := List.find?_some hi
  refine ⟨fun hm => ?_, by omega, by omega⟩
  simp only [Bool.not_eq_true', List.any_eq_false, beq_iff_eq] at hfree
  exact hfree _ hm rfl

theorem mem_of_firstFree_eq_none (h : firstFree base n ids = none) {i : ℕ} (hi : i < n) :
    base + i ∈ ids := by
  have hnone := List.find?_eq_none.1 (Option.map_eq_none_iff.1 h) i (List.mem_range.2 hi)
  simpa using hnone

theorem Within.append_firstFree (h : Within base n ids) (hf : firstFree base n ids = some id) :
    Within base n (ids ++ [id]) := by
  obtain ⟨hfree, hlow, hup⟩ := firstFree_eq_some hf
  refine ⟨List.nodup_append.2 ⟨h.nodup, by simp, ?_⟩, fun k hk => ?_, fun k hk => ?_⟩
  · rintro k hk j hj rfl
    rw [List.mem_singleton] at hj
    exact hfree (hj ▸ hk)
  · rcases List.mem_append.1 hk with hk | hk
    · exact h.lower k hk
    · rw [List.mem_singleton] at hk
      omega
  · rcases List.mem_append.1 hk with hk | hk
    · exact h.upper k hk
    · rw [List.mem_singleton] at hk
      omega

theorem Within.filter (h : Within base n ids) (p : ℕ → Bool) : Within base n (ids.filter p) :=
  ⟨h.nodup.filter p, fun k hk => h.lower k (List.mem_of_mem_filter hk),
    fun k hk => h.upper k (List.mem_of_mem_filter hk)⟩

/-- The numbers taken are at most as many as the window has. -/
theorem Within.subperm (h : Within base n ids) : ids.Subperm ((List.range n).map (base + ·)) := by
  refine h.nodup.subperm fun k hk => List.mem_map.2 ⟨k - base, ?_, ?_⟩
  · have := h.lower k hk
    have := h.upper k hk
    exact List.mem_range.2 (by omega)
  · have := h.lower k hk
    omega

/-- **The pool is exhausted exactly when all numbers are taken.** -/
theorem firstFree_eq_none_iff (h : Within base n ids) : firstFree base n ids = none ↔ ids.length = n := by
  have hlen : ((List.range n).map (base + ·)).length = n := by simp
  constructor
  · intro hnone
    have hle : ids.length ≤ n := hlen ▸ h.subperm.length_le
    have hall : (List.range n).map (base + ·) ⊆ ids := by
      intro k hk
      obtain ⟨i, hi, rfl⟩ := List.mem_map.1 hk
      exact mem_of_firstFree_eq_none hnone (List.mem_range.1 hi)
    have hnd : ((List.range n).map (base + ·)).Nodup :=
      List.nodup_range.map fun _ _ hab => Nat.add_left_cancel hab
    have hge := (hnd.subperm hall).length_le
    omega
  · intro hl
    have hperm := h.subperm.perm_of_length_le (by omega)
    refine Option.eq_none_iff_forall_ne_some.2 fun k hk => ?_
    obtain ⟨hfree, hlow, hup⟩ := firstFree_eq_some hk
    refine hfree (hperm.mem_iff.2 (List.mem_map.2 ⟨k - base, List.mem_range.2 (by omega), by omega⟩))

end TrebleDoze.Lib
