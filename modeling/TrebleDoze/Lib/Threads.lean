import Mathlib.Algebra.BigOperators.Group.List.Basic
import Mathlib.Algebra.GroupWithZero.Nat
import Mathlib.Data.List.Basic
import Mathlib.Tactic.Common

/-!
# The threads of a system

`Threads τ` lists the threads that are at work under their ids, each with the point `τ` it has reached.

* `Threads.find`, `Threads.put`, `Threads.drop`: where a thread is, its move, its end;
* `Threads.mem_put`, `Threads.mem_drop`: the points after them;
* `Threads.find_put`, `Threads.find_drop`: where the threads are then;
* `Threads.perm_of_find`: a thread, and the others;
* `Threads.find_map`: where the threads are when all have moved;
* `Threads.total f`: what the threads add up to; `Threads.total_put`, `Threads.total_drop`: after them.
-/

namespace TrebleDoze.Lib

/-- Threads by their ids. -/
abbrev Threads (τ : Type*) := List (ℕ × τ)

namespace Threads

variable {τ : Type*} {i : ℕ} {t u : τ} {ths : Threads τ}

/-- Where the thread is. -/
def find (i : ℕ) (ths : Threads τ) : Option τ := ths.lookup i

/-- The thread ends. -/
def drop (i : ℕ) (ths : Threads τ) : Threads τ := ths.eraseP fun x => i == x.1

/-- The thread begins, or moves on. -/
def put (i : ℕ) (t : τ) (ths : Threads τ) : Threads τ := (i, t) :: ths.drop i

theorem find_cons (i j : ℕ) (u : τ) (ths : Threads τ) :
    find i ((j, u) :: ths) = if i = j then some u else ths.find i := by
  unfold find
  rw [List.lookup_cons]
  by_cases h : i = j
  · simp only [beq_iff_eq.2 h, if_pos h]
  · simp only [beq_eq_false_iff_ne.2 h, if_neg h]

theorem drop_cons (i j : ℕ) (u : τ) (ths : Threads τ) :
    drop i ((j, u) :: ths) = if i = j then ths else (j, u) :: ths.drop i := by
  by_cases h : i = j <;> simp [drop, h]

theorem mem_of_find (h : ths.find i = some t) : (i, t) ∈ ths := by
  induction ths with
  | nil => cases h
  | cons x xs ih =>
    obtain ⟨j, u⟩ := x
    rw [find_cons] at h
    split_ifs at h with hj
    · obtain rfl := Option.some.inj h
      rw [hj]
      exact List.mem_cons_self
    · exact List.mem_cons_of_mem _ (ih h)

theorem not_mem_of_find (h : ths.find i = none) : (i, t) ∉ ths := by
  induction ths with
  | nil => simp
  | cons x xs ih =>
    obtain ⟨j, u⟩ := x
    rw [find_cons] at h
    split_ifs at h with hj
    intro hm
    rcases List.mem_cons.1 hm with he | hm
    · exact hj (congrArg Prod.fst he)
    · exact ih h hm

theorem mem_drop {x : ℕ × τ} (h : x ∈ ths.drop i) : x ∈ ths := List.mem_of_mem_eraseP h

theorem mem_put {x : ℕ × τ} (h : x ∈ ths.put i t) : x = (i, t) ∨ x ∈ ths := by
  rcases List.mem_cons.1 h with h | h
  · exact .inl h
  · exact .inr (mem_drop h)

/-! ### Where the threads are after a move -/

section Find

variable {j : ℕ}

theorem find_eq_none_iff : ths.find i = none ↔ i ∉ ths.map Prod.fst := by
  induction ths with
  | nil => simp [find]
  | cons x xs ih =>
    obtain ⟨j, u⟩ := x
    rw [find_cons, List.map_cons, List.mem_cons, not_or]
    split_ifs with hj
    · simp [hj]
    · simp [hj, ih]

theorem find_drop_of_ne (h : j ≠ i) : (ths.drop i).find j = ths.find j := by
  induction ths with
  | nil => rfl
  | cons x xs ih =>
    obtain ⟨k, u⟩ := x
    rw [drop_cons]
    split_ifs with hk
    · rw [find_cons, if_neg fun hjk => h (hjk.trans hk.symm)]
    · rw [find_cons, find_cons, ih]

theorem find_put : (ths.put i t).find j = if j = i then some t else ths.find j := by
  rw [put, find_cons]
  split_ifs with h
  · rfl
  · exact find_drop_of_ne h

theorem nodup_drop (h : (ths.map Prod.fst).Nodup) : ((ths.drop i).map Prod.fst).Nodup :=
  h.sublist (List.eraseP_sublist.map _)

theorem find_drop_self (h : (ths.map Prod.fst).Nodup) : (ths.drop i).find i = none := by
  induction ths with
  | nil => rfl
  | cons x xs ih =>
    obtain ⟨j, u⟩ := x
    rw [List.map_cons, List.nodup_cons] at h
    rw [drop_cons]
    split_ifs with hj
    · rw [find_eq_none_iff, hj]
      exact h.1
    · rw [find_cons, if_neg hj]
      exact ih h.2

theorem find_drop (h : (ths.map Prod.fst).Nodup) :
    (ths.drop i).find j = if j = i then none else ths.find j := by
  split_ifs with hj
  · rw [hj, find_drop_self h]
  · exact find_drop_of_ne hj

theorem nodup_put (h : (ths.map Prod.fst).Nodup) : ((ths.put i t).map Prod.fst).Nodup := by
  rw [put, List.map_cons, List.nodup_cons]
  exact ⟨find_eq_none_iff.1 (find_drop_self h), nodup_drop h⟩

end Find

theorem perm_of_find (h : ths.find i = some t) : ths.Perm ((i, t) :: ths.drop i) := by
  induction ths with
  | nil => cases h
  | cons x xs ih =>
    obtain ⟨j, u⟩ := x
    rw [find_cons] at h
    rw [drop_cons]
    split_ifs at h ⊢ with hj
    · obtain rfl := Option.some.inj h
      rw [hj]
    · exact ((ih h).cons _).trans (List.Perm.swap _ _ _)

theorem find_of_mem (hn : (ths.map Prod.fst).Nodup) (h : (i, t) ∈ ths) : ths.find i = some t := by
  induction ths with
  | nil => cases h
  | cons x xs ih =>
    obtain ⟨j, u⟩ := x
    rw [List.map_cons, List.nodup_cons] at hn
    rw [find_cons]
    rcases List.mem_cons.1 h with he | hm
    · obtain ⟨rfl, rfl⟩ := Prod.mk.inj he
      exact if_pos rfl
    · have hne : i ≠ j := fun he => hn.1 (List.mem_map.2 ⟨(i, t), hm, he⟩)
      rw [if_neg hne]
      exact ih hn.2 hm

theorem find_map {υ : Type*} (f : τ → υ) :
    find i (ths.map fun x => (x.1, f x.2)) = (ths.find i).map f := by
  induction ths with
  | nil => rfl
  | cons x xs ih =>
    rw [List.map_cons, find_cons, find_cons]
    split_ifs with h
    · rfl
    · exact ih

/-- What the threads add up to. -/
def total (f : τ → ℕ) (ths : Threads τ) : ℕ := (ths.map fun x => f x.2).sum

@[simp] theorem total_nil (f : τ → ℕ) : total f ([] : Threads τ) = 0 := rfl

@[simp] theorem total_cons (f : τ → ℕ) (x : ℕ × τ) (ths : Threads τ) :
    total f (x :: ths) = f x.2 + total f ths := by simp [total]

theorem total_drop (f : τ → ℕ) (h : ths.find i = some t) : f t + total f (ths.drop i) = total f ths := by
  induction ths with
  | nil => cases h
  | cons x xs ih =>
    obtain ⟨j, u⟩ := x
    rw [find_cons] at h
    rw [drop_cons]
    split_ifs at h ⊢ with hj
    · obtain rfl := Option.some.inj h
      rw [total_cons]
    · have hx := ih h
      rw [total_cons, total_cons]
      omega

theorem drop_of_find (h : ths.find i = none) : ths.drop i = ths := by
  induction ths with
  | nil => rfl
  | cons x xs ih =>
    obtain ⟨j, u⟩ := x
    rw [find_cons] at h
    rw [drop_cons]
    split_ifs at h ⊢ with hj
    rw [ih h]

theorem total_put (f : τ → ℕ) (h : ths.find i = some t) (u : τ) :
    f t + total f (ths.put i u) = f u + total f ths := by
  have hd := total_drop f h
  have hp : total f (ths.put i u) = f u + total f (ths.drop i) := total_cons ..
  omega

theorem total_put_of_find (f : τ → ℕ) (h : ths.find i = none) (u : τ) :
    total f (ths.put i u) = f u + total f ths := by
  rw [put, total_cons, drop_of_find h]

end Threads

end TrebleDoze.Lib
