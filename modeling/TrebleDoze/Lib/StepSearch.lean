import Mathlib.Order.Bounds.Basic
import Mathlib.Tactic.Common

/-!
# Searching with steps

The search for the last number with a property that goes up to some number: from a start, each step of
a list is taken if the property still holds after it. With the steps 128, 64, …, 1 it looks at a number
of eight bits one bit after the other.

* `Reaches steps n`: the steps leave no gap up to `n`;
* `stepSearch_le`, `stepSearch_holds`: the result is within reach, and is the start or has the property;
* `le_stepSearch`: every number within reach that has the property is at most the result;
* `le_stepSearch_iff`: the numbers up to the result are the start and those with the property.
-/

namespace TrebleDoze.Lib

/-- Each step that leads to a number with the property is taken. -/
def stepSearch (p : ℕ → Prop) [DecidablePred p] (steps : List ℕ) (start : ℕ) : ℕ :=
  steps.foldl (fun v i => if p (v + i) then v + i else v) start

/-- No step is greater than what the steps after it reach by more than one; together they reach `n`. -/
inductive Reaches : List ℕ → ℕ → Prop
  | nil : Reaches [] 0
  | cons {i n steps} : i ≤ n + 1 → Reaches steps n → Reaches (i :: steps) (i + n)

section

variable {p : ℕ → Prop} [DecidablePred p] {steps : List ℕ} {start n v i : ℕ}

theorem stepSearch_cons_pos (h : p (v + i)) :
    stepSearch p (i :: steps) v = stepSearch p steps (v + i) := by
  unfold stepSearch
  rw [List.foldl_cons, if_pos h]

theorem stepSearch_cons_neg (h : ¬p (v + i)) :
    stepSearch p (i :: steps) v = stepSearch p steps v := by
  unfold stepSearch
  rw [List.foldl_cons, if_neg h]

theorem stepSearch_le (hr : Reaches steps n) (start : ℕ) :
    start ≤ stepSearch p steps start ∧ stepSearch p steps start ≤ start + n := by
  induction hr generalizing start with
  | nil => exact ⟨le_refl start, le_refl start⟩
  | @cons i n steps _ _ ih =>
    by_cases hp : p (start + i)
    · rw [stepSearch_cons_pos hp]
      have := ih (start + i)
      omega
    · rw [stepSearch_cons_neg hp]
      have := ih start
      omega

theorem stepSearch_holds (p : ℕ → Prop) [DecidablePred p] (steps : List ℕ) (start : ℕ) :
    stepSearch p steps start = start ∨ p (stepSearch p steps start) := by
  induction steps generalizing start with
  | nil => exact .inl rfl
  | cons i steps ih =>
    by_cases hp : p (start + i)
    · rw [stepSearch_cons_pos hp]
      rcases ih (start + i) with h | h
      · right
        rwa [h]
      · exact .inr h
    · rw [stepSearch_cons_neg hp]
      exact ih start

theorem le_stepSearch (hp : ∀ a b, a ≤ b → p b → p a) (hr : Reaches steps n)
    (hv : v ≤ start + n) (h : p v) : v ≤ stepSearch p steps start := by
  induction hr generalizing start with
  | nil => exact hv
  | @cons i n steps hi _ ih =>
    by_cases hs : p (start + i)
    · rw [stepSearch_cons_pos hs]
      exact ih (by omega)
    · rw [stepSearch_cons_neg hs]
      -- the step was too far, and what it leaves out the later steps reach
      have hlt : v < start + i := by
        by_contra hge
        exact hs (hp (start + i) v (by omega) h)
      exact ih (by omega)

/-- The numbers within reach up to the result are the start and those with the property. -/
theorem le_stepSearch_iff (hp : ∀ a b, a ≤ b → p b → p a) (hr : Reaches steps n)
    (hv : v ≤ start + n) : v ≤ stepSearch p steps start ↔ v ≤ start ∨ p v := by
  constructor
  · intro h
    rcases stepSearch_holds p steps start with hs | hs
    · exact .inl (hs ▸ h)
    · exact .inr (hp _ _ h hs)
  · rintro (h | h)
    · exact h.trans (stepSearch_le hr start).1
    · exact le_stepSearch hp hr hv h

end

/-- The bits of a byte, from the most significant one. -/
theorem reaches_byte : Reaches [128, 64, 32, 16, 8, 4, 2, 1] 255 :=
  .cons (by decide) (.cons (by decide) (.cons (by decide) (.cons (by decide) (.cons (by decide)
    (.cons (by decide) (.cons (by decide) (.cons (by decide) .nil)))))))

end TrebleDoze.Lib
