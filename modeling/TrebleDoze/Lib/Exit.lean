import Mathlib.Tactic.Common

/-!
# Programs that exit

A program over a state `σ` that may exit with a code in `ε` is an `EStateM ε σ`: it ends with `.ok` and
a result, or with `.error` and the code, and with the state it leaves in both.

* `exitIf c code`: the test `if (c) exit(code)`; `exitIf_bind`: what it does to the rest;
* `bind_ok`: the runs of a sequence that do not exit, as a run of each part;
* `bind_of_ok`: a sequence from a run of its first part;
* `bind_eq_ok_iff`: the same for a computation in `Except`, that has no state.
-/

namespace TrebleDoze.Lib

universe u

variable {ε σ α β : Type u}

instance decidableEqResult [DecidableEq ε] [DecidableEq σ] [DecidableEq α] :
    DecidableEq (EStateM.Result ε σ α)
  | .ok a s, .ok b t => decidable_of_iff (a = b ∧ s = t) (by rw [EStateM.Result.ok.injEq])
  | .error e s, .error d t => decidable_of_iff (e = d ∧ s = t) (by rw [EStateM.Result.error.injEq])
  | .ok _ _, .error _ _ => isFalse nofun
  | .error _ _, .ok _ _ => isFalse nofun

/-- `if (c) exit(code)`. -/
def exitIf (c : Prop) [Decidable c] (code : ε) : EStateM ε σ PUnit :=
  if c then throw code else pure .unit

/-- A computation that may fault gives a result just when its first step does, and the rest after it. -/
theorem bind_eq_ok_iff {x : Except ε α} {f : α → Except ε β} {b : β} :
    (x >>= f) = .ok b ↔ ∃ a, x = .ok a ∧ f a = .ok b := by
  cases x with
  | error e => simp [bind, Except.bind]
  | ok a => simp [bind, Except.bind]

section

variable {p : EStateM ε σ α} {f : α → EStateM ε σ β} {s s' : σ} {a a' : α} {b : β}

theorem bind_of_ok (h : p s = .ok a s') : (p >>= f) s = f a s' := by
  show EStateM.bind p f s = _
  simp only [EStateM.bind, h]

theorem bind_of_error {e : ε} (h : p s = .error e s') : (p >>= f) s = .error e s' := by
  show EStateM.bind p f s = _
  simp only [EStateM.bind, h]

theorem bind_ok (h : (p >>= f) s = .ok b s') : ∃ a s₁, p s = .ok a s₁ ∧ f a s₁ = .ok b s' := by
  replace h : EStateM.bind p f s = .ok b s' := h
  cases hp : p s with
  | ok a s₁ =>
    simp only [EStateM.bind, hp] at h
    exact ⟨a, s₁, rfl, h⟩
  | error e s₁ =>
    simp only [EStateM.bind, hp] at h
    exact nomatch h

theorem pure_ok (h : (pure a : EStateM ε σ α) s = .ok a' s') : a' = a ∧ s' = s := by
  cases h
  exact ⟨rfl, rfl⟩

theorem throw_ne_ok {e : ε} : (throw e : EStateM ε σ α) s ≠ .ok a s' := nofun

end

section

variable {c : Prop} [Decidable c] {code : ε} {s s' : σ} {u : PUnit}

theorem exitIf_ok (h : (exitIf c code : EStateM ε σ PUnit) s = .ok u s') : ¬c ∧ s' = s := by
  unfold exitIf at h
  split at h
  · exact absurd h throw_ne_ok
  · rename_i hc
    exact ⟨hc, (pure_ok h).2⟩

theorem exitIf_bind (f : PUnit → EStateM ε σ β) :
    (exitIf c code >>= f) s = if c then .error code s else f .unit s := by
  by_cases h : c
  · rw [exitIf, if_pos h, if_pos h]
    rfl
  · rw [exitIf, if_neg h, if_neg h]
    rfl

theorem exitIf_of_not (h : ¬c) : (exitIf c code : EStateM ε σ PUnit) s = .ok .unit s := by
  unfold exitIf
  rw [if_neg h]
  rfl

end

end TrebleDoze.Lib
