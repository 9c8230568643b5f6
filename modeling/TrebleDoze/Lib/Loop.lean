import Mathlib.Data.List.Basic
import Mathlib.Tactic.Common

/-!
# Loops

`loop body fuel s` runs a loop from `s` for `fuel` iterations at most; `loop_rule` is the rule of total
correctness: an invariant that every iteration keeps and a variant that it decreases; `loop_of_variant`
is the same rule for a given number of iterations, and `loop_result` the one of partial correctness.
-/

namespace TrebleDoze.Lib

/-- What an iteration ends with: a state to go on from, or the result of the loop. -/
inductive Iter (σ ρ : Type*) where
  | next (s : σ)
  | done (r : ρ)

variable {σ ρ : Type*}

/-- The loop; `none` when the fuel runs out. -/
def loop (body : σ → Iter σ ρ) : ℕ → σ → Option ρ
  | 0, _ => none
  | fuel + 1, s =>
    match body s with
    | .next s' => loop body fuel s'
    | .done r => some r

/-- The loop ends with the result `r`, given enough fuel. -/
def Returns (body : σ → Iter σ ρ) (s : σ) (r : ρ) : Prop :=
  ∃ n, ∀ fuel, n < fuel → loop body fuel s = some r

variable {body : σ → Iter σ ρ} {s s' : σ} {r : ρ}

theorem loop_of_done (h : body s = .done r) (fuel : ℕ) : loop body (fuel + 1) s = some r := by
  rw [loop, h]

theorem loop_of_next (h : body s = .next s') (fuel : ℕ) :
    loop body (fuel + 1) s = loop body fuel s' := by
  rw [loop, h]

theorem loop_eq_some {fuel : ℕ} (h : loop body fuel s = some r) :
    body s = .done r ∨ ∃ s' fuel', fuel = fuel' + 1 ∧ body s = .next s' ∧ loop body fuel' s' = some r := by
  cases fuel with
  | zero => cases h
  | succ fuel =>
    unfold loop at h
    cases hb : body s with
    | next s' =>
      rw [hb] at h
      exact .inr ⟨s', fuel, rfl, rfl, h⟩
    | done r' =>
      rw [hb] at h
      obtain rfl := Option.some.inj h
      exact .inl rfl

theorem returns_of_done (h : body s = .done r) : Returns body s r := by
  refine ⟨0, fun fuel hf => ?_⟩
  obtain ⟨fuel, rfl⟩ := Nat.exists_eq_succ_of_ne_zero (by omega : fuel ≠ 0)
  exact loop_of_done h fuel

theorem returns_of_next (h : body s = .next s') (hr : Returns body s' r) : Returns body s r := by
  obtain ⟨n, hn⟩ := hr
  refine ⟨n + 1, fun fuel hf => ?_⟩
  obtain ⟨fuel, rfl⟩ := Nat.exists_eq_succ_of_ne_zero (by omega : fuel ≠ 0)
  rw [loop_of_next h]
  exact hn fuel (by omega)

theorem returns_of_loop {fuel : ℕ} (h : loop body fuel s = some r) : Returns body s r := by
  induction fuel generalizing s with
  | zero => cases h
  | succ fuel ih =>
    rcases loop_eq_some h with hb | ⟨s', _, ⟨⟩, hb, hrest⟩
    · exact returns_of_done hb
    · exact returns_of_next hb (ih hrest)

/-- **Total correctness.**  If every iteration keeps `I` and decreases `v`, and every iteration that
ends the loop gives a result with `Q`, the loop ends with such a result. -/
theorem loop_rule {I : σ → Prop} {Q : ρ → Prop} (v : σ → ℕ)
    (hnext : ∀ {s s'}, I s → body s = .next s' → I s' ∧ v s' < v s)
    (hdone : ∀ {s r}, I s → body s = .done r → Q r) (hs : I s) : ∃ r, Returns body s r ∧ Q r := by
  induction hv : v s using Nat.strongRecOn generalizing s with
  | _ n ih =>
    cases hb : body s with
    | next s' =>
      obtain ⟨hI, hlt⟩ := hnext hs hb
      obtain ⟨r, hr, hq⟩ := ih (v s') (by omega) hI rfl
      exact ⟨r, returns_of_next hb hr, hq⟩
    | done r => exact ⟨r, returns_of_done hb, hdone hs hb⟩

/-- The rule for a fuel that is above the variant. -/
theorem loop_of_variant {I : σ → Prop} {Q : ρ → Prop} (v : σ → ℕ)
    (hnext : ∀ {s s'}, I s → body s = .next s' → I s' ∧ v s' < v s)
    (hdone : ∀ {s r}, I s → body s = .done r → Q r) (hs : I s) {fuel : ℕ} (hfuel : v s < fuel) :
    ∃ r, loop body fuel s = some r ∧ Q r := by
  induction fuel generalizing s with
  | zero => omega
  | succ fuel ih =>
    cases hb : body s with
    | next s' =>
      obtain ⟨hI, hlt⟩ := hnext hs hb
      obtain ⟨r, hr, hq⟩ := ih hI (by omega)
      exact ⟨r, by rw [loop_of_next hb, hr], hq⟩
    | done r => exact ⟨r, loop_of_done hb fuel, hdone hs hb⟩

/-- **Partial correctness.**  If every iteration keeps `I`, and every iteration that ends the loop gives
a result with `Q`, whatever the loop returns has `Q`. -/
theorem loop_result {I : σ → Prop} {Q : ρ → Prop} (hnext : ∀ {s s'}, I s → body s = .next s' → I s')
    (hdone : ∀ {s r}, I s → body s = .done r → Q r) (hs : I s) {fuel : ℕ}
    (h : loop body fuel s = some r) : Q r := by
  induction fuel generalizing s with
  | zero => cases h
  | succ fuel ih =>
    rcases loop_eq_some h with hb | ⟨s', _, ⟨⟩, hb, hrest⟩
    · exact hdone hs hb
    · exact ih (hnext hs hb) hrest

end TrebleDoze.Lib
