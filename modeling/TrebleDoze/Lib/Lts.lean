import Mathlib.Data.List.Basic
import Mathlib.Tactic.Common

/-!
# Labelled transition systems that emit events

A system is an initial state and a partial, executable step: `step s a = none` says that the action
`a` is not enabled in `s`, and `step s a = some (s', os)` that it leads to `s'` and emits the events
`os`.

* `Lts.Run C tr s`: some run every step of which meets the condition `C` ends in `s`, having emitted
  the events `tr`, oldest first; `Lts.Reach` is the case without a condition.
* `Lts.Run.inv`: what holds initially and is kept by every step holds at the end of every run.
* `Lts.startAt s`: the system from another state.
* `Lts.Steps C s as`: the actions `as` are enabled one after the other and each step meets `C`;
  `Lts.steps_congr`: conditions that agree under an invariant hold along the same actions.
* `Lts.exec` runs a list of actions, and `Lts.run_of_exec` makes a run of it.
* `Refines`: every step of one system is a step of another or stutters; `Refines.run` carries the
  runs over, so that what holds of all runs of the second system holds of those of the first.
-/

namespace TrebleDoze.Lib

/-- A labelled transition system with states `σ`, actions `α` and events `ω`. -/
structure Lts (σ α ω : Type*) where
  init : σ
  step : σ → α → Option (σ × List ω)

namespace Lts

variable {σ α ω : Type*}

/-- The runs every step of which meets `C`, by the events emitted so far and the state reached. -/
inductive Run (M : Lts σ α ω) (C : σ → α → Prop) : List ω → σ → Prop
  | init : Run M C [] M.init
  | step {tr s a s' os} : Run M C tr s → C s a → M.step s a = some (s', os) → Run M C (tr ++ os) s'

/-- All runs. -/
abbrev Reach (M : Lts σ α ω) : List ω → σ → Prop := M.Run fun _ _ => True

variable {M : Lts σ α ω} {C D : σ → α → Prop} {tr : List ω} {s s' : σ} {a : α} {os : List ω}

/-- The invariant rule. -/
theorem Run.inv {I : List ω → σ → Prop} (h0 : I [] M.init)
    (hs : ∀ {tr s a s' os}, I tr s → C s a → M.step s a = some (s', os) → I (tr ++ os) s')
    (h : M.Run C tr s) : I tr s := by
  induction h with
  | init => exact h0
  | step _ hc ha ih => exact hs ih hc ha

/-- The invariant rule for a property of the states alone. -/
theorem Run.inv_state {I : σ → Prop} (h0 : I M.init)
    (hs : ∀ {s a s' os}, I s → C s a → M.step s a = some (s', os) → I s') (h : M.Run C tr s) : I s :=
  h.inv (I := fun _ s => I s) h0 hs

/-- A run keeps its steps under a weaker condition. -/
theorem Run.mono (hCD : ∀ s a, C s a → D s a) (h : M.Run C tr s) : M.Run D tr s := by
  induction h with
  | init => exact .init
  | step _ hc ha ih => exact ih.step (hCD _ _ hc) ha

/-! ### Runs from another state -/

/-- The system, started in `s`. -/
def startAt (M : Lts σ α ω) (s : σ) : Lts σ α ω := { M with init := s }

/-! ### The steps of a list of actions -/

/-- The actions are enabled one after the other from the state, and each step meets `C`. -/
def Steps (M : Lts σ α ω) (C : σ → α → Prop) : σ → List α → Prop
  | _, [] => True
  | s, a :: as => C s a ∧ ∃ s' os, M.step s a = some (s', os) ∧ Steps M C s' as

/-- Conditions that agree where an invariant holds hold along the same actions. -/
theorem steps_congr {I : σ → Prop} (hI : ∀ {s a s' os}, I s → M.step s a = some (s', os) → I s')
    (hCD : ∀ {s}, I s → ∀ a, C s a ↔ D s a) (h0 : I s) (as : List α) :
    M.Steps C s as ↔ M.Steps D s as := by
  induction as generalizing s with
  | nil => exact Iff.rfl
  | cons a as ih =>
    constructor
    · rintro ⟨hc, s', os, hs, has⟩
      exact ⟨(hCD h0 a).1 hc, s', os, hs, (ih (hI h0 hs)).1 has⟩
    · rintro ⟨hd, s', os, hs, has⟩
      exact ⟨(hCD h0 a).2 hd, s', os, hs, (ih (hI h0 hs)).2 has⟩

/-! ### Running a list of actions -/

section Exec

variable (M C) [∀ s a, Decidable (C s a)]

/-- The events and the final state of the actions `as` from `s`; `none` when an action is not enabled
or does not meet `C`. -/
def exec : List α → σ → Option (List ω × σ)
  | [], s => some ([], s)
  | a :: as, s =>
    if C s a then
      match M.step s a with
      | none => none
      | some (s', os) => (exec as s').map fun p => (os ++ p.1, p.2)
    else none

variable {M C}

theorem Run.exec (h : M.Run C tr s) {as : List α} {tr' : List ω} {t : σ}
    (he : M.exec C as s = some (tr', t)) : M.Run C (tr ++ tr') t := by
  induction as generalizing tr s tr' with
  | nil =>
    simp only [Lts.exec, Option.some.injEq, Prod.mk.injEq] at he
    obtain ⟨rfl, rfl⟩ := he
    simpa using h
  | cons a as ih =>
    simp only [Lts.exec] at he
    split_ifs at he with hc
    split at he
    · cases he
    · rename_i s' os hs
      obtain ⟨⟨tr₁, t₁⟩, h₁, h₂⟩ := Option.map_eq_some_iff.mp he
      simp only [Prod.mk.injEq] at h₂
      obtain ⟨rfl, rfl⟩ := h₂
      rw [← List.append_assoc]
      exact ih (h.step hc hs) h₁

theorem run_of_exec {as : List α} (he : M.exec C as M.init = some (tr, s)) : M.Run C tr s := by
  simpa using Run.init.exec he

/-- A run found by computation: the actions `as` lead to events and a state with `P`. -/
theorem exists_run {P : List ω → σ → Prop} [∀ tr s, Decidable (P tr s)] (as : List α)
    (he : (M.exec C as M.init).any (fun p => decide (P p.1 p.2)) = true) :
    ∃ tr s, M.Run C tr s ∧ P tr s := by
  obtain ⟨⟨tr, s⟩, h, hp⟩ := (Option.any_eq_true _ _).mp he
  exact ⟨tr, s, run_of_exec h, by simpa using hp⟩

end Exec

end Lts

/-! ### Refinement -/

section Refines

variable {σ α ω τ β ο : Type*}

/-- `M`, on steps that meet `C`, refines `N`, on steps that meet `D`: seen through the state map `f`
and the event map `g`, every step of `M` is a step of `N` or changes and emits nothing. -/
structure Refines (M : Lts σ α ω) (C : σ → α → Prop) (N : Lts τ β ο) (D : τ → β → Prop) (f : σ → τ)
    (g : ω → Option ο) : Prop where
  init : f M.init = N.init
  step : ∀ {s a s' os}, C s a → M.step s a = some (s', os) →
    (f s' = f s ∧ os.filterMap g = []) ∨
      ∃ b, D (f s) b ∧ N.step (f s) b = some (f s', os.filterMap g)

/-- **A refinement carries runs over.** -/
theorem Refines.run {M : Lts σ α ω} {C : σ → α → Prop} {N : Lts τ β ο} {D : τ → β → Prop}
    {f : σ → τ} {g : ω → Option ο} (h : Refines M C N D f g) {tr : List ω} {s : σ}
    (hr : M.Run C tr s) : N.Run D (tr.filterMap g) (f s) := by
  induction hr with
  | init => rw [h.init]; exact .init
  | step _ hc ha ih =>
    rw [List.filterMap_append]
    rcases h.step hc ha with ⟨h1, h2⟩ | ⟨b, hb, hn⟩
    · rw [h1, h2, List.append_nil]
      exact ih
    · exact ih.step hb hn

end Refines

end TrebleDoze.Lib
