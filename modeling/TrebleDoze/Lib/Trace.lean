import Mathlib.Data.List.Induction
import Mathlib.Tactic.Common

/-!
# Traces of events

Five notions about a list of events, oldest first.

* `Alternates a b l`: the list is `a, b, a, b, …`;
* `since p l`: the events after the last one with `p` (all of them when there is none);
* `last p l`: the last event with `p`; `split_of_last` splits a trace there;
* `NoneAfter p q l`: no event with `q` comes after one with `p`; `NoneAfter.append` extends it by the
  events of one more step;
* `Whenever p Q l`: `Q` holds of the events before each one with `p`; `split_append` finds an event among
  those of a trace and of one more step.
-/

namespace TrebleDoze.Lib

variable {α : Type*}

/-! ### Alternation -/

/-- The list is `a, b, a, b, …`. -/
def Alternates (a b : α) (l : List α) : Prop :=
  ∀ i < l.length, l[i]? = some (if i % 2 = 0 then a else b)

instance [DecidableEq α] (a b : α) (l : List α) : Decidable (Alternates a b l) := by
  unfold Alternates; infer_instance

theorem alternates_nil (a b : α) : Alternates a b [] := by
  intro i hi; simp at hi

/-- One more event keeps the alternation exactly when it is the one whose turn it is. -/
theorem alternates_snoc {a b x : α} {l : List α} :
    Alternates a b (l ++ [x]) ↔ Alternates a b l ∧ x = if l.length % 2 = 0 then a else b := by
  constructor
  · intro h
    refine ⟨fun i hi => ?_, ?_⟩
    · have := h i (by simp; omega)
      rwa [List.getElem?_append_left hi] at this
    · simpa using h l.length (by simp)
  · rintro ⟨h, hx⟩ i hi
    rw [List.length_append, List.length_singleton] at hi
    rcases Nat.lt_or_ge i l.length with hl | hl
    · rw [List.getElem?_append_left hl]
      exact h i hl
    · have : i = l.length := by omega
      subst this
      simp [hx]

/-! ### The events since the last one of a kind -/

/-- The events after the last one with `p`; all of them when there is none. -/
def since (p : α → Bool) (l : List α) : List α := (l.reverse.takeWhile fun x => !p x).reverse

section Since

variable {p : α → Bool} {l : List α} {x : α}

theorem since_snoc : since p (l ++ [x]) = if p x then [] else since p l ++ [x] := by
  unfold since
  by_cases h : p x <;> simp [h]

theorem since_snoc_true (h : p x = true) : since p (l ++ [x]) = [] := by simp [since_snoc, h]

theorem since_append_of_false {r : List α} (h : ∀ x ∈ r, p x = false) :
    since p (l ++ r) = since p l ++ r := by
  induction r using List.reverseRecOn with
  | nil => simp
  | append_singleton r x ih =>
    have hx : p x = false := h x (by simp)
    rw [← List.append_assoc, since_snoc, ih fun y hy => h y (by simp [hy])]
    simp [hx]

theorem since_of_split {e : α} {pre post : List α} (he : p e = true)
    (hpost : ∀ x ∈ post, p x = false) : since p (pre ++ e :: post) = post := by
  rw [List.append_cons, since_append_of_false hpost, since_snoc_true he, List.nil_append]

end Since

/-! ### The last event of a kind -/

/-- The last event with `p`. -/
def last (p : α → Bool) (l : List α) : Option α := l.reverse.find? p

section Last

variable {p : α → Bool} {l : List α} {x e : α}

theorem last_nil : last p [] = none := rfl

theorem last_snoc : last p (l ++ [x]) = if p x then some x else last p l := by
  unfold last
  by_cases h : p x <;> simp [h]

theorem last_append_of_false {r : List α} (h : ∀ x ∈ r, p x = false) :
    last p (l ++ r) = last p l := by
  induction r using List.reverseRecOn with
  | nil => simp
  | append_singleton r x ih =>
    have hx : p x = false := h x (by simp)
    rw [← List.append_assoc, last_snoc, ih fun y hy => h y (by simp [hy])]
    simp [hx]

theorem last_of_split {pre post : List α} (he : p e = true) (hpost : ∀ x ∈ post, p x = false) :
    last p (pre ++ e :: post) = some e := by
  rw [List.append_cons, last_append_of_false hpost, last_snoc, if_pos he]

theorem split_of_last (h : last p l = some e) :
    ∃ pre, l = pre ++ e :: since p l ∧ ∀ x ∈ since p l, p x = false := by
  induction l using List.reverseRecOn with
  | nil => simp [last_nil] at h
  | append_singleton l y ih =>
    rw [last_snoc] at h
    by_cases hy : p y = true
    · rw [if_pos hy, Option.some.injEq] at h
      exact ⟨l, by rw [since_snoc_true hy, h], by simp [since_snoc_true hy]⟩
    · rw [if_neg hy] at h
      obtain ⟨pre, hl, hs⟩ := ih h
      have hsn : since p (l ++ [y]) = since p l ++ [y] := by simp [since_snoc, hy]
      refine ⟨pre, ?_, ?_⟩
      · rw [hsn]
        nth_rewrite 1 [hl]
        simp
      · rw [hsn]
        intro x hx
        rcases List.mem_append.1 hx with hx | hx
        · exact hs x hx
        · rw [List.mem_singleton] at hx; subst hx; simpa using hy

end Last

/-! ### No event of a kind after another -/

/-- No event with `q` comes after one with `p`. -/
def NoneAfter (p q : α → Prop) (l : List α) : Prop := l.Pairwise fun e x => p e → ¬ q x

section NoneAfter

variable {p q : α → Prop} {l r : List α}

instance [DecidablePred p] [DecidablePred q] (l : List α) : Decidable (NoneAfter p q l) := by
  unfold NoneAfter; infer_instance

theorem noneAfter_nil : NoneAfter p q [] := .nil

theorem noneAfter_singleton (x : α) : NoneAfter p q [x] := List.pairwise_singleton _ x

theorem NoneAfter.append (hl : NoneAfter p q l) (hr : NoneAfter p q r)
    (h : ∀ e ∈ l, p e → ∀ x ∈ r, ¬ q x) : NoneAfter p q (l ++ r) :=
  List.pairwise_append.2 ⟨hl, hr, fun e he x hx hp => h e he hp x hx⟩

theorem NoneAfter.append_of_forall_not (hl : NoneAfter p q l) (h : ∀ x ∈ r, ¬ q x) :
    NoneAfter p q (l ++ r) := by
  refine hl.append ?_ fun _ _ _ x hx => h x hx
  exact List.pairwise_of_forall_mem_list fun _ _ x hx _ => h x hx

end NoneAfter

/-! ### What held before an event -/

/-- Whenever an event with `p` happens, `Q` holds of the events before it. -/
def Whenever (p : α → Prop) (Q : List α → Prop) (l : List α) : Prop :=
  ∀ pre e post, l = pre ++ e :: post → p e → Q pre

section Whenever

variable {p : α → Prop} {Q : List α → Prop} {l : List α} {x : α}

theorem whenever_nil : Whenever p Q [] := by
  intro pre e post h
  simp at h

/-- The events of one more step: what was before each of them with `p`. -/
theorem Whenever.append {r : List α} (h : Whenever p Q l)
    (hr : ∀ pre e post, r = pre ++ e :: post → p e → Q (l ++ pre)) : Whenever p Q (l ++ r) := by
  intro pre e post hl he
  rcases List.append_eq_append_iff.1 hl with ⟨pre', rfl, hpre⟩ | ⟨rest, hl', hrest⟩
  · exact hr pre' e post hpre he
  · cases rest with
    | nil =>
      rw [List.append_nil] at hl'
      have hnil := hr [] e post hrest.symm he
      rwa [List.append_nil, hl'] at hnil
    | cons x rest =>
      obtain ⟨rfl, -⟩ := List.cons.inj hrest
      exact h pre e rest hl' he

theorem split_append {r pre post : List α} {e : α} (h : l ++ r = pre ++ e :: post) :
    (∃ pre', pre = l ++ pre' ∧ r = pre' ++ e :: post) ∨ ∃ mid, l = pre ++ e :: mid ∧ post = mid ++ r := by
  rcases List.append_eq_append_iff.1 h with ⟨pre', rfl, hr⟩ | ⟨rest, rfl, hrest⟩
  · exact .inl ⟨pre', rfl, hr⟩
  · cases rest with
    | nil => exact .inl ⟨[], by simp, by simpa using hrest.symm⟩
    | cons x mid =>
      obtain ⟨rfl, hpost⟩ := List.cons.inj hrest
      exact .inr ⟨mid, rfl, hpost⟩

theorem Whenever.snoc (h : Whenever p Q l) (hx : p x → Q l) : Whenever p Q (l ++ [x]) := by
  refine h.append fun pre e post hl he => ?_
  cases pre with
  | nil =>
    obtain ⟨rfl, -⟩ := List.cons.inj hl
    rw [List.append_nil]
    exact hx he
  | cons y pre => simp at hl

end Whenever

end TrebleDoze.Lib
