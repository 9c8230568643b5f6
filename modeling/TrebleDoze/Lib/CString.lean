import Mathlib.Data.List.Infix
import Mathlib.Data.UInt
import Mathlib.Tactic.Common

/-!
# Strings in memory

The functions of C that read a memory area without being told where the string in it ends, or where in
it a pattern is.

* `cstring l`: the string at the start of `l`, up to the first zero; `none` when there is no zero, that
  is, when who reads the string leaves the area.  `cstring_eq_some_iff`: the decomposition it finds;
* `ascii s`: the characters of a literal;
* `findSub p l`: where `p` first occurs in `l`, as `memmem` and `strstr` find it;
  `findSub_eq_some_iff`, `findSub_eq_none_iff`: what it finds.
-/

namespace TrebleDoze.Lib

/-- The characters of a literal, as bytes. -/
def ascii (s : String) : List UInt8 := s.toList.map fun c => UInt8.ofNat c.toNat

variable {α : Type*} [DecidableEq α]

/-! ### Strings up to a zero -/

section

variable [Zero α]

/-- The string at the start of the area. -/
def cstring : List α → Option (List α)
  | [] => none
  | x :: l => if x = 0 then some [] else (cstring l).map (x :: ·)

variable {l v rest : List α}

theorem cstring_append_zero (h : (0 : α) ∉ v) : cstring (v ++ 0 :: rest) = some v := by
  induction v with
  | nil => simp [cstring]
  | cons x v ih =>
    rw [List.mem_cons, not_or] at h
    rw [List.cons_append, cstring, if_neg (Ne.symm h.1), ih h.2]
    rfl

theorem cstring_eq_some_iff : cstring l = some v ↔ (0 : α) ∉ v ∧ ∃ rest, l = v ++ 0 :: rest := by
  constructor
  · intro h
    induction l generalizing v with
    | nil => cases h
    | cons x l ih =>
      unfold cstring at h
      split_ifs at h with hx
      · obtain rfl := Option.some.inj h
        exact ⟨List.not_mem_nil, l, by rw [hx]; rfl⟩
      · obtain ⟨w, hw, rfl⟩ := Option.map_eq_some_iff.1 h
        obtain ⟨hz, rest, rfl⟩ := ih hw
        exact ⟨by simpa [Ne.symm hx] using hz, rest, rfl⟩
  · rintro ⟨hz, rest, rfl⟩
    exact cstring_append_zero hz

theorem cstring_eq_none_iff : cstring l = none ↔ (0 : α) ∉ l := by
  induction l with
  | nil => simp [cstring]
  | cons x l ih =>
    unfold cstring
    split_ifs with hx
    · simp [hx]
    · simp [ih, Ne.symm hx]

end

/-! ### Searching -/

/-- Where the pattern first occurs. -/
def findSub (p : List α) : List α → Option ℕ
  | [] => if p = [] then some 0 else none
  | x :: l => if p.isPrefixOf (x :: l) then some 0 else (findSub p l).map (· + 1)

section

variable {p l : List α} {i : ℕ}

theorem findSub_eq_some_iff : findSub p l = some i ↔
    (∃ pre post, l = pre ++ p ++ post ∧ pre.length = i) ∧
      ∀ pre post, l = pre ++ p ++ post → i ≤ pre.length := by
  induction l generalizing i with
  | nil =>
    unfold findSub
    split_ifs with hp
    · subst hp
      constructor
      · intro h
        obtain rfl := Option.some.inj h
        exact ⟨⟨[], [], rfl, rfl⟩, fun _ _ _ => Nat.zero_le _⟩
      · rintro ⟨⟨pre, post, he, rfl⟩, -⟩
        have : pre = [] := by simpa using (List.append_eq_nil_iff.1 he.symm).1
        rw [this]
        rfl
    · refine iff_of_false (by simp) ?_
      rintro ⟨⟨pre, post, he, -⟩, -⟩
      exact hp (List.append_eq_nil_iff.1 (List.append_eq_nil_iff.1 he.symm).1).2
  | cons x l ih =>
    unfold findSub
    split_ifs with hp
    · obtain ⟨post, hpost⟩ := List.isPrefixOf_iff_prefix.1 hp
      constructor
      · intro h
        obtain rfl := Option.some.inj h
        exact ⟨⟨[], post, by rw [List.nil_append, hpost], rfl⟩, fun _ _ _ => Nat.zero_le _⟩
      · rintro ⟨-, hfirst⟩
        have := hfirst [] post (by rw [List.nil_append, hpost])
        rw [Nat.le_zero.1 this]
    · have hne : ∀ pre post, x :: l = pre ++ p ++ post → pre ≠ [] := by
        rintro pre post he rfl
        exact hp (List.isPrefixOf_iff_prefix.2 ⟨post, by simpa using he.symm⟩)
      rw [Option.map_eq_some_iff]
      constructor
      · rintro ⟨j, hj, rfl⟩
        obtain ⟨⟨pre, post, rfl, rfl⟩, hfirst⟩ := ih.1 hj
        refine ⟨⟨x :: pre, post, rfl, rfl⟩, fun pre' post' he => ?_⟩
        obtain ⟨y, pre'', rfl⟩ := List.exists_cons_of_ne_nil (hne pre' post' he)
        have := hfirst pre'' post' (List.cons.inj he).2
        simpa using this
      · rintro ⟨⟨pre, post, he, rfl⟩, hfirst⟩
        obtain ⟨y, pre', rfl⟩ := List.exists_cons_of_ne_nil (hne pre post he)
        refine ⟨pre'.length, ih.2 ⟨⟨pre', post, (List.cons.inj he).2, rfl⟩, fun q r hqr => ?_⟩, rfl⟩
        have := hfirst (x :: q) r (by rw [hqr]; rfl)
        simpa using this

theorem findSub_eq_none_iff : findSub p l = none ↔ ¬ p <:+: l := by
  induction l with
  | nil =>
    unfold findSub
    split_ifs with hp
    · simp [hp]
    · simpa using hp
  | cons x l ih =>
    unfold findSub
    split_ifs with hp
    · refine iff_of_false (by simp) fun hn => hn (List.isPrefixOf_iff_prefix.1 hp).isInfix
    · rw [Option.map_eq_none_iff, ih, List.infix_cons_iff, not_or]
      have hnp : ¬ p <+: x :: l := fun h => hp (List.isPrefixOf_iff_prefix.2 h)
      simp [hnp]

end

end TrebleDoze.Lib
