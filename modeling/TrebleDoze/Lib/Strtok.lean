import Mathlib.Data.List.TakeWhile
import Mathlib.Tactic.Common

/-!
# Tokens of a string

`strtok` with its saved pointer: the delimiters at the front are skipped, the token goes to the next one,
and the pointer is left behind that, or null at the end of the string.

* `tokens d s`: what a loop over `strtok` finds;
* `tokens_eq_filter`: the pieces between the delimiters that are not empty;
* `tokens_intercalate`: tokens that have been joined are found again.
-/

namespace TrebleDoze.Lib

variable {α : Type*} (d : α → Bool)

/-- A call for the string that the pointer is at: the token and the new pointer, `none` at the end. -/
def strtok : Option (List α) → Option (List α × Option (List α))
  | none => none
  | some s =>
    match s.dropWhile d with
    | [] => none
    | c :: rest => some (c :: rest.takeWhile (!d ·), (rest.dropWhile (!d ·)).tail?)

/-- The tokens that are left, when there are fewer than `fuel`. -/
def tokensFrom : ℕ → Option (List α) → List (List α)
  | 0, _ => []
  | fuel + 1, saved =>
    match strtok d saved with
    | none => []
    | some (token, saved) => token :: tokensFrom fuel saved

/-- The tokens of a string. -/
def tokens (s : List α) : List (List α) := tokensFrom d (s.length + 1) (some s)

variable {d} {s : List α}

theorem filter_splitOnP_dropWhile :
    ((s.dropWhile d).splitOnP d).filter (!·.isEmpty) = (s.splitOnP d).filter (!·.isEmpty) := by
  induction s with
  | nil => rfl
  | cons c s ih =>
    by_cases hc : d c = true
    · rw [List.dropWhile_cons_of_pos hc, ih, List.splitOnP_cons_eq_if_modifyHead, if_pos hc,
        List.filter_cons_of_neg (by simp)]
    · rw [List.dropWhile_cons_of_neg hc]

theorem tokensFrom_eq_filter {fuel : ℕ} (h : s.length < fuel) :
    tokensFrom d fuel (some s) = (s.splitOnP d).filter (!·.isEmpty) := by
  induction fuel generalizing s with
  | zero => exact absurd h (Nat.not_lt_zero _)
  | succ fuel ih =>
    rw [← filter_splitOnP_dropWhile, tokensFrom, strtok]
    have hle : (s.dropWhile d).length ≤ s.length := (List.dropWhile_suffix d).length_le
    cases hs : s.dropWhile d with
    | nil => simp
    | cons c rest =>
      have hc : d c = false := by
        have := List.head?_dropWhile_not d s
        rw [hs] at this
        simpa using this
      have htoken : ∀ x ∈ c :: rest.takeWhile (!d ·), d x = false := by
        intro x hx
        rcases List.mem_cons.1 hx with rfl | hx
        · exact hc
        · simpa using List.mem_takeWhile_imp hx
      have hsplit := List.takeWhile_append_dropWhile (p := fun x => !d x) (l := rest)
      rw [hs] at hle
      dsimp only
      cases hr : rest.dropWhile (!d ·) with
      | nil =>
        rw [hr, List.append_nil] at hsplit
        rw [hsplit] at htoken ⊢
        rw [List.splitOnP_eq_singleton htoken]
        cases fuel with
        | zero => rfl
        | succ fuel => rfl
      | cons e s' =>
        have he : d e = true := by
          have := List.head?_dropWhile_not (fun x => !d x) rest
          rw [hr] at this
          simpa using this
        rw [hr] at hsplit
        have hpieces : (c :: rest).splitOnP d = (c :: rest.takeWhile (!d ·)) :: s'.splitOnP d := by
          rw [← List.splitOnP_append_cons_of_forall_mem htoken e he s', List.cons_append, hsplit]
        have hlt : s'.length < fuel := by
          have := congrArg List.length hsplit
          simp only [List.length_append, List.length_cons] at this hle
          omega
        rw [hpieces, List.filter_cons_of_pos (by simp), List.tail?_cons, ih hlt]

/-- **The tokens** are the pieces between the delimiters that are not empty. -/
theorem tokens_eq_filter : tokens d s = (s.splitOnP d).filter (!·.isEmpty) :=
  tokensFrom_eq_filter (Nat.lt_succ_self _)

theorem tokens_intercalate [DecidableEq α] {c : α} {ts : List (List α)} (h : ∀ t ∈ ts, t ≠ [] ∧ c ∉ t) :
    tokens (· == c) (List.intercalate [c] ts) = ts := by
  rw [tokens_eq_filter]
  cases ts with
  | nil => rfl
  | cons t ts =>
    rw [← List.splitOn_eq_splitOnP, List.splitOn_intercalate c (fun l hl => (h l hl).2) (by simp),
      List.filter_eq_self.2]
    intro l hl
    simpa using (h l hl).1

theorem not_mem_intercalate {c : α} {sep : List α} {ls : List (List α)} (hsep : c ∉ sep)
    (h : ∀ l ∈ ls, c ∉ l) : c ∉ List.intercalate sep ls := by
  induction ls with
  | nil => simp
  | cons l ls ih =>
    obtain ⟨hl, hls⟩ := List.forall_mem_cons.1 h
    cases ls with
    | nil => simpa using hl
    | cons m ls =>
      rw [List.intercalate_cons_cons, List.mem_append, List.mem_append]
      rintro ((hc | hc) | hc)
      · exact hl hc
      · exact hsep hc
      · exact ih hls hc

end TrebleDoze.Lib
