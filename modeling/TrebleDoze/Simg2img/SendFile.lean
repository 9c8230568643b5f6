import TrebleDoze.Lib.Exit
import Mathlib.Data.List.Basic

/-!
# The calls of the kernel and `nsendfile`

The standard input and output are two lists of bytes. What a call of the kernel moves is its answer: a
failure, a part, at least one byte when there are any, or all that is asked for. The answers are
parameters, numbered by the calls, so that a statement for every `Kernel` is about every behaviour.

* `nsendfile_ok`: a copy that returns has copied the next `count` bytes;
* `nsendfile_of_moves`: it returns when there are as many bytes and no transfer fails.
-/

namespace TrebleDoze.Simg2img

open Lib

/-! ### The kernel -/

/-- What a call answers when it is asked to move bytes. -/
inductive Answer where
  | failed
  | upTo (n : ℕ)
  | all
deriving DecidableEq, Repr

/-- The number of bytes moved out of those that are asked for and are there; `none` is `-1`. -/
def Answer.moved (available : ℕ) : Answer → Option ℕ
  | failed => none
  | upTo n => some (min (n + 1) available)
  | all => some available

/-- The answers to the calls, by their numbers in a run: `header` to the `read` of a header or of a
word, `splice` and `read` to those of `nsendfile`. -/
structure Kernel where
  header : ℕ → Answer
  splice : ℕ → Answer
  read : ℕ → Answer
  write : ℕ → Answer

/-- The kernel that always moves all that is asked for. -/
def Kernel.eager : Kernel := ⟨fun _ => .all, fun _ => .all, fun _ => .all, fun _ => .all⟩

/-- What is left of the standard input, and the standard output. -/
structure Files where
  input : List UInt8
  output : List UInt8
deriving DecidableEq, Repr

namespace Files

variable (files : Files)

/-- Takes `n` bytes of the input. -/
def skip (n : ℕ) : Files := { files with input := files.input.drop n }

/-- Adds to the output. -/
def append (bytes : List UInt8) : Files := { files with output := files.output ++ bytes }

/-- Copies `n` bytes from the input to the output. -/
def copy (n : ℕ) : Files := (files.skip n).append (files.input.take n)

@[simp] theorem copy_zero : files.copy 0 = files := by simp [copy, skip, append]

theorem copy_copy (m n : ℕ) : (files.copy m).copy n = files.copy (m + n) := by
  simp [copy, skip, append, List.drop_drop, List.take_add]

theorem length_input_copy (n : ℕ) : (files.copy n).input.length = files.input.length - n :=
  List.length_drop

theorem length_output_append (bytes : List UInt8) :
    (files.append bytes).output.length = files.output.length + bytes.length :=
  List.length_append

theorem length_output_copy {files : Files} {n : ℕ} (h : n ≤ files.input.length) :
    (files.copy n).output.length = files.output.length + n := by
  rw [copy, length_output_append, List.length_take, Nat.min_eq_left h]
  rfl

end Files

/-- The state of the program: the two files, the number of calls made so far, and the variable
`disable_splice`. -/
structure Os where
  files : Files
  calls : ℕ
  disableSplice : Bool
deriving DecidableEq, Repr

/-- A program; an error is the code of an `exit`. -/
abbrev Proc := EStateM ℕ Os

section

variable (K : Kernel)

/-- `splice(in_fd, NULL, out_fd, NULL, count, 0)`. -/
def sysSplice (count : ℕ) : Proc (Option ℕ) := fun os =>
  let moved := (K.splice os.calls).moved (min count os.files.input.length)
  .ok moved { os with files := os.files.copy (moved.getD 0), calls := os.calls + 1 }

/-- `read(in_fd, buf, size)`, with the bytes read. -/
def sysRead (answers : ℕ → Answer) (size : ℕ) : Proc (Option (List UInt8)) := fun os =>
  let moved := (answers os.calls).moved (min size os.files.input.length)
  .ok (moved.map fun n => os.files.input.take n)
    { os with files := os.files.skip (moved.getD 0), calls := os.calls + 1 }

/-- `write(out_fd, buf, size)`. -/
def sysWrite (buf : List UInt8) : Proc (Option ℕ) := fun os =>
  let moved := (K.write os.calls).moved buf.length
  .ok moved { os with files := os.files.append (buf.take (moved.getD 0)), calls := os.calls + 1 }

/-! ### `nsendfile` -/

/-- `res = -1; if(!disable_splice) res = splice(..)`. -/
def trySplice (count : ℕ) : Proc (Option ℕ) := do
  let os ← get
  if os.disableSplice then pure none else sysSplice K count

/-- `if(count > 16*1024 && res < 1024) disable_splice = 1`, where `res` is the answer of `splice`, or
`-1` when it is not called. -/
def noteSplice (count : ℕ) (res : Option ℕ) : Proc Unit :=
  if 16 * 1024 < count ∧ res.all (· < 1024) then modify fun os => { os with disableSplice := true }
  else pure ()

/-- The `read` and the `write` that stand in for `splice`. A `read` that fails makes a `write` of `-1`
bytes, which answers `-1` as well, so that the program goes on to `exit(112)`. -/
def readWrite (count : ℕ) : Proc ℕ := do
  match ← sysRead K.read (min count (1024 * 1024)) with
  | none => throw 112
  | some buf =>
    let written ← sysWrite K buf
    exitIf (written ≠ some buf.length) 114
    pure buf.length

/-- `if(res==-1) { .. }`. -/
def orReadWrite (count : ℕ) : Option ℕ → Proc ℕ
  | some res => pure res
  | none => readWrite K count

/-- An iteration of `nsendfile`, with the number of bytes it moves. -/
def nsendfileStep (count : ℕ) : Proc { res : ℕ // 0 < res } := do
  let spliced ← trySplice K count
  noteSplice count spliced
  let res ← orReadWrite K count spliced
  if h : 0 < res then pure ⟨res, h⟩ else throw 112

/-- `nsendfile(1, 0, count)`. -/
def nsendfile (count : ℕ) : Proc Unit :=
  if 0 < count then do
    let res ← nsendfileStep K count
    nsendfile (count - res)
  else pure ()
termination_by count
decreasing_by exact Nat.sub_lt ‹0 < count› res.2

end

/-! ### What a copy moves -/

section

variable {available n : ℕ} {a : Answer}

theorem Answer.moved_cases (h : a.moved available = some n) :
    n = available ∨ ∃ k, n = min (k + 1) available := by
  cases a with
  | failed => cases h
  | upTo k => exact .inr ⟨k, (Option.some.inj h).symm⟩
  | all => exact .inl (Option.some.inj h).symm

theorem Answer.moved_le (h : a.moved available = some n) : n ≤ available := by
  rcases Answer.moved_cases h with hn | ⟨k, hn⟩ <;> omega

theorem Answer.moved_pos (h : a.moved available = some n) (hpos : 0 < available) : 0 < n := by
  rcases Answer.moved_cases h with hn | ⟨k, hn⟩ <;> omega

theorem Answer.exists_moved (h : a ≠ .failed) : ∃ n, a.moved available = some n := by
  cases a with
  | failed => exact absurd rfl h
  | upTo k => exact ⟨_, rfl⟩
  | all => exact ⟨_, rfl⟩

end

section

variable {K : Kernel} {count : ℕ} {os os' : Os}

theorem trySplice_eq (K : Kernel) (count : ℕ) (os : Os) :
    trySplice K count os = (if os.disableSplice then pure none else sysSplice K count) os := rfl

/-- `splice` moves a part of what is asked for and is there, at least a byte when there is one. -/
theorem trySplice_run (K : Kernel) (count : ℕ) (os : Os) : ∃ res calls,
    trySplice K count os = .ok res { os with files := os.files.copy (res.getD 0), calls := calls } ∧
    ∀ n ∈ res, n ≤ min count os.files.input.length ∧
      (0 < min count os.files.input.length → 0 < n) := by
  by_cases hdis : os.disableSplice = true
  · refine ⟨none, os.calls, ?_, by simp⟩
    rw [trySplice_eq, if_pos hdis]
    simp [pure, EStateM.pure]
  · refine ⟨(K.splice os.calls).moved (min count os.files.input.length), os.calls + 1, ?_, ?_⟩
    · rw [trySplice_eq, if_neg hdis]
      rfl
    · intro n hn
      exact ⟨Answer.moved_le hn, Answer.moved_pos hn⟩

theorem noteSplice_run (count : ℕ) (os : Os) (res : Option ℕ) :
    ∃ flag, noteSplice count res os = .ok () { os with disableSplice := flag } := by
  unfold noteSplice
  split
  · exact ⟨true, rfl⟩
  · exact ⟨os.disableSplice, rfl⟩

theorem sysRead_eq (answers : ℕ → Answer) {size n : ℕ}
    (h : (answers os.calls).moved (min size os.files.input.length) = some n) :
    sysRead answers size os = .ok (some (os.files.input.take n))
      { os with files := os.files.skip n, calls := os.calls + 1 } := by
  simp only [sysRead, h, Option.map_some, Option.getD_some]

theorem sysWrite_eq {bytes : List UInt8} {n : ℕ} (h : (K.write os.calls).moved bytes.length = some n) :
    sysWrite K bytes os = .ok (some n)
      { os with files := os.files.append (bytes.take n), calls := os.calls + 1 } := by
  simp only [sysWrite, h, Option.getD_some]

theorem readWrite_ok {n : ℕ} (h : readWrite K count os = .ok n os') :
    n ≤ min count os.files.input.length ∧ os'.files = os.files.copy n := by
  cases hread : (K.read os.calls).moved (min (min count (1024 * 1024)) os.files.input.length) with
  | none =>
    have hfail : sysRead K.read (min count (1024 * 1024)) os =
        .ok none { os with files := os.files.skip 0, calls := os.calls + 1 } := by
      simp only [sysRead, hread, Option.map_none, Option.getD_none]
    rw [readWrite, bind_of_ok hfail] at h
    exact absurd h throw_ne_ok
  | some k =>
    have hk := Answer.moved_le hread
    have hlen : (os.files.input.take k).length = k := by
      rw [List.length_take]
      omega
    rw [readWrite, bind_of_ok (sysRead_eq K.read hread)] at h
    obtain ⟨written, os₁, hwrite, h⟩ := bind_ok h
    simp only [sysWrite, EStateM.Result.ok.injEq] at hwrite
    obtain ⟨hwritten, hos₁⟩ := hwrite
    obtain ⟨_, os₂, hexit, h⟩ := bind_ok h
    obtain ⟨hall, hos₂⟩ := exitIf_ok hexit
    obtain ⟨hn, hos'⟩ := pure_ok h
    rw [hlen] at hn hall hwritten
    rw [not_not.1 hall] at hwritten
    refine ⟨by omega, ?_⟩
    rw [hos', hos₂, ← hos₁, hlen, hwritten, hn, Option.getD_some, List.take_take, Nat.min_self]
    rfl

/-- The copy through the buffer moves a byte when there is one, if no transfer fails. -/
theorem readWrite_of_moves (hread : ∀ i, K.read i ≠ .failed) (hwrite : ∀ i, K.write i = .all)
    (hcount : 0 < min count os.files.input.length) :
    ∃ n os', 0 < n ∧ readWrite K count os = .ok n os' := by
  obtain ⟨k, hmoved⟩ : ∃ k, (K.read os.calls).moved
      (min (min count (1024 * 1024)) os.files.input.length) = some k :=
    Answer.exists_moved (hread os.calls)
  have hk := Answer.moved_le hmoved
  have hpos := Answer.moved_pos hmoved (by omega)
  have hlen : (os.files.input.take k).length = k := by
    rw [List.length_take]
    omega
  have hall : (K.write (os.calls + 1)).moved (os.files.input.take k).length =
      some (os.files.input.take k).length := by rw [hwrite, Answer.moved]
  refine ⟨(os.files.input.take k).length,
    { os with
      files := (os.files.skip k).append
        ((os.files.input.take k).take (os.files.input.take k).length)
      calls := os.calls + 2 }, by omega, ?_⟩
  rw [readWrite, bind_of_ok (sysRead_eq K.read hmoved)]
  show (sysWrite K (os.files.input.take k) >>= _) _ = _
  rw [bind_of_ok (sysWrite_eq hall), bind_of_ok (exitIf_of_not (not_not.2 rfl))]
  rfl

/-! ### The runs of `nsendfile` -/

theorem nsendfileStep_ok {res : { res : ℕ // 0 < res }} (h : nsendfileStep K count os = .ok res os') :
    res.1 ≤ min count os.files.input.length ∧ os'.files = os.files.copy res := by
  obtain ⟨spliced, calls, hsplice, hle⟩ := trySplice_run K count os
  obtain ⟨flag, hnote⟩ := noteSplice_run count
    { os with files := os.files.copy (spliced.getD 0), calls := calls } spliced
  rw [nsendfileStep, bind_of_ok hsplice, bind_of_ok hnote] at h
  obtain ⟨n, os₁, hmove, h⟩ := bind_ok h
  have hcopy : n ≤ min count os.files.input.length ∧ os₁.files = os.files.copy n := by
    cases spliced with
    | none =>
      have hrw := readWrite_ok hmove
      rw [Option.getD_none, Files.copy_zero] at hrw
      exact hrw
    | some k =>
      obtain ⟨rfl, rfl⟩ := pure_ok hmove
      exact ⟨(hle _ rfl).1, rfl⟩
  by_cases hpos : 0 < n
  · rw [dif_pos hpos] at h
    obtain ⟨rfl, rfl⟩ := pure_ok h
    exact hcopy
  · rw [dif_neg hpos] at h
    exact absurd h throw_ne_ok

/-- An iteration moves a byte when there is one, if no transfer fails. -/
theorem nsendfileStep_of_moves (hread : ∀ i, K.read i ≠ .failed) (hwrite : ∀ i, K.write i = .all)
    (hcount : 0 < min count os.files.input.length) :
    ∃ res os', nsendfileStep K count os = .ok res os' := by
  obtain ⟨spliced, calls, hsplice, hle⟩ := trySplice_run K count os
  obtain ⟨flag, hnote⟩ := noteSplice_run count
    { os with files := os.files.copy (spliced.getD 0), calls := calls } spliced
  obtain ⟨n, os', hn, hmove⟩ : ∃ n os', 0 < n ∧ orReadWrite K count spliced
      ⟨os.files.copy (spliced.getD 0), calls, flag⟩ = .ok n os' := by
    cases spliced with
    | none =>
      apply readWrite_of_moves hread hwrite
      rw [Option.getD_none, Files.copy_zero]
      exact hcount
    | some n => exact ⟨n, _, (hle n rfl).2 hcount, rfl⟩
  refine ⟨⟨n, hn⟩, os', ?_⟩
  rw [nsendfileStep, bind_of_ok hsplice, bind_of_ok hnote, bind_of_ok hmove, dif_pos hn]
  rfl

/-- A copy that returns has copied the next `count` bytes: each iteration copies a part, and the parts
add up. -/
theorem nsendfile_ok (count : ℕ) (os os' : Os) (h : nsendfile K count os = .ok () os') :
    count ≤ os.files.input.length ∧ os'.files = os.files.copy count := by
  induction count using Nat.strongRecOn generalizing os with
  | _ count ih =>
    rw [nsendfile] at h
    by_cases hcount : 0 < count
    · rw [if_pos hcount] at h
      obtain ⟨res, os₁, hstep, h⟩ := bind_ok h
      obtain ⟨hle, hfiles⟩ := nsendfileStep_ok hstep
      have hres := res.2
      obtain ⟨hrest, hcopy⟩ := ih (count - res) (by omega) os₁ h
      rw [hfiles, Files.length_input_copy] at hrest
      refine ⟨by omega, ?_⟩
      rw [hcopy, hfiles, Files.copy_copy]
      congr 1
      omega
    · rw [if_neg hcount] at h
      have hzero : count = 0 := by omega
      obtain ⟨-, rfl⟩ := pure_ok h
      rw [hzero, Files.copy_zero]
      exact ⟨by omega, rfl⟩

theorem nsendfile_of_moves (hread : ∀ i, K.read i ≠ .failed) (hwrite : ∀ i, K.write i = .all)
    (count : ℕ) (os : Os) (hcount : count ≤ os.files.input.length) :
    ∃ os', nsendfile K count os = .ok () os' := by
  induction count using Nat.strongRecOn generalizing os with
  | _ count ih =>
    rw [nsendfile]
    by_cases hpos : 0 < count
    · rw [if_pos hpos]
      obtain ⟨res, os₁, hstep⟩ : ∃ res os₁, nsendfileStep K count os = .ok res os₁ :=
        nsendfileStep_of_moves hread hwrite (by omega)
      obtain ⟨hle, hfiles⟩ := nsendfileStep_ok hstep
      have hres := res.2
      have hlen : os₁.files.input.length = os.files.input.length - res := by
        rw [hfiles, Files.length_input_copy]
      obtain ⟨os', hrest⟩ := ih (count - res) (by omega) os₁ (by omega)
      refine ⟨os', ?_⟩
      rw [bind_of_ok hstep, hrest]
    · rw [if_neg hpos]
      exact ⟨os, rfl⟩

end

end TrebleDoze.Simg2img
