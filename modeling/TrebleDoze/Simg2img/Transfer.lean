import TrebleDoze.Lib.Loop
import TrebleDoze.Simg2img.SendFile

/-!
# `nsendfile` on the values of its calls

The model of `SendFile` counts in ℕ. Here `count` is a `size_t` and `res` a `ssize_t` as in the source,
a call returns what its function returns, `0` and `-1` included, and the `while` is a loop that might
run for ever. The calls are kept in a log, so that a copy can be told from the values it has met.

* `nsendfileStep_run`: an iteration moves bytes that it takes from `count`, or it exits;
* `nsendfile_returns`: the loop ends, and it returns just when every value of the log is fine, with the
  next `count` bytes copied; otherwise it exits, with a part of them on the output.
-/

namespace TrebleDoze.Simg2img.Words

open Lib

/-! ### The calls -/

/-- What a call returns when there are `available` bytes for it to move: `-1`, or how many it has
moved. -/
structure Transfer (available : ℕ) where
  res : Int64
  valid : res = -1 ∨ 0 ≤ res ∧ res.toNatClampNeg ≤ available

/-- The bytes moved. -/
def Transfer.moved {available : ℕ} (t : Transfer available) : ℕ := t.res.toNatClampNeg

/-- The values of the calls, by their numbers in a run. -/
structure Transfers where
  splice : ℕ → (available : ℕ) → Transfer available
  read : ℕ → (available : ℕ) → Transfer available
  write : ℕ → (available : ℕ) → Transfer available

/-- A call that has been made, with its value. -/
inductive Call where
  | splice (res : Int64)
  | read (res : Int64)
  | write (size : UInt64) (res : Int64)
deriving DecidableEq, Repr

/-- A value with which the copy goes on: `splice` moves bytes or fails, `read` moves bytes, and `write`
moves all that it is given. -/
def Call.Fine : Call → Prop
  | splice res => res ≠ 0
  | read res => 0 < res
  | write size res => res.toInt = size.toNat

instance : DecidablePred Call.Fine
  | .splice res => inferInstanceAs (Decidable (res ≠ 0))
  | .read res => inferInstanceAs (Decidable (0 < res))
  | .write size res => inferInstanceAs (Decidable (res.toInt = size.toNat))

/-- The state of a copy: the two files, the variable `disable_splice`, and the calls made so far. -/
structure Sending where
  files : Files
  disableSplice : Bool
  log : List Call
deriving DecidableEq, Repr

/-- A program over a copy; an error is the code of an `exit`. -/
abbrev Prog := EStateM ℕ Sending

/-- A call is made: what it does to the files, and its line of the log. -/
def Sending.made (s : Sending) (files : Files) (call : Call) : Sending :=
  { s with files := files, log := s.log ++ [call] }

section

variable (T : Transfers)

/-- `splice(in_fd, NULL, out_fd, NULL, count, 0)`. -/
def sysSplice (count : UInt64) : Prog Int64 := fun s =>
  let t := T.splice s.log.length (min count.toNat s.files.input.length)
  .ok t.res (s.made (s.files.copy t.moved) (.splice t.res))

/-- `read(in_fd, buf, size)`, with what it leaves in the buffer. -/
def sysRead (size : UInt64) : Prog (Int64 × List UInt8) := fun s =>
  let t := T.read s.log.length (min size.toNat s.files.input.length)
  .ok (t.res, s.files.input.take t.moved) (s.made (s.files.skip t.moved) (.read t.res))

/-- `write(out_fd, buf, size)`. The kernel refuses a size that is not a `ssize_t`; a size that is one is
within the buffer. -/
def sysWrite (buf : List UInt8) (size : UInt64) : Prog Int64 := fun s =>
  if size.toInt64 < 0 then .ok (-1) (s.made s.files (.write size (-1)))
  else
    let t := T.write s.log.length size.toNat
    .ok t.res (s.made (s.files.append (buf.take t.moved)) (.write size t.res))

/-! ### `nsendfile` -/

/-- `ssize_t res = -1; if(!disable_splice) res = splice(..)`. -/
def trySplice (count : UInt64) : Prog Int64 := do
  let s ← get
  if s.disableSplice then pure (-1) else sysSplice T count

/-- `if(count > 16*1024 && res < 1024) disable_splice = 1`. -/
def noteSplice (count : UInt64) (res : Int64) : Prog Unit :=
  if 16 * 1024 < count ∧ res < 1024 then modify fun s => { s with disableSplice := true }
  else pure ()

/-- `sizeToRead`; the comparison is one of unsigned numbers. -/
def sizeToRead (count : UInt64) : Int64 :=
  let sizeToRead : Int64 := 1024 * 1024
  if count < sizeToRead.toUInt64 then count.toInt64 else sizeToRead

/-- The `read` and the `write` that stand in for `splice`; the value of `read` goes to `write` as a
size. -/
def readWrite (count : UInt64) : Prog Int64 := do
  let (res, buf) ← sysRead T (sizeToRead count).toUInt64
  let written ← sysWrite T buf res.toUInt64
  exitIf (written ≠ res) 114
  pure res

/-- `if(res==-1) { .. }`. -/
def orReadWrite (count : UInt64) (res : Int64) : Prog Int64 :=
  if res = -1 then readWrite T count else pure res

/-- An iteration of `nsendfile`, with the bytes that it takes from `count`. -/
def nsendfileStep (count : UInt64) : Prog Int64 := do
  let spliced ← trySplice T count
  noteSplice count spliced
  let res ← orReadWrite T count spliced
  exitIf (res = 0 ∨ res = -1) 112
  pure res

/-- The `while` of `nsendfile(1, 0, count)`. -/
def nsendfileBody :
    UInt64 × Sending → Iter (UInt64 × Sending) (EStateM.Result ℕ Sending Unit)
  | (count, s) =>
    if count = 0 then .done (.ok () s)
    else
      match nsendfileStep T count s with
      | .ok res s' => .next (count - res.toUInt64, s')
      | .error code s' => .done (.error code s')

end

/-! ### What a copy has done -/

/-- `n` bytes have been copied, by calls whose values are all fine. -/
structure Copied (n : ℕ) (s s' : Sending) : Prop where
  le : n ≤ s.files.input.length
  files : s'.files = s.files.copy n
  fine : ∃ calls, s'.log = s.log ++ calls ∧ ∀ call ∈ calls, call.Fine

/-- A call has returned a value that is not fine, and of `count` bytes the first ones are written. -/
structure Stopped (count : ℕ) (s s' : Sending) : Prop where
  output : ∃ n ≤ count, s'.files.output = s.files.output ++ s.files.input.take n
  notFine : ∃ calls, s'.log = s.log ++ calls ∧ ∃ call ∈ calls, ¬call.Fine

/-- What a copy of `count` bytes ends with. -/
def Outcome (count : ℕ) (s : Sending) : EStateM.Result ℕ Sending Unit → Prop
  | .ok () s' => Copied count s s'
  | .error code s' => (code = 112 ∨ code = 114) ∧ Stopped count s s'

section

variable {m n : ℕ} {s s₁ s' : Sending}

theorem Copied.refl (s : Sending) : Copied 0 s s :=
  ⟨Nat.zero_le _, (Files.copy_zero _).symm, [], by simp, by simp⟩

theorem Copied.trans (h : Copied m s s₁) (h' : Copied n s₁ s') : Copied (m + n) s s' := by
  obtain ⟨calls, hlog, hfine⟩ := h.fine
  obtain ⟨calls', hlog', hfine'⟩ := h'.fine
  have hlen := h'.le
  rw [h.files, Files.length_input_copy] at hlen
  have hle := h.le
  refine ⟨by omega, by rw [h'.files, h.files, Files.copy_copy], calls ++ calls', ?_, ?_⟩
  · rw [hlog', hlog, List.append_assoc]
  · intro call hcall
    rcases List.mem_append.1 hcall with hcall | hcall
    · exact hfine call hcall
    · exact hfine' call hcall

theorem Copied.stopped (h : Copied m s s₁) (h' : Stopped n s₁ s') : Stopped (m + n) s s' := by
  obtain ⟨calls, hlog, -⟩ := h.fine
  obtain ⟨calls', hlog', call, hcall, hnot⟩ := h'.notFine
  obtain ⟨k, hk, houtput⟩ := h'.output
  refine ⟨⟨m + k, by omega, ?_⟩, calls ++ calls', ?_, call, ?_, hnot⟩
  · rw [houtput, h.files, List.take_add]
    simp only [Files.copy, Files.skip, Files.append, List.append_assoc]
  · rw [hlog', hlog, List.append_assoc]
  · exact List.mem_append_right calls hcall

end

/-! ### The values of the calls -/

theorem Transfer.moved_le {available : ℕ} (t : Transfer available) : t.moved ≤ available := by
  rcases t.valid with h | ⟨-, h⟩
  · rw [Transfer.moved, h]
    exact Nat.zero_le _
  · exact h

/-- A value is `-1`, `0` or above. -/
theorem Transfer.res_cases {available : ℕ} (t : Transfer available) :
    (t.res = 0 ∨ t.res = -1) ∧ t.moved = 0 ∨ 0 < t.res := by
  rcases t.valid with h | ⟨h, -⟩
  · exact .inl ⟨.inr h, by rw [Transfer.moved, h]; rfl⟩
  · by_cases hzero : t.res = 0
    · exact .inl ⟨.inl hzero, by rw [Transfer.moved, hzero]; rfl⟩
    · exact .inr (Int64.lt_of_le_of_ne h (Ne.symm hzero))

theorem ne_neg_one {res : Int64} (h : 0 ≤ res) : res ≠ -1 := by
  rintro rfl
  exact absurd h (by decide)

theorem ne_zero_of_pos {res : Int64} (h : 0 < res) : res ≠ 0 := by
  rintro rfl
  exact absurd h (by decide)

/-- A value that is not below 0 is the size that it is converted to. -/
theorem toInt_eq_toNat_toUInt64 {res : Int64} (h : 0 ≤ res) : res.toInt = res.toUInt64.toNat := by
  rw [Int64.toNat_toUInt64_of_le h, Int64.cast_toNatClampNeg res h]

theorem toNat_sizeToRead (count : UInt64) :
    (sizeToRead count).toUInt64.toNat = min count.toNat (1024 * 1024) := by
  have hsize : (1024 * 1024 : Int64).toUInt64.toNat = 1024 * 1024 := by decide
  dsimp only [sizeToRead]
  split
  · rename_i h
    rw [UInt64.lt_iff_toNat_lt, hsize] at h
    rw [UInt64.toUInt64_toInt64]
    omega
  · rename_i h
    rw [UInt64.lt_iff_toNat_lt, hsize] at h
    rw [hsize]
    omega

/-! ### An iteration -/

/-- What an iteration has done once `res` is the number of bytes it moves. -/
def Moved (count : UInt64) (s : Sending) (res : Int64) (s' : Sending) : Prop :=
  0 < res ∧ res.toNatClampNeg ≤ count.toNat ∧ Copied res.toNatClampNeg s s' ∨
    (res = 0 ∨ res = -1) ∧ Stopped count.toNat s s'

/-- What an iteration ends with. -/
def StepOutcome (count : UInt64) (s : Sending) : EStateM.Result ℕ Sending Int64 → Prop
  | .ok res s' => 0 < res ∧ res.toNatClampNeg ≤ count.toNat ∧ Copied res.toNatClampNeg s s'
  | .error code s' => (code = 112 ∨ code = 114) ∧ Stopped count.toNat s s'

section

variable {T : Transfers} {count : UInt64} {s s₁ s' : Sending} {res : Int64}

theorem Stopped.made {n : ℕ} {call : Call} (h : ¬call.Fine) : Stopped n s (s.made s.files call) :=
  ⟨⟨0, Nat.zero_le n, by simp [Sending.made]⟩, [call], rfl, call, List.mem_singleton_self call, h⟩

theorem trySplice_eq (T : Transfers) (count : UInt64) (s : Sending) : trySplice T count s =
    (if s.disableSplice then pure (-1) else sysSplice T count : Prog Int64) s := rfl

/-- `splice` moves a part of what is asked for, or fails, with nothing moved. -/
theorem trySplice_run (T : Transfers) (count : UInt64) (s : Sending) : ∃ res s',
    trySplice T count s = .ok res s' ∧
      (res = -1 ∧ Copied 0 s s' ∨ res ≠ -1 ∧ Moved count s res s') := by
  by_cases hdis : s.disableSplice = true
  · have hrun : trySplice T count s = .ok (-1) s := by
      rw [trySplice_eq, if_pos hdis]
      rfl
    exact ⟨-1, s, hrun, .inl ⟨rfl, Copied.refl s⟩⟩
  · rw [trySplice_eq, if_neg hdis]
    refine ⟨_, _, rfl, ?_⟩
    have hle := (T.splice s.log.length (min count.toNat s.files.input.length)).moved_le
    have hcases := (T.splice s.log.length (min count.toNat s.files.input.length)).res_cases
    generalize T.splice s.log.length (min count.toNat s.files.input.length) = t at hle hcases ⊢
    rcases hcases with ⟨hres | hres, hmoved⟩ | hpos
    · rw [hmoved, Files.copy_zero, hres]
      exact .inr ⟨by decide, .inr ⟨.inl rfl, Stopped.made (by decide)⟩⟩
    · refine .inl ⟨hres, Nat.zero_le _, by rw [hmoved]; rfl, [.splice t.res], rfl, ?_⟩
      rw [hres]
      decide
    · have hfine : Call.Fine (.splice t.res) := ne_zero_of_pos hpos
      refine .inr ⟨ne_neg_one (Int64.le_of_lt hpos), .inl ⟨hpos, ?_, ?_, rfl, [.splice t.res], rfl, ?_⟩⟩
      · exact Nat.le_trans hle (Nat.min_le_left ..)
      · exact Nat.le_trans hle (Nat.min_le_right ..)
      · intro call hcall
        rw [List.mem_singleton.1 hcall]
        exact hfine

theorem noteSplice_run (count : UInt64) (res : Int64) (s : Sending) :
    ∃ flag, noteSplice count res s = .ok () { s with disableSplice := flag } := by
  unfold noteSplice
  split
  · exact ⟨true, rfl⟩
  · exact ⟨s.disableSplice, rfl⟩

/-- `write` takes a part of the buffer, and the whole of it when its value is the size. -/
theorem sysWrite_run (T : Transfers) {buf : List UInt8} {size : UInt64} (s : Sending)
    (hbuf : buf.length = size.toNat) (hsize : 0 ≤ size.toInt64) : ∃ written s',
    sysWrite T buf size s = .ok written s' ∧ s'.log = s.log ++ [.write size written] ∧
    ∃ n, s'.files = s.files.append (buf.take n) ∧ (written = size.toInt64 → n = buf.length) := by
  have hrun : sysWrite T buf size s =
      .ok (T.write s.log.length size.toNat).res
        (s.made (s.files.append (buf.take (T.write s.log.length size.toNat).moved))
          (.write size (T.write s.log.length size.toNat).res)) := by
    unfold sysWrite
    rw [if_neg (Int64.not_lt.2 hsize)]
  refine ⟨_, _, hrun, rfl, _, rfl, fun hwritten => ?_⟩
  rw [Transfer.moved, hwritten, ← Int64.toNat_toUInt64_of_le hsize, UInt64.toUInt64_toInt64, hbuf]

/-- `write` refuses the size `-1`. -/
theorem sysWrite_neg_one (T : Transfers) (buf : List UInt8) (s : Sending) :
    sysWrite T buf (-1 : Int64).toUInt64 s =
      .ok (-1) (s.made s.files (.write (-1 : Int64).toUInt64 (-1))) := by
  unfold sysWrite
  rw [if_pos (by decide)]

theorem readWrite_eq {buf : List UInt8} {written : Int64}
    (hread : sysRead T (sizeToRead count).toUInt64 s = .ok (res, buf) s₁)
    (hwrite : sysWrite T buf res.toUInt64 s₁ = .ok written s') :
    readWrite T count s = if written = res then .ok res s' else .error 114 s' := by
  rw [readWrite, bind_of_ok hread]
  show (sysWrite T buf res.toUInt64 >>= _) s₁ = _
  rw [bind_of_ok hwrite, exitIf_bind, ite_not]
  rfl

theorem Copied.of_readWrite {n : ℕ} {size : UInt64} {written : Int64}
    (hn : n ≤ s.files.input.length) (hfiles : s'.files = s.files.copy n)
    (hlog : s'.log = s.log ++ [.read res] ++ [.write size written])
    (hres : 0 < res) (hwritten : written.toInt = size.toNat) : Copied n s s' := by
  refine ⟨hn, hfiles, [.read res, .write size written], ?_, ?_⟩
  · rw [hlog, List.append_assoc]
    rfl
  · intro call hcall
    rcases List.mem_pair.1 hcall with hcall | hcall
    · rw [hcall]
      exact hres
    · rw [hcall]
      exact hwritten

theorem Stopped.of_readWrite {m n : ℕ} {size : UInt64} {written : Int64} (hn : n ≤ m)
    (houtput : s'.files.output = s.files.output ++ s.files.input.take n)
    (hlog : s'.log = s.log ++ [.read res] ++ [.write size written])
    (h : ¬(0 < res) ∨ written.toInt ≠ size.toNat) : Stopped m s s' := by
  refine ⟨⟨n, hn, houtput⟩, [.read res, .write size written], ?_, ?_⟩
  · rw [hlog, List.append_assoc]
    rfl
  · rcases h with h | h
    · exact ⟨.read res, by simp, h⟩
    · exact ⟨.write size written, by simp, h⟩

theorem readWrite_run (T : Transfers) (count : UInt64) (s : Sending) :
    (∃ s', readWrite T count s = .error 114 s' ∧ Stopped count.toNat s s') ∨
      ∃ res s', readWrite T count s = .ok res s' ∧ Moved count s res s' := by
  obtain ⟨t, hread⟩ : ∃ t : Transfer (min (sizeToRead count).toUInt64.toNat s.files.input.length),
      sysRead T (sizeToRead count).toUInt64 s =
        .ok (t.res, s.files.input.take t.moved) (s.made (s.files.skip t.moved) (.read t.res)) :=
    ⟨_, rfl⟩
  have hcount : t.moved ≤ count.toNat := by
    have hle := t.moved_le
    have hsize := toNat_sizeToRead count
    omega
  have hinput : t.moved ≤ s.files.input.length := Nat.le_trans t.moved_le (Nat.min_le_right ..)
  have hlen : (s.files.input.take t.moved).length = t.moved := by
    rw [List.length_take]
    omega
  rcases t.valid with hres | ⟨hpos, -⟩
  · -- a `read` that fails: the `write` of `-1` bytes is refused
    rw [hres] at hread
    have hrun := readWrite_eq hread (sysWrite_neg_one T _ _)
    rw [if_pos rfl] at hrun
    refine .inr ⟨-1, _, hrun, .inr ⟨.inr rfl, ?_⟩⟩
    exact Stopped.of_readWrite (Nat.zero_le _) (by simp [Sending.made, Files.skip]) rfl
      (.inl (by decide))
  · have hsize : t.res.toUInt64.toNat = t.moved := Int64.toNat_toUInt64_of_le hpos
    obtain ⟨written, s', hwrite, hlog, n, hfiles, hall⟩ := sysWrite_run T
      (s.made (s.files.skip t.moved) (.read t.res)) (hlen.trans hsize.symm)
      (by rw [Int64.toInt64_toUInt64]; exact hpos)
    rw [Int64.toInt64_toUInt64] at hall
    rw [readWrite_eq hread hwrite]
    have houtput : s'.files.output = s.files.output ++ s.files.input.take (min n t.moved) := by
      rw [hfiles, ← List.take_take]
      rfl
    by_cases hwritten : written = t.res
    · rw [if_pos hwritten]
      refine .inr ⟨t.res, s', rfl, ?_⟩
      by_cases hzero : 0 < t.res
      · have hfiles' : s'.files = s.files.copy t.moved := by
          rw [hfiles, hall hwritten, List.take_length]
          rfl
        refine .inl ⟨hzero, hcount, Copied.of_readWrite hinput hfiles' hlog hzero ?_⟩
        rw [hwritten]
        exact toInt_eq_toNat_toUInt64 hpos
      · have hzero' : t.res = 0 := Int64.le_antisymm (Int64.not_lt.1 hzero) hpos
        exact .inr ⟨.inl hzero', Stopped.of_readWrite (by omega) houtput hlog (.inl hzero)⟩
    · rw [if_neg hwritten]
      refine .inl ⟨s', rfl, Stopped.of_readWrite (by omega) houtput hlog (.inr ?_)⟩
      rw [← toInt_eq_toNat_toUInt64 hpos]
      exact fun h => hwritten (Int64.toInt_inj.1 h)

/-- The copy through the buffer comes after a `splice` that has failed, or that is not called. -/
theorem orReadWrite_run (h : res = -1 ∧ Copied 0 s s₁ ∨ res ≠ -1 ∧ Moved count s res s₁) :
    (∃ s', orReadWrite T count res s₁ = .error 114 s' ∧ Stopped count.toNat s s') ∨
      ∃ res' s', orReadWrite T count res s₁ = .ok res' s' ∧ Moved count s res' s' := by
  unfold orReadWrite
  rcases h with ⟨hres, hcopied⟩ | ⟨hres, hmoved⟩
  · rw [if_pos hres]
    rcases readWrite_run T count s₁ with ⟨s', hrun, hstopped⟩ | ⟨res', s', hrun, hmoved⟩
    · have hstopped' := hcopied.stopped hstopped
      rw [Nat.zero_add] at hstopped'
      exact .inl ⟨s', hrun, hstopped'⟩
    · refine .inr ⟨res', s', hrun, ?_⟩
      rcases hmoved with ⟨hpos, hle, hcopied'⟩ | ⟨hend, hstopped⟩
      · have hcopied' := hcopied.trans hcopied'
        rw [Nat.zero_add] at hcopied'
        exact .inl ⟨hpos, hle, hcopied'⟩
      · have hstopped' := hcopied.stopped hstopped
        rw [Nat.zero_add] at hstopped'
        exact .inr ⟨hend, hstopped'⟩
  · rw [if_neg hres]
    exact .inr ⟨res, s₁, rfl, hmoved⟩

/-- **An iteration.**  It moves bytes from the input to the output, or it exits. -/
theorem nsendfileStep_run (T : Transfers) (count : UInt64) (s : Sending) :
    StepOutcome count s (nsendfileStep T count s) := by
  obtain ⟨spliced, s₁, hsplice, hspliced⟩ := trySplice_run T count s
  obtain ⟨flag, hnote⟩ := noteSplice_run count spliced s₁
  have hflag : spliced = -1 ∧ Copied 0 s { s₁ with disableSplice := flag } ∨
      spliced ≠ -1 ∧ Moved count s spliced { s₁ with disableSplice := flag } := by
    rcases hspliced with ⟨hres, h⟩ | ⟨hres, ⟨hpos, hle, h⟩ | ⟨hend, h⟩⟩
    · exact .inl ⟨hres, h.le, h.files, h.fine⟩
    · exact .inr ⟨hres, .inl ⟨hpos, hle, h.le, h.files, h.fine⟩⟩
    · exact .inr ⟨hres, .inr ⟨hend, h.output, h.notFine⟩⟩
  rw [nsendfileStep, bind_of_ok hsplice, bind_of_ok hnote]
  rcases orReadWrite_run (T := T) hflag with ⟨s', hrun, hstopped⟩ | ⟨res, s', hrun, hmoved⟩
  · rw [bind_of_error hrun]
    exact ⟨.inr rfl, hstopped⟩
  · rw [bind_of_ok hrun, exitIf_bind]
    rcases hmoved with ⟨hpos, hle, hcopied⟩ | ⟨hend, hstopped⟩
    · rw [if_neg (not_or.2 ⟨ne_zero_of_pos hpos, ne_neg_one (Int64.le_of_lt hpos)⟩)]
      exact ⟨hpos, hle, hcopied⟩
    · rw [if_pos hend]
      exact ⟨.inl rfl, hstopped⟩

theorem toNat_sub_res (hpos : 0 < res) (hle : res.toNatClampNeg ≤ count.toNat) :
    (count - res.toUInt64).toNat = count.toNat - res.toNatClampNeg ∧ 0 < res.toNatClampNeg := by
  have hres := Int64.toNat_toUInt64_of_le (Int64.le_of_lt hpos)
  have hsub : res.toUInt64 ≤ count := by
    rw [UInt64.le_iff_toNat_le, hres]
    exact hle
  refine ⟨by rw [UInt64.toNat_sub_of_le _ _ hsub, hres], ?_⟩
  rw [Int64.toNatClampNeg_pos_iff]
  exact hpos

/-! ### The runs -/

theorem nsendfileBody_next {t : UInt64 × Sending}
    (h : nsendfileBody T (count, s) = .next t) :
    count ≠ 0 ∧ ∃ res s', nsendfileStep T count s = .ok res s' ∧ t = (count - res.toUInt64, s') := by
  unfold nsendfileBody at h
  dsimp only at h
  split at h
  · cases h
  · rename_i hcount
    split at h
    · rename_i res s' hrun
      exact ⟨hcount, res, s', hrun, (Iter.next.inj h).symm⟩
    · cases h

theorem nsendfileBody_done {r : EStateM.Result ℕ Sending Unit}
    (h : nsendfileBody T (count, s) = .done r) :
    count = 0 ∧ r = .ok () s ∨
      count ≠ 0 ∧ ∃ code s', nsendfileStep T count s = .error code s' ∧ r = .error code s' := by
  unfold nsendfileBody at h
  dsimp only at h
  split at h
  · rename_i hcount
    exact .inl ⟨hcount, (Iter.done.inj h).symm⟩
  · rename_i hcount
    split at h
    · cases h
    · rename_i code s' hrun
      exact .inr ⟨hcount, code, s', hrun, (Iter.done.inj h).symm⟩

/-- **`nsendfile`.**  Whatever its calls return and wherever `disable_splice` is set, the copy ends. It
returns just when every value is fine, and has then copied the next `count` bytes; otherwise it exits. -/
theorem nsendfile_returns (T : Transfers) (count : UInt64) (s : Sending) :
    ∃ r, Returns (nsendfileBody T) (count, s) r ∧ Outcome count.toNat s r := by
  refine loop_rule (I := fun t => ∃ m, m + t.1.toNat = count.toNat ∧ Copied m s t.2)
    (fun t => t.1.toNat) ?_ ?_ ⟨0, Nat.zero_add _, Copied.refl s⟩
  · -- an iteration that goes on copies a part
    rintro ⟨rest, s₁⟩ t ⟨m, hm, hcopied⟩ h
    dsimp only at hm hcopied
    obtain ⟨-, res, s', hrun, rfl⟩ := nsendfileBody_next h
    have hstep := nsendfileStep_run T rest s₁
    rw [hrun] at hstep
    obtain ⟨hpos, hle, hmove⟩ := hstep
    obtain ⟨hsub, hmoved⟩ := toNat_sub_res hpos hle
    refine ⟨⟨m + res.toNatClampNeg, ?_, hcopied.trans hmove⟩, ?_⟩
    · show m + res.toNatClampNeg + (rest - res.toUInt64).toNat = count.toNat
      omega
    · show (rest - res.toUInt64).toNat < rest.toNat
      omega
  · -- the loop ends with nothing left, or with an `exit`
    rintro ⟨rest, s₁⟩ r ⟨m, hm, hcopied⟩ h
    dsimp only at hm hcopied
    rcases nsendfileBody_done h with ⟨hzero, rfl⟩ | ⟨-, code, s', hrun, rfl⟩
    · rw [hzero, UInt64.toNat_zero, Nat.add_zero] at hm
      rw [← hm]
      exact hcopied
    · have hstep := nsendfileStep_run T rest s₁
      rw [hrun] at hstep
      rw [← hm]
      exact ⟨hstep.1, hcopied.stopped hstep.2⟩

end

end TrebleDoze.Simg2img.Words
