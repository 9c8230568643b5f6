import TrebleDoze.Simg2img.Transfer

/-!
# The two models of `nsendfile`

The answers of a `Kernel` are also values of the calls, `-1` and numbers of bytes. With them the loop on
words does what the recursion on ℕ does, as long as a `ssize_t` can count the input.

* `nsendfileStep_same`: an iteration;
* `nsendfile_same`: a copy, with the same end and the same files.
-/

namespace TrebleDoze.Simg2img.Words

open Lib

/-! ### Answers as values -/

/-- The greatest `ssize_t`. -/
def ssizeMax : ℕ := 0x7fffffffffffffff

theorem ofNat_facts {n : ℕ} (h : n ≤ ssizeMax) :
    0 ≤ Int64.ofNat n ∧ (Int64.ofNat n).toNatClampNeg = n := by
  have hlt : n < 2 ^ 63 := by
    unfold ssizeMax at h
    omega
  refine ⟨?_, Int64.toNatClampNeg_ofNat_of_lt hlt⟩
  rw [Int64.le_iff_toInt_le, Int64.toInt_ofNat_of_lt hlt, Int64.toInt_zero]
  omega

/-- The value that a call returns when it moves `moved`. -/
def value (moved : Option ℕ) : Int64 := (moved.map fun n => Int64.ofNat (min n ssizeMax)).getD (-1)

/-- The number of bytes that a value is about; `none` is `-1`. -/
def amount (res : Int64) : Option ℕ := if res = -1 then none else some res.toNatClampNeg

theorem value_valid {available : ℕ} (a : Answer) :
    value (a.moved available) = -1 ∨
      0 ≤ value (a.moved available) ∧ (value (a.moved available)).toNatClampNeg ≤ available := by
  cases h : a.moved available with
  | none => exact .inl rfl
  | some n =>
    obtain ⟨hnonneg, htoNat⟩ := ofNat_facts (Nat.min_le_right n ssizeMax)
    refine .inr ⟨hnonneg, ?_⟩
    show (Int64.ofNat (min n ssizeMax)).toNatClampNeg ≤ available
    rw [htoNat]
    exact Nat.le_trans (Nat.min_le_left ..) (Answer.moved_le h)

/-- The values of the calls of a kernel. -/
def transfers (K : Kernel) : Transfers where
  splice i available := ⟨value ((K.splice i).moved available), value_valid _⟩
  read i available := ⟨value ((K.read i).moved available), value_valid _⟩
  write i available := ⟨value ((K.write i).moved available), value_valid _⟩

theorem value_some {n : ℕ} (h : n ≤ ssizeMax) : value (some n) = Int64.ofNat n := by
  show Int64.ofNat (min n ssizeMax) = _
  rw [Nat.min_eq_left h]

theorem value_some_ne {n : ℕ} (h : n ≤ ssizeMax) : value (some n) ≠ -1 := by
  rw [value_some h]
  exact ne_neg_one (ofNat_facts h).1

theorem amount_value {moved : Option ℕ} (h : ∀ n ∈ moved, n ≤ ssizeMax) :
    amount (value moved) = moved := by
  cases moved with
  | none => rfl
  | some n =>
    have hn := h n rfl
    rw [amount, if_neg (value_some_ne hn), value_some hn, (ofNat_facts hn).2]

theorem toNatClampNeg_value {moved : Option ℕ} (h : ∀ n ∈ moved, n ≤ ssizeMax) :
    (value moved).toNatClampNeg = moved.getD 0 := by
  cases moved with
  | none => rfl
  | some n => rw [value_some (h n rfl), (ofNat_facts (h n rfl)).2, Option.getD_some]

/-- The state of the program. -/
def Sending.os (s : Sending) : Os := ⟨s.files, s.log.length, s.disableSplice⟩

/-- An iteration of the loop and one of the recursion end in the same way. -/
def SameStep : EStateM.Result ℕ Sending Int64 → EStateM.Result ℕ Os { res : ℕ // 0 < res } → Prop
  | .ok res s, .ok n os => n.1 = res.toNatClampNeg ∧ os = s.os
  | .error code s, .error code' os => code' = code ∧ os.files = s.files
  | _, _ => False

/-- The loop and the recursion end in the same way. -/
def SameEnd : EStateM.Result ℕ Sending Unit → EStateM.Result ℕ Os Unit → Prop
  | .ok () s, .ok () os => os = s.os
  | .error code s, .error code' os => code' = code ∧ os.files = s.files
  | _, _ => False

section

variable {K : Kernel} {count : UInt64} {s : Sending}

theorem Sending.os_made (s : Sending) (files : Files) (call : Call) :
    (s.made files call).os = { s.os with files := files, calls := s.log.length + 1 } := by
  show Os.mk files (s.log ++ [call]).length s.disableSplice = _
  rw [List.length_append, List.length_singleton]
  rfl

/-- No more than a `ssize_t` can count is moved of an input that it can count. -/
theorem moved_le_ssizeMax (h : s.files.input.length ≤ ssizeMax) (a : Answer) (size : ℕ) :
    ∀ n ∈ a.moved (min size s.files.input.length), n ≤ ssizeMax := by
  intro n hn
  have hle := Answer.moved_le hn
  omega

/-! ### An iteration -/

theorem sysSplice_same (h : s.files.input.length ≤ ssizeMax) : ∃ res s',
    sysSplice (transfers K) count s = .ok res s' ∧
      (res = -1 ∧ s'.files = s.files ∨ 0 ≤ res) ∧
      Simg2img.sysSplice K count.toNat s.os = .ok (amount res) s'.os := by
  have hmax := moved_le_ssizeMax h (K.splice s.log.length) count.toNat
  generalize hmoved : (K.splice s.log.length).moved (min count.toNat s.files.input.length) = moved
    at hmax
  have hsys : sysSplice (transfers K) count s =
      .ok (value moved) (s.made (s.files.copy (value moved).toNatClampNeg) (.splice (value moved))) := by
    rw [← hmoved]
    rfl
  refine ⟨_, _, hsys, ?_, ?_⟩
  · cases moved with
    | none => exact .inl ⟨rfl, Files.copy_zero _⟩
    | some n => exact .inr (ofNat_facts (Nat.min_le_right n ssizeMax)).1
  · rw [Sending.os_made, amount_value hmax, toNatClampNeg_value hmax, ← hmoved]
    rfl

theorem trySplice_same (K : Kernel) (count : UInt64) (h : s.files.input.length ≤ ssizeMax) : ∃ res s',
    trySplice (transfers K) count s = .ok res s' ∧
      (res = -1 ∧ s'.files = s.files ∨ 0 ≤ res) ∧
      Simg2img.trySplice K count.toNat s.os = .ok (amount res) s'.os := by
  rw [trySplice_eq, Simg2img.trySplice_eq]
  by_cases hdis : s.disableSplice = true
  · refine ⟨-1, s, ?_, .inl ⟨rfl, rfl⟩, ?_⟩
    · rw [if_pos hdis]
      rfl
    · rw [if_pos (show s.os.disableSplice = true from hdis)]
      rfl
  · rw [if_neg hdis, if_neg (show ¬s.os.disableSplice = true from hdis)]
    exact sysSplice_same h

theorem lt_1024_iff {res : Int64} (h : res = -1 ∨ 0 ≤ res) :
    res < 1024 ↔ (amount res).all (· < 1024) = true := by
  rcases h with rfl | h
  · decide
  · have hbound : (1024 : Int64).toInt = 1024 := by decide
    rw [amount, if_neg (ne_neg_one h), Int64.lt_iff_toInt_lt, ← Int64.cast_toNatClampNeg res h, hbound,
      Option.all_some, decide_eq_true_eq]
    omega

theorem noteSplice_same (count : UInt64) (s : Sending) {res : Int64} (h : res = -1 ∨ 0 ≤ res) : ∃ s',
    noteSplice count res s = .ok () s' ∧ s'.files = s.files ∧
      Simg2img.noteSplice count.toNat (amount res) s.os = .ok () s'.os := by
  have hiff : 16 * 1024 < count ∧ res < 1024 ↔
      16 * 1024 < count.toNat ∧ (amount res).all (· < 1024) = true :=
    and_congr UInt64.lt_iff_toNat_lt (lt_1024_iff h)
  unfold noteSplice Simg2img.noteSplice
  by_cases htest : 16 * 1024 < count ∧ res < 1024
  · rw [if_pos htest, if_pos (hiff.1 htest)]
    exact ⟨_, rfl, rfl, rfl⟩
  · rw [if_neg htest, if_neg (fun h => htest (hiff.2 h))]
    exact ⟨s, rfl, rfl, rfl⟩

theorem sysRead_same {moved : Option ℕ} (h : s.files.input.length ≤ ssizeMax)
    (hmoved : (K.read s.log.length).moved
      (min (min count.toNat (1024 * 1024)) s.files.input.length) = moved) :
    sysRead (transfers K) (sizeToRead count).toUInt64 s =
        .ok (value moved, s.files.input.take (moved.getD 0))
          (s.made (s.files.skip (moved.getD 0)) (.read (value moved))) ∧
      Simg2img.sysRead K.read (min count.toNat (1024 * 1024)) s.os =
        .ok (moved.map fun n => s.files.input.take n)
          (s.made (s.files.skip (moved.getD 0)) (.read (value moved))).os := by
  have hmax := moved_le_ssizeMax h (K.read s.log.length) (min count.toNat (1024 * 1024))
  rw [hmoved] at hmax
  constructor
  · rw [← toNatClampNeg_value hmax, ← hmoved, ← toNat_sizeToRead]
    rfl
  · rw [Sending.os_made, ← hmoved]
    rfl

theorem sysWrite_same {buf : List UInt8} {n : ℕ} (hlen : buf.length = n) (h : n ≤ ssizeMax) :
    ∃ moved s', sysWrite (transfers K) buf (Int64.ofNat n).toUInt64 s = .ok (value moved) s' ∧
      Simg2img.sysWrite K buf s.os = .ok moved s'.os ∧ ∀ n ∈ moved, n ≤ ssizeMax := by
  subst hlen
  generalize hmoved : (K.write s.log.length).moved buf.length = moved
  obtain ⟨hnonneg, htoNat⟩ := ofNat_facts h
  have hsize : (Int64.ofNat buf.length).toUInt64.toNat = buf.length := by
    rw [Int64.toNat_toUInt64_of_le hnonneg, htoNat]
  have hmax : ∀ n ∈ moved, n ≤ ssizeMax := by
    intro n hn
    have hle := Answer.moved_le (hmoved.trans hn)
    omega
  have hrun : sysWrite (transfers K) buf (Int64.ofNat buf.length).toUInt64 s =
      .ok (value moved) (s.made (s.files.append (buf.take (value moved).toNatClampNeg))
        (.write (Int64.ofNat buf.length).toUInt64 (value moved))) := by
    unfold sysWrite
    rw [Int64.toInt64_toUInt64, if_neg (Int64.not_lt.2 hnonneg), hsize, ← hmoved]
    rfl
  refine ⟨moved, _, hrun, ?_, hmax⟩
  rw [Sending.os_made, toNatClampNeg_value hmax, ← hmoved]
  rfl

/-- The copy through the buffer does the same, but for a `read` that fails: there the recursion exits at
once, and the loop after a `write` that is refused. -/
theorem readWrite_same (K : Kernel) (count : UInt64) (h : s.files.input.length ≤ ssizeMax) :
    (∃ res s', readWrite (transfers K) count s = .ok res s' ∧ 0 ≤ res ∧
      Simg2img.readWrite K count.toNat s.os = .ok res.toNatClampNeg s'.os) ∨
    (∃ s' os', readWrite (transfers K) count s = .ok (-1) s' ∧
      Simg2img.readWrite K count.toNat s.os = .error 112 os' ∧ os'.files = s'.files) ∨
    ∃ s' os', readWrite (transfers K) count s = .error 114 s' ∧
      Simg2img.readWrite K count.toNat s.os = .error 114 os' ∧ os'.files = s'.files := by
  cases hmoved : (K.read s.log.length).moved
      (min (min count.toNat (1024 * 1024)) s.files.input.length) with
  | none =>
    obtain ⟨hread, hread'⟩ := sysRead_same h hmoved
    have hrun := readWrite_eq hread (sysWrite_neg_one (transfers K) _ _)
    rw [if_pos (show -1 = value none from rfl)] at hrun
    refine .inr (.inl ⟨_, (s.made (s.files.skip 0) (.read (-1))).os, hrun, ?_, rfl⟩)
    rw [Simg2img.readWrite, bind_of_ok hread']
    rfl
  | some n =>
    obtain ⟨hread, hread'⟩ := sysRead_same h hmoved
    have hn := moved_le_ssizeMax h _ _ n hmoved
    have hlen : (s.files.input.take n).length = n := by
      have hle := Answer.moved_le hmoved
      rw [List.length_take]
      omega
    rw [value_some hn, Option.getD_some] at hread hread'
    obtain ⟨written, s', hwrite, hwrite', hmax⟩ := sysWrite_same hlen hn
    have hrun := readWrite_eq hread hwrite
    have hrun' : Simg2img.readWrite K count.toNat s.os =
        if written = some n then .ok n s'.os else .error 114 s'.os := by
      rw [Simg2img.readWrite, bind_of_ok hread']
      show (Simg2img.sysWrite K (s.files.input.take n) >>= _) _ = _
      rw [bind_of_ok hwrite', hlen, exitIf_bind, ite_not]
      rfl
    by_cases hall : written = some n
    · rw [hall, value_some hn, if_pos rfl] at hrun
      rw [if_pos hall] at hrun'
      refine .inl ⟨_, s', hrun, (ofNat_facts hn).1, ?_⟩
      rw [hrun', (ofNat_facts hn).2]
    · have hne : value written ≠ Int64.ofNat n := by
        intro heq
        rw [← value_some hn] at heq
        have hamount := congrArg amount heq
        rw [amount_value hmax, amount_value (fun k hk => by cases hk; exact hn)] at hamount
        exact hall hamount
      rw [if_neg hne] at hrun
      rw [if_neg hall] at hrun'
      exact .inr (.inr ⟨s', _, hrun, hrun', rfl⟩)

theorem exitIf_same {res : Int64} (hres : 0 ≤ res) (s : Sending) :
    SameStep ((do exitIf (res = 0 ∨ res = -1) 112; pure res : Prog Int64) s)
      ((if h : 0 < res.toNatClampNeg then pure ⟨res.toNatClampNeg, h⟩ else throw 112 :
        Proc { res : ℕ // 0 < res }) s.os) := by
  rw [exitIf_bind]
  by_cases hpos : 0 < res.toNatClampNeg
  · have hne : res ≠ 0 := ne_zero_of_pos ((Int64.toNatClampNeg_pos_iff res).1 hpos)
    rw [dif_pos hpos, if_neg (not_or.2 ⟨hne, ne_neg_one hres⟩)]
    exact ⟨rfl, rfl⟩
  · have hzero : res = 0 := by
      rw [Int64.toNatClampNeg_pos_iff, Int64.not_lt] at hpos
      exact Int64.le_antisymm hpos hres
    rw [dif_neg hpos, if_pos (.inl hzero)]
    exact ⟨rfl, rfl⟩

/-- **An iteration** of the loop is one of the recursion. -/
theorem nsendfileStep_same (K : Kernel) (count : UInt64) (h : s.files.input.length ≤ ssizeMax) :
    SameStep (nsendfileStep (transfers K) count s)
      (Simg2img.nsendfileStep K count.toNat s.os) := by
  obtain ⟨spliced, s₁, hsplice, hcases, hsplice'⟩ := trySplice_same K count h
  obtain ⟨s₂, hnote, hfiles, hnote'⟩ := noteSplice_same count s₁ (hcases.imp_left And.left)
  rw [nsendfileStep, bind_of_ok hsplice, bind_of_ok hnote, Simg2img.nsendfileStep, bind_of_ok hsplice',
    bind_of_ok hnote']
  rcases hcases with ⟨rfl, hsame⟩ | hnonneg
  · show SameStep ((readWrite (transfers K) count >>= _) s₂)
      ((Simg2img.readWrite K count.toNat >>= _) s₂.os)
    rw [← hsame, ← hfiles] at h
    rcases readWrite_same K count h with
      ⟨res, s', hrun, hres, hrun'⟩ | ⟨s', os', hrun, hrun', hsame'⟩ | ⟨s', os', hrun, hrun', hsame'⟩
    · rw [bind_of_ok hrun, bind_of_ok hrun']
      exact exitIf_same hres s'
    · rw [bind_of_ok hrun, bind_of_error hrun']
      exact ⟨rfl, hsame'⟩
    · rw [bind_of_error hrun, bind_of_error hrun']
      exact ⟨rfl, hsame'⟩
  · have hne := ne_neg_one hnonneg
    rw [orReadWrite, amount, if_neg hne, if_neg hne]
    exact exitIf_same hnonneg s₂

/-! ### A copy -/

theorem toNat_pos_of_ne_zero (h : count ≠ 0) : 0 < count.toNat := by
  rw [Nat.pos_iff_ne_zero]
  exact fun hzero => h (UInt64.toNat_inj.1 hzero)

/-- **The same copy.**  On an input that a `ssize_t` can count the loop ends as the recursion does, with
the same files. -/
theorem nsendfile_same (K : Kernel) (count : UInt64) (s : Sending)
    (h : s.files.input.length ≤ ssizeMax) : ∃ r, Returns (nsendfileBody (transfers K)) (count, s) r ∧
      SameEnd r (Simg2img.nsendfile K count.toNat s.os) := by
  refine loop_rule (I := fun t => t.2.files.input.length ≤ ssizeMax ∧
      Simg2img.nsendfile K count.toNat s.os = Simg2img.nsendfile K t.1.toNat t.2.os)
    (fun t => t.1.toNat) ?_ ?_ ⟨h, rfl⟩
  · -- what is left of the loop is what is left of the recursion
    rintro ⟨rest, s₁⟩ t ⟨hmax, heq⟩ h
    dsimp only at hmax heq
    obtain ⟨hrest, res, s', hrun, rfl⟩ := nsendfileBody_next h
    have hstep := nsendfileStep_run (transfers K) rest s₁
    have hsame := nsendfileStep_same K rest hmax
    rw [hrun] at hstep hsame
    obtain ⟨hpos, hle, hcopied⟩ := hstep
    obtain ⟨hsub, hmoved⟩ := toNat_sub_res hpos hle
    cases hrun' : Simg2img.nsendfileStep K rest.toNat s₁.os with
    | error code os =>
      rw [hrun'] at hsame
      exact False.elim hsame
    | ok n os =>
      rw [hrun'] at hsame
      obtain ⟨hn, hos⟩ := hsame
      refine ⟨⟨?_, ?_⟩, ?_⟩
      · show s'.files.input.length ≤ ssizeMax
        rw [hcopied.files, Files.length_input_copy]
        omega
      · show _ = Simg2img.nsendfile K (rest - res.toUInt64).toNat s'.os
        rw [heq, Simg2img.nsendfile, if_pos (toNat_pos_of_ne_zero hrest), bind_of_ok hrun', hn, hos, hsub]
      · show (rest - res.toUInt64).toNat < rest.toNat
        omega
  · rintro ⟨rest, s₁⟩ r ⟨hmax, heq⟩ h
    dsimp only at hmax heq
    rw [heq, Simg2img.nsendfile]
    rcases nsendfileBody_done h with ⟨hzero, rfl⟩ | ⟨hrest, code, s', hrun, rfl⟩
    · rw [hzero, if_neg (by decide)]
      exact rfl
    · have hsame := nsendfileStep_same K rest hmax
      rw [hrun] at hsame
      rw [if_pos (toNat_pos_of_ne_zero hrest)]
      cases hrun' : Simg2img.nsendfileStep K rest.toNat s₁.os with
      | ok n os =>
        rw [hrun'] at hsame
        exact False.elim hsame
      | error code' os =>
        rw [hrun'] at hsame
        rw [bind_of_error hrun']
        exact hsame

/-- `splice` moves one byte of three and fails then. -/
example : loop (nsendfileBody (transfers
      { Kernel.eager with splice := fun i => if i = 0 then .upTo 0 else .failed })) 3
    (3, ⟨⟨[1, 2, 3, 4], []⟩, false, []⟩) =
      some (.ok () ⟨⟨[4], [1, 2, 3]⟩, false, [.splice 1, .splice (-1), .read 2, .write 2 2]⟩) := by
  decide +kernel

end

end TrebleDoze.Simg2img.Words
