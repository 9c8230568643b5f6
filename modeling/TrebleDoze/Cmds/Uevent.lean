import TrebleDoze.Lib.CString
import TrebleDoze.Lib.Loop

/-!
# `uevent`

`cmds/uevent.cpp` prints the kernel's uevents: a header, and behind its zero a list of fields that end in
a zero each.  `recv` writes a datagram to the front of a buffer and leaves the rest of the buffer as it
was; `strstr`, `strlen` and `printf` read strings of the buffer, wherever these end.

* `loop_fields`: what the inner loop makes of the fields, whatever is behind them;
* `confined_iff`: when nothing but the datagram is read, and what is printed then;
* `splits_iff`: when what is printed is the header and the fields;
* `record_splitting`: the same over any sequence of datagrams.
-/

namespace TrebleDoze.Cmds.Uevent

open TrebleDoze.Lib

/-- `HOTPLUG_BUFFER_SIZE + OBJECT_SIZE`. -/
def bufferSize : ℕ := 1024 + 512

/-- `buffer`. -/
structure Buffer where
  bytes : List UInt8
  size : bytes.length = bufferSize

/-- What `recv` receives. -/
structure Datagram where
  bytes : List UInt8
  fits : bytes.length ≤ bufferSize

/-- `buflen`. -/
def Datagram.buflen (d : Datagram) : ℕ := d.bytes.length

/-- `recv`. -/
def recv (d : Datagram) (buffer : Buffer) : Buffer where
  bytes := d.bytes ++ buffer.bytes.drop d.buflen
  size := by
    have := d.fits
    have := buffer.size
    rw [List.length_append, List.length_drop, Datagram.buflen]
    omega

/-- The lines that are printed, and the end of the last string that has been read. -/
structure Output where
  lines : List (List UInt8)
  read : ℕ
  deriving DecidableEq, Repr

/-- The inner loop: `pos`, and what has been printed. -/
structure Inner where
  pos : ℕ
  out : Output

/-- `'\t'`. -/
def tab : UInt8 := 9

/-- The body of the inner loop; it ends with `none` where a string leaves the buffer. -/
def innerBody (buffer : List UInt8) (buflen : ℕ) (s : Inner) : Iter Inner (Option Output) :=
  if s.pos < buflen then
    match cstring (buffer.drop s.pos) with
    | none => .done none
    | some field =>
      let next := s.pos + (field.length + 1)
      .next ⟨next, s.out.lines ++ [tab :: field], next⟩
  else .done (some s.out)

/-- The filter of `argv[1]`: whether the record is left out. -/
def leftOut (argument : Option (List UInt8)) (header : List UInt8) : Bool :=
  argument.any fun arg => (findSub arg header).isNone

/-- An iteration of the main loop, after `recv`. -/
def iteration (argument : Option (List UInt8)) (buffer : List UInt8) (buflen fuel : ℕ) :
    Option (Option Output) :=
  match cstring buffer with
  | none => some none
  | some header =>
    if leftOut argument header then some (some ⟨[], header.length + 1⟩)
    else loop (innerBody buffer buflen) fuel ⟨header.length, [header], header.length + 1⟩

/-! ### Fields -/

/-- The strings of a list of bytes that end in a zero. -/
def strings (l : List UInt8) : List (List UInt8) := (l.splitOn 0).dropLast

/-- The bytes are strings that end in a zero, and nothing else. -/
def Ends (l : List UInt8) : Prop := l.getLast?.getD 0 = 0

instance (l : List UInt8) : Decidable (Ends l) := by unfold Ends; infer_instance

section

variable {l v t stale : List UInt8}

theorem strings_append (h : 0 ∉ v) : strings (v ++ 0 :: t) = v :: strings t := by
  unfold strings
  rw [List.splitOn_append_cons_self_of_not_mem h, List.dropLast_cons_of_ne_nil (List.splitOn_ne_nil 0 t)]

theorem ends_append : Ends (v ++ 0 :: t) ↔ Ends t := by
  unfold Ends
  cases t with
  | nil => simp
  | cons x t =>
    have hlast : (x :: t).getLast? = some ((x :: t).getLast (by simp)) :=
      List.getLast?_eq_some_getLast _
    rw [List.getLast?_append, List.getLast?_cons_cons, hlast]
    rfl

theorem exists_string (h : 0 ∈ l) : ∃ v t, l = v ++ 0 :: t ∧ 0 ∉ v := by
  cases hc : cstring l with
  | none => exact absurd h (cstring_eq_none_iff.1 hc)
  | some v =>
    obtain ⟨hz, t, rfl⟩ := cstring_eq_some_iff.1 hc
    exact ⟨v, t, rfl, hz⟩

theorem Ends.zero_mem (h : Ends l) (hne : l ≠ []) : 0 ∈ l := by
  unfold Ends at h
  rw [List.getLast?_eq_some_getLast hne, Option.getD_some] at h
  exact h ▸ List.getLast_mem hne

theorem length_le_of_cstring (h : 0 ∉ l) (hv : cstring (l ++ stale) = some v) : l.length ≤ v.length := by
  obtain ⟨-, rest, he⟩ := cstring_eq_some_iff.1 hv
  by_contra hlt
  have hmem : l[v.length]? = some 0 := by
    have := congrArg (fun m => m[v.length]?) he
    simpa [List.getElem?_append_left (Nat.not_le.1 hlt)] using this
  exact h (List.mem_of_getElem? hmem)

end

/-! ### The inner loop -/

section

variable {pre v r stale : List UInt8} {out : Output} {buflen : ℕ}

theorem drop_pre : (pre ++ r ++ stale).drop pre.length = r ++ stale := by
  rw [List.append_assoc, List.drop_left]

theorem innerBody_string (hlt : pre.length < buflen) (hv : cstring (r ++ stale) = some v) :
    innerBody (pre ++ r ++ stale) buflen ⟨pre.length, out⟩ =
      .next ⟨pre.length + (v.length + 1),
        ⟨out.lines ++ [tab :: v], pre.length + (v.length + 1)⟩⟩ := by
  unfold innerBody
  rw [if_pos hlt, drop_pre, hv]

theorem innerBody_fault (hlt : pre.length < buflen) (hv : cstring (r ++ stale) = none) :
    innerBody (pre ++ r ++ stale) buflen ⟨pre.length, out⟩ = .done none := by
  unfold innerBody
  rw [if_pos hlt, drop_pre, hv]

theorem innerBody_done {pos : ℕ} (h : buflen ≤ pos) (buffer : List UInt8) :
    innerBody buffer buflen ⟨pos, out⟩ = .done (some out) := by
  unfold innerBody
  rw [if_neg (Nat.not_lt.2 h)]

end

/-- **The inner loop** ends, on any bytes.  On strings that end in a zero it prints each of them, and reads
to their end; on other bytes it reads further than these. -/
theorem loop_fields (pre r stale : List UInt8) (out : Output) :
    ∃ res, (∀ fuel, r.length < fuel →
        loop (innerBody (pre ++ r ++ stale) (pre.length + r.length)) fuel ⟨pre.length, out⟩ = some res) ∧
      (Ends r → res = some ⟨out.lines ++ (strings r).map (tab :: ·),
        if r = [] then out.read else pre.length + r.length⟩) ∧
      (¬ Ends r → ∀ out', res = some out' → pre.length + r.length < out'.read) := by
  induction hn : r.length using Nat.strongRecOn generalizing pre r out with
  | _ n ih =>
  subst hn
  by_cases hr : r = []
  · subst hr
    refine ⟨some out, fun fuel hf => ?_, fun _ => by simp [strings], fun h => absurd rfl h⟩
    obtain ⟨fuel, rfl⟩ := Nat.exists_eq_succ_of_ne_zero (by omega : fuel ≠ 0)
    exact loop_of_done (innerBody_done (by simp) _) fuel
  have hpos : 0 < r.length := List.length_pos_of_ne_nil hr
  by_cases hz : 0 ∈ r
  · -- one string, and the loop on the rest
    obtain ⟨v, t, rfl, hv⟩ := exists_string hz
    have hlen : (v ++ 0 :: t).length = v.length + 1 + t.length := by
      simp only [List.length_append, List.length_cons]
      omega
    have hpre : (pre ++ v ++ [0]).length = pre.length + (v.length + 1) := by
      simp only [List.length_append, List.length_cons, List.length_nil]
      omega
    obtain ⟨res, hloop, hends, hnot⟩ := ih t.length (by omega) (pre ++ v ++ [0]) t
      ⟨out.lines ++ [tab :: v], pre.length + (v.length + 1)⟩ rfl
    rw [hpre] at hloop hends hnot
    have hbuffer : pre ++ v ++ [0] ++ t ++ stale = pre ++ (v ++ 0 :: t) ++ stale := by simp
    have hend : pre.length + (v.length + 1) + t.length = pre.length + (v ++ 0 :: t).length := by
      omega
    rw [hbuffer, hend] at hloop
    rw [hend] at hends hnot
    have hstring : cstring (v ++ 0 :: t ++ stale) = some v := by
      rw [List.append_assoc, List.cons_append, cstring_append_zero hv]
    refine ⟨res, fun fuel hf => ?_, fun h => ?_, fun h => hnot (mt ends_append.2 h)⟩
    · obtain ⟨fuel, rfl⟩ := Nat.exists_eq_succ_of_ne_zero (by omega : fuel ≠ 0)
      rw [loop_of_next (innerBody_string (by omega) hstring)]
      exact hloop fuel (by omega)
    · rw [hends (ends_append.1 h), strings_append hv]
      by_cases ht : t = []
      · subst ht
        simp [strings]
      · simp [ht]
  · -- the string that starts here ends behind the bytes, if it ends in the buffer
    have hnot : ¬ Ends r := fun h => hz (h.zero_mem hr)
    cases hc : cstring (r ++ stale) with
    | none =>
      refine ⟨none, fun fuel hf => ?_, fun h => absurd h hnot, fun _ out' h => by cases h⟩
      obtain ⟨fuel, rfl⟩ := Nat.exists_eq_succ_of_ne_zero (by omega : fuel ≠ 0)
      exact loop_of_done (innerBody_fault (by omega) hc) fuel
    | some v =>
      have hle := length_le_of_cstring hz hc
      refine ⟨some ⟨out.lines ++ [tab :: v], pre.length + (v.length + 1)⟩, fun fuel hf => ?_,
        fun h => absurd h hnot, fun _ out' h => ?_⟩
      · obtain ⟨fuel, rfl⟩ := Nat.exists_eq_succ_of_ne_zero (by omega : fuel ≠ 0)
        obtain ⟨fuel, rfl⟩ := Nat.exists_eq_succ_of_ne_zero (by omega : fuel ≠ 0)
        rw [loop_of_next (innerBody_string (by omega) hc)]
        exact loop_of_done (innerBody_done (by omega) _) fuel
      · obtain rfl := Option.some.inj h
        simp only
        omega

/-! ### One record -/

/-- The header of the record ends in the datagram, and the filter is not in it. -/
def LeftOut (argument : Option (List UInt8)) (d : Datagram) : Prop :=
  ∃ header rest, d.bytes = header ++ 0 :: rest ∧ 0 ∉ header ∧ leftOut argument header = true

/-- The datagram has bytes, and the last one is a zero. -/
def Terminated (d : Datagram) : Prop := d.bytes ≠ [] ∧ Ends d.bytes

/-- The header and the fields of a record, unless it is left out. -/
def recordLines (argument : Option (List UInt8)) (l : List UInt8) : List (List UInt8) :=
  match strings l with
  | [] => []
  | header :: fields => if leftOut argument header then [] else header :: fields.map (tab :: ·)

/-- What is printed: the loop starts at the zero of the header, an empty field. -/
def printedLines (argument : Option (List UInt8)) (l : List UInt8) : List (List UInt8) :=
  match strings l with
  | [] => []
  | header :: fields => if leftOut argument header then [] else header :: ([] :: fields).map (tab :: ·)

section

variable {argument : Option (List UInt8)} {d : Datagram}

theorem not_leftOut_of_header {header rest : List UInt8} (hd : d.bytes = header ++ 0 :: rest)
    (hz : 0 ∉ header) (hl : leftOut argument header = false) : ¬ LeftOut argument d := by
  rintro ⟨header', rest', hd', hz', hl'⟩
  have hfirst : cstring d.bytes = some header := by rw [hd, cstring_append_zero hz]
  have hfirst' : cstring d.bytes = some header' := by rw [hd', cstring_append_zero hz']
  rw [← Option.some.inj (hfirst.symm.trans hfirst'), hl] at hl'
  cases hl'

theorem LeftOut.zero_mem (h : LeftOut argument d) : 0 ∈ d.bytes := by
  obtain ⟨header, rest, hd, -, -⟩ := h
  rw [hd]
  simp

/-- An iteration ends.  It reads nothing but the datagram, and prints the lines of it, just when the record
is left out or ends in a zero. -/
theorem iteration_cases (argument : Option (List UInt8)) (d : Datagram) (buffer : Buffer) :
    ∃ res, (∀ fuel, d.buflen < fuel →
        iteration argument (recv d buffer).bytes d.buflen fuel = some res) ∧
      ((LeftOut argument d ∨ Terminated d) ∧
          (∃ out, res = some out ∧ out.read ≤ d.buflen ∧ out.lines = printedLines argument d.bytes) ∨
        ¬ (LeftOut argument d ∨ Terminated d) ∧ ∀ out, res = some out → d.buflen < out.read) := by
  have hrecv : (recv d buffer).bytes = d.bytes ++ buffer.bytes.drop d.buflen := rfl
  rw [hrecv]
  generalize buffer.bytes.drop d.buflen = stale
  unfold iteration
  by_cases hz : 0 ∈ d.bytes
  · obtain ⟨header, rest, hd, hh⟩ := exists_string hz
    have hstring : cstring (d.bytes ++ stale) = some header := by
      rw [hd, List.append_assoc, List.cons_append, cstring_append_zero hh]
    have hlen : d.buflen = header.length + (0 :: rest).length := by
      rw [Datagram.buflen, hd, List.length_append]
    have hlines : strings d.bytes = header :: strings rest := by rw [hd, strings_append hh]
    simp only [hstring]
    cases hl : leftOut argument header with
    | true =>
      refine ⟨some ⟨[], header.length + 1⟩, fun _ _ => rfl, .inl ⟨.inl ⟨header, rest, hd, hh, hl⟩,
        _, rfl, ?_, ?_⟩⟩
      · rw [hlen, List.length_cons]
        simp only
        omega
      · simp [printedLines, hlines, hl]
    | false =>
      obtain ⟨res, hloop, hends, hnot⟩ := loop_fields header (0 :: rest) stale ⟨[header], header.length + 1⟩
      rw [← hd, ← hlen] at hloop
      rw [← hlen] at hends hnot
      have hiff : Ends (0 :: rest) ↔ Ends d.bytes := by
        rw [hd, ends_append]
        exact ends_append (v := [])
      refine ⟨res, fun fuel hf => ?_, ?_⟩
      · rw [if_neg Bool.false_ne_true]
        exact hloop fuel (by omega)
      · by_cases he : Ends d.bytes
        · refine .inl ⟨.inr ⟨List.ne_nil_of_mem hz, he⟩, _, hends (hiff.2 he), by simp, ?_⟩
          have hfields : strings (0 :: rest) = [] :: strings rest := strings_append (v := []) (by simp)
          simp [printedLines, hlines, hl, hfields]
        · refine .inr ⟨?_, hnot (mt hiff.1 he)⟩
          rintro (h | h)
          · exact not_leftOut_of_header hd hh hl h
          · exact he h.2
  · have hno : ¬ (LeftOut argument d ∨ Terminated d) := by
      rintro (h | h)
      · exact hz h.zero_mem
      · exact hz (h.2.zero_mem h.1)
    cases hc : cstring (d.bytes ++ stale) with
    | none => exact ⟨none, fun _ _ => rfl, .inr ⟨hno, fun out h => by cases h⟩⟩
    | some header =>
      have hle : d.buflen ≤ header.length := length_le_of_cstring hz hc
      cases hl : leftOut argument header with
      | true =>
        refine ⟨some ⟨[], header.length + 1⟩, fun _ _ => ?_, .inr ⟨hno, fun out h => ?_⟩⟩
        · simp only [hl, if_true]
        · obtain rfl := Option.some.inj h
          simp only
          omega
      | false =>
        refine ⟨some ⟨[header], header.length + 1⟩, fun fuel hf => ?_, .inr ⟨hno, fun out h => ?_⟩⟩
        · obtain ⟨fuel, rfl⟩ := Nat.exists_eq_succ_of_ne_zero (by omega : fuel ≠ 0)
          simp only [hl]
          exact loop_of_done (innerBody_done hle _) fuel
        · obtain rfl := Option.some.inj h
          simp only
          omega

end

/-- The iteration that receives the datagram reads nothing else, and the lines it prints depend on nothing
else. -/
def Confined (argument : Option (List UInt8)) (buffer : Buffer) (d : Datagram) : Prop :=
  ∃ out, (∀ fuel, d.buflen < fuel →
      iteration argument (recv d buffer).bytes d.buflen fuel = some (some out)) ∧
    out.read ≤ d.buflen ∧ out.lines = printedLines argument d.bytes

/-- The iteration that receives the datagram reads nothing else, and prints the header and each field. -/
def Splits (argument : Option (List UInt8)) (buffer : Buffer) (d : Datagram) : Prop :=
  ∃ out, (∀ fuel, d.buflen < fuel →
      iteration argument (recv d buffer).bytes d.buflen fuel = some (some out)) ∧
    out.read ≤ d.buflen ∧ out.lines = recordLines argument d.bytes

section

variable {argument : Option (List UInt8)} {d : Datagram} {buffer : Buffer}

theorem unique_output {res : Option Output} {out : Output}
    (h : ∀ fuel, d.buflen < fuel → iteration argument (recv d buffer).bytes d.buflen fuel = some res)
    (ho : ∀ fuel, d.buflen < fuel →
      iteration argument (recv d buffer).bytes d.buflen fuel = some (some out)) : res = some out :=
  Option.some.inj ((h _ (Nat.lt_succ_self _)).symm.trans (ho _ (Nat.lt_succ_self _)))

theorem confined_iff : Confined argument buffer d ↔ LeftOut argument d ∨ Terminated d := by
  obtain ⟨res, hres, ⟨hc, out, rfl, hread, hlines⟩ | ⟨hc, hover⟩⟩ := iteration_cases argument d buffer
  · exact iff_of_true ⟨out, hres, hread, hlines⟩ hc
  · refine iff_of_false ?_ hc
    rintro ⟨out, ho, hread, -⟩
    have := hover out (unique_output hres ho)
    omega

/-- The lines of a record that is not left out lack the empty field. -/
theorem printedLines_ne (h : Terminated d) (hn : ¬ LeftOut argument d) :
    printedLines argument d.bytes ≠ recordLines argument d.bytes := by
  obtain ⟨header, rest, hd, hh⟩ := exists_string (h.2.zero_mem h.1)
  have hl : leftOut argument header = false := by
    by_contra hne
    exact hn ⟨header, rest, hd, hh, by simpa using hne⟩
  have hlines : strings d.bytes = header :: strings rest := by rw [hd, strings_append hh]
  intro he
  have := congrArg List.length he
  simp [printedLines, recordLines, hlines, hl] at this

theorem splits_iff : Splits argument buffer d ↔ LeftOut argument d := by
  constructor
  · rintro ⟨out, ho, hread, hlines⟩
    obtain ⟨res, hres, ⟨hc, out', rfl, -, hlines'⟩ | ⟨hc, hover⟩⟩ := iteration_cases argument d buffer
    · obtain rfl := Option.some.inj (unique_output hres ho)
      by_contra hn
      exact printedLines_ne (hc.resolve_left hn) hn (hlines'.symm.trans hlines)
    · have := hover out (unique_output hres ho)
      omega
  · intro hl
    have hconfined : Confined argument buffer d := confined_iff.2 (.inl hl)
    obtain ⟨out, ho, hread, hlines⟩ := hconfined
    refine ⟨out, ho, hread, hlines.trans ?_⟩
    obtain ⟨header, rest, hd, hh, hleft⟩ := hl
    simp [printedLines, recordLines, hd, strings_append hh, hleft]

end

/-! ### A sequence of datagrams -/

/-- Each datagram of the sequence meets `P`, with the buffer as it finds it. -/
def Along (P : Buffer → Datagram → Prop) : Buffer → List Datagram → Prop
  | _, [] => True
  | buffer, d :: ds => P buffer d ∧ Along P (recv d buffer) ds

theorem along_iff {P : Buffer → Datagram → Prop} {Q : Datagram → Prop} (h : ∀ buffer d, P buffer d ↔ Q d)
    (buffer : Buffer) (ds : List Datagram) : Along P buffer ds ↔ ∀ d ∈ ds, Q d := by
  induction ds generalizing buffer with
  | nil => exact iff_of_true trivial (by simp)
  | cons d ds ih => rw [Along, h, ih, List.forall_mem_cons]

/-- **The records of a sequence of datagrams.**  Every iteration ends.  All of them read nothing but their
datagrams just when each datagram is left out by the filter or ends in a zero; and the lines are the
headers and the fields just when each is left out, because of the empty field that is printed for the
others. -/
theorem record_splitting (argument : Option (List UInt8)) (buffer : Buffer) (ds : List Datagram) :
    Along (fun buffer d => ∃ res, ∀ fuel, d.buflen < fuel →
        iteration argument (recv d buffer).bytes d.buflen fuel = some res) buffer ds ∧
      (Along (Confined argument) buffer ds ↔ ∀ d ∈ ds, LeftOut argument d ∨ Terminated d) ∧
      (Along (Splits argument) buffer ds ↔ ∀ d ∈ ds, LeftOut argument d) := by
  refine ⟨?_, along_iff (P := Confined argument) (fun _ _ => confined_iff) buffer ds,
    along_iff (P := Splits argument) (fun _ _ => splits_iff) buffer ds⟩
  refine (along_iff (Q := fun _ => True) (fun buffer d => iff_of_true ?_ trivial) buffer ds).2
    fun _ _ => trivial
  obtain ⟨res, hres, -⟩ := iteration_cases argument d buffer
  exact ⟨res, hres⟩

/-- A buffer of zeros. -/
def zeros : Buffer := ⟨List.replicate bufferSize 0, List.length_replicate⟩

/-- A header `a` and a field `B`. -/
def plainRecord : Datagram := ⟨[97, 0, 66, 0], by decide⟩

/-- A header that does not end in the datagram. -/
def cutRecord : Datagram := ⟨[99], by decide⟩

theorem records_not_split :
    iteration none (recv plainRecord zeros).bytes plainRecord.buflen 5 =
        some (some ⟨[[97], [tab], [tab, 66]], 4⟩) ∧
      ¬ Splits none zeros plainRecord ∧ ¬ Along (Splits none) zeros [plainRecord, cutRecord] := by
  have h : iteration none (recv plainRecord zeros).bytes plainRecord.buflen 5 =
      some (some ⟨[[97], [tab], [tab, 66]], 4⟩) := by decide
  have hn : ¬ Splits none zeros plainRecord := by
    rintro ⟨out, ho, -, hlines⟩
    have he := (ho 5 (by decide)).symm.trans h
    obtain rfl := Option.some.inj (Option.some.inj he)
    exact absurd hlines (by decide)
  exact ⟨h, hn, fun ha => hn ha.1⟩

end TrebleDoze.Cmds.Uevent
