import Mathlib.Tactic.NormNum
import Mathlib.Tactic.Positivity
import TrebleDoze.Lib.CString
import TrebleDoze.Lib.Pages

/-!
# The coordinate path of the Goodix library

At its start the ANAKIN HAL looks for the path `/proc/driver/fp_xy` in the read-only segments of the
loaded `libgf_hal.so` and writes a path of the same length over it, for which it makes the pages of the
string writable and then gives them their protection back.

* `mem_cursors_iff`: the places that are compared;
* `found_eq_some`: the place that is found is the first occurrence, in the order of the segments and then
  of the addresses;
* `patch_goodix_path`: what the function does to the memory and to the protection of its pages;
* `patchGoodixCoordinatePath_patched`: the same for the loop over the loaded objects.
-/

namespace TrebleDoze.Fingerprint.GoodixPath

open TrebleDoze.Lib

/-- `GOODIX_PROC_FP_XY_PATH`, with its zero. -/
def procPath : List UInt8 := ascii "/proc/driver/fp_xy" ++ [0]

/-- `GOODIX_USER_FP_XY_PATH`, with its zero. -/
def userPath : List UInt8 := ascii "/data/vendor/fp_xy" ++ [0]

/-- `pathLength`. -/
def pathLength : UInt64 := 19

/-- The name that is looked for in `dlpi_name`. -/
def libraryName : List UInt8 := ascii "libgf_hal.so"

/-- A program header: `p_flags`, `p_vaddr` and `p_filesz`. -/
structure Phdr where
  pFlags : UInt32
  pVaddr : UInt64
  pFilesz : UInt64
  deriving DecidableEq

/-- `dl_phdr_info` of a loaded object, whose segments lie in the address space. -/
structure DlPhdrInfo where
  dlpiAddr : UInt64
  dlpiName : Option (List UInt8)
  dlpiPhdr : List Phdr
  loaded : ∀ phdr ∈ dlpiPhdr, (dlpiAddr + phdr.pVaddr).toNat + phdr.pFilesz.toNat ≤ UInt64.size

/-- The protection of a page: `PROT_READ`, `PROT_WRITE`, `PROT_EXEC`. -/
structure Prot where
  read : Bool
  write : Bool
  exec : Bool
  deriving DecidableEq, Repr

/-- The memory of the process, and the protection of each address. -/
structure Process where
  mem : UInt64 → UInt8
  prot : UInt64 → Prot

/-- A call of `mprotect`, and whether it returned zero. -/
structure Mprotect where
  address : UInt64
  length : UInt64
  prot : Prot
  ok : Bool
  deriving DecidableEq, Repr

/-- What the kernel answers to `mprotect`. -/
abbrev Kernel := UInt64 → UInt64 → Prot → Bool

/-- `mprotect`. -/
def mprotect (kernel : Kernel) (address length : UInt64) (prot : Prot) (p : Process) : Process :=
  if kernel address length prot then
    { p with prot := fun a => if a - address < length then prot else p.prot a }
  else p

/-- `memcpy`. -/
def memcpy (cursor : UInt64) (bytes : List UInt8) (mem : UInt64 → UInt8) : UInt64 → UInt8 :=
  fun a => (bytes[(a - cursor).toNat]?).getD (mem a)

/-- `memcmp(cursor, GOODIX_PROC_FP_XY_PATH, pathLength) == 0`. -/
def matchesPath (mem : UInt64 → UInt8) (cursor : UInt64) : Bool :=
  (List.range procPath.length).map (fun i => mem (cursor + UInt64.ofNat i)) = procPath

/-- The segment is readable and not writable (`PF_R` and not `PF_W`), and no shorter than the path. -/
def Phdr.Searched (phdr : Phdr) : Prop := phdr.pFlags &&& 6 = 4 ∧ pathLength ≤ phdr.pFilesz

instance (phdr : Phdr) : Decidable phdr.Searched := by unfold Phdr.Searched; infer_instance

/-- The values of `cursor` in the loop from `start` to `end`. -/
def cursors (start stop : UInt64) : List UInt64 :=
  (List.range (stop.toNat - start.toNat)).map fun i => start + UInt64.ofNat i

/-- The places of a segment that are compared, unless one before matches. -/
def DlPhdrInfo.cursors (info : DlPhdrInfo) (phdr : Phdr) : List UInt64 :=
  if phdr.Searched then
    let start := info.dlpiAddr + phdr.pVaddr
    GoodixPath.cursors start (start + phdr.pFilesz - pathLength + 1)
  else []

/-- The places of all segments, in the order of the loops. -/
def DlPhdrInfo.candidates (info : DlPhdrInfo) : List (Phdr × UInt64) :=
  info.dlpiPhdr.flatMap fun phdr => (info.cursors phdr).map (phdr, ·)

/-- The first place that matches, with its segment. -/
def DlPhdrInfo.found (info : DlPhdrInfo) (mem : UInt64 → UInt8) : Option (Phdr × UInt64) :=
  info.candidates.find? fun e => matchesPath mem e.2

/-- The places that are compared. -/
def DlPhdrInfo.compared (info : DlPhdrInfo) (mem : UInt64 → UInt8) : List UInt64 :=
  (info.candidates.takeWhile fun e => !matchesPath mem e.2).map Prod.snd ++
    ((info.found mem).map Prod.snd).toList

/-- `restoreProtection`. -/
def Phdr.restoreProtection (phdr : Phdr) : Prot := ⟨true, false, phdr.pFlags &&& 1 ≠ 0⟩

/-- What `patchGoodixPathInObject` leaves: its result, `result->patched`, the process, the places that it
has compared and its calls of `mprotect`. -/
structure Outcome where
  ret : ℤ
  patched : Bool
  process : Process
  compared : List UInt64
  calls : List Mprotect

/-- `pageStart`. -/
def pageStart (pageSize : Int64) (cursor : UInt64) : UInt64 := roundDown pageSize.toUInt64 cursor

/-- `pageEnd - pageStart`. -/
def pageLength (pageSize : Int64) (cursor : UInt64) : UInt64 :=
  roundDown pageSize.toUInt64 (cursor + pathLength + pageSize.toUInt64 - 1) - pageStart pageSize cursor

/-- `PROT_READ | PROT_WRITE`. -/
def writable : Prot := ⟨true, true, false⟩

/-- The part of `patchGoodixPathInObject` after a match. -/
def patchAt (kernel : Kernel) (pageSize : Int64) (phdr : Phdr) (cursor : UInt64) (p : Process)
    (compared : List UInt64) : Outcome :=
  let start := pageStart pageSize cursor
  let length := pageLength pageSize cursor
  if !kernel start length writable then
    ⟨0, false, p, compared, [⟨start, length, writable, false⟩]⟩
  else
    let p := mprotect kernel start length writable p
    let p := { p with mem := memcpy cursor userPath p.mem }
    let restored := kernel start length phdr.restoreProtection
    let calls := [⟨start, length, writable, true⟩, ⟨start, length, phdr.restoreProtection, restored⟩]
    let p := mprotect kernel start length phdr.restoreProtection p
    if !restored then ⟨0, false, p, compared, calls⟩ else ⟨1, true, p, compared, calls⟩

/-- The object is the library. -/
def DlPhdrInfo.IsLibrary (info : DlPhdrInfo) : Prop :=
  info.dlpiName.any (fun name => (findSub libraryName name).isSome) = true

instance (info : DlPhdrInfo) : Decidable info.IsLibrary := by unfold DlPhdrInfo.IsLibrary; infer_instance

/-- `patchGoodixPathInObject`; `pageSize` is the answer of `sysconf`. -/
def patchGoodixPathInObject (kernel : Kernel) (pageSize : Int64) (info : DlPhdrInfo) (patched : Bool)
    (p : Process) : Outcome :=
  if patched = true ∨ ¬ info.IsLibrary then ⟨0, patched, p, [], []⟩
  else if pageSize ≤ 0 then ⟨0, patched, p, [], []⟩
  else
    match info.found p.mem with
    | none => ⟨0, patched, p, info.compared p.mem, []⟩
    | some (phdr, cursor) => patchAt kernel pageSize phdr cursor p (info.compared p.mem)

/-- `patchGoodixCoordinatePath`: `dl_iterate_phdr` visits the loaded objects up to the first for which the
callback returns something else than zero; each comes with the kernel's answers during its visit. -/
def patchGoodixCoordinatePath (pageSize : Int64) :
    List (DlPhdrInfo × Kernel) → Bool → Process → Bool × Process
  | [], patched, p => (patched, p)
  | (info, kernel) :: rest, patched, p =>
    let o := patchGoodixPathInObject kernel pageSize info patched p
    if o.ret ≠ 0 then (o.patched, o.process)
    else patchGoodixCoordinatePath pageSize rest o.patched o.process

/-! ### The places that are compared -/

/-- The path would lie in the segment. -/
def DlPhdrInfo.Inside (info : DlPhdrInfo) (phdr : Phdr) (cursor : UInt64) : Prop :=
  (info.dlpiAddr + phdr.pVaddr).toNat ≤ cursor.toNat ∧
    cursor.toNat + pathLength.toNat ≤ (info.dlpiAddr + phdr.pVaddr).toNat + phdr.pFilesz.toNat

/-- The path is in the segment at this place, and the segment is one that is searched. -/
def DlPhdrInfo.OccursAt (info : DlPhdrInfo) (mem : UInt64 → UInt8) (phdr : Phdr) (cursor : UInt64) : Prop :=
  phdr.Searched ∧ info.Inside phdr cursor ∧
    ∀ i b, procPath[i]? = some b → mem (cursor + UInt64.ofNat i) = b

/-- The first place where the path is, in the order of the segments and then of the addresses. -/
def DlPhdrInfo.FirstOccurrence (info : DlPhdrInfo) (mem : UInt64 → UInt8) (phdr : Phdr)
    (cursor : UInt64) : Prop :=
  ∃ before after, info.dlpiPhdr = before ++ phdr :: after ∧
    (∀ q ∈ before, ∀ c, ¬ info.OccursAt mem q c) ∧ info.OccursAt mem phdr cursor ∧
      ∀ c, info.OccursAt mem phdr c → cursor.toNat ≤ c.toNat

section

variable {info : DlPhdrInfo} {mem : UInt64 → UInt8} {phdr : Phdr} {cursor : UInt64}

theorem matchesPath_iff :
    matchesPath mem cursor = true ↔ ∀ i b, procPath[i]? = some b → mem (cursor + UInt64.ofNat i) = b := by
  unfold matchesPath
  rw [decide_eq_true_iff]
  constructor
  · intro h i b hb
    have hi : i < procPath.length := (List.getElem?_eq_some_iff.1 hb).1
    rw [← h] at hb
    simpa [hi] using hb
  · intro h
    apply List.ext_getElem (by simp)
    intro i _ hi
    simpa using h i procPath[i] (List.getElem?_eq_getElem hi)

/-- The loop over a searched segment, with the addresses as numbers. -/
theorem cursors_eq (hphdr : phdr ∈ info.dlpiPhdr) (hs : phdr.Searched) : info.cursors phdr =
    (List.range (phdr.pFilesz.toNat - 18)).map fun i => info.dlpiAddr + phdr.pVaddr + UInt64.ofNat i := by
  have hload := info.loaded phdr hphdr
  have hlen : 19 ≤ phdr.pFilesz.toNat := UInt64.le_iff_toNat_le.1 hs.2
  unfold DlPhdrInfo.cursors cursors
  rw [if_pos hs]
  generalize info.dlpiAddr + phdr.pVaddr = start at hload ⊢
  have hstop : (start + phdr.pFilesz - pathLength + 1).toNat = start.toNat + phdr.pFilesz.toNat - 18 := by
    have hpath : pathLength.toNat = 19 := rfl
    rw [UInt64.toNat_add, UInt64.toNat_sub, UInt64.toNat_add, UInt64.toNat_one, hpath]
    simp only [UInt64.size] at hload
    omega
  simp only [hstop]
  congr 2
  omega

theorem toNat_cursor (hphdr : phdr ∈ info.dlpiPhdr) (hs : phdr.Searched) {i : ℕ}
    (hi : i < phdr.pFilesz.toNat - 18) : (info.dlpiAddr + phdr.pVaddr + UInt64.ofNat i).toNat =
      (info.dlpiAddr + phdr.pVaddr).toNat + i := by
  have hload := info.loaded phdr hphdr
  have hlen : 19 ≤ phdr.pFilesz.toNat := UInt64.le_iff_toNat_le.1 hs.2
  rw [UInt64.toNat_add, UInt64.toNat_ofNat']
  simp only [UInt64.size] at hload
  omega

/-- The places that are compared are those where the path would lie in a searched segment. -/
theorem mem_cursors_iff (hphdr : phdr ∈ info.dlpiPhdr) :
    cursor ∈ info.cursors phdr ↔ phdr.Searched ∧ info.Inside phdr cursor := by
  by_cases hs : phdr.Searched
  · have hpath : pathLength.toNat = 19 := rfl
    have hlen : 19 ≤ phdr.pFilesz.toNat := UInt64.le_iff_toNat_le.1 hs.2
    rw [cursors_eq hphdr hs, List.mem_map]
    unfold DlPhdrInfo.Inside
    constructor
    · rintro ⟨i, hi, rfl⟩
      have hi := List.mem_range.1 hi
      rw [toNat_cursor hphdr hs hi]
      exact ⟨hs, by omega, by omega⟩
    · rintro ⟨-, hge, hle⟩
      refine ⟨cursor.toNat - (info.dlpiAddr + phdr.pVaddr).toNat, List.mem_range.2 (by omega), ?_⟩
      apply UInt64.toNat_inj.1
      rw [toNat_cursor hphdr hs (by omega)]
      omega
  · unfold DlPhdrInfo.cursors
    rw [if_neg hs]
    simp [hs]

theorem mem_candidates {e : Phdr × UInt64} (h : e ∈ info.candidates) :
    e.1 ∈ info.dlpiPhdr ∧ e.1.Searched ∧ info.Inside e.1 e.2 := by
  obtain ⟨phdr, hphdr, he⟩ := List.mem_flatMap.1 h
  obtain ⟨c, hc, rfl⟩ := List.mem_map.1 he
  exact ⟨hphdr, (mem_cursors_iff hphdr).1 hc⟩

theorem mem_compared (h : cursor ∈ info.compared mem) :
    ∃ phdr ∈ info.dlpiPhdr, phdr.Searched ∧ info.Inside phdr cursor := by
  have hc : ∃ e ∈ info.candidates, e.2 = cursor := by
    rcases List.mem_append.1 h with h | h
    · obtain ⟨e, he, rfl⟩ := List.mem_map.1 h
      exact ⟨e, List.takeWhile_subset _ he, rfl⟩
    · obtain ⟨e, he, rfl⟩ := Option.map_eq_some_iff.1 (Option.mem_toList.1 h)
      exact ⟨e, List.mem_of_find?_eq_some he, rfl⟩
  obtain ⟨e, he, rfl⟩ := hc
  exact ⟨e.1, mem_candidates he⟩

theorem found_eq_some (h : info.found mem = some (phdr, cursor)) :
    info.FirstOccurrence mem phdr cursor := by
  unfold DlPhdrInfo.found DlPhdrInfo.candidates at h
  rw [List.find?_flatMap, List.findSome?_eq_some_iff] at h
  obtain ⟨before, q, after, hsplit, hq, hbefore⟩ := h
  rw [List.find?_map, Option.map_eq_some_iff] at hq
  obtain ⟨c, hc, he⟩ := hq
  obtain ⟨rfl, rfl⟩ := Prod.mk.inj he
  have hmem : ∀ r ∈ before ++ q :: after, r ∈ info.dlpiPhdr := fun r hr => hsplit ▸ hr
  have hq : q ∈ info.dlpiPhdr := hmem q (by simp)
  have hin : c ∈ info.cursors q := List.mem_of_find?_eq_some hc
  obtain ⟨hs, hinside⟩ := (mem_cursors_iff hq).1 hin
  have hmatch : matchesPath mem c = true := List.find?_some hc
  refine ⟨before, after, hsplit, fun r hr d ⟨hrs, hri, hrm⟩ => ?_, ⟨hs, hinside, matchesPath_iff.1 hmatch⟩,
    fun d ⟨_, hdi, hdm⟩ => ?_⟩
  · have hnone := hbefore r hr
    rw [List.find?_map, Option.map_eq_none_iff, List.find?_eq_none] at hnone
    have hd : d ∈ info.cursors r := (mem_cursors_iff (hmem r (by simp [hr]))).2 ⟨hrs, hri⟩
    exact hnone d hd (matchesPath_iff.2 hrm)
  · have hd : d ∈ info.cursors q := (mem_cursors_iff hq).2 ⟨hs, hdi⟩
    rw [cursors_eq hq hs] at hc hd
    obtain ⟨j, hj, rfl⟩ := List.mem_map.1 hd
    rw [List.find?_map, Option.map_eq_some_iff] at hc
    obtain ⟨i, hi, rfl⟩ := hc
    obtain ⟨-, hir, hmin⟩ := List.find?_range_eq_some.1 hi
    rw [toNat_cursor hq hs (List.mem_range.1 hir), toNat_cursor hq hs (List.mem_range.1 hj)]
    by_contra hlt
    have := hmin j (by omega)
    simp [matchesPath_iff.2 hdm] at this

theorem found_eq_none (h : info.found mem = none) (hphdr : phdr ∈ info.dlpiPhdr) :
    ¬ info.OccursAt mem phdr cursor := by
  rintro ⟨hs, hin, hm⟩
  have hc : (phdr, cursor) ∈ info.candidates :=
    List.mem_flatMap.2 ⟨phdr, hphdr, List.mem_map.2 ⟨cursor, (mem_cursors_iff hphdr).2 ⟨hs, hin⟩, rfl⟩⟩
  exact absurd (matchesPath_iff.2 hm) (List.find?_eq_none.1 h _ hc)

end

/-! ### What is written -/

/-- The path at this place is replaced, and nothing else. -/
def Replaced (cursor : UInt64) (mem mem' : UInt64 → UInt8) : Prop :=
  (∀ i b, userPath[i]? = some b → mem' (cursor + UInt64.ofNat i) = b) ∧
    ∀ a, ¬ a - cursor < pathLength → mem' a = mem a

/-- What is done about an occurrence: the range is the one of the pages of the path, every call is about
it, a refusal to make it writable leaves the process as it was, and otherwise the path is replaced;
`patched` is reported exactly when the last call has given the range the protection of its segment, which
is the one that it had before if the loader has mapped the segment by its `p_flags`. -/
structure Handled (kernel : Kernel) (pageSize : ℕ) (p : Process) (phdr : Phdr) (cursor : UInt64)
    (o : Outcome) (start length : UInt64) : Prop where
  range : PageRange pageSize start.toNat length.toNat cursor.toNat pathLength.toNat
  calls : ∀ call ∈ o.calls, call.address = start ∧ call.length = length
  ret : o.ret = 1 ↔ o.patched = true
  refused : kernel start length writable = false → o.process = p ∧ o.patched = false
  replaced : kernel start length writable = true → Replaced cursor p.mem o.process.mem
  patched : o.patched = (kernel start length writable && kernel start length phdr.restoreProtection)
  restored : o.patched = true → o.calls.getLast? = some ⟨start, length, phdr.restoreProtection, true⟩ ∧
    ∀ a, o.process.prot a = if a - start < length then phdr.restoreProtection else p.prot a
  original : o.patched = true → (∀ a, a - start < length → p.prot a = phdr.restoreProtection) →
    o.process.prot = p.prot

section

variable {info : DlPhdrInfo} {kernel : Kernel} {pageSize : Int64} {k : ℕ} {p : Process} {phdr : Phdr}
  {cursor : UInt64} {compared : List UInt64}

theorem replaced_memcpy (mem : UInt64 → UInt8) : Replaced cursor mem (memcpy cursor userPath mem) := by
  have hlen : userPath.length = 19 := by decide
  have hpath : pathLength.toNat = 19 := rfl
  constructor
  · intro i b hb
    have hi : i < 19 := hlen ▸ (List.getElem?_eq_some_iff.1 hb).1
    have hoff : (cursor + UInt64.ofNat i - cursor).toNat = i := by
      rw [UInt64.add_comm, UInt64.add_sub_cancel, UInt64.toNat_ofNat']
      omega
    rw [memcpy, hoff, hb, Option.getD_some]
  · intro a ha
    rw [UInt64.lt_iff_toNat_lt, hpath] at ha
    rw [memcpy, List.getElem?_eq_none (by omega), Option.getD_none]

/-- A page size that is a power of two, as the word that the mask is made of. -/
theorem toNat_pageSize (h : pageSize.toInt = 2 ^ k) :
    pageSize.toUInt64.toNat = 2 ^ k ∧ ¬ pageSize ≤ 0 ∧ 2 ^ k < 9223372036854775808 := by
  have hint : pageSize.toInt = pageSize.toUInt64.toBitVec.toInt := rfl
  have hnat : pageSize.toUInt64.toNat = pageSize.toUInt64.toBitVec.toNat := rfl
  have hcond := BitVec.toInt_eq_toNat_cond pageSize.toUInt64.toBitVec
  have hlt : pageSize.toUInt64.toBitVec.toNat < 2 ^ 64 := pageSize.toUInt64.toBitVec.isLt
  have hpos : (0 : ℤ) < 2 ^ k := by positivity
  have hcast : ((2 ^ k : ℕ) : ℤ) = 2 ^ k := by push_cast; rfl
  have hzero : (0 : Int64).toInt = 0 := rfl
  rw [Int64.le_iff_toInt_le]
  split at hcond <;> refine ⟨?_, ?_, ?_⟩ <;> omega

theorem pageRange_path (hp : pageSize.toInt = 2 ^ k) (hfit : cursor.toNat + pathLength.toNat ≤ UInt64.size) :
    PageRange (2 ^ k) (pageStart pageSize cursor).toNat (pageLength pageSize cursor).toNat cursor.toNat
      pathLength.toNat := by
  obtain ⟨hsize, -, hlt⟩ := toNat_pageSize hp
  have hhalf : 2 * 2 ^ k ≤ 9223372036854775808 := by
    have hk : k < 63 := (Nat.pow_lt_pow_iff_right (by decide : 1 < 2)).1 hlt
    calc 2 * 2 ^ k = 2 ^ (k + 1) := by ring
      _ ≤ 2 ^ 63 := Nat.pow_le_pow_right (by decide) hk
      _ = 9223372036854775808 := by norm_num
  have hpath : pathLength.toNat = 19 := rfl
  have hsmall : pathLength.toNat + 2 * pageSize.toUInt64.toNat ≤ UInt64.size := by
    rw [hsize, hpath]
    simp only [UInt64.size]
    omega
  exact hsize ▸ pageRange hsize hfit hsmall

theorem mprotect_mem (start length : UInt64) (prot : Prot) :
    (mprotect kernel start length prot p).mem = p.mem := by
  unfold mprotect
  split_ifs <;> rfl

theorem mprotect_prot {start length : UInt64} {prot : Prot} (h : kernel start length prot = true) :
    (mprotect kernel start length prot p).prot = fun a => if a - start < length then prot else p.prot a := by
  unfold mprotect
  rw [if_pos h]

theorem patchAt_compared :
    (patchAt kernel pageSize phdr cursor p compared).compared = compared := by
  unfold patchAt
  dsimp only
  split_ifs <;> rfl

theorem handled_patchAt (hp : pageSize.toInt = 2 ^ k)
    (hfit : cursor.toNat + pathLength.toNat ≤ UInt64.size) :
    Handled kernel (2 ^ k) p phdr cursor (patchAt kernel pageSize phdr cursor p compared)
      (pageStart pageSize cursor) (pageLength pageSize cursor) := by
  have hrange := pageRange_path hp hfit
  unfold patchAt
  generalize pageStart pageSize cursor = start at hrange ⊢
  generalize pageLength pageSize cursor = length at hrange ⊢
  dsimp only
  cases hwrite : kernel start length writable with
  | false =>
    refine ⟨hrange, by simp, by simp, fun _ => ⟨rfl, rfl⟩, by simp [hwrite], by simp [hwrite], ?_, ?_⟩
    all_goals simp
  | true =>
    cases hrestore : kernel start length phdr.restoreProtection with
    | false =>
      refine ⟨hrange, by simp, by simp, by simp [hwrite], fun _ => ?_, by simp [hrestore], by simp, by simp⟩
      simp only [Bool.not_true, Bool.false_eq_true, if_false, Bool.not_false, if_true, mprotect_mem]
      exact replaced_memcpy p.mem
    | true =>
      have hprot : (mprotect kernel start length phdr.restoreProtection
          { mprotect kernel start length writable p with
            mem := memcpy cursor userPath (mprotect kernel start length writable p).mem }).prot =
          fun a => if a - start < length then phdr.restoreProtection else p.prot a := by
        rw [mprotect_prot hrestore, mprotect_prot hwrite]
        funext a
        by_cases ha : a - start < length
        · rw [if_pos ha, if_pos ha]
        · simp only [if_neg ha]
      refine ⟨hrange, by simp, by simp, by simp [hwrite], fun _ => ?_, by simp [hwrite, hrestore],
        fun _ => ⟨by simp, fun a => ?_⟩, fun _ horig => ?_⟩
      · simp only [Bool.not_true, Bool.false_eq_true, if_false, mprotect_mem]
        exact replaced_memcpy p.mem
      · simp only [Bool.not_true, Bool.false_eq_true, if_false, hprot]
      · simp only [Bool.not_true, Bool.false_eq_true, if_false, hprot]
        funext a
        by_cases ha : a - start < length
        · rw [if_pos ha, horig a ha]
        · rw [if_neg ha]

end

/-! ### The library -/

/-- What the function does for the library: only bytes of searched segments are compared; where the path
does not occur nothing changes, and otherwise its first occurrence is handled. -/
structure Redirects (info : DlPhdrInfo) (kernel : Kernel) (pageSize : ℕ) (p : Process) (o : Outcome) :
    Prop where
  equallyLong : procPath.length = pathLength.toNat ∧ userPath.length = pathLength.toNat
  compared : ∀ c ∈ o.compared, ∃ phdr ∈ info.dlpiPhdr, phdr.Searched ∧ info.Inside phdr c
  outcome : (o.process = p ∧ o.calls = [] ∧ o.ret = 0 ∧ o.patched = false ∧
      ∀ phdr ∈ info.dlpiPhdr, ∀ c, ¬ info.OccursAt p.mem phdr c) ∨
    ∃ phdr c start length, info.FirstOccurrence p.mem phdr c ∧
      Handled kernel pageSize p phdr c o start length

/-- **The path in the library.**  For every list of segments and every memory, only bytes of readable
segments that are not writable and long enough are compared, the memory changes only where the path
occurs, and then its first occurrence is replaced, in pages that are made writable for that; `patched` is
reported once these have their protection again. -/
theorem patch_goodix_path {info : DlPhdrInfo} {pageSize : Int64} {k : ℕ} (kernel : Kernel) (p : Process)
    (hlib : info.IsLibrary) (hp : pageSize.toInt = 2 ^ k) :
    Redirects info kernel (2 ^ k) p (patchGoodixPathInObject kernel pageSize info false p) := by
  obtain ⟨-, hpos, -⟩ := toNat_pageSize hp
  unfold patchGoodixPathInObject
  rw [if_neg (by simp [hlib]), if_neg hpos]
  cases hfound : info.found p.mem with
  | none =>
    exact ⟨by decide, fun c hc => mem_compared hc,
      .inl ⟨rfl, rfl, rfl, rfl, fun phdr hphdr c => found_eq_none hfound hphdr⟩⟩
  | some e =>
    obtain ⟨phdr, cursor⟩ := e
    have hfirst := found_eq_some hfound
    have hfit : cursor.toNat + pathLength.toNat ≤ UInt64.size := by
      obtain ⟨before, after, hsplit, -, ⟨-, hin, -⟩, -⟩ := hfirst
      exact hin.2.trans (info.loaded phdr (by simp [hsplit]))
    refine ⟨by decide, fun c hc => ?_, .inr ⟨phdr, cursor, _, _, hfirst, handled_patchAt hp hfit⟩⟩
    rw [patchAt_compared] at hc
    exact mem_compared hc

/-- A library with one segment, at the end of a page. -/
def oneSegment : DlPhdrInfo where
  dlpiAddr := 0x7000000
  dlpiName := some (ascii "/vendor/lib64/libgf_hal.so")
  dlpiPhdr := [⟨4, 0xff0, 40⟩]
  loaded := by decide

/-- A process with the path across the border of two pages. -/
def acrossPages : Process where
  mem := fun a => (procPath[(a - 0x7000ff5).toNat]?).getD 0
  prot := fun _ => ⟨true, false, false⟩

theorem patch_goodix_path_acrossPages : Redirects oneSegment (fun _ _ _ => true) (2 ^ 12) acrossPages
    (patchGoodixPathInObject (fun _ _ _ => true) 4096 oneSegment false acrossPages) :=
  patch_goodix_path _ _ (by decide) (by decide)

example : (patchGoodixPathInObject (fun _ _ _ => true) 4096 oneSegment false acrossPages).calls =
    [⟨0x7000000, 0x2000, writable, true⟩, ⟨0x7000000, 0x2000, ⟨true, false, false⟩, true⟩] := by
  decide

/-! ### The loaded objects -/

section

variable {pageSize : Int64} {p p' : Process} {objects : List (DlPhdrInfo × Kernel)}

/-- The visit of an object ends the search exactly when it reports the patch, which it does for the
library only. -/
theorem patchGoodixPathInObject_ret (info : DlPhdrInfo) (kernel : Kernel) (pageSize : Int64)
    (p : Process) : ((patchGoodixPathInObject kernel pageSize info false p).ret ≠ 0 ↔
      (patchGoodixPathInObject kernel pageSize info false p).patched = true) ∧
    ((patchGoodixPathInObject kernel pageSize info false p).patched = true → info.IsLibrary) := by
  unfold patchGoodixPathInObject
  by_cases hlib : info.IsLibrary
  · refine ⟨?_, fun _ => hlib⟩
    by_cases hpos : pageSize ≤ 0
    · simp [hlib, hpos]
    · rw [if_neg (by simp [hlib]), if_neg hpos]
      cases info.found p.mem with
      | none => simp
      | some e =>
        dsimp only
        unfold patchAt
        dsimp only
        split_ifs <;> simp
  · simp [hlib]

/-- **The search of the library.**  `patchGoodixCoordinatePath` answers that the path is redirected only
when a loaded object is the library and its visit, the last one, has reported the patch. -/
theorem patchGoodixCoordinatePath_patched
    (h : patchGoodixCoordinatePath pageSize objects false p = (true, p')) :
    ∃ e ∈ objects, ∃ q, e.1.IsLibrary ∧
      (patchGoodixPathInObject e.2 pageSize e.1 false q).patched = true ∧
      (patchGoodixPathInObject e.2 pageSize e.1 false q).process = p' := by
  induction objects generalizing p with
  | nil => simp [patchGoodixCoordinatePath] at h
  | cons e rest ih =>
    obtain ⟨info, kernel⟩ := e
    have hret := patchGoodixPathInObject_ret info kernel pageSize p
    rw [patchGoodixCoordinatePath] at h
    by_cases hne : (patchGoodixPathInObject kernel pageSize info false p).ret ≠ 0
    · rw [if_pos hne] at h
      have hpatched := hret.1.1 hne
      exact ⟨(info, kernel), List.mem_cons_self, p, hret.2 hpatched, hpatched, (Prod.mk.inj h).2⟩
    · rw [if_neg hne] at h
      have hnot : (patchGoodixPathInObject kernel pageSize info false p).patched = false :=
        Bool.not_eq_true _ ▸ mt hret.1.2 hne
      rw [hnot] at h
      obtain ⟨e, he, q, hq⟩ := ih h
      exact ⟨e, List.mem_cons_of_mem _ he, q, hq⟩

end

end TrebleDoze.Fingerprint.GoodixPath
