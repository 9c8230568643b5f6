import TrebleDoze.Lib.CString
import TrebleDoze.Lib.Exit
import TrebleDoze.Lib.LittleEndian

/-!
# `getSPL`

`fixSPL/getSPL.c` prints the Android version and the security patch level of a boot image: from the
version word of its header, or, where that has no patch level, from two properties in the AVB metadata
that it looks for in the whole file.  The value of a property is taken to be the string behind the zero
of its key, in a buffer that has the size of the file.

* `printProperty_ok_iff`: when a property is printed without a read past the end of the buffer;
* `printsStoredValues_iff`: when `main` prints the values that the file has for the keys.
-/

namespace TrebleDoze.Cmds.GetSpl

open TrebleDoze.Lib

/-- What `main` prints, by the stream. -/
inductive Print where
  | stderr (text : List UInt8)
  | stdout (text : List UInt8)
  deriving DecidableEq, Repr

/-- A string that does not end in the buffer is read past its end. -/
inductive Fault where
  | outOfBounds
  deriving DecidableEq, Repr

/-- What is looked for, and how its value is printed, to stdout only for the `argv[2]` of its own. -/
structure Property where
  key : List UInt8
  label : List UInt8
  argument : List UInt8
  suffix : List UInt8

/-- `PROP_OS_VERSION`. -/
def propOsVersion : Property where
  key := ascii "com.android.build.boot.os_version"
  label := ascii "Android: "
  argument := ascii "android"
  suffix := ascii ".0.0"

/-- `PROP_SPL`. -/
def propSpl : Property where
  key := ascii "com.android.build.boot.security_patch"
  label := ascii "SPL: "
  argument := ascii "spl"
  suffix := []

/-- The key with its zero, which `sizeof` counts. -/
def Property.pattern (prop : Property) : List UInt8 := prop.key ++ [0]

/-- The two prints of a value. -/
def Property.prints (prop : Property) (argument value : List UInt8) : List Print :=
  .stderr (prop.label ++ value ++ ascii "\n") ::
    if argument = prop.argument then [.stdout (value ++ prop.suffix)] else []

/-- `memmem` and the prints of the string at `p + sizeof(key)`. -/
def printProperty (prop : Property) (argument buf : List UInt8) : Except Fault (List Print) :=
  match findSub prop.pattern buf with
  | none => .ok []
  | some p =>
    match cstring (buf.drop (p + prop.pattern.length)) with
    | none => .error .outOfBounds
    | some value => .ok (prop.prints argument value)

/-- `%d`. -/
def decimal (n : ℕ) : List UInt8 := ascii (toString n)

/-- `%0wd`. -/
def padded (w n : ℕ) : List UInt8 := List.replicate (w - (decimal n).length) 48 ++ decimal n

/-- `val`, the word at `11*4`; the bytes that a short file does not have are zero. -/
def versionWord (content : List UInt8) : ℕ := leField 44 4 content

/-- `spl`. -/
def patchLevel (content : List UInt8) : ℕ := versionWord content &&& 0x7ff

/-- `main`, for the content of the file and `argv[2]`. -/
def main (content argument : List UInt8) : Except Fault (List Print) :=
  let android := versionWord content >>> 11
  let spl := patchLevel content
  let version := decimal (android >>> 14) ++ ascii "." ++ decimal ((android >>> 7) &&& 0x7f) ++
    ascii "." ++ decimal (android &&& 0x7f)
  let y := 2000 + (spl >>> 4)
  let m := spl &&& 0xf
  if spl ≠ 0 then
    .ok ([.stderr (ascii "Android: " ++ version ++ ascii "\n"),
      .stderr (ascii "SPL: " ++ decimal y ++ ascii "-" ++ decimal m ++ ascii "-01\n")] ++
        if argument = ascii "android" then [.stdout version]
        else if argument = ascii "spl" then
          [.stdout (padded 4 y ++ ascii "-" ++ padded 2 m ++ ascii "-" ++ padded 2 1)]
        else [])
  else do
    let version ← printProperty propOsVersion argument content
    let patch ← printProperty propSpl argument content
    return version ++ patch

/-! ### One property -/

section

variable {prop : Property} {argument content : List UInt8} {prints : List Print}

/-- A zero stands somewhere behind an occurrence of the key, if it occurs at all. -/
def Property.Terminated (prop : Property) (content : List UInt8) : Prop :=
  prop.pattern <:+: content → ∃ pre post, content = pre ++ prop.pattern ++ post ∧ 0 ∈ post

theorem exists_of_findSub {p : ℕ} (h : findSub prop.pattern content = some p) :
    ∃ pre post, content = pre ++ prop.pattern ++ post ∧
      content.drop (p + prop.pattern.length) = post := by
  obtain ⟨⟨pre, post, rfl, rfl⟩, -⟩ := findSub_eq_some_iff.1 h
  exact ⟨pre, post, rfl, by rw [← List.length_append, List.drop_left]⟩

/-- What is printed is a string of the file that stands behind the key. -/
theorem printProperty_ok (h : printProperty prop argument content = .ok prints) :
    prop.Terminated content ∧ ∀ print ∈ prints, ∃ pre value post,
      content = pre ++ prop.pattern ++ (value ++ 0 :: post) ∧ 0 ∉ value ∧
        print ∈ prop.prints argument value := by
  unfold printProperty at h
  cases hf : findSub prop.pattern content with
  | none =>
    rw [hf] at h
    obtain rfl := Except.ok.inj h
    exact ⟨fun hi => absurd hi (findSub_eq_none_iff.1 hf), by simp⟩
  | some p =>
    obtain ⟨pre, post, he, hdrop⟩ := exists_of_findSub hf
    simp only [hf, hdrop] at h
    cases hc : cstring post with
    | none => simp [hc] at h
    | some value =>
      rw [hc] at h
      obtain rfl := Except.ok.inj h
      obtain ⟨hz, rest, rfl⟩ := cstring_eq_some_iff.1 hc
      exact ⟨fun _ => ⟨pre, _, he, by simp⟩, fun print hp => ⟨pre, value, rest, he, hz, hp⟩⟩

/-- Behind the first occurrence of the key there is a zero if there is one behind any. -/
theorem exists_printProperty (h : prop.Terminated content) (argument : List UInt8) :
    ∃ prints, printProperty prop argument content = .ok prints := by
  unfold printProperty
  cases hf : findSub prop.pattern content with
  | none => exact ⟨[], rfl⟩
  | some p =>
    obtain ⟨-, hfirst⟩ := findSub_eq_some_iff.1 hf
    obtain ⟨pre₀, post₀, he₀, hdrop⟩ := exists_of_findSub hf
    obtain ⟨pre, post, he, hz⟩ := h ⟨pre₀, post₀, he₀.symm⟩
    -- what follows this occurrence is a part of what follows the first one
    have hsuffix : post <:+ post₀ := by
      have hpost : content.drop (pre.length + prop.pattern.length) = post := by
        rw [he, ← List.length_append, List.drop_left]
      have hle : p + prop.pattern.length ≤ pre.length + prop.pattern.length := by
        have := hfirst pre post he
        omega
      obtain ⟨d, hd⟩ := Nat.exists_eq_add_of_le hle
      rw [← hpost, ← hdrop, hd, ← List.drop_drop]
      exact List.drop_suffix _ _
    simp only [hdrop]
    cases hc : cstring post₀ with
    | none => exact absurd (hsuffix.mem hz) (cstring_eq_none_iff.1 hc)
    | some value => exact ⟨_, rfl⟩

end

/-! ### The fallback -/

/-- Nothing is read behind the end of the buffer, and each value that is printed is a string of the file
behind the zero of its key. -/
def PrintsStoredValues (content argument : List UInt8) : Prop :=
  ∃ prints, main content argument = .ok prints ∧
    ∀ print ∈ prints, ∃ prop ∈ [propOsVersion, propSpl], ∃ pre value post,
      content = pre ++ prop.pattern ++ (value ++ 0 :: post) ∧ 0 ∉ value ∧
        print ∈ prop.prints argument value

theorem main_eq_ok_iff {content argument : List UInt8} {prints : List Print} (h : patchLevel content = 0) :
    main content argument = .ok prints ↔ ∃ version patch,
      printProperty propOsVersion argument content = .ok version ∧
        printProperty propSpl argument content = .ok patch ∧ version ++ patch = prints := by
  unfold main
  simp only [h, ne_eq, not_true_eq_false, if_false]
  rw [bind_eq_ok_iff]
  constructor
  · rintro ⟨version, hv, hrest⟩
    obtain ⟨patch, hp, hprints⟩ := bind_eq_ok_iff.1 hrest
    exact ⟨version, patch, hv, hp, Except.ok.inj hprints⟩
  · rintro ⟨version, patch, hv, hp, rfl⟩
    exact ⟨version, hv, bind_eq_ok_iff.2 ⟨patch, hp, rfl⟩⟩

/-- **The values of the two properties are printed as the file has them** just when each key that occurs
is followed by a zero somewhere: with a key at the end of the file, a string is printed that is not in
the buffer. -/
theorem printsStoredValues_iff (content argument : List UInt8) (h : patchLevel content = 0) :
    PrintsStoredValues content argument ↔
      ∀ prop ∈ [propOsVersion, propSpl], prop.Terminated content := by
  unfold PrintsStoredValues
  simp only [main_eq_ok_iff h]
  constructor
  · rintro ⟨prints, ⟨version, patch, hv, hp, -⟩, -⟩ prop hprop
    rcases List.mem_pair.1 hprop with rfl | rfl
    · exact (printProperty_ok hv).1
    · exact (printProperty_ok hp).1
  · intro ht
    obtain ⟨version, hv⟩ := exists_printProperty (ht propOsVersion (by simp)) argument
    obtain ⟨patch, hp⟩ := exists_printProperty (ht propSpl (by simp)) argument
    refine ⟨version ++ patch, ⟨version, patch, hv, hp, rfl⟩, fun print hprint => ?_⟩
    rcases List.mem_append.1 hprint with hprint | hprint
    · exact ⟨propOsVersion, by simp, (printProperty_ok hv).2 print hprint⟩
    · exact ⟨propSpl, by simp, (printProperty_ok hp).2 print hprint⟩

/-- A file with the Android version among its AVB properties. -/
def withVersion : List UInt8 :=
  List.replicate 48 0 ++ propOsVersion.pattern ++ (ascii "14" ++ [0])

theorem printsStoredValues_iff_version : PrintsStoredValues withVersion (ascii "android") := by
  refine (printsStoredValues_iff withVersion (ascii "android") (by decide)).2 fun prop hprop => ?_
  rcases List.mem_pair.1 hprop with rfl | rfl
  · exact fun _ => ⟨_, _, rfl, by decide⟩
  · exact fun hi => absurd hi (findSub_eq_none_iff.1 (by decide))

/-- A file that ends with a key. -/
def keyAtEnd : List UInt8 := List.replicate 48 0 ++ propSpl.pattern

theorem keyAtEnd_outOfBounds : patchLevel keyAtEnd = 0 ∧
    main keyAtEnd (ascii "spl") = .error .outOfBounds ∧ ¬ PrintsStoredValues keyAtEnd (ascii "spl") := by
  have hmain : main keyAtEnd (ascii "spl") = .error .outOfBounds := by decide
  refine ⟨by decide, hmain, ?_⟩
  rintro ⟨prints, hp, -⟩
  rw [hmain] at hp
  cases hp

end TrebleDoze.Cmds.GetSpl
