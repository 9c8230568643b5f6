import Mathlib.Data.List.Basic
import Mathlib.Tactic.Common

/-!
# Fields with a length

Messages that are sequences of fields, each a tag of one byte, the length of its payload as a number in
groups of seven bits, and the payload.

* `readVarint_varint`: a length is read back, whatever is behind it;
* `decodeFields_encodeFields`: so is a message, field by field.
-/

namespace TrebleDoze.Lib

/-- Seven bits a byte, the low ones first; every byte but the last has its top bit set. -/
def varint (n : ℕ) : List UInt8 :=
  if n < 128 then [UInt8.ofNat n] else UInt8.ofNat (n % 128 + 128) :: varint (n / 128)

/-- The number at the front, and what is behind it. -/
def readVarint : List UInt8 → Option (ℕ × List UInt8)
  | [] => none
  | b :: t =>
    if b.toNat < 128 then some (b.toNat, t)
    else (readVarint t).map fun e => (b.toNat - 128 + 128 * e.1, e.2)

theorem readVarint_varint (n : ℕ) (t : List UInt8) : readVarint (varint n ++ t) = some (n, t) := by
  induction n using varint.induct with
  | case1 n h =>
    have hn : (UInt8.ofNat n).toNat = n := by
      rw [UInt8.toNat_ofNat']
      omega
    rw [varint, if_pos h, List.singleton_append, readVarint, hn, if_pos h]
  | case2 n h ih =>
    have hn : (UInt8.ofNat (n % 128 + 128)).toNat = n % 128 + 128 := by
      rw [UInt8.toNat_ofNat']
      omega
    have hback : n % 128 + 128 - 128 + 128 * (n / 128) = n := by omega
    rw [varint, if_neg h, List.cons_append, readVarint, hn, if_neg (by omega), ih, Option.map_some, hback]

/-- A field: its tag and its payload. -/
structure WireField where
  tag : UInt8
  payload : List UInt8
  deriving DecidableEq, Repr

/-- A field as bytes. -/
def WireField.encode (f : WireField) : List UInt8 := f.tag :: varint f.payload.length ++ f.payload

/-- A message. -/
def encodeFields (fs : List WireField) : List UInt8 := fs.flatMap WireField.encode

/-- The field at the front, and what is behind it. -/
def readField : List UInt8 → Option (WireField × List UInt8)
  | [] => none
  | tag :: t => do
    let (n, rest) ← readVarint t
    if n ≤ rest.length then some (⟨tag, rest.take n⟩, rest.drop n) else none

/-- The fields of a message of at most so many. -/
def readFields : ℕ → List UInt8 → Option (List WireField)
  | _, [] => some []
  | 0, _ => none
  | fuel + 1, l => do
    let (f, rest) ← readField l
    return f :: (← readFields fuel rest)

/-- The fields of a message; each takes a byte at least. -/
def decodeFields (l : List UInt8) : Option (List WireField) := readFields l.length l

section

variable {f : WireField} {fs : List WireField} {t : List UInt8} {fuel : ℕ}

theorem readField_encode : readField (f.encode ++ t) = some (f, t) := by
  have he : f.encode ++ t = f.tag :: (varint f.payload.length ++ (f.payload ++ t)) := by
    simp [WireField.encode]
  rw [he, readField, readVarint_varint]
  simp

theorem length_encode_pos : 0 < f.encode.length := by
  simp [WireField.encode]

theorem readFields_encodeFields (h : fs.length ≤ fuel) : readFields fuel (encodeFields fs) = some fs := by
  induction fs generalizing fuel with
  | nil => simp [encodeFields, readFields]
  | cons f fs ih =>
    obtain ⟨fuel, rfl⟩ := Nat.exists_eq_add_of_le' h
    have he : encodeFields (f :: fs) = f.encode ++ encodeFields fs := List.flatMap_cons
    have hne : f.encode ++ encodeFields fs ≠ [] := by simp [WireField.encode]
    rw [he, List.length_cons, ← Nat.add_assoc, readFields, readField_encode]
    · simp [ih (Nat.le_add_left _ fuel)]
    · exact hne

/-- **Fields round trip.**  The fields of a message are read back. -/
theorem decodeFields_encodeFields (fs : List WireField) : decodeFields (encodeFields fs) = some fs := by
  apply readFields_encodeFields
  induction fs with
  | nil => exact Nat.zero_le _
  | cons f fs ih =>
    have hpos := length_encode_pos (f := f)
    have he : encodeFields (f :: fs) = f.encode ++ encodeFields fs := List.flatMap_cons
    rw [he, List.length_append, List.length_cons]
    omega

end

end TrebleDoze.Lib
