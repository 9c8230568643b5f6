import TrebleDoze.Lib.CString
import TrebleDoze.Lib.Wire

/-!
# `persistprops`

`cmds/persistprops.cpp` shows the persistent properties, and sets one: it reads the file into a buffer of
the file's size, parses the buffer, updates the message and writes it over the file.  Neither the count
that `read` returns nor the result of the parser is looked at.

* `updated_update`: what the update makes of the records;
* `whole_of_complete`: a complete `read` gives the parser the file's bytes;
* `wire`: the library for messages of the fields that `persistent_properties.proto` declares;
* `meets_iff`: with these bytes, and with no others, every library treats well the files that it parses;
  a file that does not parse is never treated well.
-/

namespace TrebleDoze.Cmds.Persistprops

open TrebleDoze.Lib

/-! ### The messages -/

/-- `PersistentPropertyRecord`: its optional fields, and what it has besides. -/
structure Record (U : Type) where
  name : Option (List UInt8)
  value : Option (List UInt8)
  unknown : U
  deriving DecidableEq

/-- `PersistentProperties`. -/
structure Message (U : Type) where
  properties : List (Record U)
  unknown : U
  deriving DecidableEq

/-- `name()`. -/
def Record.getName {U : Type} (r : Record U) : List UInt8 := r.name.getD []

/-- `value()`. -/
def Record.getValue {U : Type} (r : Record U) : List UInt8 := r.value.getD []

/-- `set_value`. -/
def Record.setValue {U : Type} (r : Record U) (value : List UInt8) : Record U :=
  { r with value := some value }

/-- The protobuf library: its parser, the message that a failed parse leaves, its serialization, which is
parsed back, and a new record's unknown fields. -/
structure Protobuf (U : Type) where
  parse : List UInt8 → Option (Message U)
  leaves : List UInt8 → Message U
  serialize : Message U → List UInt8
  noUnknown : U
  parse_serialize : ∀ m, parse (serialize m) = some m

/-! ### The program -/

/-- What `read` makes of a buffer of the file's size: it puts bytes of the file to the front, no more than
fit into one call, and the others are whatever `malloc` has returned.  An error reads nothing. -/
structure Read (content : List UInt8) where
  count : ℕ
  count_le : count ≤ content.length
  limit : count ≤ 0x7ffff000
  rest : List UInt8
  length_rest : rest.length = content.length - count

/-- `data`. -/
def Read.data {content : List UInt8} (r : Read content) : List UInt8 := content.take r.count ++ r.rest

/-- All bytes of the file have been read. -/
def Read.Complete {content : List UInt8} (r : Read content) : Prop := r.count = content.length

/-- The parser gets the bytes of the file: the buffer has them, and their number is an `int`. -/
def Read.Whole {content : List UInt8} (r : Read content) : Prop :=
  r.data = content ∧ content.length < 2 ^ 31

/-- What is printed: the number of properties, each of them, and how the program ends. -/
inductive Print where
  | currently (n : ℕ)
  | property (name value : List UInt8)
  | usage (argv0 : Option (List UInt8))
  | notFound
  | found
  deriving DecidableEq, Repr

/-- What is left: the file, the prints and the exit status. -/
structure Result where
  file : List UInt8
  out : List Print
  ret : ℤ
  deriving DecidableEq, Repr

section

variable {U : Type} (lib : Protobuf U)

/-- `ParseFromArray(data, size)`, whose size is an `int`: the message, whatever the result. -/
def parseFromArray (data : List UInt8) : Message U :=
  let size := (Int32.ofNat data.length).toInt
  if size < 0 then lib.leaves data
  else
    let data := data.take size.toNat
    (lib.parse data).getD (lib.leaves data)

/-- `find_if` and what follows it: the records, and whether one was found. -/
def update (property value : List UInt8) : List (Record U) → List (Record U) × Bool
  | [] => ([⟨some property, some value, lib.noUnknown⟩], false)
  | r :: rs =>
    if r.getName = property then (r.setValue value :: rs, true)
    else
      let e := update property value rs
      (r :: e.1, e.2)

/-- The updated message. -/
def updateMessage (property value : List UInt8) (m : Message U) : Message U :=
  { m with properties := (update lib property value m.properties).1 }

/-- `main`, for a file that can be opened and written. -/
def main (argv : List (List UInt8)) (content : List UInt8) (read : Read content) : Result :=
  let props := parseFromArray lib read.data
  let shown := .currently props.properties.length ::
    props.properties.map fun prop => .property prop.getName prop.getValue
  match argv with
  | [_] => ⟨content, shown, 0⟩
  | [_, property, value] =>
    let found := (update lib property value props.properties).2
    ⟨lib.serialize (updateMessage lib property value props),
      shown ++ [if found then .found else .notFound], 0⟩
  | argv => ⟨content, shown ++ [.usage argv.head?], -1⟩

end

/-! ### The update -/

section

variable {U : Type} {lib : Protobuf U} {property value : List UInt8} {rs rs' : List (Record U)}

/-- The value of the first record of that name is replaced, or a record is appended if there is none; the
other records stay, in their order. -/
def Updated (lib : Protobuf U) (property value : List UInt8) (rs rs' : List (Record U)) : Prop :=
  (∃ before r after, rs = before ++ r :: after ∧ (∀ q ∈ before, q.getName ≠ property) ∧
      r.getName = property ∧ rs' = before ++ r.setValue value :: after) ∨
    (∀ q ∈ rs, q.getName ≠ property) ∧ rs' = rs ++ [⟨some property, some value, lib.noUnknown⟩]

theorem updated_update : Updated lib property value rs (update lib property value rs).1 := by
  induction rs with
  | nil => exact .inr ⟨by simp, rfl⟩
  | cons r rs ih =>
    by_cases hr : r.getName = property
    · rw [update, if_pos hr]
      exact .inl ⟨[], r, rs, rfl, by simp, hr, rfl⟩
    · rw [update, if_neg hr]
      rcases ih with ⟨before, q, after, rfl, hbefore, hq, he⟩ | ⟨hnone, he⟩
      · exact .inl ⟨r :: before, q, after, rfl, List.forall_mem_cons.2 ⟨hr, hbefore⟩, hq,
          congrArg (r :: ·) he⟩
      · exact .inr ⟨List.forall_mem_cons.2 ⟨hr, hnone⟩, congrArg (r :: ·) he⟩

theorem updated_iff : Updated lib property value rs rs' ↔ rs' = (update lib property value rs).1 := by
  refine ⟨fun h => ?_, fun h => h ▸ updated_update⟩
  induction rs generalizing rs' with
  | nil =>
    rcases h with ⟨before, q, after, he, -⟩ | ⟨-, rfl⟩
    · simp at he
    · rfl
  | cons r rs ih =>
    by_cases hr : r.getName = property
    · rw [update, if_pos hr]
      rcases h with ⟨before, q, after, he, hbefore, -, rfl⟩ | ⟨hnone, -⟩
      · cases before with
        | nil =>
          obtain ⟨rfl, rfl⟩ := List.cons.inj he
          rfl
        | cons p before =>
          obtain ⟨rfl, -⟩ := List.cons.inj he
          exact absurd hr (hbefore r (by simp))
      · exact absurd hr (hnone r (by simp))
    · rw [update, if_neg hr]
      rcases h with ⟨before, q, after, he, hbefore, hq, rfl⟩ | ⟨hnone, rfl⟩
      · cases before with
        | nil =>
          obtain ⟨rfl, -⟩ := List.cons.inj he
          exact absurd hq hr
        | cons p before =>
          obtain ⟨rfl, rfl⟩ := List.cons.inj he
          have hrest := ih (.inl ⟨before, q, after, rfl, (List.forall_mem_cons.1 hbefore).2, hq, rfl⟩)
          exact congrArg (r :: ·) hrest
      · have hrest := ih (.inr ⟨(List.forall_mem_cons.1 hnone).2, rfl⟩)
        exact congrArg (r :: ·) hrest

end

/-! ### What the file has afterwards -/

section

variable {U : Type} {lib : Protobuf U} {argv0 property value content : List UInt8} {read : Read content}
  {m : Message U}

/-- The file is left alone, which it is when it does not parse or has not been read completely, or it has
the updated records. -/
def Meets (lib : Protobuf U) (argv0 property value content : List UInt8) (read : Read content) : Prop :=
  let file := (main lib [argv0, property, value] content read).file
  ((lib.parse content = none ∨ ¬ read.Complete) ∧ file = content) ∨
    ∃ m m', lib.parse content = some m ∧ lib.parse file = some m' ∧
      Updated lib property value m.properties m'.properties

theorem file_main : (main lib [argv0, property, value] content read).file =
    lib.serialize (updateMessage lib property value (parseFromArray lib read.data)) := rfl

theorem length_data (read : Read content) : read.data.length = content.length := by
  have hle := read.count_le
  rw [Read.data, List.length_append, List.length_take, read.length_rest]
  omega

theorem whole_of_complete (hc : read.Complete) : read.Whole := by
  have hlimit : content.length ≤ 0x7ffff000 := hc ▸ read.limit
  have hrest : read.rest = [] := by
    apply List.length_eq_zero_iff.1
    rw [read.length_rest, hc, Nat.sub_self]
  refine ⟨?_, by omega⟩
  rw [Read.data, hrest, List.append_nil, hc, List.take_length]

theorem parseFromArray_whole (hw : read.Whole) (hm : lib.parse content = some m) :
    parseFromArray lib read.data = m := by
  obtain ⟨hdata, hlt⟩ := hw
  have hsize : (Int32.ofNat content.length).toInt = content.length :=
    Int32.toInt_ofNat_of_lt (by omega)
  unfold parseFromArray
  rw [hdata]
  simp only [hsize]
  rw [if_neg (by omega), Int.toNat_natCast, List.take_length, hm, Option.getD_some]

/-- The second half of `Meets`, with the message that is made of the buffer. -/
theorem exists_updated_iff :
    (∃ m m', lib.parse content = some m ∧
      lib.parse (main lib [argv0, property, value] content read).file = some m' ∧
        Updated lib property value m.properties m'.properties) ↔
    ∃ m, lib.parse content = some m ∧
      (update lib property value (parseFromArray lib read.data).properties).1 =
        (update lib property value m.properties).1 := by
  rw [file_main, lib.parse_serialize]
  constructor
  · rintro ⟨m, m', hm, hm', hu⟩
    obtain rfl := Option.some.inj hm'
    exact ⟨m, hm, updated_iff.1 hu⟩
  · rintro ⟨m, hm, he⟩
    exact ⟨m, _, hm, rfl, updated_iff.2 he⟩

/-- What is written parses, so a file that does not is not left alone. -/
theorem isSome_of_meets (h : Meets lib argv0 property value content read) :
    (lib.parse content).isSome = true := by
  rcases h with ⟨-, hfile⟩ | ⟨m, m', hm, -⟩
  · rw [← hfile, file_main, lib.parse_serialize, Option.isSome_some]
  · rw [hm, Option.isSome_some]

theorem meets_of_whole (hw : read.Whole) (hp : (lib.parse content).isSome = true) :
    Meets lib argv0 property value content read := by
  obtain ⟨m, hm⟩ := Option.isSome_iff_exists.1 hp
  exact .inr (exists_updated_iff.2 ⟨m, hm, by rw [parseFromArray_whole hw hm]⟩)

end

/-! ### The declared fields -/

/-- The tag of `name`, and of `properties`. -/
def tag1 : UInt8 := 0x0a

/-- The tag of `value`. -/
def tag2 : UInt8 := 0x12

/-- The fields of a record. -/
def Record.fields (r : Record Unit) : List WireField :=
  (r.name.map (WireField.mk tag1)).toList ++ (r.value.map (WireField.mk tag2)).toList

/-- The last payload with the tag. -/
def lastOf (tag : UInt8) (fs : List WireField) : Option (List UInt8) :=
  (fs.filter fun f => f.tag = tag).getLast?.map WireField.payload

/-- The record of a payload; a tag that is not declared is refused. -/
def parseRecord (f : WireField) : Option (Record Unit) := do
  let fs ← decodeFields f.payload
  if f.tag = tag1 ∧ ∀ g ∈ fs, g.tag = tag1 ∨ g.tag = tag2 then
    some ⟨lastOf tag1 fs, lastOf tag2 fs, ()⟩
  else none

theorem parseRecord_encode (r : Record Unit) :
    parseRecord ⟨tag1, encodeFields r.fields⟩ = some r := by
  obtain ⟨name, value, _⟩ := r
  have htag : tag2 ≠ tag1 := by decide
  unfold parseRecord
  rw [decodeFields_encodeFields]
  cases name <;> cases value <;> simp [Record.fields, lastOf, htag, htag.symm]

theorem mapM_parseRecord (rs : List (Record Unit)) :
    (rs.map fun r => WireField.mk tag1 (encodeFields r.fields)).mapM parseRecord = some rs := by
  induction rs with
  | nil => rfl
  | cons r rs ih =>
    rw [List.map_cons, List.mapM_cons, parseRecord_encode, ih]
    rfl

/-- The library for messages of the declared fields; a message that does not parse is left empty. -/
def wire : Protobuf Unit where
  parse := fun l => (decodeFields l).bind fun fs => (fs.mapM parseRecord).map fun rs => ⟨rs, ()⟩
  leaves := fun _ => ⟨[], ()⟩
  serialize := fun m => encodeFields (m.properties.map fun r => ⟨tag1, encodeFields r.fields⟩)
  noUnknown := ()
  parse_serialize := by
    rintro ⟨rs, _⟩
    rw [decodeFields_encodeFields, Option.bind_some, mapM_parseRecord]
    rfl

/-! ### Buffers with other bytes -/

/-- A library that parses the content as the empty message, and nothing else of its length or less: such a
parse leaves two records. -/
def misled (content : List UInt8) : Protobuf Unit where
  parse l :=
    if l = content then some ⟨[], ()⟩
    else if content.length < l.length then wire.parse (l.drop (content.length + 1))
    else none
  leaves _ := ⟨[⟨none, none, ()⟩, ⟨none, none, ()⟩], ()⟩
  serialize m := List.replicate (content.length + 1) 0 ++ wire.serialize m
  noUnknown := ()
  parse_serialize m := by
    have hlength : (List.replicate (content.length + 1) (0 : UInt8) ++ wire.serialize m).length =
        content.length + 1 + (wire.serialize m).length := by
      rw [List.length_append, List.length_replicate]
    have hne : List.replicate (content.length + 1) 0 ++ wire.serialize m ≠ content := by
      intro h
      have := hlength.symm.trans (congrArg List.length h)
      omega
    rw [if_neg hne, if_pos (by omega), List.drop_left' List.length_replicate, wire.parse_serialize]

section

variable {argv0 property value content : List UInt8} {read : Read content}

theorem parse_misled : (misled content).parse content = some ⟨[], ()⟩ := if_pos rfl

theorem parseFromArray_misled (hw : ¬read.Whole) :
    parseFromArray (misled content) read.data = ⟨[⟨none, none, ()⟩, ⟨none, none, ()⟩], ()⟩ := by
  have hlength := length_data read
  unfold parseFromArray
  dsimp only
  split_ifs with hneg
  · rfl
  · set size := (Int32.ofNat read.data.length).toInt with hsize
    have hlt : size < 2 ^ 31 := Int32.toInt_lt _
    have hne : read.data.take size.toNat ≠ content := by
      intro h
      have hmin := congrArg List.length h
      rw [List.length_take] at hmin
      have hall : read.data.take size.toNat = read.data := List.take_of_length_le (by omega)
      exact hw ⟨hall.symm.trans h, by omega⟩
    have hshort : ¬content.length < (read.data.take size.toNat).length := by
      rw [List.length_take]
      omega
    have hparse : (misled content).parse (read.data.take size.toNat) = none := by
      show (if _ then _ else if _ then _ else none) = none
      rw [if_neg hne, if_neg hshort]
    rw [hparse]
    rfl

variable (property value) in
theorem two_le_length_update {U : Type} (lib : Protobuf U) (r q : Record U) :
    2 ≤ (update lib property value [r, q]).1.length := by
  unfold update
  split_ifs
  · simp
  · simp only [update]
    split_ifs <;> simp

theorem not_meets_misled (hw : ¬read.Whole) :
    ¬Meets (misled content) argv0 property value content read := by
  rintro (⟨-, hfile⟩ | hupdated)
  · have hlength := congrArg List.length hfile
    rw [file_main] at hlength
    simp only [misled, List.length_append, List.length_replicate] at hlength
    omega
  · obtain ⟨m, hm, he⟩ := exists_updated_iff.1 hupdated
    obtain rfl := Option.some.inj (parse_misled.symm.trans hm)
    rw [parseFromArray_misled hw] at he
    have htwo := two_le_length_update property value (misled content) ⟨none, none, ()⟩
      ⟨none, none, ()⟩
    rw [he] at htwo
    simp [update] at htwo

end

/-- **When the properties survive.**  A file is updated or left alone only if it parses.  If the parser gets
the file's bytes, as it does after a complete `read`, that is enough; if it gets others, there is a library
with which it is not. -/
theorem meets_iff (argv0 property value content : List UInt8) (read : Read content) :
    (∀ (U : Type) (lib : Protobuf U), Meets lib argv0 property value content read →
      (lib.parse content).isSome = true) ∧
    (read.Complete → read.Whole) ∧
    (read.Whole ↔ ∀ (U : Type) (lib : Protobuf U), (lib.parse content).isSome = true →
      Meets lib argv0 property value content read) := by
  refine ⟨fun U lib => isSome_of_meets, whole_of_complete, fun hw U lib => meets_of_whole hw,
    fun hall => ?_⟩
  by_contra hw
  refine not_meets_misled hw (hall Unit (misled content) ?_)
  rw [parse_misled, Option.isSome_some]

/-- A file of one byte that does not parse, read completely. -/
def damaged : Read [0xff] := ⟨1, by decide, by decide, [], by decide⟩

/-- The file that does not parse is replaced by one with the new record only. -/
theorem damaged_overwritten :
    ¬ Meets wire (ascii "persistprops") (ascii "a") (ascii "b") [0xff] damaged := by
  have hparse : wire.parse [0xff] = none := by decide
  intro hmeets
  have hsome := isSome_of_meets hmeets
  rw [hparse] at hsome
  cases hsome

end TrebleDoze.Cmds.Persistprops
