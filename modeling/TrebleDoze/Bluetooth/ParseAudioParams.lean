import Mathlib.Data.List.TakeWhile
import Mathlib.Tactic.Common

/-!
# Strings of audio parameters

`ParseAudioParams` of `utils.cc` splits a string at each `;` into segments and each segment at its `=`;
`out_get_parameters` writes its answer in the same form.

* `Split`: `android::base::Split` as it is documented; `Split.split_eq`: this determines it;
* `lookup_parse`: what the map has for a key, by the segments of the string;
* `parse_audio_params`: this for every string, and the round trip for the form that
  `out_get_parameters` writes.
-/

namespace TrebleDoze.Bluetooth.ParseAudioParams

/-- A `std::string`; a character stands for a byte. -/
abbrev Text := List Char

/-- `android::base::Split` with one delimiter: the pieces between its occurrences, empty ones included. -/
structure Split where
  split : Text → Char → List Text
  join : ∀ s d, List.intercalate [d] (split s d) = s
  piece : ∀ s d, ∀ p ∈ split s d, d ∉ p
  ne_nil : ∀ s d, split s d ≠ []

/-- The map: each key once. -/
abbrev ParamsMap := List (Text × Text)

/-- `params_map[key] = value`. -/
def assign (paramsMap : ParamsMap) (key value : Text) : ParamsMap :=
  (key, value) :: paramsMap.filter fun entry => entry.1 ≠ key

/-- An iteration of the loop of `ParseAudioParams`. -/
def parseSegment (S : Split) (paramsMap : ParamsMap) (segment : Text) : ParamsMap :=
  if segment.length = 0 then paramsMap
  else
    match S.split segment '=' with
    | [] => paramsMap
    | key :: rest =>
      -- the value is the second piece, if there is one
      if key.isEmpty then paramsMap else assign paramsMap key (rest.headD [])

/-- `ParseAudioParams`. -/
def parseAudioParams (S : Split) (params : Text) : ParamsMap :=
  (S.split params ';').foldl (parseSegment S) []

/-- The `result` of `out_get_parameters`, for the entries of its map in the order of the iteration. -/
def paramsString (returnParams : List (Text × Text)) : Text :=
  returnParams.foldl (fun result entry => result ++ (entry.1 ++ ['='] ++ entry.2 ++ [';'])) []

/-- What a segment contributes: the text before its first `=`, unless it is empty, and the text up to the
next one. -/
def entry (segment : Text) : Option (Text × Text) :=
  let key := segment.takeWhile (· != '=')
  if key = [] then none else some (key, (segment.dropWhile (· != '=')).tail.takeWhile (· != '='))

/-! ### Splitting -/

theorem not_mem_of_mem_splitOn {d : Char} {s p : Text} (h : p ∈ s.splitOn d) : d ∉ p := by
  induction s generalizing p with
  | nil =>
    rw [List.splitOn_nil, List.mem_singleton] at h
    simp [h]
  | cons c s ih =>
    rw [List.splitOn_cons_eq_if_modifyHead] at h
    obtain ⟨q, qs, hq⟩ := List.exists_cons_of_ne_nil (List.splitOn_ne_nil d s)
    rw [hq] at h ih
    split at h
    · rcases List.mem_cons.1 h with rfl | h
      · exact List.not_mem_nil
      · exact ih h
    · rename_i hc
      rcases List.mem_cons.1 h with rfl | h
      · have hne : d ≠ c := fun e => hc (by simp [e])
        simpa [hne] using ih List.mem_cons_self
      · exact ih (List.mem_cons_of_mem _ h)

/-- The function of the library, as `List.splitOn`. -/
def Split.ofList : Split where
  split s d := s.splitOn d
  join _ d := List.intercalate_splitOn d
  piece _ _ _ := not_mem_of_mem_splitOn
  ne_nil s d := List.splitOn_ne_nil d s

section

variable (S : Split)

theorem Split.split_intercalate {d : Char} {pieces : List Text} (h : ∀ p ∈ pieces, d ∉ p)
    (hne : pieces ≠ []) : S.split (List.intercalate [d] pieces) d = pieces := by
  calc S.split (List.intercalate [d] pieces) d
      = (List.intercalate [d] (S.split (List.intercalate [d] pieces) d)).splitOn d :=
        (List.splitOn_intercalate d (S.piece _ d) (S.ne_nil _ d)).symm
    _ = (List.intercalate [d] pieces).splitOn d := by rw [S.join]
    _ = pieces := List.splitOn_intercalate d h hne

theorem Split.split_eq (s : Text) (d : Char) : S.split s d = s.splitOn d := by
  have h := S.split_intercalate (fun _ => not_mem_of_mem_splitOn) (List.splitOn_ne_nil d s)
  rwa [List.intercalate_splitOn] at h

/-! ### One segment -/

theorem splitOn_eq_cons (d : Char) (s : Text) : s.splitOn d =
    s.takeWhile (· != d) :: if d ∈ s then (s.dropWhile (· != d)).tail.splitOn d else [] := by
  induction s with
  | nil => simp
  | cons c s ih =>
    rw [List.splitOn_cons_eq_if_modifyHead]
    by_cases hc : c = d
    · subst hc
      simp
    · have hc' : (c != d) = true := by simpa using hc
      have hmem : d ∈ c :: s ↔ d ∈ s := by simp [Ne.symm hc]
      rw [if_neg (by simpa using hc), ih, List.modifyHead_cons, List.takeWhile_cons, List.dropWhile_cons]
      simp only [hc', hmem, if_true]

theorem headD_splitOn (d : Char) (s : Text) :
    (if d ∈ s then (s.dropWhile (· != d)).tail.splitOn d else []).headD [] =
      (s.dropWhile (· != d)).tail.takeWhile (· != d) := by
  split_ifs with h
  · rw [splitOn_eq_cons]
    rfl
  · have hnil : s.dropWhile (· != d) = [] := by
      rw [List.dropWhile_eq_nil_iff]
      intro c hc
      simpa using fun e : c = d => h (e ▸ hc)
    rw [hnil]
    rfl

theorem parseSegment_eq (paramsMap : ParamsMap) (segment : Text) : parseSegment S paramsMap segment =
    ((entry segment).map fun e => assign paramsMap e.1 e.2).getD paramsMap := by
  unfold parseSegment entry
  by_cases hnil : segment.length = 0
  · rw [if_pos hnil, List.length_eq_zero_iff.1 hnil]
    rfl
  · rw [if_neg hnil, S.split_eq, splitOn_eq_cons]
    simp only [headD_splitOn, List.isEmpty_iff]
    split_ifs <;> rfl

/-! ### The map -/

theorem lookup_assign (paramsMap : ParamsMap) (key value key' : Text) :
    (assign paramsMap key value).lookup key' =
      if key' = key then some value else paramsMap.lookup key' := by
  unfold assign
  rw [List.lookup_cons]
  by_cases hk : key' = key
  · simp [hk]
  · rw [if_neg hk, beq_eq_false_iff_ne.2 hk]
    simp only
    induction paramsMap with
    | nil => rfl
    | cons e l ih =>
      by_cases he : e.1 = key
      · have hne : (key' == e.1) = false := by simpa [he] using hk
        rw [List.filter_cons_of_neg (by simpa using he), ih, List.lookup_cons, hne]
      · rw [List.filter_cons_of_pos (by simpa using he), List.lookup_cons, List.lookup_cons, ih]

theorem nodup_assign {paramsMap : ParamsMap} (h : (paramsMap.map Prod.fst).Nodup) (key value : Text) :
    ((assign paramsMap key value).map Prod.fst).Nodup := by
  unfold assign
  rw [List.map_cons, List.nodup_cons]
  refine ⟨fun hm => ?_, (h.sublist (List.filter_sublist.map _))⟩
  obtain ⟨e, he, hk⟩ := List.mem_map.1 hm
  simpa [hk] using (List.mem_filter.1 he).2

/-- The map that the loop makes of the segments, from any map: the last entry of a key counts. -/
theorem lookup_foldl (segments : List Text) (paramsMap : ParamsMap) (key : Text) :
    (segments.foldl (parseSegment S) paramsMap).lookup key =
      ((segments.filterMap entry).reverse.lookup key).or (paramsMap.lookup key) := by
  induction segments generalizing paramsMap with
  | nil => rfl
  | cons segment segments ih =>
    rw [List.foldl_cons, ih, parseSegment_eq, List.filterMap_cons]
    cases he : entry segment with
    | none => rfl
    | some e =>
      have hone : List.lookup key [e] = if key = e.1 then some e.2 else none := by
        rw [List.lookup_cons]
        by_cases hk : key = e.1
        · rw [if_pos hk, hk, beq_self_eq_true]
        · rw [if_neg hk, beq_eq_false_iff_ne.2 hk]
          rfl
      rw [Option.map_some, Option.getD_some, lookup_assign, List.reverse_cons, List.lookup_append, hone,
        Option.or_assoc]
      split_ifs <;> rfl

theorem lookup_parse {segments : List Text} (h : ∀ s ∈ segments, ';' ∉ s) (key : Text) :
    (parseAudioParams S (List.intercalate [';'] segments)).lookup key =
      (segments.filterMap entry).reverse.lookup key := by
  unfold parseAudioParams
  by_cases hne : segments = []
  · subst hne
    rw [List.intercalate_nil, S.split_eq]
    rfl
  · rw [S.split_intercalate h hne, lookup_foldl, List.lookup_nil, Option.or_none]

theorem nodup_parse (params : Text) : ((parseAudioParams S params).map Prod.fst).Nodup := by
  unfold parseAudioParams
  generalize S.split params ';' = segments
  have hstep : ∀ paramsMap : ParamsMap, (paramsMap.map Prod.fst).Nodup →
      ((segments.foldl (parseSegment S) paramsMap).map Prod.fst).Nodup := by
    induction segments with
    | nil => exact fun _ h => h
    | cons segment segments ih =>
      intro paramsMap h
      refine ih _ ?_
      rw [parseSegment_eq]
      cases entry segment with
      | none => exact h
      | some e => exact nodup_assign h e.1 e.2
  exact hstep [] List.nodup_nil

/-! ### The form of `out_get_parameters` -/

/-- Keys and values that can be told apart: no `;` and no `=` in them, and no empty key. -/
def Plain (e : Text × Text) : Prop := e.1 ≠ [] ∧ ∀ c ∈ e.1 ++ e.2, c ≠ ';' ∧ c ≠ '='

instance (e : Text × Text) : Decidable (Plain e) :=
  @instDecidableAnd _ _ inferInstance (List.decidableBAll _ _)

/-- The string has a segment for each entry, and an empty one at its end. -/
theorem paramsString_eq (kvs : List (Text × Text)) : paramsString kvs =
    List.intercalate [';'] (kvs.map (fun e => e.1 ++ '=' :: e.2) ++ [[]]) := by
  have hfold : ∀ result : Text,
      kvs.foldl (fun result entry => result ++ (entry.1 ++ ['='] ++ entry.2 ++ [';'])) result =
        result ++ List.intercalate [';'] (kvs.map (fun e => e.1 ++ '=' :: e.2) ++ [[]]) := by
    induction kvs with
    | nil => simp
    | cons e kvs ih =>
      intro result
      rw [List.foldl_cons, ih, List.map_cons, List.cons_append,
        List.intercalate_cons_of_ne_nil (by simp)]
      simp
  exact hfold []

theorem entry_eq {e : Text × Text} (h : Plain e) : entry (e.1 ++ '=' :: e.2) = some e := by
  have hkey : ∀ c ∈ e.1, (c != '=') = true := fun c hc => by
    simpa using (h.2 c (List.mem_append_left _ hc)).2
  have hvalue : ∀ c ∈ e.2, (c != '=') = true := fun c hc => by
    simpa using (h.2 c (List.mem_append_right _ hc)).2
  have hstop : ('=' != '=') = false := by simp
  unfold entry
  rw [List.takeWhile_append_of_pos hkey, List.dropWhile_append_of_pos hkey, List.takeWhile_cons,
    List.dropWhile_cons]
  simp [h.1, List.takeWhile_eq_self_iff.2 hvalue]

theorem not_semicolon {e : Text × Text} (h : Plain e) : ';' ∉ e.1 ++ '=' :: e.2 := by
  intro hm
  rw [List.mem_append, List.mem_cons] at hm
  rcases hm with hm | hm | hm
  · exact (h.2 _ (List.mem_append_left _ hm)).1 rfl
  · exact absurd hm (by decide)
  · exact (h.2 _ (List.mem_append_right _ hm)).1 rfl

/-- What the map has for a key of entries that were written as a string. -/
theorem lookup_parse_paramsString {kvs : List (Text × Text)} (h : ∀ e ∈ kvs, Plain e) (key : Text) :
    (parseAudioParams S (paramsString kvs)).lookup key = kvs.reverse.lookup key := by
  have hsegments : ∀ s ∈ kvs.map (fun e => e.1 ++ '=' :: e.2) ++ [[]], ';' ∉ s := by
    intro s hs
    rcases List.mem_append.1 hs with hs | hs
    · obtain ⟨e, he, rfl⟩ := List.mem_map.1 hs
      exact not_semicolon (h e he)
    · rw [List.mem_singleton.1 hs]
      exact List.not_mem_nil
  have hentries : (kvs.map fun e => e.1 ++ '=' :: e.2).filterMap entry = kvs := by
    clear hsegments
    induction kvs with
    | nil => rfl
    | cons e kvs ih =>
      rw [List.map_cons, List.filterMap_cons, entry_eq (h e List.mem_cons_self)]
      simp only [ih fun e' he => h e' (List.mem_cons_of_mem _ he)]
  rw [paramsString_eq, lookup_parse S hsegments, List.filterMap_append, hentries]
  simp [entry]

end

/-- **`ParseAudioParams`**: the string that lists `key=value;` for some entries gives the map with the last
value of each key; and any string, cut at each `;`, gives the map of the entries of its segments. -/
theorem parse_audio_params (S : Split) :
    (∀ kvs : List (Text × Text), (∀ e ∈ kvs, Plain e) → ∀ key,
      (parseAudioParams S (paramsString kvs)).lookup key = kvs.reverse.lookup key) ∧
      (∀ params, ∃ segments, (∀ s ∈ segments, ';' ∉ s) ∧ List.intercalate [';'] segments = params) ∧
      (∀ segments : List Text, (∀ s ∈ segments, ';' ∉ s) → ∀ key,
        (parseAudioParams S (List.intercalate [';'] segments)).lookup key =
          (segments.filterMap entry).reverse.lookup key) ∧
      ∀ params, ((parseAudioParams S params).map Prod.fst).Nodup :=
  ⟨fun _ h key => lookup_parse_paramsString S h key,
    fun params => ⟨S.split params ';', S.piece params ';', S.join params ';'⟩,
    fun _ h key => lookup_parse S h key, nodup_parse S⟩

/-- A key that is set twice, with an empty value in between. -/
theorem parse_audio_params_twice :
    (parseAudioParams .ofList (paramsString [(['a'], ['1']), (['b'], []), (['a'], ['2'])])).lookup ['a'] =
      some ['2'] :=
  (parse_audio_params .ofList).1 _ (by decide) ['a']

example : parseAudioParams .ofList ['=', 'v', ';', 'k', '=', 'w', '=', 'x', ';', ';', 'k'] = [(['k'], [])] := by
  decide

end TrebleDoze.Bluetooth.ParseAudioParams
