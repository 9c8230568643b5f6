import TrebleDoze.Bluetooth.Port
import TrebleDoze.Bluetooth.TracksMetadata
import TrebleDoze.Lib.CString
import TrebleDoze.Lib.Exit
import TrebleDoze.Lib.Strtok

/-!
# The metadata of the tracks on the AIDL path

`out_update_source_metadata_v7` and `in_update_sink_metadata_v7` of `stream_apis.cc`, with the functions of
the AIDL port and session below them.  The tags of a track are a string in an array, joined by semicolons;
its length `maxSize` is a constant of the audio headers.

* `covertAudioTagFromV7_eq_ok_iff`, `covertAudioTagFromV7_join`: the tags that are read;
* `convertTracks_eq_ok_iff`: the loops over the tracks;
* `metadata_forwarded`: what the stack is handed, and when.
-/

namespace TrebleDoze.Bluetooth

open Lib

/-! ### The tags -/

/-- `strlcpy`, which looks for the end of the source even where it does not copy it. -/
def strlcpy (size : ℕ) (src : List UInt8) : Except Fault (List UInt8) :=
  match cstring src with
  | none => .error .outOfBounds
  | some s => .ok (s.take (size - 1))

/-- The character `;`. -/
def semicolon : UInt8 := 0x3b

/-- `CovertAudioTagFromV7`. -/
def covertAudioTagFromV7 (maxSize : ℕ) (tagsV7 : List UInt8) : Except Fault (List (List UInt8)) := do
  let tagsCopy ← strlcpy maxSize tagsV7
  .ok (tokens (· == semicolon) tagsCopy)

/-! ### The tracks -/

/-- `playback_track_metadata_v7`, as far as it is read. -/
structure PlaybackTrackMetadataV7 where
  usage : ℤ
  contentType : ℤ
  tags : List UInt8
  deriving DecidableEq, Repr

/-- `record_track_metadata_v7`, as far as it is read. -/
structure RecordTrackMetadataV7 (γ : Type) where
  source : ℤ
  gain : γ
  tags : List UInt8
  deriving DecidableEq, Repr

/-- `PlaybackTrackMetadata` of AIDL. -/
structure PlaybackTrackMetadata (γ : Type) where
  usage : ℤ
  contentType : ℤ
  gain : γ
  tags : List (List UInt8)
  deriving DecidableEq, Repr

/-- `RecordTrackMetadata` of AIDL. -/
structure RecordTrackMetadata (γ : Type) where
  source : ℤ
  gain : γ
  tags : List (List UInt8)
  deriving DecidableEq, Repr

section

variable {κ : Tag → Type} {γ τ υ : Type}

/-- The body of the loop of the port's `UpdateSourceMetadata`; the gain keeps its initial value. -/
def sourceTrackFromV7 [Inhabited γ] (maxSize : ℕ) (track : PlaybackTrackMetadataV7) :
    Except Fault (PlaybackTrackMetadata γ) := do
  let tags ← covertAudioTagFromV7 maxSize track.tags
  .ok { usage := track.usage, contentType := track.contentType, gain := default, tags := tags }

/-- The body of the loop of the port's `UpdateSinkMetadata`. -/
def sinkTrackFromV7 (maxSize : ℕ) (track : RecordTrackMetadataV7 γ) :
    Except Fault (RecordTrackMetadata γ) := do
  let tags ← covertAudioTagFromV7 maxSize track.tags
  .ok { source := track.source, gain := track.gain, tags := tags }

/-- The body of the loop of the session's `UpdateSourceMetadata`, for metadata without tags. -/
def sourceTrack (track : Hidl.PlaybackTrackMetadata γ) : Except Fault (PlaybackTrackMetadata γ) :=
  .ok { usage := track.usage, contentType := track.contentType, gain := track.gain, tags := [] }

/-- A loop over `tracks[i]`, for `i` below the count. -/
def convertTracks (convert : τ → Except Fault υ) : ℕ → List τ → Except Fault (List υ)
  | 0, _ => .ok []
  | _ + 1, [] => .error .outOfBounds
  | trackCount + 1, track :: tracks => do
    let converted ← convert track
    let rest ← convertTracks convert trackCount tracks
    .ok (converted :: rest)

/-- The conversion of all tracks; the pointer to them may be null. -/
def convertMetadata (convert : τ → Except Fault υ) (metadata : Hidl.SourceMetadata τ) :
    Except Fault (List υ) :=
  match metadata.tracks with
  | none => if metadata.trackCount = 0 then .ok [] else .error .nullDereferenced
  | some tracks => convertTracks convert metadata.trackCount tracks

/-! ### The session, the port and the stream -/

/-- The session types whose stack is told of the tracks: those that are not of A2DP. -/
def SessionType.takesMetadata : SessionType → Bool
  | .a2dpSoftwareEncoding | .a2dpHardwareOffloadEncoding | .a2dpSoftwareDecoding
  | .a2dpHardwareOffloadDecoding => false
  | _ => true

/-- `UpdateSourceMetadata` and `UpdateSinkMetadata` of the session: whom it hands the tracks to, if it
does. -/
def BluetoothAudioSession.updateMetadata (s : BluetoothAudioSession κ) (tracks : List υ) :
    Except Fault (Option (ℕ × List υ)) :=
  if !s.isSessionReady then .ok none
  else if !s.sessionType.takesMetadata then .ok none
  else
    match s.stackIface with
    | none => .error .nullDereferenced
    | some host => .ok (some (host, tracks))

/-- `UpdateSourceMetadata` of the session for a `source_metadata`, which the HIDL session forwards to. -/
def BluetoothAudioSession.updateSourceMetadata (s : BluetoothAudioSession κ)
    (sourceMetadata : Hidl.SourceMetadata (Hidl.PlaybackTrackMetadata γ)) :
    Except Fault (Option (ℕ × List (PlaybackTrackMetadata γ))) := do
  let tracks ← convertMetadata sourceTrack sourceMetadata
  s.updateMetadata tracks

/-- `UpdateSourceMetadata` and `UpdateSinkMetadata` of the port, by what they do to a track. -/
def BluetoothAudioPort.updateMetadata (convert : τ → Except Fault υ) (p : BluetoothAudioPort)
    (s : BluetoothAudioSession κ) (metadata : Hidl.SourceMetadata τ) :
    Except Fault (Option (ℕ × List υ)) :=
  if !p.inUse then .ok none
  else if metadata.trackCount = 0 then .ok none
  else do
    let tracks ← convertMetadata convert metadata
    s.updateMetadata tracks

/-- The functions of the streams, which return at once without metadata or tracks. -/
def updateMetadataV7 (convert : τ → Except Fault υ) (p : BluetoothAudioPort) (s : BluetoothAudioSession κ)
    (metadataV7 : Option (Hidl.SourceMetadata τ)) : Except Fault (Option (ℕ × List υ)) :=
  match metadataV7 with
  | none => .ok none
  | some metadata => if metadata.trackCount = 0 then .ok none else p.updateMetadata convert s metadata

/-- `out_update_source_metadata_v7`, with an AIDL port. -/
def outUpdateSourceMetadataV7 [Inhabited γ] (maxSize : ℕ) (p : BluetoothAudioPort)
    (s : BluetoothAudioSession κ) (metadataV7 : Option (Hidl.SourceMetadata PlaybackTrackMetadataV7)) :
    Except Fault (Option (ℕ × List (PlaybackTrackMetadata γ))) :=
  updateMetadataV7 (sourceTrackFromV7 maxSize) p s metadataV7

/-- `in_update_sink_metadata_v7`, with an AIDL port. -/
def inUpdateSinkMetadataV7 (maxSize : ℕ) (p : BluetoothAudioPort) (s : BluetoothAudioSession κ)
    (metadataV7 : Option (Hidl.SourceMetadata (RecordTrackMetadataV7 γ))) :
    Except Fault (Option (ℕ × List (RecordTrackMetadata γ))) :=
  updateMetadataV7 (sinkTrackFromV7 maxSize) p s metadataV7

end

/-! ### What the tags are -/

section

variable {maxSize : ℕ} {tagsV7 : List UInt8} {tags : List (List UInt8)}

/-- The tags: what is between the semicolons of the string, as far as it is copied, and is not empty. -/
def TagsOf (maxSize : ℕ) (tagsV7 : List UInt8) (tags : List (List UInt8)) : Prop :=
  ∃ s, cstring tagsV7 = some s ∧ tags = ((s.take (maxSize - 1)).splitOn semicolon).filter (!·.isEmpty)

theorem covertAudioTagFromV7_eq_ok_iff :
    covertAudioTagFromV7 maxSize tagsV7 = .ok tags ↔ TagsOf maxSize tagsV7 tags := by
  unfold covertAudioTagFromV7 strlcpy TagsOf
  cases cstring tagsV7 with
  | none => simp [bind_eq_ok_iff]
  | some s =>
    simp only [bind_eq_ok_iff, Except.ok.injEq, exists_eq_left', Option.some.injEq]
    rw [tokens_eq_filter, List.splitOn_eq_splitOnP]
    exact eq_comm

/-- Tags that have been joined are read again, when there is room for them and the final zero. -/
theorem covertAudioTagFromV7_join (h : ∀ t ∈ tags, t ≠ [] ∧ semicolon ∉ t ∧ (0 : UInt8) ∉ t)
    (hlen : (List.intercalate [semicolon] tags).length < maxSize) (rest : List UInt8) :
    covertAudioTagFromV7 maxSize (List.intercalate [semicolon] tags ++ 0 :: rest) = .ok tags := by
  have hzero : (0 : UInt8) ∉ List.intercalate [semicolon] tags :=
    not_mem_intercalate (by decide) fun t ht => (h t ht).2.2
  unfold covertAudioTagFromV7 strlcpy
  rw [cstring_append_zero hzero]
  have htake : (List.intercalate [semicolon] tags).take (maxSize - 1) = List.intercalate [semicolon] tags :=
    List.take_of_length_le (by omega)
  show Except.ok (tokens _ (List.take _ _)) = _
  rw [htake, tokens_intercalate fun t ht => ⟨(h t ht).1, (h t ht).2.1⟩]

end

/-! ### What is forwarded -/

section

variable {κ : Tag → Type} {γ τ υ : Type} {convert : τ → Except Fault υ} {R : τ → υ → Prop}
  {p : BluetoothAudioPort} {s : BluetoothAudioSession κ}

theorem convertTracks_eq_ok_iff (hR : ∀ t u, convert t = .ok u ↔ R t u) {trackCount : ℕ} {tracks : List τ}
    {us : List υ} : convertTracks convert trackCount tracks = .ok us ↔
      trackCount ≤ tracks.length ∧ List.Forall₂ R (tracks.take trackCount) us := by
  induction trackCount generalizing tracks us with
  | zero =>
    rw [convertTracks, List.take_zero, List.forall₂_nil_left_iff, Except.ok.injEq]
    exact ⟨fun h => ⟨Nat.zero_le _, h.symm⟩, fun h => h.2.symm⟩
  | succ n ih =>
    cases tracks with
    | nil => exact iff_of_false (by simp [convertTracks]) (by simp)
    | cons track tracks =>
      rw [convertTracks, bind_eq_ok_iff, List.take_succ_cons, List.length_cons, Nat.succ_le_succ_iff]
      simp only [bind_eq_ok_iff, ih, hR, Except.ok.injEq]
      constructor
      · rintro ⟨u, hu, rest, ⟨hle, hrest⟩, rfl⟩
        exact ⟨hle, .cons hu hrest⟩
      · rintro ⟨hle, hall⟩
        cases hall with
        | cons hu hrest => exact ⟨_, hu, _, ⟨hle, hrest⟩, rfl⟩

/-- The loop gets to its end just when the tracks are there and each can be converted. -/
theorem convertTracks_isOk_iff {trackCount : ℕ} {tracks : List τ} :
    (∃ us, convertTracks convert trackCount tracks = .ok us) ↔
      trackCount ≤ tracks.length ∧ ∀ t ∈ tracks.take trackCount, ∃ u, convert t = .ok u := by
  induction trackCount generalizing tracks with
  | zero => simp [convertTracks]
  | succ n ih =>
    cases tracks with
    | nil => exact iff_of_false (by simp [convertTracks]) (by simp)
    | cons track tracks =>
      rw [List.take_succ_cons, List.forall_mem_cons, List.length_cons, Nat.succ_le_succ_iff,
        and_left_comm, ← ih, convertTracks]
      simp only [bind_eq_ok_iff]
      constructor
      · rintro ⟨us, u, hu, rest, hrest, -⟩
        exact ⟨⟨u, hu⟩, rest, hrest⟩
      · rintro ⟨⟨u, hu⟩, rest, hrest⟩
        exact ⟨_, u, hu, rest, hrest, rfl⟩

variable (p s) in
/-- The port hands metadata to a host. -/
structure HandsTo (host : ℕ) : Prop where
  inUse : p.inUse = true
  ready : s.isSessionReady = true
  takes : s.sessionType.takesMetadata = true
  host : s.stackIface = some host

theorem stackIface_isSome_of_ready (h : s.isSessionReady = true) : s.stackIface.isSome = true := by
  unfold BluetoothAudioSession.isSessionReady at h
  simp only [Bool.and_eq_true] at h
  exact h.1.1

theorem BluetoothAudioSession.updateMetadata_eq_ok_iff {host : ℕ} {tracks us : List υ} :
    s.updateMetadata tracks = .ok (some (host, us)) ↔
      (s.isSessionReady = true ∧ s.sessionType.takesMetadata = true ∧ s.stackIface = some host) ∧
        tracks = us := by
  unfold updateMetadata
  cases s.isSessionReady with
  | false => simp
  | true =>
    cases s.sessionType.takesMetadata with
    | false => simp
    | true =>
      cases s.stackIface with
      | none => simp
      | some host' => simp

/-- The session does not fault. -/
theorem BluetoothAudioSession.updateMetadata_isOk (tracks : List υ) :
    ∃ r, s.updateMetadata tracks = .ok r := by
  unfold updateMetadata
  cases hr : s.isSessionReady with
  | false => exact ⟨none, rfl⟩
  | true =>
    cases s.sessionType.takesMetadata with
    | false => exact ⟨none, rfl⟩
    | true =>
      obtain ⟨host, hhost⟩ := Option.isSome_iff_exists.1 (stackIface_isSome_of_ready hr)
      rw [hhost]
      exact ⟨_, rfl⟩

/-- The metadata has the tracks that its count says. -/
def HasTracks (metadataV7 : Option (Hidl.SourceMetadata τ)) (tracks : List τ) : Prop :=
  ∃ metadata array, metadataV7 = some metadata ∧ metadata.tracks = some array ∧
    metadata.trackCount ≠ 0 ∧ metadata.trackCount ≤ array.length ∧
    tracks = array.take metadata.trackCount

/-- The metadata that a stream is given: all of its tracks are handed to the host of the session, each as
`R` says and in their order, or nothing is; and there is no fault just when the tracks that the count says
are there, with a zero in each array of tags, or the metadata is not looked at. -/
structure Forwards (p : BluetoothAudioPort) (s : BluetoothAudioSession κ) (R : τ → υ → Prop)
    (tagsV7 : τ → List UInt8)
    (update : Option (Hidl.SourceMetadata τ) → Except Fault (Option (ℕ × List υ))) : Prop where
  forwarded : ∀ {metadataV7 host us}, update metadataV7 = .ok (some (host, us)) ↔
    HandsTo p s host ∧ ∃ tracks, HasTracks metadataV7 tracks ∧ List.Forall₂ R tracks us
  safe : ∀ {metadataV7}, (∃ r, update metadataV7 = .ok r) ↔
    (p.inUse = true → ∀ metadata, metadataV7 = some metadata → metadata.trackCount ≠ 0 →
      ∃ tracks, HasTracks metadataV7 tracks ∧ ∀ t ∈ tracks, (0 : UInt8) ∈ tagsV7 t)

theorem convertMetadata_eq_ok_iff (hR : ∀ t u, convert t = .ok u ↔ R t u)
    {metadata : Hidl.SourceMetadata τ} (hcount : metadata.trackCount ≠ 0) {us : List υ} :
    convertMetadata convert metadata = .ok us ↔
      ∃ tracks, HasTracks (some metadata) tracks ∧ List.Forall₂ R tracks us := by
  obtain ⟨trackCount, tracks⟩ := metadata
  unfold convertMetadata HasTracks
  cases tracks with
  | none => simp_all
  | some array => simp_all [convertTracks_eq_ok_iff hR]

theorem convertMetadata_isOk_iff {metadata : Hidl.SourceMetadata τ} (hcount : metadata.trackCount ≠ 0) :
    (∃ us, convertMetadata convert metadata = .ok us) ↔
      ∃ tracks, HasTracks (some metadata) tracks ∧ ∀ t ∈ tracks, ∃ u, convert t = .ok u := by
  obtain ⟨trackCount, tracks⟩ := metadata
  unfold convertMetadata HasTracks
  cases tracks with
  | none => simp_all
  | some array => simp_all [convertTracks_isOk_iff]

theorem forwards_updateMetadataV7 {tagsV7 : τ → List UInt8} (hR : ∀ t u, convert t = .ok u ↔ R t u)
    (htags : ∀ t, (∃ u, convert t = .ok u) ↔ (0 : UInt8) ∈ tagsV7 t) :
    Forwards p s R tagsV7 (updateMetadataV7 convert p s) := by
  unfold updateMetadataV7 BluetoothAudioPort.updateMetadata
  refine ⟨fun {metadataV7 host us} => ?_, fun {metadataV7} => ?_⟩
  · cases metadataV7 with
    | none => simp [HasTracks]
    | some metadata =>
      dsimp only
      by_cases hcount : metadata.trackCount = 0
      · simp [HasTracks, hcount]
      · rw [if_neg hcount, if_neg hcount]
        cases huse : p.inUse with
        | false => exact iff_of_false (by simp) fun h => absurd h.1.inUse (by simp [huse])
        | true =>
          rw [Bool.not_true, if_neg Bool.false_ne_true, bind_eq_ok_iff]
          simp only [convertMetadata_eq_ok_iff hR hcount, BluetoothAudioSession.updateMetadata_eq_ok_iff]
          constructor
          · rintro ⟨us', htracks, ⟨hready, htakes, hhost⟩, rfl⟩
            exact ⟨⟨huse, hready, htakes, hhost⟩, htracks⟩
          · rintro ⟨hto, htracks⟩
            exact ⟨us, htracks, ⟨hto.ready, hto.takes, hto.host⟩, rfl⟩
  · cases metadataV7 with
    | none => exact iff_of_true ⟨none, rfl⟩ (by simp)
    | some metadata =>
      dsimp only
      by_cases hcount : metadata.trackCount = 0
      · rw [if_pos hcount]
        exact iff_of_true ⟨none, rfl⟩ (by simp [hcount])
      · rw [if_neg hcount, if_neg hcount]
        cases huse : p.inUse with
        | false => exact iff_of_true ⟨none, rfl⟩ (by simp)
        | true =>
          have hread : (∃ us, convertMetadata convert metadata = .ok us) ↔ _ :=
            convertMetadata_isOk_iff hcount
          simp only [htags] at hread
          rw [Bool.not_true, if_neg Bool.false_ne_true]
          constructor
          · rintro ⟨r, h⟩ - m hm -
            obtain ⟨us, hus, -⟩ := bind_eq_ok_iff.1 h
            exact hread.1 ⟨us, hus⟩
          · intro h
            obtain ⟨us, hus⟩ := hread.2 (h rfl metadata rfl hcount)
            obtain ⟨r, hr⟩ := s.updateMetadata_isOk us
            exact ⟨r, bind_eq_ok_iff.2 ⟨us, hus, hr⟩⟩

/-- What the stack is told of a playback track. -/
def SourceDescribed [Inhabited γ] (maxSize : ℕ) (track : PlaybackTrackMetadataV7)
    (u : PlaybackTrackMetadata γ) : Prop :=
  u.usage = track.usage ∧ u.contentType = track.contentType ∧ u.gain = default ∧
    TagsOf maxSize track.tags u.tags

/-- What the stack is told of a record track. -/
def SinkDescribed (maxSize : ℕ) (track : RecordTrackMetadataV7 γ) (u : RecordTrackMetadata γ) : Prop :=
  u.source = track.source ∧ u.gain = track.gain ∧ TagsOf maxSize track.tags u.tags

variable {maxSize : ℕ}

theorem covertAudioTagFromV7_isOk_iff (maxSize : ℕ) {tagsV7 : List UInt8} :
    (∃ tags, covertAudioTagFromV7 maxSize tagsV7 = .ok tags) ↔ (0 : UInt8) ∈ tagsV7 := by
  simp only [covertAudioTagFromV7_eq_ok_iff, TagsOf, exists_comm (α := List (List UInt8))]
  constructor
  · rintro ⟨v, tags, hv, -⟩
    obtain ⟨-, rest, rfl⟩ := cstring_eq_some_iff.1 hv
    simp
  · intro h
    cases hv : cstring tagsV7 with
    | none => exact absurd h (cstring_eq_none_iff.1 hv)
    | some v => exact ⟨v, _, rfl, rfl⟩

theorem sourceTrackFromV7_eq_ok_iff [Inhabited γ] (track : PlaybackTrackMetadataV7)
    (u : PlaybackTrackMetadata γ) :
    sourceTrackFromV7 maxSize track = .ok u ↔ SourceDescribed maxSize track u := by
  unfold sourceTrackFromV7 SourceDescribed
  rw [bind_eq_ok_iff]
  constructor
  · rintro ⟨tags, htags, hu⟩
    obtain rfl := Except.ok.inj hu
    exact ⟨rfl, rfl, rfl, covertAudioTagFromV7_eq_ok_iff.1 htags⟩
  · rintro ⟨husage, hcontent, hgain, htags⟩
    refine ⟨u.tags, covertAudioTagFromV7_eq_ok_iff.2 htags, ?_⟩
    rw [← husage, ← hcontent, ← hgain]

theorem sinkTrackFromV7_eq_ok_iff (track : RecordTrackMetadataV7 γ) (u : RecordTrackMetadata γ) :
    sinkTrackFromV7 maxSize track = .ok u ↔ SinkDescribed maxSize track u := by
  unfold sinkTrackFromV7 SinkDescribed
  rw [bind_eq_ok_iff]
  constructor
  · rintro ⟨tags, htags, hu⟩
    obtain rfl := Except.ok.inj hu
    exact ⟨rfl, rfl, covertAudioTagFromV7_eq_ok_iff.1 htags⟩
  · rintro ⟨hsource, hgain, htags⟩
    refine ⟨u.tags, covertAudioTagFromV7_eq_ok_iff.2 htags, ?_⟩
    rw [← hsource, ← hgain]

theorem sourceTrackFromV7_isOk_iff [Inhabited γ] (track : PlaybackTrackMetadataV7) :
    (∃ u, sourceTrackFromV7 (γ := γ) maxSize track = .ok u) ↔ (0 : UInt8) ∈ track.tags := by
  rw [← covertAudioTagFromV7_isOk_iff maxSize]
  unfold sourceTrackFromV7
  simp only [bind_eq_ok_iff]
  exact ⟨fun ⟨_, tags, h, _⟩ => ⟨tags, h⟩, fun ⟨tags, h⟩ => ⟨_, tags, h, rfl⟩⟩

theorem sinkTrackFromV7_isOk_iff (track : RecordTrackMetadataV7 γ) :
    (∃ u, sinkTrackFromV7 maxSize track = .ok u) ↔ (0 : UInt8) ∈ track.tags := by
  rw [← covertAudioTagFromV7_isOk_iff maxSize]
  unfold sinkTrackFromV7
  simp only [bind_eq_ok_iff]
  exact ⟨fun ⟨_, tags, h, _⟩ => ⟨tags, h⟩, fun ⟨tags, h⟩ => ⟨_, tags, h, rfl⟩⟩

/-- What the stack is told of a track without tags. -/
def PlainDescribed (track : Hidl.PlaybackTrackMetadata γ) (u : PlaybackTrackMetadata γ) : Prop :=
  u = ⟨track.usage, track.contentType, track.gain, []⟩

/-- Metadata without tags is handed over by the session alone, even when it has no tracks. -/
theorem BluetoothAudioSession.updateSourceMetadata_eq_ok_iff
    {sourceMetadata : Hidl.SourceMetadata (Hidl.PlaybackTrackMetadata γ)} {host : ℕ}
    {us : List (PlaybackTrackMetadata γ)} :
    s.updateSourceMetadata sourceMetadata = .ok (some (host, us)) ↔
      (s.isSessionReady = true ∧ s.sessionType.takesMetadata = true ∧ s.stackIface = some host) ∧
        (sourceMetadata.trackCount = 0 ∧ us = [] ∨
          ∃ tracks, HasTracks (some sourceMetadata) tracks ∧ List.Forall₂ PlainDescribed tracks us) := by
  have hplain : ∀ (t : Hidl.PlaybackTrackMetadata γ) u, sourceTrack t = .ok u ↔ PlainDescribed t u :=
    fun t u => ⟨fun h => (Except.ok.inj h).symm, fun h => congrArg Except.ok h.symm⟩
  have hconvert : convertMetadata sourceTrack sourceMetadata = .ok us ↔
      sourceMetadata.trackCount = 0 ∧ us = [] ∨
        ∃ tracks, HasTracks (some sourceMetadata) tracks ∧ List.Forall₂ PlainDescribed tracks us := by
    by_cases hcount : sourceMetadata.trackCount = 0
    · have hnil : convertMetadata sourceTrack sourceMetadata = .ok [] := by
        unfold convertMetadata
        cases sourceMetadata.tracks with
        | none => exact if_pos hcount
        | some tracks =>
          dsimp only
          rw [hcount, convertTracks]
      rw [hnil]
      constructor
      · intro h
        exact .inl ⟨hcount, (Except.ok.inj h).symm⟩
      · rintro (⟨-, rfl⟩ | ⟨tracks, ⟨metadata, array, hm, -, hne, -⟩, -⟩)
        · rfl
        · obtain rfl := Option.some.inj hm
          exact absurd hcount hne
    · rw [convertMetadata_eq_ok_iff hplain hcount]
      exact (or_iff_right fun h => hcount h.1).symm
  unfold updateSourceMetadata
  rw [bind_eq_ok_iff, ← hconvert]
  simp only [updateMetadata_eq_ok_iff]
  constructor
  · rintro ⟨tracks, htracks, hto, rfl⟩
    exact ⟨hto, htracks⟩
  · rintro ⟨hto, htracks⟩
    exact ⟨us, htracks, hto, rfl⟩

/-- **The metadata of the tracks reaches the stack**, for both streams: all tracks in their order, with the
tags that have been joined in their arrays, exactly when the port is in use and the session is ready and
not one of A2DP; and no array is read beyond its end that has a zero.  Metadata that the HIDL session
passes on reaches it without tags. -/
theorem metadata_forwarded [Inhabited γ] (maxSize : ℕ) (p : BluetoothAudioPort)
    (s : BluetoothAudioSession κ) :
    Forwards p s (SourceDescribed (γ := γ) maxSize) PlaybackTrackMetadataV7.tags
        (outUpdateSourceMetadataV7 maxSize p s) ∧
      Forwards p s (SinkDescribed (γ := γ) maxSize) RecordTrackMetadataV7.tags
        (inUpdateSinkMetadataV7 maxSize p s) ∧
      (∀ {sourceMetadata : Hidl.SourceMetadata (Hidl.PlaybackTrackMetadata γ)} {host us},
        s.updateSourceMetadata sourceMetadata = .ok (some (host, us)) ↔
          (s.isSessionReady = true ∧ s.sessionType.takesMetadata = true ∧ s.stackIface = some host) ∧
            (sourceMetadata.trackCount = 0 ∧ us = [] ∨
              ∃ tracks, HasTracks (some sourceMetadata) tracks ∧ List.Forall₂ PlainDescribed tracks us)) ∧
      ∀ tags : List (List UInt8), (∀ t ∈ tags, t ≠ [] ∧ semicolon ∉ t ∧ (0 : UInt8) ∉ t) →
        (List.intercalate [semicolon] tags).length < maxSize → ∀ rest,
          TagsOf maxSize (List.intercalate [semicolon] tags ++ 0 :: rest) tags :=
  ⟨forwards_updateMetadataV7 sourceTrackFromV7_eq_ok_iff sourceTrackFromV7_isOk_iff,
    forwards_updateMetadataV7 sinkTrackFromV7_eq_ok_iff sinkTrackFromV7_isOk_iff,
    s.updateSourceMetadata_eq_ok_iff,
    fun _ h hlen rest => covertAudioTagFromV7_eq_ok_iff.1 (covertAudioTagFromV7_join h hlen rest)⟩

/-- A broadcast session with a host. -/
def broadcastSession : BluetoothAudioSession NoPayload :=
  ((BluetoothAudioSession.create .leAudioBroadcastSoftwareEncoding).onSessionStarted (some 1)
    (some ⟨0, true⟩) ⟨.pcmConfig, ()⟩ []).1

theorem metadata_forwarded_broadcast :
    outUpdateSourceMetadataV7 256 ⟨.aidl, 0x0100, .started⟩ broadcastSession
        (some ⟨1, some [⟨1, 2, [0x61, 0x3b, 0x62, 0x63, 0, 0]⟩]⟩) =
      .ok (some (1, [⟨1, 2, (0 : ℕ), [[0x61], [0x62, 0x63]]⟩])) := by
  obtain ⟨hsource, -, -, htags⟩ := metadata_forwarded (γ := ℕ) 256 ⟨.aidl, 0x0100, .started⟩ broadcastSession
  refine hsource.forwarded.2 ⟨⟨by decide, by decide, rfl, rfl⟩, _, ⟨_, _, rfl, rfl, by decide, by decide, rfl⟩,
    .cons ⟨rfl, rfl, rfl, ?_⟩ .nil⟩
  exact htags [[0x61], [0x62, 0x63]] (by decide) (by decide) [0]

end

end TrebleDoze.Bluetooth
