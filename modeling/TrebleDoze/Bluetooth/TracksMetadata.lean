import TrebleDoze.Bluetooth.LeAudioTypes
import TrebleDoze.Bluetooth.SessionHidl

/-!
# The metadata of the playback tracks on the HIDL path

`out_update_source_metadata_v7` of `stream_apis.cc`, which converts the metadata of version 7 for
`BluetoothAudioPortHidl::UpdateTracksMetadata`, and the session's `UpdateTracksMetadata`, which walks
the tracks by a pointer. The conversion of a track is a parameter; so is the type of a gain.

* `copyTracks_ok`: the walk within the array;
* `describesTracks_iff`: what is handed over describes the tracks when there is one of them.
-/

namespace TrebleDoze.Bluetooth.Hidl

/-- `playback_track_metadata`, and the `PlaybackTrackMetadata` of the interface: the casts between
them keep the numbers. -/
structure PlaybackTrackMetadata (γ : Type) where
  usage : ℤ
  contentType : ℤ
  gain : γ
  deriving DecidableEq, Repr, Inhabited

/-- `source_metadata`, over the array that `tracks` points to; `none` is a null pointer. -/
structure SourceMetadata (τ : Type) where
  trackCount : ℕ
  tracks : Option (List τ)
  deriving DecidableEq, Repr

section

variable {τ γ : Type}

/-- `*tracks`. -/
def firstTrack : Option (List τ) → Except Fault τ
  | none => .error .nullDereferenced
  | some [] => .error .outOfBounds
  | some (track :: _) => .ok track

/-- The `source_metadata` that `out_update_source_metadata_v7` hands to the port, if it does: its
`tracks` point to the one local `playback_track`. -/
def outUpdateSourceMetadataV7 (fromV7 : τ → PlaybackTrackMetadata γ)
    (sourceMetadataV7 : Option (SourceMetadata τ)) :
    Except Fault (Option (SourceMetadata (PlaybackTrackMetadata γ))) :=
  match sourceMetadataV7 with
  | none => .ok none
  | some metadata =>
    if metadata.trackCount = 0 then .ok none
    else do
      let track ← firstTrack metadata.tracks
      return some { trackCount := metadata.trackCount, tracks := some [fromV7 track] }

/-- The loop of `UpdateTracksMetadata`, `track` at the rest of the array. -/
def copyTracks : ℕ → List τ → Except Fault (List τ)
  | 0, _ => .ok []
  | _ + 1, [] => .error .outOfBounds
  | trackCount + 1, track :: tracks => do
    let rest ← copyTracks trackCount tracks
    return track :: rest

/-- What `UpdateTracksMetadata` forwards to the stack, if it does; the vector is resized before the
loop, which a null pointer ends at once. -/
def BluetoothAudioSession.updateTracksMetadata [Inhabited τ] (s : BluetoothAudioSession)
    (sourceMetadata : SourceMetadata τ) : Except Fault (Option (List τ)) :=
  if !s.isSessionReady then .ok none
  else if s.sessionType = .a2dpSoftwareEncoding ∨ s.sessionType = .a2dpHardwareOffload then .ok none
  else
    match sourceMetadata.tracks with
    | none => .ok (some (List.replicate sourceMetadata.trackCount default))
    | some tracks => some <$> copyTracks sourceMetadata.trackCount tracks

/-- `BluetoothAudioPortHidl::UpdateTracksMetadata`. -/
def portUpdateTracksMetadata [Inhabited τ] (inUse : Bool) (s : BluetoothAudioSession)
    (sourceMetadata : SourceMetadata τ) : Except Fault (Option (List τ)) :=
  if !inUse then .ok none
  else if sourceMetadata.trackCount = 0 then .ok none
  else s.updateTracksMetadata sourceMetadata

/-! ### The walk -/

theorem copyTracks_ok {trackCount : ℕ} {tracks : List τ} (h : trackCount ≤ tracks.length) :
    copyTracks trackCount tracks = .ok (tracks.take trackCount) := by
  induction trackCount generalizing tracks with
  | zero => rfl
  | succ n ih =>
    cases tracks with
    | nil => exact absurd h (Nat.not_succ_le_zero n)
    | cons track tracks =>
      rw [copyTracks, ih (Nat.le_of_succ_le_succ h), List.take_succ_cons]
      rfl

/-! ### What is handed over -/

/-- The session forwards the metadata: there is one, and it is not of A2DP. -/
def BluetoothAudioSession.ForwardsTracks (s : BluetoothAudioSession) : Prop :=
  s.isSessionReady = true ∧ s.sessionType ≠ .a2dpSoftwareEncoding ∧
    s.sessionType ≠ .a2dpHardwareOffload

theorem portUpdateTracksMetadata_eq [Inhabited τ] {s : BluetoothAudioSession} (hs : s.ForwardsTracks)
    {trackCount : ℕ} (hcount : trackCount ≠ 0) (array : List τ) :
    portUpdateTracksMetadata true s ⟨trackCount, some array⟩ = some <$> copyTracks trackCount array := by
  obtain ⟨hready, hsoft, hoffload⟩ := hs
  rw [portUpdateTracksMetadata, if_neg (by decide), if_neg hcount,
    BluetoothAudioSession.updateTracksMetadata, hready, if_neg (by decide),
    if_neg (not_or.2 ⟨hsoft, hoffload⟩)]

/-- What `out_update_source_metadata_v7` hands over for the tracks describes them: it has all, each
converted, and a session that forwards metadata reads no others and forwards all in order. -/
structure DescribesTracks [Inhabited γ] (fromV7 : τ → PlaybackTrackMetadata γ) (tracks : List τ)
    (metadata : SourceMetadata (PlaybackTrackMetadata γ)) : Prop where
  handed : outUpdateSourceMetadataV7 fromV7 (some ⟨tracks.length, some tracks⟩) = .ok (some metadata)
  count : metadata.trackCount = tracks.length
  converted : ∃ array, metadata.tracks = some array ∧
    ∀ i < tracks.length, array[i]? = (tracks[i]?).map fromV7
  forwarded : ∀ s : BluetoothAudioSession, s.ForwardsTracks →
    portUpdateTracksMetadata true s metadata = .ok (some (tracks.map fromV7))

theorem outUpdateSourceMetadataV7_cons (fromV7 : τ → PlaybackTrackMetadata γ) (track : τ)
    (tracks : List τ) :
    outUpdateSourceMetadataV7 fromV7 (some ⟨(track :: tracks).length, some (track :: tracks)⟩) =
      .ok (some ⟨(track :: tracks).length, some [fromV7 track]⟩) := rfl

/-- **When the metadata that is handed over describes the tracks**: there is one track. -/
theorem describesTracks_iff [Inhabited γ] (fromV7 : τ → PlaybackTrackMetadata γ) {tracks : List τ}
    (hne : tracks ≠ []) :
    (∃ metadata, DescribesTracks fromV7 tracks metadata) ↔ tracks.length = 1 := by
  obtain ⟨track, rest, rfl⟩ := List.exists_cons_of_ne_nil hne
  constructor
  · rintro ⟨metadata, hd⟩
    have hhanded := hd.handed
    rw [outUpdateSourceMetadataV7_cons] at hhanded
    obtain rfl := Option.some.inj (Except.ok.inj hhanded)
    obtain ⟨array, harray, hget⟩ := hd.converted
    obtain rfl := Option.some.inj harray
    -- the array has no second entry
    by_contra hlen
    have hone : 1 < (track :: rest).length := by
      rw [List.length_cons] at hlen ⊢
      omega
    have hsecond := hget 1 hone
    rw [List.getElem?_eq_getElem hone] at hsecond
    exact absurd hsecond (Option.some_ne_none _).symm
  · intro hlen
    obtain rfl := List.length_eq_zero_iff.1 (Nat.succ.inj hlen)
    refine ⟨⟨1, some [fromV7 track]⟩, outUpdateSourceMetadataV7_cons fromV7 track [], rfl,
      ⟨[fromV7 track], rfl, fun i hi => ?_⟩, fun s hs => ?_⟩
    · obtain rfl := Nat.lt_one_iff.1 hi
      rfl
    · rw [portUpdateTracksMetadata_eq hs Nat.one_ne_zero, copyTracks_ok (Nat.le_refl 1)]
      rfl

/-- One track of media, and the conversion that keeps its fields. -/
theorem describesTracks_one :
    ∃ metadata, DescribesTracks id [(⟨1, 2, 0⟩ : PlaybackTrackMetadata ℕ)] metadata :=
  (describesTracks_iff id (List.cons_ne_nil _ _)).2 rfl

/-- Two tracks, for a hearing aid. -/
theorem two_tracks_outOfBounds :
    (¬∃ metadata, DescribesTracks id [(⟨1, 2, 0⟩ : PlaybackTrackMetadata ℕ), ⟨13, 4, 0⟩] metadata) ∧
      (do
        let metadata ← outUpdateSourceMetadataV7 id
          (some ⟨2, some [(⟨1, 2, 0⟩ : PlaybackTrackMetadata ℕ), ⟨13, 4, 0⟩]⟩)
        metadata.elim (.ok none) (portUpdateTracksMetadata true
          { sessionType := .hearingAidSoftwareEncoding
            stackIface := some 0
            dataMQ := some ⟨1, true⟩
            observers := [] })) = .error .outOfBounds := by
  refine ⟨fun hd => ?_, rfl⟩
  obtain ⟨metadata, hd⟩ := hd
  obtain ⟨array, harray, hget⟩ := hd.converted
  have hhanded := hd.handed
  rw [outUpdateSourceMetadataV7_cons] at hhanded
  obtain rfl := Option.some.inj (Except.ok.inj hhanded)
  obtain rfl := Option.some.inj harray
  exact absurd (hget 1 (by decide)) (by decide)

end

end TrebleDoze.Bluetooth.Hidl
