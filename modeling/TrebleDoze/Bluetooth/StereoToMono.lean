import TrebleDoze.Bluetooth.DataPath
import TrebleDoze.Bluetooth.Stream
import Mathlib.Algebra.Group.Nat.Even

/-!
# Writing stereo to a mono session

`WriteData` of the two output ports mixes the frames down when the session is mono, hands half as many
bytes to `OutWritePcmData`, and returns twice what that has taken. The queues count in bytes, and may
take half a sample.

* `MonoWrite.even_of_rooms`: queues with room for whole samples, that are read in whole samples, take
  whole samples;
* `exists_splits_frame`: a queue with room for half a sample takes it, in some call;
* `writesWholeFrames_iff`: when every call on the queues returns a whole number of frames.
-/

namespace TrebleDoze.Bluetooth

open TrebleDoze.Lib

section

variable {σ χ α : Type}

/-- What the call returns. -/
def Exit.total : Exit σ α → Option ℕ
  | .returned total _ _ => some total
  | .nullDereference => none

/-- The bytes of `dst` after `downmix_to_mono_i16_from_stereo_i16`, a parameter: byte `k` of the frames
mixed down from the buffer. -/
def mixedDown (downmix : ℕ → List α → ℕ → α) (writeFrames : ℕ) (buffer : List α) : List α :=
  (List.range (writeFrames * 2)).map (downmix writeFrames buffer)

/-- `WriteData`, for the `OutWritePcmData` of the port's session. -/
def BluetoothAudioPort.writeData (downmix : ℕ → List α → ℕ → α) (isStereoToMono : Bool)
    (outWritePcmData : List α → Option (Exit σ α)) (buffer : List α) (p : BluetoothAudioPort) :
    Option ℕ :=
  if !p.inUse then some 0
  else if !isStereoToMono then (outWritePcmData buffer).bind Exit.total
  else
    let writeFrames := buffer.length >>> 2
    if writeFrames = 0 then some 0
    else ((outWritePcmData (mixedDown downmix writeFrames buffer)).bind Exit.total).map (· * 2)

variable (downmix : ℕ → List α → ℕ → α)

/-- The frames of the buffer, mixed down. -/
def monoOf (buffer : List α) : List α := mixedDown downmix (buffer.length >>> 2) buffer

/-- A call of `WriteData` on a port in use, mixing down: the queues take `enqueued` bytes, the first ones
of the mono frames, and it returns `result`. -/
structure MonoWrite (outWritePcmData : List α → ℕ → Option (Exit σ α)) (w : PcmWorld σ α)
    (buffer : List α) (p : BluetoothAudioPort) (enqueued result : ℕ) : Prop where
  accepted : ∃ w', (∃ m, ∀ fuel, m < fuel → outWritePcmData (monoOf downmix buffer) fuel =
      some (.returned enqueued (monoOf downmix buffer) w')) ∧
    Moved (Endpoint.writer α) w w' ((monoOf downmix buffer).take enqueued)
  returned : ∃ m, ∀ fuel, m < fuel →
    p.writeData downmix true (fun mono => outWritePcmData mono fuel) buffer = some result

/-- The result is within the buffer, and that of the whole mono frames that were enqueued. -/
structure WritesWholeFrames (bytes enqueued result : ℕ) : Prop where
  result_le : result ≤ bytes
  result_eq : result = 2 * enqueued
  whole : result = 4 * (enqueued / 2)

variable {downmix}

theorem length_monoOf (buffer : List α) : (monoOf downmix buffer).length = buffer.length / 4 * 2 := by
  rw [monoOf, mixedDown, List.length_map, List.length_range, Nat.shiftRight_eq_div_pow]

/-! ### The result -/

section

variable {P : PcmControl σ χ} {timeoutMs pollMs : ℕ} {schedule : ℕ → Surrounding χ ℕ}
  {w : PcmWorld σ α} {buffer : List α} {p : BluetoothAudioPort} {enqueued result : ℕ}

variable (P timeoutMs pollMs schedule w) in
/-- `OutWritePcmData` of the session, on a buffer that is there. -/
def outWrite (mono : List α) (fuel : ℕ) : Option (Exit σ α) :=
  transfer P (Endpoint.writer α) timeoutMs pollMs (some mono) schedule w fuel

theorem writeData_of_returned (hp : p.inUse = true) {run : List α → Option (Exit σ α)} {n : ℕ}
    {buffer' : List α} {w' : PcmWorld σ α} (hnil : run [] = some (.returned 0 [] w))
    (h : run (monoOf downmix buffer) = some (.returned n buffer' w')) :
    p.writeData downmix true run buffer = some (n * 2) := by
  rw [BluetoothAudioPort.writeData, hp, if_neg (by decide), if_neg (by decide)]
  by_cases hframes : buffer.length >>> 2 = 0
  · have hmono : monoOf downmix buffer = [] := by
      rw [monoOf, hframes]
      rfl
    rw [hmono, hnil] at h
    obtain ⟨rfl, -⟩ := Exit.returned.inj (Option.some.inj h)
    exact if_pos hframes
  · rw [monoOf] at h
    simp only [if_neg hframes, h]
    rfl

/-- A session of software takes some of the frames, and the call returns. -/
theorem monoWrite_of_software (hp : p.inUse = true) (hpoll : 0 < pollMs)
    (hs : P.Software w.session) :
    ∃ enqueued, enqueued ≤ (monoOf downmix buffer).length ∧
      MonoWrite downmix (outWrite P timeoutMs pollMs schedule w) w buffer p enqueued (enqueued * 2) := by
  have henqueued : Enqueued (some (monoOf downmix buffer)) w
      (outWrite P timeoutMs pollMs schedule w (monoOf downmix buffer)) :=
    enqueued_of_software P hpoll (some (monoOf downmix buffer)) schedule hs
  obtain ⟨n, w', ⟨m, hm⟩, hn, hmoved⟩ := henqueued
  have hnil (fuel : ℕ) : outWrite P timeoutMs pollMs schedule w [] fuel =
      some (.returned 0 [] w) := rfl
  exact ⟨n, hn, ⟨w', ⟨m, hm⟩, hmoved⟩, m, fun fuel hf =>
    writeData_of_returned hp (hnil fuel) (hm fuel hf)⟩

/-- What the queues take and what the call returns are one number and its double. -/
theorem MonoWrite.spec (h : MonoWrite downmix (outWrite P timeoutMs pollMs schedule w) w buffer p
      enqueued result) (hp : p.inUse = true) (hpoll : 0 < pollMs) (hs : P.Software w.session) :
    enqueued ≤ (monoOf downmix buffer).length ∧ result = enqueued * 2 := by
  have hcall : ∃ n, n ≤ (monoOf downmix buffer).length ∧
      MonoWrite downmix (outWrite P timeoutMs pollMs schedule w) w buffer p n (n * 2) :=
    monoWrite_of_software hp hpoll hs
  obtain ⟨n, hn, ⟨w', ⟨m, hm⟩, -⟩, m', hm'⟩ := hcall
  obtain ⟨⟨w₁, ⟨k, hk⟩, -⟩, k', hk'⟩ := h
  have hfuel : m < m + m' + k + k' + 1 ∧ m' < m + m' + k + k' + 1 ∧ k < m + m' + k + k' + 1 ∧
      k' < m + m' + k + k' + 1 := by omega
  obtain ⟨rfl, -⟩ := Exit.returned.inj
    (Option.some.inj ((hm _ hfuel.1).symm.trans (hk _ hfuel.2.2.1)))
  exact ⟨hn, Option.some.inj ((hk' _ hfuel.2.2.2).symm.trans (hm' _ hfuel.2.1))⟩

theorem MonoWrite.whole_iff (h : MonoWrite downmix (outWrite P timeoutMs pollMs schedule w) w buffer p
      enqueued result) (hp : p.inUse = true) (hpoll : 0 < pollMs) (hs : P.Software w.session) :
    WritesWholeFrames buffer.length enqueued result ↔ Even enqueued := by
  obtain ⟨hle, rfl⟩ := h.spec hp hpoll hs
  rw [length_monoOf] at hle
  rw [Nat.even_iff]
  constructor
  · intro hw
    have := hw.whole
    omega
  · intro heven
    exact ⟨by omega, by omega, by omega⟩

end

/-! ### Queues of whole samples -/

/-- Those who read the queues meanwhile read whole samples. -/
structure ReadsSamples (around : Surrounding χ ℕ) : Prop where
  before : ∀ ring n, .peer ring n ∈ around.before → Even n
  between : ∀ a ∈ around.between, Even a.2

/-- An iteration has moved whole samples so far. -/
structure SampleInv (t : Transfer σ α) : Prop where
  total : Even t.total
  total_le : t.total ≤ t.buffer.length
  length : Even t.buffer.length
  rings : ∀ ring, Even (t.world.rings ring).availableToWrite

theorem even_peer {f : Fifo α} (h : Even f.availableToWrite) {n : ℕ} (hn : Even n) :
    Even ((Endpoint.writer α).peer n f).availableToWrite := by
  show Even (((f.read n).map Prod.snd).getD f).availableToWrite
  cases hread : f.read n with
  | none => exact h
  | some r =>
    obtain ⟨xs, f'⟩ := r
    show Even f'.availableToWrite
    rw [Fifo.availableToWrite_read hread]
    exact h.add hn

theorem even_write {f f' : Fifo α} (h : Even f.availableToWrite) {xs : List α} (hxs : Even xs.length)
    (hw : f.write xs = some f') : Even f'.availableToWrite := by
  have hroom := Fifo.availableToWrite_write hw
  exact (Nat.even_add.1 (hroom ▸ h)).2 hxs

section

variable {w : PcmWorld σ α} {P : PcmControl σ χ} {around : Surrounding χ ℕ}

theorem even_setRing (h : ∀ ring, Even (w.rings ring).availableToWrite) {ring : ℕ} {f : Fifo α}
    (hf : Even f.availableToWrite) (r : ℕ) : Even ((w.setRing ring f).rings r).availableToWrite := by
  by_cases hr : r = ring
  · simpa [PcmWorld.setRing, hr] using hf
  · simpa [PcmWorld.setRing, hr] using h r

theorem even_before {before : List (Interference χ ℕ)}
    (hpeer : ∀ ring n, .peer ring n ∈ before → Even n)
    (h : ∀ ring, Even (w.rings ring).availableToWrite) (ring : ℕ) :
    Even ((before.foldl (PcmWorld.interfere P (Endpoint.writer α)) w).rings ring).availableToWrite := by
  induction before generalizing w with
  | nil => exact h ring
  | cons i before ih =>
    refine ih (fun r n hmem => hpeer r n (List.mem_cons_of_mem _ hmem)) fun r => ?_
    cases i with
    | call c => exact h r
    | peer r' n => exact even_setRing h (even_peer (h r') (hpeer r' n List.mem_cons_self)) r

theorem even_between {between : List (ℕ × ℕ)} (hpeer : ∀ a ∈ between, Even a.2)
    (h : ∀ ring, Even (w.rings ring).availableToWrite) (ring : ℕ) :
    Even ((between.foldl (PcmWorld.interfereRings (Endpoint.writer α)) w).rings
      ring).availableToWrite := by
  induction between generalizing w with
  | nil => exact h ring
  | cons a between ih =>
    exact ih (fun b hmem => hpeer b (List.mem_cons_of_mem _ hmem)) fun r =>
      even_setRing h (even_peer (h a.1) (hpeer a List.mem_cons_self)) r

end

section

variable {P : PcmControl σ χ} {pollMs : ℕ} {schedule : ℕ → Surrounding χ ℕ} {t t' : Transfer σ α}

/-- A result of the loop has moved whole samples. -/
def EvenExit (r : Exit σ α) : Prop := ∀ n ∈ r.total, Even n

/-- An iteration goes on with whole samples, or ends with them. -/
def SampleIter : Iter (Transfer σ α) (Exit σ α) → Prop
  | .next t => SampleInv t
  | .done r => EvenExit r

theorem SampleInv.exit (h : SampleInv t) (w : PcmWorld σ α) :
    EvenExit (.returned t.total t.buffer w) := by
  rintro n ⟨⟩
  exact h.total

theorem SampleInv.again (h : SampleInv t) : SampleIter t.again := by
  unfold Transfer.again
  split_ifs with hlt
  · exact ⟨h.total, h.total_le, h.length, h.rings⟩
  · exact h.exit t.world

theorem SampleInv.move (h : SampleInv t) {w : PcmWorld σ α}
    (hw : ∀ ring, Even (w.rings ring).availableToWrite) {ring count : ℕ} (hcount : Even count)
    (hle : t.total + count ≤ t.buffer.length) {buffer : List α} {f : Fifo α}
    (hmove : (Endpoint.writer α).move t.total count t.buffer (w.rings ring) = some (buffer, f)) :
    SampleInv { t with total := t.total + count, buffer := buffer, world := w.setRing ring f } := by
  obtain ⟨f', hwrite, heq⟩ := Option.map_eq_some_iff.1 hmove
  obtain ⟨rfl, rfl⟩ := Prod.mk.inj heq
  have hchunk : ((t.buffer.drop t.total).take count).length = count := by
    rw [List.length_take, List.length_drop]
    omega
  have hring : Even f'.availableToWrite := even_write (hw ring) (hchunk.symm ▸ hcount) hwrite
  exact ⟨h.total.add hcount, hle, h.length, even_setRing hw hring⟩

/-- What an iteration takes is the room for whole samples, or what is left of them. -/
theorem SampleInv.body (hreads : ReadsSamples (schedule t.iteration)) (h : SampleInv t) :
    SampleIter (transferBody P (Endpoint.writer α) pollMs schedule t) := by
  unfold transferBody
  dsimp only
  have hbefore := even_before (P := P) hreads.before h.rings
  generalize (schedule t.iteration).before.foldl (PcmWorld.interfere P (Endpoint.writer α)) t.world =
    w₁ at hbefore
  have hbetween := even_between hreads.between hbefore
  generalize (schedule t.iteration).between.foldl (PcmWorld.interfereRings (Endpoint.writer α)) w₁ =
    w₂ at hbetween
  cases hready : P.isSessionReady w₁.session with
  | false => exact h.exit w₁
  | true =>
    rw [Bool.not_true, if_neg Bool.false_ne_true]
    cases hmq : P.dataMq w₁.session with
    | none =>
      rintro n ⟨⟩
    | some mq =>
      have hroom : Even ((Endpoint.writer α).available (w₁.rings mq.ring)) :=
        hbefore mq.ring
      have hrest : Even (t.buffer.length - t.total) :=
        (Nat.even_sub h.total_le).2 (iff_of_true h.length h.total)
      have hle := h.total_le
      dsimp only
      split_ifs with hsome hmore hpoll
      · cases hmove : (Endpoint.writer α).move t.total (t.buffer.length - t.total) t.buffer
          (w₂.rings mq.ring) with
        | none => exact h.exit w₂
        | some r => exact (h.move hbetween hrest (by omega) hmove).again
      · cases hmove : (Endpoint.writer α).move t.total
          ((Endpoint.writer α).available (w₁.rings mq.ring)) t.buffer (w₂.rings mq.ring) with
        | none => exact h.exit w₂
        | some r => exact (h.move hbetween hroom (by omega) hmove).again
      · exact SampleInv.again ⟨h.total, h.total_le, h.length, hbetween⟩
      · exact h.exit w₂

theorem evenExit_of_transfer {timeoutMs : ℕ} {mono : List α} {w : PcmWorld σ α} {fuel : ℕ}
    {r : Exit σ α} (hmono : Even mono.length)
    (hw : ∀ ring, Even (w.rings ring).availableToWrite) (hreads : ∀ i, ReadsSamples (schedule i))
    (h : outWrite P timeoutMs pollMs schedule w mono fuel = some r) : EvenExit r := by
  unfold outWrite transfer at h
  dsimp only at h
  split_ifs at h with hlen
  · obtain rfl := Option.some.inj h
    rintro n ⟨⟩
    exact Even.zero
  · have hinit : SampleInv (⟨0, 0, timeoutMs, mono, w⟩ : Transfer σ α) :=
      ⟨Even.zero, Nat.zero_le _, hmono, hw⟩
    refine loop_result (I := SampleInv) (fun hI hbody => ?_) (fun hI hbody => ?_) hinit h
    · have hiter : SampleIter (transferBody P (Endpoint.writer α) pollMs schedule _) :=
        hI.body (hreads _)
      rwa [hbody] at hiter
    · have hiter : SampleIter (transferBody P (Endpoint.writer α) pollMs schedule _) :=
        hI.body (hreads _)
      rwa [hbody] at hiter

/-- **Queues with room for whole samples take whole samples**, when whole samples are read from them. -/
theorem MonoWrite.even_of_rooms {timeoutMs : ℕ} {w : PcmWorld σ α} {buffer : List α}
    {p : BluetoothAudioPort} {enqueued result : ℕ}
    (h : MonoWrite downmix (outWrite P timeoutMs pollMs schedule w) w buffer p enqueued result)
    (hw : ∀ ring, Even (w.rings ring).availableToWrite) (hreads : ∀ i, ReadsSamples (schedule i)) :
    Even enqueued := by
  obtain ⟨⟨w', ⟨m, hm⟩, -⟩, -⟩ := h
  have hmono : Even (monoOf downmix buffer).length := by
    rw [length_monoOf]
    exact ⟨buffer.length / 4, by omega⟩
  exact evenExit_of_transfer hmono hw hreads (hm (m + 1) (Nat.lt_succ_self m)) enqueued rfl

end

/-! ### Queues with room for half a sample -/

/-- The session can be restarted with any queue, and ended. -/
structure Restarts (P : PcmControl σ χ) : Prop where
  restart : ∀ {s}, P.Software s → ∀ ring, ∃ c mq, P.isSessionReady (P.call s c) = true ∧
    P.dataMq (P.call s c) = some mq ∧ mq.ring = ring
  finish : ∀ s, ∃ c, P.isSessionReady (P.call s c) = false

/-- The session gets a queue with the call `c`, and is ended by the call `c'` after an iteration. -/
def onceWith (c c' : χ) : ℕ → Surrounding χ ℕ
  | 0 => ⟨[.call c], []⟩
  | _ + 1 => ⟨[.call c'], []⟩

theorem readsSamples_onceWith (c c' : χ) (i : ℕ) : ReadsSamples (onceWith c c' i) := by
  cases i with
  | zero => exact ⟨fun ring n h => by simp [onceWith] at h, fun a h => by simp [onceWith] at h⟩
  | succ i => exact ⟨fun ring n h => by simp [onceWith] at h, fun a h => by simp [onceWith] at h⟩

section

variable {P : PcmControl σ χ} {timeoutMs pollMs : ℕ} {w : PcmWorld σ α} {mono : List α} {c c' : χ}
  {mq : DataMQ}

/-- An iteration that finds the session ended. -/
theorem transferBody_of_ended {schedule : ℕ → Surrounding χ ℕ} {t : Transfer σ α} {w' : PcmWorld σ α}
    (hbefore : (schedule t.iteration).before.foldl (PcmWorld.interfere P (Endpoint.writer α)) t.world = w')
    (hend : P.isSessionReady w'.session = false) :
    transferBody P (Endpoint.writer α) pollMs schedule t = .done (.returned t.total t.buffer w') := by
  unfold transferBody
  dsimp only
  rw [hbefore, hend]
  rfl

/-- An iteration that finds room, less than there is to write, and nobody at the queue meanwhile. -/
theorem transferBody_of_room {schedule : ℕ → Surrounding χ ℕ} {t : Transfer σ α} {w' : PcmWorld σ α}
    {f : Fifo α}
    (hbefore : (schedule t.iteration).before.foldl (PcmWorld.interfere P (Endpoint.writer α)) t.world = w')
    (hbetween : (schedule t.iteration).between.foldl (PcmWorld.interfereRings (Endpoint.writer α)) w' = w')
    (hready : P.isSessionReady w'.session = true) (hmq : P.dataMq w'.session = some mq)
    (hpos : 0 < (w'.rings mq.ring).availableToWrite)
    (hlt : t.total + (w'.rings mq.ring).availableToWrite < t.buffer.length)
    (hf : (w'.rings mq.ring).write ((t.buffer.drop t.total).take (w'.rings mq.ring).availableToWrite) =
      some f) :
    transferBody P (Endpoint.writer α) pollMs schedule t =
      .next { t with iteration := t.iteration + 1, total := t.total + (w'.rings mq.ring).availableToWrite
                     world := w'.setRing mq.ring f } := by
  have hleft : ¬(w'.rings mq.ring).availableToWrite > t.buffer.length - t.total := by omega
  have hmove : (Endpoint.writer α).move t.total (w'.rings mq.ring).availableToWrite t.buffer
      (w'.rings mq.ring) = some (t.buffer, f) := Option.map_eq_some_iff.2 ⟨f, hf, rfl⟩
  unfold transferBody
  dsimp only
  rw [hbefore, hbetween, hready, hmq]
  dsimp only
  rw [show (Endpoint.writer α).available = Fifo.availableToWrite from rfl, if_pos (Nat.ne_of_gt hpos),
    if_neg hleft, hmove]
  exact if_pos hlt

/-- The first iteration fills the queue, and the second one finds the session ended. -/
theorem outWrite_onceWith (hready : P.isSessionReady (P.call w.session c) = true)
    (hmq : P.dataMq (P.call w.session c) = some mq)
    (hend : P.isSessionReady (P.call (P.call w.session c) c') = false)
    (hpos : 0 < (w.rings mq.ring).availableToWrite)
    (hlt : (w.rings mq.ring).availableToWrite < mono.length) (fuel : ℕ) :
    ∃ w', outWrite P timeoutMs pollMs (onceWith c c') w mono (fuel + 2) =
      some (.returned (w.rings mq.ring).availableToWrite mono w') := by
  have hchunk : ((mono.drop 0).take (w.rings mq.ring).availableToWrite).length ≤
      (w.rings mq.ring).availableToWrite := by
    rw [List.length_take]
    exact Nat.min_le_left _ _
  obtain ⟨f, hf⟩ : ∃ f, (w.rings mq.ring).write
      ((mono.drop 0).take (w.rings mq.ring).availableToWrite) = some f := by
    rw [Fifo.write, dif_pos hchunk]
    exact ⟨_, rfl⟩
  have hfirst : transferBody P (Endpoint.writer α) pollMs (onceWith c c') ⟨0, 0, timeoutMs, mono, w⟩ =
      .next ⟨1, 0 + (w.rings mq.ring).availableToWrite, timeoutMs, mono,
        PcmWorld.setRing mq.ring f { w with session := P.call w.session c }⟩ :=
    transferBody_of_room rfl rfl hready hmq hpos ((Nat.zero_add _).symm ▸ hlt) hf
  unfold outWrite transfer
  dsimp only
  rw [if_neg (by omega), loop_of_next hfirst, Nat.zero_add]
  exact ⟨_, loop_of_done (transferBody_of_ended rfl hend) fuel⟩

variable (downmix timeoutMs) in
/-- **A queue with room for half a sample takes it**: a buffer with more frames than it has room for, and
a session that ends before more is read. -/
theorem exists_splits_frame [Nonempty α] (hP : Restarts P) {p : BluetoothAudioPort}
    (hp : p.inUse = true) (hpoll : 0 < pollMs) (hs : P.Software w.session) {ring : ℕ}
    (hodd : ¬Even (w.rings ring).availableToWrite) :
    ∃ buffer schedule enqueued result, (∀ i, ReadsSamples (schedule i)) ∧
      MonoWrite downmix (outWrite P timeoutMs pollMs schedule w) w buffer p enqueued result ∧
      ¬WritesWholeFrames buffer.length enqueued result := by
  obtain ⟨x⟩ := ‹Nonempty α›
  obtain ⟨c, mq, hready, hmq, rfl⟩ := hP.restart hs ring
  obtain ⟨c', hend⟩ := hP.finish (P.call w.session c)
  set room := (w.rings mq.ring).availableToWrite with hroom
  have hpos : 0 < room := Nat.pos_of_ne_zero fun h => hodd (h ▸ Even.zero)
  set buffer := List.replicate (4 * room) x with hbuffer
  have hmono : (monoOf downmix buffer).length = 2 * room := by
    rw [length_monoOf, hbuffer, List.length_replicate]
    omega
  obtain ⟨n, -, hwrite⟩ : ∃ n, n ≤ (monoOf downmix buffer).length ∧ MonoWrite downmix
      (outWrite P timeoutMs pollMs (onceWith c c') w) w buffer p n (n * 2) :=
    monoWrite_of_software hp hpoll hs
  refine ⟨buffer, onceWith c c', n, n * 2, readsSamples_onceWith c c', hwrite, fun hwhole => hodd ?_⟩
  have heven : Even n := (hwrite.whole_iff hp hpoll hs).1 hwhole
  obtain ⟨⟨w₁, ⟨m, hm⟩, -⟩, -⟩ := hwrite
  obtain ⟨w', hw'⟩ : ∃ w', outWrite P timeoutMs pollMs (onceWith c c') w (monoOf downmix buffer)
      (m + 2) = some (.returned room (monoOf downmix buffer) w') :=
    outWrite_onceWith hready hmq hend hpos (by omega) m
  obtain ⟨rfl, -⟩ := Exit.returned.inj
    (Option.some.inj ((hm (m + 2) (by omega)).symm.trans hw'))
  exact heven

variable (downmix) in
/-- The writes of the port, for the `OutWritePcmData` of its session: they return at most the bytes of the
buffer, twice what they have enqueued; and whole frames, with readers of whole samples, when every queue
has room for whole samples, and only then. -/
structure MonoWrites (outWritePcmData : (ℕ → Surrounding χ ℕ) → List α → ℕ → Option (Exit σ α))
    (w : PcmWorld σ α) (p : BluetoothAudioPort) : Prop where
  returns : ∀ buffer schedule, ∃ enqueued result,
    MonoWrite downmix (outWritePcmData schedule) w buffer p enqueued result
  twice : ∀ buffer schedule enqueued result,
    MonoWrite downmix (outWritePcmData schedule) w buffer p enqueued result →
      result ≤ buffer.length ∧ result = 2 * enqueued
  whole_iff : (∀ buffer schedule, (∀ i, ReadsSamples (schedule i)) → ∀ enqueued result,
      MonoWrite downmix (outWritePcmData schedule) w buffer p enqueued result →
        WritesWholeFrames buffer.length enqueued result) ↔
    ∀ ring, Even (w.rings ring).availableToWrite

theorem monoWrites_of_software [Nonempty α] (hP : Restarts P) {p : BluetoothAudioPort}
    (hp : p.inUse = true) (hpoll : 0 < pollMs) (hs : P.Software w.session) :
    MonoWrites downmix (fun schedule => outWrite P timeoutMs pollMs schedule w) w p where
  returns buffer schedule := by
    obtain ⟨n, -, hwrite⟩ : ∃ n, n ≤ (monoOf downmix buffer).length ∧ MonoWrite downmix
        (outWrite P timeoutMs pollMs schedule w) w buffer p n (n * 2) :=
      monoWrite_of_software hp hpoll hs
    exact ⟨n, n * 2, hwrite⟩
  twice buffer schedule enqueued result hwrite := by
    obtain ⟨hle, rfl⟩ := hwrite.spec hp hpoll hs
    rw [length_monoOf] at hle
    exact ⟨by omega, by omega⟩
  whole_iff := by
    constructor
    · intro hwhole ring
      by_contra hodd
      obtain ⟨buffer, schedule, enqueued, result, hreads, hwrite, hsplit⟩ :=
        exists_splits_frame downmix timeoutMs hP hp hpoll hs hodd
      exact hsplit (hwhole buffer schedule hreads enqueued result hwrite)
    · intro hrooms buffer schedule hreads enqueued result hwrite
      exact (hwrite.whole_iff hp hpoll hs).2 (hwrite.even_of_rooms hrooms hreads)

end

end

/-! ### Both output ports -/

section

variable {κ : Tag → Type} [Nonempty (κ .pcmConfig)]

theorem BluetoothAudioSession.restarts : Restarts (BluetoothAudioSession.pcm κ) where
  restart {s} hs ring := by
    obtain ⟨config⟩ := ‹Nonempty (κ .pcmConfig)›
    have haccepts : acceptsTag s.sessionType .pcmConfig = true := by
      change s.sessionType.isSoftware = true at hs
      simp [acceptsTag, hs]
    refine ⟨.onSessionStarted (some 0) (some ⟨ring, true⟩) ⟨.pcmConfig, config⟩ [], ⟨ring, true⟩, ?_, ?_,
      rfl⟩
    · show (s.onSessionStarted _ _ _ _).1.isSessionReady = true
      simp [onSessionStarted, updateAudioConfig, haccepts, updateDataPath, isSessionReady]
    · show (s.onSessionStarted _ _ _ _).1.dataMq = _
      simp [onSessionStarted, updateAudioConfig, haccepts, updateDataPath]
  finish s := by
    refine ⟨.onSessionEnded, ?_⟩
    show s.onSessionEnded.1.isSessionReady = false
    exact isSessionReady_of_stackIface rfl

/-- A session of software accepts the configuration of PCM by `OnSessionStarted` of 2.1. -/
theorem Hidl.BluetoothAudioSession.onSessionStarted21_of_software {s : Hidl.BluetoothAudioSession}
    (hs : s.sessionType.isSoftware = true) (iface ring : ℕ) :
    (s.onSessionStarted21 (some iface) (some ⟨ring, true⟩) .pcmConfig).1 =
      { s with dataMQ := some ⟨ring, true⟩, stackIface := some iface } := by
  obtain ⟨sessionType, stackIface, dataMQ, observers⟩ := s
  cases sessionType <;> first | rfl | cases hs

/-- The session of a device is restarted by the calls to the one that it is. -/
theorem Hidl.restarts : Restarts (Hidl.pcm κ) where
  restart {s} hs ring := by
    cases s with
    | own s =>
      refine ⟨.inl (.onSessionStarted21 (some 0) (some ⟨ring, true⟩) .pcmConfig), ⟨ring, true⟩, ?_, ?_,
        rfl⟩
      · show (s.onSessionStarted21 _ _ _).1.isSessionReady = true
        rw [BluetoothAudioSession.onSessionStarted21_of_software hs]
        simp [BluetoothAudioSession.isSessionReady]
      · show (s.onSessionStarted21 _ _ _).1.dataMQ = _
        rw [BluetoothAudioSession.onSessionStarted21_of_software hs]
    | forwarded t s h =>
      have hsoftware : s.sessionType.isSoftware = true := h ▸ isSoftware_fromSessionType hs
      obtain ⟨c, mq, hready, hmq, hring⟩ :=
        Bluetooth.BluetoothAudioSession.restarts.restart (s := s) hsoftware ring
      exact ⟨.inr c, mq, hready, hmq, hring⟩
  finish s := by
    cases s with
    | own s => exact ⟨.inl .onSessionEnded, rfl⟩
    | forwarded t s h =>
      obtain ⟨c, hc⟩ := Bluetooth.BluetoothAudioSession.restarts.finish s
      exact ⟨.inr c, hc⟩

end

/-- **When the writes that are mixed down return whole frames**, on the AIDL and on the HIDL port. -/
theorem writesWholeFrames_iff {κ : Tag → Type} {α : Type} [Nonempty (κ .pcmConfig)] [Nonempty α]
    (downmix : ℕ → List α → ℕ → α) (p : BluetoothAudioPort) (hp : p.inUse = true) :
    (∀ w : PcmWorld (BluetoothAudioSession κ) α, w.session.sessionType.isSoftware = true →
      MonoWrites downmix (fun schedule mono =>
        BluetoothAudioSession.outWritePcmData (some mono) schedule w) w p) ∧
    ∀ w : PcmWorld (Hidl.DeviceSession κ) α, w.session.sessionType.isSoftware = true →
      MonoWrites downmix (fun schedule mono => Hidl.outWritePcmData (some mono) schedule w) w p :=
  ⟨fun _ hs => monoWrites_of_software BluetoothAudioSession.restarts hp (by decide) hs,
    fun _ hs => monoWrites_of_software Hidl.restarts hp (by decide) hs⟩

/-- The left channel of the frames. -/
def leftChannel (_ : ℕ) (buffer : List ℕ) (k : ℕ) : ℕ := buffer.getD (k / 2 * 4 + k % 2) 0

/-- The queues of two places take whole samples from every buffer. -/
theorem writesWholeFrames_iff_smallQueue :
    MonoWrites leftChannel (fun schedule mono =>
        BluetoothAudioSession.outWritePcmData (some mono) schedule smallQueue) smallQueue freshPort ∧
      ∀ buffer enqueued result, MonoWrite leftChannel (fun mono =>
          BluetoothAudioSession.outWritePcmData (some mono) slowPeer smallQueue) smallQueue buffer
            freshPort enqueued result → WritesWholeFrames buffer.length enqueued result := by
  have h := (writesWholeFrames_iff (κ := NoPayload) leftChannel freshPort (by decide)).1 smallQueue rfl
  refine ⟨h, fun buffer enqueued result => h.whole_iff.2 (fun ring => ?_) buffer slowPeer ?_ enqueued
    result⟩
  · exact ⟨1, rfl⟩
  · rintro (_ | _ | _ | _ | i)
    all_goals exact ⟨by simp [slowPeer, Nat.even_iff], by simp [slowPeer]⟩

/-- A queue of three places, whose session ends after the first iteration. -/
def oddQueue : PcmWorld (BluetoothAudioSession NoPayload) ℕ where
  session := smallQueue.session
  rings ring := { smallQueue.rings ring with capacity := 3, bounded := Nat.zero_le 3 }

def endsSoon : ℕ → Surrounding (BluetoothAudioSession.Call NoPayload) ℕ
  | 0 => ⟨[], []⟩
  | _ => ⟨[.call .onSessionEnded], []⟩

/-- It takes a sample and a half of the two frames, and the call returns a frame and a half. -/
theorem writes_half_frame :
    (∃ w, BluetoothAudioSession.outWritePcmData
        (some (monoOf leftChannel [1, 2, 3, 4, 5, 6, 7, 8])) endsSoon oddQueue 2 =
          some (.returned 3 [1, 2, 5, 6] w)) ∧
      freshPort.writeData leftChannel true (fun mono =>
        BluetoothAudioSession.outWritePcmData (some mono) endsSoon oddQueue 2)
          [1, 2, 3, 4, 5, 6, 7, 8] = some 6 ∧
      ¬WritesWholeFrames 8 3 6 :=
  ⟨⟨_, rfl⟩, rfl, fun h => absurd h.whole (by decide)⟩

end TrebleDoze.Bluetooth
