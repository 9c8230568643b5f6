import TrebleDoze.Bluetooth.Session
import TrebleDoze.Bluetooth.SessionHidl
import TrebleDoze.Lib.Fifo
import TrebleDoze.Lib.Loop

/-!
# The data path of the software sessions

`OutWritePcmData` and `InReadPcmData` of the AIDL and of the HIDL session are one loop between a buffer
and the message queue that the session has at the time (`transfer`), for an end of the queue and the
session's `IsSessionReady` and queue.  Between two iterations the session may end and be restarted,
with the same or another queue; the peer reads or fills the queues at any time.

* `transfer_spec`: the loop returns, and has moved a prefix of the buffer, every byte once and in order;
* `pcm_data_moved`: what the four functions do.
-/

namespace TrebleDoze.Bluetooth

open TrebleDoze.Lib

/-- `kFmqSendTimeoutMs`. -/
def kFmqSendTimeoutMs : ℕ := 1000

/-- `kFmqReceiveTimeoutMs`. -/
def kFmqReceiveTimeoutMs : ℕ := 1000

/-- `kWritePollMs`. -/
def kWritePollMs : ℕ := 1

/-- `kReadPollMs`. -/
def kReadPollMs : ℕ := 1

/-- What the data path uses of a session `σ` with the calls `χ`. -/
structure PcmControl (σ χ : Type) where
  isSessionReady : σ → Bool
  dataMq : σ → Option DataMQ
  call : σ → χ → σ
  /-- The session is one that has a data queue. -/
  Software : σ → Prop
  software_call : ∀ {s} c, Software s → Software (call s c)
  dataMq_of_ready : ∀ {s}, Software s → isSessionReady s = true → (dataMq s).isSome = true

/-- The session, and the ring buffers of the message queues. -/
structure PcmWorld (σ α : Type) where
  session : σ
  rings : ℕ → Fifo α

/-- Something that others do to the session or to a queue. -/
inductive Interference (χ ω : Type) where
  | call (c : χ)
  | peer (ring : ℕ) (a : ω)

/-- What happens around an iteration: before it takes the session's mutex, and, to the queues, between
its question how much can be moved and the move. -/
structure Surrounding (χ ω : Type) where
  before : List (Interference χ ω)
  between : List (ℕ × ω)

section

variable {σ χ α : Type} (P : PcmControl σ χ) (D : Endpoint α)

namespace PcmWorld

def setRing (ring : ℕ) (f : Fifo α) (w : PcmWorld σ α) : PcmWorld σ α :=
  { w with rings := fun r => if r = ring then f else w.rings r }

def interfere (w : PcmWorld σ α) : Interference χ D.Peer → PcmWorld σ α
  | .call c => { w with session := P.call w.session c }
  | .peer ring a => w.setRing ring (D.peer a (w.rings ring))

/-- The peers alone, while the session's mutex is held. -/
def interfereRings (w : PcmWorld σ α) (a : ℕ × D.Peer) : PcmWorld σ α :=
  w.setRing a.1 (D.peer a.2 (w.rings a.1))

end PcmWorld

/-- The locals of the loop, and the world. -/
structure Transfer (σ α : Type) where
  iteration : ℕ
  total : ℕ
  timeoutMs : ℕ
  buffer : List α
  world : PcmWorld σ α

/-- How the loop ends. -/
inductive Exit (σ α : Type) where
  | returned (total : ℕ) (buffer : List α) (world : PcmWorld σ α)
  /-- The session is ready, and its queue pointer is null. -/
  | nullDereference

/-- The test at the end of the `do` loop. -/
def Transfer.again (t : Transfer σ α) : Iter (Transfer σ α) (Exit σ α) :=
  if t.total < t.buffer.length then .next { t with iteration := t.iteration + 1 }
  else .done (.returned t.total t.buffer t.world)

/-- An iteration of the loop. -/
def transferBody (pollMs : ℕ) (schedule : ℕ → Surrounding χ D.Peer) (t : Transfer σ α) :
    Iter (Transfer σ α) (Exit σ α) :=
  let bytes := t.buffer.length
  let w := (schedule t.iteration).before.foldl (PcmWorld.interfere P D) t.world
  if !P.isSessionReady w.session then .done (.returned t.total t.buffer w)
  else
    match P.dataMq w.session with
    | none => .done .nullDereference
    | some mq =>
      let available := D.available (w.rings mq.ring)
      let w := (schedule t.iteration).between.foldl (PcmWorld.interfereRings D) w
      if available ≠ 0 then
        let count := if available > bytes - t.total then bytes - t.total else available
        match D.move t.total count t.buffer (w.rings mq.ring) with
        | none => .done (.returned t.total t.buffer w)
        | some (buffer, f) =>
          Transfer.again
            { t with total := t.total + count, buffer := buffer, world := w.setRing mq.ring f }
      else if t.timeoutMs ≥ pollMs then
        Transfer.again { t with timeoutMs := t.timeoutMs - pollMs, world := w }
      else .done (.returned t.total t.buffer w)

/-- The loop, for a buffer of `bytes` bytes. -/
def transfer (timeoutMs pollMs : ℕ) (buffer : Option (List α))
    (schedule : ℕ → Surrounding χ D.Peer) (w : PcmWorld σ α) (fuel : ℕ) : Option (Exit σ α) :=
  match buffer with
  | none => some (.returned 0 [] w)
  | some buffer =>
    if buffer.length = 0 then some (.returned 0 buffer w)
    else loop (transferBody P D pollMs schedule) fuel ⟨0, 0, timeoutMs, buffer, w⟩

/-! ### What the loop moves -/

/-- The chunks moved to or from a queue. -/
def chunksOf (ring : ℕ) (log : List (ℕ × List α)) : List α :=
  (log.filter fun c => c.1 == ring).flatMap Prod.snd

/-- The bytes `xs` were moved, chunk by chunk in order, each of them once and to or from one queue. -/
def Moved (w w' : PcmWorld σ α) (xs : List α) : Prop :=
  ∃ log : List (ℕ × List α), log.flatMap Prod.snd = xs ∧
    ∀ ring, D.history (w'.rings ring) = D.history (w.rings ring) ++ chunksOf ring log

variable {P D} {w w' : PcmWorld σ α} {xs chunk : List α}

theorem chunksOf_snoc (ring r : ℕ) (log : List (ℕ × List α)) (chunk : List α) :
    chunksOf ring (log ++ [(r, chunk)]) = chunksOf ring log ++ if r = ring then chunk else [] := by
  by_cases h : r = ring <;> simp [chunksOf, h]

theorem moved_refl : Moved D w w [] := ⟨[], rfl, fun _ => by simp [chunksOf]⟩

theorem Moved.of_history (h : Moved D w w' xs) {w'' : PcmWorld σ α}
    (hh : ∀ ring, D.history (w''.rings ring) = D.history (w'.rings ring)) : Moved D w w'' xs := by
  obtain ⟨log, hx, hlog⟩ := h
  exact ⟨log, hx, fun ring => by rw [hh, hlog]⟩

theorem Moved.setRing (h : Moved D w w' xs) {ring : ℕ} {f : Fifo α}
    (hf : D.history f = D.history (w'.rings ring) ++ chunk) :
    Moved D w (w'.setRing ring f) (xs ++ chunk) := by
  obtain ⟨log, rfl, hlog⟩ := h
  refine ⟨log ++ [(ring, chunk)], by simp, fun r => ?_⟩
  rw [chunksOf_snoc, ← List.append_assoc, ← hlog r]
  by_cases hr : r = ring
  · subst hr
    simp [PcmWorld.setRing, hf]
  · simp [PcmWorld.setRing, hr, Ne.symm hr]

/-! ### What others do -/

variable (P D) in
/-- Others have come in between: the session is still one of software, and no history is longer. -/
structure Follows (w w' : PcmWorld σ α) : Prop where
  software : P.Software w.session → P.Software w'.session
  history : ∀ ring, D.history (w'.rings ring) = D.history (w.rings ring)

theorem Follows.trans {w'' : PcmWorld σ α} (h : Follows P D w w') (h' : Follows P D w' w'') :
    Follows P D w w'' :=
  ⟨fun hs => h'.software (h.software hs), fun ring => (h'.history ring).trans (h.history ring)⟩

theorem follows_interfereRings (w : PcmWorld σ α) (a : ℕ × D.Peer) :
    Follows P D w (w.interfereRings D a) := by
  refine ⟨id, fun ring => ?_⟩
  by_cases h : ring = a.1
  · subst h
    simp [PcmWorld.interfereRings, PcmWorld.setRing, D.history_peer]
  · simp [PcmWorld.interfereRings, PcmWorld.setRing, h]

theorem follows_interfere (w : PcmWorld σ α) (i : Interference χ D.Peer) :
    Follows P D w (w.interfere P D i) := by
  cases i with
  | call c => exact ⟨P.software_call c, fun _ => rfl⟩
  | peer ring a => exact follows_interfereRings w (ring, a)

theorem follows_foldl {ι : Type} {act : PcmWorld σ α → ι → PcmWorld σ α}
    (h : ∀ w i, Follows P D w (act w i)) (l : List ι) (w : PcmWorld σ α) :
    Follows P D w (l.foldl act w) := by
  induction l generalizing w with
  | nil => exact ⟨id, fun _ => rfl⟩
  | cons i l ih => exact (h w i).trans (ih (act w i))

/-! ### An iteration -/

variable (P D) in
/-- The ways an iteration can go. -/
inductive BodyCase (pollMs : ℕ) (t : Transfer σ α) : Iter (Transfer σ α) (Exit σ α) → Prop
  | stops (w : PcmWorld σ α) (hw : Follows P D t.world w) :
      BodyCase pollMs t (.done (.returned t.total t.buffer w))
  | waits (w : PcmWorld σ α) (hw : Follows P D t.world w) (ht : pollMs ≤ t.timeoutMs) :
      BodyCase pollMs t (Transfer.again { t with timeoutMs := t.timeoutMs - pollMs, world := w })
  | moves (w : PcmWorld σ α) (hw : Follows P D t.world w) (ring count : ℕ) (buffer : List α)
      (f : Fifo α) (hpos : 0 < count) (hle : t.total + count ≤ t.buffer.length)
      (hm : D.move t.total count t.buffer (w.rings ring) = some (buffer, f)) :
      BodyCase pollMs t (Transfer.again
        { t with total := t.total + count, buffer := buffer, world := w.setRing ring f })

theorem transferBody_cases {pollMs : ℕ} {schedule : ℕ → Surrounding χ D.Peer} {t : Transfer σ α}
    (hs : P.Software t.world.session) (hlt : t.total < t.buffer.length) :
    BodyCase P D pollMs t (transferBody P D pollMs schedule t) := by
  unfold transferBody
  have h1 := follows_foldl (follows_interfere (P := P)) (schedule t.iteration).before t.world
  generalize (schedule t.iteration).before.foldl (PcmWorld.interfere P D) t.world = w₁ at h1
  have h2 := h1.trans (follows_foldl follows_interfereRings (schedule t.iteration).between w₁)
  dsimp only
  cases hr : P.isSessionReady w₁.session with
  | false => exact .stops w₁ h1
  | true =>
    obtain ⟨mq, hmq⟩ := Option.isSome_iff_exists.1 (P.dataMq_of_ready (h1.software hs) hr)
    rw [Bool.not_true, if_neg Bool.false_ne_true, hmq]
    dsimp only
    generalize (schedule t.iteration).between.foldl (PcmWorld.interfereRings D) w₁ = w₂ at h2
    by_cases ha : D.available (w₁.rings mq.ring) ≠ 0
    · rw [if_pos ha]
      set count := if D.available (w₁.rings mq.ring) > t.buffer.length - t.total then
        t.buffer.length - t.total else D.available (w₁.rings mq.ring) with hcount
      cases hm : D.move t.total count t.buffer (w₂.rings mq.ring) with
      | none => exact .stops w₂ h2
      | some r =>
        obtain ⟨buffer, f⟩ := r
        refine .moves w₂ h2 mq.ring count buffer f ?_ ?_ hm
        · rw [hcount]
          split_ifs <;> omega
        · rw [hcount]
          split_ifs <;> omega
    · rw [if_neg ha]
      by_cases ht : t.timeoutMs ≥ pollMs
      · rw [if_pos ht]
        exact .waits w₂ h2 ht
      · rw [if_neg ht]
        exact .stops w₂ h2

/-! ### The loop -/

variable (P D) in
/-- The first `total` places of the buffer are what was moved since `w`, and the others are those of
the buffer at the start; `K` is kept by every move. -/
structure TransferInv (K : List α → Prop) (buffer₀ : List α) (w : PcmWorld σ α)
    (t : Transfer σ α) : Prop where
  software : P.Software t.world.session
  total_le : t.total ≤ t.buffer.length
  length : t.buffer.length = buffer₀.length
  rest : t.buffer.drop t.total = buffer₀.drop t.total
  moved : Moved D w t.world (t.buffer.take t.total)
  keeps : K t.buffer

variable (D) in
/-- The loop has returned `n`, and moved the first `n` places of the buffer. -/
def Transferred (K : List α → Prop) (buffer₀ : List α) (w : PcmWorld σ α) (r : Exit σ α) : Prop :=
  ∃ n buffer w', r = .returned n buffer w' ∧ n ≤ buffer₀.length ∧ buffer.length = buffer₀.length ∧
    buffer.drop n = buffer₀.drop n ∧ Moved D w w' (buffer.take n) ∧ K buffer

variable {K : List α → Prop} {buffer₀ : List α} {t : Transfer σ α} {pollMs : ℕ}

theorem TransferInv.transferred (h : TransferInv P D K buffer₀ w t) :
    Transferred D K buffer₀ w (.returned t.total t.buffer t.world) :=
  ⟨t.total, t.buffer, t.world, rfl, h.length ▸ h.total_le, h.length, h.rest, h.moved, h.keeps⟩

theorem TransferInv.follows (h : TransferInv P D K buffer₀ w t) (hw : Follows P D t.world w')
    (timeoutMs : ℕ) :
    TransferInv P D K buffer₀ w { t with timeoutMs := timeoutMs, world := w' } :=
  { h with
    software := hw.software h.software
    moved := h.moved.of_history hw.history }

theorem TransferInv.move (h : TransferInv P D K buffer₀ w t) {ring count : ℕ} {buffer : List α}
    {f : Fifo α} (hK : ∀ {total count buffer f buffer' f'},
      D.move total count buffer f = some (buffer', f') → K buffer → K buffer')
    (hle : t.total + count ≤ t.buffer.length)
    (hm : D.move t.total count t.buffer (t.world.rings ring) = some (buffer, f)) :
    TransferInv P D K buffer₀ w
      { t with total := t.total + count, buffer := buffer, world := t.world.setRing ring f } := by
  obtain ⟨hlen, hrest, chunk, htake, hhist⟩ := D.move_spec hle hm
  refine ⟨h.software, ?_, ?_, ?_, ?_, hK hm h.keeps⟩
  · rw [hlen]
    exact hle
  · rw [hlen, h.length]
  · calc buffer.drop (t.total + count) = t.buffer.drop (t.total + count) := hrest
      _ = (t.buffer.drop t.total).drop count := List.drop_drop.symm
      _ = (buffer₀.drop t.total).drop count := by rw [h.rest]
      _ = buffer₀.drop (t.total + count) := List.drop_drop
  · show Moved D w (t.world.setRing ring f) (buffer.take (t.total + count))
    rw [htake]
    exact h.moved.setRing hhist

/-- What is left to do: each iteration moves something or waits. -/
def Transfer.variant (t : Transfer σ α) : ℕ := t.buffer.length - t.total + t.timeoutMs

variable (P D) in
/-- What an iteration ends with, when it starts `n` from the end. -/
structure EndsWell (K : List α → Prop) (buffer₀ : List α) (w : PcmWorld σ α) (n : ℕ)
    (r : Iter (Transfer σ α) (Exit σ α)) : Prop where
  next : ∀ t, r = .next t →
    (TransferInv P D K buffer₀ w t ∧ t.total < t.buffer.length) ∧ t.variant < n
  done : ∀ e, r = .done e → Transferred D K buffer₀ w e

theorem endsWell_again {n : ℕ} (h : TransferInv P D K buffer₀ w t) (hv : t.variant < n) :
    EndsWell P D K buffer₀ w n t.again := by
  unfold Transfer.again
  by_cases hlt : t.total < t.buffer.length
  · rw [if_pos hlt]
    refine ⟨fun t' ht => ?_, fun e he => by { cases he }⟩
    obtain rfl := Iter.next.inj ht
    exact ⟨⟨{ h with }, hlt⟩, hv⟩
  · rw [if_neg hlt]
    refine ⟨fun t' ht => by { cases ht }, fun e he => ?_⟩
    obtain rfl := Iter.done.inj he
    exact h.transferred

theorem endsWell_body {schedule : ℕ → Surrounding χ D.Peer} (hpoll : 0 < pollMs)
    (hK : ∀ {total count buffer f buffer' f'},
      D.move total count buffer f = some (buffer', f') → K buffer → K buffer')
    (hi : TransferInv P D K buffer₀ w t) (hlt : t.total < t.buffer.length) :
    EndsWell P D K buffer₀ w t.variant (transferBody P D pollMs schedule t) := by
  have hc : BodyCase P D pollMs t (transferBody P D pollMs schedule t) :=
    transferBody_cases hi.software hlt
  generalize transferBody P D pollMs schedule t = r at hc
  cases hc with
  | stops w' hw =>
    refine ⟨fun t' ht => by { cases ht }, fun e he => ?_⟩
    obtain rfl := Iter.done.inj he
    exact (hi.follows hw t.timeoutMs).transferred
  | waits w' hw ht =>
    apply endsWell_again (hi.follows hw (t.timeoutMs - pollMs))
    show t.buffer.length - t.total + (t.timeoutMs - pollMs) < t.buffer.length - t.total + t.timeoutMs
    omega
  | moves w' hw ring count buffer f hpos hle hm =>
    apply endsWell_again ((hi.follows hw t.timeoutMs).move hK hle hm)
    have hlen := (D.move_spec hle hm).1
    show buffer.length - (t.total + count) + t.timeoutMs < t.buffer.length - t.total + t.timeoutMs
    omega

/-- **The loop returns, and has moved a prefix of the buffer.** -/
theorem transfer_spec (timeoutMs : ℕ) (hpoll : 0 < pollMs)
    (hK : ∀ {total count buffer f buffer' f'},
      D.move total count buffer f = some (buffer', f') → K buffer → K buffer')
    (buffer : Option (List α)) (hB : K (buffer.getD [])) (schedule : ℕ → Surrounding χ D.Peer)
    (hs : P.Software w.session) :
    ∃ r, (∃ m, ∀ fuel, m < fuel → transfer P D timeoutMs pollMs buffer schedule w fuel = some r) ∧
      Transferred D K (buffer.getD []) w r := by
  have hnone : ∀ B : List α, K B → Transferred D K B w (.returned 0 B w) := fun B hK =>
    ⟨0, B, w, rfl, Nat.zero_le _, rfl, rfl, moved_refl, hK⟩
  cases buffer with
  | none => exact ⟨_, ⟨0, fun _ _ => rfl⟩, hnone [] hB⟩
  | some B =>
    by_cases hlen : B.length = 0
    · exact ⟨_, ⟨0, fun _ _ => by simp [transfer, hlen]⟩, hnone B hB⟩
    · have hi : TransferInv P D K B w ⟨0, 0, timeoutMs, B, w⟩ :=
        ⟨hs, Nat.zero_le _, rfl, rfl, moved_refl, hB⟩
      obtain ⟨r, ⟨m, hm⟩, ht⟩ : ∃ r, Returns (transferBody P D pollMs schedule)
          ⟨0, 0, timeoutMs, B, w⟩ r ∧ Transferred D K B w r :=
        loop_rule (I := fun t => TransferInv P D K B w t ∧ t.total < t.buffer.length)
          Transfer.variant (fun hI hb => (endsWell_body hpoll hK hI.1 hI.2).next _ hb)
          (fun hI hb => (endsWell_body hpoll hK hI.1 hI.2).done _ hb) ⟨hi, Nat.pos_of_ne_zero hlen⟩
      exact ⟨r, ⟨m, fun fuel hf => by simpa [transfer, hlen] using hm fuel hf⟩, ht⟩

end

/-! ### The sessions -/

namespace BluetoothAudioSession

variable {κ : Tag → Type} {α : Type}

theorem dataMq_of_ready {s : BluetoothAudioSession κ} (hs : s.sessionType.isSoftware = true)
    (hr : s.isSessionReady = true) : s.dataMq.isSome = true := by
  have hno : needsNoDataMq s.sessionType = false := by
    revert hs
    cases s.sessionType <;> simp [SessionType.isSoftware, needsNoDataMq]
  cases hq : s.dataMq with
  | some mq => rfl
  | none => simp [isSessionReady, hno, hq] at hr

/-- The AIDL session on the data path. -/
def pcm (κ : Tag → Type) : PcmControl (BluetoothAudioSession κ) (Call κ) where
  isSessionReady s := s.isSessionReady
  dataMq s := s.dataMq
  call s c := (s.call c).1
  Software s := s.sessionType.isSoftware = true
  software_call c h := by rwa [sessionType_call]
  dataMq_of_ready := dataMq_of_ready

/-- `OutWritePcmData`. -/
def outWritePcmData (buffer : Option (List α)) (schedule : ℕ → Surrounding (Call κ) ℕ)
    (w : PcmWorld (BluetoothAudioSession κ) α) (fuel : ℕ) :
    Option (Exit (BluetoothAudioSession κ) α) :=
  transfer (pcm κ) (Endpoint.writer α) kFmqSendTimeoutMs kWritePollMs buffer schedule w fuel

/-- `InReadPcmData`. -/
def inReadPcmData (buffer : Option (List α)) (schedule : ℕ → Surrounding (Call κ) (List α))
    (w : PcmWorld (BluetoothAudioSession κ) α) (fuel : ℕ) :
    Option (Exit (BluetoothAudioSession κ) α) :=
  transfer (pcm κ) (Endpoint.reader α) kFmqReceiveTimeoutMs kReadPollMs buffer schedule w fuel

end BluetoothAudioSession

namespace Hidl

variable {κ : Tag → Type} {α : Type}

/-- The HIDL session of a device: its own members, or, with the AIDL service, the AIDL session to which
every method of it forwards. -/
inductive DeviceSession (κ : Tag → Type) where
  | own (s : BluetoothAudioSession)
  | forwarded (sessionType : SessionType) (s : Bluetooth.BluetoothAudioSession κ)
      (h : s.sessionType = fromSessionType sessionType)

namespace DeviceSession

/-- `IsSessionReady`. -/
def isSessionReady : DeviceSession κ → Bool
  | own s => s.isSessionReady
  | forwarded _ s _ => s.isSessionReady

/-- The queue that `OutWritePcmData` and `InReadPcmData` use. -/
def dataMQ : DeviceSession κ → Option DataMQ
  | own s => s.dataMQ
  | forwarded _ s _ => s.dataMq

def sessionType : DeviceSession κ → SessionType
  | own s => s.sessionType
  | forwarded t _ _ => t

/-- A call to the one or to the other session. -/
def call : DeviceSession κ → BluetoothAudioSession.Call ⊕ Bluetooth.BluetoothAudioSession.Call κ →
    DeviceSession κ
  | own s, .inl c => own (s.call c).1
  | forwarded t s h, .inr c => forwarded t (s.call c).1 (by rw [s.sessionType_call, h])
  | s, _ => s

end DeviceSession

theorem sessionType_started (s : BluetoothAudioSession) (configOk : Bool) (iface : Option ℕ)
    (dataMQ : Option DataMQ) : (s.started configOk iface dataMQ).1.sessionType = s.sessionType := by
  unfold BluetoothAudioSession.started BluetoothAudioSession.updateDataPath
  cases dataMQ with
  | none => dsimp only; split_ifs <;> rfl
  | some desc => dsimp only; split_ifs <;> rfl

theorem BluetoothAudioSession.sessionType_call (s : BluetoothAudioSession)
    (c : BluetoothAudioSession.Call) : (s.call c).1.sessionType = s.sessionType := by
  cases c with
  | onSessionStarted iface dataMQ kind => exact sessionType_started s _ iface dataMQ
  | onSessionStarted21 iface dataMQ kind =>
    dsimp only [call, onSessionStarted21]
    split_ifs
    · exact sessionType_started s _ iface dataMQ
    · exact sessionType_started s _ iface dataMQ
  | onSessionEnded => rfl

theorem DeviceSession.sessionType_call (s : DeviceSession κ) (c) :
    (s.call c).sessionType = s.sessionType := by
  cases s with
  | own s =>
    cases c with
    | inl c => exact s.sessionType_call c
    | inr c => rfl
  | forwarded t s h => cases c <;> rfl

theorem isSoftware_fromSessionType {t : SessionType} (h : t.isSoftware = true) :
    (fromSessionType t).isSoftware = true := by
  cases t <;> first | rfl | cases h

theorem DeviceSession.dataMQ_of_ready {s : DeviceSession κ} (hs : s.sessionType.isSoftware = true)
    (hr : s.isSessionReady = true) : s.dataMQ.isSome = true := by
  cases s with
  | own s =>
    have hno : (s.sessionType == .a2dpHardwareOffload) = false := by
      change s.sessionType.isSoftware = true at hs
      revert hs
      cases s.sessionType <;> simp [SessionType.isSoftware]
    change s.isSessionReady = true at hr
    show s.dataMQ.isSome = true
    cases hq : s.dataMQ with
    | some mq => rfl
    | none => simp [BluetoothAudioSession.isSessionReady, hno, hq] at hr
  | forwarded t s h =>
    exact Bluetooth.BluetoothAudioSession.dataMq_of_ready (h ▸ isSoftware_fromSessionType hs) hr

/-- The HIDL session on the data path. -/
def pcm (κ : Tag → Type) : PcmControl (DeviceSession κ)
    (BluetoothAudioSession.Call ⊕ Bluetooth.BluetoothAudioSession.Call κ) where
  isSessionReady s := s.isSessionReady
  dataMq s := s.dataMQ
  call s c := s.call c
  Software s := s.sessionType.isSoftware = true
  software_call {s} c h := by rwa [s.sessionType_call]
  dataMq_of_ready := DeviceSession.dataMQ_of_ready

/-- `OutWritePcmData`. -/
def outWritePcmData (buffer : Option (List α)) (schedule : ℕ → Surrounding
      (BluetoothAudioSession.Call ⊕ Bluetooth.BluetoothAudioSession.Call κ) ℕ)
    (w : PcmWorld (DeviceSession κ) α) (fuel : ℕ) : Option (Exit (DeviceSession κ) α) :=
  transfer (pcm κ) (Endpoint.writer α) kFmqSendTimeoutMs kWritePollMs buffer schedule w fuel

/-- `InReadPcmData`. -/
def inReadPcmData (buffer : Option (List α)) (schedule : ℕ → Surrounding
      (BluetoothAudioSession.Call ⊕ Bluetooth.BluetoothAudioSession.Call κ) (List α))
    (w : PcmWorld (DeviceSession κ) α) (fuel : ℕ) : Option (Exit (DeviceSession κ) α) :=
  transfer (pcm κ) (Endpoint.reader α) kFmqReceiveTimeoutMs kReadPollMs buffer schedule w fuel

end Hidl

/-! ### What the data path does -/

section

variable {σ χ α : Type}

/-- The call returns some `n ≤ bytes`, and exactly the first `n` bytes of the buffer have been written to
the queues, each once and in order. -/
def Enqueued (buffer : Option (List α)) (w : PcmWorld σ α) (run : ℕ → Option (Exit σ α)) : Prop :=
  ∃ n w', (∃ m, ∀ fuel, m < fuel → run fuel = some (.returned n (buffer.getD []) w')) ∧
    n ≤ (buffer.getD []).length ∧ Moved (Endpoint.writer α) w w' ((buffer.getD []).take n)

/-- The call returns some `n ≤ bytes`, and exactly the first `n` bytes of the buffer are what has been
read from the queues, each once and in order; the rest of the buffer is as it was. -/
def Dequeued (buffer : Option (List α)) (w : PcmWorld σ α) (run : ℕ → Option (Exit σ α)) : Prop :=
  ∃ n buffer' w', (∃ m, ∀ fuel, m < fuel → run fuel = some (.returned n buffer' w')) ∧
    n ≤ (buffer.getD []).length ∧ buffer'.length = (buffer.getD []).length ∧
    buffer'.drop n = (buffer.getD []).drop n ∧ Moved (Endpoint.reader α) w w' (buffer'.take n)

theorem enqueued_of_software (P : PcmControl σ χ) {timeoutMs pollMs : ℕ} (hpoll : 0 < pollMs)
    (buffer : Option (List α)) (schedule : ℕ → Surrounding χ ℕ) {w : PcmWorld σ α}
    (hs : P.Software w.session) : Enqueued buffer w
      (transfer P (Endpoint.writer α) timeoutMs pollMs buffer schedule w) := by
  obtain ⟨r, hr, n, buffer', w', rfl, hn, -, -, hm, rfl⟩ := transfer_spec (P := P)
    (D := Endpoint.writer α) (K := fun b => b = buffer.getD []) timeoutMs hpoll
    (fun h hk => (Endpoint.buffer_writer h).trans hk) buffer rfl schedule hs
  exact ⟨n, w', hr, hn, hm⟩

theorem dequeued_of_software (P : PcmControl σ χ) {timeoutMs pollMs : ℕ} (hpoll : 0 < pollMs)
    (buffer : Option (List α)) (schedule : ℕ → Surrounding χ (List α)) {w : PcmWorld σ α}
    (hs : P.Software w.session) : Dequeued buffer w
      (transfer P (Endpoint.reader α) timeoutMs pollMs buffer schedule w) := by
  obtain ⟨r, hr, n, buffer', w', rfl, hn, hlen, hrest, hm, -⟩ := transfer_spec (P := P)
    (D := Endpoint.reader α) (K := fun _ => True) timeoutMs hpoll (fun _ hk => hk) buffer trivial
    schedule hs
  exact ⟨n, buffer', w', hr, hn, hlen, hrest, hm⟩

end

/-- **The data path of a software session loses and repeats nothing**, whatever the peers and the
session's other callers do meanwhile: `OutWritePcmData` enqueues a prefix of the buffer, `InReadPcmData`
fills a prefix of it, and both return its length. -/
theorem pcm_data_moved {κ : Tag → Type} {α : Type} (buffer : Option (List α)) :
    (∀ w : PcmWorld (BluetoothAudioSession κ) α, w.session.sessionType.isSoftware = true →
      (∀ schedule, Enqueued buffer w
        (BluetoothAudioSession.outWritePcmData buffer schedule w)) ∧
      ∀ schedule, Dequeued buffer w
        (BluetoothAudioSession.inReadPcmData buffer schedule w)) ∧
    ∀ w : PcmWorld (Hidl.DeviceSession κ) α, w.session.sessionType.isSoftware = true →
      (∀ schedule, Enqueued buffer w (Hidl.outWritePcmData buffer schedule w)) ∧
      ∀ schedule, Dequeued buffer w (Hidl.inReadPcmData buffer schedule w) := by
  refine ⟨fun w hs => ⟨fun schedule => ?_, fun schedule => ?_⟩,
    fun w hs => ⟨fun schedule => ?_, fun schedule => ?_⟩⟩
  · exact enqueued_of_software (BluetoothAudioSession.pcm κ) (by decide) buffer schedule hs
  · exact dequeued_of_software (BluetoothAudioSession.pcm κ) (by decide) buffer schedule hs
  · exact enqueued_of_software (Hidl.pcm κ) (by decide) buffer schedule hs
  · exact dequeued_of_software (Hidl.pcm κ) (by decide) buffer schedule hs

/-- A started A2DP session with a queue of two places. -/
def smallQueue : PcmWorld (BluetoothAudioSession NoPayload) ℕ where
  session := ((BluetoothAudioSession.create .a2dpSoftwareEncoding).onSessionStarted (some 1)
    (some ⟨0, true⟩) ⟨.pcmConfig, ()⟩ []).1
  rings _ := ⟨2, [], 0, Nat.le_refl _, Nat.zero_le _⟩

/-- The peer takes two bytes before the third iteration; then the session ends. -/
def slowPeer : ℕ → Surrounding (BluetoothAudioSession.Call NoPayload) ℕ
  | 2 => ⟨[.peer 0 2], []⟩
  | 3 => ⟨[.call .onSessionEnded], []⟩
  | _ => ⟨[], []⟩

theorem pcm_data_moved_slowPeer :
    (∃ w, BluetoothAudioSession.outWritePcmData (some [7, 8, 9, 10, 11]) slowPeer smallQueue 9 =
      some (.returned 4 [7, 8, 9, 10, 11] w)) ∧
    Enqueued (some [7, 8, 9, 10, 11]) smallQueue
      (BluetoothAudioSession.outWritePcmData (some [7, 8, 9, 10, 11]) slowPeer smallQueue) :=
  ⟨⟨_, rfl⟩, ((pcm_data_moved (some [7, 8, 9, 10, 11])).1 smallQueue rfl).1 slowPeer⟩

end TrebleDoze.Bluetooth
