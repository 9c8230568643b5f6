import TrebleDoze.Bluetooth.DataPath
import TrebleDoze.Lib.Lts
import TrebleDoze.Lib.Threads

/-!
# Concurrent calls on the data path

`OutWritePcmData` and `InReadPcmData` hold the session's mutex for one iteration at a time, so any number
of threads may be inside of them on one session, each at an iteration of its own: their chunks come to the
queue in the order in which they get the mutex, while the session may end and be restarted and the peer
moves data at any time.

* `PcmCalls.lts`: the calls, one iteration a step;
* `CallsInv`, `callsInv_run`: what has been moved, queue by queue and call by call;
* `concurrent_pcm_calls`: the calls of all threads together lose and repeat nothing, and none of them goes
  on for ever.
-/

namespace TrebleDoze.Bluetooth

open TrebleDoze.Lib

/-- The locals of a call. -/
structure PcmCall (α : Type) where
  total : ℕ
  timeoutMs : ℕ
  buffer : List α

/-- The session and its queues, the calls that are under way, and how many have begun. -/
structure PcmCalls (σ α : Type) where
  world : PcmWorld σ α
  calls : Threads (PcmCall α)
  begun : ℕ

namespace PcmCalls

/-- What the calls do. -/
inductive Event (α : Type) where
  /-- Call `i` begins, for a buffer. -/
  | begun (i : ℕ) (buffer : List α)
  /-- An iteration of call `i`. -/
  | iterated (i : ℕ)
  /-- It has moved a chunk to or from a queue. -/
  | moved (i ring : ℕ) (chunk : List α)
  /-- It returns a number of bytes, with the buffer as it is then. -/
  | returned (i total : ℕ) (buffer : List α)
  /-- The queue pointer was null. -/
  | crashed (i : ℕ)
  deriving DecidableEq, Repr

/-- The steps: a call begins, call `i` gets the mutex for an iteration, in the midst of which the peers
move, and others call the session or move data between the iterations. -/
inductive Act (χ ω α : Type) where
  | begin (buffer : Option (List α))
  | iterate (i : ℕ) (between : List (ℕ × ω))
  | call (c : χ)
  | peer (ring : ℕ) (a : ω)

section

variable {σ χ α : Type} (P : PcmControl σ χ) (D : Endpoint α) (timeoutMs pollMs : ℕ)

/-- A call begins; without a buffer, or with an empty one, it returns at once. -/
def begin (buffer : Option (List α)) (s : PcmCalls σ α) : PcmCalls σ α × List (Event α) :=
  let s' := { s with begun := s.begun + 1 }
  match buffer with
  | none => (s', [.begun s.begun [], .returned s.begun 0 []])
  | some buffer =>
    if buffer.length = 0 then (s', [.begun s.begun buffer, .returned s.begun 0 buffer])
    else
      ({ s' with calls := s.calls.put s.begun ⟨0, timeoutMs, buffer⟩ }, [.begun s.begun buffer])

/-- The chunk that an iteration has moved, if it has moved one. -/
def movedEvent (i : ℕ) (mq : Option DataMQ) (before total : ℕ) (buffer : List α) : List (Event α) :=
  match mq with
  | none => []
  | some mq => if before = total then [] else [.moved i mq.ring ((buffer.take total).drop before)]

/-- An iteration of a call. -/
def iterate (i : ℕ) (c : PcmCall α) (between : List (ℕ × D.Peer)) (s : PcmCalls σ α) :
    PcmCalls σ α × List (Event α) :=
  let mq := P.dataMq s.world.session
  match transferBody P D pollMs (fun _ => ⟨[], between⟩) ⟨0, c.total, c.timeoutMs, c.buffer, s.world⟩ with
  | .next t =>
    ({ s with world := t.world, calls := s.calls.put i ⟨t.total, t.timeoutMs, t.buffer⟩ },
      .iterated i :: movedEvent i mq c.total t.total t.buffer)
  | .done (.returned total buffer w) =>
    ({ s with world := w, calls := s.calls.drop i },
      .iterated i :: movedEvent i mq c.total total buffer ++ [.returned i total buffer])
  | .done .nullDereference => ({ s with calls := s.calls.drop i }, [.iterated i, .crashed i])

/-- One step. -/
def step (s : PcmCalls σ α) : Act χ D.Peer α → Option (PcmCalls σ α × List (Event α))
  | .begin buffer => some (s.begin timeoutMs buffer)
  | .iterate i between => (s.calls.find i).map fun c => s.iterate P D pollMs i c between
  | .call c => some ({ s with world := s.world.interfere P D (.call c) }, [])
  | .peer ring a => some ({ s with world := s.world.interfere P D (.peer ring a) }, [])

/-- **The calls on a session**, from a state of it and its queues on. -/
def lts (w : PcmWorld σ α) : Lts (PcmCalls σ α) (Act χ D.Peer α) (Event α) where
  init := ⟨w, [], 0⟩
  step := step P D timeoutMs pollMs

end

/-! ### What has been moved -/

section

variable {α : Type}

/-- The chunk of an event, if it is of a queue. -/
def Event.chunkAt (ring : ℕ) : Event α → List α
  | moved _ r chunk => if r = ring then chunk else []
  | _ => []

/-- The chunk of an event, if it is of a call. -/
def Event.chunkBy (i : ℕ) : Event α → List α
  | moved j _ chunk => if j = i then chunk else []
  | _ => []

/-- The event is an iteration of a call. -/
def Event.isIteration (i : ℕ) : Event α → Bool
  | iterated j => j = i
  | _ => false

/-- What has been moved to or from a queue. -/
def chunksAt (ring : ℕ) (tr : List (Event α)) : List α := tr.flatMap (Event.chunkAt ring)

/-- What a call has moved. -/
def chunksBy (i : ℕ) (tr : List (Event α)) : List α := tr.flatMap (Event.chunkBy i)

/-- The iterations of a call. -/
def iterations (i : ℕ) (tr : List (Event α)) : ℕ := tr.countP (Event.isIteration i)

variable {tr os : List (Event α)} {i j ring : ℕ}

@[simp] theorem chunksAt_append : chunksAt ring (tr ++ os) = chunksAt ring tr ++ chunksAt ring os :=
  List.flatMap_append

@[simp] theorem chunksBy_append : chunksBy i (tr ++ os) = chunksBy i tr ++ chunksBy i os :=
  List.flatMap_append

@[simp] theorem iterations_append : iterations i (tr ++ os) = iterations i tr + iterations i os :=
  List.countP_append

end

/-! ### One iteration -/

section

variable {σ χ α : Type} {P : PcmControl σ χ} {D : Endpoint α} {timeoutMs pollMs i : ℕ}
  {s s' : PcmCalls σ α} {c : PcmCall α} {os : List (Event α)}

variable (P D pollMs) in
/-- The ways an iteration of a call can go. -/
inductive Iteration (s : PcmCalls σ α) (i : ℕ) (c : PcmCall α) : PcmCalls σ α → List (Event α) → Prop
  | stops (w : PcmWorld σ α) (hw : Follows P D s.world w) :
      Iteration s i c { s with world := w, calls := s.calls.drop i }
        [.iterated i, .returned i c.total c.buffer]
  | waits (w : PcmWorld σ α) (hw : Follows P D s.world w) (ht : pollMs ≤ c.timeoutMs) :
      Iteration s i c
        { s with world := w, calls := s.calls.put i ⟨c.total, c.timeoutMs - pollMs, c.buffer⟩ }
        [.iterated i]
  | moves (w : PcmWorld σ α) (hw : Follows P D s.world w) (ring count : ℕ) (buffer : List α)
      (f : Fifo α) (hpos : 0 < count) (hle : c.total + count < c.buffer.length)
      (hm : D.move c.total count c.buffer (w.rings ring) = some (buffer, f)) :
      Iteration s i c
        { s with world := w.setRing ring f
                 calls := s.calls.put i ⟨c.total + count, c.timeoutMs, buffer⟩ }
        [.iterated i, .moved i ring ((buffer.take (c.total + count)).drop c.total)]
  | completes (w : PcmWorld σ α) (hw : Follows P D s.world w) (ring count : ℕ) (buffer : List α)
      (f : Fifo α) (hpos : 0 < count) (hle : c.total + count = c.buffer.length)
      (hm : D.move c.total count c.buffer (w.rings ring) = some (buffer, f)) :
      Iteration s i c { s with world := w.setRing ring f, calls := s.calls.drop i }
        [.iterated i, .moved i ring ((buffer.take (c.total + count)).drop c.total),
          .returned i (c.total + count) buffer]

theorem iteration_of_iterate (hs : P.Software s.world.session) (hlt : c.total < c.buffer.length)
    (between : List (ℕ × D.Peer)) :
    Iteration P D pollMs s i c (s.iterate P D pollMs i c between).1
      (s.iterate P D pollMs i c between).2 := by
  unfold iterate transferBody
  have hw : Follows P D s.world (between.foldl (PcmWorld.interfereRings D) s.world) :=
    follows_foldl follows_interfereRings between s.world
  dsimp only [List.foldl_nil]
  cases hr : P.isSessionReady s.world.session with
  | false =>
    have he : ∀ mq, movedEvent i mq c.total c.total c.buffer = [] := by
      intro mq
      cases mq with
      | none => rfl
      | some mq => exact if_pos rfl
    simp only [Bool.not_false, if_true, he]
    exact .stops s.world ⟨id, fun _ => rfl⟩
  | true =>
    obtain ⟨mq, hmq⟩ := Option.isSome_iff_exists.1 (P.dataMq_of_ready hs hr)
    generalize between.foldl (PcmWorld.interfereRings D) s.world = w at hw
    have hsame : movedEvent i (some mq) c.total c.total c.buffer = [] := if_pos rfl
    rw [Bool.not_true, if_neg Bool.false_ne_true, hmq]
    dsimp only
    by_cases ha : D.available (s.world.rings mq.ring) ≠ 0
    · rw [if_pos ha]
      set count := if D.available (s.world.rings mq.ring) > c.buffer.length - c.total then
        c.buffer.length - c.total else D.available (s.world.rings mq.ring) with hcount
      have hpos : 0 < count := by
        rw [hcount]
        split_ifs <;> omega
      have hle : c.total + count ≤ c.buffer.length := by
        rw [hcount]
        split_ifs <;> omega
      cases hm : D.move c.total count c.buffer (w.rings mq.ring) with
      | none =>
        dsimp only
        rw [hsame]
        exact .stops w hw
      | some r =>
        obtain ⟨buffer, f⟩ := r
        have hlen : buffer.length = c.buffer.length := (D.move_spec hle hm).1
        have hev : movedEvent i (some mq) c.total (c.total + count) buffer =
            [.moved i mq.ring ((buffer.take (c.total + count)).drop c.total)] :=
          if_neg (by omega)
        unfold Transfer.again
        dsimp only
        by_cases hfull : c.total + count < buffer.length
        · rw [if_pos hfull]
          dsimp only
          rw [hev]
          exact .moves w hw mq.ring count buffer f hpos (hlen ▸ hfull) hm
        · rw [if_neg hfull]
          dsimp only
          rw [hev]
          exact .completes w hw mq.ring count buffer f hpos (by omega) hm
    · rw [if_neg ha]
      by_cases ht : c.timeoutMs ≥ pollMs
      · rw [if_pos ht]
        unfold Transfer.again
        dsimp only
        rw [if_pos hlt]
        dsimp only
        rw [hsame]
        exact .waits w hw ht
      · rw [if_neg ht]
        dsimp only
        rw [hsame]
        exact .stops w hw

/-! ### Call by call -/

variable (K : List α → List α → Prop)

/-- Call `i`, which began with a buffer, has moved the first `total` places of the buffer as it is now; the
rest is as it was, and `K` is kept by every move. -/
structure Progress (tr : List (Event α)) (i total : ℕ) (buffer b : List α) : Prop where
  begun : .begun i b ∈ tr
  keeps : K b buffer
  length : buffer.length = b.length
  rest : buffer.drop total = b.drop total
  chunks : chunksBy i tr = buffer.take total
  total_le : total ≤ b.length

variable {K} {tr : List (Event α)} {total : ℕ} {buffer b : List α}

theorem Progress.append (h : Progress K tr i total buffer b) (hos : chunksBy i os = []) :
    Progress K (tr ++ os) i total buffer b :=
  ⟨List.mem_append_left _ h.begun, h.keeps, h.length, h.rest, by rw [chunksBy_append, hos, List.append_nil,
    h.chunks], h.total_le⟩

theorem Progress.move (h : Progress K tr i total buffer b) {count : ℕ} {buffer' : List α} {f f' : Fifo α}
    (hK : ∀ {total count b buffer f buffer' f'},
      D.move total count buffer f = some (buffer', f') → K b buffer → K b buffer')
    (hle : total + count ≤ buffer.length) (hm : D.move total count buffer f = some (buffer', f'))
    (hos : chunksBy i os = (buffer'.take (total + count)).drop total) :
    Progress K (tr ++ os) i (total + count) buffer' b ∧
      D.history f' = D.history f ++ (buffer'.take (total + count)).drop total := by
  obtain ⟨hlen, hrest, chunk, htake, hhist⟩ := D.move_spec hle hm
  have hlt : (buffer.take total).length = total := by
    rw [List.length_take]
    omega
  have hchunk : (buffer'.take (total + count)).drop total = chunk := by
    rw [htake, List.drop_append_of_le_length (by omega), List.drop_eq_nil_of_le (by omega),
      List.nil_append]
  have hl := h.length
  refine ⟨⟨List.mem_append_left _ h.begun, hK hm h.keeps, hlen.trans hl, ?_, ?_, by omega⟩, ?_⟩
  · calc buffer'.drop (total + count) = buffer.drop (total + count) := hrest
      _ = (buffer.drop total).drop count := List.drop_drop.symm
      _ = (b.drop total).drop count := by rw [h.rest]
      _ = b.drop (total + count) := List.drop_drop
  · rw [chunksBy_append, hos, hchunk, h.chunks, htake]
  · rw [hchunk, hhist]

variable (P D timeoutMs K) in
/-- The queues hold what the calls have moved. Each call has begun once; it is under way, with a bound on
the iterations it has left, or it has returned. -/
structure CallsInv (w : PcmWorld σ α) (tr : List (Event α)) (s : PcmCalls σ α) : Prop where
  software : P.Software s.world.session
  nodup : (s.calls.map Prod.fst).Nodup
  history : ∀ ring, D.history (s.world.rings ring) = D.history (w.rings ring) ++ chunksAt ring tr
  known : ∀ {i b}, .begun i b ∈ tr → i < s.begun
  once : ∀ {i b b'}, .begun i b ∈ tr → .begun i b' ∈ tr → b = b'
  fresh : ∀ {i}, s.begun ≤ i → chunksBy i tr = [] ∧ iterations i tr = 0
  underWay : ∀ {i c}, s.calls.find i = some c → c.total < c.buffer.length ∧
    ∃ b, Progress K tr i c.total c.buffer b ∧
      iterations i tr + (b.length - c.total) + c.timeoutMs ≤ b.length + timeoutMs
  returned : ∀ {i n b'}, .returned i n b' ∈ tr → s.calls.find i = none ∧
    ∃ b, Progress K tr i n b' b ∧ iterations i tr ≤ b.length + timeoutMs
  status : ∀ {i b}, .begun i b ∈ tr → (∃ c, s.calls.find i = some c) ∨ ∃ n b', .returned i n b' ∈ tr
  safe : ∀ i, .crashed i ∉ tr

/-- The events of one iteration of a call. -/
structure OwnEvents (i : ℕ) (os : List (Event α)) : Prop where
  others : ∀ j, j ≠ i → chunksBy j os = [] ∧ iterations j os = 0
  one : iterations i os = 1
  begun : ∀ j b, .begun j b ∉ os
  crashed : ∀ j, .crashed j ∉ os

theorem ownEvents_waits : OwnEvents i ([.iterated i] : List (Event α)) :=
  ⟨fun j hj => by simp [chunksBy, iterations, Event.chunkBy, Event.isIteration, Ne.symm hj],
    by simp [iterations, Event.isIteration], by simp, by simp⟩

theorem ownEvents_moves (ring : ℕ) (chunk : List α) :
    OwnEvents i [.iterated i, .moved i ring chunk] :=
  ⟨fun j hj => by simp [chunksBy, iterations, Event.chunkBy, Event.isIteration, Ne.symm hj],
    by simp [iterations, Event.isIteration], by simp, by simp⟩

theorem OwnEvents.returned (h : OwnEvents i os) (n : ℕ) (b' : List α) :
    OwnEvents i (os ++ [.returned i n b']) := by
  refine ⟨fun j hj => ?_, ?_, fun j b hm => ?_, fun j hm => ?_⟩
  · rw [chunksBy_append, iterations_append, (h.others j hj).1, (h.others j hj).2]
    exact ⟨rfl, rfl⟩
  · rw [iterations_append, h.one]
    rfl
  · exact (List.mem_append.1 hm).elim (h.begun j b) (by simp)
  · exact (List.mem_append.1 hm).elim (h.crashed j) (by simp)

variable {w w' : PcmWorld σ α}

theorem CallsInv.follows (h : CallsInv P D timeoutMs K w tr s) (hw : Follows P D s.world w') :
    CallsInv P D timeoutMs K w tr { s with world := w' } :=
  ⟨hw.software h.software, h.nodup, fun ring => (hw.history ring).trans (h.history ring), h.known, h.once,
    h.fresh, h.underWay, h.returned, h.status, h.safe⟩

theorem CallsInv.goesOn (h : CallsInv P D timeoutMs K w tr s) (hf : s.calls.find i = some c) {c' : PcmCall α}
    (ho : OwnEvents i os) (hr : ∀ j n b', .returned j n b' ∉ os) (hs : P.Software w'.session)
    (hhist : ∀ ring, D.history (w'.rings ring) = D.history (s.world.rings ring) ++ chunksAt ring os)
    (hc : c'.total < c'.buffer.length)
    (hp : ∀ b, Progress K tr i c.total c.buffer b → Progress K (tr ++ os) i c'.total c'.buffer b ∧
      b.length - c'.total + c'.timeoutMs < b.length - c.total + c.timeoutMs) :
    CallsInv P D timeoutMs K w (tr ++ os) { s with world := w', calls := s.calls.put i c' } := by
  obtain ⟨-, b, hb, hbound⟩ := h.underWay hf
  obtain ⟨hb', hless⟩ := hp b hb
  have hi := h.known hb.begun
  have hold : ∀ {j b}, .begun j b ∈ tr ++ os → .begun j b ∈ tr := fun hm =>
    (List.mem_append.1 hm).resolve_right (ho.begun _ _)
  have hret : ∀ {j n b'}, .returned j n b' ∈ tr ++ os → .returned j n b' ∈ tr := fun hm =>
    (List.mem_append.1 hm).resolve_right (hr _ _ _)
  refine ⟨hs, Threads.nodup_put h.nodup, fun ring => ?_, fun hm => h.known (hold hm),
    fun hm hm' => h.once (hold hm) (hold hm'), fun {j} hj => ?_, fun {j d} hj => ?_,
    fun {j n b'} hm => ?_, fun {j b} hm => ?_, fun j hm => ?_⟩
  · rw [hhist, h.history, chunksAt_append, List.append_assoc]
  · obtain ⟨h1, h2⟩ := h.fresh hj
    obtain ⟨h3, h4⟩ := ho.others j (by dsimp only at hj; omega)
    rw [chunksBy_append, iterations_append, h1, h2, h3, h4]
    exact ⟨rfl, rfl⟩
  · change (s.calls.put i c').find j = some d at hj
    rw [Threads.find_put] at hj
    split_ifs at hj with he
    · subst he
      obtain rfl := Option.some.inj hj
      refine ⟨hc, b, hb', ?_⟩
      rw [iterations_append, ho.one]
      omega
    · obtain ⟨hlt, b', hb'', hbound'⟩ := h.underWay hj
      refine ⟨hlt, b', hb''.append (ho.others j he).1, ?_⟩
      rwa [iterations_append, (ho.others j he).2, Nat.add_zero]
  · obtain ⟨hn, b, hpr, hit⟩ := h.returned (hret hm)
    have hne : j ≠ i := by
      rintro rfl
      rw [hf] at hn
      cases hn
    refine ⟨?_, b, hpr.append (ho.others j hne).1, ?_⟩
    · dsimp only
      rw [Threads.find_put, if_neg hne, hn]
    · rwa [iterations_append, (ho.others j hne).2, Nat.add_zero]
  · dsimp only
    by_cases he : j = i
    · exact .inl ⟨c', by rw [Threads.find_put, if_pos he]⟩
    · refine (h.status (hold hm)).imp (fun ⟨d, hd⟩ => ⟨d, ?_⟩) fun ⟨n, b', hn⟩ =>
        ⟨n, b', List.mem_append_left _ hn⟩
      rw [Threads.find_put, if_neg he, hd]
  · exact (List.mem_append.1 hm).elim (h.safe j) (ho.crashed j)

theorem CallsInv.ends (h : CallsInv P D timeoutMs K w tr s) (hf : s.calls.find i = some c) {n : ℕ}
    {buffer : List α} (ho : OwnEvents i os) (hr : ∀ j n b', .returned j n b' ∉ os)
    (hs : P.Software w'.session)
    (hhist : ∀ ring, D.history (w'.rings ring) = D.history (s.world.rings ring) ++ chunksAt ring os)
    (hp : ∀ b, Progress K tr i c.total c.buffer b → Progress K (tr ++ os) i n buffer b) :
    CallsInv P D timeoutMs K w (tr ++ (os ++ [.returned i n buffer]))
      { s with world := w', calls := s.calls.drop i } := by
  obtain ⟨hlt, b, hb, hbound⟩ := h.underWay hf
  have hb' := hp b hb
  have hlen := hb.length
  have hi := h.known hb.begun
  have ho' := ho.returned n buffer
  have hold : ∀ {j b}, .begun j b ∈ tr ++ (os ++ [.returned i n buffer]) → .begun j b ∈ tr := fun hm =>
    (List.mem_append.1 hm).resolve_right (ho'.begun _ _)
  have hnone : (s.calls.drop i).find i = none := Threads.find_drop_self h.nodup
  refine ⟨hs, Threads.nodup_drop h.nodup, fun ring => ?_, fun hm => h.known (hold hm),
    fun hm hm' => h.once (hold hm) (hold hm'), fun {j} hj => ?_, fun {j d} hj => ?_,
    fun {j m b'} hm => ?_, fun {j b} hm => ?_, fun j hm => ?_⟩
  · have hlast : chunksAt ring [Event.returned i n buffer] = [] := rfl
    rw [hhist, h.history, chunksAt_append, chunksAt_append, hlast, List.append_nil, List.append_assoc]
  · obtain ⟨h1, h2⟩ := h.fresh hj
    obtain ⟨h3, h4⟩ := ho'.others j (by dsimp only at hj; omega)
    rw [chunksBy_append, iterations_append, h1, h2, h3, h4]
    exact ⟨rfl, rfl⟩
  · change (s.calls.drop i).find j = some d at hj
    rw [Threads.find_drop h.nodup] at hj
    split_ifs at hj with he
    obtain ⟨hlt', b', hb'', hbound'⟩ := h.underWay hj
    refine ⟨hlt', b', hb''.append (ho'.others j he).1, ?_⟩
    rwa [iterations_append, (ho'.others j he).2, Nat.add_zero]
  · dsimp only
    rcases List.mem_append.1 hm with hm | hm
    · obtain ⟨hn, b, hpr, hit⟩ := h.returned hm
      have hne : j ≠ i := by
        rintro rfl
        rw [hf] at hn
        cases hn
      refine ⟨by rw [Threads.find_drop_of_ne hne, hn], b, hpr.append (ho'.others j hne).1, ?_⟩
      rwa [iterations_append, (ho'.others j hne).2, Nat.add_zero]
    · obtain ⟨rfl, rfl, rfl⟩ : j = i ∧ m = n ∧ b' = buffer := by
        simpa using (List.mem_append.1 hm).resolve_left (hr j m b')
      refine ⟨hnone, b, ?_, ?_⟩
      · rw [← List.append_assoc]
        exact hb'.append rfl
      · rw [iterations_append, ho'.one]
        omega
  · dsimp only
    by_cases he : j = i
    · exact .inr ⟨n, buffer, by simp [he]⟩
    · refine (h.status (hold hm)).imp (fun ⟨d, hd⟩ => ⟨d, ?_⟩) fun ⟨n, b', hn⟩ =>
        ⟨n, b', List.mem_append_left _ hn⟩
      rw [Threads.find_drop_of_ne he, hd]
  · exact (List.mem_append.1 hm).elim (h.safe j) (ho'.crashed j)

theorem CallsInv.newCall (h : CallsInv P D timeoutMs K w tr s) (hK : ∀ b, K b b) (b : List α)
    {calls : Threads (PcmCall α)} {rest : List (Event α)} (hn : (calls.map Prod.fst).Nodup)
    (hother : ∀ j, j ≠ s.begun → calls.find j = s.calls.find j)
    (hcase : 0 < b.length ∧ calls.find s.begun = some ⟨0, timeoutMs, b⟩ ∧ rest = [] ∨
      calls.find s.begun = none ∧ rest = [.returned s.begun 0 b]) :
    CallsInv P D timeoutMs K w (tr ++ .begun s.begun b :: rest)
      { s with calls := calls, begun := s.begun + 1 } := by
  obtain ⟨hchunks, hits⟩ := h.fresh (Nat.le_refl s.begun)
  have hrest : ∀ {e}, e ∈ rest → e = .returned s.begun 0 b := by
    intro e he
    rcases hcase with ⟨-, -, rfl⟩ | ⟨-, rfl⟩
    · cases he
    · exact List.mem_singleton.1 he
  have hquiet : (∀ ring, chunksAt ring (.begun s.begun b :: rest) = []) ∧
      (∀ j, chunksBy j (.begun s.begun b :: rest) = []) ∧
      ∀ j, iterations j (.begun s.begun b :: rest) = 0 := by
    rcases hcase with ⟨-, -, rfl⟩ | ⟨-, rfl⟩
    · exact ⟨fun _ => rfl, fun _ => rfl, fun _ => rfl⟩
    · exact ⟨fun _ => rfl, fun _ => rfl, fun _ => rfl⟩
  have hbegun : ∀ {j d}, .begun j d ∈ tr ++ .begun s.begun b :: rest →
      .begun j d ∈ tr ∨ j = s.begun ∧ d = b := by
    intro j d hm
    rcases List.mem_append.1 hm with hm | hm
    · exact .inl hm
    · rcases List.mem_cons.1 hm with he | hm
      · exact .inr ⟨(Event.begun.inj he).1, (Event.begun.inj he).2⟩
      · cases hrest hm
  have hnew : Progress K (tr ++ .begun s.begun b :: rest) s.begun 0 b b :=
    ⟨by simp, hK b, rfl, rfl, by rw [chunksBy_append, hchunks, hquiet.2.1]; rfl, Nat.zero_le _⟩
  have hzero : iterations s.begun (tr ++ .begun s.begun b :: rest) = 0 := by
    rw [iterations_append, hits, hquiet.2.2]
  refine ⟨h.software, hn, fun ring => ?_, fun {j d} hm => ?_, fun {j d d'} hm hm' => ?_, fun {j} hj => ?_,
    fun {j c} hj => ?_, fun {j m d} hm => ?_, fun {j d} hm => ?_, fun j hm => ?_⟩
  · rw [chunksAt_append, hquiet.1, List.append_nil]
    exact h.history ring
  · rcases hbegun hm with hm | ⟨rfl, -⟩
    · exact Nat.lt_succ_of_lt (h.known hm)
    · exact Nat.lt_succ_self _
  · rcases hbegun hm with ho | ⟨rfl, rfl⟩ <;> rcases hbegun hm' with ho' | ⟨he, rfl⟩
    · exact h.once ho ho'
    · exact absurd (he ▸ h.known ho) (Nat.lt_irrefl _)
    · exact absurd (h.known ho') (Nat.lt_irrefl _)
    · rfl
  · obtain ⟨h1, h2⟩ := h.fresh (Nat.le_of_succ_le hj)
    rw [chunksBy_append, iterations_append, h1, h2, hquiet.2.1, hquiet.2.2]
    exact ⟨rfl, rfl⟩
  · change calls.find j = some c at hj
    by_cases he : j = s.begun
    · subst he
      rcases hcase with ⟨hpos, hput, -⟩ | ⟨hnone, -⟩
      · obtain rfl := Option.some.inj (hput.symm.trans hj)
        refine ⟨hpos, b, hnew, ?_⟩
        dsimp only
        omega
      · rw [hnone] at hj
        cases hj
    · rw [hother j he] at hj
      obtain ⟨hlt, b', hb', hbound⟩ := h.underWay hj
      refine ⟨hlt, b', hb'.append (hquiet.2.1 j), ?_⟩
      rwa [iterations_append, hquiet.2.2, Nat.add_zero]
  · rcases List.mem_append.1 hm with hm | hm
    · obtain ⟨hnone, b', hb', hbound⟩ := h.returned hm
      have hne : j ≠ s.begun := fun he => absurd (he ▸ h.known hb'.begun) (Nat.lt_irrefl _)
      refine ⟨(hother j hne).trans hnone, b', hb'.append (hquiet.2.1 j), ?_⟩
      rwa [iterations_append, hquiet.2.2, Nat.add_zero]
    · have hr := (List.mem_cons.1 hm).resolve_left (by simp)
      obtain ⟨rfl, rfl, rfl⟩ : j = s.begun ∧ m = 0 ∧ d = b := by simpa using hrest hr
      rcases hcase with ⟨-, -, rfl⟩ | ⟨hnone, -⟩
      · exact absurd hr List.not_mem_nil
      · exact ⟨hnone, d, hnew, by omega⟩
  · rcases hbegun hm with hm | ⟨rfl, rfl⟩
    · refine (h.status hm).imp (fun hc => ?_) fun ⟨m, b', hr⟩ => ⟨m, b', List.mem_append_left _ hr⟩
      obtain ⟨c, hc⟩ := hc
      exact ⟨c, (hother j (fun he => absurd (he ▸ h.known hm) (Nat.lt_irrefl _))).trans hc⟩
    · rcases hcase with ⟨-, hput, -⟩ | ⟨-, rfl⟩
      · exact .inl ⟨_, hput⟩
      · exact .inr ⟨0, d, by simp⟩
  · rcases List.mem_append.1 hm with hm | hm
    · exact h.safe j hm
    · exact absurd (hrest ((List.mem_cons.1 hm).resolve_left (by simp))) (by simp)

theorem CallsInv.begin (h : CallsInv P D timeoutMs K w tr s) (hK : ∀ b, K b b)
    (buffer : Option (List α)) :
    CallsInv P D timeoutMs K w (tr ++ (s.begin timeoutMs buffer).2) (s.begin timeoutMs buffer).1 := by
  have hnone : s.calls.find s.begun = none := by
    cases hf : s.calls.find s.begun with
    | none => rfl
    | some c =>
      obtain ⟨-, b, hb, -⟩ := h.underWay hf
      exact absurd (h.known hb.begun) (Nat.lt_irrefl _)
  have hempty : ∀ b : List α, CallsInv P D timeoutMs K w
      (tr ++ [.begun s.begun b, .returned s.begun 0 b]) { s with begun := s.begun + 1 } := fun b =>
    h.newCall hK b h.nodup (fun _ _ => rfl) (.inr ⟨hnone, rfl⟩)
  cases buffer with
  | none => exact hempty []
  | some b =>
    unfold PcmCalls.begin
    dsimp only
    by_cases hlen : b.length = 0
    · rw [if_pos hlen]
      exact hempty b
    · rw [if_neg hlen]
      refine h.newCall hK b (Threads.nodup_put h.nodup) (fun j hj => ?_)
        (.inl ⟨Nat.pos_of_ne_zero hlen, ?_, rfl⟩)
      · rw [Threads.find_put, if_neg hj]
      · rw [Threads.find_put, if_pos rfl]

theorem history_setRing (hw : Follows P D s.world w') {ring : ℕ} {f : Fifo α} {chunk : List α}
    (hf : D.history f = D.history (w'.rings ring) ++ chunk) (r : ℕ) :
    D.history ((w'.setRing ring f).rings r) = D.history (s.world.rings r) ++
      chunksAt r [.iterated i, .moved i ring chunk] := by
  have hc : chunksAt r [.iterated i, .moved i ring chunk] = if ring = r then chunk else [] := by
    simp [chunksAt, Event.chunkAt]
  rw [hc, ← hw.history]
  by_cases hr : r = ring
  · subst hr
    simp [PcmWorld.setRing, hf]
  · simp [PcmWorld.setRing, hr, Ne.symm hr]

theorem callsInv_step (hK : ∀ b, K b b)
    (hmove : ∀ {total count b buffer f buffer' f'},
      D.move total count buffer f = some (buffer', f') → K b buffer → K b buffer')
    (hpoll : 0 < pollMs) {a : Act χ D.Peer α} (h : CallsInv P D timeoutMs K w tr s)
    (hs : step P D timeoutMs pollMs s a = some (s', os)) : CallsInv P D timeoutMs K w (tr ++ os) s' := by
  cases a with
  | begin buffer =>
    obtain ⟨rfl, rfl⟩ := Prod.mk.inj (Option.some.inj hs)
    exact h.begin hK buffer
  | call c =>
    obtain ⟨rfl, rfl⟩ := Prod.mk.inj (Option.some.inj hs)
    rw [List.append_nil]
    exact h.follows (follows_interfere _ _)
  | peer ring a =>
    obtain ⟨rfl, rfl⟩ := Prod.mk.inj (Option.some.inj hs)
    rw [List.append_nil]
    exact h.follows (follows_interfere _ _)
  | iterate i between =>
    obtain ⟨c, hf, he⟩ := Option.map_eq_some_iff.1 hs
    have hit : Iteration P D pollMs s i c (s.iterate P D pollMs i c between).1
        (s.iterate P D pollMs i c between).2 :=
      iteration_of_iterate h.software (h.underWay hf).1 between
    rw [he] at hit
    cases hit with
    | stops w' hw =>
      have hends : CallsInv P D timeoutMs K w (tr ++ ([.iterated i] ++ [.returned i c.total c.buffer]))
          { s with world := w', calls := s.calls.drop i } :=
        h.ends hf ownEvents_waits (by simp) (hw.software h.software)
          (fun ring => (hw.history ring).trans (List.append_nil _).symm) fun b hb => hb.append rfl
      exact hends
    | waits w' hw ht =>
      refine h.goesOn hf ownEvents_waits (by simp) (hw.software h.software)
        (fun ring => (hw.history ring).trans (List.append_nil _).symm) (h.underWay hf).1
        fun b hb => ⟨hb.append rfl, ?_⟩
      dsimp only
      omega
    | moves w' hw ring count buffer f hpos hle hm =>
      obtain ⟨-, b, hb, -⟩ := h.underWay hf
      have hcb : chunksBy i [.iterated i, .moved i ring ((buffer.take (c.total + count)).drop c.total)] =
          (buffer.take (c.total + count)).drop c.total := by
        simp [chunksBy, Event.chunkBy]
      have hlen := (D.move_spec (by omega) hm).1
      refine h.goesOn hf (ownEvents_moves ring _) (by simp) (hw.software h.software)
        (history_setRing hw (hb.move hmove (by omega) hm hcb).2) (hlen ▸ hle) fun b' hb' =>
          ⟨(hb'.move hmove (by omega) hm hcb).1, ?_⟩
      have := hb'.length
      dsimp only
      omega
    | completes w' hw ring count buffer f hpos hle hm =>
      obtain ⟨-, b, hb, -⟩ := h.underWay hf
      have hcb : chunksBy i [.iterated i, .moved i ring ((buffer.take (c.total + count)).drop c.total)] =
          (buffer.take (c.total + count)).drop c.total := by
        simp [chunksBy, Event.chunkBy]
      exact h.ends hf (ownEvents_moves ring _) (by simp) (hw.software h.software)
        (history_setRing hw (hb.move hmove (by omega) hm hcb).2) fun b' hb' =>
          (hb'.move hmove (by omega) hm hcb).1

theorem callsInv_run (hK : ∀ b, K b b)
    (hmove : ∀ {total count b buffer f buffer' f'},
      D.move total count buffer f = some (buffer', f') → K b buffer → K b buffer')
    (hpoll : 0 < pollMs) (hw : P.Software w.session) (h : (lts P D timeoutMs pollMs w).Reach tr s) :
    CallsInv P D timeoutMs K w tr s := by
  have h0 : CallsInv P D timeoutMs K w [] (lts P D timeoutMs pollMs w).init :=
    ⟨hw, List.nodup_nil, fun _ => (List.append_nil _).symm, by simp, by simp, fun _ => ⟨rfl, rfl⟩,
      fun hf => (by cases hf), by simp, by simp, by simp⟩
  exact h.inv h0 fun hI _ hs => callsInv_step hK hmove hpoll hI hs

/-! ### The calls of all threads -/

variable (D timeoutMs K) in
/-- The history of each queue is extended by the chunks that the calls have moved to or from it, in their
order.  A call, for a buffer `b`, has moved the first places of it and left the rest, and it has returned
how many; it has at most one iteration for every place and every millisecond of the timeout. -/
structure AllMoved (w : PcmWorld σ α) (tr : List (Event α)) (s : PcmCalls σ α) : Prop where
  safe : ∀ i, .crashed i ∉ tr
  history : ∀ ring, D.history (s.world.rings ring) = D.history (w.rings ring) ++ chunksAt ring tr
  underWay : ∀ {i b c}, .begun i b ∈ tr → s.calls.find i = some c →
    c.total < b.length ∧ K b c.buffer ∧ c.buffer.length = b.length ∧
      c.buffer.drop c.total = b.drop c.total ∧ chunksBy i tr = c.buffer.take c.total ∧
      iterations i tr < b.length + timeoutMs
  returned : ∀ {i b n b'}, .begun i b ∈ tr → .returned i n b' ∈ tr →
    n ≤ b.length ∧ K b b' ∧ b'.length = b.length ∧ b'.drop n = b.drop n ∧ chunksBy i tr = b'.take n ∧
      iterations i tr ≤ b.length + timeoutMs
  status : ∀ {i b}, .begun i b ∈ tr → (∃ c, s.calls.find i = some c) ∨ ∃ n b', .returned i n b' ∈ tr

theorem CallsInv.allMoved (h : CallsInv P D timeoutMs K w tr s) : AllMoved D timeoutMs K w tr s := by
  refine ⟨h.safe, h.history, fun {i b c} hb hf => ?_, fun {i b n b'} hb hr => ?_, h.status⟩
  · obtain ⟨hlt, d, hd, hbound⟩ := h.underWay hf
    obtain rfl := h.once hb hd.begun
    have hlen := hd.length
    exact ⟨by omega, hd.keeps, hlen, hd.rest, hd.chunks, by omega⟩
  · obtain ⟨-, d, hd, hbound⟩ := h.returned hr
    obtain rfl := h.once hb hd.begun
    exact ⟨hd.total_le, hd.keeps, hd.length, hd.rest, hd.chunks, hbound⟩

end

section

variable {σ χ α : Type} (P : PcmControl σ χ) (w : PcmWorld σ α)

/-- The calls of `OutWritePcmData`. -/
def outWritePcmData : Lts (PcmCalls σ α) (Act χ ℕ α) (Event α) :=
  lts P (Endpoint.writer α) kFmqSendTimeoutMs kWritePollMs w

/-- The calls of `InReadPcmData`. -/
def inReadPcmData : Lts (PcmCalls σ α) (Act χ (List α) α) (Event α) :=
  lts P (Endpoint.reader α) kFmqReceiveTimeoutMs kReadPollMs w

/-- In every order of the iterations of all calls, each queue gets the chunks of the calls in their order,
and what is read from it is a prefix of that; the buffers stay as they are. -/
def WritesMerged : Prop :=
  ∀ tr s, (outWritePcmData P w).Reach tr s →
    AllMoved (Endpoint.writer α) kFmqSendTimeoutMs (fun b b' => b' = b) w tr s ∧
      ∀ ring, (s.world.rings ring).consumed <+: (w.rings ring).stream ++ chunksAt ring tr

/-- In every order of the iterations of all calls, what has been read from each queue is shared out to the
calls, chunk by chunk, and is a prefix of what has been written to it. -/
def ReadsShared : Prop :=
  ∀ tr s, (inReadPcmData P w).Reach tr s →
    AllMoved (Endpoint.reader α) kFmqReceiveTimeoutMs (fun _ _ => True) w tr s ∧
      ∀ ring, (w.rings ring).consumed ++ chunksAt ring tr <+: (s.world.rings ring).stream

variable {P w}

theorem writesMerged (hs : P.Software w.session) : WritesMerged P w := by
  intro tr s hr
  have h := callsInv_run (K := fun b b' => b' = b) (fun _ => rfl)
    (fun hm hb => (Endpoint.buffer_writer hm).trans hb) (by decide) hs hr
  refine ⟨h.allMoved, fun ring => ?_⟩
  have hstream : (s.world.rings ring).stream = (w.rings ring).stream ++ chunksAt ring tr := h.history ring
  rw [← hstream]
  exact List.take_prefix _ _

theorem readsShared (hs : P.Software w.session) : ReadsShared P w := by
  intro tr s hr
  have h := callsInv_run (K := fun _ _ => True) (fun _ => trivial) (fun _ _ => trivial) (by decide) hs hr
  refine ⟨h.allMoved, fun ring => ?_⟩
  have hread : (s.world.rings ring).consumed = (w.rings ring).consumed ++ chunksAt ring tr := h.history ring
  rw [← hread]
  exact List.take_prefix _ _

end

end PcmCalls

/-- **Concurrent calls lose and repeat nothing**: whichever thread gets the session's mutex next, the queues
hold the chunks of all calls in the order in which they were moved, each call has moved a prefix of its own
buffer, and every call returns. -/
theorem concurrent_pcm_calls {κ : Tag → Type} {α : Type}
    {w : PcmWorld (BluetoothAudioSession κ) α} (hw : w.session.sessionType.isSoftware = true)
    {v : PcmWorld (Hidl.DeviceSession κ) α} (hv : v.session.sessionType.isSoftware = true) :
    (PcmCalls.WritesMerged (BluetoothAudioSession.pcm κ) w ∧
      PcmCalls.ReadsShared (BluetoothAudioSession.pcm κ) w) ∧
    PcmCalls.WritesMerged (Hidl.pcm κ) v ∧ PcmCalls.ReadsShared (Hidl.pcm κ) v :=
  ⟨⟨PcmCalls.writesMerged hw, PcmCalls.readsShared hw⟩, PcmCalls.writesMerged hv, PcmCalls.readsShared hv⟩

/-- Two writers at a queue of two places. -/
def twoWriters : List (PcmCalls.Act (BluetoothAudioSession.Call NoPayload) ℕ ℕ) :=
  [.begin (some [7, 8, 9]), .begin (some [4, 5]), .iterate 0 [], .peer 0 1, .iterate 1 [], .iterate 0 [],
    .peer 0 2, .iterate 0 [], .iterate 1 []]

/-- A HIDL device whose session is the AIDL one of `smallQueue`. -/
def smallQueueHidl : PcmWorld (Hidl.DeviceSession NoPayload) ℕ where
  session := .forwarded .a2dpSoftwareEncoding smallQueue.session rfl
  rings := smallQueue.rings

theorem concurrent_pcm_calls_twoWriters :
    (∃ tr s, (PcmCalls.outWritePcmData (BluetoothAudioSession.pcm NoPayload) smallQueue).Reach tr s ∧
      PcmCalls.chunksAt 0 tr = [7, 8, 4, 9, 5] ∧ .returned 0 3 [7, 8, 9] ∈ tr ∧ .returned 1 2 [4, 5] ∈ tr) ∧
    PcmCalls.WritesMerged (BluetoothAudioSession.pcm NoPayload) smallQueue :=
  ⟨Lts.exists_run twoWriters (by decide),
    (concurrent_pcm_calls (w := smallQueue) rfl (v := smallQueueHidl) rfl).1.1⟩

end TrebleDoze.Bluetooth
