import Mathlib.Data.List.Basic
import Mathlib.Tactic.Common

/-!
# Bounded queues

A bounded FIFO with its history: `stream` is all that was ever written, and `cursor` how much of it has
been read; what lies between is in the queue.  A write and a read transfer all that is asked for or
nothing.

`Endpoint` is what the two ends have in common for one who moves data between the queue and a buffer:
what its peer may do meanwhile, how much can be moved, and the part of the history that its own moves
extend.  `Endpoint.writer` fills the queue from the buffer, `Endpoint.reader` fills the buffer from the
queue.
-/

namespace TrebleDoze.Lib

/-- A bounded queue. -/
structure Fifo (α : Type) where
  capacity : ℕ
  stream : List α
  cursor : ℕ
  cursor_le : cursor ≤ stream.length
  bounded : stream.length - cursor ≤ capacity

namespace Fifo

variable {α : Type}

/-- A queue to which nothing has been written. -/
def empty (capacity : ℕ) : Fifo α where
  capacity := capacity
  stream := []
  cursor := 0
  cursor_le := Nat.zero_le _
  bounded := Nat.zero_le capacity

def availableToRead (f : Fifo α) : ℕ := f.stream.length - f.cursor

def availableToWrite (f : Fifo α) : ℕ := f.capacity - f.availableToRead

/-- What has been read. -/
def consumed (f : Fifo α) : List α := f.stream.take f.cursor

/-- Append all of `xs`, if there is room. -/
def write (xs : List α) (f : Fifo α) : Option (Fifo α) :=
  if h : xs.length ≤ f.availableToWrite then
    some { f with
      stream := f.stream ++ xs
      cursor_le := by
        have := f.cursor_le
        rw [List.length_append]
        omega
      bounded := by
        have := f.bounded
        have := f.cursor_le
        unfold availableToWrite availableToRead at h
        rw [List.length_append]
        omega }
  else none

/-- Take the first `n` elements, if there are so many. -/
def read (n : ℕ) (f : Fifo α) : Option (List α × Fifo α) :=
  if h : n ≤ f.availableToRead then
    some ((f.stream.drop f.cursor).take n, { f with
      cursor := f.cursor + n
      cursor_le := by
        have := f.cursor_le
        unfold availableToRead at h
        omega
      bounded := by
        have := f.bounded
        omega })
  else none

variable {f f' : Fifo α} {xs : List α} {n : ℕ}

theorem stream_write (h : f.write xs = some f') : f'.stream = f.stream ++ xs := by
  unfold write at h
  split_ifs at h
  obtain rfl := Option.some.inj h
  rfl

theorem consumed_write (h : f.write xs = some f') : f'.consumed = f.consumed := by
  unfold write at h
  split_ifs at h
  obtain rfl := Option.some.inj h
  exact List.take_append_of_le_length f.cursor_le

theorem stream_read (h : f.read n = some (xs, f')) : f'.stream = f.stream := by
  unfold read at h
  split_ifs at h
  obtain ⟨-, rfl⟩ := Prod.mk.inj (Option.some.inj h)
  rfl

theorem consumed_read (h : f.read n = some (xs, f')) :
    f'.consumed = f.consumed ++ xs ∧ xs.length = n := by
  unfold read at h
  split_ifs at h with hn
  obtain ⟨rfl, rfl⟩ := Prod.mk.inj (Option.some.inj h)
  refine ⟨List.take_add, ?_⟩
  unfold availableToRead at hn
  rw [List.length_take, List.length_drop]
  omega

theorem availableToWrite_write (h : f.write xs = some f') :
    f'.availableToWrite + xs.length = f.availableToWrite := by
  unfold write at h
  split_ifs at h with hroom
  obtain rfl := Option.some.inj h
  have hcursor := f.cursor_le
  unfold availableToWrite availableToRead at hroom ⊢
  simp only [List.length_append]
  omega

theorem availableToWrite_read (h : f.read n = some (xs, f')) :
    f'.availableToWrite = f.availableToWrite + n := by
  unfold read at h
  split_ifs at h with hn
  obtain ⟨-, rfl⟩ := Prod.mk.inj (Option.some.inj h)
  have hbounded := f.bounded
  unfold availableToRead at hn
  unfold availableToWrite availableToRead
  dsimp only
  omega

end Fifo

/-- An end of a queue: `move total count buffer` moves `count` elements between the queue and the
places of the buffer from `total` on. -/
structure Endpoint (α : Type) where
  Peer : Type
  peer : Peer → Fifo α → Fifo α
  available : Fifo α → ℕ
  move : ℕ → ℕ → List α → Fifo α → Option (List α × Fifo α)
  /-- The part of the history that moves extend. -/
  history : Fifo α → List α
  history_peer : ∀ a f, history (peer a f) = history f
  move_spec : ∀ {total count buffer f buffer' f'}, total + count ≤ buffer.length →
    move total count buffer f = some (buffer', f') →
    buffer'.length = buffer.length ∧ buffer'.drop (total + count) = buffer.drop (total + count) ∧
      ∃ chunk, buffer'.take (total + count) = buffer.take total ++ chunk ∧
        history f' = history f ++ chunk

namespace Endpoint

variable {α : Type}

/-- The end that writes the buffer to the queue; its peer reads. -/
def writer (α : Type) : Endpoint α where
  Peer := ℕ
  peer n f := ((f.read n).map Prod.snd).getD f
  available := Fifo.availableToWrite
  move total count buffer f := (f.write ((buffer.drop total).take count)).map fun f' => (buffer, f')
  history := Fifo.stream
  history_peer n f := by
    cases h : f.read n with
    | none => rfl
    | some r =>
      obtain ⟨xs, f'⟩ := r
      exact Fifo.stream_read h
  move_spec {total count buffer f buffer' f'} _ h := by
    obtain ⟨f₁, h₁, h₂⟩ := Option.map_eq_some_iff.1 h
    obtain ⟨rfl, rfl⟩ := Prod.mk.inj h₂
    exact ⟨rfl, rfl, (buffer.drop total).take count, List.take_add, Fifo.stream_write h₁⟩

/-- The end that reads the queue into the buffer; its peer writes. -/
def reader (α : Type) : Endpoint α where
  Peer := List α
  peer xs f := (f.write xs).getD f
  available := Fifo.availableToRead
  move total count buffer f := (f.read count).map fun r =>
    (buffer.take total ++ r.1 ++ buffer.drop (total + count), r.2)
  history := Fifo.consumed
  history_peer xs f := by
    cases h : f.write xs with
    | none => rfl
    | some f' => exact Fifo.consumed_write h
  move_spec {total count buffer f buffer' f'} hle h := by
    obtain ⟨⟨xs, f₁⟩, h₁, h₂⟩ := Option.map_eq_some_iff.1 h
    obtain ⟨rfl, rfl⟩ := Prod.mk.inj h₂
    obtain ⟨hc, hlen⟩ := Fifo.consumed_read h₁
    have hpre : (buffer.take total ++ xs).length = total + count := by
      rw [List.length_append, List.length_take, hlen]
      omega
    refine ⟨?_, ?_, xs, ?_, hc⟩
    · rw [List.length_append, hpre, List.length_drop]
      omega
    · rw [← hpre, List.drop_left, hpre]
    · rw [← hpre, List.take_left]

theorem buffer_writer {total count : ℕ} {buffer buffer' : List α} {f f' : Fifo α}
    (h : (writer α).move total count buffer f = some (buffer', f')) : buffer' = buffer := by
  obtain ⟨f₁, -, h₂⟩ := Option.map_eq_some_iff.1 h
  exact (Prod.mk.inj h₂).1.symm

end Endpoint

end TrebleDoze.Lib
