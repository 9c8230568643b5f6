import TrebleDoze.Bluetooth.Presentation
import Mathlib.Algebra.BigOperators.Group.List.Basic
import Mathlib.Tactic.Linarith

/-!
# The pace of an output stream that nothing takes

The part of `out_write` after `WriteData` in the words of the source: the play time is one without a
sign, from which the elapsed time, one with a sign, is subtracted. When the data path takes nothing the
call sleeps, so that the data is dropped at the pace at which it would have been played.

* `countWrite64`: the part on words, next to `OutStream.countWrite` on numbers;
* `lastWriteTimeUs_countWrite64`: where nothing overflows, `last_write_time_us_` goes on by the play time,
  or to the time now;
* `writes_paced`: what that comes to over any number of calls.
-/

namespace TrebleDoze.Bluetooth

/-- The members of `BluetoothStreamOut` that `out_write` sets. -/
structure WriteCounters where
  framesRendered : UInt64
  framesPresented : UInt64
  lastWriteTimeUs : Int64
  deriving DecidableEq

section

variable (frameSize : UInt64) (sampleRate : UInt32)

/-- The part of `out_write` after `WriteData`: the members that it leaves, and how long it sleeps. -/
def countWrite64 (bytes totalWritten : UInt64) (ts : TimeSpec) (c : WriteCounters) :
    WriteCounters × Int64 :=
  if totalWritten ≠ 0 then
    let frames := bytes / frameSize
    ({ framesRendered := c.framesRendered + frames
       framesPresented := c.framesPresented + frames
       lastWriteTimeUs := ts.us }, 0)
  else
    let now := ts.us
    let elapsedTimeSinceLastWrite := now - c.lastWriteTimeUs
    let sleepTime := (bytes * 1000000 / frameSize / sampleRate.toUInt64 -
      elapsedTimeSinceLastWrite.toUInt64).toInt64
    let sleepTime := if 0 < sleepTime then sleepTime else 0
    ({ c with lastWriteTimeUs := now + sleepTime }, sleepTime)

/-- How long the bytes take to play, in microseconds. -/
def playTimeUs (bytes : UInt64) : ℕ :=
  bytes.toNat * 1000000 / frameSize.toNat / sampleRate.toNat

end

/-- A call of `out_write`: its bytes, and the clock after `WriteData`. -/
structure WriteCall where
  bytes : UInt64
  ts : TimeSpec
  deriving DecidableEq

/-- Consecutive calls whose data path accepts nothing. -/
def rejectedWrites (frameSize : UInt64) (sampleRate : UInt32) (calls : List WriteCall)
    (c : WriteCounters) : WriteCounters :=
  calls.foldl (fun c call => (countWrite64 frameSize sampleRate call.bytes 0 call.ts c).1) c

/-! ### One call -/

/-- A number that `int64_t` has. -/
structure InInt64 (x : ℤ) : Prop where
  lower : Int64.minValue.toInt ≤ x
  upper : x ≤ Int64.maxValue.toInt

/-- Nothing overflows in a call that sleeps. -/
structure NoOverflow (frameSize : UInt64) (sampleRate : UInt32) (bytes : UInt64)
    (now lastWriteTimeUs : Int64) : Prop where
  product : bytes.toNat * 1000000 < UInt64.size
  elapsed : InInt64 (now.toInt - lastWriteTimeUs.toInt)
  sleep : InInt64 (playTimeUs frameSize sampleRate bytes - (now.toInt - lastWriteTimeUs.toInt))
  time : InInt64 (lastWriteTimeUs.toInt + playTimeUs frameSize sampleRate bytes)

section

variable {frameSize : UInt64} {sampleRate : UInt32} {bytes : UInt64}

theorem bmod_of_inInt64 {x : ℤ} (h : InInt64 x) : x.bmod 18446744073709551616 = x := by
  have hlower := h.lower
  have hupper := h.upper
  rw [show Int64.minValue.toInt = -9223372036854775808 from rfl] at hlower
  rw [show Int64.maxValue.toInt = 9223372036854775807 from rfl] at hupper
  exact Int.bmod_eq_of_le (by omega) (by omega)

theorem playTimeUs_toNat (h : bytes.toNat * 1000000 < UInt64.size) :
    (bytes * 1000000 / frameSize / sampleRate.toUInt64).toNat =
      playTimeUs frameSize sampleRate bytes := by
  rw [UInt64.toNat_div, UInt64.toNat_div, UInt64.toNat_mul, UInt32.toNat_toUInt64,
    show (1000000 : UInt64).toNat = 1000000 from rfl, Nat.mod_eq_of_lt h, playTimeUs]

/-- The difference of a word without a sign and one with a sign is right where it fits. -/
theorem toInt_sub_toUInt64 {play : UInt64} {elapsed : Int64}
    (h : InInt64 ((play.toNat : ℤ) - elapsed.toInt)) :
    (play - elapsed.toUInt64).toInt64.toInt = play.toNat - elapsed.toInt := by
  have hplay : play.toInt64.toInt = (play.toNat : ℤ).bmod 18446744073709551616 :=
    BitVec.toInt_eq_toNat_bmod play.toBitVec
  have hsub : (play - elapsed.toUInt64).toInt64 = play.toInt64 - elapsed := rfl
  rw [hsub, Int64.toInt_sub, hplay, Int.bmod_sub_bmod]
  exact bmod_of_inInt64 h

/-- **After a call that sleeps**, `last_write_time_us_` is the time now, or the play time after what it
was if that is later. -/
theorem lastWriteTimeUs_countWrite64 {ts : TimeSpec} {c : WriteCounters}
    (h : NoOverflow frameSize sampleRate bytes ts.us c.lastWriteTimeUs) :
    ((countWrite64 frameSize sampleRate bytes 0 ts c).1.lastWriteTimeUs.toInt : ℤ) =
      max ts.us.toInt (c.lastWriteTimeUs.toInt + playTimeUs frameSize sampleRate bytes) := by
  have helapsed : (ts.us - c.lastWriteTimeUs).toInt = ts.us.toInt - c.lastWriteTimeUs.toInt := by
    rw [Int64.toInt_sub]
    exact bmod_of_inInt64 h.elapsed
  have hsleep : (bytes * 1000000 / frameSize / sampleRate.toUInt64 -
      (ts.us - c.lastWriteTimeUs).toUInt64).toInt64.toInt =
        playTimeUs frameSize sampleRate bytes - (ts.us.toInt - c.lastWriteTimeUs.toInt) := by
    rw [toInt_sub_toUInt64, playTimeUs_toNat h.product, helapsed]
    rw [playTimeUs_toNat h.product, helapsed]
    exact h.sleep
  rw [countWrite64, if_neg (not_not.2 rfl)]
  dsimp only
  split_ifs with hpos
  · rw [Int64.lt_iff_toInt_lt, hsleep, Int64.toInt_zero] at hpos
    rw [Int64.toInt_add, hsleep]
    have hsum : ts.us.toInt + (playTimeUs frameSize sampleRate bytes -
        (ts.us.toInt - c.lastWriteTimeUs.toInt)) =
          c.lastWriteTimeUs.toInt + playTimeUs frameSize sampleRate bytes := by omega
    rw [hsum, max_eq_right (by omega)]
    exact bmod_of_inInt64 h.time
  · rw [Int64.lt_iff_toInt_lt, hsleep, Int64.toInt_zero] at hpos
    rw [Int64.add_zero, max_eq_left (by omega)]

end

/-! ### Any number of calls -/

section

variable {frameSize : UInt64} {sampleRate : UInt32} {calls : List WriteCall} {c : WriteCounters}

/-- The members after the first `i` calls. -/
def afterWrites (frameSize : UInt64) (sampleRate : UInt32) (calls : List WriteCall) (c : WriteCounters)
    (i : ℕ) : WriteCounters :=
  rejectedWrites frameSize sampleRate (calls.take i) c

/-- Nothing overflows in any of the calls. -/
def RunFits (frameSize : UInt64) (sampleRate : UInt32) (calls : List WriteCall) (c : WriteCounters) :
    Prop :=
  ∀ i call, calls[i]? = some call → NoOverflow frameSize sampleRate call.bytes call.ts.us
    (afterWrites frameSize sampleRate calls c i).lastWriteTimeUs

theorem afterWrites_succ {i : ℕ} {call : WriteCall} (h : calls[i]? = some call) :
    afterWrites frameSize sampleRate calls c (i + 1) =
      (countWrite64 frameSize sampleRate call.bytes 0 call.ts
        (afterWrites frameSize sampleRate calls c i)).1 := by
  rw [afterWrites, List.take_add_one, h, Option.toList_some, rejectedWrites, List.foldl_append]
  rfl

theorem lastWriteTimeUs_afterWrites (h : RunFits frameSize sampleRate calls c) {i : ℕ}
    {call : WriteCall} (hcall : calls[i]? = some call) :
    (afterWrites frameSize sampleRate calls c (i + 1)).lastWriteTimeUs.toInt =
      max call.ts.us.toInt ((afterWrites frameSize sampleRate calls c i).lastWriteTimeUs.toInt +
        playTimeUs frameSize sampleRate call.bytes) := by
  rw [afterWrites_succ hcall]
  exact lastWriteTimeUs_countWrite64 (h i call hcall)

/-- **The pace of the calls**: each leaves the time now, or the play time of its bytes after what the one
before has left if that is later, so that after `k` of them the time has gone on by all that they would
have played at least. -/
theorem writes_paced (h : RunFits frameSize sampleRate calls c) :
    (∀ i call, calls[i]? = some call →
      (afterWrites frameSize sampleRate calls c (i + 1)).lastWriteTimeUs.toInt =
        max call.ts.us.toInt ((afterWrites frameSize sampleRate calls c i).lastWriteTimeUs.toInt +
          playTimeUs frameSize sampleRate call.bytes)) ∧
      ∀ k ≤ calls.length, c.lastWriteTimeUs.toInt +
          (((calls.take k).map fun call => playTimeUs frameSize sampleRate call.bytes).sum : ℕ) ≤
        (afterWrites frameSize sampleRate calls c k).lastWriteTimeUs.toInt := by
  refine ⟨fun i call => lastWriteTimeUs_afterWrites h, fun k hk => ?_⟩
  induction k with
  | zero => exact le_of_eq (add_zero _)
  | succ k ih =>
    have hcall : calls[k]? = some calls[k] := List.getElem?_eq_getElem hk
    have hprev := ih (Nat.le_of_succ_le hk)
    have hlast := le_max_right calls[k].ts.us.toInt
      ((afterWrites frameSize sampleRate calls c k).lastWriteTimeUs.toInt +
        playTimeUs frameSize sampleRate calls[k].bytes)
    rw [← lastWriteTimeUs_afterWrites h hcall] at hlast
    rw [List.take_add_one, hcall, Option.toList_some, List.map_append, List.sum_append,
      List.map_singleton, List.sum_singleton, Nat.cast_add]
    linarith

/-- Two writes of 20 ms at 48 kHz, 5 ms apart, after a first one at 1 s. -/
theorem writes_paced_two :
    (1000000 : ℤ) + 40000 ≤
      (afterWrites 4 48000 [⟨3840, ⟨1, 5000000⟩⟩, ⟨3840, ⟨1, 10000000⟩⟩] ⟨0, 0, 1000000⟩
        2).lastWriteTimeUs.toInt := by
  refine (writes_paced (c := ⟨0, 0, 1000000⟩) fun i call hcall => ?_).2 2 (le_refl 2)
  rcases i with _ | _ | i
  · obtain rfl := Option.some.inj hcall
    exact ⟨by decide, ⟨by decide, by decide⟩, ⟨by decide, by decide⟩, ⟨by decide, by decide⟩⟩
  · obtain rfl := Option.some.inj hcall
    exact ⟨by decide, ⟨by decide, by decide⟩, ⟨by decide, by decide⟩, ⟨by decide, by decide⟩⟩
  · cases hcall

end

end TrebleDoze.Bluetooth
