import TrebleDoze.Audio.StreamThread

/-!
# The size of the data queue

`prepareForWriting` and `prepareForReading` check the size of a frame and the number of frames before
they make the data queue with the product of the two, in 32 bits.

* `prepare_of_error`, `prepare_of_ok`: what `prepare` does, by the size that it makes the queue with;
* `dataMQSize_eq_ok_iff`: the pairs that get as far as the queue, by their exact product: the check does
  what it says for `MAX_BUFFER_SIZE`;
* `withinLimit_iff`: `MAX_BUFFER_SIZE` is twice the limit that its comment states.
-/

namespace TrebleDoze.Audio

namespace Stream

variable {χ : Type}

/-- The size that the data queue is made with, or the answer when it is not reached. -/
def dataMQSize (frameSize framesCount : UInt32) (s : Stream χ) : Except Result UInt32 :=
  if s.thread.isSome then .error .invalidState
  else if frameSize = 0 ∨ framesCount = 0 then .error .invalidArguments
  else if frameSize > maxBufferSize / framesCount then .error .invalidArguments
  else .ok (frameSize * framesCount)

/-- The limit of the comment at `MAX_BUFFER_SIZE`: 1 GiB. -/
def gibibyte : ℕ := 1073741824

section

variable {s : Stream χ} {frameSize framesCount : UInt32} {created : Bool}

theorem prepare_of_error {r : Result} (h : s.dataMQSize frameSize framesCount = .error r) :
    s.prepare frameSize framesCount created = (r, s) := by
  unfold dataMQSize at h
  unfold prepare
  split_ifs at h with h1 h2 h3
  · obtain rfl := Except.error.inj h
    rw [if_pos h1]
  · obtain rfl := Except.error.inj h
    rw [if_neg h1, if_pos h2]
  · obtain rfl := Except.error.inj h
    rw [if_neg h1, if_neg h2, if_pos h3]

theorem prepare_of_ok {size : UInt32} (h : s.dataMQSize frameSize framesCount = .ok size) :
    s.prepare frameSize framesCount created =
      if created then (.ok, { s with dataMQ := ⟨[], size.toNat⟩, thread := some .head })
      else (.invalidArguments, s) := by
  unfold dataMQSize at h
  unfold prepare
  split_ifs at h with h1 h2 h3
  obtain rfl := Except.ok.inj h
  rw [if_neg h1, if_neg h2, if_neg h3]
  cases created <;> rfl

/-- The division keeps the exact product in bounds. -/
theorem le_div_iff (hf : framesCount ≠ 0) :
    ¬ frameSize > maxBufferSize / framesCount ↔ frameSize.toNat * framesCount.toNat ≤ 2147483648 := by
  have hpos : 0 < framesCount.toNat := by
    rw [Nat.pos_iff_ne_zero, ne_eq, ← UInt32.toNat_zero, UInt32.toNat_inj]
    exact hf
  rw [gt_iff_lt, UInt32.lt_iff_toNat_lt, UInt32.toNat_div, Nat.not_lt, Nat.le_div_iff_mul_le hpos]
  rfl

/-- **The pairs that get as far as the data queue**: both numbers are positive, and their exact product,
which the queue is made with, is at most `MAX_BUFFER_SIZE`. -/
theorem dataMQSize_eq_ok_iff {size : UInt32} : s.dataMQSize frameSize framesCount = .ok size ↔
    s.thread = none ∧ frameSize ≠ 0 ∧ framesCount ≠ 0 ∧
      frameSize.toNat * framesCount.toNat ≤ 2147483648 ∧
        size.toNat = frameSize.toNat * framesCount.toNat := by
  have hmul : frameSize.toNat * framesCount.toNat ≤ 2147483648 →
      (frameSize * framesCount).toNat = frameSize.toNat * framesCount.toNat := by
    intro hle
    rw [UInt32.toNat_mul]
    omega
  unfold dataMQSize
  split_ifs with h1 h2 h3
  · refine iff_of_false (fun h => by cases h) fun h => ?_
    simp [h.1] at h1
  · refine iff_of_false (fun h => by cases h) fun h => ?_
    exact h2.elim h.2.1 h.2.2.1
  · refine iff_of_false (fun h => by cases h) fun h => ?_
    exact (le_div_iff h.2.2.1).2 h.2.2.2.1 h3
  · rw [not_or] at h2
    have hle := (le_div_iff h2.2).1 h3
    constructor
    · intro h
      obtain rfl := Except.ok.inj h
      exact ⟨Option.not_isSome_iff_eq_none.1 h1, h2.1, h2.2, hle, hmul hle⟩
    · rintro ⟨-, -, -, -, hsize⟩
      rw [← UInt32.toNat_inj.1 (hsize.trans (hmul hle).symm)]

end

/-- The data queue is made for positive numbers and with their exact product, which is at most the
documented maximum. -/
def WithinLimit (frameSize framesCount : UInt32) (s : Stream χ) : Prop :=
  ∀ size, s.dataMQSize frameSize framesCount = .ok size →
    frameSize ≠ 0 ∧ framesCount ≠ 0 ∧ frameSize.toNat * framesCount.toNat ≤ gibibyte ∧
      size.toNat = frameSize.toNat * framesCount.toNat

/-- **The documented limit holds but between one and two gibibytes**: `2 << 30` is two of them. -/
theorem withinLimit_iff (frameSize framesCount : UInt32) (s : Stream χ) :
    s.WithinLimit frameSize framesCount ↔
      ¬ (s.thread = none ∧ gibibyte < frameSize.toNat * framesCount.toNat ∧
        frameSize.toNat * framesCount.toNat ≤ 2 * gibibyte) := by
  unfold WithinLimit gibibyte
  constructor
  · rintro h ⟨ht, hlt, hle⟩
    have hsize : s.dataMQSize frameSize framesCount = .ok (frameSize * framesCount) := by
      refine dataMQSize_eq_ok_iff.2 ⟨ht, ?_, ?_, by omega, ?_⟩
      · rintro rfl
        simp at hlt
      · rintro rfl
        simp at hlt
      · rw [UInt32.toNat_mul]
        omega
    have := (h _ hsize).2.2.1
    omega
  · intro h size hs
    obtain ⟨ht, h1, h2, hle, hsize⟩ := dataMQSize_eq_ok_iff.1 hs
    refine ⟨h1, h2, ?_, hsize⟩
    by_contra hgt
    exact h ⟨ht, by omega, by omega⟩

/-- A queue of two gibibytes. -/
theorem two_gibibytes_accepted : (Stream.create (χ := Unit)).dataMQSize 4 536870912 = .ok 2147483648 ∧
    ¬ (Stream.create (χ := Unit)).WithinLimit 4 536870912 := by
  have h : (Stream.create (χ := Unit)).dataMQSize 4 536870912 = .ok 2147483648 := by decide
  refine ⟨h, fun hw => ?_⟩
  have hle := (hw _ h).2.2.1
  exact absurd hle (by decide)

end Stream

end TrebleDoze.Audio
