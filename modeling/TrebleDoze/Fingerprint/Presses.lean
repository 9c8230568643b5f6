import TrebleDoze.Fingerprint.Threads
import TrebleDoze.Lib.Trace

/-!
# Presses

The press that is under way, read off the trace, and the wait thread that belongs to it.

* `ThreadsMove.frame`: but for the touch events, no step changes `mFingerDown`, `mFingerSequence` or
  the sequence number of a wait thread;
* `PressInv`, `pressInv_run`: while a finger is down, the last touch event is the press that handed out
  `mFingerSequence`, and the last wait thread carries that number.
-/

namespace TrebleDoze.Fingerprint

open TrebleDoze.Lib

/-- The start of a press. -/
def Event.isDown : Event → Bool
  | .down _ => true
  | _ => false

/-- The start or the end of a press. -/
def Event.isTouch : Event → Bool
  | .down _ | .up _ => true
  | _ => false

/-- The presses started; the next one has this number. -/
def presses (tr : List Event) : ℕ := tr.countP Event.isDown

/-- The sequence numbers the wait threads captured, by press. -/
def Threads.sequences (s : Threads) : List UInt64 := s.waits.map WaitThread.sequence

@[simp] theorem presses_append (l r : List Event) : presses (l ++ r) = presses l + presses r :=
  List.countP_append

/-! ### What is not a touch event -/

section Frame

variable {daemon : Bool} {s s' : Hal} {os : List Event}

theorem isTouch_requestHbm {setOk e : Bool} {x : Event} (h : x ∈ (requestHbm setOk e s).2) :
    x.isTouch = false := by
  rw [mem_requestHbm _ _ h]; rfl

/-- The operations that are not touch events leave the press as it is. -/
structure Frame (s s' : Hal) (os : List Event) : Prop where
  down : s'.mFingerDown = s.mFingerDown
  sequence : s'.mFingerSequence = s.mFingerSequence
  events : ∀ e ∈ os, e.isTouch = false

theorem frame_enqueue (c : Cmd) (q : UInt64) :
    Frame s (enqueueGoodixCommand c q s).1 (enqueueGoodixCommand c q s).2 := by
  unfold enqueueGoodixCommand
  split_ifs <;> exact ⟨rfl, rfl, by simp [Event.isTouch]⟩

theorem frame_worker {setOk : Bool} (h : workerRound daemon setOk s = some (s', os)) :
    Frame s s' os ∧ s'.mLightAreaStable = s.mLightAreaStable ∧ ∀ i, .finished i ∉ os := by
  have hw := worked h
  refine ⟨⟨hw.down, hw.sequence, fun e he => ?_⟩, hw.stable, fun i hi => ?_⟩
  · rcases hw.events e he with ⟨c, rfl⟩ | ⟨b, rfl⟩ <;> rfl
  · rcases hw.events _ hi with ⟨_, he⟩ | ⟨_, he⟩ <;> cases he

theorem PollerMove.frame {pc pc' : PollerPc} (h : PollerMove s pc pc' s' os) : Frame s s' os := by
  cases h with
  | quiet _ _ ho => rcases ho with rfl | rfl <;> exact ⟨rfl, rfl, by simp [Event.isTouch]⟩
  | spot | pressed _ | notPressed | found _ | exchanged _ | loaded | stored =>
    exact ⟨rfl, rfl, by simp [Event.isTouch]⟩
  | enqueueStable q | enqueueClose q => exact frame_enqueue _ q

theorem WaitMove.frame {press : ℕ} {q : UInt64} {pc pc' : WaitPc}
    (h : WaitMove press q s pc pc' s' os) : Frame s s' os := by
  cases h with
  | waiting _ _ | waited _ | pressed _ | current _ | gone _ | found _ | exchanged _ =>
    exact ⟨rfl, rfl, by simp [Event.isTouch]⟩
  | enqueue =>
    have hf : Frame s _ _ := frame_enqueue .lightAreaStable q
    refine ⟨hf.down, hf.sequence, fun e he => ?_⟩
    rcases List.mem_append.1 he with he | he
    · exact hf.events e he
    · rw [List.mem_singleton] at he; subst he; rfl

end Frame

section Press

variable {daemon : Bool} {s s' : Threads} {a : Act} {tr os : List Event}

/-- The steps that are not touch events leave the press and the captured numbers as they are. -/
theorem ThreadsMove.frame (h : ThreadsMove daemon s a s' os) :
    (∃ setOk, a = .onFingerDown setOk) ∨ (a = .onFingerUp ∧ s.hal.mFingerDown = true) ∨
      (Frame s.hal s'.hal os ∧ s'.sequences = s.sequences) := by
  cases h with
  | down setOk => exact .inl ⟨setOk, rfl⟩
  | up =>
    by_cases hd : s.hal.mFingerDown = true
    · exact .inr (.inl ⟨rfl, hd⟩)
    · rw [onFingerUp_of_up (by simpa using hd)]
      exact .inr (.inr ⟨⟨rfl, rfl, by simp⟩, rfl⟩)
  | worker h => exact .inr (.inr ⟨(frame_worker h).1, rfl⟩)
  | poller h => exact .inr (.inr ⟨h.frame, rfl⟩)
  | wait ht h =>
    refine .inr (.inr ⟨h.frame, ?_⟩)
    obtain ⟨hi, rfl⟩ := List.getElem?_eq_some_iff.1 ht
    simp only [Threads.sequences, List.map_set]
    have hget : (s.waits.map WaitThread.sequence).set _ _ = _ :=
      List.set_getElem_self (by simpa using hi)
    simpa using hget

/-- The press under way, as the trace and the wait threads know it. -/
structure PressInv (tr : List Event) (s : Threads) : Prop where
  waits : s.waits.length = presses tr
  down : s.hal.mFingerDown = true → last Event.isTouch tr = some (.down s.hal.mFingerSequence)
  up : s.hal.mFingerDown = false → ∀ q, last Event.isTouch tr ≠ some (.down q)
  current : s.hal.mFingerDown = true → s.sequences.getLast? = some s.hal.mFingerSequence

theorem presses_of_isTouch (h : ∀ e ∈ os, e.isTouch = false) : presses os = 0 := by
  refine List.countP_eq_zero.2 fun e he hd => ?_
  have := h e he
  cases e <;> simp_all [Event.isTouch, Event.isDown]

theorem onFingerDown_events (setOk : Bool) (h : Hal) : (onFingerDown setOk h).2 =
    .down (h.mFingerSequence + 1) :: (requestHbm setOk true { h with
      mFingerSequence := h.mFingerSequence + 1, mFingerDown := true, mLightAreaStable := false,
      mCommandQueue := [] }).2 := rfl

theorem isTouch_tail_onFingerDown (setOk : Bool) (h : Hal) :
    ∀ e ∈ (onFingerDown setOk h).2.tail, e.isTouch = false := by
  rw [onFingerDown_events]
  exact fun e he => isTouch_requestHbm he

theorem last_onFingerDown (setOk : Bool) (h : Hal) : last Event.isTouch (tr ++ (onFingerDown setOk h).2)
    = some (.down (h.mFingerSequence + 1)) := by
  have := isTouch_tail_onFingerDown setOk h
  rw [onFingerDown_events] at *
  exact last_of_split rfl this

theorem since_onFingerDown (setOk : Bool) (h : Hal) :
    since Event.isTouch (tr ++ (onFingerDown setOk h).2) = (onFingerDown setOk h).2.tail := by
  have := isTouch_tail_onFingerDown setOk h
  rw [onFingerDown_events] at *
  exact since_of_split rfl this

theorem pressInv_move (h : PressInv tr s) (hm : ThreadsMove daemon s a s' os) :
    PressInv (tr ++ os) s' := by
  rcases hm.frame with ⟨setOk, rfl⟩ | ⟨rfl, hd⟩ | ⟨hf, hs⟩
  · cases hm with | down =>
    refine ⟨?_, fun _ => ?_, by simp, fun _ => ?_⟩
    · have h0 := presses_of_isTouch (isTouch_tail_onFingerDown setOk s.hal)
      rw [onFingerDown_events, List.tail_cons] at h0
      rw [presses_append, onFingerDown_events, List.length_append, h.waits]
      simp only [presses, List.countP_cons, List.length_singleton] at h0 ⊢
      simp [h0, Event.isDown]
    · rw [last_onFingerDown]
      simp
    · simp [Threads.sequences]
  · cases hm with | up =>
    rw [onFingerUp_of_down hd]
    refine ⟨by simp [h.waits, presses, Event.isDown], by simp, fun _ q => ?_, by simp⟩
    rw [last_snoc]
    simp [Event.isTouch]
  · have hl : s'.waits.length = s.waits.length := by
      simpa [Threads.sequences] using congrArg List.length hs
    refine ⟨?_, ?_, ?_, ?_⟩
    · rw [hl, h.waits, presses_append, presses_of_isTouch hf.events, Nat.add_zero]
    · rw [hf.down, hf.sequence, last_append_of_false hf.events]
      exact h.down
    · rw [hf.down, last_append_of_false hf.events]
      exact h.up
    · rw [hf.down, hf.sequence, hs]
      exact h.current

theorem pressInv_run {C : Threads → Act → Prop} (h : (threadsLts daemon).Run C tr s) :
    PressInv tr s := by
  refine h.inv ⟨rfl, ?_, ?_, ?_⟩ fun hi _ hs => pressInv_move hi (threadsMove_of_step hs)
  · simp [threadsLts, Hal.initial]
  · simp [last_nil]
  · simp [threadsLts, Hal.initial]

/-- A trace that ends within a press: a finger is down, with the number the press handed out, and the
wait threads are those of the presses up to it. -/
theorem PressInv.of_split (h : PressInv tr s) {pre post : List Event} {q : UInt64}
    (htr : tr = pre ++ .down q :: post) (hpost : ∀ e ∈ post, e.isTouch = false) :
    s.hal.mFingerDown = true ∧ s.hal.mFingerSequence = q ∧ s.waits.length = presses pre + 1 ∧
      since Event.isTouch tr = post := by
  have hl : last Event.isTouch tr = some (.down q) := htr ▸ last_of_split rfl hpost
  have hd : s.hal.mFingerDown = true := by
    by_contra hn
    exact h.up (by simpa using hn) q hl
  have hq : s.hal.mFingerSequence = q := by
    simpa [hl] using (h.down hd).symm
  refine ⟨hd, hq, ?_, htr ▸ since_of_split rfl hpost⟩
  rw [h.waits, htr, presses_append]
  simp only [presses, List.countP_cons]
  have : List.countP Event.isDown post = 0 := presses_of_isTouch hpost
  simp [this, Event.isDown]

theorem PressInv.split (h : PressInv tr s) (hd : s.hal.mFingerDown = true) :
    ∃ pre, tr = pre ++ .down s.hal.mFingerSequence :: since Event.isTouch tr ∧
      (∀ e ∈ since Event.isTouch tr, e.isTouch = false) ∧ s.waits.length = presses pre + 1 := by
  obtain ⟨pre, htr, hs⟩ := split_of_last (h.down hd)
  exact ⟨pre, htr, hs, (h.of_split htr hs).2.2.1⟩

theorem PressInv.own (h : PressInv tr s) (hd : s.hal.mFingerDown = true) {i : ℕ} {t : WaitThread}
    (ht : s.waits[i]? = some t) (hi : i + 1 = s.waits.length) : t.sequence = s.hal.mFingerSequence := by
  have hc := h.current hd
  have hlen : s.sequences.length - 1 = i := by simp [Threads.sequences]; omega
  rw [List.getLast?_eq_getElem?, hlen] at hc
  simpa [Threads.sequences, ht] using hc

end Press

end TrebleDoze.Fingerprint
