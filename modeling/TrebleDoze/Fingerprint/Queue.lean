import TrebleDoze.Fingerprint.Hal

/-!
# The command queue at mutex granularity

* `QueueInv`: every queued command carries the current sequence number and fits `mFingerDown`, and a
  command of a touch event is the first of the queue;
* `LockEffect`, `lockEffect_of_step`: on such a state the worker's stale-command and state checks drop
  nothing, so a step is one of five things;
* `queueInv_run`: the invariant holds in every run;
* `hbm_run`: the HBM is requested exactly while a finger is down or its `CMD_FINGER_UP` is queued;
* `inPress_run`: in a press whose `CMD_FINGER_DOWN` has left the queue, it has been handed over, and no
  `CMD_FINGER_UP` since;
* `queue_representation`: the shape of the queue in every reachable state, and that the worker's checks
  drop nothing there.
-/

namespace TrebleDoze.Fingerprint

open TrebleDoze.Lib

/-! ### What the blocks do to each member -/

section Fields

variable (setOk : Bool) (s : Hal)

@[simp] theorem requestHbm_queue (e : Bool) :
    (requestHbm setOk e s).1.mCommandQueue = s.mCommandQueue := by
  unfold requestHbm; split <;> rfl

@[simp] theorem requestHbm_sequence (e : Bool) :
    (requestHbm setOk e s).1.mFingerSequence = s.mFingerSequence := by
  unfold requestHbm; split <;> rfl

@[simp] theorem requestHbm_down (e : Bool) :
    (requestHbm setOk e s).1.mFingerDown = s.mFingerDown := by
  unfold requestHbm; split <;> rfl

@[simp] theorem requestHbm_stable (e : Bool) :
    (requestHbm setOk e s).1.mLightAreaStable = s.mLightAreaStable := by
  unfold requestHbm; split <;> rfl

@[simp] theorem requestHbm_ok (e : Bool) :
    requestHbm true e s = ({ s with hbmProperty := e }, [.hbm e]) := rfl

/-- The property is the only member `requestHbm` writes, and its events are about the HBM. -/
theorem mem_requestHbm {e : Bool} {x : Event} (h : x ∈ (requestHbm setOk e s).2) : x = .hbm e := by
  unfold requestHbm at h
  split at h <;> simp_all

@[simp] theorem onFingerDown_queue : (onFingerDown setOk s).1.mCommandQueue =
    [⟨s.mFingerSequence + 1, .fingerDown⟩] := by simp [onFingerDown]

@[simp] theorem onFingerDown_sequence :
    (onFingerDown setOk s).1.mFingerSequence = s.mFingerSequence + 1 := by simp [onFingerDown]

@[simp] theorem onFingerDown_down : (onFingerDown setOk s).1.mFingerDown = true := by
  simp [onFingerDown]

@[simp] theorem onFingerDown_stable : (onFingerDown setOk s).1.mLightAreaStable = false := by
  simp [onFingerDown]

theorem onFingerUp_of_down {s : Hal} (h : s.mFingerDown = true) : onFingerUp s =
    ({ s with mFingerSequence := s.mFingerSequence + 1, mFingerDown := false,
              mLightAreaStable := false,
              mCommandQueue := [⟨s.mFingerSequence + 1, .fingerUp⟩] },
      [.up (s.mFingerSequence + 1)]) := by
  simp [onFingerUp, h]

theorem onFingerUp_of_up {s : Hal} (h : s.mFingerDown = false) : onFingerUp s = (s, []) := by
  simp [onFingerUp, h]

end Fields

/-! ### The invariant of the queue -/

/-- The command may be queued while `mFingerDown` is `down`. -/
def Cmd.fits (down : Bool) : Cmd → Bool
  | .fingerDown | .lightAreaStable => down
  | .fingerUp | .lightAreaClose => !down

/-- **The invariant of the queue.** -/
structure QueueInv (s : Hal) : Prop where
  sequence : ∀ c ∈ s.mCommandQueue, c.sequence = s.mFingerSequence
  fits : ∀ c ∈ s.mCommandQueue, c.command.fits s.mFingerDown = true
  tail : ∀ c ∈ s.mCommandQueue.tail, c.command.isTouch = false

theorem queueInv_initial : QueueInv Hal.initial := by
  refine ⟨?_, ?_, ?_⟩ <;> simp [Hal.initial]

theorem queueInv_onFingerDown (setOk : Bool) (s : Hal) : QueueInv (onFingerDown setOk s).1 := by
  refine ⟨?_, ?_, ?_⟩ <;> simp [Cmd.fits]

theorem queueInv_onFingerUp {s : Hal} (h : QueueInv s) : QueueInv (onFingerUp s).1 := by
  by_cases hd : s.mFingerDown = true
  · rw [onFingerUp_of_down hd]
    refine ⟨?_, ?_, ?_⟩ <;> simp [Cmd.fits]
  · rw [onFingerUp_of_up (by simpa using hd)]
    exact h

theorem QueueInv.pop {s : Hal} {c : GoodixCommand} {rest : List GoodixCommand} (h : QueueInv s)
    (hq : s.mCommandQueue = c :: rest) : QueueInv { s with mCommandQueue := rest } := by
  obtain ⟨h1, h2, h3⟩ := h
  rw [hq] at h1 h2 h3
  exact ⟨fun d hd => h1 d (List.mem_cons_of_mem _ hd), fun d hd => h2 d (List.mem_cons_of_mem _ hd),
    fun d hd => h3 d (List.mem_of_mem_tail hd)⟩

theorem QueueInv.push {s : Hal} {c : GoodixCommand} (h : QueueInv s)
    (hs : c.sequence = s.mFingerSequence) (hf : c.command.fits s.mFingerDown = true)
    (ht : c.command.isTouch = false) :
    QueueInv { s with mCommandQueue := s.mCommandQueue ++ [c] } := by
  obtain ⟨h1, h2, h3⟩ := h
  refine ⟨?_, ?_, ?_⟩
  · intro d hd
    rcases List.mem_append.1 hd with hd | hd
    · exact h1 d hd
    · rw [List.mem_singleton] at hd; subst hd; exact hs
  · intro d hd
    rcases List.mem_append.1 hd with hd | hd
    · exact h2 d hd
    · rw [List.mem_singleton] at hd; subst hd; exact hf
  · intro d hd
    cases hq : s.mCommandQueue with
    | nil => simp [hq] at hd
    | cons e l =>
      rw [hq] at h3
      simp only [hq, List.cons_append, List.tail_cons, List.mem_append, List.mem_singleton] at hd
      rcases hd with hd | rfl
      · exact h3 d hd
      · exact ht

theorem QueueInv.of_eq {s s' : Hal} (h : QueueInv s) (h1 : s'.mCommandQueue = s.mCommandQueue)
    (h2 : s'.mFingerSequence = s.mFingerSequence) (h3 : s'.mFingerDown = s.mFingerDown) :
    QueueInv s' :=
  ⟨by rw [h1, h2]; exact h.sequence, by rw [h1, h3]; exact h.fits, by rw [h1]; exact h.tail⟩

theorem QueueInv.notMem_tail {s : Hal} {c d : GoodixCommand} {rest : List GoodixCommand}
    (h : QueueInv s) (hq : s.mCommandQueue = c :: rest) (hd : d.command.isTouch = true) :
    d ∉ rest := by
  intro hm
  have := h.tail d (by rw [hq]; exact hm)
  simp [hd] at this

/-! ### What a step can do -/

/-- Whether `__system_property_set` succeeds in the block. -/
def LockAct.setOk : LockAct → Bool
  | .onFingerDown setOk | .worker setOk => setOk
  | _ => true

/-- The blocks of the detached threads, and their accesses to `mLightAreaStable`. -/
def LockAct.detached : LockAct → Bool
  | .enqueueStable _ | .enqueueClose _ | .setLightAreaStable _ => true
  | _ => false

/-- What the worker does with a command that its checks let through. -/
def handOver (daemon setOk : Bool) (command : GoodixCommand) (s : Hal) : Hal × List Event :=
  let sends := if daemon then [Event.sent command] else []
  if command.command = .fingerUp then
    ((requestHbm setOk false s).1, sends ++ (requestHbm setOk false s).2)
  else (s, sends)

/-- The steps from a state with the invariant: the worker drops nothing there. -/
inductive LockEffect (daemon : Bool) (s : Hal) : LockAct → Hal → List Event → Prop
  | down (setOk : Bool) : LockEffect daemon s (.onFingerDown setOk) (onFingerDown setOk s).1
      (onFingerDown setOk s).2
  | up (hd : s.mFingerDown = true) :
      LockEffect daemon s .onFingerUp (onFingerUp s).1 (onFingerUp s).2
  | send (setOk : Bool) (c : GoodixCommand) (rest : List GoodixCommand)
      (hq : s.mCommandQueue = c :: rest) (hc : c.command ≠ .fingerUp) :
      LockEffect daemon s (.worker setOk) { s with mCommandQueue := rest }
        (if daemon then [.sent c] else [])
  | sendUp (setOk : Bool) (c : GoodixCommand) (rest : List GoodixCommand)
      (hq : s.mCommandQueue = c :: rest) (hc : c.command = .fingerUp) :
      LockEffect daemon s (.worker setOk) (requestHbm setOk false { s with mCommandQueue := rest }).1
        ((if daemon then [.sent c] else []) ++
          (requestHbm setOk false { s with mCommandQueue := rest }).2)
  | push (a : LockAct) (ha : a.detached = true) (c : GoodixCommand) (hc : c.command.isTouch = false)
      (hs : c.sequence = s.mFingerSequence) (hf : c.command.fits s.mFingerDown = true) :
      LockEffect daemon s a { s with mCommandQueue := s.mCommandQueue ++ [c] } [.queued c]
  | quiet (a : LockAct) (ha : ∀ setOk, a ≠ .worker setOk) (b : Bool) :
      LockEffect daemon s a { s with mLightAreaStable := b } []

section Effect

variable {daemon : Bool} {s s' : Hal} {a : LockAct} {os : List Event}

/-- What a round of the worker leaves alone, from any state, and the events it may have. -/
structure Worked (s s' : Hal) (os : List Event) : Prop where
  sequence : s'.mFingerSequence = s.mFingerSequence
  down : s'.mFingerDown = s.mFingerDown
  stable : s'.mLightAreaStable = s.mLightAreaStable
  events : ∀ e ∈ os, (∃ c, e = .sent c) ∨ ∃ b, e = .hbm b

theorem worked {setOk : Bool} (h : workerRound daemon setOk s = some (s', os)) : Worked s s' os := by
  unfold workerRound at h
  cases hq : s.mCommandQueue with
  | nil => simp [hq] at h
  | cons c rest =>
    have hsends : ∀ e ∈ (if daemon then [Event.sent c] else []),
        (∃ c, e = .sent c) ∨ ∃ b, e = .hbm b := by
      intro e he
      split at he
      · exact .inl ⟨c, List.mem_singleton.1 he⟩
      · cases he
    simp only [hq] at h
    generalize (if daemon then [Event.sent c] else []) = sends at h hsends
    split_ifs at h <;> obtain ⟨rfl, rfl⟩ := Prod.mk.inj (Option.some.inj h)
    -- the three checks that drop the command
    · exact ⟨rfl, rfl, rfl, by simp⟩
    · exact ⟨rfl, rfl, rfl, by simp⟩
    · exact ⟨rfl, rfl, rfl, by simp⟩
    · refine ⟨by simp, by simp, by simp, fun e he => ?_⟩
      rcases List.mem_append.1 he with he | he
      · exact hsends e he
      · exact .inr ⟨_, mem_requestHbm _ _ he⟩
    · exact ⟨rfl, rfl, rfl, hsends⟩

/-- What `enqueueGoodixCommand` does with one of the two light-area commands. -/
theorem lockEffect_enqueue (ha : a.detached = true) {cmd : Cmd} (q : UInt64)
    (hc : cmd.isTouch = false) :
    LockEffect daemon s a (enqueueGoodixCommand cmd q s).1 (enqueueGoodixCommand cmd q s).2 := by
  have hw : ∀ setOk, a ≠ .worker setOk := by rintro setOk rfl; simp [LockAct.detached] at ha
  unfold enqueueGoodixCommand
  split_ifs with h1 h2 h3
  · exact .quiet a hw s.mLightAreaStable
  · exact .quiet a hw s.mLightAreaStable
  · exact .quiet a hw s.mLightAreaStable
  · refine .push a ha ⟨q, cmd⟩ hc (not_not.1 h1) ?_
    cases cmd <;> simp_all [Cmd.fits, Cmd.isTouch]

theorem workerRound_eq_handOver {setOk : Bool} {c : GoodixCommand} {rest : List GoodixCommand}
    (h : QueueInv s) (hq : s.mCommandQueue = c :: rest) :
    workerRound daemon setOk s = some (handOver daemon setOk c { s with mCommandQueue := rest }) := by
  have hs : c.sequence = s.mFingerSequence := h.sequence c (by simp [hq])
  have hf : c.command.fits s.mFingerDown = true := h.fits c (by simp [hq])
  have hstable : ¬ (c.command = .lightAreaStable ∧ s.mFingerDown = false) := by
    rintro ⟨e, hd⟩
    simp [e, hd, Cmd.fits] at hf
  have hclose : ¬ (c.command = .lightAreaClose ∧ s.mFingerDown = true) := by
    rintro ⟨e, hd⟩
    simp [e, hd, Cmd.fits] at hf
  unfold workerRound handOver
  rw [hq]
  simp only [hs, ne_eq, not_true_eq_false, if_false, hstable, hclose]
  split_ifs <;> rfl

theorem lockEffect_worker {setOk : Bool} (h : QueueInv s)
    (hs : workerRound daemon setOk s = some (s', os)) :
    LockEffect daemon s (.worker setOk) s' os := by
  cases hq : s.mCommandQueue with
  | nil => simp [workerRound, hq] at hs
  | cons c rest =>
    rw [workerRound_eq_handOver h hq, Option.some.injEq] at hs
    unfold handOver at hs
    by_cases hc : c.command = .fingerUp
    · rw [if_pos hc] at hs
      obtain ⟨rfl, rfl⟩ := Prod.mk.inj hs
      exact .sendUp setOk c rest hq hc
    · rw [if_neg hc] at hs
      obtain ⟨rfl, rfl⟩ := Prod.mk.inj hs
      exact .send setOk c rest hq hc

theorem lockEffect_of_step (h : QueueInv s) (hs : lockStep daemon s a = some (s', os)) :
    LockEffect daemon s a s' os := by
  cases a with
  | onFingerDown setOk =>
    obtain ⟨rfl, rfl⟩ := Prod.mk.inj (Option.some.inj hs)
    exact .down setOk
  | onFingerUp =>
    have hs : onFingerUp s = (s', os) := Option.some.inj hs
    by_cases hd : s.mFingerDown = true
    · have he : LockEffect daemon s .onFingerUp (onFingerUp s).1 (onFingerUp s).2 := .up hd
      rwa [hs] at he
    · rw [onFingerUp_of_up (by simpa using hd)] at hs
      obtain ⟨rfl, rfl⟩ := Prod.mk.inj hs
      exact .quiet _ (by simp) s.mLightAreaStable
  | worker setOk => exact lockEffect_worker h hs
  | enqueueStable q =>
    obtain ⟨rfl, rfl⟩ := Prod.mk.inj (Option.some.inj hs)
    exact lockEffect_enqueue rfl q rfl
  | enqueueClose q =>
    obtain ⟨rfl, rfl⟩ := Prod.mk.inj (Option.some.inj hs)
    exact lockEffect_enqueue rfl q rfl
  | setLightAreaStable b =>
    obtain ⟨rfl, rfl⟩ := Prod.mk.inj (Option.some.inj hs)
    exact .quiet _ (by simp) b

theorem QueueInv.effect (h : QueueInv s) (he : LockEffect daemon s a s' os) :
    QueueInv s' := by
  cases he with
  | down setOk => exact queueInv_onFingerDown setOk s
  | up hd => exact queueInv_onFingerUp h
  | send setOk c rest hq hc => exact h.pop hq
  | sendUp setOk c rest hq hc => exact (h.pop hq).of_eq (by simp) (by simp) (by simp)
  | push a ha c hc hs hf => exact h.push hs hf hc
  | quiet a _ b => exact h.of_eq rfl rfl rfl

variable {C : Hal → LockAct → Prop} {tr : List Event}

/-- **The invariant of the queue holds in every run.** -/
theorem queueInv_run (h : (lockLts daemon).Run C tr s) : QueueInv s :=
  h.inv_state queueInv_initial fun hi _ hs => hi.effect (lockEffect_of_step hi hs)

/-- The invariant rule on the effects of the steps, with the invariant of the queue at hand. -/
theorem run_inv_of_effect {I : List Event → Hal → Prop} (h0 : I [] Hal.initial)
    (hs : ∀ {tr s a s' os}, QueueInv s → I tr s → C s a →
      LockEffect daemon s a s' os → I (tr ++ os) s') (h : (lockLts daemon).Run C tr s) : I tr s := by
  refine (h.inv (I := fun tr s => QueueInv s ∧ I tr s) ⟨queueInv_initial, h0⟩ ?_).2
  intro tr s a s' os hi hc ha
  have he := lockEffect_of_step hi.1 ha
  exact ⟨hi.1.effect he, hs hi.1 hi.2 hc he⟩

end Effect

/-! ### The HBM request -/

/-- The queue holds such a command. -/
def Hal.queues (s : Hal) (cmd : Cmd) : Prop := ∃ c ∈ s.mCommandQueue, c.command = cmd

instance (s : Hal) (cmd : Cmd) : Decidable (s.queues cmd) := by unfold Hal.queues; infer_instance

/-- A finger is down, or its `CMD_FINGER_UP` has not been handed over yet. -/
def Hal.pressPending (s : Hal) : Prop := s.mFingerDown = true ∨ s.queues .fingerUp

section Hbm

variable {daemon : Bool} {s s' : Hal} {a : LockAct} {os : List Event} {tr : List Event}

/-- The condition that `__system_property_set` succeeds. -/
def HbmSetOk (_ : Hal) (a : LockAct) : Prop := a.setOk = true

instance (s : Hal) (a : LockAct) : Decidable (HbmSetOk s a) := by unfold HbmSetOk; infer_instance

theorem hbm_effect (hi : QueueInv s) (h : s.hbmProperty = true ↔ s.pressPending)
    (hok : HbmSetOk s a) (he : LockEffect daemon s a s' os) : s'.hbmProperty = true ↔ s'.pressPending := by
  unfold Hal.pressPending Hal.queues at *
  cases he with
  | down setOk =>
    obtain rfl : setOk = true := hok
    simp [onFingerDown]
  | up hd =>
    have : s.hbmProperty = true := h.2 (.inl hd)
    simp [onFingerUp_of_down hd, this]
  | send setOk c rest hq hc => simpa [hq, hc] using h
  | sendUp setOk c rest hq hc =>
    obtain rfl : setOk = true := hok
    have hd : s.mFingerDown = false := by simpa [hc, Cmd.fits] using hi.fits c (by simp [hq])
    have ht : ∀ d ∈ rest, d.command ≠ .fingerUp := fun d hd e =>
      hi.notMem_tail hq (by simp [e, Cmd.isTouch]) hd
    simpa [hd] using ht
  | push a ha c hc hs hf =>
    have : c.command ≠ .fingerUp := by rintro e; simp [e, Cmd.isTouch] at hc
    simpa [or_and_right, exists_or, this] using h
  | quiet a _ b => simpa using h

theorem hbm_run (h : (lockLts daemon).Run HbmSetOk tr s) :
    s.hbmProperty = true ↔ s.pressPending := by
  refine run_inv_of_effect (I := fun _ s => s.hbmProperty = true ↔ s.pressPending) ?_ ?_ h
  · simp [Hal.initial, Hal.pressPending, Hal.queues]
  · intro tr s a s' os hi h hc he
    exact hbm_effect hi h hc he

/-- A step that requests the HBM off is the worker's, after a `CMD_FINGER_UP`. -/
theorem down_of_hbm_off (hi : QueueInv s) (he : LockEffect daemon s a s' os)
    (hm : Event.hbm false ∈ os) : s.mFingerDown = false ∧ s'.mFingerDown = false := by
  cases he with
  | down setOk =>
    simp only [onFingerDown, List.mem_cons, reduceCtorEq, false_or] at hm
    simpa using mem_requestHbm _ _ hm
  | up hd => simp [onFingerUp_of_down hd] at hm
  | send setOk c rest hq hc => split at hm <;> simp at hm
  | sendUp setOk c rest hq hc =>
    have hd : s.mFingerDown = false := by simpa [hc, Cmd.fits] using hi.fits c (by simp [hq])
    exact ⟨hd, by simpa using hd⟩
  | push a ha c hc hs hf => simp at hm
  | quiet a _ b => simp at hm

end Hbm

/-! ### Within a press -/

/-- Only the worker hands a command over, and it is the head of the queue. -/
theorem head_of_sent {daemon : Bool} {s s' : Hal} {a : LockAct} {os : List Event} {c : GoodixCommand}
    (he : LockEffect daemon s a s' os) (hm : .sent c ∈ os) :
    daemon = true ∧ ∃ rest, s.mCommandQueue = c :: rest := by
  cases he with
  | down setOk =>
    simp only [onFingerDown, List.mem_cons, reduceCtorEq, false_or] at hm
    cases mem_requestHbm _ _ hm
  | up hd => simp [onFingerUp_of_down hd] at hm
  | send setOk d rest hq hc =>
    cases daemon <;> simp at hm
    exact ⟨rfl, rest, hm ▸ hq⟩
  | sendUp setOk d rest hq hc =>
    rcases List.mem_append.1 hm with hm | hm
    · cases daemon <;> simp at hm
      exact ⟨rfl, rest, hm ▸ hq⟩
    · cases mem_requestHbm _ _ hm
  | push a ha c hc hs hf => simp at hm
  | quiet a _ b => simp at hm

/-- `CMD_FINGER_DOWN` of this sequence number has been handed over, and no `CMD_FINGER_UP` since. -/
def SentDown (q : UInt64) (tr : List Event) : Prop :=
  ∃ pre post, tr = pre ++ .sent ⟨q, .fingerDown⟩ :: post ∧ ∀ c, .sent c ∈ post → c.command ≠ .fingerUp

theorem SentDown.append {q : UInt64} {tr os : List Event} (h : SentDown q tr)
    (ho : ∀ c, .sent c ∈ os → c.command ≠ .fingerUp) : SentDown q (tr ++ os) := by
  obtain ⟨pre, post, rfl, hp⟩ := h
  refine ⟨pre, post ++ os, by simp, fun c hc => ?_⟩
  rcases List.mem_append.1 hc with hc | hc
  · exact hp c hc
  · exact ho c hc

section InPress

variable {s s' : Hal} {a : LockAct} {os tr : List Event} {C : Hal → LockAct → Prop}

theorem inPress_effect (hi : QueueInv s)
    (h : s.mFingerDown = true → ⟨s.mFingerSequence, .fingerDown⟩ ∉ s.mCommandQueue →
      SentDown s.mFingerSequence tr)
    (he : LockEffect true s a s' os) :
    s'.mFingerDown = true → ⟨s'.mFingerSequence, .fingerDown⟩ ∉ s'.mCommandQueue →
      SentDown s'.mFingerSequence (tr ++ os) := by
  cases he with
  | down setOk => simp
  | up hd => simp [onFingerUp_of_down hd]
  | send setOk c rest hq hc =>
    intro hd hn
    by_cases hm : c.command = .fingerDown
    · have : c = ⟨s.mFingerSequence, .fingerDown⟩ := by
        rw [← hi.sequence c (by simp [hq]), ← hm]
      exact ⟨tr, [], by simp [this], by simp⟩
    · refine (h hd ?_).append fun d hd => ?_
      · rw [hq]
        rintro hmem
        rcases List.mem_cons.1 hmem with e | e
        · exact hm (by rw [← e])
        · exact hn e
      · simp only [if_true, List.mem_singleton, Event.sent.injEq] at hd
        exact hd ▸ hc
  | sendUp setOk c rest hq hc =>
    intro hd
    have : s.mFingerDown = false := by simpa [hc, Cmd.fits] using hi.fits c (by simp [hq])
    simp [this] at hd
  | push a ha c hc hs hf =>
    intro hd hn
    exact (h hd fun hm => hn (List.mem_append_left _ hm)).append (by simp)
  | quiet a _ b => simpa using h

/-- Once the `CMD_FINGER_DOWN` of the press has left the queue, it has been handed over. -/
theorem inPress_run (h : (lockLts true).Run C tr s) (hd : s.mFingerDown = true)
    (hn : ⟨s.mFingerSequence, .fingerDown⟩ ∉ s.mCommandQueue) : SentDown s.mFingerSequence tr := by
  refine run_inv_of_effect (I := fun tr s => s.mFingerDown = true →
    ⟨s.mFingerSequence, .fingerDown⟩ ∉ s.mCommandQueue → SentDown s.mFingerSequence tr)
    ?_ ?_ h hd hn
  · simp [Hal.initial]
  · intro tr s a s' os hi h _ he
    exact inPress_effect hi h he

end InPress

/-! ### The shape of the queue -/

/-- A queued command of the light area is one that its state allows. -/
theorem QueueInv.lightArea {s : Hal} (h : QueueInv s) {c : GoodixCommand} (hc : c ∈ s.mCommandQueue)
    (ht : c.command.isTouch = false) :
    c.command = .lightAreaStable ∧ s.mFingerDown = true ∨
      c.command = .lightAreaClose ∧ s.mFingerDown = false := by
  have hf := h.fits c hc
  cases he : c.command with
  | fingerDown | fingerUp => simp [he, Cmd.isTouch] at ht
  | lightAreaStable => exact .inl ⟨rfl, by simpa [he, Cmd.fits] using hf⟩
  | lightAreaClose => exact .inr ⟨rfl, by simpa [he, Cmd.fits] using hf⟩

theorem QueueInv.countP_touch_le {s : Hal} (h : QueueInv s) :
    s.mCommandQueue.countP (fun c => c.command.isTouch) ≤ 1 := by
  cases hq : s.mCommandQueue with
  | nil => simp
  | cons c rest =>
    have hrest : rest.countP (fun c => c.command.isTouch) = 0 := by
      rw [List.countP_eq_zero]
      intro d hd
      simpa using h.tail d (by rw [hq]; exact hd)
    rw [List.countP_cons, hrest]
    split <;> omega

/-- **The shape of the queue**, in every state that is reachable at mutex granularity. -/
theorem queue_representation {daemon : Bool} {tr : List Event} {s : Hal}
    (h : (lockLts daemon).Reach tr s) :
    (∀ c ∈ s.mCommandQueue, c.sequence = s.mFingerSequence) ∧
      (∀ i c, s.mCommandQueue[i]? = some c → c.command.isTouch = true → i = 0) ∧
      s.mCommandQueue.countP (fun c => c.command.isTouch) ≤ 1 ∧
      (∀ c ∈ s.mCommandQueue, (c.command = .fingerDown → s.mFingerDown = true) ∧
        (c.command = .fingerUp → s.mFingerDown = false)) ∧
      (∀ c ∈ s.mCommandQueue, c.command.isTouch = false →
        c.command = .lightAreaStable ∧ s.mFingerDown = true ∨
          c.command = .lightAreaClose ∧ s.mFingerDown = false) ∧
      ∀ setOk c rest, s.mCommandQueue = c :: rest →
        workerRound daemon setOk s = some (handOver daemon setOk c { s with mCommandQueue := rest }) := by
  have hi := queueInv_run h
  refine ⟨hi.sequence, fun i c hc ht => ?_, hi.countP_touch_le, fun c hc => ⟨fun he => ?_, fun he => ?_⟩,
    fun _ hc ht => hi.lightArea hc ht, fun setOk c rest hq => workerRound_eq_handOver hi hq⟩
  · cases i with
    | zero => rfl
    | succ i =>
      have hm : c ∈ s.mCommandQueue.tail :=
        List.mem_of_getElem? (by rw [List.getElem?_tail]; exact hc)
      simp [hi.tail c hm] at ht
  · simpa [he, Cmd.fits] using hi.fits c hc
  · simpa [he, Cmd.fits] using hi.fits c hc

/-- A press whose light area becomes stable before the worker wakes up, and a late enqueue of the time
before the press. -/
def pressAndStale : List LockAct := [.onFingerDown true, .enqueueStable 1, .enqueueClose 0]

theorem queue_representation_press : ∃ tr s, (lockLts true).Reach tr s ∧
    s.mCommandQueue = [⟨1, .fingerDown⟩, ⟨1, .lightAreaStable⟩] ∧
      ∀ c ∈ s.mCommandQueue, c.sequence = s.mFingerSequence := by
  obtain ⟨tr, s, h, hq⟩ := Lts.exists_run (M := lockLts true) (C := fun _ _ => True)
    (P := fun _ s => s.mCommandQueue = [⟨1, .fingerDown⟩, ⟨1, .lightAreaStable⟩]) pressAndStale (by decide)
  exact ⟨tr, s, h, hq, (queue_representation h).1⟩

end TrebleDoze.Fingerprint
