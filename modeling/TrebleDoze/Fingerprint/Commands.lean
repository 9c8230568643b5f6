import TrebleDoze.Fingerprint.Threads
import TrebleDoze.Lib.Trace

/-!
# What the Goodix daemon is handed

* `touches_alternate`: the daemon is handed `CMD_FINGER_DOWN`, `CMD_FINGER_UP`, … in turn in the runs in
  which no touch event clears a touch command it does not replace; the first one that does breaks the
  alternation at the worker's next round (`touches_not_alternating` is a short tap);
* `sent_lightArea`: `CMD_LIGHT_AREA_STABLE` is handed over within its own press only, and
  `CMD_LIGHT_AREA_CLOSE` only while no finger is down;
* `hbm_on_iff`: the HBM is requested exactly while a press is pending.
-/

namespace TrebleDoze.Fingerprint

open TrebleDoze.Lib

/-! ### The touch commands -/

/-- The commands of touch events handed to `sendCommand`, in order. -/
def touches (tr : List Event) : List Cmd :=
  tr.filterMap fun
    | .sent c => if c.command.isTouch then some c.command else none
    | _ => none

/-- The touch event clears no command of a touch event but the one it puts in the queue again. -/
def TouchInTurn (s : Hal) : LockAct → Prop
  | .onFingerDown _ => if s.mFingerDown then s.queues .fingerDown else ¬ s.queues .fingerUp
  | .onFingerUp => s.mFingerDown = true → ¬ s.queues .fingerDown
  | _ => True

instance (s : Hal) (a : LockAct) : Decidable (TouchInTurn s a) := by
  unfold TouchInTurn; split <;> infer_instance

instance (s : Threads) (a : Act) : Decidable (onThreads TouchInTurn s a) := by
  unfold onThreads; split <;> infer_instance

theorem inTurn_of_detached (s : Hal) (a : LockAct) (h : a.detached = true) : TouchInTurn s a := by
  cases a <;> simp_all [LockAct.detached, TouchInTurn]

theorem hbmSetOk_of_detached (s : Hal) (a : LockAct) (h : a.detached = true) : HbmSetOk s a := by
  cases a <;> simp_all [LockAct.detached, HbmSetOk, LockAct.setOk]

instance (s : Threads) (a : Act) : Decidable (onThreads HbmSetOk s a) := by
  unfold onThreads; split <;> infer_instance

@[simp] theorem touches_append (l r : List Event) : touches (l ++ r) = touches l ++ touches r :=
  List.filterMap_append

theorem touches_requestHbm (setOk e : Bool) (s : Hal) : touches (requestHbm setOk e s).2 = [] := by
  unfold requestHbm; split <;> rfl

theorem touches_onFingerDown (setOk : Bool) (s : Hal) : touches (onFingerDown setOk s).2 = [] :=
  touches_requestHbm setOk true _

theorem touches_onFingerUp (s : Hal) : touches (onFingerUp s).2 = [] := by
  unfold onFingerUp; split <;> rfl

theorem touches_lockEvent (tr : List Event) : touches (tr.filterMap lockEvent) = touches tr := by
  unfold touches
  rw [List.filterMap_filterMap]
  congr 1
  funext e
  cases e <;> rfl

/-- The touch commands sent so far alternate, and the one whose turn it is not is the last touch
event's, unless that still waits in the queue. -/
structure TurnInv (tr : List Event) (s : Hal) : Prop where
  alternates : Alternates .fingerDown .fingerUp (touches tr)
  down : s.mFingerDown = true → (s.queues .fingerDown ↔ (touches tr).length % 2 = 0)
  up : s.mFingerDown = false → (s.queues .fingerUp ↔ (touches tr).length % 2 = 1)

section Turn

variable {s s' : Hal} {a : LockAct} {tr os : List Event}

theorem turnInv_initial : TurnInv [] Hal.initial :=
  ⟨alternates_nil _ _, by simp [Hal.initial], by simp [Hal.initial, Hal.queues, touches]⟩

/-- The head of the queue, when it is a touch command, is the one whose turn it is. -/
theorem TurnInv.head (h : TurnInv tr s) (hi : QueueInv s) {c : GoodixCommand}
    {rest : List GoodixCommand} (hq : s.mCommandQueue = c :: rest) (hc : c.command.isTouch = true) :
    c.command = if (touches tr).length % 2 = 0 then .fingerDown else .fingerUp := by
  have hf : c.command.fits s.mFingerDown = true := hi.fits c (by simp [hq])
  have hm : s.queues c.command := ⟨c, by simp [hq], rfl⟩
  cases hd : s.mFingerDown with
  | true =>
    have e : c.command = .fingerDown := by
      cases he : c.command <;> simp_all [Cmd.fits, Cmd.isTouch]
    rw [e] at hm ⊢
    rw [if_pos ((h.down hd).1 hm)]
  | false =>
    have e : c.command = .fingerUp := by
      cases he : c.command <;> simp_all [Cmd.fits, Cmd.isTouch]
    rw [e] at hm ⊢
    have : (touches tr).length % 2 = 1 := (h.up hd).1 hm
    rw [if_neg (by omega)]

theorem TurnInv.send (h : TurnInv tr s) (hi : QueueInv s) {c : GoodixCommand}
    {rest : List GoodixCommand} (hq : s.mCommandQueue = c :: rest) (ho : touches os =
      if c.command.isTouch then [c.command] else []) (hs : s'.mCommandQueue = rest)
    (hd : s'.mFingerDown = s.mFingerDown) : TurnInv (tr ++ os) s' := by
  by_cases hc : c.command.isTouch = true
  · have hh := h.head hi hq hc
    have hn : ∀ cmd : Cmd, cmd.isTouch = true → ¬ s'.queues cmd := by
      rintro cmd ht ⟨d, hm, rfl⟩
      exact hi.notMem_tail hq ht (hs ▸ hm)
    have hl : (touches (tr ++ os)).length = (touches tr).length + 1 := by simp [ho, hc]
    refine ⟨?_, ?_, ?_⟩
    · rw [touches_append, ho, if_pos hc]
      exact alternates_snoc.2 ⟨h.alternates, hh⟩
    · intro hd'
      have hf := hi.fits c (by simp [hq])
      rw [← hd, hd', hh] at hf
      have : (touches tr).length % 2 = 0 := by
        by_contra hne
        rw [if_neg hne] at hf
        exact absurd hf (by decide)
      rw [hl, iff_false_left (hn .fingerDown rfl)]
      omega
    · intro hd'
      have hf := hi.fits c (by simp [hq])
      rw [← hd, hd', hh] at hf
      have : (touches tr).length % 2 ≠ 0 := by
        intro he
        rw [if_pos he] at hf
        exact absurd hf (by decide)
      rw [hl, iff_false_left (hn .fingerUp rfl)]
      omega
  · have hq' : ∀ cmd : Cmd, cmd.isTouch = true → (s'.queues cmd ↔ s.queues cmd) := by
      intro cmd ht
      have hne : c.command ≠ cmd := by rintro rfl; exact hc ht
      simp [Hal.queues, hs, hq, hne]
    rw [if_neg hc] at ho
    have ht : touches (tr ++ os) = touches tr := by simp [ho]
    refine ⟨by rw [ht]; exact h.alternates, ?_, ?_⟩
    · rw [hd, hq' _ rfl, ht]; exact h.down
    · rw [hd, hq' _ rfl, ht]; exact h.up

theorem touches_sent (c : GoodixCommand) :
    touches [.sent c] = if c.command.isTouch then [c.command] else [] := by
  unfold touches
  by_cases h : c.command.isTouch = true <;> simp [h]

/-- A touch event in turn leaves its own command at the head of the queue, and its turn next. -/
theorem turnInv_effect (h : TurnInv tr s) (hi : QueueInv s) (hc : TouchInTurn s a)
    (he : LockEffect true s a s' os) : TurnInv (tr ++ os) s' := by
  cases he with
  | down setOk =>
    have ht : touches (tr ++ (onFingerDown setOk s).2) = touches tr := by
      rw [touches_append, touches_onFingerDown, List.append_nil]
    have heven : (touches tr).length % 2 = 0 := by
      cases hd : s.mFingerDown with
      | true => exact (h.down hd).1 (by simpa [TouchInTurn, hd] using hc)
      | false =>
        have hn : ¬ s.queues .fingerUp := by simpa [TouchInTurn, hd] using hc
        have := mt (h.up hd).2 hn
        omega
    refine ⟨by rw [ht]; exact h.alternates, fun _ => ?_, by simp⟩
    rw [ht]
    exact iff_of_true ⟨⟨s.mFingerSequence + 1, .fingerDown⟩, by simp, rfl⟩ heven
  | up hd =>
    have ht : touches (tr ++ (onFingerUp s).2) = touches tr := by
      rw [touches_append, touches_onFingerUp, List.append_nil]
    have hodd : (touches tr).length % 2 = 1 := by
      have := mt (h.down hd).2 (hc hd)
      omega
    refine ⟨by rw [ht]; exact h.alternates, by simp [onFingerUp_of_down hd], fun _ => ?_⟩
    rw [ht]
    exact iff_of_true ⟨⟨s.mFingerSequence + 1, .fingerUp⟩, by simp [onFingerUp_of_down hd], rfl⟩ hodd
  | send setOk c rest hq _ => exact h.send hi hq (touches_sent c) rfl rfl
  | sendUp setOk c rest hq _ =>
    refine h.send hi hq ?_ (by simp) (by simp)
    rw [touches_append, touches_requestHbm, List.append_nil]
    exact touches_sent c
  | push a ha c hnt hs hf =>
    have ht : touches (tr ++ [.queued c]) = touches tr := by simp [touches]
    have hq : ∀ cmd : Cmd, cmd.isTouch = true →
        (Hal.queues { s with mCommandQueue := s.mCommandQueue ++ [c] } cmd ↔ s.queues cmd) := by
      intro cmd hcmd
      have hne : c.command ≠ cmd := by rintro rfl; simp [hnt] at hcmd
      simp [Hal.queues, or_and_right, exists_or, hne]
    refine ⟨by rw [ht]; exact h.alternates, ?_, ?_⟩
    · rw [hq _ rfl, ht]; exact h.down
    · rw [hq _ rfl, ht]; exact h.up
  | quiet a _ b => rw [List.append_nil]; exact ⟨h.alternates, h.down, h.up⟩

theorem turnInv_run (h : (lockLts true).Run TouchInTurn tr s) : TurnInv tr s :=
  run_inv_of_effect (I := TurnInv) turnInv_initial (fun hi h hc he => turnInv_effect h hi hc he) h

theorem exists_workerRound (hi : QueueInv s) {c : GoodixCommand} {rest : List GoodixCommand}
    (hq : s.mCommandQueue = c :: rest) (setOk : Bool) :
    ∃ s' os, workerRound true setOk s = some (s', os) ∧
      touches os = if c.command.isTouch then [c.command] else [] := by
  obtain ⟨⟨s', os⟩, hw⟩ : ∃ r, workerRound true setOk s = some r := by
    unfold workerRound
    rw [hq]
    dsimp only
    split_ifs <;> exact ⟨_, rfl⟩
  refine ⟨s', os, hw, ?_⟩
  cases lockEffect_worker hi hw with
  | send _ d l hq' _ =>
    obtain ⟨rfl, -⟩ := List.cons.inj (hq.symm.trans hq')
    exact touches_sent c
  | sendUp _ d l hq' _ =>
    obtain ⟨rfl, -⟩ := List.cons.inj (hq.symm.trans hq')
    rw [touches_append, touches_requestHbm, List.append_nil]
    exact touches_sent c
  | push _ ha => simp [LockAct.detached] at ha
  | quiet _ ha => exact absurd rfl (ha setOk)

/-- A touch event out of turn leaves the wrong command at the head of the queue. -/
theorem head_of_not_inTurn (h : TurnInv tr s) (hc : ¬ TouchInTurn s a)
    (hs : lockStep true s a = some (s', os)) :
    ∃ c, s'.mCommandQueue = [c] ∧ c.command.isTouch = true ∧ touches os = [] ∧
      c.command ≠ if (touches tr).length % 2 = 0 then .fingerDown else .fingerUp := by
  cases a with
  | onFingerDown setOk =>
    obtain ⟨rfl, rfl⟩ := Prod.mk.inj (Option.some.inj hs)
    refine ⟨_, onFingerDown_queue setOk s, rfl, touches_onFingerDown setOk s, ?_⟩
    have hodd : (touches tr).length % 2 = 1 := by
      cases hd : s.mFingerDown with
      | true =>
        have hn : ¬ s.queues .fingerDown := by simpa [TouchInTurn, hd] using hc
        have := mt (h.down hd).2 hn
        omega
      | false => exact (h.up hd).1 (by simpa [TouchInTurn, hd] using hc)
    rw [if_neg (by omega)]
    simp
  | onFingerUp =>
    obtain ⟨hd, hq⟩ : s.mFingerDown = true ∧ s.queues .fingerDown := by
      simpa [TouchInTurn] using hc
    have hs : onFingerUp s = (s', os) := Option.some.inj hs
    rw [onFingerUp_of_down hd] at hs
    obtain ⟨rfl, rfl⟩ := Prod.mk.inj hs
    refine ⟨⟨s.mFingerSequence + 1, .fingerUp⟩, rfl, rfl, rfl, ?_⟩
    rw [if_pos ((h.down hd).1 hq)]
    simp
  | worker _ | enqueueStable _ | enqueueClose _ | setLightAreaStable _ => exact absurd trivial hc

end Turn

/-- **The touch commands alternate in the runs whose touch events are all in turn**, and a touch event
that is not breaks the alternation at the worker's next round. -/
theorem touches_alternate {tr : List Event} {s : Threads}
    (h : (threadsLts true).Run (onThreads TouchInTurn) tr s) :
    Alternates .fingerDown .fingerUp (touches tr) ∧
      ∀ a s₁ os₁ setOk, ¬ onThreads TouchInTurn s a → threadsStep true s a = some (s₁, os₁) →
        ∃ s₂ os₂, threadsStep true s₁ (.worker setOk) = some (s₂, os₂) ∧
          ¬ Alternates .fingerDown .fingerUp (touches (tr ++ os₁ ++ os₂)) := by
  have hr := (threads_refines_lock true inTurn_of_detached).run h
  have hi := queueInv_run hr
  have ht := turnInv_run hr
  refine ⟨touches_lockEvent tr ▸ ht.alternates, fun a s₁ os₁ setOk hc hs => ?_⟩
  have key : ∀ b : LockAct, ¬ TouchInTurn s.hal b → lockStep true s.hal b = some (s₁.hal, os₁) →
      ∃ s₂ os₂, threadsStep true s₁ (.worker setOk) = some (s₂, os₂) ∧
        ¬ Alternates .fingerDown .fingerUp (touches (tr ++ os₁ ++ os₂)) := by
    intro b hb hl
    obtain ⟨c, hq, hct, ho, hne⟩ := head_of_not_inTurn ht hb hl
    obtain ⟨s₂, os₂, hw, ho₂⟩ := exists_workerRound (hi.effect (lockEffect_of_step hi hl)) hq setOk
    refine ⟨{ s₁ with hal := s₂ }, os₂, by simp [threadsStep, hw], fun ha => hne ?_⟩
    rw [touches_append, touches_append, ho, List.append_nil, ho₂, if_pos hct] at ha
    rw [touches_lockEvent]
    exact (alternates_snoc.1 ha).2
  cases a with
  | onFingerDown b =>
    obtain ⟨rfl, rfl⟩ := Prod.mk.inj (Option.some.inj hs)
    exact key (.onFingerDown b) hc rfl
  | onFingerUp =>
    obtain ⟨rfl, rfl⟩ := Prod.mk.inj (Option.some.inj hs)
    exact key .onFingerUp hc rfl
  | worker b => exact absurd trivial hc
  | poller _ _ => exact absurd trivial hc
  | wait _ _ _ _ => exact absurd trivial hc

/-- A tap whose two commands the worker takes at once, and the next press. -/
def slowTap : List Act :=
  [.onFingerDown true, .worker true, .onFingerUp, .worker true, .onFingerDown true]

theorem touches_alternate_slowTap : ∃ tr s,
    (threadsLts true).Run (onThreads TouchInTurn) tr s ∧ touches tr = [.fingerDown, .fingerUp] ∧
      Alternates .fingerDown .fingerUp (touches tr) ∧
      ∃ s₂ os₂, threadsStep true { s with hal := (onFingerUp s.hal).1 } (.worker true) =
          some (s₂, os₂) ∧
        ¬ Alternates .fingerDown .fingerUp (touches (tr ++ (onFingerUp s.hal).2 ++ os₂)) := by
  obtain ⟨tr, s, h, ht, hn⟩ := Lts.exists_run (M := threadsLts true) (C := onThreads TouchInTurn)
    (P := fun tr s => touches tr = [.fingerDown, .fingerUp] ∧ ¬ onThreads TouchInTurn s .onFingerUp)
    slowTap (by decide)
  obtain ⟨h1, h2⟩ := touches_alternate h
  exact ⟨tr, s, h, ht, h1, h2 .onFingerUp _ _ true hn rfl⟩

/-- A press that ends before the worker wakes up. -/
def shortTap : List Act := [.onFingerDown true, .onFingerUp, .worker true]

/-- A short tap hands over a `CMD_FINGER_UP` alone. -/
theorem touches_not_alternating : ∃ tr s, (threadsLts true).Reach tr s ∧
    ¬ Alternates .fingerDown .fingerUp (touches tr) :=
  Lts.exists_run shortTap (by decide)

/-! ### The light-area commands -/

theorem sentDown_of_lockEvent {q : UInt64} {tr : List Event}
    (h : SentDown q (tr.filterMap lockEvent)) : SentDown q tr := by
  obtain ⟨pre, post, he, hp⟩ := h
  obtain ⟨pre', r, rfl, -, hr⟩ := List.filterMap_eq_append_iff.1 he
  obtain ⟨mid, e, post', rfl, hmid, hee, hpost⟩ := List.filterMap_eq_cons_iff.1 hr
  have hse : e = .sent ⟨q, .fingerDown⟩ := by
    cases e <;> simp_all [lockEvent]
  subst hse
  refine ⟨pre' ++ mid, post', by simp, fun c hc => hp c ?_⟩
  rw [← hpost]
  exact List.mem_filterMap.2 ⟨_, hc, rfl⟩

/-- **The light-area commands are handed over in their own press**: `CMD_LIGHT_AREA_STABLE` while the
finger of that press is down and after its `CMD_FINGER_DOWN`, `CMD_LIGHT_AREA_CLOSE` while no finger
is. -/
theorem sent_lightArea {daemon : Bool} {tr os : List Event} {s s' : Threads} {a : Act}
    (h : (threadsLts daemon).Reach tr s) (hs : threadsStep daemon s a = some (s', os)) (q : UInt64) :
    (.sent ⟨q, .lightAreaStable⟩ ∈ os → s.hal.mFingerDown = true ∧ s.hal.mFingerSequence = q ∧
      ∃ pre post, tr = pre ++ .sent ⟨q, .fingerDown⟩ :: post ∧
        ∀ c, .sent c ∈ post → c.command ≠ .fingerUp) ∧
    (.sent ⟨q, .lightAreaClose⟩ ∈ os → s.hal.mFingerDown = false) := by
  have hr := lock_run_of_threads h
  have hi := queueInv_run hr
  have hhead : ∀ c, .sent c ∈ os → daemon = true ∧ ∃ rest, s.hal.mCommandQueue = c :: rest := by
    intro c hc
    obtain ⟨b, os', hl, hm⟩ := lockStep_of_event hs rfl hc
    exact head_of_sent (lockEffect_of_step hi hl) hm
  constructor
  · intro hc
    obtain ⟨rfl, rest, hq⟩ := hhead _ hc
    have hd : s.hal.mFingerDown = true := by
      simpa [Cmd.fits] using hi.fits ⟨q, .lightAreaStable⟩ (by simp [hq])
    have hseq : q = s.hal.mFingerSequence := hi.sequence ⟨q, .lightAreaStable⟩ (by simp [hq])
    have hn : ⟨s.hal.mFingerSequence, .fingerDown⟩ ∉ s.hal.mCommandQueue := by
      rw [hq]
      simpa using hi.notMem_tail hq (d := ⟨s.hal.mFingerSequence, .fingerDown⟩) rfl
    refine ⟨hd, hseq.symm, ?_⟩
    rw [hseq]
    exact sentDown_of_lockEvent (inPress_run hr hd hn)
  · intro hc
    obtain ⟨-, rest, hq⟩ := hhead _ hc
    simpa [Cmd.fits] using hi.fits ⟨q, .lightAreaClose⟩ (by simp [hq])

/-- A press whose light area becomes stable while the finger is down. -/
def spotPress : List Act :=
  [.onFingerDown true, .worker true, .poller true none, .poller true none, .poller true (some [49]),
    .poller true none, .poller true none, .poller true none, .poller true none]

theorem sent_lightArea_spotPress : ∃ tr s s', (threadsLts true).Reach tr s ∧
    threadsStep true s (.worker true) = some (s', [.sent ⟨1, .lightAreaStable⟩]) ∧
      s.hal.mFingerDown = true ∧ s.hal.mFingerSequence = 1 ∧
      ∃ pre post, tr = pre ++ .sent ⟨1, .fingerDown⟩ :: post ∧
        ∀ c, .sent c ∈ post → c.command ≠ .fingerUp := by
  obtain ⟨tr, s, h, hs⟩ := Lts.exists_run (M := threadsLts true) (C := fun _ _ => True)
    (P := fun _ s => (threadsStep true s (.worker true)).map Prod.snd =
      some [.sent ⟨1, .lightAreaStable⟩]) spotPress (by decide)
  obtain ⟨⟨s', os⟩, hs, rfl⟩ := Option.map_eq_some_iff.1 hs
  exact ⟨tr, s, s', h, hs, (sent_lightArea h hs 1).1 (by simp)⟩

/-! ### The HBM request -/

/-- **The HBM is requested exactly while a press is pending**, given that the property can be set: while
a finger is down, or its `CMD_FINGER_UP` is queued.  Hence it is never requested off under a finger,
and off once the finger is up and the queue is empty. -/
theorem hbm_on_iff {daemon : Bool} {tr : List Event} {s : Threads}
    (h : (threadsLts daemon).Run (onThreads HbmSetOk) tr s) :
    (s.hal.hbmProperty = true ↔ s.hal.mFingerDown = true ∨ s.hal.queues .fingerUp) ∧
      (∀ a s' os, threadsStep daemon s a = some (s', os) → .hbm false ∈ os →
        s.hal.mFingerDown = false ∧ s'.hal.mFingerDown = false) ∧
      (s.hal.mFingerDown = false → s.hal.mCommandQueue = [] → s.hal.hbmProperty = false) := by
  have hr := (threads_refines_lock daemon hbmSetOk_of_detached).run h
  have hi := queueInv_run hr
  have hp : s.hal.hbmProperty = true ↔ s.hal.mFingerDown = true ∨ s.hal.queues .fingerUp := hbm_run hr
  refine ⟨hp, fun a s' os hs hm => ?_, fun hd hq => ?_⟩
  · obtain ⟨b, os', hl, hm⟩ := lockStep_of_event hs rfl hm
    exact down_of_hbm_off hi (lockEffect_of_step hi hl) hm
  · simpa [hd, hq, Hal.queues] using hp

theorem hbm_on_iff_slowTap : ∃ tr s, (threadsLts true).Run (onThreads HbmSetOk) tr s ∧
    s.hal.mFingerDown = true ∧ s.hal.hbmProperty = true := by
  obtain ⟨tr, s, h, hd⟩ := Lts.exists_run (M := threadsLts true) (C := onThreads HbmSetOk)
    (P := fun _ s => s.hal.mFingerDown = true) slowTap (by decide)
  exact ⟨tr, s, h, hd, (hbm_on_iff h).1.2 (.inl hd)⟩

end TrebleDoze.Fingerprint
