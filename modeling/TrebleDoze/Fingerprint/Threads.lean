import TrebleDoze.Fingerprint.Queue

/-!
# The threads of the ANAKIN fingerprint HAL

The system at the grain at which its threads interleave: one step is one load, store or exchange of
an atomic member, one read of a node, or one block that holds `mCommandMutex`.

* `pollerStep`, `waitStep`: the spot poller and the thread that `onFingerDown` detaches, from one such
  operation to the next;
* `threadsLts`: the binder threads, the worker, the poller and all wait threads, in any order;
* `PollerMove`, `WaitMove`, `ThreadsMove`: what one operation of a thread, and one step, can do;
* `threads_refines_lock`: seen through the members alone, the threads are the blocks of `lockLts`.
-/

namespace TrebleDoze.Fingerprint

open TrebleDoze.Lib

/-! ### Reading the nodes -/

/-- `readBool`; `none` stands for a failed `lseek` or `read`. -/
def readBool : Option (List UInt8) → Bool
  | none | some [] => false
  | some (c :: _) => c ≠ 48

/-- `readBoolPath`, as the value of a readable node; the argument is what `open` and `read` find. -/
def readBoolPath : Option (List UInt8) → Option Bool
  | none | some [] => none
  | some (c :: _) => some (c ≠ 48)

/-- The test of `waitForHbm` on the two nodes: one of them is readable and on. -/
def hbmAchieved (ghbm spot : Option (List UInt8)) : Bool :=
  readBoolPath ghbm = some true || readBoolPath spot = some true

/-! ### The spot poller -/

/-- The operation the spot poller does next. -/
inductive PollerPc where
  | openNode
  | poll
  | readNode
  /-- Spot on: `mFingerDown.load()`, `mLightAreaStable.exchange(true)`, `mFingerSequence.load()`, and
  the call of `enqueueGoodixCommand`. -/
  | fingerDownLoad
  | stableExchange
  | sequenceLoad
  | enqueueStable (sequence : UInt64)
  /-- Spot off: `mLightAreaStable.store(false)`, the two loads and the call. -/
  | stableStore
  | closeFingerDownLoad
  | closeSequenceLoad
  | enqueueClose (sequence : UInt64)
  | returned
  deriving DecidableEq, Repr

/-- One operation of the poller: where it goes, the members and the events.  `ok` tells whether
`open` or `poll` succeeds, `node` what `readBool` finds. -/
def pollerStep (ok : Bool) (node : Option (List UInt8)) (s : Hal) :
    PollerPc → Option (PollerPc × Hal × List Event)
  | .openNode => some (if ok then .poll else .returned, s, [])
  | .poll => some (if ok then .readNode else .poll, s, [])
  | .readNode =>
    if readBool node then some (.fingerDownLoad, s, [.spot true])
    else some (.stableStore, s, [.spot false])
  | .fingerDownLoad => some (if s.mFingerDown then .stableExchange else .poll, s, [])
  | .stableExchange =>
    some (if s.mLightAreaStable then .poll else .sequenceLoad, { s with mLightAreaStable := true }, [])
  | .sequenceLoad => some (.enqueueStable s.mFingerSequence, s, [])
  | .enqueueStable sequence => some (.poll, enqueueGoodixCommand .lightAreaStable sequence s)
  | .stableStore => some (.closeFingerDownLoad, { s with mLightAreaStable := false }, [])
  | .closeFingerDownLoad => some (if s.mFingerDown then .poll else .closeSequenceLoad, s, [])
  | .closeSequenceLoad => some (.enqueueClose s.mFingerSequence, s, [])
  | .enqueueClose sequence => some (.poll, enqueueGoodixCommand .lightAreaClose sequence s)
  | .returned => none

/-! ### The wait thread of a press -/

/-- The operation a wait thread does next. -/
inductive WaitPc where
  /-- The three conditions and the body of the loop of `waitForHbm`. -/
  | waitFingerDown
  | waitSequence
  | waitClock
  | waitNodes
  /-- After `waitForHbm`. -/
  | fingerDownLoad
  | sequenceLoad
  | stableExchange
  | enqueue
  | finished
  deriving DecidableEq, Repr

/-- A thread that `onFingerDown` detached, with the `sequence` it captured. -/
structure WaitThread where
  sequence : UInt64
  pc : WaitPc
  deriving DecidableEq, Repr

/-- One operation of the wait thread of `press`.  `beforeDeadline` is the answer of the clock, `ghbm`
and `spot` what the two nodes hold. -/
def waitStep (press : ℕ) (beforeDeadline : Bool) (ghbm spot : Option (List UInt8)) (s : Hal)
    (t : WaitThread) : Option (WaitPc × Hal × List Event) :=
  match t.pc with
  | .waitFingerDown =>
    if s.mFingerDown then some (.waitSequence, s, []) else some (.fingerDownLoad, s, [.waited press])
  | .waitSequence =>
    if s.mFingerSequence = t.sequence then some (.waitClock, s, [])
    else some (.fingerDownLoad, s, [.waited press])
  | .waitClock =>
    if beforeDeadline then some (.waitNodes, s, []) else some (.fingerDownLoad, s, [.waited press])
  | .waitNodes =>
    if hbmAchieved ghbm spot then some (.fingerDownLoad, s, [.waited press])
    else some (.waitFingerDown, s, [])
  | .fingerDownLoad =>
    if s.mFingerDown then some (.sequenceLoad, s, []) else some (.finished, s, [.finished press])
  | .sequenceLoad =>
    if s.mFingerSequence = t.sequence then some (.stableExchange, s, [])
    else some (.finished, s, [.finished press])
  | .stableExchange =>
    if s.mLightAreaStable then some (.finished, s, [.finished press])
    else some (.enqueue, { s with mLightAreaStable := true }, [])
  | .enqueue =>
    let r := enqueueGoodixCommand .lightAreaStable t.sequence s
    some (.finished, r.1, r.2 ++ [.finished press])
  | .finished => none

/-! ### The system -/

/-- The members, where the poller is, and the wait threads in the order of their presses. -/
structure Threads where
  hal : Hal
  poller : PollerPc
  waits : List WaitThread
  deriving DecidableEq, Repr

/-- A step of the system: which thread moves, and what the environment answers. -/
inductive Act where
  | onFingerDown (setOk : Bool)
  | onFingerUp
  | worker (setOk : Bool)
  | poller (ok : Bool) (node : Option (List UInt8))
  | wait (press : ℕ) (beforeDeadline : Bool) (ghbm spot : Option (List UInt8))
  deriving DecidableEq, Repr

/-- One step of the system. -/
def threadsStep (daemon : Bool) (s : Threads) : Act → Option (Threads × List Event)
  | .onFingerDown setOk =>
    let r := onFingerDown setOk s.hal
    some ({ s with hal := r.1, waits := s.waits ++ [⟨s.hal.mFingerSequence + 1, .waitFingerDown⟩] },
      r.2)
  | .onFingerUp => some ({ s with hal := (onFingerUp s.hal).1 }, (onFingerUp s.hal).2)
  | .worker setOk => (workerRound daemon setOk s.hal).map fun r => ({ s with hal := r.1 }, r.2)
  | .poller ok node =>
    (pollerStep ok node s.hal s.poller).map fun r => ({ s with hal := r.2.1, poller := r.1 }, r.2.2)
  | .wait press beforeDeadline ghbm spot =>
    s.waits[press]?.bind fun t =>
      (waitStep press beforeDeadline ghbm spot s.hal t).map fun r =>
        ({ s with hal := r.2.1, waits := s.waits.set press { t with pc := r.1 } }, r.2.2)

/-- **The fingerprint HAL with its threads.** -/
def threadsLts (daemon : Bool) : Lts Threads Act Event where
  init := ⟨Hal.initial, .openNode, []⟩
  step := threadsStep daemon

/-! ### What one operation of a thread can do -/

/-- The poller has seen the spot on and has not called `enqueueGoodixCommand` for it yet. -/
def PollerPc.onSpot : PollerPc → Bool
  | .fingerDownLoad | .stableExchange | .sequenceLoad | .enqueueStable _ => true
  | _ => false

/-- The operations of the poller, by what they do to the members. -/
inductive PollerMove (s : Hal) : PollerPc → PollerPc → Hal → List Event → Prop
  | quiet {pc pc' os} (h : pc.onSpot = false) (h' : pc'.onSpot = false)
      (ho : os = [] ∨ os = [.spot false]) : PollerMove s pc pc' s os
  | spot : PollerMove s .readNode .fingerDownLoad s [.spot true]
  | pressed (h : s.mFingerDown = true) : PollerMove s .fingerDownLoad .stableExchange s []
  | notPressed : PollerMove s .fingerDownLoad .poll s []
  | found (h : s.mLightAreaStable = true) : PollerMove s .stableExchange .poll s []
  | exchanged (h : s.mLightAreaStable = false) :
      PollerMove s .stableExchange .sequenceLoad { s with mLightAreaStable := true } []
  | loaded : PollerMove s .sequenceLoad (.enqueueStable s.mFingerSequence) s []
  | enqueueStable (q : UInt64) : PollerMove s (.enqueueStable q) .poll
      (enqueueGoodixCommand .lightAreaStable q s).1 (enqueueGoodixCommand .lightAreaStable q s).2
  | stored : PollerMove s .stableStore .closeFingerDownLoad { s with mLightAreaStable := false } []
  | enqueueClose (q : UInt64) : PollerMove s (.enqueueClose q) .poll
      (enqueueGoodixCommand .lightAreaClose q s).1 (enqueueGoodixCommand .lightAreaClose q s).2

/-- The thread is in `waitForHbm`. -/
def WaitPc.waiting : WaitPc → Bool
  | .waitFingerDown | .waitSequence | .waitClock | .waitNodes => true
  | _ => false

/-- The operations of a wait thread with sequence number `q`, by what they do to the members. -/
inductive WaitMove (press : ℕ) (q : UInt64) (s : Hal) : WaitPc → WaitPc → Hal → List Event → Prop
  | waiting {pc pc'} (h : pc.waiting = true) (h' : pc'.waiting = true) :
      WaitMove press q s pc pc' s []
  | waited {pc} (h : pc.waiting = true) : WaitMove press q s pc .fingerDownLoad s [.waited press]
  | pressed (h : s.mFingerDown = true) : WaitMove press q s .fingerDownLoad .sequenceLoad s []
  | current (h : s.mFingerSequence = q) : WaitMove press q s .sequenceLoad .stableExchange s []
  | gone {pc} (h : pc = .fingerDownLoad ∧ s.mFingerDown = false ∨
      pc = .sequenceLoad ∧ s.mFingerSequence ≠ q) :
      WaitMove press q s pc .finished s [.finished press]
  | found (h : s.mLightAreaStable = true) :
      WaitMove press q s .stableExchange .finished s [.finished press]
  | exchanged (h : s.mLightAreaStable = false) :
      WaitMove press q s .stableExchange .enqueue { s with mLightAreaStable := true } []
  | enqueue : WaitMove press q s .enqueue .finished (enqueueGoodixCommand .lightAreaStable q s).1
      ((enqueueGoodixCommand .lightAreaStable q s).2 ++ [.finished press])

/-- The steps of the system, by the thread that moves. -/
inductive ThreadsMove (daemon : Bool) (s : Threads) : Act → Threads → List Event → Prop
  | down (setOk : Bool) : ThreadsMove daemon s (.onFingerDown setOk)
      { s with hal := (onFingerDown setOk s.hal).1
               waits := s.waits ++ [⟨s.hal.mFingerSequence + 1, .waitFingerDown⟩] }
      (onFingerDown setOk s.hal).2
  | up : ThreadsMove daemon s .onFingerUp { s with hal := (onFingerUp s.hal).1 } (onFingerUp s.hal).2
  | worker {setOk hal os} (h : workerRound daemon setOk s.hal = some (hal, os)) :
      ThreadsMove daemon s (.worker setOk) { s with hal := hal } os
  | poller {ok node pc hal os} (h : PollerMove s.hal s.poller pc hal os) :
      ThreadsMove daemon s (.poller ok node) { s with hal := hal, poller := pc } os
  | wait {press clock ghbm spot t pc hal os} (ht : s.waits[press]? = some t)
      (h : WaitMove press t.sequence s.hal t.pc pc hal os) :
      ThreadsMove daemon s (.wait press clock ghbm spot)
        { s with hal := hal, waits := s.waits.set press { t with pc := pc } } os

section Moves

variable {s s' : Hal} {os : List Event}

theorem pollerMove_of_step {ok : Bool} {node : Option (List UInt8)} {pc pc' : PollerPc}
    (h : pollerStep ok node s pc = some (pc', s', os)) : PollerMove s pc pc' s' os := by
  cases pc with
  | openNode | poll =>
    simp only [pollerStep, Option.some.injEq, Prod.mk.injEq] at h
    obtain ⟨rfl, rfl, rfl⟩ := h
    exact .quiet rfl (by split <;> rfl) (.inl rfl)
  | readNode =>
    simp only [pollerStep] at h
    split at h <;> simp only [Option.some.injEq, Prod.mk.injEq] at h <;>
      obtain ⟨rfl, rfl, rfl⟩ := h
    · exact .spot
    · exact .quiet rfl rfl (.inr rfl)
  | fingerDownLoad =>
    simp only [pollerStep, Option.some.injEq, Prod.mk.injEq] at h
    obtain ⟨rfl, rfl, rfl⟩ := h
    split
    · exact .pressed ‹_›
    · exact .notPressed
  | stableExchange =>
    simp only [pollerStep, Option.some.injEq, Prod.mk.injEq] at h
    obtain ⟨rfl, rfl, rfl⟩ := h
    cases hs : s.mLightAreaStable with
    | true =>
      have : { s with mLightAreaStable := true } = s := by rw [← hs]
      rw [this]
      exact .found hs
    | false => exact .exchanged hs
  | sequenceLoad =>
    simp only [pollerStep, Option.some.injEq, Prod.mk.injEq] at h
    obtain ⟨rfl, rfl, rfl⟩ := h
    exact .loaded
  | enqueueStable q =>
    simp only [pollerStep, Option.some.injEq, Prod.mk.injEq] at h
    obtain ⟨rfl, h⟩ := h
    obtain ⟨rfl, rfl⟩ := Prod.mk.inj h
    exact .enqueueStable q
  | stableStore =>
    simp only [pollerStep, Option.some.injEq, Prod.mk.injEq] at h
    obtain ⟨rfl, rfl, rfl⟩ := h
    exact .stored
  | closeFingerDownLoad | closeSequenceLoad =>
    simp only [pollerStep, Option.some.injEq, Prod.mk.injEq] at h
    obtain ⟨rfl, rfl, rfl⟩ := h
    exact .quiet rfl (by first | rfl | (split <;> rfl)) (.inl rfl)
  | enqueueClose q =>
    simp only [pollerStep, Option.some.injEq, Prod.mk.injEq] at h
    obtain ⟨rfl, h⟩ := h
    obtain ⟨rfl, rfl⟩ := Prod.mk.inj h
    exact .enqueueClose q
  | returned => simp [pollerStep] at h

theorem waitMove_of_step {press : ℕ} {clock : Bool} {ghbm spot : Option (List UInt8)}
    {t : WaitThread} {pc' : WaitPc} (h : waitStep press clock ghbm spot s t = some (pc', s', os)) :
    WaitMove press t.sequence s t.pc pc' s' os := by
  obtain ⟨q, pc⟩ := t
  cases pc with
  | waitFingerDown | waitSequence | waitClock | waitNodes =>
    simp only [waitStep] at h
    split at h <;> simp only [Option.some.injEq, Prod.mk.injEq] at h <;>
      obtain ⟨rfl, rfl, rfl⟩ := h <;> first | exact .waiting rfl rfl | exact .waited rfl
  | fingerDownLoad =>
    simp only [waitStep] at h
    split at h <;> rename_i hc <;> simp only [Option.some.injEq, Prod.mk.injEq] at h <;>
      obtain ⟨rfl, rfl, rfl⟩ := h
    · exact .pressed hc
    · exact .gone (.inl ⟨rfl, by simpa using hc⟩)
  | sequenceLoad =>
    simp only [waitStep] at h
    split at h <;> rename_i hc <;> simp only [Option.some.injEq, Prod.mk.injEq] at h <;>
      obtain ⟨rfl, rfl, rfl⟩ := h
    · exact .current hc
    · exact .gone (.inr ⟨rfl, hc⟩)
  | stableExchange =>
    simp only [waitStep] at h
    split at h <;> rename_i hc <;> simp only [Option.some.injEq, Prod.mk.injEq] at h <;>
      obtain ⟨rfl, rfl, rfl⟩ := h
    · exact .found hc
    · exact .exchanged (by simpa using hc)
  | enqueue =>
    simp only [waitStep, Option.some.injEq, Prod.mk.injEq] at h
    obtain ⟨rfl, rfl, rfl⟩ := h
    exact .enqueue
  | finished => simp [waitStep] at h

theorem threadsMove_of_step {daemon : Bool} {s s' : Threads} {a : Act}
    (h : threadsStep daemon s a = some (s', os)) : ThreadsMove daemon s a s' os := by
  cases a with
  | onFingerDown setOk =>
    obtain ⟨rfl, rfl⟩ := Prod.mk.inj (Option.some.inj h)
    exact .down setOk
  | onFingerUp =>
    obtain ⟨rfl, rfl⟩ := Prod.mk.inj (Option.some.inj h)
    exact .up
  | worker setOk =>
    obtain ⟨⟨hal, os'⟩, hw, he⟩ := Option.map_eq_some_iff.1 h
    obtain ⟨rfl, rfl⟩ := Prod.mk.inj he
    exact .worker hw
  | poller ok node =>
    obtain ⟨⟨pc, hal, os'⟩, hp, he⟩ := Option.map_eq_some_iff.1 h
    obtain ⟨rfl, rfl⟩ := Prod.mk.inj he
    exact .poller (pollerMove_of_step hp)
  | wait press clock ghbm spot =>
    obtain ⟨t, ht, h⟩ := Option.bind_eq_some_iff.1 h
    obtain ⟨⟨pc, hal, os'⟩, hp, he⟩ := Option.map_eq_some_iff.1 h
    obtain ⟨rfl, rfl⟩ := Prod.mk.inj he
    exact .wait ht (waitMove_of_step hp)

end Moves

/-! ### The threads refine the blocks -/

/-- The events of the blocks; those of the threads outside them are dropped. -/
def lockEvent : Event → Option Event
  | .spot _ | .waited _ | .finished _ => none
  | e => some e

/-- A condition on the blocks of the binder threads and the worker, as one on the threads. -/
def onThreads (D : Hal → LockAct → Prop) (s : Threads) : Act → Prop
  | .onFingerDown setOk => D s.hal (.onFingerDown setOk)
  | .onFingerUp => D s.hal .onFingerUp
  | .worker setOk => D s.hal (.worker setOk)
  | .poller _ _ | .wait _ _ _ _ => True

section Refinement

variable {daemon : Bool} {s s' : Hal} {os : List Event}

theorem filterMap_lockEvent_requestHbm (setOk e : Bool) :
    (requestHbm setOk e s).2.filterMap lockEvent = (requestHbm setOk e s).2 := by
  unfold requestHbm; split <;> rfl

theorem filterMap_lockEvent_onFingerDown (setOk : Bool) :
    (onFingerDown setOk s).2.filterMap lockEvent = (onFingerDown setOk s).2 := by
  simp only [onFingerDown, List.filterMap_cons, lockEvent]
  rw [filterMap_lockEvent_requestHbm]

theorem filterMap_lockEvent_onFingerUp :
    (onFingerUp s).2.filterMap lockEvent = (onFingerUp s).2 := by
  unfold onFingerUp; split <;> rfl

theorem filterMap_lockEvent_enqueue (c : Cmd) (q : UInt64) :
    (enqueueGoodixCommand c q s).2.filterMap lockEvent = (enqueueGoodixCommand c q s).2 := by
  unfold enqueueGoodixCommand; split_ifs <;> rfl

theorem filterMap_lockEvent_worker {setOk : Bool} (h : workerRound daemon setOk s = some (s', os)) :
    os.filterMap lockEvent = os := by
  have hsome : ∀ e ∈ os, lockEvent e = some e := by
    intro e he
    rcases (worked h).events e he with ⟨c, rfl⟩ | ⟨b, rfl⟩ <;> rfl
  rw [List.filterMap_congr hsome, List.filterMap_some]

theorem PollerMove.lock (daemon : Bool) {pc pc' : PollerPc} (h : PollerMove s pc pc' s' os) :
    (s' = s ∧ os.filterMap lockEvent = []) ∨ ∃ b : LockAct, b.detached = true ∧
      lockStep daemon s b = some (s', os.filterMap lockEvent) := by
  cases h with
  | quiet _ _ ho => rcases ho with rfl | rfl <;> exact .inl ⟨rfl, rfl⟩
  | spot | pressed _ | notPressed | found _ | loaded => exact .inl ⟨rfl, rfl⟩
  | exchanged _ => exact .inr ⟨.setLightAreaStable true, rfl, rfl⟩
  | stored => exact .inr ⟨.setLightAreaStable false, rfl, rfl⟩
  | enqueueStable q =>
    exact .inr ⟨.enqueueStable q, rfl, by rw [filterMap_lockEvent_enqueue]; rfl⟩
  | enqueueClose q => exact .inr ⟨.enqueueClose q, rfl, by rw [filterMap_lockEvent_enqueue]; rfl⟩

theorem WaitMove.lock (daemon : Bool) {press : ℕ} {q : UInt64} {pc pc' : WaitPc}
    (h : WaitMove press q s pc pc' s' os) :
    (s' = s ∧ os.filterMap lockEvent = []) ∨ ∃ b : LockAct, b.detached = true ∧
      lockStep daemon s b = some (s', os.filterMap lockEvent) := by
  cases h with
  | waiting _ _ | waited _ | pressed _ | current _ | gone _ | found _ => exact .inl ⟨rfl, rfl⟩
  | exchanged _ => exact .inr ⟨.setLightAreaStable true, rfl, rfl⟩
  | enqueue =>
    have hf : [Event.finished press].filterMap lockEvent = [] := rfl
    refine .inr ⟨.enqueueStable q, rfl, ?_⟩
    rw [List.filterMap_append, filterMap_lockEvent_enqueue, hf, List.append_nil]
    rfl

/-- **The threads refine the blocks**, under any condition on the blocks that the detached threads
meet. -/
theorem threads_refines_lock (daemon : Bool) {D : Hal → LockAct → Prop}
    (hD : ∀ s (a : LockAct), a.detached = true → D s a) :
    Refines (threadsLts daemon) (onThreads D) (lockLts daemon) D Threads.hal lockEvent where
  init := rfl
  step := by
    intro s a s' os hc hs
    cases threadsMove_of_step hs with
    | down setOk =>
      exact .inr ⟨.onFingerDown setOk, hc, by rw [filterMap_lockEvent_onFingerDown]; rfl⟩
    | up => exact .inr ⟨.onFingerUp, hc, by rw [filterMap_lockEvent_onFingerUp]; rfl⟩
    | @worker setOk _ _ hw =>
      exact .inr ⟨.worker setOk, hc, by rw [filterMap_lockEvent_worker hw]; exact hw⟩
    | poller hp =>
      rcases hp.lock daemon with h | ⟨b, hb, h⟩
      · exact .inl h
      · exact .inr ⟨b, hD _ b hb, h⟩
    | wait _ hp =>
      rcases hp.lock daemon with h | ⟨b, hb, h⟩
      · exact .inl h
      · exact .inr ⟨b, hD _ b hb, h⟩

theorem lockStep_of_event {s s' : Threads} {a : Act} {e : Event}
    (h : threadsStep daemon s a = some (s', os)) (he : lockEvent e = some e) (hm : e ∈ os) :
    ∃ b os', lockStep daemon s.hal b = some (s'.hal, os') ∧ e ∈ os' := by
  have hm' : e ∈ os.filterMap lockEvent := List.mem_filterMap.2 ⟨e, hm, he⟩
  have href := (threads_refines_lock daemon (D := fun _ _ => True)
    fun _ _ _ => trivial).step (a := a) (by cases a <;> trivial) h
  rcases href with ⟨-, hno⟩ | ⟨b, -, hl⟩
  · rw [hno] at hm'
    exact absurd hm' List.not_mem_nil
  · exact ⟨b, _, hl, hm'⟩

theorem lock_run_of_threads {s : Threads} {tr : List Event} (h : (threadsLts daemon).Reach tr s) :
    (lockLts daemon).Reach (tr.filterMap lockEvent) s.hal :=
  (threads_refines_lock daemon fun _ _ _ => trivial).run
    (h.mono (D := onThreads fun _ _ => True) fun _ a _ => by cases a <;> trivial)

end Refinement

end TrebleDoze.Fingerprint
