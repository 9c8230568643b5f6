import TrebleDoze.Fingerprint.Presses

/-!
# The light area of a press

Who sets `mLightAreaStable`, and what `CMD_LIGHT_AREA_STABLE` is enqueued after.

* `stable_queued_of_finished`: in the runs in which a wait thread exchanges the flag only for its own
  press, and not while somebody else still has to enqueue for that press, the wait thread of a press
  that stays down leaves a `CMD_LIGHT_AREA_STABLE` behind (`stable_lost`: not in all runs);
* `queued_after_ready`: in the runs in which no press starts between the poller's reading of the spot
  and its load of `mFingerSequence`, the command is enqueued only when the light area of its own press
  is ready (`queued_before_ready`: not in all runs).
-/

namespace TrebleDoze.Fingerprint

open TrebleDoze.Lib

/-! ### The flag of a press -/

theorem WaitMove.ne_finished {press : ℕ} {q : UInt64} {hal hal' : Hal} {pc pc' : WaitPc}
    {os : List Event} (h : WaitMove press q hal pc pc' hal' os) : pc ≠ .finished := by
  cases h with
  | waiting h1 _ | waited h1 => rintro rfl; cases h1
  | gone h1 => rintro rfl; rcases h1 with ⟨h1, -⟩ | ⟨h1, -⟩ <;> cases h1
  | pressed _ | current _ | found _ | exchanged _ | enqueue => simp

/-- Some thread has set the flag and is yet to enqueue `CMD_LIGHT_AREA_STABLE` with the current number. -/
def Threads.stablePending (s : Threads) : Prop :=
  s.poller = .sequenceLoad ∨ s.poller = .enqueueStable s.hal.mFingerSequence ∨
    ∃ t ∈ s.waits, t.pc = .enqueue ∧ t.sequence = s.hal.mFingerSequence

instance (s : Threads) : Decidable s.stablePending := by
  unfold Threads.stablePending; infer_instance

/-- A wait thread that exchanges the flag under a finger does so for its own press, and does not find it
set by a thread that has not enqueued yet. -/
def ExchangeInTurn (s : Threads) : Act → Prop
  | .wait press _ _ _ => ∀ t ∈ s.waits[press]?, t.pc = .stableExchange → s.hal.mFingerDown = true →
      if s.hal.mLightAreaStable then t.sequence = s.hal.mFingerSequence → ¬ s.stablePending
      else t.sequence = s.hal.mFingerSequence
  | _ => True

instance (s : Threads) : DecidablePred (ExchangeInTurn s)
  | .wait press _ _ _ => inferInstanceAs (Decidable (∀ t ∈ s.waits[press]?, _))
  | .onFingerDown _ | .onFingerUp | .worker _ | .poller _ _ => inferInstanceAs (Decidable True)

/-- `CMD_LIGHT_AREA_STABLE` with the current number has been enqueued in this press. -/
def StableQueued (tr : List Event) (s : Threads) : Prop :=
  .queued ⟨s.hal.mFingerSequence, .lightAreaStable⟩ ∈ since Event.isTouch tr

/-- Under a finger, a set flag stands for a command enqueued or about to be, and the wait thread of the
press has not ended without one. -/
structure StableInv (tr : List Event) (s : Threads) : Prop where
  flag : s.hal.mFingerDown = true → s.hal.mLightAreaStable = true →
    StableQueued tr s ∨ s.stablePending
  finished : s.hal.mFingerDown = true → ∀ i, i + 1 = s.waits.length →
    .finished i ∈ since Event.isTouch tr → StableQueued tr s

section Flag

variable {daemon : Bool} {s s' : Threads} {a : Act} {tr os : List Event}

theorem StableQueued.frame (h : StableQueued tr s) (hf : Frame s.hal s'.hal os) :
    StableQueued (tr ++ os) s' := by
  unfold StableQueued at *
  rw [since_append_of_false hf.events, hf.sequence]
  exact List.mem_append_left _ h

theorem stableQueued_of_mem (hf : Frame s.hal s'.hal os)
    (h : .queued ⟨s.hal.mFingerSequence, .lightAreaStable⟩ ∈ os) : StableQueued (tr ++ os) s' := by
  unfold StableQueued
  rw [since_append_of_false hf.events, hf.sequence]
  exact List.mem_append_right _ h

/-- A step keeps the part on the wait thread of the press when it emits no end of that thread, or has
its command enqueued. -/
theorem StableInv.finished_frame (h : StableInv tr s) (hf : Frame s.hal s'.hal os)
    (hl : s'.waits.length = s.waits.length)
    (hos : s.hal.mFingerDown = true → ∀ i, i + 1 = s.waits.length → .finished i ∈ os →
      StableQueued (tr ++ os) s') :
    s'.hal.mFingerDown = true → ∀ i, i + 1 = s'.waits.length →
      .finished i ∈ since Event.isTouch (tr ++ os) → StableQueued (tr ++ os) s' := by
  intro hd i hi hm
  rw [hf.down] at hd
  rw [hl] at hi
  rw [since_append_of_false hf.events] at hm
  rcases List.mem_append.1 hm with hm | hm
  · exact (h.finished hd i hi hm).frame hf
  · exact hos hd i hi hm

/-- `enqueueGoodixCommand` takes `CMD_LIGHT_AREA_STABLE` of the current press. -/
theorem queued_of_current {hal : Hal} (hd : hal.mFingerDown = true) :
    .queued ⟨hal.mFingerSequence, .lightAreaStable⟩ ∈
      (enqueueGoodixCommand .lightAreaStable hal.mFingerSequence hal).2 := by
  simp [enqueueGoodixCommand, hd]

@[simp] theorem enqueueGoodixCommand_stable (c : Cmd) (q : UInt64) (hal : Hal) :
    (enqueueGoodixCommand c q hal).1.mLightAreaStable = hal.mLightAreaStable := by
  unfold enqueueGoodixCommand; split_ifs <;> rfl

theorem finished_notMem_enqueue (c : Cmd) (q : UInt64) (hal : Hal) (i : ℕ) :
    .finished i ∉ (enqueueGoodixCommand c q hal).2 := by
  unfold enqueueGoodixCommand; split_ifs <;> simp

theorem PollerMove.finished_notMem {hal hal' : Hal} {pc pc' : PollerPc}
    (h : PollerMove hal pc pc' hal' os) (i : ℕ) : .finished i ∉ os := by
  cases h with
  | quiet _ _ ho => rcases ho with rfl | rfl <;> simp
  | spot | pressed _ | notPressed | found _ | exchanged _ | loaded | stored => simp
  | enqueueStable q | enqueueClose q => exact finished_notMem_enqueue _ _ _ i

/-- The poller keeps the flag's meaning: it sets it on the way to its own enqueue. -/
theorem StableInv.flag_poller (h : StableInv tr s) {pc : PollerPc} {hal : Hal}
    (hp : PollerMove s.hal s.poller pc hal os) (hd : hal.mFingerDown = true)
    (hst : hal.mLightAreaStable = true) :
    StableQueued (tr ++ os) { s with hal := hal, poller := pc } ∨
      Threads.stablePending { s with hal := hal, poller := pc } := by
  have hf := hp.frame
  have hold : s.hal.mLightAreaStable = true → (s.poller ≠ .sequenceLoad) →
      (s.poller ≠ .enqueueStable s.hal.mFingerSequence) →
      StableQueued (tr ++ os) { s with hal := hal, poller := pc } ∨
        Threads.stablePending { s with hal := hal, poller := pc } := by
    intro hs h1 h2
    rcases h.flag (hf.down ▸ hd) hs with hq | hq | hq | ⟨t, ht, h3, h4⟩
    · exact .inl (hq.frame hf)
    · exact absurd hq h1
    · exact absurd hq h2
    · exact .inr (.inr (.inr ⟨t, ht, h3, by rw [h4, hf.sequence]⟩))
  generalize hpc : s.poller = p at hp hold
  cases hp with
  | quiet h1 _ _ => exact hold hst (by rintro rfl; cases h1) (by rintro rfl; cases h1)
  | spot | pressed _ | notPressed | found _ => exact hold hst (by simp) (by simp)
  | exchanged _ => exact .inr (.inl rfl)
  | loaded => exact .inr (.inr (.inl rfl))
  | enqueueStable q =>
    by_cases hq : q = s.hal.mFingerSequence
    · subst hq
      exact .inl (stableQueued_of_mem hf (queued_of_current (hf.down ▸ hd)))
    · exact hold (by simpa using hst) (by simp) (by simpa using hq)
  | stored => simp at hst
  | enqueueClose q => exact hold (by simpa using hst) (by simp) (by simp)

/-- A wait thread keeps the flag's meaning when it sets it for its own press. -/
theorem StableInv.flag_wait (h : StableInv tr s) {press : ℕ} {t : WaitThread} {pc : WaitPc} {hal : Hal}
    (ht : s.waits[press]? = some t) (hw : WaitMove press t.sequence s.hal t.pc pc hal os)
    (hown : t.pc = .stableExchange → s.hal.mLightAreaStable = false →
      t.sequence = s.hal.mFingerSequence)
    (hd : hal.mFingerDown = true) (hst : hal.mLightAreaStable = true) :
    StableQueued (tr ++ os)
        { s with hal := hal, waits := s.waits.set press { t with pc := pc } } ∨
      Threads.stablePending
        { s with hal := hal, waits := s.waits.set press { t with pc := pc } } := by
  have hf := hw.frame
  have hlt : press < s.waits.length := (List.getElem?_eq_some_iff.1 ht).1
  have hold : s.hal.mLightAreaStable = true →
      (t.pc = .enqueue → t.sequence ≠ s.hal.mFingerSequence) →
      StableQueued (tr ++ os)
          { s with hal := hal, waits := s.waits.set press { t with pc := pc } } ∨
        Threads.stablePending
          { s with hal := hal, waits := s.waits.set press { t with pc := pc } } := by
    intro hs hne
    rcases h.flag (hf.down ▸ hd) hs with hq | hq | hq | ⟨u, hu, h3, h4⟩
    · exact .inl (hq.frame hf)
    · exact .inr (.inl hq)
    · exact .inr (.inr (.inl (by rw [hf.sequence]; exact hq)))
    · obtain ⟨j, hj⟩ := List.mem_iff_getElem?.1 hu
      have hjp : press ≠ j := by
        rintro rfl
        obtain rfl : t = u := by simpa [ht] using hj
        exact hne h3 h4
      refine .inr (.inr (.inr ⟨u, List.mem_iff_getElem?.2 ⟨j, ?_⟩, h3, by rw [h4, hf.sequence]⟩))
      rw [List.getElem?_set_ne hjp]
      exact hj
  generalize hpc : t.pc = p at hw hold hown
  cases hw with
  | waiting h1 _ => exact hold hst (by rintro rfl; cases h1)
  | waited h1 => exact hold hst (by rintro rfl; cases h1)
  | pressed _ | current _ | found _ => exact hold hst (by simp)
  | gone hg => exact hold hst (by rintro rfl; rcases hg with ⟨h1, -⟩ | ⟨h1, -⟩ <;> cases h1)
  | exchanged hs =>
    refine .inr (.inr (.inr ⟨{ t with pc := .enqueue }, ?_, rfl, hown rfl hs⟩))
    exact List.mem_iff_getElem?.2 ⟨press, by simp [hlt]⟩
  | enqueue =>
    by_cases hq : t.sequence = s.hal.mFingerSequence
    · refine .inl (stableQueued_of_mem hf (List.mem_append_left _ ?_))
      rw [hq]
      exact queued_of_current (hf.down ▸ hd)
    · exact hold (by simpa using hst) fun _ => hq

theorem StableInv.finished_wait (h : StableInv tr s) (hi : PressInv tr s) {press : ℕ} {t : WaitThread}
    {pc : WaitPc} {hal : Hal} (ht : s.waits[press]? = some t)
    (hw : WaitMove press t.sequence s.hal t.pc pc hal os)
    (hc : t.pc = .stableExchange → s.hal.mLightAreaStable = true →
      t.sequence = s.hal.mFingerSequence → ¬ s.stablePending)
    (hd : s.hal.mFingerDown = true) {i : ℕ} (hlast : i + 1 = s.waits.length)
    (hm : .finished i ∈ os) (s' : Threads) (hs' : s'.hal = hal) : StableQueued (tr ++ os) s' := by
  have hf : Frame s.hal s'.hal os := hs' ▸ hw.frame
  have hown : i = press → t.sequence = s.hal.mFingerSequence := by
    rintro rfl
    exact hi.own hd ht hlast
  generalize hpc : t.pc = p at hw hc
  cases hw with
  | waiting _ _ | waited _ | pressed _ | current _ | exchanged _ => simp at hm
  | gone hg =>
    have hq := hown (by simpa using hm)
    rcases hg with ⟨-, h1⟩ | ⟨-, h1⟩
    · rw [hd] at h1; cases h1
    · exact absurd hq.symm h1
  | found hs =>
    have hq := hown (by simpa using hm)
    rcases h.flag hd hs with h1 | h1
    · exact h1.frame hf
    · exact absurd h1 (hc rfl hs hq)
  | enqueue =>
    rcases List.mem_append.1 hm with hm | hm
    · exact absurd hm (finished_notMem_enqueue _ _ _ i)
    · refine stableQueued_of_mem hf (List.mem_append_left _ ?_)
      rw [hown (by simpa using hm)]
      exact queued_of_current hd

theorem stableInv_move (h : StableInv tr s) (hi : PressInv tr s) (hc : ExchangeInTurn s a)
    (hm : ThreadsMove daemon s a s' os) : StableInv (tr ++ os) s' := by
  cases hm with
  | down setOk =>
    refine ⟨by simp, fun _ i _ hfin => ?_⟩
    rw [since_onFingerDown] at hfin
    rw [onFingerDown_events, List.tail_cons] at hfin
    cases mem_requestHbm _ _ hfin
  | up =>
    by_cases hd : s.hal.mFingerDown = true
    · rw [onFingerUp_of_down hd]
      exact ⟨by simp, by simp⟩
    · rw [onFingerUp_of_up (by simpa using hd), List.append_nil]
      exact h
  | @worker _ hal _ hw =>
    obtain ⟨hf, hst, hno⟩ := frame_worker hw
    refine ⟨fun hd hs => ?_, h.finished_frame hf rfl fun _ i _ hm => absurd hm (hno i)⟩
    rw [hst] at hs
    rcases h.flag (hf.down ▸ hd) hs with h1 | h1
    · exact .inl (h1.frame hf)
    · refine .inr ?_
      unfold Threads.stablePending at *
      rwa [hf.sequence]
  | poller hp =>
    exact ⟨h.flag_poller hp, h.finished_frame hp.frame rfl fun _ i _ hm =>
      absurd hm (hp.finished_notMem i)⟩
  | @wait press _ _ _ t _ _ _ ht hw =>
    have hc' := hc t ht
    refine ⟨fun hd => h.flag_wait ht hw (fun h1 h2 => ?_) hd, h.finished_frame hw.frame (by simp) ?_⟩
    · simpa [h2] using hc' h1 (hw.frame.down ▸ hd)
    · intro hd i hlast hm
      refine h.finished_wait hi ht hw (fun h1 h2 => ?_) hd hlast hm _ rfl
      simpa [h2] using hc' h1 hd

theorem stableInv_run (h : (threadsLts daemon).Run ExchangeInTurn tr s) : StableInv tr s := by
  have h0 : (threadsLts daemon).Reach [] (threadsLts daemon).init := .init
  refine (h.inv (I := fun tr s => PressInv tr s ∧ StableInv tr s) ⟨pressInv_run h0, ?_⟩ ?_).2
  · exact ⟨by simp [threadsLts, Hal.initial], by simp [threadsLts, Hal.initial]⟩
  · intro tr s a s' os hi hc hs
    have hm := threadsMove_of_step hs
    exact ⟨pressInv_move hi.1 hm, stableInv_move hi.2 hi.1 hc hm⟩

end Flag

/-- **A press that stays down gets its `CMD_LIGHT_AREA_STABLE`**, in the runs whose exchanges are in
turn: it has been enqueued by the time the wait thread of the press is through. -/
theorem stable_queued_of_finished {daemon : Bool} {tr pre post : List Event} {s : Threads} {q : UInt64}
    (h : (threadsLts daemon).Run ExchangeInTurn tr s) (htr : tr = pre ++ .down q :: post)
    (hpost : ∀ e ∈ post, e.isTouch = false) (hfin : .finished (presses pre) ∈ post) :
    .queued ⟨q, .lightAreaStable⟩ ∈ post := by
  obtain ⟨hd, rfl, hl, hs⟩ := (pressInv_run h).of_split htr hpost
  have hq := (stableInv_run h).finished hd (presses pre) hl.symm (by rwa [hs])
  rwa [StableQueued, hs] at hq

/-- The wait of a thread that sees the deadline pass, and its two checks. -/
def waitOut (press : ℕ) : List Act :=
  [.wait press false none none, .wait press false none none, .wait press false none none,
    .wait press false none none, .wait press false none none]

/-- A press whose wait thread runs to its end. -/
def longPress : List Act :=
  .onFingerDown true :: waitOut 0 ++ [.wait 0 false none none, .wait 0 false none none]

theorem stable_queued_of_finished_longPress : ∃ tr s post,
    (threadsLts true).Run ExchangeInTurn tr s ∧ tr = .down 1 :: post ∧ .finished 0 ∈ post ∧
      .queued ⟨1, .lightAreaStable⟩ ∈ post := by
  obtain ⟨tr, s, h, htr, ht, hf⟩ := Lts.exists_run (M := threadsLts true) (C := ExchangeInTurn)
    (P := fun tr _ => tr = [] ++ .down 1 :: tr.tail ∧ (∀ e ∈ tr.tail, e.isTouch = false) ∧
      .finished (presses []) ∈ tr.tail) longPress (by decide)
  exact ⟨tr, s, tr.tail, h, htr, hf, stable_queued_of_finished h htr ht hf⟩

/-- The wait thread of a first press passes its checks, the finger is lifted and comes down again, the
leftover thread exchanges the flag of the second press, and the second wait thread finds it set. -/
def leftoverExchange : List Act :=
  .onFingerDown true :: waitOut 0 ++ [.onFingerUp, .onFingerDown true, .wait 0 false none none] ++
    waitOut 1 ++ [.wait 1 false none none]

/-- A leftover wait thread takes the flag of the next press, which then gets no
`CMD_LIGHT_AREA_STABLE`. -/
theorem stable_lost : ∃ tr s, (threadsLts true).Reach tr s ∧ ∃ pre post, tr = pre ++ .down 3 :: post ∧
    (∀ e ∈ post, e.isTouch = false) ∧ .finished (presses pre) ∈ post ∧
      .queued ⟨3, .lightAreaStable⟩ ∉ post := by
  obtain ⟨tr, s, h, htr, ht, hf, hq⟩ := Lts.exists_run (M := threadsLts true) (C := fun _ _ => True)
    (P := fun tr _ => tr = tr.take 4 ++ .down 3 :: tr.drop 5 ∧
      (∀ e ∈ tr.drop 5, e.isTouch = false) ∧ .finished (presses (tr.take 4)) ∈ tr.drop 5 ∧
      .queued ⟨3, .lightAreaStable⟩ ∉ tr.drop 5) leftoverExchange (by decide)
  exact ⟨tr, s, h, _, _, htr, ht, hf, hq⟩

/-! ### What the command is enqueued after -/

/-- The poller has seen the spot on and has not loaded `mFingerSequence` for it yet. -/
def PollerPc.uncommitted : PollerPc → Bool
  | .fingerDownLoad | .stableExchange | .sequenceLoad => true
  | _ => false

/-- No thread that may still enqueue carries the sequence number. -/
def Threads.fresh (s : Threads) (q : UInt64) : Prop :=
  s.poller ≠ .enqueueStable q ∧ ∀ t ∈ s.waits, t.sequence = q → t.pc = .finished

/-- A press does not start between the poller's reading of the spot and its load of `mFingerSequence`,
and gets a sequence number that is not in use any more. -/
def DownSeparate (s : Threads) : Act → Prop
  | .onFingerDown _ => s.poller.uncommitted = false ∧ s.fresh (s.hal.mFingerSequence + 1)
  | _ => True

instance (s : Threads) (q : UInt64) : Decidable (s.fresh q) := by
  unfold Threads.fresh; infer_instance

instance (s : Threads) : DecidablePred (DownSeparate s)
  | .onFingerDown _ => inferInstanceAs (Decidable (_ ∧ _))
  | .onFingerUp | .worker _ | .poller _ _ | .wait _ _ _ _ => inferInstanceAs (Decidable True)

/-- The light area of a press is ready: its wait has returned, or the spot has been read as on. -/
def Ready (press : ℕ) (post : List Event) : Prop := .waited press ∈ post ∨ .spot true ∈ post

/-- Under a finger, the threads that may still enqueue with the current number have seen the light area
of this press ready. -/
structure ReadyInv (tr : List Event) (s : Threads) : Prop where
  uncommitted : s.hal.mFingerDown = true → s.poller.uncommitted = true →
    .spot true ∈ since Event.isTouch tr
  committed : s.hal.mFingerDown = true → s.poller = .enqueueStable s.hal.mFingerSequence →
    .spot true ∈ since Event.isTouch tr
  own : s.hal.mFingerDown = true → ∀ i t, s.waits[i]? = some t → i + 1 = s.waits.length →
    t.pc.waiting = false → .waited i ∈ since Event.isTouch tr
  others : s.hal.mFingerDown = true → ∀ i t, s.waits[i]? = some t → i + 1 < s.waits.length →
    t.sequence = s.hal.mFingerSequence → t.pc = .finished

section Ready

variable {daemon : Bool} {s s' : Threads} {a : Act} {tr os : List Event}

/-- Steps of the worker and of the poller leave the wait threads' part as it is. -/
theorem ReadyInv.waits_frame (h : ReadyInv tr s) (s' : Threads) (hf : Frame s.hal s'.hal os)
    (hw : s'.waits = s.waits) :
    (s'.hal.mFingerDown = true → ∀ i t, s'.waits[i]? = some t → i + 1 = s'.waits.length →
      t.pc.waiting = false → .waited i ∈ since Event.isTouch (tr ++ os)) ∧
    (s'.hal.mFingerDown = true → ∀ i t, s'.waits[i]? = some t → i + 1 < s'.waits.length →
      t.sequence = s'.hal.mFingerSequence → t.pc = .finished) := by
  rw [hw, hf.down, hf.sequence, since_append_of_false hf.events]
  exact ⟨fun hd i t ht hi hp => List.mem_append_left _ (h.own hd i t ht hi hp), h.others⟩

/-- Steps of the worker and of the wait threads leave the poller's part as it is. -/
theorem ReadyInv.poller_frame (h : ReadyInv tr s) (s' : Threads) (hf : Frame s.hal s'.hal os)
    (hp : s'.poller = s.poller) :
    (s'.hal.mFingerDown = true → s'.poller.uncommitted = true →
      .spot true ∈ since Event.isTouch (tr ++ os)) ∧
    (s'.hal.mFingerDown = true → s'.poller = .enqueueStable s'.hal.mFingerSequence →
      .spot true ∈ since Event.isTouch (tr ++ os)) := by
  rw [hp, hf.down, hf.sequence, since_append_of_false hf.events]
  exact ⟨fun hd hu => List.mem_append_left _ (h.uncommitted hd hu),
    fun hd hc => List.mem_append_left _ (h.committed hd hc)⟩

theorem readyInv_poller (h : ReadyInv tr s) {pc : PollerPc} {hal : Hal}
    (hp : PollerMove s.hal s.poller pc hal os) :
    ReadyInv (tr ++ os) { s with hal := hal, poller := pc } := by
  have hf := hp.frame
  obtain ⟨h1, h2⟩ := h.waits_frame { s with hal := hal, poller := pc } hf rfl
  have hs := since_append_of_false (l := tr) hf.events
  have hold : hal.mFingerDown = true → s.poller.uncommitted = true →
      .spot true ∈ since Event.isTouch (tr ++ os) := by
    intro hd hu
    rw [hs]
    exact List.mem_append_left _ (h.uncommitted (hf.down ▸ hd) hu)
  refine ⟨?_, ?_, h1, h2⟩
  · intro hd hu
    generalize hpc : s.poller = p at hp hold
    cases hp with
    | quiet _ h' _ => cases pc <;> simp_all [PollerPc.onSpot, PollerPc.uncommitted]
    | spot => rw [hs]; simp
    | pressed _ | exchanged _ => exact hold hd rfl
    | notPressed | found _ | loaded | enqueueStable _ | stored | enqueueClose _ =>
      simp [PollerPc.uncommitted] at hu
  · intro hd hc
    generalize hpc : s.poller = p at hp hold
    cases hp with
    | quiet _ h' _ =>
      simp only at hc
      subst hc
      cases h'
    | loaded => exact hold hd rfl
    | spot | pressed _ | exchanged _ | notPressed | found _ | enqueueStable _ | stored
    | enqueueClose _ => cases hc

theorem readyInv_wait (h : ReadyInv tr s) {press : ℕ} {t : WaitThread} {pc : WaitPc} {hal : Hal}
    (ht : s.waits[press]? = some t) (hw : WaitMove press t.sequence s.hal t.pc pc hal os) :
    ReadyInv (tr ++ os) { s with hal := hal, waits := s.waits.set press { t with pc := pc } } := by
  have hf := hw.frame
  have hlt : press < s.waits.length := (List.getElem?_eq_some_iff.1 ht).1
  obtain ⟨h1, h2⟩ := h.poller_frame
    { s with hal := hal, waits := s.waits.set press { t with pc := pc } } hf rfl
  refine ⟨h1, h2, ?_, ?_⟩
  · intro hd i u hu hi hp
    dsimp only at hd hu hi hp
    rw [List.length_set] at hi
    rw [since_append_of_false hf.events, List.mem_append]
    by_cases hip : press = i
    · subst hip
      rw [List.getElem?_set_self hlt, Option.some.injEq] at hu
      subst hu
      have hold : t.pc.waiting = false → .waited press ∈ since Event.isTouch tr :=
        h.own (hf.down ▸ hd) press t ht hi
      generalize hpc : t.pc = p at hw hold
      cases hw with
      | waiting _ h' => rw [h'] at hp; cases hp
      | waited _ => exact .inr (by simp)
      | gone hg =>
        refine .inl (hold ?_)
        rcases hg with ⟨rfl, -⟩ | ⟨rfl, -⟩ <;> rfl
      | pressed _ | current _ | found _ | exchanged _ | enqueue => exact .inl (hold rfl)
    · rw [List.getElem?_set_ne hip] at hu
      exact .inl (h.own (hf.down ▸ hd) i u hu hi hp)
  · intro hd i u hu hi hq
    dsimp only at hd hu hi hq
    rw [List.length_set] at hi
    rw [hf.sequence] at hq
    by_cases hip : press = i
    · subst hip
      rw [List.getElem?_set_self hlt, Option.some.injEq] at hu
      subst hu
      exact absurd (h.others (hf.down ▸ hd) press t ht hi hq) hw.ne_finished
    · rw [List.getElem?_set_ne hip] at hu
      exact h.others (hf.down ▸ hd) i u hu hi hq

theorem readyInv_move (h : ReadyInv tr s) (hc : DownSeparate s a)
    (hm : ThreadsMove daemon s a s' os) : ReadyInv (tr ++ os) s' := by
  cases hm with
  | down setOk =>
    obtain ⟨hu, hp, hw⟩ := hc
    refine ⟨?_, ?_, ?_, ?_⟩
    · intro _ hu'
      rw [hu] at hu'; cases hu'
    · intro _ he
      simp only [onFingerDown_sequence] at he
      exact absurd he hp
    · intro _ i t ht hi hn
      have hil : i = s.waits.length := by simpa using hi
      subst hil
      simp only [List.getElem?_concat_length, Option.some.injEq] at ht
      subst ht
      cases hn
    · intro _ i t ht hi hq
      have hil : i < s.waits.length := by simpa using hi
      dsimp only at ht hq
      rw [List.getElem?_append_left hil] at ht
      rw [onFingerDown_sequence] at hq
      exact hw t (List.mem_of_getElem? ht) hq
  | up =>
    by_cases hd : s.hal.mFingerDown = true
    · rw [onFingerUp_of_down hd]
      exact ⟨by simp, by simp, by simp, by simp⟩
    · rw [onFingerUp_of_up (by simpa using hd), List.append_nil]
      exact h
  | @worker _ hal _ hw =>
    have hf := (frame_worker hw).1
    obtain ⟨h1, h2⟩ := h.poller_frame { s with hal := hal } hf rfl
    obtain ⟨h3, h4⟩ := h.waits_frame { s with hal := hal } hf rfl
    exact ⟨h1, h2, h3, h4⟩
  | poller hp => exact readyInv_poller h hp
  | wait ht hw => exact readyInv_wait h ht hw

theorem readyInv_run (h : (threadsLts daemon).Run DownSeparate tr s) : ReadyInv tr s := by
  refine h.inv ⟨?_, ?_, ?_, ?_⟩ fun hi hc hs => readyInv_move hi hc (threadsMove_of_step hs)
  all_goals simp [threadsLts, Hal.initial]

theorem current_of_queued {c c' : Cmd} {q q' : UInt64} {hal : Hal}
    (h : .queued ⟨q, c⟩ ∈ (enqueueGoodixCommand c' q' hal).2) :
    q = q' ∧ c = c' ∧ q = hal.mFingerSequence ∧ (c = .lightAreaStable → hal.mFingerDown = true) := by
  unfold enqueueGoodixCommand at h
  split_ifs at h with h1 h2 h3 <;> simp at h
  obtain ⟨rfl, rfl⟩ := h
  refine ⟨rfl, rfl, not_not.1 h1, fun hc => ?_⟩
  by_contra hd
  exact h2 ⟨hc, by simpa using hd⟩

theorem queued_notMem_worker {setOk : Bool} {hal hal' : Hal}
    (h : workerRound daemon setOk hal = some (hal', os)) (c : GoodixCommand) : .queued c ∉ os := by
  intro hc
  rcases (worked h).events _ hc with ⟨_, he⟩ | ⟨_, he⟩ <;> cases he

/-- The step that enqueues the command comes after the light area of the press is ready. -/
theorem ready_of_queued (h : ReadyInv tr s) (hm : ThreadsMove daemon s a s' os) {q : UInt64}
    (hq : .queued ⟨q, .lightAreaStable⟩ ∈ os) :
    s.hal.mFingerDown = true ∧ q = s.hal.mFingerSequence ∧
      ∀ n, n + 1 = s.waits.length → Ready n (since Event.isTouch tr) := by
  cases hm with
  | down setOk =>
    rw [onFingerDown_events] at hq
    rcases List.mem_cons.1 hq with hq | hq
    · cases hq
    · cases mem_requestHbm _ _ hq
  | up =>
    unfold onFingerUp at hq
    split at hq <;> simp at hq
  | worker hw => exact absurd hq (queued_notMem_worker hw _)
  | poller hp =>
    generalize hpc : s.poller = p at hp
    cases hp with
    | quiet _ _ ho => rcases ho with rfl | rfl <;> simp at hq
    | spot | pressed _ | notPressed | found _ | exchanged _ | loaded | stored => simp at hq
    | enqueueClose q' => exact absurd (current_of_queued hq).2.1 (by simp)
    | enqueueStable q' =>
      obtain ⟨rfl, -, hc, hd⟩ := current_of_queued hq
      exact ⟨hd rfl, hc, fun n _ => .inr (h.committed (hd rfl) (by rw [hpc, hc]))⟩
  | @wait press _ _ _ t _ _ _ ht hw =>
    generalize hpc : t.pc = p at hw
    cases hw with
    | waiting _ _ | waited _ | pressed _ | current _ | gone _ | found _ | exchanged _ => simp at hq
    | enqueue =>
      have hq' : .queued ⟨q, .lightAreaStable⟩ ∈
          (enqueueGoodixCommand .lightAreaStable t.sequence s.hal).2 := by simpa using hq
      obtain ⟨hqt, -, hc, hd⟩ := current_of_queued hq'
      refine ⟨hd rfl, hc, fun n hn => .inl ?_⟩
      have hlt : press < s.waits.length := (List.getElem?_eq_some_iff.1 ht).1
      have hpress : press = n := by
        by_contra hne
        have := h.others (hd rfl) press t ht (by omega) (hqt ▸ hc)
        rw [hpc] at this
        cases this
      exact hpress ▸ h.own (hd rfl) press t ht (hpress ▸ hn) (by rw [hpc]; rfl)

end Ready

/-- **`CMD_LIGHT_AREA_STABLE` of a press is enqueued after its light area is ready**, in the runs whose
presses start separately from the poller's spot handling: since that press began, its wait has
returned or the spot has been read as on. -/
theorem queued_after_ready {daemon : Bool} {tr os : List Event} {s s' : Threads} {a : Act} {q : UInt64}
    (h : (threadsLts daemon).Run DownSeparate tr s) (hs : threadsStep daemon s a = some (s', os))
    (hq : .queued ⟨q, .lightAreaStable⟩ ∈ os) :
    ∃ pre post, tr = pre ++ .down q :: post ∧ (∀ e ∈ post, e.isTouch = false) ∧
      Ready (presses pre) post := by
  obtain ⟨hd, rfl, hr⟩ := ready_of_queued (readyInv_run h) (threadsMove_of_step hs) hq
  obtain ⟨pre, htr, hpost, hl⟩ := (pressInv_run h).split hd
  exact ⟨pre, _, htr, hpost, hr _ hl.symm⟩

/-- The poller reads the spot as on and is about to enqueue. -/
def spotOn : List Act :=
  [.poller true none, .poller true none, .poller true (some [49])]

/-- The poller's operations after the spot was read as on, up to the call. -/
def afterSpot : List Act := [.poller true none, .poller true none, .poller true none]

theorem queued_after_ready_spotOn : ∃ tr s s' os,
    (threadsLts true).Run DownSeparate tr s ∧
      threadsStep true s (.poller true none) = some (s', os) ∧
      .queued ⟨1, .lightAreaStable⟩ ∈ os ∧
      ∃ pre post, tr = pre ++ .down 1 :: post ∧ (∀ e ∈ post, e.isTouch = false) ∧
        Ready (presses pre) post := by
  obtain ⟨tr, s, h, hs⟩ := Lts.exists_run (M := threadsLts true) (C := DownSeparate)
    (P := fun _ s => (threadsStep true s (.poller true none)).map Prod.snd =
      some [.queued ⟨1, .lightAreaStable⟩]) (.onFingerDown true :: spotOn ++ afterSpot) (by decide)
  obtain ⟨⟨s', os⟩, hs, rfl⟩ := Option.map_eq_some_iff.1 hs
  exact ⟨tr, s, s', _, h, hs, by simp, queued_after_ready h hs (by simp)⟩

/-- The poller reads the spot as on in a first press and goes on in the second. -/
def earlySpot : List Act :=
  .onFingerDown true :: spotOn ++ [.onFingerUp, .onFingerDown true] ++ afterSpot

/-- The spot seen in one press has `CMD_LIGHT_AREA_STABLE` of the next one enqueued, since whose start
nothing has been seen. -/
theorem queued_before_ready : ∃ tr s s', (threadsLts true).Reach tr s ∧
    threadsStep true s (.poller true none) = some (s', [.queued ⟨3, .lightAreaStable⟩]) ∧
      ∀ pre post, tr = pre ++ .down 3 :: post → ∀ press, ¬ Ready press post := by
  obtain ⟨tr, s, h, hs, htr⟩ := Lts.exists_run (M := threadsLts true) (C := fun _ _ => True)
    (P := fun tr s => (threadsStep true s (.poller true none)).map Prod.snd =
        some [.queued ⟨3, .lightAreaStable⟩] ∧
      tr = [.down 1, .hbm true, .spot true, .up 2, .down 3, .hbm true]) earlySpot (by decide)
  obtain ⟨⟨s', os⟩, hs, rfl⟩ := Option.map_eq_some_iff.1 hs
  refine ⟨tr, s, s', h, hs, fun pre post hsplit press hr => ?_⟩
  have hpost : post = [.hbm true] := by
    rw [htr] at hsplit
    simp only [List.cons_eq_append_iff, List.cons.injEq, reduceCtorEq, false_and] at hsplit
    simp_all
  rw [hpost] at hr
  simp [Ready] at hr

end TrebleDoze.Fingerprint
