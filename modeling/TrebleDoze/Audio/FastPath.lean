import TrebleDoze.Audio.StreamThread

/-!
# The fast path

A client puts a command into the queue of a stream, wakes the thread, and reads the status that the
thread answers with before it puts the next command.  `FastPath.lts` is a stream with such a client; it
records beside what the thread does for the command it has in hand.

* `FastInv`: the command is in one place, from the command queue to the status queue;
* `Serves`: what a direction has to do for a command;
* `served_run`: then each command read is answered once, in order, and as the direction demands.
-/

namespace TrebleDoze.Audio

open TrebleDoze.Lib

variable {χ : Type}

/-- What the thread has done for a command: the space it found in the data queue, the bytes it took from
the queue and those it appended to it, and its calls of the legacy HAL. -/
structure Service (χ : Type) where
  command : χ
  space : ℕ
  taken : List UInt8
  appended : List UInt8
  calls : List HalCall
  deriving DecidableEq, Repr

namespace Service

/-- Nothing has been done. -/
def start (command : χ) : Service χ := ⟨command, 0, [], [], []⟩

/-- What a step has moved, by the data queue before and after it. -/
def moved (mq mq' : DataMQ) (sv : Service χ) : Service χ :=
  { sv with
    taken := sv.taken ++ mq.data.take (mq.data.length - mq'.data.length)
    appended := sv.appended ++ mq'.data.drop mq.data.length }

/-- The step up to the call of the legacy HAL. -/
def invoked (mq mq' : DataMQ) (calls : List HalCall) (sv : Service χ) : Service χ :=
  { sv.moved mq mq' with space := mq.availableToWrite, calls := calls }

end Service

/-- What is shown of a run: the commands that are read, and the statuses that are written, each with what
has been done for it. -/
inductive FastEvent (χ : Type) where
  | commandRead (command : χ)
  | replied (service : Option (Service χ)) (status : Status χ)
  deriving DecidableEq, Repr

/-- The call of an event. -/
def Event.call? : Event χ → Option HalCall
  | .called call => some call
  | _ => none

/-- The places between the reading of a command and the writing of its status. -/
def Pc.inHand : Pc χ → Bool
  | .serving _ | .inHal _ | .replying => true
  | .head | .waiting | .woken | .exited => false

/-- The steps that the thread still has to make from a place for the command in hand. -/
def Pc.left : Pc χ → ℕ
  | .serving _ => 3
  | .inHal _ => 2
  | .replying => 1
  | .head | .waiting | .woken | .exited => 0

namespace Stream

/-- The thread has read a command and has not yet written its status. -/
def inHand (s : Stream χ) : Bool := s.thread.any Pc.inHand

/-- The steps that the thread still has to make for the command in hand. -/
def left (s : Stream χ) : ℕ := s.thread.elim 0 Pc.left

variable {s s' : Stream χ} {pc : Pc χ}

theorem inHand_eq (h : s.thread = some pc) : s.inHand = pc.inHand := by
  unfold inHand
  rw [h, Option.any_some]

theorem left_eq (h : s.thread = some pc) : s.left = pc.left := by
  unfold left
  rw [h, Option.elim_some]

theorem inHand_congr (h : s'.thread = s.thread) : s'.inHand = s.inHand := by
  unfold inHand
  rw [h]

end Stream

/-- A stream, a client that waits for a status or not, and what the thread has done. -/
structure FastPath (χ : Type) where
  stream : Stream χ
  awaiting : Bool
  service : Option (Service χ)
  deriving DecidableEq, Repr

namespace FastPath

/-- What a step of the thread adds to the record. -/
def observe (s s' : Stream χ) (os : List (Event χ)) (service : Option (Service χ)) :
    Option (Service χ) :=
  match s.thread with
  | some (.serving _) => service.map (.invoked s.dataMQ s'.dataMQ (os.filterMap Event.call?))
  | some (.inHal _) => service.map (.moved s.dataMQ s'.dataMQ)
  | _ =>
    match os with
    | .commandRead command :: _ => some (.start command)
    | _ => service

/-- What is shown of the events of a step. -/
def shown (service : Option (Service χ)) : Event χ → Option (FastEvent χ)
  | .commandRead command => some (.commandRead command)
  | .replied status => some (.replied service status)
  | .called _ | .closed => none

/-- Whether the client waits for a status after a step. -/
def awaits (awaiting : Bool) : Act χ → Bool
  | .putCommand _ => true
  | .takeStatus => false
  | _ => awaiting

/-- The record after a step: only the thread changes it. -/
def observes (s s' : Stream χ) (os : List (Event χ)) (service : Option (Service χ)) :
    Act χ → Option (Service χ)
  | .thread _ => observe s s' os service
  | _ => service

/-- The client puts a command. -/
def puts : Act χ → Bool
  | .putCommand _ => true
  | _ => false

/-- **A stream whose client puts a command only when it has read the status of the one before.** -/
def lts (d : Direction χ) : Lts (FastPath χ) (Act χ) (FastEvent χ) where
  init := ⟨.create, false, none⟩
  step p a :=
    if puts a && p.awaiting then none
    else
      ((Stream.lts d).step p.stream a).map fun r =>
        (⟨r.1, awaits p.awaiting a, observes p.stream r.1 r.2 p.service a⟩,
          r.2.filterMap (shown p.service))

/-- The commands read in a trace. -/
def commandsRead (tr : List (FastEvent χ)) : List χ :=
  tr.filterMap fun e =>
    match e with
    | .commandRead command => some command
    | .replied _ _ => none

/-- The commands that the statuses of a trace reply to. -/
def repliesTo (tr : List (FastEvent χ)) : List (Option χ) :=
  tr.filterMap fun e =>
    match e with
    | .commandRead _ => none
    | .replied _ status => some status.replyTo

theorem commandsRead_append (tr tr' : List (FastEvent χ)) :
    commandsRead (tr ++ tr') = commandsRead tr ++ commandsRead tr' := List.filterMap_append

theorem repliesTo_append (tr tr' : List (FastEvent χ)) :
    repliesTo (tr ++ tr') = repliesTo tr ++ repliesTo tr' := List.filterMap_append

/-- The commands that have been read are those replied to, in order, and the one in hand; each reply is
to the command it was made for, as `Q` demands; and the thread brings the command in hand to a reply. -/
structure Served (d : Direction χ) (Q : Service χ → Status χ → Prop) (tr : List (FastEvent χ))
    (p : FastPath χ) : Prop where
  inOrder : (commandsRead tr).map some =
    repliesTo tr ++ if p.stream.inHand then [p.stream.mStatus.replyTo] else []
  replied : ∀ service status, .replied service status ∈ tr →
    ∃ sv, service = some sv ∧ status.replyTo = some sv.command ∧ Q sv status
  progress : p.stream.inHand = true → ∀ env, ∃ p' os, (lts d).step p (.thread env) = some (p', os) ∧
    p'.stream.left < p.stream.left ∧ p'.awaiting = p.awaiting ∧
    (p'.stream.inHand = true ∨ os = [.replied p.service p.stream.mStatus])
  kept : ∀ a p' os, (∀ env, a ≠ .thread env) → (lts d).step p a = some (p', os) →
    p'.stream.left = p.stream.left

/-! ### What a direction does for a command -/

/-- A thread serves each command as `Q` demands, with `J` while it is in the legacy HAL, in the steps
that meet `C`. -/
structure Serves (d : Direction χ) (J : Service χ → DataMQ → Status χ → Prop)
    (Q : Service χ → Status χ → Prop) (C : FastPath χ → Act χ → Prop) : Prop where
  replyTo_invoke : ∀ command dataRead mq st,
    (d.invoke command dataRead mq st).2.2.replyTo = st.replyTo
  replyTo_finish : ∀ command answer mq st, (d.finish command answer mq st).2.replyTo = st.replyTo
  noCall : ∀ command dataRead mq st, (d.invoke command dataRead mq st).1 = none →
    Q ((Service.start command).invoked mq (d.invoke command dataRead mq st).2.1 [])
      (d.invoke command dataRead mq st).2.2
  calls : ∀ command dataRead mq st call, (d.invoke command dataRead mq st).1 = some call →
    J ((Service.start command).invoked mq (d.invoke command dataRead mq st).2.1 [call])
      (d.invoke command dataRead mq st).2.1 (d.invoke command dataRead mq st).2.2
  returns : ∀ p env sv, C p (.thread env) → p.stream.thread = some (.inHal sv.command) →
    p.service = some sv → J sv p.stream.dataMQ p.stream.mStatus →
    Q (sv.moved p.stream.dataMQ (d.finish sv.command env.answer p.stream.dataMQ p.stream.mStatus).1)
      (d.finish sv.command env.answer p.stream.dataMQ p.stream.mStatus).2
  putData : ∀ p data sv, C p (.putData data) → J sv p.stream.dataMQ p.stream.mStatus →
    J sv { p.stream.dataMQ with data := p.stream.dataMQ.data ++ data } p.stream.mStatus
  takeData : ∀ p bytes sv, C p (.takeData bytes) → J sv p.stream.dataMQ p.stream.mStatus →
    J sv { p.stream.dataMQ with data := p.stream.dataMQ.data.drop bytes } p.stream.mStatus

/-! ### One command at a time -/

/-- The command is in one place: the command queue, the hand of the thread or, as a status, the status
queue; and what the thread has done for it is recorded. -/
structure FastInv (J : Service χ → DataMQ → Status χ → Prop) (Q : Service χ → Status χ → Prop)
    (tr : List (FastEvent χ)) (p : FastPath χ) : Prop where
  outstanding : p.stream.commandMQ.isSome.toNat + p.stream.inHand.toNat +
    p.stream.statusMQ.isSome.toNat = p.awaiting.toNat
  inOrder : (commandsRead tr).map some =
    repliesTo tr ++ if p.stream.inHand then [p.stream.mStatus.replyTo] else []
  serving : ∀ command, p.stream.thread = some (.serving command) →
    p.service = some (.start command) ∧ p.stream.mStatus.replyTo = some command
  inHal : ∀ command, p.stream.thread = some (.inHal command) →
    ∃ sv, p.service = some sv ∧ sv.command = command ∧ p.stream.mStatus.replyTo = some command ∧
      J sv p.stream.dataMQ p.stream.mStatus
  replying : p.stream.thread = some .replying →
    ∃ sv, p.service = some sv ∧ p.stream.mStatus.replyTo = some sv.command ∧ Q sv p.stream.mStatus
  replied : ∀ service status, .replied service status ∈ tr →
    ∃ sv, service = some sv ∧ status.replyTo = some sv.command ∧ Q sv status

section

variable {d : Direction χ} {J : Service χ → DataMQ → Status χ → Prop}
  {Q : Service χ → Status χ → Prop} {C : FastPath χ → Act χ → Prop} {tr : List (FastEvent χ)}
  {p p' : FastPath χ} {s' : Stream χ} {os : List (FastEvent χ)} {env : Env} {awaiting : Bool}

theorem FastInv.of_same (h : FastInv J Q tr p)
    (hthread : s'.thread = p.stream.thread ∨ (s'.inHand = false ∧ p.stream.inHand = false))
    (hst : s'.mStatus = p.stream.mStatus)
    (hout : s'.commandMQ.isSome.toNat + p.stream.inHand.toNat + s'.statusMQ.isSome.toNat =
      awaiting.toNat)
    (hJ : p.stream.inHand = true → ∀ sv, J sv p.stream.dataMQ p.stream.mStatus →
      J sv s'.dataMQ p.stream.mStatus) : FastInv J Q tr ⟨s', awaiting, p.service⟩ := by
  have hin : s'.inHand = p.stream.inHand := by
    rcases hthread with ht | ⟨h1, h2⟩
    · exact Stream.inHand_congr ht
    · rw [h1, h2]
  -- a thread with a command in hand is where it was
  have hsame : ∀ pc, s'.thread = some pc → s'.inHand = true → p.stream.thread = some pc := by
    intro pc hpc hhand
    rcases hthread with ht | ⟨h1, -⟩
    · rw [← ht, hpc]
    · rw [h1] at hhand
      cases hhand
  refine ⟨?_, ?_, fun command hc => ?_, fun command hc => ?_, fun hc => ?_, h.replied⟩
  · rw [hin]
    exact hout
  · rw [hin, hst]
    exact h.inOrder
  · rw [hst]
    exact h.serving command (hsame _ hc (Stream.inHand_eq hc))
  · obtain ⟨sv, hsv, hcmd, hreply, hj⟩ :=
      h.inHal command (hsame _ hc (Stream.inHand_eq hc))
    have hhand : p.stream.inHand = true := hin.symm.trans (Stream.inHand_eq hc)
    rw [hst]
    exact ⟨sv, hsv, hcmd, hreply, hJ hhand sv hj⟩
  · rw [hst]
    exact h.replying (hsame _ hc (Stream.inHand_eq hc))

theorem FastInv.readsCommand (h : FastInv J Q tr p) (hpc : p.stream.thread = some .woken)
    {command : χ} (hc : p.stream.commandMQ = some command) :
    FastInv J Q (tr ++ [.commandRead command])
      ⟨{ p.stream with
          commandMQ := none, thread := some (.serving command)
          mStatus := { p.stream.mStatus with replyTo := some command } },
        p.awaiting, some (.start command)⟩ := by
  have hin : p.stream.inHand = false := Stream.inHand_eq hpc
  have hout := h.outstanding
  have horder := h.inOrder
  rw [hin] at hout horder
  rw [hc] at hout
  refine ⟨?_, ?_, fun command' hc' => ?_, fun _ hc' => ?_, fun hc' => ?_, ?_⟩
  · rw [← hout]
    show 0 + 1 + p.stream.statusMQ.isSome.toNat = 1 + 0 + p.stream.statusMQ.isSome.toNat
    omega
  · rw [commandsRead_append, repliesTo_append, List.map_append, horder]
    rfl
  · obtain rfl : command = command' := by simpa using hc'
    exact ⟨rfl, rfl⟩
  · cases hc'
  · cases hc'
  · intro service status hm
    rcases List.mem_append.1 hm with hm | hm
    · exact h.replied service status hm
    · rw [List.mem_singleton] at hm
      cases hm

/-- The thread goes from one place with the command in hand to another. -/
theorem FastInv.inHand (h : FastInv J Q tr p) (hin : p.stream.inHand = true)
    (hin' : s'.inHand = true) (hcmd : s'.commandMQ = p.stream.commandMQ)
    (hstq : s'.statusMQ = p.stream.statusMQ)
    (hreply : s'.mStatus.replyTo = p.stream.mStatus.replyTo) {service : Option (Service χ)}
    (hserving : ∀ command, s'.thread ≠ some (.serving command))
    (hinHal : ∀ command, s'.thread = some (.inHal command) →
      ∃ sv, service = some sv ∧ sv.command = command ∧ s'.mStatus.replyTo = some command ∧
        J sv s'.dataMQ s'.mStatus)
    (hreplying : s'.thread = some .replying →
      ∃ sv, service = some sv ∧ s'.mStatus.replyTo = some sv.command ∧ Q sv s'.mStatus) :
    FastInv J Q tr ⟨s', p.awaiting, service⟩ := by
  refine ⟨?_, ?_, fun command hc => absurd hc (hserving command), hinHal, hreplying, h.replied⟩
  · have hout := h.outstanding
    rw [hin] at hout
    rw [hcmd, hstq, hin']
    exact hout
  · have horder := h.inOrder
    rw [hin] at horder
    rw [hreply, hin']
    exact horder

/-- The thread serves a command, up to the call of the legacy HAL if there is one. -/
theorem FastInv.invokes (hS : Serves d J Q C) (h : FastInv J Q tr p) {command : χ} {dataRead : Bool}
    (hpc : p.stream.thread = some (.serving command)) (call : Option HalCall)
    (hcall : (d.invoke command dataRead p.stream.dataMQ p.stream.mStatus).1 = call) :
    FastInv J Q tr
      ⟨{ p.stream with
          dataMQ := (d.invoke command dataRead p.stream.dataMQ p.stream.mStatus).2.1
          mStatus := (d.invoke command dataRead p.stream.dataMQ p.stream.mStatus).2.2
          thread := some (if call.isSome then .inHal command else .replying) },
        p.awaiting,
        p.service.map (.invoked p.stream.dataMQ
          (d.invoke command dataRead p.stream.dataMQ p.stream.mStatus).2.1 call.toList)⟩ := by
  obtain ⟨hservice, hreply⟩ := h.serving command hpc
  have hin : p.stream.inHand = true := Stream.inHand_eq hpc
  have hreply' := hS.replyTo_invoke command dataRead p.stream.dataMQ p.stream.mStatus
  rw [hservice]
  cases call with
  | none =>
    refine h.inHand hin (by rfl) (by rfl) (by rfl) hreply' (fun _ hc => by cases hc)
      (fun _ hc => by cases hc) fun _ => ⟨_, rfl, ?_, hS.noCall command dataRead _ _ hcall⟩
    exact hreply'.trans hreply
  | some call =>
    refine h.inHand hin (by rfl) (by rfl) (by rfl) hreply' (fun _ hc => by cases hc)
      (fun command' hc => ?_) fun hc => by cases hc
    obtain rfl : command = command' := by simpa using hc
    exact ⟨_, rfl, rfl, hreply'.trans hreply, hS.calls command dataRead _ _ call hcall⟩

theorem FastInv.returns (hS : Serves d J Q C) (h : FastInv J Q tr p) {command : χ}
    (hC : C p (.thread env)) (hpc : p.stream.thread = some (.inHal command)) :
    FastInv J Q tr
      ⟨{ p.stream with
          dataMQ := (d.finish command env.answer p.stream.dataMQ p.stream.mStatus).1
          mStatus := (d.finish command env.answer p.stream.dataMQ p.stream.mStatus).2
          thread := some .replying },
        p.awaiting,
        p.service.map (.moved p.stream.dataMQ
          (d.finish command env.answer p.stream.dataMQ p.stream.mStatus).1)⟩ := by
  obtain ⟨sv, hservice, rfl, hreply, hj⟩ := h.inHal command hpc
  have hin : p.stream.inHand = true := Stream.inHand_eq hpc
  have hreply' := hS.replyTo_finish sv.command env.answer p.stream.dataMQ p.stream.mStatus
  refine h.inHand hin (by rfl) (by rfl) (by rfl) hreply' (fun _ hc => by cases hc)
    (fun _ hc => by cases hc) fun _ => ?_
  rw [hservice]
  exact ⟨_, rfl, hreply'.trans hreply, hS.returns p env sv hC hpc hservice hj⟩

/-- The thread writes the status: the queue has room, the client having read the one before. -/
theorem FastInv.replies (h : FastInv J Q tr p) (hpc : p.stream.thread = some .replying) :
    p.stream.statusMQ = none ∧
    FastInv J Q (tr ++ [.replied p.service p.stream.mStatus])
      ⟨{ p.stream with statusMQ := some p.stream.mStatus, thread := some .head },
        p.awaiting, p.service⟩ := by
  have hin : p.stream.inHand = true := Stream.inHand_eq hpc
  have hout := h.outstanding
  have horder := h.inOrder
  rw [hin] at hout horder
  have hone := Bool.toNat_le p.awaiting
  have htrue : true.toNat = 1 := rfl
  have hcmd : p.stream.commandMQ.isSome.toNat = 0 := by omega
  have hstq : p.stream.statusMQ.isSome.toNat = 0 := by omega
  refine ⟨?_, ?_, ?_, fun _ hc => (by cases hc), fun _ hc => (by cases hc), fun hc => (by cases hc), ?_⟩
  · cases hq : p.stream.statusMQ with
    | none => rfl
    | some status =>
      rw [hq] at hstq
      cases hstq
  · rw [← hout]
    show p.stream.commandMQ.isSome.toNat + 0 + 1 = _
    omega
  · rw [commandsRead_append, repliesTo_append, List.map_append, horder, List.append_assoc,
      List.append_assoc]
    rfl
  · intro service status hm
    rcases List.mem_append.1 hm with hm | hm
    · exact h.replied service status hm
    · rw [List.mem_singleton] at hm
      cases hm
      exact h.replying hpc

/-! ### The steps -/

theorem threadLoop_inHal {s s₁ : Stream χ} {command : χ} {es : List (Event χ)}
    (hpc : s.thread = some (.inHal command)) (h : s.threadLoop d env = some (s₁, es)) :
    s₁ = { s with
      dataMQ := (d.finish command env.answer s.dataMQ s.mStatus).1
      mStatus := (d.finish command env.answer s.dataMQ s.mStatus).2
      thread := some .replying } ∧ es = [] := by
  unfold Stream.threadLoop at h
  rw [hpc] at h
  obtain ⟨rfl, rfl⟩ := Prod.mk.inj (Option.some.inj h)
  exact ⟨rfl, rfl⟩

theorem observe_nil {s s₁ : Stream χ} (h : s.inHand = false) (service : Option (Service χ)) :
    observe s s₁ [] service = service := by
  unfold observe
  split
  · rename_i hpc
    cases (Stream.inHand_eq hpc).symm.trans h
  · rename_i hpc
    cases (Stream.inHand_eq hpc).symm.trans h
  · rfl

/-- A step between places without a command in hand: nothing is shown or recorded. -/
theorem FastInv.idles (h : FastInv J Q tr p) (hin : p.stream.inHand = false) (hin' : s'.inHand = false)
    (hst : s'.mStatus = p.stream.mStatus) (hcmd : s'.commandMQ = p.stream.commandMQ)
    (hstq : s'.statusMQ = p.stream.statusMQ) (hmq : s'.dataMQ = p.stream.dataMQ) :
    FastInv J Q (tr ++ []) ⟨s', p.awaiting, observe p.stream s' [] p.service⟩ := by
  rw [List.append_nil, observe_nil hin]
  refine h.of_same (.inr ⟨hin', hin⟩) hst ?_ fun _ sv hj => ?_
  · rw [hcmd, hstq]
    exact h.outstanding
  · rw [hmq]
    exact hj

theorem FastInv.threadStep (hS : Serves d J Q C) (h : FastInv J Q tr p) (hC : C p (.thread env))
    {es : List (Event χ)} (hstep : p.stream.threadLoop d env = some (s', es)) :
    FastInv J Q (tr ++ es.filterMap (shown p.service))
      ⟨s', p.awaiting, observe p.stream s' es p.service⟩ := by
  obtain ⟨pc, hpc, hl⟩ := Stream.threadLoop_cases hstep
  cases hl with
  | stops hs => exact h.idles (Stream.inHand_eq hpc) rfl rfl rfl rfl rfl
  | goesOn hs => exact h.idles (Stream.inHand_eq hpc) rfl rfl rfl rfl rfl
  | spurious => exact h.idles (Stream.inHand_eq hpc) rfl rfl rfl rfl rfl
  | wakes hef => exact h.idles (Stream.inHand_eq hpc) rfl rfl rfl rfl rfl
  | nothingToDo hc => exact h.idles (Stream.inHand_eq hpc) rfl rfl rfl rfl rfl
  | readsCommand command hc =>
    unfold observe
    rw [hpc]
    exact h.readsCommand hpc hc
  | noCall command dataRead hcall =>
    unfold observe
    rw [hpc, List.filterMap_nil, List.append_nil]
    exact h.invokes hS hpc none hcall
  | calls command dataRead call hcall =>
    unfold observe
    rw [hpc]
    have hinv := h.invokes hS hpc (some call) hcall
    rw [← List.append_nil tr] at hinv
    exact hinv
  | returns command answer =>
    obtain ⟨heq, -⟩ := threadLoop_inHal hpc hstep
    unfold observe
    rw [heq, hpc, List.filterMap_nil, List.append_nil]
    exact h.returns hS hC hpc
  | drops hst =>
    rw [(h.replies hpc).1] at hst
    cases hst
  | replies hst =>
    unfold observe
    rw [hpc]
    exact (h.replies hpc).2

theorem step_eq_some {a : Act χ} (h : (lts d).step p a = some (p', os)) :
    ¬(puts a = true ∧ p.awaiting = true) ∧ ∃ s₁ es, (Stream.lts d).step p.stream a = some (s₁, es) ∧
      p' = ⟨s₁, awaits p.awaiting a, observes p.stream s₁ es p.service a⟩ ∧
      os = es.filterMap (shown p.service) := by
  unfold lts at h
  simp only [Bool.and_eq_true] at h
  split_ifs at h with hputs
  obtain ⟨⟨s₁, es⟩, hs, heq⟩ := Option.map_eq_some_iff.1 h
  obtain ⟨rfl, rfl⟩ := Prod.mk.inj heq
  exact ⟨hputs, s₁, es, hs, rfl, rfl⟩

theorem FastInv.prepare (h : FastInv J Q tr p) (frameSize framesCount : UInt32) (created : Bool) :
    FastInv J Q tr
      ⟨(p.stream.prepare frameSize framesCount created).2, p.awaiting, p.service⟩ := by
  rcases p.stream.prepare_cases frameSize framesCount created with heq | ⟨hnone, heq⟩
  · rw [heq]
    exact h.of_same (.inl rfl) rfl h.outstanding fun _ _ hj => hj
  · have hin : p.stream.inHand = false := by
      unfold Stream.inHand
      rw [hnone, Option.any_none]
    rw [heq]
    refine h.of_same (.inr ⟨rfl, hin⟩) rfl h.outstanding fun hhand => ?_
    rw [hin] at hhand
    cases hhand

theorem FastInv.putCommand (h : FastInv J Q tr p) (command : χ) (hno : p.awaiting = false) :
    FastInv J Q tr ⟨{ p.stream with commandMQ := some command }, true, p.service⟩ := by
  have hout := h.outstanding
  rw [hno] at hout
  have hfalse : false.toNat = 0 := rfl
  refine h.of_same (.inl rfl) rfl ?_ fun _ _ hj => hj
  show 1 + p.stream.inHand.toNat + p.stream.statusMQ.isSome.toNat = 1
  omega

theorem FastInv.takeStatus (h : FastInv J Q tr p) (hst : p.stream.statusMQ.isSome = true) :
    FastInv J Q tr ⟨{ p.stream with statusMQ := none }, false, p.service⟩ := by
  have hout := h.outstanding
  rw [hst] at hout
  have hone := Bool.toNat_le p.awaiting
  have htrue : true.toNat = 1 := rfl
  refine h.of_same (.inl rfl) rfl ?_ fun _ _ hj => hj
  show p.stream.commandMQ.isSome.toNat + p.stream.inHand.toNat + 0 = 0
  omega

/-- **The invariant is kept by every step.** -/
theorem FastInv.step (hS : Serves d J Q C) (h : FastInv J Q tr p) {a : Act χ} (hC : C p a)
    (hs : (lts d).step p a = some (p', os)) : FastInv J Q (tr ++ os) p' := by
  obtain ⟨hputs, s₁, es, hstep, rfl, rfl⟩ := step_eq_some hs
  cases Stream.step_cases hstep with
  | prepare frameSize framesCount created =>
    rw [List.filterMap_nil, List.append_nil]
    exact h.prepare frameSize framesCount created
  | putCommand command =>
    rw [List.filterMap_nil, List.append_nil]
    exact h.putCommand command (by simpa [puts] using hputs)
  | wake =>
    rw [List.filterMap_nil, List.append_nil]
    exact h.of_same (.inl rfl) rfl h.outstanding fun _ _ hj => hj
  | putData data =>
    rw [List.filterMap_nil, List.append_nil]
    exact h.of_same (.inl rfl) rfl h.outstanding fun _ sv hj => hS.putData p data sv hC hj
  | takeData bytes =>
    rw [List.filterMap_nil, List.append_nil]
    exact h.of_same (.inl rfl) rfl h.outstanding fun _ sv hj => hS.takeData p bytes sv hC hj
  | takeStatus hst =>
    rw [List.filterMap_nil, List.append_nil]
    exact h.takeStatus hst
  | close =>
    rw [List.filterMap_nil, List.append_nil]
    unfold Stream.close
    split_ifs
    · exact h.of_same (.inl rfl) rfl h.outstanding fun _ _ hj => hj
    · exact h.of_same (.inl rfl) rfl h.outstanding fun _ _ hj => hj
  | closeWake =>
    rw [List.filterMap_nil, List.append_nil]
    exact h.of_same (.inl rfl) rfl h.outstanding fun _ _ hj => hj
  | closeStream =>
    have hnone : [Event.closed].filterMap (shown p.service) = [] := rfl
    rw [hnone, List.append_nil]
    exact h.of_same (.inl rfl) rfl h.outstanding fun _ _ hj => hj
  | thread env hl => exact h.threadStep hS hC hl

theorem fastInv_init : FastInv J Q ([] : List (FastEvent χ)) ⟨.create, false, none⟩ where
  outstanding := rfl
  inOrder := rfl
  serving _ hc := by cases hc
  inHal _ hc := by cases hc
  replying hc := by cases hc
  replied _ _ hm := by cases hm

theorem fastInv_run (hS : Serves d J Q C) (h : (lts d).Run C tr p) : FastInv J Q tr p :=
  h.inv fastInv_init fun hi hC hs => hi.step hS hC hs

/-! ### The command in hand is answered -/

theorem thread_step (p : FastPath χ) (env : Env) : (lts d).step p (.thread env) =
    (p.stream.threadLoop d env).map fun r =>
      (⟨r.1, p.awaiting, observe p.stream r.1 r.2 p.service⟩, r.2.filterMap (shown p.service)) :=
  rfl

/-- The thread is never stuck with a command, and its steps lead to the status. -/
theorem FastInv.progress (h : FastInv J Q tr p) (hin : p.stream.inHand = true) (env : Env) :
    ∃ p' os, (lts d).step p (.thread env) = some (p', os) ∧
      p'.stream.left < p.stream.left ∧ p'.awaiting = p.awaiting ∧
      (p'.stream.inHand = true ∨ os = [.replied p.service p.stream.mStatus]) := by
  obtain ⟨pc, hpc, hpcin⟩ := (Option.any_eq_true _ _).1 hin
  rw [thread_step, Stream.left_eq hpc]
  cases pc with
  | head | waiting | woken | exited => cases hpcin
  | serving command =>
    -- in the `switch`: the legacy HAL is called, or not
    unfold Stream.threadLoop
    rw [hpc]
    cases hcall : (d.invoke command env.dataRead p.stream.dataMQ p.stream.mStatus).1 with
    | none =>
      simp only [hcall, Option.map_some]
      exact ⟨_, _, rfl, (by decide : 1 < 3), rfl, .inl rfl⟩
    | some call =>
      simp only [hcall, Option.map_some]
      exact ⟨_, _, rfl, (by decide : 2 < 3), rfl, .inl rfl⟩
  | inHal command =>
    unfold Stream.threadLoop
    rw [hpc]
    exact ⟨_, _, rfl, (by decide : 1 < 2), rfl, .inl rfl⟩
  | replying =>
    have hroom := (h.replies hpc).1
    unfold Stream.threadLoop
    rw [hpc]
    simp only [hroom, Option.isSome_none, Bool.false_eq_true, if_false, Option.map_some]
    exact ⟨_, _, rfl, (by decide : 0 < 1), rfl, .inr rfl⟩

theorem left_of_client {a : Act χ} (ha : ∀ env, a ≠ .thread env)
    (hs : (lts d).step p a = some (p', os)) : p'.stream.left = p.stream.left := by
  obtain ⟨-, s₁, es, hstep, rfl, -⟩ := step_eq_some hs
  cases Stream.step_cases hstep with
  | prepare frameSize framesCount created =>
    rcases p.stream.prepare_cases frameSize framesCount created with heq | ⟨hnone, heq⟩
    · rw [heq]
    · rw [heq]
      unfold Stream.left
      rw [hnone]
      rfl
  | close =>
    unfold Stream.close
    split_ifs <;> rfl
  | putCommand | wake | putData | takeData | takeStatus | closeWake | closeStream => rfl
  | thread env => exact absurd rfl (ha env)

/-- **Every command that is read is answered once**, in order and as the direction demands. -/
theorem served_run (hS : Serves d J Q C) (h : (lts d).Run C tr p) : Served d Q tr p where
  inOrder := (fastInv_run hS h).inOrder
  replied := (fastInv_run hS h).replied
  progress hin env := (fastInv_run hS h).progress hin env
  kept _ _ _ ha hs := left_of_client ha hs

end

end FastPath

end TrebleDoze.Audio
