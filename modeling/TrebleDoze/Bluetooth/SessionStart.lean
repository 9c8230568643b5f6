import TrebleDoze.Bluetooth.AudioConfig
import TrebleDoze.Bluetooth.Readiness
import TrebleDoze.Bluetooth.DataPath

/-!
# What a start leaves in the session

`OnSessionStarted` updates the members of the session one after the other, and `OutWritePcmData` and
`InReadPcmData` use the queue that it has left there.

* `onSessionStarted_atomic_iff`: when a start that is rejected leaves the session as it was;
* `queueReady_call_iff`: the calls after which a session that is ready has a queue;
* `pcm_queue_not_null`: in the runs of these calls the data path has no null queue.
-/

namespace TrebleDoze.Bluetooth

open TrebleDoze.Lib

variable {κ : Tag → Type}

namespace BluetoothAudioSession

/-! ### Starts that are rejected -/

/-- A start that is rejected: it has no stack interface, a configuration that is not one of the session
type, or a descriptor that cannot be mapped. -/
def Rejected (s : BluetoothAudioSession κ) (stackIface : Option ℕ) (mqDesc : Option DataMQ)
    (audioConfig : AudioConfiguration κ) : Prop :=
  stackIface = none ∨ acceptsTag s.sessionType audioConfig.tag = false ∨ descOk mqDesc = false

/-- A start that is rejected leaves what the session knows of the stack as it was. -/
def Atomic (s : BluetoothAudioSession κ) (stackIface : Option ℕ) (mqDesc : Option DataMQ)
    (audioConfig : AudioConfiguration κ) (latencyModes : List LatencyMode) : Prop :=
  let s' := (s.onSessionStarted stackIface mqDesc audioConfig latencyModes).1
  s.Rejected stackIface mqDesc audioConfig →
    s'.stackIface = s.stackIface ∧ s'.audioConfig = s.audioConfig ∧ s'.dataMq = s.dataMq ∧
      s'.latencyModes = s.latencyModes

/-- **When a start is atomic**: a descriptor that cannot be mapped must not come to the check, or meet a
session with neither a configuration nor a queue. -/
theorem onSessionStarted_atomic_iff (s : BluetoothAudioSession κ) (stackIface : Option ℕ)
    (mqDesc : Option DataMQ) (audioConfig : AudioConfiguration κ) (latencyModes : List LatencyMode) :
    s.Atomic stackIface mqDesc audioConfig latencyModes ↔
      (descOk mqDesc = true ∨ stackIface = none ∨ acceptsTag s.sessionType audioConfig.tag = false ∨
        (s.audioConfig = none ∧ s.dataMq = none)) := by
  have hc := onSessionStarted_cases s mqDesc audioConfig latencyModes stackIface
  unfold Atomic Rejected
  generalize s.onSessionStarted stackIface mqDesc audioConfig latencyModes = r at hc
  obtain ⟨s', ns⟩ := r
  cases hc with
  | noIface => simp
  | badConfig i h => simp [h]
  | badMq i h hd => simp [h, hd, eq_comm]
  | ok i h hd => simp [h, hd]

/-- An A2DP session that runs with a queue. -/
def running : BluetoothAudioSession NoPayload :=
  ((create .a2dpSoftwareEncoding).onSessionStarted (some 1) (some ⟨0, true⟩) ⟨.pcmConfig, ()⟩ []).1

/-- A second start with a descriptor that cannot be mapped takes the queue and the configuration away. -/
theorem onSessionStarted_not_atomic :
    ¬ running.Atomic (some 1) (some ⟨0, false⟩) ⟨.pcmConfig, ()⟩ [] := by
  intro h
  obtain ⟨-, hconfig, -⟩ := h (.inr (.inr rfl))
  cases hconfig

/-! ### The queue of a session that is ready -/

/-- If the session is ready, it has a queue. -/
def QueueReady (s : BluetoothAudioSession κ) : Prop := s.isSessionReady = true → s.dataMq.isSome = true

/-- The calls that bring a session no readiness without a queue: on a session type that needs none, a
start has to come with a descriptor, and a configuration must not be changed while the session has a
stack interface and no queue. -/
def KeepsQueue (s : BluetoothAudioSession κ) : Call κ → Prop
  | .onSessionStarted stackIface mqDesc audioConfig _ =>
    needsNoDataMq s.sessionType = true → stackIface.isSome = true →
      acceptsTag s.sessionType audioConfig.tag = true → mqDesc.isSome = true
  | .reportAudioConfigChanged audioConfig =>
    s.sessionType.isOffloadLeAudioUnicast = true → audioConfig.tag = .leAudioConfig →
      s.stackIface.isSome = true → s.dataMq.isSome = true
  | _ => True

section

variable {s : BluetoothAudioSession κ}

theorem queueReady_of_needs (h : needsNoDataMq s.sessionType = false) : s.QueueReady := by
  intro hr
  cases hq : s.dataMq with
  | some mq => rfl
  | none => simp [isSessionReady, h, hq] at hr

theorem isSessionReady_of_needsNo (h : needsNoDataMq s.sessionType = true) :
    s.isSessionReady = (s.stackIface.isSome && s.audioConfig.isSome) := by
  simp [isSessionReady, h]

theorem queueReady_iff (h : needsNoDataMq s.sessionType = true) :
    s.QueueReady ↔ (s.stackIface.isSome = true → s.audioConfig.isSome = true →
      s.dataMq.isSome = true) := by
  unfold QueueReady
  rw [isSessionReady_of_needsNo h, Bool.and_eq_true, and_imp]

/-- **The calls after which a session that is ready still has a queue.** -/
theorem queueReady_call_iff (h : s.QueueReady) (c : Call κ) :
    (s.call c).1.QueueReady ↔ s.KeepsQueue c := by
  have htype := sessionType_call (s := s) c
  cases hn : needsNoDataMq s.sessionType with
  | false =>
    rw [← htype] at hn
    refine iff_of_true (queueReady_of_needs hn) ?_
    rw [htype] at hn
    cases c with
    | onSessionStarted iface mqDesc cfg modes =>
      intro hneeds
      rw [hn] at hneeds
      cases hneeds
    | reportAudioConfigChanged cfg =>
      intro hu
      rw [needsNoDataMq_of_unicast hu] at hn
      cases hn
    | onSessionEnded | registerStatusCback | unregisterStatusCback => trivial
  | true =>
    rw [queueReady_iff (htype ▸ hn)]
    rw [queueReady_iff hn] at h
    cases c with
    | onSessionStarted iface mqDesc cfg modes =>
      have hs := onSessionStarted_cases s mqDesc cfg modes iface
      dsimp only [call, KeepsQueue]
      generalize s.onSessionStarted iface mqDesc cfg modes = r at hs
      obtain ⟨s', ns⟩ := r
      cases hs with
      | noIface => simpa using h
      | badConfig i ha => simpa [ha] using h
      | badMq i ha hd =>
        have hdesc : mqDesc.isSome = true := by
          cases mqDesc with
          | none => cases hd
          | some desc => rfl
        simp [hdesc]
      | ok i ha hd => simp [hn, ha]
    | onSessionEnded => simp [call, onSessionEnded_eq, KeepsQueue]
    | reportAudioConfigChanged cfg =>
      dsimp only [call, reportAudioConfigChanged, KeepsQueue]
      by_cases hu : s.sessionType.isOffloadLeAudioUnicast = true
      · by_cases ht : cfg.tag = .leAudioConfig
        · simp [hu, ht]
        · simpa [hu, ht] using h
      · simpa [hu] using h
    | registerStatusCback callbacks => simpa [call, registerStatusCback, KeepsQueue] using h
    | unregisterStatusCback cookie => simpa [call, unregisterStatusCback, KeepsQueue] using h

end

end BluetoothAudioSession

/-! ### The queue that an iteration uses -/

section

variable {σ χ α : Type} {P : PcmControl σ χ} {D : Endpoint α}

/-- The calls among what others do. -/
def callsOf {ω : Type} (l : List (Interference χ ω)) : List χ :=
  l.filterMap fun i =>
    match i with
    | .call c => some c
    | .peer _ _ => none

/-- The calls that come before the `n` iterations from `i` on. -/
def callsFrom {ω : Type} (schedule : ℕ → Surrounding χ ω) : ℕ → ℕ → List χ
  | _, 0 => []
  | i, n + 1 => callsOf (schedule i).before ++ callsFrom schedule (i + 1) n

theorem session_foldl_interfere (l : List (Interference χ D.Peer)) (w : PcmWorld σ α) :
    (l.foldl (PcmWorld.interfere P D) w).session = (callsOf l).foldl P.call w.session := by
  induction l generalizing w with
  | nil => rfl
  | cons i l ih =>
    rw [List.foldl_cons, ih]
    cases i with
    | call c => rfl
    | peer ring a => rfl

theorem session_foldl_interfereRings (l : List (ℕ × D.Peer)) (w : PcmWorld σ α) :
    (l.foldl (PcmWorld.interfereRings D) w).session = w.session := by
  induction l generalizing w with
  | nil => rfl
  | cons a l ih =>
    rw [List.foldl_cons, ih]
    rfl

variable {pollMs : ℕ} {schedule : ℕ → Surrounding χ D.Peer} {t t' : Transfer σ α}

variable (P D) in
/-- What an iteration does with the session: it takes it as the calls before have left it. -/
inductive SessionCase (schedule : ℕ → Surrounding χ D.Peer) (t : Transfer σ α) :
    Iter (Transfer σ α) (Exit σ α) → Prop
  | returns (n : ℕ) (buffer : List α) (w : PcmWorld σ α) :
      SessionCase schedule t (.done (.returned n buffer w))
  | null (hr : P.isSessionReady
        ((callsOf (schedule t.iteration).before).foldl P.call t.world.session) = true)
      (hq : P.dataMq ((callsOf (schedule t.iteration).before).foldl P.call t.world.session) = none) :
      SessionCase schedule t (.done .nullDereference)
  | again (t' : Transfer σ α) (hi : t'.iteration = t.iteration)
      (hs : t'.world.session =
        (callsOf (schedule t.iteration).before).foldl P.call t.world.session) :
      SessionCase schedule t t'.again

theorem transferBody_session (pollMs : ℕ) (schedule : ℕ → Surrounding χ D.Peer) (t : Transfer σ α) :
    SessionCase P D schedule t (transferBody P D pollMs schedule t) := by
  have hs := session_foldl_interfere (P := P) (schedule t.iteration).before t.world
  unfold transferBody
  generalize (schedule t.iteration).before.foldl (PcmWorld.interfere P D) t.world = w at hs
  have hrings := session_foldl_interfereRings (schedule t.iteration).between w
  dsimp only
  cases hr : P.isSessionReady w.session with
  | false => exact .returns _ _ _
  | true =>
    rw [Bool.not_true, if_neg Bool.false_ne_true]
    cases hq : P.dataMq w.session with
    | none => exact .null (hs ▸ hr) (hs ▸ hq)
    | some mq =>
      dsimp only
      generalize (schedule t.iteration).between.foldl (PcmWorld.interfereRings D) w = w' at hrings
      by_cases ha : D.available (w.rings mq.ring) ≠ 0
      · rw [if_pos ha]
        generalize (if D.available (w.rings mq.ring) > t.buffer.length - t.total then
          t.buffer.length - t.total else D.available (w.rings mq.ring)) = count
        cases D.move t.total count t.buffer (w'.rings mq.ring) with
        | none => exact .returns _ _ _
        | some r => exact .again _ rfl (hrings.trans hs)
      · rw [if_neg ha]
        by_cases ht : t.timeoutMs ≥ pollMs
        · rw [if_pos ht]
          exact .again _ rfl (hrings.trans hs)
        · rw [if_neg ht]
          exact .returns _ _ _

end

/-! ### The data path of a session that keeps its queue -/

namespace BluetoothAudioSession

variable {α : Type} {D : Endpoint α} {sessionType : SessionType} {s : BluetoothAudioSession κ}

theorem steps_append {calls calls' : List (Call κ)} :
    (lts κ sessionType).Steps (fun s c => s.KeepsQueue c) s (calls ++ calls') ↔
      (lts κ sessionType).Steps (fun s c => s.KeepsQueue c) s calls ∧
        (lts κ sessionType).Steps (fun s c => s.KeepsQueue c) (calls.foldl (pcm κ).call s) calls' := by
  induction calls generalizing s with
  | nil => exact ⟨fun h => ⟨trivial, h⟩, And.right⟩
  | cons c calls ih =>
    constructor
    · rintro ⟨hc, s', ns, hs, hsteps⟩
      obtain rfl : (s.call c).1 = s' := congrArg Prod.fst (Option.some.inj hs)
      obtain ⟨h1, h2⟩ := ih.1 hsteps
      exact ⟨⟨hc, _, _, hs, h1⟩, h2⟩
    · rintro ⟨⟨hc, s', ns, hs, h1⟩, h2⟩
      obtain rfl : (s.call c).1 = s' := congrArg Prod.fst (Option.some.inj hs)
      exact ⟨hc, _, _, hs, ih.2 ⟨h1, h2⟩⟩

theorem queueReady_steps {calls : List (Call κ)} (h : s.QueueReady)
    (hc : (lts κ sessionType).Steps (fun s c => s.KeepsQueue c) s calls) :
    (calls.foldl (pcm κ).call s).QueueReady := by
  induction calls generalizing s with
  | nil => exact h
  | cons c calls ih =>
    obtain ⟨hk, s', ns, hs, hsteps⟩ := hc
    obtain rfl : (s.call c).1 = s' := congrArg Prod.fst (Option.some.inj hs)
    exact ih ((queueReady_call_iff h c).2 hk) hsteps

/-- The calls of a schedule from an iteration on, in their order, keep the queue of the session. -/
def ScheduleKeepsQueue {ω : Type} (sessionType : SessionType)
    (schedule : ℕ → Surrounding (Call κ) ω) (s : BluetoothAudioSession κ) (i : ℕ) : Prop :=
  ∀ n, (lts κ sessionType).Steps (fun s c => s.KeepsQueue c) s (callsFrom schedule i n)

/-- What an iteration keeps: the session has a queue if it is ready, and the calls to come keep it. -/
def QueueInv (sessionType : SessionType) (schedule : ℕ → Surrounding (Call κ) D.Peer)
    (t : Transfer (BluetoothAudioSession κ) α) : Prop :=
  t.world.session.QueueReady ∧ ScheduleKeepsQueue sessionType schedule t.world.session t.iteration

section

variable {schedule : ℕ → Surrounding (Call κ) D.Peer} {t t' : Transfer (BluetoothAudioSession κ) α}
  {pollMs : ℕ} {r : Exit (BluetoothAudioSession κ) α}

theorem QueueInv.before (h : QueueInv sessionType schedule t) :
    ((callsOf (schedule t.iteration).before).foldl (pcm κ).call t.world.session).QueueReady ∧
      ScheduleKeepsQueue sessionType schedule
        ((callsOf (schedule t.iteration).before).foldl (pcm κ).call t.world.session)
        (t.iteration + 1) := by
  obtain ⟨hq, hk⟩ := h
  refine ⟨?_, fun n => ?_⟩
  · have hone := hk 1
    rw [callsFrom, steps_append] at hone
    exact queueReady_steps hq hone.1
  · have hall := hk (n + 1)
    rw [callsFrom, steps_append] at hall
    exact hall.2

theorem QueueInv.next (h : QueueInv sessionType schedule t)
    (hb : transferBody (pcm κ) D pollMs schedule t = .next t') :
    QueueInv sessionType schedule t' := by
  have hc : SessionCase (pcm κ) D schedule t (transferBody (pcm κ) D pollMs schedule t) :=
    transferBody_session pollMs schedule t
  rw [hb] at hc
  generalize hr : Iter.next t' = r at hc
  cases hc with
  | returns => cases hr
  | null => cases hr
  | again t₁ hi hs =>
    unfold Transfer.again at hr
    split_ifs at hr
    obtain rfl := Iter.next.inj hr
    unfold QueueInv
    simp only [hi, hs]
    exact h.before

theorem QueueInv.done (h : QueueInv sessionType schedule t)
    (hb : transferBody (pcm κ) D pollMs schedule t = .done r) : r ≠ .nullDereference := by
  have hc : SessionCase (pcm κ) D schedule t (transferBody (pcm κ) D pollMs schedule t) :=
    transferBody_session pollMs schedule t
  rw [hb] at hc
  generalize hr : Iter.done r = e at hc
  rintro rfl
  cases hc with
  | returns => cases hr
  | null hready hq =>
    -- a session that is ready has a queue
    have hsome := h.before.1 hready
    rw [show BluetoothAudioSession.dataMq _ = none from hq] at hsome
    cases hsome
  | again t₁ hi hs =>
    unfold Transfer.again at hr
    split_ifs at hr
    cases hr

end

theorem transfer_ne_null {timeoutMs pollMs fuel : ℕ} {buffer : Option (List α)}
    {schedule : ℕ → Surrounding (Call κ) D.Peer} {w : PcmWorld (BluetoothAudioSession κ) α}
    (h : w.session.QueueReady) (hk : ScheduleKeepsQueue sessionType schedule w.session 0) :
    transfer (pcm κ) D timeoutMs pollMs buffer schedule w fuel ≠ some .nullDereference := by
  unfold transfer
  split
  · simp
  rename_i buffer
  by_cases hlen : buffer.length = 0
  · simp [hlen]
  rw [if_neg hlen]
  intro hloop
  have hinv : QueueInv sessionType schedule ⟨0, 0, timeoutMs, buffer, w⟩ := ⟨h, hk⟩
  exact loop_result (I := QueueInv sessionType schedule) (Q := fun r => r ≠ .nullDereference)
    (fun hi hb => hi.next hb) (fun hi hb => hi.done hb) hinv hloop rfl

end BluetoothAudioSession

/-- **The data path of a session has no null queue** after calls that keep the queue, nor while such
calls come in between; and every other call leaves a session that is ready without a queue. -/
theorem pcm_queue_not_null (α : Type) {sessionType : SessionType} {ns : List Notification}
    {s : BluetoothAudioSession κ}
    (h : (BluetoothAudioSession.lts κ sessionType).Run (fun s c => s.KeepsQueue c) ns s) :
    s.QueueReady ∧
    (∀ (buffer : Option (List α)) schedule rings fuel,
      BluetoothAudioSession.ScheduleKeepsQueue sessionType schedule s 0 →
      BluetoothAudioSession.outWritePcmData buffer schedule ⟨s, rings⟩ fuel ≠
        some .nullDereference) ∧
    (∀ (buffer : Option (List α)) schedule rings fuel,
      BluetoothAudioSession.ScheduleKeepsQueue sessionType schedule s 0 →
      BluetoothAudioSession.inReadPcmData buffer schedule ⟨s, rings⟩ fuel ≠
        some .nullDereference) ∧
    ∀ (s : BluetoothAudioSession κ) (c : BluetoothAudioSession.Call κ), s.QueueReady →
      ((s.call c).1.QueueReady ↔ s.KeepsQueue c) := by
  have hq : s.QueueReady := by
    refine h.inv_state ?_ ?_
    · intro hr
      cases hr
    · intro s c s' ns hi hc hs
      obtain rfl : (s.call c).1 = s' := congrArg Prod.fst (Option.some.inj hs)
      exact (BluetoothAudioSession.queueReady_call_iff hi c).2 hc
  exact ⟨hq, fun _ _ _ _ hk => BluetoothAudioSession.transfer_ne_null hq hk,
    fun _ _ _ _ hk => BluetoothAudioSession.transfer_ne_null hq hk,
    fun _ c hi => BluetoothAudioSession.queueReady_call_iff hi c⟩

/-- Nobody else does anything. -/
def alone {χ ω : Type} : ℕ → Surrounding χ ω := fun _ => ⟨[], []⟩

theorem callsFrom_alone {χ ω : Type} (i n : ℕ) :
    callsFrom (alone : ℕ → Surrounding χ ω) i n = [] := by
  induction n generalizing i with
  | zero => rfl
  | succ n ih => exact ih (i + 1)

/-- The start of an offload session, with a descriptor or without. -/
def startOffload (mqDesc : Option DataMQ) : BluetoothAudioSession.Call NoPayload :=
  .onSessionStarted (some 1) mqDesc ⟨.a2dpConfig, ()⟩ []

/-- An offload session that the stack has started with a descriptor. -/
theorem pcm_queue_not_null_offload :
    ∃ s : BluetoothAudioSession NoPayload, s.isSessionReady = true ∧ s.dataMq.isSome = true ∧
      BluetoothAudioSession.outWritePcmData (some [7]) alone ⟨s, smallQueue.rings⟩ 5 ≠
        some .nullDereference := by
  have hk : (BluetoothAudioSession.create .a2dpHardwareOffloadEncoding).KeepsQueue
      (startOffload (some ⟨0, true⟩)) := fun _ _ _ => rfl
  have hrun : (BluetoothAudioSession.lts NoPayload .a2dpHardwareOffloadEncoding).Run
      (fun s c => s.KeepsQueue c) [] ((BluetoothAudioSession.create .a2dpHardwareOffloadEncoding).call
        (startOffload (some ⟨0, true⟩))).1 := .step .init hk rfl
  obtain ⟨hq, hout, -⟩ := pcm_queue_not_null ℕ hrun
  refine ⟨_, rfl, hq rfl, hout _ _ _ _ fun n => ?_⟩
  rw [callsFrom_alone]
  trivial

/-- An offload session that the stack has started without a descriptor is ready, and has no queue. -/
theorem pcm_queue_null : ∃ (ns : List Notification) (s : BluetoothAudioSession NoPayload),
    (BluetoothAudioSession.lts NoPayload .a2dpHardwareOffloadEncoding).Reach ns s ∧
      s.isSessionReady = true ∧ s.dataMq = none ∧
      BluetoothAudioSession.outWritePcmData (some [7]) alone ⟨s, smallQueue.rings⟩ 1 =
        some .nullDereference ∧
      BluetoothAudioSession.inReadPcmData (some [7]) alone ⟨s, smallQueue.rings⟩ 1 =
        some .nullDereference := by
  have hrun : (BluetoothAudioSession.lts NoPayload .a2dpHardwareOffloadEncoding).Reach []
      ((BluetoothAudioSession.create .a2dpHardwareOffloadEncoding).call (startOffload none)).1 :=
    .step (a := startOffload none) .init trivial rfl
  exact ⟨_, _, hrun, rfl, rfl, rfl, rfl⟩

end TrebleDoze.Bluetooth
