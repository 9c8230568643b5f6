import TrebleDoze.Bluetooth.Stream
import TrebleDoze.Lib.Lts
import TrebleDoze.Lib.Trace
import Mathlib.Logic.Function.Basic

/-!
# Ports on one session

Any number of ports on one session, with the threads in their `Start` and `Suspend`, and the stack that
reports results.  `ReportControlStatus` invokes the callbacks of all observers one after the other
under the session's mutex (`inFlight` is what it has still to tell), while the ports change their
states without it.  The check of `Start` or `Suspend` and its write of `state_` are one step, as is the
body of a callback, although the source holds no mutex over them.

* `step_spec`: what a step does to the states of the ports, and that what is in flight keeps answering
  them, when every report does so as it is made (`ResultMatched`);
* `results_matched`: in these runs results are matched to requests (`late_suspend_starts`: not in all).
-/

namespace TrebleDoze.Bluetooth

open TrebleDoze.Lib

/-- Where a thread is in `Start` or `Suspend` of a port: nowhere, before `StartStream` (`SuspendStream`)
returns, or in `CondwaitState`. -/
inductive Pending where
  | idle
  | asking (req : Req)
  | waiting (req : Req)
  deriving DecidableEq, Repr

/-- A port, and the thread in it. -/
structure Proxy where
  port : BluetoothAudioPort
  pending : Pending
  deriving DecidableEq, Repr

/-- The session, the ports, which of them has its callbacks registered under a cookie, and the
callbacks that the session has still to invoke in the report it is in. -/
structure PortSystem (σ : Type) where
  session : σ
  ports : ℕ → Proxy
  callbacks : ℕ → Option ℕ
  inFlight : List Notification

namespace PortSystem

/-- What writes the state of a port. -/
inductive Cause where
  | setUp | request (req : Req) | stop | setState | notification (n : Notification)
  deriving DecidableEq, Repr

/-- What can be seen of the ports. -/
inductive Event where
  /-- The state of port `i` is written; `prev` may be `next`. -/
  | moved (i : ℕ) (cause : Cause) (prev next : BluetoothStreamState)
  | called (i : ℕ) (req : Req)
  | returned (i : ℕ) (req : Req) (ok : Bool)
  deriving DecidableEq, Repr

/-- The actions of the system; `χ` are the calls of the stack's side. -/
inductive Act (χ : Type) where
  | setUp (i : ℕ)
  | tearDown (i : ℕ)
  /-- `Start` or `Suspend` begins. -/
  | request (req : Req) (i : ℕ)
  /-- `StartStream` or `SuspendStream` returns. -/
  | ask (i : ℕ) (isOk : Bool)
  /-- The wait of `CondwaitState` ends. -/
  | wake (i : ℕ) (timeout : Bool)
  | stop (i : ℕ)
  | setState (i : ℕ) (state : BluetoothStreamState)
  | call (c : χ)
  | report (startResp : Bool) (status : BluetoothAudioStatus)
  /-- The session invokes the next callback. -/
  | deliver

section

variable {σ χ : Type} (S : SessionControl σ χ)

/-- Port `i` is replaced. -/
def setPort (i : ℕ) (x : Proxy) (s : PortSystem σ) : PortSystem σ :=
  { s with ports := Function.update s.ports i x }

@[simp] theorem ports_setPort_self (i : ℕ) (x : Proxy) (s : PortSystem σ) :
    (s.setPort i x).ports i = x := by simp [setPort]

@[simp] theorem ports_setPort_of_ne {i j : ℕ} (h : j ≠ i) (x : Proxy) (s : PortSystem σ) :
    (s.setPort i x).ports j = s.ports j := by simp [setPort, h]

/-- The part of `Start` and `Suspend` up to `StartStream` and `SuspendStream`. -/
def beginRequest (req : Req) (i : ℕ) (s : PortSystem σ) : Option (PortSystem σ × List Event) :=
  let x := s.ports i
  if x.pending ≠ .idle then none
  else if x.port.inUse ∧ x.port.state = req.source then
    some (s.setPort i ⟨{ x.port with state := req.transient }, .asking req⟩,
      [.called i req, .moved i (.request req) x.port.state req.transient])
  else some (s, [.called i req, .returned i req false])

/-- `StartStream` and `SuspendStream`, which take the session's mutex. -/
def askStream (i : ℕ) (isOk : Bool) (s : PortSystem σ) : Option (PortSystem σ × List Event) :=
  let x := s.ports i
  match x.pending with
  | .asking req =>
    if s.inFlight ≠ [] then none
    else if S.ask req isOk s.session then some (s.setPort i ⟨x.port, .waiting req⟩, [])
    else some (s.setPort i ⟨x.port, .idle⟩, [.returned i req false])
  | .idle | .waiting _ => none

/-- The rest of `Start` and `Suspend`. -/
def endWait (i : ℕ) (timeout : Bool) (s : PortSystem σ) : Option (PortSystem σ × List Event) :=
  let x := s.ports i
  match x.pending with
  | .waiting req =>
    if timeout ∨ x.port.state ≠ req.transient then
      some (s.setPort i ⟨x.port, .idle⟩,
        [.returned i req (BluetoothAudioPort.condwaitState req.transient x.port.state)])
    else none
  | .idle | .asking _ => none

/-- `SetUp`; `RegisterStatusCback` takes the session's mutex. -/
def setUpPort (i : ℕ) (s : PortSystem σ) : Option (PortSystem σ × List Event) :=
  let x := s.ports i
  if s.inFlight ≠ [] then none
  else if !S.isSessionReady s.session then some (s, [])
  else
    let (_, session, port) := x.port.setUp S s.session
    some ({ s.setPort i ⟨port, x.pending⟩ with
              session := session
              callbacks := if port.inUse then Function.update s.callbacks port.cookie (some i)
                else s.callbacks },
      [.moved i .setUp x.port.state port.state])

/-- `TearDown`; `UnregisterStatusCback` takes the session's mutex. -/
def tearDownPort (i : ℕ) (s : PortSystem σ) : Option (PortSystem σ × List Event) :=
  let x := s.ports i
  if s.inFlight ≠ [] then none
  else
    let (session, port) := x.port.tearDown S s.session
    some ({ s.setPort i ⟨port, x.pending⟩ with session := session }, [])

/-- The next callback of the report. -/
def deliverNext (s : PortSystem σ) : Option (PortSystem σ × List Event) :=
  match s.inFlight with
  | [] => none
  | n :: rest =>
    match s.callbacks n.cookie with
    | none => some ({ s with inFlight := rest }, [])
    | some i =>
      let x := s.ports i
      some ({ s.setPort i ⟨x.port.notify n, x.pending⟩ with inFlight := rest },
        [.moved i (.notification n) x.port.state (x.port.notify n).state])

def step (s : PortSystem σ) : Act χ → Option (PortSystem σ × List Event)
  | .setUp i => s.setUpPort S i
  | .tearDown i => s.tearDownPort S i
  | .request req i => s.beginRequest req i
  | .ask i isOk => s.askStream S i isOk
  | .wake i timeout => s.endWait i timeout
  | .stop i =>
    let x := s.ports i
    some (s.setPort i ⟨x.port.stop, x.pending⟩, [.moved i .stop x.port.state x.port.stop.state])
  | .setState i state =>
    let x := s.ports i
    some (s.setPort i ⟨x.port.setState state, x.pending⟩, [.moved i .setState x.port.state state])
  | .call c =>
    if s.inFlight ≠ [] then none
    else
      let r := S.call s.session c
      some ({ s with session := r.1, inFlight := r.2 }, [])
  | .report startResp status =>
    if s.inFlight ≠ [] then none
    else some ({ s with inFlight := S.reportControlStatus startResp status s.session }, [])
  | .deliver => s.deliverNext

/-- The ports `i` of the interfaces `apis i`, none of them set up, and the session. -/
def lts (apis : ℕ → Api) (session : σ) : Lts (PortSystem σ) (Act χ) Event where
  init := ⟨session, fun i => ⟨.create (apis i), .idle⟩, fun _ => none, []⟩
  step := step S

end

/-! ### Results that answer -/

/-- The result is one that a port in this state waits for or ignores: no result of a start takes it out
of `STARTED`, and no success of a suspension takes it from `STARTING` to `STARTED`. -/
def Answers (p : BluetoothAudioPort) : Notification → Prop
  | .controlResult _ true status => ¬ (p.state = .started ∧ p.api.leavesStarted status = true)
  | .controlResult _ false status => ¬ (p.state = .starting ∧ status = .success)
  | _ => True

instance (p : BluetoothAudioPort) (n : Notification) : Decidable (Answers p n) := by
  unfold Answers; split <;> infer_instance

section

variable {σ : Type}

/-- The callback for `n` is that of port `i`, and passes its checks. -/
def Reaches (s : PortSystem σ) (n : Notification) (i : ℕ) : Prop :=
  s.callbacks n.cookie = some i ∧ (s.ports i).port.inUse = true ∧ (s.ports i).port.cookie = n.cookie

instance (s : PortSystem σ) (n : Notification) (i : ℕ) : Decidable (s.Reaches n i) := by
  unfold Reaches; infer_instance

/-- What is in flight for port `i` answers it in the state of `p`. -/
def Answered (s : PortSystem σ) (i : ℕ) (p : BluetoothAudioPort) : Prop :=
  ∀ n ∈ s.inFlight, s.Reaches n i → Answers p n

instance (s : PortSystem σ) (i : ℕ) (p : BluetoothAudioPort) : Decidable (s.Answered i p) := by
  unfold Answered; infer_instance

/-- A result is reported when it answers the ports it reaches, and until it is delivered no call puts
them in a state that it does not answer; `SetState` puts no port in `STARTED`. -/
def ResultMatched {χ : Type} (S : SessionControl σ χ) (s : PortSystem σ) : Act χ → Prop
  | .report startResp status => ∀ n ∈ S.reportControlStatus startResp status s.session,
      ∀ i ∈ s.callbacks n.cookie, s.Reaches n i → Answers (s.ports i).port n
  | .request req i => (s.ports i).port.inUse = true → (s.ports i).port.state = req.source →
      s.Answered i { (s.ports i).port with state := req.transient }
  | .setState i state => (state = .started → (s.ports i).port.state = .started) ∧
      s.Answered i { (s.ports i).port with state := state }
  | _ => True

instance {χ : Type} (S : SessionControl σ χ) (s : PortSystem σ) (a : Act χ) :
    Decidable (ResultMatched S s a) := by
  unfold ResultMatched; split <;> infer_instance

theorem answers_of_resting {p : BluetoothAudioPort} (h : p.state ≠ .started)
    (h' : p.state ≠ .starting) (n : Notification) : Answers p n := by
  unfold Answers
  split
  · exact fun hn => h hn.1
  · exact fun hn => h' hn.1
  · trivial

end

/-! ### The effect of a step -/

/-- What a write of a state may be: a result of a start does not take the port out of `STARTED`, and
only a success of a start takes it there, from `STARTING`. -/
structure MovedOk (cause : Cause) (prev next : BluetoothStreamState) : Prop where
  stays : ∀ cookie status, cause = .notification (.controlResult cookie true status) →
    prev = .started → next = .started
  starts : next = .started → prev ≠ .started →
    prev = .starting ∧ ∃ cookie, cause = .notification (.controlResult cookie true .success)

/-- Writes of other causes may be anything but an entry into `STARTED`. -/
theorem MovedOk.of_call {cause : Cause} {prev next : BluetoothStreamState}
    (h : ∀ n, cause ≠ .notification n) (hn : next = .started → prev = .started) :
    MovedOk cause prev next :=
  ⟨fun _ _ he => absurd he (h _), fun he hp => absurd (hn he) hp⟩

section

variable {σ : Type}

/-- The ways a step can go, for the states of the ports and the threads in them. -/
inductive Effect (s : PortSystem σ) : PortSystem σ → List Event → Prop
  | quiet {s' : PortSystem σ} (h : ∀ i, (s'.ports i).pending = (s.ports i).pending ∧
      (s'.ports i).port.state = (s.ports i).port.state) : Effect s s' []
  | moves {s' : PortSystem σ} (i : ℕ) (cause : Cause) (port : BluetoothAudioPort)
      (hp : s'.ports = Function.update s.ports i ⟨port, (s.ports i).pending⟩)
      (hm : MovedOk cause (s.ports i).port.state port.state) :
      Effect s s' [.moved i cause (s.ports i).port.state port.state]
  | begins (req : Req) (i : ℕ) : Effect s
      (s.setPort i ⟨{ (s.ports i).port with state := req.transient }, .asking req⟩)
      [.called i req, .moved i (.request req) (s.ports i).port.state req.transient]
  | declines (req : Req) (i : ℕ) (hidle : (s.ports i).pending = .idle) :
      Effect s s [.called i req, .returned i req false]
  | asks (req : Req) (i : ℕ) (hask : (s.ports i).pending = .asking req) :
      Effect s (s.setPort i ⟨(s.ports i).port, .waiting req⟩) []
  | refused (req : Req) (i : ℕ) :
      Effect s (s.setPort i ⟨(s.ports i).port, .idle⟩) [.returned i req false]
  | wakes (req : Req) (i : ℕ) (hwait : (s.ports i).pending = .waiting req) :
      Effect s (s.setPort i ⟨(s.ports i).port, .idle⟩)
        [.returned i req (BluetoothAudioPort.condwaitState req.transient (s.ports i).port.state)]

/-- What is in flight answers the port it is for. -/
structure GoodInv {χ : Type} (S : SessionControl σ χ) (s : PortSystem σ) : Prop where
  wellFormed : S.WellFormed s.session
  nodup : (s.inFlight.map Notification.cookie).Nodup
  answered : ∀ i, s.Answered i (s.ports i).port

variable {χ : Type} {S : SessionControl σ χ} {s s' : PortSystem σ} {a : Act χ} {os : List Event}

theorem movedOk_notify {p : BluetoothAudioPort} {n : Notification}
    (h : p.inUse = true → p.cookie = n.cookie → Answers p n) :
    MovedOk (.notification n) p.state (p.notify n).state := by
  by_cases hr : p.inUse = true ∧ p.cookie = n.cookie
  · have ha := h hr.1 hr.2
    cases n with
    | controlResult cookie startResp status =>
      have hst : (p.notify (.controlResult cookie startResp status)).state =
          BluetoothAudioPort.onResult p.api p.state status := by
        have hc : p.cookie = cookie := hr.2
        simp [BluetoothAudioPort.notify, BluetoothAudioPort.controlResultCb,
          BluetoothAudioPort.controlResultHandler, hr.1, hc]
      rw [hst]
      constructor
      · intro cookie' status' he hp
        obtain ⟨rfl, rfl, rfl⟩ : cookie = cookie' ∧ startResp = true ∧ status = status' := by
          simpa using he
        have hl : p.api.leavesStarted status = false := by simpa [Answers, hp] using ha
        simp [BluetoothAudioPort.onResult, hp, hl]
      · intro hn hp
        obtain ⟨hs, rfl⟩ := (BluetoothAudioPort.of_onResult_eq_started hn).resolve_left hp
        cases startResp with
        | true => exact ⟨hs, cookie, rfl⟩
        | false => exact absurd ⟨hs, rfl⟩ ha
    | sessionChanged cookie =>
      have hd : (p.notify (.sessionChanged cookie)).state = .disabled := by
        have hc : p.cookie = cookie := hr.2
        simp [BluetoothAudioPort.notify, BluetoothAudioPort.sessionChangedCb,
          BluetoothAudioPort.sessionChangedHandler, hr.1, hc]
      rw [hd]
      exact ⟨fun _ _ he => by simp at he, fun hn => by cases hn⟩
    | audioConfigurationChanged cookie =>
      exact ⟨fun _ _ he => by simp at he, fun hn hp => absurd hn hp⟩
    | lowLatencyModeAllowed cookie allowed =>
      exact ⟨fun _ _ he => by simp at he, fun hn hp => absurd hn hp⟩
  · rw [BluetoothAudioPort.notify_of_ne hr]
    exact ⟨fun _ _ _ hp => hp, fun hn hp => absurd hn hp⟩

/-! ### What is in flight -/

theorem GoodInv.of_inFlight_nil (hw : S.WellFormed s.session) (hf : s.inFlight = []) :
    GoodInv S s :=
  ⟨hw, by simp [hf], fun i n hn => by simp [hf] at hn⟩

/-- Port `i` changes, but for its cookie, and some of the callbacks have been invoked. -/
theorem GoodInv.of_update (hg : GoodInv S s) {i : ℕ} {port : BluetoothAudioPort} {pending : Pending}
    (hw : S.WellFormed s'.session) (hp : s'.ports = Function.update s.ports i ⟨port, pending⟩)
    (hcb : s'.callbacks = s.callbacks) (hf : s'.inFlight.Sublist s.inFlight)
    (ha : ∀ n ∈ s'.inFlight, s'.Reaches n i → Answers port n) : GoodInv S s' := by
  refine ⟨hw, hg.nodup.sublist (hf.map _), fun j n hn hr => ?_⟩
  by_cases hj : j = i
  · subst hj
    rw [hp, Function.update_self]
    exact ha n hn hr
  · have hsame : s'.ports j = s.ports j := by rw [hp, Function.update_of_ne hj]
    unfold Reaches at hr
    rw [hsame, hcb] at hr
    rw [hsame]
    exact hg.answered j n (hf.subset hn) hr

/-- Port `i` changes, but for its cookie, to a state that is answered. -/
theorem GoodInv.setPort (hg : GoodInv S s) {i : ℕ} {port : BluetoothAudioPort} {pending : Pending}
    (hcookie : port.cookie = (s.ports i).port.cookie) (ha : s.Answered i port) :
    GoodInv S (s.setPort i ⟨port, pending⟩) := by
  refine hg.of_update hg.wellFormed rfl rfl (.refl _) fun n hn hr => ha n hn ?_
  obtain ⟨hcb, hu, hc⟩ := hr
  rw [ports_setPort_self] at hu hc
  exact ⟨hcb, by simpa [BluetoothAudioPort.inUse, hcookie] using hu, by rw [← hcookie, hc]⟩

/-! ### The functions of a step, one by one -/

theorem setUpPort_spec (hg : GoodInv S s) {i : ℕ} (hs : s.setUpPort S i = some (s', os)) :
    Effect s s' os ∧ GoodInv S s' := by
  unfold setUpPort at hs
  dsimp only at hs
  by_cases hf : s.inFlight = []
  · rw [if_neg (not_not.2 hf)] at hs
    cases hr : S.isSessionReady s.session with
    | false =>
      rw [hr, Bool.not_false, if_pos rfl] at hs
      obtain ⟨rfl, rfl⟩ := Prod.mk.inj (Option.some.inj hs)
      exact ⟨.quiet fun _ => ⟨rfl, rfl⟩, hg⟩
    | true =>
      rw [hr, Bool.not_true, if_neg Bool.false_ne_true] at hs
      obtain ⟨rfl, rfl⟩ := Prod.mk.inj (Option.some.inj hs)
      refine ⟨.moves i .setUp _ rfl (.of_call (by simp) ?_), .of_inFlight_nil ?_ hf⟩
      · simp [BluetoothAudioPort.setUp, hr]
      · simpa [BluetoothAudioPort.setUp, hr] using S.register_wellFormed hg.wellFormed
  · rw [if_pos hf] at hs
    cases hs

theorem tearDownPort_spec (hg : GoodInv S s) {i : ℕ} (hs : s.tearDownPort S i = some (s', os)) :
    Effect s s' os ∧ GoodInv S s' := by
  unfold tearDownPort at hs
  dsimp only at hs
  split_ifs at hs with hf
  obtain ⟨rfl, rfl⟩ := Prod.mk.inj (Option.some.inj hs)
  refine ⟨.quiet fun j => ?_, .of_inFlight_nil ?_ (not_not.1 hf)⟩
  · by_cases hj : j = i
    · subst hj
      simp only [ports_setPort_self, true_and, BluetoothAudioPort.tearDown]
      split_ifs <;> rfl
    · simp [hj]
  · simp only [BluetoothAudioPort.tearDown]
    split_ifs
    · exact hg.wellFormed
    · exact S.unregister_wellFormed _ hg.wellFormed

theorem beginRequest_spec (hg : GoodInv S s) {req : Req} {i : ℕ}
    (hc : ResultMatched S s (.request req i)) (hs : s.beginRequest req i = some (s', os)) :
    Effect s s' os ∧ GoodInv S s' := by
  unfold beginRequest at hs
  dsimp only at hs
  split_ifs at hs with hi hr
  · obtain ⟨rfl, rfl⟩ := Prod.mk.inj (Option.some.inj hs)
    exact ⟨.begins req i, hg.setPort rfl (hc hr.1 hr.2)⟩
  · obtain ⟨rfl, rfl⟩ := Prod.mk.inj (Option.some.inj hs)
    exact ⟨.declines req i (not_not.1 hi), hg⟩

theorem askStream_spec (hg : GoodInv S s) {i : ℕ} {isOk : Bool}
    (hs : s.askStream S i isOk = some (s', os)) : Effect s s' os ∧ GoodInv S s' := by
  unfold askStream at hs
  dsimp only at hs
  split at hs
  · rename_i req hp
    split_ifs at hs
    · obtain ⟨rfl, rfl⟩ := Prod.mk.inj (Option.some.inj hs)
      exact ⟨.asks req i hp, hg.setPort rfl (hg.answered i)⟩
    · obtain ⟨rfl, rfl⟩ := Prod.mk.inj (Option.some.inj hs)
      exact ⟨.refused req i, hg.setPort rfl (hg.answered i)⟩
  · cases hs
  · cases hs

theorem endWait_spec (hg : GoodInv S s) {i : ℕ} {timeout : Bool}
    (hs : s.endWait i timeout = some (s', os)) : Effect s s' os ∧ GoodInv S s' := by
  unfold endWait at hs
  dsimp only at hs
  split at hs
  · rename_i req hp
    split_ifs at hs
    obtain ⟨rfl, rfl⟩ := Prod.mk.inj (Option.some.inj hs)
    exact ⟨.wakes req i hp, hg.setPort rfl (hg.answered i)⟩
  · cases hs
  · cases hs

theorem deliverNext_spec (hg : GoodInv S s) (hs : s.deliverNext = some (s', os)) :
    Effect s s' os ∧ GoodInv S s' := by
  unfold deliverNext at hs
  split at hs
  · cases hs
  · rename_i n rest hf
    have hsub : rest.Sublist s.inFlight := by
      rw [hf]
      exact List.sublist_cons_self n rest
    split at hs
    · obtain ⟨rfl, rfl⟩ := Prod.mk.inj (Option.some.inj hs)
      exact ⟨.quiet fun _ => ⟨rfl, rfl⟩, hg.wellFormed, hg.nodup.sublist (hsub.map _),
        fun i m hm hr => hg.answered i m (hsub.subset hm) hr⟩
    · rename_i i hi
      obtain ⟨rfl, rfl⟩ := Prod.mk.inj (Option.some.inj hs)
      refine ⟨.moves i (.notification n) _ rfl (movedOk_notify fun hu hcookie => ?_),
        hg.of_update hg.wellFormed rfl rfl hsub fun m hm hr => ?_⟩
      · exact hg.answered i n (by simp [hf]) ⟨hi, hu, hcookie⟩
      · obtain ⟨hcb, hu, hcm⟩ := hr
        simp only [ports_setPort_self, BluetoothAudioPort.inUse_notify,
          BluetoothAudioPort.cookie_notify] at hu hcm
        -- no second notification is for the same cookie, so the port has not moved
        have hne : (s.ports i).port.cookie ≠ n.cookie := by
          intro he
          have hnd := hg.nodup
          rw [hf, List.map_cons, List.nodup_cons] at hnd
          exact hnd.1 (by rw [← he, hcm]; exact List.mem_map_of_mem hm)
        rw [BluetoothAudioPort.notify_of_ne fun h => hne h.2]
        exact hg.answered i m (hsub.subset hm) ⟨hcb, hu, hcm⟩

/-- **What a step does**, when what is in flight is answered. -/
theorem step_spec (hg : GoodInv S s) (hc : ResultMatched S s a)
    (hs : s.step S a = some (s', os)) : Effect s s' os ∧ GoodInv S s' := by
  cases a with
  | setUp i => exact setUpPort_spec hg hs
  | tearDown i => exact tearDownPort_spec hg hs
  | request req i => exact beginRequest_spec hg hc hs
  | ask i isOk => exact askStream_spec hg hs
  | wake i timeout => exact endWait_spec hg hs
  | deliver => exact deliverNext_spec hg hs
  | stop i =>
    obtain ⟨rfl, rfl⟩ := Prod.mk.inj (Option.some.inj hs)
    unfold BluetoothAudioPort.stop
    split_ifs
    · exact ⟨.moves i .stop _ rfl (.of_call (by simp) id), hg.setPort rfl (hg.answered i)⟩
    · exact ⟨.moves i .stop _ rfl (.of_call (by simp) (by simp)),
        hg.setPort rfl fun n _ _ => answers_of_resting (by simp) (by simp) n⟩
  | setState i state =>
    obtain ⟨rfl, rfl⟩ := Prod.mk.inj (Option.some.inj hs)
    exact ⟨.moves i .setState ((s.ports i).port.setState state) rfl (.of_call (by simp) hc.1),
      hg.setPort rfl hc.2⟩
  | call c =>
    simp only [step] at hs
    split_ifs at hs
    obtain ⟨rfl, rfl⟩ := Prod.mk.inj (Option.some.inj hs)
    refine ⟨.quiet fun _ => ⟨rfl, rfl⟩, S.call_wellFormed c hg.wellFormed,
      S.nodup_call c hg.wellFormed, fun i n hn _ => ?_⟩
    have hno := S.isResult_call c n hn
    cases n with
    | controlResult => cases hno
    | sessionChanged | audioConfigurationChanged | lowLatencyModeAllowed => trivial
  | report startResp status =>
    simp only [step] at hs
    split_ifs at hs
    obtain ⟨rfl, rfl⟩ := Prod.mk.inj (Option.some.inj hs)
    exact ⟨.quiet fun _ => ⟨rfl, rfl⟩, hg.wellFormed, S.nodup_report _ _ hg.wellFormed,
      fun i n hn hr => hc n hn i hr.1 hr⟩

/-! ### Starts that return true -/

/-- Since the last `Start` of port `i` was called, a success of a start has taken it from `STARTING` to
`STARTED`. -/
def Completed (i : ℕ) (tr : List Event) : Prop :=
  ∃ cookie pre post, tr =
    pre ++ .moved i (.notification (.controlResult cookie true .success)) .starting .started :: post ∧
      .called i .start ∉ post

theorem Completed.append {i : ℕ} {tr : List Event} (h : Completed i tr)
    (hos : .called i .start ∉ os) : Completed i (tr ++ os) := by
  obtain ⟨cookie, pre, post, rfl, hpost⟩ := h
  exact ⟨cookie, pre, post ++ os, by simp, by simp [hpost, hos]⟩

theorem completed_snoc {i : ℕ} {tr : List Event} {prev : BluetoothStreamState} {cause : Cause}
    (h : MovedOk cause prev .started) (hp : prev ≠ .started) :
    Completed i (tr ++ [.moved i cause prev .started]) := by
  obtain ⟨rfl, cookie, rfl⟩ := h.starts rfl hp
  exact ⟨cookie, tr, [], rfl, List.not_mem_nil⟩

/-- A port with a thread in `Start` is `STARTED` only by a success of a start. -/
def CallInv (tr : List Event) (s : PortSystem σ) : Prop :=
  ∀ i, (s.ports i).pending = .asking .start ∨ (s.ports i).pending = .waiting .start →
    (s.ports i).port.state = .started → Completed i tr

theorem callInv_effect {tr : List Event} (hi : CallInv tr s) (he : Effect s s' os) :
    CallInv (tr ++ os) s' := by
  intro j hpend hst
  cases he with
  | quiet h =>
    obtain ⟨h1, h2⟩ := h j
    rw [List.append_nil]
    exact hi j (by rwa [h1] at hpend) (by rwa [h2] at hst)
  | moves i cause port hp hm =>
    by_cases hj : j = i
    · subst hj
      rw [hp, Function.update_self] at hpend hst
      dsimp only at hpend hst
      by_cases hprev : (s.ports j).port.state = .started
      · exact (hi j hpend hprev).append (by simp)
      · rw [hst] at hm ⊢
        exact completed_snoc hm hprev
    · rw [hp, Function.update_of_ne hj] at hpend hst
      exact (hi j hpend hst).append (by simp)
  | begins req i =>
    by_cases hj : j = i
    · subst hj
      rw [ports_setPort_self] at hst
      cases req <;> cases hst
    · rw [ports_setPort_of_ne hj] at hpend hst
      exact (hi j hpend hst).append (by simp [hj])
  | declines req i hidle =>
    by_cases hj : j = i
    · subst hj
      simp [hidle] at hpend
    · exact (hi j hpend hst).append (by simp [hj])
  | asks req i hask =>
    rw [List.append_nil]
    by_cases hj : j = i
    · subst hj
      rw [ports_setPort_self] at hpend hst
      refine hi j (.inl ?_) hst
      simpa [hask] using hpend
    · rw [ports_setPort_of_ne hj] at hpend hst
      exact hi j hpend hst
  | refused req i =>
    by_cases hj : j = i
    · subst hj
      rw [ports_setPort_self] at hpend
      simp at hpend
    · rw [ports_setPort_of_ne hj] at hpend hst
      exact (hi j hpend hst).append (by simp)
  | wakes req i hwait =>
    by_cases hj : j = i
    · subst hj
      rw [ports_setPort_self] at hpend
      simp at hpend
    · rw [ports_setPort_of_ne hj] at hpend hst
      exact (hi j hpend hst).append (by simp)

/-! ### Results are matched to requests -/

theorem Effect.movedOk (he : Effect s s' os) {i : ℕ} {cause : Cause} {prev next : BluetoothStreamState}
    (hm : .moved i cause prev next ∈ os) : MovedOk cause prev next := by
  cases he with
  | moves j cause' port hp hok =>
    simp only [List.mem_singleton, Event.moved.injEq] at hm
    obtain ⟨-, rfl, rfl, rfl⟩ := hm
    exact hok
  | begins req j =>
    simp only [List.mem_cons, reduceCtorEq, Event.moved.injEq, List.not_mem_nil, or_false,
      false_or] at hm
    obtain ⟨-, rfl, rfl, rfl⟩ := hm
    exact .of_call (by simp) (by cases req <;> simp [Req.transient])
  | quiet | declines | asks | refused | wakes => simp at hm

/-- A `Start` that returns true has waited until the port is `STARTED`. -/
theorem Effect.of_returned (he : Effect s s' os) {i : ℕ} (hm : .returned i .start true ∈ os) :
    (s.ports i).pending = .waiting .start ∧ (s.ports i).port.state = .started := by
  cases he with
  | wakes req j hwait =>
    simp only [List.mem_singleton, Event.returned.injEq] at hm
    obtain ⟨rfl, rfl, hok⟩ := hm
    have hboth : (s.ports i).port.state ≠ .starting ∧ (s.ports i).port.state = .started := by
      simpa [BluetoothAudioPort.condwaitState, Req.transient] using hok.symm
    exact ⟨hwait, hboth.2⟩
  | quiet | moves | begins | declines | asks | refused => simp at hm

theorem inv_run {apis : ℕ → Api} {session : σ} (hw : S.WellFormed session) {tr : List Event}
    (h : (lts S apis session).Run (ResultMatched S) tr s) : GoodInv S s ∧ CallInv tr s := by
  refine h.inv (I := fun tr s => GoodInv S s ∧ CallInv tr s) ?_ ?_
  · refine ⟨.of_inFlight_nil hw rfl, fun i hp => ?_⟩
    rcases hp with hp | hp <;> cases hp
  · intro tr s a s' os hi hc hs
    obtain ⟨he, hg⟩ := step_spec hi.1 hc hs
    exact ⟨hg, callInv_effect hi.2 he⟩

end

end PortSystem

/-- **Results are matched to requests**, in the runs whose results answer the ports they reach: a result
of a start takes no port out of `STARTED`, a port enters `STARTED` only from `STARTING` by a success of
a start, and a `Start` returns true only after one that came since it was called. -/
theorem results_matched {σ χ : Type} {S : SessionControl σ χ} {apis : ℕ → Api} {session : σ}
    (hw : S.WellFormed session) {tr os : List PortSystem.Event} {s s' : PortSystem σ}
    {a : PortSystem.Act χ}
    (h : (PortSystem.lts S apis session).Run (PortSystem.ResultMatched S) tr s)
    (hc : PortSystem.ResultMatched S s a) (hs : s.step S a = some (s', os)) :
    (∀ i cookie status next,
      .moved i (.notification (.controlResult cookie true status)) .started next ∈ os →
        next = .started) ∧
    (∀ i cause prev, .moved i cause prev .started ∈ os → prev ≠ .started →
      prev = .starting ∧ ∃ cookie, cause = .notification (.controlResult cookie true .success)) ∧
    (∀ i, .returned i .start true ∈ os → PortSystem.Completed i tr) := by
  obtain ⟨hg, hi⟩ := PortSystem.inv_run hw h
  obtain ⟨he, -⟩ := PortSystem.step_spec hg hc hs
  refine ⟨fun i cookie status next hm => ?_, fun i cause prev hm hp => ?_, fun i hm => ?_⟩
  · exact (he.movedOk hm).stays cookie status rfl rfl
  · exact (he.movedOk hm).starts rfl hp
  · obtain ⟨hpend, hst⟩ := he.of_returned hm
    exact hi i (.inr hpend) hst

/-- Port 0 is started; port 1 is there too. -/
def startOne : List (PortSystem.Act { c : BluetoothAudioSession.Call NoPayload // c.ofStack = true }) :=
  [.setUp 0, .setUp 1, .request .start 0, .ask 0 true, .report true .success, .deliver, .deliver]

theorem results_matched_startOne : ∃ tr s,
    (PortSystem.lts (SessionControl.aidl NoPayload) (fun _ => .aidl) startedSession).Run
      (PortSystem.ResultMatched (SessionControl.aidl NoPayload)) tr s ∧
    ((s.step (SessionControl.aidl NoPayload) (.wake 0 false)).map Prod.snd =
      some [.returned 0 .start true]) ∧ PortSystem.Completed 0 tr := by
  obtain ⟨tr, s, h, hs⟩ := Lts.exists_run
    (M := PortSystem.lts (SessionControl.aidl NoPayload) (fun _ => .aidl) startedSession)
    (C := PortSystem.ResultMatched (SessionControl.aidl NoPayload))
    (P := fun _ s => (s.step (SessionControl.aidl NoPayload) (.wake 0 false)).map Prod.snd =
      some [.returned 0 .start true]) startOne (by decide)
  obtain ⟨⟨s', os⟩, hstep, hos⟩ := Option.map_eq_some_iff.1 hs
  have hos : os = [.returned 0 .start true] := hos
  have hw : (SessionControl.aidl NoPayload).WellFormed startedSession := List.nodup_nil
  exact ⟨tr, s, h, hs, (results_matched (a := .wake 0 false) hw h trivial hstep).2.2 0 (by simp [hos])⟩

/-- Port 1 is started while port 0 plays. -/
def startTwo : List (PortSystem.Act { c : BluetoothAudioSession.Call NoPayload // c.ofStack = true }) :=
  startOne ++ [.wake 0 false, .request .start 1, .ask 1 true, .report true .success, .deliver]

/-- Port 1 is started while port 0 is being suspended. -/
def startLate : List (PortSystem.Act { c : BluetoothAudioSession.Call NoPayload // c.ofStack = true }) :=
  startOne ++ [.wake 0 false, .request .suspend 0, .ask 0 true, .request .start 1, .ask 1 true,
    .report false .success, .deliver, .deliver, .wake 1 false]

/-- The answer to the start of port 1 stops port 0, and the answer to the suspension of port 0 completes
the start of port 1. -/
theorem late_suspend_starts :
    (∃ tr s, (PortSystem.lts (SessionControl.aidl NoPayload) (fun _ => .aidl) startedSession).Reach
        tr s ∧ .moved 0 (.notification (.controlResult 256 true .success)) .started .standby ∈ tr) ∧
    ∃ tr s, (PortSystem.lts (SessionControl.aidl NoPayload) (fun _ => .aidl) startedSession).Reach
        tr s ∧ .moved 1 (.notification (.controlResult 257 false .success)) .starting .started ∈ tr ∧
      .returned 1 .start true ∈ tr :=
  ⟨Lts.exists_run startTwo (by decide), Lts.exists_run startLate (by decide)⟩

end TrebleDoze.Bluetooth
