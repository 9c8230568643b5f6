import TrebleDoze.Bluetooth.LatencyModes
import TrebleDoze.Bluetooth.ProviderConfig
import TrebleDoze.Bluetooth.SessionControl
import TrebleDoze.Lib.Threads

/-!
# The provider factory and its providers

`openProvider` makes a provider of the class of a session type. Any number of providers is open at a
time, those of one type share its session, and the deaths of hosts are reported to the sessions when the
binder driver gets to it: in the meantime a provider may have started the session again.

* `startSession_took`: what a provider and its session are after a start that is accepted;
* `ServiceInv`, `serviceInv_run`: what holds of the sessions in every order of steps;
* `sessions_checked`: each session holds a configuration that the class of its type has checked; an offload
  session is ready exactly when it has a port, a software session exactly when it has a configuration; and
  no two sessions share a data queue.
-/

namespace TrebleDoze.Bluetooth

open TrebleDoze.Lib

variable {κ : Tag → Type}

/-! ### The providers -/

/-- Where a class makes the data queue of its providers; the offload classes make none. -/
inductive QueueMade where
  | never | constructor | startSession
  deriving DecidableEq, Repr

/-- `data_mq_` of the class that is made for a session type. -/
def SessionType.queueMade : SessionType → QueueMade
  | a2dpSoftwareEncoding | a2dpSoftwareDecoding | hearingAidSoftwareEncoding => .constructor
  | leAudioSoftwareEncoding | leAudioSoftwareDecoding | leAudioBroadcastSoftwareEncoding
  | hfpSoftwareEncoding | hfpSoftwareDecoding => .startSession
  | _ => .never

/-- The members of a provider, and the registrations with its death recipient. -/
structure ProviderObject (κ : Tag → Type) where
  sessionType : SessionType
  stackIface : Option ℕ
  audioConfig : Option (AudioConfiguration κ)
  latencyModes : List LatencyMode
  dataMq : Option DataMQ
  links : List Link
  contexts : ℕ

namespace ProviderObject

/-- The constructor of the class that is made for a session type. -/
def create (t : SessionType) (ring : ℕ) : ProviderObject κ where
  sessionType := t
  stackIface := none
  audioConfig := none
  latencyModes := []
  dataMq := if t.queueMade = .constructor then some ⟨ring, true⟩ else none
  links := []
  contexts := 0

/-- The provider at work, on the session of its type. -/
def attach (dead : List ℕ) (session : BluetoothAudioSession κ) (x : ProviderObject κ) : Provider κ where
  session := session
  stackIface := x.stackIface
  audioConfig := x.audioConfig
  latencyModes := x.latencyModes
  links := x.links
  contexts := x.contexts
  dead := dead

/-- Its members afterwards. -/
def update (p : Provider κ) (x : ProviderObject κ) : ProviderObject κ :=
  { x with stackIface := p.stackIface, audioConfig := p.audioConfig, latencyModes := p.latencyModes
           links := p.links, contexts := p.contexts }

/-- `startSession` of the classes that make their queue there; the queue is the provider's also when the
base class then refuses the host. -/
def withQueue (ring : ℕ) (x : ProviderObject κ) : ProviderObject κ :=
  match x.sessionType.queueMade with
  | .startSession => { x with dataMq := some ⟨ring, true⟩ }
  | .constructor | .never => x

/-- Its registrations for the death of a host go. -/
def withoutLinks (host : ℕ) (x : ProviderObject κ) : ProviderObject κ :=
  { x with links := x.links.filter fun l => !(l.binder == host) }

end ProviderObject

/-! ### The service -/

/-- The factory's process: the open providers, the queues made so far by the type of their maker, the
sessions, of which `GetSessionInstance` makes each when it is first asked for, the hosts that have died, and
the types of the sessions that are still to be told of a death. -/
structure ProviderService (κ : Tag → Type) where
  providers : Threads (ProviderObject κ)
  opened : ℕ
  rings : List SessionType
  sessions : SessionType → BluetoothAudioSession κ
  dead : List ℕ
  obituaries : List SessionType

namespace ProviderService

/-- What the callers see. -/
inductive Event where
  /-- `openProvider` has returned provider `i`. -/
  | opened (i : ℕ)
  /-- A call has returned, with `EX_ILLEGAL_ARGUMENT` if not `ok`. -/
  | returned (ok : Bool)
  /-- `binderDiedCallbackAidl` has run for a session. -/
  | told (t : SessionType)
  deriving DecidableEq, Repr

/-- The steps: the calls of the stack on the factory and on provider `i`, the end of its last reference,
the death of a host, the report of a death, and a port that comes to a session or leaves it. Where a queue
is made, `made` tells whether that succeeds, and where a session is given a queue, `mapped` whether it can map
it. -/
inductive Act (κ : Tag → Type) where
  | openProvider (t : SessionType) (made : Bool)
  | startSession (i : ℕ) (hostIf : Option ℕ) (audioConfig : AudioConfiguration κ)
      (latencyModes : List LatencyMode) (made mapped : Bool)
  | endSession (i : ℕ)
  | updateAudioConfiguration (i : ℕ) (audioConfig : AudioConfiguration κ)
  | setLowLatencyModeAllowed (i : ℕ) (allowed : Bool)
  | release (i : ℕ)
  | binderDied (host : ℕ)
  | deliver (n : ℕ)
  | observe (t : SessionType) (c : { c : BluetoothAudioSession.Call κ // c.ofStack = false })

/-- No provider, and sessions that nobody has started. -/
def create : ProviderService κ where
  providers := []
  opened := 0
  rings := []
  sessions := .create
  dead := []
  obituaries := []

/-- A queue of the provider of a type. -/
def ringsAfter (t : SessionType) (m : QueueMade) (rings : List SessionType) : List SessionType :=
  if t.queueMade = m then rings ++ [t] else rings

/-- `openProvider`; a class that makes its queue in the constructor is only valid if it has one. -/
def openProvider (t : SessionType) (made : Bool) (s : ProviderService κ) :
    ProviderService κ × List Event :=
  if t = .unknown ∨ t.queueMade = .constructor ∧ made = false then (s, [.returned false])
  else
    ({ s with
        providers := s.providers.put s.opened (.create t s.rings.length)
        opened := s.opened + 1
        rings := ringsAfter t .constructor s.rings }, [.opened s.opened])

/-- What provider `i` has done with itself and with the session. -/
def setProvider (i : ℕ) (x : ProviderObject κ) (session : BluetoothAudioSession κ)
    (s : ProviderService κ) : ProviderService κ :=
  { s with providers := s.providers.put i x
           sessions := Function.update s.sessions x.sessionType session }

/-- The provider at work. -/
def attach (x : ProviderObject κ) (s : ProviderService κ) : Provider κ :=
  x.attach s.dead (s.sessions x.sessionType)

/-- `startSession` of the derived classes. -/
def startSession (checks : Provider.PayloadChecks κ) (i : ℕ) (x : ProviderObject κ)
    (hostIf : Option ℕ) (audioConfig : AudioConfiguration κ) (latencyModes : List LatencyMode)
    (made mapped : Bool) (s : ProviderService κ) : ProviderService κ × List Event :=
  if Provider.accepts checks x.sessionType audioConfig = false ∨
      x.sessionType.queueMade = .startSession ∧ made = false then (s, [.returned false])
  else
    let x := x.withQueue s.rings.length
    let p := ((s.attach x).startSession (Provider.accepts checks x.sessionType) hostIf audioConfig
      latencyModes x.dataMq mapped).1
    ({ s.setProvider i (x.update p) p.session with
        rings := ringsAfter x.sessionType .startSession s.rings }, [.returned hostIf.isSome])

/-- `setLowLatencyModeAllowed`. -/
def setLowLatencyModeAllowed (i : ℕ) (x : ProviderObject κ) (allowed : Bool) (s : ProviderService κ) :
    ProviderService κ × List Event :=
  if x.stackIface.isNone then (s, [.returned false])
  else
    (s.setProvider i x ((s.sessions x.sessionType).reportLowLatencyModeAllowedChanged allowed).1,
      [.returned true])

/-- The death of a host: the driver takes out its registrations, and `binderDiedCallbackAidl` will run for
each of them. -/
def binderDied (host : ℕ) (s : ProviderService κ) : ProviderService κ :=
  { s with
    providers := s.providers.map fun e => (e.1, e.2.withoutLinks host)
    dead := host :: s.dead
    obituaries := s.obituaries ++ s.providers.flatMap fun e =>
      (e.2.links.filter fun l => l.binder == host).map fun _ => e.2.sessionType }

/-- One step. -/
def step (checks : Provider.PayloadChecks κ) (s : ProviderService κ) :
    Act κ → Option (ProviderService κ × List Event)
  | .openProvider t made => some (s.openProvider t made)
  | .startSession i hostIf audioConfig latencyModes made mapped =>
    (s.providers.find i).map fun x =>
      s.startSession checks i x hostIf audioConfig latencyModes made mapped
  | .endSession i =>
    (s.providers.find i).map fun x =>
      (s.setProvider i (x.update (s.attach x).endSession) (s.attach x).endSession.session,
        [.returned true])
  | .updateAudioConfiguration i audioConfig =>
    (s.providers.find i).map fun x =>
      let r := (s.attach x).updateAudioConfiguration audioConfig
      (s.setProvider i (x.update r.2) r.2.session, [.returned r.1])
  | .setLowLatencyModeAllowed i allowed =>
    (s.providers.find i).map fun x => s.setLowLatencyModeAllowed i x allowed
  | .release i =>
    -- the registrations go with the death recipient; the session is not told
    (s.providers.find i).map fun _ => ({ s with providers := s.providers.drop i }, [])
  | .binderDied host => if host ∈ s.dead then none else some (s.binderDied host, [])
  | .deliver n =>
    s.obituaries[n]?.map fun t =>
      ({ s with sessions := Function.update s.sessions t (s.sessions t).onSessionEnded.1
                obituaries := s.obituaries.eraseIdx n }, [.told t])
  | .observe t c =>
    some ({ s with sessions := Function.update s.sessions t ((s.sessions t).call c.1).1 }, [])

/-- **The service**, with the checks of the derived classes. -/
def lts (checks : Provider.PayloadChecks κ) : Lts (ProviderService κ) (Act κ) Event where
  init := create
  step := step checks

end ProviderService

/-! ### A start that is accepted -/

theorem SessionType.isSoftware_eq (t : SessionType) : t.isSoftware = decide (t.queueMade ≠ .never) := by
  cases t <;> rfl

theorem needsNoDataMq_or_isSoftware {t : SessionType} (h : t ≠ .unknown) :
    BluetoothAudioSession.needsNoDataMq t = true ∨ t.isSoftware = true := by
  cases t <;> first | exact absurd rfl h | exact .inl rfl | exact .inr rfl

/-- The session that a start leaves behind: one that cannot map its queue keeps its port, and loses the
queue and the configuration that it had. -/
def BluetoothAudioSession.startedBy (host : ℕ) (audioConfig : AudioConfiguration κ)
    (latencyModes : List LatencyMode) (dataMq : Option DataMQ) (mapped : Bool)
    (session : BluetoothAudioSession κ) : BluetoothAudioSession κ :=
  if session.sessionType.isSoftware && !mapped then { session with audioConfig := none, dataMq := none }
  else
    { session with audioConfig := some audioConfig, stackIface := some host, latencyModes := latencyModes
                   dataMq := if session.sessionType.isSoftware then dataMq else none }

section

variable {session : BluetoothAudioSession κ} {cfg : AudioConfiguration κ} {mqDesc : Option DataMQ}

theorem BluetoothAudioSession.onSessionStarted_of_ok (host : ℕ) (modes : List LatencyMode)
    (htag : acceptsTag session.sessionType cfg.tag = true) (hd : descOk mqDesc = true) :
    (session.onSessionStarted (some host) mqDesc cfg modes).1 =
      { session with audioConfig := some cfg, dataMq := mqDesc, stackIface := some host
                     latencyModes := modes } := by
  have hs := onSessionStarted_cases session mqDesc cfg modes (some host)
  generalize session.onSessionStarted (some host) mqDesc cfg modes = r at hs
  obtain ⟨session', ns⟩ := r
  cases hs with
  | badConfig _ hbad => rw [htag] at hbad; cases hbad
  | badMq _ _ hbad => rw [hd] at hbad; cases hbad
  | ok => rfl

theorem BluetoothAudioSession.onSessionStarted_of_not_ok (host : ℕ) (modes : List LatencyMode)
    (htag : acceptsTag session.sessionType cfg.tag = true) (hd : descOk mqDesc = false) :
    (session.onSessionStarted (some host) mqDesc cfg modes).1 =
      { session with audioConfig := none, dataMq := none } := by
  have hs := onSessionStarted_cases session mqDesc cfg modes (some host)
  generalize session.onSessionStarted (some host) mqDesc cfg modes = r at hs
  obtain ⟨session', ns⟩ := r
  cases hs with
  | badConfig _ hbad => rw [htag] at hbad; cases hbad
  | badMq => rfl
  | ok _ _ hbad => rw [hd] at hbad; cases hbad

end

namespace Provider

/-- A provider that has started its session. -/
structure Took (host : ℕ) (audioConfig : AudioConfiguration κ) (latencyModes : List LatencyMode)
    (dataMq : Option DataMQ) (mapped : Bool) (p p' : Provider κ) : Prop where
  session : p'.session = p.session.startedBy host audioConfig latencyModes dataMq mapped
  stackIface : p'.stackIface = some host
  audioConfig : p'.audioConfig = some audioConfig
  links : p'.links =
    if host ∈ p.dead then p.links else p.links ++ [⟨host, .context (p.contexts + 1)⟩]

/-- **A start that is accepted takes**, if a class that makes a queue has a valid one. -/
theorem startSession_took {checks : PayloadChecks κ} {t : SessionType} {p : Provider κ} {host : ℕ}
    {cfg : AudioConfiguration κ} {modes : List LatencyMode} {dataMq : Option DataMQ}
    {mapped : Bool} (ht : p.session.sessionType = t) (ha : accepts checks t cfg = true)
    (hq : t.isSoftware = true → ∃ q, dataMq = some q ∧ q.isValid = true) :
    Took host cfg modes dataMq mapped p
      (p.startSession (accepts checks t) (some host) cfg modes dataMq mapped).1 := by
  have htag : BluetoothAudioSession.acceptsTag p.session.sessionType cfg.tag = true := by
    rw [ht]
    exact acceptsTag_of_accepts ha
  have hready : ∀ q : Provider κ, q.session = p.session → q.stackIface = some host →
      q.audioConfig = some cfg → q.latencyModes = modes →
      (q.onSessionReady dataMq mapped).session = p.session.startedBy host cfg modes dataMq mapped ∧
        (q.onSessionReady dataMq mapped).stackIface = some host ∧
        (q.onSessionReady dataMq mapped).audioConfig = some cfg ∧
        (q.onSessionReady dataMq mapped).links = q.links := by
    intro q hs hi hc hm
    unfold Provider.onSessionReady
    rw [hc, hs, hi, hm]
    dsimp only
    cases hsoft : p.session.sessionType.isSoftware with
    | true =>
      obtain ⟨⟨ring, valid⟩, rfl, rfl⟩ := hq (ht ▸ hsoft)
      have hany : (some (DataMQ.mk ring true)).any (·.isValid) = true := rfl
      rw [if_pos rfl, if_pos hany, BluetoothAudioSession.startedBy, hsoft]
      cases mapped with
      | true => exact ⟨BluetoothAudioSession.onSessionStarted_of_ok host modes htag rfl, rfl, rfl, rfl⟩
      | false => exact ⟨BluetoothAudioSession.onSessionStarted_of_not_ok host modes htag rfl, rfl, rfl, rfl⟩
    | false =>
      rw [if_neg (by simp), BluetoothAudioSession.onSessionStarted_of_ok host modes htag rfl]
      refine ⟨?_, rfl, rfl, rfl⟩
      rw [BluetoothAudioSession.startedBy, hsoft]
      rfl
  unfold startSession
  rw [ha]
  dsimp only [Bool.not_true]
  rw [if_neg (by simp)]
  unfold Provider.linkToDeath
  dsimp only
  split_ifs with hdead
  · obtain ⟨h1, h2, h3, h4⟩ := hready { p with latencyModes := modes, audioConfig := some cfg
                                               stackIface := some host, contexts := p.contexts + 1 }
      rfl rfl rfl rfl
    refine ⟨h1, h2, h3, ?_⟩
    rw [if_pos hdead]
    exact h4
  · obtain ⟨h1, h2, h3, h4⟩ := hready { p with latencyModes := modes, audioConfig := some cfg
                                               stackIface := some host, contexts := p.contexts + 1
                                               links := p.links ++ [⟨host, .context (p.contexts + 1)⟩] }
      rfl rfl rfl rfl
    refine ⟨h1, h2, h3, ?_⟩
    rw [if_neg hdead]
    exact h4

end Provider

/-! ### What holds of a provider and of a session -/

/-- A provider is of a type that has providers, its queue was made by a provider of its type, and the kind
of its copy of the configuration is one of its type. -/
structure ProviderInv (rings : List SessionType) (x : ProviderObject κ) : Prop where
  known : x.sessionType ≠ .unknown
  queue : ∀ q, x.dataMq = some q → q.isValid = true ∧ rings[q.ring]? = some x.sessionType
  constructed : x.sessionType.queueMade = .constructor → x.dataMq.isSome = true
  copy : ∀ cfg, x.audioConfig = some cfg →
    BluetoothAudioSession.acceptsTag x.sessionType cfg.tag = true

/-- The configuration of a session has been checked for its type; it is ready if it has a port, or, for a
type that needs a queue, a configuration; and its queue was made by a provider of its type. -/
structure SessionInv (checks : Provider.PayloadChecks κ) (rings : List SessionType) (t : SessionType)
    (session : BluetoothAudioSession κ) : Prop where
  sessionType : session.sessionType = t
  checked : ∀ cfg, session.audioConfig = some cfg → Provider.accepts checks t cfg = true
  port : t.isSoftware = false → session.stackIface.isSome = true → session.isSessionReady = true
  config : t.isSoftware = true → session.audioConfig.isSome = true → session.isSessionReady = true
  queue : ∀ q, session.dataMq = some q → rings[q.ring]? = some t

theorem getElem?_of_prefix {α : Type} {l l' : List α} {n : ℕ} {a : α} (hl : l <+: l') (h : l[n]? = some a) :
    l'[n]? = some a := by
  obtain ⟨tail, rfl⟩ := hl
  obtain ⟨hn, -⟩ := List.getElem?_eq_some_iff.1 h
  rw [List.getElem?_append_left hn, h]

section

variable {checks : Provider.PayloadChecks κ} {rings rings' : List SessionType} {t : SessionType}
  {x : ProviderObject κ} {session : BluetoothAudioSession κ}

theorem ProviderInv.mono (h : ProviderInv rings x) (hr : rings <+: rings') : ProviderInv rings' x :=
  ⟨h.known, fun q hq => ⟨(h.queue q hq).1, getElem?_of_prefix hr (h.queue q hq).2⟩, h.constructed, h.copy⟩

theorem SessionInv.mono (h : SessionInv checks rings t session) (hr : rings <+: rings') :
    SessionInv checks rings' t session :=
  ⟨h.sessionType, h.checked, h.port, h.config, fun q hq => getElem?_of_prefix hr (h.queue q hq)⟩

theorem providerInv_create (ht : t ≠ .unknown) :
    ProviderInv (ProviderService.ringsAfter t .constructor rings)
      (.create t rings.length : ProviderObject κ) := by
  refine ⟨ht, fun q hq => ?_, fun hc => ?_, fun _ hc => by cases hc⟩
  · dsimp only [ProviderObject.create] at hq ⊢
    unfold ProviderService.ringsAfter
    split_ifs at hq ⊢
    obtain rfl := Option.some.inj hq
    exact ⟨rfl, List.getElem?_concat_length⟩
  · dsimp only [ProviderObject.create] at hc ⊢
    rw [if_pos hc]
    rfl

theorem ProviderInv.withQueue (h : ProviderInv rings x) :
    ProviderInv (ProviderService.ringsAfter x.sessionType .startSession rings)
        (x.withQueue rings.length) ∧
      (x.sessionType.isSoftware = true →
        ∃ q, (x.withQueue rings.length).dataMq = some q ∧ q.isValid = true) := by
  unfold ProviderObject.withQueue ProviderService.ringsAfter
  rw [SessionType.isSoftware_eq]
  cases hm : x.sessionType.queueMade with
  | never => exact ⟨h, fun hs => by simp at hs⟩
  | constructor =>
    refine ⟨h, fun _ => ?_⟩
    obtain ⟨q, hq⟩ := Option.isSome_iff_exists.1 (h.constructed hm)
    exact ⟨q, hq, (h.queue q hq).1⟩
  | startSession =>
    refine ⟨⟨h.known, fun q hq => ?_, fun _ => rfl, h.copy⟩, fun _ => ⟨_, rfl, rfl⟩⟩
    obtain rfl := Option.some.inj hq
    exact ⟨rfl, List.getElem?_concat_length⟩

@[simp] theorem ProviderObject.sessionType_withQueue (n : ℕ) :
    (x.withQueue n).sessionType = x.sessionType := by
  unfold ProviderObject.withQueue
  split <;> rfl

/-! ### The steps of a session -/

theorem sessionInv_create (ht : BluetoothAudioSession.create (κ := κ) t = session) :
    SessionInv checks rings t session := by
  subst ht
  exact ⟨rfl, fun _ h => (by cases h), fun _ h => (by cases h), fun _ h => (by cases h),
    fun _ h => (by cases h)⟩

theorem SessionInv.onSessionEnded (h : SessionInv checks rings t session) :
    SessionInv checks rings t session.onSessionEnded.1 := by
  rw [BluetoothAudioSession.onSessionEnded_eq]
  exact ⟨h.sessionType, fun _ h => (by cases h), fun _ h => (by cases h), fun _ h => (by cases h),
    fun _ h => (by cases h)⟩

/-- A session that is started is ready, or has lost its configuration and its queue. -/
theorem SessionInv.startedBy {host : ℕ} {cfg : AudioConfiguration κ} {modes : List LatencyMode}
    {dataMq : Option DataMQ} {mapped : Bool} (h : SessionInv checks rings t session) (ht : t ≠ .unknown)
    (ha : Provider.accepts checks t cfg = true)
    (hq : t.isSoftware = true → ∃ q, dataMq = some q ∧ q.isValid = true)
    (hr : ∀ q, dataMq = some q → rings[q.ring]? = some t) :
    SessionInv checks rings t (session.startedBy host cfg modes dataMq mapped) := by
  obtain rfl := h.sessionType
  unfold BluetoothAudioSession.startedBy
  by_cases hlost : (session.sessionType.isSoftware && !mapped) = true
  · rw [if_pos hlost]
    have hsoft := (Bool.and_eq_true_iff.1 hlost).1
    exact ⟨rfl, fun _ hc => (by cases hc), fun hn => (by rw [hsoft] at hn; cases hn),
      fun _ hc => (by cases hc), fun _ hc => (by cases hc)⟩
  · rw [if_neg hlost]
    have hready : BluetoothAudioSession.isSessionReady { session with
        audioConfig := some cfg, stackIface := some host, latencyModes := modes
        dataMq := if session.sessionType.isSoftware then dataMq else none } = true := by
      simp only [BluetoothAudioSession.isSessionReady, Option.isSome_some, Bool.true_and,
        Bool.and_true]
      rcases needsNoDataMq_or_isSoftware ht with hn | hs
      · rw [hn, Bool.true_or]
      · obtain ⟨q, rfl, hvalid⟩ := hq hs
        rw [hs, if_pos rfl, Option.any_some, hvalid, Bool.or_true]
    refine ⟨rfl, fun cfg' hc => ?_, fun _ _ => hready, fun _ _ => hready, fun q hq' => ?_⟩
    · obtain rfl := Option.some.inj hc
      exact ha
    · dsimp only at hq'
      split_ifs at hq'
      exact hr q hq'

/-- An update of a configuration keeps the kind, which is all that is checked of the configurations that
the session takes over. -/
theorem SessionInv.reportAudioConfigChanged (h : SessionInv checks rings t session)
    (cfg : AudioConfiguration κ) :
    SessionInv checks rings t (session.reportAudioConfigChanged cfg).1 := by
  unfold BluetoothAudioSession.reportAudioConfigChanged
  split_ifs with hu ht
  · exact h
  · exact h
  · have hun : t.isOffloadLeAudioUnicast = true := by
      rw [← h.sessionType]
      simpa using hu
    refine ⟨h.sessionType, fun cfg' hc => ?_, fun hn hp => ?_, fun hs => ?_, h.queue⟩
    · obtain rfl := Option.some.inj hc
      obtain ⟨tag, value⟩ := cfg
      obtain rfl : tag = .leAudioConfig := not_not.1 ht
      cases t <;> first | rfl | cases hun
    · have hready := h.port hn hp
      simp only [BluetoothAudioSession.isSessionReady, Bool.and_eq_true] at hready ⊢
      exact ⟨hready.1, rfl⟩
    · exfalso
      revert hs hun
      cases t <;> decide

theorem SessionInv.reportLowLatencyModeAllowedChanged (h : SessionInv checks rings t session)
    (allowed : Bool) :
    SessionInv checks rings t (session.reportLowLatencyModeAllowedChanged allowed).1 := by
  by_cases hs : session.sessionType = .a2dpHardwareOffloadEncoding
  · rw [report_of_eq hs]
    exact ⟨h.sessionType, h.checked, h.port, h.config, h.queue⟩
  · rw [report_of_ne hs]
    exact h

/-- The ports that come and go do not change what the stack has set. -/
theorem SessionInv.observe (h : SessionInv checks rings t session)
    (c : { c : BluetoothAudioSession.Call κ // c.ofStack = false }) :
    SessionInv checks rings t (session.call c.1).1 := by
  obtain ⟨c, hc⟩ := c
  cases c with
  | onSessionStarted | onSessionEnded | reportAudioConfigChanged => cases hc
  | registerStatusCback | unregisterStatusCback => exact ⟨h.sessionType, h.checked, h.port, h.config, h.queue⟩

end

namespace ProviderService

/-! ### The invariant of the service -/

/-- The providers have numbers of their own, and each provider and each session is as it should be. -/
structure ServiceInv (checks : Provider.PayloadChecks κ) (s : ProviderService κ) : Prop where
  nodup : (s.providers.map Prod.fst).Nodup
  fresh : ∀ {i x}, s.providers.find i = some x → i < s.opened
  providers : ∀ {i x}, s.providers.find i = some x → ProviderInv s.rings x
  sessions : ∀ t, SessionInv checks s.rings t (s.sessions t)

section

variable {checks : Provider.PayloadChecks κ} {s s' : ProviderService κ} {i : ℕ} {x x' : ProviderObject κ}
  {session : BluetoothAudioSession κ} {rings : List SessionType} {os : List Event} {a : Act κ}

theorem ServiceInv.setSession (h : ServiceInv checks s) {t : SessionType}
    (hs : SessionInv checks s.rings t session) (t' : SessionType) :
    SessionInv checks s.rings t' (Function.update s.sessions t session t') := by
  by_cases ht : t' = t
  · subst ht
    rwa [Function.update_self]
  · rw [Function.update_of_ne ht]
    exact h.sessions t'

theorem ServiceInv.setProvider (h : ServiceInv checks s) (hf : s.providers.find i = some x)
    (hr : s.rings <+: rings) (hx : ProviderInv rings x')
    (hs : SessionInv checks rings x'.sessionType session) :
    ServiceInv checks { s.setProvider i x' session with rings := rings } := by
  refine ⟨Threads.nodup_put h.nodup, fun {j y} hj => ?_, fun {j y} hj => ?_, fun t => ?_⟩
  · change (s.providers.put i x').find j = some y at hj
    rw [Threads.find_put] at hj
    split_ifs at hj with he
    · rw [he]
      exact h.fresh hf
    · exact h.fresh hj
  · change (s.providers.put i x').find j = some y at hj
    rw [Threads.find_put] at hj
    split_ifs at hj with he
    · obtain rfl := Option.some.inj hj
      exact hx
    · exact (h.providers hj).mono hr
  · change SessionInv checks rings t (Function.update s.sessions x'.sessionType session t)
    by_cases ht : t = x'.sessionType
    · subst ht
      rwa [Function.update_self]
    · rw [Function.update_of_ne ht]
      exact (h.sessions t).mono hr

theorem ringsAfter_prefix (t : SessionType) (m : QueueMade) (rings : List SessionType) :
    rings <+: ringsAfter t m rings := by
  unfold ringsAfter
  split_ifs
  · exact List.prefix_append _ _
  · exact List.prefix_rfl

theorem ServiceInv.openProvider (h : ServiceInv checks s) (t : SessionType) (made : Bool) :
    ServiceInv checks (s.openProvider t made).1 := by
  unfold ProviderService.openProvider
  by_cases hc : t = .unknown ∨ t.queueMade = .constructor ∧ made = false
  · rw [if_pos hc]
    exact h
  · rw [if_neg hc]
    have hr := ringsAfter_prefix t .constructor s.rings
    refine ⟨Threads.nodup_put h.nodup, fun {j y} hj => ?_, fun {j y} hj => ?_,
      fun t => (h.sessions t).mono hr⟩
    · dsimp only at hj ⊢
      rw [Threads.find_put] at hj
      split_ifs at hj with he
      · omega
      · have := h.fresh hj
        omega
    · dsimp only at hj ⊢
      rw [Threads.find_put] at hj
      split_ifs at hj with he
      · obtain rfl := Option.some.inj hj
        exact providerInv_create fun ht => hc (.inl ht)
      · exact (h.providers hj).mono hr

/-- What a start leaves behind: it is refused, or it makes a queue and is refused for want of a host, or
the session is started. -/
theorem startSession_cases (h : ServiceInv checks s) (hf : s.providers.find i = some x)
    (hostIf : Option ℕ) (cfg : AudioConfiguration κ) (modes : List LatencyMode) (made mapped : Bool) :
    s.startSession checks i x hostIf cfg modes made mapped = (s, [.returned false]) ∨
      Provider.accepts checks x.sessionType cfg = true ∧ ∃ y p,
        y = x.withQueue s.rings.length ∧
        s.startSession checks i x hostIf cfg modes made mapped =
          ({ s.setProvider i (y.update p) p.session with
              rings := ringsAfter x.sessionType .startSession s.rings }, [.returned hostIf.isSome]) ∧
        (hostIf = none ∧ p = s.attach y ∨
          ∃ host, hostIf = some host ∧ Provider.Took host cfg modes y.dataMq mapped (s.attach y) p) := by
  unfold ProviderService.startSession
  split_ifs with hc
  · exact .inl rfl
  · obtain ⟨ha, -⟩ := not_or.1 hc
    have ha : Provider.accepts checks x.sessionType cfg = true := by simpa using ha
    obtain ⟨-, hq⟩ := (h.providers hf).withQueue
    refine .inr ⟨ha, x.withQueue s.rings.length,
      ((s.attach (x.withQueue s.rings.length)).startSession
        (Provider.accepts checks (x.withQueue s.rings.length).sessionType) hostIf cfg modes
        (x.withQueue s.rings.length).dataMq mapped).1, rfl, ?_, ?_⟩
    · dsimp only
      rw [ProviderObject.sessionType_withQueue]
    · cases hostIf with
      | none =>
        refine .inl ⟨rfl, ?_⟩
        unfold Provider.startSession
        rw [ProviderObject.sessionType_withQueue, ha]
        rfl
      | some host =>
        refine .inr ⟨host, rfl, ?_⟩
        rw [ProviderObject.sessionType_withQueue]
        refine Provider.startSession_took ?_ ha hq
        dsimp only [attach, ProviderObject.attach]
        rw [ProviderObject.sessionType_withQueue]
        exact (h.sessions x.sessionType).sessionType

theorem ServiceInv.startSession (h : ServiceInv checks s) (hf : s.providers.find i = some x)
    (hostIf : Option ℕ) (cfg : AudioConfiguration κ) (modes : List LatencyMode) (made mapped : Bool) :
    ServiceInv checks (s.startSession checks i x hostIf cfg modes made mapped).1 := by
  rcases startSession_cases h hf hostIf cfg modes made mapped with he | ⟨ha, y, p, rfl, he, hp⟩
  · rw [he]
    exact h
  · rw [he]
    obtain ⟨hy, hq⟩ := (h.providers hf).withQueue
    have hr := ringsAfter_prefix x.sessionType .startSession s.rings
    have ht : (x.withQueue s.rings.length).sessionType = x.sessionType :=
      ProviderObject.sessionType_withQueue _
    have hsession := (h.sessions x.sessionType).mono hr
    rcases hp with ⟨-, rfl⟩ | ⟨host, -, htook⟩
    · refine h.setProvider hf hr ⟨hy.known, hy.queue, hy.constructed, hy.copy⟩ ?_
      dsimp only [ProviderObject.update, attach, ProviderObject.attach]
      rwa [ht]
    · refine h.setProvider hf hr ⟨hy.known, hy.queue, hy.constructed, fun cfg' hc => ?_⟩ ?_
      · dsimp only [ProviderObject.update] at hc ⊢
        rw [htook.audioConfig] at hc
        obtain rfl := Option.some.inj hc
        rw [ht]
        exact Provider.acceptsTag_of_accepts ha
      · rw [htook.session]
        dsimp only [ProviderObject.update, attach, ProviderObject.attach]
        rw [ht]
        exact hsession.startedBy (h.providers hf).known ha hq fun q hq' => ht ▸ (hy.queue q hq').2

theorem ServiceInv.endSession (h : ServiceInv checks s) (hf : s.providers.find i = some x) :
    ServiceInv checks
      (s.setProvider i (x.update (s.attach x).endSession) (s.attach x).endSession.session) := by
  have hx := h.providers hf
  refine h.setProvider hf List.prefix_rfl ⟨hx.known, hx.queue, hx.constructed, fun _ hc => ?_⟩ ?_
  · cases hc
  · have hs := h.sessions x.sessionType
    dsimp only [ProviderObject.update, Provider.endSession, attach, ProviderObject.attach]
    cases x.stackIface with
    | none => exact hs
    | some host => exact hs.onSessionEnded

theorem ServiceInv.updateAudioConfiguration (h : ServiceInv checks s)
    (hf : s.providers.find i = some x) (cfg : AudioConfiguration κ) :
    ServiceInv checks (s.setProvider i (x.update ((s.attach x).updateAudioConfiguration cfg).2)
      ((s.attach x).updateAudioConfiguration cfg).2.session) := by
  have hx := h.providers hf
  cases hu : (s.attach x).updateAudioConfiguration cfg with
  | mk ok p =>
    dsimp only
    cases ok with
    | false =>
      have hp : p = s.attach x := by
        unfold Provider.updateAudioConfiguration at hu
        split at hu
        · split_ifs at hu
          · exact (congrArg Prod.snd hu).symm
          · cases hu
        · exact (congrArg Prod.snd hu).symm
      subst hp
      exact h.setProvider hf List.prefix_rfl ⟨hx.known, hx.queue, hx.constructed, hx.copy⟩
        (h.sessions x.sessionType)
    | true =>
      obtain ⟨old, hold, ht, rfl⟩ := Provider.updateAudioConfiguration_ok hu
      refine h.setProvider hf List.prefix_rfl ⟨hx.known, hx.queue, hx.constructed, fun cfg' hc => ?_⟩
        ((h.sessions x.sessionType).reportAudioConfigChanged cfg)
      obtain rfl := Option.some.inj hc
      rw [ht]
      exact hx.copy old hold

theorem ServiceInv.binderDied (h : ServiceInv checks s) (host : ℕ) :
    ServiceInv checks (s.binderDied host) := by
  have hfind : ∀ {j y}, (s.binderDied host).providers.find j = some y →
      ∃ z, s.providers.find j = some z ∧ z.withoutLinks host = y := by
    intro j y hj
    dsimp only [ProviderService.binderDied] at hj
    rw [Threads.find_map (f := ProviderObject.withoutLinks host)] at hj
    exact Option.map_eq_some_iff.1 hj
  refine ⟨?_, fun hj => ?_, fun hj => ?_, h.sessions⟩
  · dsimp only [ProviderService.binderDied]
    rw [List.map_map]
    exact h.nodup
  · obtain ⟨z, hz, -⟩ := hfind hj
    exact h.fresh hz
  · obtain ⟨z, hz, rfl⟩ := hfind hj
    have hx := h.providers hz
    exact ⟨hx.known, hx.queue, hx.constructed, hx.copy⟩

theorem serviceInv_step (h : ServiceInv checks s) (hs : s.step checks a = some (s', os)) :
    ServiceInv checks s' := by
  cases a with
  | openProvider t made =>
    obtain rfl := congrArg Prod.fst (Option.some.inj hs)
    exact h.openProvider t made
  | startSession i hostIf cfg modes made mapped =>
    obtain ⟨x, hf, he⟩ := Option.map_eq_some_iff.1 hs
    obtain rfl := congrArg Prod.fst he
    exact h.startSession hf hostIf cfg modes made mapped
  | endSession i =>
    obtain ⟨x, hf, he⟩ := Option.map_eq_some_iff.1 hs
    obtain rfl := congrArg Prod.fst he
    exact h.endSession hf
  | updateAudioConfiguration i cfg =>
    obtain ⟨x, hf, he⟩ := Option.map_eq_some_iff.1 hs
    obtain rfl := congrArg Prod.fst he
    exact h.updateAudioConfiguration hf cfg
  | setLowLatencyModeAllowed i allowed =>
    obtain ⟨x, hf, he⟩ := Option.map_eq_some_iff.1 hs
    obtain rfl := congrArg Prod.fst he
    unfold setLowLatencyModeAllowed
    split_ifs
    · exact h
    · exact h.setProvider hf List.prefix_rfl (h.providers hf)
        ((h.sessions _).reportLowLatencyModeAllowedChanged allowed)
  | release i =>
    obtain ⟨x, hf, he⟩ := Option.map_eq_some_iff.1 hs
    obtain rfl := congrArg Prod.fst he
    have hdrop : ∀ {j y}, (s.providers.drop i).find j = some y → s.providers.find j = some y := by
      intro j y hj
      rw [Threads.find_drop h.nodup] at hj
      split_ifs at hj
      exact hj
    exact ⟨Threads.nodup_drop h.nodup, fun hj => h.fresh (hdrop hj), fun hj => h.providers (hdrop hj),
      h.sessions⟩
  | binderDied host =>
    simp only [step] at hs
    split_ifs at hs
    obtain rfl := congrArg Prod.fst (Option.some.inj hs)
    exact h.binderDied host
  | deliver n =>
    obtain ⟨t, -, he⟩ := Option.map_eq_some_iff.1 hs
    obtain rfl := congrArg Prod.fst he
    exact ⟨h.nodup, h.fresh, h.providers, h.setSession (h.sessions t).onSessionEnded⟩
  | observe t c =>
    obtain rfl := congrArg Prod.fst (Option.some.inj hs)
    exact ⟨h.nodup, h.fresh, h.providers, h.setSession ((h.sessions t).observe c)⟩

theorem serviceInv_run {C : ProviderService κ → Act κ → Prop} {tr : List Event}
    (h : (lts checks).Run C tr s) : ServiceInv checks s := by
  refine h.inv_state (I := fun s => ServiceInv checks s) ?_ fun hi _ hs => serviceInv_step hi hs
  exact ⟨List.nodup_nil, fun hj => (by cases hj), fun hj => (by cases hj), fun t => sessionInv_create rfl⟩

end

end ProviderService

/-- **What the sessions hold has been checked**, in every order in which any number of providers of all
types open, start, update, end and lose their sessions: the configuration of a session is one that the
class of its type accepts; an offload session is ready exactly when it has a port, and a software session
exactly when it has a configuration, since a start that finds the queue unmappable takes the configuration
from it and leaves it the port; and no two sessions share a data queue. -/
theorem sessions_checked {checks : Provider.PayloadChecks κ} {s : ProviderService κ}
    {tr : List ProviderService.Event} (h : (ProviderService.lts checks).Reach tr s) (t : SessionType) :
    (∀ cfg, (s.sessions t).audioConfig = some cfg → Provider.accepts checks t cfg = true) ∧
      (t.isSoftware = false →
        ((s.sessions t).isSessionReady = true ↔ (s.sessions t).stackIface.isSome = true)) ∧
      (t.isSoftware = true →
        ((s.sessions t).isSessionReady = true ↔ (s.sessions t).audioConfig.isSome = true)) ∧
      ∀ t' q q', (s.sessions t).dataMq = some q → (s.sessions t').dataMq = some q' → q.ring = q'.ring →
        t = t' := by
  have hi := ProviderService.serviceInv_run h
  refine ⟨(hi.sessions t).checked, fun hn => ⟨fun hr => ?_, (hi.sessions t).port hn⟩,
    fun hs => ⟨fun hr => ?_, (hi.sessions t).config hs⟩, fun t' q q' hq hq' he => ?_⟩
  · simp only [BluetoothAudioSession.isSessionReady, Bool.and_eq_true] at hr
    exact hr.1.1
  · simp only [BluetoothAudioSession.isSessionReady, Bool.and_eq_true] at hr
    exact hr.2
  · have h1 := (hi.sessions t).queue q hq
    rw [he, (hi.sessions t').queue q' hq'] at h1
    exact (Option.some.inj h1).symm

/-- Providers of three software types, which start their sessions; two of them do so again, and the queue
of the second one cannot be mapped then. -/
def startBoth : List (ProviderService.Act Numbered) :=
  [.openProvider .a2dpSoftwareEncoding true, .openProvider .leAudioSoftwareEncoding true,
    .openProvider .hearingAidSoftwareEncoding true,
    .startSession 1 (some 1) ⟨.pcmConfig, (16000 : ℕ)⟩ [] true true,
    .startSession 0 (some 1) ⟨.pcmConfig, (44100 : ℕ)⟩ [] true true,
    .startSession 2 (some 1) ⟨.pcmConfig, (16000 : ℕ)⟩ [] true true,
    .startSession 1 (some 2) ⟨.pcmConfig, (32000 : ℕ)⟩ [] true true,
    .startSession 2 (some 2) ⟨.pcmConfig, (16000 : ℕ)⟩ [] true false]

theorem sessions_checked_startBoth : ∃ tr, ∃ s : ProviderService Numbered,
    (ProviderService.lts anyPayload).Reach tr s ∧
      (s.sessions .a2dpSoftwareEncoding).dataMq = some ⟨0, true⟩ ∧
      (s.sessions .leAudioSoftwareEncoding).isSessionReady = true ∧
      (∀ q, (s.sessions .leAudioSoftwareEncoding).dataMq = some q → q.ring ≠ 0) ∧
      (s.sessions .hearingAidSoftwareEncoding).stackIface = some 1 ∧
      ¬(s.sessions .hearingAidSoftwareEncoding).isSessionReady = true := by
  obtain ⟨tr, s, h, hq, hconfig, hport, hlost⟩ := Lts.exists_run (M := ProviderService.lts anyPayload)
    (C := fun _ _ => True) (P := fun _ s =>
      (s.sessions .a2dpSoftwareEncoding).dataMq = some ⟨0, true⟩ ∧
        (s.sessions .leAudioSoftwareEncoding).audioConfig.isSome = true ∧
        (s.sessions .hearingAidSoftwareEncoding).stackIface = some 1 ∧
        (s.sessions .hearingAidSoftwareEncoding).audioConfig.isSome = false) startBoth (by decide)
  refine ⟨tr, s, h, hq, ((sessions_checked h .leAudioSoftwareEncoding).2.2.1 rfl).2 hconfig,
    fun q hq' he => ?_, hport, fun hr => ?_⟩
  · have := (sessions_checked h .leAudioSoftwareEncoding).2.2.2 _ _ _ hq' hq he
    cases this
  · have := ((sessions_checked h .hearingAidSoftwareEncoding).2.2.1 rfl).1 hr
    rw [hlost] at this
    cases this

end TrebleDoze.Bluetooth
