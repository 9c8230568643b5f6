import TrebleDoze.Bluetooth.Session
import TrebleDoze.Lib.Lts

/-!
# `BluetoothAudioProvider` and the death of its hosts

A provider opens the session of its type for a host port and registers for the death of the host's
binder; a death that is reported ends the session of that type.

* `LinkInv`, `linkInv_run`: a registration outlives the session it was made for, since no call takes
  it back;
* `session_ended_by_own_host`: in the runs in which no host dies that is still registered and is not
  the port of the session, no session is ended by the death of another host, and a death ends the
  session of another host exactly when the dead one was ever registered (`session_ended_by_old_host`).
-/

namespace TrebleDoze.Bluetooth

open TrebleDoze.Lib

variable {κ : Tag → Type}

/-- The cookie of a death registration: the heap context of one `startSession`, or the provider. -/
inductive Cookie where
  | context (n : ℕ)
  | provider
  deriving DecidableEq, Repr

/-- A registration for the death of a binder with the provider's recipient. -/
structure Link where
  binder : ℕ
  cookie : Cookie
  deriving DecidableEq, Repr

/-- A provider with the session of its type, and what the binder driver knows: the registrations, the
contexts handed out so far, and the hosts that have died. -/
structure Provider (κ : Tag → Type) where
  session : BluetoothAudioSession κ
  stackIface : Option ℕ
  audioConfig : Option (AudioConfiguration κ)
  latencyModes : List LatencyMode
  links : List Link
  contexts : ℕ
  dead : List ℕ

namespace Provider

/-- What a run of a provider shows. -/
inductive Event where
  /-- The host's binder was registered. -/
  | linked (host : ℕ)
  /-- The host died while the session had this port; `ended` tells whether `OnSessionEnded` was called
  for it. -/
  | died (host : ℕ) (active : Option ℕ) (ended : Bool)
  deriving DecidableEq, Repr

/-- A provider of the given session type. -/
def create (sessionType : SessionType) : Provider κ where
  session := .create sessionType
  stackIface := none
  audioConfig := none
  latencyModes := []
  links := []
  contexts := 0
  dead := []

/-! ### The binder driver -/

/-- `AIBinder_linkToDeath`; the binder of a dead host is refused. -/
def linkToDeath (host : ℕ) (cookie : Cookie) (p : Provider κ) : Provider κ × List Event :=
  if host ∈ p.dead then (p, []) else ({ p with links := p.links ++ [⟨host, cookie⟩] }, [.linked host])

/-- `AIBinder_unlinkToDeath`: a registration goes when its binder and its cookie are those given. -/
def unlinkToDeath (host : ℕ) (cookie : Cookie) (p : Provider κ) : Provider κ :=
  { p with links := p.links.filter fun l => !(l.binder == host && l.cookie == cookie) }

/-! ### The provider -/

/-- `onSessionReady` of the derived classes: the software ones pass on a descriptor of their data queue,
which the session maps anew if it can (`mapped`), and do nothing when they have no queue; the offload ones
have none. -/
def onSessionReady (dataMq : Option DataMQ) (mapped : Bool) (p : Provider κ) : Provider κ :=
  match p.audioConfig with
  | none => p
  | some audioConfig =>
    if p.session.sessionType.isSoftware then
      if dataMq.any (·.isValid) then
        let desc := dataMq.map fun mq => { mq with isValid := mapped }
        { p with session := (p.session.onSessionStarted p.stackIface desc audioConfig p.latencyModes).1 }
      else p
    else
      { p with session := (p.session.onSessionStarted p.stackIface none audioConfig p.latencyModes).1 }

/-- `startSession`: the checks of the derived class (`accepts`), then those of the base class. -/
def startSession (accepts : AudioConfiguration κ → Bool) (hostIf : Option ℕ)
    (audioConfig : AudioConfiguration κ) (latencyModes : List LatencyMode) (dataMq : Option DataMQ)
    (mapped : Bool) (p : Provider κ) : Provider κ × List Event :=
  if !accepts audioConfig then (p, [])
  else
    match hostIf with
    | none => (p, [])
    | some host =>
      let p := { p with latencyModes := latencyModes, audioConfig := some audioConfig
                        stackIface := some host, contexts := p.contexts + 1 }
      let (p, os) := p.linkToDeath host (.context p.contexts)
      (p.onSessionReady dataMq mapped, os)

/-- `endSession`: it unlinks with the provider as cookie. -/
def endSession (p : Provider κ) : Provider κ :=
  let p :=
    match p.stackIface with
    | none => p
    | some host => { p with session := p.session.onSessionEnded.1 }.unlinkToDeath host .provider
  { p with stackIface := none, audioConfig := none }

/-- The death of a host: `binderDiedCallbackAidl` runs for each of its registrations, and they go. -/
def binderDied (host : ℕ) (p : Provider κ) : Option (Provider κ × List Event) :=
  if host ∈ p.dead then none
  else
    let fired := p.links.filter fun l => l.binder == host
    some
      ({ p with session := fired.foldl (fun s _ => s.onSessionEnded.1) p.session
                links := p.links.filter fun l => !(l.binder == host)
                dead := host :: p.dead },
        [.died host p.session.stackIface !fired.isEmpty])

/-- What `HfpOffloadAudioProvider::startSession` accepts. -/
def hfpOffloadAccepts (audioConfig : AudioConfiguration κ) : Bool := audioConfig.tag == .hfpConfig

/-- What happens to a provider. -/
inductive Act (κ : Tag → Type) where
  | startSession (hostIf : Option ℕ) (audioConfig : AudioConfiguration κ)
      (latencyModes : List LatencyMode) (dataMq : Option DataMQ) (mapped : Bool)
  | endSession
  | binderDied (host : ℕ)

/-- **A provider of a derived class**, given by its session type and by what its `startSession`
accepts. -/
def lts (sessionType : SessionType) (accepts : AudioConfiguration κ → Bool) :
    Lts (Provider κ) (Act κ) Event where
  init := create sessionType
  step p
    | .startSession hostIf audioConfig latencyModes dataMq mapped =>
      some (p.startSession accepts hostIf audioConfig latencyModes dataMq mapped)
    | .endSession => some (p.endSession, [])
    | .binderDied host => p.binderDied host

/-! ### The registrations -/

/-- Each registration has a context of its own as cookie, and the hosts alive that were ever registered
still are. -/
structure LinkInv (tr : List Event) (p : Provider κ) : Prop where
  cookie : ∀ l ∈ p.links, l.cookie ≠ .provider
  linked : ∀ host ∉ p.dead, (∃ l ∈ p.links, l.binder = host) ↔ .linked host ∈ tr

section

variable {p p' : Provider κ} {tr os : List Event} {a : Act κ}

@[simp] theorem onSessionReady_links (dataMq : Option DataMQ) (mapped : Bool) :
    (p.onSessionReady dataMq mapped).links = p.links := by
  unfold onSessionReady
  split
  · rfl
  · split_ifs <;> rfl

@[simp] theorem onSessionReady_dead (dataMq : Option DataMQ) (mapped : Bool) :
    (p.onSessionReady dataMq mapped).dead = p.dead := by
  unfold onSessionReady
  split
  · rfl
  · split_ifs <;> rfl

theorem LinkInv.of_eq (h : LinkInv tr p) (hl : p'.links = p.links) (hd : p'.dead = p.dead) :
    LinkInv tr p' :=
  ⟨by rw [hl]; exact h.cookie, by rw [hl, hd]; exact h.linked⟩

theorem LinkInv.linkToDeath (h : LinkInv tr p) (host n : ℕ) :
    LinkInv (tr ++ (p.linkToDeath host (.context n)).2) (p.linkToDeath host (.context n)).1 := by
  unfold Provider.linkToDeath
  split_ifs with hd
  · simpa using h
  · refine ⟨fun l hl => ?_, fun k hk => ?_⟩
    · rcases List.mem_append.1 hl with hl | hl
      · exact h.cookie l hl
      · rw [List.mem_singleton] at hl
        subst hl
        simp
    · have := h.linked k hk
      simp only [List.mem_append, List.mem_singleton, Event.linked.injEq]
      rw [← this]
      constructor
      · rintro ⟨l, hl | rfl, rfl⟩
        · exact .inl ⟨l, hl, rfl⟩
        · exact .inr rfl
      · rintro (⟨l, hl, rfl⟩ | rfl)
        · exact ⟨l, .inl hl, rfl⟩
        · exact ⟨_, .inr rfl, rfl⟩

theorem LinkInv.unlinkToDeath (h : LinkInv tr p) (host : ℕ) :
    p.unlinkToDeath host .provider = p := by
  have hf : p.links.filter (fun l => !(l.binder == host && l.cookie == .provider)) = p.links := by
    refine List.filter_eq_self.2 fun l hl => ?_
    simp [h.cookie l hl]
  unfold Provider.unlinkToDeath
  rw [hf]

theorem linkInv_startSession (accepts : AudioConfiguration κ → Bool) (hostIf : Option ℕ)
    (cfg : AudioConfiguration κ) (modes : List LatencyMode) (dataMq : Option DataMQ) (mapped : Bool)
    (h : LinkInv tr p) :
    LinkInv (tr ++ (p.startSession accepts hostIf cfg modes dataMq mapped).2)
      (p.startSession accepts hostIf cfg modes dataMq mapped).1 := by
  unfold startSession
  split_ifs
  · simpa using h
  · cases hostIf with
    | none => simpa using h
    | some host =>
      have h0 : LinkInv tr { p with latencyModes := modes, audioConfig := some cfg
                                    stackIface := some host, contexts := p.contexts + 1 } :=
        h.of_eq rfl rfl
      exact (h0.linkToDeath host (p.contexts + 1)).of_eq (by simp) (by simp)

theorem linkInv_endSession (h : LinkInv tr p) : LinkInv tr p.endSession := by
  unfold endSession
  split
  · exact h.of_eq rfl rfl
  · next host _ =>
    have h0 : LinkInv tr { p with session := p.session.onSessionEnded.1 } := h.of_eq rfl rfl
    rw [h0.unlinkToDeath host]
    exact h.of_eq rfl rfl

theorem linkInv_binderDied {host : ℕ} (h : LinkInv tr p)
    (hs : p.binderDied host = some (p', os)) : LinkInv (tr ++ os) p' := by
  unfold binderDied at hs
  split_ifs at hs
  obtain ⟨rfl, rfl⟩ := Prod.mk.inj (Option.some.inj hs)
  refine ⟨fun l hl => h.cookie l (List.mem_of_mem_filter hl), fun k hk => ?_⟩
  obtain ⟨hne, hk⟩ : k ≠ host ∧ k ∉ p.dead := by simpa using hk
  have := h.linked k hk
  simp only [List.mem_append, List.mem_singleton, reduceCtorEq, or_false]
  rw [← this]
  constructor
  · rintro ⟨l, hl, rfl⟩
    exact ⟨l, List.mem_of_mem_filter hl, rfl⟩
  · rintro ⟨l, hl, rfl⟩
    exact ⟨l, List.mem_filter.2 ⟨hl, by simpa using hne⟩, rfl⟩

theorem linkInv_run {sessionType : SessionType} {accepts : AudioConfiguration κ → Bool}
    {C : Provider κ → Act κ → Prop} (h : (lts sessionType accepts).Run C tr p) : LinkInv tr p := by
  refine h.inv ?_ ?_
  · exact ⟨by simp [lts, create], by simp [lts, create]⟩
  · intro tr p a p' os hi _ hs
    cases a with
    | startSession hostIf cfg modes dataMq mapped =>
      have he : p.startSession accepts hostIf cfg modes dataMq mapped = (p', os) := Option.some.inj hs
      have := linkInv_startSession accepts hostIf cfg modes dataMq mapped hi
      rwa [he] at this
    | endSession =>
      obtain ⟨rfl, rfl⟩ := Prod.mk.inj (Option.some.inj hs)
      rw [List.append_nil]
      exact linkInv_endSession hi
    | binderDied host => exact linkInv_binderDied hi hs

end

/-! ### Deaths -/

theorem died_notMem_startSession {accepts : AudioConfiguration κ → Bool} {hostIf : Option ℕ}
    {cfg : AudioConfiguration κ} {modes : List LatencyMode} {dataMq : Option DataMQ} {mapped : Bool}
    {p : Provider κ} (host : ℕ) (active : Option ℕ) (ended : Bool) :
    .died host active ended ∉ (p.startSession accepts hostIf cfg modes dataMq mapped).2 := by
  unfold startSession linkToDeath
  split_ifs
  · simp
  · cases hostIf with
    | none => simp
    | some h =>
      dsimp only
      split_ifs <;> simp

/-- No host dies that is still registered while the session has another port. -/
def OwnDeath (p : Provider κ) : Act κ → Prop
  | .binderDied host => ∀ active ∈ p.session.stackIface, active ≠ host → ∀ l ∈ p.links, l.binder ≠ host
  | _ => True

instance (p : Provider κ) (a : Act κ) : Decidable (OwnDeath p a) := by
  unfold OwnDeath; split <;> infer_instance

theorem died_of_binderDied {p p' : Provider κ} {os : List Event} {host : ℕ}
    (h : p.binderDied host = some (p', os)) : host ∉ p.dead ∧
      os = [.died host p.session.stackIface (p.links.any fun l => l.binder == host)] := by
  unfold binderDied at h
  split_ifs at h with hd
  obtain ⟨-, rfl⟩ := Prod.mk.inj (Option.some.inj h)
  refine ⟨hd, ?_⟩
  have : (!(p.links.filter fun l => l.binder == host).isEmpty) =
      p.links.any fun l => l.binder == host := by
    rw [Bool.eq_iff_iff]
    simp
  rw [this]

end Provider

/-- **A session ends with its own host**, in the runs whose deaths meet `OwnDeath`: no other host's
death ends it.  In any of them the death of another host ends the session exactly when that host was
ever registered. -/
theorem session_ended_by_own_host {sessionType : SessionType} {accepts : AudioConfiguration κ → Bool}
    {tr : List Provider.Event} {p : Provider κ}
    (h : (Provider.lts sessionType accepts).Run Provider.OwnDeath tr p) :
    (∀ host active, .died host (some active) true ∈ tr → host = active) ∧
      ∀ tr p, (Provider.lts sessionType accepts).Reach tr p → ∀ host active p' os,
        p.session.stackIface = some active → host ≠ active → p.binderDied host = some (p', os) →
        (.died host (some active) true ∈ os ↔ .linked host ∈ tr) := by
  constructor
  · refine h.inv (I := fun tr _ => ∀ host active, .died host (some active) true ∈ tr → host = active)
      (by simp) ?_
    intro tr p a p' os hi hc hs host active hm
    rcases List.mem_append.1 hm with hm | hm
    · exact hi host active hm
    · cases a with
      | startSession hostIf cfg modes dataMq mapped =>
        obtain ⟨-, rfl⟩ := Prod.mk.inj (Option.some.inj hs)
        exact absurd hm (Provider.died_notMem_startSession host (some active) true)
      | endSession =>
        obtain ⟨-, rfl⟩ := Prod.mk.inj (Option.some.inj hs)
        simp at hm
      | binderDied dying =>
        obtain ⟨-, rfl⟩ := Provider.died_of_binderDied hs
        simp only [List.mem_singleton, Provider.Event.died.injEq] at hm
        obtain ⟨rfl, hact, hany⟩ := hm
        obtain ⟨l, hl, hb⟩ := List.any_eq_true.1 hany.symm
        by_contra hne
        exact hc active (by simp [← hact]) (Ne.symm hne) l hl (by simpa using hb)
  · intro tr p hr host active p' os hact hne hs
    obtain ⟨hd, rfl⟩ := Provider.died_of_binderDied hs
    rw [← (Provider.linkInv_run hr).linked host hd]
    simp [hact]

/-- A host opens a session and dies. -/
def oneHost : List (Provider.Act NoPayload) :=
  [.startSession (some 1) ⟨.hfpConfig, ()⟩ [] none true, .binderDied 1]

theorem session_ended_by_own_host_oneHost : ∃ tr, ∃ p : Provider NoPayload,
    (Provider.lts .hfpHardwareOffload Provider.hfpOffloadAccepts).Run Provider.OwnDeath tr p ∧
      tr = [.linked 1, .died 1 (some 1) true] ∧
      ∀ host active, .died host (some active) true ∈ tr → host = active := by
  obtain ⟨tr, p, h, htr⟩ := Lts.exists_run (C := Provider.OwnDeath)
    (M := Provider.lts .hfpHardwareOffload Provider.hfpOffloadAccepts)
    (P := fun tr _ => tr = [.linked 1, .died 1 (some 1) true]) oneHost (by decide)
  exact ⟨tr, p, h, htr, (session_ended_by_own_host h).1⟩

/-- A host ends its session, a second host opens one, and the first dies. -/
def twoHosts : List (Provider.Act NoPayload) :=
  [.startSession (some 1) ⟨.hfpConfig, ()⟩ [] none true, .endSession,
    .startSession (some 2) ⟨.hfpConfig, ()⟩ [] none true, .binderDied 1]

/-- The death of the first host ends the session of the second. -/
theorem session_ended_by_old_host : ∃ tr, ∃ p : Provider NoPayload,
    (Provider.lts .hfpHardwareOffload Provider.hfpOffloadAccepts).Reach tr p ∧
      .died 1 (some 2) true ∈ tr ∧ p.session.stackIface = none :=
  Lts.exists_run twoHosts (by decide)

end TrebleDoze.Bluetooth
