import TrebleDoze.Bluetooth.ProviderFactory

/-!
# The deaths of hosts

A host that dies takes its sessions with it, when the driver has reported the death to every provider that
had registered for it. Registrations are never taken back, a provider may be started for another host, and
another provider of the same type may have started the session meanwhile.

* `Orderly`: no session is started for a host that is dead, and a provider is given up after its session;
* `Attended`, `attended_run`: the port of a session is alive and some provider is registered for its death,
  or its death is still to be reported;
* `dead_host_loses_session`: when all deaths have been reported, no session has a dead port.
-/

namespace TrebleDoze.Bluetooth

open TrebleDoze.Lib

variable {κ : Tag → Type}

/-- An update of the configuration leaves the port of the session, and the provider's, as it is. -/
theorem Provider.updateAudioConfiguration_keeps (p : Provider κ) (cfg : AudioConfiguration κ) :
    (p.updateAudioConfiguration cfg).2.session.stackIface = p.session.stackIface ∧
      (p.updateAudioConfiguration cfg).2.stackIface = p.stackIface ∧
      (p.updateAudioConfiguration cfg).2.links = p.links := by
  have hs : (p.session.reportAudioConfigChanged cfg).1.stackIface = p.session.stackIface := by
    unfold BluetoothAudioSession.reportAudioConfigChanged
    split_ifs <;> rfl
  unfold updateAudioConfiguration
  split
  · split_ifs
    · exact ⟨rfl, rfl, rfl⟩
    · exact ⟨hs, rfl, rfl⟩
  · exact ⟨rfl, rfl, rfl⟩

namespace ProviderService

/-- A start is for a host that is alive, and a provider is released that has no session. -/
def Orderly (s : ProviderService κ) : Act κ → Prop
  | .startSession _ (some host) _ _ _ _ => host ∉ s.dead
  | .release i => (s.providers.find i).all (fun x => x.stackIface.isNone) = true
  | _ => True

instance (s : ProviderService κ) : (a : Act κ) → Decidable (Orderly s a)
  | .startSession _ (some host) _ _ _ _ =>
    decidable_of_iff (s.dead.contains host = false) (by simp [Orderly])
  | .release _ => instDecidableEqBool _ _
  | .startSession _ none _ _ _ _ | .openProvider _ _ | .endSession _ | .updateAudioConfiguration _ _
  | .setLowLatencyModeAllowed _ _ | .binderDied _ | .deliver _ | .observe _ _ => .isTrue trivial

/-- A provider has started the session of its type, and is registered for the death of a host, which it may
have given the session before. -/
structure Attends (t : SessionType) (host : ℕ) (x : ProviderObject κ) : Prop where
  sessionType : x.sessionType = t
  stackIface : x.stackIface.isSome = true
  linked : ∃ n, ⟨host, .context n⟩ ∈ x.links

/-- The port of a session is dead and the session is to be told, or it is alive and a provider attends to
it. -/
def Attended (s : ProviderService κ) : Prop :=
  ∀ t host, (s.sessions t).stackIface = some host →
    host ∈ s.dead ∧ t ∈ s.obituaries ∨
      host ∉ s.dead ∧ ∃ i x, s.providers.find i = some x ∧ Attends t host x

section

variable {checks : Provider.PayloadChecks κ} {s s' : ProviderService κ} {i : ℕ} {x x' : ProviderObject κ}
  {session : BluetoothAudioSession κ} {rings : List SessionType} {os : List Event} {a : Act κ}

/-- A provider changes, and its session: the others are attended as before. -/
theorem Attended.setProvider (h : Attended s) (hf : s.providers.find i = some x)
    (ht : x'.sessionType = x.sessionType)
    (hs : ∀ host, session.stackIface = some host →
      (s.sessions x.sessionType).stackIface = some host ∧
          (Attends x.sessionType host x → Attends x.sessionType host x') ∨
        host ∉ s.dead ∧ Attends x.sessionType host x') :
    Attended { s.setProvider i x' session with rings := rings } := by
  intro t host hp
  change (Function.update s.sessions x'.sessionType session t).stackIface = some host at hp
  change host ∈ s.dead ∧ t ∈ s.obituaries ∨
    host ∉ s.dead ∧ ∃ j y, (s.providers.put i x').find j = some y ∧ Attends t host y
  have hself : (s.providers.put i x').find i = some x' := by rw [Threads.find_put, if_pos rfl]
  rw [ht] at hp
  by_cases he : t = x.sessionType
  · subst he
    rw [Function.update_self] at hp
    rcases hs host hp with ⟨hp, hx⟩ | ⟨hd, hx⟩
    · refine (h _ host hp).imp id fun ⟨hd, j, y, hj, hy⟩ => ⟨hd, ?_⟩
      by_cases hji : j = i
      · subst hji
        obtain rfl := Option.some.inj (hf.symm.trans hj)
        exact ⟨j, x', hself, hx hy⟩
      · exact ⟨j, y, by rw [Threads.find_put, if_neg hji, hj], hy⟩
    · exact .inr ⟨hd, i, x', hself, hx⟩
  · rw [Function.update_of_ne he] at hp
    refine (h t host hp).imp id fun ⟨hd, j, y, hj, hy⟩ => ⟨hd, j, y, ?_, hy⟩
    have hji : j ≠ i := by
      rintro rfl
      obtain rfl := Option.some.inj (hf.symm.trans hj)
      exact he hy.sessionType.symm
    rw [Threads.find_put, if_neg hji, hj]

/-- The providers stay, and a session that changes keeps its port or loses it. -/
theorem Attended.setSession (h : Attended s) {t : SessionType} {obituaries : List SessionType}
    (hs : ∀ host, session.stackIface = some host → (s.sessions t).stackIface = some host)
    (ho : ∀ t', t' ∈ s.obituaries → t' ∈ obituaries ∨ t' = t ∧ session.stackIface = none) :
    Attended { s with sessions := Function.update s.sessions t session, obituaries := obituaries } := by
  intro t' host hp
  dsimp only at hp ⊢
  by_cases he : t' = t
  · subst he
    rw [Function.update_self] at hp
    refine (h t' host (hs host hp)).imp (fun ⟨hd, ht⟩ => ⟨hd, ?_⟩) id
    exact (ho t' ht).resolve_right fun hn => by rw [hn.2] at hp; cases hp
  · rw [Function.update_of_ne he] at hp
    exact (h t' host hp).imp (fun ⟨hd, ht⟩ => ⟨hd, (ho t' ht).resolve_right fun hn => he hn.1⟩) id

theorem Attended.startSession (h : Attended s) (hi : ServiceInv checks s)
    (hf : s.providers.find i = some x) {hostIf : Option ℕ} {cfg : AudioConfiguration κ}
    {modes : List LatencyMode} {made mapped : Bool} (ho : ∀ host, hostIf = some host → host ∉ s.dead) :
    Attended (s.startSession checks i x hostIf cfg modes made mapped).1 := by
  rcases startSession_cases hi hf hostIf cfg modes made mapped with he | ⟨-, y, p, hy, he, hp⟩
  · rw [he]
    exact h
  · rw [he]
    have ht : y.sessionType = x.sessionType := by rw [hy, ProviderObject.sessionType_withQueue]
    have hsame : y.stackIface = x.stackIface ∧ y.links = x.links := by
      rw [hy]
      unfold ProviderObject.withQueue
      split <;> exact ⟨rfl, rfl⟩
    refine h.setProvider hf ht fun host hport => ?_
    rcases hp with ⟨-, rfl⟩ | ⟨host', hhost, htook⟩
    · left
      dsimp only [attach, ProviderObject.attach] at hport
      refine ⟨ht ▸ hport, fun hx => ⟨ht, hsame.1 ▸ hx.stackIface, ?_⟩⟩
      obtain ⟨n, hn⟩ := hx.linked
      exact ⟨n, hsame.2 ▸ hn⟩
    · have hd := ho host' hhost
      have hlinks : p.links = y.links ++ [⟨host', .context ((s.attach y).contexts + 1)⟩] := by
        rw [htook.links, if_neg (show host' ∉ (s.attach y).dead from hd)]
        rfl
      have hstarted : (y.update p).stackIface.isSome = true :=
        Option.isSome_iff_exists.2 ⟨_, htook.stackIface⟩
      rw [htook.session, BluetoothAudioSession.startedBy] at hport
      split_ifs at hport
      -- a session that cannot map its queue keeps its port, and the registration for it stays
      · left
        dsimp only [attach, ProviderObject.attach] at hport
        refine ⟨ht ▸ hport, fun hx => ⟨ht, hstarted, ?_⟩⟩
        obtain ⟨n, hn⟩ := hx.linked
        refine ⟨n, ?_⟩
        dsimp only [ProviderObject.update]
        rw [hlinks, hsame.2]
        exact List.mem_append_left _ hn
      all_goals
        right
        obtain rfl := Option.some.inj hport
        refine ⟨hd, ht, hstarted, (s.attach y).contexts + 1, ?_⟩
        dsimp only [ProviderObject.update]
        rw [hlinks]
        exact List.mem_append_right _ (List.mem_singleton_self _)

theorem Attended.endSession (h : Attended s) (hf : s.providers.find i = some x) :
    Attended
      (s.setProvider i (x.update (s.attach x).endSession) (s.attach x).endSession.session) := by
  refine h.setProvider hf rfl fun host hport => ?_
  dsimp only [Provider.endSession, attach, ProviderObject.attach] at hport
  cases hi : x.stackIface with
  | none =>
    rw [hi] at hport
    refine .inl ⟨hport, fun hx => ?_⟩
    have := hx.stackIface
    rw [hi] at this
    cases this
  | some port =>
    rw [hi] at hport
    cases hport

theorem Attended.binderDied (h : Attended s) (host : ℕ) : Attended (s.binderDied host) := by
  intro t host' hp
  change (s.sessions t).stackIface = some host' at hp
  rcases h t host' hp with ⟨hd, ht⟩ | ⟨hd, j, y, hj, hy⟩
  · exact .inl ⟨List.mem_cons_of_mem _ hd, List.mem_append_left _ ht⟩
  · obtain ⟨n, hn⟩ := hy.linked
    by_cases he : host' = host
    · -- the registration fires
      left
      subst he
      refine ⟨List.mem_cons_self, List.mem_append_right _ ?_⟩
      refine List.mem_flatMap.2 ⟨(j, y), Threads.mem_of_find hj, ?_⟩
      refine List.mem_map.2 ⟨⟨host', .context n⟩, List.mem_filter.2 ⟨hn, ?_⟩, hy.sessionType⟩
      exact beq_self_eq_true host'
    · right
      refine ⟨fun hm => (List.mem_cons.1 hm).elim he hd, j, y.withoutLinks host, ?_,
        hy.sessionType, hy.stackIface, n, List.mem_filter.2 ⟨hn, ?_⟩⟩
      · dsimp only [ProviderService.binderDied]
        rw [Threads.find_map (f := ProviderObject.withoutLinks host), hj]
        rfl
      · simpa using he

theorem attended_step (h : Attended s) (hi : ServiceInv checks s) (ho : Orderly s a)
    (hs : s.step checks a = some (s', os)) : Attended s' := by
  cases a with
  | openProvider t made =>
    obtain rfl := congrArg Prod.fst (Option.some.inj hs)
    unfold openProvider
    by_cases hc : t = .unknown ∨ t.queueMade = .constructor ∧ made = false
    · rw [if_pos hc]
      exact h
    · rw [if_neg hc]
      intro t' host hp
      refine (h t' host hp).imp id fun ⟨hd, j, y, hj, hy⟩ => ⟨hd, j, y, ?_, hy⟩
      have hlt := hi.fresh hj
      dsimp only
      rw [Threads.find_put, if_neg (by omega), hj]
  | startSession i hostIf cfg modes made mapped =>
    obtain ⟨x, hf, he⟩ := Option.map_eq_some_iff.1 hs
    obtain rfl := congrArg Prod.fst he
    refine h.startSession hi hf fun host hhost => ?_
    subst hhost
    exact ho
  | endSession i =>
    obtain ⟨x, hf, he⟩ := Option.map_eq_some_iff.1 hs
    obtain rfl := congrArg Prod.fst he
    exact h.endSession hf
  | updateAudioConfiguration i cfg =>
    obtain ⟨x, hf, he⟩ := Option.map_eq_some_iff.1 hs
    obtain rfl := congrArg Prod.fst he
    have hkeep := (s.attach x).updateAudioConfiguration_keeps cfg
    refine h.setProvider hf rfl fun host hport => .inl ⟨hkeep.1.symm.trans hport, fun hx =>
      ⟨hx.sessionType, (congrArg Option.isSome hkeep.2.1).trans hx.stackIface, ?_⟩⟩
    dsimp only [ProviderObject.update]
    rw [hkeep.2.2]
    exact hx.linked
  | setLowLatencyModeAllowed i allowed =>
    obtain ⟨x, hf, he⟩ := Option.map_eq_some_iff.1 hs
    obtain rfl := congrArg Prod.fst he
    unfold setLowLatencyModeAllowed
    split_ifs
    · exact h
    · refine h.setProvider hf rfl fun host hport => .inl ⟨?_, id⟩
      by_cases ht : (s.sessions x.sessionType).sessionType = .a2dpHardwareOffloadEncoding
      · rwa [report_of_eq ht] at hport
      · rwa [report_of_ne ht] at hport
  | release i =>
    obtain ⟨x, hf, he⟩ := Option.map_eq_some_iff.1 hs
    obtain rfl := congrArg Prod.fst he
    intro t host hp
    refine (h t host hp).imp id fun ⟨hd, j, y, hj, hy⟩ => ⟨hd, j, y, ?_, hy⟩
    have hji : j ≠ i := by
      rintro rfl
      have hnone : (s.providers.find j).all (fun x => x.stackIface.isNone) = true := ho
      rw [hj, Option.all_some, Option.isNone_iff_eq_none] at hnone
      have := hy.stackIface
      rw [hnone] at this
      cases this
    dsimp only
    rw [Threads.find_drop_of_ne hji, hj]
  | binderDied host =>
    simp only [step] at hs
    split_ifs at hs
    obtain rfl := congrArg Prod.fst (Option.some.inj hs)
    exact h.binderDied host
  | deliver n =>
    obtain ⟨t, ht, he⟩ := Option.map_eq_some_iff.1 hs
    obtain rfl := congrArg Prod.fst he
    refine h.setSession (fun host hp => by cases hp) fun t' ht' => ?_
    by_cases htt : t' = t
    · exact .inr ⟨htt, rfl⟩
    · refine .inl (List.mem_eraseIdx_iff_getElem?.2 ?_)
      obtain ⟨m, hm⟩ := List.mem_iff_getElem?.1 ht'
      refine ⟨m, fun hmn => htt ?_, hm⟩
      rw [hmn, ht] at hm
      exact (Option.some.inj hm).symm
  | observe t c =>
    obtain rfl := congrArg Prod.fst (Option.some.inj hs)
    refine h.setSession (fun host hp => ?_) fun t' ht' => .inl ht'
    obtain ⟨c, hc⟩ := c
    cases c with
    | onSessionStarted | onSessionEnded | reportAudioConfigChanged => cases hc
    | registerStatusCback | unregisterStatusCback => exact hp

theorem attended_run {tr : List Event} (h : (lts checks).Run Orderly tr s) :
    ServiceInv checks s ∧ Attended s := by
  refine h.inv_state (I := fun s => ServiceInv checks s ∧ Attended s) ?_ fun hi ho hs =>
    ⟨serviceInv_step hi.1 hs, attended_step hi.2 hi.1 ho hs⟩
  exact ⟨serviceInv_run (.init (C := Orderly)), fun t host hp => by cases hp⟩

end

end ProviderService

/-- **A dead host loses its session**, in every orderly run with any number of providers: a session whose
port is dead is still to be told of a death, after which it is not ready; so once all deaths have been
reported, every session that is ready has a port that is alive. -/
theorem dead_host_loses_session {checks : Provider.PayloadChecks κ} {s : ProviderService κ}
    {tr : List ProviderService.Event}
    (h : (ProviderService.lts checks).Run ProviderService.Orderly tr s) :
    (∀ t, ∀ host ∈ s.dead, (s.sessions t).stackIface = some host →
      ∃ n s', s.step checks (.deliver n) = some (s', [.told t]) ∧
        (s'.sessions t).isSessionReady = false) ∧
      (s.obituaries = [] → ∀ t, (s.sessions t).isSessionReady = true →
        ∃ host, (s.sessions t).stackIface = some host ∧ host ∉ s.dead) := by
  obtain ⟨hi, ha⟩ := ProviderService.attended_run h
  constructor
  · intro t host hd hp
    rcases ha t host hp with ⟨-, ht⟩ | ⟨hn, -⟩
    · obtain ⟨n, hn⟩ := List.mem_iff_getElem?.1 ht
      refine ⟨n, _, by rw [ProviderService.step, hn]; rfl, ?_⟩
      dsimp only
      rw [Function.update_self]
      exact BluetoothAudioSession.isSessionReady_of_stackIface rfl
    · exact absurd hd hn
  · intro ho t hr
    simp only [BluetoothAudioSession.isSessionReady, Bool.and_eq_true] at hr
    obtain ⟨host, hp⟩ := Option.isSome_iff_exists.1 hr.1.1
    refine ⟨host, hp, ?_⟩
    rcases ha t host hp with ⟨-, ht⟩ | ⟨hn, -⟩
    · rw [ho] at ht
      cases ht
    · exact hn

/-- Two providers of one type and one of another are started for host 1, the second of them again for host
2; host 1 dies, and both deaths of the first type are reported. -/
def hostDies : List (ProviderService.Act Numbered) :=
  [.openProvider .leAudioHardwareOffloadEncoding true, .openProvider .leAudioHardwareOffloadEncoding true,
    .openProvider .a2dpSoftwareEncoding true,
    .startSession 0 (some 1) ⟨.leAudioConfig, (48 : ℕ)⟩ [] true true,
    .startSession 1 (some 1) ⟨.leAudioConfig, (32 : ℕ)⟩ [] true true,
    .startSession 2 (some 1) ⟨.pcmConfig, (44100 : ℕ)⟩ [] true true,
    .startSession 1 (some 2) ⟨.leAudioConfig, (16 : ℕ)⟩ [] true true, .binderDied 1]

theorem dead_host_loses_session_hostDies : ∃ tr, ∃ s : ProviderService Numbered,
    (ProviderService.lts anyPayload).Run ProviderService.Orderly tr s ∧
      (s.sessions .a2dpSoftwareEncoding).isSessionReady = true ∧
      (s.sessions .leAudioHardwareOffloadEncoding).stackIface = some 2 ∧
      ∃ n s', s.step anyPayload (.deliver n) = some (s', [.told .a2dpSoftwareEncoding]) ∧
        (s'.sessions .a2dpSoftwareEncoding).isSessionReady = false := by
  obtain ⟨tr, s, h, hr, hp, hd, ha⟩ := Lts.exists_run (M := ProviderService.lts anyPayload)
    (C := ProviderService.Orderly) (P := fun _ s =>
      (s.sessions .a2dpSoftwareEncoding).isSessionReady = true ∧
        (s.sessions .leAudioHardwareOffloadEncoding).stackIface = some 2 ∧ 1 ∈ s.dead ∧
        (s.sessions .a2dpSoftwareEncoding).stackIface = some 1) hostDies (by decide)
  exact ⟨tr, s, h, hr, hp, (dead_host_loses_session h).1 _ 1 hd ha⟩

end TrebleDoze.Bluetooth
