import TrebleDoze.Bluetooth.Cookies
import TrebleDoze.Bluetooth.StreamSystem
import TrebleDoze.Lib.Trace

/-!
# The callbacks of HIDL ports over the AIDL sessions

`RegisterControlResultCback` and `UnregisterControlResultCback` of `HidlToAidlMiddleware_2_0`.  A registration
hands callbacks of its own to the AIDL session, which look the cookie up in `legacy_callback_table`, and
only then puts the HIDL callbacks there; an unregistration leaves the session first and the table
afterwards.  Each of these is one step, and so is what the session tells its observers.

* `Holds`: a registration has got a cookie that has not been unregistered since;
* `Numbered`, `numbered_run`: the numbers of the calls, in every run;
* `InOrder`: no step meets a registration at work, or writes what one that has returned holds;
* `inOrder_iff`: a step tells the right callbacks and keeps them in the table exactly when it meets this;
* `callbacks_forwarded`: what the HIDL callbacks are told in every run whose steps all do;
* `forwarded_hidlOverAidl`: the ports then have the session that `SessionControl.hidlOverAidl` describes.
-/

namespace TrebleDoze.Bluetooth

open TrebleDoze.Lib

variable {κ : Tag → Type}

/-! ### The sessions -/

namespace SessionsMap

/-- An act of the stack on the session of a type, and what it tells the observers. -/
def act (t : SessionType) (a : StackAct { c : BluetoothAudioSession.Call κ // c.ofStack = true })
    (m : SessionsMap κ) : SessionsMap κ × List Notification :=
  let (session, m) := m.getSessionInstance t
  let r := (SessionControl.aidl κ).act session a
  (Function.update m t (some r.1), r.2)

variable {m : SessionsMap κ} {t t' : SessionType} {cookie : ℕ}

/-- A registration hands out a cookie that no observer has, or none. -/
theorem cookies_registerControlResultCback (cbacks : PortStatusCallbacks) :
    (∀ t', m.cookies t' ⊆ (m.registerControlResultCback t cbacks).2.cookies t') ∧
      ((m.registerControlResultCback t cbacks).1 ≠ kObserversCookieUndefined →
        (m.registerControlResultCback t cbacks).1 ∉ m.cookies t ∧
        (m.registerControlResultCback t cbacks).1 ∈
          (m.registerControlResultCback t cbacks).2.cookies t) := by
  dsimp only [registerControlResultCback]
  rw [update_getSessionInstance]
  have hck := getSessionInstance_cookies (m := m) (t := t)
  generalize (m.getSessionInstance t).1 = session at hck
  unfold BluetoothAudioSession.registerStatusCback
  rw [registerObserver_eq, hck]
  cases hf : firstFree (observersCookieGetInitValue session.sessionType.code) kObserversCookieSize
      (m.cookies t) with
  | none =>
    refine ⟨fun t' => ?_, fun hc => absurd rfl hc⟩
    rw [cookies_update]
    split_ifs with ht
    · rw [ht, hck]
      exact List.Subset.refl _
    · exact List.Subset.refl _
  | some cookie =>
    have happ : (session.observers ++ [(cookie, cbacks)]).map Prod.fst = m.cookies t ++ [cookie] := by
      rw [List.map_append, hck]
      rfl
    refine ⟨fun t' => ?_, fun _ => ⟨(firstFree_eq_some hf).1, ?_⟩⟩
    · rw [cookies_update, happ]
      split_ifs with ht
      · rw [ht]
        exact List.subset_append_left _ _
      · exact List.Subset.refl _
    · rw [cookies_update, if_pos rfl, happ]
      exact List.mem_append_right _ (List.mem_singleton_self _)

theorem cookies_unregisterControlResultCback :
    (m.unregisterControlResultCback t cookie).cookies t' =
      if t' = t then (m.cookies t).filter (· != cookie) else m.cookies t' := by
  dsimp only [unregisterControlResultCback]
  rw [update_getSessionInstance, cookies_update, ← getSessionInstance_cookies (m := m) (t := t),
    List.filter_map]
  rfl

theorem cookies_act (a : StackAct { c : BluetoothAudioSession.Call κ // c.ofStack = true }) :
    (m.act t a).1.cookies t' = m.cookies t' := by
  dsimp only [act]
  have hck := getSessionInstance_cookies (m := m) (t := t)
  have hobs : ((SessionControl.aidl κ).act (m.getSessionInstance t).1 a).1.observers =
      (m.getSessionInstance t).1.observers := by
    cases a with
    | call c => exact (BluetoothAudioSession.call_tells c.1 c.2).1
    | report startResp status => rfl
  rw [update_getSessionInstance, cookies_update, hobs, hck]
  split_ifs with ht
  · rw [ht]
  · rfl

end SessionsMap

/-! ### The middleware -/

namespace Notification

/-- It is one of those that the middleware takes. -/
def isStatus : Notification → Bool
  | controlResult _ _ _ | sessionChanged _ => true
  | audioConfigurationChanged _ | lowLatencyModeAllowed _ _ => false

/-- As the HIDL callbacks are told it. -/
def toHidl : Notification → Notification
  | controlResult cookie startResp status => controlResult cookie startResp (Hidl.toHidlStatus status)
  | n => n

end Notification

namespace HidlToAidlMiddleware

/-- Where a call is between its two steps: a registration has got its cookie from the AIDL session, an
unregistration has given it back. -/
inductive Point where
  | registering (t : SessionType) (cookie : ℕ)
  | unregistering (t : SessionType) (cookie : ℕ)
  deriving DecidableEq, Repr

/-- The entry of the table that the call is going to write. -/
def Point.key : Point → SessionType × ℕ
  | registering t cookie | unregistering t cookie => (t, cookie)

/-- What the entry is then, for the call of this number. -/
def Point.entry (i : ℕ) : Point → Option ℕ
  | registering _ _ => some i
  | unregistering _ _ => none

end HidlToAidlMiddleware

/-- The sessions and `legacy_callback_table`, with the calls at work.  The calls are numbered; the callbacks
of a registration, both of which the ports set, go by its number.  The last field is for the statements:
which registration has got a cookie. -/
structure HidlToAidlMiddleware (κ : Tag → Type) where
  sessions : SessionsMap κ
  legacyCallbackTable : SessionType × ℕ → Option ℕ
  threads : Threads HidlToAidlMiddleware.Point
  calls : ℕ
  held : SessionType × ℕ → Option ℕ

namespace HidlToAidlMiddleware

/-- What can be seen: the cookies that registrations get and that are given back, and the notifications
of the AIDL sessions, each with the HIDL callbacks that it reaches and what these are told. -/
inductive Event where
  | obtained (call : ℕ) (t : SessionType) (cookie : ℕ)
  | unregistered (t : SessionType) (cookie : ℕ)
  | notified (t : SessionType) (n : Notification) (forwarded : List (ℕ × Notification))
  deriving DecidableEq, Repr

/-- The steps of the calls, and the acts of the stack on the session of a type. -/
inductive Act (κ : Tag → Type) where
  /-- `RegisterControlResultCback`, up to the locked block. -/
  | registerControlResultCback (sessionType : Hidl.SessionType)
  /-- The locked block of a registration. -/
  | store (call : ℕ)
  /-- `UnregisterControlResultCback`, up to the locked block. -/
  | unregisterControlResultCback (sessionType : Hidl.SessionType) (cookie : ℕ)
  /-- The locked block of an unregistration. -/
  | erase (call : ℕ)
  | stack (t : SessionType) (a : StackAct { c : BluetoothAudioSession.Call κ // c.ofStack = true })

section

variable (s : HidlToAidlMiddleware κ)

/-- `control_result_cb_` of the AIDL callbacks: the HIDL callbacks it reaches, and what they are told. -/
def controlResultCb (t : SessionType) (cookie : ℕ) (startResp : Bool) (status : BluetoothAudioStatus) :
    List (ℕ × Notification) :=
  match s.legacyCallbackTable (t, cookie) with
  | none => []
  | some cback => [(cback, .controlResult cookie startResp (Hidl.toHidlStatus status))]

/-- `session_changed_cb_` of the AIDL callbacks. -/
def sessionChangedCb (t : SessionType) (cookie : ℕ) : List (ℕ × Notification) :=
  match s.legacyCallbackTable (t, cookie) with
  | none => []
  | some cback => [(cback, .sessionChanged cookie)]

/-- What comes of a notification; the AIDL callbacks are given no others. -/
def forwarded (t : SessionType) : Notification → List (ℕ × Notification)
  | .controlResult cookie startResp status => s.controlResultCb t cookie startResp status
  | .sessionChanged cookie => s.sessionChangedCb t cookie
  | .audioConfigurationChanged _ | .lowLatencyModeAllowed _ _ => []

def step : Act κ → Option (HidlToAidlMiddleware κ × List Event)
  | .registerControlResultCback sessionType =>
    let t := Hidl.fromSessionType sessionType
    let (cookie, sessions) := s.sessions.registerControlResultCback t ⟨false, false⟩
    let s' := { s with sessions := sessions
                       threads := s.threads.put s.calls (.registering t cookie)
                       calls := s.calls + 1 }
    -- the call goes on to its locked block in either case
    if cookie = kObserversCookieUndefined then some (s', [])
    else some ({ s' with held := Function.update s.held (t, cookie) (some s.calls) },
      [.obtained s.calls t cookie])
  | .store i =>
    match s.threads.find i with
    | some (.registering t cookie) =>
      some ({ s with legacyCallbackTable := Function.update s.legacyCallbackTable (t, cookie) (some i)
                     threads := s.threads.drop i }, [])
    | _ => none
  | .unregisterControlResultCback sessionType cookie =>
    let t := Hidl.fromSessionType sessionType
    some ({ s with sessions := s.sessions.unregisterControlResultCback t cookie
                   threads := s.threads.put s.calls (.unregistering t cookie)
                   calls := s.calls + 1
                   held := Function.update s.held (t, cookie) none }, [.unregistered t cookie])
  | .erase i =>
    -- by the cookie alone, whoever has put its entry there
    match s.threads.find i with
    | some (.unregistering t cookie) =>
      some ({ s with legacyCallbackTable := Function.update s.legacyCallbackTable (t, cookie) none
                     threads := s.threads.drop i }, [])
    | _ => none
  | .stack t a =>
    let (sessions, ns) := s.sessions.act t a
    some ({ s with sessions := sessions }, ns.map fun n => .notified t n (s.forwarded t n))

end

/-- **The calls of the HIDL ports and the acts of the stack**, in any order. -/
def lts (κ : Tag → Type) : Lts (HidlToAidlMiddleware κ) (Act κ) Event where
  init := ⟨fun _ => none, fun _ => none, [], 0, fun _ => none⟩
  step := step

variable {s s' : HidlToAidlMiddleware κ} {a : Act κ} {tr os : List Event} {t : SessionType}
  {n : Notification} {cookie i : ℕ}

/-- The ways a step can go. -/
inductive Effect (s : HidlToAidlMiddleware κ) : Act κ → HidlToAidlMiddleware κ → List Event → Prop
  | registers (sessionType : Hidl.SessionType) (cookie : ℕ) (sessions : SessionsMap κ)
      (hc : cookie ≠ kObserversCookieUndefined)
      (hr : s.sessions.registerControlResultCback (Hidl.fromSessionType sessionType) ⟨false, false⟩ =
        (cookie, sessions)) :
      Effect s (.registerControlResultCback sessionType)
        { s with sessions := sessions
                 threads := s.threads.put s.calls (.registering (Hidl.fromSessionType sessionType) cookie)
                 calls := s.calls + 1
                 held := Function.update s.held (Hidl.fromSessionType sessionType, cookie) (some s.calls) }
        [.obtained s.calls (Hidl.fromSessionType sessionType) cookie]
  | fails (sessionType : Hidl.SessionType) (sessions : SessionsMap κ)
      (hr : s.sessions.registerControlResultCback (Hidl.fromSessionType sessionType) ⟨false, false⟩ =
        (kObserversCookieUndefined, sessions)) :
      Effect s (.registerControlResultCback sessionType)
        { s with sessions := sessions
                 threads := s.threads.put s.calls
                   (.registering (Hidl.fromSessionType sessionType) kObserversCookieUndefined)
                 calls := s.calls + 1 } []
  | stores (i : ℕ) (t : SessionType) (cookie : ℕ)
      (hf : s.threads.find i = some (.registering t cookie)) :
      Effect s (.store i)
        { s with legacyCallbackTable := Function.update s.legacyCallbackTable (t, cookie) (some i)
                 threads := s.threads.drop i } []
  | unregisters (sessionType : Hidl.SessionType) (cookie : ℕ) :
      Effect s (.unregisterControlResultCback sessionType cookie)
        { s with sessions :=
                   s.sessions.unregisterControlResultCback (Hidl.fromSessionType sessionType) cookie
                 threads := s.threads.put s.calls (.unregistering (Hidl.fromSessionType sessionType) cookie)
                 calls := s.calls + 1
                 held := Function.update s.held (Hidl.fromSessionType sessionType, cookie) none }
        [.unregistered (Hidl.fromSessionType sessionType) cookie]
  | erases (i : ℕ) (t : SessionType) (cookie : ℕ)
      (hf : s.threads.find i = some (.unregistering t cookie)) :
      Effect s (.erase i)
        { s with legacyCallbackTable := Function.update s.legacyCallbackTable (t, cookie) none
                 threads := s.threads.drop i } []
  | tells (t : SessionType) (a : StackAct { c : BluetoothAudioSession.Call κ // c.ofStack = true }) :
      Effect s (.stack t a) { s with sessions := (s.sessions.act t a).1 }
        ((s.sessions.act t a).2.map fun n => .notified t n (s.forwarded t n))

theorem effect_of_step (h : step s a = some (s', os)) : Effect s a s' os := by
  cases a with
  | registerControlResultCback sessionType =>
    dsimp only [step] at h
    split_ifs at h with hc
    · obtain ⟨rfl, rfl⟩ := Prod.mk.inj (Option.some.inj h)
      have hfail := Effect.fails sessionType _ (Prod.ext hc rfl)
      rw [hc]
      exact hfail
    · obtain ⟨rfl, rfl⟩ := Prod.mk.inj (Option.some.inj h)
      exact .registers sessionType _ _ hc rfl
  | store i =>
    dsimp only [step] at h
    split at h
    · rename_i t cookie hf
      obtain ⟨rfl, rfl⟩ := Prod.mk.inj (Option.some.inj h)
      exact .stores i t cookie hf
    · cases h
  | unregisterControlResultCback sessionType cookie =>
    obtain ⟨rfl, rfl⟩ := Prod.mk.inj (Option.some.inj h)
    exact .unregisters sessionType cookie
  | erase i =>
    dsimp only [step] at h
    split at h
    · rename_i t cookie hf
      obtain ⟨rfl, rfl⟩ := Prod.mk.inj (Option.some.inj h)
      exact .erases i t cookie hf
    · cases h
  | stack t a =>
    obtain ⟨rfl, rfl⟩ := Prod.mk.inj (Option.some.inj h)
    exact .tells t a

/-! ### The numbers of the calls -/

/-- The call is between its two steps. -/
def atWork (s : HidlToAidlMiddleware κ) (i : ℕ) : Bool := (s.threads.find i).isSome

/-- The numbers of the calls tell the registrations apart, and who has got a cookie is an observer. -/
structure Numbered (s : HidlToAidlMiddleware κ) : Prop where
  nodup : (s.threads.map Prod.fst).Nodup
  lt_calls : ∀ {i p}, s.threads.find i = some p → i < s.calls
  held_lt : ∀ {key i}, s.held key = some i → i < s.calls
  /-- Between its steps, the call that has got a cookie is the registration of this cookie. -/
  own : ∀ {key i p}, s.held key = some i → s.threads.find i = some p → p = .registering key.1 key.2
  /-- What is in the table was put there by a registration that has returned. -/
  stored : ∀ {key i}, s.legacyCallbackTable key = some i → i < s.calls ∧ s.threads.find i = none
  observed : ∀ {t cookie i}, s.held (t, cookie) = some i → cookie ∈ s.sessions.cookies t

theorem update_eq_some {entries : SessionType × ℕ → Option ℕ} {key written : SessionType × ℕ}
    {entry : Option ℕ} : Function.update entries written entry key = some i ↔
      key = written ∧ entry = some i ∨ key ≠ written ∧ entries key = some i := by
  by_cases hkey : key = written
  · subst hkey
    simp
  · simp [hkey]

theorem find_begins (p : Point) (hi : i < s.calls) :
    (s.threads.put s.calls p).find i = s.threads.find i := by
  rw [Threads.find_put, if_neg (Nat.ne_of_lt hi)]

theorem Numbered.begins (hn : Numbered s) (p : Point) :
    ((s.threads.put s.calls p).map Prod.fst).Nodup ∧
      (∀ {i q}, (s.threads.put s.calls p).find i = some q → i < s.calls + 1) ∧
      ∀ {key i}, s.legacyCallbackTable key = some i →
        i < s.calls + 1 ∧ (s.threads.put s.calls p).find i = none := by
  refine ⟨Threads.nodup_put hn.nodup, fun {i q} hf => ?_, fun {key i} ht => ?_⟩
  · rw [Threads.find_put] at hf
    split_ifs at hf with hi
    · omega
    · exact Nat.lt_succ_of_lt (hn.lt_calls hf)
  · obtain ⟨hlt, hnone⟩ := hn.stored ht
    rw [find_begins p hlt]
    exact ⟨Nat.lt_succ_of_lt hlt, hnone⟩

theorem Numbered.ends (hn : Numbered s) {i j : ℕ} {p : Point} (h : (s.threads.drop i).find j = some p) :
    j ≠ i ∧ s.threads.find j = some p := by
  rw [Threads.find_drop hn.nodup] at h
  split_ifs at h with hj
  exact ⟨hj, h⟩

theorem Numbered.gets (hn : Numbered s) {sessions : SessionsMap κ}
    (hr : s.sessions.registerControlResultCback t ⟨false, false⟩ = (cookie, sessions))
    (hc : cookie ≠ kObserversCookieUndefined) :
    Numbered { s with sessions := sessions
                      threads := s.threads.put s.calls (.registering t cookie)
                      calls := s.calls + 1
                      held := Function.update s.held (t, cookie) (some s.calls) } := by
  obtain ⟨hnodup, hlt, hstored⟩ := hn.begins (.registering t cookie)
  obtain ⟨hsub, hnew⟩ := s.sessions.cookies_registerControlResultCback (t := t) ⟨false, false⟩
  rw [hr] at hsub hnew
  refine ⟨hnodup, hlt, fun {key i} hh => ?_, fun {key i p} hh hf => ?_, hstored, fun {t' c i} hh => ?_⟩
  · rcases update_eq_some.1 hh with ⟨-, hcall⟩ | ⟨-, hold⟩
    · obtain rfl := Option.some.inj hcall
      exact Nat.lt_succ_self _
    · exact Nat.lt_succ_of_lt (hn.held_lt hold)
  · dsimp only at hf
    rcases update_eq_some.1 hh with ⟨rfl, hcall⟩ | ⟨-, hold⟩
    · obtain rfl := Option.some.inj hcall
      rw [Threads.find_put, if_pos rfl] at hf
      exact (Option.some.inj hf).symm
    · rw [find_begins _ (hn.held_lt hold)] at hf
      exact hn.own hold hf
  · rcases update_eq_some.1 hh with ⟨hkey, -⟩ | ⟨-, hold⟩
    · obtain ⟨rfl, rfl⟩ := Prod.mk.inj hkey
      exact (hnew hc).2
    · exact hsub t' (hn.observed hold)

theorem Numbered.getsNone (hn : Numbered s) {sessions : SessionsMap κ}
    (hr : s.sessions.registerControlResultCback t ⟨false, false⟩ = (cookie, sessions)) :
    Numbered { s with sessions := sessions
                      threads := s.threads.put s.calls (.registering t cookie)
                      calls := s.calls + 1 } := by
  obtain ⟨hnodup, hlt, hstored⟩ := hn.begins (.registering t cookie)
  obtain ⟨hsub, -⟩ := s.sessions.cookies_registerControlResultCback (t := t) ⟨false, false⟩
  rw [hr] at hsub
  refine ⟨hnodup, hlt, fun hh => Nat.lt_succ_of_lt (hn.held_lt hh), fun hh hf => ?_, hstored,
    fun hh => hsub _ (hn.observed hh)⟩
  dsimp only at hf
  rw [find_begins _ (hn.held_lt hh)] at hf
  exact hn.own hh hf

theorem Numbered.givesBack (hn : Numbered s) (t : SessionType) (cookie : ℕ) :
    Numbered { s with sessions := s.sessions.unregisterControlResultCback t cookie
                      threads := s.threads.put s.calls (.unregistering t cookie)
                      calls := s.calls + 1
                      held := Function.update s.held (t, cookie) none } := by
  obtain ⟨hnodup, hlt, hstored⟩ := hn.begins (.unregistering t cookie)
  have hheld : ∀ {key i}, Function.update s.held (t, cookie) none key = some i →
      key ≠ (t, cookie) ∧ s.held key = some i := by
    intro key i hh
    rcases update_eq_some.1 hh with ⟨-, hnew⟩ | hold
    · cases hnew
    · exact hold
  refine ⟨hnodup, hlt, fun hh => Nat.lt_succ_of_lt (hn.held_lt (hheld hh).2), fun hh hf => ?_, hstored,
    fun {t' c i} hh => ?_⟩
  · dsimp only at hf
    rw [find_begins _ (hn.held_lt (hheld hh).2)] at hf
    exact hn.own (hheld hh).2 hf
  · obtain ⟨hkey, hold⟩ := hheld hh
    dsimp only
    rw [SessionsMap.cookies_unregisterControlResultCback]
    split_ifs with ht
    · have hne : c ≠ cookie := fun he => hkey (Prod.ext ht he)
      rw [← ht]
      exact List.mem_filter.2 ⟨hn.observed hold, bne_iff_ne.2 hne⟩
    · exact hn.observed hold

theorem Numbered.writes (hn : Numbered s) {p : Point} (hf : s.threads.find i = some p) :
    Numbered { s with legacyCallbackTable := Function.update s.legacyCallbackTable p.key (p.entry i)
                      threads := s.threads.drop i } := by
  refine ⟨Threads.nodup_drop hn.nodup, fun h' => hn.lt_calls (hn.ends h').2, hn.held_lt,
    fun hh h' => hn.own hh (hn.ends h').2, fun {key j} ht => ?_, hn.observed⟩
  dsimp only
  rw [Threads.find_drop hn.nodup]
  rcases update_eq_some.1 ht with ⟨-, hnew⟩ | ⟨-, hold⟩
  · cases p with
    | registering t cookie =>
      obtain rfl := Option.some.inj hnew
      exact ⟨hn.lt_calls hf, if_pos rfl⟩
    | unregistering t cookie => cases hnew
  · obtain ⟨hlt, hnone⟩ := hn.stored hold
    exact ⟨hlt, by rw [hnone, ite_self]⟩

theorem Numbered.step (hn : Numbered s) (h : step s a = some (s', os)) : Numbered s' := by
  cases effect_of_step h with
  | registers sessionType cookie sessions hc hr => exact hn.gets hr hc
  | fails sessionType sessions hr => exact hn.getsNone hr
  | unregisters sessionType cookie => exact hn.givesBack _ cookie
  | stores i t cookie hf | erases i t cookie hf => exact hn.writes hf
  | tells t a =>
    refine ⟨hn.nodup, hn.lt_calls, hn.held_lt, hn.own, hn.stored, fun hh => ?_⟩
    dsimp only
    rw [SessionsMap.cookies_act]
    exact hn.observed hh

theorem numbered_init : Numbered (lts κ).init :=
  ⟨List.nodup_nil, by simp [lts, Threads.find], by simp [lts], by simp [lts], by simp [lts],
    by simp [lts]⟩

theorem numbered_run {C : HidlToAidlMiddleware κ → Act κ → Prop} (h : (lts κ).Run C tr s) : Numbered s :=
  h.inv_state numbered_init fun hn _ ha => hn.step ha

/-! ### The steps in order -/

/-- No notification is for a cookie whose registration is at work, and no call writes the entry of a
cookie that a registration holds which has returned. -/
def InOrder (s : HidlToAidlMiddleware κ) : Act κ → Prop
  | .store i | .erase i => ∀ p ∈ s.threads.find i, ∀ j ∈ s.held p.key, s.atWork j = true
  | .stack t a => ∀ n ∈ (s.sessions.act t a).2, n.isStatus = true →
      ∀ j ∈ s.held (t, n.cookie), s.atWork j = false
  | .registerControlResultCback _ | .unregisterControlResultCback _ _ => True

instance (s : HidlToAidlMiddleware κ) (a : Act κ) : Decidable (InOrder s a) := by
  unfold InOrder; split <;> infer_instance

/-- The table has the callbacks of all registrations that hold a cookie and have returned. -/
def Placed (s : HidlToAidlMiddleware κ) : Prop :=
  ∀ {key i}, s.held key = some i → s.atWork i = true ∨ s.legacyCallbackTable key = some i

/-- A notification reaches, once, the callbacks of the registration that holds its cookie. -/
def Told (s : HidlToAidlMiddleware κ) (os : List Event) : Prop :=
  ∀ t n fs, .notified t n fs ∈ os → n.isStatus = true → ∀ i ∈ s.held (t, n.cookie), fs = [(i, n.toHidl)]

theorem atWork_begins (p : Point) (hi : i < s.calls) :
    ((s.threads.put s.calls p).find i).isSome = s.atWork i := by
  rw [find_begins p hi]
  rfl

theorem atWork_ends (hn : Numbered s) (j : ℕ) :
    ((s.threads.drop i).find j).isSome = if j = i then false else s.atWork j := by
  rw [Threads.find_drop hn.nodup]
  split_ifs <;> rfl

/-- What comes of a notification is what the entry of its cookie in the table says. -/
theorem forwarded_eq_iff (hs : n.isStatus = true) :
    s.forwarded t n = [(i, n.toHidl)] ↔ s.legacyCallbackTable (t, n.cookie) = some i := by
  cases n with
  | controlResult cookie startResp status =>
    cases ht : s.legacyCallbackTable (t, cookie) <;>
      simp [forwarded, controlResultCb, Notification.cookie, Notification.toHidl, ht]
  | sessionChanged cookie =>
    cases ht : s.legacyCallbackTable (t, cookie) <;>
      simp [forwarded, sessionChangedCb, Notification.cookie, Notification.toHidl, ht]
  | audioConfigurationChanged | lowLatencyModeAllowed => cases hs

theorem Placed.begins (hp : Placed s) (hn : Numbered s) (p : Point) {key : SessionType × ℕ}
    (hh : s.held key = some i) :
    ((s.threads.put s.calls p).find i).isSome = true ∨ s.legacyCallbackTable key = some i := by
  rw [atWork_begins p (hn.held_lt hh)]
  exact hp hh

theorem placed_writes_iff (hp : Placed s) (hn : Numbered s) {p : Point} (hf : s.threads.find i = some p) :
    Placed { s with legacyCallbackTable := Function.update s.legacyCallbackTable p.key (p.entry i)
                    threads := s.threads.drop i } ↔
      ∀ j ∈ s.held p.key, s.atWork j = true := by
  have hends : ∀ j, ((s.threads.drop i).find j).isSome = if j = i then false else s.atWork j :=
    atWork_ends hn
  constructor
  · intro hp' j hj
    rcases hp' hj with hw | ht
    · have hw' : ((s.threads.drop i).find j).isSome = true := hw
      rw [hends] at hw'
      split_ifs at hw'
      exact hw'
    · -- the entry is this call's own
      have ht' : p.entry i = some j := by
        dsimp only at ht
        rwa [Function.update_self] at ht
      cases p with
      | registering t cookie =>
        obtain rfl := Option.some.inj ht'
        rw [atWork, hf]
        rfl
      | unregistering t cookie => cases ht'
  · intro hall key j hh
    by_cases hj : j = i
    · -- the call is the registration that holds its own cookie
      subst hj
      obtain rfl := hn.own hh hf
      exact .inr (Function.update_self ..)
    · have hw : ((s.threads.drop i).find j).isSome = s.atWork j := by rw [hends, if_neg hj]
      by_cases hkey : key = p.key
      · subst hkey
        exact .inl (hw.trans (hall j hh))
      · rcases hp hh with hold | ht
        · exact .inl (hw.trans hold)
        · exact .inr ((Function.update_of_ne hkey ..).trans ht)

/-- **A step in order** is one that keeps the callbacks in the table and tells the right ones. -/
theorem inOrder_iff (hp : Placed s) (hn : Numbered s) (h : step s a = some (s', os)) :
    InOrder s a ↔ Placed s' ∧ Told s os := by
  cases effect_of_step h with
  | registers sessionType cookie sessions hc hr =>
    refine iff_of_true trivial ⟨fun {key i} hh => ?_, fun t n fs hm => by simp at hm⟩
    rcases update_eq_some.1 hh with ⟨-, hnew⟩ | ⟨-, hold⟩
    · obtain rfl := Option.some.inj hnew
      left
      dsimp only [atWork]
      rw [Threads.find_put, if_pos rfl]
      rfl
    · exact hp.begins hn _ hold
  | fails sessionType sessions hr =>
    exact iff_of_true trivial ⟨fun hh => hp.begins hn _ hh, fun t n fs hm => by cases hm⟩
  | unregisters sessionType cookie =>
    refine iff_of_true trivial ⟨fun {key i} hh => ?_, fun t n fs hm => by simp at hm⟩
    rcases update_eq_some.1 hh with ⟨-, hnew⟩ | ⟨-, hold⟩
    · cases hnew
    · exact hp.begins hn _ hold
  | stores i t cookie hf | erases i t cookie hf =>
    have hwrites := placed_writes_iff hp hn hf
    have horder : (∀ p ∈ s.threads.find i, ∀ j ∈ s.held p.key, s.atWork j = true) ↔
        ∀ j ∈ s.held (t, cookie), s.atWork j = true := by simp [hf, Point.key]
    refine horder.trans (hwrites.symm.trans ?_)
    exact (and_iff_left fun t n fs hm => by cases hm).symm
  | tells t a =>
    constructor
    · refine fun hin => ⟨fun hh => hp hh, fun t' n fs hm hs i hi => ?_⟩
      obtain ⟨n', hmem, he⟩ := List.mem_map.1 hm
      obtain ⟨rfl, rfl, rfl⟩ := Event.notified.inj he
      have hw := hin n' hmem hs i hi
      rcases hp hi with hwork | ht
      · rw [hw] at hwork
        cases hwork
      · exact (forwarded_eq_iff hs).2 ht
    · rintro ⟨-, htold⟩ n hmem hs i hi
      have hfs := htold t n _ (List.mem_map_of_mem hmem) hs i hi
      obtain ⟨-, hnone⟩ := hn.stored ((forwarded_eq_iff hs).1 hfs)
      rw [atWork, hnone]
      rfl

/-! ### What the registrations are told -/

/-- The registration of this number has got the cookie, which has not been unregistered since. -/
def Holds (i : ℕ) (t : SessionType) (cookie : ℕ) (tr : List Event) : Prop :=
  ∃ pre post, tr = pre ++ .obtained i t cookie :: post ∧ .unregistered t cookie ∉ post

/-- Each notification for a cookie that a registration holds is forwarded once, to its callbacks. -/
def Forwarded (tr : List Event) : Prop :=
  ∀ t n fs i, n.isStatus = true →
    Whenever (· = .notified t n fs) (fun pre => Holds i t n.cookie pre → fs = [(i, n.toHidl)]) tr

/-- A registration that holds a cookie has just got it, or goes on to hold it. -/
theorem holds_append (h : Holds i t cookie (tr ++ os)) :
    .obtained i t cookie ∈ os ∨ Holds i t cookie tr ∧ .unregistered t cookie ∉ os := by
  obtain ⟨pre, post, he, hpost⟩ := h
  rcases List.append_eq_append_iff.1 he with ⟨pre', rfl, hos⟩ | ⟨rest, rfl, hrest⟩
  · rw [hos]
    exact .inl (List.mem_append_right _ List.mem_cons_self)
  · cases rest with
    | nil =>
      rw [List.nil_append] at hrest
      rw [← hrest]
      exact .inl List.mem_cons_self
    | cons e rest =>
      rw [List.cons_append] at hrest
      obtain ⟨rfl, rfl⟩ := List.cons.inj hrest
      rw [List.mem_append, not_or] at hpost
      exact .inr ⟨⟨pre, rest, rfl, hpost.1⟩, hpost.2⟩

theorem holds_step (hn : Numbered s) (hh : ∀ {i t cookie}, Holds i t cookie tr → s.held (t, cookie) = some i)
    (h : step s a = some (s', os)) (hi : Holds i t cookie (tr ++ os)) : s'.held (t, cookie) = some i := by
  cases effect_of_step h with
  | registers sessionType new sessions hc hr =>
    rcases holds_append hi with hm | ⟨hold, -⟩
    · obtain ⟨rfl, rfl, rfl⟩ := Event.obtained.inj (List.mem_singleton.1 hm)
      exact Function.update_self ..
    · -- a cookie that is held is an observer's, and not handed out again
      have hfree := (s.sessions.cookies_registerControlResultCback
        (t := Hidl.fromSessionType sessionType) ⟨false, false⟩).2
      rw [hr] at hfree
      have hne : (t, cookie) ≠ (Hidl.fromSessionType sessionType, new) := by
        intro he
        obtain ⟨rfl, rfl⟩ := Prod.mk.inj he
        exact (hfree hc).1 (hn.observed (hh hold))
      exact (Function.update_of_ne hne ..).trans (hh hold)
  | unregisters sessionType given =>
    rcases holds_append hi with hm | ⟨hold, hm⟩
    · simp at hm
    · have hne : (t, cookie) ≠ (Hidl.fromSessionType sessionType, given) := by
        intro he
        obtain ⟨rfl, rfl⟩ := Prod.mk.inj he
        exact hm (List.mem_singleton_self _)
      exact (Function.update_of_ne hne ..).trans (hh hold)
  | fails | stores | erases =>
    rw [List.append_nil] at hi
    exact hh hi
  | tells t' a =>
    rcases holds_append hi with hm | ⟨hold, -⟩
    · obtain ⟨n, -, he⟩ := List.mem_map.1 hm
      cases he
    · exact hh hold

/-- What a step in order tells is what is due to the registrations that hold the cookies. -/
theorem forwarded_step (hh : ∀ {i t cookie}, Holds i t cookie tr → s.held (t, cookie) = some i)
    (hf : Forwarded tr) (htold : Told s os) (h : step s a = some (s', os)) : Forwarded (tr ++ os) := by
  intro t n fs i hs
  refine (hf t n fs i hs).append fun pre e post hos he hi => ?_
  subst he
  have hmem : .notified t n fs ∈ os := hos ▸ List.mem_append_right _ List.mem_cons_self
  refine htold t n fs hmem hs i (hh ?_)
  -- a step that tells something gives out no cookie
  rcases holds_append hi with hm | ⟨hold, -⟩
  · have hm' : .obtained i t n.cookie ∈ os := hos ▸ List.mem_append_left _ hm
    cases effect_of_step h with
    | registers | unregisters => simp at hmem
    | fails | stores | erases => cases hmem
    | tells t' a =>
      obtain ⟨n', -, he⟩ := List.mem_map.1 hm'
      cases he
  · exact hold

/-- The invariant of the runs in order. -/
structure ToldInv (tr : List Event) (s : HidlToAidlMiddleware κ) : Prop where
  numbered : Numbered s
  placed : Placed s
  holds : ∀ {i t cookie}, Holds i t cookie tr → s.held (t, cookie) = some i
  forwarded : Forwarded tr

theorem toldInv_init : ToldInv [] (lts κ).init := by
  refine ⟨numbered_init, fun hh => by simp [lts] at hh, ?_, fun _ _ _ _ _ => whenever_nil⟩
  rintro i t cookie ⟨pre, post, he, -⟩
  simp at he

theorem ToldInv.step (hi : ToldInv tr s) (hin : InOrder s a) (h : step s a = some (s', os)) :
    ToldInv (tr ++ os) s' := by
  obtain ⟨hp, htold⟩ := (inOrder_iff hi.placed hi.numbered h).1 hin
  exact ⟨hi.numbered.step h, hp, holds_step hi.numbered hi.holds h,
    forwarded_step hi.holds hi.forwarded htold h⟩

theorem toldInv_run (h : (lts κ).Run InOrder tr s) : ToldInv tr s :=
  h.inv toldInv_init fun hi hin ha => hi.step hin ha

/-- What `hidlOverAidl` tells is what the AIDL session tells, as the HIDL callbacks are told it. -/
theorem toHidl_act (session : BluetoothAudioSession κ)
    (a : StackAct { c : BluetoothAudioSession.Call κ // c.ofStack = true }) :
    (((SessionControl.aidl κ).act session a).2.map Notification.toHidl) =
      ((SessionControl.hidlOverAidl κ).act session a).2 := by
  cases a with
  | call c =>
    refine (List.map_congr_left fun n hm => ?_).trans (List.map_id _)
    have hres := (SessionControl.aidl κ).isResult_call c n hm
    cases n with
    | controlResult => cases hres
    | sessionChanged | audioConfigurationChanged | lowLatencyModeAllowed => rfl
  | report startResp status =>
    exact List.map_map ..

/-- In order, the ports that hold the cookies of a session are told what `hidlOverAidl` tells them. -/
theorem forwarded_hidlOverAidl (h : (lts κ).Run InOrder tr s)
    {a : StackAct { c : BluetoothAudioSession.Call κ // c.ofStack = true }} (hin : InOrder s (.stack t a))
    (hall : ∀ n ∈ (s.sessions.act t a).2, n.isStatus = true ∧ (s.held (t, n.cookie)).isSome = true) :
    ((s.sessions.act t a).2.flatMap (s.forwarded t)).map Prod.snd =
      ((SessionControl.hidlOverAidl κ).act (s.sessions.getSessionInstance t).1 a).2 := by
  have hi := toldInv_run h
  obtain ⟨-, htold⟩ := (inOrder_iff hi.placed hi.numbered (a := .stack t a) rfl).1 hin
  rw [← toHidl_act, List.map_flatMap]
  have hone : ∀ n ∈ (s.sessions.act t a).2, (s.forwarded t n).map Prod.snd = [n.toHidl] := by
    intro n hm
    obtain ⟨hs, hheld⟩ := hall n hm
    obtain ⟨i, hheld⟩ := Option.isSome_iff_exists.1 hheld
    rw [htold t n _ (List.mem_map_of_mem hm) hs i hheld]
    rfl
  rw [List.flatMap_congr hone, ← List.map_eq_flatMap]
  rfl

theorem table_store (hn : Numbered s) (h : step s (.store i) = some (s', os)) :
    s'.legacyCallbackTable ≠ s.legacyCallbackTable := by
  cases effect_of_step h with
  | stores i t cookie hf =>
    intro he
    have hentry : s.legacyCallbackTable (t, cookie) = some i := by
      rw [← he]
      exact Function.update_self ..
    have hnone := (hn.stored hentry).2
    rw [hf] at hnone
    cases hnone

/-- **The callbacks of the HIDL ports**: in every run whose steps are in order, each notification for a
cookie that a registration holds is forwarded once, to its callbacks; these are the steps that keep it
so.  A registration that fails never leaves the table as it was. -/
theorem callbacks_forwarded (h : (lts κ).Run InOrder tr s) :
    Forwarded tr ∧
    (∀ {a s' os}, step s a = some (s', os) → (InOrder s a ↔ Placed s' ∧ Told s os)) ∧
    ∀ {i t cookie s' os}, s.threads.find i = some (.registering t cookie) →
      step s (.store i) = some (s', os) →
      ((cookie = kObserversCookieUndefined → s'.legacyCallbackTable = s.legacyCallbackTable) ↔
        cookie ≠ kObserversCookieUndefined) := by
  have hi := toldInv_run h
  refine ⟨hi.forwarded, fun ha => inOrder_iff hi.placed hi.numbered ha, fun hf ha => ?_⟩
  have hchanged := table_store hi.numbered ha
  constructor
  · exact fun himp hc => hchanged (himp hc)
  · exact fun hc hc' => absurd hc' hc

/-- A result for the first cookie of the A2DP session. -/
def started : Notification := .controlResult 0x0100 true .success

/-- Two ports register, the stack reports, and the second port leaves. -/
def twoPorts : List (Act NoPayload) :=
  [.registerControlResultCback .a2dpSoftwareEncoding, .store 0,
    .registerControlResultCback .a2dpSoftwareEncoding, .store 1,
    .stack .a2dpSoftwareEncoding (.report true .success),
    .unregisterControlResultCback .a2dpSoftwareEncoding 0x0101, .erase 2]

theorem callbacks_forwarded_two : ∃ tr, ∃ s : HidlToAidlMiddleware NoPayload,
    (lts NoPayload).Run InOrder tr s ∧ Forwarded tr ∧
      .notified .a2dpSoftwareEncoding started [(0, started)] ∈ tr := by
  obtain ⟨tr, s, h, hm⟩ := Lts.exists_run (M := lts NoPayload) (C := InOrder)
    (P := fun tr _ => .notified .a2dpSoftwareEncoding started [(0, started)] ∈ tr) twoPorts (by decide)
  exact ⟨tr, s, h, (callbacks_forwarded h).1, hm⟩

/-- One port leaves and another registers, which gets its cookie and returns before the first one erases
the entry. -/
def erasedLate : List (Act NoPayload) :=
  [.registerControlResultCback .a2dpSoftwareEncoding, .store 0,
    .unregisterControlResultCback .a2dpSoftwareEncoding 0x0100,
    .registerControlResultCback .a2dpSoftwareEncoding, .store 2, .erase 1,
    .stack .a2dpSoftwareEncoding (.report true .success)]

/-- The stack reports while a registration is between its two steps. -/
def toldEarly : List (Act NoPayload) :=
  [.registerControlResultCback .a2dpSoftwareEncoding,
    .stack .a2dpSoftwareEncoding (.report true .success), .store 0]

/-- The ports take all cookies of a session, and one more registers. -/
def allTaken : List (Act NoPayload) :=
  ((List.range kObserversCookieSize).flatMap fun i =>
    [.registerControlResultCback .a2dpSoftwareEncoding, .store i]) ++
  [.registerControlResultCback .a2dpSoftwareEncoding]

/-- The notification is not forwarded: to a registration that has returned, as the erasing is late, or
before the registration returns; and a registration that fails changes the table. -/
theorem callbacks_lost :
    (∃ tr, ∃ s : HidlToAidlMiddleware NoPayload, (lts NoPayload).Reach tr s ∧
      s.threads = [] ∧ ¬ Forwarded tr) ∧
    (∃ tr, ∃ s : HidlToAidlMiddleware NoPayload, (lts NoPayload).Reach tr s ∧
      (∀ t cookie, .unregistered t cookie ∉ tr) ∧ ¬ Forwarded tr) ∧
    ∃ tr, ∃ s : HidlToAidlMiddleware NoPayload, (lts NoPayload).Reach tr s ∧
      s.threads.find kObserversCookieSize = some (.registering .a2dpSoftwareEncoding
        kObserversCookieUndefined) ∧
      ∃ s' os, step s (.store kObserversCookieSize) = some (s', os) ∧
        s'.legacyCallbackTable ≠ s.legacyCallbackTable := by
  have hlost : ∀ {tr pre i}, tr = pre ++ [.notified .a2dpSoftwareEncoding started []] →
      Holds i .a2dpSoftwareEncoding 0x0100 pre → ¬ Forwarded tr := by
    intro tr pre i he hi hf
    cases hf .a2dpSoftwareEncoding started [] i rfl pre _ [] he rfl hi
  refine ⟨?_, ?_, ?_⟩
  · obtain ⟨tr, s, h, hm, hs⟩ := Lts.exists_run (M := lts NoPayload) (C := fun _ _ => True)
      (P := fun tr s => tr = [.obtained 0 .a2dpSoftwareEncoding 0x0100,
        .unregistered .a2dpSoftwareEncoding 0x0100, .obtained 2 .a2dpSoftwareEncoding 0x0100] ++
        [.notified .a2dpSoftwareEncoding started []] ∧ s.threads = []) erasedLate (by decide)
    exact ⟨tr, s, h, hs, hlost hm ⟨[.obtained 0 .a2dpSoftwareEncoding 0x0100,
      .unregistered .a2dpSoftwareEncoding 0x0100], [], rfl, by simp⟩⟩
  · obtain ⟨tr, s, h, hm⟩ := Lts.exists_run (M := lts NoPayload) (C := fun _ _ => True)
      (P := fun tr _ => tr = [.obtained 0 .a2dpSoftwareEncoding 0x0100] ++
        [.notified .a2dpSoftwareEncoding started []]) toldEarly (by decide)
    exact ⟨tr, s, h, by simp [hm], hlost hm ⟨[], [], rfl, by simp⟩⟩
  · obtain ⟨tr, s, h, hf⟩ := Lts.exists_run (M := lts NoPayload) (C := fun _ _ => True)
      (P := fun _ s => s.threads.find kObserversCookieSize =
        some (.registering .a2dpSoftwareEncoding kObserversCookieUndefined)) allTaken (by decide)
    refine ⟨tr, s, h, hf, ?_⟩
    cases hs : step s (.store kObserversCookieSize) with
    | none => simp [step, hf] at hs
    | some r => exact ⟨r.1, r.2, rfl, table_store (numbered_run h) hs⟩

end HidlToAidlMiddleware

end TrebleDoze.Bluetooth
