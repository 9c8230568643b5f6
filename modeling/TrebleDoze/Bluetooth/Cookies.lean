import Mathlib.Logic.Function.Basic
import TrebleDoze.Bluetooth.AudioConfig
import TrebleDoze.Bluetooth.SessionControl
import TrebleDoze.Lib.Lts
import TrebleDoze.Lib.Pool

/-!
# The cookies of the observers

The sessions of all types, as `BluetoothAudioSessionInstance` keeps them, and the observers that register
with them through `BluetoothAudioSessionControl`.  The cookies of one session are handed out from a window
of `kObserversCookieSize` numbers of its own.

* `registerObserver_eq`: a registration is `firstFree` of that window;
* `CookieInv`, `cookieInv_run`: the cookies held are, session by session, distinct numbers of its window;
* `cookies_handed_out`: what follows for the cookies across all sessions.
-/

namespace TrebleDoze.Bluetooth

open TrebleDoze.Lib

variable {κ : Tag → Type}

/-! ### Session types in cookies -/

/-- The session type with the given number. -/
def SessionType.ofCode : ℕ → Option SessionType
  | 0 => some unknown
  | 1 => some a2dpSoftwareEncoding
  | 2 => some a2dpHardwareOffloadEncoding
  | 3 => some hearingAidSoftwareEncoding
  | 4 => some leAudioSoftwareEncoding
  | 5 => some leAudioSoftwareDecoding
  | 6 => some leAudioHardwareOffloadEncoding
  | 7 => some leAudioHardwareOffloadDecoding
  | 8 => some leAudioBroadcastSoftwareEncoding
  | 9 => some leAudioBroadcastHardwareOffloadEncoding
  | 10 => some a2dpSoftwareDecoding
  | 11 => some a2dpHardwareOffloadDecoding
  | 12 => some hfpSoftwareEncoding
  | 13 => some hfpSoftwareDecoding
  | 14 => some hfpHardwareOffload
  | _ => none

/-- `ObserversCookieGetSessionType`; the number that is cast need not be one of a session type. -/
def observersCookieGetSessionType (cookie : ℕ) : Option SessionType :=
  SessionType.ofCode (cookie >>> 8 &&& 0x00ff)

/-- The cookies that `RegisterStatusCback` hands out for a session type. -/
abbrev CookiesOf (t : SessionType) (cookies : List ℕ) : Prop :=
  Within (observersCookieGetInitValue t.code) kObserversCookieSize cookies

/-- `ObserversCookieGetSessionType` undoes `ObserversCookieGetInitValue` on the window. -/
theorem observersCookieGetSessionType_eq (t : SessionType) {cookie : ℕ}
    (hl : observersCookieGetInitValue t.code ≤ cookie)
    (hu : cookie < observersCookieGetInitValue t.code + kObserversCookieSize) :
    observersCookieGetSessionType cookie = some t := by
  obtain ⟨i, rfl⟩ := Nat.exists_eq_add_of_le hl
  have hi : i < kObserversCookieSize := by omega
  have hall : ∀ i < kObserversCookieSize,
      observersCookieGetSessionType (observersCookieGetInitValue t.code + i) = some t := by
    cases t <;> decide
  exact hall i hi

theorem observersCookieGetInitValue_pos {t : SessionType} (h : t ≠ .unknown) :
    kObserversCookieUndefined < observersCookieGetInitValue t.code := by
  cases t <;> first | exact absurd rfl h | decide

/-- `RegisterStatusCback` hands out the first cookie of the window that is free. -/
theorem registerObserver_eq {α : Type} (initValue : ℕ) (callbacks : α) (observers : List (ℕ × α)) :
    registerObserver initValue callbacks observers =
      match firstFree initValue kObserversCookieSize (observers.map Prod.fst) with
      | some cookie => (cookie, observers ++ [(cookie, callbacks)])
      | none => (kObserversCookieUndefined, observers) := by
  have he : (fun i => !((observers.map Prod.fst).any fun id => id == initValue + i)) =
      fun i => !(observers.any fun o => o.1 == initValue + i) := by
    funext i
    rw [List.any_map]
    rfl
  unfold registerObserver firstFree
  rw [he]
  split <;> rename_i h <;> rw [h] <;> rfl

/-! ### The sessions -/

/-- `sessions_map_`. -/
abbrev SessionsMap (κ : Tag → Type) := SessionType → Option (BluetoothAudioSession κ)

namespace SessionsMap

/-- `GetSessionInstance`: the session of the type, which is created when it is asked for first. -/
def getSessionInstance (t : SessionType) (m : SessionsMap κ) :
    BluetoothAudioSession κ × SessionsMap κ :=
  match m t with
  | some session => (session, m)
  | none => (.create t, Function.update m t (some (.create t)))

/-- `BluetoothAudioSessionControl::RegisterControlResultCback`. -/
def registerControlResultCback (t : SessionType) (cbacks : PortStatusCallbacks) (m : SessionsMap κ) :
    ℕ × SessionsMap κ :=
  let (session, m) := m.getSessionInstance t
  let r := session.registerStatusCback cbacks
  (r.1, Function.update m t (some r.2))

/-- `BluetoothAudioSessionControl::UnregisterControlResultCback`. -/
def unregisterControlResultCback (t : SessionType) (cookie : ℕ) (m : SessionsMap κ) : SessionsMap κ :=
  let (session, m) := m.getSessionInstance t
  Function.update m t (some (session.unregisterStatusCback cookie))

/-- A call of the stack's side on the session of a type. -/
def report (t : SessionType) (c : BluetoothAudioSession.Call κ) (m : SessionsMap κ) : SessionsMap κ :=
  let (session, m) := m.getSessionInstance t
  Function.update m t (some (session.call c).1)

/-- What the registrations show: the cookies returned, and those given back. -/
inductive Event where
  | registered (t : SessionType) (cookie : ℕ)
  | unregistered (t : SessionType) (cookie : ℕ)
  deriving DecidableEq, Repr

/-- What happens to the sessions. -/
inductive Act (κ : Tag → Type) where
  | registerControlResultCback (t : SessionType) (cbacks : PortStatusCallbacks)
  | unregisterControlResultCback (t : SessionType) (cookie : ℕ)
  | report (t : SessionType) (c : { c : BluetoothAudioSession.Call κ // c.ofStack = true })

/-- The session an action is about. -/
def Act.sessionType : Act κ → SessionType
  | registerControlResultCback t _ | unregisterControlResultCback t _ | report t _ => t

/-- **The sessions of all types**, and any order of calls on them. -/
def lts (κ : Tag → Type) : Lts (SessionsMap κ) (Act κ) Event where
  init := fun _ => none
  step m
    | .registerControlResultCback t cbacks =>
      let r := m.registerControlResultCback t cbacks
      some (r.2, [.registered t r.1])
    | .unregisterControlResultCback t cookie =>
      some (m.unregisterControlResultCback t cookie, [.unregistered t cookie])
    | .report t c => some (m.report t c.1, [])

/-! ### The cookies held -/

/-- The cookies held, with the session each is of, after one more event. -/
def Event.apply (held : List (SessionType × ℕ)) : Event → List (SessionType × ℕ)
  | registered t cookie =>
    if cookie = kObserversCookieUndefined then held else held ++ [(t, cookie)]
  | unregistered t cookie => held.filter fun p => p != (t, cookie)

/-- The cookies handed out and not yet unregistered. -/
def live (tr : List Event) : List (SessionType × ℕ) := tr.foldl Event.apply []

@[simp] theorem live_append (tr os : List Event) : live (tr ++ os) = os.foldl Event.apply (live tr) :=
  List.foldl_append

/-- The cookies of the observers of the session of a type. -/
def cookies (m : SessionsMap κ) (t : SessionType) : List ℕ :=
  (m t).elim [] fun session => session.observers.map Prod.fst

/-- The cookies held that are of the session of a type. -/
def heldOf (held : List (SessionType × ℕ)) (t : SessionType) : List ℕ :=
  (held.filter fun p => p.1 == t).map Prod.snd

/-- The cookies held are those of the observers, session by session numbers of its window. -/
structure CookieInv (held : List (SessionType × ℕ)) (m : SessionsMap κ) : Prop where
  sessionType : ∀ t session, m t = some session → session.sessionType = t
  within : ∀ t, CookiesOf t (m.cookies t)
  heldOf_eq : ∀ t, heldOf held t = m.cookies t
  known : ∀ p ∈ held, p.1 ≠ .unknown

section

variable {m : SessionsMap κ} {held held' : List (SessionType × ℕ)} {t t' : SessionType} {cookie : ℕ}

theorem mem_heldOf : cookie ∈ heldOf held t ↔ (t, cookie) ∈ held := by
  simp only [heldOf, List.mem_map, List.mem_filter, beq_iff_eq]
  constructor
  · rintro ⟨⟨t₁, c₁⟩, ⟨hp, rfl⟩, rfl⟩
    exact hp
  · intro hp
    exact ⟨(t, cookie), ⟨hp, rfl⟩, rfl⟩

theorem heldOf_registered (hc : cookie ≠ kObserversCookieUndefined) :
    heldOf (Event.apply held (.registered t' cookie)) t =
      if t = t' then heldOf held t ++ [cookie] else heldOf held t := by
  rw [Event.apply, if_neg hc, heldOf, List.filter_append, List.map_append]
  split_ifs with ht
  · subst ht
    simp [heldOf]
  · have hne : (t' == t) = false := beq_eq_false_iff_ne.2 (Ne.symm ht)
    simp [heldOf, hne]

theorem heldOf_unregistered :
    heldOf (Event.apply held (.unregistered t' cookie)) t =
      if t = t' then (heldOf held t).filter (· != cookie) else heldOf held t := by
  rw [Event.apply, heldOf, heldOf, List.filter_filter]
  split_ifs with ht
  · subst ht
    rw [List.filter_map, List.filter_filter]
    congr 1
    refine List.filter_congr fun p _ => ?_
    by_cases hp : p.1 = t
    · obtain ⟨t₁, c₁⟩ := p
      subst hp
      by_cases hc : c₁ = cookie <;> simp [bne, hc]
    · have hf : (p.1 == t) = false := beq_eq_false_iff_ne.2 hp
      rw [hf, Bool.false_and, Bool.and_false]
  · congr 1
    refine List.filter_congr fun p _ => ?_
    by_cases hp : p.1 = t
    · have hne : p ≠ (t', cookie) := fun he => ht (hp.symm.trans (congrArg Prod.fst he))
      simp [hp, hne]
    · simp [hp]

theorem cookies_update (session : BluetoothAudioSession κ) :
    cookies (Function.update m t (some session)) t' =
      if t' = t then session.observers.map Prod.fst else m.cookies t' := by
  unfold cookies
  split_ifs with h
  · subst h
    rw [Function.update_self]
    rfl
  · rw [Function.update_of_ne h]

/-- The session that `GetSessionInstance` returns has the observers of its type. -/
theorem getSessionInstance_cookies :
    (m.getSessionInstance t).1.observers.map Prod.fst = m.cookies t := by
  unfold getSessionInstance cookies
  cases m t <;> rfl

/-- What is stored after `GetSessionInstance` replaces the session that it may have created. -/
theorem update_getSessionInstance (session : BluetoothAudioSession κ) :
    Function.update (m.getSessionInstance t).2 t (some session) =
      Function.update m t (some session) := by
  unfold getSessionInstance
  cases m t with
  | some _ => rfl
  | none => exact Function.update_idem _ _ _

theorem CookieInv.getSessionInstance (h : CookieInv held m) :
    (m.getSessionInstance t).1.sessionType = t := by
  unfold SessionsMap.getSessionInstance
  cases hm : m t with
  | some session => exact h.sessionType t session hm
  | none => rfl

/-- A session of type `t` takes the place of the old one, with cookies of the same window. -/
theorem CookieInv.update (h : CookieInv held m) {session : BluetoothAudioSession κ}
    (hs : session.sessionType = t) (hw : CookiesOf t (session.observers.map Prod.fst))
    (hh : ∀ t', heldOf held' t' =
      if t' = t then session.observers.map Prod.fst else heldOf held t')
    (hk : ∀ p ∈ held', p.1 ≠ .unknown) :
    CookieInv held' (Function.update m t (some session)) := by
  refine ⟨fun t' session' hm => ?_, fun t' => ?_, fun t' => ?_, hk⟩
  · by_cases ht : t' = t
    · subst ht
      rw [Function.update_self] at hm
      exact Option.some.inj hm ▸ hs
    · rw [Function.update_of_ne ht] at hm
      exact h.sessionType t' session' hm
  · rw [cookies_update]
    split_ifs with ht
    · exact ht ▸ hw
    · exact h.within t'
  · rw [cookies_update, hh t']
    split_ifs
    · rfl
    · exact h.heldOf_eq t'

theorem CookieInv.registerControlResultCback (h : CookieInv held m) (ht : t ≠ .unknown)
    (cbacks : PortStatusCallbacks) :
    CookieInv (Event.apply held (.registered t (m.registerControlResultCback t cbacks).1))
      (m.registerControlResultCback t cbacks).2 := by
  dsimp only [SessionsMap.registerControlResultCback]
  rw [update_getSessionInstance]
  have hty := h.getSessionInstance (t := t)
  have hck := getSessionInstance_cookies (m := m) (t := t)
  generalize (m.getSessionInstance t).1 = session at hty hck
  have hw : CookiesOf t (session.observers.map Prod.fst) := hck ▸ h.within t
  unfold BluetoothAudioSession.registerStatusCback
  rw [registerObserver_eq, hty]
  cases hf : firstFree (observersCookieGetInitValue t.code) kObserversCookieSize
      (session.observers.map Prod.fst) with
  | none =>
    dsimp only
    refine h.update rfl hw (fun t' => ?_) ?_
    · rw [Event.apply, if_pos rfl]
      split_ifs with he
      · rw [he, h.heldOf_eq, hck]
      · rfl
    · rw [Event.apply, if_pos rfl]
      exact h.known
  | some cookie =>
    dsimp only
    have hlow := (firstFree_eq_some hf).2.1
    have hc : cookie ≠ kObserversCookieUndefined := by
      have := observersCookieGetInitValue_pos ht
      omega
    have happ : (session.observers ++ [(cookie, cbacks)]).map Prod.fst =
        session.observers.map Prod.fst ++ [cookie] := by simp
    refine h.update rfl ?_ (fun t' => ?_) ?_
    · rw [happ]
      exact hw.append_firstFree hf
    · rw [heldOf_registered hc, happ, h.heldOf_eq]
      split_ifs with he
      · rw [he, hck]
      · rfl
    · intro p hp
      rw [Event.apply, if_neg hc] at hp
      rcases List.mem_append.1 hp with hp | hp
      · exact h.known p hp
      · rw [List.mem_singleton] at hp
        exact hp ▸ ht

theorem CookieInv.unregisterControlResultCback (h : CookieInv held m) (cookie : ℕ) :
    CookieInv (Event.apply held (.unregistered t cookie)) (m.unregisterControlResultCback t cookie) := by
  dsimp only [SessionsMap.unregisterControlResultCback]
  rw [update_getSessionInstance]
  have hty := h.getSessionInstance (t := t)
  have hck := getSessionInstance_cookies (m := m) (t := t)
  generalize (m.getSessionInstance t).1 = session at hty hck
  have hw : CookiesOf t (session.observers.map Prod.fst) := hck ▸ h.within t
  have hfilter : (session.unregisterStatusCback cookie).observers.map Prod.fst =
      (session.observers.map Prod.fst).filter (· != cookie) := by
    rw [List.filter_map]
    rfl
  refine h.update hty ?_ (fun t' => ?_) ?_
  · rw [hfilter]
    exact hw.filter _
  · rw [heldOf_unregistered, hfilter, h.heldOf_eq]
    split_ifs with he
    · rw [he, hck]
    · rfl
  · intro p hp
    exact h.known p (List.mem_of_mem_filter hp)

theorem CookieInv.report (h : CookieInv held m) (c : BluetoothAudioSession.Call κ)
    (hc : c.ofStack = true) : CookieInv held (m.report t c) := by
  dsimp only [SessionsMap.report]
  rw [update_getSessionInstance]
  have hty := h.getSessionInstance (t := t)
  have hck := getSessionInstance_cookies (m := m) (t := t)
  generalize (m.getSessionInstance t).1 = session at hty hck
  have hobs : (session.call c).1.observers = session.observers :=
    (BluetoothAudioSession.call_tells c hc).1
  refine h.update ((BluetoothAudioSession.sessionType_call c).trans hty) ?_ (fun t' => ?_) h.known
  · rw [hobs, hck]
    exact h.within t
  · rw [hobs, hck, h.heldOf_eq]
    split_ifs with he
    · rw [he]
    · rfl

theorem cookieInv_run {tr : List Event}
    (h : (lts κ).Run (fun _ a => a.sessionType ≠ .unknown) tr m) : CookieInv (live tr) m := by
  refine h.inv (I := fun tr m => CookieInv (live tr) m) ?_ ?_
  · exact ⟨by simp [lts], fun t => .nil, fun t => rfl, by simp [live]⟩
  · intro tr m a m' os hi ha hs
    rw [live_append]
    cases a with
    | registerControlResultCback t cbacks =>
      obtain ⟨rfl, rfl⟩ := Prod.mk.inj (Option.some.inj hs)
      exact hi.registerControlResultCback ha cbacks
    | unregisterControlResultCback t cookie =>
      obtain ⟨rfl, rfl⟩ := Prod.mk.inj (Option.some.inj hs)
      exact hi.unregisterControlResultCback cookie
    | report t c =>
      obtain ⟨rfl, rfl⟩ := Prod.mk.inj (Option.some.inj hs)
      exact hi.report c.1 c.2

/-! ### Across the sessions -/

/-- Pairs with distinct second parts for each first part, which the second part determines. -/
theorem nodup_snd_of_heldOf (hf : ∀ p ∈ held, observersCookieGetSessionType p.2 = some p.1)
    (hn : ∀ t, (heldOf held t).Nodup) : (held.map Prod.snd).Nodup := by
  induction held with
  | nil => exact List.nodup_nil
  | cons p held ih =>
    have hcons : heldOf (p :: held) p.1 = p.2 :: heldOf held p.1 := by
      simp [heldOf]
    have hsub : ∀ t, List.Sublist (heldOf held t) (heldOf (p :: held) t) := fun t =>
      ((List.sublist_cons_self p held).filter _).map _
    rw [List.map_cons, List.nodup_cons]
    refine ⟨fun hm => ?_, ih (fun q hq => hf q (List.mem_cons_of_mem _ hq)) fun t => (hn t).sublist (hsub t)⟩
    obtain ⟨q, hq, he⟩ := List.mem_map.1 hm
    have hq1 : q.1 = p.1 := by
      have h1 := hf q (List.mem_cons_of_mem _ hq)
      have h2 := hf p List.mem_cons_self
      rw [he] at h1
      exact Option.some.inj (h1.symm.trans h2)
    have hnd := hn p.1
    rw [hcons, List.nodup_cons] at hnd
    refine hnd.1 (mem_heldOf.2 ?_)
    have : q = (p.1, p.2) := Prod.ext hq1 he
    exact this ▸ hq

/-- A registration fails exactly when the session has all its cookies in use, and then changes nothing. -/
theorem CookieInv.register_undefined (h : CookieInv held m) (ht : t ≠ .unknown)
    (cbacks : PortStatusCallbacks) :
    ((m.registerControlResultCback t cbacks).1 = kObserversCookieUndefined ↔
        (heldOf held t).length = kObserversCookieSize) ∧
      ((m.registerControlResultCback t cbacks).1 = kObserversCookieUndefined →
        (m.registerControlResultCback t cbacks).2 = m) := by
  dsimp only [SessionsMap.registerControlResultCback]
  rw [update_getSessionInstance, h.heldOf_eq, ← firstFree_eq_none_iff (h.within t)]
  have hty := h.getSessionInstance (t := t)
  have hck := getSessionInstance_cookies (m := m) (t := t)
  unfold BluetoothAudioSession.registerStatusCback
  rw [registerObserver_eq, hty, hck]
  cases hf : firstFree (observersCookieGetInitValue t.code) kObserversCookieSize (m.cookies t) with
  | some cookie =>
    have hlow := (firstFree_eq_some hf).2.1
    have hc : cookie ≠ kObserversCookieUndefined := by
      have := observersCookieGetInitValue_pos ht
      omega
    exact ⟨iff_of_false hc (by simp), fun he => absurd he hc⟩
  | none =>
    refine ⟨iff_of_true rfl rfl, fun _ => ?_⟩
    -- a session without observers has all its cookies left, so this one was in the map
    have hlen := (firstFree_eq_none_iff (h.within t)).1 hf
    cases hm : m t with
    | none =>
      rw [cookies, hm] at hlen
      cases hlen
    | some session =>
      obtain rfl := h.sessionType t session hm
      unfold SessionsMap.getSessionInstance
      simp only [hm]
      exact Function.update_eq_self_iff.2 hm.symm

end

end SessionsMap

/-- **The cookies handed out and not yet unregistered** are distinct across all sessions, none is
undefined, and each tells the session it is of; a registration fails exactly when that session has 16
observers, and then nothing changes. -/
theorem cookies_handed_out {tr : List SessionsMap.Event} {m : SessionsMap κ}
    (h : (SessionsMap.lts κ).Run (fun _ a => a.sessionType ≠ .unknown) tr m) :
    ((SessionsMap.live tr).map Prod.snd).Nodup ∧
      (∀ p ∈ SessionsMap.live tr, p.2 ≠ kObserversCookieUndefined ∧
        observersCookieGetSessionType p.2 = some p.1) ∧
      ∀ t cbacks, t ≠ .unknown →
        ((m.registerControlResultCback t cbacks).1 = kObserversCookieUndefined ↔
            ((SessionsMap.live tr).filter fun p => p.1 == t).length = 16) ∧
          ((m.registerControlResultCback t cbacks).1 = kObserversCookieUndefined →
            (m.registerControlResultCback t cbacks).2 = m) := by
  have hi := SessionsMap.cookieInv_run h
  have hmem : ∀ p ∈ SessionsMap.live tr, p.2 ∈ m.cookies p.1 := fun p hp =>
    hi.heldOf_eq p.1 ▸ SessionsMap.mem_heldOf.2 hp
  have htype : ∀ p ∈ SessionsMap.live tr, observersCookieGetSessionType p.2 = some p.1 := fun p hp =>
    observersCookieGetSessionType_eq p.1 ((hi.within p.1).lower p.2 (hmem p hp))
      ((hi.within p.1).upper p.2 (hmem p hp))
  refine ⟨SessionsMap.nodup_snd_of_heldOf htype fun t => ?_, fun p hp => ⟨?_, htype p hp⟩, ?_⟩
  · rw [hi.heldOf_eq]
    exact (hi.within t).nodup
  · have hpos := observersCookieGetInitValue_pos (hi.known p hp)
    have hlow := (hi.within p.1).lower p.2 (hmem p hp)
    omega
  · intro t cbacks ht
    have hr := hi.register_undefined ht cbacks
    rwa [SessionsMap.heldOf, List.length_map] at hr

/-- Two sessions with an observer each; the first one leaves and another takes its cookie. -/
def reusedCookie : List (SessionsMap.Act NoPayload) :=
  [.registerControlResultCback .a2dpSoftwareEncoding ⟨false, false⟩,
    .registerControlResultCback .leAudioSoftwareEncoding ⟨false, false⟩,
    .unregisterControlResultCback .a2dpSoftwareEncoding 0x0100,
    .registerControlResultCback .a2dpSoftwareEncoding ⟨true, false⟩]

theorem cookies_handed_out_reused : ∃ tr, ∃ m : SessionsMap NoPayload,
    (SessionsMap.lts NoPayload).Run (fun _ a => a.sessionType ≠ .unknown) tr m ∧
      SessionsMap.live tr = [(.leAudioSoftwareEncoding, 0x0400), (.a2dpSoftwareEncoding, 0x0100)] ∧
      (m.registerControlResultCback .a2dpSoftwareEncoding ⟨false, false⟩).1 ≠
        kObserversCookieUndefined := by
  obtain ⟨tr, m, h, hl⟩ := Lts.exists_run (M := SessionsMap.lts NoPayload)
    (C := fun _ a => a.sessionType ≠ .unknown) (P := fun tr _ =>
      SessionsMap.live tr = [(.leAudioSoftwareEncoding, 0x0400), (.a2dpSoftwareEncoding, 0x0100)])
    reusedCookie (by decide)
  refine ⟨tr, m, h, hl, fun he => ?_⟩
  have hfull := ((cookies_handed_out h).2.2 .a2dpSoftwareEncoding ⟨false, false⟩ (by decide)).1.1 he
  rw [hl] at hfull
  exact absurd hfull (by decide)

end TrebleDoze.Bluetooth
