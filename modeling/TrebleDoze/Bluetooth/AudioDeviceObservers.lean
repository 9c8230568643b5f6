import TrebleDoze.Bluetooth.AudioDevice

/-!
# The observers of the Bluetooth audio device

What the sessions know of the streams of a device, in every order of opens, closes, calls and acts of the
stack: the observers of a session are the streams registered with it, and the callbacks that a session
has yet to invoke are for streams that are there.

* `registrations_put`, `registrations_drop`: the registrations when a stream changes and when it goes;
* `Registry`, `registry_run`: the invariant, with one lemma for each way in which the table of streams and
  the sessions change together;
* `observers_are_streams`: the main result.
-/

namespace TrebleDoze.Bluetooth

open TrebleDoze.Lib

variable {κ : Tag → Type}

/-! ### The sessions -/

namespace SessionsMap

variable {m : SessionsMap κ} {held held' : List (SessionType × ℕ)} {t : SessionType}

/-- `GetSessionInstance` may create a session, which has no observers. -/
theorem CookieInv.getSessionInstance_snd (h : CookieInv held m) :
    CookieInv held (m.getSessionInstance t).2 := by
  unfold SessionsMap.getSessionInstance
  cases hm : m t with
  | some session => exact h
  | none =>
    have hck : m.cookies t = [] := by simp [cookies, hm]
    refine h.update rfl .nil (fun t' => ?_) h.known
    split_ifs with ht
    · rw [ht, h.heldOf_eq, hck]
      rfl
    · rfl

theorem CookieInv.act (h : CookieInv held m)
    (a : StackAct { c : BluetoothAudioSession.Call κ // c.ofStack = true }) :
    CookieInv held (m.act t a).1 := by
  dsimp only [SessionsMap.act]
  rw [update_getSessionInstance]
  have hty := h.getSessionInstance (t := t)
  have hck := getSessionInstance_cookies (m := m) (t := t)
  generalize (m.getSessionInstance t).1 = session at hty hck
  have hobs : ((SessionControl.aidl κ).act session a).1.observers = session.observers := by
    cases a with
    | call c => exact (BluetoothAudioSession.call_tells c.1 c.2).1
    | report => rfl
  have htype : ((SessionControl.aidl κ).act session a).1.sessionType = session.sessionType := by
    cases a with
    | call c => exact BluetoothAudioSession.sessionType_call c.1
    | report => rfl
  refine h.update (htype.trans hty) ?_ (fun t' => ?_) h.known
  · rw [hobs, hck]
    exact h.within t
  · rw [hobs, hck, h.heldOf_eq]
    split_ifs with he
    · rw [he]
    · rfl

theorem cookie_mem_of_act {a : StackAct { c : BluetoothAudioSession.Call κ // c.ofStack = true }}
    {n : Notification} (hn : n ∈ (m.act t a).2) : n.cookie ∈ m.cookies t := by
  rw [← getSessionInstance_cookies]
  dsimp only [SessionsMap.act] at hn
  generalize (m.getSessionInstance t).1 = session at hn ⊢
  cases a with
  | call c =>
    obtain ⟨f, hf, hall⟩ := (BluetoothAudioSession.call_tells c.1 c.2).2
    have hn : n ∈ (session.call c.1).2 := hn
    rw [hf] at hn
    obtain ⟨o, ho, hfo⟩ := List.mem_filterMap.1 hn
    exact List.mem_map.2 ⟨o, ho, (hall o n hfo).1.symm⟩
  | report startResp status =>
    obtain ⟨o, ho, rfl⟩ := List.mem_map.1 hn
    exact List.mem_map.2 ⟨o, ho, rfl⟩

theorem perm_heldOf (h : held.Perm held') (t : SessionType) : (heldOf held t).Perm (heldOf held' t) :=
  (h.filter _).map _

theorem CookieInv.ne_undefined (h : CookieInv held m) {cookie : ℕ} (hm : (t, cookie) ∈ held) :
    cookie ≠ kObserversCookieUndefined := by
  have hpos : kObserversCookieUndefined < observersCookieGetInitValue t.code :=
    observersCookieGetInitValue_pos (h.known _ hm)
  have hlow := (h.within t).lower cookie (h.heldOf_eq t ▸ mem_heldOf.2 hm)
  omega

theorem CookieInv.nodup_snd (h : CookieInv held m) : (held.map Prod.snd).Nodup := by
  refine nodup_snd_of_heldOf (fun p hp => ?_) fun t => ?_
  · have hmem : p.2 ∈ m.cookies p.1 := h.heldOf_eq p.1 ▸ mem_heldOf.2 hp
    exact observersCookieGetSessionType_eq p.1 ((h.within p.1).lower p.2 hmem) ((h.within p.1).upper p.2 hmem)
  · rw [h.heldOf_eq]
    exact (h.within t).nodup

end SessionsMap

/-! ### The registrations of the streams -/

section

variable {streams : Threads StreamObject} {i : ℕ} {x y : StreamObject} {p : SessionType × ℕ}

theorem registrations_cons (i : ℕ) (x : StreamObject) (streams : Threads StreamObject) :
    registrations ((i, x) :: streams) = x.registration.toList ++ registrations streams := by
  unfold registrations
  cases h : x.registration with
  | none => rw [List.filterMap_cons_none (by simpa using h)]; rfl
  | some p => rw [List.filterMap_cons_some (by simpa using h)]; rfl

theorem registrations_drop (h : streams.find i = some x) :
    (registrations streams).Perm (x.registration.toList ++ registrations (streams.drop i)) := by
  rw [← registrations_cons i]
  exact (Threads.perm_of_find h).filterMap _

theorem registrations_put (i : ℕ) (y : StreamObject) (streams : Threads StreamObject) :
    registrations (streams.put i y) = y.registration.toList ++ registrations (streams.drop i) :=
  registrations_cons i y _

theorem mem_registrations (hn : (streams.map Prod.fst).Nodup) :
    p ∈ registrations streams ↔ ∃ i x, streams.find i = some x ∧ x.registration = some p := by
  unfold registrations
  rw [List.mem_filterMap]
  constructor
  · rintro ⟨⟨i, x⟩, hm, hr⟩
    exact ⟨i, x, Threads.find_of_mem hn hm, hr⟩
  · rintro ⟨i, x, hf, hr⟩
    exact ⟨(i, x), Threads.mem_of_find hf, hr⟩

end

/-! ### The invariant -/

namespace BluetoothAudioDevice

/-- The table of streams and the sessions fit: an observer is a registered stream, its callbacks are those
of the stream, and what is in flight is for one. -/
structure Registry (s : BluetoothAudioDevice κ) : Prop where
  nodup : (s.streams.map Prod.fst).Nodup
  fresh : ∀ {i x}, s.streams.find i = some x → i < s.allocated
  known : ∀ {i x}, s.streams.find i = some x → x.sessionType ≠ .unknown
  cookies : ∃ held, SessionsMap.CookieInv held s.sessions ∧ held.Perm (registrations s.streams)
  callbacks : ∀ {i x t cookie}, s.streams.find i = some x → x.registration = some (t, cookie) →
    s.callbacks t cookie = some i
  inFlight : ∀ {t n}, n ∈ s.inFlight t → (t, n.cookie) ∈ registrations s.streams

section

variable {s s' : BluetoothAudioDevice κ} {i : ℕ} {x y : StreamObject} {t : SessionType} {cookie : ℕ}

theorem Registry.init : Registry (lts κ).init where
  nodup := List.nodup_nil
  fresh h := by cases h
  known h := by cases h
  cookies := ⟨[], ⟨by simp [lts], fun t => .nil, fun t => rfl, by simp⟩, .nil⟩
  callbacks h := by cases h
  inFlight h := by cases h

/-- The invariant looks at the table of streams and the sessions alone. -/
theorem Registry.frame (h : Registry s) (opened : List ℕ) (adevLoop : Option AdevLoop) :
    Registry { s with openedStreamOuts := opened, adevLoop := adevLoop } :=
  ⟨h.nodup, h.fresh, h.known, h.cookies, h.callbacks, h.inFlight⟩

theorem Registry.sessions (h : Registry s) {m : SessionsMap κ}
    (hm : ∀ {held}, SessionsMap.CookieInv held s.sessions → SessionsMap.CookieInv held m) :
    Registry { s with sessions := m } := by
  obtain ⟨held, hi, hp⟩ := h.cookies
  exact ⟨h.nodup, h.fresh, h.known, ⟨held, hm hi, hp⟩, h.callbacks, h.inFlight⟩

theorem Registry.setStream (h : Registry s) (hf : s.streams.find i = some x)
    (hr : y.registration = x.registration) (ht : y.sessionType = x.sessionType) :
    Registry (s.setStream i y) := by
  have hperm : (registrations (s.streams.put i y)).Perm (registrations s.streams) := by
    rw [registrations_put, hr]
    exact (registrations_drop hf).symm
  obtain ⟨held, hi, hp⟩ := h.cookies
  refine ⟨Threads.nodup_put h.nodup, fun hj => ?_, fun hj => ?_, ⟨held, hi, hp.trans hperm.symm⟩,
    fun hj hreg => ?_, fun hn => hperm.mem_iff.2 (h.inFlight hn)⟩
  · rw [BluetoothAudioDevice.setStream, Threads.find_put] at hj
    split_ifs at hj with he
    · subst he
      exact h.fresh hf
    · exact h.fresh hj
  · rw [BluetoothAudioDevice.setStream, Threads.find_put] at hj
    split_ifs at hj with he
    · obtain rfl := Option.some.inj hj
      exact ht ▸ h.known hf
    · exact h.known hj
  · rw [BluetoothAudioDevice.setStream, Threads.find_put] at hj
    split_ifs at hj with he
    · obtain rfl := Option.some.inj hj
      subst he
      exact h.callbacks hf (hr ▸ hreg)
    · exact h.callbacks hj hreg

theorem Registry.create (h : Registry s) (ht : t ≠ .unknown) (stream : AudioStream) :
    Registry { s.setStream s.allocated ⟨t, .settingUp, stream, none⟩ with allocated := s.allocated + 1 } := by
  have hnone : s.streams.find s.allocated = none := by
    cases hf : s.streams.find s.allocated with
    | none => rfl
    | some x => exact absurd (h.fresh hf) (Nat.lt_irrefl _)
  have hregs : registrations (s.streams.put s.allocated ⟨t, .settingUp, stream, none⟩) =
      registrations s.streams := by
    rw [registrations_put, Threads.drop_of_find hnone]
    rfl
  obtain ⟨held, hi, hp⟩ := h.cookies
  refine ⟨Threads.nodup_put h.nodup, fun hj => ?_, fun hj => ?_, ⟨held, hi, hp.trans (.of_eq hregs.symm)⟩,
    fun hj hreg => ?_, fun hn => hregs ▸ h.inFlight hn⟩
  · dsimp only [BluetoothAudioDevice.setStream] at hj ⊢
    rw [Threads.find_put] at hj
    split_ifs at hj with he
    · omega
    · have := h.fresh hj
      omega
  · dsimp only [BluetoothAudioDevice.setStream] at hj
    rw [Threads.find_put] at hj
    split_ifs at hj with he
    · obtain rfl := Option.some.inj hj
      exact ht
    · exact h.known hj
  · dsimp only [BluetoothAudioDevice.setStream] at hj
    rw [Threads.find_put] at hj
    split_ifs at hj with he
    · obtain rfl := Option.some.inj hj
      cases hreg
    · exact h.callbacks hj hreg

theorem Registry.drop (h : Registry s) (hf : s.streams.find i = some x) (hr : x.registration = none) :
    Registry { s with streams := s.streams.drop i } := by
  have hperm : (registrations (s.streams.drop i)).Perm (registrations s.streams) := by
    have hd := registrations_drop hf
    rw [hr] at hd
    exact hd.symm
  obtain ⟨held, hi, hp⟩ := h.cookies
  refine ⟨Threads.nodup_drop h.nodup, fun hj => ?_, fun hj => ?_, ⟨held, hi, hp.trans hperm.symm⟩,
    fun hj hreg => ?_, fun hn => hperm.mem_iff.2 (h.inFlight hn)⟩
  · rw [Threads.find_drop h.nodup] at hj
    split_ifs at hj
    exact h.fresh hj
  · rw [Threads.find_drop h.nodup] at hj
    split_ifs at hj
    exact h.known hj
  · rw [Threads.find_drop h.nodup] at hj
    split_ifs at hj
    exact h.callbacks hj hreg

/-- The streams registered with the session of a type, by their cookies. -/
def registered (s : BluetoothAudioDevice κ) (t : SessionType) : List ℕ :=
  SessionsMap.heldOf (registrations s.streams) t

theorem Registry.register (h : Registry s) (hf : s.streams.find i = some x) {os : List Event}
    (hs : s.register i x = some (s', os)) : Registry s' := by
  unfold BluetoothAudioDevice.register at hs
  split at hs
  · rename_i hstage
    have hnone : x.registration = none := by simp [StreamObject.registration, hstage]
    obtain ⟨held, hi, hp⟩ := h.cookies
    have ht := h.known hf
    have hi' := hi.registerControlResultCback ht ⟨false, false⟩
    dsimp only at hs
    split_ifs at hs with hfl hc
    · -- all cookies of the session are taken
      obtain ⟨rfl, -⟩ := Prod.mk.inj (Option.some.inj hs)
      refine Registry.drop (h.sessions fun {held'} hh => ?_) hf hnone
      have := hh.registerControlResultCback ht ⟨false, false⟩
      rwa [SessionsMap.Event.apply, if_pos hc] at this
    · obtain ⟨rfl, -⟩ := Prod.mk.inj (Option.some.inj hs)
      generalize s.sessions.registerControlResultCback x.sessionType ⟨false, false⟩ = r at hi' hc ⊢
      rw [SessionsMap.Event.apply, if_neg hc] at hi'
      -- the cookie is new: no stream has it
      have hnew : ∀ {j y}, s.streams.find j = some y → y.registration ≠ some (x.sessionType, r.1) := by
        intro j y hj hreg
        have hm : (x.sessionType, r.1) ∈ held :=
          hp.mem_iff.2 ((mem_registrations h.nodup).2 ⟨j, y, hj, hreg⟩)
        have hnd := hi'.nodup_snd
        rw [List.map_append, List.nodup_append] at hnd
        exact hnd.2.2 r.1 (List.mem_map_of_mem (f := Prod.snd) hm) r.1 (by simp) rfl
      have hperm : (registrations (s.streams.put i { x with stage := .registered r.1 })).Perm
          ((x.sessionType, r.1) :: registrations s.streams) := by
        rw [registrations_put]
        have hd := registrations_drop hf
        rw [hnone] at hd
        exact (hd.symm.cons _)
      refine ⟨Threads.nodup_put h.nodup, fun hj => ?_, fun hj => ?_, ⟨_, hi', ?_⟩, fun hj hreg => ?_,
        fun hn => hperm.mem_iff.2 (List.mem_cons_of_mem _ (h.inFlight hn))⟩
      · dsimp only [BluetoothAudioDevice.setStream] at hj
        rw [Threads.find_put] at hj
        split_ifs at hj with he
        · subst he
          exact h.fresh hf
        · exact h.fresh hj
      · dsimp only [BluetoothAudioDevice.setStream] at hj
        rw [Threads.find_put] at hj
        split_ifs at hj with he
        · obtain rfl := Option.some.inj hj
          exact ht
        · exact h.known hj
      · exact ((hp.append_right _).trans List.perm_append_comm).trans hperm.symm
      · dsimp only [BluetoothAudioDevice.setStream] at hj ⊢
        rw [Threads.find_put] at hj
        split_ifs at hj with he
        · obtain rfl := Option.some.inj hj
          obtain ⟨rfl, rfl⟩ := Prod.mk.inj (Option.some.inj hreg)
          rw [Function.update_self, Function.update_self, he]
        · rename_i t' cookie'
          have hne : ¬ (t' = x.sessionType ∧ cookie' = r.1) := by
            rintro ⟨rfl, rfl⟩
            exact hnew hj hreg
          by_cases h1 : t' = x.sessionType
          · subst h1
            rw [Function.update_self, Function.update_of_ne fun h2 => hne ⟨rfl, h2⟩]
            exact h.callbacks hj hreg
          · rw [Function.update_of_ne h1]
            exact h.callbacks hj hreg
  · cases hs

/-- A stream that is closed is torn down, when its session has told its observers everything. -/
theorem Registry.tearDown (h : Registry s) (hf : s.streams.find i = some x) {os : List Event}
    (hs : s.tearDown i x = some (s', os)) : Registry s' := by
  unfold BluetoothAudioDevice.tearDown at hs
  by_cases hc : x.stage = .closing ∧ s.inFlight x.sessionType = []
  swap
  · rw [if_neg hc] at hs
    cases hs
  rw [if_pos hc] at hs
  obtain ⟨rfl, -⟩ := Prod.mk.inj (Option.some.inj hs)
  obtain ⟨hstage, hfl⟩ := hc
  have hreg : x.registration = some (x.sessionType, x.stream.port.cookie) := by
    simp [StreamObject.registration, hstage]
  obtain ⟨held, hi, hp⟩ := h.cookies
  have hd := registrations_drop hf
  rw [hreg] at hd
  have hmem : (x.sessionType, x.stream.port.cookie) ∈ held :=
    hp.mem_iff.2 (hd.mem_iff.2 List.mem_cons_self)
  have hu : x.stream.port.inUse = true := by
    simpa [BluetoothAudioPort.inUse] using hi.ne_undefined hmem
  -- what is left is held, without the cookie of this stream
  have hrest : (held.filter fun p => p != (x.sessionType, x.stream.port.cookie)).Perm
      (registrations (s.streams.drop i)) := by
    have hnd : held.Nodup := List.Nodup.of_map _ hi.nodup_snd
    have hcons := hp.trans hd
    have hnot : (x.sessionType, x.stream.port.cookie) ∉ registrations (s.streams.drop i) :=
      (List.nodup_cons.1 (hcons.nodup_iff.1 hnd)).1
    refine (hcons.filter _).trans ?_
    simp only [Option.toList_some, List.cons_append, List.nil_append, List.filter_cons, bne_self_eq_false,
      Bool.false_eq_true, if_false]
    rw [List.filter_eq_self.2 fun p hpm => by
      have : p ≠ (x.sessionType, x.stream.port.cookie) := fun he => hnot (he ▸ hpm)
      simpa using this]
  refine ⟨Threads.nodup_drop h.nodup, fun hj => ?_, fun hj => ?_,
    ⟨_, ?_, hrest⟩,
    fun hj hreg => ?_, fun {t n} hn => ?_⟩
  · rw [Threads.find_drop h.nodup] at hj
    split_ifs at hj
    exact h.fresh hj
  · rw [Threads.find_drop h.nodup] at hj
    split_ifs at hj
    exact h.known hj
  · rw [hu]
    exact hi.unregisterControlResultCback x.stream.port.cookie
  · rw [Threads.find_drop h.nodup] at hj
    split_ifs at hj
    exact h.callbacks hj hreg
  · have hm := h.inFlight hn
    rcases List.mem_cons.1 (hd.mem_iff.1 hm) with he | hm
    · obtain ⟨rfl, -⟩ := Prod.mk.inj he
      rw [hfl] at hn
      cases hn
    · exact hm

/-! ### The steps -/

theorem registration_of_same {stream : AudioStream} (h : StreamFn.Same x.stream stream)
    (call : Option StreamCall) : { x with stream := stream, call := call }.registration = x.registration := by
  unfold StreamObject.registration
  rw [h.cookie]

/-- The member `cookie_` takes over from what the registration returned. -/
theorem registration_of_cookie {stage : Stage} {stream : AudioStream} (hx : x.stage = .registered cookie)
    (hc : stream.port.cookie = cookie) (hs : stage = .setUp ∨ stage = .opened ∨ stage = .closing) :
    { x with stage := stage, stream := stream }.registration = x.registration := by
  rcases hs with rfl | rfl | rfl <;> simp [StreamObject.registration, hx, hc]

theorem Registry.beginCall (h : Registry s) (hf : s.streams.find i = some x) (fn : StreamFn)
    (byDevice : Bool) : Registry (s.beginCall i x fn byDevice) := by
  unfold BluetoothAudioDevice.beginCall
  split
  · exact h.setStream hf (registration_of_same StreamFn.same_enter _) rfl
  · exact h.setStream hf (registration_of_same StreamFn.same_runIdle _) rfl

theorem Registry.endCall (h : Registry s) (hf : s.streams.find i = some x) (c : StreamCall) :
    Registry (s.endCall i x c) :=
  (h.setStream hf (registration_of_same StreamFn.same_leave _) rfl).frame _ _

theorem Registry.stack (h : Registry s)
    (a : StackAct { c : BluetoothAudioSession.Call κ // c.ofStack = true }) :
    Registry { s with sessions := (s.sessions.act t a).1
                      inFlight := Function.update s.inFlight t (s.sessions.act t a).2 } := by
  have h' := h.sessions (m := (s.sessions.act t a).1) fun hh => hh.act a
  refine ⟨h'.nodup, h'.fresh, h'.known, h'.cookies, h'.callbacks, fun {t' n} hn => ?_⟩
  dsimp only at hn ⊢
  by_cases ht : t' = t
  · subst ht
    rw [Function.update_self] at hn
    obtain ⟨held, hi, hp⟩ := h.cookies
    refine hp.mem_iff.1 (SessionsMap.mem_heldOf.1 ?_)
    rw [hi.heldOf_eq]
    exact SessionsMap.cookie_mem_of_act hn
  · rw [Function.update_of_ne ht] at hn
    exact h.inFlight hn

theorem Registry.tail (h : Registry s) {n : Notification} {rest : List Notification}
    (hfl : s.inFlight t = n :: rest) :
    Registry { s with inFlight := Function.update s.inFlight t rest } := by
  refine ⟨h.nodup, h.fresh, h.known, h.cookies, h.callbacks, fun {t' m} hm => ?_⟩
  dsimp only at hm ⊢
  by_cases ht : t' = t
  · subst ht
    rw [Function.update_self] at hm
    exact h.inFlight (hfl ▸ List.mem_cons_of_mem _ hm)
  · rw [Function.update_of_ne ht] at hm
    exact h.inFlight hm

theorem Registry.find_of_inFlight (h : Registry s) {n : Notification} (hn : n ∈ s.inFlight t) :
    ∃ i x, s.callbacks t n.cookie = some i ∧ s.streams.find i = some x ∧
      x.registration = some (t, n.cookie) := by
  obtain ⟨i, x, hf, hreg⟩ := (mem_registrations h.nodup).1 (h.inFlight hn)
  exact ⟨i, x, h.callbacks hf hreg, hf, hreg⟩

theorem Registry.touch (h : Registry s) {m : SessionsMap κ}
    (hm : m = s.sessions ∨ ∃ t, m = (s.sessions.getSessionInstance t).2) :
    Registry { s with sessions := m } := by
  rcases hm with rfl | ⟨t, rfl⟩
  · exact h.sessions id
  · exact h.sessions fun hh => hh.getSessionInstance_snd

theorem Registry.step (h : Registry s) {a : Act κ} {os : List Event} (hs : s.step a = some (s', os)) :
    Registry s' := by
  cases effect_of_step hs with
  | refuses direction devices sessions hm => exact h.touch hm
  | creates direction devices t ht =>
    exact (h.touch (.inr ⟨t, rfl⟩)).create (AudioDevices.sessionType_ne ht) _
  | registers i x s' os hf hs => exact h.register hf hs
  | loads i x config loaded cookie stage stream os hf hx hc hd hstage hos =>
    refine h.setStream hf (registration_of_cookie hx hc ?_) rfl
    rcases hstage with ⟨hst, -⟩ | ⟨hst, -⟩
    · exact .inl hst
    · exact .inr hst
  | publishes i x hf hx hl =>
    have hreg : { x with stage := .opened }.registration = x.registration := by
      simp [StreamObject.registration, hx]
    exact (h.setStream hf hreg rfl).frame _ _
  | removes i x hf hx hl =>
    have hopened : x.stage = .opened := by
      simp only [StreamObject.listed, Bool.and_eq_true, beq_iff_eq] at hx
      exact hx.1
    have hreg : { x with stage := .closing }.registration = x.registration := by
      simp [StreamObject.registration, hopened]
    exact (h.setStream hf hreg rfl).frame _ _
  | closes i x hf hx hd =>
    have hreg : { x with stage := .closing }.registration = x.registration := by
      simp [StreamObject.registration, hx]
    exact h.setStream hf hreg rfl
  | tearsDown i x s' os hf hs => exact h.tearDown hf hs
  | declines params retval => exact h
  | locks params hl => exact h.frame _ _
  | visits audioCfg params i rest x hl hf hc => exact (h.beginCall hf _ _).frame _ _
  | misses audioCfg params i rest hl hf => exact h.frame _ _
  | unlocks params hl => exact h.frame _ _
  | calls i fn x hf hx hc => exact h.beginCall hf _ _
  | asks i isOk x c hf hc => exact (h.touch (.inr ⟨x.sessionType, rfl⟩)).setStream hf rfl rfl
  | ends a i x c sessions hm hf hc => exact (h.touch hm).endCall hf c
  | acts t a => exact h.stack a
  | passes t n rest hn hc => exact h.tail hn
  | delivers t n rest i x hn hf =>
    exact (h.tail hn).setStream hf (registration_of_same (StreamFn.same_setPort (by simp)) _) rfl
  | dangles t n rest i hn hc hf => exact h.tail hn

theorem registry_run {C : BluetoothAudioDevice κ → Act κ → Prop} {tr : List Event}
    (h : (lts κ).Run C tr s) : Registry s :=
  h.inv_state .init fun hi _ hs => hi.step hs

/-- The registration of a stream fails exactly when its session has given away all its cookies. -/
theorem Registry.register_refused (h : Registry s) (hf : s.streams.find i = some x)
    (hstage : x.stage = .settingUp) (hfl : s.inFlight x.sessionType = []) :
    (s.step (.register i)).map Prod.snd = some [.refused] ↔
      (s.registered x.sessionType).length = kObserversCookieSize := by
  obtain ⟨held, hi, hp⟩ := h.cookies
  rw [registered, ← (SessionsMap.perm_heldOf hp _).length_eq,
    ← (hi.register_undefined (h.known hf) ⟨false, false⟩).1]
  have hstep : s.step (.register i) = s.register i x := by
    dsimp only [BluetoothAudioDevice.step]
    rw [hf]
    rfl
  rw [hstep]
  unfold BluetoothAudioDevice.register
  simp only [hstage, hfl, ne_eq, not_true_eq_false, if_false]
  split_ifs with hc
  · exact iff_of_true rfl hc
  · exact iff_of_false (by simp) hc

end

end BluetoothAudioDevice

/-- **The observers of the sessions are the streams**, in every order of steps: those of a session are the
streams registered with it, each under a cookie of its own; a callback in flight is for exactly one of
them; and a registration fails exactly when 16 streams are registered with the session. -/
theorem observers_are_streams {s : BluetoothAudioDevice κ} {tr : List BluetoothAudioDevice.Event}
    (h : (BluetoothAudioDevice.lts κ).Reach tr s) :
    (∀ t, (s.sessions.cookies t).Perm (s.registered t)) ∧
      ((registrations s.streams).map Prod.snd).Nodup ∧
      (∀ t, ∀ n ∈ s.inFlight t,
        ∃! i, ∃ x, s.streams.find i = some x ∧ x.registration = some (t, n.cookie)) ∧
      ∀ i x, s.streams.find i = some x → x.stage = .settingUp → s.inFlight x.sessionType = [] →
        ((s.step (.register i)).map Prod.snd = some [.refused] ↔
          (s.registered x.sessionType).length = 16) := by
  have hr := BluetoothAudioDevice.registry_run h
  obtain ⟨held, hi, hp⟩ := hr.cookies
  refine ⟨fun t => ?_, ?_, fun t n hn => ?_, fun i x => hr.register_refused⟩
  · rw [← hi.heldOf_eq]
    exact SessionsMap.perm_heldOf hp t
  · exact (hp.map Prod.snd).nodup_iff.1 hi.nodup_snd
  · obtain ⟨i, x, hc, hf, hreg⟩ := hr.find_of_inFlight hn
    refine ⟨i, ⟨x, hf, hreg⟩, ?_⟩
    rintro j ⟨y, hj, hjreg⟩
    exact Option.some.inj ((hr.callbacks hj hjreg).symm.trans hc)

/-- The stack starts the session of a type. -/
def startSession (t : SessionType) : BluetoothAudioDevice.Act NoPayload :=
  .stack t (.call ⟨.onSessionStarted (some 1) (some ⟨0, true⟩) ⟨.pcmConfig, ()⟩ [], rfl⟩)

/-- Output stream `i` is opened. -/
def openOutput (i : ℕ) (devices : AudioDevices) : List (BluetoothAudioDevice.Act NoPayload) :=
  [.adevOpen .output devices, .register i, .load i quietConfig true, .publish i]

/-- Two streams for one headset and one for another; the first one is closed, and a fourth one is being
opened while a report is in flight. -/
def openAndClose : List (BluetoothAudioDevice.Act NoPayload) :=
  [startSession .a2dpSoftwareEncoding, startSession .leAudioSoftwareEncoding] ++
    openOutput 0 .outBluetoothA2dp ++ openOutput 1 .outBluetoothA2dpSpeaker ++
    openOutput 2 .outBleHeadset ++ [.adevClose 0, .tearDown 0, .adevOpen .output .outBleSpeaker,
    .stack .a2dpSoftwareEncoding (.report true .success)]

theorem observers_are_streams_openAndClose :
    ∃ tr, ∃ s : BluetoothAudioDevice NoPayload, (BluetoothAudioDevice.lts NoPayload).Reach tr s ∧
      s.inFlight .a2dpSoftwareEncoding = [.controlResult 0x0101 true .success] ∧
      (s.sessions.cookies .a2dpSoftwareEncoding).Perm [0x0101] ∧
      (∃! i, ∃ x, s.streams.find i = some x ∧ x.registration = some (.a2dpSoftwareEncoding, 0x0101)) ∧
      (s.step (.register 3)).map Prod.snd ≠ some [.refused] := by
  obtain ⟨tr, s, h, hfl, hreg, h3⟩ := Lts.exists_run (M := BluetoothAudioDevice.lts NoPayload)
    (C := fun _ _ => True) (P := fun _ s =>
      s.inFlight .a2dpSoftwareEncoding = [.controlResult 0x0101 true .success] ∧
        s.registered .a2dpSoftwareEncoding = [0x0101] ∧
        (s.streams.find 3).any (fun x => decide (x.stage = .settingUp ∧ s.inFlight x.sessionType = [] ∧
          (s.registered x.sessionType).length ≠ 16)) = true) openAndClose (by decide)
  obtain ⟨hobs, -, hone, hfull⟩ := observers_are_streams h
  obtain ⟨x, hx, h3⟩ := (Option.any_eq_true _ _).1 h3
  obtain ⟨hstage, hidle, hlen⟩ := of_decide_eq_true h3
  refine ⟨tr, s, h, hfl, hreg ▸ hobs _, ?_, fun he => hlen ((hfull 3 x hx hstage hidle).1 he)⟩
  exact hone _ (.controlResult 0x0101 true .success) (hfl ▸ List.mem_singleton_self _)

end TrebleDoze.Bluetooth
