import TrebleDoze.OplusFp.Shim

/-!
# Enumerating

The client of `enumerate` is to get one enumeration of the fingers, from the vendor or else from the shim.

* `completeEnumeration_ownFingers`: the shim's own enumeration is complete;
* `EnumerateTimely`: the vendor's begins while its `enumerate()` is at work, no other message comes in
  then, and the shim has a client when it sends its own;
* `shim_refines_enumerate`: on such steps the shim is a relay of enumerations;
* `enumerated_once`: then every call of `enumerate` that is not refused gets one;
* `not_once_of_late_enumeration`, `late_enumeration_doubles`, `enumerate_without_client`: what happens
  otherwise.
-/

namespace TrebleDoze.OplusFp

open TrebleDoze.Lib

/-- The message of an event that is for the call `k` of `enumerate`. -/
def Event.enumeratedFor (k : ℕ) : Event → Option EnumerateMessage
  | .onEnumerate j m => if j = k then some m else none
  | .onError _ _ => none

/-- The calls of `onEnumerate` for a call of `enumerate`. -/
def enumerateMessages (k : ℕ) (tr : List Event) : List EnumerateMessage :=
  tr.filterMap (Event.enumeratedFor k)

/-- The client has one complete enumeration of the fingers. -/
def Enumerated (r : Request) (ms : List EnumerateMessage) : Prop :=
  (∀ m ∈ ms, m.client = r.client) ∧ CompleteEnumeration r.fingers (ms.map EnumerateMessage.finger)

instance (r : Request) (ms : List EnumerateMessage) : Decidable (Enumerated r ms) := by
  unfold Enumerated; infer_instance

/-- Nothing dereferences null in `enumerate`; each call of it is at work, has been refused or has ended,
and then one complete enumeration has been sent to the client that it had, or is about to be. -/
structure EnumeratesOnce (tr : List Event) (s : Shim) : Prop where
  noNull : s.thread ≠ .nullDereference .enumerate
  ended : ∀ k < s.enumerates, s.thread = .enumerating k ∨
    (∃ finger rest, s.thread = .sendingFinger k finger rest) ∨ s.enumerated k = .refused ∨
      ∃ r, s.enumerated k = .done r
  once : ∀ k r, s.enumerated k = .done r →
    Enumerated r (enumerateMessages k tr ++ (s.enumerations k).due)

/-- An enumeration begins while its call is in the vendor's `enumerate()`, unless the call has been
refused; while a call is there, only messages for it come in; and the shim has a client when it sends a
finger itself. -/
def EnumerateTimely (s : Shim) : Act → Prop
  | .onEnumerate k _ _ =>
    match s.thread with
    | .enumerating j => j = k
    | _ => s.enumerated k = .refused
  | .onEnumerateNext k =>
    match s.thread with
    | .enumerating j => j = k
    | _ => True
  | .sendFinger => s.client.isSome = true
  | _ => True

instance (s : Shim) (a : Act) : Decidable (EnumerateTimely s a) := by
  unfold EnumerateTimely
  split
  · split <;> infer_instance
  · split <;> infer_instance
  · infer_instance
  · infer_instance

/-! ### The enumeration of the shim's own -/

section

variable {fingers : List UInt32} {l : List Finger} {myDeviceId : UInt64} {n : UInt64}

theorem CompleteEnumeration.length_eq (h : CompleteEnumeration fingers l) :
    l.length = if fingers = [] then 1 else fingers.length := by
  unfold CompleteEnumeration at h
  split_ifs at h ⊢ with hf
  · rw [← List.length_map, h, List.length_singleton]
  · rw [← h.1.length_eq, List.length_map]

theorem CompleteEnumeration.ne_nil (h : CompleteEnumeration fingers l) : l ≠ [] := by
  rintro rfl
  have hlen := h.length_eq
  split_ifs at hlen with hf
  exact hf (List.length_eq_zero_iff.1 hlen.symm)

theorem sendFingers_fingerId : (sendFingers myDeviceId fingers n).map Finger.fingerId = fingers := by
  induction fingers generalizing n with
  | nil => rfl
  | cons finger fingers ih => rw [sendFingers, List.map_cons, ih]

theorem sendFingers_remaining (hn : n.toNat = fingers.length) (hsize : fingers.length < UInt32.size) :
    (sendFingers myDeviceId fingers n).map (fun f => f.remaining.toNat) =
      (List.range fingers.length).reverse := by
  induction fingers generalizing n with
  | nil => rfl
  | cons finger fingers ih =>
    rw [List.length_cons] at hn hsize
    have hpred : (n - 1).toNat = fingers.length := by
      rw [UInt64.toNat_sub_of_le _ _ (by rw [UInt64.le_iff_toNat_le, hn]; exact Nat.le_add_left _ _), hn]
      rfl
    have hword : (n - 1).toUInt32.toNat = fingers.length := by
      rw [UInt64.toNat_toUInt32, hpred, Nat.mod_eq_of_lt (by simp only [UInt32.size] at hsize; omega)]
    rw [sendFingers, List.map_cons, ih hpred (Nat.lt_of_succ_lt hsize), hword, List.length_cons,
      List.range_succ, List.reverse_append, List.reverse_singleton, List.singleton_append]

/-- **The shim's own enumeration is complete**, for every list of fingers. -/
theorem completeEnumeration_ownFingers (myDeviceId : UInt64) (hsize : fingers.length < UInt32.size) :
    CompleteEnumeration fingers (ownFingers myDeviceId fingers) := by
  have hn : (UInt64.ofNat fingers.length).toNat = fingers.length := by
    rw [UInt64.toNat_ofNat', Nat.mod_eq_of_lt (by simp only [UInt32.size] at hsize; omega)]
  unfold CompleteEnumeration ownFingers
  cases fingers with
  | nil => rfl
  | cons finger rest =>
    rw [if_neg (List.cons_ne_nil _ _), if_pos (by rw [gt_iff_lt, UInt64.lt_iff_toNat_lt, hn]; simp)]
    exact ⟨List.Perm.of_eq sendFingers_fingerId, sendFingers_remaining hn hsize⟩

end

/-! ### The relay -/

/-- Where the thread is, seen from `enumerate`. -/
def Thread.enumeratePlace (request : Request) : Thread → Relay.Place Request EnumerateMessage
  | .enumerating k => .asking k request
  | .sendingFinger k finger rest =>
    .sending k request ⟨request.client, finger⟩ (rest.map (EnumerateMessage.mk request.client))
  | .idle | .canceling _ | .sendingError _ | .nullDereference _ => .idle

/-- The shim, seen from `enumerate`. -/
def Shim.enumerateRelay (s : Shim) : Relay.State Request EnumerateMessage where
  answered := s.receivedEnumerate
  place := s.thread.enumeratePlace s.request
  count := s.enumerates
  ended := s.enumerated
  answers := s.enumerations

/-- The messages of the relay. -/
def Event.enumerateMessage : Event → Option (ℕ × EnumerateMessage)
  | .onEnumerate k m => some (k, m)
  | .onError _ _ => none

section

variable {s s' : Shim} {a : Act} {os tr : List Event} {k : ℕ} {client : Option Client}
  {fingers : List UInt32} {finger : Finger} {rest : List Finger}

theorem enumerated_of_complete (h : CompleteEnumeration fingers (finger :: rest)) :
    Enumerated ⟨client, fingers⟩ (⟨client, finger⟩ :: rest.map (EnumerateMessage.mk client)) := by
  constructor
  · intro m hm
    rcases List.mem_cons.1 hm with rfl | hm
    · rfl
    · obtain ⟨f, -, rfl⟩ := List.mem_map.1 hm
      rfl
  · have hback : (rest.map (EnumerateMessage.mk client)).map EnumerateMessage.finger = rest := by
      rw [List.map_map]
      exact List.map_id _
    rw [List.map_cons, hback]
    exact h

theorem inTime_onEnumerate (hc : EnumerateTimely s (.onEnumerate k finger rest))
    (h : CompleteEnumeration s.knownFingers.list (finger :: rest)) :
    Relay.InTime Enumerated s.enumerateRelay
      (.answer k ⟨s.client, finger⟩ (rest.map (EnumerateMessage.mk s.client))) := by
  unfold Relay.InTime Shim.enumerateRelay
  unfold EnumerateTimely at hc
  cases hp : s.thread with
  | enumerating j =>
    rw [hp] at hc
    exact ⟨hc, enumerated_of_complete h⟩
  | idle | canceling | sendingError | sendingFinger | nullDereference =>
    rw [hp] at hc
    exact hc

theorem inTime_onEnumerateNext (hc : EnumerateTimely s (.onEnumerateNext k)) :
    Relay.InTime Enumerated s.enumerateRelay (.notice k) := by
  intro j r hj
  unfold EnumerateTimely at hc
  unfold Shim.enumerateRelay at hj
  cases hp : s.thread with
  | enumerating i =>
    rw [hp] at hc hj
    exact (Relay.Place.asking.inj hj).1.symm.trans hc
  | idle | canceling | sendingError | sendingFinger | nullDereference =>
    rw [hp] at hj
    cases hj

theorem place_of_enumerating (h : s.thread = .enumerating k) :
    s.enumerateRelay.place = .asking k s.request := by
  rw [Shim.enumerateRelay, h]
  rfl

theorem enumerateRelay_move (hc : EnumerateTimely s a) (h : Move s a s' os) :
    (s'.enumerateRelay = s.enumerateRelay ∧ os.filterMap Event.enumerateMessage = []) ∨
      ∃ b, Relay.InTime Enumerated s.enumerateRelay b ∧
        Relay.step s.enumerateRelay b = some (s'.enumerateRelay, os.filterMap Event.enumerateMessage) := by
  cases h with
  | setNotify _ hp | cancel hp | cancelSilent hp | cancelReported hp | sendError hp | cancelNull hp =>
    refine .inl ⟨?_, rfl⟩
    unfold Shim.enumerateRelay
    rw [hp]
    rfl
  | onSyncTemplates deviceId fingerId hp =>
    refine .inl ⟨?_, rfl⟩
    unfold Shim.enumerateRelay
    cases ht : s.thread with
    | enumerating | sendingFinger =>
      rw [ht] at hp
      cases hp
    | idle | canceling | sendingError | nullDereference => rfl
  | enumerate hp =>
    have hplace : s.enumerateRelay.place = .idle := by rw [Shim.enumerateRelay, hp]; rfl
    exact .inr ⟨.ask s.request, trivial, Relay.step_ask hplace s.request⟩
  | enumerateRefused hp =>
    have hplace := place_of_enumerating hp
    exact .inr ⟨.refuse, trivial, Relay.step_refuse hplace⟩
  | @enumerateSilent _ _ finger rest hp _ hr hown =>
    have hplace := place_of_enumerating hp
    have hcomplete := completeEnumeration_ownFingers s.myDeviceId s.knownFingers.size
    rw [hown] at hcomplete
    exact .inr ⟨.returned ⟨s.client, finger⟩ (rest.map (EnumerateMessage.mk s.client)),
      Relay.inTime_returned hplace (enumerated_of_complete hcomplete),
      Relay.step_returned_silent hplace hr _ _⟩
  | enumerateReported hp _ hr =>
    have hplace := place_of_enumerating hp
    have hcomplete := completeEnumeration_ownFingers s.myDeviceId s.knownFingers.size
    obtain ⟨finger, rest, hown⟩ := List.exists_cons_of_ne_nil hcomplete.ne_nil
    rw [hown] at hcomplete
    exact .inr ⟨.returned ⟨s.client, finger⟩ (rest.map (EnumerateMessage.mk s.client)),
      Relay.inTime_returned hplace (enumerated_of_complete hcomplete),
      Relay.step_returned_answered hplace hr _ _⟩
  | @sendLast j finger c hp hclient =>
    have hplace : s.enumerateRelay.place = .sending j s.request ⟨s.client, finger⟩ [] := by
      rw [Shim.enumerateRelay, hp]; rfl
    exact .inr ⟨.send, trivial, Relay.step_send_last hplace⟩
  | @sendNext j finger finger' rest c hp hclient =>
    have hplace : s.enumerateRelay.place = .sending j s.request ⟨s.client, finger⟩
        (⟨s.client, finger'⟩ :: rest.map (EnumerateMessage.mk s.client)) := by
      rw [Shim.enumerateRelay, hp]; rfl
    exact .inr ⟨.send, trivial, Relay.step_send_next hplace⟩
  | enumerateNull hp hclient =>
    exact absurd hclient (Option.isSome_iff_ne_none.1 hc)
  | @onEnumerate j finger rest hk hlt hcomplete =>
    exact .inr ⟨_, inTime_onEnumerate hc hcomplete, Relay.step_answer hk hlt _ _⟩
  | @onEnumerateNext j m rest hk =>
    exact .inr ⟨.notice j, inTime_onEnumerateNext hc, Relay.step_notice hk⟩
  | @forwardEnumerate j m rest hk => exact .inr ⟨.pass j, trivial, Relay.step_pass hk⟩
  | onErrorCanceled | forwardError | onErrorOther => exact .inl ⟨rfl, rfl⟩

/-- **The shim relays enumerations**, on steps that are timely. -/
theorem shim_refines_enumerate : Refines shim EnumerateTimely (Relay.relay _ _)
    (Relay.InTime Enumerated) Shim.enumerateRelay Event.enumerateMessage where
  init := rfl
  step := fun hc hs => enumerateRelay_move hc (move_of_step hs)

/-! ### One enumeration -/

theorem not_nullDereference_enumerate (h : shim.Run EnumerateTimely tr s) :
    s.thread ≠ .nullDereference .enumerate := by
  refine h.inv_state (I := fun s => s.thread ≠ .nullDereference .enumerate) (by decide)
    fun {s a s' os} hi hc hs => ?_
  cases move_of_step hs with
  | enumerateNull hp hclient =>
    exact absurd hclient (Option.isSome_iff_ne_none.1 hc)
  | cancel | cancelSilent | cancelNull | enumerate | enumerateSilent | sendNext => simp
  | cancelReported | sendError => simp [Shim.endCancel]
  | enumerateRefused | enumerateReported | sendLast => simp [Shim.endEnumerate]
  | setNotify | onSyncTemplates | onErrorCanceled | forwardError | onErrorOther | onEnumerate
  | onEnumerateNext | forwardEnumerate => exact hi

theorem messages_enumerateMessage (k : ℕ) (tr : List Event) :
    Relay.messages k (tr.filterMap Event.enumerateMessage) = enumerateMessages k tr := by
  rw [Relay.messages_filterMap, enumerateMessages]
  refine List.filterMap_congr fun e _ => ?_
  cases e with
  | onError cancel m => rfl
  | onEnumerate j m => by_cases hj : j = k <;> simp [Event.enumerateMessage, Event.enumeratedFor, hj]

/-- **One enumeration for a call.**  In every run whose enumerations begin while their call is in the
vendor's `enumerate()`, none of whose messages come in while a later call is there, and in which the shim
has a client where it sends a finger itself, each call that has ended with `SYS_OK` has one complete
enumeration. -/
theorem enumerated_once (h : shim.Run EnumerateTimely tr s) : EnumeratesOnce tr s := by
  obtain ⟨hends, hdone, -⟩ := Relay.answered_once (shim_refines_enumerate.run h)
  refine ⟨not_nullDereference_enumerate h, fun k hk => ?_, fun k r hr => ?_⟩
  · rcases hends k hk with hcur | hr | hd
    · have hplace : (s.thread.enumeratePlace s.request).current = some k := hcur
      cases hp : s.thread with
      | enumerating j =>
        rw [hp] at hplace
        exact .inl (congrArg Thread.enumerating (Option.some.inj hplace))
      | sendingFinger j finger rest =>
        rw [hp] at hplace
        obtain rfl := Option.some.inj hplace
        exact .inr (.inl ⟨finger, rest, rfl⟩)
      | idle | canceling | sendingError | nullDereference =>
        rw [hp] at hplace
        cases hplace
    · exact .inr (.inr (.inl hr))
    · exact .inr (.inr (.inr hd))
  · rw [← messages_enumerateMessage]
    exact hdone k r hr

/-- An enumeration that begins after its call has ended is one too many. -/
theorem not_once_of_late_enumeration {r : Request} (h : EnumeratesOnce tr s)
    (hd : s.enumerated k = .done r) (hs : shim.step s (.onEnumerate k finger rest) = some (s', os)) :
    ¬ EnumeratesOnce (tr ++ os) s' := by
  intro h'
  obtain ⟨-, hbefore⟩ := h.once k r hd
  cases move_of_step hs with
  | onEnumerate hk hlt hcomplete =>
    obtain ⟨-, hafter⟩ := h'.once k r hd
    have hlonger := hafter.length_eq.trans hbefore.length_eq.symm
    rw [hk] at hlonger
    simp only [List.append_nil, Shim.noticeFinger, Function.update_self] at hlonger
    simp only [Relay.Answer.due, List.length_map, List.length_append, List.length_cons,
      List.length_nil] at hlonger
    omega

end

/-- Three calls: for one the vendor enumerates two fingers, the next it refuses, and for the last it is
silent. -/
theorem enumerated_once_thrice :
    ∃ tr s, shim.Run EnumerateTimely tr s ∧ s.enumerates = 3 ∧ EnumeratesOnce tr s := by
  obtain ⟨tr, s, h, hs⟩ := Lts.exists_run (M := shim) (C := EnumerateTimely)
    (P := fun _ s => s.enumerates = 3)
    [.setNotify (some 1), .onSyncTemplates 5 ⟨[11, 12], by decide⟩, .enumerate,
      .onEnumerate 0 ⟨5, 12, 0, 1⟩ [⟨5, 11, 0, 0⟩], .enumerateReturns (some .sysOk), .forwardEnumerate 0,
      .onEnumerateNext 0, .forwardEnumerate 0, .enumerate, .enumerateReturns (some .sysEbusy),
      .enumerate, .enumerateReturns (some .sysOk), .sendFinger, .sendFinger] (by decide)
  exact ⟨tr, s, h, hs, enumerated_once h⟩

/-- The vendor enumerates its finger right after its `enumerate()` has returned: the client gets a second
enumeration. -/
theorem late_enumeration_doubles : ∃ tr s, shim.Reach tr s ∧
    s.enumerated 0 = .done ⟨some 1, [11]⟩ ∧
    enumerateMessages 0 tr = [⟨some 1, ⟨5, 11, 0, 0⟩⟩, ⟨some 1, ⟨5, 11, 0, 0⟩⟩] ∧
    ¬ EnumeratesOnce tr s := by
  obtain ⟨tr, s, h, hdone, htwo, hnot⟩ := Lts.exists_run (M := shim) (C := fun _ _ => True)
    (P := fun tr s => s.enumerated 0 = .done ⟨some 1, [11]⟩ ∧
      enumerateMessages 0 tr = [⟨some 1, ⟨5, 11, 0, 0⟩⟩, ⟨some 1, ⟨5, 11, 0, 0⟩⟩] ∧
      ¬ Enumerated ⟨some 1, [11]⟩ (enumerateMessages 0 tr ++ (s.enumerations 0).due))
    [.setNotify (some 1), .onSyncTemplates 5 ⟨[11], by decide⟩, .enumerate,
      .enumerateReturns (some .sysOk), .sendFinger, .onEnumerate 0 ⟨5, 11, 0, 0⟩ [], .forwardEnumerate 0]
    (by decide)
  exact ⟨tr, s, h, hdone, htwo, fun honce => hnot (honce.once 0 _ hdone)⟩

/-- Without a client, or with a null one, a finger of the shim's own dereferences null. -/
theorem enumerate_without_client :
    (∃ tr s, shim.Reach tr s ∧ s.thread = .nullDereference .enumerate ∧ s.mOplusClientCallback = none) ∧
      ∃ tr s, shim.Reach tr s ∧ s.thread = .nullDereference .enumerate ∧
        s.mOplusClientCallback = some none :=
  ⟨Lts.exists_run [.enumerate, .enumerateReturns (some .sysOk), .sendFinger] (by decide),
    Lts.exists_run [.setNotify none, .enumerate, .enumerateReturns (some .sysOk), .sendFinger]
      (by decide)⟩

end TrebleDoze.OplusFp
