import TrebleDoze.OplusFp.Shim

/-!
# Canceling

The client of `cancel` is to get one `ERROR_CANCELED`, from the vendor or else from the shim.

* `CancelTimely`: a report comes in while the vendor's `cancel()` is at work, and the shim has a client
  when it sends its own;
* `shim_refines_cancel`: on such steps the shim is a relay of `ERROR_CANCELED`;
* `canceled_once`: then every call of `cancel` gets one;
* `not_once_of_late`, `late_report_doubles`, `cancel_without_client`: what happens otherwise.
-/

namespace TrebleDoze.OplusFp

open TrebleDoze.Lib

/-- The client and the error of a message. -/
def ErrorMessage.tag (m : ErrorMessage) : Option Client × FingerprintError := (m.client, m.error)

/-- The message of an event that is for the call `k` of `cancel`. -/
def Event.canceledFor (k : ℕ) : Event → Option ErrorMessage
  | .onError cancel m => if cancel = some k then some m else none
  | .onEnumerate _ _ => none

/-- The calls of `onError` for a call of `cancel`. -/
def canceledMessages (k : ℕ) (tr : List Event) : List ErrorMessage := tr.filterMap (Event.canceledFor k)

/-- The event is an `ERROR_CANCELED`. -/
def Event.isCanceled : Event → Bool
  | .onError _ m => m.error = .canceled
  | .onEnumerate _ _ => false

/-- Nothing dereferences null in `cancel`; each call of it is at work or has ended, and then one
`ERROR_CANCELED` has been sent to the client that it had, or is about to be; so that, with nothing at work
and nothing about to be sent, as many have been sent as there were calls. -/
structure CancelsOnce (tr : List Event) (s : Shim) : Prop where
  noNull : s.thread ≠ .nullDereference .cancel
  ended : ∀ k < s.cancels, s.thread = .canceling k ∨ s.thread = .sendingError k ∨
    ∃ client, s.canceled k = .done client
  once : ∀ k client, s.canceled k = .done client →
    (canceledMessages k tr ++ (s.cancelReports k).due).map ErrorMessage.tag = [(client, .canceled)]
  total : s.thread = .idle → (∀ k < s.cancels, (s.cancelReports k).due = []) →
    (tr.filter Event.isCanceled).length = s.cancels

/-- A report comes in while its call is in the vendor's `cancel()`, and the shim has a client when it
sends an error itself. -/
def CancelTimely (s : Shim) : Act → Prop
  | .onErrorCanceled k _ _ => s.thread = .canceling k
  | .sendError => s.client.isSome = true
  | _ => True

instance (s : Shim) : (a : Act) → Decidable (CancelTimely s a)
  | .onErrorCanceled k _ _ => inferInstanceAs (Decidable (s.thread = .canceling k))
  | .sendError => inferInstanceAs (Decidable (s.client.isSome = true))
  | .setNotify _ | .onSyncTemplates _ _ | .cancel | .cancelReturns | .forwardError _ | .onErrorOther _ _ _
  | .enumerate | .enumerateReturns _ | .sendFinger | .onEnumerate _ _ _ | .onEnumerateNext _
  | .forwardEnumerate _ => inferInstanceAs (Decidable True)

/-! ### The relay -/

/-- The answer to a call of `cancel`. -/
def Canceled (client : Option Client) (ms : List (Option Client × FingerprintError)) : Prop :=
  ms = [(client, .canceled)]

/-- Where the thread is, seen from `cancel`. -/
def Thread.cancelPlace (client : Option Client) :
    Thread → Relay.Place (Option Client) (Option Client × FingerprintError)
  | .canceling k => .asking k client
  | .sendingError k => .sending k client (client, .canceled) []
  | .idle | .enumerating _ | .sendingFinger _ _ _ | .nullDereference _ => .idle

/-- The shim, seen from `cancel`. -/
def Shim.cancelRelay (s : Shim) : Relay.State (Option Client) (Option Client × FingerprintError) where
  answered := s.receivedCancel
  place := s.thread.cancelPlace s.client
  count := s.cancels
  ended := s.canceled
  answers := fun k => (s.cancelReports k).map ErrorMessage.tag

/-- The messages of the relay. -/
def Event.cancelMessage : Event → Option (ℕ × (Option Client × FingerprintError))
  | .onError (some k) m => some (k, m.tag)
  | .onError none _ | .onEnumerate _ _ => none

section

variable {s s' : Shim} {a : Act} {os tr : List Event} {k : ℕ}

theorem cancelRelay_update (flag : Bool) (answer : Relay.Answer ErrorMessage) :
    { s with
      receivedCancel := flag, cancelReports := Function.update s.cancelReports k answer }.cancelRelay =
      { s.cancelRelay with
        answered := flag
        answers := Function.update s.cancelRelay.answers k (answer.map ErrorMessage.tag) } := by
  have hcomp := Function.comp_update (Relay.Answer.map ErrorMessage.tag) s.cancelReports k answer
  exact congrArg (Relay.State.mk flag (s.thread.cancelPlace s.client) s.cancels s.canceled) hcomp

theorem place_of_canceling (h : s.thread = .canceling k) :
    s.cancelRelay.place = .asking k s.client := by
  rw [Shim.cancelRelay, h]
  rfl

theorem cancelRelay_move (hc : CancelTimely s a) (h : Move s a s' os) :
    (s'.cancelRelay = s.cancelRelay ∧ os.filterMap Event.cancelMessage = []) ∨
      ∃ b, Relay.InTime Canceled s.cancelRelay b ∧
        Relay.step s.cancelRelay b = some (s'.cancelRelay, os.filterMap Event.cancelMessage) := by
  cases h with
  | setNotify _ hp | enumerate hp | enumerateRefused hp | enumerateSilent hp | enumerateReported hp
  | sendLast hp | sendNext hp | enumerateNull hp =>
    refine .inl ⟨?_, rfl⟩
    unfold Shim.cancelRelay
    rw [hp]
    rfl
  | cancel hp =>
    have hplace : s.cancelRelay.place = .idle := by rw [Shim.cancelRelay, hp]; rfl
    exact .inr ⟨.ask s.client, trivial, Relay.step_ask hplace s.client⟩
  | cancelSilent hp hr =>
    have hplace := place_of_canceling hp
    exact .inr ⟨.returned (s.client, .canceled) [], Relay.inTime_returned hplace rfl,
      Relay.step_returned_silent hplace hr _ _⟩
  | cancelReported hp hr =>
    have hplace := place_of_canceling hp
    exact .inr ⟨.returned (s.client, .canceled) [], Relay.inTime_returned hplace rfl,
      Relay.step_returned_answered hplace hr _ _⟩
  | @sendError j c hp hclient =>
    have hplace : s.cancelRelay.place = .sending j s.client (s.client, .canceled) [] := by
      rw [Shim.cancelRelay, hp]; rfl
    exact .inr ⟨.send, trivial, Relay.step_send_last hplace⟩
  | cancelNull hp hclient =>
    exact absurd hclient (Option.isSome_iff_ne_none.1 hc)
  | @onErrorCanceled j deviceId vendorCode hk hlt =>
    have hplace : s.cancelRelay.place = .asking j s.client := place_of_canceling hc
    have hanswer : s.cancelRelay.answers j = .silent := congrArg (Relay.Answer.map ErrorMessage.tag) hk
    refine .inr ⟨.answer j (s.client, .canceled) [], ?_, ?_⟩
    · unfold Relay.InTime
      rw [hplace]
      exact ⟨rfl, rfl⟩
    · rw [Relay.step_answer hanswer hlt, Shim.noticeCancel, cancelRelay_update]
      rfl
  | @forwardError j m rest hk =>
    have hanswer : s.cancelRelay.answers j = .noticed m.tag (rest.map ErrorMessage.tag) :=
      congrArg (Relay.Answer.map ErrorMessage.tag) hk
    refine .inr ⟨.pass j, trivial, ?_⟩
    rw [Relay.step_pass hanswer, cancelRelay_update s.receivedCancel]
    rfl
  | onSyncTemplates | onErrorOther | onEnumerate | onEnumerateNext | forwardEnumerate =>
    exact .inl ⟨rfl, rfl⟩

/-- **The shim relays `ERROR_CANCELED`**, on steps that are timely. -/
theorem shim_refines_cancel : Refines shim CancelTimely (Relay.relay _ _) (Relay.InTime Canceled)
    Shim.cancelRelay Event.cancelMessage where
  init := rfl
  step := fun hc hs => cancelRelay_move hc (move_of_step hs)

/-! ### One `ERROR_CANCELED` -/

theorem not_nullDereference (h : shim.Run CancelTimely tr s) :
    s.thread ≠ .nullDereference .cancel ∧ ∀ k, s.canceled k ≠ .refused := by
  refine h.inv_state (I := fun s => s.thread ≠ .nullDereference .cancel ∧ ∀ k, s.canceled k ≠ .refused)
    ⟨by decide, fun k => by simp [shim, Shim.init]⟩ fun {s a s' os} hi hc hs => ?_
  obtain ⟨hnull, href⟩ := hi
  have hend : ∀ j k, Function.update s.canceled j (.done s.client) k ≠ .refused := by
    intro j k
    by_cases hk : k = j
    · subst hk
      rw [Function.update_self]
      simp
    · rw [Function.update_of_ne hk]
      exact href k
  cases move_of_step hs with
  | cancelReported | sendError => exact ⟨by simp [Shim.endCancel], hend _⟩
  | cancelNull hp hclient =>
    exact absurd hclient (Option.isSome_iff_ne_none.1 hc)
  | cancel | cancelSilent | enumerate | enumerateSilent | sendNext | enumerateNull =>
    exact ⟨by simp, href⟩
  | enumerateRefused | enumerateReported | sendLast => exact ⟨by simp [Shim.endEnumerate], href⟩
  | setNotify | onSyncTemplates | onErrorCanceled | forwardError | onErrorOther | onEnumerate
  | onEnumerateNext | forwardEnumerate => exact ⟨hnull, href⟩

/-- Only for calls of `cancel` is an `ERROR_CANCELED` sent. -/
theorem error_of_other (h : shim.Reach tr s) {m : ErrorMessage} (hm : .onError none m ∈ tr) :
    m.error ≠ .canceled := by
  induction h with
  | init => simp at hm
  | step _ _ hs ih =>
    rcases List.mem_append.1 hm with hm | hm
    · exact ih hm
    · cases move_of_step hs with
      | onErrorOther he =>
        obtain ⟨-, rfl⟩ := Event.onError.inj (List.mem_singleton.1 hm)
        exact he
      | _ => simp at hm

theorem messages_cancelMessage (k : ℕ) (tr : List Event) :
    Relay.messages k (tr.filterMap Event.cancelMessage) = (canceledMessages k tr).map ErrorMessage.tag := by
  rw [Relay.messages_filterMap, canceledMessages, List.map_filterMap]
  refine List.filterMap_congr fun e _ => ?_
  cases e with
  | onEnumerate j m => rfl
  | onError cancel m =>
    cases cancel with
    | none => rfl
    | some j => by_cases hj : j = k <;> simp [Event.cancelMessage, Event.canceledFor, hj]

/-- An event of the relay's is an `ERROR_CANCELED`, where the others are not. -/
theorem length_filter_isCanceled (h : ∀ e ∈ tr, e.isCanceled = (Event.cancelMessage e).isSome) :
    (tr.filter Event.isCanceled).length = (tr.filterMap Event.cancelMessage).length := by
  rw [List.filter_congr h, List.length_filterMap_eq_countP, List.countP_eq_length_filter]

/-- **One `ERROR_CANCELED` for a call.**  In every run whose reports come in while their call of `cancel`
is in the vendor's, and in which the shim has a client where it sends an error itself, nothing
dereferences null in `cancel`, and each call that has ended has one `ERROR_CANCELED`. -/
theorem canceled_once (h : shim.Run CancelTimely tr s) : CancelsOnce tr s := by
  obtain ⟨hnull, href⟩ := not_nullDereference h
  obtain ⟨hends, hdone, hfresh⟩ := Relay.answered_once (shim_refines_cancel.run h)
  have honce : ∀ k client, s.canceled k = .done client →
      (canceledMessages k tr ++ (s.cancelReports k).due).map ErrorMessage.tag = [(client, .canceled)] := by
    intro k client hk
    rw [List.map_append, ← Relay.Answer.due_map, ← messages_cancelMessage]
    exact hdone k client hk
  have hended : ∀ k < s.cancels, s.thread = .canceling k ∨ s.thread = .sendingError k ∨
      ∃ client, s.canceled k = .done client := by
    intro k hk
    rcases hends k hk with hcur | hr | hd
    · have hplace : (s.thread.cancelPlace s.client).current = some k := hcur
      cases hp : s.thread with
      | canceling j =>
        rw [hp] at hplace
        exact .inl (congrArg Thread.canceling (Option.some.inj hplace))
      | sendingError j =>
        rw [hp] at hplace
        exact .inr (.inl (congrArg Thread.sendingError (Option.some.inj hplace)))
      | idle | enumerating | sendingFinger | nullDereference =>
        rw [hp] at hplace
        cases hplace
    · exact absurd hr (href k)
    · exact .inr (.inr hd)
  refine ⟨hnull, hended, honce, fun hidle hdue => ?_⟩
  -- every call has ended, and nothing is due
  have hsingle : ∀ k < s.cancels, ∃ client,
      Relay.messages k (tr.filterMap Event.cancelMessage) = [(client, .canceled)] := by
    intro k hk
    rcases hended k hk with hp | hp | ⟨client, hd⟩
    · rw [hidle] at hp
      cases hp
    · rw [hidle] at hp
      cases hp
    · have hmsgs := honce k client hd
      rw [hdue k hk, List.append_nil] at hmsgs
      exact ⟨client, (messages_cancelMessage k tr).trans hmsgs⟩
  have hcanceled : ∀ e ∈ tr, e.isCanceled = (Event.cancelMessage e).isSome := by
    intro e he
    cases e with
    | onEnumerate => rfl
    | onError cancel m =>
      cases cancel with
      | none => exact decide_eq_false (error_of_other (h.mono fun _ _ _ => trivial) he)
      | some k =>
        have hm : m.tag ∈ Relay.messages k (tr.filterMap Event.cancelMessage) :=
          Relay.mem_messages.2 (List.mem_filterMap.2 ⟨_, he, rfl⟩)
        have hk : k < s.cancels := by
          by_contra hge
          rw [hfresh k (Nat.not_lt.1 hge)] at hm
          cases hm
        obtain ⟨client, hmsgs⟩ := hsingle k hk
        rw [hmsgs] at hm
        exact decide_eq_true (congrArg Prod.snd (List.mem_singleton.1 hm))
  rw [length_filter_isCanceled hcanceled]
  refine Relay.length_of_single (fun k hk => ?_) hfresh
  obtain ⟨client, hmsgs⟩ := hsingle k hk
  rw [hmsgs, List.length_singleton]

/-- A report that comes in after its call has ended is one too many. -/
theorem not_once_of_late {client : Option Client} {deviceId : UInt64} {vendorCode : Int32}
    (h : CancelsOnce tr s) (hd : s.canceled k = .done client)
    (hs : shim.step s (.onErrorCanceled k deviceId vendorCode) = some (s', os)) :
    ¬ CancelsOnce (tr ++ os) s' := by
  intro h'
  have hbefore := congrArg List.length (h.once k client hd)
  cases move_of_step hs with
  | onErrorCanceled hk hlt =>
    have hafter := congrArg List.length (h'.once k client hd)
    rw [hk] at hbefore
    simp only [List.append_nil, Shim.noticeCancel, Function.update_self] at hafter
    simp only [Relay.Answer.due, List.length_map, List.length_append, List.length_cons,
      List.length_nil] at hbefore hafter
    omega

end

/-- Two calls, one of which the vendor reports. -/
theorem canceled_once_twice : ∃ tr s, shim.Run CancelTimely tr s ∧ s.cancels = 2 ∧ CancelsOnce tr s := by
  obtain ⟨tr, s, h, hs⟩ := Lts.exists_run (M := shim) (C := CancelTimely) (P := fun _ s => s.cancels = 2)
    [.setNotify (some 1), .cancel, .onErrorCanceled 0 5 0, .cancelReturns, .forwardError 0,
      .cancel, .cancelReturns, .sendError] (by decide)
  exact ⟨tr, s, h, hs, canceled_once h⟩

/-- The vendor reports the cancel right after its `cancel()` has returned: the client gets a second
`ERROR_CANCELED`. -/
theorem late_report_doubles : ∃ tr s, shim.Reach tr s ∧ s.thread = .idle ∧ s.cancels = 1 ∧
    (tr.filter Event.isCanceled).length = 2 ∧ ¬ CancelsOnce tr s := by
  obtain ⟨tr, s, h, hidle, hone, hdue, htwo⟩ := Lts.exists_run (M := shim) (C := fun _ _ => True)
    (P := fun tr s => s.thread = .idle ∧ s.cancels = 1 ∧ (s.cancelReports 0).due = [] ∧
      (tr.filter Event.isCanceled).length = 2)
    [.setNotify (some 1), .cancel, .cancelReturns, .sendError, .onErrorCanceled 0 5 0, .forwardError 0]
    (by decide)
  refine ⟨tr, s, h, hidle, hone, htwo, fun honce => ?_⟩
  have htotal := honce.total hidle fun k hk => by
    rw [hone, Nat.lt_one_iff] at hk
    exact hk ▸ hdue
  omega

/-- Without a client, or with a null one, the error of the shim's own dereferences null. -/
theorem cancel_without_client :
    (∃ tr s, shim.Reach tr s ∧ s.thread = .nullDereference .cancel ∧ s.mOplusClientCallback = none) ∧
      ∃ tr s, shim.Reach tr s ∧ s.thread = .nullDereference .cancel ∧
        s.mOplusClientCallback = some none :=
  ⟨Lts.exists_run [.cancel, .cancelReturns, .sendError] (by decide),
    Lts.exists_run [.setNotify none, .cancel, .cancelReturns, .sendError] (by decide)⟩

end TrebleDoze.OplusFp
