import TrebleDoze.Fingerprint.Commands
import TrebleDoze.Fingerprint.Presses
import TrebleDoze.Lib.Threads
import TrebleDoze.OplusFp.Shim

/-!
# The callbacks of the vendor's library

The vendor's library reports to `notify`, from threads of its own. A call of `notify` holds
`mClientCallbackMutex` while it translates the message and calls the client, and after a recognised finger
that the client could not be told of it lifts the finger itself, through `onFingerUp`.

* `Message.callback`: the call at the client that a message stands for; `callback_inj`: a message with
  known codes can be read off it;
* `Facade.lts`: the threads of the HAL, `setNotify`, and any number of calls of `notify`;
* `facade_refines_threads`: seen through the members, it is the HAL with its threads;
* `callbacks_of_messages`: the client that is registered is called for each message, once and in order;
* `failed_authentication_lifts`: a recognition that cannot be delivered ends the press.
-/

namespace TrebleDoze.Fingerprint

open TrebleDoze.Lib
open TrebleDoze.OplusFp (Client FingerprintError)

/-! ### The messages and their translation -/

/-- `FingerprintAcquiredInfo`. -/
inductive FingerprintAcquiredInfo where
  | good
  | partialImage
  | insufficient
  | imagerDirty
  | tooSlow
  | tooFast
  | vendor
  deriving DecidableEq, Repr

/-- `fingerprint_msg_t`, by its type; `other` is a type without a case in `notify`. -/
inductive Message where
  | error (code : Int32)
  | acquired (acquiredInfo : Int32)
  | templateEnrolling (fid gid samplesRemaining : UInt32)
  | templateRemoved (fid gid remainingTemplates : UInt32)
  | authenticated (fid gid : UInt32) (hat : Vector UInt8 69)
  | templateEnumerating (fid gid remainingTemplates : UInt32)
  | other (type : Int32)
  deriving DecidableEq

/-- The calls at `IBiometricsFingerprintClientCallback`. -/
inductive Callback where
  | onError (devId : UInt64) (error : FingerprintError) (vendorCode : Int32)
  | onAcquired (devId : UInt64) (info : FingerprintAcquiredInfo) (vendorCode : Int32)
  | onEnrollResult (devId : UInt64) (fid gid remaining : UInt32)
  | onRemoved (devId : UInt64) (fid gid remaining : UInt32)
  | onAuthenticated (devId : UInt64) (fid gid : UInt32) (token : List UInt8)
  | onEnumerate (devId : UInt64) (fid gid remaining : UInt32)
  deriving DecidableEq

/-- `FINGERPRINT_ERROR_VENDOR_BASE` and `FINGERPRINT_ACQUIRED_VENDOR_BASE`. -/
def vendorBase : Int32 := 1000

/-- The filters: a code with a name, a code of the vendor's, or an unknown one, and the vendor code. -/
def vendorFilter {ε : Type} (names : List (Int32 × ε)) (vendor unknown : ε) (code : Int32) : ε × Int32 :=
  match names.lookup code with
  | some name => (name, 0)
  | none => if vendorBase ≤ code then (vendor, code - vendorBase) else (unknown, 0)

/-- The codes of `VendorErrorFilter`. -/
def errorNames : List (Int32 × FingerprintError) :=
  [(1, .hwUnavailable), (2, .unableToProcess), (3, .timeout), (4, .noSpace), (5, .canceled),
   (6, .unableToRemove), (7, .lockout)]

/-- The codes of `VendorAcquiredFilter`. -/
def acquiredNames : List (Int32 × FingerprintAcquiredInfo) :=
  [(0, .good), (1, .partialImage), (2, .insufficient), (3, .imagerDirty), (4, .tooSlow), (5, .tooFast)]

/-- `VendorErrorFilter`. -/
def vendorErrorFilter : Int32 → FingerprintError × Int32 :=
  vendorFilter errorNames .vendor .unableToProcess

/-- `VendorAcquiredFilter`. -/
def vendorAcquiredFilter : Int32 → FingerprintAcquiredInfo × Int32 :=
  vendorFilter acquiredNames .vendor .insufficient

/-- The `switch` of `notify`: what the client is called with. -/
def Message.callback (devId : UInt64) : Message → Option Callback
  | .error code =>
    let result := vendorErrorFilter code
    some (.onError devId result.1 result.2)
  | .acquired acquiredInfo =>
    -- The user interface states of the Goodix library are kept from the framework.
    if acquiredInfo = 1001 ∨ acquiredInfo = 1002 then none
    else
      let result := vendorAcquiredFilter acquiredInfo
      some (.onAcquired devId result.1 result.2)
  | .templateEnrolling fid gid samplesRemaining => some (.onEnrollResult devId fid gid samplesRemaining)
  | .templateRemoved fid gid remainingTemplates => some (.onRemoved devId fid gid remainingTemplates)
  | .authenticated fid gid hat =>
    if fid ≠ 0 then some (.onAuthenticated devId fid gid hat.toList)
    else some (.onAuthenticated devId fid gid [])
  | .templateEnumerating fid gid remainingTemplates => some (.onEnumerate devId fid gid remainingTemplates)
  | .other _ => none

/-- The call tells of a recognised finger. -/
def Callback.recognized : Callback → Bool
  | .onAuthenticated _ fid _ _ => fid ≠ 0
  | _ => false

/-- The filter has a name for the code, or leaves it to the vendor. -/
def Named {ε : Type} (names : List (Int32 × ε)) (code : Int32) : Prop :=
  (names.lookup code).isSome = true ∨ vendorBase ≤ code

instance {ε : Type} (names : List (Int32 × ε)) (code : Int32) : Decidable (Named names code) := by
  unfold Named; infer_instance

/-- A message that the client can make out: its code is known and forwarded, its finger recognised. -/
def Message.Known : Message → Prop
  | .error code => Named errorNames code
  | .acquired acquiredInfo =>
    Named acquiredNames acquiredInfo ∧ acquiredInfo ≠ 1001 ∧ acquiredInfo ≠ 1002
  | .authenticated fid _ _ => fid ≠ 0
  | .other _ => False
  | _ => True

section Filter

variable {ε : Type} {names : List (Int32 × ε)} {vendor unknown : ε} {code code' : Int32}

theorem mem_of_lookup {name : ε} (h : names.lookup code = some name) : (code, name) ∈ names := by
  obtain ⟨l, l', rfl, -⟩ := List.lookup_eq_some_iff.1 h
  simp

/-- With names of their own, codes can be read off what the filter makes of them. -/
theorem vendorFilter_inj (hnames : ∀ x ∈ names, ∀ y ∈ names, x.2 = y.2 → x = y)
    (hvendor : ∀ x ∈ names, x.2 ≠ vendor) (h : Named names code) (h' : Named names code')
    (he : vendorFilter names vendor unknown code = vendorFilter names vendor unknown code') :
    code = code' := by
  unfold vendorFilter at he
  cases hc : names.lookup code with
  | some name =>
    cases hc' : names.lookup code' with
    | some name' =>
      rw [hc, hc'] at he
      have hname : name = name' := congrArg Prod.fst he
      exact congrArg Prod.fst (hnames _ (mem_of_lookup hc) _ (mem_of_lookup hc') hname)
    | none =>
      have hb : vendorBase ≤ code' := h'.resolve_left (by simp [hc'])
      rw [hc, hc', if_pos hb] at he
      exact absurd (congrArg Prod.fst he) (hvendor _ (mem_of_lookup hc))
  | none =>
    have hb : vendorBase ≤ code := h.resolve_left (by simp [hc])
    cases hc' : names.lookup code' with
    | some name' =>
      rw [hc, hc', if_pos hb] at he
      exact absurd (congrArg Prod.fst he).symm (hvendor _ (mem_of_lookup hc'))
    | none =>
      have hb' : vendorBase ≤ code' := h'.resolve_left (by simp [hc'])
      rw [hc, hc', if_pos hb, if_pos hb'] at he
      exact (Int32.sub_left_inj vendorBase).1 (congrArg Prod.snd he)

end Filter

/-- **A message with known codes can be read off the call at the client.** -/
theorem callback_inj {devId : UInt64} {m m' : Message} (h : m.Known) (h' : m'.Known)
    (he : m.callback devId = m'.callback devId) : m = m' := by
  cases m with
  | error code =>
    cases m' with
    | error code' =>
      simp only [Message.callback, Option.some.injEq, Callback.onError.injEq, true_and] at he
      rw [vendorFilter_inj (by decide) (by decide) h h' (Prod.ext he.1 he.2)]
    | acquired code' => simp [Message.callback, h'.2.1, h'.2.2] at he
    | authenticated fid gid hat => simp [Message.callback, show fid ≠ 0 from h'] at he
    | templateEnrolling | templateRemoved | templateEnumerating | other => simp [Message.callback] at he
  | acquired code =>
    cases m' with
    | acquired code' =>
      simp only [Message.callback, h.2.1, h.2.2, h'.2.1, h'.2.2, or_self, if_false, Option.some.injEq,
        Callback.onAcquired.injEq, true_and] at he
      rw [vendorFilter_inj (by decide) (by decide) h.1 h'.1 (Prod.ext he.1 he.2)]
    | authenticated fid gid hat => simp [Message.callback, h.2.1, h.2.2, show fid ≠ 0 from h'] at he
    | error | templateEnrolling | templateRemoved | templateEnumerating | other =>
      simp [Message.callback, h.2.1, h.2.2] at he
  | authenticated fid gid hat =>
    have hfid : fid ≠ 0 := h
    cases m' with
    | authenticated fid' gid' hat' =>
      have hfid' : fid' ≠ 0 := h'
      simp only [Message.callback, if_pos hfid, if_pos hfid', Option.some.injEq,
        Callback.onAuthenticated.injEq, true_and] at he
      obtain ⟨rfl, rfl, ht⟩ := he
      rw [Vector.toList_inj.1 ht]
    | acquired code' => simp [Message.callback, hfid, h'.2.1, h'.2.2] at he
    | error | templateEnrolling | templateRemoved | templateEnumerating | other =>
      simp [Message.callback, hfid] at he
  | templateEnrolling | templateRemoved | templateEnumerating =>
    cases m' with
    | acquired code' => simp [Message.callback, h'.2.1, h'.2.2] at he
    | authenticated fid gid hat => simp [Message.callback, show fid ≠ 0 from h'] at he
    | error | templateEnrolling | templateRemoved | templateEnumerating | other =>
      simp_all [Message.callback]
  | other type => exact h.elim

/-! ### The calls of `notify` and the threads of the HAL -/

/-- Where a call of `notify` is: at its lock, at the load of `mClientCallback`, in the call at the client,
in `onFingerUp`, or at the end. -/
inductive NotifyPc where
  | locking (msg : Message)
  | loading (msg : Message)
  | calling (client : Client) (callback : Callback)
  | lifting
  | returning
  deriving DecidableEq

/-- The call has the mutex. -/
def NotifyPc.locked : NotifyPc → Bool
  | .locking _ => false
  | _ => true

/-- The HAL with its threads, the members that `mClientCallbackMutex` guards, the call of `notify` that
holds it, and all calls. -/
structure Facade where
  threads : Threads
  mClientCallback : Option Client
  mClientCallbackMutex : Option ℕ
  calls : Lib.Threads NotifyPc

/-- A step of the HAL's threads, a call of `setNotify`, a message, or a step of the call for one; `ok`
tells whether the client could be called. -/
inductive FacadeAct where
  | hal (a : Act)
  | setNotify (clientCallback : Option Client)
  | notify (i : ℕ) (msg : Message)
  | step (i : ℕ) (ok : Bool)
  deriving DecidableEq

/-- What can be seen: of the HAL's threads, the clients, the messages in the order of the mutex, the calls
at the clients, and the ends. -/
inductive FacadeEvent where
  | hal (e : Event)
  | registered (clientCallback : Option Client)
  | received (i : ℕ) (msg : Message)
  | called (i : ℕ) (client : Client) (callback : Callback) (ok : Bool)
  | returned (i : ℕ)
  deriving DecidableEq

/-- Whom a message is for, and the call. -/
def toClient (mDevice : UInt64) (mClientCallback : Option Client) (msg : Message) :
    Option (Client × Callback) :=
  mClientCallback.bind fun client => (msg.callback mDevice).map fun callback => (client, callback)

/-- One step of the call `i` of `notify`. -/
def Facade.stepCall (mDevice : UInt64) (s : Facade) (i : ℕ) (ok : Bool) :
    NotifyPc → Option (Facade × List FacadeEvent)
  | .locking msg =>
    if s.mClientCallbackMutex = none then
      some ({ s with mClientCallbackMutex := some i, calls := s.calls.put i (.loading msg) },
        [.received i msg])
    else none
  | .loading msg =>
    some ({ s with calls := s.calls.put i (match toClient mDevice s.mClientCallback msg with
      | some (client, callback) => .calling client callback
      | none => .returning) }, [])
  | .calling client callback =>
    some ({ s with calls := s.calls.put i (if callback.recognized && !ok then .lifting else .returning) },
      [.called i client callback ok])
  | .lifting =>
    let r := onFingerUp s.threads.hal
    some ({ s with threads := { s.threads with hal := r.1 }, calls := s.calls.put i .returning },
      r.2.map .hal)
  | .returning =>
    some ({ s with mClientCallbackMutex := none, calls := s.calls.drop i }, [.returned i])

/-- One step of the HAL. -/
def Facade.step (daemon : Bool) (mDevice : UInt64) (s : Facade) :
    FacadeAct → Option (Facade × List FacadeEvent)
  | .hal a => (threadsStep daemon s.threads a).map fun r => ({ s with threads := r.1 }, r.2.map .hal)
  | .setNotify clientCallback =>
    if s.mClientCallbackMutex = none then
      some ({ s with mClientCallback := clientCallback }, [.registered clientCallback])
    else none
  | .notify i msg =>
    if s.calls.find i = none then some ({ s with calls := s.calls.put i (.locking msg) }, []) else none
  | .step i ok => (s.calls.find i).bind (s.stepCall mDevice i ok)

/-- **The fingerprint HAL with its client.** -/
def Facade.lts (daemon : Bool) (mDevice : UInt64) : Lts Facade FacadeAct FacadeEvent where
  init := ⟨(threadsLts daemon).init, none, none, []⟩
  step := Facade.step daemon mDevice

/-! ### What a step can do -/

/-- The steps, by what they do. -/
inductive FacadeMove (daemon : Bool) (mDevice : UInt64) (s : Facade) :
    FacadeAct → Facade → List FacadeEvent → Prop
  | hal {a t os} (h : threadsStep daemon s.threads a = some (t, os)) :
      FacadeMove daemon mDevice s (.hal a) { s with threads := t } (os.map .hal)
  | registered (clientCallback : Option Client) (hfree : s.mClientCallbackMutex = none) :
      FacadeMove daemon mDevice s (.setNotify clientCallback)
        { s with mClientCallback := clientCallback } [.registered clientCallback]
  | arrived {i msg} (hi : s.calls.find i = none) :
      FacadeMove daemon mDevice s (.notify i msg) { s with calls := s.calls.put i (.locking msg) } []
  | received {i ok msg} (hi : s.calls.find i = some (.locking msg))
      (hfree : s.mClientCallbackMutex = none) :
      FacadeMove daemon mDevice s (.step i ok)
        { s with mClientCallbackMutex := some i, calls := s.calls.put i (.loading msg) } [.received i msg]
  | forwarded {i ok msg client callback} (hi : s.calls.find i = some (.loading msg))
      (hto : toClient mDevice s.mClientCallback msg = some (client, callback)) :
      FacadeMove daemon mDevice s (.step i ok)
        { s with calls := s.calls.put i (.calling client callback) } []
  | dropped {i ok msg} (hi : s.calls.find i = some (.loading msg))
      (hto : toClient mDevice s.mClientCallback msg = none) :
      FacadeMove daemon mDevice s (.step i ok) { s with calls := s.calls.put i .returning } []
  | called {i ok client callback} (hi : s.calls.find i = some (.calling client callback))
      (hdone : callback.recognized = false ∨ ok = true) :
      FacadeMove daemon mDevice s (.step i ok) { s with calls := s.calls.put i .returning }
        [.called i client callback ok]
  | failed {i client callback} (hi : s.calls.find i = some (.calling client callback))
      (hfid : callback.recognized = true) :
      FacadeMove daemon mDevice s (.step i false) { s with calls := s.calls.put i .lifting }
        [.called i client callback false]
  | lifted {i ok} (hi : s.calls.find i = some .lifting) :
      FacadeMove daemon mDevice s (.step i ok)
        { s with threads := { s.threads with hal := (onFingerUp s.threads.hal).1 }
                 calls := s.calls.put i .returning }
        ((onFingerUp s.threads.hal).2.map .hal)
  | returned {i ok} (hi : s.calls.find i = some .returning) :
      FacadeMove daemon mDevice s (.step i ok)
        { s with mClientCallbackMutex := none, calls := s.calls.drop i } [.returned i]

section Moves

variable {daemon : Bool} {mDevice : UInt64} {s s' : Facade} {a : FacadeAct} {tr os : List FacadeEvent}

theorem facadeMove_of_step (h : s.step daemon mDevice a = some (s', os)) :
    FacadeMove daemon mDevice s a s' os := by
  cases a with
  | hal a =>
    obtain ⟨⟨t, os'⟩, ht, he⟩ := Option.map_eq_some_iff.1 h
    obtain ⟨rfl, rfl⟩ := Prod.mk.inj he
    exact .hal ht
  | setNotify clientCallback =>
    obtain ⟨hfree, h⟩ := Option.ite_none_right_eq_some.1 h
    obtain ⟨rfl, rfl⟩ := Prod.mk.inj (Option.some.inj h)
    exact .registered clientCallback hfree
  | notify i msg =>
    obtain ⟨hi, h⟩ := Option.ite_none_right_eq_some.1 h
    obtain ⟨rfl, rfl⟩ := Prod.mk.inj (Option.some.inj h)
    exact .arrived hi
  | step i ok =>
    obtain ⟨pc, hi, h⟩ := Option.bind_eq_some_iff.1 h
    cases pc with
    | locking msg =>
      obtain ⟨hfree, h⟩ := Option.ite_none_right_eq_some.1 h
      obtain ⟨rfl, rfl⟩ := Prod.mk.inj (Option.some.inj h)
      exact .received hi hfree
    | loading msg =>
      obtain ⟨rfl, rfl⟩ := Prod.mk.inj (Option.some.inj h)
      cases hto : toClient mDevice s.mClientCallback msg with
      | none => exact .dropped hi hto
      | some x => exact .forwarded hi hto
    | calling client callback =>
      obtain ⟨rfl, rfl⟩ := Prod.mk.inj (Option.some.inj h)
      cases hfid : callback.recognized with
      | false => exact .called hi (.inl hfid)
      | true =>
        cases ok with
        | true => exact .called hi (.inr rfl)
        | false => exact .failed hi hfid
    | lifting =>
      obtain ⟨rfl, rfl⟩ := Prod.mk.inj (Option.some.inj h)
      exact .lifted hi
    | returning =>
      obtain ⟨rfl, rfl⟩ := Prod.mk.inj (Option.some.inj h)
      exact .returned hi

end Moves

/-! ### The mutex -/

/-- **The mutex is held by the call that is past its lock**, and the client does not change under it. -/
structure FacadeInv (s : Facade) : Prop where
  nodup : (s.calls.map Prod.fst).Nodup
  holds : ∀ i pc, s.calls.find i = some pc → pc.locked = true → s.mClientCallbackMutex = some i
  held : ∀ i, s.mClientCallbackMutex = some i → ∃ pc, s.calls.find i = some pc ∧ pc.locked = true
  client : ∀ i client callback, s.calls.find i = some (.calling client callback) →
    s.mClientCallback = some client

section Mutex

variable {daemon : Bool} {mDevice : UInt64} {s s' : Facade} {a : FacadeAct} {tr os : List FacadeEvent}
variable {i : ℕ} {pc : NotifyPc}

theorem FacadeInv.put (h : FacadeInv s) (hi : ∀ j, s.mClientCallbackMutex = some j → j = i)
    (hpc : pc.locked = true)
    (hclient : ∀ client callback, pc = .calling client callback → s.mClientCallback = some client)
    (t : Threads) :
    FacadeInv ⟨t, s.mClientCallback, some i, s.calls.put i pc⟩ := by
  refine ⟨Threads.nodup_put h.nodup, fun j pc' hj hl => ?_, fun j hj => ?_, fun j c cb hj => ?_⟩
  · dsimp only at hj
    rw [Threads.find_put] at hj
    split_ifs at hj with hji
    · exact congrArg some hji.symm
    · exact absurd (hi j (h.holds j pc' hj hl)) hji
  · obtain rfl := Option.some.inj hj
    exact ⟨pc, by dsimp only; rw [Threads.find_put, if_pos rfl], hpc⟩
  · dsimp only at hj
    rw [Threads.find_put] at hj
    split_ifs at hj with hji
    · exact hclient c cb (Option.some.inj hj)
    · exact h.client j c cb hj

theorem FacadeInv.holder (h : FacadeInv s) (hi : s.calls.find i = some pc) (hpc : pc.locked = true) :
    s.mClientCallbackMutex = some i := h.holds i pc hi hpc

theorem FacadeInv.only (h : FacadeInv s) (hi : s.calls.find i = some pc) (hpc : pc.locked = true) :
    ∀ j, s.mClientCallbackMutex = some j → j = i := by
  intro j hj
  rw [h.holder hi hpc] at hj
  exact (Option.some.inj hj).symm

theorem FacadeInv.next (h : FacadeInv s) {pc' : NotifyPc} (hi : s.calls.find i = some pc)
    (hpc : pc.locked = true) (hpc' : pc'.locked = true)
    (hclient : ∀ client callback, pc' = .calling client callback → s.mClientCallback = some client)
    (t : Threads) :
    FacadeInv { s with threads := t, calls := s.calls.put i pc' } := by
  have hput := h.put (h.only hi hpc) hpc' hclient t
  rw [← h.holder hi hpc] at hput
  exact hput

theorem FacadeInv.not_locked (h : FacadeInv s) (hfree : s.mClientCallbackMutex = none)
    (hi : s.calls.find i = some pc) : pc.locked = false := by
  by_contra hpc
  have := h.holder hi (by simpa using hpc)
  rw [hfree] at this
  cases this

theorem FacadeInv.move (h : FacadeInv s) (hm : FacadeMove daemon mDevice s a s' os) : FacadeInv s' := by
  cases hm with
  | hal _ => exact ⟨h.nodup, h.holds, h.held, h.client⟩
  | registered clientCallback hfree =>
    refine ⟨h.nodup, h.holds, h.held, fun i client callback hi => ?_⟩
    cases h.not_locked hfree hi
  | @arrived i msg hi =>
    have hne : ∀ j pc, s.calls.find j = some pc → j ≠ i := by
      rintro j pc hj rfl
      rw [hi] at hj
      cases hj
    refine ⟨Threads.nodup_put h.nodup, fun j pc hj hpc => ?_, fun j hj => ?_, fun j c cb hj => ?_⟩
    · dsimp only at hj
      rw [Threads.find_put] at hj
      split_ifs at hj with hji
      · obtain rfl := Option.some.inj hj
        cases hpc
      · exact h.holds j pc hj hpc
    · obtain ⟨pc, hpc, hl⟩ := h.held j hj
      exact ⟨pc, by dsimp only; rw [Threads.find_put, if_neg (hne j pc hpc)]; exact hpc, hl⟩
    · dsimp only at hj
      rw [Threads.find_put] at hj
      split_ifs at hj with hji
      · cases hj
      · exact h.client j c cb hj
  | received hi hfree =>
    exact h.put (by simp [hfree]) rfl (by simp) s.threads
  | forwarded hi hto =>
    refine h.next hi rfl rfl (fun c cb he => ?_) s.threads
    obtain ⟨client, hclient, hto⟩ := Option.bind_eq_some_iff.1 hto
    obtain ⟨callback, -, hto⟩ := Option.map_eq_some_iff.1 hto
    obtain ⟨rfl, rfl⟩ := Prod.mk.inj hto
    obtain ⟨rfl, rfl⟩ := NotifyPc.calling.inj he
    exact hclient
  | dropped hi _ | called hi _ | failed hi _ => exact h.next hi rfl rfl (by simp) s.threads
  | lifted hi => exact h.next hi rfl rfl (by simp) _
  | @returned i ok hi =>
    have hlock : ∀ j pc, (s.calls.drop i).find j = some pc → pc.locked = false := by
      intro j pc hj
      rw [Threads.find_drop h.nodup] at hj
      split_ifs at hj with hji
      by_contra hpc
      exact hji (h.only hi rfl j (h.holder hj (by simpa using hpc)))
    refine ⟨Threads.nodup_drop h.nodup, fun j pc hj hpc => ?_, by simp, fun j c cb hj => ?_⟩
    · rw [hlock j pc hj] at hpc
      cases hpc
    · cases hlock j _ hj

theorem facadeInv_run {C : Facade → FacadeAct → Prop} (h : (Facade.lts daemon mDevice).Run C tr s) :
    FacadeInv s := by
  refine h.inv_state ?_ fun hi _ hs => hi.move (facadeMove_of_step hs)
  refine ⟨by simp [Facade.lts], ?_, ?_, ?_⟩
  · intro i pc hi; cases hi
  · intro i hi; cases hi
  · intro i client callback hi; cases hi

theorem FacadeInv.step_enabled (h : FacadeInv s) (hcalls : s.calls ≠ []) (ok : Bool) :
    ∃ i, (s.step daemon mDevice (.step i ok)).isSome = true := by
  have henabled : ∀ i pc, s.calls.find i = some pc → (pc.locked = true ∨ s.mClientCallbackMutex = none) →
      (s.step daemon mDevice (.step i ok)).isSome = true := by
    intro i pc hi hpc
    simp only [Facade.step, hi, Option.bind_some]
    cases pc with
    | locking msg => simp [Facade.stepCall, hpc.resolve_left (by simp [NotifyPc.locked])]
    | loading | calling | lifting | returning => rfl
  cases hm : s.mClientCallbackMutex with
  | some i =>
    obtain ⟨pc, hi, hpc⟩ := h.held i hm
    exact ⟨i, henabled i pc hi (.inl hpc)⟩
  | none =>
    cases hc : s.calls with
    | nil => exact absurd hc hcalls
    | cons x xs =>
      obtain ⟨i, pc⟩ := x
      exact ⟨i, henabled i pc (by rw [hc, Threads.find_cons, if_pos rfl]) (.inr hm)⟩

end Mutex

/-! ### The messages and the calls at the clients -/

/-- The calls at the clients, in order. -/
def clientCalls (tr : List FacadeEvent) : List (Client × Callback) :=
  tr.filterMap fun
    | .called _ client callback _ => some (client, callback)
    | _ => none

/-- The client that is registered after the events. -/
def clientAfter : Option Client → List FacadeEvent → Option Client
  | client, [] => client
  | _, .registered clientCallback :: tr => clientAfter clientCallback tr
  | client, _ :: tr => clientAfter client tr

/-- The calls that the messages stand for, each at the client that is registered when it is received. -/
def owed (mDevice : UInt64) : Option Client → List FacadeEvent → List (Client × Callback)
  | _, [] => []
  | _, .registered clientCallback :: tr => owed mDevice clientCallback tr
  | client, .received _ msg :: tr => (toClient mDevice client msg).toList ++ owed mDevice client tr
  | client, _ :: tr => owed mDevice client tr

/-- The call at the client that a call of `notify` still has to make. -/
def NotifyPc.due (mDevice : UInt64) (mClientCallback : Option Client) :
    NotifyPc → Option (Client × Callback)
  | .loading msg => toClient mDevice mClientCallback msg
  | .calling client callback => some (client, callback)
  | _ => none

/-- What the holder of the mutex still has to make. -/
def Facade.due (mDevice : UInt64) (s : Facade) : Option (Client × Callback) :=
  s.mClientCallbackMutex.bind fun i => (s.calls.find i).bind (NotifyPc.due mDevice s.mClientCallback)

section Messages

variable {daemon : Bool} {mDevice : UInt64} {s s' : Facade} {a : FacadeAct} {tr os : List FacadeEvent}
variable {client : Option Client}

@[simp] theorem clientCalls_append (tr os : List FacadeEvent) :
    clientCalls (tr ++ os) = clientCalls tr ++ clientCalls os := List.filterMap_append

theorem clientAfter_append : clientAfter client (tr ++ os) = clientAfter (clientAfter client tr) os := by
  induction tr generalizing client with
  | nil => rfl
  | cons e tr ih => cases e <;> exact ih

theorem owed_append : owed mDevice client (tr ++ os) =
    owed mDevice client tr ++ owed mDevice (clientAfter client tr) os := by
  induction tr generalizing client with
  | nil => rfl
  | cons e tr ih =>
    cases e with
    | received i msg => simp only [List.cons_append, owed, ih, clientAfter, List.append_assoc]
    | hal | registered | called | returned => exact ih

@[simp] theorem clientCalls_hal (es : List Event) : clientCalls (es.map .hal) = [] := by
  induction es with
  | nil => rfl
  | cons e es ih => exact ih

@[simp] theorem clientAfter_hal (es : List Event) : clientAfter client (es.map .hal) = client := by
  induction es with
  | nil => rfl
  | cons e es ih => exact ih

@[simp] theorem owed_hal (es : List Event) : owed mDevice client (es.map .hal) = [] := by
  induction es with
  | nil => rfl
  | cons e es ih => exact ih

theorem due_of_free (hfree : s.mClientCallbackMutex = none) : s.due mDevice = none := by
  rw [Facade.due, hfree, Option.bind_none]

theorem due_of_holder {i : ℕ} {pc : NotifyPc} (hm : s.mClientCallbackMutex = some i)
    (hi : s.calls.find i = some pc) : s.due mDevice = pc.due mDevice s.mClientCallback := by
  rw [Facade.due, hm, Option.bind_some, hi, Option.bind_some]

theorem due_put {i : ℕ} {pc : NotifyPc} {t : Threads} (hm : s.mClientCallbackMutex = some i) :
    Facade.due mDevice { s with threads := t, calls := s.calls.put i pc } =
      pc.due mDevice s.mClientCallback :=
  due_of_holder hm (by dsimp only; rw [Threads.find_put, if_pos rfl])

theorem due_arrived {i : ℕ} {msg : Message} (h : FacadeInv s) (hi : s.calls.find i = none) :
    Facade.due mDevice { s with calls := s.calls.put i (.locking msg) } = s.due mDevice := by
  unfold Facade.due
  dsimp only
  cases hm : s.mClientCallbackMutex with
  | none => rfl
  | some j =>
    obtain ⟨pc, hj, -⟩ := h.held j hm
    have hne : j ≠ i := by
      rintro rfl
      rw [hi] at hj
      cases hj
    rw [Option.bind_some, Option.bind_some, Threads.find_put, if_neg hne]

/-- What has been made and what is due are what the messages stand for. -/
structure Forwarded (mDevice : UInt64) (tr : List FacadeEvent) (s : Facade) : Prop where
  client : clientAfter none tr = s.mClientCallback
  calls : clientCalls tr ++ (s.due mDevice).toList = owed mDevice none tr

theorem Forwarded.quiet (h : Forwarded mDevice tr s) (hcalls : clientCalls os = [])
    (hafter : ∀ client, clientAfter client os = client) (howed : ∀ client, owed mDevice client os = [])
    (hclient : s'.mClientCallback = s.mClientCallback) (hdue : s'.due mDevice = s.due mDevice) :
    Forwarded mDevice (tr ++ os) s' := by
  refine ⟨?_, ?_⟩
  · rw [clientAfter_append, hafter, hclient, h.client]
  · rw [clientCalls_append, hcalls, owed_append, howed, hdue, List.append_nil, List.append_nil, h.calls]

theorem Forwarded.move (h : Forwarded mDevice tr s) (hi : FacadeInv s)
    (hm : FacadeMove daemon mDevice s a s' os) : Forwarded mDevice (tr ++ os) s' := by
  cases hm with
  | hal _ =>
    exact h.quiet (clientCalls_hal _) (fun _ => clientAfter_hal _) (fun _ => owed_hal _) rfl rfl
  | registered clientCallback hfree =>
    refine ⟨by rw [clientAfter_append]; rfl, ?_⟩
    have hcalls := h.calls
    rw [due_of_free hfree] at hcalls
    rw [clientCalls_append, owed_append, ← hcalls, Facade.due]
    dsimp only
    rw [hfree]
    rfl
  | arrived hnew => exact h.quiet rfl (fun _ => rfl) (fun _ => rfl) rfl (due_arrived hi hnew)
  | @received i ok msg hloc hfree =>
    refine ⟨by rw [clientAfter_append]; exact h.client, ?_⟩
    have hcalls := h.calls
    rw [due_of_free hfree] at hcalls
    rw [due_of_holder (i := i) rfl (by dsimp only; rw [Threads.find_put, if_pos rfl]), clientCalls_append,
      owed_append, ← hcalls, h.client]
    simp [clientCalls, owed, NotifyPc.due]
  | forwarded hloc hto =>
    refine h.quiet rfl (fun _ => rfl) (fun _ => rfl) rfl ?_
    rw [due_put (hi.holder hloc rfl), due_of_holder (hi.holder hloc rfl) hloc]
    exact hto.symm
  | dropped hloc hto =>
    refine h.quiet rfl (fun _ => rfl) (fun _ => rfl) rfl ?_
    rw [due_put (hi.holder hloc rfl), due_of_holder (hi.holder hloc rfl) hloc]
    exact hto.symm
  | called hloc _ | failed hloc _ =>
    refine ⟨by rw [clientAfter_append]; exact h.client, ?_⟩
    have hcalls := h.calls
    rw [due_of_holder (hi.holder hloc rfl) hloc] at hcalls
    rw [due_put (hi.holder hloc rfl), clientCalls_append, owed_append, ← hcalls]
    simp [clientCalls, owed, NotifyPc.due]
  | lifted hloc =>
    refine h.quiet (clientCalls_hal _) (fun _ => clientAfter_hal _) (fun _ => owed_hal _) rfl ?_
    rw [due_put (hi.holder hloc rfl), due_of_holder (hi.holder hloc rfl) hloc]
    rfl
  | returned hloc =>
    refine h.quiet rfl (fun _ => rfl) (fun _ => rfl) rfl ?_
    rw [due_of_holder (hi.holder hloc rfl) hloc, due_of_free rfl]
    rfl

theorem forwarded_run {C : Facade → FacadeAct → Prop} (h : (Facade.lts daemon mDevice).Run C tr s) :
    FacadeInv s ∧ Forwarded mDevice tr s := by
  refine h.inv (I := fun tr s => FacadeInv s ∧ Forwarded mDevice tr s)
    ⟨facadeInv_run (.init (C := C)), rfl, rfl⟩ ?_
  intro tr s a s' os hi _ hs
  have hm := facadeMove_of_step hs
  exact ⟨hi.1.move hm, hi.2.move hi.1 hm⟩

/-- A call at a client is made by a call of `notify` that has the mutex, at the client registered then. -/
theorem called_of_move (hi : FacadeInv s) (hf : Forwarded mDevice tr s)
    (hm : FacadeMove daemon mDevice s a s' os) {i : ℕ} {c : Client} {callback : Callback} {ok : Bool}
    {pre post : List FacadeEvent} (hos : os = pre ++ .called i c callback ok :: post) :
    clientAfter none (tr ++ pre) = some c := by
  have hsingle : ∀ e : FacadeEvent, [e] = pre ++ .called i c callback ok :: post →
      pre = [] ∧ e = .called i c callback ok := by
    intro e he
    cases pre with
    | nil => exact ⟨rfl, (List.cons.inj he).1⟩
    | cons x xs => simp at he
  have hmem : FacadeEvent.called i c callback ok ∈ os := by simp [hos]
  cases hm with
  | hal _ | lifted _ => simp at hmem
  | arrived _ | forwarded _ _ | dropped _ _ => cases hmem
  | registered _ _ | received _ _ | returned _ => cases (hsingle _ hos).2
  | called hloc _ | failed hloc _ =>
    obtain ⟨rfl, he⟩ := hsingle _ hos
    cases he
    rw [List.append_nil, hf.client]
    exact hi.client _ _ _ hloc

/-- **The callbacks of the HAL, in every order of the library's messages, the client's calls and the HAL's
own threads**: the clients are called for the messages in the order in which `notify` takes them, once for
each message that stands for a call, and each call goes to the client that is registered at that moment;
and no call of `notify` is ever stuck. -/
theorem callbacks_of_messages (h : (Facade.lts daemon mDevice).Reach tr s) :
    clientCalls tr ++ (s.due mDevice).toList = owed mDevice none tr ∧
      (∀ i c callback ok, Whenever (· = .called i c callback ok)
        (fun pre => clientAfter none pre = some c) tr) ∧
      (s.calls ≠ [] → ∃ i, (s.step daemon mDevice (.step i true)).isSome = true) := by
  obtain ⟨hi, hf⟩ := forwarded_run h
  refine ⟨hf.calls, fun i c callback ok => ?_, fun hcalls => hi.step_enabled hcalls true⟩
  induction h with
  | init => exact whenever_nil
  | step hr _ hs ih =>
    obtain ⟨hi, hf⟩ := forwarded_run hr
    refine (ih hi hf).append ?_
    rintro pre e post hos rfl
    exact called_of_move hi hf (facadeMove_of_step hs) hos

end Messages

/-- A client that is replaced while a message waits for the mutex. -/
def replacedClient : List FacadeAct :=
  [.setNotify (some 1), .notify 0 (.acquired 1), .notify 1 (.acquired 1001), .step 1 true, .step 1 true,
   .step 1 true, .setNotify (some 2), .step 0 true, .step 0 true, .step 0 true]

theorem callbacks_of_messages_replacedClient : ∃ tr s, (Facade.lts true 7).Reach tr s ∧
    clientCalls tr = [(2, .onAcquired 7 .partialImage 0)] ∧ owed 7 none tr = clientCalls tr := by
  obtain ⟨tr, s, h, hcalls, hdue⟩ := Lts.exists_run (M := Facade.lts true 7) (C := fun _ _ => True)
    (P := fun tr s => clientCalls tr = [(2, .onAcquired 7 .partialImage 0)] ∧ s.due 7 = none)
    replacedClient (by decide)
  refine ⟨tr, s, h, hcalls, ?_⟩
  rw [← (callbacks_of_messages h).1, hdue, Option.toList_none, List.append_nil]

/-! ### The press of a recognition that cannot be delivered -/

/-- The events of the HAL's threads; the others are dropped. -/
def FacadeEvent.inner : FacadeEvent → Option Event
  | .hal e => some e
  | _ => none

/-- A condition on the steps of the HAL's threads. -/
def onFacade (D : Threads → Act → Prop) (s : Facade) : FacadeAct → Prop
  | .hal a => D s.threads a
  | _ => True

instance (D : Threads → Act → Prop) [∀ s a, Decidable (D s a)] (s : Facade) (a : FacadeAct) :
    Decidable (onFacade D s a) := by
  unfold onFacade; split <;> infer_instance

section Lifting

variable {daemon : Bool} {mDevice : UInt64} {s s' : Facade} {a : FacadeAct} {tr os : List FacadeEvent}

theorem filterMap_inner_hal (es : List Event) :
    (es.map FacadeEvent.hal).filterMap FacadeEvent.inner = es := by
  rw [List.filterMap_map]
  exact List.filterMap_some

/-- **Seen through the members, the HAL with its client is the HAL with its threads**: a finger that
`notify` lifts is one more call of `onFingerUp`. -/
theorem facade_refines_threads (daemon : Bool) (mDevice : UInt64) {D : Threads → Act → Prop}
    (hD : ∀ t, D t .onFingerUp) :
    Refines (Facade.lts daemon mDevice) (onFacade D) (threadsLts daemon) D Facade.threads
      FacadeEvent.inner where
  init := rfl
  step := by
    intro s a s' os hc hs
    cases facadeMove_of_step hs with
    | @hal a t os h => exact .inr ⟨a, hc, by rw [filterMap_inner_hal]; exact h⟩
    | lifted _ => exact .inr ⟨.onFingerUp, hD _, by rw [filterMap_inner_hal]; rfl⟩
    | registered _ _ | arrived _ | received _ _ | forwarded _ _ | dropped _ _ | called _ _ | failed _ _
    | returned _ => exact .inl ⟨rfl, rfl⟩

theorem onFingerUp_lifts (h : Hal) : (onFingerUp h).1.mFingerDown = false := by
  by_cases hd : h.mFingerDown = true
  · rw [onFingerUp_of_down hd]
  · rw [onFingerUp_of_up (by simpa using hd)]
    simpa using hd

theorem up_of_threadsStep {t t' : Threads} {b : Act} {es : List Event}
    (h : threadsStep daemon t b = some (t', es)) (hup : t.hal.mFingerDown = false)
    (hdown : ∀ q, Event.down q ∉ es) : t'.hal.mFingerDown = false := by
  have hm := threadsMove_of_step h
  rcases hm.frame with ⟨setOk, rfl⟩ | ⟨rfl, hd⟩ | ⟨hf, -⟩
  · cases hm with
    | down => exact absurd List.mem_cons_self (hdown _)
  · rw [hup] at hd
    cases hd
  · rw [hf.down, hup]

/-- The call `i` is about to lift the finger, or the finger is up. -/
def Ending (i : ℕ) (mid : List FacadeEvent) (s : Facade) : Prop :=
  (.returned i ∉ mid ∧ s.calls.find i = some .lifting) ∨ s.threads.hal.mFingerDown = false

theorem Ending.move {i : ℕ} {mid : List FacadeEvent} (h : Ending i mid s) (hi : FacadeInv s)
    (hm : FacadeMove daemon mDevice s a s' os) (hdown : ∀ q, FacadeEvent.hal (.down q) ∉ os) :
    Ending i (mid ++ os) s' := by
  rcases h with ⟨hret, hloc⟩ | hup
  · -- A step of another call leaves this one at its call of `onFingerUp`.
    have hother : ∀ {j pc}, s.calls.find j = some pc → pc ≠ .lifting → i ≠ j := by
      rintro j pc hj hpc rfl
      rw [hj] at hloc
      exact hpc (Option.some.inj hloc)
    have hput : ∀ {j} pc, i ≠ j → (s.calls.put j pc).find i = some .lifting := by
      intro j pc hij
      rw [Threads.find_put, if_neg hij, hloc]
    cases hm with
    | hal _ => exact .inl ⟨by simpa using hret, hloc⟩
    | registered _ _ => exact .inl ⟨by simpa using hret, hloc⟩
    | @arrived j msg hj =>
      have hij : i ≠ j := by
        rintro rfl
        rw [hj] at hloc
        cases hloc
      exact .inl ⟨by simpa using hret, hput _ hij⟩
    | received hj _ => exact .inl ⟨by simpa using hret, hput _ (hother hj (by simp))⟩
    | forwarded hj _ => exact .inl ⟨by simpa using hret, hput _ (hother hj (by simp))⟩
    | dropped hj _ => exact .inl ⟨by simpa using hret, hput _ (hother hj (by simp))⟩
    | called hj _ => exact .inl ⟨by simpa using hret, hput _ (hother hj (by simp))⟩
    | failed hj _ => exact .inl ⟨by simpa using hret, hput _ (hother hj (by simp))⟩
    | lifted _ => exact .inr (onFingerUp_lifts _)
    | returned hj =>
      have hij := hother hj (by simp)
      refine .inl ⟨by simpa [hij] using hret, ?_⟩
      dsimp only
      rw [Threads.find_drop hi.nodup, if_neg hij, hloc]
  · cases hm with
    | hal h => exact .inr (up_of_threadsStep h hup fun q hq => hdown q (List.mem_map_of_mem hq))
    | lifted _ => exact .inr (onFingerUp_lifts _)
    | registered _ _ | arrived _ | received _ _ | forwarded _ _ | dropped _ _ | called _ _ | failed _ _
    | returned _ => exact .inr hup

/-- A recognition that could not be delivered is the last thing its call tells the client. -/
theorem lifting_of_failed (hm : FacadeMove daemon mDevice s a s' os) {i : ℕ} {c : Client}
    {callback : Callback} {pre mid : List FacadeEvent} (hfid : callback.recognized = true)
    (hos : os = pre ++ .called i c callback false :: mid) :
    mid = [] ∧ s'.calls.find i = some .lifting := by
  have hsingle : ∀ e : FacadeEvent, [e] = pre ++ .called i c callback false :: mid →
      mid = [] ∧ e = .called i c callback false := by
    intro e he
    cases pre with
    | nil => exact ⟨(List.cons.inj he).2.symm, (List.cons.inj he).1⟩
    | cons x xs => simp at he
  have hmem : FacadeEvent.called i c callback false ∈ os := by simp [hos]
  cases hm with
  | hal _ | lifted _ => simp at hmem
  | arrived _ | forwarded _ _ | dropped _ _ => cases hmem
  | registered _ _ | received _ _ | returned _ => cases (hsingle _ hos).2
  | called _ hdone =>
    cases (hsingle _ hos).2
    simp [hfid] at hdone
  | failed _ _ =>
    obtain ⟨rfl, he⟩ := hsingle _ hos
    cases he
    exact ⟨rfl, by dsimp only; rw [Threads.find_put, if_pos rfl]⟩

theorem ending_run {C : Facade → FacadeAct → Prop} (h : (Facade.lts daemon mDevice).Run C tr s)
    {i : ℕ} {c : Client} {callback : Callback} {pre mid : List FacadeEvent}
    (hfid : callback.recognized = true) (htr : tr = pre ++ .called i c callback false :: mid)
    (hdown : ∀ q, FacadeEvent.hal (.down q) ∉ mid) : Ending i mid s := by
  induction h generalizing mid with
  | init => simp at htr
  | step hr _ hs ih =>
    have hm := facadeMove_of_step hs
    rcases split_append htr with ⟨pre', -, hos⟩ | ⟨mid, htr', rfl⟩
    · obtain ⟨rfl, hloc⟩ := lifting_of_failed hm hfid hos
      exact .inl ⟨List.not_mem_nil, hloc⟩
    · have hend := ih htr' fun q hq => hdown q (List.mem_append_left _ hq)
      exact hend.move (facadeInv_run hr) hm fun q hq => hdown q (List.mem_append_right _ hq)

/-- **A recognition that cannot be delivered ends the press**, in every order of the steps in which the
property can be set: the HBM is requested exactly while a finger is down or its `CMD_FINGER_UP` is queued;
and once the call of `notify` whose recognised finger the client could not be told of has returned, no
finger is down until the next press, so that the HBM is on no longer than `CMD_FINGER_UP` is queued. -/
theorem failed_authentication_lifts
    (h : (Facade.lts daemon mDevice).Run (onFacade (onThreads HbmSetOk)) tr s) :
    (s.threads.hal.hbmProperty = true ↔
      s.threads.hal.mFingerDown = true ∨ s.threads.hal.queues .fingerUp) ∧
      ∀ pre i c callback mid, tr = pre ++ .called i c callback false :: mid →
        callback.recognized = true → .returned i ∈ mid → (∀ q, .hal (.down q) ∉ mid) →
        s.threads.hal.mFingerDown = false ∧
          (s.threads.hal.hbmProperty = true ↔ s.threads.hal.queues .fingerUp) := by
  have hthreads := (facade_refines_threads daemon mDevice (D := onThreads HbmSetOk) fun _ => rfl).run h
  have hhbm : s.threads.hal.hbmProperty = true ↔
      s.threads.hal.mFingerDown = true ∨ s.threads.hal.queues .fingerUp :=
    hbm_run ((threads_refines_lock daemon hbmSetOk_of_detached).run hthreads)
  refine ⟨hhbm, fun pre i c callback mid htr hfid hret hdown => ?_⟩
  have hup : s.threads.hal.mFingerDown = false := by
    rcases ending_run h hfid htr hdown with ⟨hnot, -⟩ | hup
    · exact absurd hret hnot
    · exact hup
  exact ⟨hup, by simpa [hup] using hhbm⟩

end Lifting

/-- What the client of `deadClient` cannot be told. -/
def undelivered : Callback := .onAuthenticated 7 3 0 (Vector.replicate 69 0).toList

/-- A recognised finger that a dead client is told of, and the worker's round after it. -/
def deadClient : List FacadeAct :=
  [.setNotify (some 1), .hal (.onFingerDown true), .notify 0 (.authenticated 3 0 (Vector.replicate 69 0)),
   .step 0 true, .step 0 true, .step 0 false, .step 0 true, .step 0 true, .hal (.worker true)]

theorem failed_authentication_lifts_deadClient : ∃ tr s,
    (Facade.lts true 7).Run (onFacade (onThreads HbmSetOk)) tr s ∧
      .hal (.down 1) ∈ tr ∧ s.threads.hal.hbmProperty = false := by
  obtain ⟨tr, s, h, htr, hup⟩ := Lts.exists_run (M := Facade.lts true 7)
    (C := onFacade (onThreads HbmSetOk)) (P := fun tr s =>
      tr = [.registered (some 1), .hal (.down 1), .hal (.hbm true),
        .received 0 (.authenticated 3 0 (Vector.replicate 69 0))] ++ .called 0 1 undelivered false ::
          [.hal (.up 2), .returned 0, .hal (.sent ⟨2, .fingerUp⟩), .hal (.hbm false)] ∧
      ¬ s.threads.hal.queues .fingerUp) deadClient (by decide)
  have hpress := (failed_authentication_lifts h).2 _ 0 1 undelivered _ htr (by decide) (by simp) (by simp)
  exact ⟨tr, s, h, by simp [htr], by simpa [hup] using hpress.2⟩

end TrebleDoze.Fingerprint
