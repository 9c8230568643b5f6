import TrebleDoze.Bluetooth.Session
import TrebleDoze.Bluetooth.SessionHidl

/-!
# What the ports use of a session

`SessionControl σ χ` is the interface of `BluetoothAudioSessionControl`: the operations on a session `σ`
with the calls `χ` of the stack's side, and what its users rely on.  The sessions behind it are
`SessionControl.aidl`, `SessionControl.hidl` and, for the HIDL ports of a device that has the AIDL
service, `SessionControl.hidlOverAidl`.
-/

namespace TrebleDoze.Bluetooth

/-- The observer that a notification is for. -/
def Notification.cookie : Notification → ℕ
  | controlResult cookie _ _ | sessionChanged cookie | audioConfigurationChanged cookie
  | lowLatencyModeAllowed cookie _ => cookie

/-- It is a result of `StartStream` or `SuspendStream`. -/
def Notification.isResult : Notification → Bool
  | controlResult _ _ _ => true
  | _ => false

/-- The control functions of a session. -/
structure SessionControl (σ χ : Type) where
  isSessionReady : σ → Bool
  registerControlResultCback : σ → ℕ × σ
  unregisterControlResultCback : ℕ → σ → σ
  startStream : Bool → σ → Bool
  suspendStream : Bool → σ → Bool
  reportControlStatus : Bool → BluetoothAudioStatus → σ → List Notification
  call : σ → χ → σ × List Notification
  /-- No two observers have the same cookie. -/
  WellFormed : σ → Prop
  startStream_eq : ∀ isOk s, startStream isOk s = (isSessionReady s && isOk)
  suspendStream_eq : ∀ isOk s, suspendStream isOk s = (isSessionReady s && isOk)
  register_wellFormed : ∀ {s}, WellFormed s → WellFormed (registerControlResultCback s).2
  unregister_wellFormed : ∀ {s} cookie, WellFormed s → WellFormed (unregisterControlResultCback cookie s)
  call_wellFormed : ∀ {s} c, WellFormed s → WellFormed (call s c).1
  nodup_report : ∀ {s} startResp status, WellFormed s →
    ((reportControlStatus startResp status s).map Notification.cookie).Nodup
  nodup_call : ∀ {s} c, WellFormed s → ((call s c).2.map Notification.cookie).Nodup
  isResult_call : ∀ {s} c, ∀ n ∈ (call s c).2, n.isResult = false

/-! ### The table of observers -/

section Observers

variable {α : Type} {observers : List (ℕ × α)}

theorem nodup_registerObserver (initValue : ℕ) (callbacks : α) (h : (observers.map Prod.fst).Nodup) :
    ((registerObserver initValue callbacks observers).2.map Prod.fst).Nodup := by
  unfold registerObserver
  split
  · rename_i i hi
    have hfree := List.find?_some hi
    simp only [Bool.not_eq_true', List.any_eq_false, beq_iff_eq] at hfree
    rw [List.map_append, List.nodup_append]
    refine ⟨h, by simp, ?_⟩
    intro c hc d hd
    obtain ⟨o, ho, rfl⟩ := List.mem_map.1 hc
    obtain rfl : d = initValue + i := by simpa using hd
    exact hfree o ho
  · exact h

theorem nodup_unregisterObserver (cookie : ℕ) (h : (observers.map Prod.fst).Nodup) :
    ((unregisterObserver cookie observers).map Prod.fst).Nodup :=
  h.sublist (List.filter_sublist.map _)

theorem nodup_map_observers {f : ℕ × α → Notification} (hf : ∀ o, (f o).cookie = o.1)
    (h : (observers.map Prod.fst).Nodup) : ((observers.map f).map Notification.cookie).Nodup := by
  have e : Notification.cookie ∘ f = Prod.fst := funext hf
  rw [List.map_map, e]
  exact h

/-- Each observer is told one thing at most, and no result. -/
def Tells (observers : List (ℕ × α)) (ns : List Notification) : Prop :=
  ∃ f : ℕ × α → Option Notification, ns = observers.filterMap f ∧
    ∀ o, ∀ n ∈ f o, n.cookie = o.1 ∧ n.isResult = false

theorem tells_nil : Tells observers [] := ⟨fun _ => none, by simp, by simp⟩

theorem tells_sessionChanged : Tells observers (observers.map fun o => .sessionChanged o.1) :=
  ⟨fun o => some (.sessionChanged o.1), by simp, by simp [Notification.cookie, Notification.isResult]⟩

variable {ns : List Notification}

theorem Tells.isResult (ht : Tells observers ns) {n : Notification} (hn : n ∈ ns) :
    n.isResult = false := by
  obtain ⟨f, rfl, hf⟩ := ht
  obtain ⟨o, -, ho⟩ := List.mem_filterMap.1 hn
  exact (hf o n ho).2

theorem Tells.nodup (ht : Tells observers ns) (h : (observers.map Prod.fst).Nodup) :
    (ns.map Notification.cookie).Nodup := by
  obtain ⟨f, rfl, hf⟩ := ht
  refine h.sublist ?_
  rw [List.map_filterMap]
  clear h
  induction observers with
  | nil => exact .slnil
  | cons o os ih =>
    cases ho : f o with
    | none =>
      rw [List.filterMap_cons_none (by simp [ho])]
      exact ih.cons _
    | some n =>
      rw [List.filterMap_cons_some (b := n.cookie) (by simp [ho]), (hf o n ho).1]
      exact ih.cons_cons _

end Observers

/-! ### The AIDL session -/

namespace BluetoothAudioSession

variable {κ : Tag → Type} {s : BluetoothAudioSession κ}

/-- The calls of the stack's side; the others are those of the observers. -/
def Call.ofStack : Call κ → Bool
  | .registerStatusCback _ | .unregisterStatusCback _ => false
  | _ => true

theorem call_tells (c : Call κ) (hc : c.ofStack = true) :
    (s.call c).1.observers = s.observers ∧ Tells s.observers (s.call c).2 := by
  cases c with
  | onSessionStarted iface mqDesc cfg modes =>
    have hs := onSessionStarted_cases s mqDesc cfg modes iface
    dsimp only [call]
    generalize s.onSessionStarted iface mqDesc cfg modes = r at hs
    obtain ⟨s', ns⟩ := r
    cases hs with
    | ok => exact ⟨rfl, tells_sessionChanged⟩
    | noIface | badConfig | badMq => exact ⟨rfl, tells_nil⟩
  | onSessionEnded =>
    dsimp only [call]
    rw [onSessionEnded_eq]
    refine ⟨rfl, ?_⟩
    dsimp only
    split_ifs
    · exact tells_sessionChanged
    · exact tells_nil
  | reportAudioConfigChanged cfg =>
    dsimp only [call, reportAudioConfigChanged]
    split_ifs
    · exact ⟨rfl, tells_nil⟩
    · exact ⟨rfl, tells_nil⟩
    · refine ⟨rfl, _, rfl, fun o n hn => ?_⟩
      split_ifs at hn
      · obtain rfl := Option.some.inj hn
        exact ⟨rfl, rfl⟩
      · cases hn
  | registerStatusCback | unregisterStatusCback => cases hc

end BluetoothAudioSession

namespace SessionControl

variable {κ : Tag → Type}

/-- The control functions of the AIDL session; a port registers `cbacks` without the callbacks that
may be null. -/
def aidl (κ : Tag → Type) : SessionControl (BluetoothAudioSession κ)
    { c : BluetoothAudioSession.Call κ // c.ofStack = true } where
  isSessionReady s := s.isSessionReady
  registerControlResultCback s := s.registerStatusCback ⟨false, false⟩
  unregisterControlResultCback cookie s := s.unregisterStatusCback cookie
  startStream isOk s := s.startStream isOk
  suspendStream isOk s := s.suspendStream isOk
  reportControlStatus startResp status s := s.reportControlStatus startResp status
  call s c := s.call c.1
  WellFormed s := (s.observers.map Prod.fst).Nodup
  startStream_eq isOk s := by
    cases h : s.isSessionReady <;> cases isOk <;> simp [BluetoothAudioSession.startStream, h]
  suspendStream_eq isOk s := by
    cases h : s.isSessionReady <;> cases isOk <;> simp [BluetoothAudioSession.suspendStream, h]
  register_wellFormed h := nodup_registerObserver _ _ h
  unregister_wellFormed cookie h := nodup_unregisterObserver cookie h
  call_wellFormed c h := by
    rw [(BluetoothAudioSession.call_tells c.1 c.2).1]
    exact h
  nodup_report _ _ h := nodup_map_observers (fun _ => rfl) h
  nodup_call c h := (BluetoothAudioSession.call_tells c.1 c.2).2.nodup h
  isResult_call c _ hn := (BluetoothAudioSession.call_tells c.1 c.2).2.isResult hn

end SessionControl

/-! ### The HIDL session -/

namespace Hidl.BluetoothAudioSession

variable {s : BluetoothAudioSession}

theorem started_tells (configOk : Bool) (iface : Option ℕ) (dataMQ : Option DataMQ) :
    (s.started configOk iface dataMQ).1.observers = s.observers ∧
      Tells s.observers (s.started configOk iface dataMQ).2 := by
  unfold started updateDataPath reportSessionStatus
  split_ifs
  · exact ⟨rfl, tells_nil⟩
  · exact ⟨rfl, tells_nil⟩
  · cases dataMQ with
    | none => exact ⟨rfl, tells_sessionChanged⟩
    | some desc =>
      cases hd : desc.isValid with
      | true => simpa [hd] using tells_sessionChanged
      | false => simpa [hd] using tells_nil

theorem call_tells (c : Call) :
    (s.call c).1.observers = s.observers ∧ Tells s.observers (s.call c).2 := by
  cases c with
  | onSessionStarted iface dataMQ kind => exact started_tells _ iface dataMQ
  | onSessionStarted21 iface dataMQ kind =>
    dsimp only [call]
    unfold onSessionStarted21
    split_ifs
    · exact started_tells _ iface dataMQ
    · exact started_tells _ iface dataMQ
  | onSessionEnded =>
    refine ⟨rfl, ?_⟩
    dsimp only [call, onSessionEnded]
    split_ifs
    · exact tells_sessionChanged
    · exact tells_nil

end Hidl.BluetoothAudioSession

namespace SessionControl

/-- The control functions of the HIDL session, on a device without the AIDL service. -/
def hidl : SessionControl Hidl.BluetoothAudioSession Hidl.BluetoothAudioSession.Call where
  isSessionReady s := s.isSessionReady
  registerControlResultCback s := s.registerStatusCback
  unregisterControlResultCback cookie s := s.unregisterStatusCback cookie
  startStream isOk s := s.startStream isOk
  suspendStream isOk s := s.suspendStream isOk
  reportControlStatus startResp status s := s.reportControlStatus startResp status
  call s c := s.call c
  WellFormed s := (s.observers.map Prod.fst).Nodup
  startStream_eq isOk s := by
    cases h : s.isSessionReady <;> cases isOk <;> simp [Hidl.BluetoothAudioSession.startStream, h]
  suspendStream_eq isOk s := by
    cases h : s.isSessionReady <;> cases isOk <;> simp [Hidl.BluetoothAudioSession.suspendStream, h]
  register_wellFormed h := nodup_registerObserver _ _ h
  unregister_wellFormed cookie h := nodup_unregisterObserver cookie h
  call_wellFormed c h := by
    rw [(Hidl.BluetoothAudioSession.call_tells c).1]
    exact h
  nodup_report _ _ h := nodup_map_observers (fun _ => rfl) h
  nodup_call c h := (Hidl.BluetoothAudioSession.call_tells c).2.nodup h
  isResult_call c _ hn := (Hidl.BluetoothAudioSession.call_tells c).2.isResult hn

/-- The control functions of the HIDL session on a device with the AIDL service: those of the AIDL
session, with the statuses that the legacy callbacks are given. -/
def hidlOverAidl (κ : Tag → Type) : SessionControl (BluetoothAudioSession κ)
    { c : BluetoothAudioSession.Call κ // c.ofStack = true } where
  __ := aidl κ
  reportControlStatus startResp status s := s.reportControlStatus startResp (Hidl.toHidlStatus status)
  nodup_report _ _ h := nodup_map_observers (fun _ => rfl) h

end SessionControl

end TrebleDoze.Bluetooth
