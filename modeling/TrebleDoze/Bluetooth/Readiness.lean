import TrebleDoze.Bluetooth.Session
import TrebleDoze.Lib.Lts

/-!
# What the observers know of `IsSessionReady`

* `announces_iff`: a call that changes `IsSessionReady` tells every observer so, unless it is one of two
  kinds (`Silent`): a start whose message queue cannot be mapped, on a ready session, and a change of
  the configuration that revives a session whose configuration such a start has dropped;
* `readiness_announced`: in the runs without such calls no observer's view is stale
  (`restart_unannounced`: not in all runs).
-/

namespace TrebleDoze.Bluetooth

open TrebleDoze.Lib

variable {κ : Tag → Type}

namespace BluetoothAudioSession

/-- If the call changes `IsSessionReady`, it invokes `session_changed_cb_` of every observer. -/
def Announces (s : BluetoothAudioSession κ) (c : Call κ) : Prop :=
  (s.call c).1.isSessionReady ≠ s.isSessionReady →
    ∀ o ∈ s.observers, .sessionChanged o.1 ∈ (s.call c).2

/-- The two kinds of calls that change `IsSessionReady` without a report. -/
def Silent (s : BluetoothAudioSession κ) : Call κ → Prop
  | .onSessionStarted stackIface mqDesc audioConfig _ =>
    stackIface.isSome = true ∧ acceptsTag s.sessionType audioConfig.tag = true ∧
      descOk mqDesc = false ∧ s.isSessionReady = true
  | .reportAudioConfigChanged audioConfig =>
    s.sessionType.isOffloadLeAudioUnicast = true ∧ audioConfig.tag = .leAudioConfig ∧
      s.stackIface.isSome = true ∧ s.audioConfig = none
  | _ => False

/-- Nobody is there to be told, or the call is not silent. -/
def Heard (s : BluetoothAudioSession κ) (c : Call κ) : Prop := s.observers = [] ∨ ¬ s.Silent c

instance (s : BluetoothAudioSession κ) (c : Call κ) : Decidable (s.Silent c) := by
  unfold Silent
  cases c with
  | reportAudioConfigChanged a =>
    exact decidable_of_iff (s.sessionType.isOffloadLeAudioUnicast = true ∧ a.tag = .leAudioConfig ∧
      s.stackIface.isSome = true ∧ s.audioConfig.isNone = true) (by simp)
  | onSessionStarted _ _ _ _ => dsimp only; infer_instance
  | onSessionEnded | registerStatusCback _ | unregisterStatusCback _ => dsimp only; infer_instance

instance (s : BluetoothAudioSession κ) (c : Call κ) : Decidable (s.Heard c) :=
  decidable_of_iff (s.observers.isEmpty = true ∨ ¬ s.Silent c) (by simp [Heard])

section

variable {s : BluetoothAudioSession κ}

theorem mem_reportSessionStatus {cookie : ℕ} :
    .sessionChanged cookie ∈ s.reportSessionStatus ↔ ∃ o ∈ s.observers, o.1 = cookie := by
  simp [reportSessionStatus]

/-- The session types of `ReportAudioConfigChanged` need no data queue. -/
theorem needsNoDataMq_of_unicast {t : SessionType} (h : t.isOffloadLeAudioUnicast = true) :
    needsNoDataMq t = true := by
  cases t <;> first | rfl | cases h

theorem isSessionReady_of_unicast (h : s.sessionType.isOffloadLeAudioUnicast = true) :
    s.isSessionReady = (s.stackIface.isSome && s.audioConfig.isSome) := by
  simp [isSessionReady, needsNoDataMq_of_unicast h]

/-- A start either reports, or changes nothing, or drops the configuration of the session. -/
theorem announces_onSessionStarted (iface : Option ℕ) (mqDesc : Option DataMQ)
    (cfg : AudioConfiguration κ) (modes : List LatencyMode) :
    s.Announces (.onSessionStarted iface mqDesc cfg modes) ↔
      s.Heard (.onSessionStarted iface mqDesc cfg modes) := by
  have hc := onSessionStarted_cases s mqDesc cfg modes iface
  unfold Announces Heard Silent
  dsimp only [call]
  generalize s.onSessionStarted iface mqDesc cfg modes = r at hc
  obtain ⟨s', ns⟩ := r
  cases hc with
  | noIface => simp
  | badConfig i h => simp [h]
  | badMq i h hd =>
    have hr : ({ s with audioConfig := none, dataMq := none } : BluetoothAudioSession κ).isSessionReady =
        false := isSessionReady_of_audioConfig rfl
    rw [hr]
    cases hs : s.isSessionReady with
    | false => simp
    | true => simp [h, hd, List.eq_nil_iff_forall_not_mem]
  | ok i h hd =>
    refine iff_of_true (fun _ o ho => ?_) (.inr (by simp [hd]))
    exact mem_reportSessionStatus.2 ⟨o, ho, rfl⟩

theorem announces_onSessionEnded : s.Announces .onSessionEnded := by
  intro hne o ho
  have hr : s.onSessionEnded.1.isSessionReady = false := isSessionReady_of_stackIface rfl
  have hs : s.isSessionReady = true := by
    cases h : s.isSessionReady with
    | true => rfl
    | false => exact absurd (hr.trans h.symm) hne
  dsimp only [call]
  rw [onSessionEnded_eq, if_pos hs]
  exact mem_reportSessionStatus.2 ⟨o, ho, rfl⟩

/-- A change of the configuration reports nothing to `session_changed_cb_`. -/
theorem announces_reportAudioConfigChanged (cfg : AudioConfiguration κ) :
    s.Announces (.reportAudioConfigChanged cfg) ↔ s.Heard (.reportAudioConfigChanged cfg) := by
  unfold Announces Heard Silent
  dsimp only [call, reportAudioConfigChanged]
  by_cases hu : s.sessionType.isOffloadLeAudioUnicast = true
  · by_cases ht : cfg.tag = .leAudioConfig
    · have hn : ∀ cookie, .sessionChanged cookie ∉ s.observers.filterMap fun o =>
          if o.2.audioConfigurationChangedCb then some (Notification.audioConfigurationChanged o.1)
          else none := by
        intro cookie hm
        obtain ⟨o, -, ho⟩ := List.mem_filterMap.1 hm
        split at ho <;> cases ho
      have hr := isSessionReady_of_unicast hu
      have hr' := isSessionReady_of_unicast (s := { s with audioConfig := some cfg }) hu
      simp only [hu, ht, Bool.not_true, ne_eq, not_true_eq_false, if_false, hr, hr', hn, true_and,
        Bool.false_eq_true, imp_false, Option.isSome_some, Bool.and_true]
      cases hi : s.stackIface <;> cases ha : s.audioConfig <;>
        simp [List.eq_nil_iff_forall_not_mem]
    · simp [hu, ht]
  · simp [hu]

/-- **A call announces a change of readiness exactly when it is heard.** -/
theorem announces_iff (c : Call κ) : s.Announces c ↔ s.Heard c := by
  cases c with
  | onSessionStarted iface mqDesc cfg modes => exact announces_onSessionStarted iface mqDesc cfg modes
  | onSessionEnded => exact iff_of_true announces_onSessionEnded (.inr (by simp [Silent]))
  | reportAudioConfigChanged cfg => exact announces_reportAudioConfigChanged cfg
  | registerStatusCback callbacks =>
    exact iff_of_true (fun h => absurd rfl h) (.inr (by simp [Silent]))
  | unregisterStatusCback cookie =>
    exact iff_of_true (fun h => absurd rfl h) (.inr (by simp [Silent]))

end

end BluetoothAudioSession

/-! ### The observers' views -/

/-- A session, and the readiness each observer knows of, by its cookie. -/
structure Watched (κ : Tag → Type) where
  session : BluetoothAudioSession κ
  view : ℕ → Bool

namespace Watched

/-- An observer reads `IsSessionReady` when it registers and in `session_changed_cb_`. -/
def step (w : Watched κ) (c : BluetoothAudioSession.Call κ) : Watched κ × List Notification :=
  let r := w.session.call c
  let reads := fun cookie : ℕ =>
    decide (.sessionChanged cookie ∈ r.2) || !(w.session.observers.any fun o => o.1 == cookie)
  ({ session := r.1
     view := fun cookie => if reads cookie then r.1.isSessionReady else w.view cookie }, r.2)

/-- Any order of calls on a session of the given type, none of whose observers knows anything yet. -/
def lts (κ : Tag → Type) (sessionType : SessionType) :
    Lts (Watched κ) (BluetoothAudioSession.Call κ) Notification where
  init := ⟨.create sessionType, fun _ => false⟩
  step w c := some (w.step c)

/-- What an observer knows is the truth. -/
def Current (w : Watched κ) : Prop :=
  ∀ o ∈ w.session.observers, w.view o.1 = w.session.isSessionReady

theorem current_step {w : Watched κ} {c : BluetoothAudioSession.Call κ} (h : w.Current)
    (hc : w.session.Heard c) : (w.step c).1.Current := by
  intro o ho
  have ha := BluetoothAudioSession.announces_iff c |>.2 hc
  dsimp only [step] at ho ⊢
  split_ifs with hr
  · rfl
  · simp only [Bool.or_eq_true, decide_eq_true_eq, not_or, Bool.not_eq_true', Bool.not_eq_false,
      List.any_eq_true, beq_iff_eq] at hr
    obtain ⟨hn, o', ho', he⟩ := hr
    have hsame : (w.session.call c).1.isSessionReady = w.session.isSessionReady := by
      by_contra hne
      exact hn (he ▸ ha hne o' ho')
    rw [hsame, ← he]
    exact h o' ho'

end Watched

/-- **Every change of readiness is announced by the calls that are heard, and only by these**; in a run
of such calls no observer's view is stale. -/
theorem readiness_announced {sessionType : SessionType} {ns : List Notification} {w : Watched κ}
    (h : (Watched.lts κ sessionType).Run (fun w c => w.session.Heard c) ns w) :
    w.Current ∧ ∀ (s : BluetoothAudioSession κ) (c : BluetoothAudioSession.Call κ),
      s.Announces c ↔ s.Heard c := by
  refine ⟨h.inv_state ?_ ?_, fun s c => BluetoothAudioSession.announces_iff c⟩
  · intro o ho
    simp [Watched.lts, BluetoothAudioSession.create] at ho
  · intro w c w' ns hw hc hs
    obtain ⟨rfl, -⟩ := Prod.mk.inj (Option.some.inj hs)
    exact Watched.current_step hw hc

/-- A session that is set up, started by the stack and ended by it. -/
def startAndEnd : List (BluetoothAudioSession.Call NoPayload) :=
  [.registerStatusCback ⟨false, false⟩, .onSessionStarted (some 1) (some ⟨0, true⟩) ⟨.pcmConfig, ()⟩ [],
    .onSessionEnded]

theorem readiness_announced_startAndEnd : ∃ ns w,
    (Watched.lts NoPayload .a2dpSoftwareEncoding).Run (fun w c => w.session.Heard c) ns w ∧
      ns = [.sessionChanged 256, .sessionChanged 256] ∧ w.Current ∧
      w.session.Announces (.onSessionStarted (some 1) none ⟨.pcmConfig, ()⟩ []) := by
  obtain ⟨ns, w, h, hns, hh⟩ := Lts.exists_run (M := Watched.lts NoPayload .a2dpSoftwareEncoding)
    (C := fun w c => w.session.Heard c) (P := fun ns w => ns = [.sessionChanged 256, .sessionChanged 256]
      ∧ w.session.Heard (.onSessionStarted (some 1) none ⟨.pcmConfig, ()⟩ [])) startAndEnd (by decide)
  obtain ⟨hcur, ha⟩ := readiness_announced h
  exact ⟨ns, w, h, hns, hcur, (ha _ _).2 hh⟩

/-- A session that is started, and started again with a message queue that cannot be mapped. -/
def startTwice : List (BluetoothAudioSession.Call NoPayload) :=
  [.registerStatusCback ⟨false, false⟩, .onSessionStarted (some 1) (some ⟨0, true⟩) ⟨.pcmConfig, ()⟩ []]

/-- The second start drops the readiness of the session, and tells nobody. -/
theorem restart_unannounced : ∃ ns w,
    (Watched.lts NoPayload .a2dpSoftwareEncoding).Reach ns w ∧
      ¬ w.session.Announces (.onSessionStarted (some 1) (some ⟨0, false⟩) ⟨.pcmConfig, ()⟩ []) := by
  obtain ⟨ns, w, h, hh⟩ := Lts.exists_run (M := Watched.lts NoPayload .a2dpSoftwareEncoding)
    (C := fun _ _ => True) (P := fun _ w => ¬ w.session.Heard
      (.onSessionStarted (some 1) (some ⟨0, false⟩) ⟨.pcmConfig, ()⟩ [])) startTwice (by decide)
  exact ⟨ns, w, h, fun ha => hh ((BluetoothAudioSession.announces_iff _).1 ha)⟩

end TrebleDoze.Bluetooth
