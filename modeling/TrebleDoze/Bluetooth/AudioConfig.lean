import TrebleDoze.Bluetooth.Session
import TrebleDoze.Lib.Lts

/-!
# The audio configuration of a session

`GetAudioConfig` answers with the configuration of a ready session, and with a default of the session
type otherwise; its callers read the union without looking at the tag.

* `accepted_call`: no call leaves a configuration in the session that `UpdateAudioConfig` would refuse;
* `getAudioConfig_allowed`: in every run the configuration returned is of a kind that belongs to the
  session type.
-/

namespace TrebleDoze.Bluetooth

open TrebleDoze.Lib

variable {κ : Tag → Type}

/-- The kinds of audio configuration that belong to a session type; the type `UNKNOWN`, which the stack
opens no session of, has the default of the software sessions. -/
def SessionType.allowedTags : SessionType → List Tag
  | unknown => [.pcmConfig]
  | a2dpSoftwareEncoding | a2dpSoftwareDecoding => [.pcmConfig]
  | hearingAidSoftwareEncoding => [.pcmConfig]
  | hfpSoftwareEncoding | hfpSoftwareDecoding => [.pcmConfig]
  | leAudioSoftwareEncoding | leAudioSoftwareDecoding => [.pcmConfig]
  | leAudioBroadcastSoftwareEncoding => [.pcmConfig]
  | a2dpHardwareOffloadEncoding | a2dpHardwareOffloadDecoding => [.a2dp, .a2dpConfig]
  | hfpHardwareOffload => [.hfpConfig]
  | leAudioHardwareOffloadEncoding | leAudioHardwareOffloadDecoding => [.leAudioConfig]
  | leAudioBroadcastHardwareOffloadEncoding => [.leAudioBroadcastConfig]

namespace BluetoothAudioSession

/-! ### `GetAudioConfig` -/

section

variable [∀ t, Inhabited (κ t)]

/-- What `GetAudioConfig` returns for a session that is not ready, with default payloads. -/
def defaultAudioConfig : SessionType → AudioConfiguration κ
  | .a2dpHardwareOffloadEncoding | .a2dpHardwareOffloadDecoding => ⟨.a2dpConfig, default⟩
  | .hfpHardwareOffload => ⟨.hfpConfig, default⟩
  | .leAudioHardwareOffloadEncoding | .leAudioHardwareOffloadDecoding => ⟨.leAudioConfig, default⟩
  | .leAudioBroadcastHardwareOffloadEncoding => ⟨.leAudioBroadcastConfig, default⟩
  | _ => ⟨.pcmConfig, default⟩

/-- `GetAudioConfig`; a ready session has a configuration. -/
def getAudioConfig (s : BluetoothAudioSession κ) : AudioConfiguration κ :=
  if !s.isSessionReady then defaultAudioConfig s.sessionType
  else s.audioConfig.getD (defaultAudioConfig s.sessionType)

end

theorem audioConfig_of_ready {s : BluetoothAudioSession κ} (h : s.isSessionReady = true) :
    ∃ cfg, s.audioConfig = some cfg := by
  rw [← Option.isSome_iff_exists]
  simp only [isSessionReady, Bool.and_eq_true] at h
  exact h.2

theorem getAudioConfig_of_ready [∀ t, Inhabited (κ t)] {s : BluetoothAudioSession κ}
    {cfg : AudioConfiguration κ} (h : s.isSessionReady = true) (hc : s.audioConfig = some cfg) :
    s.getAudioConfig = cfg := by
  simp [getAudioConfig, h, hc]

/-! ### The kind of the configuration -/

/-- The configuration of the session, if it has one, is one that `UpdateAudioConfig` accepts. -/
def Accepted (s : BluetoothAudioSession κ) : Prop :=
  ∀ cfg, s.audioConfig = some cfg → acceptsTag s.sessionType cfg.tag = true

theorem accepted_of_none {s : BluetoothAudioSession κ} (h : s.audioConfig = none) : s.Accepted := by
  intro cfg hc
  rw [h] at hc
  cases hc

theorem accepted_of_some {s : BluetoothAudioSession κ} {cfg : AudioConfiguration κ}
    (h : s.audioConfig = some cfg) (ht : acceptsTag s.sessionType cfg.tag = true) : s.Accepted := by
  intro cfg' hc
  obtain rfl := Option.some.inj (h.symm.trans hc)
  exact ht

/-- No call leaves a configuration in the session that `UpdateAudioConfig` refuses. -/
theorem accepted_call {s : BluetoothAudioSession κ} (h : s.Accepted) (c : Call κ) :
    (s.call c).1.Accepted := by
  cases c with
  | onSessionStarted iface mqDesc cfg modes =>
    have hs := onSessionStarted_cases s mqDesc cfg modes iface
    dsimp only [call]
    generalize s.onSessionStarted iface mqDesc cfg modes = r at hs
    obtain ⟨s', ns⟩ := r
    cases hs with
    | noIface => exact h
    | badConfig => exact h
    | badMq => exact accepted_of_none rfl
    | ok i ht => exact accepted_of_some rfl ht
  | onSessionEnded => exact accepted_of_none rfl
  | registerStatusCback | unregisterStatusCback => exact h
  | reportAudioConfigChanged cfg =>
    dsimp only [call, reportAudioConfigChanged]
    split_ifs with hu ht
    · exact h
    · exact h
    · -- the third writer makes the check of `UpdateAudioConfig` for these session types by itself
      have hu : s.sessionType.isOffloadLeAudioUnicast = true := by simpa using hu
      have ht : cfg.tag = .leAudioConfig := by simpa using ht
      refine accepted_of_some rfl ?_
      simp [acceptsTag, hu, ht]

/-- Any order of calls on a session of the given type. -/
def lts (κ : Tag → Type) (sessionType : SessionType) :
    Lts (BluetoothAudioSession κ) (Call κ) Notification where
  init := create sessionType
  step s c := some (s.call c)

theorem accepted_run {sessionType : SessionType} {ns : List Notification} {s : BluetoothAudioSession κ}
    (h : (lts κ sessionType).Reach ns s) : s.sessionType = sessionType ∧ s.Accepted := by
  refine h.inv_state (I := fun s => s.sessionType = sessionType ∧ s.Accepted) ?_ ?_
  · exact ⟨rfl, accepted_of_none rfl⟩
  · intro s c s' ns hi _ hs
    obtain rfl : (s.call c).1 = s' := congrArg Prod.fst (Option.some.inj hs)
    exact ⟨(sessionType_call c).trans hi.1, accepted_call hi.2 c⟩

theorem mem_allowedTags_of_accepts {t : SessionType} {tag : Tag} (h : acceptsTag t tag = true) :
    tag ∈ t.allowedTags := by
  revert h
  cases t <;> cases tag <;> decide

theorem defaultAudioConfig_mem_allowedTags [∀ t, Inhabited (κ t)] (t : SessionType) :
    (defaultAudioConfig t : AudioConfiguration κ).tag ∈ t.allowedTags := by
  cases t <;> simp [defaultAudioConfig, SessionType.allowedTags]

end BluetoothAudioSession

/-- **`GetAudioConfig` returns a configuration of a kind that belongs to the session type**, whether the
session is ready or not, after any calls. -/
theorem getAudioConfig_allowed [∀ t, Inhabited (κ t)] {sessionType : SessionType}
    {ns : List Notification} {s : BluetoothAudioSession κ}
    (h : (BluetoothAudioSession.lts κ sessionType).Reach ns s) :
    s.getAudioConfig.tag ∈ sessionType.allowedTags := by
  obtain ⟨rfl, ha⟩ := BluetoothAudioSession.accepted_run h
  cases hr : s.isSessionReady with
  | false =>
    have hd : s.getAudioConfig = BluetoothAudioSession.defaultAudioConfig s.sessionType := by
      simp [BluetoothAudioSession.getAudioConfig, hr]
    rw [hd]
    exact BluetoothAudioSession.defaultAudioConfig_mem_allowedTags s.sessionType
  | true =>
    obtain ⟨cfg, hc⟩ := BluetoothAudioSession.audioConfig_of_ready hr
    rw [BluetoothAudioSession.getAudioConfig_of_ready hr hc]
    exact BluetoothAudioSession.mem_allowedTags_of_accepts (ha cfg hc)

/-- The stack opens an LE Audio session, and changes its configuration once in the right kind and once
in a wrong one. -/
def reconfigured : List (BluetoothAudioSession.Call NoPayload) :=
  [.onSessionStarted (some 1) none ⟨.leAudioConfig, ()⟩ [],
    .reportAudioConfigChanged ⟨.leAudioConfig, ()⟩, .reportAudioConfigChanged ⟨.pcmConfig, ()⟩]

theorem getAudioConfig_allowed_reconfigured : ∃ ns, ∃ s : BluetoothAudioSession NoPayload,
    (BluetoothAudioSession.lts NoPayload .leAudioHardwareOffloadEncoding).Reach ns s ∧
      s.isSessionReady = true ∧
      s.getAudioConfig.tag ∈ SessionType.allowedTags .leAudioHardwareOffloadEncoding := by
  obtain ⟨ns, s, h, hr⟩ := Lts.exists_run (C := fun _ _ => True)
    (M := BluetoothAudioSession.lts NoPayload .leAudioHardwareOffloadEncoding)
    (P := fun _ s => s.isSessionReady = true) reconfigured (by decide)
  exact ⟨ns, s, h, hr, getAudioConfig_allowed h⟩

end TrebleDoze.Bluetooth
