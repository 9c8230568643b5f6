import TrebleDoze.Bluetooth.AudioConfig
import TrebleDoze.Bluetooth.Provider

/-!
# The configuration of a provider and of its session

A provider keeps a copy of the configuration it opened its session with; `updateAudioConfiguration`
replaces the copy and reports the change to the session.

* `accepts`: what the derived classes require of a configuration, and `acceptsTag_of_accepts`: its kind
  is one of the session type;
* `ConfigInv`, `configInv_run`: so is the kind of the copy, in every run;
* `updateAudioConfiguration_effect`: the session takes over the new configuration if it is an LE Audio
  unicast offload session, and keeps its own if it is any other (`updateAudioConfiguration_ignored`).
-/

namespace TrebleDoze.Bluetooth

open TrebleDoze.Lib

variable {κ : Tag → Type}

namespace Provider

/-! ### The derived classes -/

/-- What the derived classes check besides the kind of a configuration: its content, and the data queue
that they make for it. -/
structure PayloadChecks (κ : Tag → Type) where
  software : SessionType → κ .pcmConfig → Bool
  parseConfiguration : κ .a2dp → Bool
  isOffloadCodecConfigurationValid : SessionType → κ .a2dpConfig → Bool

/-- What `startSession` accepts in the derived class that `openProvider` makes for a session type; for
`UNKNOWN` it makes none. -/
def accepts (checks : PayloadChecks κ) : SessionType → AudioConfiguration κ → Bool
  | .a2dpHardwareOffloadEncoding, ⟨.a2dp, value⟩ => checks.parseConfiguration value
  | .a2dpHardwareOffloadDecoding, ⟨.a2dp, value⟩ => checks.parseConfiguration value
  | .a2dpHardwareOffloadEncoding, ⟨.a2dpConfig, value⟩ =>
    checks.isOffloadCodecConfigurationValid .a2dpHardwareOffloadEncoding value
  | .a2dpHardwareOffloadDecoding, ⟨.a2dpConfig, value⟩ =>
    checks.isOffloadCodecConfigurationValid .a2dpHardwareOffloadDecoding value
  | .hfpHardwareOffload, cfg => hfpOffloadAccepts cfg
  | .leAudioBroadcastHardwareOffloadEncoding, cfg => cfg.tag == .leAudioBroadcastConfig
  | .leAudioHardwareOffloadEncoding, cfg => cfg.tag == .leAudioConfig
  | .leAudioHardwareOffloadDecoding, cfg => cfg.tag == .leAudioConfig
  | t, ⟨.pcmConfig, value⟩ => t.isSoftware && checks.software t value
  | _, _ => false

theorem acceptsTag_of_accepts {checks : PayloadChecks κ} {t : SessionType} {cfg : AudioConfiguration κ}
    (h : accepts checks t cfg = true) : BluetoothAudioSession.acceptsTag t cfg.tag = true := by
  obtain ⟨tag, value⟩ := cfg
  cases t <;> cases tag <;> first | rfl | cases h

/-! ### `updateAudioConfiguration` -/

/-- `updateAudioConfiguration`; the flag tells whether the status is ok. -/
def updateAudioConfiguration (audioConfig : AudioConfiguration κ) (p : Provider κ) :
    Bool × Provider κ :=
  match p.stackIface, p.audioConfig with
  | some _, some old =>
    if audioConfig.tag ≠ old.tag then (false, p)
    else
      (true, { p with audioConfig := some audioConfig
                      session := (p.session.reportAudioConfigChanged audioConfig).1 })
  | _, _ => (false, p)

theorem updateAudioConfiguration_ok {cfg : AudioConfiguration κ} {p p' : Provider κ}
    (h : p.updateAudioConfiguration cfg = (true, p')) :
    ∃ old, p.audioConfig = some old ∧ cfg.tag = old.tag ∧
      p' = { p with audioConfig := some cfg
                    session := (p.session.reportAudioConfigChanged cfg).1 } := by
  unfold updateAudioConfiguration at h
  split at h
  · rename_i old _ hold
    split_ifs at h with ht
    · cases h
    · exact ⟨old, hold, not_not.1 ht, (congrArg Prod.snd h).symm⟩
  · cases h

/-- What happens to a provider and its session; `elsewhere` is a call on the session by others: another
provider of the same session type, or a port. -/
inductive ConfigAct (κ : Tag → Type) where
  | own (a : Act κ)
  | updateAudioConfiguration (audioConfig : AudioConfiguration κ)
  | elsewhere (c : BluetoothAudioSession.Call κ)

/-- **A provider as `openProvider` makes it**, whose configuration may be updated, and which may share
its session. -/
def configLts (checks : PayloadChecks κ) (sessionType : SessionType) :
    Lts (Provider κ) (ConfigAct κ) Event where
  init := create sessionType
  step p
    | .own a => (lts sessionType (accepts checks sessionType)).step p a
    | .updateAudioConfiguration audioConfig => some ((p.updateAudioConfiguration audioConfig).2, [])
    | .elsewhere c => some ({ p with session := (p.session.call c).1 }, [])

/-! ### The kind of the copy -/

/-- The session is of the provider's type, and the provider's copy is of one of its kinds. -/
structure ConfigInv (t : SessionType) (p : Provider κ) : Prop where
  sessionType : p.session.sessionType = t
  accepted : ∀ cfg, p.audioConfig = some cfg → BluetoothAudioSession.acceptsTag t cfg.tag = true

section

variable {t : SessionType} {p p' : Provider κ}

theorem ConfigInv.linkToDeath (h : ConfigInv t p) (host : ℕ) (cookie : Cookie) :
    ConfigInv t (p.linkToDeath host cookie).1 := by
  unfold Provider.linkToDeath
  split_ifs
  · exact h
  · exact ⟨h.sessionType, h.accepted⟩

theorem ConfigInv.onSessionReady (h : ConfigInv t p) (dataMq : Option DataMQ) (mapped : Bool) :
    ConfigInv t (p.onSessionReady dataMq mapped) := by
  have hs : ∀ mqDesc cfg, (p.session.onSessionStarted p.stackIface mqDesc cfg
      p.latencyModes).1.sessionType = t := fun mqDesc cfg =>
    (BluetoothAudioSession.sessionType_call
      (.onSessionStarted p.stackIface mqDesc cfg p.latencyModes)).trans h.sessionType
  unfold Provider.onSessionReady
  split
  · exact h
  · split_ifs
    · exact ⟨hs _ _, h.accepted⟩
    · exact h
    · exact ⟨hs _ _, h.accepted⟩

theorem configInv_startSession {checks : PayloadChecks κ} (h : ConfigInv t p) (hostIf : Option ℕ)
    (cfg : AudioConfiguration κ) (modes : List LatencyMode) (dataMq : Option DataMQ) (mapped : Bool) :
    ConfigInv t (p.startSession (accepts checks t) hostIf cfg modes dataMq mapped).1 := by
  unfold startSession
  split_ifs with ha
  · exact h
  · cases hostIf with
    | none => exact h
    | some host =>
      have ha : accepts checks t cfg = true := by simpa using ha
      have h0 : ConfigInv t { p with latencyModes := modes, audioConfig := some cfg
                                     stackIface := some host, contexts := p.contexts + 1 } := by
        refine ⟨h.sessionType, fun cfg' hcfg => ?_⟩
        obtain rfl := Option.some.inj hcfg
        exact acceptsTag_of_accepts ha
      exact (h0.linkToDeath host (.context (p.contexts + 1))).onSessionReady dataMq mapped

theorem configInv_endSession (h : ConfigInv t p) : ConfigInv t p.endSession := by
  unfold endSession
  split
  · exact ⟨h.sessionType, fun _ hc => by cases hc⟩
  · exact ⟨h.sessionType, fun _ hc => by cases hc⟩

theorem configInv_binderDied {host : ℕ} {os : List Event} (h : ConfigInv t p)
    (hs : p.binderDied host = some (p', os)) : ConfigInv t p' := by
  have hfold : ∀ (ls : List Link) (s : BluetoothAudioSession κ),
      (ls.foldl (fun s _ => s.onSessionEnded.1) s).sessionType = s.sessionType := by
    intro ls
    induction ls with
    | nil => exact fun _ => rfl
    | cons l ls ih => exact fun s => ih s.onSessionEnded.1
  unfold binderDied at hs
  split_ifs at hs
  obtain ⟨rfl, -⟩ := Prod.mk.inj (Option.some.inj hs)
  exact ⟨(hfold _ _).trans h.sessionType, h.accepted⟩

theorem configInv_updateAudioConfiguration (h : ConfigInv t p) (cfg : AudioConfiguration κ) :
    ConfigInv t (p.updateAudioConfiguration cfg).2 := by
  cases hu : p.updateAudioConfiguration cfg with
  | mk ok q =>
    cases ok with
    | false =>
      have hq : q = p := by
        unfold updateAudioConfiguration at hu
        split at hu
        · split_ifs at hu
          · exact (congrArg Prod.snd hu).symm
          · cases hu
        · exact (congrArg Prod.snd hu).symm
      exact hq ▸ h
    | true =>
      obtain ⟨old, hold, ht, rfl⟩ := updateAudioConfiguration_ok hu
      refine ⟨(BluetoothAudioSession.sessionType_call (.reportAudioConfigChanged cfg)).trans
        h.sessionType, fun cfg' hcfg => ?_⟩
      obtain rfl := Option.some.inj hcfg
      exact ht ▸ h.accepted old hold

theorem configInv_run {checks : PayloadChecks κ} {tr : List Event}
    (h : (configLts checks t).Reach tr p) : ConfigInv t p := by
  refine h.inv_state (I := fun p => ConfigInv t p) ?_ ?_
  · exact ⟨rfl, fun _ hc => by cases hc⟩
  · intro p a p' os hi _ hs
    cases a with
    | own a =>
      cases a with
      | startSession hostIf cfg modes dataMq mapped =>
        obtain rfl := congrArg Prod.fst (Option.some.inj hs)
        exact configInv_startSession hi hostIf cfg modes dataMq mapped
      | endSession =>
        obtain rfl := congrArg Prod.fst (Option.some.inj hs)
        exact configInv_endSession hi
      | binderDied host => exact configInv_binderDied hi hs
    | updateAudioConfiguration cfg =>
      obtain rfl := congrArg Prod.fst (Option.some.inj hs)
      exact configInv_updateAudioConfiguration hi cfg
    | elsewhere c =>
      obtain rfl := congrArg Prod.fst (Option.some.inj hs)
      exact ⟨(BluetoothAudioSession.sessionType_call c).trans hi.sessionType, hi.accepted⟩

end

end Provider

/-! ### The effect on the session -/

/-- A ready LE Audio unicast offload session takes over a configuration of its kind. -/
theorem getAudioConfig_reportAudioConfigChanged [∀ t, Inhabited (κ t)] {s : BluetoothAudioSession κ}
    {cfg : AudioConfiguration κ} (hr : s.isSessionReady = true)
    (hu : s.sessionType.isOffloadLeAudioUnicast = true) (ht : cfg.tag = .leAudioConfig) :
    (s.reportAudioConfigChanged cfg).1.getAudioConfig = cfg := by
  have he : (s.reportAudioConfigChanged cfg).1 = { s with audioConfig := some cfg } := by
    simp [BluetoothAudioSession.reportAudioConfigChanged, hu, ht]
  obtain ⟨old, hold⟩ := BluetoothAudioSession.audioConfig_of_ready hr
  have hready : (s.reportAudioConfigChanged cfg).1.isSessionReady = true := by
    rw [he, ← hr]
    simp [BluetoothAudioSession.isSessionReady, hold]
  exact BluetoothAudioSession.getAudioConfig_of_ready hready (by rw [he])

/-- **What an accepted update does to a ready session**: an LE Audio unicast offload session takes over
the new configuration; a session of any other type is not told, and keeps the one it has. -/
theorem updateAudioConfiguration_effect [∀ t, Inhabited (κ t)] {checks : Provider.PayloadChecks κ}
    {sessionType : SessionType} {tr : List Provider.Event} {p p' : Provider κ}
    {cfg : AudioConfiguration κ} (h : (Provider.configLts checks sessionType).Reach tr p)
    (hr : p.session.isSessionReady = true) (hu : p.updateAudioConfiguration cfg = (true, p')) :
    (sessionType.isOffloadLeAudioUnicast = true → p'.session.getAudioConfig = cfg) ∧
      (sessionType.isOffloadLeAudioUnicast = false →
        p'.session.getAudioConfig = p.session.getAudioConfig) := by
  obtain ⟨hty, hacc⟩ := Provider.configInv_run h
  obtain ⟨old, hold, ht, rfl⟩ := Provider.updateAudioConfiguration_ok hu
  constructor
  · intro hun
    have htag : cfg.tag = .leAudioConfig := by
      have := BluetoothAudioSession.mem_allowedTags_of_accepts (hacc old hold)
      rw [ht]
      cases sessionType <;> first | simpa [SessionType.allowedTags] using this | cases hun
    exact getAudioConfig_reportAudioConfigChanged hr (hty ▸ hun) htag
  · intro hun
    have he : (p.session.reportAudioConfigChanged cfg).1 = p.session := by
      simp [BluetoothAudioSession.reportAudioConfigChanged, hty, hun]
    exact congrArg BluetoothAudioSession.getAudioConfig he

/-- Payloads told apart by a number. -/
abbrev Numbered : Tag → Type := fun _ => ℕ

/-- Any content will do. -/
def anyPayload : Provider.PayloadChecks Numbered := ⟨fun _ _ => true, fun _ => true, fun _ _ => true⟩

/-- The stack opens an LE Audio session. -/
def openLeAudio : List (Provider.ConfigAct Numbered) :=
  [.own (.startSession (some 1) ⟨.leAudioConfig, (48 : ℕ)⟩ [] none true)]

theorem updateAudioConfiguration_effect_leAudio : ∃ tr, ∃ p p' : Provider Numbered,
    (Provider.configLts anyPayload .leAudioHardwareOffloadEncoding).Reach tr p ∧
      p.updateAudioConfiguration ⟨.leAudioConfig, (32 : ℕ)⟩ = (true, p') ∧
      p'.session.getAudioConfig = ⟨.leAudioConfig, (32 : ℕ)⟩ := by
  obtain ⟨tr, p, h, hr, hu⟩ := Lts.exists_run (C := fun _ _ => True)
    (M := Provider.configLts anyPayload .leAudioHardwareOffloadEncoding)
    (P := fun _ p => p.session.isSessionReady = true ∧
      (p.updateAudioConfiguration ⟨.leAudioConfig, (32 : ℕ)⟩).1 = true) openLeAudio (by decide)
  have hp : p.updateAudioConfiguration ⟨.leAudioConfig, (32 : ℕ)⟩ =
      (true, (p.updateAudioConfiguration ⟨.leAudioConfig, (32 : ℕ)⟩).2) := Prod.ext hu rfl
  exact ⟨tr, p, _, h, hp, (updateAudioConfiguration_effect h hr hp).1 rfl⟩

/-- The stack opens an A2DP session that is encoded in software. -/
def openA2dp : List (Provider.ConfigAct Numbered) :=
  [.own (.startSession (some 1) ⟨.pcmConfig, (44100 : ℕ)⟩ [] (some ⟨0, true⟩) true)]

/-- The update of this session is accepted, and `GetAudioConfig` returns what it returned before. -/
theorem updateAudioConfiguration_ignored : ∃ tr, ∃ p : Provider Numbered,
    (Provider.configLts anyPayload .a2dpSoftwareEncoding).Reach tr p ∧
      p.session.isSessionReady = true ∧
      (p.updateAudioConfiguration ⟨.pcmConfig, (48000 : ℕ)⟩).1 = true ∧
      (p.updateAudioConfiguration ⟨.pcmConfig, (48000 : ℕ)⟩).2.session.getAudioConfig ≠
        ⟨.pcmConfig, (48000 : ℕ)⟩ :=
  Lts.exists_run openA2dp (by decide)

end TrebleDoze.Bluetooth
