import TrebleDoze.Bluetooth.A2dpFactory
import TrebleDoze.Bluetooth.LeAudioQueueSize
import TrebleDoze.Bluetooth.ProviderFactory

/-!
# From the negotiation of a codec to a session

The classes of `openProvider` with the checks they make of the content of a configuration: the software
classes of the PCM parameters, the offload A2DP classes by the parser of the codec.

* `started_session_stays`: a session that has taken a start stays as it was started, until a provider of its type
  starts or ends it, or a death is reported to it;
* `parsesA2dp_iff`: the offload classes accept what the codec of the id parses;
* `a2dp_negotiated`: a configuration that the factory proposes is accepted, and the session has it.
-/

namespace TrebleDoze.Bluetooth

open TrebleDoze.Lib

/-! ### The checks of the derived classes -/

/-- `A2dpStreamConfiguration`, as far as it is read. -/
structure A2dpStreamConfiguration where
  codecId : CodecId
  configuration : List UInt8
  deriving DecidableEq, Repr

/-- The content of the configurations. -/
def ProviderPayload : Tag → Type
  | .a2dp => A2dpStreamConfiguration
  | .pcmConfig => PcmConfiguration
  | .a2dpConfig => AudioCodecs.CodecConfiguration
  | .leAudioConfig => LeAudioConfiguration
  | .leAudioBroadcastConfig => LeAudioBroadcastConfiguration
  | .hfpConfig => Unit

/-- `isValidConfig` of `HfpSoftwareAudioProvider::startSession`. -/
def isHfpPcmConfigurationValid (pcmConfig : PcmConfiguration) : Bool :=
  pcmConfig.bitsPerSample == 16 &&
    (pcmConfig.sampleRateHz == 8000 || pcmConfig.sampleRateHz == 16000 ||
      pcmConfig.sampleRateHz == 32000) &&
    pcmConfig.channelMode == .mono && pcmConfig.dataIntervalUs == 7500

/-- What the software classes accept; those for LE Audio also need a queue that is not empty. -/
def softwareAccepts (toUint32 : ℚ → UInt32) (t : SessionType) (pcmConfig : PcmConfiguration) : Bool :=
  match t with
  | .leAudioSoftwareEncoding | .leAudioSoftwareDecoding | .leAudioBroadcastSoftwareEncoding =>
    (pcmQueueSize toUint32 t pcmConfig).isSome
  | .hfpSoftwareEncoding | .hfpSoftwareDecoding =>
    isSoftwarePcmConfigurationValid pcmConfig && isHfpPcmConfigurationValid pcmConfig
  | _ => isSoftwarePcmConfigurationValid pcmConfig

/-- The status of `ParseConfiguration` in `A2dpOffloadAudioProvider::startSession` is `OK`, for a codec
that is found. -/
def parsesA2dp (config : A2dpStreamConfiguration) : Bool :=
  match a2dpOffloadCodecFactory.getCodec config.codecId with
  | none => false
  | some codec => (codec.parseConfiguration config.configuration).toBool

/-- The checks of the classes that `openProvider` makes. -/
def providerChecks (toUint32 : ℚ → UInt32) : Provider.PayloadChecks ProviderPayload where
  software := softwareAccepts toUint32
  parseConfiguration := parsesA2dp
  isOffloadCodecConfigurationValid := AudioCodecs.isOffloadCodecConfigurationValid

/-- The configuration for `startSession` that a negotiation has led to. -/
def A2dpConfiguration.audioConfig (configuration : A2dpConfiguration) :
    AudioConfiguration ProviderPayload :=
  ⟨.a2dp, A2dpStreamConfiguration.mk configuration.id configuration.configuration⟩

/-- The codec of the id parses the configuration just when the provider accepts it. -/
theorem parsesA2dp_iff (config : A2dpStreamConfiguration) : parsesA2dp config = true ↔
    ∃ codec p, a2dpOffloadCodecFactory.getCodec config.codecId = some codec ∧
      codec.parseConfiguration config.configuration = .ok p := by
  unfold parsesA2dp
  cases a2dpOffloadCodecFactory.getCodec config.codecId with
  | none => simp
  | some codec =>
    dsimp only
    cases hp : codec.parseConfiguration config.configuration with
    | ok p => exact iff_of_true rfl ⟨codec, p, rfl, hp⟩
    | error e =>
      refine iff_of_false (by simp [Except.toBool]) ?_
      rintro ⟨codec', p, hc, hp'⟩
      obtain rfl := Option.some.inj hc
      rw [hp] at hp'
      cases hp'

theorem A2dpOffloadCodecFactory.getCodec_of_mem {f : A2dpOffloadCodecFactory} {codec : A2dpOffloadCodec}
    (h : codec ∈ f.rankedCodecs) : f.getCodec codec.id = some codec := by
  obtain ⟨codecs, hnd⟩ := f
  change codec ∈ codecs at h
  change codecs.find? (fun c => codec.id = c.id) = some codec
  induction codecs with
  | nil => cases h
  | cons c cs ih =>
    rw [List.map_cons, List.nodup_cons] at hnd
    rw [List.find?_cons]
    rcases List.mem_cons.1 h with rfl | hm
    · rw [decide_eq_true rfl]
    · have hne : codec.id ≠ c.id := fun he => hnd.1 (he ▸ List.mem_map_of_mem hm)
      rw [decide_eq_false hne]
      exact ih hnd.2 hm

/-! ### A session that nobody disturbs -/

variable {κ : Tag → Type}

/-- The session has this port, this configuration and this queue. -/
structure BluetoothAudioSession.Runs (host : ℕ) (audioConfig : AudioConfiguration κ)
    (dataMq : Option DataMQ) (session : BluetoothAudioSession κ) : Prop where
  stackIface : session.stackIface = some host
  audioConfig : session.audioConfig = some audioConfig
  dataMq : session.dataMq = dataMq

theorem SessionInv.ready_of_runs {checks : Provider.PayloadChecks κ} {rings : List SessionType}
    {t : SessionType} {host : ℕ} {cfg : AudioConfiguration κ} {dataMq : Option DataMQ}
    {session : BluetoothAudioSession κ} (h : SessionInv checks rings t session)
    (hr : session.Runs host cfg dataMq) : session.isSessionReady = true := by
  cases hsoft : t.isSoftware with
  | true => exact h.config hsoft (Option.isSome_iff_exists.2 ⟨cfg, hr.audioConfig⟩)
  | false => exact h.port hsoft (Option.isSome_iff_exists.2 ⟨host, hr.stackIface⟩)

namespace ProviderService

/-- The step leaves the session of a type alone: no provider of the type starts it with a configuration
that is accepted, or ends a session it has, or updates one of LE Audio, and no death is reported to it. -/
def Undisturbed (checks : Provider.PayloadChecks κ) (t : SessionType) (s : ProviderService κ) :
    Act κ → Prop
  | .startSession i hostIf cfg _ _ _ => hostIf = none ∨ Provider.accepts checks t cfg = false ∨
    (s.providers.find i).all (fun x => x.sessionType ≠ t) = true
  | .endSession i => (s.providers.find i).all (fun x => x.sessionType ≠ t ∨ x.stackIface = none) = true
  | .updateAudioConfiguration i _ => t.isOffloadLeAudioUnicast = false ∨
    (s.providers.find i).all (fun x => x.sessionType ≠ t) = true
  | .deliver n => s.obituaries[n]? ≠ some t
  | _ => True

instance (checks : Provider.PayloadChecks κ) (t : SessionType) (s : ProviderService κ) (a : Act κ) :
    Decidable (Undisturbed checks t s a) := by
  cases a with
  | startSession | updateAudioConfiguration => exact inferInstanceAs (Decidable (_ ∨ _))
  | endSession => exact inferInstanceAs (Decidable (_ = true))
  | deliver => exact inferInstanceAs (Decidable (_ ≠ _))
  | _ => exact .isTrue trivial

section

variable {checks : Provider.PayloadChecks κ} {s s' : ProviderService κ} {t : SessionType} {host i : ℕ}
  {x y : ProviderObject κ} {cfg : AudioConfiguration κ} {dataMq : Option DataMQ} {os : List Event}
  {session : BluetoothAudioSession κ} {a : Act κ}

/-- The session of one type changes: that of the type at hand does not, or runs on. -/
theorem runs_update {t' : SessionType} (h : (s.sessions t).Runs host cfg dataMq)
    (hs : t = t' → session.Runs host cfg dataMq) :
    (Function.update s.sessions t' session t).Runs host cfg dataMq := by
  by_cases ht : t = t'
  · subst ht
    rw [Function.update_self]
    exact hs rfl
  · rwa [Function.update_of_ne ht]

theorem runs_step (h : (s.sessions t).Runs host cfg dataMq) (hi : ServiceInv checks s)
    (hu : Undisturbed checks t s a) (hs : s.step checks a = some (s', os)) :
    (s'.sessions t).Runs host cfg dataMq := by
  cases a with
  | openProvider t' made =>
    obtain rfl := congrArg Prod.fst (Option.some.inj hs)
    unfold openProvider
    by_cases hc : t' = .unknown ∨ t'.queueMade = .constructor ∧ made = false
    · rwa [if_pos hc]
    · rwa [if_neg hc]
  | startSession i hostIf cfg' modes made mapped =>
    obtain ⟨x, hf, he⟩ := Option.map_eq_some_iff.1 hs
    obtain rfl := congrArg Prod.fst he
    rcases startSession_cases hi hf hostIf cfg' modes made mapped with he | ⟨ha, y, p, hy, he, hp⟩
    · rwa [he]
    · rw [he]
      have ht : y.sessionType = x.sessionType := by rw [hy, ProviderObject.sessionType_withQueue]
      refine runs_update h fun htx => ?_
      replace htx : t = x.sessionType := htx.trans ht
      rcases hp with ⟨-, rfl⟩ | ⟨host', hhost, -⟩
      · dsimp only [attach, ProviderObject.attach]
        rw [ht, ← htx]
        exact h
      · rcases hu with hn | hn | hn
        · rw [hhost] at hn
          cases hn
        · rw [htx, ha] at hn
          cases hn
        · rw [hf] at hn
          exact absurd htx.symm (of_decide_eq_true hn)
  | endSession i =>
    obtain ⟨x, hf, he⟩ := Option.map_eq_some_iff.1 hs
    obtain rfl := congrArg Prod.fst he
    refine runs_update h fun htx => ?_
    have hnone : x.stackIface = none := by
      have hu : (s.providers.find i).all (fun x => x.sessionType ≠ t ∨ x.stackIface = none) = true := hu
      rw [hf] at hu
      exact (of_decide_eq_true hu).resolve_left fun hne => hne htx.symm
    dsimp only [Provider.endSession, attach, ProviderObject.attach]
    rw [hnone]
    exact htx ▸ h
  | updateAudioConfiguration i cfg' =>
    obtain ⟨x, hf, he⟩ := Option.map_eq_some_iff.1 hs
    obtain rfl := congrArg Prod.fst he
    refine runs_update h fun htx => ?_
    have htx : t = x.sessionType := htx
    rcases hu with hn | hn
    · have hreport : ((s.sessions t).reportAudioConfigChanged cfg').1 = s.sessions t := by
        unfold BluetoothAudioSession.reportAudioConfigChanged
        rw [(hi.sessions t).sessionType, hn]
        rfl
      unfold Provider.updateAudioConfiguration
      dsimp only [attach, ProviderObject.attach]
      split
      · split_ifs
        · exact htx ▸ h
        · dsimp only
          rw [← htx, hreport]
          exact h
      · exact htx ▸ h
    · rw [hf] at hn
      exact absurd htx.symm (of_decide_eq_true hn)
  | setLowLatencyModeAllowed i allowed =>
    obtain ⟨x, hf, he⟩ := Option.map_eq_some_iff.1 hs
    obtain rfl := congrArg Prod.fst he
    unfold setLowLatencyModeAllowed
    split_ifs
    · exact h
    · refine runs_update h fun htx => ?_
      rw [← htx]
      by_cases ht : (s.sessions t).sessionType = .a2dpHardwareOffloadEncoding
      · rw [report_of_eq ht]
        exact ⟨h.stackIface, h.audioConfig, h.dataMq⟩
      · rwa [report_of_ne ht]
  | release i =>
    obtain ⟨x, hf, he⟩ := Option.map_eq_some_iff.1 hs
    obtain rfl := congrArg Prod.fst he
    exact h
  | binderDied host' =>
    simp only [step] at hs
    split_ifs at hs
    obtain rfl := congrArg Prod.fst (Option.some.inj hs)
    exact h
  | deliver n =>
    obtain ⟨t', ht', he⟩ := Option.map_eq_some_iff.1 hs
    obtain rfl := congrArg Prod.fst he
    exact runs_update h fun htt => absurd (htt ▸ ht') hu
  | observe t' c =>
    obtain rfl := congrArg Prod.fst (Option.some.inj hs)
    refine runs_update h fun htt => ?_
    subst htt
    obtain ⟨c, hc⟩ := c
    cases c with
    | onSessionStarted | onSessionEnded | reportAudioConfigChanged => cases hc
    | registerStatusCback | unregisterStatusCback => exact ⟨h.stackIface, h.audioConfig, h.dataMq⟩

theorem runs_run {tr : List Event} (h : (s.sessions t).Runs host cfg dataMq) (hi : ServiceInv checks s)
    (hr : ((lts checks).startAt s).Run (Undisturbed checks t) tr s') :
    ServiceInv checks s' ∧ (s'.sessions t).Runs host cfg dataMq :=
  hr.inv_state (I := fun s' => ServiceInv checks s' ∧ (s'.sessions t).Runs host cfg dataMq) ⟨hi, h⟩
    fun hi hu hs => ⟨serviceInv_step hi.1 hs, runs_step hi.2 hi.1 hu hs⟩

/-- A start that returns without an error has started the session, if that can map its queue. -/
theorem runs_startSession (hi : ServiceInv checks s) (hf : s.providers.find i = some x)
    {modes : List LatencyMode} {made mapped : Bool} (hm : x.sessionType.isSoftware = true → mapped = true)
    (hs : s.step checks (.startSession i (some host) cfg modes made mapped) =
      some (s', [.returned true])) :
    Provider.accepts checks x.sessionType cfg = true ∧
      ∃ dataMq, (s'.sessions x.sessionType).Runs host cfg dataMq ∧
        (x.sessionType.isSoftware = true → dataMq = (x.withQueue s.rings.length).dataMq) := by
  simp only [step, hf, Option.map_some] at hs
  rcases startSession_cases hi hf (some host) cfg modes made mapped with he | ⟨ha, y, p, hy, he, hp⟩
  · rw [he] at hs
    cases hs
  · rw [he] at hs
    obtain rfl := congrArg Prod.fst (Option.some.inj hs)
    have ht : y.sessionType = x.sessionType := by rw [hy, ProviderObject.sessionType_withQueue]
    rcases hp with ⟨hn, -⟩ | ⟨host', hhost, htook⟩
    · cases hn
    · obtain rfl := Option.some.inj hhost
      have hty : (s.attach y).session.sessionType = x.sessionType := by
        dsimp only [attach, ProviderObject.attach]
        rw [ht, (hi.sessions _).sessionType]
      have hmapped : ¬((s.attach y).session.sessionType.isSoftware && !mapped) = true := by
        rw [hty]
        cases hsoft : x.sessionType.isSoftware with
        | true => simp [hm hsoft]
        | false => simp
      refine ⟨ha, _, ⟨?_, ?_, rfl⟩, fun hsoft => ?_⟩
      all_goals
        dsimp only [setProvider, ProviderObject.update]
        rw [ht, Function.update_self, htook.session, BluetoothAudioSession.startedBy, if_neg hmapped]
      rw [hty, if_pos hsoft, hy]

end

end ProviderService

/-- **A session that has taken a start stays as it is**, from every reachable state and whatever the other
providers, hosts and ports do. If it has no queue, or can map the queue it is given, a start that returns
without an error is one that it takes; until a provider of its type starts, ends or updates it, or a death is
reported to it, it is ready, with the port, the configuration and the queue that it was started with. -/
theorem started_session_stays {checks : Provider.PayloadChecks κ} {s s₁ s₂ : ProviderService κ}
    {tr tr₂ : List ProviderService.Event} {i host : ℕ} {x : ProviderObject κ}
    {cfg : AudioConfiguration κ} {modes : List LatencyMode} {made mapped : Bool}
    (h : (ProviderService.lts checks).Reach tr s) (hf : s.providers.find i = some x)
    (hm : x.sessionType.isSoftware = true → mapped = true)
    (hs : s.step checks (.startSession i (some host) cfg modes made mapped) =
      some (s₁, [.returned true]))
    (h₂ : ((ProviderService.lts checks).startAt s₁).Run
      (ProviderService.Undisturbed checks x.sessionType) tr₂ s₂) :
    (s₂.sessions x.sessionType).isSessionReady = true ∧
      (s₂.sessions x.sessionType).stackIface = some host ∧
      (s₂.sessions x.sessionType).audioConfig = some cfg ∧
      (x.sessionType.isSoftware = true →
        (s₂.sessions x.sessionType).dataMq = (x.withQueue s.rings.length).dataMq) := by
  have hi := ProviderService.serviceInv_run h
  obtain ⟨-, dataMq, hruns, hq⟩ := ProviderService.runs_startSession hi hf hm hs
  obtain ⟨hi₂, hruns₂⟩ := ProviderService.runs_run hruns (ProviderService.serviceInv_step hi hs) h₂
  exact ⟨(hi₂.sessions _).ready_of_runs hruns₂, hruns₂.stackIface, hruns₂.audioConfig,
    fun hsoft => hruns₂.dataMq.trans (hq hsoft)⟩

/-- A provider of an LE Audio type and two of an A2DP type, the second of which has its session. -/
def openThree : List (ProviderService.Act Numbered) :=
  [.openProvider .leAudioSoftwareEncoding true, .openProvider .a2dpSoftwareEncoding true,
    .openProvider .a2dpSoftwareEncoding true]

/-- What the others then do: a provider of the other type starts and updates its session, the other
provider of the type is refused a configuration and ends no session, and host 5 dies. -/
def others : List (ProviderService.Act Numbered) :=
  [.startSession 0 (some 5) ⟨.pcmConfig, (16000 : ℕ)⟩ [] true true,
    .updateAudioConfiguration 0 ⟨.pcmConfig, (32000 : ℕ)⟩,
    .startSession 1 (some 6) ⟨.a2dp, (1 : ℕ)⟩ [] true true, .endSession 1, .binderDied 5, .deliver 0]

theorem started_session_stays_others : ∃ tr tr₂, ∃ s s₁ s₂ : ProviderService Numbered,
    (ProviderService.lts anyPayload).Reach tr s ∧
      s.step anyPayload (.startSession 2 (some 4) ⟨.pcmConfig, (44100 : ℕ)⟩ [] true true) =
        some (s₁, [.returned true]) ∧
      ((ProviderService.lts anyPayload).startAt s₁).Run
        (ProviderService.Undisturbed anyPayload .a2dpSoftwareEncoding) tr₂ s₂ ∧
      (s₂.sessions .leAudioSoftwareEncoding).isSessionReady = false ∧
      (s₂.sessions .a2dpSoftwareEncoding).isSessionReady = true ∧
      (s₂.sessions .a2dpSoftwareEncoding).dataMq = some ⟨1, true⟩ := by
  obtain ⟨tr, s, h, hf, hs⟩ := Lts.exists_run (M := ProviderService.lts anyPayload)
    (C := fun _ _ => True) (P := fun _ s =>
      (s.providers.find 2).any (fun x => decide (x.sessionType = .a2dpSoftwareEncoding ∧
        x.dataMq = some ⟨1, true⟩)) = true ∧
      ((s.step anyPayload (.startSession 2 (some 4) ⟨.pcmConfig, (44100 : ℕ)⟩ [] true true)).any fun r =>
        decide (r.2 = [.returned true]) &&
          (((ProviderService.lts anyPayload).startAt r.1).exec
            (ProviderService.Undisturbed anyPayload .a2dpSoftwareEncoding) others r.1).any fun q =>
              !(q.2.sessions .leAudioSoftwareEncoding).isSessionReady) = true) openThree (by decide)
  obtain ⟨x, hx, hxt⟩ := (Option.any_eq_true _ _).1 hf
  obtain ⟨ht, hmq⟩ : x.sessionType = .a2dpSoftwareEncoding ∧ x.dataMq = some ⟨1, true⟩ :=
    of_decide_eq_true hxt
  obtain ⟨⟨s₁, os⟩, hs, he⟩ := (Option.any_eq_true _ _).1 hs
  obtain ⟨hos, he⟩ := Bool.and_eq_true_iff.1 he
  obtain rfl : os = [.returned true] := of_decide_eq_true hos
  obtain ⟨⟨tr₂, s₂⟩, he, hle⟩ := (Option.any_eq_true _ _).1 he
  have h₂ : ((ProviderService.lts anyPayload).startAt s₁).Run
      (ProviderService.Undisturbed anyPayload x.sessionType) tr₂ s₂ := by
    rw [ht]
    exact Lts.run_of_exec he
  obtain ⟨hready, -, -, hq⟩ := started_session_stays h hx (fun _ => rfl) hs h₂
  rw [ht] at hready hq h₂
  refine ⟨tr, tr₂, s, s₁, s₂, h, hs, h₂, by simpa using hle, hready, (hq rfl).trans ?_⟩
  unfold ProviderObject.withQueue
  rw [ht]
  exact hmq

/-- A refused start leaves everything as it is, and a start is refused just when its configuration is. -/
theorem ProviderService.startSession_returned {checks : Provider.PayloadChecks κ}
    {s s' : ProviderService κ} {i host : ℕ} {x : ProviderObject κ} {cfg : AudioConfiguration κ}
    {modes : List LatencyMode} {made mapped : Bool} {os : List Event} (hi : ServiceInv checks s)
    (hf : s.providers.find i = some x) (hm : x.sessionType.queueMade ≠ .startSession)
    (hs : s.step checks (.startSession i (some host) cfg modes made mapped) = some (s', os)) :
    (os = [.returned true] ↔ Provider.accepts checks x.sessionType cfg = true) ∧
      (os ≠ [.returned true] → s' = s) := by
  simp only [step, hf, Option.map_some, Option.some.injEq] at hs
  by_cases ha : Provider.accepts checks x.sessionType cfg = true
  · rcases startSession_cases hi hf (some host) cfg modes made mapped with he | ⟨-, y, p, -, he, -⟩
    · unfold startSession at he
      rw [if_neg (by simp [ha, hm])] at he
      cases congrArg Prod.snd he
    · rw [he] at hs
      obtain rfl := congrArg Prod.snd hs
      exact ⟨iff_of_true rfl ha, fun hn => absurd rfl hn⟩
  · have he : s.startSession checks i x (some host) cfg modes made mapped = (s, [.returned false]) := by
      unfold startSession
      rw [if_pos (.inl (by simpa using ha))]
    rw [he] at hs
    obtain ⟨rfl, rfl⟩ := Prod.mk.inj hs
    exact ⟨iff_of_false (by simp) ha, fun _ => rfl⟩

/-- **What is negotiated is accepted**, by every provider of an offload A2DP type in every reachable state:
a configuration that the codec factory proposes starts the session, which then has it, and the codec of its
id parses the proposed parameters from it; and whatever configuration is given, it is accepted just when the
codec of its id parses it, and changes nothing when it is not. -/
theorem a2dp_negotiated {toUint32 : ℚ → UInt32} {s : ProviderService ProviderPayload}
    {tr : List ProviderService.Event} {i : ℕ} {x : ProviderObject ProviderPayload}
    (h : (ProviderService.lts (providerChecks toUint32)).Reach tr s)
    (hf : s.providers.find i = some x) (ht : x.sessionType.isOffloadA2dp = true) :
    (∀ remoteCapabilities hint configuration,
      a2dpOffloadCodecFactory.getConfiguration remoteCapabilities hint = .ok (some configuration) →
      ∀ host modes made mapped, ∃ s',
        s.step (providerChecks toUint32)
          (.startSession i (some host) configuration.audioConfig modes made mapped) =
            some (s', [.returned true]) ∧
        (s'.sessions x.sessionType).isSessionReady = true ∧
        (s'.sessions x.sessionType).audioConfig = some configuration.audioConfig ∧
        ∃ codec, a2dpOffloadCodecFactory.getCodec configuration.id = some codec ∧
          codec.parseConfiguration configuration.configuration = .ok configuration.parameters) ∧
      ∀ (config : A2dpStreamConfiguration) host modes made mapped s' os,
        s.step (providerChecks toUint32)
            (.startSession i (some host) ⟨.a2dp, config⟩ modes made mapped) = some (s', os) →
          (os = [.returned true] ↔
            ∃ codec p, a2dpOffloadCodecFactory.getCodec config.codecId = some codec ∧
              codec.parseConfiguration config.configuration = .ok p) ∧
          (os ≠ [.returned true] → s' = s) := by
  have hi := ProviderService.serviceInv_run h
  have hm : x.sessionType.queueMade ≠ .startSession := by
    cases hx : x.sessionType <;> rw [hx] at ht <;> first | decide | cases ht
  have hacc : ∀ config : A2dpStreamConfiguration,
      Provider.accepts (providerChecks toUint32) x.sessionType ⟨.a2dp, config⟩ = parsesA2dp config := by
    intro config
    cases hx : x.sessionType <;> rw [hx] at ht <;> first | rfl | cases ht
  constructor
  · intro remoteCapabilities hint configuration hc host modes made mapped
    obtain ⟨codec, hmem, hid, hp⟩ := A2dpOffloadCodecFactory.getConfiguration_parameters hc
    have hget : a2dpOffloadCodecFactory.getCodec configuration.id = some codec := by
      rw [hid]
      exact A2dpOffloadCodecFactory.getCodec_of_mem hmem
    obtain ⟨⟨s', os⟩, hs⟩ : ∃ r, s.step (providerChecks toUint32)
        (.startSession i (some host) configuration.audioConfig modes made mapped) = some r :=
      ⟨_, by simp only [ProviderService.step, hf, Option.map_some]; rfl⟩
    obtain rfl : os = [.returned true] := by
      refine (ProviderService.startSession_returned hi hf hm hs).1.2 ((hacc _).trans ?_)
      exact (parsesA2dp_iff _).2 ⟨codec, configuration.parameters, hget, hp⟩
    have hnone : x.sessionType.isSoftware = true → mapped = true := by
      intro hsoft
      exfalso
      revert ht hsoft
      cases x.sessionType <;> decide
    obtain ⟨-, dataMq, hruns, -⟩ := ProviderService.runs_startSession hi hf hnone hs
    exact ⟨s', hs, ((ProviderService.serviceInv_step hi hs).sessions _).ready_of_runs hruns,
      hruns.audioConfig, codec, hget, hp⟩
  · intro config host modes made mapped s' os hs
    have hr := ProviderService.startSession_returned hi hf hm hs
    rw [hacc, parsesA2dp_iff] at hr
    exact hr

/-- A provider of an offload A2DP type. -/
def openOffload : List (ProviderService.Act ProviderPayload) :=
  [.openProvider .a2dpHardwareOffloadEncoding true]

theorem a2dp_negotiated_sbc : ∃ tr, ∃ s s' : ProviderService ProviderPayload, ∃ configuration,
    (ProviderService.lts (providerChecks truncUint32)).Reach tr s ∧
      a2dpOffloadCodecFactory.getConfiguration
        [⟨1, .aac, [0x40, 0, 0x8c, 0x80, 0, 0]⟩, ⟨2, .sbc, [0xff, 0xff, 2, 250]⟩]
        ⟨.sbc, some ⟨.stereo, 48000, 16, 0, 0⟩⟩ = .ok (some configuration) ∧
      s.step (providerChecks truncUint32)
          (.startSession 0 (some 1) configuration.audioConfig [] true true) = some (s', [.returned true]) ∧
      (s'.sessions .a2dpHardwareOffloadEncoding).audioConfig = some configuration.audioConfig := by
  obtain ⟨tr, s, h, hf⟩ := Lts.exists_run (M := ProviderService.lts (providerChecks truncUint32))
    (C := fun _ _ => True) (P := fun _ s => (s.providers.find 0).any (fun x => decide
      (x.sessionType = .a2dpHardwareOffloadEncoding)) = true) openOffload (by decide)
  obtain ⟨x, hx, ht⟩ := (Option.any_eq_true _ _).1 hf
  have ht : x.sessionType = .a2dpHardwareOffloadEncoding := of_decide_eq_true ht
  have hc : a2dpOffloadCodecFactory.getConfiguration
      [⟨1, .aac, [0x40, 0, 0x8c, 0x80, 0, 0]⟩, ⟨2, .sbc, [0xff, 0xff, 2, 250]⟩]
      ⟨.sbc, some ⟨.stereo, 48000, 16, 0, 0⟩⟩ =
        .ok (some ⟨2, .sbc, ⟨.stereo, 48000, 16, 51000, 1539000⟩, [17, 25, 2, 250]⟩) := by
    decide +kernel
  obtain ⟨s', hs, -, hcfg, -⟩ := (a2dp_negotiated h hx (by rw [ht]; rfl)).1 _ _ _ hc 1 [] true true
  exact ⟨tr, s, s', _, h, hc, hs, ht ▸ hcfg⟩

end TrebleDoze.Bluetooth
