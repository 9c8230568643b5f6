import TrebleDoze.Bluetooth.AudioConfig
import TrebleDoze.Bluetooth.OutStream
import TrebleDoze.Bluetooth.SessionHidl21

/-!
# `LoadAudioConfig`

The four functions `LoadAudioConfig` of the ports (`hw/device_port_proxy.cc` and
`hw/device_port_proxy_hidl.cc`), and `out_get_parameters` (`hw/stream_apis.cc`), which hands one of them
a variable that is not initialised and goes on where it fails.

* `aidl_loaded`, `hidl_loaded`: what a function returns and leaves;
* `OutStream.getParameters_ne_none_iff`: when an answer is made of fields that are written;
* `loadAudioConfig_usable_iff`: when the four of them yield a configuration that can be used.
-/

namespace TrebleDoze.Bluetooth

open Lib
open Hidl (Payload Values21 Uninitialized21 Abort AudioConfiguration21 ConfigSession toHidlAudioConfig21
  toUint32 toUint8)

/-! ### The variable -/

/-- The values of `audio_channel_mask_t` that the ports use. -/
inductive AudioChannelMask where
  | outMono | outStereo | inMono | inStereo
  deriving DecidableEq, Repr

/-- The values of `audio_format_t` that the ports use. -/
inductive AudioFormat where
  | pcm16Bit | pcm24BitPacked | pcm824Bit | pcm32Bit
  deriving DecidableEq, Repr

/-- `audio_config_t`; a field holds `none` as long as nothing has written it. -/
structure AudioConfigT where
  sampleRate : Option ℕ
  channelMask : Option AudioChannelMask
  format : Option AudioFormat
  deriving DecidableEq, Repr

/-- A local variable, when it is declared. -/
def AudioConfigT.uninitialized : AudioConfigT := ⟨none, none, none⟩

/-- The three fields have been written. -/
structure AudioConfigT.IsWritten (cfg : AudioConfigT) : Prop where
  sampleRate : cfg.sampleRate ≠ none
  channelMask : cfg.channelMask ≠ none
  format : cfg.format ≠ none

/-- `kBluetoothDefaultSampleRate`. -/
def kBluetoothDefaultSampleRate : ℕ := 44100

/-- `kBluetoothDefaultAudioFormatBitsPerSample`. -/
def kBluetoothDefaultAudioFormatBitsPerSample : AudioFormat := .pcm16Bit

/-- `kBluetoothDefaultOutputChannelModeMask`. -/
def kBluetoothDefaultOutputChannelModeMask : AudioChannelMask := .outStereo

/-- `kBluetoothDefaultInputChannelModeMask`. -/
def kBluetoothDefaultInputChannelModeMask : AudioChannelMask := .inMono

/-- The defaults, with the channels of the direction. -/
def defaultConfig (defaultMask : AudioChannelMask) : AudioConfigT where
  sampleRate := some kBluetoothDefaultSampleRate
  channelMask := some defaultMask
  format := some kBluetoothDefaultAudioFormatBitsPerSample

/-! ### The defaults of AIDL -/

instance : Inhabited PcmConfiguration := ⟨⟨0, .unknown, 0, 0⟩⟩

deriving instance Inhabited for AudioCodecs.CodecType, AudioCodecs.SbcChannelMode,
  AudioCodecs.SbcAllocMethod, AudioCodecs.SbcConfiguration, AudioCodecs.CodecSpecific,
  AudioCodecs.CodecConfiguration, Lc3Configuration, LeAudioCodecConfiguration, LeAudioConfiguration,
  LeAudioBroadcastConfiguration

instance : (t : Tag) → Inhabited (Payload t)
  | .pcmConfig => inferInstanceAs (Inhabited PcmConfiguration)
  | .a2dpConfig => inferInstanceAs (Inhabited AudioCodecs.CodecConfiguration)
  | .leAudioConfig => inferInstanceAs (Inhabited LeAudioConfiguration)
  | .leAudioBroadcastConfig => inferInstanceAs (Inhabited LeAudioBroadcastConfiguration)
  | .hfpConfig | .a2dp => inferInstanceAs (Inhabited Unit)

/-! ### The ports of AIDL -/

namespace BluetoothAudioPortAidl

/-- `OutputChannelModeToAudioFormat`. -/
def outputChannelModeToAudioFormat : ChannelMode → AudioChannelMask
  | .mono => .outMono
  | .stereo => .outStereo
  | _ => kBluetoothDefaultOutputChannelModeMask

/-- `InputChannelModeToAudioFormat`. -/
def inputChannelModeToAudioFormat : ChannelMode → AudioChannelMask
  | .mono => .inMono
  | .stereo => .inStereo
  | _ => kBluetoothDefaultInputChannelModeMask

/-- `BitsPerSampleToAudioFormat`. -/
def bitsPerSampleToAudioFormat (bitsPerSample : ℕ) (sessionType : SessionType) : AudioFormat :=
  match bitsPerSample with
  | 16 => .pcm16Bit
  | 24 =>
    if sessionType = .a2dpHardwareOffloadEncoding ∨ sessionType = .a2dpSoftwareEncoding then
      .pcm24BitPacked
    else .pcm824Bit
  | 32 => .pcm32Bit
  | _ => kBluetoothDefaultAudioFormatBitsPerSample

/-- The fields that are written from a PCM configuration. -/
def pcmValues (toMask : ChannelMode → AudioChannelMask) (sessionType : SessionType)
    (pcmCfg : PcmConfiguration) : AudioConfigT where
  sampleRate := some (toUint32 pcmCfg.sampleRateHz)
  channelMask := some (toMask pcmCfg.channelMode)
  format := some (bitsPerSampleToAudioFormat (toUint8 pcmCfg.bitsPerSample) sessionType)

/-- The end of `LoadAudioConfig`, from the PCM configuration on. -/
def loadPcmConfig (toMask : ChannelMode → AudioChannelMask) (sessionType : SessionType)
    (pcmCfg : PcmConfiguration) (audioCfg : AudioConfigT) : Bool × AudioConfigT :=
  if pcmCfg.channelMode = .unknown then (false, audioCfg)
  else (true, pcmValues toMask sessionType pcmCfg)

/-- What the two `LoadAudioConfig` share; they differ in the channels. -/
def loadAudioConfig (defaultMask : AudioChannelMask) (toMask : ChannelMode → AudioChannelMask)
    (p : BluetoothAudioPort) (s : BluetoothAudioSession Payload) (audioCfg : AudioConfigT) :
    Bool × AudioConfigT :=
  if !p.inUse then (false, defaultConfig defaultMask)
  else
    match s.getAudioConfig with
    | ⟨.pcmConfig, pcmCfg⟩ => loadPcmConfig toMask s.sessionType pcmCfg audioCfg
    | _ => (false, defaultConfig defaultMask)

end BluetoothAudioPortAidl

/-- The channels of a `BluetoothAudioPortAidlOut`. -/
def BluetoothAudioPortAidlOut.toMask (isStereoToMono : Bool) (channelMode : ChannelMode) :
    AudioChannelMask :=
  if isStereoToMono then .outStereo
  else BluetoothAudioPortAidl.outputChannelModeToAudioFormat channelMode

/-- `BluetoothAudioPortAidlOut::LoadAudioConfig`. -/
def BluetoothAudioPortAidlOut.loadAudioConfig (isStereoToMono : Bool) :=
  BluetoothAudioPortAidl.loadAudioConfig kBluetoothDefaultOutputChannelModeMask (toMask isStereoToMono)

/-- `BluetoothAudioPortAidlIn::LoadAudioConfig`. -/
def BluetoothAudioPortAidlIn.loadAudioConfig :=
  BluetoothAudioPortAidl.loadAudioConfig kBluetoothDefaultInputChannelModeMask
    BluetoothAudioPortAidl.inputChannelModeToAudioFormat

/-! ### The ports of HIDL -/

/-- The session of a HIDL port: its own, or that of the AIDL service where there is one. -/
inductive PortSession21 where
  | hidl (s : ConfigSession)
  | aidl (s : BluetoothAudioSession Payload)

namespace BluetoothAudioPortHidl

section

variable (V : Values21) (old : Uninitialized21)

/-- `BluetoothAudioSessionControl_2_1::GetAudioConfig`. -/
def getAudioConfig : PortSession21 → Except Abort AudioConfiguration21
  | .hidl s => .ok (s.getAudioConfig21 V.toValues)
  | .aidl s => toHidlAudioConfig21 V old s.getAudioConfig

/-- The cases of `SampleRateToAudioFormat`. -/
def sampleRates : List (Hidl.SampleRate × ℕ) :=
  [(.rate8000, 8000), (.rate16000, 16000), (.rate24000, 24000), (.rate32000, 32000),
    (.rate44100, 44100), (.rate48000, 48000), (.rate88200, 88200), (.rate96000, 96000),
    (.rate176400, 176400), (.rate192000, 192000)]

/-- `SampleRateToAudioFormat`. -/
def sampleRateToAudioFormat (sampleRate : BitVec 32) : ℕ :=
  ((sampleRates.find? fun e => V.sampleRate e.1 == sampleRate).map Prod.snd).getD
    kBluetoothDefaultSampleRate

/-- `OutputChannelModeToAudioFormat`. -/
def outputChannelModeToAudioFormat (channelMode : BitVec 32) : AudioChannelMask :=
  if channelMode = V.channelMode .mono then .outMono
  else if channelMode = V.channelMode .stereo then .outStereo
  else kBluetoothDefaultOutputChannelModeMask

/-- `InputChannelModeToAudioFormat`. -/
def inputChannelModeToAudioFormat (channelMode : BitVec 32) : AudioChannelMask :=
  if channelMode = V.channelMode .mono then .inMono
  else if channelMode = V.channelMode .stereo then .inStereo
  else kBluetoothDefaultInputChannelModeMask

/-- `BitsPerSampleToAudioFormat`. -/
def bitsPerSampleToAudioFormat (bitsPerSample : BitVec 32) : AudioFormat :=
  if bitsPerSample = V.bitsPerSample .bits16 then .pcm16Bit
  else if bitsPerSample = V.bitsPerSample .bits24 then .pcm24BitPacked
  else if bitsPerSample = V.bitsPerSample .bits32 then .pcm32Bit
  else kBluetoothDefaultAudioFormatBitsPerSample

/-- The fields that are written from a PCM configuration. -/
def pcmValues (toMask : BitVec 32 → AudioChannelMask) (pcmCfg : Hidl.PcmParameters) :
    AudioConfigT where
  sampleRate := some (sampleRateToAudioFormat V pcmCfg.sampleRate)
  channelMask := some (toMask pcmCfg.channelMode)
  format := some (bitsPerSampleToAudioFormat V pcmCfg.bitsPerSample)

/-- What the two `LoadAudioConfig` share; they differ in the channels. -/
def loadAudioConfig (defaultMask : AudioChannelMask) (toMask : BitVec 32 → AudioChannelMask)
    (p : BluetoothAudioPort) (s : PortSession21) (audioCfg : AudioConfigT) :
    Except Abort (Bool × AudioConfigT) :=
  if !p.inUse then .ok (false, defaultConfig defaultMask)
  else do
    let halAudioCfg ← getAudioConfig V old s
    match halAudioCfg with
    | .pcmConfig pcmCfg =>
      if pcmCfg.sampleRate = V.sampleRate .unknown ∨ pcmCfg.channelMode = V.channelMode .unknown ∨
          pcmCfg.bitsPerSample = V.bitsPerSample .unknown then
        return (false, audioCfg)
      else return (true, pcmValues V toMask pcmCfg)
    | _ => return (false, defaultConfig defaultMask)

end

end BluetoothAudioPortHidl

/-- The channels of a `BluetoothAudioPortHidlOut`. -/
def BluetoothAudioPortHidlOut.toMask (V : Values21) (isStereoToMono : Bool) (channelMode : BitVec 32) :
    AudioChannelMask :=
  if isStereoToMono then .outStereo
  else BluetoothAudioPortHidl.outputChannelModeToAudioFormat V channelMode

/-- `BluetoothAudioPortHidlOut::LoadAudioConfig`. -/
def BluetoothAudioPortHidlOut.loadAudioConfig (V : Values21) (old : Uninitialized21)
    (isStereoToMono : Bool) :=
  BluetoothAudioPortHidl.loadAudioConfig V old kBluetoothDefaultOutputChannelModeMask
    (toMask V isStereoToMono)

/-- `BluetoothAudioPortHidlIn::LoadAudioConfig`. -/
def BluetoothAudioPortHidlIn.loadAudioConfig (V : Values21) (old : Uninitialized21) :=
  BluetoothAudioPortHidl.loadAudioConfig V old kBluetoothDefaultInputChannelModeMask
    (BluetoothAudioPortHidl.inputChannelModeToAudioFormat V)

/-! ### The parameters of an output -/

namespace OutStream

/-- The value for `sup_sampling_rates`. -/
def supSamplingRates (sampleRate : ℕ) : String :=
  ([(16000, "16000"), (24000, "24000"), (44100, "44100"), (48000, "48000"), (88200, "88200"),
    (96000, "96000"), (176400, "176400"), (192000, "192000")].lookup sampleRate).getD ""

/-- The value for `sup_channels`. -/
def supChannels : AudioChannelMask → String
  | .outMono => "AUDIO_CHANNEL_OUT_MONO"
  | .outStereo => "AUDIO_CHANNEL_OUT_STEREO"
  | _ => ""

/-- The value for `sup_formats`. -/
def supFormats : AudioFormat → String
  | .pcm16Bit => "AUDIO_FORMAT_PCM_16_BIT"
  | .pcm24BitPacked => "AUDIO_FORMAT_PCM_24_BIT_PACKED"
  | .pcm824Bit => "AUDIO_FORMAT_PCM_8_24_BIT"
  | .pcm32Bit => "AUDIO_FORMAT_PCM_32_BIT"

/-- The entry for a key that is asked for; `none` where the field has not been written. -/
def returnParam (key : String) (params : AudioParams) (param : Option String) : Option AudioParams :=
  if (params.lookup key).isSome then param.map fun param => [(key, param)] else some []

/-- `return_params`. -/
def returnParams (params : AudioParams) (audioCfg : AudioConfigT) : Option AudioParams := do
  let rates ← returnParam audioParameterStreamSupSamplingRates params
    (audioCfg.sampleRate.map supSamplingRates)
  let channels ← returnParam audioParameterStreamSupChannels params
    (audioCfg.channelMask.map supChannels)
  let formats ← returnParam audioParameterStreamSupFormats params (audioCfg.format.map supFormats)
  return rates ++ channels ++ formats

/-- `out_get_parameters`: the entries of the answer, which lists them in the order of the map. -/
def getParameters (loadAudioConfig : AudioConfigT → Except Abort (Bool × AudioConfigT))
    (params : AudioParams) : Except Abort (Option AudioParams) :=
  if params.isEmpty then .ok (some [])
  else do
    let loaded ← loadAudioConfig .uninitialized
    return returnParams params loaded.2

end OutStream

/-! ### The four functions together -/

/-- A port and its session, when `LoadAudioConfig` is called. -/
inductive ConfigPort where
  | aidlOut (p : BluetoothAudioPort) (isStereoToMono : Bool) (s : BluetoothAudioSession Payload)
  | aidlIn (p : BluetoothAudioPort) (s : BluetoothAudioSession Payload)
  | hidlOut (p : BluetoothAudioPort) (isStereoToMono : Bool) (s : PortSession21)
  | hidlIn (p : BluetoothAudioPort) (s : PortSession21)

namespace ConfigPort

section

variable (V : Values21) (old : Uninitialized21)

/-- `LoadAudioConfig` of the port. -/
def loadAudioConfig (audioCfg : AudioConfigT) : ConfigPort → Except Abort (Bool × AudioConfigT)
  | aidlOut p isStereoToMono s =>
    .ok (BluetoothAudioPortAidlOut.loadAudioConfig isStereoToMono p s audioCfg)
  | aidlIn p s => .ok (BluetoothAudioPortAidlIn.loadAudioConfig p s audioCfg)
  | hidlOut p isStereoToMono s =>
    BluetoothAudioPortHidlOut.loadAudioConfig V old isStereoToMono p s audioCfg
  | hidlIn p s => BluetoothAudioPortHidlIn.loadAudioConfig V old p s audioCfg

/-- The default of the channels. -/
def defaultMask : ConfigPort → AudioChannelMask
  | aidlOut _ _ _ | hidlOut _ _ _ => kBluetoothDefaultOutputChannelModeMask
  | aidlIn _ _ | hidlIn _ _ => kBluetoothDefaultInputChannelModeMask

end

end ConfigPort

/-- The values are those of the PCM configuration of the session. -/
def aidlValues (toMask : ChannelMode → AudioChannelMask) (s : BluetoothAudioSession Payload)
    (cfg : AudioConfigT) : Prop :=
  ∃ pcmCfg : PcmConfiguration, s.getAudioConfig = ⟨.pcmConfig, pcmCfg⟩ ∧
    cfg = BluetoothAudioPortAidl.pcmValues toMask s.sessionType pcmCfg

@[inherit_doc aidlValues]
def hidlValues (V : Values21) (old : Uninitialized21) (toMask : BitVec 32 → AudioChannelMask)
    (s : PortSession21) (cfg : AudioConfigT) : Prop :=
  ∃ pcmCfg, BluetoothAudioPortHidl.getAudioConfig V old s = .ok (.pcmConfig pcmCfg) ∧
    cfg = BluetoothAudioPortHidl.pcmValues V toMask pcmCfg

/-- The values of the session, as the port reads them. -/
def ConfigPort.Values (V : Values21) (old : Uninitialized21) : ConfigPort → AudioConfigT → Prop
  | aidlOut _ isStereoToMono s => aidlValues (BluetoothAudioPortAidlOut.toMask isStereoToMono) s
  | aidlIn _ s => aidlValues BluetoothAudioPortAidl.inputChannelModeToAudioFormat s
  | hidlOut _ isStereoToMono s =>
    hidlValues V old (BluetoothAudioPortHidlOut.toMask V isStereoToMono) s
  | hidlIn _ s => hidlValues V old (BluetoothAudioPortHidl.inputChannelModeToAudioFormat V) s

/-- What a caller that does not look at the result of `LoadAudioConfig` relies on. -/
structure Usable (defaultMask : AudioChannelMask) (values : AudioConfigT → Prop)
    (r : Bool × AudioConfigT) : Prop where
  written : r.2.IsWritten
  success : r.1 = true → values r.2
  failure : r.1 = false → r.2 = defaultConfig defaultMask

/-- A session of AIDL that is ready has PCM without a channel mode, or one that is not ready falls back
to PCM. -/
def BluetoothAudioSession.LacksChannelMode (s : BluetoothAudioSession Payload) : Prop :=
  if s.isSessionReady then
    ∃ pcmCfg : PcmConfiguration, s.audioConfig = some ⟨.pcmConfig, pcmCfg⟩ ∧
      pcmCfg.channelMode = .unknown
  else (BluetoothAudioSession.defaultAudioConfig (κ := Payload) s.sessionType).tag = .pcmConfig

/-- A configuration of HIDL is PCM with an `UNKNOWN` in it. -/
def Hidl.AudioConfiguration21.HasUnknown (V : Values21) : AudioConfiguration21 → Prop
  | .pcmConfig pcmCfg => pcmCfg.sampleRate = V.sampleRate .unknown ∨
      pcmCfg.channelMode = V.channelMode .unknown ∨ pcmCfg.bitsPerSample = V.bitsPerSample .unknown
  | _ => False

/-- The session of a HIDL port has PCM with an `UNKNOWN` in it, or falls back to that. -/
def PortSession21.HasUnknown (V : Values21) (old : Uninitialized21) : PortSession21 → Prop
  | .hidl s =>
    if s.session.isSessionReady then
      (if s.type21 ≠ .unknown then s.audioConfig21 else Hidl.fromConfig20 s.audioConfig).HasUnknown V
    else AudioConfiguration21.zero.HasUnknown V
  | .aidl s => ∃ config, toHidlAudioConfig21 V old s.getAudioConfig = .ok config ∧ config.HasUnknown V

/-- The port is in use, and its session has a PCM configuration that is not complete. -/
def ConfigPort.Incomplete (V : Values21) (old : Uninitialized21) : ConfigPort → Prop
  | aidlOut p _ s | aidlIn p s => p.inUse = true ∧ s.LacksChannelMode
  | hidlOut p _ s | hidlIn p s => p.inUse = true ∧ s.HasUnknown V old

/-! ### What a function leaves -/

/-- What `LoadAudioConfig` returns and leaves: it gives up, it takes the defaults or it takes the values
of the session. -/
inductive Loaded (incomplete : Prop) (defaultMask : AudioChannelMask) (values : AudioConfigT → Prop)
    (audioCfg : AudioConfigT) : Bool × AudioConfigT → Prop
  | refused (h : incomplete) : Loaded incomplete defaultMask values audioCfg (false, audioCfg)
  | defaults (h : ¬incomplete) :
    Loaded incomplete defaultMask values audioCfg (false, defaultConfig defaultMask)
  | loaded (h : ¬incomplete) {cfg : AudioConfigT} (hw : cfg.IsWritten) (hv : values cfg) :
    Loaded incomplete defaultMask values audioCfg (true, cfg)

theorem not_isWritten_uninitialized : ¬AudioConfigT.uninitialized.IsWritten := fun h => h.sampleRate rfl

theorem isWritten_some (sampleRate : ℕ) (channelMask : AudioChannelMask) (format : AudioFormat) :
    (AudioConfigT.mk (some sampleRate) (some channelMask) (some format)).IsWritten :=
  ⟨Option.some_ne_none _, Option.some_ne_none _, Option.some_ne_none _⟩

section

variable {incomplete : Prop} {defaultMask : AudioChannelMask} {values : AudioConfigT → Prop}
  {r : Bool × AudioConfigT}

theorem Loaded.isWritten_iff (h : Loaded incomplete defaultMask values .uninitialized r) :
    r.2.IsWritten ↔ ¬incomplete := by
  cases h with
  | refused h => exact iff_of_false not_isWritten_uninitialized fun hn => hn h
  | defaults h => exact iff_of_true (isWritten_some _ _ _) h
  | loaded h hw hv => exact iff_of_true hw h

theorem Loaded.usable_iff (h : Loaded incomplete defaultMask values .uninitialized r) :
    Usable defaultMask values r ↔ ¬incomplete := by
  refine ⟨fun hu => h.isWritten_iff.1 hu.written, fun hn => ⟨h.isWritten_iff.2 hn, ?_, ?_⟩⟩
  · intro hr
    cases h with
    | refused h => exact absurd h hn
    | defaults h => cases hr
    | loaded h hw hv => exact hv
  · intro hr
    cases h with
    | refused h => exact absurd h hn
    | defaults h => rfl
    | loaded h hw hv => cases hr

end

/-! ### The ports of AIDL, and their session -/

theorem channelMode_default : (default : PcmConfiguration).channelMode = .unknown := rfl

/-- A default that is PCM is the one without a channel mode. -/
theorem defaultAudioConfig_of_tag {t : SessionType}
    (h : (BluetoothAudioSession.defaultAudioConfig (κ := Payload) t).tag = .pcmConfig) :
    BluetoothAudioSession.defaultAudioConfig (κ := Payload) t =
      ⟨.pcmConfig, (default : PcmConfiguration)⟩ := by
  revert h
  cases t <;> first | exact fun _ => rfl | exact fun h => by cases h

theorem pcmConfig_injective {pcmCfg pcmCfg' : PcmConfiguration}
    (h : (⟨.pcmConfig, pcmCfg⟩ : AudioConfiguration Payload) = ⟨.pcmConfig, pcmCfg'⟩) :
    pcmCfg = pcmCfg' := by
  cases h
  rfl

theorem lacksChannelMode_iff {s : BluetoothAudioSession Payload} :
    s.LacksChannelMode ↔ ∃ pcmCfg : PcmConfiguration, s.getAudioConfig = ⟨.pcmConfig, pcmCfg⟩ ∧
      pcmCfg.channelMode = .unknown := by
  unfold BluetoothAudioSession.LacksChannelMode
  split_ifs with hready
  · obtain ⟨cfg, hcfg⟩ := BluetoothAudioSession.audioConfig_of_ready hready
    rw [BluetoothAudioSession.getAudioConfig_of_ready hready hcfg, hcfg]
    simp only [Option.some.injEq]
  · have hget : s.getAudioConfig = BluetoothAudioSession.defaultAudioConfig s.sessionType := by
      simp only [BluetoothAudioSession.getAudioConfig, hready, Bool.not_false, if_true]
    rw [hget]
    constructor
    · intro htag
      exact ⟨default, defaultAudioConfig_of_tag htag, channelMode_default⟩
    · rintro ⟨pcmCfg, hdefault, -⟩
      rw [hdefault]

theorem aidl_loaded (defaultMask : AudioChannelMask) (toMask : ChannelMode → AudioChannelMask)
    (p : BluetoothAudioPort) (s : BluetoothAudioSession Payload) (audioCfg : AudioConfigT) :
    Loaded (p.inUse = true ∧ s.LacksChannelMode) defaultMask (aidlValues toMask s) audioCfg
      (BluetoothAudioPortAidl.loadAudioConfig defaultMask toMask p s audioCfg) := by
  unfold BluetoothAudioPortAidl.loadAudioConfig
  by_cases hp : p.inUse = true
  · rw [if_neg (by rw [hp]; decide)]
    cases hget : s.getAudioConfig with
    | mk tag value =>
      cases tag with
      | pcmConfig =>
        have hlacks : s.LacksChannelMode ↔ PcmConfiguration.channelMode value = .unknown := by
          rw [lacksChannelMode_iff, hget]
          constructor
          · rintro ⟨pcmCfg, heq, hmode⟩
            rw [pcmConfig_injective heq]
            exact hmode
          · exact fun hmode => ⟨value, rfl, hmode⟩
        dsimp only [BluetoothAudioPortAidl.loadPcmConfig]
        split_ifs with hmode
        · exact .refused ⟨hp, hlacks.2 hmode⟩
        · exact .loaded (fun h => hmode (hlacks.1 h.2)) (isWritten_some _ _ _) ⟨value, hget, rfl⟩
      | _ =>
        refine .defaults fun h => ?_
        obtain ⟨pcmCfg, heq, -⟩ := lacksChannelMode_iff.1 h.2
        cases hget.symm.trans heq
  · rw [if_pos (by simpa using hp)]
    exact .defaults fun h => hp h.1

/-! ### The ports of HIDL, and their session -/

section

variable {V : Values21} {old : Uninitialized21}

theorem getAudioConfig21_eq (s : ConfigSession) :
    s.getAudioConfig21 V.toValues =
      if s.session.isSessionReady then
        if s.type21 ≠ .unknown then s.audioConfig21 else Hidl.fromConfig20 s.audioConfig
      else .zero := by
  rw [ConfigSession.getAudioConfig21, ConfigSession.getAudioConfig]
  by_cases hready : s.session.isSessionReady = true
  · rw [if_pos hready, if_pos hready, if_pos hready]
  · rw [if_neg hready, if_neg hready]
    exact ConfigSession.invalidConfig21_type21 _

theorem hasUnknown_iff {s : PortSession21} :
    s.HasUnknown V old ↔ ∃ config, BluetoothAudioPortHidl.getAudioConfig V old s = .ok config ∧
      config.HasUnknown V := by
  cases s with
  | aidl s => rfl
  | hidl s =>
    rw [BluetoothAudioPortHidl.getAudioConfig, getAudioConfig21_eq, PortSession21.HasUnknown]
    by_cases hready : s.session.isSessionReady = true
    · rw [if_pos hready, if_pos hready]
      exact ⟨fun h => ⟨_, rfl, h⟩, fun ⟨_, heq, h⟩ => Except.ok.inj heq ▸ h⟩
    · rw [if_neg hready, if_neg hready]
      exact ⟨fun h => ⟨_, rfl, h⟩, fun ⟨_, heq, h⟩ => Except.ok.inj heq ▸ h⟩

theorem hasUnknown_of_getAudioConfig {s : PortSession21} {config : AudioConfiguration21}
    (h : BluetoothAudioPortHidl.getAudioConfig V old s = .ok config) :
    s.HasUnknown V old ↔ config.HasUnknown V := by
  rw [hasUnknown_iff, h]
  exact ⟨fun ⟨_, heq, h⟩ => Except.ok.inj heq ▸ h, fun h => ⟨config, rfl, h⟩⟩

theorem hidl_loaded (defaultMask : AudioChannelMask) (toMask : BitVec 32 → AudioChannelMask)
    (p : BluetoothAudioPort) (s : PortSession21) (audioCfg : AudioConfigT) {r : Bool × AudioConfigT}
    (h : BluetoothAudioPortHidl.loadAudioConfig V old defaultMask toMask p s audioCfg = .ok r) :
    Loaded (p.inUse = true ∧ s.HasUnknown V old) defaultMask (hidlValues V old toMask s) audioCfg r := by
  unfold BluetoothAudioPortHidl.loadAudioConfig at h
  by_cases hp : p.inUse = true
  · rw [if_neg (by rw [hp]; decide)] at h
    obtain ⟨config, hget, h⟩ := bind_eq_ok_iff.1 h
    have hunknown := hasUnknown_of_getAudioConfig hget
    cases config with
    | pcmConfig pcmCfg =>
      dsimp only at h
      split_ifs at h with hrefused
      · obtain rfl := Except.ok.inj h
        exact .refused ⟨hp, hunknown.2 hrefused⟩
      · obtain rfl := Except.ok.inj h
        exact .loaded (fun h => hrefused (hunknown.1 h.2)) (isWritten_some _ _ _) ⟨pcmCfg, hget, rfl⟩
    | _ =>
      obtain rfl := Except.ok.inj h
      exact .defaults fun h => hunknown.1 h.2
  · rw [if_pos (by simpa using hp)] at h
    obtain rfl := Except.ok.inj h
    exact .defaults fun h => hp h.1

/-- A configuration that is not complete is there only where the conversion does not end the process. -/
theorem hidl_returns (defaultMask : AudioChannelMask) (toMask : BitVec 32 → AudioChannelMask)
    (p : BluetoothAudioPort) {s : PortSession21} (audioCfg : AudioConfigT)
    (h : s.HasUnknown V old) :
    ∃ r, BluetoothAudioPortHidl.loadAudioConfig V old defaultMask toMask p s audioCfg = .ok r := by
  obtain ⟨config, hget, -⟩ := hasUnknown_iff.1 h
  unfold BluetoothAudioPortHidl.loadAudioConfig
  rw [hget]
  dsimp only [bind, Except.bind]
  cases config with
  | pcmConfig pcmCfg =>
    dsimp only
    split_ifs <;> exact ⟨_, rfl⟩
  | _ =>
    dsimp only
    split_ifs <;> exact ⟨_, rfl⟩

/-! ### The four functions -/

namespace ConfigPort

theorem loaded (p : ConfigPort) (audioCfg : AudioConfigT) {r : Bool × AudioConfigT}
    (h : p.loadAudioConfig V old audioCfg = .ok r) :
    Loaded (p.Incomplete V old) p.defaultMask (p.Values V old) audioCfg r := by
  cases p with
  | aidlOut p isStereoToMono s =>
    obtain rfl := Except.ok.inj h
    exact aidl_loaded _ _ p s audioCfg
  | aidlIn p s =>
    obtain rfl := Except.ok.inj h
    exact aidl_loaded _ _ p s audioCfg
  | hidlOut p isStereoToMono s => exact hidl_loaded _ _ p s audioCfg h
  | hidlIn p s => exact hidl_loaded _ _ p s audioCfg h

theorem returns (p : ConfigPort) (audioCfg : AudioConfigT) (h : p.Incomplete V old) :
    ∃ r, p.loadAudioConfig V old audioCfg = .ok r := by
  cases p with
  | aidlOut p isStereoToMono s => exact ⟨_, rfl⟩
  | aidlIn p s => exact ⟨_, rfl⟩
  | hidlOut p isStereoToMono s => exact hidl_returns _ _ p audioCfg h.2
  | hidlIn p s => exact hidl_returns _ _ p audioCfg h.2

end ConfigPort

end

/-! ### The answer of an output -/

namespace OutStream

theorem returnParam_ne_none_iff {key : String} {params : AudioParams} {param : Option String} :
    returnParam key params param ≠ none ↔ ((params.lookup key).isSome = true → param ≠ none) := by
  unfold returnParam
  split_ifs with hkey
  · cases param with
    | none => exact iff_of_false (fun h => h rfl) fun h => h hkey rfl
    | some param => exact iff_of_true (Option.some_ne_none _) fun _ => Option.some_ne_none _
  · exact iff_of_true (Option.some_ne_none _) fun h => absurd h hkey

theorem returnParams_ne_none_iff {params : AudioParams} {audioCfg : AudioConfigT} :
    returnParams params audioCfg ≠ none ↔
      ((params.lookup audioParameterStreamSupSamplingRates).isSome = true →
        audioCfg.sampleRate ≠ none) ∧
      ((params.lookup audioParameterStreamSupChannels).isSome = true → audioCfg.channelMask ≠ none) ∧
      ((params.lookup audioParameterStreamSupFormats).isSome = true → audioCfg.format ≠ none) := by
  have hmap {α : Type} (f : α → String) (x : Option α) : x.map f ≠ none ↔ x ≠ none := by
    rw [Ne, Option.map_eq_none_iff]
  rw [← hmap supSamplingRates, ← hmap supChannels, ← hmap supFormats, ← returnParam_ne_none_iff,
    ← returnParam_ne_none_iff, ← returnParam_ne_none_iff]
  unfold returnParams
  cases returnParam audioParameterStreamSupSamplingRates params
      (audioCfg.sampleRate.map supSamplingRates) with
  | none => exact iff_of_false (fun h => h rfl) fun h => h.1 rfl
  | some rates =>
    cases returnParam audioParameterStreamSupChannels params
        (audioCfg.channelMask.map supChannels) with
    | none => exact iff_of_false (fun h => h rfl) fun h => h.2.1 rfl
    | some channels =>
      cases returnParam audioParameterStreamSupFormats params (audioCfg.format.map supFormats) with
      | none => exact iff_of_false (fun h => h rfl) fun h => h.2.2 rfl
      | some formats => exact iff_of_true (Option.some_ne_none _) ⟨Option.some_ne_none _,
          Option.some_ne_none _, Option.some_ne_none _⟩

/-- A question for the sampling rates. -/
def rateParams : AudioParams := [(audioParameterStreamSupSamplingRates, "")]

/-- An answer is made of fields that are written for every question, if they all are. -/
theorem getParameters_ne_none_iff {load : AudioConfigT → Except Abort (Bool × AudioConfigT)}
    {incomplete : Prop} {defaultMask : AudioChannelMask} {values : AudioConfigT → Prop}
    (hload : ∀ r, load .uninitialized = .ok r →
      Loaded incomplete defaultMask values .uninitialized r)
    (hreturns : incomplete → ∃ r, load .uninitialized = .ok r) :
    (∀ params answer, getParameters load params = .ok answer → answer ≠ none) ↔ ¬incomplete := by
  constructor
  · intro h hincomplete
    obtain ⟨r, hr⟩ := hreturns hincomplete
    have hunwritten : r.2.sampleRate = none := by
      cases hload r hr with
      | refused h => rfl
      | defaults h => exact absurd hincomplete h
      | loaded h hw hv => exact absurd hincomplete h
    have hget : getParameters load rateParams = .ok (returnParams rateParams r.2) :=
      bind_eq_ok_iff.2 ⟨r, hr, rfl⟩
    exact (returnParams_ne_none_iff.1 (h rateParams _ hget)).1 (by decide) hunwritten
  · intro hcomplete params answer hget
    unfold getParameters at hget
    split_ifs at hget with hempty
    · obtain rfl := Except.ok.inj hget
      exact Option.some_ne_none _
    · obtain ⟨r, hr, hget⟩ := bind_eq_ok_iff.1 hget
      obtain rfl := Except.ok.inj hget
      have hw := (hload r hr).isWritten_iff.2 hcomplete
      exact returnParams_ne_none_iff.2 ⟨fun _ => hw.sampleRate, fun _ => hw.channelMask,
        fun _ => hw.format⟩

end OutStream

/-- **When `LoadAudioConfig` yields a configuration that can be used**: for each of the four, it leaves
the values of the session or the defaults in all the fields, and an answer of `out_get_parameters` is
made of fields that are written, exactly if the port is not in use or the PCM configuration of its
session is complete. -/
theorem loadAudioConfig_usable_iff (V : Values21) (old : Uninitialized21) (p : ConfigPort) :
    ((∀ r, p.loadAudioConfig V old .uninitialized = .ok r → Usable p.defaultMask (p.Values V old) r) ↔
        ¬p.Incomplete V old) ∧
      ((∀ params answer, OutStream.getParameters (fun cfg => p.loadAudioConfig V old cfg) params =
          .ok answer → answer ≠ none) ↔ ¬p.Incomplete V old) := by
  constructor
  · constructor
    · intro h hincomplete
      obtain ⟨r, hr⟩ := p.returns .uninitialized hincomplete
      exact (p.loaded .uninitialized hr).usable_iff.1 (h r hr) hincomplete
    · intro hcomplete r hr
      exact (p.loaded .uninitialized hr).usable_iff.2 hcomplete
  · exact OutStream.getParameters_ne_none_iff (fun r hr => p.loaded .uninitialized hr)
      (p.returns .uninitialized)

/-- An A2DP session in software that the stack has started and ended. -/
def endedSession : BluetoothAudioSession Payload :=
  let s := BluetoothAudioSession.create .a2dpSoftwareEncoding
  let pcmCfg : PcmConfiguration := ⟨48000, .stereo, 16, 10000⟩
  let s := (s.onSessionStarted (some 1) (some ⟨0, true⟩) ⟨.pcmConfig, pcmCfg⟩ []).1
  s.onSessionEnded.1

/-- An output of that session which is still in use. -/
def endedOutput : ConfigPort := .aidlOut ⟨.aidl, 0x0100, .disabled⟩ false endedSession

/-- What the structures of HIDL hold, when that is zero. -/
def zeroed21 : Uninitialized21 where
  sbc := ⟨0, 0, 0, 0, 0, 0, 0, 0⟩
  aac := ⟨0, 0, 0, .disabled, 0⟩
  ldac := ⟨0, 0, 0, 0⟩
  config := .sbcConfig ⟨0, 0, 0, 0, 0, 0, 0, 0⟩
  frameDuration := 0
  audioConfig := .zero

/-- The session ends under the output: nothing is written, and `out_get_parameters` reads the fields. -/
theorem endedOutput_unwritten :
    endedOutput.loadAudioConfig Hidl.values21 zeroed21 .uninitialized = .ok (false, .uninitialized) ∧
      ¬Usable endedOutput.defaultMask (endedOutput.Values Hidl.values21 zeroed21)
        (false, .uninitialized) ∧
      OutStream.getParameters (fun cfg => endedOutput.loadAudioConfig Hidl.values21 zeroed21 cfg)
        OutStream.rateParams = .ok none :=
  ⟨rfl, fun h => not_isWritten_uninitialized h.written, rfl⟩

end TrebleDoze.Bluetooth
