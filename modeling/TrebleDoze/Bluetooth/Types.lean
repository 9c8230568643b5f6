import Mathlib.Data.Int.Notation
import Mathlib.Data.List.Basic
import Mathlib.Tactic.Common

/-!
# The types of the Bluetooth audio interface

The enumerations and the tagged union that the AIDL session, its provider and its ports exchange.  The
payloads of an audio configuration are a parameter: `AudioConfiguration κ` is a tag `t` and a value of
`κ t`.
-/

namespace TrebleDoze.Bluetooth

/-- `SessionType`, without the suffix `_DATAPATH`, in the order of the interface. -/
inductive SessionType where
  | unknown
  | a2dpSoftwareEncoding
  | a2dpHardwareOffloadEncoding
  | hearingAidSoftwareEncoding
  | leAudioSoftwareEncoding
  | leAudioSoftwareDecoding
  | leAudioHardwareOffloadEncoding
  | leAudioHardwareOffloadDecoding
  | leAudioBroadcastSoftwareEncoding
  | leAudioBroadcastHardwareOffloadEncoding
  | a2dpSoftwareDecoding
  | a2dpHardwareOffloadDecoding
  | hfpSoftwareEncoding
  | hfpSoftwareDecoding
  | hfpHardwareOffload
  deriving DecidableEq, Repr

namespace SessionType

/-- The number of the session type in the interface. -/
def code : SessionType → ℕ
  | unknown => 0
  | a2dpSoftwareEncoding => 1
  | a2dpHardwareOffloadEncoding => 2
  | hearingAidSoftwareEncoding => 3
  | leAudioSoftwareEncoding => 4
  | leAudioSoftwareDecoding => 5
  | leAudioHardwareOffloadEncoding => 6
  | leAudioHardwareOffloadDecoding => 7
  | leAudioBroadcastSoftwareEncoding => 8
  | leAudioBroadcastHardwareOffloadEncoding => 9
  | a2dpSoftwareDecoding => 10
  | a2dpHardwareOffloadDecoding => 11
  | hfpSoftwareEncoding => 12
  | hfpSoftwareDecoding => 13
  | hfpHardwareOffload => 14

/-- `is_software_session` of `UpdateAudioConfig`. -/
def isSoftware : SessionType → Bool
  | a2dpSoftwareEncoding | hearingAidSoftwareEncoding | hfpSoftwareEncoding | hfpSoftwareDecoding
  | leAudioSoftwareDecoding | leAudioSoftwareEncoding | leAudioBroadcastSoftwareEncoding
  | a2dpSoftwareDecoding => true
  | _ => false

/-- `is_offload_a2dp_session`. -/
def isOffloadA2dp : SessionType → Bool
  | a2dpHardwareOffloadEncoding | a2dpHardwareOffloadDecoding => true
  | _ => false

/-- `is_offload_le_audio_unicast_session`. -/
def isOffloadLeAudioUnicast : SessionType → Bool
  | leAudioHardwareOffloadEncoding | leAudioHardwareOffloadDecoding => true
  | _ => false

end SessionType

/-- The tags of `AudioConfiguration`. -/
inductive Tag where
  | pcmConfig | a2dpConfig | leAudioConfig | leAudioBroadcastConfig | hfpConfig | a2dp
  deriving DecidableEq, Repr

/-- `AudioConfiguration`, a union with payloads `κ`. -/
structure AudioConfiguration (κ : Tag → Type) where
  tag : Tag
  value : κ tag

instance {κ : Tag → Type} [∀ t, DecidableEq (κ t)] : DecidableEq (AudioConfiguration κ)
  | ⟨t, v⟩, ⟨t', v'⟩ =>
    if h : t = t' then
      decidable_of_iff (h ▸ v = v') (by subst h; simp)
    else isFalse fun e => h (congrArg AudioConfiguration.tag e)

/-- Payloads without content. -/
abbrev NoPayload : Tag → Type := fun _ => Unit

/-- `LatencyMode`. -/
inductive LatencyMode where
  | unknown | lowLatency | free | dynamicSpatialAudioSoftware | dynamicSpatialAudioHardware
  deriving DecidableEq, Repr

/-- `BluetoothAudioStatus`; the HIDL `Status` is the part `success`, `unsupportedCodecConfiguration`,
`failure`. -/
inductive BluetoothAudioStatus where
  | unknown | success | unsupportedCodecConfiguration | failure | reconfiguration
  deriving DecidableEq, Repr

/-- `CodecId`, a union of the ids of the core specification, of A2DP and of vendors. -/
inductive CodecId where
  | cvsd | msbc | lc3
  | sbc | aac
  | vendor (id codecId : ℤ)
  deriving DecidableEq, Repr

/-- What the source runs into where its behaviour is not defined: the end of a range is dereferenced, or
an empty `optional`. -/
inductive Undefined where
  | endDereferenced | emptyOptional
  deriving DecidableEq, Repr

/-- A message queue, and likewise its descriptor: the ring buffer it is mapped on, and whether mapping
that succeeds. -/
structure DataMQ where
  ring : ℕ
  isValid : Bool
  deriving DecidableEq, Repr

/-- What the sessions tell the registered ports. -/
inductive Notification where
  | controlResult (cookie : ℕ) (startResp : Bool) (status : BluetoothAudioStatus)
  | sessionChanged (cookie : ℕ)
  | audioConfigurationChanged (cookie : ℕ)
  | lowLatencyModeAllowed (cookie : ℕ) (allowed : Bool)
  deriving DecidableEq, Repr

/-! ### The table of observers -/

/-- `kObserversCookieSize`. -/
def kObserversCookieSize : ℕ := 0x0010

/-- `kObserversCookieUndefined`. -/
def kObserversCookieUndefined : ℕ := 0

/-- `ObserversCookieGetInitValue`, for the number of a session type. -/
def observersCookieGetInitValue (code : ℕ) : ℕ := code <<< 8 &&& 0xff00

/-- The registration of `RegisterStatusCback`: the first cookie from `initValue` on that is not in
use, unless there is none below the upper bound. -/
def registerObserver {α : Type} (initValue : ℕ) (callbacks : α) (observers : List (ℕ × α)) :
    ℕ × List (ℕ × α) :=
  match (List.range kObserversCookieSize).find? fun i =>
      !(observers.any fun o => o.1 == initValue + i) with
  | some i => (initValue + i, observers ++ [(initValue + i, callbacks)])
  | none => (kObserversCookieUndefined, observers)

/-- `observers_.erase(cookie)`. -/
def unregisterObserver {α : Type} (cookie : ℕ) (observers : List (ℕ × α)) : List (ℕ × α) :=
  observers.filter fun o => o.1 != cookie

end TrebleDoze.Bluetooth
