import TrebleDoze.Bluetooth.Middleware
import TrebleDoze.Bluetooth.OutStream
import TrebleDoze.Bluetooth.PresentationFrames
import TrebleDoze.Bluetooth.StreamSystem

/-!
# The Bluetooth audio device

The device of `hw/audio_bluetooth_hw.cc` with any number of streams on the sessions of all types: streams
are opened and closed, their functions and `adev_set_parameters` run, and the stack acts on the sessions,
all of it in any order.  A step ends where a mutex is released: that of the device (`adevLoop`), of a
session (`inFlight` are the callbacks it has still to invoke in a report) or of a stream (`call`).  A
callback and a function of the stream may read and write `state_` of one port without a common mutex: the
read and the write are one step here.  The ports are those of the AIDL interface; a device without the
AIDL service, whose ports are HIDL ones, is left out.

* `StreamOp.run_of_asks`: a function that waits for the stack is its part before the wait, what the port
  is told, and its part after it;
* `BluetoothAudioDevice.step`: the steps, with the objects that `opened_stream_outs_` and the callbacks
  point at; `Event.usesDeleted` is a call on an object that is gone.
-/

namespace TrebleDoze.Bluetooth

open TrebleDoze.Lib

/-- `audio_devices_t`, as far as `init_session_type` tells the devices apart. -/
inductive AudioDevices where
  | outBluetoothA2dp | outBluetoothA2dpHeadphones | outBluetoothA2dpSpeaker
  | outHearingAid
  | outBleHeadset | outBleSpeaker
  | inBleHeadset
  | outBleBroadcast
  | other (device : ℕ)
  deriving DecidableEq, Repr

/-- The session type that `init_session_type` sets. -/
def AudioDevices.sessionType : AudioDevices → Option SessionType
  | outBluetoothA2dp | outBluetoothA2dpHeadphones | outBluetoothA2dpSpeaker =>
    some .a2dpSoftwareEncoding
  | outHearingAid => some .hearingAidSoftwareEncoding
  | outBleHeadset | outBleSpeaker => some .leAudioSoftwareEncoding
  | inBleHeadset => some .leAudioSoftwareDecoding
  | outBleBroadcast => some .leAudioBroadcastSoftwareEncoding
  | other _ => none

theorem AudioDevices.sessionType_ne {devices : AudioDevices} {t : SessionType}
    (h : devices.sessionType = some t) : t ≠ .unknown := by
  rintro rfl
  cases devices <;> simp [sessionType] at h

/-! ### Functions that wait for the stack -/

namespace StreamOp

/-- The part of the function before the stack is asked. -/
def enter (req : Req) (op : StreamOp) (out : OutStream) : OutStream :=
  let out := match op with
    | standby | pause => { out with framesRendered := 0 }
    | resume => out
    | setParameters audioCfg params =>
      { out.loadAudioConfig audioCfg params with framesRendered := 0 }
  { out with bluetoothOutput := out.bluetoothOutput.setState req.transient }

/-- The part after the wait. -/
def leave (op : StreamOp) (out : OutStream) : OutStream :=
  match op with
  | standby | pause | resume => out
  | setParameters _ params =>
    let out := { out with bluetoothOutput := out.bluetoothOutput.setState .disabled }
    let out := out.stopOn audioParameterKeyClosing "true" params
    out.stopOn audioParameterKeyExiting "1" params

variable {σ χ : Type} {S : SessionControl σ χ} {r : Request σ} {op : StreamOp} {out : OutStream} {req : Req}

/-- **A function that asks the stack** is its two parts, with what the port is told between them. -/
theorem run_of_asks (hu : out.bluetoothOutput.inUse = true) (h : op.asks out = some req) :
    (op.run S r out).2 = op.leave { op.enter req out with
      bluetoothOutput := (op.enter req out).bluetoothOutput.notifyAll
        (r.meanwhile ++ if S.ask req r.isOk r.session then r.waiting else []) } := by
  have hsource := source_of_asks h
  have hport : (out.bluetoothOutput.request req (S.ask req r.isOk r.session) r).2 =
      ({ out.bluetoothOutput with state := req.transient } : BluetoothAudioPort).notifyAll
        (r.meanwhile ++ if S.ask req r.isOk r.session then r.waiting else []) :=
    BluetoothAudioPort.request_snd hu hsource
  cases op with
  | standby | pause =>
    simp only [asks] at h
    split_ifs at h with hs
    obtain rfl := Option.some.inj h
    simp only [run, outStandby, outPause, outSuspend, hs, if_true, leave, enter, BluetoothAudioPort.suspend,
      BluetoothAudioPort.setState]
    rw [← hport]
    rfl
  | resume =>
    simp only [asks] at h
    split_ifs at h with hs
    obtain rfl := Option.some.inj h
    simp only [run, outResume, hs, if_true, leave, enter, BluetoothAudioPort.start,
      BluetoothAudioPort.setState]
    rw [← hport]
    rfl
  | setParameters audioCfg params =>
    simp only [asks] at h
    split_ifs at h with hs
    obtain rfl := Option.some.inj h
    obtain ⟨ha, hp, hst⟩ := hs
    have hload : (out.loadAudioConfig audioCfg params).isA2dp = true :=
      OutStream.same_loadAudioConfig.isA2dp.trans ha
    have hset : (out.loadAudioConfig audioCfg params).setA2dpSuspended S r params =
        { out.loadAudioConfig audioCfg params with
          framesRendered := 0
          bluetoothOutput := (out.bluetoothOutput.suspend S r).2.setState .disabled } := by
      unfold OutStream.setA2dpSuspended
      simp only [hp, hload, OutStream.bluetoothOutput_loadAudioConfig, hst, Bool.not_true,
        Bool.false_eq_true, if_false, if_true]
    dsimp only [run]
    rw [OutStream.setParameters_eq, hset]
    simp only [leave, enter, BluetoothAudioPort.suspend, OutStream.bluetoothOutput_loadAudioConfig]
    rw [show S.suspendStream r.isOk r.session = S.ask .suspend r.isOk r.session from rfl, hport]
    rfl

end StreamOp

/-! ### The streams -/

inductive StreamDirection where
  | output | input
  deriving DecidableEq, Repr

/-- `BluetoothStreamOut` or `BluetoothStreamIn`, the latter without its counters. -/
inductive AudioStream where
  | output (out : OutStream)
  | input (port : BluetoothAudioPort)

namespace AudioStream

def port : AudioStream → BluetoothAudioPort
  | output out => out.bluetoothOutput
  | input port => port

def direction : AudioStream → StreamDirection
  | output _ => .output
  | input _ => .input

def setPort (port : BluetoothAudioPort) : AudioStream → AudioStream
  | output out => output { out with bluetoothOutput := port }
  | input _ => input port

@[simp] theorem port_setPort (port : BluetoothAudioPort) (stream : AudioStream) :
    (stream.setPort port).port = port := by cases stream <;> rfl

@[simp] theorem direction_setPort (port : BluetoothAudioPort) (stream : AudioStream) :
    (stream.setPort port).direction = stream.direction := by cases stream <;> rfl

/-- The stream when `init_session_type` has found the session of its type ready. -/
def create (direction : StreamDirection) (t : SessionType) : AudioStream :=
  let port := (BluetoothAudioPort.create .aidl).setState .standby
  match direction with
  | .output => output { bluetoothOutput := port
                        framesRendered := 0
                        isA2dp := OutStream.isA2dpType t
                        framesPresented := 0
                        lastWriteTimeUs := 0
                        sampleRate := 0
                        framesCount := 0
                        frameSize := 0 }
  | .input => input port

/-- The members that an open loads. -/
def load (config : StreamConfig) : AudioStream → AudioStream
  | output out => output { out with sampleRate := config.sampleRate
                                    framesCount := config.framesCount
                                    frameSize := config.frameSize }
  | input port => input port

@[simp] theorem port_load (config : StreamConfig) (stream : AudioStream) :
    (stream.load config).port = stream.port := by cases stream <;> rfl

@[simp] theorem direction_load (config : StreamConfig) (stream : AudioStream) :
    (stream.load config).direction = stream.direction := by cases stream <;> rfl

end AudioStream

/-- The functions of the streams that work on the port: those of output streams, `in_read` and
`in_standby`. -/
inductive StreamFn where
  | output (op : StreamOp)
  | read
  | inStandby

namespace StreamFn

/-- The function is one of the stream. -/
def fits : StreamFn → AudioStream → Bool
  | output _, .output _ | read, .input _ | inStandby, .input _ => true
  | _, _ => false

/-- What the function asks the session for. -/
def asks (fn : StreamFn) (stream : AudioStream) : Option Req :=
  match fn, stream with
  | output op, .output out => if out.bluetoothOutput.inUse then op.asks out else none
  | read, .input port => if port.inUse ∧ port.state = .standby then some .start else none
  | inStandby, .input port => if port.inUse ∧ port.state = .started then some .suspend else none
  | _, _ => none

/-- The part of the function before the stack is asked. -/
def enter (req : Req) (fn : StreamFn) (stream : AudioStream) : AudioStream :=
  match fn, stream with
  | output op, .output out => .output (op.enter req out)
  | _, stream => stream.setPort (stream.port.setState req.transient)

/-- The part after the wait. -/
def leave (fn : StreamFn) (stream : AudioStream) : AudioStream :=
  match fn, stream with
  | output op, .output out => .output (op.leave out)
  | _, stream => stream

/-- The function when it asks for nothing, so that nothing is met. -/
def runIdle (fn : StreamFn) (stream : AudioStream) : AudioStream :=
  match fn, stream with
  | output op, .output out =>
    .output (op.run (SessionControl.aidl NoPayload) ⟨.create .unknown, false, [], []⟩ out).2
  | _, stream => stream

/-- The streams have one cookie, and one direction. -/
structure Same (stream stream' : AudioStream) : Prop where
  cookie : stream'.port.cookie = stream.port.cookie
  direction : stream'.direction = stream.direction

variable {fn : StreamFn} {stream : AudioStream} {req : Req}

theorem same_setPort {port : BluetoothAudioPort} (h : port.cookie = stream.port.cookie) :
    Same stream (stream.setPort port) := ⟨by simpa using h, by simp⟩

theorem same_enter : Same stream (fn.enter req stream) := by
  unfold enter
  split
  · rename_i op out
    refine ⟨?_, rfl⟩
    cases op with
    | standby | pause | resume => rfl
    | setParameters audioCfg params => simp [AudioStream.port, StreamOp.enter]
  · exact same_setPort rfl

theorem same_leave : Same stream (fn.leave stream) := by
  unfold leave
  split
  · rename_i op out
    refine ⟨?_, rfl⟩
    cases op with
    | standby | pause | resume => rfl
    | setParameters audioCfg params =>
      exact ((OutStream.same_stopOn _ _).trans (OutStream.same_stopOn _ _)).cookie
  · exact ⟨rfl, rfl⟩

theorem same_runIdle : Same stream (fn.runIdle stream) := by
  unfold runIdle
  split
  · exact ⟨StreamOp.same_run.cookie, rfl⟩
  · exact ⟨rfl, rfl⟩

end StreamFn

/-- A function at work on a stream: `adev_set_parameters` has called it or the framework, and the session
has been asked or not. -/
structure StreamCall where
  fn : StreamFn
  req : Req
  byDevice : Bool
  asked : Bool

/-- Where a stream is between its open and its close. -/
inductive Stage where
  /-- `SetUp` has set the session type. -/
  | settingUp
  /-- `RegisterControlResultCback` has returned the cookie. -/
  | registered (cookie : ℕ)
  /-- `SetUp` is done, but `opened_stream_outs_` has not the stream yet. -/
  | setUp
  | opened
  /-- It is closed, or could not be opened; its port is still registered. -/
  | closing
  deriving DecidableEq, Repr

/-- A stream object, the session type of its port, and the function at work on it. -/
structure StreamObject where
  sessionType : SessionType
  stage : Stage
  stream : AudioStream
  call : Option StreamCall

namespace StreamObject

/-- The session with which the port is registered, and its cookie there. -/
def registration (x : StreamObject) : Option (SessionType × ℕ) :=
  match x.stage with
  | .settingUp => none
  | .registered cookie => some (x.sessionType, cookie)
  | .setUp | .opened | .closing => some (x.sessionType, x.stream.port.cookie)

/-- It is in `opened_stream_outs_`. -/
def listed (x : StreamObject) : Bool := x.stage == .opened && x.stream.direction == .output

end StreamObject

/-- The streams that are registered with a session, with their cookies. -/
def registrations (streams : Threads StreamObject) : List (SessionType × ℕ) :=
  streams.filterMap fun x => x.2.registration

/-- An `adev_set_parameters` that holds the mutex: the stream it works on, and those it has yet to. -/
structure AdevLoop where
  params : AudioParams
  current : Option ℕ
  rest : List ℕ

/-- The device and its sessions.  The stream objects are known by numbers that are given once;
`callbacks` says whose callbacks an observer has, and `inFlight` which of them are yet to be invoked. -/
structure BluetoothAudioDevice (κ : Tag → Type) where
  sessions : SessionsMap κ
  callbacks : SessionType → ℕ → Option ℕ
  inFlight : SessionType → List Notification
  streams : Threads StreamObject
  allocated : ℕ
  openedStreamOuts : List ℕ
  adevLoop : Option AdevLoop

namespace BluetoothAudioDevice

/-- What can be seen of the device. -/
inductive Event where
  /-- An open has failed. -/
  | refused
  /-- Stream `i` comes into `opened_stream_outs_`, leaves it, is deleted. -/
  | published (i : ℕ)
  | removed (i : ℕ)
  | deleted (i : ℕ)
  /-- `adev_set_parameters` has returned without the mutex. -/
  | declined (retval : ℤ)
  /-- It has locked the mutex, calls stream `i`, unlocks the mutex. -/
  | locked (streams : List ℕ)
  | visited (i : ℕ)
  | unlocked
  /-- Something is called on a stream that is deleted. -/
  | usesDeleted
  deriving DecidableEq, Repr

/-- The actions of the system. -/
inductive Act (κ : Tag → Type) where
  /-- `adev_open_output_stream` or `adev_open_input_stream`, up to the registration. -/
  | adevOpen (direction : StreamDirection) (devices : AudioDevices)
  | register (i : ℕ)
  /-- `cookie_` is assigned; `loaded` is what `LoadAudioConfig` returns. -/
  | load (i : ℕ) (config : StreamConfig) (loaded : Bool)
  | publish (i : ℕ)
  /-- `adev_close_output_stream` or `adev_close_input_stream`, up to the `TearDown`. -/
  | adevClose (i : ℕ)
  | tearDown (i : ℕ)
  | setParameters (params : AudioParams)
  /-- The next round of its loop; `audioCfg` is what the stream loads. -/
  | visit (audioCfg : Option UInt32)
  | unlock
  /-- A function of stream `i` is called. -/
  | call (i : ℕ) (fn : StreamFn)
  /-- `StartStream` or `SuspendStream` returns. -/
  | ask (i : ℕ) (isOk : Bool)
  /-- The wait of `CondwaitState` ends. -/
  | wake (i : ℕ) (timeout : Bool)
  | stack (t : SessionType)
      (a : StackAct { c : BluetoothAudioSession.Call κ // c.ofStack = true })
  /-- The session invokes the next callback. -/
  | deliver (t : SessionType)

section

variable {κ : Tag → Type} (s : BluetoothAudioDevice κ)

/-- Stream `i` is replaced. -/
def setStream (i : ℕ) (x : StreamObject) : BluetoothAudioDevice κ :=
  { s with streams := s.streams.put i x }

/-- `SetUp` up to the registration. -/
def adevOpen (direction : StreamDirection) (devices : AudioDevices) :
    Option (BluetoothAudioDevice κ × List Event) :=
  match devices.sessionType with
  | none => some (s, [.refused])
  | some t =>
    if s.inFlight t ≠ [] then none
    else
      let (session, sessions) := s.sessions.getSessionInstance t
      let s := { s with sessions := sessions }
      if !session.isSessionReady then some (s, [.refused])
      else
        some ({ s.setStream s.allocated ⟨t, .settingUp, .create direction t, none⟩ with
          allocated := s.allocated + 1 }, [])

/-- The registration of `SetUp`; without a cookie the open fails. -/
def register (i : ℕ) (x : StreamObject) : Option (BluetoothAudioDevice κ × List Event) :=
  match x.stage with
  | .settingUp =>
    if s.inFlight x.sessionType ≠ [] then none
    else
      let (cookie, sessions) := s.sessions.registerControlResultCback x.sessionType ⟨false, false⟩
      let s := { s with sessions := sessions }
      if cookie = kObserversCookieUndefined then
        some ({ s with streams := s.streams.drop i }, [.refused])
      else
        some ({ s.setStream i { x with stage := .registered cookie } with
          callbacks := Function.update s.callbacks x.sessionType
            (Function.update (s.callbacks x.sessionType) cookie (some i)) }, [])
  | _ => none

/-- The rest of an open but for the list; an input stream without a configuration is torn down again. -/
def load (i : ℕ) (x : StreamObject) (config : StreamConfig) (loaded : Bool) :
    Option (BluetoothAudioDevice κ × List Event) :=
  match x.stage with
  | .registered cookie =>
    let stream := (x.stream.setPort { x.stream.port with cookie := cookie }).load config
    match x.stream with
    | .output _ => some (s.setStream i { x with stage := .setUp, stream := stream }, [])
    | .input _ =>
      if loaded then some (s.setStream i { x with stage := .opened, stream := stream }, [])
      else some (s.setStream i { x with stage := .closing, stream := stream }, [.refused])
  | _ => none

/-- `opened_stream_outs_.push_back`. -/
def publish (i : ℕ) (x : StreamObject) : Option (BluetoothAudioDevice κ × List Event) :=
  match x.stage with
  | .setUp =>
    if s.adevLoop.isSome then none
    else
      some ({ s.setStream i { x with stage := .opened } with
        openedStreamOuts := s.openedStreamOuts ++ [i] }, [.published i])
  | _ => none

/-- The begin of a close; the framework closes no stream that it is in. -/
def adevClose (i : ℕ) (x : StreamObject) : Option (BluetoothAudioDevice κ × List Event) :=
  if x.stage = .opened ∧ x.call.isNone then
    match x.stream with
    | .output _ =>
      if s.adevLoop.isSome then none
      else
        some ({ s.setStream i { x with stage := .closing } with
          openedStreamOuts := s.openedStreamOuts.filter (· ≠ i) }, [.removed i])
    | .input _ => some (s.setStream i { x with stage := .closing }, [])
  else none

/-- `TearDown`, and the end of the stream; what `Stop` writes before is deleted with it. -/
def tearDown (i : ℕ) (x : StreamObject) : Option (BluetoothAudioDevice κ × List Event) :=
  if x.stage = .closing ∧ s.inFlight x.sessionType = [] then
    some ({ s with
      sessions := if !x.stream.port.inUse then s.sessions
        else s.sessions.unregisterControlResultCback x.sessionType x.stream.port.cookie
      streams := s.streams.drop i }, [.deleted i])
  else none

/-- A function of stream `i` begins; one that asks for nothing ends at once. -/
def beginCall (i : ℕ) (x : StreamObject) (fn : StreamFn) (byDevice : Bool) : BluetoothAudioDevice κ :=
  match fn.asks x.stream with
  | some req =>
    s.setStream i { x with stream := fn.enter req x.stream, call := some ⟨fn, req, byDevice, false⟩ }
  | none => s.setStream i { x with stream := fn.runIdle x.stream }

/-- The function at work on stream `i` ends. -/
def endCall (i : ℕ) (x : StreamObject) (c : StreamCall) : BluetoothAudioDevice κ :=
  { s.setStream i { x with stream := c.fn.leave x.stream, call := none } with
    adevLoop := if c.byDevice then s.adevLoop.map fun l => { l with current := none } else s.adevLoop }

/-- `adev_set_parameters` up to its loop. -/
def setParameters (params : AudioParams) : Option (BluetoothAudioDevice κ × List Event) :=
  if params.isEmpty then some (s, [.declined 0])
  else if (params.lookup "A2dpSuspended").isNone ∧ (params.lookup "LeAudioSuspended").isNone then
    some (s, [.declined (-ENOSYS)])
  else if s.adevLoop.isSome then none
  else some ({ s with adevLoop := some ⟨params, none, s.openedStreamOuts⟩ }, [.locked s.openedStreamOuts])

/-- A round of the loop: it waits for the stream to be free. -/
def visit (audioCfg : Option UInt32) : Option (BluetoothAudioDevice κ × List Event) :=
  match s.adevLoop with
  | some ⟨params, none, i :: rest⟩ =>
    match s.streams.find i with
    | none => some ({ s with adevLoop := some ⟨params, none, rest⟩ }, [.usesDeleted])
    | some x =>
      if x.call.isSome then none
      else
        let fn := .output (.setParameters audioCfg params)
        some ({ s.beginCall i x fn true with
          adevLoop := some ⟨params, (fn.asks x.stream).map fun _ => i, rest⟩ }, [.visited i])
  | _ => none

/-- The end of the loop. -/
def unlock : Option (BluetoothAudioDevice κ × List Event) :=
  match s.adevLoop with
  | some ⟨_, none, []⟩ => some ({ s with adevLoop := none }, [.unlocked])
  | _ => none

/-- The framework calls a function of an open stream. -/
def callStream (i : ℕ) (x : StreamObject) (fn : StreamFn) : Option (BluetoothAudioDevice κ × List Event) :=
  if x.stage = .opened ∧ x.call.isNone ∧ fn.fits x.stream then some (s.beginCall i x fn false, []) else none

/-- `StartStream` and `SuspendStream`. -/
def askStream (i : ℕ) (x : StreamObject) (isOk : Bool) : Option (BluetoothAudioDevice κ × List Event) :=
  match x.call with
  | some ⟨fn, req, byDevice, false⟩ =>
    if s.inFlight x.sessionType ≠ [] then none
    else
      let (session, sessions) := s.sessions.getSessionInstance x.sessionType
      let s := { s with sessions := sessions }
      if (SessionControl.aidl κ).ask req isOk session then
        some (s.setStream i { x with call := some ⟨fn, req, byDevice, true⟩ }, [])
      else some (s.endCall i x ⟨fn, req, byDevice, false⟩, [])
  | _ => none

/-- The end of the wait. -/
def endWait (i : ℕ) (x : StreamObject) (timeout : Bool) : Option (BluetoothAudioDevice κ × List Event) :=
  match x.call with
  | some ⟨fn, req, byDevice, true⟩ =>
    if timeout ∨ x.stream.port.state ≠ req.transient then
      some (s.endCall i x ⟨fn, req, byDevice, true⟩, [])
    else none
  | _ => none

/-- The next callback of a session. -/
def deliver (t : SessionType) : Option (BluetoothAudioDevice κ × List Event) :=
  match s.inFlight t with
  | [] => none
  | n :: rest =>
    let s := { s with inFlight := Function.update s.inFlight t rest }
    match s.callbacks t n.cookie with
    | none => some (s, [])
    | some i =>
      match s.streams.find i with
      | none => some (s, [.usesDeleted])
      | some x => some (s.setStream i { x with stream := x.stream.setPort (x.stream.port.notify n) }, [])

def step : Act κ → Option (BluetoothAudioDevice κ × List Event)
  | .adevOpen direction devices => s.adevOpen direction devices
  | .register i => (s.streams.find i).bind (s.register i)
  | .load i config loaded => (s.streams.find i).bind fun x => s.load i x config loaded
  | .publish i => (s.streams.find i).bind (s.publish i)
  | .adevClose i => (s.streams.find i).bind (s.adevClose i)
  | .tearDown i => (s.streams.find i).bind (s.tearDown i)
  | .setParameters params => s.setParameters params
  | .visit audioCfg => s.visit audioCfg
  | .unlock => s.unlock
  | .call i fn => (s.streams.find i).bind fun x => s.callStream i x fn
  | .ask i isOk => (s.streams.find i).bind fun x => s.askStream i x isOk
  | .wake i timeout => (s.streams.find i).bind fun x => s.endWait i x timeout
  | .stack t a =>
    if s.inFlight t ≠ [] then none
    else
      let (sessions, ns) := s.sessions.act t a
      some ({ s with sessions := sessions, inFlight := Function.update s.inFlight t ns }, [])
  | .deliver t => s.deliver t

/-- **The device**, opened with no streams and no sessions yet. -/
def lts (κ : Tag → Type) : Lts (BluetoothAudioDevice κ) (Act κ) Event where
  init := ⟨fun _ => none, fun _ _ => none, fun _ => [], [], 0, [], none⟩
  step := step

end

/-! ### What a step does -/

section

variable {κ : Tag → Type} {s s' : BluetoothAudioDevice κ} {a : Act κ} {os : List Event} {i : ℕ}
  {x : StreamObject}

variable (s) in
/-- The ways a step can go. -/
inductive Effect : Act κ → BluetoothAudioDevice κ → List Event → Prop
  | refuses (direction : StreamDirection) (devices : AudioDevices) (sessions : SessionsMap κ)
      (hm : sessions = s.sessions ∨ ∃ t, sessions = (s.sessions.getSessionInstance t).2) :
      Effect (.adevOpen direction devices) { s with sessions := sessions } [.refused]
  | creates (direction : StreamDirection) (devices : AudioDevices) (t : SessionType)
      (ht : devices.sessionType = some t) :
      Effect (.adevOpen direction devices)
        { ({ s with sessions := (s.sessions.getSessionInstance t).2 } :
            BluetoothAudioDevice κ).setStream s.allocated ⟨t, .settingUp, .create direction t, none⟩ with
          allocated := s.allocated + 1 } []
  | registers (i : ℕ) (x : StreamObject) (s' : BluetoothAudioDevice κ) (os : List Event)
      (hf : s.streams.find i = some x) (hs : s.register i x = some (s', os)) : Effect (.register i) s' os
  | loads (i : ℕ) (x : StreamObject) (config : StreamConfig) (loaded : Bool) (cookie : ℕ) (stage : Stage)
      (stream : AudioStream) (os : List Event) (hf : s.streams.find i = some x)
      (hx : x.stage = .registered cookie) (hc : stream.port.cookie = cookie)
      (hd : stream.direction = x.stream.direction)
      (hstage : (stage = .setUp ∧ x.stream.direction = .output) ∨
        ((stage = .opened ∨ stage = .closing) ∧ x.stream.direction = .input))
      (hos : os = [] ∨ os = [.refused]) :
      Effect (.load i config loaded) (s.setStream i { x with stage := stage, stream := stream }) os
  | publishes (i : ℕ) (x : StreamObject) (hf : s.streams.find i = some x) (hx : x.stage = .setUp)
      (hl : s.adevLoop = none) :
      Effect (.publish i) { s.setStream i { x with stage := .opened } with
        openedStreamOuts := s.openedStreamOuts ++ [i] } [.published i]
  | removes (i : ℕ) (x : StreamObject) (hf : s.streams.find i = some x) (hx : x.listed = true)
      (hl : s.adevLoop = none) :
      Effect (.adevClose i) { s.setStream i { x with stage := .closing } with
        openedStreamOuts := s.openedStreamOuts.filter (· ≠ i) } [.removed i]
  | closes (i : ℕ) (x : StreamObject) (hf : s.streams.find i = some x) (hx : x.stage = .opened)
      (hd : x.stream.direction = .input) :
      Effect (.adevClose i) (s.setStream i { x with stage := .closing }) []
  | tearsDown (i : ℕ) (x : StreamObject) (s' : BluetoothAudioDevice κ) (os : List Event)
      (hf : s.streams.find i = some x) (hs : s.tearDown i x = some (s', os)) : Effect (.tearDown i) s' os
  | declines (params : AudioParams) (retval : ℤ) : Effect (.setParameters params) s [.declined retval]
  | locks (params : AudioParams) (hl : s.adevLoop = none) :
      Effect (.setParameters params) { s with adevLoop := some ⟨params, none, s.openedStreamOuts⟩ }
        [.locked s.openedStreamOuts]
  | visits (audioCfg : Option UInt32) (params : AudioParams) (i : ℕ) (rest : List ℕ) (x : StreamObject)
      (hl : s.adevLoop = some ⟨params, none, i :: rest⟩) (hf : s.streams.find i = some x)
      (hc : x.call = none) :
      Effect (.visit audioCfg)
        { s.beginCall i x (.output (.setParameters audioCfg params)) true with
          adevLoop := some ⟨params,
            (StreamFn.asks (.output (.setParameters audioCfg params)) x.stream).map fun _ => i, rest⟩ }
        [.visited i]
  | misses (audioCfg : Option UInt32) (params : AudioParams) (i : ℕ) (rest : List ℕ)
      (hl : s.adevLoop = some ⟨params, none, i :: rest⟩) (hf : s.streams.find i = none) :
      Effect (.visit audioCfg) { s with adevLoop := some ⟨params, none, rest⟩ } [.usesDeleted]
  | unlocks (params : AudioParams) (hl : s.adevLoop = some ⟨params, none, []⟩) :
      Effect .unlock { s with adevLoop := none } [.unlocked]
  | calls (i : ℕ) (fn : StreamFn) (x : StreamObject) (hf : s.streams.find i = some x)
      (hx : x.stage = .opened) (hc : x.call = none) :
      Effect (.call i fn) (s.beginCall i x fn false) []
  | asks (i : ℕ) (isOk : Bool) (x : StreamObject) (c : StreamCall) (hf : s.streams.find i = some x)
      (hc : x.call = some c) :
      Effect (.ask i isOk)
        (({ s with sessions := (s.sessions.getSessionInstance x.sessionType).2 } :
          BluetoothAudioDevice κ).setStream i { x with call := some { c with asked := true } }) []
  | ends (a : Act κ) (i : ℕ) (x : StreamObject) (c : StreamCall) (sessions : SessionsMap κ)
      (hm : sessions = s.sessions ∨ ∃ t, sessions = (s.sessions.getSessionInstance t).2)
      (hf : s.streams.find i = some x) (hc : x.call = some c) :
      Effect a (({ s with sessions := sessions } : BluetoothAudioDevice κ).endCall i x c) []
  | acts (t : SessionType) (a : StackAct { c : BluetoothAudioSession.Call κ // c.ofStack = true }) :
      Effect (.stack t a)
        { s with sessions := (s.sessions.act t a).1
                 inFlight := Function.update s.inFlight t (s.sessions.act t a).2 } []
  | passes (t : SessionType) (n : Notification) (rest : List Notification) (hn : s.inFlight t = n :: rest)
      (hc : s.callbacks t n.cookie = none) :
      Effect (.deliver t) { s with inFlight := Function.update s.inFlight t rest } []
  | delivers (t : SessionType) (n : Notification) (rest : List Notification) (i : ℕ) (x : StreamObject)
      (hn : s.inFlight t = n :: rest) (hf : s.streams.find i = some x) :
      Effect (.deliver t)
        (({ s with inFlight := Function.update s.inFlight t rest } : BluetoothAudioDevice κ).setStream i
          { x with stream := x.stream.setPort (x.stream.port.notify n) }) []
  | dangles (t : SessionType) (n : Notification) (rest : List Notification) (i : ℕ)
      (hn : s.inFlight t = n :: rest) (hc : s.callbacks t n.cookie = some i)
      (hf : s.streams.find i = none) :
      Effect (.deliver t) { s with inFlight := Function.update s.inFlight t rest } [.usesDeleted]

theorem effect_of_step (hs : s.step a = some (s', os)) : Effect s a s' os := by
  cases a with
  | adevOpen direction devices =>
    dsimp only [step, adevOpen] at hs
    split at hs
    · obtain ⟨rfl, rfl⟩ := Prod.mk.inj (Option.some.inj hs)
      exact .refuses direction devices _ (.inl rfl)
    · rename_i t ht
      split_ifs at hs
      · obtain ⟨rfl, rfl⟩ := Prod.mk.inj (Option.some.inj hs)
        exact .refuses direction devices _ (.inr ⟨t, rfl⟩)
      · obtain ⟨rfl, rfl⟩ := Prod.mk.inj (Option.some.inj hs)
        exact .creates direction devices t ht
  | register i =>
    obtain ⟨x, hf, hs⟩ := Option.bind_eq_some_iff.1 hs
    exact .registers i x s' os hf hs
  | load i config loaded =>
    obtain ⟨x, hf, hs⟩ := Option.bind_eq_some_iff.1 hs
    unfold load at hs
    split at hs
    · rename_i cookie hx
      dsimp only at hs
      split at hs
      · rename_i out hout
        obtain ⟨rfl, rfl⟩ := Prod.mk.inj (Option.some.inj hs)
        exact .loads i x config loaded cookie _ _ _ hf hx (by simp) (by simp)
          (.inl ⟨rfl, by rw [hout]; rfl⟩) (.inl rfl)
      · rename_i port hin
        split_ifs at hs
        · obtain ⟨rfl, rfl⟩ := Prod.mk.inj (Option.some.inj hs)
          exact .loads i x config loaded cookie _ _ _ hf hx (by simp) (by simp)
            (.inr ⟨.inl rfl, by rw [hin]; rfl⟩) (.inl rfl)
        · obtain ⟨rfl, rfl⟩ := Prod.mk.inj (Option.some.inj hs)
          exact .loads i x config loaded cookie _ _ _ hf hx (by simp) (by simp)
            (.inr ⟨.inr rfl, by rw [hin]; rfl⟩) (.inr rfl)
    · cases hs
  | publish i =>
    obtain ⟨x, hf, hs⟩ := Option.bind_eq_some_iff.1 hs
    unfold publish at hs
    split at hs
    · rename_i hx
      split_ifs at hs with hl
      obtain ⟨rfl, rfl⟩ := Prod.mk.inj (Option.some.inj hs)
      exact .publishes i x hf hx (by simpa using hl)
    · cases hs
  | adevClose i =>
    obtain ⟨x, hf, hs⟩ := Option.bind_eq_some_iff.1 hs
    unfold adevClose at hs
    by_cases hx : x.stage = .opened ∧ x.call.isNone
    · rw [if_pos hx] at hs
      split at hs
      · rename_i out hout
        split_ifs at hs with hl
        obtain ⟨rfl, rfl⟩ := Prod.mk.inj (Option.some.inj hs)
        exact .removes i x hf (by simp [StreamObject.listed, hx.1, hout, AudioStream.direction])
          (by simpa using hl)
      · rename_i port hin
        obtain ⟨rfl, rfl⟩ := Prod.mk.inj (Option.some.inj hs)
        exact .closes i x hf hx.1 (by rw [hin]; rfl)
    · rw [if_neg hx] at hs
      cases hs
  | tearDown i =>
    obtain ⟨x, hf, hs⟩ := Option.bind_eq_some_iff.1 hs
    exact .tearsDown i x s' os hf hs
  | setParameters params =>
    dsimp only [step, setParameters] at hs
    split_ifs at hs with _ _ hl
    · obtain ⟨rfl, rfl⟩ := Prod.mk.inj (Option.some.inj hs)
      exact .declines params _
    · obtain ⟨rfl, rfl⟩ := Prod.mk.inj (Option.some.inj hs)
      exact .declines params _
    · obtain ⟨rfl, rfl⟩ := Prod.mk.inj (Option.some.inj hs)
      exact .locks params (by simpa using hl)
  | visit audioCfg =>
    dsimp only [step, visit] at hs
    split at hs
    · rename_i params i rest hl
      split at hs
      · rename_i hf
        obtain ⟨rfl, rfl⟩ := Prod.mk.inj (Option.some.inj hs)
        exact .misses audioCfg params i rest hl hf
      · rename_i x hf
        split_ifs at hs with hc
        obtain ⟨rfl, rfl⟩ := Prod.mk.inj (Option.some.inj hs)
        exact .visits audioCfg params i rest x hl hf (by simpa using hc)
    · cases hs
  | unlock =>
    dsimp only [step, unlock] at hs
    split at hs
    · rename_i params hl
      obtain ⟨rfl, rfl⟩ := Prod.mk.inj (Option.some.inj hs)
      exact .unlocks params hl
    · cases hs
  | call i fn =>
    obtain ⟨x, hf, hs⟩ := Option.bind_eq_some_iff.1 hs
    unfold callStream at hs
    split_ifs at hs with hx
    obtain ⟨rfl, rfl⟩ := Prod.mk.inj (Option.some.inj hs)
    exact .calls i fn x hf hx.1 (by simpa using hx.2.1)
  | ask i isOk =>
    obtain ⟨x, hf, hs⟩ := Option.bind_eq_some_iff.1 hs
    unfold askStream at hs
    split at hs
    · rename_i fn req byDevice hc
      dsimp only at hs
      split_ifs at hs
      · obtain ⟨rfl, rfl⟩ := Prod.mk.inj (Option.some.inj hs)
        exact .asks i isOk x _ hf hc
      · obtain ⟨rfl, rfl⟩ := Prod.mk.inj (Option.some.inj hs)
        exact .ends _ i x _ _ (.inr ⟨x.sessionType, rfl⟩) hf hc
    · cases hs
  | wake i timeout =>
    obtain ⟨x, hf, hs⟩ := Option.bind_eq_some_iff.1 hs
    unfold endWait at hs
    split at hs
    · rename_i fn req byDevice hc
      split_ifs at hs
      obtain ⟨rfl, rfl⟩ := Prod.mk.inj (Option.some.inj hs)
      exact .ends _ i x _ _ (.inl rfl) hf hc
    · cases hs
  | stack t a =>
    dsimp only [step] at hs
    split_ifs at hs
    obtain ⟨rfl, rfl⟩ := Prod.mk.inj (Option.some.inj hs)
    exact .acts t a
  | deliver t =>
    dsimp only [step, deliver] at hs
    split at hs
    · cases hs
    · rename_i n rest hn
      split at hs
      · rename_i hc
        obtain ⟨rfl, rfl⟩ := Prod.mk.inj (Option.some.inj hs)
        exact .passes t n rest hn hc
      · rename_i i hc
        split at hs
        · rename_i hf
          obtain ⟨rfl, rfl⟩ := Prod.mk.inj (Option.some.inj hs)
          exact .dangles t n rest i hn hc hf
        · rename_i x hf
          obtain ⟨rfl, rfl⟩ := Prod.mk.inj (Option.some.inj hs)
          exact .delivers t n rest i x hn hf

end

end BluetoothAudioDevice

end TrebleDoze.Bluetooth
