import TrebleDoze.Bluetooth.Stream

/-!
# An output stream

`OutStream` adds to `BluetoothStreamOut` the members that the counters and the latency are made of.
`StreamOp` are the functions of `hw/stream_apis.cc` that hold the mutex of the stream and work on its
port; `out_write` is cut at the points where it does not hold it.

The source works out the size of a frame at each call, from the configuration that the session has then,
and `out_write` asks it for the sample rate likewise. Here they are members, and no function but
`out_set_parameters` loads the rate anew: a session that is configured for other frames between two calls
is only in `presented_le_iff`. The counters of frames are `uint64_t` in the source and natural numbers here:
that they overflow is left out.

* `OutStream.Same`, `StreamOp.same_run`: what no function of the stream changes;
* `StreamOp.state_run_of_disabled`: only an `A2dpSuspended` with another value than `true` takes the port
  out of `DISABLED`; `StreamOp.state_run_suspended`, `StreamOp.state_run_of_asks`: what puts it there;
* `StreamOp.framesPresented_run`: only the parameters `closing` and `exiting` reset `frames_presented_`.
-/

namespace TrebleDoze.Bluetooth

/-- `BluetoothStreamOut`, with what `IsA2dp` of its port returns and the size that
`audio_stream_out_frame_size` finds for its frames. -/
structure OutStream extends BluetoothStreamOut where
  isA2dp : Bool
  framesPresented : ℕ
  lastWriteTimeUs : ℤ
  sampleRate : UInt32
  framesCount : UInt64
  frameSize : ℕ

/-- The entries of the map that `ParseAudioParams` returns. -/
abbrev AudioParams := List (String × String)

/-- `AUDIO_PARAMETER_STREAM_SUP_SAMPLING_RATES`. -/
def audioParameterStreamSupSamplingRates : String := "sup_sampling_rates"

/-- `AUDIO_PARAMETER_STREAM_SUP_CHANNELS`. -/
def audioParameterStreamSupChannels : String := "sup_channels"

/-- `AUDIO_PARAMETER_STREAM_SUP_FORMATS`. -/
def audioParameterStreamSupFormats : String := "sup_formats"

/-- `AUDIO_PARAMETER_KEY_CLOSING`. -/
def audioParameterKeyClosing : String := "closing"

/-- `AUDIO_PARAMETER_KEY_EXITING`. -/
def audioParameterKeyExiting : String := "exiting"

/-- What `LoadAudioConfig`, `GetPreferredDataIntervalUs` and `FrameCount` give a stream when it is
opened. -/
structure StreamConfig where
  sampleRate : UInt32
  framesCount : UInt64
  frameSize : ℕ
  deriving DecidableEq, Repr

namespace OutStream

/-- `IsA2dp` of an AIDL port, for the type of its session. -/
def isA2dpType : SessionType → Bool
  | .a2dpSoftwareEncoding | .a2dpHardwareOffloadEncoding => true
  | _ => false

section

variable {σ χ : Type} (S : SessionControl σ χ) (r : Request σ)

/-- `adev_open_output_stream`, for a device whose port is an A2DP port or not. -/
def adevOpen (api : Api) (isA2dp : Bool) (config : StreamConfig) (s : σ) : σ × Option OutStream :=
  let (ok, s, port) := (BluetoothAudioPort.create api).setUp S s
  if !ok then (s, none)
  else
    (s, some { bluetoothOutput := port
               framesRendered := 0
               isA2dp := isA2dp
               framesPresented := 0
               lastWriteTimeUs := 0
               sampleRate := config.sampleRate
               framesCount := config.framesCount
               frameSize := config.frameSize })

/-- The block that `closing`, `exiting` and `adev_close_output_stream` share. -/
def stop (out : OutStream) : OutStream :=
  if out.bluetoothOutput.state ≠ .disabled then
    { out with framesRendered := 0, framesPresented := 0, bluetoothOutput := out.bluetoothOutput.stop }
  else out

/-- `adev_close_output_stream`; the session that is left. -/
def adevClose (out : OutStream) (s : σ) : σ := (out.stop.bluetoothOutput.tearDown S s).1

/-- The members that `out_set_parameters` loads anew; `audioCfg` is what `LoadAudioConfig` finds. -/
def loadAudioConfig (audioCfg : Option UInt32) (params : AudioParams) (out : OutStream) : OutStream :=
  if (params.lookup audioParameterStreamSupSamplingRates).isSome ∨
      (params.lookup audioParameterStreamSupChannels).isSome ∨
      (params.lookup audioParameterStreamSupFormats).isSome then
    match audioCfg with
    | some sampleRate => { out with sampleRate := sampleRate }
    | none => out
  else out

/-- The block of `A2dpSuspended` in `out_set_parameters`. -/
def setA2dpSuspended (params : AudioParams) (out : OutStream) : OutStream :=
  match params.lookup "A2dpSuspended" with
  | none => out
  | some value =>
    if !out.isA2dp then out
    else if value = "true" then
      let out := { out with framesRendered := 0 }
      if out.bluetoothOutput.state = .started then
        { out with bluetoothOutput := (out.bluetoothOutput.suspend S r).2.setState .disabled }
      else if out.bluetoothOutput.state ≠ .disabled then
        { out with bluetoothOutput := out.bluetoothOutput.stop }
      else out
    else if out.bluetoothOutput.state = .disabled then
      { out with bluetoothOutput := out.bluetoothOutput.setState .standby }
    else out

/-- The blocks of `closing` and of `exiting` in `out_set_parameters`. -/
def stopOn (key value : String) (params : AudioParams) (out : OutStream) : OutStream :=
  if params.lookup key = some value then out.stop else out

/-- `out_set_parameters`; it returns 0.  What `LeAudioSuspended` does is to log. -/
def setParameters (audioCfg : Option UInt32) (params : AudioParams) (out : OutStream) : OutStream :=
  if params.isEmpty then out
  else
    let out := out.loadAudioConfig audioCfg params
    let out := out.setA2dpSuspended S r params
    let out := out.stopOn audioParameterKeyClosing "true" params
    out.stopOn audioParameterKeyExiting "1" params

end

/-- The block of `A2dpSuspended` leaves the port outside of `DISABLED`: with another value than `true` it
always does on an A2DP port. -/
def awake (params : AudioParams) (out : OutStream) : Bool :=
  match params.lookup "A2dpSuspended" with
  | some value => if out.isA2dp then value != "true" else out.bluetoothOutput.state != .disabled
  | none => out.bluetoothOutput.state != .disabled

/-! ### `out_write` -/

/-- What `out_write` returns when its `resume` fails: it drops the data of a disabled stream. -/
def dropWrite (bytes : ℕ) (out : OutStream) : ℕ :=
  if out.bluetoothOutput.state = .disabled then bytes else 0

/-- `WriteData`, when the data path of the session takes `accepted` bytes. -/
def writeData (accepted : ℕ) (out : OutStream) : ℕ :=
  if !out.bluetoothOutput.inUse then 0 else accepted

/-- The part of `out_write` after `WriteData`, at the time `nowUs`: the stream, and how long it sleeps. -/
def countWrite (bytes totalWritten : ℕ) (nowUs : ℤ) (out : OutStream) : OutStream × ℤ :=
  if totalWritten ≠ 0 then
    let frames := bytes / out.frameSize
    ({ out with framesRendered := out.framesRendered + frames
                framesPresented := out.framesPresented + frames
                lastWriteTimeUs := nowUs }, 0)
  else
    let elapsedTimeSinceLastWrite := nowUs - out.lastWriteTimeUs
    let sleepTime : ℤ :=
      (bytes * 1000000 / out.frameSize / out.sampleRate.toNat : ℕ) - elapsedTimeSinceLastWrite
    if sleepTime > 0 then (out, sleepTime) else ({ out with lastWriteTimeUs := nowUs }, 0)

end OutStream

/-! ### The functions that hold the mutex -/

/-- The functions of the stream that hold its mutex and work on its port. -/
inductive StreamOp where
  | standby
  | pause
  | resume
  | setParameters (audioCfg : Option UInt32) (params : AudioParams)

namespace StreamOp

section

variable {σ χ : Type} (S : SessionControl σ χ) (r : Request σ)

/-- What the function returns, and the stream it leaves. -/
def run (op : StreamOp) (out : OutStream) : ℤ × OutStream :=
  match op with
  | standby =>
    let (retval, base) := outStandby S r out.toBluetoothStreamOut
    (retval, { out with toBluetoothStreamOut := base })
  | pause =>
    let (retval, base) := outPause S r out.toBluetoothStreamOut
    (retval, { out with toBluetoothStreamOut := base })
  | resume =>
    let (retval, base) := outResume S r out.toBluetoothStreamOut
    (retval, { out with toBluetoothStreamOut := base })
  | setParameters audioCfg params => (0, out.setParameters S r audioCfg params)

end

/-- The function hands a parameter `A2dpSuspended` with another value than `true`. -/
def lifts : StreamOp → Bool
  | setParameters _ params => (params.lookup "A2dpSuspended").any (· != "true")
  | _ => false

/-- What the function asks the session for, on a port in use. -/
def asks (op : StreamOp) (out : OutStream) : Option Req :=
  match op with
  | standby | pause => if out.bluetoothOutput.state = .started then some .suspend else none
  | resume => if out.bluetoothOutput.state = .standby then some .start else none
  | setParameters _ params =>
    if out.isA2dp ∧ params.lookup "A2dpSuspended" = some "true" ∧
        out.bluetoothOutput.state = .started then some .suspend
    else none

/-- The function hands a parameter `closing` or `exiting` that finds the port outside of `DISABLED`. -/
def resets (op : StreamOp) (out : OutStream) : Bool :=
  match op with
  | setParameters _ params =>
    (decide (params.lookup audioParameterKeyClosing = some "true") ||
      decide (params.lookup audioParameterKeyExiting = some "1")) && out.awake params
  | _ => false

end StreamOp

/-! ### What no function of the stream changes -/

/-- The streams have one cookie, one kind of device and one frame size. -/
structure OutStream.Same (out out' : OutStream) : Prop where
  cookie : out'.bluetoothOutput.cookie = out.bluetoothOutput.cookie
  isA2dp : out'.isA2dp = out.isA2dp
  frameSize : out'.frameSize = out.frameSize

namespace OutStream

variable {σ χ : Type} {S : SessionControl σ χ} {r : Request σ} {audioCfg : Option UInt32}
  {params : AudioParams} {out out' out'' : OutStream}

theorem Same.refl (out : OutStream) : out.Same out := ⟨rfl, rfl, rfl⟩

theorem Same.trans (h : out.Same out') (h' : out'.Same out'') : out.Same out'' :=
  ⟨h'.cookie.trans h.cookie, h'.isA2dp.trans h.isA2dp, h'.frameSize.trans h.frameSize⟩

theorem Same.inUse (h : out.Same out') :
    out'.bluetoothOutput.inUse = out.bluetoothOutput.inUse := by
  simp [BluetoothAudioPort.inUse, h.cookie]

theorem opened_of_adevOpen {api : Api} {isA2dp : Bool} {config : StreamConfig} {s : σ}
    (h : (adevOpen S api isA2dp config s).2 = some out) :
    out.bluetoothOutput.inUse = true ∧ out.isA2dp = isA2dp ∧ out.framesPresented = 0 := by
  dsimp only [adevOpen] at h
  split_ifs at h with hok
  obtain rfl := Option.some.inj h
  exact ⟨BluetoothAudioPort.inUse_setUp (by simpa using hok), rfl, rfl⟩

theorem same_stop : out.Same out.stop := by
  unfold stop
  split_ifs with h
  · exact ⟨by simp, rfl, rfl⟩
  · exact .refl out

theorem same_loadAudioConfig : out.Same (out.loadAudioConfig audioCfg params) := by
  unfold loadAudioConfig
  split_ifs
  · cases audioCfg <;> exact ⟨rfl, rfl, rfl⟩
  · exact .refl out

theorem same_setA2dpSuspended : out.Same (out.setA2dpSuspended S r params) := by
  unfold setA2dpSuspended
  cases params.lookup "A2dpSuspended" with
  | none => exact .refl out
  | some value =>
    dsimp only
    split_ifs
    · exact .refl out
    · exact ⟨by simp [BluetoothAudioPort.suspend], rfl, rfl⟩
    · exact ⟨by simp, rfl, rfl⟩
    · exact ⟨rfl, rfl, rfl⟩
    · exact ⟨rfl, rfl, rfl⟩
    · exact .refl out

theorem same_stopOn (key value : String) : out.Same (out.stopOn key value params) := by
  unfold stopOn
  split_ifs
  · exact same_stop
  · exact .refl out

theorem setParameters_eq : out.setParameters S r audioCfg params =
    (((out.loadAudioConfig audioCfg params).setA2dpSuspended S r params).stopOn
      audioParameterKeyClosing "true" params).stopOn audioParameterKeyExiting "1" params := by
  cases params with
  | nil => rfl
  | cons => rfl

theorem same_setParameters : out.Same (out.setParameters S r audioCfg params) := by
  rw [setParameters_eq]
  exact same_loadAudioConfig.trans
    (same_setA2dpSuspended.trans ((same_stopOn _ _).trans (same_stopOn _ _)))

theorem bluetoothOutput_countWrite (bytes totalWritten : ℕ) (nowUs : ℤ) :
    (out.countWrite bytes totalWritten nowUs).1.bluetoothOutput = out.bluetoothOutput := by
  dsimp only [countWrite]
  split_ifs <;> rfl

theorem same_countWrite (bytes totalWritten : ℕ) (nowUs : ℤ) :
    out.Same (out.countWrite bytes totalWritten nowUs).1 := by
  refine ⟨by rw [bluetoothOutput_countWrite], ?_, ?_⟩
  · dsimp only [countWrite]
    split_ifs <;> rfl
  · dsimp only [countWrite]
    split_ifs <;> rfl

theorem framesPresented_countWrite (bytes totalWritten : ℕ) (nowUs : ℤ) :
    (out.countWrite bytes totalWritten nowUs).1.framesPresented =
      out.framesPresented + if totalWritten ≠ 0 then bytes / out.frameSize else 0 := by
  dsimp only [countWrite]
  split_ifs <;> rfl

/-! ### The state of the port, and the counter -/

theorem state_stop (hu : out.bluetoothOutput.inUse = true) :
    out.stop.bluetoothOutput.state = .disabled := by
  unfold stop
  split_ifs with h
  · exact BluetoothAudioPort.state_stop hu
  · exact not_not.1 h

theorem stop_of_disabled (h : out.bluetoothOutput.state = .disabled) : out.stop = out :=
  if_neg (not_not.2 h)

theorem stopOn_of_disabled (h : out.bluetoothOutput.state = .disabled) (key value : String) :
    out.stopOn key value params = out := by
  unfold stopOn
  rw [stop_of_disabled h, ite_self]

theorem state_stopOn (hu : out.bluetoothOutput.inUse = true) (key value : String) :
    (out.stopOn key value params).bluetoothOutput.state =
      if params.lookup key = some value then .disabled else out.bluetoothOutput.state := by
  unfold stopOn
  split_ifs
  · exact state_stop hu
  · rfl

theorem framesPresented_stopOn (key value : String) :
    (out.stopOn key value params).framesPresented =
      if params.lookup key = some value ∧ out.bluetoothOutput.state ≠ .disabled then 0
      else out.framesPresented := by
  unfold stopOn stop
  by_cases hk : params.lookup key = some value <;>
    by_cases hs : out.bluetoothOutput.state = .disabled <;> simp [hk, hs]

theorem framesPresented_stopOn_stopOn (hu : out.bluetoothOutput.inUse = true)
    (key value key' value' : String) :
    ((out.stopOn key value params).stopOn key' value' params).framesPresented =
      if (params.lookup key = some value ∨ params.lookup key' = some value') ∧
          out.bluetoothOutput.state ≠ .disabled then 0
      else out.framesPresented := by
  rw [framesPresented_stopOn, framesPresented_stopOn, state_stopOn hu]
  by_cases hk : params.lookup key = some value
  · simp [hk]
  · simp [hk]

@[simp] theorem bluetoothOutput_loadAudioConfig :
    (out.loadAudioConfig audioCfg params).bluetoothOutput = out.bluetoothOutput := by
  unfold loadAudioConfig
  split_ifs
  · cases audioCfg <;> rfl
  · rfl

@[simp] theorem framesPresented_loadAudioConfig :
    (out.loadAudioConfig audioCfg params).framesPresented = out.framesPresented := by
  unfold loadAudioConfig
  split_ifs
  · cases audioCfg <;> rfl
  · rfl

theorem framesPresented_setA2dpSuspended :
    (out.setA2dpSuspended S r params).framesPresented = out.framesPresented := by
  unfold setA2dpSuspended
  cases params.lookup "A2dpSuspended" with
  | none => rfl
  | some value =>
    dsimp only
    split_ifs <;> rfl

/-- A suspension disables an A2DP port, whatever its `Suspend` meets. -/
theorem state_setA2dpSuspended_true (hu : out.bluetoothOutput.inUse = true)
    (ha : out.isA2dp = true) (hp : params.lookup "A2dpSuspended" = some "true") :
    (out.setA2dpSuspended S r params).bluetoothOutput.state = .disabled := by
  simp only [setA2dpSuspended, hp, ha, Bool.not_true, Bool.false_eq_true, if_false, if_true]
  split_ifs with hs hd
  · rfl
  · exact BluetoothAudioPort.state_stop hu
  · exact not_not.1 hd

/-- The parameter with another value takes the port out of `DISABLED`. -/
theorem state_setA2dpSuspended_other (ha : out.isA2dp = true) {value : String}
    (hp : params.lookup "A2dpSuspended" = some value) (hv : value ≠ "true") :
    (out.setA2dpSuspended S r params).bluetoothOutput.state =
      if out.bluetoothOutput.state = .disabled then .standby else out.bluetoothOutput.state := by
  simp only [setA2dpSuspended, hp, ha, hv, Bool.not_true, Bool.false_eq_true, if_false]
  split_ifs <;> rfl

theorem setA2dpSuspended_of_none (h : out.isA2dp = false ∨ params.lookup "A2dpSuspended" = none) :
    out.setA2dpSuspended S r params = out := by
  unfold setA2dpSuspended
  rcases h with h | h
  · cases params.lookup "A2dpSuspended" with
    | none => rfl
    | some value => simp [h]
  · rw [h]

/-- A disabled port stays so, unless the parameter comes with another value. -/
theorem state_setA2dpSuspended_of_disabled (hd : out.bluetoothOutput.state = .disabled)
    (hn : out.isA2dp = true → (params.lookup "A2dpSuspended").any (· != "true") = false) :
    (out.setA2dpSuspended S r params).bluetoothOutput.state = .disabled := by
  cases ha : out.isA2dp with
  | false => rwa [setA2dpSuspended_of_none (.inl ha)]
  | true =>
    cases hp : params.lookup "A2dpSuspended" with
    | none => rwa [setA2dpSuspended_of_none (.inr hp)]
    | some value =>
      obtain rfl : value = "true" := by simpa [hp] using hn ha
      simp [setA2dpSuspended, hp, ha, hd]

theorem awake_iff (hu : out.bluetoothOutput.inUse = true) :
    (out.setA2dpSuspended S r params).bluetoothOutput.state ≠ .disabled ↔ out.awake params = true := by
  unfold awake
  cases hp : params.lookup "A2dpSuspended" with
  | none => simp [setA2dpSuspended_of_none (.inr hp)]
  | some value =>
    cases ha : out.isA2dp with
    | false => simp [setA2dpSuspended_of_none (.inl ha)]
    | true =>
      by_cases hv : value = "true"
      · subst hv
        simp [state_setA2dpSuspended_true hu ha hp]
      · rw [state_setA2dpSuspended_other ha hp hv]
        by_cases hs : out.bluetoothOutput.state = .disabled <;> simp [hs, hv]

end OutStream

/-! ### What the functions do -/

namespace StreamOp

variable {σ χ : Type} {S : SessionControl σ χ} {r : Request σ} {out : OutStream} {op : StreamOp}
  {req : Req}

theorem same_run : out.Same (op.run S r out).2 := by
  cases op with
  | standby | pause =>
    refine ⟨?_, rfl, rfl⟩
    simp only [run, outStandby, outPause, bluetoothOutput_outSuspend]
    split_ifs
    · exact BluetoothAudioPort.cookie_request
    · rfl
  | resume =>
    refine ⟨?_, rfl, rfl⟩
    simp only [run, bluetoothOutput_outResume]
    split_ifs
    · exact BluetoothAudioPort.cookie_request
    · rfl
  | setParameters audioCfg params => exact OutStream.same_setParameters

/-- A disabled port stays so, unless the function lifts a suspension of an A2DP port. -/
theorem state_run_of_disabled (hd : out.bluetoothOutput.state = .disabled)
    (hn : out.isA2dp = true → op.lifts = false) :
    (op.run S r out).2.bluetoothOutput.state = .disabled := by
  cases op with
  | standby | pause => simp [run, outStandby, outPause, bluetoothOutput_outSuspend, hd]
  | resume => simp [run, bluetoothOutput_outResume, hd]
  | setParameters audioCfg params =>
    have h : ((out.loadAudioConfig audioCfg params).setA2dpSuspended S r params).bluetoothOutput.state =
        .disabled := by
      apply OutStream.state_setA2dpSuspended_of_disabled
      · rwa [OutStream.bluetoothOutput_loadAudioConfig]
      · rw [OutStream.same_loadAudioConfig.isA2dp]
        exact hn
    dsimp only [run]
    rwa [OutStream.setParameters_eq, OutStream.stopOn_of_disabled h, OutStream.stopOn_of_disabled h]

theorem run_resume_of_disabled (hd : out.bluetoothOutput.state = .disabled) :
    (resume.run S r out).1 = -EINVAL := by
  simp [run, outResume, hd]

theorem state_run_suspended {audioCfg : Option UInt32} {params : AudioParams}
    (hu : out.bluetoothOutput.inUse = true) (ha : out.isA2dp = true)
    (hp : params.lookup "A2dpSuspended" = some "true") :
    ((setParameters audioCfg params).run S r out).2.bluetoothOutput.state = .disabled := by
  have h : ((out.loadAudioConfig audioCfg params).setA2dpSuspended S r params).bluetoothOutput.state =
      .disabled := by
    apply OutStream.state_setA2dpSuspended_true _ _ hp
    · rwa [OutStream.same_loadAudioConfig.inUse]
    · rwa [OutStream.same_loadAudioConfig.isA2dp]
  dsimp only [run]
  rwa [OutStream.setParameters_eq, OutStream.stopOn_of_disabled h, OutStream.stopOn_of_disabled h]

theorem source_of_asks (h : op.asks out = some req) : out.bluetoothOutput.state = req.source := by
  cases op with
  | standby | pause | resume =>
    simp only [asks] at h
    split_ifs at h with hs
    obtain rfl := Option.some.inj h
    exact hs
  | setParameters audioCfg params =>
    simp only [asks] at h
    split_ifs at h with hs
    obtain rfl := Option.some.inj h
    exact hs.2.2

/-- A change of the session while the function waits for the stack disables the port. -/
theorem state_run_of_asks (hu : out.bluetoothOutput.inUse = true) (h : op.asks out = some req)
    (hc : out.bluetoothOutput.changed
      (r.meanwhile ++ if S.ask req r.isOk r.session then r.waiting else []) = true) :
    (op.run S r out).2.bluetoothOutput.state = .disabled := by
  have hsource := source_of_asks h
  have hrequest := BluetoothAudioPort.request_of_changed hu hsource hc
  cases op with
  | standby | pause | resume =>
    simp only [asks] at h
    split_ifs at h with hs
    obtain rfl := Option.some.inj h
    simp only [run, outStandby, outPause, bluetoothOutput_outSuspend, bluetoothOutput_outResume, hs,
      if_true]
    exact hrequest
  | setParameters audioCfg params =>
    simp only [asks] at h
    split_ifs at h with hs
    exact state_run_suspended hu hs.1 hs.2.1

theorem framesPresented_run (hu : out.bluetoothOutput.inUse = true) :
    (op.run S r out).2.framesPresented = if op.resets out then 0 else out.framesPresented := by
  cases op with
  | standby | pause | resume => rfl
  | setParameters audioCfg params =>
    have hload : out.Same (out.loadAudioConfig audioCfg params) := OutStream.same_loadAudioConfig
    have hu' : (out.loadAudioConfig audioCfg params).bluetoothOutput.inUse = true := by rwa [hload.inUse]
    have hawake : ((out.loadAudioConfig audioCfg params).setA2dpSuspended S r
        params).bluetoothOutput.state ≠ .disabled ↔ out.awake params = true := by
      rw [OutStream.awake_iff hu']
      simp [OutStream.awake, hload.isA2dp]
    dsimp only [run]
    rw [OutStream.setParameters_eq, OutStream.framesPresented_stopOn_stopOn,
      OutStream.framesPresented_setA2dpSuspended, OutStream.framesPresented_loadAudioConfig]
    · simp only [hawake, resets, Bool.and_eq_true, Bool.or_eq_true, decide_eq_true_eq]
    · rwa [OutStream.same_setA2dpSuspended.inUse]

end StreamOp

end TrebleDoze.Bluetooth
