import TrebleDoze.Audio.Served
import TrebleDoze.Bluetooth.PcmCalls
import TrebleDoze.Bluetooth.StereoToMono
import TrebleDoze.Bluetooth.StreamSystem

/-!
# The audio that is played

`WriteThread` of `audio/hal` takes the audio of its client from the data queue and calls `write` of the
legacy HAL.  For a Bluetooth stream that is `out_write`: it resumes the port, mixes the frames down if the
session is mono, and has `OutWritePcmData` write them to the queue of the session, chunk by chunk, while
other streams write to it, the stack reads from it and the session may end and be restarted.

* `Playback.lts`: the three of them together, with the client, the stack and the other streams;
* `software_step`, `closed_step`: what a step of the legacy HAL keeps;
* `WriterStep`, `writerStep_of_hal`: what it does to the threads in `out_write`.
-/

namespace TrebleDoze.Bluetooth

open TrebleDoze.Lib
open Audio.StreamOut (WriteCommand writeThread)

/-- The device of a stream: its session, with what playing uses of it, and how its port was opened. -/
structure PlaybackDevice (σ χ ψ : Type) where
  control : SessionControl σ χ
  pcm : PcmControl σ ψ
  /-- The calls that end the session. -/
  ends : χ → Bool
  api : Api
  isA2dp : Bool
  /-- `is_stereo_to_mono_`, which `adev_open_output_stream` sets. -/
  isStereoToMono : Bool
  /-- `downmix_to_mono_i16_from_stereo_i16`. -/
  downmix : ℕ → List UInt8 → ℕ → UInt8
  software_call : ∀ {s} c, pcm.Software s → pcm.Software (control.call s c).1
  software_register : ∀ {s}, pcm.Software s → pcm.Software (control.registerControlResultCback s).2
  software_unregister : ∀ {s} cookie, pcm.Software s →
    pcm.Software (control.unregisterControlResultCback cookie s)

namespace PlaybackDevice

variable {σ χ ψ : Type} (D : PlaybackDevice σ χ ψ)

/-- What `WriteData` hands to `OutWritePcmData`. -/
def formed (buffer : List UInt8) : List UInt8 :=
  if D.isStereoToMono then monoOf D.downmix buffer else buffer

/-- What `WriteData` returns when `OutWritePcmData` returns `n`. -/
def counted (n : ℕ) : ℕ := if D.isStereoToMono then n * 2 else n

/-- What `OutWritePcmData` has taken when `WriteData` returns `n`. -/
def accepted (n : ℕ) : ℕ := if D.isStereoToMono then n / 2 else n

/-- The audio that a status tells the client has been written, in the format of the session. -/
def acknowledged (sv : Audio.Service WriteCommand) (status : Audio.Status WriteCommand) : List UInt8 :=
  match sv.command, status.reply with
  | .write, .written n => (D.formed sv.taken).take (D.accepted n.toNat)
  | _, _ => []

theorem accepted_zero : D.accepted 0 = 0 := by
  unfold accepted
  split_ifs <;> rfl

theorem acknowledged_write {sv : Audio.Service WriteCommand} {status : Audio.Status WriteCommand} {n : ℤ}
    (hc : sv.command = .write) (hr : status.reply = .written n) :
    D.acknowledged sv status = (D.formed sv.taken).take (D.accepted n.toNat) := by
  unfold acknowledged
  rw [hc, hr]

theorem acknowledged_of_ne {sv : Audio.Service WriteCommand} {status : Audio.Status WriteCommand}
    (hc : sv.command ≠ .write) : D.acknowledged sv status = [] := by
  unfold acknowledged
  split
  · exact absurd ‹_› hc
  · rfl

theorem accepted_counted (n : ℕ) : D.accepted (D.counted n) = n := by
  unfold accepted counted
  split_ifs
  · omega
  · rfl

theorem length_formed_le (buffer : List UInt8) : (D.formed buffer).length ≤ D.accepted buffer.length := by
  unfold formed accepted
  split_ifs
  · rw [length_monoOf]
    omega
  · exact Nat.le_refl _

theorem counted_le {n : ℕ} {buffer : List UInt8} (h : n ≤ (D.formed buffer).length) :
    D.counted n ≤ buffer.length := by
  unfold formed at h
  unfold counted
  split_ifs at h ⊢
  · rw [length_monoOf] at h
    omega
  · exact h

end PlaybackDevice

namespace PcmCalls

variable {σ χ α : Type} {P : PcmControl σ χ} {D : Endpoint α} {timeoutMs pollMs i j : ℕ} {s : PcmCalls σ α}
  {c : PcmCall α} {os : List (Event α)}

/-- The call of an event. -/
def Event.call : Event α → ℕ
  | begun i _ | iterated i | moved i _ _ | returned i _ _ | crashed i => i

/-- The chunk of an event. -/
def Event.chunk : Event α → List α
  | moved _ _ chunk => chunk
  | _ => []

theorem call_of_begin {buffer : Option (List α)} : ∀ e ∈ (s.begin timeoutMs buffer).2, e.call = s.begun := by
  unfold PcmCalls.begin
  cases buffer with
  | none => simp [Event.call]
  | some buffer =>
    dsimp only
    split_ifs
    · simp [Event.call]
    · simp [Event.call]

theorem begun_mem_begin {buffer : List α} : .begun s.begun buffer ∈ (s.begin timeoutMs (some buffer)).2 := by
  unfold PcmCalls.begin
  dsimp only
  split_ifs
  · exact List.mem_cons_self
  · exact List.mem_cons_self

theorem call_of_iterate {between : List (ℕ × D.Peer)} :
    ∀ e ∈ (s.iterate P D pollMs i c between).2, e.call = i := by
  have hmoved : ∀ (mq : Option DataMQ) before total buffer,
      ∀ e ∈ movedEvent i mq before total (buffer : List α), e.call = i := by
    intro mq before total buffer
    unfold movedEvent
    cases mq with
    | none => simp
    | some mq => split_ifs <;> simp [Event.call]
  intro e he
  unfold iterate at he
  dsimp only at he
  split at he
  · rcases List.mem_cons.1 he with rfl | he
    · rfl
    · exact hmoved _ _ _ _ e he
  · rcases List.mem_append.1 he with he | he
    · rcases List.mem_cons.1 he with rfl | he
      · rfl
      · exact hmoved _ _ _ _ e he
    · obtain rfl := List.mem_singleton.1 he
      rfl
  · simp only [List.mem_cons, List.not_mem_nil, or_false] at he
    rcases he with rfl | rfl
    · rfl
    · rfl

theorem chunks_of_call (h : ∀ e ∈ os, e.call = i) : os.flatMap Event.chunk = chunksBy i os := by
  induction os with
  | nil => rfl
  | cons e os ih =>
    have he : e.chunk = Event.chunkBy i e := by
      have hcall := h e List.mem_cons_self
      cases e with
      | moved j ring chunk => exact (if_pos hcall).symm
      | begun | iterated | returned | crashed => rfl
    rw [List.flatMap_cons, ih fun e he => h e (List.mem_cons_of_mem _ he), he]
    rfl

theorem chunksBy_of_call (h : ∀ e ∈ os, e.call = j) (hij : j ≠ i) : chunksBy i os = [] := by
  refine List.flatMap_eq_nil_iff.2 fun e he => ?_
  have hcall := h e he
  cases e with
  | moved k ring chunk => exact if_neg fun hk => hij (hcall.symm.trans hk)
  | begun | iterated | returned | crashed => rfl

end PcmCalls

/-- The stream of `audio/hal` with its client, the stream of the legacy HAL with its session, and the data
path of the session; and where `WriteThread` is in `out_write`. -/
structure Playback (σ : Type) where
  audio : Audio.FastPath WriteCommand
  stream : StreamSystem σ
  rings : ℕ → Fifo UInt8
  calls : Threads (PcmCall UInt8)
  begun : ℕ
  /-- The buffer that `WriteThread` has given to `out_write`. -/
  buffer : List UInt8
  /-- Its call of `OutWritePcmData`. -/
  own : Option ℕ
  /-- What `out_write` has returned. -/
  result : Option ℕ

namespace Playback

/-- The steps: of the stream of `audio/hal`, of the stream of the legacy HAL and its stack, and of the
data path, where other streams may call `OutWritePcmData` as well. -/
inductive Act (χ : Type) where
  | audio (a : Audio.Act WriteCommand)
  | hal (a : StreamSystem.Act χ)
  /-- `WriteData` of `out_write` calls `OutWritePcmData`. -/
  | writeData
  | begin (buffer : Option (List UInt8))
  | iterate (i : ℕ) (between : List (ℕ × ℕ))
  | peer (ring n : ℕ)

/-- What is shown of a run. -/
inductive Event where
  | audio (e : Audio.FastEvent WriteCommand)
  /-- Of a call of `OutWritePcmData`, which is that of `out_write` or not. -/
  | pcm (own : Bool) (e : PcmCalls.Event UInt8)
  /-- `out_write` has dropped the audio. -/
  | dropped (bytes : List UInt8)
  deriving DecidableEq, Repr

/-- What a step of the stream of `audio/hal` is for the legacy HAL. -/
inductive Joint where
  | none
  | calls (buffer : List UInt8)
  | returns (result : ℤ)
  | closes

section

variable {σ χ ψ : Type} (D : PlaybackDevice σ χ ψ)

/-- The data path. -/
def pcm (s : Playback σ) : PcmCalls σ UInt8 := ⟨⟨s.stream.session, s.rings⟩, s.calls, s.begun⟩

/-- The data path has made a step. -/
def setPcm (c : PcmCalls σ UInt8) (s : Playback σ) : Playback σ :=
  { s with rings := c.world.rings, calls := c.calls, begun := c.begun }

/-- A step of the stream of the legacy HAL. -/
abbrev halStep (s : StreamSystem σ) (a : StreamSystem.Act χ) :
    Option (StreamSystem σ × List StreamSystem.Event) :=
  StreamSystem.step D.control D.ends D.api D.isA2dp s a

/-- `threadLoop` calls `write` of the legacy HAL and waits for it to return; `closeOutputStream` calls
`close_output_stream`. -/
def joint (p : Audio.FastPath WriteCommand) (a : Audio.Act WriteCommand) : Joint :=
  match p.stream.thread, a with
  | some (.serving command), .thread env =>
    match ((writeThread true).invoke command env.dataRead p.stream.dataMQ p.stream.mStatus).1 with
    | some (.write buffer) => .calls buffer
    | _ => .none
  | some (.inHal .write), .thread env => .returns env.answer.result
  | _, .closeStream => .closes
  | _, _ => .none

/-- A step of the stream of `audio/hal`. -/
def stepAudio (a : Audio.Act WriteCommand) (s : Playback σ) : Option (Playback σ × List Event) :=
  ((Audio.FastPath.lts (writeThread true)).step s.audio a).bind fun r =>
    let s' := { s with audio := r.1 }
    let os := r.2.map Event.audio
    match joint s.audio a with
    | .none => some (s', os)
    | .calls buffer => (halStep D s.stream (.write 0 buffer.length)).map fun h =>
        ({ s' with stream := h.1, buffer := buffer }, os)
    | .returns result =>
      if s.result.map (Nat.cast : ℕ → ℤ) = some result then some ({ s' with result := none }, os) else none
    | .closes => (halStep D s.stream .adevClose).map fun h => ({ s' with stream := h.1 }, os)

/-- The action is one of those that go together with a step of the others. -/
def isJoint : StreamSystem.Act χ → Bool
  | .write _ _ | .writeData _ _ | .adevClose => true
  | _ => false

/-- What `out_write` returns in these steps. -/
def resultOf (os : List StreamSystem.Event) : Option ℕ :=
  os.findSome? fun e =>
    match e with
    | .returned _ _ result => some result
    | _ => none

/-- The audio of an `out_write` whose `resume` has failed is dropped when the port is disabled. -/
def drops (a : StreamSystem.Act χ) (s : Playback σ) : List Event :=
  match a, s.stream.stream with
  | .giveUp _, some out => if out.bluetoothOutput.state = .disabled then [.dropped (D.formed s.buffer)] else []
  | _, _ => []

/-- A step of the stream of the legacy HAL, of the stack or of the framework at it. -/
def stepHal (a : StreamSystem.Act χ) (s : Playback σ) : Option (Playback σ × List Event) :=
  if isJoint a then none
  else
    (halStep D s.stream a).map fun h =>
      ({ s with stream := h.1, result := (resultOf h.2).or s.result }, s.drops D a)

/-- What a call of `OutWritePcmData` returns in these steps. -/
def totalOf (os : List (PcmCalls.Event UInt8)) : Option ℕ :=
  os.findSome? fun e =>
    match e with
    | .returned _ total _ => some total
    | _ => none

/-- A step of the data path; when the call of `out_write` returns, so does `WriteData`. -/
def moves (own : Bool) (r : PcmCalls σ UInt8 × List (PcmCalls.Event UInt8)) (s : Playback σ) :
    Option (Playback σ × List Event) :=
  let s := s.setPcm r.1
  let os := r.2.map (Event.pcm own)
  match if own then totalOf r.2 else none with
  | none => some (s, os)
  | some n => (halStep D s.stream (.writeData 0 (D.counted n))).map fun h =>
      ({ s with stream := h.1, own := none }, os)

/-- `WriteData` of `out_write`, up to its call of `OutWritePcmData`. -/
def stepWriteData (s : Playback σ) : Option (Playback σ × List Event) :=
  match s.stream.stream, s.stream.writers.find 0, s.own with
  | some out, some ⟨_, .ready⟩, none =>
    if !out.bluetoothOutput.inUse then
      (halStep D s.stream (.writeData 0 0)).map fun h => ({ s with stream := h.1 }, [])
    else
      { s with own := some s.begun }.moves D true
        (s.pcm.begin kFmqSendTimeoutMs (some (D.formed s.buffer)))
  | _, _, _ => none

/-- One step. -/
def step (s : Playback σ) : Act χ → Option (Playback σ × List Event)
  | .audio a => s.stepAudio D a
  | .hal a => s.stepHal D a
  | .writeData => s.stepWriteData D
  | .begin buffer => s.moves D false (s.pcm.begin kFmqSendTimeoutMs buffer)
  | .iterate i between => (s.calls.find i).bind fun c =>
      s.moves D (s.own == some i) (s.pcm.iterate D.pcm (Endpoint.writer UInt8) kWritePollMs i c between)
  | .peer ring n => some (s.setPcm { s.pcm with
      world := s.pcm.world.interfere D.pcm (Endpoint.writer UInt8) (.peer ring n) }, [])

/-- **The audio from the client to the queues of the session**, from a state of these on. -/
def lts (w : PcmWorld σ UInt8) : Lts (Playback σ) (Act χ) Event where
  init := ⟨⟨.create, false, none⟩, ⟨w.session, none, [], 0, false⟩, w.rings, [], 0, [], none, none⟩
  step := step D

end

/-! ### The steps of the three -/

section

variable {σ χ ψ : Type} {D : PlaybackDevice σ χ ψ} {s s' : StreamSystem σ} {a : StreamSystem.Act χ}
  {os : List StreamSystem.Event}

theorem software_acts {session : σ} (h : D.pcm.Software session) (as : List (StackAct χ)) :
    D.pcm.Software (D.control.acts session as).1 := by
  induction as generalizing session with
  | nil => exact h
  | cons a as ih =>
    cases a with
    | call c => exact ih (D.software_call c h)
    | report startResp status => exact ih h

theorem software_perform {op : StreamOp} {w : Around χ} {out : OutStream} {r : ℤ × StreamSystem σ}
    (h : D.pcm.Software s.session) (hr : s.perform D.control D.ends op w out = some r) :
    D.pcm.Software r.2.session := by
  unfold StreamSystem.perform at hr
  split_ifs at hr
  obtain rfl := Option.some.inj hr
  exact software_acts h (w.before ++ w.during)

theorem software_adevOpen {session : σ} {config : StreamConfig} (h : D.pcm.Software session) :
    D.pcm.Software (OutStream.adevOpen D.control D.api D.isA2dp config session).1 := by
  unfold OutStream.adevOpen BluetoothAudioPort.setUp
  split_ifs
  · exact h
  · dsimp only
    split_ifs
    · exact D.software_register h
    · exact D.software_register h

theorem software_adevClose {session : σ} {out : OutStream} (h : D.pcm.Software session) :
    D.pcm.Software (out.adevClose D.control session) := by
  unfold OutStream.adevClose BluetoothAudioPort.tearDown
  split_ifs
  · exact h
  · exact D.software_unregister _ h

theorem software_step (h : D.pcm.Software s.session) (hs : halStep D s a = some (s', os)) :
    D.pcm.Software s'.session := by
  cases a with
  | adevOpen config =>
    cases hst : s.stream with
    | none =>
      simp only [halStep, StreamSystem.step, hst] at hs
      obtain ⟨rfl, -⟩ := Prod.mk.inj (Option.some.inj hs)
      exact software_adevOpen h
    | some out => simp [halStep, StreamSystem.step, hst, StreamSystem.stepWriter] at hs
  | adevClose =>
    cases hst : s.stream with
    | none => simp [halStep, StreamSystem.step, hst] at hs
    | some out =>
      simp only [halStep, StreamSystem.step, hst] at hs
      split_ifs at hs
      obtain ⟨rfl, -⟩ := Prod.mk.inj (Option.some.inj hs)
      exact software_adevClose h
  | stack a =>
    cases StreamSystem.effect_of_step hs with
    | stack => exact software_acts h [a]
  | call op w =>
    cases StreamSystem.effect_of_step hs with
    | performs _ _ out r hst hr => exact software_perform h hr
  | resume i w =>
    cases StreamSystem.effect_of_step hs with
    | resumes _ _ out bytes r hst hi hr => exact software_perform (r := r) h hr
  | write | giveUp | writeData | count | wake => cases StreamSystem.effect_of_step hs <;> exact h

/-- A stream that is not open has no thread in `out_write`. -/
def Closed (s : StreamSystem σ) : Prop := s.stream = none → s.writers = []

theorem closed_step (h : Closed s) (hs : halStep D s a = some (s', os)) : Closed s' := by
  cases StreamSystem.effect_of_step hs with
  | stack a =>
    intro hnone
    refine h ?_
    unfold StreamSystem.hear at hnone
    simpa using hnone
  | openFails => exact fun _ => rfl
  | opens config session out => exact fun hnone => by cases hnone
  | closes session =>
    intro _
    cases hst : s.stream with
    | none => exact h hst
    | some out =>
      simp only [halStep, StreamSystem.step, hst] at hs
      split_ifs at hs with hw
      exact List.isEmpty_iff.1 hw
  | performs op w out r hst hr =>
    unfold StreamSystem.perform at hr
    split_ifs at hr
    obtain rfl := Option.some.inj hr
    exact fun hnone => by cases hnone
  | resumes i w out bytes r hst hi hr =>
    unfold StreamSystem.perform at hr
    split_ifs at hr
    obtain rfl := Option.some.inj hr
    exact fun hnone => by cases hnone
  | writes i bytes out hst | givesUp i bytes out hst | passes i bytes accepted out hst =>
    exact fun hnone => by cases hst.symm.trans hnone
  | sleeps | counts | wakes => exact fun hnone => by cases hnone

/-- The action is a step of a thread in `out_write`. -/
def ofWriter : StreamSystem.Act χ → Bool
  | .resume _ _ | .giveUp _ | .count _ _ | .wake _ => true
  | _ => false

/-- What a step does to the threads in `out_write`, and what one of them returns. -/
inductive WriterStep (s : StreamSystem σ) : StreamSystem.Act χ → Threads Writer → Option ℕ → Prop
  | stays (a : StreamSystem.Act χ) (ha : ofWriter a = false) : WriterStep s a s.writers none
  | resumes (i : ℕ) (w : Around χ) (bytes : ℕ) (point : WritePoint)
      (hi : s.writers.find i = some ⟨bytes, .entered⟩) (hp : point = .refused ∨ point = .ready) :
      WriterStep s (.resume i w) (s.writers.put i ⟨bytes, point⟩) none
  | givesUp (i bytes : ℕ) (out : OutStream) (hst : s.stream = some out)
      (hi : s.writers.find i = some ⟨bytes, .refused⟩) :
      WriterStep s (.giveUp i) (s.writers.drop i) (some (out.dropWrite bytes))
  | sleeps (i : ℕ) (nowUs : ℤ) (bytes : ℕ) (lastWriteTimeUs : ℤ)
      (hi : s.writers.find i = some ⟨bytes, .written 0⟩) :
      WriterStep s (.count i nowUs) (s.writers.put i ⟨bytes, .sleeping lastWriteTimeUs⟩) none
  | counts (i : ℕ) (nowUs : ℤ) (bytes totalWritten : ℕ)
      (hi : s.writers.find i = some ⟨bytes, .written totalWritten⟩) :
      WriterStep s (.count i nowUs) (s.writers.drop i) (some totalWritten)
  | wakes (i bytes : ℕ) (lastWriteTimeUs : ℤ)
      (hi : s.writers.find i = some ⟨bytes, .sleeping lastWriteTimeUs⟩) :
      WriterStep s (.wake i) (s.writers.drop i) (some 0)

theorem written_of_sleeps {out : OutStream} {bytes totalWritten : ℕ} {nowUs : ℤ}
    (h : 0 < (out.countWrite bytes totalWritten nowUs).2) : totalWritten = 0 := by
  unfold OutStream.countWrite at h
  split_ifs at h with hn
  · exact absurd h (Int.lt_irrefl 0)
  · exact not_not.1 hn

theorem writerStep_count {i : ℕ} {nowUs : ℤ} (hs : halStep D s (.count i nowUs) = some (s', os)) :
    WriterStep s (.count i nowUs : StreamSystem.Act χ) s'.writers (resultOf os) := by
  cases hst : s.stream with
  | none => simp [halStep, StreamSystem.step, hst] at hs
  | some out =>
    simp only [halStep, StreamSystem.step, hst, StreamSystem.stepWriter] at hs
    split at hs
    · rename_i bytes totalWritten hi
      split_ifs at hs with hsleep
      · obtain ⟨rfl, rfl⟩ := Prod.mk.inj (Option.some.inj hs)
        obtain rfl := written_of_sleeps hsleep
        exact .sleeps i nowUs bytes _ hi
      · obtain ⟨rfl, rfl⟩ := Prod.mk.inj (Option.some.inj hs)
        exact .counts i nowUs bytes totalWritten hi
    · cases hs

theorem writerStep_of_hal (hopen : Closed s) (ha : isJoint a = false)
    (hs : halStep D s a = some (s', os)) : WriterStep s a s'.writers (resultOf os) := by
  cases a with
  | write | writeData | adevClose => cases ha
  | count i nowUs => exact writerStep_count hs
  | adevOpen config =>
    cases hst : s.stream with
    | none =>
      simp only [halStep, StreamSystem.step, hst] at hs
      obtain ⟨rfl, rfl⟩ := Prod.mk.inj (Option.some.inj hs)
      have hres : ∀ b : Bool, resultOf (if b = true then [StreamSystem.Event.opened] else []) = none := by
        intro b
        cases b <;> rfl
      rw [hres]
      have hw : WriterStep s (.adevOpen config : StreamSystem.Act χ) s.writers none := .stays _ rfl
      rwa [hopen hst] at hw
    | some out => simp [halStep, StreamSystem.step, hst, StreamSystem.stepWriter] at hs
  | stack a =>
    cases StreamSystem.effect_of_step hs with
    | stack => exact .stays _ rfl
  | call op w =>
    cases StreamSystem.effect_of_step hs with
    | performs _ _ out r hst hr =>
      rw [(StreamSystem.writers_perform hr).1]
      exact .stays _ rfl
  | resume i w =>
    cases StreamSystem.effect_of_step hs with
    | resumes _ _ out bytes r hst hi hr =>
      dsimp only
      rw [(StreamSystem.writers_perform hr).1]
      refine .resumes i w bytes _ hi ?_
      split_ifs
      · exact .inl rfl
      · exact .inr rfl
  | giveUp i =>
    cases StreamSystem.effect_of_step hs with
    | givesUp _ bytes out hst hi => exact .givesUp i bytes out hst hi
  | wake i =>
    cases StreamSystem.effect_of_step hs with
    | wakes _ bytes lastWriteTimeUs out hst hi => exact .wakes i bytes lastWriteTimeUs hi

end

end Playback

end TrebleDoze.Bluetooth
