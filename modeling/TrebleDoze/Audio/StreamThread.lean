import Mathlib.Data.Int.Notation
import TrebleDoze.Lib.Lts
import TrebleDoze.Lib.Trace

/-!
# The threads of the audio streams

`WriteThread` of `StreamOut.cpp` and `ReadThread` of `StreamIn.cpp` serve the commands that a client puts
into a queue of one command; data and statuses go through two further queues, and an event flag wakes the
thread.  The two differ in their commands and in how these are served (`Direction`); the loop, the
preparation of the queues and `close()` are the same (`Stream.lts`, for HIDL 6 and later).

* `Stream.close`, `Stream.closeWake`, `Stream.closeStream`: the steps of `close()`;
* `Stream.threadLoop`: one step of the thread, which looks at the stop flag at the head of its loop only;
* `Stream.step_cases`, `Stream.threadLoop_cases`: what each step does;
* `StreamOut.writeThread`, `StreamIn.readThread`: the two directions.
-/

namespace TrebleDoze.Audio

open TrebleDoze.Lib

/-! ### Results, calls and statuses -/

/-- `Result`. -/
inductive Result where
  | ok | notInitialized | invalidArguments | invalidState | notSupported
  deriving DecidableEq, Repr

/-- `analyzeStatus`, by the numbers of `EINVAL`, `ENODATA`, `ENODEV` and `ENOSYS`. -/
def analyzeStatus (status : ℤ) : Result :=
  if status = 0 then .ok
  else if status = -22 then .invalidArguments
  else if status = -61 then .invalidState
  else if status = -19 then .notInitialized
  else if status = -38 then .notSupported
  else .invalidState

/-- The functions of a legacy HAL stream that the threads call, with what they are given. -/
inductive HalCall where
  | write (buffer : List UInt8)
  | getLatency
  | getPresentationPosition
  | read (bytes : ℕ)
  | getCapturePosition
  deriving DecidableEq, Repr

/-- What such a function answers: its result, and what it has written through its pointers. -/
structure HalAnswer where
  result : ℤ
  buffer : List UInt8
  frames : ℕ
  time : ℕ
  deriving DecidableEq, Repr

/-- The reply of a status, a union; `unset` before the thread has written any. -/
inductive Reply where
  | unset
  | written (bytes : ℤ)
  | presentationPosition (frames time : ℕ)
  | latencyMs (latency : ℤ)
  | read (bytes : ℤ)
  | capturePosition (frames time : ℕ)
  deriving DecidableEq, Repr

/-- `WriteStatus`, `ReadStatus`. -/
structure Status (χ : Type) where
  retval : Result
  replyTo : Option χ
  reply : Reply
  deriving DecidableEq, Repr

/-- The data queue: what it holds, and how much it can hold. -/
structure DataMQ where
  data : List UInt8
  quantumCount : ℕ
  deriving DecidableEq, Repr

/-- `availableToWrite`. -/
def DataMQ.availableToWrite (mq : DataMQ) : ℕ := mq.quantumCount - mq.data.length

/-- How a thread serves its commands: up to the call of the legacy HAL, if there is one, and from its
answer on.  The flag is the success of `mDataMQ->read`. -/
structure Direction (χ : Type) where
  invoke : χ → Bool → DataMQ → Status χ → Option HalCall × DataMQ × Status χ
  finish : χ → HalAnswer → DataMQ → Status χ → DataMQ × Status χ
  /-- The commands for which the legacy HAL may be called. -/
  mayCall : χ → Bool
  invoke_eq_none : ∀ {command}, mayCall command = false →
    ∀ dataRead mq st, (invoke command dataRead mq st).1 = none

/-! ### The state of a stream -/

/-- Where the thread is. -/
inductive Pc (χ : Type) where
  /-- At the test of the stop flag. -/
  | head
  /-- In `mEfGroup->wait`. -/
  | waiting
  /-- Awake, about to read the command queue. -/
  | woken
  /-- In the `switch`. -/
  | serving (command : χ)
  /-- In a function of the legacy HAL. -/
  | inHal (command : χ)
  /-- About to write the status. -/
  | replying
  | exited
  deriving DecidableEq, Repr

/-- How far `close()` has come. -/
inductive Closing where
  | no | flagged | woken | done
  deriving DecidableEq, Repr

/-- A stream, with its queues and its thread once they are prepared. -/
structure Stream (χ : Type) where
  mStop : Bool
  closing : Closing
  /-- The bit of the event flag that the thread waits for. -/
  efState : Bool
  commandMQ : Option χ
  dataMQ : DataMQ
  statusMQ : Option (Status χ)
  thread : Option (Pc χ)
  mStatus : Status χ
  deriving DecidableEq, Repr

/-- What a run shows. -/
inductive Event (χ : Type) where
  | commandRead (command : χ)
  | called (call : HalCall)
  | replied (status : Status χ)
  /-- `close_output_stream` or `close_input_stream` is called. -/
  | closed
  deriving DecidableEq, Repr

/-- A function of the legacy HAL stream is called. -/
def Event.IsCall {χ : Type} (e : Event χ) : Prop := ∃ call, e = .called call

instance {χ : Type} : DecidablePred (Event.IsCall (χ := χ)) := fun e =>
  match e with
  | .called call => .isTrue ⟨call, rfl⟩
  | .commandRead _ | .replied _ | .closed => .isFalse (by rintro ⟨_, h⟩; cases h)

/-- What the environment answers a step of the thread: whether `wait` returns without the bit, whether
`mDataMQ->read` succeeds, and the answer of the legacy HAL. -/
structure Env where
  spurious : Bool
  dataRead : Bool
  answer : HalAnswer
  deriving DecidableEq, Repr

/-- The steps of a stream, its client and its thread. -/
inductive Act (χ : Type) where
  | prepare (frameSize framesCount : UInt32) (created : Bool)
  | putCommand (command : χ)
  | wake
  | putData (data : List UInt8)
  | takeData (bytes : ℕ)
  | takeStatus
  | close
  | closeWake
  | closeStream
  | thread (env : Env)

namespace Stream

variable {χ : Type}

/-- The constructor. -/
def create : Stream χ where
  mStop := false
  closing := .no
  efState := false
  commandMQ := none
  dataMQ := ⟨[], 0⟩
  statusMQ := none
  thread := none
  mStatus := ⟨.ok, none, .unset⟩

/-- `MAX_BUFFER_SIZE`, which is `2 << 30`. -/
def maxBufferSize : UInt32 := 2147483648

/-- `prepareForWriting`, `prepareForReading`; `created` tells whether the queues, the event flag and the
thread could be made. -/
def prepare (frameSize framesCount : UInt32) (created : Bool) (s : Stream χ) : Result × Stream χ :=
  if s.thread.isSome then (.invalidState, s)
  else if frameSize = 0 ∨ framesCount = 0 then (.invalidArguments, s)
  else if frameSize > maxBufferSize / framesCount then (.invalidArguments, s)
  else if !created then (.invalidArguments, s)
  else (.ok, { s with dataMQ := ⟨[], (frameSize * framesCount).toNat⟩, thread := some .head })

/-! ### `close()` -/

/-- `close()` up to the store to the stop flag. -/
def close (s : Stream χ) : Result × Stream χ :=
  if s.mStop then (.invalidState, s) else (.ok, { s with mStop := true, closing := .flagged })

/-- The wake-up of the thread, if there is one. -/
def closeWake (s : Stream χ) : Stream χ :=
  { s with closing := .woken, efState := s.efState || s.thread.isSome }

/-- `closeOutputStream`, `closeInputStream`. -/
def closeStream (s : Stream χ) : Stream χ := { s with closing := .done }

/-! ### The thread -/

/-- `threadLoop`, one step; the thread that waits without the bit being set is not woken. -/
def threadLoop (d : Direction χ) (env : Env) (s : Stream χ) : Option (Stream χ × List (Event χ)) :=
  match s.thread with
  | some .head => some ({ s with thread := some (if s.mStop then .exited else .waiting) }, [])
  | some .waiting =>
    if env.spurious then some ({ s with thread := some .head }, [])
    else if s.efState then some ({ s with efState := false, thread := some .woken }, [])
    else none
  | some .woken =>
    match s.commandMQ with
    | none => some ({ s with thread := some .head }, [])
    | some command =>
      some ({ s with commandMQ := none, thread := some (.serving command)
                     mStatus := { s.mStatus with replyTo := some command } }, [.commandRead command])
  | some (.serving command) =>
    let (call, dataMQ, mStatus) := d.invoke command env.dataRead s.dataMQ s.mStatus
    match call with
    | none => some ({ s with dataMQ := dataMQ, mStatus := mStatus, thread := some .replying }, [])
    | some call =>
      some ({ s with dataMQ := dataMQ, mStatus := mStatus, thread := some (.inHal command) },
        [.called call])
  | some (.inHal command) =>
    let (dataMQ, mStatus) := d.finish command env.answer s.dataMQ s.mStatus
    some ({ s with dataMQ := dataMQ, mStatus := mStatus, thread := some .replying }, [])
  | some .replying =>
    -- a status that finds the queue full is dropped
    if s.statusMQ.isSome then some ({ s with thread := some .head }, [])
    else some ({ s with statusMQ := some s.mStatus, thread := some .head }, [.replied s.mStatus])
  | some .exited | none => none

/-- What a step of the thread does at each place. -/
inductive Looped (d : Direction χ) (s : Stream χ) : Pc χ → Stream χ → List (Event χ) → Prop
  | stops (h : s.mStop = true) : Looped d s .head { s with thread := some .exited } []
  | goesOn (h : s.mStop = false) : Looped d s .head { s with thread := some .waiting } []
  | spurious : Looped d s .waiting { s with thread := some .head } []
  | wakes (h : s.efState = true) :
      Looped d s .waiting { s with efState := false, thread := some .woken } []
  | nothingToDo (h : s.commandMQ = none) : Looped d s .woken { s with thread := some .head } []
  | readsCommand (command : χ) (h : s.commandMQ = some command) :
      Looped d s .woken
        { s with commandMQ := none, thread := some (.serving command)
                 mStatus := { s.mStatus with replyTo := some command } } [.commandRead command]
  | noCall (command : χ) (dataRead : Bool)
      (h : (d.invoke command dataRead s.dataMQ s.mStatus).1 = none) :
      Looped d s (.serving command)
        { s with dataMQ := (d.invoke command dataRead s.dataMQ s.mStatus).2.1
                 mStatus := (d.invoke command dataRead s.dataMQ s.mStatus).2.2
                 thread := some .replying } []
  | calls (command : χ) (dataRead : Bool) (call : HalCall)
      (h : (d.invoke command dataRead s.dataMQ s.mStatus).1 = some call) :
      Looped d s (.serving command)
        { s with dataMQ := (d.invoke command dataRead s.dataMQ s.mStatus).2.1
                 mStatus := (d.invoke command dataRead s.dataMQ s.mStatus).2.2
                 thread := some (.inHal command) } [.called call]
  | returns (command : χ) (answer : HalAnswer) :
      Looped d s (.inHal command)
        { s with dataMQ := (d.finish command answer s.dataMQ s.mStatus).1
                 mStatus := (d.finish command answer s.dataMQ s.mStatus).2
                 thread := some .replying } []
  | drops (h : s.statusMQ.isSome = true) : Looped d s .replying { s with thread := some .head } []
  | replies (h : s.statusMQ = none) :
      Looped d s .replying { s with statusMQ := some s.mStatus, thread := some .head }
        [.replied s.mStatus]

theorem threadLoop_cases {d : Direction χ} {env : Env} {s s' : Stream χ} {os : List (Event χ)}
    (h : s.threadLoop d env = some (s', os)) : ∃ pc, s.thread = some pc ∧ Looped d s pc s' os := by
  unfold threadLoop at h
  split at h
  · rename_i hpc
    obtain ⟨rfl, rfl⟩ := Prod.mk.inj (Option.some.inj h)
    refine ⟨_, hpc, ?_⟩
    by_cases hs : s.mStop = true
    · rw [if_pos hs]
      exact .stops hs
    · rw [if_neg hs]
      exact .goesOn (by simpa using hs)
  · rename_i hpc
    refine ⟨_, hpc, ?_⟩
    split_ifs at h with hsp hef
    · obtain ⟨rfl, rfl⟩ := Prod.mk.inj (Option.some.inj h)
      exact .spurious
    · obtain ⟨rfl, rfl⟩ := Prod.mk.inj (Option.some.inj h)
      exact .wakes hef
  · rename_i hpc
    refine ⟨_, hpc, ?_⟩
    split at h <;> rename_i hc <;> obtain ⟨rfl, rfl⟩ := Prod.mk.inj (Option.some.inj h)
    · exact .nothingToDo hc
    · exact .readsCommand _ hc
  · rename_i command hpc
    refine ⟨_, hpc, ?_⟩
    dsimp only at h
    split at h <;> rename_i hc <;> obtain ⟨rfl, rfl⟩ := Prod.mk.inj (Option.some.inj h)
    · exact .noCall command env.dataRead hc
    · exact .calls command env.dataRead _ hc
  · rename_i command hpc
    obtain ⟨rfl, rfl⟩ := Prod.mk.inj (Option.some.inj h)
    exact ⟨_, hpc, .returns command env.answer⟩
  · rename_i hpc
    refine ⟨_, hpc, ?_⟩
    split_ifs at h with hst
    · obtain ⟨rfl, rfl⟩ := Prod.mk.inj (Option.some.inj h)
      exact .drops hst
    · obtain ⟨rfl, rfl⟩ := Prod.mk.inj (Option.some.inj h)
      exact .replies (Option.not_isSome_iff_eq_none.1 hst)
  · cases h
  · cases h

/-- **A stream with its client and its thread.** -/
def lts (d : Direction χ) : Lts (Stream χ) (Act χ) (Event χ) where
  init := create
  step s
    | .prepare frameSize framesCount created => some ((s.prepare frameSize framesCount created).2, [])
    | .putCommand command =>
      if s.thread.isSome && s.commandMQ.isNone then some ({ s with commandMQ := some command }, [])
      else none
    | .wake => if s.thread.isSome then some ({ s with efState := true }, []) else none
    | .putData data =>
      if data.length ≤ s.dataMQ.availableToWrite then
        some ({ s with dataMQ := { s.dataMQ with data := s.dataMQ.data ++ data } }, [])
      else none
    | .takeData bytes =>
      if bytes ≤ s.dataMQ.data.length then
        some ({ s with dataMQ := { s.dataMQ with data := s.dataMQ.data.drop bytes } }, [])
      else none
    | .takeStatus => if s.statusMQ.isSome then some ({ s with statusMQ := none }, []) else none
    | .close => some (s.close.2, [])
    | .closeWake => if s.closing = .flagged then some (s.closeWake, []) else none
    | .closeStream => if s.closing = .woken then some (s.closeStream, [.closed]) else none
    | .thread env => s.threadLoop d env

theorem prepare_cases (s : Stream χ) (frameSize framesCount : UInt32) (created : Bool) :
    (s.prepare frameSize framesCount created).2 = s ∨ (s.thread = none ∧
      (s.prepare frameSize framesCount created).2 =
        { s with dataMQ := ⟨[], (frameSize * framesCount).toNat⟩, thread := some .head }) := by
  unfold prepare
  split_ifs with hthread
  · exact .inl rfl
  · exact .inl rfl
  · exact .inl rfl
  · exact .inl rfl
  · exact .inr ⟨Option.not_isSome_iff_eq_none.1 hthread, rfl⟩

/-- What each step does. -/
inductive Stepped (d : Direction χ) (s : Stream χ) : Act χ → Stream χ → List (Event χ) → Prop
  | prepare (frameSize framesCount : UInt32) (created : Bool) :
      Stepped d s (.prepare frameSize framesCount created) (s.prepare frameSize framesCount created).2 []
  | putCommand (command : χ) (h : s.commandMQ = none) :
      Stepped d s (.putCommand command) { s with commandMQ := some command } []
  | wake : Stepped d s .wake { s with efState := true } []
  | putData (data : List UInt8) (h : data.length ≤ s.dataMQ.availableToWrite) :
      Stepped d s (.putData data) { s with dataMQ := { s.dataMQ with data := s.dataMQ.data ++ data } } []
  | takeData (bytes : ℕ) (h : bytes ≤ s.dataMQ.data.length) :
      Stepped d s (.takeData bytes)
        { s with dataMQ := { s.dataMQ with data := s.dataMQ.data.drop bytes } } []
  | takeStatus (h : s.statusMQ.isSome = true) : Stepped d s .takeStatus { s with statusMQ := none } []
  | close : Stepped d s .close s.close.2 []
  | closeWake (h : s.closing = .flagged) : Stepped d s .closeWake s.closeWake []
  | closeStream (h : s.closing = .woken) : Stepped d s .closeStream s.closeStream [.closed]
  | thread (env : Env) {s' : Stream χ} {os : List (Event χ)} (h : s.threadLoop d env = some (s', os)) :
      Stepped d s (.thread env) s' os

theorem step_cases {d : Direction χ} {s s' : Stream χ} {a : Act χ} {os : List (Event χ)}
    (h : (lts d).step s a = some (s', os)) : Stepped d s a s' os := by
  cases a with
  | prepare frameSize framesCount created =>
    obtain ⟨rfl, rfl⟩ := Prod.mk.inj (Option.some.inj h)
    exact .prepare frameSize framesCount created
  | putCommand command =>
    simp only [lts] at h
    split_ifs at h with hc
    obtain ⟨rfl, rfl⟩ := Prod.mk.inj (Option.some.inj h)
    rw [Bool.and_eq_true, Option.isNone_iff_eq_none] at hc
    exact .putCommand command hc.2
  | wake =>
    simp only [lts] at h
    split_ifs at h
    obtain ⟨rfl, rfl⟩ := Prod.mk.inj (Option.some.inj h)
    exact .wake
  | putData data =>
    simp only [lts] at h
    split_ifs at h with hroom
    obtain ⟨rfl, rfl⟩ := Prod.mk.inj (Option.some.inj h)
    exact .putData data hroom
  | takeData bytes =>
    simp only [lts] at h
    split_ifs at h with hdata
    obtain ⟨rfl, rfl⟩ := Prod.mk.inj (Option.some.inj h)
    exact .takeData bytes hdata
  | takeStatus =>
    simp only [lts] at h
    split_ifs at h with hst
    obtain ⟨rfl, rfl⟩ := Prod.mk.inj (Option.some.inj h)
    exact .takeStatus hst
  | close =>
    obtain ⟨rfl, rfl⟩ := Prod.mk.inj (Option.some.inj h)
    exact .close
  | closeWake =>
    simp only [lts] at h
    split_ifs at h with hc
    obtain ⟨rfl, rfl⟩ := Prod.mk.inj (Option.some.inj h)
    exact .closeWake hc
  | closeStream =>
    simp only [lts] at h
    split_ifs at h with hc
    obtain ⟨rfl, rfl⟩ := Prod.mk.inj (Option.some.inj h)
    exact .closeStream hc
  | thread env => exact .thread env h

end Stream

/-! ### `WriteThread` -/

namespace StreamOut

/-- `WriteCommand`; the queue may hold a code that is none of the three. -/
inductive WriteCommand where
  | write
  | getPresentationPosition
  | getLatency
  | unknown (code : ℕ)
  deriving DecidableEq, Repr

/-- `doWrite` up to `mStream->write`. -/
def doWrite (dataRead : Bool) (mq : DataMQ) (st : Status WriteCommand) :
    Option HalCall × DataMQ × Status WriteCommand :=
  let st := { st with retval := .ok, reply := .written 0 }
  if dataRead then (some (.write mq.data), { mq with data := [] }, st) else (none, mq, st)

/-- `doGetPresentationPosition` up to `get_presentation_position`, which may be missing. -/
def doGetPresentationPosition (hasPresentationPosition : Bool) (mq : DataMQ)
    (st : Status WriteCommand) : Option HalCall × DataMQ × Status WriteCommand :=
  if hasPresentationPosition then (some .getPresentationPosition, mq, st)
  else (none, mq, { st with retval := .notSupported })

/-- `doGetLatency` up to `get_latency`. -/
def doGetLatency (mq : DataMQ) (st : Status WriteCommand) :
    Option HalCall × DataMQ × Status WriteCommand :=
  (some .getLatency, mq, { st with retval := .ok })

/-- The status after the answer of the legacy HAL. -/
def answered (answer : HalAnswer) (st : Status WriteCommand) : WriteCommand → Status WriteCommand
  | .write =>
    if 0 ≤ answer.result then { st with reply := .written answer.result }
    else { st with retval := analyzeStatus answer.result }
  | .getPresentationPosition =>
    let retval := analyzeStatus answer.result
    if retval = .ok then
      { st with retval := retval, reply := .presentationPosition answer.frames answer.time }
    else { st with retval := retval }
  | .getLatency => { st with reply := .latencyMs answer.result }
  | .unknown _ => st

/-- How `WriteThread` serves its commands. -/
def writeThread (hasPresentationPosition : Bool) : Direction WriteCommand where
  invoke command dataRead mq st :=
    match command with
    | .write => doWrite dataRead mq st
    | .getPresentationPosition => doGetPresentationPosition hasPresentationPosition mq st
    | .getLatency => doGetLatency mq st
    | .unknown _ => (none, mq, { st with retval := .notSupported })
  finish command answer mq st := (mq, answered answer st command)
  mayCall
    | .write | .getLatency => true
    | .getPresentationPosition => hasPresentationPosition
    | .unknown _ => false
  invoke_eq_none := by
    rintro (_ | _ | _ | code) h dataRead mq st
    · cases h
    · obtain rfl : hasPresentationPosition = false := h
      rfl
    · cases h
    · rfl

end StreamOut

/-! ### `ReadThread` -/

namespace StreamIn

/-- `ReadParameters`: a `ReadCommand`, with the bytes to read. -/
inductive ReadCommand where
  | read (bytes : ℕ)
  | getCapturePosition
  | unknown (code : ℕ)
  deriving DecidableEq, Repr

/-- `doRead` up to `mStream->read`. -/
def doRead (bytes : ℕ) (mq : DataMQ) (st : Status ReadCommand) :
    Option HalCall × DataMQ × Status ReadCommand :=
  let requestedToRead := if bytes > mq.availableToWrite then mq.availableToWrite else bytes
  (some (.read requestedToRead), mq, st)

/-- `doGetCapturePosition` up to `get_capture_position`, which may be missing. -/
def doGetCapturePosition (hasCapturePosition : Bool) (mq : DataMQ) (st : Status ReadCommand) :
    Option HalCall × DataMQ × Status ReadCommand :=
  if hasCapturePosition then (some .getCapturePosition, mq, st)
  else (none, mq, { st with retval := .notSupported })

/-- `doRead` from the answer on: what was read goes to the data queue if it has room for it. -/
def readAnswered (answer : HalAnswer) (mq : DataMQ) (st : Status ReadCommand) :
    DataMQ × Status ReadCommand :=
  if 0 ≤ answer.result then
    let data := answer.buffer.take answer.result.toNat
    let mq := if data.length ≤ mq.availableToWrite then { mq with data := mq.data ++ data } else mq
    (mq, { st with retval := .ok, reply := .read answer.result })
  else (mq, { st with retval := analyzeStatus answer.result })

/-- `doGetCapturePosition` from the answer on. -/
def capturePositionAnswered (answer : HalAnswer) (st : Status ReadCommand) : Status ReadCommand :=
  let retval := analyzeStatus answer.result
  if retval = .ok then { st with retval := retval, reply := .capturePosition answer.frames answer.time }
  else { st with retval := retval }

/-- How `ReadThread` serves its commands. -/
def readThread (hasCapturePosition : Bool) : Direction ReadCommand where
  invoke command _ mq st :=
    match command with
    | .read bytes => doRead bytes mq st
    | .getCapturePosition => doGetCapturePosition hasCapturePosition mq st
    | .unknown _ => (none, mq, { st with retval := .notSupported })
  finish command answer mq st :=
    match command with
    | .read _ => readAnswered answer mq st
    | .getCapturePosition => (mq, capturePositionAnswered answer st)
    | .unknown _ => (mq, st)
  mayCall
    | .read _ => true
    | .getCapturePosition => hasCapturePosition
    | .unknown _ => false
  invoke_eq_none := by
    rintro (bytes | _ | code) h dataRead mq st
    · cases h
    · obtain rfl : hasCapturePosition = false := h
      rfl
    · rfl

end StreamIn

end TrebleDoze.Audio
