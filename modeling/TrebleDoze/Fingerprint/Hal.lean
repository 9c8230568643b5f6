import Mathlib.Tactic.Common
import TrebleDoze.Lib.Lts

/-!
# The ANAKIN fingerprint HAL: the members and the blocks that hold `mCommandMutex`

`hal/anakin-fp/BiometricsFingerprint.cpp` serializes the Goodix commands through a queue.  Four kinds
of threads touch it: the binder threads that call `onFingerDown` and `onFingerUp`, the command worker,
the spot poller, and one HBM-wait thread for each press.  Here are the shared members and the four
blocks that hold `mCommandMutex`, each as one function; the threads around them are in
`TrebleDoze.Fingerprint.Threads`.

`lockLts` is the HAL at mutex granularity: any order of the four blocks, an enqueue by a detached
thread with any sequence number, and any write to `mLightAreaStable` from outside the mutex.
-/

namespace TrebleDoze.Fingerprint

open TrebleDoze.Lib

/-- The commands of the Goodix daemon that the HAL sends. -/
inductive Cmd where
  | lightAreaClose | fingerDown | lightAreaStable | fingerUp
  deriving DecidableEq, Repr

/-- `CMD_LIGHT_AREA_CLOSE`, `CMD_FINGER_DOWN`, `CMD_LIGHT_AREA_STABLE`, `CMD_FINGER_UP`. -/
def Cmd.code : Cmd → ℕ
  | .lightAreaClose => 200000
  | .fingerDown => 200001
  | .lightAreaStable => 200002
  | .fingerUp => 200003

/-- The two commands of touch events. -/
def Cmd.isTouch : Cmd → Bool
  | .fingerDown | .fingerUp => true
  | .lightAreaClose | .lightAreaStable => false

/-- `GoodixCommand`. -/
structure GoodixCommand where
  sequence : UInt64
  command : Cmd
  deriving DecidableEq, Repr

/-- The members the threads share, and the property `sys.phh.oplus.fppress` through which the HBM is
requested. -/
structure Hal where
  mCommandQueue : List GoodixCommand
  mFingerSequence : UInt64
  mFingerDown : Bool
  mLightAreaStable : Bool
  hbmProperty : Bool
  deriving DecidableEq, Repr

/-- The members as the constructor leaves them, with the HBM off. -/
def Hal.initial : Hal where
  mCommandQueue := []
  mFingerSequence := 0
  mFingerDown := false
  mLightAreaStable := false
  hbmProperty := false

/-- What the blocks do that an observer can see. -/
inductive Event where
  /-- A press: `onFingerDown` handed out this sequence number. -/
  | down (sequence : UInt64)
  /-- The end of a press: a finger up that was not ignored. -/
  | up (sequence : UInt64)
  /-- `sendCommand` was called. -/
  | sent (c : GoodixCommand)
  /-- `requestHbm` set the property. -/
  | hbm (enabled : Bool)
  /-- `enqueueGoodixCommand` put a command in the queue. -/
  | queued (c : GoodixCommand)
  /-- The poller read the spot node. -/
  | spot (ready : Bool)
  /-- `waitForHbm` of this press returned. -/
  | waited (press : ℕ)
  /-- The wait thread of this press is through with its step after the wait. -/
  | finished (press : ℕ)
  deriving DecidableEq, Repr

/-! ### The blocks -/

/-- `requestHbm`; `setOk` tells whether `__system_property_set` succeeds. -/
def requestHbm (setOk enabled : Bool) (s : Hal) : Hal × List Event :=
  if setOk then ({ s with hbmProperty := enabled }, [.hbm enabled]) else (s, [])

/-- The locked block of `onFingerDown`. -/
def onFingerDown (setOk : Bool) (s : Hal) : Hal × List Event :=
  let sequence := s.mFingerSequence + 1
  let r := requestHbm setOk true
    { s with mFingerSequence := sequence, mFingerDown := true, mLightAreaStable := false,
             mCommandQueue := [] }
  ({ r.1 with mCommandQueue := r.1.mCommandQueue ++ [⟨sequence, .fingerDown⟩] },
    .down sequence :: r.2)

/-- The locked block of `onFingerUp`; a finger up without a press is ignored. -/
def onFingerUp (s : Hal) : Hal × List Event :=
  if !s.mFingerDown then (s, [])
  else
    let sequence := s.mFingerSequence + 1
    ({ s with mFingerSequence := sequence, mFingerDown := false, mLightAreaStable := false,
              mCommandQueue := [] ++ [⟨sequence, .fingerUp⟩] },
      [.up sequence])

/-- `enqueueGoodixCommand`. -/
def enqueueGoodixCommand (command : Cmd) (sequence : UInt64) (s : Hal) : Hal × List Event :=
  if sequence ≠ s.mFingerSequence then (s, [])
  else if command = .lightAreaStable ∧ s.mFingerDown = false then (s, [])
  else if command = .lightAreaClose ∧ s.mFingerDown = true then (s, [])
  else ({ s with mCommandQueue := s.mCommandQueue ++ [⟨sequence, command⟩] },
    [.queued ⟨sequence, command⟩])

/-- One round of the command worker, from the wake-up with a non-empty queue to the release of the
mutex; `daemon` tells whether `mGoodixFingerprintDaemon` is non-null. -/
def workerRound (daemon setOk : Bool) (s : Hal) : Option (Hal × List Event) :=
  match s.mCommandQueue with
  | [] => none
  | command :: rest =>
    let s := { s with mCommandQueue := rest }
    if command.sequence ≠ s.mFingerSequence then some (s, [])
    else if command.command = .lightAreaStable ∧ s.mFingerDown = false then some (s, [])
    else if command.command = .lightAreaClose ∧ s.mFingerDown = true then some (s, [])
    else
      let sends := if daemon then [Event.sent command] else []
      if command.command = .fingerUp then
        let r := requestHbm setOk false s
        some (r.1, sends ++ r.2)
      else some (s, sends)

/-! ### The HAL at mutex granularity -/

/-- One locked block, or one access to `mLightAreaStable` outside the mutex.  A detached thread only
enqueues the two light-area commands. -/
inductive LockAct where
  | onFingerDown (setOk : Bool)
  | onFingerUp
  | worker (setOk : Bool)
  | enqueueStable (sequence : UInt64)
  | enqueueClose (sequence : UInt64)
  | setLightAreaStable (b : Bool)
  deriving DecidableEq, Repr

/-- One step at mutex granularity. -/
def lockStep (daemon : Bool) (s : Hal) : LockAct → Option (Hal × List Event)
  | .onFingerDown setOk => some (onFingerDown setOk s)
  | .onFingerUp => some (onFingerUp s)
  | .worker setOk => workerRound daemon setOk s
  | .enqueueStable q => some (enqueueGoodixCommand .lightAreaStable q s)
  | .enqueueClose q => some (enqueueGoodixCommand .lightAreaClose q s)
  | .setLightAreaStable b => some ({ s with mLightAreaStable := b }, [])

/-- **The HAL at mutex granularity.** -/
def lockLts (daemon : Bool) : Lts Hal LockAct Event where
  init := Hal.initial
  step := lockStep daemon

end TrebleDoze.Fingerprint
