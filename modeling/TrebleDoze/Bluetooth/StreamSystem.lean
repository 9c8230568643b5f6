import TrebleDoze.Bluetooth.OutStream
import TrebleDoze.Lib.Lts
import TrebleDoze.Lib.Threads

/-!
# An output stream, its writers and the stack

The runs of one output stream: it is opened and closed, the framework calls its functions, any number
of threads are in `out_write`, and the stack calls the session and reports results at any time.  The
functions that hold the mutex of the stream are one step each; what the stack does while one of them is
in `Start` or `Suspend` is an argument of the step (`Around`).  A callback comes before the check of
`state_` in such a function, or after its write of the state of transition; what the source would do with
one that comes between the two, where no mutex keeps it out, is left out.

* `SessionControl.acts`: the session after several acts of the stack, and what the observers are told;
* `Around.fits`: the stack acts inside of a function only where that asks it for something;
* `Effect`, `effect_of_step`: the ways a step can go; `Moves`, `moves_of_step`: for the port alone;
* `OpenInv`, `openInv_run`: the port of an open stream is in use.
-/

namespace TrebleDoze.Bluetooth

open TrebleDoze.Lib

/-- Something that the stack does: a call of its side, or a result that it reports. -/
inductive StackAct (χ : Type) where
  | call (c : χ)
  | report (startResp : Bool) (status : BluetoothAudioStatus)

namespace SessionControl

variable {σ χ : Type} (S : SessionControl σ χ)

/-- The session after an act of the stack, and what it tells the observers. -/
def act (s : σ) : StackAct χ → σ × List Notification
  | .call c => S.call s c
  | .report startResp status => (s, S.reportControlStatus startResp status s)

/-- The session after several acts. -/
def acts (s : σ) : List (StackAct χ) → σ × List Notification
  | [] => (s, [])
  | a :: as =>
    let r := acts (S.act s a).1 as
    (r.1, (S.act s a).2 ++ r.2)

/-- The act is a call that ends the session, and tells the observer so; `ends` says which calls these
are. -/
def endsFor (ends : χ → Bool) (cookie : ℕ) (s : σ) : StackAct χ → Bool
  | .call c => ends c && decide (.sessionChanged cookie ∈ (S.call s c).2)
  | .report _ _ => false

/-- One of the acts is. -/
def endedBy (ends : χ → Bool) (cookie : ℕ) (s : σ) : List (StackAct χ) → Bool
  | [] => false
  | a :: as => S.endsFor ends cookie s a || endedBy ends cookie (S.act s a).1 as

theorem acts_append (s : σ) (as bs : List (StackAct χ)) : S.acts s (as ++ bs) =
    ((S.acts (S.acts s as).1 bs).1, (S.acts s as).2 ++ (S.acts (S.acts s as).1 bs).2) := by
  induction as generalizing s with
  | nil => rfl
  | cons a as ih => simp [acts, ih]

theorem mem_acts_of_endedBy {ends : χ → Bool} {cookie : ℕ} {s : σ} {as : List (StackAct χ)}
    (h : S.endedBy ends cookie s as = true) : .sessionChanged cookie ∈ (S.acts s as).2 := by
  induction as generalizing s with
  | nil => cases h
  | cons a as ih =>
    rw [endedBy, Bool.or_eq_true] at h
    rcases h with h | h
    · cases a with
      | call c =>
        simp only [endsFor, Bool.and_eq_true, decide_eq_true_eq] at h
        exact List.mem_append_left _ h.2
      | report => cases h
    · exact List.mem_append_right _ (ih h)

end SessionControl

/-- What the stack does around the question of a `Start` or a `Suspend`: its answer, and its acts before
and after it. -/
structure Around (χ : Type) where
  isOk : Bool
  before : List (StackAct χ)
  during : List (StackAct χ)

namespace Around

variable {σ χ : Type} (S : SessionControl σ χ) (s : σ) (w : Around χ)

/-- What the `Start` or `Suspend` meets. -/
def request : Request σ where
  session := (S.acts s w.before).1
  isOk := w.isOk
  meanwhile := (S.acts s w.before).2
  waiting := (S.acts (S.acts s w.before).1 w.during).2

/-- Nothing happens inside of a function that asks for nothing, and nothing after a refusal. -/
def fits (asks : Option Req) : Bool :=
  match asks with
  | none => w.before.isEmpty && w.during.isEmpty
  | some req => S.ask req w.isOk (S.acts s w.before).1 || w.during.isEmpty

/-- What the port is told in a function is what the acts of the stack tell. -/
theorem notifications_of_fits {req : Req} (h : w.fits S s (some req) = true) :
    ((w.request S s).meanwhile ++
      if S.ask req (w.request S s).isOk (w.request S s).session then (w.request S s).waiting else []) =
      (S.acts s (w.before ++ w.during)).2 := by
  rw [S.acts_append]
  by_cases hg : S.ask req (w.request S s).isOk (w.request S s).session = true
  · rw [if_pos hg]
    rfl
  · have hask : S.ask req w.isOk (S.acts s w.before).1 = false := eq_false_of_ne_true hg
    have hd : w.during = [] := by simpa [fits, hask] using h
    rw [if_neg hg, hd]
    rfl

theorem acts_of_fits_none (h : w.fits S s none = true) : w.before ++ w.during = [] := by
  simpa [fits] using h

end Around

/-- Where a thread is in `out_write`. -/
inductive WritePoint where
  /-- The stream was not started: `resume` comes next. -/
  | entered
  /-- `resume` has failed. -/
  | refused
  /-- `WriteData` comes next. -/
  | ready
  | written (totalWritten : ℕ)
  /-- In the sleep after which it sets `last_write_time_us_`. -/
  | sleeping (lastWriteTimeUs : ℤ)
  deriving DecidableEq, Repr

/-- A thread in `out_write`. -/
structure Writer where
  bytes : ℕ
  point : WritePoint
  deriving DecidableEq, Repr

/-- The session, the stream if it is open, and the threads in its `out_write`.  The last two are what the
source does not keep: the bytes of the writes that are counted in `frames_presented_`, and whether the
session has ended since the port was set up. -/
structure StreamSystem (σ : Type) where
  session : σ
  stream : Option OutStream
  writers : Threads Writer
  counted : ℕ
  ended : Bool

namespace StreamSystem

/-- What can be seen of the stream. -/
inductive Event where
  | opened
  /-- Thread `i` calls `out_write`. -/
  | write (i bytes : ℕ)
  /-- It has called `WriteData`. -/
  | writeData (i totalWritten : ℕ)
  | returned (i bytes result : ℕ)
  deriving DecidableEq, Repr

/-- The actions of the system. -/
inductive Act (χ : Type) where
  | stack (a : StackAct χ)
  | adevOpen (config : StreamConfig)
  | adevClose
  | call (op : StreamOp) (w : Around χ)
  | write (i bytes : ℕ)
  /-- The `resume` of a write. -/
  | resume (i : ℕ) (w : Around χ)
  /-- The end of a write after its `resume` failed. -/
  | giveUp (i : ℕ)
  /-- `WriteData`; the data path takes `accepted` bytes. -/
  | writeData (i accepted : ℕ)
  /-- The part of a write after `WriteData`, at the time `nowUs`. -/
  | count (i : ℕ) (nowUs : ℤ)
  | wake (i : ℕ)

section

variable {σ χ : Type} (S : SessionControl σ χ) (ends : χ → Bool) (api : Api) (isA2dp : Bool)

/-- An act of the stack. -/
def hear (a : StackAct χ) (s : StreamSystem σ) : StreamSystem σ :=
  { s with
    session := (S.acts s.session [a]).1
    stream := s.stream.map fun out =>
      { out with bluetoothOutput := out.bluetoothOutput.notifyAll (S.acts s.session [a]).2 }
    ended := s.ended ||
      s.stream.any fun out => S.endedBy ends out.bluetoothOutput.cookie s.session [a] }

/-- A function that holds the mutex, on the stream `out`: what it returns, and the system it leaves. -/
def perform (op : StreamOp) (w : Around χ) (out : OutStream) (s : StreamSystem σ) :
    Option (ℤ × StreamSystem σ) :=
  if w.fits S s.session (op.asks out) then
    let r := op.run S (w.request S s.session) out
    let acts := w.before ++ w.during
    some (r.1, { s with
      session := (S.acts s.session acts).1
      stream := some r.2
      ended := s.ended || S.endedBy ends out.bluetoothOutput.cookie s.session acts })
  else none

/-- The steps of the threads in `out_write` that do not hold the mutex, or hold it and do not touch the
port. -/
def stepWriter (out : OutStream) (s : StreamSystem σ) : Act χ → Option (StreamSystem σ × List Event)
  | .write i bytes =>
    if (s.writers.find i).isSome then none
    else
      let point := if out.bluetoothOutput.state ≠ .started then WritePoint.entered else .ready
      some ({ s with writers := s.writers.put i ⟨bytes, point⟩ }, [.write i bytes])
  | .giveUp i =>
    match s.writers.find i with
    | some ⟨bytes, .refused⟩ =>
      some ({ s with writers := s.writers.drop i }, [.returned i bytes (out.dropWrite bytes)])
    | _ => none
  | .writeData i accepted =>
    match s.writers.find i with
    | some ⟨bytes, .ready⟩ =>
      if accepted ≤ bytes then
        let totalWritten := out.writeData accepted
        some ({ s with writers := s.writers.put i ⟨bytes, .written totalWritten⟩ },
          [.writeData i totalWritten])
      else none
    | _ => none
  | .count i nowUs =>
    match s.writers.find i with
    | some ⟨bytes, .written totalWritten⟩ =>
      let r := out.countWrite bytes totalWritten nowUs
      let s := { s with stream := some r.1, counted := s.counted + totalWritten }
      if r.2 > 0 then
        some ({ s with writers := s.writers.put i ⟨bytes, .sleeping (nowUs + r.2)⟩ }, [])
      else some ({ s with writers := s.writers.drop i }, [.returned i bytes totalWritten])
    | _ => none
  | .wake i =>
    match s.writers.find i with
    | some ⟨bytes, .sleeping lastWriteTimeUs⟩ =>
      some ({ s with stream := some { out with lastWriteTimeUs := lastWriteTimeUs }
                     writers := s.writers.drop i }, [.returned i bytes 0])
    | _ => none
  | _ => none

def step (s : StreamSystem σ) (a : Act χ) : Option (StreamSystem σ × List Event) :=
  match s.stream, a with
  | _, .stack a => some (s.hear S ends a, [])
  | none, .adevOpen config =>
    let r := OutStream.adevOpen S api isA2dp config s.session
    some (⟨r.1, r.2, [], 0, false⟩, if r.2.isSome then [.opened] else [])
  | some out, .adevClose =>
    if s.writers.isEmpty then some ({ s with session := out.adevClose S s.session, stream := none }, [])
    else none
  | some out, .call op w => (s.perform S ends op w out).map fun r => (r.2, [])
  | some out, .resume i w =>
    match s.writers.find i with
    | some ⟨bytes, .entered⟩ =>
      (s.perform S ends .resume w out).map fun r =>
        ({ r.2 with
            writers := r.2.writers.put i ⟨bytes, if r.1 ≠ 0 then .refused else .ready⟩ }, [])
    | _ => none
  | some out, a => s.stepWriter out a
  | none, _ => none

/-- The session with no stream on it yet. -/
def lts (session : σ) : Lts (StreamSystem σ) (Act χ) Event where
  init := ⟨session, none, [], 0, false⟩
  step := step S ends api isA2dp

end

/-! ### What a step does -/

section

variable {σ χ : Type} {S : SessionControl σ χ} {ends : χ → Bool} {api : Api} {isA2dp : Bool}
  {s s' : StreamSystem σ} {a : Act χ} {os : List Event}

variable (S ends api isA2dp s) in
/-- The ways a step can go. -/
inductive Effect : Act χ → StreamSystem σ → List Event → Prop
  | stack (a : StackAct χ) : Effect (.stack a) (s.hear S ends a) []
  | openFails (config : StreamConfig) (session : σ) :
      Effect (.adevOpen config) ⟨session, none, [], 0, false⟩ []
  | opens (config : StreamConfig) (session : σ) (out : OutStream) (hnone : s.stream = none)
      (ho : (OutStream.adevOpen S api isA2dp config s.session).2 = some out) :
      Effect (.adevOpen config) ⟨session, some out, [], 0, false⟩ [.opened]
  | closes (session : σ) : Effect .adevClose { s with session := session, stream := none } []
  | performs (op : StreamOp) (w : Around χ) (out : OutStream) (r : ℤ × StreamSystem σ)
      (hst : s.stream = some out) (hr : s.perform S ends op w out = some r) :
      Effect (.call op w) r.2 []
  | resumes (i : ℕ) (w : Around χ) (out : OutStream) (bytes : ℕ) (r : ℤ × StreamSystem σ)
      (hst : s.stream = some out) (hi : s.writers.find i = some ⟨bytes, .entered⟩)
      (hr : s.perform S ends .resume w out = some r) :
      Effect (.resume i w) { r.2 with
        writers := r.2.writers.put i ⟨bytes, if r.1 ≠ 0 then .refused else .ready⟩ } []
  | writes (i bytes : ℕ) (out : OutStream) (hst : s.stream = some out)
      (hi : s.writers.find i = none) :
      Effect (.write i bytes)
        { s with
          writers := s.writers.put i
            ⟨bytes, if out.bluetoothOutput.state ≠ .started then .entered else .ready⟩ }
        [.write i bytes]
  | givesUp (i bytes : ℕ) (out : OutStream) (hst : s.stream = some out)
      (hi : s.writers.find i = some ⟨bytes, .refused⟩) :
      Effect (.giveUp i) { s with writers := s.writers.drop i }
        [.returned i bytes (out.dropWrite bytes)]
  | passes (i bytes accepted : ℕ) (out : OutStream) (hst : s.stream = some out)
      (hi : s.writers.find i = some ⟨bytes, .ready⟩) :
      Effect (.writeData i accepted)
        { s with writers := s.writers.put i ⟨bytes, .written (out.writeData accepted)⟩ }
        [.writeData i (out.writeData accepted)]
  | sleeps (i bytes totalWritten : ℕ) (nowUs lastWriteTimeUs : ℤ) (out : OutStream)
      (hst : s.stream = some out) (hi : s.writers.find i = some ⟨bytes, .written totalWritten⟩) :
      Effect (.count i nowUs)
        { s with stream := some (out.countWrite bytes totalWritten nowUs).1
                 counted := s.counted + totalWritten
                 writers := s.writers.put i ⟨bytes, .sleeping lastWriteTimeUs⟩ } []
  | counts (i bytes totalWritten : ℕ) (nowUs : ℤ) (out : OutStream) (hst : s.stream = some out)
      (hi : s.writers.find i = some ⟨bytes, .written totalWritten⟩) :
      Effect (.count i nowUs)
        { s with stream := some (out.countWrite bytes totalWritten nowUs).1
                 counted := s.counted + totalWritten
                 writers := s.writers.drop i } [.returned i bytes totalWritten]
  | wakes (i bytes : ℕ) (lastWriteTimeUs : ℤ) (out : OutStream) (hst : s.stream = some out)
      (hi : s.writers.find i = some ⟨bytes, .sleeping lastWriteTimeUs⟩) :
      Effect (.wake i) { s with stream := some { out with lastWriteTimeUs := lastWriteTimeUs }
                                writers := s.writers.drop i } [.returned i bytes 0]

theorem effect_of_stepWriter {out : OutStream} (hst : s.stream = some out)
    (h : s.stepWriter out a = some (s', os)) : Effect S ends api isA2dp s a s' os := by
  cases a with
  | write i bytes =>
    dsimp only [stepWriter] at h
    cases hi : s.writers.find i with
    | some writer => simp [hi] at h
    | none =>
      rw [hi, Option.isSome_none, if_neg Bool.false_ne_true] at h
      obtain ⟨rfl, rfl⟩ := Prod.mk.inj (Option.some.inj h)
      exact .writes i bytes out hst hi
  | giveUp i =>
    dsimp only [stepWriter] at h
    split at h
    · rename_i bytes hi
      obtain ⟨rfl, rfl⟩ := Prod.mk.inj (Option.some.inj h)
      exact .givesUp i bytes out hst hi
    · cases h
  | writeData i accepted =>
    dsimp only [stepWriter] at h
    split at h
    · rename_i bytes hi
      split_ifs at h
      obtain ⟨rfl, rfl⟩ := Prod.mk.inj (Option.some.inj h)
      exact .passes i bytes accepted out hst hi
    · cases h
  | count i nowUs =>
    dsimp only [stepWriter] at h
    split at h
    · rename_i bytes totalWritten hi
      split_ifs at h
      · obtain ⟨rfl, rfl⟩ := Prod.mk.inj (Option.some.inj h)
        exact .sleeps i bytes totalWritten nowUs _ out hst hi
      · obtain ⟨rfl, rfl⟩ := Prod.mk.inj (Option.some.inj h)
        exact .counts i bytes totalWritten nowUs out hst hi
    · cases h
  | wake i =>
    dsimp only [stepWriter] at h
    split at h
    · rename_i bytes lastWriteTimeUs hi
      obtain ⟨rfl, rfl⟩ := Prod.mk.inj (Option.some.inj h)
      exact .wakes i bytes lastWriteTimeUs out hst hi
    · cases h
  | stack | adevOpen | adevClose | call | resume => cases h

theorem effect_of_step (h : step S ends api isA2dp s a = some (s', os)) :
    Effect S ends api isA2dp s a s' os := by
  cases hst : s.stream with
  | none =>
    cases a with
    | stack a =>
      simp only [step] at h
      obtain ⟨rfl, rfl⟩ := Prod.mk.inj (Option.some.inj h)
      exact .stack a
    | adevOpen config =>
      simp only [step, hst] at h
      obtain ⟨rfl, rfl⟩ := Prod.mk.inj (Option.some.inj h)
      cases ho : (OutStream.adevOpen S api isA2dp config s.session).2 with
      | none => exact .openFails config _
      | some out => exact .opens config _ out hst ho
    | adevClose | call | write | resume | giveUp | writeData | count | wake =>
      simp [step, hst] at h
  | some out =>
    cases a with
    | stack a =>
      simp only [step] at h
      obtain ⟨rfl, rfl⟩ := Prod.mk.inj (Option.some.inj h)
      exact .stack a
    | adevOpen config => simp [step, hst, stepWriter] at h
    | adevClose =>
      simp only [step, hst] at h
      split_ifs at h
      obtain ⟨rfl, rfl⟩ := Prod.mk.inj (Option.some.inj h)
      exact .closes _
    | call op w =>
      simp only [step, hst, Option.map_eq_some_iff] at h
      obtain ⟨r, hr, h⟩ := h
      obtain ⟨rfl, rfl⟩ := Prod.mk.inj h
      exact .performs op w out r hst hr
    | resume i w =>
      simp only [step, hst] at h
      split at h
      · rename_i bytes hi
        obtain ⟨r, hr, h⟩ := Option.map_eq_some_iff.1 h
        obtain ⟨rfl, rfl⟩ := Prod.mk.inj h
        exact .resumes i w out bytes r hst hi hr
      · cases h
    | write | giveUp | writeData | count | wake =>
      simp only [step, hst] at h
      exact effect_of_stepWriter hst h

/-! ### What a step does to the port -/

/-- The function that the action performs. -/
def Act.op : Act χ → Option StreamOp
  | .call op _ => some op
  | .resume _ _ => some .resume
  | _ => none

variable (S ends isA2dp s a s') in
/-- The ways a step can go, for the port of the stream. -/
inductive Moves : Prop
  /-- The stream is not open afterwards. -/
  | absent (hst' : s'.stream = none)
  | opens (out : OutStream) (config : StreamConfig) (ha : a = .adevOpen config)
      (hst' : s'.stream = some out) (hu : out.bluetoothOutput.inUse = true)
      (hA : out.isA2dp = isA2dp) (he : s'.ended = false)
  | hears (out : OutStream) (acts : List (StackAct χ)) (hst : s.stream = some out)
      (hst' : s'.stream = some { out with
        bluetoothOutput := out.bluetoothOutput.notifyAll (S.acts s.session acts).2 })
      (he : s'.ended = (s.ended || S.endedBy ends out.bluetoothOutput.cookie s.session acts))
  | performs (out : OutStream) (op : StreamOp) (w : Around χ) (ha : a.op = some op)
      (hst : s.stream = some out) (hfits : w.fits S s.session (op.asks out) = true)
      (hst' : s'.stream = some (op.run S (w.request S s.session) out).2)
      (he : s'.ended = (s.ended ||
        S.endedBy ends out.bluetoothOutput.cookie s.session (w.before ++ w.during)))
  | works (out out' : OutStream) (hst : s.stream = some out) (hst' : s'.stream = some out')
      (hsame : out.Same out') (hport : out'.bluetoothOutput = out.bluetoothOutput)
      (he : s'.ended = s.ended)

theorem writers_perform {op : StreamOp} {w : Around χ} {out : OutStream} {r : ℤ × StreamSystem σ}
    (h : s.perform S ends op w out = some r) : r.2.writers = s.writers ∧ r.2.counted = s.counted := by
  unfold perform at h
  split_ifs at h
  obtain rfl := Option.some.inj h
  exact ⟨rfl, rfl⟩

theorem moves_of_perform {op : StreamOp} {w : Around χ} {out : OutStream} {r : ℤ × StreamSystem σ}
    (hst : s.stream = some out) (ha : a.op = some op) (h : s.perform S ends op w out = some r)
    (hst' : s'.stream = r.2.stream) (he : s'.ended = r.2.ended) : Moves S ends isA2dp s s' a := by
  unfold perform at h
  split_ifs at h with hf
  obtain rfl := Option.some.inj h
  exact .performs out op w ha hst hf hst' he

theorem moves_of_step (h : step S ends api isA2dp s a = some (s', os)) :
    Moves S ends isA2dp s s' a := by
  cases effect_of_step h with
  | stack a =>
    cases hst : s.stream with
    | none => exact .absent (by simp [hear, hst])
    | some out => exact .hears out [a] hst (by simp [hear, hst]) (by simp [hear, hst])
  | openFails | closes => exact .absent rfl
  | opens config session out hnone ho =>
    have hopen := OutStream.opened_of_adevOpen ho
    exact .opens out config rfl rfl hopen.1 hopen.2.1 rfl
  | performs op w out r hst hr => exact moves_of_perform hst rfl hr rfl rfl
  | resumes i w out bytes r hst hi hr => exact moves_of_perform hst rfl hr rfl rfl
  | writes i bytes out hst | givesUp i bytes out hst | passes i bytes accepted out hst =>
    exact .works out out hst hst (.refl out) rfl rfl
  | sleeps i bytes totalWritten nowUs lastWriteTimeUs out hst
  | counts i bytes totalWritten nowUs out hst =>
    exact .works out _ hst rfl (OutStream.same_countWrite ..) (OutStream.bluetoothOutput_countWrite ..) rfl
  | wakes i bytes lastWriteTimeUs out hst => exact .works out _ hst rfl ⟨rfl, rfl, rfl⟩ rfl rfl

/-! ### The port of an open stream -/

/-- The port of an open stream is in use, and of the kind of the device. -/
structure OpenInv (isA2dp : Bool) (s : StreamSystem σ) : Prop where
  inUse : ∀ out ∈ s.stream, out.bluetoothOutput.inUse = true
  isA2dp : ∀ out ∈ s.stream, out.isA2dp = isA2dp

theorem OpenInv.step (hi : OpenInv isA2dp s) (h : step S ends api isA2dp s a = some (s', os)) :
    OpenInv isA2dp s' := by
  have hsame : ∀ {out out' : OutStream}, s.stream = some out → s'.stream = some out' →
      out.Same out' → OpenInv isA2dp s' := by
    intro out out' hst hst' hsame
    constructor
    · intro o ho
      obtain rfl := Option.some.inj (hst'.symm.trans ho)
      rw [hsame.inUse]
      exact hi.inUse out hst
    · intro o ho
      obtain rfl := Option.some.inj (hst'.symm.trans ho)
      rw [hsame.isA2dp]
      exact hi.isA2dp out hst
  cases moves_of_step h with
  | absent hst' => exact ⟨fun o ho => by simp [hst'] at ho, fun o ho => by simp [hst'] at ho⟩
  | opens out config ha hst' hu hA he =>
    constructor
    · intro o ho
      obtain rfl := Option.some.inj (hst'.symm.trans ho)
      exact hu
    · intro o ho
      obtain rfl := Option.some.inj (hst'.symm.trans ho)
      exact hA
  | hears out acts hst hst' he =>
    exact hsame hst hst' ⟨BluetoothAudioPort.cookie_notifyAll _, rfl, rfl⟩
  | performs out op w ha hst hfits hst' he => exact hsame hst hst' StreamOp.same_run
  | works out out' hst hst' hs hport he => exact hsame hst hst' hs

theorem openInv_init {session : σ} : OpenInv isA2dp (lts S ends api isA2dp session).init :=
  ⟨fun o ho => by simp [lts] at ho, fun o ho => by simp [lts] at ho⟩

theorem openInv_run {session : σ} {C : StreamSystem σ → Act χ → Prop} {tr : List Event}
    (h : (lts S ends api isA2dp session).Run C tr s) : OpenInv isA2dp s := by
  refine h.inv_state openInv_init ?_
  intro s a s' os hi _ ha
  exact hi.step ha

end

end StreamSystem

/-- The call that ends an AIDL session. -/
def BluetoothAudioSession.Call.isEnd {κ : Tag → Type} : BluetoothAudioSession.Call κ → Bool
  | .onSessionEnded => true
  | _ => false

/-- The system of an output stream on the A2DP session that the stack has started. -/
def a2dpLts : Lts (StreamSystem (BluetoothAudioSession NoPayload))
    (StreamSystem.Act { c : BluetoothAudioSession.Call NoPayload // c.ofStack = true })
    StreamSystem.Event :=
  StreamSystem.lts (SessionControl.aidl NoPayload) (fun c => c.1.isEnd) .aidl
    (OutStream.isA2dpType startedSession.sessionType) startedSession

/-- 20 ms of buffer at 48 kHz. -/
def quietConfig : StreamConfig := ⟨48000, 960, 4⟩

/-- Nothing happens inside of a function, and the stack accepts what it is asked for. -/
def undisturbed {χ : Type} : Around χ := ⟨true, [], []⟩

/-- The stack accepts what it is asked for, and reports the status while the function waits. -/
def answered {χ : Type} (startResp : Bool) (status : BluetoothAudioStatus) : Around χ :=
  ⟨true, [], [.report startResp status]⟩

end TrebleDoze.Bluetooth
