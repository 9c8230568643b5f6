import TrebleDoze.Audio.FastPath

/-!
# The fast path of the two threads

* `writeThread_serves`: `WriteThread` passes to the legacy HAL the bytes that it takes from the data queue;
* `readThread_serves`: `ReadThread` appends to the data queue the bytes that it counts in its reply, where
  a read that fails finds the count cleared;
* `fast_path_served`: so each command is answered once, in order, in both directions
  (`read_count_left`: not if a read that fails leaves an old count behind).
-/

namespace TrebleDoze.Audio

open TrebleDoze.Lib

namespace FastPath

variable {χ : Type}

/-! ### `WriteThread` -/

/-- The bytes that a call gives to the legacy HAL. -/
def bytesPassed : HalCall → List UInt8
  | .write buffer => buffer
  | _ => []

theorem moved_self (mq : DataMQ) (sv : Service χ) : sv.moved mq mq = sv := by
  unfold Service.moved
  simp

/-- What `WriteThread` is to do for a command: the bytes passed to the legacy HAL are those taken from the
data queue, and a code that is not known is not supported. -/
def Written (sv : Service StreamOut.WriteCommand) (st : Status StreamOut.WriteCommand) : Prop :=
  sv.calls.flatMap bytesPassed = sv.taken ∧
    ∀ code, sv.command = .unknown code → st.retval = .notSupported

/-- While `WriteThread` is in the legacy HAL. -/
def Writing (sv : Service StreamOut.WriteCommand) : Prop :=
  sv.calls.flatMap bytesPassed = sv.taken ∧ ∀ code, sv.command ≠ .unknown code

/-- What has been taken and passed on when a command is handed over to the legacy HAL, or not. -/
theorem bytesPassed_invoke (hasPresentationPosition : Bool) (command : StreamOut.WriteCommand)
    (dataRead : Bool) (mq : DataMQ) (st : Status StreamOut.WriteCommand) :
    ((StreamOut.writeThread hasPresentationPosition).invoke command dataRead mq st).1.toList.flatMap
        bytesPassed =
      ((Service.start command).moved mq
        ((StreamOut.writeThread hasPresentationPosition).invoke command dataRead mq st).2.1).taken := by
  cases command with
  | write =>
    cases dataRead with
    | true => simp [StreamOut.writeThread, StreamOut.doWrite, Service.moved, Service.start, bytesPassed]
    | false => simp [StreamOut.writeThread, StreamOut.doWrite, Service.moved, Service.start]
  | getPresentationPosition =>
    cases hasPresentationPosition with
    | true =>
      simp [StreamOut.writeThread, StreamOut.doGetPresentationPosition, Service.moved, Service.start,
        bytesPassed]
    | false =>
      simp [StreamOut.writeThread, StreamOut.doGetPresentationPosition, Service.moved, Service.start]
  | getLatency =>
    simp [StreamOut.writeThread, StreamOut.doGetLatency, Service.moved, Service.start, bytesPassed]
  | unknown code => simp [StreamOut.writeThread, Service.moved, Service.start]

/-- `WriteThread` passes on what it takes, whatever happens meanwhile. -/
theorem writeThread_serves (hasPresentationPosition : Bool) :
    Serves (StreamOut.writeThread hasPresentationPosition) (fun sv _ _ => Writing sv) Written
      fun _ _ => True where
  replyTo_invoke command dataRead mq st := by
    cases command with
    | write => cases dataRead <;> rfl
    | getPresentationPosition => cases hasPresentationPosition <;> rfl
    | getLatency => rfl
    | unknown code => rfl
  replyTo_finish command answer mq st := by
    cases command with
    | write =>
      simp only [StreamOut.writeThread, StreamOut.answered]
      split_ifs <;> rfl
    | getPresentationPosition =>
      simp only [StreamOut.writeThread, StreamOut.answered]
      split_ifs <;> rfl
    | getLatency => rfl
    | unknown code => rfl
  noCall command dataRead mq st hcall := by
    have hpassed := bytesPassed_invoke hasPresentationPosition command dataRead mq st
    rw [hcall] at hpassed
    refine ⟨hpassed, fun code hcode => ?_⟩
    obtain rfl : command = .unknown code := hcode
    rfl
  calls command dataRead mq st call hcall := by
    have hpassed := bytesPassed_invoke hasPresentationPosition command dataRead mq st
    rw [hcall] at hpassed
    refine ⟨hpassed, fun code hcode => ?_⟩
    obtain rfl : command = .unknown code := hcode
    cases hcall
  returns p env sv _ _ _ hj := by
    obtain ⟨hpassed, hknown⟩ := hj
    have hmoved : sv.moved p.stream.dataMQ ((StreamOut.writeThread hasPresentationPosition).finish
        sv.command env.answer p.stream.dataMQ p.stream.mStatus).1 = sv := moved_self _ sv
    rw [hmoved]
    exact ⟨hpassed, fun code hcode => absurd hcode (hknown code)⟩
  putData _ _ _ _ hj := hj
  takeData _ _ _ _ hj := hj

/-! ### `ReadThread` -/

/-- The read count of a reply, which is a union: a capture position has its frames there. -/
def readCount : Reply → Option ℤ
  | .read bytes => some bytes
  | .capturePosition frames _ => some frames
  | _ => none

/-- What `ReadThread` is to do for a command: the read count of the reply is the number of bytes
appended to the data queue, at most what is asked for and at most the room found there, and a code that is
not known is not supported. -/
def Read (sv : Service StreamIn.ReadCommand) (st : Status StreamIn.ReadCommand) : Prop :=
  (∀ bytes, sv.command = .read bytes →
    readCount st.reply = some (sv.appended.length : ℤ) ∧ sv.appended.length ≤ min bytes sv.space) ∧
  ∀ code, sv.command = .unknown code → st.retval = .notSupported

/-- While `ReadThread` is in the legacy HAL. -/
def Reading (sv : Service StreamIn.ReadCommand) (mq : DataMQ) : Prop :=
  sv.appended = [] ∧ (∀ code, sv.command ≠ .unknown code) ∧
    ∀ bytes, sv.command = .read bytes → ∃ requested, sv.calls = [.read requested] ∧
      requested ≤ min bytes sv.space ∧ requested ≤ mq.availableToWrite

/-- What the thread has asked the legacy HAL to read, while it is there. -/
def reading (p : FastPath StreamIn.ReadCommand) : Option ℕ :=
  match p.stream.thread, p.service.map Service.calls with
  | some (.inHal (.read _)), some [.read requested] => some requested
  | _, _ => none

/-- The thread is the only writer of the data queue of an input stream. -/
def OneWriter : Act StreamIn.ReadCommand → Prop
  | .putData _ => False
  | _ => True

instance : DecidablePred OneWriter
  | .putData _ => inferInstanceAs (Decidable False)
  | .prepare .. | .putCommand _ | .wake | .takeData _ | .takeStatus | .close | .closeWake
  | .closeStream | .thread _ => inferInstanceAs (Decidable True)

/-- A read of the legacy HAL returns at most what was asked for, and has filled in what it returns. -/
def ReadFits (p : FastPath StreamIn.ReadCommand) : Act StreamIn.ReadCommand → Prop
  | .thread env => ∀ requested ∈ p.reading,
    env.answer.result ≤ requested ∧ env.answer.result.toNat ≤ env.answer.buffer.length
  | _ => True

instance (p : FastPath StreamIn.ReadCommand) : DecidablePred p.ReadFits
  | .thread env => inferInstanceAs (Decidable (∀ requested ∈ p.reading,
      env.answer.result ≤ requested ∧ env.answer.result.toNat ≤ env.answer.buffer.length))
  | .prepare .. | .putCommand _ | .wake | .putData _ | .takeData _ | .takeStatus | .close
  | .closeWake | .closeStream => inferInstanceAs (Decidable True)

/-- When a read fails, the reply left by the command before it has the count zero. -/
def CountCleared (p : FastPath StreamIn.ReadCommand) : Act StreamIn.ReadCommand → Prop
  | .thread env => p.reading.isSome = true → env.answer.result < 0 →
    readCount p.stream.mStatus.reply = some 0
  | _ => True

instance (p : FastPath StreamIn.ReadCommand) : DecidablePred p.CountCleared
  | .thread env => inferInstanceAs (Decidable (p.reading.isSome = true → env.answer.result < 0 →
      readCount p.stream.mStatus.reply = some 0))
  | .prepare .. | .putCommand _ | .wake | .putData _ | .takeData _ | .takeStatus | .close
  | .closeWake | .closeStream => inferInstanceAs (Decidable True)

/-- What a read that fits adds to the data queue and says in the reply. -/
theorem readAnswered_of_le {answer : HalAnswer} {mq : DataMQ} {st : Status StreamIn.ReadCommand}
    (hok : 0 ≤ answer.result) (hbuf : answer.result.toNat ≤ answer.buffer.length)
    (hroom : answer.result.toNat ≤ mq.availableToWrite) :
    StreamIn.readAnswered answer mq st =
      ({ mq with data := mq.data ++ answer.buffer.take answer.result.toNat },
        { st with retval := .ok, reply := .read answer.result }) := by
  have hlen : (answer.buffer.take answer.result.toNat).length ≤ mq.availableToWrite := by
    rw [List.length_take_of_le hbuf]
    exact hroom
  unfold StreamIn.readAnswered
  rw [if_pos hok]
  dsimp only
  rw [if_pos hlen]

theorem Reading.read {sv : Service StreamIn.ReadCommand} {mq : DataMQ} (h : Reading sv mq)
    {bytes : ℕ} (hcommand : sv.command = .read bytes) {answer : HalAnswer}
    {st : Status StreamIn.ReadCommand}
    (hfits : ∀ requested, sv.calls = [.read requested] →
      answer.result ≤ requested ∧ answer.result.toNat ≤ answer.buffer.length)
    (hcleared : answer.result < 0 → readCount st.reply = some 0) :
    Read (sv.moved mq (StreamIn.readAnswered answer mq st).1)
      (StreamIn.readAnswered answer mq st).2 := by
  obtain ⟨happended, hknown, hread⟩ := h
  obtain ⟨requested, hcalls, hle, hroom⟩ := hread bytes hcommand
  obtain ⟨hmost, hbuf⟩ := hfits requested hcalls
  refine ⟨fun bytes' hcommand' => ?_, fun code hcode => absurd hcode (hknown code)⟩
  obtain rfl : bytes = bytes' := StreamIn.ReadCommand.read.inj (hcommand.symm.trans hcommand')
  by_cases hok : 0 ≤ answer.result
  · have happend : (sv.moved mq (StreamIn.readAnswered answer mq st).1).appended =
        answer.buffer.take answer.result.toNat := by
      rw [readAnswered_of_le hok hbuf (by omega)]
      simp [Service.moved, happended]
    rw [happend, List.length_take_of_le hbuf, readAnswered_of_le hok hbuf (by omega)]
    refine ⟨?_, ?_⟩
    · show some answer.result = some (answer.result.toNat : ℤ)
      rw [Int.toNat_of_nonneg hok]
    · show answer.result.toNat ≤ min bytes sv.space
      omega
  · have hanswered : StreamIn.readAnswered answer mq st =
        (mq, { st with retval := analyzeStatus answer.result }) := if_neg hok
    rw [hanswered, moved_self, happended]
    exact ⟨hcleared (by omega), Nat.zero_le _⟩

/-- `ReadThread` appends what it counts, where the count of a read that fails is cleared. -/
theorem readThread_serves (hasCapturePosition : Bool) :
    Serves (StreamIn.readThread hasCapturePosition) (fun sv mq _ => Reading sv mq) Read
      fun p a => (OneWriter a ∧ p.ReadFits a) ∧ p.CountCleared a where
  replyTo_invoke command dataRead mq st := by
    cases command with
    | read bytes => rfl
    | getCapturePosition => cases hasCapturePosition <;> rfl
    | unknown code => rfl
  replyTo_finish command answer mq st := by
    cases command with
    | read bytes =>
      simp only [StreamIn.readThread, StreamIn.readAnswered]
      split_ifs <;> rfl
    | getCapturePosition =>
      simp only [StreamIn.readThread, StreamIn.capturePositionAnswered]
      split_ifs <;> rfl
    | unknown code => rfl
  noCall command dataRead mq st hcall := by
    refine ⟨fun bytes hbytes => ?_, fun code hcode => ?_⟩
    · obtain rfl : command = .read bytes := hbytes
      cases hcall
    · obtain rfl : command = .unknown code := hcode
      rfl
  calls command dataRead mq st call hcall := by
    cases command with
    | read bytes =>
      obtain rfl : HalCall.read (if bytes > mq.availableToWrite then mq.availableToWrite else bytes) =
        call := Option.some.inj hcall
      refine ⟨?_, fun _ hcode => (by cases hcode), fun bytes' hbytes => ⟨_, rfl, ?_, ?_⟩⟩
      · simp [StreamIn.readThread, StreamIn.doRead, Service.invoked, Service.moved, Service.start]
      · obtain rfl : bytes = bytes' := StreamIn.ReadCommand.read.inj hbytes
        show (if bytes > mq.availableToWrite then mq.availableToWrite else bytes) ≤
          min bytes mq.availableToWrite
        split_ifs <;> omega
      · show (if bytes > mq.availableToWrite then mq.availableToWrite else bytes) ≤
          mq.availableToWrite
        split_ifs <;> omega
    | getCapturePosition =>
      cases hasCapturePosition with
      | true =>
        refine ⟨?_, fun _ hcode => (by cases hcode), fun _ hbytes => (by cases hbytes)⟩
        simp [StreamIn.readThread, StreamIn.doGetCapturePosition, Service.invoked, Service.moved,
          Service.start]
      | false => cases hcall
    | unknown code => cases hcall
  returns p env sv hC hpc hservice hj := by
    obtain ⟨⟨-, hfits⟩, hcleared⟩ := hC
    cases hcommand : sv.command with
    | read bytes =>
      have hreading : ∀ requested, sv.calls = [.read requested] → p.reading = some requested := by
        intro requested hcalls
        unfold reading
        rw [hpc, hservice, hcommand, Option.map_some, hcalls]
      refine hj.read hcommand (fun requested hcalls => hfits requested (hreading requested hcalls))
        fun hneg => ?_
      obtain ⟨requested, hcalls, -⟩ := hj.2.2 bytes hcommand
      exact hcleared (by rw [hreading requested hcalls]; rfl) hneg
    | getCapturePosition =>
      have hmoved : (sv.moved p.stream.dataMQ p.stream.dataMQ).command = .getCapturePosition :=
        hcommand
      refine ⟨fun bytes hbytes => ?_, fun code hcode => ?_⟩
      · cases hmoved.symm.trans hbytes
      · cases hmoved.symm.trans hcode
    | unknown code => exact absurd hcommand (hj.2.1 code)
  putData p data sv hC _ := hC.1.1.elim
  takeData p bytes sv _ hj := by
    obtain ⟨happended, hknown, hread⟩ := hj
    refine ⟨happended, hknown, fun asked hcommand => ?_⟩
    obtain ⟨requested, hcalls, hle, hroom⟩ := hread asked hcommand
    refine ⟨requested, hcalls, hle, Nat.le_trans hroom ?_⟩
    show p.stream.dataMQ.quantumCount - p.stream.dataMQ.data.length ≤
      p.stream.dataMQ.quantumCount - (p.stream.dataMQ.data.drop bytes).length
    rw [List.length_drop]
    omega

/-! ### Both directions -/

/-- **Every command that a thread reads is answered once**, in order and to the command, with what has
been done for it: in all runs of `WriteThread`, and in those of `ReadThread` in which a read that fails
finds the count cleared. -/
theorem fast_path_served (hasPresentationPosition hasCapturePosition : Bool) :
    (∀ tr p, (lts (StreamOut.writeThread hasPresentationPosition)).Reach tr p →
      Served (StreamOut.writeThread hasPresentationPosition) Written tr p) ∧
    ∀ tr p, (lts (StreamIn.readThread hasCapturePosition)).Run
        (fun p a => (OneWriter a ∧ p.ReadFits a) ∧ p.CountCleared a) tr p →
      Served (StreamIn.readThread hasCapturePosition) Read tr p :=
  ⟨fun _ _ h => served_run (writeThread_serves hasPresentationPosition) h,
    fun _ _ h => served_run (readThread_serves hasCapturePosition) h⟩

/-- An answer of the environment, to a thread that is woken by the bit and reads its data. -/
def answers (result : ℤ) (buffer : List UInt8) : Env := ⟨false, true, ⟨result, buffer, 0, 0⟩⟩

/-- The client puts a command, and waits while the thread, from the head of its loop, serves it. -/
def serve (command : χ) (env : Env) (steps : ℕ) : List (Act χ) :=
  [.thread env, .putCommand command, .wake] ++ List.replicate steps (.thread env) ++ [.takeStatus]

/-- A write of four bytes, and a code that is not known. -/
def writes : List (Act StreamOut.WriteCommand) :=
  [.prepare 4 256 true, .putData [1, 2, 3, 4]] ++ serve .write (answers 4 []) 5 ++
    serve (.unknown 9) (answers 0 []) 4

/-- A read of four bytes, the capture position, and a read that fails after it. -/
def reads : List (Act StreamIn.ReadCommand) :=
  [.prepare 4 256 true] ++ serve (.read 4) (answers 4 [1, 2, 3, 4]) 5 ++
    serve .getCapturePosition (answers 0 []) 5 ++ serve (.read 4) (answers (-19) []) 5

theorem fast_path_served_both :
    (∃ tr p, (lts (StreamOut.writeThread true)).Reach tr p ∧
      repliesTo tr = [some .write, some (.unknown 9)] ∧
      Served (StreamOut.writeThread true) Written tr p) ∧
    ∃ tr p, (lts (StreamIn.readThread true)).Run
        (fun p a => (OneWriter a ∧ p.ReadFits a) ∧ p.CountCleared a) tr p ∧
      repliesTo tr = [some (.read 4), some .getCapturePosition, some (.read 4)] ∧
      Served (StreamIn.readThread true) Read tr p := by
  obtain ⟨tr, p, h, hp⟩ := Lts.exists_run (M := lts (StreamOut.writeThread true))
    (C := fun _ _ => True) (P := fun tr _ => repliesTo tr = [some .write, some (.unknown 9)]) writes
    (by decide)
  obtain ⟨tr', p', h', hp'⟩ := Lts.exists_run (M := lts (StreamIn.readThread true))
    (C := fun p a => (OneWriter a ∧ p.ReadFits a) ∧ p.CountCleared a)
    (P := fun tr _ => repliesTo tr = [some (.read 4), some .getCapturePosition, some (.read 4)]) reads
    (by decide)
  exact ⟨⟨tr, p, h, hp, (fast_path_served true true).1 tr p h⟩,
    tr', p', h', hp', (fast_path_served true true).2 tr' p' h'⟩

/-- A read of four bytes, and one that fails. -/
def readThenFails : List (Act StreamIn.ReadCommand) :=
  [.prepare 4 256 true] ++ serve (.read 4) (answers 4 [1, 2, 3, 4]) 5 ++
    serve (.read 4) (answers (-19) []) 5

/-- The status of the read that fails still has the count of the read before it. -/
theorem read_count_left : ¬ ∀ tr p, (lts (StreamIn.readThread true)).Run
    (fun p a => OneWriter a ∧ p.ReadFits a) tr p → Served (StreamIn.readThread true) Read tr p := by
  intro hserved
  obtain ⟨tr, p, h, hp⟩ := Lts.exists_run (M := lts (StreamIn.readThread true))
    (C := fun p a => OneWriter a ∧ p.ReadFits a)
    (P := fun tr _ => .replied (some ⟨.read 4, 1020, [], [], [.read 4]⟩)
      ⟨.notInitialized, some (.read 4), .read 4⟩ ∈ tr) readThenFails (by decide)
  obtain ⟨sv, hsv, -, hread⟩ := (hserved tr p h).replied _ _ hp
  obtain rfl : _ = sv := Option.some.inj hsv
  have hcount := (hread.1 4 rfl).1
  cases hcount

end FastPath

end TrebleDoze.Audio
