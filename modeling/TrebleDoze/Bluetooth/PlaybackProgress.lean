import TrebleDoze.Bluetooth.PlaybackRuns
import Mathlib.Data.Nat.Find
import Mathlib.Logic.Relation

/-!
# The client is always told

A write passes through three modules, each with threads and waits of its own.

* `Playback.pointLeft`, `Playback.Nearer`: how far `WriteThread` is from the status of the command in hand;
* `PlaybackInv.keeps`: no step of another takes it further away;
* `PlaybackInv.lowers`, `PlaybackInv.enabled`: its own steps take it nearer, and one of them can be made;
* `PlaybackInv.answers`, `PlaybackInv.eventually`: and so they end with the status, as does every fair run.
-/

namespace TrebleDoze.Bluetooth

open TrebleDoze.Lib
open Audio.StreamOut (WriteCommand writeThread)

namespace PcmCalls

variable {σ χ α : Type} {P : PcmControl σ χ} {D : Endpoint α} {timeoutMs pollMs i j : ℕ} {s : PcmCalls σ α}
  {c : PcmCall α}

theorem find_begin {buffer : Option (List α)} (h : j ≠ s.begun) :
    (s.begin timeoutMs buffer).1.calls.find j = s.calls.find j := by
  unfold PcmCalls.begin
  cases buffer with
  | none => rfl
  | some buffer =>
    dsimp only
    split_ifs
    · rfl
    · exact Threads.find_put.trans (if_neg h)

theorem find_iterate {between : List (ℕ × D.Peer)} (h : j ≠ i) :
    (s.iterate P D pollMs i c between).1.calls.find j = s.calls.find j := by
  unfold iterate
  dsimp only
  split
  · exact Threads.find_put.trans (if_neg h)
  · exact Threads.find_drop_of_ne h
  · exact Threads.find_drop_of_ne h

end PcmCalls

namespace Playback

section

variable {σ χ ψ : Type} (D : PlaybackDevice σ χ ψ)

/-- A step of `WriteThread`, in `audio/hal`, in `out_write` or in `OutWritePcmData`. -/
def ofThread (s : Playback σ) : Act χ → Bool
  | .audio (.thread _) | .writeData => true
  | .hal a => ofWriter a
  | .iterate i _ => s.own == some i
  | _ => false

/-- The steps that it has left at a point of `out_write`: each iteration of `OutWritePcmData` moves a byte or
waits a millisecond. -/
def pointLeft (s : Playback σ) : WritePoint → ℕ
  | .sleeping _ | .refused => 1
  | .written _ => 2
  | .ready =>
    match s.own with
    | none => 4 + (D.formed s.buffer).length + kFmqSendTimeoutMs
    | some i => (s.calls.find i).elim 0 fun c => 3 + (c.buffer.length - c.total) + c.timeoutMs
  | .entered => 5 + (D.formed s.buffer).length + kFmqSendTimeoutMs

/-- The steps that it has left in `out_write`. -/
def writeLeft (s : Playback σ) : ℕ := (s.stream.writers.find 0).elim 0 fun x => s.pointLeft D x.point

/-- It is nearer to the status of the command in hand. -/
def Nearer (s' s : Playback σ) : Prop :=
  s'.audio.stream.left < s.audio.stream.left ∨
    s'.audio.stream.left = s.audio.stream.left ∧ s'.writeLeft D < s.writeLeft D

/-- It is as far from it. -/
def AsFar (s' s : Playback σ) : Prop :=
  s'.audio.stream.left = s.audio.stream.left ∧ s'.writeLeft D = s.writeLeft D

end

section

variable {σ χ ψ : Type} {D : PlaybackDevice σ χ ψ} {s s' : Playback σ} {current : List UInt8}
  {w : PcmWorld σ UInt8} {c : PcmCalls σ UInt8} {os : List (PcmCalls.Event UInt8)} {i j : ℕ}
  {a : Audio.Act WriteCommand} {es : List Event} {tr : List Event}

theorem pointLeft_of_none (hown : s.own = none) :
    s.pointLeft D .ready = 4 + (D.formed s.buffer).length + kFmqSendTimeoutMs := by
  unfold pointLeft
  rw [hown]

theorem pointLeft_of_some {d : PcmCall UInt8} (hown : s.own = some i) (hfind : s.calls.find i = some d) :
    s.pointLeft D .ready = 3 + (d.buffer.length - d.total) + d.timeoutMs := by
  unfold pointLeft
  rw [hown]
  dsimp only
  rw [hfind]
  rfl

theorem writeLeft_of_point {bytes : ℕ} {point : WritePoint} (hw : s.stream.writers = [(0, ⟨bytes, point⟩)]) :
    s.writeLeft D = s.pointLeft D point := by
  unfold writeLeft
  rw [hw]
  rfl

theorem writeLeft_of_nil (hw : s.stream.writers = []) : s.writeLeft D = 0 := by
  unfold writeLeft
  rw [hw]
  rfl

theorem writeLeft_congr (hw : s'.stream.writers = s.stream.writers) (hbuf : s'.buffer = s.buffer)
    (hown : s'.own = s.own) (hcalls : ∀ i, s.own = some i → s'.calls.find i = s.calls.find i) :
    s'.writeLeft D = s.writeLeft D := by
  have hpoint : ∀ point, s'.pointLeft D point = s.pointLeft D point := by
    intro point
    cases point with
    | entered => rw [pointLeft, pointLeft, hbuf]
    | ready =>
      unfold pointLeft
      rw [hown, hbuf]
      cases ho : s.own with
      | none => rfl
      | some i =>
        dsimp only
        rw [hcalls i ho]
    | refused | written | sleeping => rfl
  unfold writeLeft
  rw [hw]
  simp only [hpoint]

/-! ### The steps of the others -/

theorem asFar_client (ha : ∀ env, a ≠ .thread env) (hs : s.stepAudio D a = some (s', es)) :
    AsFar D s' s := by
  obtain ⟨p', fs, hstep, rfl, haudio⟩ := audioStep_of_step hs
  have hleft : p'.stream.left = s.audio.stream.left := Audio.FastPath.left_of_client ha hstep
  have hj := joined s.audio a
  generalize joint s.audio a = j at haudio hj
  cases haudio with
  | alone => exact ⟨hleft, writeLeft_congr rfl rfl rfl fun _ _ => rfl⟩
  | closes stream os hhal => exact ⟨hleft, writeLeft_congr (writers_of_closes hhal) rfl rfl fun _ _ => rfl⟩
  | calls | returns =>
    cases hj
    exact absurd rfl (ha _)

theorem PlaybackInv.keeps_hal (h : PlaybackInv D w tr s) {a : StreamSystem.Act χ}
    (ha : s.ofThread (.hal a) = false) (hs : s.stepHal D a = some (s', es)) : AsFar D s' s := by
  obtain ⟨stream, os, hj, hhal, rfl, rfl⟩ := stepHal_cases hs
  have hw := writerStep_of_hal h.hal.closed hj hhal
  generalize hwr : stream.writers = writers at hw
  generalize resultOf os = result at hw
  cases hw with
  | stays => exact ⟨rfl, writeLeft_congr hwr rfl rfl fun _ _ => rfl⟩
  | resumes | givesUp | sleeps | counts | wakes => cases ha

/-- **No step of another takes the thread further away** from the status. -/
theorem PlaybackInv.keeps (h : PlaybackInv D w tr s) {a : Act χ} (ha : s.ofThread a = false)
    (hs : s.step D a = some (s', es)) : AsFar D s' s := by
  cases a with
  | audio a => exact asFar_client (fun env he => by rw [he] at ha; cases ha) hs
  | hal a => exact h.keeps_hal ha hs
  | writeData => cases ha
  | begin buffer =>
    obtain ⟨rfl, rfl⟩ := Prod.mk.inj (Option.some.inj hs)
    refine ⟨rfl, writeLeft_congr rfl rfl rfl fun i hown => PcmCalls.find_begin ?_⟩
    rintro rfl
    exact h.own_ne hown
  | iterate i between =>
    obtain ⟨d, hfind, hs⟩ := Option.bind_eq_some_iff.1 hs
    have hown : (s.own == some i) = false := ha
    rw [hown] at hs
    obtain ⟨rfl, rfl⟩ := Prod.mk.inj (Option.some.inj hs)
    refine ⟨rfl, writeLeft_congr rfl rfl rfl fun k hk => PcmCalls.find_iterate ?_⟩
    rintro rfl
    exact beq_eq_false_iff_ne.1 hown hk
  | peer ring n =>
    obtain ⟨rfl, rfl⟩ := Prod.mk.inj (Option.some.inj hs)
    exact ⟨rfl, writeLeft_congr rfl rfl rfl fun _ _ => rfl⟩

/-! ### The steps of the thread -/

theorem PlaybackInv.lowers_audio (h : PlaybackInv D w tr s) (hin : s.audio.stream.inHand = true)
    {env : Audio.Env} (hs : s.stepAudio D (.thread env) = some (s', es)) :
    s'.audio.stream.left < s.audio.stream.left := by
  obtain ⟨p', fs, hstep, rfl, haudio⟩ := audioStep_of_step hs
  obtain ⟨p, os, hstep', hless, -⟩ := h.fast.progress hin env
  obtain ⟨rfl, -⟩ := Prod.mk.inj (Option.some.inj (hstep'.symm.trans hstep))
  have haudio' : s'.audio = p := by
    generalize joint s.audio (.thread env) = j at haudio
    cases haudio <;> rfl
  rw [haudio']
  exact hless

theorem PlaybackInv.lowers_hal (h : PlaybackInv D w tr s) {a : StreamSystem.Act χ}
    (ha : s.ofThread (.hal a) = true) (hs : s.stepHal D a = some (s', es)) : Nearer D s' s := by
  obtain ⟨stream, os, hj, hhal, rfl, rfl⟩ := stepHal_cases hs
  have hw := writerStep_of_hal h.hal.closed hj hhal
  obtain ⟨current, -, hst⟩ := h.stage
  generalize hwr : stream.writers = writers at hw
  refine .inr ⟨rfl, ?_⟩
  generalize resultOf os = result at hw
  cases hw with
  | stays _ hother => cases hother.symm.trans ha
  | resumes i w bytes point hi hp =>
    obtain ⟨rfl, rfl, -, hw, -, hown, -⟩ := hst.find hi
    rw [hw] at hwr
    rw [writeLeft_of_point hw, writeLeft_of_point hwr]
    rcases hp with rfl | rfl
    · show 1 < 5 + (D.formed s.buffer).length + kFmqSendTimeoutMs
      omega
    · refine lt_of_eq_of_lt (pointLeft_of_none hown) ?_
      show 4 + (D.formed s.buffer).length + kFmqSendTimeoutMs <
        5 + (D.formed s.buffer).length + kFmqSendTimeoutMs
      omega
  | givesUp i bytes out hst' hi | counts i nowUs bytes totalWritten hi | wakes i bytes lastWriteTimeUs hi =>
    obtain ⟨rfl, rfl, -, hw, -⟩ := hst.find hi
    rw [hw] at hwr
    rw [writeLeft_of_point hw, writeLeft_of_nil hwr]
    exact Nat.succ_pos _
  | sleeps i nowUs bytes lastWriteTimeUs hi =>
    obtain ⟨rfl, rfl, -, hw, -⟩ := hst.find hi
    rw [hw] at hwr
    rw [writeLeft_of_point hw, writeLeft_of_point hwr]
    exact Nat.lt_succ_self 1

/-- A step of the call of `out_write`: it has fewer to go, or `WriteData` returns. -/
theorem writeLeft_moves {left : ℕ} (hw : s.stream.writers = [(0, ⟨s.buffer.length, .ready⟩)])
    (hown : s.own = some i) (hleft : 2 < left)
    (hc : totalOf os = none → ∃ d, c.calls.find i = some d ∧
      3 + (d.buffer.length - d.total) + d.timeoutMs < left)
    (hs : s.moves D true (c, os) = some (s', es)) :
    s'.audio.stream.left = s.audio.stream.left ∧ s'.writeLeft D < left := by
  obtain ⟨rfl, hmoved⟩ := moved_of_moves hs
  cases hmoved with
  | alone htotal =>
    obtain ⟨d, hd, hless⟩ := hc (htotal rfl)
    have hw' : (s.setPcm c).stream.writers = [(0, ⟨s.buffer.length, .ready⟩)] := hw
    have hown' : (s.setPcm c).own = some i := hown
    refine ⟨rfl, ?_⟩
    rwa [writeLeft_of_point hw', pointLeft_of_some hown' hd]
  | returns n stream os' htotal hhal =>
    refine ⟨rfl, ?_⟩
    cases StreamSystem.effect_of_step hhal with
    | passes _ bytes accepted out hst hi =>
      have hw' : s.stream.writers.put 0 ⟨bytes, .written (out.writeData (D.counted n))⟩ =
          [(0, ⟨bytes, .written (out.writeData (D.counted n))⟩)] := by
        rw [hw]
        rfl
      rw [writeLeft_of_point hw']
      exact hleft

theorem begin_left (s : PcmCalls σ UInt8) (timeoutMs : ℕ) (buffer : List UInt8)
    (htotal : totalOf (s.begin timeoutMs (some buffer)).2 = none) :
    (s.begin timeoutMs (some buffer)).1.calls.find s.begun = some ⟨0, timeoutMs, buffer⟩ := by
  unfold PcmCalls.begin at htotal ⊢
  dsimp only at htotal ⊢
  split_ifs at htotal ⊢
  · cases htotal
  · exact Threads.find_put.trans (if_pos rfl)

/-- An iteration has moved something or waited, or the call returns. -/
theorem iterate_left {s : PcmCalls σ UInt8} {between : List (ℕ × ℕ)} {d : PcmCall UInt8}
    (hs : D.pcm.Software s.world.session) (hlt : d.total < d.buffer.length)
    (htotal : totalOf (s.iterate D.pcm (Endpoint.writer UInt8) kWritePollMs i d between).2 = none) :
    ∃ d', (s.iterate D.pcm (Endpoint.writer UInt8) kWritePollMs i d between).1.calls.find i = some d' ∧
      3 + (d'.buffer.length - d'.total) + d'.timeoutMs < 3 + (d.buffer.length - d.total) + d.timeoutMs := by
  have hit : PcmCalls.Iteration D.pcm (Endpoint.writer UInt8) kWritePollMs s i d
      (s.iterate D.pcm (Endpoint.writer UInt8) kWritePollMs i d between).1
      (s.iterate D.pcm (Endpoint.writer UInt8) kWritePollMs i d between).2 :=
    PcmCalls.iteration_of_iterate (P := D.pcm) (D := Endpoint.writer UInt8) (s := s) (c := d) hs hlt between
  generalize s.iterate D.pcm (Endpoint.writer UInt8) kWritePollMs i d between = r at hit htotal
  obtain ⟨c, os⟩ := r
  dsimp only at hit htotal ⊢
  cases hit with
  | stops | completes => cases htotal
  | waits w hw ht =>
    refine ⟨_, Threads.find_put.trans (if_pos rfl), ?_⟩
    have hpoll : 0 < kWritePollMs := by decide
    dsimp only
    omega
  | moves w hw ring count buffer f hpos hle hm =>
    refine ⟨_, Threads.find_put.trans (if_pos rfl), ?_⟩
    have hlen : buffer.length = d.buffer.length := congrArg List.length (Endpoint.buffer_writer hm)
    dsimp only
    omega

theorem PlaybackInv.lowers_iterate (h : PlaybackInv D w tr s) {between : List (ℕ × ℕ)} {d : PcmCall UInt8}
    (hfind : s.calls.find i = some d) (hown : s.own = some i)
    (hs : s.moves D true
      (s.pcm.iterate D.pcm (Endpoint.writer UInt8) kWritePollMs i d between) = some (s', es)) :
    Nearer D s' s := by
  obtain ⟨current, -, hst⟩ := h.stage
  obtain ⟨-, hw, -⟩ := hst.of_own hown
  refine .inr ?_
  rw [writeLeft_of_point hw, pointLeft_of_some hown hfind]
  exact writeLeft_moves hw hown (by omega)
    (iterate_left h.hal.software (h.calls.underWay hfind).1) hs

theorem PlaybackInv.lowers_writeData (h : PlaybackInv D w tr s)
    (hs : s.stepWriteData D = some (s', es)) : Nearer D s' s := by
  obtain ⟨bytes, hfind, hown, hs⟩ := h.writeData_cases hs
  obtain ⟨current, -, hstage⟩ := h.stage
  obtain ⟨-, -, -, hw, -⟩ := hstage.find hfind
  refine .inr ?_
  rw [writeLeft_of_point hw, pointLeft_of_none hown]
  have hbegin := begin_left s.pcm kFmqSendTimeoutMs (D.formed s.buffer)
  generalize s.pcm.begin kFmqSendTimeoutMs (some (D.formed s.buffer)) = r at hs hbegin
  obtain ⟨c, os⟩ := r
  refine writeLeft_moves (s := { s with own := some s.begun }) hw rfl (by omega) (fun htotal => ?_) hs
  refine ⟨_, hbegin htotal, ?_⟩
  dsimp only
  omega

/-- **A step of the thread takes it nearer** to the status. -/
theorem PlaybackInv.lowers (h : PlaybackInv D w tr s) (hin : s.audio.stream.inHand = true) {a : Act χ}
    (ha : s.ofThread a = true) (hs : s.step D a = some (s', es)) : Nearer D s' s := by
  cases a with
  | audio a =>
    cases a with
    | thread env => exact .inl (h.lowers_audio hin hs)
    | prepare | putCommand | wake | putData | takeData | takeStatus | close | closeWake | closeStream => cases ha
  | hal a => exact h.lowers_hal ha hs
  | writeData => exact h.lowers_writeData hs
  | begin | peer => cases ha
  | iterate i between =>
    obtain ⟨d, hfind, hs⟩ := Option.bind_eq_some_iff.1 hs
    have hown : (s.own == some i) = true := ha
    rw [hown] at hs
    exact h.lowers_iterate hfind (beq_iff_eq.1 hown) hs

/-! ### The thread is never stuck -/

variable (D) in
/-- The thread can make a step. -/
def CanStep (s : Playback σ) : Prop :=
  ∃ a : Act χ, s.ofThread a = true ∧ ∃ s' es, s.step D a = some (s', es)

theorem PlaybackInv.stream_of_point (h : PlaybackInv D w tr s) {x : ℕ × Writer}
    (hw : s.stream.writers = [x]) : ∃ out, s.stream.stream = some out := by
  cases hst : s.stream.stream with
  | some out => exact ⟨out, rfl⟩
  | none =>
    rw [h.hal.closed hst] at hw
    cases hw

theorem canStep_hal {a : StreamSystem.Act χ} (ha : ofWriter a = true)
    (h : ∃ stream os, halStep D s.stream a = some (stream, os)) : CanStep D s := by
  obtain ⟨stream, os, hhal⟩ := h
  have hj : isJoint a = false := by
    cases a with
    | resume | giveUp | count | wake => rfl
    | stack | adevOpen | adevClose | call | write | writeData => cases ha
  refine ⟨.hal a, ha, ({ s with stream := stream, result := (resultOf os).or s.result }), s.drops D a, ?_⟩
  show s.stepHal D a = _
  unfold stepHal
  rw [hj, if_neg Bool.false_ne_true, hhal]
  rfl

theorem writeData_enabled {bytes n : ℕ} {out : OutStream} (hst : s.stream.stream = some out)
    (hw : s.stream.writers = [(0, ⟨bytes, .ready⟩)]) (hn : n ≤ bytes) :
    ∃ r, halStep D s.stream (.writeData 0 n) = some r := by
  simp only [halStep, StreamSystem.step, hst, StreamSystem.stepWriter, hw, Threads.find_cons, if_true,
    if_pos hn]
  exact ⟨_, rfl⟩

theorem moves_enabled {tr : List (PcmCalls.Event UInt8)} {out : OutStream}
    (hst : s.stream.stream = some out) (hw : s.stream.writers = [(0, ⟨s.buffer.length, .ready⟩)])
    (hc' : CallsOk D w (tr ++ os) c) (hbegun : .begun i (D.formed s.buffer) ∈ tr ++ os)
    (hos : ∀ e ∈ os, e.call = i) : ∃ s' es, s.moves D true (c, os) = some (s', es) := by
  unfold moves
  simp only [if_true]
  cases htotal : totalOf os with
  | none => exact ⟨_, _, rfl⟩
  | some n =>
    obtain ⟨k, b, hr⟩ := mem_of_totalOf htotal
    obtain rfl : k = i := hos _ hr
    obtain ⟨-, b', hb', -⟩ := hc'.returned (List.mem_append_right _ hr)
    obtain rfl : b' = D.formed s.buffer := hc'.once hb'.begun hbegun
    have hhal : ∃ r, halStep D s.stream (.writeData 0 (D.counted n)) = some r :=
      writeData_enabled hst hw (D.counted_le hb'.total_le)
    obtain ⟨r, hr⟩ := hhal
    have hhal' : halStep D (s.setPcm c).stream (.writeData 0 (D.counted n)) = some r := hr
    dsimp only
    rw [hhal']
    exact ⟨_, _, rfl⟩

theorem resume_enabled {bytes : ℕ} {out : OutStream} (hst : s.stream.stream = some out)
    (hw : s.stream.writers = [(0, ⟨bytes, .entered⟩)]) :
    ∃ stream os, halStep D s.stream (.resume 0 undisturbed) = some (stream, os) := by
  have hfits : ∀ req, (undisturbed : Around χ).fits D.control s.stream.session req = true := by
    intro req
    cases req with
    | none => rfl
    | some req => exact Bool.or_true _
  simp only [halStep, StreamSystem.step, hst, hw, Threads.find_cons, if_true, StreamSystem.perform, hfits]
  exact ⟨_, _, rfl⟩

theorem PlaybackInv.canStep_writeData (h : PlaybackInv D w tr s) {out : OutStream}
    (hopen : s.stream.stream = some out) (hw : s.stream.writers = [(0, ⟨s.buffer.length, .ready⟩)])
    (hown : s.own = none) : CanStep D s := by
  refine ⟨.writeData, rfl, ?_⟩
  show ∃ s' es, s.stepWriteData D = some (s', es)
  unfold stepWriteData
  rw [hopen, hw, hown]
  show ∃ s' es, (if !out.bluetoothOutput.inUse then _ else _) = some (s', es)
  rw [h.hal.opened.inUse out hopen, Bool.not_true, if_neg Bool.false_ne_true]
  have hc' := h.calls.begin (fun _ => rfl) (some (D.formed s.buffer))
  have hos : ∀ e ∈ (s.pcm.begin kFmqSendTimeoutMs (some (D.formed s.buffer))).2, e.call = s.begun :=
    PcmCalls.call_of_begin
  have hbegun : .begun s.begun (D.formed s.buffer) ∈
      (s.pcm.begin kFmqSendTimeoutMs (some (D.formed s.buffer))).2 := PcmCalls.begun_mem_begin
  generalize s.pcm.begin kFmqSendTimeoutMs (some (D.formed s.buffer)) = r at hc' hos hbegun
  exact moves_enabled (s := { s with own := some s.begun }) hopen hw hc' (List.mem_append_right _ hbegun) hos

/-- `OutWritePcmData` can make an iteration, whatever comes between its steps. -/
theorem PlaybackInv.canStep_iterate (h : PlaybackInv D w tr s) {out : OutStream} {d : PcmCall UInt8}
    (hopen : s.stream.stream = some out) (hw : s.stream.writers = [(0, ⟨s.buffer.length, .ready⟩)])
    (hown : s.own = some i) (hd : s.calls.find i = some d)
    (hbegun : .begun i (D.formed s.buffer) ∈ tr.filterMap Event.pcm?)
    (between : List (ℕ × ℕ)) : CanStep D s := by
  refine ⟨.iterate i between, beq_iff_eq.2 hown, ?_⟩
  have hc' := h.callsOk_iterate hd between
  have hos : ∀ e ∈ (s.pcm.iterate D.pcm (Endpoint.writer UInt8) kWritePollMs i d between).2, e.call = i :=
    PcmCalls.call_of_iterate
  show ∃ s' es, ((s.calls.find i).bind fun c => s.moves D (s.own == some i)
    (s.pcm.iterate D.pcm (Endpoint.writer UInt8) kWritePollMs i c between)) = some (s', es)
  rw [hd, Option.bind_some, beq_iff_eq.2 hown]
  generalize s.pcm.iterate D.pcm (Endpoint.writer UInt8) kWritePollMs i d between = r at hc' hos
  exact moves_enabled hopen hw hc' (List.mem_append_left _ hbegun) hos

theorem PlaybackInv.canStep_of_point (h : PlaybackInv D w tr s)
    (hst : Stage D (tr.filterMap Event.pcm?) s current) {point : WritePoint}
    (hw : s.stream.writers = [(0, ⟨s.buffer.length, point⟩)]) : CanStep D s := by
  obtain ⟨out, hopen⟩ := h.stream_of_point hw
  have hfind : s.stream.writers.find 0 = some ⟨s.buffer.length, point⟩ := by
    rw [hw]
    rfl
  obtain ⟨-, -, -, -, -, hpt⟩ := hst.find hfind
  cases point with
  | entered => exact canStep_hal rfl (resume_enabled hopen hw)
  | refused =>
    refine canStep_hal (a := .giveUp 0) rfl ?_
    simp only [halStep, StreamSystem.step, hopen, StreamSystem.stepWriter, hfind]
    exact ⟨_, _, rfl⟩
  | written n =>
    refine canStep_hal (a := .count 0 0) rfl ?_
    simp only [halStep, StreamSystem.step, hopen, StreamSystem.stepWriter, hfind]
    split_ifs <;> exact ⟨_, _, rfl⟩
  | sleeping t =>
    refine canStep_hal (a := .wake 0) rfl ?_
    simp only [halStep, StreamSystem.step, hopen, StreamSystem.stepWriter, hfind]
    exact ⟨_, _, rfl⟩
  | ready =>
    rcases hpt with ⟨hown, -⟩ | ⟨i, d, hown, hd, hbegun, -⟩
    · exact h.canStep_writeData hopen hw hown
    · exact h.canStep_iterate hopen hw hown hd hbegun []

/-- A step of the thread in `audio/hal` can be made if the legacy HAL goes along. -/
theorem PlaybackInv.canStep_audio (h : PlaybackInv D w tr s) (env : Audio.Env)
    (hin : s.audio.stream.inHand = true)
    (hserving : ∀ command, s.audio.stream.thread = some (.serving command) →
      ∀ bytes, ∃ r, halStep D s.stream (.write 0 bytes) = some r)
    (hwrite : s.audio.stream.thread = some (.inHal .write) →
      s.result.map (Nat.cast : ℕ → ℤ) = some env.answer.result) : CanStep D s := by
  obtain ⟨p', os, hstep, -⟩ := h.fast.progress hin env
  refine ⟨.audio (.thread env), rfl, ?_⟩
  show ∃ s' es, s.stepAudio D (.thread env) = some (s', es)
  unfold stepAudio
  rw [hstep, Option.bind_some]
  have hj := joined s.audio (.thread env)
  generalize joint s.audio (.thread env) = j at hj
  cases hj with
  | alone => exact ⟨_, _, rfl⟩
  | calls _ command buffer hpc =>
    obtain ⟨r, hr⟩ := hserving command hpc buffer.length
    dsimp only
    rw [hr]
    exact ⟨_, _, rfl⟩
  | returns _ result hresult hpc =>
    dsimp only
    rw [if_pos (hresult ▸ hwrite hpc)]
    exact ⟨_, _, rfl⟩

theorem write_enabled {bytes : ℕ} {out : OutStream} (hst : s.stream.stream = some out)
    (hw : s.stream.writers = []) : ∃ r, halStep D s.stream (.write 0 bytes) = some r := by
  have hfind : s.stream.writers.find 0 = none := by
    rw [hw]
    rfl
  simp only [halStep, StreamSystem.step, hst, StreamSystem.stepWriter, hfind]
  exact ⟨_, rfl⟩

/-- **The thread is never stuck** with a command in hand: one of its steps can be made, as long as the stream
that it plays on is open. -/
theorem PlaybackInv.enabled (h : PlaybackInv D w tr s) (hin : s.audio.stream.inHand = true)
    (hopen : s.stream.stream.isSome = true) : CanStep D s := by
  obtain ⟨out, hopen⟩ := Option.isSome_iff_exists.1 hopen
  obtain ⟨pc, hpc, hpcin⟩ := (Option.any_eq_true _ _).1 hin
  obtain ⟨current, -, hst⟩ := h.stage
  cases pc with
  | head | waiting | woken | exited => cases hpcin
  | serving command =>
    have hw : s.stream.writers = [] := (hst.elim_away (by rw [hpc]; exact fun he => by cases he)
      (by rw [hpc]; exact fun he => by cases he)).1
    exact h.canStep_audio (Audio.FastPath.answers 0 []) hin (fun _ _ _ => write_enabled hopen hw)
      fun he => by cases hpc.symm.trans he
  | replying =>
    exact h.canStep_audio (Audio.FastPath.answers 0 []) hin (fun _ he => by cases hpc.symm.trans he)
      fun he => by cases hpc.symm.trans he
  | inHal command =>
    by_cases hwrite : command = .write
    · subst hwrite
      cases hst with
      | away hth => exact absurd hpc hth
      | replying sv hth => cases hpc.symm.trans hth
      | inside point current hin' hw hres hpt =>
        exact h.canStep_of_point (.inside point current hin' hw hres hpt) hw
      | returned n hin' hw hown hres =>
        -- the thread returns with the number that `out_write` has returned
        refine h.canStep_audio (Audio.FastPath.answers n []) hin (fun _ he => by cases hpc.symm.trans he) ?_
        intro
        rw [hres]
        rfl
    · refine h.canStep_audio (Audio.FastPath.answers 0 []) hin (fun _ he => by cases hpc.symm.trans he) ?_
      intro he
      exact absurd (Audio.Pc.inHal.inj (Option.some.inj (hpc.symm.trans he))) hwrite

/-! ### The command in hand is answered -/

theorem open_step {s s' : StreamSystem σ} {a : StreamSystem.Act χ} {os : List StreamSystem.Event}
    (ha : a ≠ .adevClose) (hs : halStep D s a = some (s', os)) (hopen : s.stream.isSome = true) :
    s'.stream.isSome = true := by
  cases StreamSystem.effect_of_step hs with
  | stack a =>
    unfold StreamSystem.hear
    simpa using hopen
  | openFails config | opens config =>
    obtain ⟨out, hst⟩ := Option.isSome_iff_exists.1 hopen
    simp [halStep, StreamSystem.step, hst, StreamSystem.stepWriter] at hs
  | closes => exact absurd rfl ha
  | performs op w out r hst hr | resumes i w out bytes r hst hi hr =>
    unfold StreamSystem.perform at hr
    split_ifs at hr
    obtain rfl := Option.some.inj hr
    rfl
  | writes | givesUp | passes => exact hopen
  | sleeps | counts | wakes => rfl

theorem open_moves {own : Bool} (hs : s.moves D own (c, os) = some (s', es))
    (hopen : s.stream.stream.isSome = true) : s'.stream.stream.isSome = true := by
  cases (moved_of_moves hs).2 with
  | alone => exact hopen
  | returns n stream os' _ hhal => exact open_step (fun he => by cases he) hhal hopen

theorem stays_open {a : Act χ} (ha : a ≠ .audio .closeStream) (hs : s.step D a = some (s', es))
    (hopen : s.stream.stream.isSome = true) : s'.stream.stream.isSome = true := by
  cases a with
  | audio a =>
    obtain ⟨p', fs, -, -, haudio⟩ := audioStep_of_step hs
    have hj := joined s.audio a
    generalize joint s.audio a = j at haudio hj
    cases haudio with
    | alone | returns => exact hopen
    | calls buffer stream os hhal => exact open_step (fun he => by cases he) hhal hopen
    | closes =>
      cases hj
      exact absurd rfl ha
  | hal a =>
    obtain ⟨stream, os, hj, hhal, rfl, rfl⟩ := stepHal_cases hs
    refine open_step ?_ hhal hopen
    rintro rfl
    cases hj
  | writeData =>
    obtain ⟨out, bytes, -, -, -, ⟨-, stream, os, hhal, rfl⟩ | ⟨-, hs⟩⟩ := stepWriteData_cases hs
    · exact open_step (fun he => by cases he) hhal hopen
    · exact open_moves hs hopen
  | begin buffer =>
    have hs : s.moves D false (s.pcm.begin kFmqSendTimeoutMs buffer) = some (s', es) := hs
    generalize s.pcm.begin kFmqSendTimeoutMs buffer = r at hs
    exact open_moves hs hopen
  | iterate i between =>
    obtain ⟨d, -, hs⟩ := Option.bind_eq_some_iff.1 hs
    generalize s.pcm.iterate D.pcm (Endpoint.writer UInt8) kWritePollMs i d between = r at hs
    exact open_moves hs hopen
  | peer ring n =>
    obtain ⟨rfl, -⟩ := Prod.mk.inj (Option.some.inj hs)
    exact hopen

variable (D) in
theorem wellFounded_nearer : WellFounded (Nearer D) := by
  refine Subrelation.wf (r := InvImage _ fun s : Playback σ => (s.audio.stream.left, s.writeLeft D)) ?_
    (InvImage.wf _ (Prod.lex Nat.lt_wfRel Nat.lt_wfRel).wf)
  intro s s' hless
  exact Prod.lex_def.2 hless

variable (D) in
/-- A step of the thread. -/
def ThreadStep (s s' : Playback σ) : Prop :=
  ∃ (a : Act χ) (es : List Event), s.ofThread a = true ∧ s.step D a = some (s', es)

theorem PlaybackInv.answers (h : PlaybackInv D w tr s) (hopen : s.stream.stream.isSome = true) :
    ∃ s', Relation.ReflTransGen (ThreadStep D) s s' ∧ s'.audio.stream.inHand = false := by
  induction s using (wellFounded_nearer D).induction generalizing tr with
  | _ s ih =>
  cases hin : s.audio.stream.inHand with
  | false => exact ⟨s, .refl, hin⟩
  | true =>
    obtain ⟨a, ha, s₁, es, hs⟩ := h.enabled hin hopen
    have hclose : a ≠ .audio .closeStream := by
      rintro rfl
      cases ha
    obtain ⟨s', hsteps, hdone⟩ := ih s₁ (h.lowers hin ha hs) (h.step hs) (stays_open hclose hs hopen)
    exact ⟨s', .head ⟨a, es, ha, hs⟩ hsteps, hdone⟩

/-! ### In every fair run -/

variable (D) in
/-- A run without end in which the thread does not wait forever with a step that it can make. -/
structure Forever (states : ℕ → Playback σ) (acts : ℕ → Act χ) : Prop where
  step : ∀ n, ∃ es, (states n).step D (acts n) = some (states (n + 1), es)
  fair : ∀ n, ∃ m, n ≤ m ∧ (CanStep D (states m) → (states m).ofThread (acts m) = true)

variable {states : ℕ → Playback σ} {acts : ℕ → Act χ}

theorem Forever.shift (hrun : Forever D states acts) (n : ℕ) :
    Forever D (fun k => states (n + k)) fun k => acts (n + k) where
  step k := hrun.step (n + k)
  fair k := by
    obtain ⟨m, hle, hm⟩ := hrun.fair (n + k)
    obtain ⟨d, rfl⟩ := Nat.exists_eq_add_of_le hle
    refine ⟨k + d, Nat.le_add_right k d, ?_⟩
    rwa [← Nat.add_assoc]

theorem Forever.inv (hrun : Forever D states acts) (h : PlaybackInv D w tr (states 0)) (n : ℕ) :
    ∃ tr, PlaybackInv D w tr (states n) := by
  induction n with
  | zero => exact ⟨tr, h⟩
  | succ n ih =>
    obtain ⟨tr, hn⟩ := ih
    obtain ⟨es, hs⟩ := hrun.step n
    exact ⟨tr ++ es, hn.step hs⟩

theorem Forever.opened (hrun : Forever D states acts) (hclose : ∀ n, acts n ≠ .audio .closeStream)
    (hopen : (states 0).stream.stream.isSome = true) (n : ℕ) : (states n).stream.stream.isSome = true := by
  induction n with
  | zero => exact hopen
  | succ n ih =>
    obtain ⟨es, hs⟩ := hrun.step n
    exact stays_open (hclose n) hs ih

/-- Up to the first step of the thread it is as far from the status. -/
theorem Forever.asFar (hrun : Forever D states acts) (h : PlaybackInv D w tr (states 0)) {m : ℕ}
    (hother : ∀ k < m, (states k).ofThread (acts k) = false) : AsFar D (states m) (states 0) := by
  induction m with
  | zero => exact ⟨rfl, rfl⟩
  | succ m ih =>
    obtain ⟨hleft, hwrite⟩ := ih fun k hk => hother k (Nat.lt_succ_of_lt hk)
    obtain ⟨tr, hm⟩ := hrun.inv h m
    obtain ⟨es, hs⟩ := hrun.step m
    obtain ⟨hleft', hwrite'⟩ := hm.keeps (hother m (Nat.lt_succ_self m)) hs
    exact ⟨hleft'.trans hleft, hwrite'.trans hwrite⟩

theorem Nearer.of_asFar {s₁ s₂ s₃ : Playback σ} (h : Nearer D s₁ s₂) (hfar : AsFar D s₂ s₃) :
    Nearer D s₁ s₃ := by
  obtain ⟨hleft, hwrite⟩ := hfar
  unfold Nearer
  rwa [← hleft, ← hwrite]

/-- **In every fair run** the status is written, unless the client closes the stream. -/
theorem PlaybackInv.eventually (h : PlaybackInv D w tr s) (hopen : s.stream.stream.isSome = true)
    (hrun : Forever D states acts) (h0 : states 0 = s) (hclose : ∀ n, acts n ≠ .audio .closeStream) :
    ∃ n, (states n).audio.stream.inHand = false := by
  induction s using (wellFounded_nearer D).induction generalizing tr states acts with
  | _ s ih =>
  subst h0
  by_contra hnone
  have hin : ∀ n, (states n).audio.stream.inHand = true := by
    simpa using hnone
  -- the thread can always make a step, so one is made
  have hthread : ∃ m, (states m).ofThread (acts m) = true := by
    obtain ⟨m, -, hm⟩ := hrun.fair 0
    obtain ⟨tr, hinv⟩ := hrun.inv h m
    exact ⟨m, hm (hinv.enabled (hin m) (hrun.opened hclose hopen m))⟩
  obtain ⟨m, hm, hfirst⟩ : ∃ m, (states m).ofThread (acts m) = true ∧
      ∀ k < m, (states k).ofThread (acts k) = false :=
    ⟨Nat.find hthread, Nat.find_spec hthread, fun k hk => eq_false_of_ne_true (Nat.find_min hthread hk)⟩
  obtain ⟨tr', hinv⟩ := hrun.inv h m
  obtain ⟨es, hs⟩ := hrun.step m
  obtain ⟨n, hn⟩ := ih (states (m + 1)) ((hinv.lowers (hin m) hm hs).of_asFar (hrun.asFar h hfirst))
    (hinv.step hs) (hrun.opened hclose hopen (m + 1)) (hrun.shift (m + 1)) rfl fun n => hclose (m + 1 + n)
  exact Bool.false_ne_true (hn.symm.trans (hin (m + 1 + n)))

variable (D) in
/-- With a command in hand and the stream open, the thread can make a step; the stream stays open until the
client closes it; each step of the thread takes it nearer to the status, and none of another takes it further
away. Its own steps end with the status, and so does every fair run. -/
structure Answered (s : Playback σ) : Prop where
  enabled : s.audio.stream.inHand = true → s.stream.stream.isSome = true → CanStep D s
  staysOpen : ∀ a s' es, a ≠ .audio .closeStream → s.step D a = some (s', es) →
    s.stream.stream.isSome = true → s'.stream.stream.isSome = true
  lowers : ∀ a s' es, s.audio.stream.inHand = true → s.ofThread a = true → s.step D a = some (s', es) →
    Nearer D s' s
  keeps : ∀ a s' es, s.ofThread a = false → s.step D a = some (s', es) → AsFar D s' s
  answers : s.stream.stream.isSome = true →
    ∃ s', Relation.ReflTransGen (ThreadStep D) s s' ∧ s'.audio.stream.inHand = false
  eventually : s.stream.stream.isSome = true → ∀ states acts, Forever D states acts → states 0 = s →
    (∀ n, acts n ≠ .audio .closeStream) → ∃ n, (states n).audio.stream.inHand = false

theorem PlaybackInv.answered (h : PlaybackInv D w tr s) : Answered D s where
  enabled := h.enabled
  staysOpen _ _ _ ha hs := stays_open ha hs
  lowers _ _ _ hin ha hs := h.lowers hin ha hs
  keeps _ _ _ ha hs := h.keeps ha hs
  answers := h.answers
  eventually hopen _ _ hrun h0 hclose := h.eventually hopen hrun h0 hclose

end

end Playback

/-- **Each command of the client is answered.** Whatever the stack, the framework and the other streams do,
`WriteThread` is never stuck with a command in hand, comes nearer to its status with each of its steps, and
writes it in every fair run in which the stream is not closed. -/
theorem command_is_answered {κ : Tag → Type} (isA2dp isStereoToMono : Bool)
    (downmix : ℕ → List UInt8 → ℕ → UInt8) :
    (∀ w : PcmWorld (BluetoothAudioSession κ) UInt8, w.session.sessionType.isSoftware = true →
      (∀ tr s, (Playback.lts (.aidl κ isA2dp isStereoToMono downmix) w).Reach tr s →
        Playback.Answered (.aidl κ isA2dp isStereoToMono downmix) s) ∧
      ∀ tr s, (Playback.lts (.hidlOverAidl κ isA2dp isStereoToMono downmix) w).Reach tr s →
        Playback.Answered (.hidlOverAidl κ isA2dp isStereoToMono downmix) s) ∧
    ∀ w : PcmWorld Hidl.BluetoothAudioSession UInt8, w.session.sessionType.isSoftware = true →
      ∀ tr s, (Playback.lts (.hidl isA2dp isStereoToMono downmix) w).Reach tr s →
        Playback.Answered (.hidl isA2dp isStereoToMono downmix) s :=
  ⟨fun _ hw => ⟨fun _ _ h => (Playback.playbackInv_run hw h).answered,
    fun _ _ h => (Playback.playbackInv_run hw h).answered⟩,
    fun _ hw _ _ h => (Playback.playbackInv_run hw h).answered⟩

/-- The queue is full, with a byte of the command in hand to go. -/
def playsHalf : List (Playback.Act { c : BluetoothAudioSession.Call NoPayload // c.ofStack = true }) :=
  playsAndDrops.take 12

theorem command_is_answered_playsHalf :
    ∃ tr s, (Playback.lts threeBytesDevice threeBytes).Reach tr s ∧
      (s.audio.stream.inHand = true ∧ s.stream.stream.isSome = true ∧ (s.rings 0).stream = [1, 2, 3]) ∧
      Playback.Answered threeBytesDevice s := by
  obtain ⟨tr, s, h, hp⟩ := Lts.exists_run (M := Playback.lts threeBytesDevice threeBytes)
    (C := fun _ _ => True) (P := fun _ s => s.audio.stream.inHand = true ∧
      s.stream.stream.isSome = true ∧ (s.rings 0).stream = [1, 2, 3])
    playsHalf (by decide)
  exact ⟨tr, s, h, hp, ((command_is_answered true false fun _ _ _ => 0).1 threeBytes rfl).1 tr s h⟩

end TrebleDoze.Bluetooth
