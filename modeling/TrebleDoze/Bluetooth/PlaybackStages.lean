import TrebleDoze.Bluetooth.Playback

/-!
# Where the audio in hand is

`Stage` says how far `WriteThread` is with a write, from the command that it has read to the status that it
writes, and how much of the audio has been disposed of that the client has not been told of.

* `Stage.hal`: the legacy HAL takes the write from one point of `out_write` to the next;
* `Stage.own`, `Stage.others`: the data path, for the call of `out_write` and for those of other streams;
* `Stage.thread`, `Stage.client`: the stream of `audio/hal`.
-/

namespace TrebleDoze.Bluetooth

open TrebleDoze.Lib
open Audio.StreamOut (WriteCommand writeThread)

namespace Playback

section

variable {σ χ ψ : Type} (D : PlaybackDevice σ χ ψ)

/-- The audio of an event that has been enqueued for the stream, or dropped. -/
def Event.disposed : Event → List UInt8
  | pcm true e => e.chunk
  | dropped bytes => bytes
  | _ => []

/-- The audio that an event tells the client has been written. -/
def Event.acknowledged : Event → List UInt8
  | audio (.replied (some sv) status) => D.acknowledged sv status
  | _ => []

/-- The event, if it is of the stream of `audio/hal`. -/
def Event.audio? : Event → Option (Audio.FastEvent WriteCommand)
  | audio e => some e
  | _ => none

/-- The event, if it is of the data path. -/
def Event.pcm? : Event → Option (PcmCalls.Event UInt8)
  | pcm _ e => some e
  | _ => none

/-- `WriteThread` is in `out_write`, with the audio it has taken from the data queue. -/
def InWrite (s : Playback σ) : Prop :=
  s.audio.stream.thread = some (.inHal .write) ∧
    ∃ sv, s.audio.service = some sv ∧ sv.command = .write ∧ sv.taken = s.buffer

/-- What of the buffer has been disposed of at a point of `out_write`. -/
def AtPoint (tr : List (PcmCalls.Event UInt8)) (s : Playback σ) (current : List UInt8) : WritePoint → Prop
  | .entered | .refused | .sleeping _ => s.own = none ∧ current = []
  | .ready => (s.own = none ∧ current = []) ∨ ∃ i c, s.own = some i ∧ s.calls.find i = some c ∧
      .begun i (D.formed s.buffer) ∈ tr ∧ current = PcmCalls.chunksBy i tr
  | .written n => s.own = none ∧ ∃ k, k ≤ (D.formed s.buffer).length ∧ n = D.counted k ∧
      current = (D.formed s.buffer).take k

/-- How far `WriteThread` is with a write, and what has been disposed of that the client is not yet told
of. -/
inductive Stage (tr : List (PcmCalls.Event UInt8)) (s : Playback σ) : List UInt8 → Prop
  | away (hth : s.audio.stream.thread ≠ some (.inHal .write))
      (hreply : s.audio.stream.thread ≠ some .replying) (hw : s.stream.writers = []) (hown : s.own = none)
      (hres : s.result = none) : Stage tr s []
  | replying (sv : Audio.Service WriteCommand) (hth : s.audio.stream.thread = some .replying)
      (hsv : s.audio.service = some sv) (hw : s.stream.writers = []) (hown : s.own = none)
      (hres : s.result = none) : Stage tr s (D.acknowledged sv s.audio.stream.mStatus)
  | inside (point : WritePoint) (current : List UInt8) (hin : s.InWrite)
      (hw : s.stream.writers = [(0, ⟨s.buffer.length, point⟩)]) (hres : s.result = none)
      (hpt : s.AtPoint D tr current point) : Stage tr s current
  | returned (n : ℕ) (hin : s.InWrite) (hw : s.stream.writers = []) (hown : s.own = none)
      (hres : s.result = some n) : Stage tr s ((D.formed s.buffer).take (D.accepted n))

end

section

variable {σ χ ψ : Type} {D : PlaybackDevice σ χ ψ} {tr : List (PcmCalls.Event UInt8)} {s s' : Playback σ}
  {current : List UInt8}

theorem Stage.congr (h : Stage D tr s current)
    (hth : s'.audio.stream.thread = s.audio.stream.thread ∨
      s.audio.stream.thread = none ∧ s'.audio.stream.thread = some .head)
    (hsv : s'.audio.service = s.audio.service) (hst : s'.audio.stream.mStatus = s.audio.stream.mStatus)
    (hw : s'.stream.writers = s.stream.writers) (hcalls : s'.calls = s.calls) (hbuf : s'.buffer = s.buffer)
    (hown : s'.own = s.own) (hres : s'.result = s.result) : Stage D tr s' current := by
  have hsame : ∀ pc, s.audio.stream.thread = some pc → s'.audio.stream.thread = some pc := by
    intro pc hpc
    rcases hth with hth | ⟨hnone, -⟩
    · exact hth.trans hpc
    · cases hnone.symm.trans hpc
  have hin : s.InWrite → s'.InWrite := by
    rintro ⟨hthread, sv, hservice, hcommand, htaken⟩
    exact ⟨hsame _ hthread, sv, hsv.trans hservice, hcommand, htaken.trans hbuf.symm⟩
  cases h with
  | away hth' hreply hw' hown' hres' =>
    refine .away ?_ ?_ (hw.trans hw') (hown.trans hown') (hres.trans hres')
    · rcases hth with hth | ⟨-, hhead⟩
      · rwa [hth]
      · rw [hhead]
        exact fun he => by cases he
    · rcases hth with hth | ⟨-, hhead⟩
      · rwa [hth]
      · rw [hhead]
        exact fun he => by cases he
  | replying sv hth' hsv' hw' hown' hres' =>
    rw [← hst]
    exact .replying sv (hsame _ hth') (hsv.trans hsv') (hw.trans hw') (hown.trans hown') (hres.trans hres')
  | inside point current hin' hw' hres' hpt =>
    refine .inside point current (hin hin') ?_ (hres.trans hres') ?_
    · rw [hbuf]
      exact hw.trans hw'
    · unfold AtPoint at hpt ⊢
      rwa [hown, hcalls, hbuf]
  | returned n hin' hw' hown' hres' =>
    rw [← hbuf]
    exact .returned n (hin hin') (hw.trans hw') (hown.trans hown') (hres.trans hres')

theorem Stage.find (h : Stage D tr s current) {i bytes : ℕ} {point : WritePoint}
    (hi : s.stream.writers.find i = some ⟨bytes, point⟩) :
    i = 0 ∧ bytes = s.buffer.length ∧ s.InWrite ∧ s.stream.writers = [(0, ⟨s.buffer.length, point⟩)] ∧
      s.result = none ∧ s.AtPoint D tr current point := by
  cases h with
  | away _ _ hw | replying _ _ _ hw | returned _ _ hw =>
    rw [hw] at hi
    cases hi
  | inside point' current hin hw hres hpt =>
    rw [hw, Threads.find_cons] at hi
    split_ifs at hi with h0
    · obtain ⟨rfl, rfl⟩ := Writer.mk.inj (Option.some.inj hi)
      exact ⟨h0, rfl, hin, hw, hres, hpt⟩
    · cases hi

/-! ### The steps of the legacy HAL -/

/-- What a write that is given up has disposed of is what it returns. -/
theorem disposed_drops {i : ℕ} {out : OutStream} (hst : s.stream.stream = some out) :
    (s.drops D (.giveUp i : StreamSystem.Act χ)).flatMap Event.disposed =
      (D.formed s.buffer).take (D.accepted (out.dropWrite s.buffer.length)) := by
  unfold drops OutStream.dropWrite
  rw [hst]
  dsimp only
  split_ifs
  · rw [List.take_of_length_le (D.length_formed_le s.buffer)]
    exact List.append_nil _
  · rw [D.accepted_zero]
    rfl

theorem drops_of_other {a : StreamSystem.Act χ} (ha : ofWriter a = false) : s.drops D a = [] := by
  cases a with
  | giveUp i => cases ha
  | stack | adevOpen | adevClose | call | write | resume | writeData | count | wake => rfl

/-- A step of the legacy HAL takes the write from one point to the next. -/
theorem Stage.hal (h : Stage D tr s current) {a : StreamSystem.Act χ} {stream : StreamSystem σ}
    {result : Option ℕ} (hw : WriterStep s.stream a stream.writers result) :
    Stage D tr { s with stream := stream, result := result.or s.result }
      (current ++ (s.drops D a).flatMap Event.disposed) := by
  generalize hwr : stream.writers = writers at hw
  cases hw with
  | stays _ ha =>
    rw [drops_of_other ha, List.flatMap_nil, List.append_nil]
    exact h.congr (.inl rfl) rfl rfl hwr rfl rfl rfl rfl
  | resumes i w bytes point hi hp =>
    obtain ⟨rfl, rfl, hin, hw, hres, hown, rfl⟩ := h.find hi
    refine .inside point [] hin ?_ hres ?_
    · rw [hw] at hwr
      exact hwr
    · rcases hp with rfl | rfl
      · exact ⟨hown, rfl⟩
      · exact .inl ⟨hown, rfl⟩
  | givesUp i bytes out hst hi =>
    obtain ⟨rfl, rfl, hin, hw, hres, hown, rfl⟩ := h.find hi
    rw [List.nil_append, disposed_drops hst]
    refine .returned _ hin ?_ hown rfl
    rw [hw] at hwr
    exact hwr
  | sleeps i nowUs bytes lastWriteTimeUs hi =>
    obtain ⟨rfl, rfl, hin, hw, hres, hown, k, -, hk, rfl⟩ := h.find hi
    obtain rfl : k = 0 := by rw [← D.accepted_counted k, ← hk, D.accepted_zero]
    refine .inside (.sleeping lastWriteTimeUs) _ hin ?_ hres ⟨hown, rfl⟩
    rw [hw] at hwr
    exact hwr
  | counts i nowUs bytes totalWritten hi =>
    obtain ⟨rfl, rfl, hin, hw, hres, hown, k, -, rfl, rfl⟩ := h.find hi
    have hreturned : Stage D tr { s with stream := stream, result := some (D.counted k) }
        ((D.formed s.buffer).take (D.accepted (D.counted k))) := by
      refine .returned _ hin ?_ hown rfl
      rw [hw] at hwr
      exact hwr
    rw [D.accepted_counted] at hreturned
    have hdrops : s.drops D (.count 0 nowUs : StreamSystem.Act χ) = [] := rfl
    rw [hdrops, List.flatMap_nil, List.append_nil]
    exact hreturned
  | wakes i bytes lastWriteTimeUs hi =>
    obtain ⟨rfl, rfl, hin, hw, hres, hown, rfl⟩ := h.find hi
    have hreturned : Stage D tr { s with stream := stream, result := some 0 }
        ((D.formed s.buffer).take (D.accepted 0)) := by
      refine .returned _ hin ?_ hown rfl
      rw [hw] at hwr
      exact hwr
    rw [D.accepted_zero] at hreturned
    exact hreturned

/-! ### The steps of the data path -/

variable {w : PcmWorld σ UInt8} {c : PcmCalls σ UInt8} {os : List (PcmCalls.Event UInt8)} {i j : ℕ}

/-- What is known of the calls of `OutWritePcmData`, of all streams. -/
abbrev CallsOk (D : PlaybackDevice σ χ ψ) (w : PcmWorld σ UInt8) (tr : List (PcmCalls.Event UInt8))
    (c : PcmCalls σ UInt8) : Prop :=
  PcmCalls.CallsInv D.pcm (Endpoint.writer UInt8) kFmqSendTimeoutMs (fun b b' => b' = b) w tr c

theorem callsOk_congr (h : CallsOk D w tr c) (hs : D.pcm.Software s.stream.session)
    (hrings : s.rings = c.world.rings) (hcalls : s.calls = c.calls) (hbegun : s.begun = c.begun) :
    CallsOk D w tr s.pcm := by
  have hfollows : Follows D.pcm (Endpoint.writer UInt8) c.world ⟨s.stream.session, s.rings⟩ :=
    ⟨fun _ => hs, fun ring => by rw [hrings]⟩
  have heq : s.pcm = { c with world := ⟨s.stream.session, s.rings⟩ } := by
    unfold pcm
    rw [hcalls, hbegun]
  rw [heq]
  exact h.follows hfollows

theorem mem_of_totalOf {n : ℕ} (h : totalOf os = some n) : ∃ k b, .returned k n b ∈ os := by
  obtain ⟨e, he, hn⟩ := List.exists_of_findSome?_eq_some h
  cases e with
  | returned k m b =>
    obtain rfl : m = n := Option.some.inj hn
    exact ⟨k, b, he⟩
  | begun | iterated | moved | crashed => cases hn

theorem totalOf_isSome {k n : ℕ} {b : List UInt8} (h : .returned k n b ∈ os) : totalOf os ≠ none := by
  intro hnone
  have hall := List.findSome?_eq_none_iff.1 hnone _ h
  cases hall

theorem Stage.others (h : Stage D tr s current) (hc : CallsOk D w tr s.pcm)
    (hc' : CallsOk D w (tr ++ os) c) (hos : ∀ e ∈ os, e.call = j) (hj : s.own ≠ some j) :
    Stage D (tr ++ os) (s.setPcm c) current := by
  cases h with
  | away hth hreply hw hown hres => exact .away hth hreply hw hown hres
  | replying sv hth hsv hw hown hres => exact .replying sv hth hsv hw hown hres
  | returned n hin hw hown hres => exact .returned n hin hw hown hres
  | inside point current hin hw hres hpt =>
    refine .inside point current hin hw hres ?_
    cases point with
    | entered | refused | written | sleeping => exact hpt
    | ready =>
      rcases hpt with hpt | ⟨i, d, hown, hfind, hbegun, rfl⟩
      · exact .inl hpt
      · have hij : j ≠ i := fun he => hj (he ▸ hown)
        refine .inr ?_
        have hbegun' : PcmCalls.Event.begun i (D.formed s.buffer) ∈ tr ++ os := List.mem_append_left _ hbegun
        rcases hc'.status hbegun' with ⟨d', hd'⟩ | ⟨n, b', hr⟩
        · refine ⟨i, d', hown, hd', hbegun', ?_⟩
          rw [PcmCalls.chunksBy_append, PcmCalls.chunksBy_of_call hos hij, List.append_nil]
        · rcases List.mem_append.1 hr with hr | hr
          · cases hfind.symm.trans (hc.returned hr).1
          · exact absurd (hos _ hr).symm hij

variable (D) in
/-- A step of the data path is one of `OutWritePcmData` alone, or `WriteData` returns with it. -/
inductive Moved (own : Bool) (c : PcmCalls σ UInt8) (os : List (PcmCalls.Event UInt8)) (s : Playback σ) :
    Playback σ → Prop
  | alone (h : own = true → totalOf os = none) : Moved own c os s (s.setPcm c)
  | returns (n : ℕ) (stream : StreamSystem σ) (os' : List StreamSystem.Event) (htotal : totalOf os = some n)
      (hhal : halStep D s.stream (.writeData 0 (D.counted n)) = some (stream, os')) :
      Moved own c os s { s.setPcm c with stream := stream, own := none }

theorem moved_of_moves {own : Bool} {es : List Event} (hs : s.moves D own (c, os) = some (s', es)) :
    es = os.map (Event.pcm own) ∧ Moved D own c os s s' := by
  unfold moves at hs
  dsimp only at hs
  split at hs
  · rename_i htotal
    obtain ⟨rfl, rfl⟩ := Prod.mk.inj (Option.some.inj hs)
    exact ⟨rfl, .alone fun hown => by rwa [if_pos hown] at htotal⟩
  · rename_i n htotal
    obtain ⟨⟨stream, os'⟩, hhal, heq⟩ := Option.map_eq_some_iff.1 hs
    obtain ⟨rfl, rfl⟩ := Prod.mk.inj heq
    split_ifs at htotal
    exact ⟨rfl, .returns n stream os' htotal hhal⟩

theorem stepHal_cases {a : StreamSystem.Act χ} {es : List Event} (hs : s.stepHal D a = some (s', es)) :
    ∃ stream os, isJoint a = false ∧ halStep D s.stream a = some (stream, os) ∧
      s' = { s with stream := stream, result := (resultOf os).or s.result } ∧ es = s.drops D a := by
  unfold stepHal at hs
  split_ifs at hs with hj
  obtain ⟨⟨stream, os⟩, hhal, heq⟩ := Option.map_eq_some_iff.1 hs
  obtain ⟨rfl, rfl⟩ := Prod.mk.inj heq
  exact ⟨stream, os, eq_false_of_ne_true hj, hhal, rfl, rfl⟩

theorem stepWriteData_cases {es : List Event} (hs : s.stepWriteData D = some (s', es)) :
    ∃ out bytes, s.stream.stream = some out ∧ s.stream.writers.find 0 = some ⟨bytes, .ready⟩ ∧ s.own = none ∧
      ((out.bluetoothOutput.inUse = false ∧ ∃ stream os,
          halStep D s.stream (.writeData 0 0) = some (stream, os) ∧ s' = { s with stream := stream }) ∨
        (out.bluetoothOutput.inUse = true ∧ ({ s with own := some s.begun } : Playback σ).moves D true
          (s.pcm.begin kFmqSendTimeoutMs (some (D.formed s.buffer))) = some (s', es))) := by
  unfold stepWriteData at hs
  split at hs
  · rename_i out bytes hst hfind hown
    refine ⟨out, bytes, hst, hfind, hown, ?_⟩
    split_ifs at hs with huse
    · obtain ⟨⟨stream, os⟩, hhal, heq⟩ := Option.map_eq_some_iff.1 hs
      obtain ⟨rfl, rfl⟩ := Prod.mk.inj heq
      exact .inl ⟨by simpa using huse, stream, os, hhal, rfl⟩
    · exact .inr ⟨by simpa using huse, hs⟩
  · cases hs

theorem Stage.own (hin : s.InWrite) (hw : s.stream.writers = [(0, ⟨s.buffer.length, .ready⟩)])
    (hres : s.result = none) (hown : s.own = some i) (ho : StreamSystem.OpenInv D.isA2dp s.stream)
    (hc' : CallsOk D w (tr ++ os) c) (hbegun : .begun i (D.formed s.buffer) ∈ tr ++ os)
    (hnew : ∀ n b, .returned i n b ∉ tr) (hos : ∀ e ∈ os, e.call = i) {es : List Event}
    (hs : s.moves D true (c, os) = some (s', es)) :
    Stage D (tr ++ os) s' (PcmCalls.chunksBy i tr ++ es.flatMap Event.disposed) := by
  have hes : (os.map (Event.pcm true)).flatMap Event.disposed = PcmCalls.chunksBy i os := by
    rw [List.flatMap_map]
    exact PcmCalls.chunks_of_call hos
  obtain ⟨rfl, hmoved⟩ := moved_of_moves hs
  cases hmoved with
  | alone htotal =>
    refine .inside .ready _ hin hw hres (.inr ?_)
    rcases hc'.status hbegun with ⟨d, hd⟩ | ⟨n, b, hr⟩
    · refine ⟨i, d, hown, hd, hbegun, ?_⟩
      rw [PcmCalls.chunksBy_append, hes]
    · rcases List.mem_append.1 hr with hr | hr
      · exact absurd hr (hnew n b)
      · exact absurd (htotal rfl) (totalOf_isSome hr)
  | returns n stream os' htotal hhal =>
    obtain ⟨k, b, hr⟩ := mem_of_totalOf htotal
    obtain rfl : k = i := hos _ hr
    obtain ⟨-, b', hb', -⟩ := hc'.returned (List.mem_append_right _ hr)
    obtain rfl : b' = D.formed s.buffer := hc'.once hb'.begun hbegun
    obtain rfl : b = D.formed s.buffer := hb'.keeps
    cases StreamSystem.effect_of_step hhal with
    | passes _ bytes accepted out hst hi =>
      have hwrites : out.writeData (D.counted n) = D.counted n := by
        unfold OutStream.writeData
        rw [ho.inUse out hst]
        rfl
      change s.stream.writers.find 0 = _ at hi
      rw [hw] at hi
      obtain ⟨rfl, -⟩ := Writer.mk.inj (Option.some.inj hi)
      refine .inside (.written (D.counted n)) _ hin ?_ hres ⟨rfl, n, hb'.total_le, rfl, ?_⟩
      · show s.stream.writers.put 0 ⟨s.buffer.length, .written (out.writeData (D.counted n))⟩ = _
        rw [hw, hwrites]
        rfl
      · rw [hes, ← PcmCalls.chunksBy_append]
        exact hb'.chunks

/-! ### The steps of `audio/hal` -/

variable {a : Audio.Act WriteCommand} {p' : Audio.FastPath WriteCommand} {es : List Event}

/-- What is known of the stream of `audio/hal`. -/
abbrev FastOk (tr : List (Audio.FastEvent WriteCommand)) (p : Audio.FastPath WriteCommand) : Prop :=
  Audio.FastPath.FastInv (fun sv _ _ => Audio.FastPath.Writing sv) Audio.FastPath.Written tr p

/-- The steps of the stream of `audio/hal` that go together with one of the legacy HAL. -/
inductive Joined (p : Audio.FastPath WriteCommand) : Audio.Act WriteCommand → Joint → Prop
  | alone (a : Audio.Act WriteCommand) : Joined p a .none
  | calls (env : Audio.Env) (command : WriteCommand) (buffer : List UInt8)
      (hpc : p.stream.thread = some (.serving command)) : Joined p (.thread env) (.calls buffer)
  | returns (env : Audio.Env) (result : ℤ) (hresult : env.answer.result = result)
      (hpc : p.stream.thread = some (.inHal .write)) : Joined p (.thread env) (.returns result)
  | closes : Joined p .closeStream .closes

theorem joined (p : Audio.FastPath WriteCommand) (a : Audio.Act WriteCommand) : Joined p a (joint p a) := by
  unfold joint
  split
  · rename_i command env hpc
    split
    · exact .calls env command _ hpc
    · exact .alone _
  · rename_i env hpc
    exact .returns env _ rfl hpc
  · exact .closes
  · exact .alone _

theorem joint_thread {p : Audio.FastPath WriteCommand} {pc : Audio.Pc WriteCommand} {env : Audio.Env}
    (hpc : p.stream.thread = some pc) (hserving : ∀ command, pc ≠ .serving command)
    (hwrite : pc ≠ .inHal .write) : joint p (.thread env) = .none := by
  unfold joint
  rw [hpc]
  cases pc with
  | serving command => exact absurd rfl (hserving command)
  | inHal command =>
    cases command with
    | write => exact absurd rfl hwrite
    | getPresentationPosition | getLatency | unknown => rfl
  | head | waiting | woken | replying | exited => rfl

variable (D) in
/-- What goes together with a step of the stream of `audio/hal`, which leaves it at `p'`. -/
inductive AudioStep (s : Playback σ) (p' : Audio.FastPath WriteCommand) : Joint → Playback σ → Prop
  | alone : AudioStep s p' .none { s with audio := p' }
  | calls (buffer : List UInt8) (stream : StreamSystem σ) (os : List StreamSystem.Event)
      (h : halStep D s.stream (.write 0 buffer.length) = some (stream, os)) :
      AudioStep s p' (.calls buffer) { s with audio := p', stream := stream, buffer := buffer }
  | returns (n : ℕ) (h : s.result = some n) :
      AudioStep s p' (.returns n) { s with audio := p', result := none }
  | closes (stream : StreamSystem σ) (os : List StreamSystem.Event)
      (h : halStep D s.stream .adevClose = some (stream, os)) :
      AudioStep s p' .closes { s with audio := p', stream := stream }

theorem audioStep_of_step (h : s.stepAudio D a = some (s', es)) :
    ∃ p' fs, (Audio.FastPath.lts (writeThread true)).step s.audio a = some (p', fs) ∧
      es = fs.map Event.audio ∧ AudioStep D s p' (joint s.audio a) s' := by
  obtain ⟨⟨p', fs⟩, hs, h⟩ := Option.bind_eq_some_iff.1 h
  refine ⟨p', fs, hs, ?_⟩
  cases hj : joint s.audio a with
  | none =>
    rw [hj] at h
    obtain ⟨rfl, rfl⟩ := Prod.mk.inj (Option.some.inj h)
    exact ⟨rfl, .alone⟩
  | calls buffer =>
    rw [hj] at h
    obtain ⟨⟨stream, os⟩, hhal, heq⟩ := Option.map_eq_some_iff.1 h
    obtain ⟨rfl, rfl⟩ := Prod.mk.inj heq
    exact ⟨rfl, .calls buffer stream os hhal⟩
  | returns result =>
    rw [hj] at h
    dsimp only at h
    split_ifs at h with hres
    obtain ⟨rfl, rfl⟩ := Prod.mk.inj (Option.some.inj h)
    obtain ⟨n, hn, rfl⟩ := Option.map_eq_some_iff.1 hres
    exact ⟨rfl, .returns n hn⟩
  | closes =>
    rw [hj] at h
    obtain ⟨⟨stream, os⟩, hhal, heq⟩ := Option.map_eq_some_iff.1 h
    obtain ⟨rfl, rfl⟩ := Prod.mk.inj heq
    exact ⟨rfl, .closes stream os hhal⟩

theorem threadLoop_serving {s s₁ : Audio.Stream WriteCommand} {command : WriteCommand} {env : Audio.Env}
    {es : List (Audio.Event WriteCommand)} (hpc : s.thread = some (.serving command))
    (h : s.threadLoop (writeThread true) env = some (s₁, es)) :
    ∃ r, r = (writeThread true).invoke command env.dataRead s.dataMQ s.mStatus ∧
      s₁ = { s with dataMQ := r.2.1, mStatus := r.2.2
                    thread := some (if r.1.isSome then .inHal command else .replying) } ∧
      es = r.1.toList.map Audio.Event.called := by
  unfold Audio.Stream.threadLoop at h
  rw [hpc] at h
  dsimp only at h
  refine ⟨_, rfl, ?_⟩
  split at h <;> rename_i hc <;> obtain ⟨rfl, rfl⟩ := Prod.mk.inj (Option.some.inj h) <;> rw [hc]
  · exact ⟨rfl, rfl⟩
  · exact ⟨rfl, rfl⟩

theorem client_step {p p' : Audio.FastPath WriteCommand} {fs : List (Audio.FastEvent WriteCommand)}
    (ha : ∀ env, a ≠ .thread env) (hs : (Audio.FastPath.lts (writeThread true)).step p a = some (p', fs)) :
    (p'.stream.thread = p.stream.thread ∨
      p.stream.thread = none ∧ p'.stream.thread = some .head) ∧
    p'.service = p.service ∧ p'.stream.mStatus = p.stream.mStatus ∧ fs = [] := by
  obtain ⟨-, s₁, es, hstep, rfl, rfl⟩ := Audio.FastPath.step_eq_some hs
  cases Audio.Stream.step_cases hstep with
  | prepare frameSize framesCount created =>
    rcases p.stream.prepare_cases frameSize framesCount created with heq | ⟨hnone, heq⟩
    · rw [heq]
      exact ⟨.inl rfl, rfl, rfl, rfl⟩
    · rw [heq]
      exact ⟨.inr ⟨hnone, rfl⟩, rfl, rfl, rfl⟩
  | close =>
    unfold Audio.Stream.close
    split_ifs
    · exact ⟨.inl rfl, rfl, rfl, rfl⟩
    · exact ⟨.inl rfl, rfl, rfl, rfl⟩
  | putCommand | wake | putData | takeData | takeStatus | closeWake | closeStream =>
    exact ⟨.inl rfl, rfl, rfl, rfl⟩
  | thread env => exact absurd rfl (ha env)

theorem writers_of_closes {stream : StreamSystem σ} {os : List StreamSystem.Event}
    (h : halStep D s.stream .adevClose = some (stream, os)) : stream.writers = s.stream.writers := by
  cases StreamSystem.effect_of_step h with
  | closes => rfl

theorem Stage.client (h : Stage D tr s current) (ha : ∀ env, a ≠ .thread env)
    (hs : s.stepAudio D a = some (s', es)) : es = [] ∧ Stage D tr s' current := by
  obtain ⟨p', fs, hstep, rfl, haudio⟩ := audioStep_of_step hs
  obtain ⟨hth, hservice, hst, rfl⟩ := client_step ha hstep
  refine ⟨rfl, ?_⟩
  have hj := joined s.audio a
  generalize joint s.audio a = j at haudio hj
  cases haudio with
  | alone => exact h.congr hth hservice hst rfl rfl rfl rfl rfl
  | closes stream os hhal => exact h.congr hth hservice hst (writers_of_closes hhal) rfl rfl rfl rfl
  | calls | returns =>
    cases hj
    exact absurd rfl (ha _)

theorem Stage.elim_away (h : Stage D tr s current) (hth : s.audio.stream.thread ≠ some (.inHal .write))
    (hreply : s.audio.stream.thread ≠ some .replying) :
    s.stream.writers = [] ∧ s.own = none ∧ s.result = none ∧ current = [] := by
  cases h with
  | away _ _ hw hown hres => exact ⟨hw, hown, hres, rfl⟩
  | replying sv hth' => exact absurd hth' hreply
  | inside point current hin => exact absurd hin.1 hth
  | returned n hin => exact absurd hin.1 hth

theorem stage_called {buffer : List UInt8} {stream : StreamSystem σ} {os : List StreamSystem.Event}
    (hw : s.stream.writers = []) (hown : s.own = none) (hres : s.result = none)
    (hhal : halStep D s.stream (.write 0 buffer.length) = some (stream, os))
    (hin : InWrite { s with audio := p', stream := stream, buffer := buffer }) :
    Stage D tr { s with audio := p', stream := stream, buffer := buffer } [] := by
  cases StreamSystem.effect_of_step hhal with
  | writes _ bytes out hst hi =>
    refine .inside (if out.bluetoothOutput.state ≠ .started then .entered else .ready) [] hin ?_ hres ?_
    · show s.stream.writers.put 0 _ = _
      rw [hw]
      rfl
    · split_ifs
      · exact ⟨hown, rfl⟩
      · exact .inl ⟨hown, rfl⟩

variable {env : Audio.Env} {ftr : List (Audio.FastEvent WriteCommand)}

theorem thread_step {p p' : Audio.FastPath WriteCommand} {fs : List (Audio.FastEvent WriteCommand)}
    (hs : (Audio.FastPath.lts (writeThread true)).step p (.thread env) = some (p', fs)) :
    ∃ s₁ os, p.stream.threadLoop (writeThread true) env = some (s₁, os) ∧
      p' = ⟨s₁, p.awaiting, Audio.FastPath.observe p.stream s₁ os p.service⟩ ∧
      fs = os.filterMap (Audio.FastPath.shown p.service) := by
  rw [Audio.FastPath.thread_step] at hs
  obtain ⟨⟨s₁, os⟩, hl, heq⟩ := Option.map_eq_some_iff.1 hs
  obtain ⟨rfl, rfl⟩ := Prod.mk.inj heq
  exact ⟨s₁, os, hl, rfl, rfl⟩

/-- A reply that does not tell the client that anything has been written. -/
theorem Stage.unanswered {sv : Audio.Service WriteCommand} (hth : s.audio.stream.thread = some .replying)
    (hsv : s.audio.service = some sv) (hw : s.stream.writers = []) (hown : s.own = none)
    (hres : s.result = none) (hack : D.acknowledged sv s.audio.stream.mStatus = []) : Stage D tr s [] := by
  have h : Stage D tr s (D.acknowledged sv s.audio.stream.mStatus) := .replying sv hth hsv hw hown hres
  rwa [hack] at h

/-- The thread serves a command: it calls `out_write`, another function of the legacy HAL, or none. -/
theorem Stage.serves (hf : FastOk ftr s.audio) (h : Stage D tr s current) {command : WriteCommand}
    (hpc : s.audio.stream.thread = some (.serving command))
    (hs : s.stepAudio D (.thread env) = some (s', es)) :
    ∃ current', current = es.flatMap (Event.acknowledged D) ++ current' ∧ Stage D tr s' current' := by
  obtain ⟨p', fs, hstep, rfl, haudio⟩ := audioStep_of_step hs
  obtain ⟨s₁, os, hl, rfl, rfl⟩ := thread_step hstep
  obtain ⟨r, hr, rfl, rfl⟩ := threadLoop_serving hpc hl
  obtain ⟨hservice, -⟩ := hf.serving command hpc
  obtain ⟨hw, hown, hres, rfl⟩ := h.elim_away (by rw [hpc]; exact fun he => by cases he)
    (by rw [hpc]; exact fun he => by cases he)
  have hack : (((r.1.toList.map Audio.Event.called).filterMap (Audio.FastPath.shown s.audio.service)).map
      Event.audio).flatMap (Event.acknowledged D) = [] := by
    cases r.1 <;> rfl
  refine ⟨[], by rw [hack]; rfl, ?_⟩
  unfold joint at haudio
  rw [hpc] at haudio
  dsimp only at haudio
  have hobserved : ∀ s₁ os, Audio.FastPath.observe s.audio.stream s₁ os s.audio.service =
      some ((Audio.Service.start command).invoked s.audio.stream.dataMQ s₁.dataMQ
        (os.filterMap Audio.Event.call?)) := by
    intro s₁ os
    unfold Audio.FastPath.observe
    rw [hpc, hservice]
    rfl
  subst hr
  rw [hobserved] at haudio
  cases command with
  | write =>
    cases hread : env.dataRead with
    | true =>
      rw [hread] at haudio
      cases haudio with
      | calls buffer stream os hhal =>
        refine stage_called hw hown hres hhal ⟨rfl, _, rfl, rfl, ?_⟩
        simp [Audio.Service.invoked, Audio.Service.moved, Audio.Service.start, writeThread,
          Audio.StreamOut.doWrite]
    | false =>
      rw [hread] at haudio
      cases haudio with
      | alone =>
        refine .unanswered rfl rfl hw hown hres ?_
        rw [D.acknowledged_write rfl rfl, Int.toNat_zero, D.accepted_zero]
        rfl
  | getPresentationPosition | getLatency =>
    cases haudio with
    | alone => exact .away (fun he => by cases he) (fun he => by cases he) hw hown hres
  | unknown code =>
    cases haudio with
    | alone => exact .unanswered rfl rfl hw hown hres (D.acknowledged_of_ne fun he => by cases he)

theorem thread_returns {p p' : Audio.FastPath WriteCommand} {fs : List (Audio.FastEvent WriteCommand)}
    (hf : FastOk ftr p) {command : WriteCommand} (hpc : p.stream.thread = some (.inHal command))
    (hs : (Audio.FastPath.lts (writeThread true)).step p (.thread env) = some (p', fs)) :
    ∃ sv, p.service = some sv ∧ sv.command = command ∧ p'.stream.thread = some .replying ∧
      p'.service = some sv ∧
      p'.stream.mStatus = Audio.StreamOut.answered env.answer p.stream.mStatus command ∧ fs = [] := by
  obtain ⟨s₁, os, hl, rfl, rfl⟩ := thread_step hs
  obtain ⟨rfl, rfl⟩ := Audio.FastPath.threadLoop_inHal hpc hl
  obtain ⟨sv, hservice, hcommand, -⟩ := hf.inHal command hpc
  refine ⟨sv, hservice, hcommand, rfl, ?_, rfl, rfl⟩
  unfold Audio.FastPath.observe
  rw [hpc, hservice]
  exact congrArg some (Audio.FastPath.moved_self _ sv)

theorem Stage.returns (hf : FastOk ftr s.audio) (h : Stage D tr s current) {command : WriteCommand}
    (hpc : s.audio.stream.thread = some (.inHal command))
    (hs : s.stepAudio D (.thread env) = some (s', es)) : es = [] ∧ Stage D tr s' current := by
  obtain ⟨p', fs, hstep, rfl, haudio⟩ := audioStep_of_step hs
  obtain ⟨sv, hservice, hcommand, hth, hsv, hst, rfl⟩ := thread_returns hf hpc hstep
  refine ⟨rfl, ?_⟩
  by_cases hwrite : command = .write
  · subst hwrite
    have hreturns : AudioStep D s p' (.returns env.answer.result) s' := by
      unfold joint at haudio
      rwa [hpc] at haudio
    generalize hn : env.answer.result = result at hreturns
    cases hreturns with
    | returns n hres =>
      cases h with
      | away hth' => exact absurd hpc hth'
      | replying sv' hth' => cases hpc.symm.trans hth'
      | inside point current hin hw hres' => cases hres.symm.trans hres'
      | returned m hin hw hown hres' =>
        obtain rfl : n = m := Option.some.inj (hres.symm.trans hres')
        obtain ⟨-, sv', hsv', -, htaken⟩ := hin
        obtain rfl : sv = sv' := Option.some.inj (hservice.symm.trans hsv')
        have hreply : p'.stream.mStatus.reply = .written n := by
          rw [hst]
          unfold Audio.StreamOut.answered
          dsimp only
          rw [hn, if_pos (Int.natCast_nonneg n)]
        have hreplying : Stage D tr { s with audio := p', result := none }
            (D.acknowledged sv p'.stream.mStatus) := .replying sv hth hsv hw hown rfl
        rw [D.acknowledged_write hcommand hreply, htaken, Int.toNat_natCast] at hreplying
        exact hreplying
  · rw [joint_thread hpc (fun _ he => by cases he) fun he => hwrite (Audio.Pc.inHal.inj he)] at haudio
    cases haudio with
    | alone =>
      obtain ⟨hw, hown, hres, rfl⟩ := h.elim_away
        (by rw [hpc]; exact fun he => hwrite (Audio.Pc.inHal.inj (Option.some.inj he)))
        (by rw [hpc]; exact fun he => by cases he)
      exact .unanswered hth hsv hw hown hres
        (D.acknowledged_of_ne fun he => hwrite (hcommand.symm.trans he))

theorem thread_alone {pc : Audio.Pc WriteCommand} (hpc : s.audio.stream.thread = some pc)
    (hserving : ∀ command, pc ≠ .serving command) (hin : ∀ command, pc ≠ .inHal command)
    (hs : s.stepAudio D (.thread env) = some (s', es)) :
    ∃ s₁ os, Audio.Stream.Looped (writeThread true) s.audio.stream pc s₁ os ∧
      s' = { s with
        audio := ⟨s₁, s.audio.awaiting, Audio.FastPath.observe s.audio.stream s₁ os s.audio.service⟩ } ∧
      es = (os.filterMap (Audio.FastPath.shown s.audio.service)).map Event.audio := by
  obtain ⟨p', fs, hstep, rfl, haudio⟩ := audioStep_of_step hs
  obtain ⟨s₁, os, hl, rfl, rfl⟩ := thread_step hstep
  obtain ⟨pc', hpc', hl⟩ := Audio.Stream.threadLoop_cases hl
  obtain rfl : pc = pc' := Option.some.inj (hpc.symm.trans hpc')
  refine ⟨s₁, os, hl, ?_, rfl⟩
  rw [joint_thread hpc hserving (hin .write)] at haudio
  cases haudio with
  | alone => rfl

theorem Stage.replies (hf : FastOk ftr s.audio) (h : Stage D tr s current)
    (hpc : s.audio.stream.thread = some .replying) (hs : s.stepAudio D (.thread env) = some (s', es)) :
    current = es.flatMap (Event.acknowledged D) ∧ Stage D tr s' [] := by
  obtain ⟨s₁, os, hl, rfl, rfl⟩ := thread_alone hpc (fun _ he => by cases he) (fun _ he => by cases he) hs
  cases h with
  | away _ hreply => exact absurd hpc hreply
  | inside point current hin => cases hpc.symm.trans hin.1
  | returned n hin => cases hpc.symm.trans hin.1
  | replying sv hth hsv hw hown hres =>
    cases hl with
    | drops hst =>
      rw [(hf.replies hpc).1] at hst
      cases hst
    | replies hst =>
      refine ⟨?_, .away (fun he => by cases he) (fun he => by cases he) hw hown hres⟩
      rw [hsv]
      exact (List.append_nil _).symm

theorem Stage.idles (h : Stage D tr s current) {pc : Audio.Pc WriteCommand}
    (hpc : s.audio.stream.thread = some pc) (hin : pc.inHand = false)
    (hs : s.stepAudio D (.thread env) = some (s', es)) :
    es.flatMap (Event.acknowledged D) = [] ∧ Stage D tr s' current := by
  obtain ⟨s₁, os, hl, rfl, rfl⟩ := thread_alone hpc (fun _ he => by rw [he] at hin; cases hin)
    (fun _ he => by rw [he] at hin; cases hin) hs
  obtain ⟨hw, hown, hres, rfl⟩ := h.elim_away
    (by rw [hpc]; exact fun he => by rw [Option.some.inj he] at hin; cases hin)
    (by rw [hpc]; exact fun he => by rw [Option.some.inj he] at hin; cases hin)
  cases hl with
  | stops | goesOn | spurious | wakes | nothingToDo | readsCommand =>
    exact ⟨rfl, .away (fun he => by cases he) (fun he => by cases he) hw hown hres⟩
  | noCall | calls | returns | drops | replies => cases hin

/-- A step of the thread takes the write from one stage to the next, and may tell the client of it. -/
theorem Stage.thread (hf : FastOk ftr s.audio) (h : Stage D tr s current)
    (hs : s.stepAudio D (.thread env) = some (s', es)) :
    ∃ current', current = es.flatMap (Event.acknowledged D) ++ current' ∧ Stage D tr s' current' := by
  obtain ⟨p', fs, hstep, -, -⟩ := audioStep_of_step hs
  obtain ⟨s₁, os, hl, -, -⟩ := thread_step hstep
  obtain ⟨pc, hpc, -⟩ := Audio.Stream.threadLoop_cases hl
  cases pc with
  | serving command => exact h.serves hf hpc hs
  | inHal command =>
    obtain ⟨rfl, hst⟩ := h.returns hf hpc hs
    exact ⟨current, rfl, hst⟩
  | replying =>
    obtain ⟨rfl, hst⟩ := h.replies hf hpc hs
    exact ⟨[], (List.append_nil _).symm, hst⟩
  | head | waiting | woken | exited =>
    obtain ⟨hack, hst⟩ := h.idles hpc rfl hs
    exact ⟨current, by rw [hack]; rfl, hst⟩

end

end Playback

end TrebleDoze.Bluetooth
