import TrebleDoze.Bluetooth.AudioDeviceObservers

/-!
# The loop of `adev_set_parameters`

`opened_stream_outs_` and the loop over it, while streams are opened and closed around it: the mutex of
the device keeps the list as it is from the lock to the unlock, and the streams in it where they are.

* `Listed`, `LoopInv`: the list has the open output streams, and the loop goes through it;
* `set_parameters_visits`: each stream is called once and in order, and nothing that is deleted is.
-/

namespace TrebleDoze.Bluetooth

open TrebleDoze.Lib

namespace BluetoothAudioDevice

variable {κ : Tag → Type}

/-! ### The list -/

/-- `opened_stream_outs_` has the open output streams, each once; only output streams wait for it; and a
function that the loop has called is on the stream it works on. -/
structure Listed (s : BluetoothAudioDevice κ) : Prop where
  mem : ∀ {i}, i ∈ s.openedStreamOuts ↔ ∃ x, s.streams.find i = some x ∧ x.listed = true
  nodup : s.openedStreamOuts.Nodup
  output : ∀ {i x}, s.streams.find i = some x → x.stage = .setUp → x.stream.direction = .output
  current : ∀ {i x c}, s.streams.find i = some x → x.call = some c → c.byDevice = true →
    ∃ l, s.adevLoop = some l ∧ l.current = some i

section

variable {s s' : BluetoothAudioDevice κ} {i : ℕ} {x y : StreamObject} {os : List Event} {a : Act κ}

theorem listed_iff : x.listed = true ↔ x.stage = .opened ∧ x.stream.direction = .output := by
  simp [StreamObject.listed]

theorem not_listed (h : x.stage ≠ .opened ∨ x.stream.direction = .input) : x.listed = false := by
  refine eq_false_of_ne_true fun hl => ?_
  obtain ⟨hstage, hout⟩ := listed_iff.1 hl
  rcases h with h | h
  · exact h hstage
  · rw [h] at hout
    cases hout

theorem Listed.init : Listed (lts κ).init where
  mem := by simp [lts, Threads.find]
  nodup := List.nodup_nil
  output h := by cases h
  current h := by cases h

theorem Listed.setStream (h : Listed s) (hf : s.streams.find i = some x) (hl : y.listed = x.listed)
    (ho : y.stage = .setUp → y.stream.direction = .output)
    (hc : ∀ c, y.call = some c → c.byDevice = true → ∃ l, s.adevLoop = some l ∧ l.current = some i) :
    Listed (s.setStream i y) := by
  refine ⟨fun {j} => ?_, h.nodup, fun {j z} hj => ?_, fun {j z c} hj hz hb => ?_⟩
  · dsimp only [BluetoothAudioDevice.setStream]
    rw [h.mem, Threads.find_put]
    split_ifs with he
    · subst he
      simp [hf, hl]
    · rfl
  · dsimp only [BluetoothAudioDevice.setStream] at hj
    rw [Threads.find_put] at hj
    split_ifs at hj with he
    · obtain rfl := Option.some.inj hj
      exact ho
    · exact h.output hj
  · dsimp only [BluetoothAudioDevice.setStream] at hj ⊢
    rw [Threads.find_put] at hj
    split_ifs at hj with he
    · obtain rfl := Option.some.inj hj
      exact he ▸ hc c hz hb
    · exact h.current hj hz hb

theorem Listed.setCall (h : Listed s) (hf : s.streams.find i = some x) {stream : AudioStream}
    (hs : StreamFn.Same x.stream stream) {call : Option StreamCall}
    (hc : ∀ c, call = some c → c.byDevice = true → ∃ l, s.adevLoop = some l ∧ l.current = some i) :
    Listed (s.setStream i { x with stream := stream, call := call }) := by
  refine h.setStream hf ?_ (fun hst => hs.direction.trans (h.output hf hst)) hc
  simp [StreamObject.listed, hs.direction]

theorem Listed.frame (h : Listed s) (sessions : SessionsMap κ)
    (callbacks : SessionType → ℕ → Option ℕ) (inFlight : SessionType → List Notification)
    (allocated : ℕ) :
    Listed { s with sessions := sessions, callbacks := callbacks, inFlight := inFlight
                    allocated := allocated } :=
  ⟨h.mem, h.nodup, h.output, h.current⟩

theorem Listed.setLoop (h : Listed s) {l : Option AdevLoop}
    (hl : ∀ {i x c}, s.streams.find i = some x → x.call = some c → c.byDevice = false) :
    Listed { s with adevLoop := l } := by
  refine ⟨h.mem, h.nodup, h.output, fun hj hc hb => ?_⟩
  rw [hl hj hc] at hb
  cases hb

theorem Listed.not_byDevice (h : Listed s) (hl : ∀ l, s.adevLoop = some l → l.current = none) {c : StreamCall}
    (hf : s.streams.find i = some x) (hc : x.call = some c) : c.byDevice = false := by
  refine eq_false_of_ne_true fun hb => ?_
  obtain ⟨l, hs, hcur⟩ := h.current hf hc hb
  rw [hl l hs] at hcur
  cases hcur

theorem Listed.drop (h : Listed s) (hn : (s.streams.map Prod.fst).Nodup)
    (hf : s.streams.find i = some x) (hx : x.listed = false) :
    Listed { s with streams := s.streams.drop i } := by
  refine ⟨fun {j} => ?_, h.nodup, fun hj => ?_, fun hj => ?_⟩
  · rw [h.mem, Threads.find_drop hn]
    split_ifs with he
    · subst he
      simp [hf, hx]
    · rfl
  · rw [Threads.find_drop hn] at hj
    split_ifs at hj
    exact h.output hj
  · rw [Threads.find_drop hn] at hj
    split_ifs at hj
    exact h.current hj

theorem Listed.beginCall (h : Listed s) (hf : s.streams.find i = some x) (hx : x.call = none)
    (fn : StreamFn) (byDevice : Bool)
    (hc : byDevice = true → ∀ req, fn.asks x.stream = some req →
      ∃ l, s.adevLoop = some l ∧ l.current = some i) : Listed (s.beginCall i x fn byDevice) := by
  unfold BluetoothAudioDevice.beginCall
  split
  · rename_i req hasks
    refine h.setCall hf StreamFn.same_enter fun c he hb => ?_
    obtain rfl := Option.some.inj he
    exact hc hb req hasks
  · refine h.setCall hf StreamFn.same_runIdle fun c he => ?_
    rw [hx] at he
    cases he

theorem Listed.endCall (h : Listed s) (hf : s.streams.find i = some x) {c : StreamCall}
    (hc : x.call = some c) : Listed (s.endCall i x c) := by
  have h' : Listed (s.setStream i { x with stream := c.fn.leave x.stream, call := none }) :=
    h.setCall hf StreamFn.same_leave (by simp)
  unfold BluetoothAudioDevice.endCall
  cases hb : c.byDevice with
  | false => exact h'
  | true =>
    refine h'.setLoop fun {j y c'} hj hy => eq_false_of_ne_true fun hb' => ?_
    -- the loop works on one stream, and that is the one whose function has ended
    dsimp only [BluetoothAudioDevice.setStream] at hj
    rw [Threads.find_put] at hj
    split_ifs at hj with he
    · obtain rfl := Option.some.inj hj
      cases hy
    · obtain ⟨l, hl, hcur⟩ := h.current hf hc hb
      obtain ⟨l', hl', hcur'⟩ := h.current hj hy hb'
      obtain rfl := Option.some.inj (hl.symm.trans hl')
      exact he (Option.some.inj (hcur'.symm.trans hcur))

theorem Listed.register (h : Listed s) (hr : Registry s) (hf : s.streams.find i = some x)
    (hs : s.register i x = some (s', os)) : Listed s' := by
  unfold BluetoothAudioDevice.register at hs
  split at hs
  · rename_i hx
    have hl : x.listed = false := not_listed (.inl (by simp [hx]))
    dsimp only at hs
    split_ifs at hs
    · obtain ⟨rfl, -⟩ := Prod.mk.inj (Option.some.inj hs)
      exact (h.drop hr.nodup hf hl).frame _ _ _ _
    · obtain ⟨rfl, -⟩ := Prod.mk.inj (Option.some.inj hs)
      have hset : ∀ cookie, Listed (s.setStream i { x with stage := .registered cookie }) := by
        intro cookie
        refine h.setStream hf ?_ (by simp) fun c hc hb => h.current hf hc hb
        exact (not_listed (.inl (by simp))).trans hl.symm
      exact (hset _).frame _ _ _ _
  · cases hs

theorem Listed.tearDown (h : Listed s) (hr : Registry s) (hf : s.streams.find i = some x)
    (hs : s.tearDown i x = some (s', os)) : Listed s' := by
  unfold BluetoothAudioDevice.tearDown at hs
  by_cases hx : x.stage = .closing ∧ s.inFlight x.sessionType = []
  · rw [if_pos hx] at hs
    obtain ⟨rfl, -⟩ := Prod.mk.inj (Option.some.inj hs)
    exact (h.drop hr.nodup hf (not_listed (.inl (by simp [hx.1])))).frame _ _ _ _
  · rw [if_neg hx] at hs
    cases hs

theorem Listed.publish (h : Listed s) (hf : s.streams.find i = some x) (hx : x.stage = .setUp)
    (hl : s.adevLoop = none) :
    Listed { s.setStream i { x with stage := .opened } with
      openedStreamOuts := s.openedStreamOuts ++ [i] } := by
  have hnot : i ∉ s.openedStreamOuts := by
    rw [h.mem]
    rintro ⟨y, hy, hlisted⟩
    obtain rfl := Option.some.inj (hf.symm.trans hy)
    rw [(listed_iff.1 hlisted).1] at hx
    cases hx
  have hout := h.output hf hx
  have hlisted : { x with stage := .opened }.listed = true := listed_iff.2 ⟨rfl, hout⟩
  refine ⟨fun {j} => ?_, ?_, fun {j y} hj => ?_, fun {j y c} hj hy hb => ?_⟩
  · dsimp only [BluetoothAudioDevice.setStream]
    rw [List.mem_append, List.mem_singleton, h.mem, Threads.find_put]
    split_ifs with he
    · simp [he, hlisted]
    · simp [he]
  · exact List.nodup_append.2 ⟨h.nodup, by simp, fun j hj k hk he => hnot (by simp_all)⟩
  · dsimp only [BluetoothAudioDevice.setStream] at hj
    rw [Threads.find_put] at hj
    split_ifs at hj
    · obtain rfl := Option.some.inj hj
      exact fun hst => by cases hst
    · exact h.output hj
  · dsimp only [BluetoothAudioDevice.setStream] at hj
    rw [Threads.find_put] at hj
    split_ifs at hj
    · obtain rfl := Option.some.inj hj
      exact absurd hb (by simpa using h.not_byDevice (by simp [hl]) hf hy)
    · exact absurd hb (by simpa using h.not_byDevice (by simp [hl]) hj hy)

theorem Listed.remove (h : Listed s) (hf : s.streams.find i = some x) (hl : s.adevLoop = none) :
    Listed { s.setStream i { x with stage := .closing } with
      openedStreamOuts := s.openedStreamOuts.filter (· ≠ i) } := by
  refine ⟨fun {j} => ?_, h.nodup.filter _, fun {j y} hj => ?_, fun {j y c} hj hy hb => ?_⟩
  · dsimp only [BluetoothAudioDevice.setStream]
    rw [List.mem_filter, h.mem, Threads.find_put]
    split_ifs with he
    · simp [he, StreamObject.listed]
    · simp [he]
  · dsimp only [BluetoothAudioDevice.setStream] at hj
    rw [Threads.find_put] at hj
    split_ifs at hj
    · obtain rfl := Option.some.inj hj
      exact fun hst => by cases hst
    · exact h.output hj
  · dsimp only [BluetoothAudioDevice.setStream] at hj
    rw [Threads.find_put] at hj
    split_ifs at hj
    · obtain rfl := Option.some.inj hj
      exact absurd hb (by simpa using h.not_byDevice (by simp [hl]) hf hy)
    · exact absurd hb (by simpa using h.not_byDevice (by simp [hl]) hj hy)

theorem Listed.create (h : Listed s) (hr : Registry s) (t : SessionType) (stream : AudioStream) :
    Listed { s.setStream s.allocated ⟨t, .settingUp, stream, none⟩ with allocated := s.allocated + 1 } := by
  have hnone : s.streams.find s.allocated = none := by
    cases hf : s.streams.find s.allocated with
    | none => rfl
    | some x => exact absurd (hr.fresh hf) (Nat.lt_irrefl _)
  refine ⟨fun {j} => ?_, h.nodup, fun {j y} hj => ?_, fun {j y c} hj hy hb => ?_⟩
  · dsimp only [BluetoothAudioDevice.setStream]
    rw [h.mem, Threads.find_put]
    split_ifs with he
    · subst he
      simp [hnone, StreamObject.listed]
    · rfl
  · dsimp only [BluetoothAudioDevice.setStream] at hj
    rw [Threads.find_put] at hj
    split_ifs at hj
    · obtain rfl := Option.some.inj hj
      exact fun hst => by cases hst
    · exact h.output hj
  · dsimp only [BluetoothAudioDevice.setStream] at hj
    rw [Threads.find_put] at hj
    split_ifs at hj
    · obtain rfl := Option.some.inj hj
      cases hy
    · exact h.current hj hy hb

theorem Listed.step (h : Listed s) (hr : Registry s) (hs : s.step a = some (s', os)) : Listed s' := by
  cases effect_of_step hs with
  | refuses direction devices sessions hm => exact h.frame _ _ _ _
  | creates direction devices t ht => exact (h.create hr t _).frame _ _ _ _
  | registers i x s' os hf hs => exact h.register hr hf hs
  | loads i x config loaded cookie stage stream os hf hx hc hd hstage hos =>
    refine h.setStream hf ?_ (fun hst => ?_) fun c hc hb => h.current hf hc hb
    · rw [not_listed (x := x) (.inl (by simp [hx]))]
      rcases hstage with ⟨rfl, -⟩ | ⟨-, hin⟩
      · exact not_listed (.inl (by simp))
      · exact not_listed (.inr (hd.trans hin))
    · rcases hstage with ⟨-, hout⟩ | ⟨hst' | hst', -⟩
      · exact hd.trans hout
      · exact absurd (hst'.symm.trans hst) (by simp)
      · exact absurd (hst'.symm.trans hst) (by simp)
  | publishes i x hf hx hl => exact h.publish hf hx hl
  | removes i x hf hx hl => exact h.remove hf hl
  | closes i x hf hx hd =>
    refine h.setStream hf ?_ (by simp) fun c hc hb => h.current hf hc hb
    exact (not_listed (.inl (by simp))).trans (not_listed (.inr hd)).symm
  | tearsDown i x s' os hf hs => exact h.tearDown hr hf hs
  | declines params retval => exact h
  | locks params hl => exact h.setLoop fun hf hc => h.not_byDevice (by simp [hl]) hf hc
  | visits audioCfg params i rest x hl hf hc =>
    have hno : ∀ l, s.adevLoop = some l → l.current = none := by
      rintro l hl'
      obtain rfl := Option.some.inj (hl.symm.trans hl')
      rfl
    have h' := h.setLoop (l := some ⟨params,
      (StreamFn.asks (.output (.setParameters audioCfg params)) x.stream).map fun _ => i, rest⟩)
      fun hf hc => h.not_byDevice hno hf hc
    have hb := h'.beginCall hf hc (.output (.setParameters audioCfg params)) true fun _ req hasks =>
      ⟨_, rfl, by simp [hasks]⟩
    unfold BluetoothAudioDevice.beginCall at hb ⊢
    split at hb <;> exact hb
  | misses audioCfg params i rest hl hf =>
    refine h.setLoop fun hf hc => h.not_byDevice ?_ hf hc
    rintro l hl'
    obtain rfl := Option.some.inj (hl.symm.trans hl')
    rfl
  | unlocks params hl =>
    refine h.setLoop fun hf hc => h.not_byDevice ?_ hf hc
    rintro l hl'
    obtain rfl := Option.some.inj (hl.symm.trans hl')
    rfl
  | calls i fn x hf hx hc => exact h.beginCall hf hc fn false (by simp)
  | asks i isOk x c hf hc =>
    refine (h.setCall hf ⟨rfl, rfl⟩ fun c' he hb => ?_).frame _ _ _ _
    obtain rfl := Option.some.inj he
    exact h.current hf hc hb
  | ends a i x c sessions hm hf hc => exact (h.endCall hf hc).frame _ _ _ _
  | acts t a => exact h.frame _ _ _ _
  | passes t n rest hn hc => exact h.frame _ _ _ _
  | delivers t n rest i x hn hf =>
    exact (h.setCall hf (StreamFn.same_setPort (by simp)) fun c hc hb => h.current hf hc hb).frame _ _ _ _
  | dangles t n rest i hn hc hf => exact h.frame _ _ _ _

/-! ### The rounds of the loop -/

/-- The streams called since the lock, after one more event. -/
def Event.visit (visited : List ℕ) : Event → List ℕ
  | .locked _ => []
  | .visited i => visited ++ [i]
  | _ => visited

/-- The streams that the last `adev_set_parameters` has called. -/
def visitedSince (tr : List Event) : List ℕ := tr.foldl Event.visit []

/-- The list at the last lock, after one more event. -/
def Event.lock (streams : List ℕ) : Event → List ℕ
  | .locked streams' => streams'
  | _ => streams

/-- `opened_stream_outs_` when it has locked the mutex. -/
def lastLocked (tr : List Event) : List ℕ := tr.foldl Event.lock []

/-- The event is none of the loop, and nothing is called that is deleted. -/
def Event.quiet : Event → Bool
  | .locked _ | .visited _ | .usesDeleted => false
  | _ => true

variable {tr : List Event}

theorem visitedSince_quiet (hos : ∀ e ∈ os, e.quiet = true) : visitedSince (tr ++ os) = visitedSince tr := by
  unfold visitedSince
  rw [List.foldl_append]
  generalize tr.foldl Event.visit [] = acc
  induction os with
  | nil => rfl
  | cons e os ih =>
    have he := hos e List.mem_cons_self
    have hacc : Event.visit acc e = acc := by cases e <;> first | rfl | cases he
    rw [List.foldl_cons, hacc]
    exact ih fun e he => hos e (List.mem_cons_of_mem _ he)

theorem lastLocked_quiet (hos : ∀ e ∈ os, e.quiet = true) : lastLocked (tr ++ os) = lastLocked tr := by
  unfold lastLocked
  rw [List.foldl_append]
  generalize tr.foldl Event.lock [] = acc
  induction os with
  | nil => rfl
  | cons e os ih =>
    have he := hos e List.mem_cons_self
    have hacc : Event.lock acc e = acc := by cases e <;> first | rfl | cases he
    rw [List.foldl_cons, hacc]
    exact ih fun e he => hos e (List.mem_cons_of_mem _ he)

/-- From the lock to the unlock the list stays as it is; what the loop has called and what it has yet to
are the list. -/
structure LoopInv (tr : List Event) (s : BluetoothAudioDevice κ) : Prop where
  visited : ∀ l, s.adevLoop = some l → visitedSince tr ++ l.rest = s.openedStreamOuts
  locked : ∀ l, s.adevLoop = some l → lastLocked tr = s.openedStreamOuts
  safe : .usesDeleted ∉ tr

theorem not_mem_append_quiet (h : Event.usesDeleted ∉ tr) (hos : ∀ e ∈ os, e.quiet = true) :
    Event.usesDeleted ∉ tr ++ os := by
  rw [List.mem_append, not_or]
  exact ⟨h, fun hm => by simpa [Event.quiet] using hos _ hm⟩

/-- A step that leaves the list alone, and what the loop has yet to call. -/
theorem LoopInv.keep (h : LoopInv tr s) (ho : s'.openedStreamOuts = s.openedStreamOuts)
    (hl : ∀ l', s'.adevLoop = some l' → ∃ l, s.adevLoop = some l ∧ l'.rest = l.rest)
    (hos : ∀ e ∈ os, e.quiet = true) : LoopInv (tr ++ os) s' := by
  refine ⟨fun l' hl' => ?_, fun l' hl' => ?_, not_mem_append_quiet h.safe hos⟩
  · obtain ⟨l, hs, hrest⟩ := hl l' hl'
    rw [visitedSince_quiet hos, hrest, h.visited l hs, ho]
  · obtain ⟨l, hs, -⟩ := hl l' hl'
    rw [lastLocked_quiet hos, h.locked l hs, ho]

theorem LoopInv.outside (h : LoopInv tr s) (hl : s'.adevLoop = none) (hos : ∀ e ∈ os, e.quiet = true) :
    LoopInv (tr ++ os) s' :=
  ⟨by simp [hl], by simp [hl], not_mem_append_quiet h.safe hos⟩

theorem openedStreamOuts_beginCall (fn : StreamFn) (byDevice : Bool) :
    (s.beginCall i x fn byDevice).openedStreamOuts = s.openedStreamOuts ∧
      (s.beginCall i x fn byDevice).adevLoop = s.adevLoop := by
  unfold BluetoothAudioDevice.beginCall
  split <;> exact ⟨rfl, rfl⟩

theorem rest_endCall {c : StreamCall} {l' : AdevLoop} (h : (s.endCall i x c).adevLoop = some l') :
    ∃ l, s.adevLoop = some l ∧ l'.rest = l.rest := by
  unfold BluetoothAudioDevice.endCall at h
  cases hb : c.byDevice with
  | false => exact ⟨l', by simpa [hb, BluetoothAudioDevice.setStream] using h, rfl⟩
  | true =>
    simp only [hb, if_true, Option.map_eq_some_iff] at h
    obtain ⟨l, hl, rfl⟩ := h
    exact ⟨l, hl, rfl⟩

theorem register_keeps (hs : s.register i x = some (s', os)) :
    s'.openedStreamOuts = s.openedStreamOuts ∧ s'.adevLoop = s.adevLoop ∧
      ∀ e ∈ os, e.quiet = true := by
  unfold BluetoothAudioDevice.register at hs
  split at hs
  · dsimp only at hs
    split_ifs at hs
    · obtain ⟨rfl, rfl⟩ := Prod.mk.inj (Option.some.inj hs)
      exact ⟨rfl, rfl, by simp [Event.quiet]⟩
    · obtain ⟨rfl, rfl⟩ := Prod.mk.inj (Option.some.inj hs)
      exact ⟨rfl, rfl, by simp⟩
  · cases hs

theorem tearDown_keeps (hs : s.tearDown i x = some (s', os)) :
    s'.openedStreamOuts = s.openedStreamOuts ∧ s'.adevLoop = s.adevLoop ∧
      ∀ e ∈ os, e.quiet = true := by
  unfold BluetoothAudioDevice.tearDown at hs
  by_cases hx : x.stage = .closing ∧ s.inFlight x.sessionType = []
  · rw [if_pos hx] at hs
    obtain ⟨rfl, rfl⟩ := Prod.mk.inj (Option.some.inj hs)
    exact ⟨rfl, rfl, by simp [Event.quiet]⟩
  · rw [if_neg hx] at hs
    cases hs

theorem LoopInv.step (h : LoopInv tr s) (hr : Registry s) (hi : Listed s)
    (hs : s.step a = some (s', os)) : LoopInv (tr ++ os) s' := by
  cases effect_of_step hs with
  | refuses direction devices sessions hm => exact h.keep rfl (fun l hl => ⟨l, hl, rfl⟩) (by simp [Event.quiet])
  | creates direction devices t ht => exact h.keep rfl (fun l hl => ⟨l, hl, rfl⟩) (by simp)
  | registers i x s' os hf hs =>
    obtain ⟨ho, hl, hos⟩ := register_keeps hs
    exact h.keep ho (fun l hl' => ⟨l, hl ▸ hl', rfl⟩) hos
  | loads i x config loaded cookie stage stream os hf hx hc hd hstage hos =>
    refine h.keep rfl (fun l hl => ⟨l, hl, rfl⟩) ?_
    rcases hos with rfl | rfl <;> simp [Event.quiet]
  | publishes i x hf hx hl => exact h.outside hl (by simp [Event.quiet])
  | removes i x hf hx hl => exact h.outside hl (by simp [Event.quiet])
  | closes i x hf hx hd => exact h.keep rfl (fun l hl => ⟨l, hl, rfl⟩) (by simp)
  | tearsDown i x s' os hf hs =>
    obtain ⟨ho, hl, hos⟩ := tearDown_keeps hs
    exact h.keep ho (fun l hl' => ⟨l, hl ▸ hl', rfl⟩) hos
  | declines params retval => exact h.keep rfl (fun l hl => ⟨l, hl, rfl⟩) (by simp [Event.quiet])
  | locks params hl =>
    refine ⟨fun l hl' => ?_, fun l hl' => ?_, ?_⟩
    · obtain rfl := Option.some.inj hl'
      simp [visitedSince, Event.visit]
    · simp [lastLocked, Event.lock]
    · simpa using h.safe
  | visits audioCfg params i rest x hl hf hc =>
    have hv := h.visited _ hl
    obtain ⟨ho, -⟩ := openedStreamOuts_beginCall (s := s) (i := i) (x := x)
      (.output (.setParameters audioCfg params)) true
    refine ⟨fun l hl' => ?_, fun l hl' => ?_, ?_⟩
    · obtain rfl := Option.some.inj hl'
      dsimp only
      rw [ho, ← hv]
      simp [visitedSince, Event.visit]
    · dsimp only
      rw [ho, ← h.locked _ hl]
      simp [lastLocked, Event.lock]
    · simpa using h.safe
  | misses audioCfg params i rest hl hf =>
    -- the streams that are yet to be called are in the list, and so they are there
    have hmem : i ∈ s.openedStreamOuts := by
      rw [← h.visited _ hl]
      simp
    obtain ⟨x, hx, -⟩ := hi.mem.1 hmem
    rw [hf] at hx
    cases hx
  | unlocks params hl => exact h.outside rfl (by simp [Event.quiet])
  | calls i fn x hf hx hc =>
    obtain ⟨ho, hl⟩ := openedStreamOuts_beginCall (s := s) (i := i) (x := x) fn false
    exact h.keep ho (fun l hl' => ⟨l, hl ▸ hl', rfl⟩) (by simp)
  | asks i isOk x c hf hc => exact h.keep rfl (fun l hl => ⟨l, hl, rfl⟩) (by simp)
  | ends a i x c sessions hm hf hc =>
    refine h.keep rfl (fun l hl => ?_) (by simp)
    exact rest_endCall (s := { s with sessions := sessions }) (i := i) (x := x) hl
  | acts t a => exact h.keep rfl (fun l hl => ⟨l, hl, rfl⟩) (by simp)
  | passes t n rest hn hc => exact h.keep rfl (fun l hl => ⟨l, hl, rfl⟩) (by simp)
  | delivers t n rest i x hn hf => exact h.keep rfl (fun l hl => ⟨l, hl, rfl⟩) (by simp)
  | dangles t n rest i hn hc hf =>
    obtain ⟨j, x, hj, hx, -⟩ := hr.find_of_inFlight (n := n) (t := t) (by simp [hn])
    obtain rfl := Option.some.inj (hc.symm.trans hj)
    rw [hf] at hx
    cases hx

/-- The three invariants together. -/
structure DeviceInv (tr : List Event) (s : BluetoothAudioDevice κ) : Prop where
  registry : Registry s
  listed : Listed s
  loop : LoopInv tr s

theorem deviceInv_run {C : BluetoothAudioDevice κ → Act κ → Prop} (h : (lts κ).Run C tr s) :
    DeviceInv tr s := by
  refine h.inv (I := DeviceInv) ?_ ?_
  · exact ⟨.init, .init, fun l hl => by simp [lts] at hl, fun l hl => by simp [lts] at hl, by simp⟩
  · intro tr s a s' os hi _ hs
    exact ⟨hi.registry.step hs, hi.listed.step hi.registry hs, hi.loop.step hi.registry hi.listed hs⟩

end

end BluetoothAudioDevice

/-- **`adev_set_parameters` calls each open output stream once, in their order**, and nothing that is
deleted is ever called: the list has the open output streams, it is the same at the unlock as it was at
the lock, and what has been called by then is the list. -/
theorem set_parameters_visits {s : BluetoothAudioDevice κ} {tr : List BluetoothAudioDevice.Event}
    (h : (BluetoothAudioDevice.lts κ).Reach tr s) :
    .usesDeleted ∉ tr ∧ s.openedStreamOuts.Nodup ∧
      (∀ i, i ∈ s.openedStreamOuts ↔ ∃ x, s.streams.find i = some x ∧ x.listed = true) ∧
      ∀ s' os, s.step .unlock = some (s', os) →
        BluetoothAudioDevice.visitedSince tr = s'.openedStreamOuts ∧
          BluetoothAudioDevice.lastLocked tr = s'.openedStreamOuts := by
  have hi := BluetoothAudioDevice.deviceInv_run h
  refine ⟨hi.loop.safe, hi.listed.nodup, fun i => hi.listed.mem, fun s' os hs => ?_⟩
  dsimp only [BluetoothAudioDevice.step, BluetoothAudioDevice.unlock] at hs
  split at hs
  · rename_i params hl
    obtain ⟨rfl, -⟩ := Prod.mk.inj (Option.some.inj hs)
    have hv := hi.loop.visited _ hl
    rw [List.append_nil] at hv
    exact ⟨hv, hi.loop.locked _ hl⟩
  · cases hs

/-- Three streams are opened; `adev_set_parameters` has called two of them when one of these is to be
closed, which has to wait. -/
def setParametersTwice : List (BluetoothAudioDevice.Act NoPayload) :=
  [startSession .a2dpSoftwareEncoding, startSession .leAudioSoftwareEncoding] ++
    openOutput 0 .outBluetoothA2dp ++ openOutput 1 .outBleHeadset ++
    [.adevClose 0, .tearDown 0] ++ openOutput 2 .outBluetoothA2dp ++
    [.setParameters [("A2dpSuspended", "true")], .visit none, .visit none]

theorem set_parameters_visits_twice :
    ∃ tr, ∃ s s' : BluetoothAudioDevice NoPayload, (BluetoothAudioDevice.lts NoPayload).Reach tr s ∧
      s.step (.adevClose 1) = none ∧ s.step .unlock = some (s', [.unlocked]) ∧
      s'.openedStreamOuts = [1, 2] ∧ BluetoothAudioDevice.visitedSince tr = s'.openedStreamOuts := by
  obtain ⟨tr, s, h, hclose, hopened, hunlock⟩ := Lts.exists_run (M := BluetoothAudioDevice.lts NoPayload)
    (C := fun _ _ => True) (P := fun _ s =>
      (s.step (.adevClose 1)).isNone = true ∧ s.openedStreamOuts = [1, 2] ∧
        (s.step .unlock).any (fun r => decide (r.2 = [.unlocked] ∧
          r.1.openedStreamOuts = [1, 2])) = true) setParametersTwice (by decide)
  obtain ⟨⟨s', os⟩, hs, hos⟩ := (Option.any_eq_true _ _).1 hunlock
  obtain ⟨rfl, hs'⟩ := of_decide_eq_true hos
  exact ⟨tr, s, s', h, by simpa using hclose, hs, hs', ((set_parameters_visits h).2.2.2 s' _ hs).1⟩

end TrebleDoze.Bluetooth
