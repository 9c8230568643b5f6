import Mathlib.Data.List.Nodup
import TrebleDoze.Audio.StreamThread

/-!
# The lifetime of an audio device

`Device` of `Device.cpp` counts the streams that are open and closes the legacy device when the client asks
for it, or in its destructor (HIDL 6 and later).  A stream closes itself once, be it that its client
calls `close()` or that its destructor does; it holds a reference to the device.  The `int` that the
device counts with is an integer here: that it overflows is left out.

* `Effect`, `effect_of_step`: the ways a step can go;
* `Event.apply`, `live`: the streams opened and not yet closed, by the calls of the legacy device;
* `DeviceInv`, `deviceInv_run`: in every run the device counts these streams, and closes the legacy device
  once, when there are none;
* `device_lifetime`: if moreover no stream is opened on a closed device, no other function of the legacy
  device is called after `audio_hw_device_close` (`open_after_close`: not in all runs).
-/

namespace TrebleDoze.Audio

open TrebleDoze.Lib

/-- The directions of a stream. -/
inductive Dir where
  | output | input
  deriving DecidableEq, Repr

/-- A stream object: `StreamOut` or `StreamIn`, with its stop flag. -/
structure StreamObject where
  id : ℕ
  dir : Dir
  mStop : Bool
  deriving DecidableEq, Repr

/-- A device with the objects that refer to it: its streams, and its client. -/
structure Device where
  mIsClosed : Bool
  mOpenedStreamsCount : ℤ
  streams : List StreamObject
  /-- The number of the next stream object. -/
  next : ℕ
  held : Bool
  destroyed : Bool
  /-- `LOG_ALWAYS_FATAL_IF` has fired. -/
  aborted : Bool
  deriving DecidableEq, Repr

namespace Device

/-- The calls of the legacy device: `open_output_stream` or `open_input_stream`, with the stream object
made if the status is ok, `close_output_stream` or `close_input_stream`, and `audio_hw_device_close`. -/
inductive Event where
  | openStream (dir : Dir) (stream : Option ℕ)
  | closeStream (dir : Dir) (stream : ℕ)
  | audioHwDeviceClose
  deriving DecidableEq, Repr

/-- The constructor; the client has the one reference. -/
def create : Device where
  mIsClosed := false
  mOpenedStreamsCount := 0
  streams := []
  next := 0
  held := true
  destroyed := false
  aborted := false

/-! ### Opening a stream -/

/-- `openOutputStreamCore` and `openInputStreamCore`; `converted` tells whether the arguments have
counterparts in the legacy HAL, and `status` is the answer of its function. -/
def openStreamCore (dir : Dir) (converted : Bool) (status : ℤ) (d : Device) :
    Result × Device × List Event :=
  if !converted then (.invalidArguments, d, [])
  else if status = 0 then
    (.ok, { d with streams := d.streams ++ [⟨d.next, dir, false⟩], next := d.next + 1
                   mOpenedStreamsCount := d.mOpenedStreamsCount + 1 },
      [.openStream dir (some d.next)])
  else (analyzeStatus status, d, [.openStream dir none])

/-- `openOutputStreamCore`. -/
def openOutputStreamCore (converted : Bool) (status : ℤ) (d : Device) : Result × Device × List Event :=
  d.openStreamCore .output converted status

/-- `openInputStreamCore`. -/
def openInputStreamCore (converted : Bool) (status : ℤ) (d : Device) : Result × Device × List Event :=
  d.openStreamCore .input converted status

/-! ### Closing a stream -/

/-- `closeOutputStream` and `closeInputStream`. -/
def closeStream (dir : Dir) (stream : ℕ) (d : Device) : Device × List Event :=
  if d.mOpenedStreamsCount = 0 then ({ d with aborted := true }, [.closeStream dir stream])
  else ({ d with mOpenedStreamsCount := d.mOpenedStreamsCount - 1 }, [.closeStream dir stream])

/-- `closeOutputStream`. -/
def closeOutputStream (stream : ℕ) (d : Device) : Device × List Event := d.closeStream .output stream

/-- `closeInputStream`. -/
def closeInputStream (stream : ℕ) (d : Device) : Device × List Event := d.closeStream .input stream

/-- The stop flag of a stream is raised. -/
def raiseStop (id : ℕ) (d : Device) : Device :=
  { d with streams := d.streams.map fun o => if o.id = id then { o with mStop := true } else o }

/-- `StreamOut::close()` and `StreamIn::close()`, as far as they concern the device. -/
def streamClose (o : StreamObject) (d : Device) : Result × Device × List Event :=
  if o.mStop then (.invalidState, d, [])
  else
    let d := d.raiseStop o.id
    match o.dir with
    | .output => (.ok, d.closeOutputStream o.id)
    | .input => (.ok, d.closeInputStream o.id)

/-! ### Closing the device -/

/-- `doClose`; `status` is the answer of `audio_hw_device_close`. -/
def doClose (status : ℤ) (d : Device) : Result × Device × List Event :=
  if d.mIsClosed || d.mOpenedStreamsCount != 0 then (.invalidState, d, [])
  else (analyzeStatus status, { d with mIsClosed := true }, [.audioHwDeviceClose])

/-- What the client and the references do; a destructor of a stream is `streamClose` and then
`streamFree`, and the destructor of the device runs when the last reference is gone. -/
inductive Act where
  | openOutputStream (converted : Bool) (status : ℤ)
  | openInputStream (converted : Bool) (status : ℤ)
  | streamClose (id : ℕ)
  | streamFree (id : ℕ)
  | close (status : ℤ)
  | release
  | destroy (status : ℤ)
  deriving DecidableEq, Repr

/-- The device is there to be called by its client. -/
def usable (d : Device) : Bool := d.held && !d.aborted

/-- **A device with its streams and its client.** -/
def lts : Lts Device Act Event where
  init := create
  step d
    | .openOutputStream converted status =>
      if d.usable then some (d.openOutputStreamCore converted status).2 else none
    | .openInputStream converted status =>
      if d.usable then some (d.openInputStreamCore converted status).2 else none
    | .streamClose id =>
      if d.aborted then none
      else (d.streams.find? fun o => o.id == id).map fun o => (d.streamClose o).2
    | .streamFree id =>
      -- the destructor has called `close()`
      if !d.aborted && d.streams.any fun o => o.id == id && o.mStop then
        some ({ d with streams := d.streams.filter fun o => o.id != id }, [])
      else none
    | .close status => if d.usable then some (d.doClose status).2 else none
    | .release => if d.usable then some ({ d with held := false }, []) else none
    | .destroy status =>
      if !d.aborted && !d.held && !d.destroyed && d.streams.isEmpty then
        let r := (d.doClose status).2
        some ({ r.1 with destroyed := true }, r.2)
      else none

/-- The ways a step can go. -/
inductive Effect (d : Device) : Act → Device → List Event → Prop
  | opensOutput (converted : Bool) (status : ℤ) :
      Effect d (.openOutputStream converted status) (d.openStreamCore .output converted status).2.1
        (d.openStreamCore .output converted status).2.2
  | opensInput (converted : Bool) (status : ℤ) :
      Effect d (.openInputStream converted status) (d.openStreamCore .input converted status).2.1
        (d.openStreamCore .input converted status).2.2
  | closesStream (id : ℕ) (o : StreamObject) (ho : o ∈ d.streams) :
      Effect d (.streamClose id) (d.streamClose o).2.1 (d.streamClose o).2.2
  | freesStream (id : ℕ) (hid : (d.streams.any fun o => o.id == id && o.mStop) = true) :
      Effect d (.streamFree id) { d with streams := d.streams.filter fun o => o.id != id } []
  | closes (status : ℤ) : Effect d (.close status) (d.doClose status).2.1 (d.doClose status).2.2
  | releases : Effect d .release { d with held := false } []
  | destroys (status : ℤ) :
      Effect d (.destroy status) { (d.doClose status).2.1 with destroyed := true } (d.doClose status).2.2

theorem effect_of_step {d d' : Device} {a : Act} {os : List Event} (h : lts.step d a = some (d', os)) :
    Effect d a d' os := by
  cases a with
  | openOutputStream converted status =>
    simp only [lts] at h
    split_ifs at h
    obtain ⟨rfl, rfl⟩ := Prod.mk.inj (Option.some.inj h)
    exact .opensOutput converted status
  | openInputStream converted status =>
    simp only [lts] at h
    split_ifs at h
    obtain ⟨rfl, rfl⟩ := Prod.mk.inj (Option.some.inj h)
    exact .opensInput converted status
  | streamClose id =>
    simp only [lts] at h
    split_ifs at h
    obtain ⟨o, ho, he⟩ := Option.map_eq_some_iff.1 h
    obtain ⟨rfl, rfl⟩ := Prod.mk.inj he
    exact .closesStream id o (List.mem_of_find?_eq_some ho)
  | streamFree id =>
    simp only [lts] at h
    split_ifs at h with hc
    obtain ⟨rfl, rfl⟩ := Prod.mk.inj (Option.some.inj h)
    rw [Bool.and_eq_true] at hc
    exact .freesStream id hc.2
  | close status =>
    simp only [lts] at h
    split_ifs at h
    obtain ⟨rfl, rfl⟩ := Prod.mk.inj (Option.some.inj h)
    exact .closes status
  | release =>
    simp only [lts] at h
    split_ifs at h
    obtain ⟨rfl, rfl⟩ := Prod.mk.inj (Option.some.inj h)
    exact .releases
  | destroy status =>
    simp only [lts] at h
    split_ifs at h
    obtain ⟨rfl, rfl⟩ := Prod.mk.inj (Option.some.inj h)
    exact .destroys status

/-! ### The streams that are open -/

/-- The streams opened and not yet closed, after one more call. -/
def Event.apply (open_ : List ℕ) : Event → List ℕ
  | openStream _ (some id) => open_ ++ [id]
  | openStream _ none => open_
  | closeStream _ id => open_.filter (· != id)
  | audioHwDeviceClose => open_

/-- The streams opened and not yet closed. -/
def live (tr : List Event) : List ℕ := tr.foldl Event.apply []

@[simp] theorem live_append (tr os : List Event) : live (tr ++ os) = os.foldl Event.apply (live tr) :=
  List.foldl_append

/-- The stream objects whose `close()` has not run. -/
def openIds (d : Device) : List ℕ := (d.streams.filter fun o => !o.mStop).map StreamObject.id

/-- The device counts the streams that are open, and the legacy device is closed once, when there are
none. -/
structure DeviceInv (tr : List Event) (d : Device) : Prop where
  count : d.mOpenedStreamsCount = (live tr).length
  openIds : d.openIds = live tr
  nodup : (d.streams.map StreamObject.id).Nodup
  fresh : ∀ o ∈ d.streams, o.id < d.next
  aborted : d.aborted = false
  closed : .audioHwDeviceClose ∈ tr → d.mIsClosed = true
  once : NoneAfter (· = .audioHwDeviceClose) (· = .audioHwDeviceClose) tr
  idle : Whenever (· = .audioHwDeviceClose) (fun pre => live pre = []) tr

section

variable {d d' : Device} {tr os : List Event}

theorem DeviceInv.nodup_live (h : DeviceInv tr d) : (live tr).Nodup := by
  rw [← h.openIds]
  exact h.nodup.sublist (List.filter_sublist.map _)

/-- The legacy device of a device that is not closed has not been closed. -/
theorem DeviceInv.not_closed (h : DeviceInv tr d) (hopen : d.mIsClosed = false) :
    .audioHwDeviceClose ∉ tr := by
  intro hm
  have hc := h.closed hm
  rw [hopen] at hc
  cases hc

theorem DeviceInv.live_eq_nil (h : DeviceInv tr d) (hzero : d.mOpenedStreamsCount = 0) : live tr = [] := by
  have hcount := h.count
  rw [hzero] at hcount
  exact List.eq_nil_of_length_eq_zero (by omega)

/-- An event that is no `audio_hw_device_close` keeps what is known of these. -/
theorem DeviceInv.of_other {e : Event} (h : DeviceInv tr d) (he : e ≠ .audioHwDeviceClose)
    (hc : d'.mOpenedStreamsCount = (Event.apply (live tr) e).length)
    (ho : d'.openIds = Event.apply (live tr) e) (hn : (d'.streams.map StreamObject.id).Nodup)
    (hf : ∀ o ∈ d'.streams, o.id < d'.next) (ha : d'.aborted = false)
    (hcl : d'.mIsClosed = d.mIsClosed) : DeviceInv (tr ++ [e]) d' := by
  refine ⟨by rw [live_append]; exact hc, by rw [live_append]; exact ho, hn, hf, ha, fun hm => ?_, ?_, ?_⟩
  · rw [hcl]
    rcases List.mem_append.1 hm with hm | hm
    · exact h.closed hm
    · exact absurd (List.mem_singleton.1 hm).symm he
  · refine h.once.append_of_forall_not fun x hx => ?_
    rw [List.mem_singleton] at hx
    exact hx ▸ he
  · exact h.idle.snoc fun hx => absurd hx he

theorem deviceInv_openStreamCore (h : DeviceInv tr d) (dir : Dir) (converted : Bool) (status : ℤ) :
    DeviceInv (tr ++ (d.openStreamCore dir converted status).2.2)
      (d.openStreamCore dir converted status).2.1 := by
  unfold openStreamCore
  split_ifs
  · simpa using h
  · refine h.of_other (by simp) ?_ ?_ ?_ ?_ h.aborted rfl
    · simp [Event.apply, h.count]
    · dsimp only [Event.apply]
      rw [← h.openIds]
      simp [Device.openIds]
    · have hnot : d.next ∉ d.streams.map StreamObject.id := by
        intro hm
        obtain ⟨o, ho, he⟩ := List.mem_map.1 hm
        have := h.fresh o ho
        omega
      rw [List.map_append, List.map_singleton]
      refine List.nodup_append.2 ⟨h.nodup, List.nodup_singleton _, ?_⟩
      rintro k hk j hj rfl
      have hkn : k = d.next := by simpa using hj
      exact hnot (hkn ▸ hk)
    · intro o ho
      dsimp only at ho ⊢
      rcases List.mem_append.1 ho with ho | ho
      · have := h.fresh o ho
        omega
      · rw [List.mem_singleton] at ho
        subst ho
        exact Nat.lt_succ_self _
  · exact h.of_other (by simp) h.count h.openIds h.nodup h.fresh h.aborted rfl

theorem openIds_raiseStop (id : ℕ) : (d.raiseStop id).openIds = d.openIds.filter (· != id) := by
  unfold openIds raiseStop
  dsimp only
  induction d.streams with
  | nil => rfl
  | cons o os ih =>
    rw [List.map_cons, List.filter_cons, List.filter_cons]
    by_cases hid : o.id = id
    · rw [if_pos hid]
      cases hst : o.mStop <;> simp [hid, ih]
    · rw [if_neg hid]
      cases hst : o.mStop <;> simp [hid, ih]

theorem map_id_raiseStop (id : ℕ) :
    (d.raiseStop id).streams.map StreamObject.id = d.streams.map StreamObject.id := by
  unfold raiseStop
  dsimp only
  rw [List.map_map]
  refine List.map_congr_left fun o _ => ?_
  dsimp only [Function.comp]
  split_ifs <;> rfl

/-- A stream that is open is counted, so the check of the count does not fire. -/
theorem deviceInv_closeStream (h : DeviceInv tr d) (dir : Dir) {id : ℕ} (hid : id ∈ d.openIds) :
    DeviceInv (tr ++ ((d.raiseStop id).closeStream dir id).2) ((d.raiseStop id).closeStream dir id).1 := by
  have hmem : id ∈ live tr := h.openIds ▸ hid
  have hpos : 0 < (live tr).length := List.length_pos_of_mem hmem
  have hlen : ((live tr).filter (· != id)).length = (live tr).length - 1 := by
    rw [← h.nodup_live.erase_eq_filter, List.length_erase_of_mem hmem]
  have hcount : (d.raiseStop id).mOpenedStreamsCount = (live tr).length := h.count
  unfold closeStream
  rw [if_neg (by omega)]
  refine h.of_other (by simp) ?_ ?_ ?_ ?_ h.aborted rfl
  · dsimp only [Event.apply]
    rw [hlen, hcount]
    omega
  · dsimp only [Event.apply]
    rw [← h.openIds]
    exact openIds_raiseStop id
  · dsimp only
    rw [map_id_raiseStop]
    exact h.nodup
  · intro o ho
    have hm : o.id ∈ d.streams.map StreamObject.id :=
      map_id_raiseStop (d := d) id ▸ List.mem_map_of_mem ho
    obtain ⟨o', ho', he⟩ := List.mem_map.1 hm
    exact he ▸ h.fresh o' ho'

theorem deviceInv_streamClose (h : DeviceInv tr d) {o : StreamObject} (ho : o ∈ d.streams) :
    DeviceInv (tr ++ (d.streamClose o).2.2) (d.streamClose o).2.1 := by
  unfold streamClose
  split_ifs with hst
  · simpa using h
  · have hid : o.id ∈ d.openIds :=
      List.mem_map_of_mem (List.mem_filter.2 ⟨ho, by simpa using hst⟩)
    cases hd : o.dir with
    | output => exact deviceInv_closeStream h .output hid
    | input => exact deviceInv_closeStream h .input hid

theorem deviceInv_streamFree (h : DeviceInv tr d) {id : ℕ}
    (hid : (d.streams.any fun o => o.id == id && o.mStop) = true) :
    DeviceInv (tr ++ []) { d with streams := d.streams.filter fun o => o.id != id } := by
  obtain ⟨o, ho, hst⟩ := List.any_eq_true.1 hid
  simp only [Bool.and_eq_true, beq_iff_eq] at hst
  -- the object is the only one of its number, and it is closed
  have hall : ∀ o' ∈ d.streams, o'.id = id → o'.mStop = true := by
    intro o' ho' he
    have : o' = o := List.inj_on_of_nodup_map h.nodup ho' ho (he.trans hst.1.symm)
    rw [this]
    exact hst.2
  rw [List.append_nil]
  refine ⟨h.count, ?_, h.nodup.sublist (List.filter_sublist.map _),
    fun o' ho' => h.fresh o' (List.mem_of_mem_filter ho'), h.aborted, h.closed, h.once, h.idle⟩
  rw [← h.openIds]
  unfold openIds
  dsimp only
  rw [List.filter_filter]
  congr 1
  refine List.filter_congr fun o' ho' => ?_
  by_cases he : o'.id = id
  · simp [hall o' ho' he]
  · have hne : (o'.id != id) = true := bne_iff_ne.2 he
    rw [hne, Bool.and_true]

theorem deviceInv_doClose (h : DeviceInv tr d) (status : ℤ) :
    DeviceInv (tr ++ (d.doClose status).2.2) (d.doClose status).2.1 := by
  unfold doClose
  split_ifs with hc
  · simpa using h
  · simp only [Bool.or_eq_true, bne_iff_ne, ne_eq, not_or, Bool.not_eq_true, not_not] at hc
    obtain ⟨hopen, hzero⟩ := hc
    have hlive := h.live_eq_nil hzero
    have hnot := h.not_closed hopen
    refine ⟨?_, ?_, h.nodup, h.fresh, h.aborted, fun _ => rfl, ?_, h.idle.snoc fun _ => hlive⟩
    · rw [live_append]
      exact h.count
    · rw [live_append]
      exact h.openIds
    · refine h.once.append (noneAfter_singleton _) fun e he hce => ?_
      exact absurd (hce ▸ he) hnot

theorem deviceInv_step {a : Act} (h : DeviceInv tr d) (hs : lts.step d a = some (d', os)) :
    DeviceInv (tr ++ os) d' := by
  cases effect_of_step hs with
  | opensOutput converted status => exact deviceInv_openStreamCore h .output converted status
  | opensInput converted status => exact deviceInv_openStreamCore h .input converted status
  | closesStream id o ho => exact deviceInv_streamClose h ho
  | freesStream id hid => exact deviceInv_streamFree h hid
  | closes status => exact deviceInv_doClose h status
  | releases =>
    rw [List.append_nil]
    exact ⟨h.count, h.openIds, h.nodup, h.fresh, h.aborted, h.closed, h.once, h.idle⟩
  | destroys status =>
    have hd := deviceInv_doClose h status
    exact ⟨hd.count, hd.openIds, hd.nodup, hd.fresh, hd.aborted, hd.closed, hd.once, hd.idle⟩

theorem deviceInv_run {C : Device → Act → Prop} (h : lts.Run C tr d) : DeviceInv tr d := by
  refine h.inv ?_ fun hi _ hs => deviceInv_step hi hs
  exact ⟨rfl, rfl, List.nodup_nil, by simp [lts, create], rfl, by simp, noneAfter_nil, whenever_nil⟩

/-! ### Calls of a closed device -/

/-- No stream is opened on a closed device; what is refused before the legacy device is called may be
asked for. -/
def OpensBeforeClose (d : Device) : Act → Prop
  | .openOutputStream converted _ | .openInputStream converted _ =>
    converted = true → d.mIsClosed = false
  | _ => True

instance (d : Device) (a : Act) : Decidable (OpensBeforeClose d a) := by
  unfold OpensBeforeClose; split <;> infer_instance

/-- A closed device has no open stream, and its legacy device is not called. -/
structure ClosedInv (tr : List Event) (d : Device) : Prop where
  inv : DeviceInv tr d
  noneOpen : d.mIsClosed = true → live tr = []
  noneAfter : NoneAfter (· = .audioHwDeviceClose) (· ≠ .audioHwDeviceClose) tr

theorem closedInv_openStreamCore (h : ClosedInv tr d) (dir : Dir) {converted : Bool} (status : ℤ)
    (hc : converted = true → d.mIsClosed = false) :
    ClosedInv (tr ++ (d.openStreamCore dir converted status).2.2)
      (d.openStreamCore dir converted status).2.1 := by
  have hd := deviceInv_openStreamCore h.inv dir converted status
  have hclosed : (d.openStreamCore dir converted status).2.1.mIsClosed = d.mIsClosed := by
    unfold openStreamCore
    split_ifs <;> rfl
  cases converted with
  | false => exact ⟨hd, by simpa [openStreamCore] using h.noneOpen, by simpa [openStreamCore] using h.noneAfter⟩
  | true =>
    have hopen := hc rfl
    have hnot := h.inv.not_closed hopen
    refine ⟨hd, fun hm => ?_, h.noneAfter.append ?_ fun e he hce => absurd (hce ▸ he) hnot⟩
    · rw [hclosed, hopen] at hm
      cases hm
    · unfold openStreamCore
      split_ifs
      · exact noneAfter_nil
      · exact noneAfter_singleton _
      · exact noneAfter_singleton _

theorem closedInv_streamClose (h : ClosedInv tr d) {o : StreamObject} (ho : o ∈ d.streams) :
    ClosedInv (tr ++ (d.streamClose o).2.2) (d.streamClose o).2.1 := by
  have hd := deviceInv_streamClose h.inv ho
  cases hst : o.mStop with
  | true =>
    have he : d.streamClose o = (.invalidState, d, []) := by simp [streamClose, hst]
    rw [he, List.append_nil]
    exact h
  | false =>
    have hid : o.id ∈ live tr := by
      rw [← h.inv.openIds]
      exact List.mem_map_of_mem (List.mem_filter.2 ⟨ho, by simp [hst]⟩)
    have hopen : d.mIsClosed = false := by
      by_contra hne
      rw [h.noneOpen (by simpa using hne)] at hid
      cases hid
    have hnot := h.inv.not_closed hopen
    have hcl : ∀ dir, ((d.raiseStop o.id).closeStream dir o.id).1.mIsClosed = false ∧
        ∃ e, ((d.raiseStop o.id).closeStream dir o.id).2 = [e] := by
      intro dir
      unfold closeStream
      split_ifs <;> exact ⟨hopen, _, rfl⟩
    have he : ∃ dir, (d.streamClose o).2 = (d.raiseStop o.id).closeStream dir o.id := by
      unfold streamClose
      rw [hst]
      cases hdir : o.dir with
      | output => exact ⟨.output, rfl⟩
      | input => exact ⟨.input, rfl⟩
    obtain ⟨dir, he⟩ := he
    rw [he] at hd ⊢
    obtain ⟨hfalse, e, hev⟩ := hcl dir
    refine ⟨hd, fun hm => ?_, h.noneAfter.append ?_ fun e he hce => absurd (hce ▸ he) hnot⟩
    · rw [hfalse] at hm
      cases hm
    · rw [hev]
      exact noneAfter_singleton e

theorem closedInv_doClose (h : ClosedInv tr d) (status : ℤ) :
    ClosedInv (tr ++ (d.doClose status).2.2) (d.doClose status).2.1 := by
  have hd := deviceInv_doClose h.inv status
  unfold doClose at hd ⊢
  split_ifs at hd ⊢ with hc
  · simpa using h
  · refine ⟨hd, fun _ => ?_, h.noneAfter.append_of_forall_not ?_⟩
    · simp only [Bool.or_eq_true, bne_iff_ne, ne_eq, not_or, not_not] at hc
      rw [live_append]
      exact h.inv.live_eq_nil hc.2
    · intro e he
      rw [List.mem_singleton] at he
      simp [he]

theorem ClosedInv.step {a : Act} (hi : ClosedInv tr d) (hc : OpensBeforeClose d a)
    (hs : lts.step d a = some (d', os)) : ClosedInv (tr ++ os) d' := by
  have hd := deviceInv_step hi.inv hs
  cases effect_of_step hs with
  | opensOutput converted status => exact closedInv_openStreamCore hi .output status hc
  | opensInput converted status => exact closedInv_openStreamCore hi .input status hc
  | closesStream id o ho => exact closedInv_streamClose hi ho
  | freesStream | releases =>
    rw [List.append_nil] at hd ⊢
    exact ⟨hd, hi.noneOpen, hi.noneAfter⟩
  | closes status => exact closedInv_doClose hi status
  | destroys status =>
    have hcl := closedInv_doClose hi status
    exact ⟨hd, hcl.noneOpen, hcl.noneAfter⟩

theorem closedInv_run (h : lts.Run OpensBeforeClose tr d) : ClosedInv tr d := by
  refine h.inv ⟨deviceInv_run (C := OpensBeforeClose) .init, fun hm => ?_, noneAfter_nil⟩
    fun hi hc hs => hi.step hc hs
  cases hm

end

end Device

/-- **The lifetime of a device.**  In every run the count is the number of streams that are open, its
check does not fire, and `audio_hw_device_close` is called at most once, when no stream is open.  In
the runs that open no stream on a closed device, no other function of the legacy device is called after
it. -/
theorem device_lifetime (tr : List Device.Event) (d : Device) :
    (Device.lts.Reach tr d →
      d.mOpenedStreamsCount = (Device.live tr).length ∧ d.aborted = false ∧
        NoneAfter (· = .audioHwDeviceClose) (· = .audioHwDeviceClose) tr ∧
        Whenever (· = .audioHwDeviceClose) (fun pre => Device.live pre = []) tr) ∧
      (Device.lts.Run Device.OpensBeforeClose tr d →
        NoneAfter (· = .audioHwDeviceClose) (· ≠ .audioHwDeviceClose) tr) := by
  refine ⟨fun h => ?_, fun h => (Device.closedInv_run h).noneAfter⟩
  have hi := Device.deviceInv_run h
  exact ⟨hi.count, hi.aborted, hi.once, hi.idle⟩

/-- A stream is opened and closed, then the device is closed, and all goes. -/
def openAndClose : List Device.Act :=
  [.openOutputStream true 0, .close 0, .streamClose 0, .streamClose 0, .streamFree 0, .close 0, .release,
    .destroy 0]

theorem device_lifetime_openAndClose : ∃ tr d, Device.lts.Run Device.OpensBeforeClose tr d ∧
    tr = [.openStream .output (some 0), .closeStream .output 0, .audioHwDeviceClose] ∧
      d.mOpenedStreamsCount = 0 ∧
      NoneAfter (· = .audioHwDeviceClose) (· ≠ .audioHwDeviceClose) tr := by
  obtain ⟨tr, d, h, htr⟩ := Lts.exists_run (M := Device.lts) (C := Device.OpensBeforeClose)
    (P := fun tr _ => tr = [.openStream .output (some 0), .closeStream .output 0, .audioHwDeviceClose])
    openAndClose (by decide)
  have hcount := ((device_lifetime tr d).1 (h.mono fun _ _ _ => trivial)).1
  refine ⟨tr, d, h, htr, ?_, (device_lifetime tr d).2 h⟩
  rw [hcount, htr]
  rfl

/-- A stream is opened on a device that its client has closed: the legacy device is called. -/
theorem open_after_close : ∃ tr d, Device.lts.Reach tr d ∧
    ¬ NoneAfter (· = .audioHwDeviceClose) (· ≠ .audioHwDeviceClose) tr :=
  Lts.exists_run (M := Device.lts) [.close 0, .openOutputStream true 0] (by decide)

end TrebleDoze.Audio
