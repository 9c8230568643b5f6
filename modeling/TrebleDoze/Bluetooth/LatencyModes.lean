import TrebleDoze.Bluetooth.Session

/-!
# The latency modes of a session

`ReportLowLatencyModeAllowedChanged` and `GetSupportedLatencyModes` of the AIDL session: the stored list
comes from the last start of the session, an allowance adds `LOW_LATENCY` to it, and the flag of the
permission filters it when it is read.

* `LatencyHistory.Agrees`: what a history of calls says of the list and of the flag;
* `agrees_run`: it does, for every history;
* `supportedLatencyModes_run`: what is reported, and what a disallowance that is taken back leaves.
-/

namespace TrebleDoze.Bluetooth

variable {κ : Tag → Type}

namespace BluetoothAudioSession

/-! ### The functions -/

/-- `GetSupportedLatencyModes`. -/
def getSupportedLatencyModes (s : BluetoothAudioSession κ) : List LatencyMode :=
  if !s.isSessionReady then []
  else if s.sessionType = .leAudioHardwareOffloadEncoding then
    s.latencyModes.foldl (fun supported mode =>
      if mode == .lowLatency then supported else supported ++ [mode]) []
  else
    s.latencyModes.foldl (fun supported mode =>
      if !s.lowLatencyAllowed && mode == .lowLatency then supported
      else if mode == .dynamicSpatialAudioSoftware || mode == .dynamicSpatialAudioHardware then supported
      else supported ++ [mode]) []

/-- `latency_modes_.push_back(LOW_LATENCY)`, unless it is there. -/
def pushLowLatency (latencyModes : List LatencyMode) : List LatencyMode :=
  if .lowLatency ∉ latencyModes then latencyModes ++ [.lowLatency] else latencyModes

/-- `ReportLowLatencyModeAllowedChanged`. -/
def reportLowLatencyModeAllowedChanged (allowed : Bool) (s : BluetoothAudioSession κ) :
    BluetoothAudioSession κ × List Notification :=
  if s.sessionType ≠ .a2dpHardwareOffloadEncoding then (s, [])
  else
    let s := { s with lowLatencyAllowed := allowed }
    let s := if s.lowLatencyAllowed then { s with latencyModes := pushLowLatency s.latencyModes } else s
    (s, s.observers.filterMap fun o =>
      if o.2.lowLatencyModeAllowedCb then some (.lowLatencyModeAllowed o.1 allowed) else none)

/-- The calls that change the session, the report on the permission among them. -/
inductive LatencyCall (κ : Tag → Type) where
  | call (c : Call κ)
  | reportLowLatencyModeAllowedChanged (allowed : Bool)

/-- The session after a call. -/
def latencyCall (s : BluetoothAudioSession κ) : LatencyCall κ → BluetoothAudioSession κ
  | .call c => (s.call c).1
  | .reportLowLatencyModeAllowedChanged allowed => (s.reportLowLatencyModeAllowedChanged allowed).1

/-- The session after several calls. -/
def latencyCalls (s : BluetoothAudioSession κ) (cs : List (LatencyCall κ)) : BluetoothAudioSession κ :=
  cs.foldl latencyCall s

/-- The session after several reports on the permission. -/
def reports (s : BluetoothAudioSession κ) (bs : List Bool) : BluetoothAudioSession κ :=
  bs.foldl (fun s allowed => (s.reportLowLatencyModeAllowedChanged allowed).1) s

end BluetoothAudioSession

open BluetoothAudioSession

/-! ### What a history of calls says -/

/-- What of a history the latency modes depend on. -/
structure LatencyHistory where
  /-- The modes that the last successful start has brought. -/
  modes : List LatencyMode
  /-- What the last report says. -/
  allowed : Bool
  /-- A report since that start has allowed low latency. -/
  granted : Bool
  deriving DecidableEq, Repr

namespace LatencyHistory

/-- Before any call. -/
def init : LatencyHistory := ⟨[], true, false⟩

/-- One more call to a session of the type. -/
def call (t : SessionType) (h : LatencyHistory) : LatencyCall κ → LatencyHistory
  | .call (.onSessionStarted stackIface mqDesc audioConfig latencyModes) =>
    if stackIface.isSome ∧ acceptsTag t audioConfig.tag = true ∧ descOk mqDesc = true then
      { h with modes := latencyModes, granted := false }
    else h
  | .call _ => h
  | .reportLowLatencyModeAllowedChanged allowed =>
    if t = .a2dpHardwareOffloadEncoding then
      { h with allowed := allowed, granted := h.granted || allowed }
    else h

/-- A history of calls to a session of the type. -/
def calls (t : SessionType) (cs : List (LatencyCall κ)) : LatencyHistory := cs.foldl (call t) init

/-- The modes of the last start, and `LOW_LATENCY` if it has been granted since. -/
def stored (h : LatencyHistory) : List LatencyMode :=
  if h.granted then pushLowLatency h.modes else h.modes

/-- The session has what the history says. -/
structure Agrees (t : SessionType) (h : LatencyHistory) (s : BluetoothAudioSession κ) : Prop where
  sessionType : s.sessionType = t
  latencyModes : s.latencyModes = h.stored
  lowLatencyAllowed : s.lowLatencyAllowed = h.allowed

end LatencyHistory

/-- The modes that `GetSupportedLatencyModes` takes out. -/
def drops (t : SessionType) (allowed : Bool) (mode : LatencyMode) : Bool :=
  if t = .leAudioHardwareOffloadEncoding then mode == .lowLatency
  else (!allowed && mode == .lowLatency) ||
    (mode == .dynamicSpatialAudioSoftware || mode == .dynamicSpatialAudioHardware)

/-- What reports on the permission, of which the last one allows, make of the reported modes. -/
structure TakenBack (t : SessionType) (before after : List LatencyMode) : Prop where
  /-- The other session types ignore them. -/
  ignored : t ≠ .a2dpHardwareOffloadEncoding → after = before
  /-- `LOW_LATENCY` is reported then. -/
  added : t = .a2dpHardwareOffloadEncoding → .lowLatency ∈ after
  /-- What was reported comes back exactly if `LOW_LATENCY` was part of it. -/
  restored : t = .a2dpHardwareOffloadEncoding → (after = before ↔ .lowLatency ∈ before)
  /-- The other modes stay, in their order. -/
  others : after.filter (· != .lowLatency) = before.filter (· != .lowLatency)

/-! ### One call -/

theorem foldl_skip_eq_filter {α : Type} (skip : α → Bool) (xs acc : List α) :
    xs.foldl (fun acc x => if skip x then acc else acc ++ [x]) acc = acc ++ xs.filter (!skip ·) := by
  induction xs generalizing acc with
  | nil => exact (List.append_nil acc).symm
  | cons x xs ih =>
    rw [List.foldl_cons, ih, List.filter_cons]
    cases skip x <;> simp

theorem getSupportedLatencyModes_eq {s : BluetoothAudioSession κ} (h : s.isSessionReady = true) :
    s.getSupportedLatencyModes =
      s.latencyModes.filter (!drops s.sessionType s.lowLatencyAllowed ·) := by
  unfold getSupportedLatencyModes drops
  rw [if_neg (by rw [h]; decide)]
  split_ifs with htype
  · exact foldl_skip_eq_filter _ _ _
  · rw [← List.nil_append (List.filter _ _), ← foldl_skip_eq_filter]
    congr 1
    funext supported mode
    cases !s.lowLatencyAllowed && mode == .lowLatency <;> rfl

theorem pushLowLatency_cases (modes : List LatencyMode) :
    pushLowLatency modes = modes ∨
      .lowLatency ∉ modes ∧ pushLowLatency modes = modes ++ [.lowLatency] := by
  unfold pushLowLatency
  split_ifs with h
  · exact .inl rfl
  · exact .inr ⟨h, rfl⟩

theorem mem_pushLowLatency (modes : List LatencyMode) : .lowLatency ∈ pushLowLatency modes := by
  unfold pushLowLatency
  split_ifs with h
  · exact h
  · exact List.mem_append_right _ List.mem_cons_self

theorem pushLowLatency_of_mem {modes : List LatencyMode} (h : .lowLatency ∈ modes) :
    pushLowLatency modes = modes := if_neg (not_not.2 h)

theorem pushLowLatency_idem (modes : List LatencyMode) :
    pushLowLatency (pushLowLatency modes) = pushLowLatency modes :=
  pushLowLatency_of_mem (mem_pushLowLatency modes)

theorem report_of_ne {s : BluetoothAudioSession κ} (h : s.sessionType ≠ .a2dpHardwareOffloadEncoding)
    (allowed : Bool) : (s.reportLowLatencyModeAllowedChanged allowed).1 = s := by
  rw [reportLowLatencyModeAllowedChanged, if_pos h]

theorem report_of_eq {s : BluetoothAudioSession κ} (h : s.sessionType = .a2dpHardwareOffloadEncoding)
    (allowed : Bool) : (s.reportLowLatencyModeAllowedChanged allowed).1 =
      { s with
        lowLatencyAllowed := allowed
        latencyModes := if allowed then pushLowLatency s.latencyModes else s.latencyModes } := by
  rw [reportLowLatencyModeAllowedChanged, if_neg (not_not.2 h)]
  cases allowed <;> rfl

/-! ### Every history -/

namespace LatencyHistory

variable {t : SessionType} {h : LatencyHistory} {s : BluetoothAudioSession κ}

theorem agrees_init : Agrees t init (create (κ := κ) t) := ⟨rfl, rfl, rfl⟩

theorem stored_granted (allowed : Bool) :
    stored { h with allowed := allowed, granted := true } = pushLowLatency h.stored := by
  show pushLowLatency h.modes = pushLowLatency h.stored
  unfold stored
  split_ifs with hgranted
  · exact (pushLowLatency_idem h.modes).symm
  · rfl

theorem Agrees.onSessionStarted (ha : Agrees t h s) (stackIface : Option ℕ) (mqDesc : Option DataMQ)
    (audioConfig : AudioConfiguration κ) (latencyModes : List LatencyMode) :
    Agrees t (h.call t (.call (.onSessionStarted stackIface mqDesc audioConfig latencyModes)))
      (s.onSessionStarted stackIface mqDesc audioConfig latencyModes).1 := by
  obtain ⟨rfl, hmodes, hallowed⟩ := ha
  dsimp only [call]
  have hs := onSessionStarted_cases s mqDesc audioConfig latencyModes stackIface
  generalize s.onSessionStarted stackIface mqDesc audioConfig latencyModes = r at hs
  obtain ⟨s', ns⟩ := r
  cases hs with
  | noIface =>
    rw [if_neg (by simp)]
    exact ⟨rfl, hmodes, hallowed⟩
  | badConfig iface haccepts =>
    rw [if_neg (by simp [haccepts])]
    exact ⟨rfl, hmodes, hallowed⟩
  | badMq iface haccepts hdesc =>
    rw [if_neg (by simp [hdesc])]
    exact ⟨rfl, hmodes, hallowed⟩
  | ok iface haccepts hdesc =>
    rw [if_pos ⟨rfl, haccepts, hdesc⟩]
    exact ⟨rfl, rfl, hallowed⟩

theorem Agrees.report (ha : Agrees t h s) (allowed : Bool) :
    Agrees t (h.call (κ := κ) t (.reportLowLatencyModeAllowedChanged allowed))
      (s.reportLowLatencyModeAllowedChanged allowed).1 := by
  obtain ⟨rfl, hmodes, hallowed⟩ := ha
  dsimp only [call]
  split_ifs with htype
  · rw [report_of_eq htype]
    refine ⟨rfl, ?_, rfl⟩
    cases allowed with
    | false =>
      rw [Bool.or_false]
      exact hmodes
    | true =>
      rw [Bool.or_true, stored_granted, ← hmodes]
      rfl
  · rw [report_of_ne htype]
    exact ⟨rfl, hmodes, hallowed⟩

theorem Agrees.call (ha : Agrees t h s) (c : LatencyCall κ) :
    Agrees t (h.call t c) (s.latencyCall c) := by
  cases c with
  | reportLowLatencyModeAllowedChanged allowed => exact ha.report allowed
  | call c =>
    cases c with
    | onSessionStarted stackIface mqDesc audioConfig latencyModes =>
      exact ha.onSessionStarted stackIface mqDesc audioConfig latencyModes
    | onSessionEnded | registerStatusCback | unregisterStatusCback => exact ⟨ha.1, ha.2, ha.3⟩
    | reportAudioConfigChanged audioConfig =>
      dsimp only [latencyCall, BluetoothAudioSession.call,
        BluetoothAudioSession.reportAudioConfigChanged]
      split_ifs <;> exact ⟨ha.1, ha.2, ha.3⟩

theorem Agrees.calls (ha : Agrees t h s) (cs : List (LatencyCall κ)) :
    Agrees t (cs.foldl (LatencyHistory.call t) h) (s.latencyCalls cs) := by
  induction cs generalizing h s with
  | nil => exact ha
  | cons c cs ih => exact ih (ha.call c)

theorem agrees_run (t : SessionType) (cs : List (LatencyCall κ)) :
    Agrees t (calls t cs) ((create t).latencyCalls cs) := agrees_init.calls cs

end LatencyHistory

/-! ### Reports on the permission -/

section

variable {s : BluetoothAudioSession κ}

theorem reports_of_ne (h : s.sessionType ≠ .a2dpHardwareOffloadEncoding) (bs : List Bool) :
    s.reports bs = s := by
  induction bs with
  | nil => rfl
  | cons allowed bs ih =>
    rw [reports, List.foldl_cons, report_of_ne h]
    exact ih

theorem reports_append_singleton (bs : List Bool) (allowed : Bool) :
    s.reports (bs ++ [allowed]) = ((s.reports bs).reportLowLatencyModeAllowedChanged allowed).1 :=
  List.foldl_append

theorem reports_eq (h : s.sessionType = .a2dpHardwareOffloadEncoding) (bs : List Bool) :
    ∃ allowed modes, s.reports bs = { s with lowLatencyAllowed := allowed, latencyModes := modes } ∧
      (modes = s.latencyModes ∨ modes = pushLowLatency s.latencyModes) := by
  induction bs generalizing s with
  | nil => exact ⟨s.lowLatencyAllowed, s.latencyModes, rfl, .inl rfl⟩
  | cons b bs ih =>
    rw [reports, List.foldl_cons, report_of_eq h]
    obtain ⟨allowed, modes, heq, hmodes⟩ := ih (s := { s with
      lowLatencyAllowed := b
      latencyModes := if b then pushLowLatency s.latencyModes else s.latencyModes }) h
    refine ⟨allowed, modes, heq, ?_⟩
    cases b with
    | false => exact hmodes
    | true =>
      right
      rcases hmodes with rfl | rfl
      · rfl
      · exact pushLowLatency_idem _

theorem reports_allowed (h : s.sessionType = .a2dpHardwareOffloadEncoding) (bs : List Bool) :
    s.reports (bs ++ [true]) =
      { s with lowLatencyAllowed := true, latencyModes := pushLowLatency s.latencyModes } := by
  obtain ⟨allowed, modes, heq, hmodes⟩ := reports_eq h bs
  rw [reports_append_singleton, report_of_eq (by rw [heq]; exact h), heq]
  rcases hmodes with rfl | rfl
  · rfl
  · rw [if_pos rfl, pushLowLatency_idem]

theorem filter_pushLowLatency {keep : LatencyMode → Bool} (h : keep .lowLatency = false)
    (modes : List LatencyMode) : (pushLowLatency modes).filter keep = modes.filter keep := by
  rcases pushLowLatency_cases modes with heq | ⟨-, heq⟩
  · rw [heq]
  · rw [heq, List.filter_append, List.filter_cons_of_neg (by rw [h]; decide), List.filter_nil,
      List.append_nil]

theorem drops_of_ne (t : SessionType) (allowed allowed' : Bool) {mode : LatencyMode}
    (h : mode ≠ .lowLatency) : drops t allowed mode = drops t allowed' mode := by
  have hmode : (mode == .lowLatency) = false := beq_false_of_ne h
  rw [drops, drops, hmode, Bool.and_false, Bool.and_false]

theorem filter_others (t : SessionType) (allowed allowed' : Bool) (modes : List LatencyMode) :
    (modes.filter (!drops t allowed ·)).filter (· != .lowLatency) =
      (modes.filter (!drops t allowed' ·)).filter (· != .lowLatency) := by
  rw [List.filter_filter, List.filter_filter]
  refine List.filter_congr fun mode _ => ?_
  by_cases hmode : mode = .lowLatency
  · subst hmode
    rfl
  · rw [drops_of_ne t allowed allowed' hmode]

theorem takenBack_reports (hready : s.isSessionReady = true) (bs : List Bool) :
    TakenBack s.sessionType s.getSupportedLatencyModes
      (s.reports (bs ++ [true])).getSupportedLatencyModes := by
  by_cases htype : s.sessionType = .a2dpHardwareOffloadEncoding
  · have hafter : (s.reports (bs ++ [true])).getSupportedLatencyModes =
        (pushLowLatency s.latencyModes).filter (!drops s.sessionType true ·) := by
      rw [reports_allowed htype]
      exact getSupportedLatencyModes_eq hready
    rw [hafter, getSupportedLatencyModes_eq hready, htype]
    have hmem : LatencyMode.lowLatency ∈
        (pushLowLatency s.latencyModes).filter (!drops .a2dpHardwareOffloadEncoding true ·) :=
      List.mem_filter.2 ⟨mem_pushLowLatency _, rfl⟩
    refine ⟨fun h => absurd rfl h, fun _ => hmem, fun _ => ⟨fun heq => heq ▸ hmem, fun hbefore => ?_⟩, ?_⟩
    · obtain ⟨hstored, hkept⟩ := List.mem_filter.1 hbefore
      have hallowed : s.lowLatencyAllowed = true := by simpa [drops] using hkept
      rw [pushLowLatency_of_mem hstored, hallowed]
    · rw [filter_others _ true s.lowLatencyAllowed, List.filter_filter, List.filter_filter]
      exact filter_pushLowLatency rfl _
  · rw [reports_of_ne htype]
    exact ⟨fun _ => rfl, fun h => absurd h htype, fun h => absurd h htype, rfl⟩

end

/-- **The latency modes of a session**, after any history of calls: those that a ready session reports
are the stored ones in their order, without those that its type and a disallowance take out; the stored
ones are those of the last start, to which allowances have added `LOW_LATENCY` at most once; and what
reports that end with an allowance leave is `TakenBack`. -/
theorem supportedLatencyModes_run (t : SessionType) (cs : List (LatencyCall κ)) :
    (((create t).latencyCalls cs).isSessionReady = true →
        ((create t).latencyCalls cs).getSupportedLatencyModes =
          ((create t).latencyCalls cs).latencyModes.filter
            (!drops t (LatencyHistory.calls t cs).allowed ·)) ∧
      (((create t).latencyCalls cs).latencyModes = (LatencyHistory.calls t cs).modes ∨
        .lowLatency ∉ (LatencyHistory.calls t cs).modes ∧
          ((create t).latencyCalls cs).latencyModes =
            (LatencyHistory.calls t cs).modes ++ [.lowLatency]) ∧
      (((create t).latencyCalls cs).isSessionReady = true → ∀ bs : List Bool,
        TakenBack t ((create t).latencyCalls cs).getSupportedLatencyModes
          (((create t).latencyCalls cs).reports (bs ++ [true])).getSupportedLatencyModes) := by
  obtain ⟨htype, hmodes, hallowed⟩ := LatencyHistory.agrees_run t cs
  refine ⟨fun hready => ?_, ?_, fun hready bs => ?_⟩
  · rw [getSupportedLatencyModes_eq hready, htype, hallowed]
  · rw [hmodes, LatencyHistory.stored]
    split_ifs with hgranted
    · exact pushLowLatency_cases _
    · exact .inl rfl
  · have h := takenBack_reports hready bs
    rwa [htype] at h

/-- An A2DP offload that the stack starts with the mode `FREE` alone. -/
def freeHistory : List (LatencyCall NoPayload) :=
  [.call (.onSessionStarted (some 1) none ⟨.a2dpConfig, ()⟩ [.free])]

/-- `FREE` is reported, and after a disallowance that is taken back `LOW_LATENCY` too. -/
theorem freeHistory_not_restored : ¬ ∀ (t : SessionType) (cs : List (LatencyCall NoPayload)),
    ((create t).latencyCalls cs).isSessionReady = true →
      ∀ mode, mode ∈ (((create t).latencyCalls cs).reports [false, true]).getSupportedLatencyModes ↔
        mode ∈ ((create t).latencyCalls cs).getSupportedLatencyModes := by
  intro h
  have hlow := (h .a2dpHardwareOffloadEncoding freeHistory (by decide) .lowLatency).1 (by decide)
  exact absurd hlow (by decide)

end TrebleDoze.Bluetooth
