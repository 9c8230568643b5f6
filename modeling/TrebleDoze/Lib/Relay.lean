import Mathlib.Logic.Function.Basic
import TrebleDoze.Lib.Lts

/-!
# A relay that answers for a silent service

A relay passes requests on to a service, one at a time, and the messages of the service's answers back.
When the service returns and a flag says that none of its messages has been noticed, the relay sends an
answer of its own.  The service answers a request at most once, at any time after it, and the messages
come in on their own: each sets the flag, and is passed on later.

* `Relay.step`: the relay and the service in any interleaving;
* `Relay.InTime`: an answer begins while its request waits for it, and no other message is noticed then;
* `Relay.inv_step`, `Relay.inv_run`: what holds then;
* `Relay.answered_once`: every request gets one answer.
-/

namespace TrebleDoze.Lib.Relay

variable {ρ μ : Type*}

/-- The service's answer to a request: there is none yet, or one of its messages has set the flag and not
been passed on, or the messages up to some have been passed on. -/
inductive Answer (μ : Type*) where
  | silent
  | noticed (m : μ) (rest : List μ)
  | passed (rest : List μ)

/-- What has not been passed on. -/
def Answer.due : Answer μ → List μ
  | .silent => []
  | .noticed m rest => m :: rest
  | .passed rest => rest

/-- The answer, with its messages seen through a map. -/
def Answer.map {ν : Type*} (f : μ → ν) : Answer μ → Answer ν
  | .silent => .silent
  | .noticed m rest => .noticed (f m) (rest.map f)
  | .passed rest => .passed (rest.map f)

theorem Answer.due_map {ν : Type*} (f : μ → ν) (answer : Answer μ) :
    (answer.map f).due = answer.due.map f := by
  cases answer <;> rfl

/-- The relay waits for the service, or sends an answer of its own to the request. -/
inductive Place (ρ μ : Type*) where
  | idle
  | asking (k : ℕ) (r : ρ)
  | sending (k : ℕ) (r : ρ) (m : μ) (rest : List μ)

/-- The request that the relay is at. -/
def Place.current : Place ρ μ → Option ℕ
  | .idle => none
  | .asking k _ => some k
  | .sending k _ _ _ => some k

/-- How a request has ended. -/
inductive End (ρ : Type*) where
  | pending
  | refused
  | done (r : ρ)
  deriving DecidableEq

/-- The flag, where the relay is, the number of requests, how each has ended, and the service's answers. -/
structure State (ρ μ : Type*) where
  answered : Bool
  place : Place ρ μ
  count : ℕ
  ended : ℕ → End ρ
  answers : ℕ → Answer μ

/-- A request is passed on; the service begins its answer, has a further message noticed, or a noticed one
passed on; it returns, and the relay has an answer at hand; it refuses the request; the relay sends a
message of its own. -/
inductive Act (ρ μ : Type*) where
  | ask (r : ρ)
  | answer (k : ℕ) (m : μ) (rest : List μ)
  | notice (k : ℕ)
  | pass (k : ℕ)
  | returned (m : μ) (rest : List μ)
  | refuse
  | send

/-- A step; a message goes out with the request that it is for. -/
def step (s : State ρ μ) : Act ρ μ → Option (State ρ μ × List (ℕ × μ))
  | .ask r =>
    match s.place with
    | .idle => some ({ s with answered := false, place := .asking s.count r, count := s.count + 1 }, [])
    | .asking _ _ | .sending _ _ _ _ => none
  | .answer k m rest =>
    match s.answers k with
    | .silent =>
      if k < s.count then
        some ({ s with answered := true, answers := Function.update s.answers k (.noticed m rest) }, [])
      else none
    | .noticed _ _ | .passed _ => none
  | .notice k =>
    match s.answers k with
    | .passed (m :: rest) =>
      some ({ s with answered := true, answers := Function.update s.answers k (.noticed m rest) }, [])
    | .passed [] | .silent | .noticed _ _ => none
  | .pass k =>
    match s.answers k with
    | .noticed m rest =>
      some ({ s with answers := Function.update s.answers k (.passed rest) }, [(k, m)])
    | .silent | .passed _ => none
  | .returned m rest =>
    match s.place with
    | .asking k r =>
      if s.answered then
        some ({ s with place := .idle, ended := Function.update s.ended k (.done r) }, [])
      else some ({ s with place := .sending k r m rest }, [])
    | .idle | .sending _ _ _ _ => none
  | .refuse =>
    match s.place with
    | .asking k _ => some ({ s with place := .idle, ended := Function.update s.ended k .refused }, [])
    | .idle | .sending _ _ _ _ => none
  | .send =>
    match s.place with
    | .sending k r m [] =>
      some ({ s with place := .idle, ended := Function.update s.ended k (.done r) }, [(k, m)])
    | .sending k r m (m' :: rest) => some ({ s with place := .sending k r m' rest }, [(k, m)])
    | .idle | .asking _ _ => none

/-- The relay before the first request. -/
def init : State ρ μ := ⟨false, .idle, 0, fun _ => .pending, fun _ => .silent⟩

/-- The relay and its service. -/
def relay (ρ μ : Type*) : Lts (State ρ μ) (Act ρ μ) (ℕ × μ) := ⟨init, step⟩

/-- The messages for a request. -/
def messages (k : ℕ) (tr : List (ℕ × μ)) : List μ := (tr.filter fun e => e.1 = k).map Prod.snd

/-- The service begins an answer while the request waits for it, unless it has refused the request; while
a request waits, only messages for it are noticed; and all answers are good ones. -/
def InTime (good : ρ → List μ → Prop) (s : State ρ μ) : Act ρ μ → Prop
  | .answer k m rest =>
    match s.place with
    | .asking j r => j = k ∧ good r (m :: rest)
    | .idle | .sending _ _ _ _ => s.ended k = .refused
  | .notice k => ∀ j r, s.place = .asking j r → j = k
  | .returned m rest => ∀ k r, s.place = .asking k r → good r (m :: rest)
  | .ask _ | .pass _ | .refuse | .send => True

/-! ### The steps that are enabled -/

section

variable {s : State ρ μ} {k : ℕ} {r : ρ} {m : μ} {rest : List μ}

theorem step_ask (h : s.place = .idle) (r : ρ) : step s (.ask r) = some ({ s with
    answered := false, place := .asking s.count r, count := s.count + 1 }, []) := by
  rw [step, h]

theorem step_answer (h : s.answers k = .silent) (hk : k < s.count) (m : μ) (rest : List μ) :
    step s (.answer k m rest) = some ({ s with
      answered := true, answers := Function.update s.answers k (.noticed m rest) }, []) := by
  rw [step, h]
  exact if_pos hk

theorem step_notice (h : s.answers k = .passed (m :: rest)) : step s (.notice k) = some ({ s with
    answered := true, answers := Function.update s.answers k (.noticed m rest) }, []) := by
  rw [step, h]

theorem step_pass (h : s.answers k = .noticed m rest) : step s (.pass k) =
    some ({ s with answers := Function.update s.answers k (.passed rest) }, [(k, m)]) := by
  rw [step, h]

theorem step_returned_answered (h : s.place = .asking k r) (ha : s.answered = true) (m : μ)
    (rest : List μ) : step s (.returned m rest) =
      some ({ s with place := .idle, ended := Function.update s.ended k (.done r) }, []) := by
  rw [step, h]
  exact if_pos ha

theorem step_returned_silent (h : s.place = .asking k r) (ha : s.answered = false) (m : μ)
    (rest : List μ) : step s (.returned m rest) =
      some ({ s with place := .sending k r m rest }, []) := by
  rw [step, h]
  exact if_neg (ha ▸ Bool.false_ne_true)

theorem step_refuse (h : s.place = .asking k r) : step s .refuse =
    some ({ s with place := .idle, ended := Function.update s.ended k .refused }, []) := by
  rw [step, h]

theorem step_send_last (h : s.place = .sending k r m []) : step s .send =
    some ({ s with place := .idle, ended := Function.update s.ended k (.done r) }, [(k, m)]) := by
  rw [step, h]

theorem step_send_next {m' : μ} (h : s.place = .sending k r m (m' :: rest)) : step s .send =
    some ({ s with place := .sending k r m' rest }, [(k, m)]) := by
  rw [step, h]

theorem inTime_returned {good : ρ → List μ → Prop} (h : s.place = .asking k r)
    (hgood : good r (m :: rest)) : InTime good s (.returned m rest) := by
  intro j q hj
  rw [h] at hj
  obtain ⟨rfl, rfl⟩ := Place.asking.inj hj
  exact hgood

end

/-! ### The invariant -/

section

variable {k j : ℕ} {m : μ} {tr tr' : List (ℕ × μ)}

theorem messages_append : messages k (tr ++ tr') = messages k tr ++ messages k tr' := by
  unfold messages
  rw [List.filter_append, List.map_append]

theorem messages_self : messages k [(k, m)] = [m] := by simp [messages]

theorem messages_of_ne (h : j ≠ k) : messages k [(j, m)] = [] := by simp [messages, h]

theorem messages_concat_self : messages k (tr ++ [(k, m)]) = messages k tr ++ [m] := by
  rw [messages_append, messages_self]

theorem messages_concat_of_ne (h : j ≠ k) : messages k (tr ++ [(j, m)]) = messages k tr := by
  rw [messages_append, messages_of_ne h, List.append_nil]

theorem messages_filterMap {ω : Type*} (g : ω → Option (ℕ × μ)) (l : List ω) :
    messages k (l.filterMap g) = l.filterMap fun e => ((g e).filter fun p => p.1 = k).map Prod.snd := by
  rw [messages, List.filter_filterMap, List.map_filterMap]

theorem mem_messages : m ∈ messages k tr ↔ (k, m) ∈ tr := by simp [messages]

/-- A message for each of the first `n` requests, and none for others, are `n` messages. -/
theorem length_of_single {n : ℕ} (hone : ∀ k < n, (messages k tr).length = 1)
    (hnone : ∀ k, n ≤ k → messages k tr = []) : tr.length = n := by
  have hperm : (tr.map Prod.fst).Perm (List.range n) := by
    rw [List.perm_iff_count]
    intro k
    have hcount : (tr.map Prod.fst).count k = (messages k tr).length := by
      rw [List.count_eq_countP, List.countP_map, List.countP_eq_length_filter, messages, List.length_map]
      congr
    rw [hcount, List.nodup_range.count]
    by_cases hk : k < n
    · rw [hone k hk, if_pos (List.mem_range.2 hk)]
    · rw [hnone k (Nat.not_lt.1 hk), if_neg (mt List.mem_range.1 hk), List.length_nil]
  calc tr.length = (tr.map Prod.fst).length := (List.length_map _).symm
    _ = n := by rw [hperm.length_eq, List.length_range]

end

/-- What holds in every run that is in time: the requests that are done have been answered well by what
has been passed on and what is due; the one that waits has, if anything, an answer of the service; and
the one that the relay answers itself has none. -/
structure Inv (good : ρ → List μ → Prop) (tr : List (ℕ × μ)) (s : State ρ μ) : Prop where
  done : ∀ k r, s.ended k = .done r → good r (messages k tr ++ (s.answers k).due)
  asking : ∀ k r, s.place = .asking k r →
    (s.answers k = .silent ∧ s.answered = false ∧ messages k tr = []) ∨
      (s.answers k ≠ .silent ∧ s.answered = true ∧ good r (messages k tr ++ (s.answers k).due))
  sending : ∀ k r m rest, s.place = .sending k r m rest →
    s.answers k = .silent ∧ good r (messages k tr ++ m :: rest)
  current : ∀ k, s.place.current = some k → k < s.count ∧ s.ended k = .pending
  fresh : ∀ k, s.count ≤ k → s.ended k = .pending ∧ s.answers k = .silent ∧ messages k tr = []
  ends : ∀ k < s.count, s.ended k = .pending → s.place.current = some k

section

variable {good : ρ → List μ → Prop} {tr tr' : List (ℕ × μ)} {s s' : State ρ μ} {a : Act ρ μ}
  {os : List (ℕ × μ)} {k : ℕ} {r : ρ} {m : μ} {rest : List μ}

theorem inv_init : Inv good [] (init : State ρ μ) where
  done := fun _ _ h => by cases h
  asking := fun _ _ h => by cases h
  sending := fun _ _ _ _ h => by cases h
  current := fun _ h => by cases h
  fresh := fun _ _ => ⟨rfl, rfl, rfl⟩
  ends := fun _ h => absurd h (Nat.not_lt_zero _)

theorem Inv.ask (h : Inv good tr s) (hp : s.place = .idle) (r : ρ) :
    Inv good tr { s with answered := false, place := .asking s.count r, count := s.count + 1 } where
  done := h.done
  asking := by
    intro k q hk
    obtain ⟨rfl, rfl⟩ := Place.asking.inj hk
    obtain ⟨-, hs, hm⟩ := h.fresh _ (Nat.le_refl _)
    exact .inl ⟨hs, rfl, hm⟩
  sending := fun _ _ _ _ hk => by cases hk
  current := by
    intro k hk
    obtain rfl := Option.some.inj hk
    exact ⟨Nat.lt_succ_self _, (h.fresh _ (Nat.le_refl _)).1⟩
  fresh := fun k hk => h.fresh k (Nat.le_of_succ_le hk)
  ends := by
    intro k hk he
    rcases Nat.lt_succ_iff_lt_or_eq.1 hk with hlt | rfl
    · have hcur := h.ends k hlt he
      rw [hp] at hcur
      cases hcur
    · rfl

/-- A message sets the flag: the answers to the other requests are the same, and a request that waits gets
a good answer. -/
theorem Inv.noticed (h : Inv good tr s) (hlt : k < s.count)
    (hdone : ∀ r, s.ended k = .done r → good r (messages k tr ++ m :: rest))
    (hasking : ∀ j r, s.place = .asking j r → j = k ∧ good r (messages k tr ++ m :: rest))
    (hsending : ∀ r m' rest', s.place ≠ .sending k r m' rest') :
    Inv good tr { s with
      answered := true, answers := Function.update s.answers k (.noticed m rest) } where
  done := by
    intro j r hj
    dsimp only
    by_cases hk : j = k
    · subst hk
      rw [Function.update_self]
      exact hdone r hj
    · rw [Function.update_of_ne hk]
      exact h.done j r hj
  asking := by
    intro j r hj
    obtain ⟨rfl, hgood⟩ := hasking j r hj
    dsimp only
    rw [Function.update_self]
    exact .inr ⟨by simp, rfl, hgood⟩
  sending := by
    intro j r m' rest' hj
    have hk : j ≠ k := by
      rintro rfl
      exact hsending r m' rest' hj
    dsimp only
    rw [Function.update_of_ne hk]
    exact h.sending j r m' rest' hj
  current := h.current
  fresh := by
    intro j hj
    have hk : j ≠ k := by
      rintro rfl
      exact absurd hlt (Nat.not_lt.2 hj)
    dsimp only
    rw [Function.update_of_ne hk]
    exact h.fresh j hj
  ends := h.ends

theorem Inv.pass (h : Inv good tr s) (hk : s.answers k = .noticed m rest) :
    Inv good (tr ++ [(k, m)]) { s with answers := Function.update s.answers k (.passed rest) } := by
  -- nothing is lost between the messages and what is due
  have hsum : ∀ j, messages j (tr ++ [(k, m)]) ++ (Function.update s.answers k (.passed rest) j).due =
      messages j tr ++ (s.answers j).due := by
    intro j
    by_cases hj : k = j
    · subst hj
      rw [messages_concat_self, Function.update_self, hk]
      simp [Answer.due]
    · rw [messages_concat_of_ne hj, Function.update_of_ne (Ne.symm hj)]
  have hother : ∀ j, s.answers j = .silent → Function.update s.answers k (.passed rest) j = .silent ∧
      messages j (tr ++ [(k, m)]) = messages j tr := by
    intro j hj
    have hne : k ≠ j := by
      rintro rfl
      rw [hk] at hj
      cases hj
    rw [Function.update_of_ne hne.symm]
    exact ⟨hj, messages_concat_of_ne hne⟩
  refine ⟨fun j r hj => ?_, fun j r hj => ?_, fun j r m' rest' hj => ?_, h.current, fun j hj => ?_, h.ends⟩
  · dsimp only
    rw [hsum]
    exact h.done j r hj
  · dsimp only
    rw [hsum]
    rcases h.asking j r hj with ⟨hs, ha, hm⟩ | ⟨hs, ha, hgood⟩
    · obtain ⟨hs', hm'⟩ := hother j hs
      exact .inl ⟨hs', ha, hm'.trans hm⟩
    · refine .inr ⟨?_, ha, hgood⟩
      by_cases hjk : j = k
      · subst hjk
        rw [Function.update_self]
        simp
      · rw [Function.update_of_ne hjk]
        exact hs
  · obtain ⟨hs, hgood⟩ := h.sending j r m' rest' hj
    obtain ⟨hs', hm'⟩ := hother j hs
    exact ⟨hs', hm' ▸ hgood⟩
  · obtain ⟨he, hs, hm⟩ := h.fresh j hj
    obtain ⟨hs', hm'⟩ := hother j hs
    exact ⟨he, hs', hm'.trans hm⟩

theorem Inv.over {e : End ρ} (h : Inv good tr s) (hcur : s.place.current = some k)
    (hm : ∀ j, j ≠ k → messages j tr' = messages j tr) (he : e ≠ .pending)
    (hdone : ∀ r, e = .done r → good r (messages k tr' ++ (s.answers k).due)) :
    Inv good tr' { s with place := .idle, ended := Function.update s.ended k e } := by
  obtain ⟨hlt, -⟩ := h.current k hcur
  refine ⟨fun j r hj => ?_, fun j r hj => (by cases hj), fun j r m rest hj => (by cases hj),
    fun j hj => (by cases hj), fun j hj => ?_, fun j hj hp => ?_⟩
  · by_cases hk : j = k
    · subst hk
      exact hdone r ((Function.update_self j e s.ended).symm.trans hj)
    · have hj' : s.ended j = .done r := (Function.update_of_ne hk e s.ended).symm.trans hj
      rw [hm j hk]
      exact h.done j r hj'
  · have hk : j ≠ k := by
      rintro rfl
      exact absurd hlt (Nat.not_lt.2 hj)
    dsimp only
    rw [Function.update_of_ne hk, hm j hk]
    exact h.fresh j hj
  · dsimp only at hp
    by_cases hk : j = k
    · subst hk
      rw [Function.update_self] at hp
      exact absurd hp he
    · rw [Function.update_of_ne hk] at hp
      have hj' := h.ends j hj hp
      rw [hcur] at hj'
      exact absurd (Option.some.inj hj').symm hk

theorem Inv.send {m' : μ} (h : Inv good tr s) (hp : s.place = .sending k r m (m' :: rest)) :
    Inv good (tr ++ [(k, m)]) { s with place := .sending k r m' rest } := by
  have hcur : s.place.current = some k := by rw [hp]; rfl
  obtain ⟨hlt, hpend⟩ := h.current k hcur
  refine ⟨fun j q hj => ?_, fun j q hj => (by cases hj), fun j q n l hj => ?_, fun j hj => ?_,
    fun j hj => ?_, fun j hj hpj => ?_⟩
  · have hk : k ≠ j := by
      rintro rfl
      rw [hpend] at hj
      cases hj
    rw [messages_concat_of_ne hk]
    exact h.done j q hj
  · obtain ⟨rfl, rfl, rfl, rfl⟩ := Place.sending.inj hj
    obtain ⟨hs, hgood⟩ := h.sending _ _ _ _ hp
    refine ⟨hs, ?_⟩
    rw [messages_concat_self, List.append_assoc]
    exact hgood
  · obtain rfl := Option.some.inj hj
    exact ⟨hlt, hpend⟩
  · have hk : k ≠ j := by
      rintro rfl
      exact absurd hlt (Nat.not_lt.2 hj)
    rw [messages_concat_of_ne hk]
    exact h.fresh j hj
  · have hj' := h.ends j hj hpj
    rw [hcur] at hj'
    exact hj'

/-- The service has returned without a message, and the relay answers itself. -/
theorem Inv.returned (h : Inv good tr s) (hp : s.place = .asking k r) (ha : s.answered = false)
    (hgood : good r (m :: rest)) : Inv good tr { s with place := .sending k r m rest } := by
  have hcur : s.place.current = some k := by rw [hp]; rfl
  refine ⟨h.done, fun j q hj => (by cases hj), fun j q n l hj => ?_, fun j hj => ?_, h.fresh,
    fun j hj hpj => ?_⟩
  · obtain ⟨rfl, rfl, rfl, rfl⟩ := Place.sending.inj hj
    rcases h.asking _ _ hp with ⟨hs, -, hm⟩ | ⟨-, ha', -⟩
    · exact ⟨hs, by rw [hm, List.nil_append]; exact hgood⟩
    · rw [ha] at ha'
      cases ha'
  · obtain rfl := Option.some.inj hj
    exact h.current _ hcur
  · have hj' := h.ends j hj hpj
    rw [hcur] at hj'
    exact hj'

theorem inTime_answer (h : InTime good s (.answer k m rest)) :
    (∃ r, s.place = .asking k r ∧ good r (m :: rest)) ∨
      (∀ j r, s.place ≠ .asking j r) ∧ s.ended k = .refused := by
  unfold InTime at h
  dsimp only at h
  split at h
  case h_1 j r hp => exact .inl ⟨r, h.1 ▸ hp, h.2⟩
  case h_2 hp => exact .inr ⟨fun j r hj => (by rw [hp] at hj; cases hj), h⟩
  case h_3 hp => exact .inr ⟨fun j r hj => (by rw [hp] at hj; cases hj), h⟩

theorem Inv.answer (h : Inv good tr s) (hc : InTime good s (.answer k m rest))
    (hk : s.answers k = .silent) (hlt : k < s.count) : Inv good tr { s with
      answered := true, answers := Function.update s.answers k (.noticed m rest) } := by
  rcases inTime_answer hc with ⟨r, hp, hgood⟩ | ⟨hp, hrefused⟩
  · have hcur : s.place.current = some k := by rw [hp]; rfl
    have hpend := (h.current k hcur).2
    have hm : messages k tr = [] := by
      rcases h.asking k r hp with ⟨-, -, hm⟩ | ⟨hs, -, -⟩
      · exact hm
      · exact absurd hk hs
    refine h.noticed hlt (fun q hq => ?_) (fun j q hj => ?_) fun q m' rest' hq => ?_
    · rw [hpend] at hq
      cases hq
    · rw [hp] at hj
      obtain ⟨rfl, rfl⟩ := Place.asking.inj hj
      exact ⟨rfl, hm ▸ hgood⟩
    · rw [hp] at hq
      cases hq
  · refine h.noticed hlt (fun q hq => ?_) (fun j q hj => absurd hj (hp j q)) fun q m' rest' hq => ?_
    · rw [hrefused] at hq
      cases hq
    · have hcur : s.place.current = some k := by rw [hq]; rfl
      have hpend := (h.current k hcur).2
      rw [hrefused] at hpend
      cases hpend

theorem Inv.notice (h : Inv good tr s) (hc : InTime good s (.notice k))
    (hk : s.answers k = .passed (m :: rest)) : Inv good tr { s with
      answered := true, answers := Function.update s.answers k (.noticed m rest) } := by
  have hdue : (s.answers k).due = m :: rest := by rw [hk]; rfl
  have hns : s.answers k ≠ .silent := by rw [hk]; simp
  have hlt : k < s.count := by
    by_contra hge
    exact hns (h.fresh k (Nat.not_lt.1 hge)).2.1
  refine h.noticed hlt (fun q hq => hdue ▸ h.done k q hq) (fun j q hj => ?_) fun q m' rest' hq => ?_
  · obtain rfl := hc j q hj
    rcases h.asking j q hj with ⟨hs, -, -⟩ | ⟨-, -, hgood⟩
    · exact absurd hs hns
    · exact ⟨rfl, hdue ▸ hgood⟩
  · exact absurd (h.sending k q m' rest' hq).1 hns

theorem inv_step (h : Inv good tr s) (hc : InTime good s a) (hs : step s a = some (s', os)) :
    Inv good (tr ++ os) s' := by
  unfold step at hs
  cases a with
  | ask r =>
    dsimp only at hs
    split at hs
    case h_1 hp =>
      cases hs
      rw [List.append_nil]
      exact h.ask hp r
    all_goals cases hs
  | answer k m rest =>
    dsimp only at hs
    split at hs
    case h_1 hk =>
      split_ifs at hs with hlt
      cases hs
      rw [List.append_nil]
      exact h.answer hc hk hlt
    all_goals cases hs
  | notice k =>
    dsimp only at hs
    split at hs
    case h_1 m rest hk =>
      cases hs
      rw [List.append_nil]
      exact h.notice hc hk
    all_goals cases hs
  | pass k =>
    dsimp only at hs
    split at hs
    case h_1 m rest hk =>
      cases hs
      exact h.pass hk
    all_goals cases hs
  | returned m rest =>
    dsimp only at hs
    split at hs
    case h_1 k r hp =>
      split_ifs at hs with ha
      · cases hs
        rw [List.append_nil]
        refine h.over (by rw [hp]; rfl) (fun _ _ => rfl) (by simp) fun q hq => ?_
        obtain rfl := End.done.inj hq
        rcases h.asking k r hp with ⟨-, ha', -⟩ | ⟨-, -, hgood⟩
        · rw [ha] at ha'
          cases ha'
        · exact hgood
      · cases hs
        rw [List.append_nil]
        exact h.returned hp (Bool.not_eq_true _ ▸ ha) (hc k r hp)
    all_goals cases hs
  | refuse =>
    dsimp only at hs
    split at hs
    case h_1 k r hp =>
      cases hs
      rw [List.append_nil]
      exact h.over (by rw [hp]; rfl) (fun _ _ => rfl) (by simp) fun q hq => by cases hq
    all_goals cases hs
  | send =>
    dsimp only at hs
    split at hs
    case h_1 k r m hp =>
      cases hs
      obtain ⟨hsilent, hgood⟩ := h.sending k r m [] hp
      refine h.over (by rw [hp]; rfl) (fun j hj => messages_concat_of_ne (Ne.symm hj)) (by simp)
        fun q hq => ?_
      obtain rfl := End.done.inj hq
      rw [messages_concat_self, hsilent]
      exact (List.append_nil _).symm ▸ hgood
    case h_2 k r m m' rest hp =>
      cases hs
      exact h.send hp
    all_goals cases hs

theorem inv_run (h : (relay ρ μ).Run (InTime good) tr s) : Inv good tr s :=
  h.inv inv_init fun hi hc hs => inv_step hi hc hs

/-- **Every request gets one answer.**  In every run in which the service is in time, each request is
refused, or the relay is at it, or it is done, and then what has been passed on for it and what is due
are a good answer; nothing has been passed on for requests that there have not been. -/
theorem answered_once (h : (relay ρ μ).Run (InTime good) tr s) :
    (∀ k < s.count, s.place.current = some k ∨ s.ended k = .refused ∨ ∃ r, s.ended k = .done r) ∧
      (∀ k r, s.ended k = .done r → good r (messages k tr ++ (s.answers k).due)) ∧
        ∀ k, s.count ≤ k → messages k tr = [] := by
  have hinv := inv_run h
  refine ⟨fun k hk => ?_, hinv.done, fun k hk => (hinv.fresh k hk).2.2⟩
  cases he : s.ended k with
  | pending => exact .inl (hinv.ends k hk he)
  | refused => exact .inr (.inl rfl)
  | done r => exact .inr (.inr ⟨r, rfl⟩)

end

end TrebleDoze.Lib.Relay
