import TrebleDoze.Lib.Lts

/-!
# The slots of `phh-ota`

The commands that work on the two slots, and the reboots between them. Which slot is selected stands in
`/metadata/phh/img`; which one runs is in the environment, as `PHH_OTA_SLOT`.

* `Safe`: a command leaves the images of the running and of the selected slot alone;
* `Settled`: the two variables agree where a command relies on it;
* `steps_safe_iff`: the sequences of commands and reboots in which every command is safe.
-/

namespace TrebleDoze.Ota

open Lib

/-! ### The commands -/

/-- The slots. -/
inductive Slot where
  | a
  | b
deriving DecidableEq, Repr

/-- The name of a slot, as it is written to `/metadata/phh/img`. -/
def Slot.name : Slot → String
  | a => "a"
  | b => "b"

/-- The content of a variable begins with the name of the slot: `current_slot[0] == 'a'`. -/
def Slot.begins (t : Slot) (content : String) : Bool := content.toList.head? == t.name.toList.head?

/-- The content of `/metadata/phh/img`, if the file is there, and the variable `PHH_OTA_SLOT`. -/
structure State where
  img : Option String
  phhOtaSlot : Option String
deriving DecidableEq, Repr

/-- A call of the image manager for the image `system_otaphh_` of a slot. -/
inductive ImageCall where
  | unmapImageDevice (t : Slot)
  | deleteBackingImage (t : Slot)
  | createBackingImage (t : Slot)
  | mapImageDevice (t : Slot)
deriving DecidableEq, Repr

/-- `getNextSlot`. -/
def getNextSlot (img : Option String) : Slot := if img.any Slot.a.begins then .b else .a

/-- `switch-slot`. -/
def switchSlot (s : State) : State := { s with img := some (getNextSlot s.img).name }

/-- The image calls of `new-slot`; `created` is the answer of the image manager to the third. -/
def newSlot (created : Bool) (s : State) : List ImageCall :=
  let t := getNextSlot s.img
  [.unmapImageDevice t, .deleteBackingImage t, .createBackingImage t] ++
    if created then [.mapImageDevice t] else []

/-- The image calls of `delete-other-slot`. -/
def deleteOtherSlot (s : State) : List ImageCall :=
  match s.phhOtaSlot with
  | none => [.unmapImageDevice .a, .deleteBackingImage .a, .unmapImageDevice .b, .deleteBackingImage .b]
  | some current =>
    if Slot.a.begins current then [.unmapImageDevice .b, .deleteBackingImage .b]
    else if Slot.b.begins current then [.unmapImageDevice .a, .deleteBackingImage .a]
    else []

/-- A reboot runs the slot that is selected and exports it. -/
def reboot (s : State) : State := { s with phhOtaSlot := s.img }

/-- A command, or a reboot. -/
inductive Action where
  | newSlot (created : Bool)
  | switchSlot
  | deleteOtherSlot
  | reboot
deriving DecidableEq, Repr

/-- The system, from the state before the first `switch-slot` on. -/
def ota : Lts State Action ImageCall where
  init := ⟨none, none⟩
  step s action :=
    match action with
    | .newSlot created => some (s, newSlot created s)
    | .switchSlot => some (switchSlot s, [])
    | .deleteOtherSlot => some (s, deleteOtherSlot s)
    | .reboot => some (reboot s, [])

/-! ### What a command must leave alone -/

/-- The slot whose image a call unmaps or deletes. -/
def ImageCall.destroys : ImageCall → Option Slot
  | unmapImageDevice t => some t
  | deleteBackingImage t => some t
  | createBackingImage _ => none
  | mapImageDevice _ => none

/-- The slot is the one that runs or the one that is selected. -/
def Protected (s : State) (t : Slot) : Prop := s.phhOtaSlot = some t.name ∨ s.img = some t.name

instance (s : State) (t : Slot) : Decidable (Protected s t) := inferInstanceAs (Decidable (_ ∨ _))

/-- The action unmaps and deletes the image of no slot that is protected. -/
def Safe (s : State) (action : Action) : Prop :=
  ∀ s' calls, ota.step s action = some (s', calls) →
    ∀ t ∈ calls.filterMap ImageCall.destroys, ¬Protected s t

/-- The running and the selected slot agree where the action takes the one for the other: `new-slot`,
which spares the selected slot, and `delete-other-slot`, which spares the running one. -/
def Settled (s : State) : Action → Prop
  | .newSlot _ => s.phhOtaSlot = none ∨ s.phhOtaSlot = s.img
  | .deleteOtherSlot => s.phhOtaSlot = s.img
  | .switchSlot => True
  | .reboot => True

/-- What the variables hold: the names of slots, and a slot runs only if one is selected. -/
inductive Named : State → Prop
  | fresh : Named ⟨none, none⟩
  | selected (t : Slot) : Named ⟨some t.name, none⟩
  | running (t u : Slot) : Named ⟨some t.name, some u.name⟩

/-! ### Which slots the commands work on -/

theorem destroyed_newSlot (created : Bool) (s : State) :
    (newSlot created s).filterMap ImageCall.destroys = [getNextSlot s.img, getNextSlot s.img] := by
  cases created <;> rfl

section

variable {s s' : State} {action : Action} {calls : List ImageCall}

/-- A state is reached from the names of slots by writing the name of one, or by a reboot. -/
theorem Named.step (hs : Named s) (h : ota.step s action = some (s', calls)) : Named s' := by
  cases action with
  | newSlot created =>
    obtain ⟨rfl, -⟩ := Prod.mk.inj (Option.some.inj h)
    exact hs
  | deleteOtherSlot =>
    obtain ⟨rfl, -⟩ := Prod.mk.inj (Option.some.inj h)
    exact hs
  | switchSlot =>
    obtain ⟨rfl, -⟩ := Prod.mk.inj (Option.some.inj h)
    cases hs with
    | fresh => exact .selected _
    | selected t => exact .selected _
    | running t u => exact .running _ u
  | reboot =>
    obtain ⟨rfl, -⟩ := Prod.mk.inj (Option.some.inj h)
    cases hs with
    | fresh => exact .fresh
    | selected t => exact .running t t
    | running t u => exact .running t t

theorem safe_newSlot_iff (created : Bool) :
    Safe s (.newSlot created) ↔ ¬Protected s (getNextSlot s.img) := by
  constructor
  · intro h
    have hmem : getNextSlot s.img ∈ (newSlot created s).filterMap ImageCall.destroys := by
      rw [destroyed_newSlot]
      exact List.mem_cons_self
    exact h s _ rfl _ hmem
  · intro h s' calls hstep t ht
    obtain ⟨-, rfl⟩ := Prod.mk.inj (Option.some.inj hstep)
    rw [destroyed_newSlot] at ht
    have heq : t = getNextSlot s.img := by simpa using ht
    rw [heq]
    exact h

theorem safe_deleteOtherSlot_iff : Safe s .deleteOtherSlot ↔
    ∀ t ∈ (deleteOtherSlot s).filterMap ImageCall.destroys, ¬Protected s t := by
  constructor
  · intro h
    exact h s _ rfl
  · intro h s' calls hstep
    obtain ⟨-, rfl⟩ := Prod.mk.inj (Option.some.inj hstep)
    exact h

/-- On the states that are reached, an action is safe iff it is settled. -/
theorem safe_iff_settled (hs : Named s) (action : Action) : Safe s action ↔ Settled s action := by
  cases action with
  | newSlot created =>
    rw [safe_newSlot_iff]
    show ¬Protected s (getNextSlot s.img) ↔ s.phhOtaSlot = none ∨ s.phhOtaSlot = s.img
    cases hs with
    | fresh => decide
    | selected t => cases t <;> decide
    | running t u => cases t <;> cases u <;> decide
  | switchSlot =>
    refine iff_of_true (fun s' calls hstep t ht => ?_) trivial
    obtain ⟨-, rfl⟩ := Prod.mk.inj (Option.some.inj hstep)
    exact nomatch ht
  | deleteOtherSlot =>
    rw [safe_deleteOtherSlot_iff]
    show (∀ t ∈ (deleteOtherSlot s).filterMap ImageCall.destroys, ¬Protected s t) ↔
      s.phhOtaSlot = s.img
    cases hs with
    | fresh => decide
    | selected t => cases t <;> decide
    | running t u => cases t <;> cases u <;> decide
  | reboot =>
    refine iff_of_true (fun s' calls hstep t ht => ?_) trivial
    obtain ⟨-, rfl⟩ := Prod.mk.inj (Option.some.inj hstep)
    exact nomatch ht

end

/-- Every command of a sequence is safe iff every one of its steps is settled. -/
theorem steps_safe_iff (actions : List Action) :
    ota.Steps Safe ota.init actions ↔ ota.Steps Settled ota.init actions :=
  Lts.steps_congr Named.step safe_iff_settled .fresh actions

/-- A first update is written to the slot `a`, which is selected; without a reboot, `delete-other-slot`
takes it that no slot is in use, and deletes both. -/
theorem not_steps_safe : ¬∀ actions : List Action, ota.Steps Safe ota.init actions := by
  intro h
  obtain ⟨-, s₁, calls₁, hnew, -, s₂, calls₂, hswitch, hdelete, -⟩ :=
    h [.newSlot true, .switchSlot, .deleteOtherSlot]
  obtain ⟨rfl, -⟩ := Prod.mk.inj (Option.some.inj hnew)
  obtain ⟨rfl, -⟩ := Prod.mk.inj (Option.some.inj hswitch)
  exact hdelete _ _ rfl .a (by decide) (by decide)

end TrebleDoze.Ota
