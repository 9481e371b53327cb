import Mathlib.Logic.Function.Basic

/-!
# `Assembly.Children` — two redundant devices under one assembly

What `GyroAssembly` and `GPSAssembly` have in common: the mode table with an entry for each of the two
children, the choice of a usable child, the check of the children's modes and the list of the valid modes.
The four functions are the same text in both classes. `executeTable`, which commands the children, is of
the base class and not part of the repository; `ExecuteTable` says what is used of it.
-/

namespace Obsw
namespace Assembly

abbrev Mode := UInt32

abbrev Submode := UInt8

/-! ## Modes -/

def modeOff : Mode := 0
def modeOn : Mode := 1
def modeNormal : Mode := 2

def submodeNone : Submode := 0

/-- `SINGLE` and `DUAL`, the submodes of the assemblies. -/
def single : Submode := 0
def dual : Submode := 1

/-- The return values of the assemblies. -/
inductive ReturnValue where
  | returnOk
  | needSecondStep
  | notEnoughChildrenInCorrectState
  | invalidSubmode
  | invalidMode
  deriving DecidableEq, Repr

/-- `Device::ONE` and `Device::TWO`. -/
inductive Device where
  | one
  | two
  deriving DecidableEq, Repr

def Device.other : Device → Device
  | .one => .two
  | .two => .one

/-- A mode with its submode: an entry of the mode table, or what a child is in. -/
structure ModeListEntry where
  mode : Mode
  submode : Submode
  deriving DecidableEq, Repr

def ModeListEntry.off : ModeListEntry := ⟨modeOff, submodeNone⟩

/-- What the health table says about a child. -/
structure Health where
  isFaulty : Bool
  isCommandable : Bool
  deriving DecidableEq, Repr

abbrev ModeTable := Device → ModeListEntry

/-- The state of an assembly: the modes of the children as they reported them, their healths, and the
    mode table. -/
structure Children where
  childrenMap : Device → ModeListEntry
  health : Device → Health
  modeTable : ModeTable

/-- `setMode` and `setSubmode` on the entry of a child. -/
def ModeTable.set (table : ModeTable) (d : Device) (mode : Mode) (submode : Submode) : ModeTable :=
  Function.update table d ⟨mode, submode⟩

@[simp] theorem set_one_one (table : ModeTable) (mode : Mode) (submode : Submode) :
    table.set .one mode submode .one = ⟨mode, submode⟩ := rfl

@[simp] theorem set_one_two (table : ModeTable) (mode : Mode) (submode : Submode) :
    table.set .one mode submode .two = table .two := rfl

@[simp] theorem set_two_one (table : ModeTable) (mode : Mode) (submode : Submode) :
    table.set .two mode submode .one = table .one := rfl

@[simp] theorem set_two_two (table : ModeTable) (mode : Mode) (submode : Submode) :
    table.set .two mode submode .two = ⟨mode, submode⟩ := rfl

namespace Children

variable (a : Children)

/-! ## The functions of both assemblies -/

/-- `isUseable`. -/
def isUseable (d : Device) (mode : Mode) : Bool :=
  if (a.health d).isFaulty then false
  else if (a.childrenMap d).mode = mode then true
  else (a.health d).isCommandable

/-- `checkChildrenStateOn`. -/
def checkChildrenStateOn (wantedMode : Mode) (wantedSubmode : Submode) : ReturnValue :=
  if wantedMode = modeOn then
    if wantedSubmode = single then
      if (a.childrenMap .one).mode = modeOff ∧ (a.childrenMap .two).mode = modeOff then
        .notEnoughChildrenInCorrectState
      else .returnOk
    else if wantedSubmode = dual then
      if (a.childrenMap .one).mode = modeOn ∧ (a.childrenMap .two).mode = modeOn then .returnOk
      else .notEnoughChildrenInCorrectState
    else .invalidSubmode
  else .returnOk

/-- A child that is used is not faulty. -/
theorem not_faulty_of_isUseable {d : Device} {mode : Mode} (h : a.isUseable d mode = true) :
    (a.health d).isFaulty = false := by
  cases hfaulty : (a.health d).isFaulty with
  | false => rfl
  | true => simp [isUseable, hfaulty] at h

end Children

/-- `isModeCombinationValid`. The first test holds of every submode: none is `SINGLE` and `DUAL` at
    once. -/
def isModeCombinationValid (mode : Mode) (submode : Submode) : ReturnValue :=
  if mode = modeOn ∧ (submode ≠ single ∨ submode ≠ dual) then .invalidSubmode
  else if mode = modeNormal then .invalidMode
  else .returnOk

/-! ## Commanding the children -/

/-- `executeTable` for one child: what is commanded for an entry. A faulty child may be turned off
    instead. Every other child is assumed to be commanded, also one that is not commandable. -/
structure ExecuteTable where
  command : Health → ModeListEntry → ModeListEntry
  of_not_faulty : ∀ health entry, health.isFaulty = false → command health entry = entry
  of_faulty : ∀ health entry, health.isFaulty = true →
    command health entry = entry ∨ command health entry = .off

/-- Every entry is commanded as it is. -/
def ExecuteTable.plain : ExecuteTable :=
  ⟨fun _ entry => entry, fun _ _ _ => rfl, fun _ _ _ => Or.inl rfl⟩

/-- Who is off in the table is turned off. -/
theorem ExecuteTable.command_off (e : ExecuteTable) (health : Health) :
    e.command health .off = .off := by
  cases h : health.isFaulty with
  | false => exact e.of_not_faulty health _ h
  | true => exact (e.of_faulty health _ h).elim id id

/-- The children after they have followed the commands for a table. -/
def Children.follow (a : Children) (e : ExecuteTable) (table : ModeTable) : Children :=
  { a with childrenMap := fun d => e.command (a.health d) (table d), modeTable := table }

end Assembly
end Obsw
