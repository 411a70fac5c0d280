/-!
The two key slots of a trust anchor, and one value for each of them.
-/

namespace TrustAnchor

/-- One of the two provisioned master keys. -/
inductive Slot
  | first
  | second
  deriving DecidableEq, Repr

namespace Slot

def index : Slot → Nat
  | .first => 0
  | .second => 1

/-- The slot with a number, if there is one. -/
def ofNumber? (number : UInt8) : Option Slot :=
  if number = 0 then some .first else if number = 1 then some .second else none

theorem ofNumber?_isSome_iff {number : UInt8} : (ofNumber? number).isSome ↔ number = 0 ∨ number = 1 := by
  unfold ofNumber?
  split
  · simp [*]
  · split <;> simp [*]

end Slot

/-- A value for each slot. -/
structure PerSlot (α : Type) where
  first : α
  second : α
  deriving DecidableEq, Repr

namespace PerSlot

def both (value : α) : PerSlot α := ⟨value, value⟩

def get (values : PerSlot α) : Slot → α
  | .first => values.first
  | .second => values.second

def set (values : PerSlot α) (slot : Slot) (value : α) : PerSlot α :=
  match slot with
  | .first => { values with first := value }
  | .second => { values with second := value }

@[simp] theorem get_both (value : α) (slot : Slot) : (both value).get slot = value := by
  cases slot <;> rfl

@[simp] theorem get_set_self (values : PerSlot α) (slot : Slot) (value : α) :
    (values.set slot value).get slot = value := by
  cases slot <;> rfl

theorem get_set_of_ne (values : PerSlot α) {slot other : Slot} (h : other ≠ slot) (value : α) :
    (values.set slot value).get other = values.get other := by
  cases slot <;> cases other <;> simp_all [get, set]

end PerSlot

end TrustAnchor
