import TenantOverlay.NetworkEntry

/-!
# Patches

A patch says what has to be done to bring a resource from its current to its desired state: create,
update, delete. Each slot holds the state that the change is made with.
-/

namespace TenantOverlay

/-- States of a resource, one or more of which say that it does not exist. -/
class ResourceState (State : Type) where
  isEmpty : State → Bool

instance {α : Type} : ResourceState (Option α) := ⟨Option.isNone⟩
instance {α : Type} : ResourceState (List α) := ⟨List.isEmpty⟩
instance : ResourceState NetworkEntry := ⟨NetworkEntry.isEmpty⟩

structure Patch (State : Type) where
  create : Option State := none
  update : Option State := none
  delete : Option State := none
  deriving DecidableEq, Repr

namespace Patch

variable {State : Type}

def isEmpty (p : Patch State) : Bool := p.create.isNone && p.update.isNone && p.delete.isNone

/-- Creates what does not exist and updates what differs. -/
def createOrUpdate [ResourceState State] [DecidableEq State] (current desired : State) :
    Patch State :=
  if ResourceState.isEmpty current then
    if ResourceState.isEmpty desired then {} else { create := some desired }
  else if !ResourceState.isEmpty desired && current != desired then { update := some desired }
  else {}

/-- Deletes what exists. -/
def remove [ResourceState State] (current : State) : Patch State :=
  if ResourceState.isEmpty current then {} else { delete := some current }

end Patch

end TenantOverlay
