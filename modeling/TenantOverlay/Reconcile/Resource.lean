import TenantOverlay.Program.Runtime
import TenantOverlay.Reconcile.Flow
import TenantOverlay.Reconcile.Patch

/-!
# Resources

One aspect of a managed object: how its current and its desired state are found out, what has to
change, and how each change is made. `Resource.retrying` and `Resource.measured` add repetition and
counting to the operations that reach the outside, and leave the patches alone.
-/

namespace TenantOverlay

/-- An aspect of objects of type `O`. -/
structure Resource (S : Signature) (O : Type) where
  State : Type
  name : String
  current : O → Action S (Flow State)
  desired : O → Action S State
  updatePatch : O → State → State → Action S (Patch State)
  deletePatch : O → State → State → Action S (Patch State)
  create : O → State → Action S (Flow Unit)
  update : O → State → Action S (Flow Unit)
  delete : O → State → Action S (Flow Unit)

namespace Resource

variable {S : Signature} {O : Type}

/-- The resource with each of its operations repeated as a policy allows. -/
def repeated (r : Resource S O) (policy : BackoffPolicy) : Resource S O where
  State := r.State
  name := r.name
  current o := (r.current o).retry policy
  desired o := (r.desired o).retry policy
  updatePatch := r.updatePatch
  deletePatch := r.deletePatch
  create o s := (r.create o s).retry policy
  update o s := (r.update o s).retry policy
  delete o s := (r.delete o s).retry policy

/-- The resource with repetition, if the policy is valid. -/
def retrying (r : Resource S O) (policy : BackoffPolicy) : Result (Resource S O) :=
  match policy.validate with
  | .ok () => .ok (r.repeated policy)
  | .error e => .error e

/-- The resource with each of its operations counted. -/
def measured (r : Resource S O) : Resource S O where
  State := r.State
  name := r.name
  current o := (r.current o).counted r.name .currentState
  desired o := (r.desired o).counted r.name .desiredState
  updatePatch := r.updatePatch
  deletePatch := r.deletePatch
  create o s := (r.create o s).counted r.name .create
  update o s := (r.update o s).counted r.name .update
  delete o s := (r.delete o s).counted r.name .delete

end Resource

end TenantOverlay
