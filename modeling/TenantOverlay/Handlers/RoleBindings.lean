import TenantOverlay.Manifests.Access
import TenantOverlay.Operator.Calls
import TenantOverlay.Reconcile.Resource

/-!
# The role bindings of a network

Grants the network's account its two roles. A role binding cannot change its role, so one that
differs is deleted and created again.
-/

namespace TenantOverlay

namespace RoleBindings

def name : String := "clusterrolebindings"

def bindingName (b : RoleBinding) : String := b.metadata.name.getD ""

/-- Whether a binding is not as it should be. -/
def differs (current desired : RoleBinding) : Bool :=
  current.body.roleRef != desired.body.roleRef || current.body.subjects != desired.body.subjects ||
    current.metadata.labels != desired.metadata.labels

/-- The binding of the same name among some. -/
def namesake? (bindings : List RoleBinding) (b : RoleBinding) : Option RoleBinding :=
  bindings.find? fun c => bindingName c == bindingName b

/-- Those that do not exist. -/
def missing (current desired : List RoleBinding) : List RoleBinding :=
  desired.filter fun b => (namesake? current b).isNone

/-- Those that exist and differ. -/
def drifted (current desired : List RoleBinding) : List RoleBinding :=
  desired.filter fun b => (namesake? current b).any fun c => differs c b

/-- Some bindings, if there are any. -/
def nonEmpty (bindings : List RoleBinding) : Option (List RoleBinding) :=
  if bindings.isEmpty then none else some bindings

/-- Creates the missing ones and updates those that differ. -/
def updatePatch (current desired : List RoleBinding) : Patch (List RoleBinding) where
  create := nonEmpty (missing current desired)
  update := nonEmpty (drifted current desired)

/-- The bindings of some names that exist. -/
def fetch : List String → OperatorAction (List RoleBinding)
  | [] => return []
  | n :: rest => do
    let found ← Kind.get .roleBindings none n
    return found.toList ++ (← fetch rest)

def createAll : List RoleBinding → OperatorAction Unit
  | [] => return ()
  | b :: rest => do
    let _ ← Kind.createIfMissing .roleBindings none b
    createAll rest

def recreateAll : List RoleBinding → OperatorAction Unit
  | [] => return ()
  | b :: rest => do
    let _ ← Kind.deleteIfExists .roleBindings none (bindingName b)
    let _ ← Kind.createIfMissing .roleBindings none b
    recreateAll rest

def deleteAll : List RoleBinding → OperatorAction Unit
  | [] => return ()
  | b :: rest => do
    let _ ← Kind.deleteIfExists .roleBindings none (bindingName b)
    deleteAll rest

end RoleBindings

/-- The role bindings of a network. -/
def roleBindingsResource : Resource services Overlay where
  State := List RoleBinding
  name := RoleBindings.name
  current o := return .continue (← RoleBindings.fetch [o.roleBinding, o.pspRoleBinding])
  desired o := return o.networkBindings
  updatePatch _ current desired := return RoleBindings.updatePatch current desired
  deletePatch _ current _ := return Patch.remove current
  create _ bindings := do
    RoleBindings.createAll bindings
    return .proceed
  update _ bindings := do
    RoleBindings.recreateAll bindings
    return .proceed
  delete _ bindings := do
    RoleBindings.deleteAll bindings
    return .proceed

end TenantOverlay
