import TenantOverlay.Manifests.Access
import TenantOverlay.Operator.Calls
import TenantOverlay.Reconcile.Resource

/-!
# The namespace of a network

The namespace has to exist and is never changed. While it is being removed nothing can be created in
it, so the pass ends.
-/

namespace TenantOverlay

namespace NetworkNamespace

def name : String := "namespace"

/-- Creates what does not exist. -/
def updatePatch (current desired : Option Namespace) : Patch (Option Namespace) :=
  if current.isNone ∧ desired.isSome then { create := some desired } else {}

end NetworkNamespace

/-- The namespace of a network. -/
def networkNamespaceResource : Resource services Overlay where
  State := Option Namespace
  name := NetworkNamespace.name
  current o := do
    let current ← Kind.get .namespaces none o.networkNamespace
    return if current.any Manifest.isTerminating then .cancel else .continue current
  desired o := return some (o.namespaceManifest o.networkNamespace networkApp)
  updatePatch _ current desired := return NetworkNamespace.updatePatch current desired
  deletePatch _ current _ := return Patch.remove current
  create _
    | none => return .proceed
    | some n => do
      let _ ← Kind.createIfMissing .namespaces none n
      return .proceed
  update _ _ := return .proceed
  delete _ current :=
    match current.bind fun n => n.metadata.name with
    | none => return .proceed
    | some n => do
      let _ ← Kind.deleteIfExists .namespaces none n
      return .proceed

end TenantOverlay
