import TenantOverlay.NetworkEntry
import TenantOverlay.Operator.Calls
import TenantOverlay.Overlay.Naming
import TenantOverlay.Reconcile.Resource

/-!
# The network's entry in the store

Writes the entry that flannel's daemon reads. An entry for another network is removed together with
everything below the network's key, such as the leases of subnets, before the new one is written.
-/

namespace TenantOverlay

namespace StoredNetwork

def name : String := "networkconfig"

/-- Creates an entry, and replaces one for another network. -/
def updatePatch (current desired : NetworkEntry) : Patch NetworkEntry :=
  if current.isEmpty then if desired.isEmpty then {} else { create := some desired }
  else if current.sameNetwork desired then {}
  else { update := some desired }

/-- The stored entry; the empty one when there is none. -/
def fetch (o : Overlay) : OperatorAction NetworkEntry := do
  let stored ← (Option.some <$> OperatorAction.ofStore (.search o.entryPath)).orElseIf Error.isNotFound none
  match stored with
  | none => return .empty
  | some text => Action.ofResult (NetworkEntry.parse text)

/-- Writes an entry unless there is one. -/
def write (o : Overlay) (e : NetworkEntry) : OperatorAction Unit :=
  Action.orElseIf (OperatorAction.ofStore (.create o.entryPath e.render)) Error.isAlreadyExists ()

/-- Removes the network's key and everything below it. -/
def clear (o : Overlay) : OperatorAction Unit :=
  Action.orElseIf (OperatorAction.ofStore (.delete o.storePath)) Error.isNotFound ()

end StoredNetwork

/-- The entry that an overlay asks for. -/
def Overlay.networkEntry (o : Overlay) : NetworkEntry :=
  .vxlan o.body.network.network o.body.network.subnetLength o.body.network.vni

/-- The network's entry in the store. -/
def storedNetworkResource : Resource services Overlay where
  State := NetworkEntry
  name := StoredNetwork.name
  current o := return .continue (← StoredNetwork.fetch o)
  desired o := return o.networkEntry
  updatePatch _ current desired := return StoredNetwork.updatePatch current desired
  deletePatch _ current _ := return Patch.remove current
  create o e := do
    StoredNetwork.write o e
    return .proceed
  update o e := do
    StoredNetwork.clear o
    StoredNetwork.write o e
    return .proceed
  delete o _ := do
    StoredNetwork.clear o
    return .proceed

end TenantOverlay
