import TenantOverlay.Error
import TenantOverlay.Kubernetes.Metadata

/-!
# Overlays

An overlay describes the flannel network of one tenant cluster. `OverlaySpec.validate` accepts the
specifications from which every object of the network can be built.
-/

namespace TenantOverlay

/-- The tenant cluster that an overlay belongs to. All names are derived from its identifier. -/
structure TenantCluster where
  id : String
  customer : String
  /-- The namespace in which the cluster's own pods run. -/
  namespaceName : String
  deriving DecidableEq, Repr

/-- The bridge on each host. -/
structure BridgeSpec where
  image : String
  interface : String
  privateNetwork : String
  dnsServers : List String
  ntpServers : List String
  deriving DecidableEq, Repr

/-- The flannel network. -/
structure NetworkSpec where
  network : String
  subnetLength : UInt32
  runDirectory : String
  vni : UInt32
  deriving DecidableEq, Repr

structure OverlaySpec where
  cluster : TenantCluster
  bridge : BridgeSpec
  network : NetworkSpec
  healthImage : String
  bundleVersion : String
  deriving DecidableEq, Repr

/-- The custom resource that describes an overlay. -/
abbrev Overlay := Manifest OverlaySpec

/-- The port of the first network's probe, less its identifier. -/
def probePortBase : Nat := 21000

/-- The port on which the containers of the network with an identifier are probed. -/
def probePort (vni : UInt32) : Result Nat :=
  if vni.toNat = 0 ∨ maxVni < vni.toNat then .error (.invalidConfig (.vniOutOfRange vni.toNat))
  else if maxPort < probePortBase + vni.toNat then
    .error (.invalidConfig (.probePortOutOfRange vni.toNat))
  else .ok (probePortBase + vni.toNat)

/-- The fields that objects are built from are not empty, and there is a port to probe. -/
def OverlaySpec.validate (s : OverlaySpec) : Result Unit := do
  Result.require (s.cluster.id != "") (.emptyField "spec.cluster.id")
  Result.require (s.network.network != "") (.emptyField "spec.flannel.spec.network")
  Result.require (s.network.runDirectory != "") (.emptyField "spec.flannel.spec.runDir")
  let _ ← probePort s.network.vni

namespace Overlay

/-- Namespace and name, as they are shown. -/
def key (o : Overlay) : String :=
  o.metadata.namespaceName.getD "default" ++ "/" ++ o.metadata.anyName

def isDeleted (o : Overlay) : Bool := o.metadata.isDeleted

/-- The version of the generation that handles the overlay; empty when none is chosen. -/
def bundleVersion (o : Overlay) : String := o.body.bundleVersion

/-- An overlay to start from, for the cluster with an identifier. -/
def sample (id : String) : Overlay where
  metadata := { name := some id, namespaceName := some "default" }
  body := {
    cluster := ⟨id, "acme", id⟩
    bridge := {
      image := "quay.io/giantswarm/k8s-network-bridge:latest"
      interface := "bond0.3"
      privateNetwork := "10.0.4.0/24"
      dnsServers := ["8.8.8.8", "8.8.4.4"]
      ntpServers := ["0.coreos.pool.ntp.org"] }
    network := ⟨"172.26.0.0/16", 30, "/run/flannel", 26⟩
    healthImage := "quay.io/giantswarm/k8s-health:latest"
    bundleVersion := "0.2.0" }

end Overlay

end TenantOverlay
