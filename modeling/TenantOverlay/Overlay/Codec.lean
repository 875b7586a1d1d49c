import TenantOverlay.Kubernetes.Schema.Meta
import TenantOverlay.Overlay.Basic

/-!
# Overlays as JSON

The sections of a specification stand inside each other in JSON; each may also be an array of its
fields in order. Fields with a default may be missing, but may not be null.
-/

namespace TenantOverlay

namespace TenantCluster

def ofJson? (j : Json) : Option TenantCluster := do
  let fields ← j.record? ["id", "customer", "namespace"]
  let id ← fields.required "id" Json.text?
  let customer ← fields.withDefault "customer" "" Json.text?
  let namespaceName ← fields.withDefault "namespace" "" Json.text?
  return ⟨id, customer, namespaceName⟩

def toJson (c : TenantCluster) : Json :=
  .obj [("id", .str c.id), ("customer", .str c.customer), ("namespace", .str c.namespaceName)]

end TenantCluster

namespace OverlaySpec

/-- The image of a container. -/
def imageOfJson? (j : Json) : Option String := do
  let fields ← j.record? ["image"]
  fields.required "image" Json.text?

def imageToJson (image : String) : Json := .obj [("image", .str image)]

/-- A list of servers. -/
def serversOfJson? (j : Json) : Option (List String) := do
  let fields ← j.record? ["servers"]
  fields.withDefault "servers" [] (Json.list? Json.text?)

def serversToJson (servers : List String) : Json := .obj [("servers", Json.ofTexts servers)]

/-- The image of the health container. -/
def healthOfJson? (j : Json) : Option String := do
  let fields ← j.record? ["docker"]
  fields.withDefault "docker" "" imageOfJson?

/-- The version of a bundle. -/
def bundleOfJson? (j : Json) : Option String := do
  let fields ← j.record? ["version"]
  fields.withDefault "version" "" Json.text?

end OverlaySpec

namespace BridgeSpec

def ofJson? (j : Json) : Option BridgeSpec := do
  let fields ← j.record? ["docker", "spec"]
  let image ← fields.required "docker" OverlaySpec.imageOfJson?
  let section_ ← fields "spec"
  let inner ← section_.record? ["interface", "privateNetwork", "dns", "ntp"]
  let interface ← inner.required "interface" Json.text?
  let privateNetwork ← inner.required "privateNetwork" Json.text?
  let dnsServers ← inner.withDefault "dns" [] OverlaySpec.serversOfJson?
  let ntpServers ← inner.withDefault "ntp" [] OverlaySpec.serversOfJson?
  return ⟨image, interface, privateNetwork, dnsServers, ntpServers⟩

def toJson (b : BridgeSpec) : Json :=
  .obj [("docker", OverlaySpec.imageToJson b.image),
    ("spec", .obj [("interface", .str b.interface), ("privateNetwork", .str b.privateNetwork),
      ("dns", OverlaySpec.serversToJson b.dnsServers),
      ("ntp", OverlaySpec.serversToJson b.ntpServers)])]

end BridgeSpec

namespace NetworkSpec

def ofJson? (j : Json) : Option NetworkSpec := do
  let fields ← j.record? ["spec"]
  let section_ ← fields "spec"
  let inner ← section_.record? ["network", "subnetLen", "runDir", "vni"]
  let network ← inner.required "network" Json.text?
  let subnetLength ← inner.required "subnetLen" Json.uint32?
  let runDirectory ← inner.required "runDir" Json.text?
  let vni ← inner.required "vni" Json.uint32?
  return ⟨network, subnetLength, runDirectory, vni⟩

def toJson (n : NetworkSpec) : Json :=
  .obj [("spec", .obj [("network", .str n.network), ("subnetLen", .int n.subnetLength.toNat),
    ("runDir", .str n.runDirectory), ("vni", .int n.vni.toNat)])]

end NetworkSpec

namespace OverlaySpec

def ofJson? (j : Json) : Option OverlaySpec := do
  let fields ← j.record? ["cluster", "bridge", "flannel", "health", "versionBundle"]
  let cluster ← fields.required "cluster" TenantCluster.ofJson?
  let bridge ← fields.required "bridge" BridgeSpec.ofJson?
  let network ← fields.required "flannel" NetworkSpec.ofJson?
  let healthImage ← fields.withDefault "health" "" healthOfJson?
  let bundleVersion ← fields.withDefault "versionBundle" "" bundleOfJson?
  return ⟨cluster, bridge, network, healthImage, bundleVersion⟩

def toJson (s : OverlaySpec) : Json :=
  .obj [("cluster", s.cluster.toJson), ("bridge", s.bridge.toJson),
    ("flannel", s.network.toJson),
    ("health", .obj [("docker", imageToJson s.healthImage)]),
    ("versionBundle", .obj [("version", .str s.bundleVersion)])]

end OverlaySpec

namespace Overlay

def apiVersion : String := "core.giantswarm.io/v1alpha1"
def kind : String := "FlannelConfig"

def ofJson? (j : Json) : Option Overlay := do
  let fields ← j.record? ["metadata", "spec"]
  let metadata ← fields.required "metadata" Schema.objectMeta.normalize?
  let spec ← fields.required "spec" OverlaySpec.ofJson?
  return ⟨Metadata.ofNormal metadata, spec⟩

def toJson (o : Overlay) : Json :=
  .obj [("apiVersion", .str apiVersion), ("kind", .str kind), ("metadata", o.metadata.toJson),
    ("spec", o.body.toJson)]

end Overlay

end TenantOverlay
