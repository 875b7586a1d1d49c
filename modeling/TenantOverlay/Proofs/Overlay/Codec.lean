import TenantOverlay.Overlay.Codec
import TenantOverlay.Proofs.Json.Path
import TenantOverlay.Proofs.NetworkEntry

/-!
# Specifications that are written and read

`OverlaySpec.Reads` says path by path what a value says when it is read as a specification. Where the structures
of the value are objects, to be read as a specification is just that (`OverlaySpec.ofJson?_iff`). The statement is
put together like the reader: each structure has its paths, and one that stands in another has them one name longer
(`Json.under`).

`OverlaySpec.ofJson?_toJson`: what is written of a specification is read back; `OverlaySpec.ofJson?_canonical`: also
with the fields in name order.
-/

namespace TenantOverlay

open Json

namespace TenantCluster

variable {j : Json} {c : TenantCluster}

def structures : Structures := [([], ["id", "customer", "namespace"])]

lemma ofJson?_iff (objects : ObjectsAt structures j) : ofJson? j = some c ↔
    RecordsAt structures j ∧ j.given? text? ["id"] = some c.id ∧
      j.givenOr? "" text? ["customer"] = some c.customer ∧
        j.givenOr? "" text? ["namespace"] = some c.namespaceName := by
  simp only [structures, eachAt_here] at objects ⊢
  refine (record?_bind_iff objects).trans (and_congr_right fun _ => ?_)
  simp only [Option.bind_eq_bind, Option.bind_eq_some_iff, required_eq, withDefault_eq, Option.pure_def,
    Option.some.injEq]
  constructor
  · rintro ⟨id, idEq, customer, customerEq, namespaceName, namespaceEq, rfl⟩
    exact ⟨idEq, customerEq, namespaceEq⟩
  · rintro ⟨idEq, customerEq, namespaceEq⟩
    exact ⟨_, idEq, _, customerEq, _, namespaceEq, rfl⟩

/-- The same for a cluster that is a field. -/
lemma given?_iff {n : String} (objects : ObjectsAt (under n structures) j) : j.given? ofJson? [n] = some c ↔
    RecordsAt (under n structures) j ∧ j.given? text? [n, "id"] = some c.id ∧
      j.givenOr? "" text? [n, "customer"] = some c.customer ∧
        j.givenOr? "" text? [n, "namespace"] = some c.namespaceName := by
  simp only [eachAt_under] at objects ⊢
  cases there : j.get? n with
  | none => simp [given?_cons_none there]
  | some v => simp [given?_cons there, givenOr?_cons there, ofJson?_iff (objects v there)]

end TenantCluster

namespace OverlaySpec

section Parts

variable {j : Json} {n text : String} {servers : List String}

def imageStructures : Structures := [([], ["image"])]

lemma imageOfJson?_iff (objects : ObjectsAt imageStructures j) :
    imageOfJson? j = some text ↔ RecordsAt imageStructures j ∧ j.given? text? ["image"] = some text := by
  simp only [imageStructures, eachAt_here] at objects ⊢
  rw [← required_eq]
  exact record?_bind_iff objects

def serversStructures : Structures := [([], ["servers"])]

lemma serversOfJson?_iff (objects : ObjectsAt serversStructures j) : serversOfJson? j = some servers ↔
    RecordsAt serversStructures j ∧ j.givenOr? [] (list? text?) ["servers"] = some servers := by
  simp only [serversStructures, eachAt_here] at objects ⊢
  rw [← withDefault_eq]
  exact record?_bind_iff objects

def healthStructures : Structures := [([], ["docker"])] ++ under "docker" imageStructures

lemma healthOfJson?_iff (objects : ObjectsAt healthStructures j) : healthOfJson? j = some text ↔
    RecordsAt healthStructures j ∧ j.givenOr? "" imageOfJson? ["docker"] = some text := by
  simp only [healthStructures, eachAt_append, eachAt_here, eachAt_under] at objects ⊢
  rw [and_assoc, ← withDefault_eq]
  -- the structure in it has to be a record because the image is read from it
  refine (record?_bind_iff objects.1).trans (and_congr_right fun _ => iff_and_self.2 fun read v there => ?_)
  rw [withDefault_eq, givenOr?_cons there] at read
  exact ((imageOfJson?_iff (objects.2 v there)).1 read).1

def bundleStructures : Structures := [([], ["version"])]

lemma bundleOfJson?_iff (objects : ObjectsAt bundleStructures j) : bundleOfJson? j = some text ↔
    RecordsAt bundleStructures j ∧ j.givenOr? "" text? ["version"] = some text := by
  simp only [bundleStructures, eachAt_here] at objects ⊢
  rw [← withDefault_eq]
  exact record?_bind_iff objects

end Parts

end OverlaySpec

namespace BridgeSpec

open OverlaySpec

variable {j : Json} {b : BridgeSpec}

def innerStructures : Structures :=
  [([], ["interface", "privateNetwork", "dns", "ntp"])] ++ under "dns" serversStructures ++
    under "ntp" serversStructures

def structures : Structures :=
  [([], ["docker", "spec"])] ++ under "docker" imageStructures ++ under "spec" innerStructures

lemma ofJson?_iff (objects : ObjectsAt structures j) : ofJson? j = some b ↔
    RecordsAt structures j ∧ j.given? text? ["docker", "image"] = some b.image ∧
      j.given? text? ["spec", "interface"] = some b.interface ∧
      j.given? text? ["spec", "privateNetwork"] = some b.privateNetwork ∧
      j.givenOr? [] (list? text?) ["spec", "dns", "servers"] = some b.dnsServers ∧
      j.givenOr? [] (list? text?) ["spec", "ntp", "servers"] = some b.ntpServers := by
  simp only [structures, eachAt_append, eachAt_here, eachAt_under (n := "spec")] at objects ⊢
  obtain ⟨⟨object, image⟩, inner⟩ := objects
  simp only [ofJson?, Option.bind_eq_bind, Option.bind_eq_some_iff, record?_iff object, and_assoc,
    exists_and_left, exists_eq_left, required_eq, given?_under imageOfJson?_iff image, Option.pure_def,
    Option.some.injEq]
  -- without the section neither side holds: its fields are not there
  cases there : j.get? "spec" with
  | none => simp [given?_cons_none there]
  | some v =>
    have innerObjects := inner v there
    simp only [innerStructures, eachAt_append, eachAt_here] at innerObjects
    obtain ⟨⟨innerObject, dns⟩, ntp⟩ := innerObjects
    simp only [given?_cons there, givenOr?_cons there, record?_iff innerObject, and_assoc, exists_and_left,
      exists_eq_left, required_eq, withDefault_eq, givenOr?_under serversOfJson?_iff dns,
      givenOr?_under serversOfJson?_iff ntp, innerStructures, eachAt_append, eachAt_here, Option.some.injEq,
      forall_eq', exists_eq_left']
    constructor
    · rintro ⟨record, imageRecord, image, imageEq, innerRecord, interface, interfaceEq, network, networkEq, dnsRecord,
        dns, dnsEq, ntpRecord, ntp, ntpEq, rfl⟩
      exact ⟨record, imageRecord, innerRecord, dnsRecord, ntpRecord, imageEq, interfaceEq, networkEq, dnsEq, ntpEq⟩
    · rintro ⟨record, imageRecord, innerRecord, dnsRecord, ntpRecord, imageEq, interfaceEq, networkEq, dnsEq, ntpEq⟩
      exact ⟨record, imageRecord, _, imageEq, innerRecord, _, interfaceEq, _, networkEq, dnsRecord, _, dnsEq,
        ntpRecord, _, ntpEq, rfl⟩

lemma given?_iff {n : String} (objects : ObjectsAt (under n structures) j) : j.given? ofJson? [n] = some b ↔
    RecordsAt (under n structures) j ∧ j.given? text? [n, "docker", "image"] = some b.image ∧
      j.given? text? [n, "spec", "interface"] = some b.interface ∧
      j.given? text? [n, "spec", "privateNetwork"] = some b.privateNetwork ∧
      j.givenOr? [] (list? text?) [n, "spec", "dns", "servers"] = some b.dnsServers ∧
      j.givenOr? [] (list? text?) [n, "spec", "ntp", "servers"] = some b.ntpServers := by
  simp only [eachAt_under] at objects ⊢
  cases there : j.get? n with
  | none => simp [given?_cons_none there]
  | some v => simp [given?_cons there, givenOr?_cons there, ofJson?_iff (objects v there)]

end BridgeSpec

namespace NetworkSpec

variable {j : Json} {n : NetworkSpec}

def innerStructures : Structures := [([], ["network", "subnetLen", "runDir", "vni"])]

def structures : Structures := [([], ["spec"])] ++ under "spec" innerStructures

lemma ofJson?_iff (objects : ObjectsAt structures j) : ofJson? j = some n ↔
    RecordsAt structures j ∧ j.given? text? ["spec", "network"] = some n.network ∧
      j.given? uint32? ["spec", "subnetLen"] = some n.subnetLength ∧
      j.given? text? ["spec", "runDir"] = some n.runDirectory ∧
      j.given? uint32? ["spec", "vni"] = some n.vni := by
  simp only [structures, innerStructures, eachAt_append, eachAt_here, eachAt_under] at objects ⊢
  obtain ⟨object, inner⟩ := objects
  simp only [ofJson?, Option.bind_eq_bind, Option.bind_eq_some_iff, record?_iff object, and_assoc,
    exists_and_left, exists_eq_left, Option.pure_def, Option.some.injEq]
  cases there : j.get? "spec" with
  | none => simp [given?_cons_none there]
  | some v =>
    simp only [given?_cons there, record?_iff (inner v there), and_assoc, exists_and_left, exists_eq_left,
      required_eq, Option.some.injEq, forall_eq', exists_eq_left']
    constructor
    · rintro ⟨record, innerRecord, network, networkEq, length, lengthEq, directory, directoryEq, vni, vniEq, rfl⟩
      exact ⟨record, innerRecord, networkEq, lengthEq, directoryEq, vniEq⟩
    · rintro ⟨record, innerRecord, networkEq, lengthEq, directoryEq, vniEq⟩
      exact ⟨record, innerRecord, _, networkEq, _, lengthEq, _, directoryEq, _, vniEq, rfl⟩

lemma given?_iff {m : String} (objects : ObjectsAt (under m structures) j) : j.given? ofJson? [m] = some n ↔
    RecordsAt (under m structures) j ∧ j.given? text? [m, "spec", "network"] = some n.network ∧
      j.given? uint32? [m, "spec", "subnetLen"] = some n.subnetLength ∧
      j.given? text? [m, "spec", "runDir"] = some n.runDirectory ∧
      j.given? uint32? [m, "spec", "vni"] = some n.vni := by
  simp only [eachAt_under] at objects ⊢
  cases there : j.get? m with
  | none => simp [given?_cons_none there]
  | some v => simp [given?_cons there, ofJson?_iff (objects v there)]

end NetworkSpec

namespace OverlaySpec

/-- All structures of a specification. -/
def structures : Structures :=
  [([], ["cluster", "bridge", "flannel", "health", "versionBundle"])] ++ under "cluster" TenantCluster.structures ++
    under "bridge" BridgeSpec.structures ++ under "flannel" NetworkSpec.structures ++
    under "health" healthStructures ++ under "versionBundle" bundleStructures

/-- What a value says when it is read as a specification, path by path. -/
structure Reads (j : Json) (s : OverlaySpec) : Prop where
  records : RecordsAt structures j
  id : j.given? text? ["cluster", "id"] = some s.cluster.id
  customer : j.givenOr? "" text? ["cluster", "customer"] = some s.cluster.customer
  namespaceName : j.givenOr? "" text? ["cluster", "namespace"] = some s.cluster.namespaceName
  image : j.given? text? ["bridge", "docker", "image"] = some s.bridge.image
  interface : j.given? text? ["bridge", "spec", "interface"] = some s.bridge.interface
  privateNetwork : j.given? text? ["bridge", "spec", "privateNetwork"] = some s.bridge.privateNetwork
  dnsServers : j.givenOr? [] (list? text?) ["bridge", "spec", "dns", "servers"] = some s.bridge.dnsServers
  ntpServers : j.givenOr? [] (list? text?) ["bridge", "spec", "ntp", "servers"] = some s.bridge.ntpServers
  network : j.given? text? ["flannel", "spec", "network"] = some s.network.network
  subnetLength : j.given? uint32? ["flannel", "spec", "subnetLen"] = some s.network.subnetLength
  runDirectory : j.given? text? ["flannel", "spec", "runDir"] = some s.network.runDirectory
  vni : j.given? uint32? ["flannel", "spec", "vni"] = some s.network.vni
  healthImage : j.givenOr? "" imageOfJson? ["health", "docker"] = some s.healthImage
  bundleVersion : j.givenOr? "" text? ["versionBundle", "version"] = some s.bundleVersion

variable {j : Json} {s : OverlaySpec}

lemma ofJson?_iff (objects : ObjectsAt structures j) : ofJson? j = some s ↔ Reads j s := by
  simp only [structures, eachAt_append, eachAt_here] at objects
  obtain ⟨⟨⟨⟨⟨object, cluster⟩, bridge⟩, network⟩, health⟩, bundle⟩ := objects
  simp only [ofJson?, Option.bind_eq_bind, Option.bind_eq_some_iff, record?_iff object, and_assoc,
    exists_and_left, exists_eq_left, required_eq, withDefault_eq, TenantCluster.given?_iff cluster,
    BridgeSpec.given?_iff bridge, NetworkSpec.given?_iff network, givenOr?_under healthOfJson?_iff health,
    givenOr?_under bundleOfJson?_iff bundle, Option.pure_def, Option.some.injEq]
  constructor
  · rintro ⟨record, clusterRecords, c, id, customer, namespaceName, bridgeRecords, b, image, interface,
      privateNetwork, dns, ntp, networkRecords, n, address, length, directory, vni, healthRecords, h, healthImage,
      bundleRecords, v, version, rfl⟩
    refine ⟨?_, id, customer, namespaceName, image, interface, privateNetwork, dns, ntp, address, length, directory,
      vni, healthImage, version⟩
    simp only [structures, eachAt_append, eachAt_here]
    exact ⟨⟨⟨⟨⟨record, clusterRecords⟩, bridgeRecords⟩, networkRecords⟩, healthRecords⟩, bundleRecords⟩
  · rintro ⟨records, id, customer, namespaceName, image, interface, privateNetwork, dns, ntp, address, length,
      directory, vni, healthImage, version⟩
    simp only [structures, eachAt_append, eachAt_here] at records
    obtain ⟨⟨⟨⟨⟨record, clusterRecords⟩, bridgeRecords⟩, networkRecords⟩, healthRecords⟩, bundleRecords⟩ := records
    exact ⟨record, clusterRecords, _, id, customer, namespaceName, bridgeRecords, _, image, interface, privateNetwork,
      dns, ntp, networkRecords, _, address, length, directory, vni, healthRecords, _, healthImage, bundleRecords, _,
      version, rfl⟩

end OverlaySpec

section RoundTrip

lemma Json.list?_ofTexts (texts : List String) : list? text? (ofTexts texts) = some texts := by
  show (texts.map Json.str).mapM text? = some texts
  induction texts with
  | nil => rfl
  | cons t ts ih => rw [List.map_cons, List.mapM_cons, ih]; rfl

lemma TenantCluster.ofJson?_toJson (c : TenantCluster) : ofJson? c.toJson = some c := rfl

lemma BridgeSpec.ofJson?_toJson (b : BridgeSpec) : ofJson? b.toJson = some b := by
  show (do
    let dns ← list? text? (ofTexts b.dnsServers)
    let ntp ← list? text? (ofTexts b.ntpServers)
    return (⟨b.image, b.interface, b.privateNetwork, dns, ntp⟩ : BridgeSpec)) = some b
  rw [list?_ofTexts, list?_ofTexts]
  rfl

lemma NetworkSpec.ofJson?_toJson (n : NetworkSpec) : ofJson? n.toJson = some n := by
  show (do
    let subnetLength ← uint32? (.int n.subnetLength.toNat)
    let vni ← uint32? (.int n.vni.toNat)
    return (⟨n.network, subnetLength, n.runDirectory, vni⟩ : NetworkSpec)) = some n
  rw [uint32?_toNat, uint32?_toNat]
  rfl

/-- What is written of a specification is read back. -/
lemma OverlaySpec.ofJson?_toJson (s : OverlaySpec) : ofJson? s.toJson = some s := by
  show (do
    let cluster ← TenantCluster.ofJson? s.cluster.toJson
    let bridge ← BridgeSpec.ofJson? s.bridge.toJson
    let network ← NetworkSpec.ofJson? s.network.toJson
    return (⟨cluster, bridge, network, s.healthImage, s.bundleVersion⟩ : OverlaySpec)) = some s
  rw [TenantCluster.ofJson?_toJson, BridgeSpec.ofJson?_toJson, NetworkSpec.ofJson?_toJson]
  rfl

lemma Json.canonicalItems?_texts (texts : List String) :
    canonicalItems? (texts.map .str) = some (texts.map .str) := by
  induction texts with
  | nil => rfl
  | cons t ts ih => simp [canonicalItems?, canonical?, ih]

lemma Json.canonical?_ofTexts (texts : List String) : (ofTexts texts).canonical? = some (ofTexts texts) := by
  rw [ofTexts, canonical?, canonicalItems?_texts, Option.map_some]

/-- What is written of a specification, in name order. -/
lemma OverlaySpec.canonical?_toJson (s : OverlaySpec) : s.toJson.canonical? = some (.obj
    [("bridge", .obj [("docker", imageToJson s.bridge.image),
        ("spec", .obj [("dns", serversToJson s.bridge.dnsServers), ("interface", .str s.bridge.interface),
          ("ntp", serversToJson s.bridge.ntpServers), ("privateNetwork", .str s.bridge.privateNetwork)])]),
      ("cluster", .obj [("customer", .str s.cluster.customer), ("id", .str s.cluster.id),
        ("namespace", .str s.cluster.namespaceName)]),
      ("flannel", .obj [("spec", .obj [("network", .str s.network.network), ("runDir", .str s.network.runDirectory),
        ("subnetLen", .int s.network.subnetLength.toNat), ("vni", .int s.network.vni.toNat)])]),
      ("health", .obj [("docker", imageToJson s.healthImage)]),
      ("versionBundle", .obj [("version", .str s.bundleVersion)])]) := by
  simp only [toJson, BridgeSpec.toJson, NetworkSpec.toJson, TenantCluster.toJson, imageToJson, serversToJson,
    canonical?, canonicalMembers?, canonical?_ofTexts, Option.bind_eq_bind, Option.bind_some, Option.map_some,
    Option.pure_def]
  rfl

/-- It is read back as well when the names have been put in order. -/
lemma OverlaySpec.ofJson?_canonical (s : OverlaySpec) : s.toJson.canonical?.bind ofJson? = some s := by
  rw [canonical?_toJson, Option.bind_some]
  show (do
    let bridge ← (do
      let dns ← list? text? (ofTexts s.bridge.dnsServers)
      let ntp ← list? text? (ofTexts s.bridge.ntpServers)
      return (⟨s.bridge.image, s.bridge.interface, s.bridge.privateNetwork, dns, ntp⟩ : BridgeSpec))
    let network ← (do
      let subnetLength ← uint32? (.int s.network.subnetLength.toNat)
      let vni ← uint32? (.int s.network.vni.toNat)
      return (⟨s.network.network, subnetLength, s.network.runDirectory, vni⟩ : NetworkSpec))
    return (⟨s.cluster, bridge, network, s.healthImage, s.bundleVersion⟩ : OverlaySpec)) = some s
  rw [list?_ofTexts, list?_ofTexts, uint32?_toNat, uint32?_toNat]
  rfl

end RoundTrip

end TenantOverlay
