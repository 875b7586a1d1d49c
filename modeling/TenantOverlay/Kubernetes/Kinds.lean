import TenantOverlay.Kubernetes.Pod
import TenantOverlay.Kubernetes.Schema.Kinds
import TenantOverlay.Overlay.Codec

/-!
# Kinds of objects

The kinds of objects that the operator works with and what each has besides its metadata.
`Kind.decode?` reads an object from JSON and `Kind.encode` writes it.
-/

namespace TenantOverlay

structure NamespaceStatus where
  phase : Option String := none
  other : List (String × Json) := []
  deriving DecidableEq

structure NamespaceBody where
  spec : Option Json := none
  status : Option NamespaceStatus := none
  deriving DecidableEq

structure ServiceAccountBody where
  other : List (String × Json) := []
  deriving DecidableEq

/-- The role that a binding grants. -/
structure RoleRef where
  apiGroup : String
  kind : String
  name : String
  deriving DecidableEq, Repr

/-- Who is granted a role. -/
structure Subject where
  kind : String
  name : String
  namespaceName : Option String := none
  apiGroup : Option String := none
  deriving DecidableEq, Repr

structure RoleBindingBody where
  roleRef : RoleRef
  subjects : Option (List Subject)
  deriving DecidableEq

/-- How many pods of a daemon set may be missing or extra while they are replaced. -/
structure RollingUpdate where
  maxSurge : Option IntOrText := none
  maxUnavailable : Option IntOrText := none
  deriving DecidableEq

structure UpdateStrategy where
  type : Option String := none
  rollingUpdate : Option RollingUpdate := none
  deriving DecidableEq

structure DaemonSetSpec where
  selector : LabelSelector
  template : PodTemplate
  updateStrategy : Option UpdateStrategy := none
  other : List (String × Json) := []
  deriving DecidableEq

structure DaemonSetBody where
  spec : Option DaemonSetSpec := none
  status : Option Json := none
  deriving DecidableEq

structure JobSpec where
  parallelism : Option Int := none
  completions : Option Int := none
  template : PodTemplate
  other : List (String × Json) := []
  deriving DecidableEq

structure JobStatus where
  succeeded : Option Int := none
  other : List (String × Json) := []
  deriving DecidableEq

structure JobBody where
  spec : Option JobSpec := none
  status : Option JobStatus := none
  deriving DecidableEq

structure PodBody where
  other : List (String × Json) := []
  deriving DecidableEq

structure NodeSpec where
  unschedulable : Option Bool := none
  other : List (String × Json) := []
  deriving DecidableEq

structure NodeBody where
  spec : Option NodeSpec := none
  status : Option Json := none
  deriving DecidableEq

abbrev Namespace := Manifest NamespaceBody
abbrev ServiceAccount := Manifest ServiceAccountBody
abbrev RoleBinding := Manifest RoleBindingBody
abbrev DaemonSet := Manifest DaemonSetBody
abbrev Job := Manifest JobBody
abbrev Pod := Manifest PodBody
abbrev Node := Manifest NodeBody

namespace NamespaceBody

def ofNormal (j : Json) : NamespaceBody where
  spec := j.get? "spec"
  status := j.field? "status" fun s => ⟨s.field? "phase" Json.asText, s.without ["phase"]⟩

def members (b : NamespaceBody) : List (String × Json) :=
  Json.sometimes "spec" id b.spec ++
    Json.sometimes "status" (fun (s : NamespaceStatus) =>
      .obj (Json.sometimes "phase" .str s.phase ++ s.other)) b.status

end NamespaceBody

namespace RoleRef

def ofNormal (j : Json) : RoleRef := ⟨j.text "apiGroup", j.text "kind", j.text "name"⟩

def toJson (r : RoleRef) : Json :=
  .obj [("apiGroup", .str r.apiGroup), ("kind", .str r.kind), ("name", .str r.name)]

end RoleRef

namespace Subject

def ofNormal (j : Json) : Subject where
  kind := j.text "kind"
  name := j.text "name"
  namespaceName := j.field? "namespace" Json.asText
  apiGroup := j.field? "apiGroup" Json.asText

def toJson (s : Subject) : Json :=
  .obj (Json.sometimes "apiGroup" .str s.apiGroup ++ Json.always "kind" (.str s.kind) ++
    Json.always "name" (.str s.name) ++ Json.sometimes "namespace" .str s.namespaceName)

end Subject

namespace RoleBindingBody

def ofNormal (j : Json) : RoleBindingBody where
  roleRef := RoleRef.ofNormal ((j.get? "roleRef").getD .null)
  subjects := j.field? "subjects" (Json.asList Subject.ofNormal)

def members (b : RoleBindingBody) : List (String × Json) :=
  Json.always "roleRef" b.roleRef.toJson ++
    Json.sometimes "subjects" (Json.ofList Subject.toJson) b.subjects

end RoleBindingBody

namespace UpdateStrategy

def ofNormal (j : Json) : UpdateStrategy where
  type := j.field? "type" Json.asText
  rollingUpdate := j.field? "rollingUpdate" fun r =>
    ⟨r.field? "maxSurge" IntOrText.ofNormal, r.field? "maxUnavailable" IntOrText.ofNormal⟩

def toJson (u : UpdateStrategy) : Json :=
  .obj (Json.sometimes "rollingUpdate" (fun (r : RollingUpdate) =>
      .obj (Json.sometimes "maxSurge" IntOrText.toJson r.maxSurge ++
        Json.sometimes "maxUnavailable" IntOrText.toJson r.maxUnavailable)) u.rollingUpdate ++
    Json.sometimes "type" .str u.type)

end UpdateStrategy

namespace DaemonSetBody

def specOfNormal (j : Json) : DaemonSetSpec where
  selector := LabelSelector.ofNormal ((j.get? "selector").getD .null)
  template := PodTemplate.ofNormal ((j.get? "template").getD .null)
  updateStrategy := j.field? "updateStrategy" UpdateStrategy.ofNormal
  other := j.without ["selector", "template", "updateStrategy"]

def specToJson (s : DaemonSetSpec) : Json :=
  .obj (Json.always "selector" s.selector.toJson ++ Json.always "template" s.template.toJson ++
    Json.sometimes "updateStrategy" UpdateStrategy.toJson s.updateStrategy ++ s.other)

def ofNormal (j : Json) : DaemonSetBody := ⟨j.field? "spec" specOfNormal, j.get? "status"⟩

def members (b : DaemonSetBody) : List (String × Json) :=
  Json.sometimes "spec" specToJson b.spec ++ Json.sometimes "status" id b.status

end DaemonSetBody

namespace JobBody

def specOfNormal (j : Json) : JobSpec where
  parallelism := j.field? "parallelism" Json.asInt
  completions := j.field? "completions" Json.asInt
  template := PodTemplate.ofNormal ((j.get? "template").getD .null)
  other := j.without ["parallelism", "completions", "template"]

def specToJson (s : JobSpec) : Json :=
  .obj (Json.sometimes "completions" .int s.completions ++
    Json.sometimes "parallelism" .int s.parallelism ++
    Json.always "template" s.template.toJson ++ s.other)

def ofNormal (j : Json) : JobBody where
  spec := j.field? "spec" specOfNormal
  status := j.field? "status" fun s => ⟨s.field? "succeeded" Json.asInt, s.without ["succeeded"]⟩

def members (b : JobBody) : List (String × Json) :=
  Json.sometimes "spec" specToJson b.spec ++
    Json.sometimes "status" (fun (s : JobStatus) =>
      .obj (Json.sometimes "succeeded" .int s.succeeded ++ s.other)) b.status

end JobBody

namespace NodeBody

def ofNormal (j : Json) : NodeBody where
  spec := j.field? "spec" fun s =>
    ⟨s.field? "unschedulable" Json.asBool, s.without ["unschedulable"]⟩
  status := j.get? "status"

def members (b : NodeBody) : List (String × Json) :=
  Json.sometimes "spec" (fun (s : NodeSpec) =>
      .obj (Json.sometimes "unschedulable" .bool s.unschedulable ++ s.other)) b.spec ++
    Json.sometimes "status" id b.status

end NodeBody

/-- The kinds of objects. -/
inductive Kind where
  | namespaces
  | serviceAccounts
  | roleBindings
  | daemonSets
  | jobs
  | pods
  | nodes
  | overlays
  deriving DecidableEq, Repr

namespace Kind

def all : List Kind :=
  [namespaces, serviceAccounts, roleBindings, daemonSets, jobs, pods, nodes, overlays]

abbrev Body : Kind → Type
  | namespaces => NamespaceBody
  | serviceAccounts => ServiceAccountBody
  | roleBindings => RoleBindingBody
  | daemonSets => DaemonSetBody
  | jobs => JobBody
  | pods => PodBody
  | nodes => NodeBody
  | overlays => OverlaySpec

/-- The objects of a kind. -/
abbrev Object (k : Kind) : Type := Manifest k.Body

instance (k : Kind) : DecidableEq k.Object := by
  cases k <;> exact inferInstanceAs (DecidableEq (Manifest _))

/-- The group and version of the API. -/
def apiVersion : Kind → String
  | namespaces | serviceAccounts | pods | nodes => "v1"
  | roleBindings => "rbac.authorization.k8s.io/v1"
  | daemonSets => "apps/v1"
  | jobs => "batch/v1"
  | overlays => Overlay.apiVersion

/-- The name of the kind. -/
def name : Kind → String
  | namespaces => "Namespace"
  | serviceAccounts => "ServiceAccount"
  | roleBindings => "ClusterRoleBinding"
  | daemonSets => "DaemonSet"
  | jobs => "Job"
  | pods => "Pod"
  | nodes => "Node"
  | overlays => Overlay.kind

/-- The name of the objects in paths of the API. -/
def plural : Kind → String
  | namespaces => "namespaces"
  | serviceAccounts => "serviceaccounts"
  | roleBindings => "clusterrolebindings"
  | daemonSets => "daemonsets"
  | jobs => "jobs"
  | pods => "pods"
  | nodes => "nodes"
  | overlays => "flannelconfigs"

/-- The name of the objects in records of calls. -/
def label : Kind → String
  | namespaces => "namespaces"
  | serviceAccounts => "service_accounts"
  | roleBindings => "cluster_role_bindings"
  | daemonSets => "daemon_sets"
  | jobs => "jobs"
  | pods => "pods"
  | nodes => "nodes"
  | overlays => "flannel_configs"

/-- Whether the objects live in namespaces. -/
def isNamespaced : Kind → Bool
  | namespaces | roleBindings | nodes => false
  | serviceAccounts | daemonSets | jobs | pods | overlays => true

/-- The fields besides the metadata, as the API knows them. -/
def fields : Kind → List (String × Bool × Schema)
  | namespaces => Schema.namespaceFields
  | serviceAccounts => Schema.serviceAccountFields
  | roleBindings => Schema.clusterRoleBindingFields
  | daemonSets => Schema.daemonSetFields
  | jobs => Schema.jobFields
  | pods => Schema.podFields
  | nodes => Schema.nodeFields
  | overlays => []

/-- Group and version, and the kind's name, are right wherever they are given. -/
def headerFits (k : Kind) (j : Json) : Bool :=
  j.members.all fun m =>
    (m.1 != "apiVersion" || m.2 == .str k.apiVersion) && (m.1 != "kind" || m.2 == .str k.name)

/-- The normal form of an object of a kind other than overlays. -/
def normalize? (k : Kind) (j : Json) : Option Json :=
  if k.headerFits j then
    (Schema.record (Schema.req "metadata" Schema.objectMeta :: k.fields)).normalize? j
  else none

def metadataOfNormal (j : Json) : Metadata := Metadata.ofNormal ((j.get? "metadata").getD .null)

/-- Reads an object. -/
def decode? : (k : Kind) → Json → Option k.Object
  | namespaces, j => (normalize? .namespaces j).map fun n =>
    ⟨metadataOfNormal n, NamespaceBody.ofNormal n⟩
  | serviceAccounts, j => (normalize? .serviceAccounts j).map fun n =>
    ⟨metadataOfNormal n, ⟨n.without ["metadata"]⟩⟩
  | roleBindings, j => (normalize? .roleBindings j).map fun n =>
    ⟨metadataOfNormal n, RoleBindingBody.ofNormal n⟩
  | daemonSets, j => (normalize? .daemonSets j).map fun n =>
    ⟨metadataOfNormal n, DaemonSetBody.ofNormal n⟩
  | jobs, j => (normalize? .jobs j).map fun n => ⟨metadataOfNormal n, JobBody.ofNormal n⟩
  | pods, j => (normalize? .pods j).map fun n => ⟨metadataOfNormal n, ⟨n.without ["metadata"]⟩⟩
  | nodes, j => (normalize? .nodes j).map fun n => ⟨metadataOfNormal n, NodeBody.ofNormal n⟩
  | overlays, j => Overlay.ofJson? j

/-- The fields besides the metadata. -/
def bodyMembers : (k : Kind) → k.Body → List (String × Json)
  | namespaces, b => NamespaceBody.members b
  | serviceAccounts, b => ServiceAccountBody.other b
  | roleBindings, b => RoleBindingBody.members b
  | daemonSets, b => DaemonSetBody.members b
  | jobs, b => JobBody.members b
  | pods, b => PodBody.other b
  | nodes, b => NodeBody.members b
  | overlays, b => [("spec", OverlaySpec.toJson b)]

/-- Writes an object. -/
def encode (k : Kind) (o : k.Object) : Json :=
  .obj ([("apiVersion", .str k.apiVersion), ("kind", .str k.name),
    ("metadata", o.metadata.toJson)] ++ k.bodyMembers o.body)

end Kind

end TenantOverlay
