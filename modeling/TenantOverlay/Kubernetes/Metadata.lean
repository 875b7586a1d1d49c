import TenantOverlay.Kubernetes.Normal
import TenantOverlay.Kubernetes.Timestamp

/-!
# Metadata of objects

What every object of the cluster has: its name and namespace, labels and annotations, the
finalizers that keep it from being removed, the version under which it is stored, and the moment of
its deletion. `other` holds the fields that the operator passes on unread.
-/

namespace TenantOverlay

structure Metadata where
  name : Option String := none
  generateName : Option String := none
  namespaceName : Option String := none
  labels : Option Labels := none
  annotations : Option Labels := none
  finalizers : Option (List String) := none
  resourceVersion : Option String := none
  deletionTimestamp : Option Timestamp := none
  other : List (String × Json) := []
  deriving DecidableEq

namespace Metadata

/-- An object with this metadata has been marked for deletion. -/
def isDeleted (m : Metadata) : Bool := m.deletionTimestamp.isSome

/-- The name, or the beginning of a name that is still to be chosen. -/
def anyName (m : Metadata) : String := m.name.getD (m.generateName.getD "")

def label? (m : Metadata) (name : String) : Option String := m.labels.bind fun l => l.get? name

def annotation? (m : Metadata) (name : String) : Option String :=
  m.annotations.bind fun l => l.get? name

def ofNormal (j : Json) : Metadata where
  name := j.field? "name" Json.asText
  generateName := j.field? "generateName" Json.asText
  namespaceName := j.field? "namespace" Json.asText
  labels := j.field? "labels" Json.asLabels
  annotations := j.field? "annotations" Json.asLabels
  finalizers := j.field? "finalizers" Json.asTexts
  resourceVersion := j.field? "resourceVersion" Json.asText
  deletionTimestamp := (j.field? "deletionTimestamp" Json.asText).bind Timestamp.parse?
  other := j.without ["name", "generateName", "namespace", "labels", "annotations", "finalizers",
    "resourceVersion", "deletionTimestamp"]

def toJson (m : Metadata) : Json :=
  .obj (Json.sometimes "annotations" Json.ofLabels m.annotations ++
    Json.sometimes "deletionTimestamp" (.str ∘ Timestamp.render) m.deletionTimestamp ++
    Json.sometimes "finalizers" Json.ofTexts m.finalizers ++
    Json.sometimes "generateName" .str m.generateName ++
    Json.sometimes "labels" Json.ofLabels m.labels ++
    Json.sometimes "name" .str m.name ++
    Json.sometimes "namespace" .str m.namespaceName ++
    Json.sometimes "resourceVersion" .str m.resourceVersion ++ m.other)

end Metadata

/-- An object of the cluster: its metadata and what its kind adds. -/
structure Manifest (Body : Type) where
  metadata : Metadata
  body : Body
  deriving DecidableEq

end TenantOverlay
