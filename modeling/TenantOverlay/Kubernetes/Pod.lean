import TenantOverlay.Kubernetes.Metadata

/-!
# Pods

Containers and pod templates. Each record names the fields that the operator sets or reads; `other`
holds the rest of the type's fields in normal form.
-/

namespace TenantOverlay

/-- A port, by number or by name. -/
inductive IntOrText where
  | int (i : Int)
  | text (s : String)
  deriving DecidableEq, Repr

namespace IntOrText

def ofNormal : Json → IntOrText
  | .str s => .text s
  | j => .int j.asInt

def toJson : IntOrText → Json
  | .int i => .int i
  | .text s => .str s

end IntOrText

/-- One condition on a label. -/
structure LabelRequirement where
  key : String
  operator : String
  values : Option (List String) := none
  deriving DecidableEq

namespace LabelRequirement

def ofNormal (j : Json) : LabelRequirement where
  key := j.text "key"
  operator := j.text "operator"
  values := j.field? "values" Json.asTexts

def toJson (r : LabelRequirement) : Json :=
  .obj (Json.always "key" (.str r.key) ++ Json.always "operator" (.str r.operator) ++
    Json.sometimes "values" Json.ofTexts r.values)

end LabelRequirement

/-- Which labels an object has to carry. -/
structure LabelSelector where
  matchExpressions : Option (List LabelRequirement) := none
  matchLabels : Option Labels := none
  deriving DecidableEq

namespace LabelSelector

def ofNormal (j : Json) : LabelSelector where
  matchExpressions := j.field? "matchExpressions" (Json.asList LabelRequirement.ofNormal)
  matchLabels := j.field? "matchLabels" Json.asLabels

def toJson (s : LabelSelector) : Json :=
  .obj (Json.sometimes "matchExpressions" (Json.ofList LabelRequirement.toJson) s.matchExpressions ++
    Json.sometimes "matchLabels" Json.ofLabels s.matchLabels)

end LabelSelector

/-- A variable in a container's environment. -/
structure EnvVar where
  name : String
  value : Option String := none
  other : List (String × Json) := []
  deriving DecidableEq

namespace EnvVar

def ofNormal (j : Json) : EnvVar where
  name := j.text "name"
  value := j.field? "value" Json.asText
  other := j.without ["name", "value"]

def toJson (e : EnvVar) : Json :=
  .obj (Json.always "name" (.str e.name) ++ Json.sometimes "value" .str e.value ++ e.other)

end EnvVar

/-- A probe by an HTTP request. -/
structure HttpProbe where
  path : Option String := none
  port : IntOrText
  host : Option String := none
  other : List (String × Json) := []
  deriving DecidableEq

namespace HttpProbe

def ofNormal (j : Json) : HttpProbe where
  path := j.field? "path" Json.asText
  port := (j.field? "port" IntOrText.ofNormal).getD (.int 0)
  host := j.field? "host" Json.asText
  other := j.without ["path", "port", "host"]

def toJson (h : HttpProbe) : Json :=
  .obj (Json.sometimes "path" .str h.path ++ Json.always "port" h.port.toJson ++
    Json.sometimes "host" .str h.host ++ h.other)

end HttpProbe

/-- How the health of a container is found out. -/
structure Probe where
  initialDelaySeconds : Option Int := none
  timeoutSeconds : Option Int := none
  periodSeconds : Option Int := none
  failureThreshold : Option Int := none
  successThreshold : Option Int := none
  http : Option HttpProbe := none
  other : List (String × Json) := []
  deriving DecidableEq

namespace Probe

def ofNormal (j : Json) : Probe where
  initialDelaySeconds := j.field? "initialDelaySeconds" Json.asInt
  timeoutSeconds := j.field? "timeoutSeconds" Json.asInt
  periodSeconds := j.field? "periodSeconds" Json.asInt
  failureThreshold := j.field? "failureThreshold" Json.asInt
  successThreshold := j.field? "successThreshold" Json.asInt
  http := j.field? "httpGet" HttpProbe.ofNormal
  other := j.without ["initialDelaySeconds", "timeoutSeconds", "periodSeconds", "failureThreshold",
    "successThreshold", "httpGet"]

def toJson (p : Probe) : Json :=
  .obj (Json.sometimes "initialDelaySeconds" .int p.initialDelaySeconds ++
    Json.sometimes "timeoutSeconds" .int p.timeoutSeconds ++
    Json.sometimes "periodSeconds" .int p.periodSeconds ++
    Json.sometimes "failureThreshold" .int p.failureThreshold ++
    Json.sometimes "successThreshold" .int p.successThreshold ++
    Json.sometimes "httpGet" HttpProbe.toJson p.http ++ p.other)

end Probe

/-- What a container may do on its host. -/
structure SecurityContext where
  privileged : Option Bool := none
  other : List (String × Json) := []
  deriving DecidableEq

namespace SecurityContext

def ofNormal (j : Json) : SecurityContext where
  privileged := j.field? "privileged" Json.asBool
  other := j.without ["privileged"]

def toJson (s : SecurityContext) : Json :=
  .obj (Json.sometimes "privileged" .bool s.privileged ++ s.other)

end SecurityContext

/-- Where a container sees a volume. -/
structure VolumeMount where
  name : String
  mountPath : String
  other : List (String × Json) := []
  deriving DecidableEq

namespace VolumeMount

def ofNormal (j : Json) : VolumeMount where
  name := j.text "name"
  mountPath := j.text "mountPath"
  other := j.without ["name", "mountPath"]

def toJson (v : VolumeMount) : Json :=
  .obj (Json.always "mountPath" (.str v.mountPath) ++ Json.always "name" (.str v.name) ++ v.other)

end VolumeMount

/-- A directory or file of the host. -/
structure HostPath where
  path : String
  type : Option String := none
  deriving DecidableEq

namespace HostPath

def ofNormal (j : Json) : HostPath where
  path := j.text "path"
  type := j.field? "type" Json.asText

def toJson (h : HostPath) : Json :=
  .obj (Json.always "path" (.str h.path) ++ Json.sometimes "type" .str h.type)

end HostPath

/-- Something that the containers of a pod can mount. -/
structure Volume where
  name : String
  hostPath : Option HostPath := none
  other : List (String × Json) := []
  deriving DecidableEq

namespace Volume

def ofNormal (j : Json) : Volume where
  name := j.text "name"
  hostPath := j.field? "hostPath" HostPath.ofNormal
  other := j.without ["name", "hostPath"]

def toJson (v : Volume) : Json :=
  .obj (Json.sometimes "hostPath" HostPath.toJson v.hostPath ++ Json.always "name" (.str v.name) ++
    v.other)

end Volume

structure Container where
  name : String
  image : Option String := none
  imagePullPolicy : Option String := none
  command : Option (List String) := none
  env : Option (List EnvVar) := none
  livenessProbe : Option Probe := none
  volumeMounts : Option (List VolumeMount) := none
  securityContext : Option SecurityContext := none
  other : List (String × Json) := []
  deriving DecidableEq

namespace Container

def ofNormal (j : Json) : Container where
  name := j.text "name"
  image := j.field? "image" Json.asText
  imagePullPolicy := j.field? "imagePullPolicy" Json.asText
  command := j.field? "command" Json.asTexts
  env := j.field? "env" (Json.asList EnvVar.ofNormal)
  livenessProbe := j.field? "livenessProbe" Probe.ofNormal
  volumeMounts := j.field? "volumeMounts" (Json.asList VolumeMount.ofNormal)
  securityContext := j.field? "securityContext" SecurityContext.ofNormal
  other := j.without ["name", "image", "imagePullPolicy", "command", "env", "livenessProbe",
    "volumeMounts", "securityContext"]

def toJson (c : Container) : Json :=
  .obj (Json.sometimes "command" Json.ofTexts c.command ++
    Json.sometimes "env" (Json.ofList EnvVar.toJson) c.env ++
    Json.sometimes "image" .str c.image ++
    Json.sometimes "imagePullPolicy" .str c.imagePullPolicy ++
    Json.sometimes "livenessProbe" Probe.toJson c.livenessProbe ++
    Json.always "name" (.str c.name) ++
    Json.sometimes "securityContext" SecurityContext.toJson c.securityContext ++
    Json.sometimes "volumeMounts" (Json.ofList VolumeMount.toJson) c.volumeMounts ++ c.other)

end Container

/-- Pods that have to run, or not to run, on the same host. -/
structure PodAffinityTerm where
  labelSelector : Option LabelSelector := none
  namespaces : Option (List String) := none
  topologyKey : String
  other : List (String × Json) := []
  deriving DecidableEq

namespace PodAffinityTerm

def ofNormal (j : Json) : PodAffinityTerm where
  labelSelector := j.field? "labelSelector" LabelSelector.ofNormal
  namespaces := j.field? "namespaces" Json.asTexts
  topologyKey := j.text "topologyKey"
  other := j.without ["labelSelector", "namespaces", "topologyKey"]

def toJson (t : PodAffinityTerm) : Json :=
  .obj (Json.sometimes "labelSelector" LabelSelector.toJson t.labelSelector ++
    Json.sometimes "namespaces" Json.ofTexts t.namespaces ++
    Json.always "topologyKey" (.str t.topologyKey) ++ t.other)

end PodAffinityTerm

/-- Pods that repel each other. -/
structure PodAntiAffinity where
  required : Option (List PodAffinityTerm) := none
  other : List (String × Json) := []
  deriving DecidableEq

namespace PodAntiAffinity

private def requiredName : String := "requiredDuringSchedulingIgnoredDuringExecution"

def ofNormal (j : Json) : PodAntiAffinity where
  required := j.field? requiredName (Json.asList PodAffinityTerm.ofNormal)
  other := j.without [requiredName]

def toJson (a : PodAntiAffinity) : Json :=
  .obj (Json.sometimes requiredName (Json.ofList PodAffinityTerm.toJson) a.required ++ a.other)

end PodAntiAffinity

/-- Which hosts suit a pod. -/
structure Affinity where
  podAntiAffinity : Option PodAntiAffinity := none
  other : List (String × Json) := []
  deriving DecidableEq

namespace Affinity

def ofNormal (j : Json) : Affinity where
  podAntiAffinity := j.field? "podAntiAffinity" PodAntiAffinity.ofNormal
  other := j.without ["podAntiAffinity"]

def toJson (a : Affinity) : Json :=
  .obj (Json.sometimes "podAntiAffinity" PodAntiAffinity.toJson a.podAntiAffinity ++ a.other)

end Affinity

structure PodSpec where
  containers : List Container
  volumes : Option (List Volume) := none
  hostNetwork : Option Bool := none
  hostPid : Option Bool := none
  restartPolicy : Option String := none
  serviceAccountName : Option String := none
  affinity : Option Affinity := none
  other : List (String × Json) := []
  deriving DecidableEq

namespace PodSpec

def ofNormal (j : Json) : PodSpec where
  containers := (j.field? "containers" (Json.asList Container.ofNormal)).getD []
  volumes := j.field? "volumes" (Json.asList Volume.ofNormal)
  hostNetwork := j.field? "hostNetwork" Json.asBool
  hostPid := j.field? "hostPID" Json.asBool
  restartPolicy := j.field? "restartPolicy" Json.asText
  serviceAccountName := j.field? "serviceAccountName" Json.asText
  affinity := j.field? "affinity" Affinity.ofNormal
  other := j.without ["containers", "volumes", "hostNetwork", "hostPID", "restartPolicy",
    "serviceAccountName", "affinity"]

def toJson (p : PodSpec) : Json :=
  .obj (Json.sometimes "affinity" Affinity.toJson p.affinity ++
    Json.always "containers" (Json.ofList Container.toJson p.containers) ++
    Json.sometimes "hostNetwork" .bool p.hostNetwork ++
    Json.sometimes "hostPID" .bool p.hostPid ++
    Json.sometimes "restartPolicy" .str p.restartPolicy ++
    Json.sometimes "serviceAccountName" .str p.serviceAccountName ++
    Json.sometimes "volumes" (Json.ofList Volume.toJson) p.volumes ++ p.other)

end PodSpec

/-- What pods are made from. -/
structure PodTemplate where
  metadata : Option Metadata := none
  spec : Option PodSpec := none
  deriving DecidableEq

namespace PodTemplate

def ofNormal (j : Json) : PodTemplate where
  metadata := j.field? "metadata" Metadata.ofNormal
  spec := j.field? "spec" PodSpec.ofNormal

def toJson (t : PodTemplate) : Json :=
  .obj (Json.sometimes "metadata" Metadata.toJson t.metadata ++
    Json.sometimes "spec" PodSpec.toJson t.spec)

end PodTemplate

end TenantOverlay
