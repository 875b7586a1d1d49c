import TenantOverlay.Overlay.Codec

/-!
# The definition of overlays

The custom resource definition by which the cluster API learns of overlays. The fields of every
object are listed in name order.
-/

namespace TenantOverlay.Overlay

namespace Definition

/-- Notes on a field: its default, if it may be missing, and what it is for. -/
def noted (default : Option Json) (description : String) (form : List (String × Json)) : Json :=
  .obj ((default.map fun d => ("default", d)).toList ++
    (if description = "" then [] else [("description", .str description)]) ++ form)

def textForm : List (String × Json) := [("type", .str "string")]

def textsForm : List (String × Json) := [("items", .obj textForm), ("type", .str "array")]

def uint32Form : List (String × Json) :=
  [("format", .str "uint32"), ("minimum", .float 0), ("type", .str "integer")]

/-- An object whose fields are listed in name order. -/
def objectForm (properties : List (String × Json)) (required : List String) :
    List (String × Json) :=
  [("properties", .obj properties)] ++
    (if required.isEmpty then [] else [("required", Json.ofTexts required)]) ++
    [("type", .str "object")]

def imageForm : List (String × Json) := objectForm [("image", noted none "" textForm)] ["image"]

def serversForm : List (String × Json) :=
  objectForm [("servers", noted (some (.arr [])) "" textsForm)] []

def noServers : Json := OverlaySpec.serversToJson []
def noImage : Json := OverlaySpec.imageToJson ""

def clusterForm : List (String × Json) :=
  objectForm [("customer", noted (some (.str "")) "客户/租户标签" textForm),
    ("id", noted none "集群标识，创建后不可变，所有生成的资源名都由它派生" textForm),
    ("namespace", noted (some (.str "")) "集群工作负载所在的命名空间" textForm)] ["id"]

def bridgeForm : List (String × Json) :=
  objectForm [("docker", noted none "网桥容器镜像" imageForm),
    ("spec", noted none "网桥网络参数"
      (objectForm [("dns", noted (some noServers) "DNS 服务器" serversForm),
        ("interface", noted none "宿主机网卡名" textForm),
        ("ntp", noted (some noServers) "NTP 服务器" serversForm),
        ("privateNetwork", noted none "宿主机私有网络 CIDR" textForm)]
        ["interface", "privateNetwork"]))] ["docker", "spec"]

def networkForm : List (String × Json) :=
  objectForm [("spec", noted none "flannel 网络参数"
    (objectForm [("network", noted none "覆盖网络 CIDR" textForm),
      ("runDir", noted none "宿主机上的运行目录" textForm),
      ("subnetLen", noted none "子网长度" uint32Form),
      ("vni", noted none "VXLAN 网络标识" uint32Form)]
      ["network", "runDir", "subnetLen", "vni"]))] ["spec"]

def healthForm : List (String × Json) :=
  objectForm [("docker", noted (some noImage) "容器镜像" imageForm)] []

def bundleForm : List (String × Json) :=
  objectForm [("version", noted (some (.str "")) "" textForm)] []

/-- The form of a specification. -/
def specForm : List (String × Json) :=
  objectForm [("bridge", noted none "网桥配置" bridgeForm),
    ("cluster", noted none "租户集群信息" clusterForm),
    ("flannel", noted none "flannel 网络配置" networkForm),
    ("health", noted (some (.obj [("docker", noImage)])) "健康检查容器配置" healthForm),
    ("versionBundle", noted (some (.obj [("version", .str "")])) "版本包" bundleForm)]
    ["bridge", "cluster", "flannel"]

/-- The form of an overlay. -/
def form : Json :=
  .obj ([("description",
      .str "Auto-generated derived type for FlannelConfigSpec via `CustomResource`"),
    ("properties", .obj [("spec", noted none "FlannelConfig 规范" specForm)]),
    ("required", Json.ofTexts ["spec"]), ("title", .str kind), ("type", .str "object")])

/-- A column that is shown in lists of overlays. -/
def column (name path : String) : Json :=
  .obj [("jsonPath", .str path), ("name", .str name), ("type", .str "string")]

def names : Json :=
  .obj [("categories", .arr []), ("kind", .str kind), ("plural", .str "flannelconfigs"),
    ("shortNames", .arr []), ("singular", .str "flannelconfig")]

def version : Json :=
  .obj [("additionalPrinterColumns", .arr [column "Cluster" ".spec.cluster.id",
      column "Version" ".spec.versionBundle.version"]),
    ("name", .str "v1alpha1"), ("schema", .obj [("openAPIV3Schema", form)]),
    ("served", .bool true), ("storage", .bool true), ("subresources", .obj [])]

end Definition

/-- The custom resource definition of overlays. -/
def definition : Json :=
  .obj [("apiVersion", .str "apiextensions.k8s.io/v1"), ("kind", .str "CustomResourceDefinition"),
    ("metadata", .obj [("name", .str "flannelconfigs.core.giantswarm.io")]),
    ("spec", .obj [("group", .str "core.giantswarm.io"), ("names", Definition.names),
      ("scope", .str "Namespaced"), ("versions", .arr [Definition.version])])]

end TenantOverlay.Overlay
