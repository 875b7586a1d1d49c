import TenantOverlay.Json.Basic
import TenantOverlay.Version

/-!
# Version bundles

A version bundle names the components of one generation of the operator and what changed in them.
`Bundle.shipped` are the generations that this operator has; `Bundle.validateAll` accepts a list of
bundles that are valid one by one and whose versions are written differently.
-/

namespace TenantOverlay

structure Component where
  name : String
  version : String
  deriving DecidableEq, Repr

structure Change where
  component : String
  description : String
  kind : String
  deriving DecidableEq, Repr

structure Bundle where
  name : String
  version : String
  components : List Component
  changes : List Change
  deriving DecidableEq, Repr

/-- The repository of the images of flannel's daemon. -/
def imageRepository : String := "quay.io/giantswarm/flannel"

/-- The image that holds a version of flannel. -/
def flannelImage (version : String) : String := imageRepository ++ ":v" ++ version ++ "-amd64"

namespace Bundle

/-- A bundle needs a name, a version and a component. -/
def validate (b : Bundle) : Result Unit := do
  Result.require (b.name != "") .bundleWithoutName
  let _ ← Version.parse b.version
  Result.require (!b.components.isEmpty) (.bundleWithoutComponents b.version)

/-- Checks the bundles of a list in order, each also against those before it. -/
def validateAfter (earlier : List Bundle) : List Bundle → Result Unit
  | [] => .ok ()
  | b :: r => do
    b.validate
    Result.require (!earlier.any fun e => e.version == b.version) (.duplicateBundle b.version)
    validateAfter (earlier ++ [b]) r

/-- Every bundle is valid and no version occurs twice. -/
def validateAll (bundles : List Bundle) : Result Unit := validateAfter [] bundles

/-- The generation that runs the daemon and the bridge. -/
def firstVersion : String := "0.1.0"

/-- The generation that adds a health container and takes the store's endpoints from the
configuration. -/
def secondVersion : String := "0.2.0"

/-- The component that is deployed. -/
def flannelComponent : String := "flannel"

private def release (version flannel : String) : Bundle where
  name := "flannel-operator"
  version := version
  components := [⟨flannelComponent, flannel⟩]
  changes := [⟨flannelComponent, "Flannel version updated.", "changed"⟩]

/-- The generations of this operator, earliest first. -/
def shipped : List Bundle := [release firstVersion "0.9.0", release secondVersion "0.10.0"]

/-- The version of flannel that a generation deploys. -/
def flannelVersion? (version : String) : Option String := do
  let bundle ← shipped.find? fun b => b.version == version
  let component ← bundle.components.find? fun c => c.name == flannelComponent
  return component.version

end Bundle

namespace Component

def ofJson? (j : Json) : Option Component := do
  let fields ← j.record? ["name", "version"]
  let name ← fields.required "name" Json.text?
  let version ← fields.required "version" Json.text?
  return ⟨name, version⟩

def toJson (c : Component) : Json := .obj [("name", .str c.name), ("version", .str c.version)]

end Component

namespace Change

def ofJson? (j : Json) : Option Change := do
  let fields ← j.record? ["component", "description", "kind"]
  let component ← fields.required "component" Json.text?
  let description ← fields.required "description" Json.text?
  let kind ← fields.required "kind" Json.text?
  return ⟨component, description, kind⟩

def toJson (c : Change) : Json :=
  .obj [("component", .str c.component), ("description", .str c.description), ("kind", .str c.kind)]

end Change

namespace Bundle

def ofJson? (j : Json) : Option Bundle := do
  let fields ← j.record? ["name", "version", "components", "changelogs"]
  let name ← fields.required "name" Json.text?
  let version ← fields.required "version" Json.text?
  let components ← fields.required "components" (Json.list? Component.ofJson?)
  let changes ← fields.required "changelogs" (Json.list? Change.ofJson?)
  return ⟨name, version, components, changes⟩

def toJson (b : Bundle) : Json :=
  .obj [("name", .str b.name), ("version", .str b.version),
    ("components", .arr (b.components.map Component.toJson)),
    ("changelogs", .arr (b.changes.map Change.toJson))]

end Bundle

end TenantOverlay
