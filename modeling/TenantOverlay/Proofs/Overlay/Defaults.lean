import TenantOverlay.Proofs.Overlay.Codec

/-!
# Fields that may be missing

Some fields of a specification have a default. A value from which such a field is taken away is read as before, if
what was read had the default there (`Reads.removeAt`); so it is for any number of fields (`Reads.removeFields`). A
value without any other field is not read (`ofJson?_removeAt_known`). The image of the health container is one of
those, although all of its section may be missing.
-/

namespace TenantOverlay.OverlaySpec

open Json

/-- The paths of the fields of all structures. -/
def knownFields : List (List String) :=
  structures.flatMap fun part => part.2.map fun n => part.1 ++ [n]

/-- The paths to the values that have to be given. The image of the health container is not among them: it has to be
given only if its section is. -/
def requiredValues : List (List String) :=
  [["cluster", "id"], ["bridge", "docker", "image"], ["bridge", "spec", "interface"],
    ["bridge", "spec", "privateNetwork"], ["flannel", "spec", "network"], ["flannel", "spec", "subnetLen"],
    ["flannel", "spec", "runDir"], ["flannel", "spec", "vni"]]

/-- The fields that may be missing. -/
inductive OptionalField where
  | customer
  | namespaceName
  | dns
  | dnsServers
  | ntp
  | ntpServers
  | health
  | healthImage
  | bundle
  | bundleVersion
  deriving DecidableEq, Repr

namespace OptionalField

def all : List OptionalField :=
  [customer, namespaceName, dns, dnsServers, ntp, ntpServers, health, healthImage, bundle, bundleVersion]

variable {s : OverlaySpec} {f : OptionalField}

def path : OptionalField → List String
  | customer => ["cluster", "customer"]
  | namespaceName => ["cluster", "namespace"]
  | dns => ["bridge", "spec", "dns"]
  | dnsServers => ["bridge", "spec", "dns", "servers"]
  | ntp => ["bridge", "spec", "ntp"]
  | ntpServers => ["bridge", "spec", "ntp", "servers"]
  | health => ["health"]
  | healthImage => ["health", "docker"]
  | bundle => ["versionBundle"]
  | bundleVersion => ["versionBundle", "version"]

/-- A specification has the default in a field. -/
def IsDefault (s : OverlaySpec) : OptionalField → Prop
  | customer => s.cluster.customer = ""
  | namespaceName => s.cluster.namespaceName = ""
  | dns | dnsServers => s.bridge.dnsServers = []
  | ntp | ntpServers => s.bridge.ntpServers = []
  | health | healthImage => s.healthImage = ""
  | bundle | bundleVersion => s.bundleVersion = ""

lemma path_ne_nil : f.path ≠ [] := by cases f <;> exact List.cons_ne_nil _ _

lemma path_apart {path : List String} (required : path ∈ requiredValues) : Apart f.path path := by
  revert path
  cases f <;> decide

/-- The values that may be missing, each with what it says that it is the default. -/
def defaults (s : OverlaySpec) : List (List String × Prop) :=
  [(["cluster", "customer"], s.cluster.customer = ""),
    (["cluster", "namespace"], s.cluster.namespaceName = ""),
    (["bridge", "spec", "dns", "servers"], s.bridge.dnsServers = []),
    (["bridge", "spec", "ntp", "servers"], s.bridge.ntpServers = []),
    (["health", "docker"], s.healthImage = ""),
    (["versionBundle", "version"], s.bundleVersion = "")]

lemma IsDefault.of_through (h : f.IsDefault s) :
    ∀ value ∈ defaults s, f.path <+: value.1 → value.2 := by
  cases f <;> simpa [defaults, path, IsDefault] using h

lemma path_through_or_apart : ∀ value ∈ defaults s, f.path <+: value.1 ∨ Apart f.path value.1 := by
  cases f <;> simp [defaults, path, Apart]

end OptionalField

/-- The value without some of the fields. -/
def removeFields (fields : List OptionalField) (j : Json) : Json :=
  fields.foldl (fun j f => j.removeAt f.path) j

variable {j : Json} {s : OverlaySpec}

lemma objectsAt_toJson (s : OverlaySpec) : ObjectsAt structures s.toJson := by
  intro part known v found
  simp only [structures, under, TenantCluster.structures, BridgeSpec.structures, BridgeSpec.innerStructures,
    NetworkSpec.structures, NetworkSpec.innerStructures, imageStructures, serversStructures, healthStructures,
    bundleStructures, List.map_cons, List.map_nil, List.cons_append, List.nil_append,
    List.mem_cons, List.not_mem_nil, or_false] at known
  rcases known with rfl | rfl | rfl | rfl | rfl | rfl | rfl | rfl | rfl | rfl | rfl | rfl <;>
    exact ⟨_, (Option.some.inj found).symm⟩

lemma objectsAt_removeAt {path : List String} (ne : path ≠ []) (objects : ObjectsAt structures j) :
    ObjectsAt structures (j.removeAt path) :=
  objects.removeAt IsObject.removeAt ne

lemma objectsAt_removeFields {fields : List OptionalField} (objects : ObjectsAt structures j) :
    ObjectsAt structures (removeFields fields j) := by
  induction fields generalizing j with
  | nil => exact objects
  | cons f fields ih => exact ih (objectsAt_removeAt f.path_ne_nil objects)

/-- Taking away a field that has its default changes nothing of what is read. -/
lemma Reads.removeAt {f : OptionalField} (h : Reads j s) (default : f.IsDefault s) :
    Reads (j.removeAt f.path) s := by
  -- the paths of the field and of a value that has to be given part from each other
  have required {α : Type} {read : Json → Option α} {path : List String} {a : α} (known : path ∈ requiredValues)
      (h : j.given? read path = some a) : (j.removeAt f.path).given? read path = some a :=
    (given?_removeAt_apart (f.path_apart known)).trans h
  -- a value that may be missing goes with the field only if the field leads to it, and then it was the default
  have optional {α : Type} {read : Json → Option α} {path : List String} {a d : α}
      (known : (path, a = d) ∈ OptionalField.defaults s) (h : j.givenOr? d read path = some a) :
      (j.removeAt f.path).givenOr? d read path = some a :=
    givenOr?_removeAt f.path_ne_nil (f.path_through_or_apart _ known) (default.of_through _ known) h
  exact {
    records := EachAt.removeAt IsRecordOf.removeAt f.path_ne_nil h.records
    id := required (by decide) h.id
    customer := optional (by simp [OptionalField.defaults]) h.customer
    namespaceName := optional (by simp [OptionalField.defaults]) h.namespaceName
    image := required (by decide) h.image
    interface := required (by decide) h.interface
    privateNetwork := required (by decide) h.privateNetwork
    dnsServers := optional (by simp [OptionalField.defaults]) h.dnsServers
    ntpServers := optional (by simp [OptionalField.defaults]) h.ntpServers
    network := required (by decide) h.network
    subnetLength := required (by decide) h.subnetLength
    runDirectory := required (by decide) h.runDirectory
    vni := required (by decide) h.vni
    healthImage := optional (by simp [OptionalField.defaults]) h.healthImage
    bundleVersion := optional (by simp [OptionalField.defaults]) h.bundleVersion }

/-- Any number of fields that have their defaults may go. -/
lemma Reads.removeFields {fields : List OptionalField} (h : Reads j s) (defaults : ∀ f ∈ fields, f.IsDefault s) :
    Reads (removeFields fields j) s := by
  induction fields generalizing j with
  | nil => exact h
  | cons f fields ih =>
    exact ih (h.removeAt (defaults f List.mem_cons_self)) fun g later => defaults g (List.mem_cons_of_mem f later)

lemma Reads.present {path : List String} (h : Reads j s) (known : path ∈ requiredValues) : j.at? path ≠ none := by
  have given {α : Type} {read : Json → Option α} {path : List String} {a : α}
      (h : j.given? read path = some a) : j.at? path ≠ none := fun missing => by
    rw [given?, missing, Option.bind_none] at h
    cases h
  simp only [requiredValues, List.mem_cons, List.not_mem_nil, or_false] at known
  rcases known with rfl | rfl | rfl | rfl | rfl | rfl | rfl | rfl
  · exact given h.id
  · exact given h.image
  · exact given h.interface
  · exact given h.privateNetwork
  · exact given h.network
  · exact given h.subnetLength
  · exact given h.runDirectory
  · exact given h.vni

lemma known_cases {path : List String} (known : path ∈ knownFields) :
    (∃ f ∈ OptionalField.all, f.path = path) ∨ path = ["health", "docker", "image"] ∨
      ∃ value ∈ requiredValues, path <+: value := by
  revert path
  decide

lemma knownFields_ne_nil {path : List String} (known : path ∈ knownFields) : path ≠ [] := by
  obtain ⟨part, -, field⟩ := List.mem_flatMap.1 known
  obtain ⟨n, -, rfl⟩ := List.mem_map.1 field
  exact List.append_ne_nil_of_right_ne_nil _ (List.cons_ne_nil _ _)

/-- The section of the health container is not read without an image. -/
lemma not_reads_without_image (objects : ObjectsAt structures j)
    (present : j.at? ["health", "docker", "image"] ≠ none) :
    ¬ Reads (j.removeAt ["health", "docker", "image"]) s := by
  intro reads
  cases there : j.at? ["health", "docker"] with
  | none =>
    have through := @at?_append j ["health", "docker"] ["image"]
    exact present (through.trans (by rw [there, Option.bind_none]))
  | some v =>
    have object : v.IsObject := objects (["health", "docker"], ["image"]) (by decide) v there
    -- the section stays, so that its default does not apply
    have left : (j.removeAt ["health", "docker", "image"]).at? ["health", "docker"] = some (v.removeAt ["image"]) :=
      (@at?_removeAt_above j ["image"] ["health", "docker"] (List.cons_ne_nil _ _)).trans (congrArg _ there)
    have read := reads.healthImage
    rw [givenOr?, left] at read
    have image := ((imageOfJson?_iff (eachAt_here.2 object.removeAt)).1 read).2
    rw [given?, at?_removeAt_through List.prefix_rfl (List.cons_ne_nil _ _), Option.bind_none] at image
    cases image

/-- Without any other field the value is not read. -/
lemma ofJson?_removeAt_known {path : List String} (objects : ObjectsAt structures j) (known : path ∈ knownFields)
    (required : ∀ f : OptionalField, f.path ≠ path) (present : j.at? path ≠ none) :
    ofJson? (j.removeAt path) = none := by
  have ne := knownFields_ne_nil known
  refine Option.eq_none_iff_forall_ne_some.2 fun s read => ?_
  have reads := (ofJson?_iff (objectsAt_removeAt ne objects)).1 read
  obtain ⟨f, -, same⟩ | rfl | ⟨value, given, through⟩ := known_cases known
  · exact required f same
  · exact not_reads_without_image objects present reads
  · exact reads.present given (at?_removeAt_through through ne)

/-- What is written of a specification is read back. Of a value that is read, with every structure an object, any
fields that have their defaults may be missing; no other field may. -/
theorem spec_round_trip_and_defaults :
    (∀ s : OverlaySpec, ofJson? s.toJson = some s ∧ s.toJson.canonical?.bind ofJson? = some s) ∧
    ∀ (j : Json) (s : OverlaySpec), ofJson? j = some s → ObjectsAt structures j →
      (∀ fields : List OptionalField, (∀ f ∈ fields, f.IsDefault s) → ofJson? (removeFields fields j) = some s) ∧
      ∀ path ∈ knownFields, (∀ f : OptionalField, f.path ≠ path) → j.at? path ≠ none →
        ofJson? (j.removeAt path) = none := by
  refine ⟨fun s => ⟨s.ofJson?_toJson, s.ofJson?_canonical⟩, fun j s read objects => ⟨fun fields defaults => ?_, ?_⟩⟩
  · have reads := ((ofJson?_iff objects).1 read).removeFields defaults
    exact (ofJson?_iff (objectsAt_removeFields objects)).2 reads
  · intro path known required present
    exact ofJson?_removeAt_known objects known required present

-- a field that does not have its default gets it
example : (ofJson? ((Overlay.sample "xa5ly").body.toJson.removeAt ["versionBundle"])).map (·.bundleVersion) =
    some "" := by
  decide

/-- A specification with the default in every field that may be missing. -/
def bare : OverlaySpec where
  cluster := ⟨"xa5ly", "", ""⟩
  bridge := ⟨"bridge:latest", "bond0.3", "10.0.4.0/24", [], []⟩
  network := ⟨"172.26.0.0/16", 30, "/run/flannel", 26⟩
  healthImage := ""
  bundleVersion := ""

theorem spec_round_trip_and_defaults_bare :
    ofJson? bare.toJson = some bare ∧ ObjectsAt structures bare.toJson ∧
      (∀ f ∈ OptionalField.all, f.IsDefault bare) ∧
      ofJson? (removeFields OptionalField.all bare.toJson) = some bare ∧
      ["health", "docker", "image"] ∈ knownFields ∧ (∀ f : OptionalField, f.path ≠ ["health", "docker", "image"]) ∧
      bare.toJson.at? ["health", "docker", "image"] ≠ none ∧
      ofJson? (bare.toJson.removeAt ["health", "docker", "image"]) = none := by
  have read := (spec_round_trip_and_defaults.1 bare).1
  have objects := objectsAt_toJson bare
  have defaults : ∀ f ∈ OptionalField.all, f.IsDefault bare := by
    simp [OptionalField.all, OptionalField.IsDefault, bare]
  have known : ["health", "docker", "image"] ∈ knownFields := by decide
  have required : ∀ f : OptionalField, f.path ≠ ["health", "docker", "image"] := by
    intro f
    cases f <;> decide
  have present : bare.toJson.at? ["health", "docker", "image"] ≠ none := by decide
  have missing := spec_round_trip_and_defaults.2 bare.toJson bare read objects
  exact ⟨read, objects, defaults, missing.1 OptionalField.all defaults, known, required, present,
    missing.2 _ known required present⟩

end TenantOverlay.OverlaySpec
