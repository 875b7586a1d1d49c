import TenantOverlay.Reconcile.Pass

/-!
# Routing

A resource set is the list of handlers of one generation. A router selects the set of the generation
that an object asks for; objects that ask for none get the router's default set, if it has one.
-/

namespace TenantOverlay

/-- The handlers of a generation. -/
structure ResourceSet (S : Signature) (O : Type) where
  version : String
  handlers : List (Handler S O)

/-- The sets of some generations, and which of them is the default. -/
structure ResourceRouter (S : Signature) (O : Type) where
  sets : List (ResourceSet S O)
  defaultVersion : Option String := none

variable {S : Signature} {O : Type}

namespace ResourceSet

/-- A set needs a version and a handler. -/
def build (version : String) (handlers : List (Handler S O)) : Result (ResourceSet S O) := do
  Result.require (version != "") .setWithoutVersion
  Result.require (!handlers.isEmpty) (.setWithoutHandlers version)
  return ⟨version, handlers⟩

def handlerNames (s : ResourceSet S O) : List String := s.handlers.map (·.name)

end ResourceSet

namespace ResourceRouter

/-- The first version that occurs for a second time. -/
def repeatedVersion? : List String → List String → Option String
  | _, [] => none
  | earlier, v :: r => if earlier.contains v then some v else repeatedVersion? (v :: earlier) r

/-- No two sets of a router have the same version. -/
def build (sets : List (ResourceSet S O)) : Result (ResourceRouter S O) :=
  match repeatedVersion? [] (sets.map (·.version)) with
  | some v => .error (.invalidConfig (.duplicateSet v))
  | none => .ok { sets := sets }

/-- The router with one of its sets as the default. -/
def withDefault (r : ResourceRouter S O) (version : String) : Result (ResourceRouter S O) := do
  Result.require (r.sets.any fun s => s.version == version) (.unknownDefaultSet version)
  return { r with defaultVersion := some version }

/-- The set for a version; for no version the default. -/
def select (r : ResourceRouter S O) (version : String) : Option (ResourceSet S O) := do
  let wanted ← if version = "" then r.defaultVersion else some version
  r.sets.find? fun s => s.version == wanted

def versions (r : ResourceRouter S O) : List String := r.sets.map (·.version)

end ResourceRouter

/-- The set that the first router to have one selects. -/
def route (routers : List (ResourceRouter S O)) (version : String) : Option (ResourceSet S O) :=
  routers.findSome? fun r => r.select version

end TenantOverlay
