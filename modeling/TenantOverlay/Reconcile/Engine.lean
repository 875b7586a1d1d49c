import TenantOverlay.Reconcile.Router

/-!
# The engine

Runs one pass over an object with the handlers of its generation, and counts how passes end.
-/

namespace TenantOverlay

/-- What the engine has to know of the objects it manages. -/
class Managed (O : Type) where
  isDeleted : O → Bool
  /-- The generation an object asks for; empty for none. -/
  version : O → String

structure Engine (S : Signature) (O : Type) where
  routers : List (ResourceRouter S O)
  /-- Whether passes are counted. -/
  counted : Bool := false

namespace Engine

variable {S : Signature} {O : Type}

/-- An engine needs a router. -/
def build (routers : List (ResourceRouter S O)) : Result (Engine S O) := do
  Result.require (!routers.isEmpty) .noRouters
  return { routers := routers }

/-- The engine with its passes counted in a registry. -/
def withRegistry (e : Engine S O) (registry : Registry) : Result (Engine S O × Registry) := do
  let registry ← registry.registerPasses
  return ({ e with counted := true }, registry)

/-- The handlers for an object. -/
def resolve [Managed O] (e : Engine S O) (o : O) : Option (ResourceSet S O) :=
  route e.routers (Managed.version o)

/-- How a pass is counted. -/
def label : Except PassError PassOutcome → String
  | .ok outcome => outcome.label
  | .error _ => "failed"

/-- Runs a pass over an object; none when no router has its generation. -/
def reconcile [Managed O] (e : Engine S O) (o : O) :
    Fallible S PassError (Option PassOutcome) :=
  match e.resolve o with
  | none => return none
  | some set => ExceptT.mk do
    let result ← (runPass set.handlers o (Managed.isDeleted o)).run
    if e.counted then
      let _ ← (Action.record (S := S) (.pass (label result))).run
    pure (result.map some)

end Engine

end TenantOverlay
