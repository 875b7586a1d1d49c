import TenantOverlay.Reconcile.Resource

/-!
# Handlers

A handler brings one aspect of an object to its desired state, or removes it. Every resource is one:
it finds out the current state, then the desired one, then what has to change, and makes the
changes.
-/

namespace TenantOverlay

/-- The stages of a handler's run. -/
inductive Stage where
  | fetchingCurrent
  | fetchingDesired
  | computingPatch
  | applying
  deriving DecidableEq, Repr

def Stage.text : Stage → String
  | fetchingCurrent => "获取当前状态"
  | fetchingDesired => "计算期望状态"
  | computingPatch => "计算补丁"
  | applying => "应用变更"

/-- A handler failed at a stage. -/
structure PassError where
  resource : String
  stage : Stage
  cause : Error
  deriving DecidableEq, Repr

def PassError.isRetryable (e : PassError) : Bool := e.cause.isRetryable

structure Handler (S : Signature) (O : Type) where
  name : String
  ensureCreated : O → Fallible S PassError (Flow Unit)
  ensureDeleted : O → Fallible S PassError (Flow Unit)

namespace Resource

variable {S : Signature} {O α : Type}

/-- A step of a handler, whose failures are failures of the handler at a stage. -/
def atStage (r : Resource S O) (stage : Stage) (a : Action S α) : Fallible S PassError α :=
  ExceptT.adapt (fun e => ⟨r.name, stage, e⟩) a

/-- Makes a change if there is one to make. -/
def apply (r : Resource S O) (change : r.State → Action S (Flow Unit)) :
    Option r.State → Fallible S PassError (Flow Unit)
  | none => pure .proceed
  | some s => r.atStage .applying (change s)

/-- Creates and updates. -/
def ensureCreated (r : Resource S O) (o : O) : Fallible S PassError (Flow Unit) := do
  match ← r.atStage .fetchingCurrent (r.current o) with
  | .cancel => return .cancel
  | .keepFinalizer => return .keepFinalizer
  | .continue current =>
    let desired ← r.atStage .fetchingDesired (r.desired o)
    let patch ← r.atStage .computingPatch (r.updatePatch o current desired)
    match ← r.apply (r.create o) patch.create with
    | .cancel => return .cancel
    | .keepFinalizer => return .keepFinalizer
    | .continue () => r.apply (r.update o) patch.update

/-- Deletes. -/
def ensureDeleted (r : Resource S O) (o : O) : Fallible S PassError (Flow Unit) := do
  match ← r.atStage .fetchingCurrent (r.current o) with
  | .cancel => return .cancel
  | .keepFinalizer => return .keepFinalizer
  | .continue current =>
    let desired ← r.atStage .fetchingDesired (r.desired o)
    let patch ← r.atStage .computingPatch (r.deletePatch o current desired)
    r.apply (r.delete o) patch.delete

def handler (r : Resource S O) : Handler S O := ⟨r.name, r.ensureCreated, r.ensureDeleted⟩

end Resource

end TenantOverlay
