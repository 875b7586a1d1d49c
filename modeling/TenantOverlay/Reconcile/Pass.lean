import TenantOverlay.Reconcile.Handler

/-!
# Passes

A pass runs the handlers of an object one after the other: in their order while the object lives,
in reverse order when it is deleted. The first signal or failure ends it.
-/

namespace TenantOverlay

/-- How a pass ended. -/
inductive PassOutcome where
  | done
  | canceled (resource : String)
  | finalizerKept (resource : String)
  deriving DecidableEq, Repr

namespace PassOutcome

/-- The finalizer may go only after every handler has run. -/
def mayRemoveFinalizer (o : PassOutcome) : Bool := o == done

/-- The handler that ended the pass. -/
def endedBy? : PassOutcome → Option String
  | done => none
  | canceled r | finalizerKept r => some r

/-- The outcome as it is counted. -/
def label : PassOutcome → String
  | done => "done"
  | canceled _ => "canceled"
  | finalizerKept _ => "finalizer_kept"

def name : PassOutcome → String
  | done => "Done"
  | canceled _ => "Canceled"
  | finalizerKept _ => "FinalizerKept"

end PassOutcome

variable {S : Signature} {O : Type}

/-- One handler's part of a pass. -/
def Handler.ensure (h : Handler S O) (deleting : Bool) (o : O) : Fallible S PassError (Flow Unit) :=
  if deleting then h.ensureDeleted o else h.ensureCreated o

/-- Runs handlers in the order of the list. -/
def runHandlers (deleting : Bool) (o : O) : List (Handler S O) → Fallible S PassError PassOutcome
  | [] => return .done
  | h :: rest => do
    match ← h.ensure deleting o with
    | .continue () => runHandlers deleting o rest
    | .cancel => return .canceled h.name
    | .keepFinalizer => return .finalizerKept h.name

/-- Runs a pass. -/
def runPass (handlers : List (Handler S O)) (o : O) (deleting : Bool) :
    Fallible S PassError PassOutcome :=
  runHandlers deleting o (if deleting then handlers.reverse else handlers)

end TenantOverlay
