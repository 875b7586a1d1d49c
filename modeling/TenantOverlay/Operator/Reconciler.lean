import TenantOverlay.Operator.Generations

/-!
# Reconciliation of overlays

What the operator does with an overlay each time it looks at it. A finalizer marks the overlays for
which objects may exist: it is put on an overlay before the first handler runs, and taken off after
a deletion pass in which every handler has run to its end.
-/

namespace TenantOverlay

/-- The finalizer of the operator. -/
def finalizer : String := "flannel-operator.giantswarm.io/flannel-network"

namespace Overlay

def finalizers (o : Overlay) : List String := o.metadata.finalizers.getD []

def hasFinalizer (o : Overlay) : Bool := o.finalizers.contains finalizer

def withFinalizers (o : Overlay) (finalizers : List String) : Overlay :=
  { o with metadata := { o.metadata with finalizers := some finalizers } }

/-- The overlay with the finalizer after those that it has. -/
def addFinalizer (o : Overlay) : Overlay := o.withFinalizers (o.finalizers ++ [finalizer])

/-- The overlay without the finalizer, and with the other ones in their order. -/
def removeFinalizer (o : Overlay) : Overlay :=
  o.withFinalizers (o.finalizers.filter (· != finalizer))

end Overlay

/-- When the operator looks at an overlay again. -/
inductive NextLook where
  /-- When it changes. -/
  | onChange
  | after (seconds : Nat)
  deriving DecidableEq, Repr

/-- Why a reconciliation failed. -/
inductive ReconcileError where
  /-- A handler failed. -/
  | pass (error : PassError)
  /-- The overlay is not valid or cannot be written. -/
  | object (error : Error)
  deriving DecidableEq, Repr

/-- Looks after overlays with an engine. -/
structure Reconciler where
  engine : Engine services Overlay
  controller : ControllerConfig

namespace Reconciler

/-- An operation on the overlay itself. -/
def onObject {α : Type} (a : OperatorAction α) : Fallible services ReconcileError α :=
  ExceptT.adapt ReconcileError.object a

/-- A pass over an overlay. -/
def pass (r : Reconciler) (o : Overlay) : Fallible services ReconcileError (Option PassOutcome) :=
  ExceptT.adapt ReconcileError.pass (r.engine.reconcile o)

/-- Puts the finalizer on an overlay; the overlay as it is stored then. -/
def addFinalizer (o : Overlay) : OperatorAction Overlay :=
  Kind.replace .overlays o.metadata.namespaceName o.addFinalizer

/-- Takes the finalizer off an overlay, which may be gone already. -/
def removeFinalizer (o : Overlay) : OperatorAction Unit :=
  Action.orElseIf (do let _ ← Kind.replace .overlays o.metadata.namespaceName o.removeFinalizer)
    Error.isNotFound ()

/-- A deleted overlay. Without an identifier there are no names to clean up by. -/
def reconcileDeleted (r : Reconciler) (o : Overlay) : Fallible services ReconcileError NextLook := do
  if !o.hasFinalizer then return .onChange
  if o.clusterId = "" then
    onObject (removeFinalizer o)
    return .onChange
  match ← r.pass o with
  | none => return .onChange
  | some outcome =>
    if outcome.mayRemoveFinalizer then
      onObject (removeFinalizer o)
      return .onChange
    else return .after r.controller.shortRequeueSeconds

/-- A living overlay. -/
def reconcileLive (r : Reconciler) (o : Overlay) : Fallible services ReconcileError NextLook := do
  onObject (Action.ofResult o.body.validate)
  let o ← if o.hasFinalizer then pure o else onObject (addFinalizer o)
  match ← r.pass o with
  | none => return .onChange
  | some .done => return .after r.controller.resyncSeconds
  | some _ => return .after r.controller.shortRequeueSeconds

/-- Looks at an overlay once. -/
def reconcile (r : Reconciler) (o : Overlay) : Fallible services ReconcileError NextLook :=
  if o.isDeleted then r.reconcileDeleted o else r.reconcileLive o

/-- When to look again after a failure. -/
def afterError (r : Reconciler) : NextLook := .after r.controller.errorRequeueSeconds

end Reconciler

/-- How often overlays were looked at, and how often that failed. -/
structure ReconcileCounts where
  reconciliations : Nat := 0
  failures : Nat := 0
  deriving DecidableEq, Repr

namespace ReconcileCounts

def started (c : ReconcileCounts) : ReconcileCounts :=
  { c with reconciliations := c.reconciliations + 1 }

def failed (c : ReconcileCounts) : ReconcileCounts := { c with failures := c.failures + 1 }

end ReconcileCounts

end TenantOverlay
