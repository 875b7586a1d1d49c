import TenantOverlay.Operator.Reconciler
import TenantOverlay.Rehearsal.Basic

/-!
# Sessions

The whole operator in a rehearsal: its reconciler, the services it runs against, and what it counts.
Handlers and passes that are run apart from the reconciler count in a registry of their own.
-/

namespace TenantOverlay

structure Session where
  sets : SetConfig
  reconciler : Reconciler
  rehearsal : Rehearsal
  /-- What handlers and passes that are run on their own count. -/
  asideRegistry : Registry
  counts : ReconcileCounts := {}

namespace Session

/-- The operator with nothing in its services. -/
def start (sets : SetConfig) (controller : ControllerConfig) : Result Session := do
  let (engine, registry) ← operatorEngine sets .empty
  let (_, aside) ← operatorRouters sets .empty
  return { sets := sets, reconciler := ⟨engine, controller⟩, rehearsal := { registry := registry },
           asideRegistry := aside }

/-- The session before a step, with no calls noted down. -/
def fresh (s : Session) : Session := { s with rehearsal := { s.rehearsal with notes := [] } }

/-- Looks at an overlay once; after a failure also when to look again. -/
def reconcile (s : Session) (o : Overlay) :
    Except (ReconcileError × NextLook) NextLook × Session :=
  let (result, rehearsal) := s.rehearsal.run (s.reconciler.reconcile o)
  let s := { s with rehearsal := rehearsal, counts := s.counts.started }
  match result with
  | .ok next => (.ok next, s)
  | .error e => (.error (e, s.reconciler.afterError), { s with counts := s.counts.failed })

/-- Runs something apart from the reconciler. -/
def aside {ε α : Type} (s : Session) (a : Fallible services ε α) : Except ε α × Session :=
  let (result, r) := ({ s.rehearsal with registry := s.asideRegistry } : Rehearsal).run a
  (result, { s with rehearsal := { r with registry := s.rehearsal.registry },
                    asideRegistry := r.registry })

/-- The set of handlers for a version. -/
def handlers? (s : Session) (version : String) : Option (ResourceSet services Overlay) :=
  route s.reconciler.engine.routers version

/-- Makes a request to the cluster. -/
def request (s : Session) (k : Kind) (r : ObjectRequest k.Body) : Result r.Reply × Session :=
  let (reply, rehearsal) := s.rehearsal.request k r
  (reply, { s with rehearsal := rehearsal })

/-- Makes a request to the store. -/
def storeRequest (s : Session) (r : StoreRequest) : Result r.Reply × Session :=
  let (reply, rehearsal) := s.rehearsal.storeRequest r
  (reply, { s with rehearsal := rehearsal })

/-- The stored object of a name. -/
def object? (s : Session) (k : Kind) (namespaceName : Option String) (name : String) :
    Option k.Object :=
  (s.rehearsal.memory.cluster.table k).get? namespaceName name

/-- Marks an object for deletion at a moment. -/
def markDeleted {Body : Type} (moment : Timestamp) (o : Manifest Body) : Manifest Body :=
  { o with metadata := { o.metadata with deletionTimestamp := some moment } }

end Session

end TenantOverlay
