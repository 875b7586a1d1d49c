import TenantOverlay.Config.Basic
import TenantOverlay.Handlers.Cleanup
import TenantOverlay.Handlers.Daemon
import TenantOverlay.Handlers.NetworkNamespace
import TenantOverlay.Handlers.RoleBindings
import TenantOverlay.Handlers.StoredNetwork
import TenantOverlay.Overlay.Codec
import TenantOverlay.Reconcile.Engine

/-!
# Generations of the operator

The resource sets for the version bundles that the operator ships. Every handler repeats its failed
operations, and every operation is counted once, however often it was repeated.
-/

namespace TenantOverlay

instance : Managed Overlay where
  isDeleted := Overlay.isDeleted
  version := Overlay.bundleVersion

/-- What the resource sets are built from. -/
structure SetConfig where
  store : StoreConfig
  retry : BackoffPolicy
  teardown : BackoffPolicy

/-- What differs between generations. -/
structure Generation where
  version : String
  storeEndpoints : List String
  healthContainer : Bool
  deriving DecidableEq, Repr

/-- The store as the first generation finds it on every host. -/
def localStoreEndpoint : String := "https://127.0.0.1:2379"

namespace Generation

def all (store : StoreConfig) : List Generation := [
  ⟨Bundle.firstVersion, [localStoreEndpoint], false⟩,
  ⟨Bundle.secondVersion, store.endpoints, true⟩]

def daemonConfig (g : Generation) (store : StoreConfig) : Result DaemonConfig :=
  match Bundle.flannelVersion? g.version with
  | none => .error (.invalidConfig (.bundleWithoutFlannel g.version))
  | some flannel => .ok {
      bundleVersion := g.version
      image := flannelImage flannel
      storeEndpoints := g.storeEndpoints
      authorityFile := store.authorityFile
      certificateFile := store.certificateFile
      keyFile := store.keyFile
      healthContainer := g.healthContainer }

end Generation

/-- A resource as a handler that repeats and counts. -/
def Resource.guarded (retry : BackoffPolicy) :
    Result (Resource services Overlay) → Result (Handler services Overlay)
  | .ok r => match r.retrying retry with
    | .ok r => .ok r.measured.handler
    | .error e => .error e
  | .error e => .error e

/-- The handlers of a generation, in the order in which they run on a living overlay. -/
def Generation.handlers (g : Generation) (c : SetConfig) :
    Result (List (Handler services Overlay)) := do
  let daemon ← g.daemonConfig c.store
  let bindings ← Resource.guarded c.retry (.ok roleBindingsResource)
  let entry ← Resource.guarded c.retry (.ok storedNetworkResource)
  let namespace_ ← Resource.guarded c.retry (.ok networkNamespaceResource)
  let cleanup ← Resource.guarded c.retry (Cleanup.build c.teardown)
  let daemonSet ← Resource.guarded c.retry (Daemon.build daemon true)
  return [bindings, entry, namespace_, cleanup, daemonSet]

def Generation.resourceSet (g : Generation) (c : SetConfig) :
    Result (ResourceSet services Overlay) := do
  ResourceSet.build g.version (← g.handlers c)

/-- The router of the operator, with the first generation as its default; what the handlers count
is registered first. -/
def operatorRouters (c : SetConfig) (registry : Registry) :
    Result (List (ResourceRouter services Overlay) × Registry) := do
  let registry ← registry.registerOperations
  let registry ← registry.registerVersions
  let sets ← (Generation.all c.store).mapM (·.resourceSet c)
  let router ← ResourceRouter.build sets
  let router ← router.withDefault Bundle.firstVersion
  return ([router], registry)

/-- The engine of the operator. -/
def operatorEngine (c : SetConfig) (registry : Registry) :
    Result (Engine services Overlay × Registry) := do
  let (routers, registry) ← operatorRouters c registry
  let engine ← Engine.build routers
  engine.withRegistry registry

end TenantOverlay
