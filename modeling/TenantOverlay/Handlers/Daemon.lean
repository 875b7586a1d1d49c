import TenantOverlay.Manifests.Daemon
import TenantOverlay.Operator.Calls
import TenantOverlay.Reconcile.Resource

/-!
# Flannel's daemon on the hosts

The daemon set of a network. Of two generations that handle the same overlay the newer one has it:
the older finds the newer's version on the daemon set and ends its pass. On deletion the daemon
stays as long as the tenant cluster's own pods run.
-/

namespace TenantOverlay

namespace Daemon

def name : String := "flanneld"

/-- The generation that wrote a daemon set, as it is recorded. -/
def recordedVersion? (d : DaemonSet) : Option String := d.metadata.annotation? versionMark

/-- The generation that wrote a daemon set. -/
def generation? (d : DaemonSet) : Option Version :=
  (recordedVersion? d).bind fun v => (Version.parse v).toOption

/-- Whether a daemon set was written by a newer generation. -/
def isNewer (own : Version) (d : DaemonSet) : Bool := (generation? d).any fun v => own < v

/-- What of the containers is compared. -/
def fingerprint (d : DaemonSet) :
    List (String × Option String × Option (List String) × Option (List EnvVar)) :=
  ((d.body.spec.bind fun s => s.template.spec).map fun p =>
    p.containers.map fun c => (c.name, c.image, c.command, c.env)).getD []

/-- Whether a daemon set is not as it should be. -/
def needsUpdate (current desired : DaemonSet) : Bool :=
  recordedVersion? current != recordedVersion? desired ||
    fingerprint current != fingerprint desired

/-- Creates what does not exist and updates what differs. -/
def updatePatch (current desired : Option DaemonSet) : Patch (Option DaemonSet) :=
  match current, desired with
  | none, some _ => { create := some desired }
  | some c, some d => if needsUpdate c d then { update := some desired } else {}
  | _, none => {}

/-- Whether pods of the tenant cluster keep the network. -/
def inUse (o : Overlay) : OperatorAction Bool := do
  if o.isDeleted ∧ o.clusterNamespace ≠ "" then
    let pods ← Kind.list .pods (some o.clusterNamespace) none
    return !pods.isEmpty
  return false

def get (o : Overlay) : OperatorAction (Option DaemonSet) :=
  Kind.get .daemonSets (some o.networkNamespace) networkApp

/-- Counts the generation of a daemon set, if generations are counted. -/
def recordGeneration (counted : Bool) (d : DaemonSet) : OperatorAction Unit :=
  match if counted then generation? d else none with
  | some v => Action.record (.version v)
  | none => return ()

/-- The daemon set, unless it has to stay or belongs to a newer generation. -/
def current (own : Version) (counted : Bool) (o : Overlay) : OperatorAction (Flow (Option DaemonSet)) := do
  if ← inUse o then return .keepFinalizer
  match ← get o with
  | none => return .continue none
  | some d =>
    recordGeneration counted d
    return if !o.isDeleted && isNewer own d then .cancel else .continue (some d)

/-- Creates a daemon set. -/
def create (o : Overlay) (d : DaemonSet) : OperatorAction Unit := do
  let _ ← Kind.createIfMissing .daemonSets (some o.networkNamespace) d

/-- Replaces the daemon set in the version in which it is found. -/
def update (o : Overlay) (d : DaemonSet) : OperatorAction Unit := do
  match ← get o with
  | none => create o d
  | some existing =>
    let _ ← Kind.replace .daemonSets (some o.networkNamespace)
      { d with metadata := { d.metadata with
          resourceVersion := existing.metadata.resourceVersion } }

end Daemon

/-- Flannel's daemon as a generation deploys it. -/
def daemonResource (config : DaemonConfig) (own : Version) (counted : Bool) :
    Resource services Overlay where
  State := Option DaemonSet
  name := Daemon.name
  current := Daemon.current own counted
  desired o := if o.isDeleted then return none else return some (← Action.ofResult (o.daemonSet config))
  updatePatch _ current desired := return Daemon.updatePatch current desired
  deletePatch _ current _ := return Patch.remove current
  create o
    | none => return .proceed
    | some d => do
      Daemon.create o d
      return .proceed
  update o
    | none => return .proceed
    | some d => do
      Daemon.update o d
      return .proceed
  delete o _ := do
    let _ ← Kind.deleteIfExists .daemonSets (some o.networkNamespace) networkApp
    return .proceed

/-- The resource, if the configuration is valid. -/
def Daemon.build (config : DaemonConfig) (counted : Bool) : Result (Resource services Overlay) :=
  match config.validate, Version.parse config.bundleVersion with
  | .ok (), .ok own => .ok (daemonResource config own counted)
  | .error e, _ => .error e
  | .ok (), .error e => .error e

end TenantOverlay
