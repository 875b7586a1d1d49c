import TenantOverlay.Manifests.Access
import TenantOverlay.Manifests.Cleanup
import TenantOverlay.Operator.Calls
import TenantOverlay.Reconcile.Resource

/-!
# The account of a network, and the cleanup of its hosts

While an overlay lives its service account has to exist. When it is deleted, a job removes the
bridge from every host, after flannel's pods are gone; the finalizer stays until the job has run on
all of them, and what the cleanup needed goes last.
-/

namespace TenantOverlay

namespace Cleanup

def name : String := "legacy"

/-- Creates what does not exist. -/
def updatePatch (current desired : Option ServiceAccount) : Patch (Option ServiceAccount) :=
  if current.isNone ∧ desired.isSome then { create := some desired } else {}

/-- On how many hosts a job has run. -/
def succeeded (job : Job) : Int := (job.body.status.bind fun s => s.succeeded).getD 0

/-- On how many hosts a job has to run. -/
def completions (job : Job) : Int := (job.body.spec.bind fun s => s.completions).getD 1

/-- Whether pods can be placed on a node. -/
def isSchedulable (n : Node) : Bool := !((n.body.spec.bind fun s => s.unschedulable).getD false)

/-- The number of nodes on which pods can be placed, as a 32-bit number. -/
def schedulableNodes (nodes : List Node) : Int :=
  Int.bmod (nodes.countP isSchedulable : Nat) UInt32.size

/-- The pods of flannel's daemon. -/
def daemonSelector : String := "app=" ++ networkApp

/-- Creates the namespace of the cleanup; says whether it is being removed. -/
def prepareNamespace (o : Overlay) : OperatorAction Bool := do
  match ← Kind.get .namespaces none o.destroyerNamespace with
  | some n => return n.isTerminating
  | none =>
    let _ ← Kind.createIfMissing .namespaces none
      (o.namespaceManifest o.destroyerNamespace destroyerApp)
    return false

def createBindings : List RoleBinding → OperatorAction Unit
  | [] => return ()
  | b :: rest => do
    let _ ← Kind.createIfMissing .roleBindings none b
    createBindings rest

/-- The progress of the job, which has to have run on all hosts. -/
def checkJob (o : Overlay) (hosts : Int) : OperatorAction Unit := do
  match ← Kind.get .jobs (some o.destroyerNamespace) destroyerApp with
  | none => throw (.notFound (o.destroyerNamespace ++ "/" ++ destroyerApp))
  | some job =>
    if succeeded job ≠ hosts then
      throw (.timeout ("网桥清理进度 " ++ toString (succeeded job) ++ "/" ++ toString hosts))

/-- Runs the job on all hosts, or finds out how far it has come; says whether it is complete. -/
def runJob (teardown : BackoffPolicy) (o : Overlay) : OperatorAction Bool := do
  match ← Kind.get .jobs (some o.destroyerNamespace) destroyerApp with
  | some job => return succeeded job = completions job
  | none =>
    let hosts := schedulableNodes (← Kind.list .nodes none none)
    if hosts ≠ 0 then
      let _ ← Kind.createIfMissing .jobs (some o.destroyerNamespace) (o.cleanupJob hosts)
      Action.retry teardown (checkJob o hosts)
    return true

/-- Removes what the cleanup needed, and the account of the network. -/
def removeAll (o : Overlay) : OperatorAction Unit := do
  let _ ← Kind.deleteIfExists .namespaces none o.destroyerNamespace
  let _ ← Kind.deleteIfExists .roleBindings none o.deletionRoleBinding
  let _ ← Kind.deleteIfExists .roleBindings none o.deletionPspRoleBinding
  let _ ← Kind.deleteIfExists .serviceAccounts (some o.networkNamespace) o.serviceAccount

/-- One step of the cleanup after another, as far as it can go now. -/
def teardown (policy : BackoffPolicy) (o : Overlay) : OperatorAction (Flow Unit) := do
  let pods ← Kind.list .pods (some o.networkNamespace) (some daemonSelector)
  if !pods.isEmpty then return .keepFinalizer
  if ← prepareNamespace o then return .keepFinalizer
  createBindings o.deletionBindings
  let _ ← Kind.createIfMissing .serviceAccounts (some o.destroyerNamespace)
    (o.accountManifest o.destroyerNamespace)
  if !(← runJob policy o) then return .keepFinalizer
  removeAll o
  return .proceed

end Cleanup

/-- The account of a network and the cleanup of its hosts, waiting for the job as a policy says. -/
def cleanupResource (teardown : BackoffPolicy) : Resource services Overlay where
  State := Option ServiceAccount
  name := Cleanup.name
  current o := return .continue (← Kind.get .serviceAccounts (some o.networkNamespace) o.serviceAccount)
  desired o := return some (o.accountManifest o.networkNamespace)
  updatePatch _ current desired := return Cleanup.updatePatch current desired
  deletePatch _ current _ := return { delete := some current }
  create o
    | none => return .proceed
    | some account => do
      let _ ← Kind.createIfMissing .serviceAccounts (some o.networkNamespace) account
      return .proceed
  update _ _ := return .proceed
  delete o _ := Cleanup.teardown teardown o

/-- The resource, if the policy is valid. -/
def Cleanup.build (teardown : BackoffPolicy) : Result (Resource services Overlay) :=
  match teardown.validate with
  | .ok () => .ok (cleanupResource teardown)
  | .error e => .error e

end TenantOverlay
