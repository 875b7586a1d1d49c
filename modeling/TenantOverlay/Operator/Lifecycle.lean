import TenantOverlay.Operator.Controller
import TenantOverlay.Operator.Generations
import TenantOverlay.Store.Connection

/-!
# Start and end of the operator

`Operator.build` puts an operator together from its configuration, `Operator.start` starts its
metrics server and its controller, and `Operator.stop` ends them.
-/

namespace TenantOverlay

/-- Why the operator could not be started or stopped. -/
inductive OperatorError where
  | start (error : StartError)
  | controller (error : ControllerError)
  deriving DecidableEq, Repr

def OperatorError.message : OperatorError → String
  | start error => error.message
  | controller error => error.message

structure Operator where
  config : OperatorConfig
  controller : Controller
  /-- How many metrics servers were started. -/
  servers : Nat := 0
  /-- The metrics server that the operator has in its hands. A server ends when the operator lets go of
  it, if it has not ended by itself. -/
  server : Option MetricsServer := none

namespace Operator

/-- What the resource sets of a configuration are built from. -/
def setConfig (c : OperatorConfig) : SetConfig := ⟨c.store, c.retry.policy, c.retry.teardownPolicy⟩

/-- The operator of a valid configuration. Access to the cluster is set up first, then the
connection to the store, then the resource sets. -/
def build (config : OperatorConfig) (clusterAccess : Bool) (read : String → Option String) :
    Except StartError (Operator × List Notice) := do
  config.validate
  if !clusterAccess then throw .clusterClient
  match StoreClient.connect config.store.endpoints config.store.tls read with
  | .error _ => throw .storeClient
  | .ok _ => pure ()
  match operatorEngine (setConfig config) .empty with
  | .error e => throw (.invalid e)
  | .ok (engine, _) =>
    let versions := engine.routers.flatMap (·.versions)
    return ({ config := config, controller := { selector := config.controller.labelSelector } },
      versions.map .setCreated)

/-- Whether the metrics server of a number is at work: the operator has it in its hands, and it has not
ended by itself. -/
def serves (o : Operator) (number : Nat) : Bool := o.server == some ⟨number, none⟩

/-- Starts a metrics server, which binds to its address or cannot, then the controller. The operator lets
go of the server that it had before. -/
def start (binds : Bool) (o : Operator) : Step Operator OperatorError :=
  match o.config.metrics.address with
  | .error e => ⟨.error (.start e), o, []⟩
  | .ok _ =>
    let o := { o with servers := o.servers + 1, server := some (.start o.servers binds) }
    let s := o.controller.start
    let o := { o with controller := s.state }
    match s.result with
    | .error e => ⟨.error (.controller e), o, s.notices⟩
    | .ok () => ⟨.ok (), o, s.notices ++ [.operatorStarted]⟩

/-- The end of the metrics server by itself. -/
def serverEnds (how : ServerEnd) (o : Operator) : Operator := { o with server := o.server.map (·.ends how) }

/-- Stops the controller, then the metrics server. -/
def stop (windDown : LoopEnd) (o : Operator) : Step Operator OperatorError :=
  let s := o.controller.stop windDown
  let o := { o with controller := s.state }
  match s.result with
  | .error e => ⟨.error (.controller e), o, s.notices⟩
  | .ok () =>
    let ended := (o.server.bind (·.ended)).toList
    ⟨.ok (), { o with server := none }, s.notices ++ ended.map .serverEnded ++ [.operatorStopped]⟩

end Operator

end TenantOverlay
