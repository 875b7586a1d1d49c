import TenantOverlay.Data.SortedMap
import TenantOverlay.Version

/-!
# Metrics

What the operator counts, and the registry in which the counts are kept. A collector can be
registered only once; `Registry.record` adds one event to the series that it belongs to.
-/

namespace TenantOverlay

/-- The operations of a handler that are counted. -/
inductive Operation where
  | currentState
  | desiredState
  | create
  | update
  | delete
  deriving DecidableEq, Repr

def Operation.label : Operation → String
  | currentState => "get_current_state"
  | desiredState => "get_desired_state"
  | create => "apply_create_change"
  | update => "apply_update_change"
  | delete => "apply_delete_change"

/-- Something that is counted. -/
inductive Sample where
  /-- An operation of a handler came to an end. -/
  | operation (resource : String) (operation : Operation) (success : Bool)
  /-- A pass came to an end. -/
  | pass (outcome : String)
  /-- A daemon set of a generation was seen. -/
  | version (version : Version)
  deriving DecidableEq

/-- The families of series. -/
inductive Collector where
  | operations
  | durations
  | passes
  | versions
  deriving DecidableEq, Repr

namespace Collector

def name : Collector → String
  | operations => "flannel_operator_resource_operation_total"
  | durations => "flannel_operator_resource_operation_duration_seconds"
  | passes => "flannel_operator_reconciliation_total"
  | versions => "flannel_operator_version_bundle_version"

def help : Collector → String
  | operations => "Number of resource operations by result"
  | durations => "Duration of resource operations"
  | passes => "Number of reconciliation passes by outcome"
  | versions => "Version bundle version of the running flanneld daemon sets"

end Collector

/-- A series: its collector and its labels, sorted by name. -/
structure Series where
  collector : Collector
  labels : List (String × String)
  deriving DecidableEq

namespace Series

def operation (resource operation result : String) : Series :=
  ⟨.operations, [("operation", operation), ("resource", resource), ("result", result)]⟩

def duration (resource operation : String) : Series :=
  ⟨.durations, [("operation", operation), ("resource", resource)]⟩

def pass (outcome : String) : Series := ⟨.passes, [("outcome", outcome)]⟩

def version (v : Version) : Series :=
  ⟨.versions, [("major", toString v.major.toNat), ("minor", toString v.minor.toNat),
    ("patch", toString v.patch.toNat)]⟩

/-- The name of the collector and the labels after it. -/
def key (s : Series) : String :=
  s.collector.name ++ "\x7b" ++
    String.intercalate "," (s.labels.map fun l => l.1 ++ "=" ++ l.2) ++ "\x7d"

end Series

/-- The collectors that are registered and the value of each series that has one. -/
structure Registry where
  collectors : List Collector
  values : List (Series × Nat)
  deriving DecidableEq

namespace Registry

def empty : Registry := ⟨[], []⟩

/-- Registers a collector for a purpose; it cannot be there already. -/
def register (r : Registry) (c : Collector) (purpose : String) : Result Registry :=
  if r.collectors.contains c then .error (.invalidConfig (.collectorRegistered purpose))
  else .ok { r with collectors := r.collectors ++ [c] }

/-- Registers what counts the operations of handlers. -/
def registerOperations (r : Registry) : Result Registry := do
  let r ← r.register .operations "注册处理器指标"
  r.register .durations "注册处理器指标"

/-- Registers what counts passes. -/
def registerPasses (r : Registry) : Result Registry := r.register .passes "注册协调计数器"

/-- Registers what shows the generations that run. -/
def registerVersions (r : Registry) : Result Registry := r.register .versions "注册版本指标"

/-- The value of a series; zero when it has none. -/
def value (r : Registry) (s : Series) : Nat :=
  ((r.values.find? fun v => v.1 == s).map (·.2)).getD 0

/-- A series with its value changed by a function; a series without a value starts at zero. -/
def change (r : Registry) (s : Series) (f : Nat → Nat) : Registry :=
  { r with values := r.values.filter (fun v => v.1 != s) ++ [(s, f (r.value s))] }

/-- The value of a series, which has one from now on. -/
def observe (r : Registry) (s : Series) : Nat × Registry := (r.value s, r.change s id)

/-- Counts an event. -/
def record (r : Registry) : Sample → Registry
  | .operation resource operation success =>
    let result := if success then "success" else "failure"
    (r.change (.duration resource operation.label) (· + 1)).change
      (.operation resource operation.label result) (· + 1)
  | .pass outcome => r.change (.pass outcome) (· + 1)
  | .version v => r.change (.version v) fun _ => 1

end Registry

end TenantOverlay
