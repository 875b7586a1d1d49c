import TenantOverlay.Operator.Memory

/-!
# Rehearsals

The operator runs against services in memory, where calls can be made to fail and every call is
noted down with its outcome. `Rehearsal.answer` is the environment of such a run.
-/

namespace TenantOverlay

namespace OperatorCall

/-- The service and the kind of call. -/
def target : OperatorCall → String
  | .cluster k request => k.label ++ "." ++ match request with
    | .get .. => "get"
    | .list .. => "list"
    | .create .. => "create"
    | .replace .. => "replace"
    | .delete .. => "delete"
  | .store request => "store." ++ match request with
    | .create .. => "create"
    | .delete _ => "delete"
    | .exists _ => "exists"
    | .list _ => "list"
    | .search _ => "search"

/-- What the call is about: a namespace and a name or selector, or a key. -/
def subject : OperatorCall → String
  | .cluster _ request =>
    let place (namespaceName : Option String) (what : String) := namespaceName.getD "*" ++ "/" ++ what
    match request with
    | .get ns name | .delete ns name => place ns name
    | .list ns selector => place ns (selector.getD "*")
    | .create ns o | .replace ns o => place ns (o.metadata.name.getD "?")
  | .store request => request.key

private def failure : Error → String
  | .api (.refused code reason _) => toString code ++ " " ++ reason
  | e => e.kind

/-- How a call came out. -/
def outcome : (c : OperatorCall) → services.Answer c → String
  | .cluster _ (.get ..), .ok (some _) | .store (.search _), .ok _ => "found"
  | .cluster _ (.get ..), .ok none => "none"
  | .cluster _ (.list ..), .ok found => toString found.length
  | .cluster _ (.create ..), .ok _ | .cluster _ (.replace ..), .ok _
  | .cluster _ (.delete ..), .ok _ | .store (.create ..), .ok _ | .store (.delete _), .ok _
  | .store (.exists _), .ok _ | .store (.list _), .ok _ => "ok"
  | .cluster _ _, .error e | .store _, .error e => failure e

/-- The answer of a failed call. -/
def failed (e : Error) : (c : OperatorCall) → services.Answer c
  | .cluster .. => .error e
  | .store _ => .error e

end OperatorCall

/-- The state of a rehearsal. -/
structure Rehearsal where
  memory : MemoryServices := {}
  registry : Registry := .empty
  /-- For a target, which of its next calls fail and how. -/
  faults : SortedMap String (List (Option Error)) := .empty
  /-- The progress that the next looks at a job find. -/
  progress : List Int := []
  /-- The calls, the last one first. -/
  notes : List String := []

namespace Rehearsal

/-- Notes a call down. -/
def note (s : Rehearsal) (c : OperatorCall) (outcome : String) : Rehearsal :=
  { s with notes := (c.target ++ " " ++ c.subject ++ " -> " ++ outcome) :: s.notes }

/-- The failure that is planned for the next call of a target. -/
def nextFault (s : Rehearsal) (target : String) : Option Error × Rehearsal :=
  match s.faults.get? target with
  | some (fault :: rest) => (fault, { s with faults := s.faults.insert target rest })
  | _ => (none, s)

/-- Decides which of the next calls of a target fail. -/
def plan (s : Rehearsal) (target : String) (faults : List (Option Error)) : Rehearsal :=
  { s with faults := s.faults.insert target faults }

/-- Shows a job with the progress that the next look finds. -/
def showProgress : (c : OperatorCall) → services.Answer c → List Int →
    services.Answer c × List Int
  | .cluster .jobs (.get _ _), .ok (some job), v :: rest =>
    (.ok (some { job with body := { job.body with status := some { succeeded := some v } } }), rest)
  | _, reply, progress => (reply, progress)

/-- Answers a call to a service. -/
def answerCall (c : OperatorCall) (s : Rehearsal) : services.Answer c × Rehearsal :=
  match s.nextFault c.target with
  | (some e, s) => (c.failed e, s.note c ("fault " ++ e.kind))
  | (none, s) =>
    let (reply, memory) := s.memory.answer c
    let (reply, progress) := showProgress c reply s.progress
    (reply, { s with memory := memory, progress := progress }.note c (c.outcome reply))

/-- More repetitions than a rehearsal makes. -/
def patience : Nat := 1000000

/-- The repetitions that a policy leaves time for. No time passes in a rehearsal, so a policy that
leaves any time leaves enough. -/
def repetitions (policy : BackoffPolicy) : Nat := if policy.maxElapsed = 0 then 0 else patience

/-- Answers a call to a service or to the runtime. -/
def answer : (c : services.withRuntime.Call) → Rehearsal →
    services.withRuntime.Answer c × Rehearsal
  | .outside c, s => s.answerCall c
  | .repetitions policy, s => (repetitions policy, s)
  | .record sample, s => ((), { s with registry := s.registry.record sample })

/-- Runs an operation. -/
def run {ε α : Type} (a : Fallible services ε α) (s : Rehearsal) :
    Except ε α × Rehearsal :=
  Program.run answer (ExceptT.run a) s

/-- The calls in their order. -/
def trace (s : Rehearsal) : List String := s.notes.reverse

/-- The objects of a kind: namespace, name and version of each, in order. -/
def listing (s : Rehearsal) (k : Kind) : List String :=
  (s.memory.cluster.table k).objects.entries.map fun e =>
    e.1.namespaceName ++ "/" ++ e.1.name ++ "@" ++ e.2.metadata.resourceVersion.getD ""

/-- Makes a request to the cluster without noting it down. -/
def request (s : Rehearsal) (k : Kind) (r : ObjectRequest k.Body) : Result r.Reply × Rehearsal :=
  let (reply, cluster) := s.memory.cluster.answer k r
  (reply, { s with memory := { s.memory with cluster := cluster } })

/-- Makes a request to the store without noting it down. -/
def storeRequest (s : Rehearsal) (r : StoreRequest) : Result r.Reply × Rehearsal :=
  let (reply, store) := s.memory.store.answer r
  (reply, { s with memory := { s.memory with store := store } })

end Rehearsal

end TenantOverlay
