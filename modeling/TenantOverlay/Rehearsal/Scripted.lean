import TenantOverlay.Reconcile.Engine
import TenantOverlay.Rehearsal.Basic

/-!
# Scripted handlers

Handlers whose operations do what a script says, for a rehearsal of the engine alone. Each operation
is noted down, takes the next signal of its script, and goes on only if there is none.
-/

namespace TenantOverlay

/-- The operations of a handler. -/
inductive HandlerStep where
  | current
  | desired
  | updatePatch
  | deletePatch
  | create
  | update
  | delete
  deriving DecidableEq, Repr

namespace HandlerStep

def all : List HandlerStep :=
  [current, desired, updatePatch, deletePatch, create, update, delete]

def label : HandlerStep → String
  | current => "current"
  | desired => "desired"
  | updatePatch => "update_patch"
  | deletePatch => "delete_patch"
  | create => "create"
  | update => "update"
  | delete => "delete"

end HandlerStep

/-- What a script says. -/
inductive Signal where
  | proceed
  | cancel
  | keepFinalizer
  | fail (error : Error)
  deriving DecidableEq

/-- What a patch slot is filled with. -/
inductive SlotState where
  | current
  | desired
  | given (state : Option String)
  deriving DecidableEq

/-- How repetition and counting are put around a handler. -/
inductive Wrapping where
  | plain
  | retry
  | metrics
  /-- An operation is counted once, however often it is repeated. -/
  | metricsAroundRetry
  /-- Every attempt is counted. -/
  | retryAroundMetrics
  deriving DecidableEq

structure ScriptedHandler where
  name : String
  desired : Option String
  script : List (HandlerStep × List Signal)
  /-- The slots of both patches, if they are not computed. -/
  patch : Option (Patch SlotState)
  wrapping : Wrapping
  policy : BackoffPolicy

/-- An object without contents. -/
structure ScriptedObject where
  name : String
  version : String
  deleted : Bool

instance : Managed ScriptedObject where
  isDeleted := ScriptedObject.deleted
  version := ScriptedObject.version

/-- The calls of scripted handlers, which are told apart by number. -/
inductive ScriptCall where
  | signal (handler : Nat) (name : String) (step : HandlerStep)
  | read (name : String)
  | write (name : String) (state : Option String)
  | erase (name : String)

def scriptCalls : Signature where
  Call := ScriptCall
  Answer
    | .signal .. => Signal
    | .read _ => Option String
    | .write .. | .erase _ => Unit

namespace Scripted

/-- An operation whose script has no failure. -/
def check (id : Nat) (name : String) (step : HandlerStep) : Action scriptCalls Unit := do
  match ← Action.ask (S := scriptCalls) (.signal id name step) with
  | .fail e => throw e
  | _ => return ()

/-- An operation that a script can end. -/
def guarded {α : Type} (id : Nat) (name : String) (step : HandlerStep)
    (next : Action scriptCalls α) : Action scriptCalls (Flow α) := do
  match ← Action.ask (S := scriptCalls) (.signal id name step) with
  | .fail e => throw e
  | .cancel => return .cancel
  | .keepFinalizer => return .keepFinalizer
  | .proceed => return .continue (← next)

/-- A slot's state. -/
def slot (current desired : Option String) : SlotState → Option String
  | .current => current
  | .desired => desired
  | .given s => s

/-- A patch that is given instead of computed. -/
def filled (current desired : Option String) (p : Patch SlotState) : Patch (Option String) where
  create := p.create.map (slot current desired)
  update := p.update.map (slot current desired)
  delete := p.delete.map (slot current desired)

end Scripted

namespace ScriptedHandler

open Scripted

def resource (h : ScriptedHandler) (id : Nat) : Resource scriptCalls ScriptedObject where
  State := Option String
  name := h.name
  current _ := guarded id h.name .current (Action.ask (S := scriptCalls) (.read h.name))
  desired _ := do
    check id h.name .desired
    return h.desired
  updatePatch _ current desired := do
    check id h.name .updatePatch
    return (h.patch.map (filled current desired)).getD (Patch.createOrUpdate current desired)
  deletePatch _ current desired := do
    check id h.name .deletePatch
    return (h.patch.map (filled current desired)).getD (Patch.remove current)
  create _ s := guarded id h.name .create (Action.ask (S := scriptCalls) (.write h.name s))
  update _ s := guarded id h.name .update (Action.ask (S := scriptCalls) (.write h.name s))
  delete _ _ := guarded id h.name .delete (Action.ask (S := scriptCalls) (.erase h.name))

/-- The handler with what is put around it. -/
def handler (h : ScriptedHandler) (id : Nat) : Result (Handler scriptCalls ScriptedObject) :=
  let r := h.resource id
  match h.wrapping with
  | .plain => .ok r.handler
  | .metrics => .ok r.measured.handler
  | .retry =>
    match r.retrying h.policy with
    | .ok r => .ok r.handler
    | .error e => .error e
  | .metricsAroundRetry =>
    match r.retrying h.policy with
    | .ok r => .ok r.measured.handler
    | .error e => .error e
  | .retryAroundMetrics =>
    match r.measured.retrying h.policy with
    | .ok r => .ok r.handler
    | .error e => .error e

end ScriptedHandler

/-- A router: versions with their handlers, and the version of the default. -/
structure ScriptedRouter where
  sets : List (String × List ScriptedHandler)
  defaultVersion : Option String

/-- The state of scripted handlers. -/
structure ScriptState where
  scripts : List ((Nat × HandlerStep) × List Signal)
  existing : SortedMap String String
  registry : Registry
  /-- The calls, the last one first. -/
  notes : List String := []

namespace ScriptState

/-- The next signal of a script. -/
def takeSignal (key : Nat × HandlerStep) :
    List ((Nat × HandlerStep) × List Signal) →
      Signal × List ((Nat × HandlerStep) × List Signal)
  | [] => (.proceed, [])
  | (k, signals) :: rest =>
    if k = key then
      match signals with
      | [] => (.proceed, (k, []) :: rest)
      | s :: signals => (s, (k, signals) :: rest)
    else
      let (s, rest) := takeSignal key rest
      (s, (k, signals) :: rest)

def answer : (c : scriptCalls.withRuntime.Call) → ScriptState →
    scriptCalls.withRuntime.Answer c × ScriptState
  | .outside (.signal id name step), s =>
    let (signal, scripts) := takeSignal (id, step) s.scripts
    (signal, { s with scripts := scripts, notes := (step.label ++ ":" ++ name) :: s.notes })
  | .outside (.read name), s => (s.existing.get? name, s)
  | .outside (.write name (some state)), s =>
    ((), { s with existing := s.existing.insert name state })
  | .outside (.write _ none), s => ((), s)
  | .outside (.erase name), s => ((), { s with existing := s.existing.erase name })
  | .repetitions policy, s => (Rehearsal.repetitions policy, s)
  | .record sample, s => ((), { s with registry := s.registry.record sample })

/-- Runs a pass, after which the notes are those of this pass. -/
def run {ε α : Type} (a : Fallible scriptCalls ε α) (s : ScriptState) : Except ε α × ScriptState :=
  Program.run answer (ExceptT.run a) { s with notes := [] }

end ScriptState

namespace Scripted

/-- The handlers of a set, numbered from a number on, and the next number. -/
def buildHandlers : Nat → List ScriptedHandler →
    Result (List (Handler scriptCalls ScriptedObject) × Nat)
  | id, [] => .ok ([], id)
  | id, h :: rest => do
    let handler ← h.handler id
    let (handlers, last) ← buildHandlers (id + 1) rest
    return (handler :: handlers, last)

def buildSets : Nat → List (String × List ScriptedHandler) →
    Result (List (ResourceSet scriptCalls ScriptedObject) × Nat)
  | id, [] => .ok ([], id)
  | id, (version, hs) :: rest => do
    let (handlers, id) ← buildHandlers id hs
    let set ← ResourceSet.build version handlers
    let (sets, last) ← buildSets id rest
    return (set :: sets, last)

def buildRouters : Nat → List ScriptedRouter →
    Result (List (ResourceRouter scriptCalls ScriptedObject))
  | _, [] => .ok []
  | id, r :: rest => do
    let (sets, id) ← buildSets id r.sets
    let router ← ResourceRouter.build sets
    let router ← match r.defaultVersion with
      | none => pure router
      | some v => router.withDefault v
    let routers ← buildRouters id rest
    return router :: routers

/-- Registers an engine's count of passes a number of times. -/
def registerTimes : Nat → Engine scriptCalls ScriptedObject → Registry →
    Result (Engine scriptCalls ScriptedObject × Registry)
  | 0, e, registry => .ok (e, registry)
  | n + 1, e, registry => do
    let (e, registry) ← e.withRegistry registry
    registerTimes n e registry

/-- The scripts of all handlers, by number. -/
def scripts (routers : List ScriptedRouter) : List ((Nat × HandlerStep) × List Signal) :=
  let handlers := routers.flatMap fun r => r.sets.flatMap (·.2)
  handlers.zipIdx.flatMap fun h => h.1.script.map fun s => ((h.2, s.1), s.2)

/-- The engine with its handlers, and the state in which it starts. -/
def build (routers : List ScriptedRouter) (times : Nat) (existing : SortedMap String String) :
    Result (Engine scriptCalls ScriptedObject × ScriptState) := do
  let registry ← Registry.empty.registerOperations
  let built ← buildRouters 0 routers
  let engine ← Engine.build built
  let (engine, registry) ← registerTimes times engine registry
  return (engine, ⟨scripts routers, existing, registry, []⟩)

end Scripted

end TenantOverlay
