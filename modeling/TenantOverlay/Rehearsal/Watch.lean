import TenantOverlay.Operator.Controller
import TenantOverlay.Rehearsal.Session

/-!
# Watching in a rehearsal

A controller whose loop looks at the overlays of a session. Each start lists the overlays once, and
`Watch.settle` lets the loop look at those that it has listed.
-/

namespace TenantOverlay

structure Watch where
  controller : Controller
  session : Session
  /-- The overlays that the loop has still to look at, by namespace and name. -/
  waiting : List (Option String × String) := []

namespace Watch

/-- A session that holds some more overlays, if the cluster takes all of them. -/
def store (s : Session) : List Overlay → Result Session
  | [] => .ok s
  | o :: rest =>
    match s.request .overlays (.create o.metadata.namespaceName o) with
    | (.ok _, s) => store s rest
    | (.error e, _) => .error e

/-- A controller over a session that holds some overlays. -/
def holding (selector : String) (stored : List Overlay) (s : Session) : Result Watch := do
  return { controller := { selector := selector }, session := ← store s stored }

/-- The stored overlays. -/
def stored (w : Watch) : List (Option String × String) :=
  (w.session.rehearsal.memory.cluster.table .overlays).objects.entries.map fun e =>
    (e.2.metadata.namespaceName, e.1.name)

/-- Starts the loop, which lists the overlays. -/
def start (w : Watch) : Except ControllerError Unit × Watch :=
  let s := w.controller.start
  (s.result, { w with
    controller := s.state
    waiting := if s.result.isOk then w.stored else w.waiting })

/-- Stops the loop. -/
def stop (w : Watch) : Except ControllerError Unit × Watch :=
  let s := w.controller.stop .exit
  (s.result, { w with controller := s.state, waiting := [] })

/-- What has become of the loop when it has looked at every overlay that waits. -/
def settle (w : Watch) : Watch :=
  let look (s : Session) (at_ : Option String × String) : Session :=
    match s.object? .overlays at_.1 at_.2 with
    | some o => (s.reconcile o).2
    | none => s
  { w with session := w.waiting.foldl look w.session, waiting := [] }

end Watch

end TenantOverlay
