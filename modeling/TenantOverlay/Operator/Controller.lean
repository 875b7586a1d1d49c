import TenantOverlay.Cluster.Request
import TenantOverlay.Operator.Server
import TenantOverlay.Overlay.Basic

/-!
# The controller

The controller runs a loop that looks at every overlay that its selector covers. `Controller.start`,
`Controller.stop` and `Controller.loopEnds` are all that happens to it.
-/

namespace TenantOverlay

/-- What the operator says about its start and its end. -/
inductive Notice where
  | operatorStarting
  | setCreated (version : String)
  | controllerStarted
  | operatorStarted
  | loopExited
  | controllerStopped
  /-- The metrics server has ended by itself. -/
  | serverEnded (how : ServerEnd)
  | operatorStopped
  deriving DecidableEq, Repr

def Notice.text : Notice → String
  | operatorStarting => "启动 Flannel Operator"
  | setCreated _ => "已创建资源集合"
  | controllerStarted => "FlannelConfig 控制器已启动"
  | operatorStarted => "Flannel Operator 已启动"
  | loopExited => "FlannelConfig 控制器已退出"
  | controllerStopped => "FlannelConfig 控制器已停止"
  | serverEnded how => how.message
  | operatorStopped => "Flannel Operator 已停止"

/-- What comes of a command to something with a state: it succeeds or fails, and the state after it
either way. -/
structure Step (State ε : Type) where
  result : Except ε Unit
  state : State
  notices : List Notice := []

/-- How a loop ends. -/
inductive LoopEnd where
  | exit
  | crash
  deriving DecidableEq, Repr

/-- A loop that was started. -/
inductive Loop where
  | alive
  | ended (how : LoopEnd)
  deriving DecidableEq, Repr

inductive ControllerError where
  | alreadyRunning
  | loopCrashed
  deriving DecidableEq, Repr

def ControllerError.message : ControllerError → String
  | alreadyRunning => "控制器已在运行"
  | loopCrashed => "控制器任务异常退出"

structure Controller where
  selector : String
  /-- Whether the controller takes its loop to be running. -/
  isRunning : Bool := false
  /-- The loop of the last start, until it is stopped. -/
  loop : Option Loop := none
  deriving DecidableEq, Repr

namespace Controller

/-- Whether the loop is at work. -/
def isAlive (c : Controller) : Bool := c.loop == some .alive

/-- The overlays that the loop looks at. -/
def watched (c : Controller) : ObjectRequest OverlaySpec :=
  .list none (if c.selector = "" then none else some c.selector)

/-- Starts the loop, unless it is taken to be running. -/
def start (c : Controller) : Step Controller ControllerError :=
  if c.isRunning then ⟨.error .alreadyRunning, c, []⟩
  else ⟨.ok (), { c with isRunning := true, loop := some .alive }, [.controllerStarted]⟩

/-- The end of a loop that is at work. One that exits says so. -/
def loopEnds (how : LoopEnd) (c : Controller) : Controller × List Notice :=
  if c.isAlive then
    let c := { c with loop := some (.ended how) }
    match how with
    | .exit => ({ c with isRunning := false }, [.loopExited])
    | .crash => (c, [])
  else (c, [])

/-- Asks the loop to end, which it does in one way or the other, and waits until it has ended. A
crash is reported, once. -/
def stop (windDown : LoopEnd) (c : Controller) : Step Controller ControllerError :=
  let (c, notices) := c.loopEnds windDown
  match c.loop with
  | some (.ended .crash) => ⟨.error .loopCrashed, { c with loop := none }, notices⟩
  | _ => ⟨.ok (), { c with isRunning := false, loop := none }, notices ++ [.controllerStopped]⟩

end Controller

end TenantOverlay
