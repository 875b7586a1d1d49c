/-!
# The metrics server

A metrics server takes its address and serves the metrics page until the operator lets go of it. Where
the address is taken, or something goes wrong later on, it ends by itself, and that is noticed only when
the operator is stopped.
-/

namespace TenantOverlay

/-- Why a metrics server has failed. -/
inductive ServerError where
  /-- Another server has its address. -/
  | addressInUse
  | broken
  deriving DecidableEq, Repr

def ServerError.message : ServerError → String
  | addressInUse => "无法监听指标地址"
  | broken => "指标服务器异常退出"

/-- How a metrics server ends by itself. -/
inductive ServerEnd where
  | failed (error : ServerError)
  | crashed
  deriving DecidableEq, Repr

def ServerEnd.message : ServerEnd → String
  | failed error => "指标服务器退出时出错: " ++ error.message
  | crashed => "指标服务器任务异常"

/-- A metrics server that was started. -/
structure MetricsServer where
  /-- Its number, in the order in which the servers were started. -/
  number : Nat
  /-- How it has ended by itself, if it has. -/
  ended : Option ServerEnd := none
  deriving DecidableEq, Repr

namespace MetricsServer

/-- Starts a server. Where it cannot bind to its address it ends at once. -/
def start (number : Nat) (binds : Bool) : MetricsServer :=
  ⟨number, if binds then none else some (.failed .addressInUse)⟩

/-- The end of a server by itself, if it has not ended yet. -/
def ends (how : ServerEnd) (s : MetricsServer) : MetricsServer := { s with ended := s.ended <|> some how }

end MetricsServer

end TenantOverlay
