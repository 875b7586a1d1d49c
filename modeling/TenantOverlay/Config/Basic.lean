import TenantOverlay.Backoff
import TenantOverlay.Config.SocketAddress
import TenantOverlay.Text.Visible

/-!
# Configuration

What the operator is told when it starts. `OperatorConfig.validate` accepts the configurations that
it can start with.
-/

namespace TenantOverlay

/-- Where the key-value store is, and the files that the operator proves its identity with. -/
structure StoreConfig where
  endpoints : List String
  authorityFile : String
  certificateFile : String
  keyFile : String
  deriving DecidableEq, Repr

/-- Which overlays the operator looks after, and when it looks at them again. -/
structure ControllerConfig where
  labelSelector : String
  resyncSeconds : Nat
  errorRequeueSeconds : Nat
  shortRequeueSeconds : Nat
  deriving DecidableEq, Repr

/-- How long failed operations are repeated. -/
structure RetryConfig where
  initialIntervalMs : Nat
  maxIntervalSeconds : Nat
  multiplier : Float
  maxElapsedSeconds : Nat
  teardownMaxElapsedSeconds : Nat

/-- Where metrics are served. -/
structure MetricsConfig where
  listenAddress : String
  port : Nat
  deriving DecidableEq, Repr

structure OperatorConfig where
  store : StoreConfig
  controller : ControllerConfig
  retry : RetryConfig
  metrics : MetricsConfig
  logLevel : String

/-- What is wrong with a configuration. -/
inductive StartError where
  | invalid (error : Error)
  | unreadableFile (path : String)
  | unsupportedFormat
  | malformed
  | listenAddress (address : String)
  | clusterClient
  | storeClient
  deriving DecidableEq, Repr

def StartError.message : StartError → String
  | invalid error => error.message
  | unreadableFile path => "无法加载配置文件: Some(" ++ Text.visible path ++ ")"
  | unsupportedFormat => "不支持的配置文件格式，仅支持 YAML 或 JSON"
  | malformed => "配置格式错误"
  | listenAddress address => "指标监听地址无效: " ++ address
  | clusterClient => "创建 Kubernetes 客户端失败"
  | storeClient => "创建 etcd 客户端失败"

/-- The files for secure connections to the store. -/
structure TlsFiles where
  authorityFile : Option String
  certificateFile : String
  keyFile : String
  deriving DecidableEq, Repr

namespace StoreConfig

def default : StoreConfig where
  endpoints := ["https://127.0.0.1:2379"]
  authorityFile := "/etc/kubernetes/ssl/etcd/client-ca.pem"
  certificateFile := "/etc/kubernetes/ssl/etcd/client-crt.pem"
  keyFile := "/etc/kubernetes/ssl/etcd/client-key.pem"

/-- Connections are secured when certificate and key are given. -/
def tls (c : StoreConfig) : Option TlsFiles :=
  if c.certificateFile = "" ∨ c.keyFile = "" then none
  else some ⟨if c.authorityFile = "" then none else some c.authorityFile, c.certificateFile, c.keyFile⟩

end StoreConfig

namespace RetryConfig

/-- The policy for a time in which attempts may be made. -/
def within (c : RetryConfig) (seconds : Nat) : BackoffPolicy where
  initialInterval := c.initialIntervalMs * BackoffPolicy.millisecond
  maxInterval := c.maxIntervalSeconds * BackoffPolicy.second
  multiplier := c.multiplier
  maxElapsed := seconds * BackoffPolicy.second

/-- The policy for the operations of handlers. -/
def policy (c : RetryConfig) : BackoffPolicy := c.within c.maxElapsedSeconds

/-- The policy for waiting until the hosts are cleaned up. -/
def teardownPolicy (c : RetryConfig) : BackoffPolicy := c.within c.teardownMaxElapsedSeconds

end RetryConfig

def MetricsConfig.address (c : MetricsConfig) : Except StartError SocketAddress :=
  match SocketAddress.parse? (c.listenAddress ++ ":" ++ toString c.port) with
  | some a => .ok a
  | none => .error (.listenAddress c.listenAddress)

namespace OperatorConfig

def default : OperatorConfig where
  store := .default
  controller := ⟨"", 300, 30, 10⟩
  retry := ⟨500, 60, 1.5, 5 * 60, 15 * 60⟩
  metrics := ⟨"0.0.0.0", 8000⟩
  logLevel := "info"

/-- The checks that need no more than the values. -/
def validateValues (c : OperatorConfig) : Result Unit := do
  Result.require (!c.store.endpoints.isEmpty) (.emptyField "etcd.endpoints")
  Result.require (c.store.authorityFile != "") (.emptyField "etcd.ca_file")
  Result.require (c.store.certificateFile != "") (.emptyField "etcd.crt_file")
  Result.require (c.store.keyFile != "") (.emptyField "etcd.key_file")
  Result.require (c.controller.resyncSeconds != 0 && c.controller.shortRequeueSeconds != 0)
    .zeroRequeueInterval
  c.retry.policy.validate
  c.retry.teardownPolicy.validate

/-- The store can be reached securely, requeue intervals are not zero, both policies are valid, and
there is an address to serve metrics at. -/
def validate (c : OperatorConfig) : Except StartError Unit := do
  match c.validateValues with
  | .ok () => pure ()
  | .error e => throw (.invalid e)
  let _ ← c.metrics.address

end OperatorConfig

end TenantOverlay
