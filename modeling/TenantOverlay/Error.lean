/-!
# Errors

Why an operation of the operator failed, told apart by cause; the wording is in `Error.message`.
`Error.isRetryable` divides the causes into those that a repetition can cure and those that it
cannot.
-/

namespace TenantOverlay

/-- What is wrong with a value that the operator was given or started with. -/
inductive ConfigFault where
  /-- Stated in words by somebody else. -/
  | stated (text : String)
  | malformedVersion (text : String)
  | bundleWithoutName
  | bundleWithoutComponents (version : String)
  | duplicateBundle (version : String)
  | bundleWithoutFlannel (version : String)
  | emptyField (name : String)
  | emptyDaemonImage
  | noDaemonEndpoints
  | vniOutOfRange (vni : Nat)
  | probePortOutOfRange (vni : Nat)
  | zeroInitialInterval
  | maxIntervalBelowInitial
  | multiplierBelowOne
  | zeroRequeueInterval
  | setWithoutVersion
  | setWithoutHandlers (version : String)
  | duplicateSet (version : String)
  | unknownDefaultSet (version : String)
  | noRouters
  | collectorRegistered (purpose : String)
  | replacedWithoutName
  | noStoreEndpoints
  | malformedStoreEndpoint (endpoint : String)
  /-- No path of the store can be reached from an endpoint. -/
  | endpointWithoutPaths (key : String)
  | unreadableCertificate (path : String)
  | malformedIdentity
  | unusableCredentials
  deriving DecidableEq, Repr

/-- The largest VXLAN network identifier, 24 bits wide. -/
def maxVni : Nat := 16777215

/-- The largest port. -/
def maxPort : Nat := 65535

def ConfigFault.message : ConfigFault → String
  | stated text => text
  | malformedVersion text => "版本号格式无效: " ++ text
  | bundleWithoutName => "版本包名称不能为空"
  | bundleWithoutComponents version => "版本包 " ++ version ++ " 没有组件"
  | duplicateBundle version => "版本包版本重复: " ++ version
  | bundleWithoutFlannel version => "版本包 " ++ version ++ " 缺少 flannel 组件"
  | emptyField name => name ++ " 不能为空"
  | emptyDaemonImage => "flanneld 镜像不能为空"
  | noDaemonEndpoints => "flanneld etcd 端点不能为空"
  | vniOutOfRange vni => "VNI " ++ toString vni ++ " 超出范围 1..=" ++ toString maxVni
  | probePortOutOfRange vni => "VNI " ++ toString vni ++ " 对应的探针端口超过 " ++ toString maxPort
  | zeroInitialInterval => "退避初始间隔必须大于 0"
  | maxIntervalBelowInitial => "退避最大间隔不能小于初始间隔"
  | multiplierBelowOne => "退避倍数不能小于 1"
  | zeroRequeueInterval => "重新入队间隔必须大于 0"
  | setWithoutVersion => "资源集合版本不能为空"
  | setWithoutHandlers version => "资源集合 " ++ version ++ " 没有处理器"
  | duplicateSet version => "资源集合版本重复: " ++ version
  | unknownDefaultSet version => "默认资源集合不存在: " ++ version
  | noRouters => "引擎至少需要一个资源路由"
  | collectorRegistered purpose =>
    purpose ++ "失败: Duplicate metrics collector registration attempted"
  | replacedWithoutName => "替换的对象缺少名称"
  | noStoreEndpoints => "etcd 端点不能为空"
  | malformedStoreEndpoint endpoint => "etcd 端点无效 " ++ endpoint
  | endpointWithoutPaths key =>
    "etcd 路径无效 " ++ key ++ ": relative URL with a cannot-be-a-base base"
  | unreadableCertificate path => "读取证书文件 \"" ++ path ++ "\" 失败"
  | malformedIdentity => "etcd 客户端证书无效"
  | unusableCredentials => "创建 etcd 客户端失败: builder error"

/-- Why the cluster API gave no usable answer. -/
inductive ApiFault where
  /-- It refused the request with a status. -/
  | refused (code : Nat) (reason message : String)
  /-- It sent what cannot be decoded. -/
  | undecodable
  /-- The request could not be formed. -/
  | unformed
  /-- Anything else. -/
  | other (message : String)
  deriving DecidableEq, Repr

/-- Why the key-value store gave no usable answer. -/
inductive StoreFault where
  | stated (text : String)
  /-- No endpoint was tried. -/
  | noEndpoint
  /-- No connection to a URL, or one that broke. -/
  | unreachable (url : String)
  /-- A URL that no message can be sent to. -/
  | unsendable (url : String)
  /-- A status that is no success, with a body that names no cause. -/
  | unexpected (status : Nat) (body : String)
  /-- A cause that the store names. -/
  | refused (code : Nat) (message cause : String)
  | unreadableBody
  deriving DecidableEq, Repr

def StoreFault.message : StoreFault → String
  | stated text => text
  | noEndpoint => "没有可用的 etcd 端点"
  | unreachable url => "error sending request for url (" ++ url ++ ")"
  | unsendable url => "builder error for url (" ++ url ++ ")"
  | unexpected status body => "etcd 返回 " ++ toString status ++ ": " ++ body
  | refused code message cause =>
    "etcd 错误 " ++ toString code ++ ": " ++ message ++ " (" ++ cause ++ ")"
  | unreadableBody => "读取 etcd 响应失败"

/-- What a value was expected to be, and what it is. -/
inductive Mismatch where
  /-- A stored JSON document that does not have the expected form. -/
  | document
  | described (expected got : String)
  deriving DecidableEq, Repr

/-- Why an operation failed. -/
inductive Error where
  | invalidConfig (fault : ConfigFault)
  | wrongType (mismatch : Mismatch)
  | notFound (what : String)
  | alreadyExists (what : String)
  | multipleValues (what : String)
  | api (fault : ApiFault)
  | store (fault : StoreFault)
  | timeout (what : String)
  | unknown (what : String)
  deriving DecidableEq, Repr

namespace Error

/-- Expected form of a JSON document, as it is named in messages. -/
def documentForm : String := "JSON 文档"

def message : Error → String
  | invalidConfig fault => "配置无效: " ++ fault.message
  | wrongType .document => "类型不匹配: 期望 " ++ documentForm
  | wrongType (.described expected got) => "类型不匹配: 期望 " ++ expected ++ ", 实际 " ++ got
  | notFound what => "路径不存在: " ++ what
  | alreadyExists what => "路径已存在: " ++ what
  | multipleValues what => "路径下存在多个值: " ++ what
  | api (.refused _ _ message) => "Kubernetes API 错误: " ++ message
  | api (.other message) => "Kubernetes API 错误: " ++ message
  | api .undecodable | api .unformed => "Kubernetes API 错误"
  | store fault => "etcd 请求错误: " ++ fault.message
  | timeout what => "等待超时: " ++ what
  | unknown what => "未知错误: " ++ what

/-- The name of the kind of error. -/
def kind : Error → String
  | invalidConfig _ => "InvalidConfig"
  | wrongType _ => "WrongType"
  | notFound _ => "NotFound"
  | alreadyExists _ => "AlreadyExists"
  | multipleValues _ => "MultipleValues"
  | api _ => "Kube"
  | store _ => "Etcd"
  | timeout _ => "Timeout"
  | unknown _ => "Unknown"

/-- Whether a repetition can succeed. An invalid configuration, a value of the wrong type, a request
that the cluster API finds malformed and an answer that cannot be decoded stay as they are. -/
def isRetryable : Error → Bool
  | invalidConfig _ | wrongType _ => false
  | api (.refused code _ _) => code != 400 && code != 422
  | api .undecodable => false
  | api .unformed | api (.other _) => true
  | notFound _ | alreadyExists _ | multipleValues _ | store _ | timeout _ | unknown _ => true

/-- Whether something does not exist. -/
def isNotFound : Error → Bool
  | notFound _ => true
  | api (.refused code _ _) => code == 404
  | _ => false

/-- Whether something exists already. -/
def isAlreadyExists : Error → Bool
  | alreadyExists _ => true
  | api (.refused code reason _) => code == 409 && reason == "AlreadyExists"
  | _ => false

def isMultipleValues : Error → Bool
  | multipleValues _ => true
  | _ => false

end Error

/-- The result of an operation that can fail. -/
abbrev Result := Except Error

instance {α : Type} [DecidableEq α] : DecidableEq (Result α)
  | .ok a, .ok b => if h : a = b then isTrue (h ▸ rfl) else isFalse fun e => h (Except.ok.inj e)
  | .error a, .error b =>
    if h : a = b then isTrue (h ▸ rfl) else isFalse fun e => h (Except.error.inj e)
  | .ok _, .error _ | .error _, .ok _ => isFalse nofun

/-- Fails with a fault of the configuration unless a condition holds. -/
def Result.require (condition : Bool) (fault : ConfigFault) : Result Unit :=
  if condition then .ok () else .error (.invalidConfig fault)

theorem Result.require_eq_ok_iff {condition : Bool} {fault : ConfigFault} :
    Result.require condition fault = .ok () ↔ condition = true := by
  cases condition <;> simp [Result.require]

section Success

variable {ε α β : Type}

/-- One thing after another succeeds when both do. -/
theorem Result.bind_eq_ok_iff {r : Except ε α} {f : α → Except ε β} {b : β} :
    (r >>= f) = .ok b ↔ ∃ a, r = .ok a ∧ f a = .ok b := by
  cases r with
  | ok a =>
    constructor
    · exact fun h => ⟨a, rfl, h⟩
    · rintro ⟨_, e, h⟩
      cases e
      exact h
  | error e => exact ⟨nofun, nofun⟩

/-- A check with something after it succeeds when it passes and what is after it succeeds. -/
theorem Result.check_bind_eq_ok_iff {r : Except ε Unit} {f : Unit → Except ε β} {b : β} :
    (r >>= f) = .ok b ↔ r = .ok () ∧ f () = .ok b := by
  rw [bind_eq_ok_iff]
  exact ⟨fun ⟨_, h⟩ => h, fun h => ⟨(), h⟩⟩

end Success

end TenantOverlay
