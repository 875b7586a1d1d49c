import TenantOverlay.Config.Codec
import TenantOverlay.Config.Setting
import TenantOverlay.Json.Parser
import TenantOverlay.Yaml.Reader

/-!
# Loading a configuration

A configuration is put together from the defaults, a file in YAML or JSON, and the variables of the
environment, each over the one before.
-/

namespace TenantOverlay

/-- The formats of configuration files. -/
inductive FileFormat where
  | yaml
  | json
  deriving DecidableEq, Repr

namespace FileFormat

/-- What follows the last point of a file's name, unless the name starts with it. -/
def extension? (path : String) : Option String :=
  let name := ((Text.splitOn '/' path.toList).getLast?).getD []
  let suffix := (name.reverse.takeWhile (· != '.')).reverse
  if suffix.length + 1 < name.length then some (String.ofList suffix) else none

/-- The format that a file's name stands for. -/
def ofPath? (path : String) : Option FileFormat :=
  match extension? path with
  | some "yaml" | some "yml" => some .yaml
  | some "json" => some .json
  | _ => none

/-- The settings in a file; a document that is no table has none. -/
def read? : FileFormat → String → Option (List (String × Setting))
  | json, text => (Json.document? text).map fun j => (Setting.ofJson j).entries
  | yaml, text =>
    match Yaml.read? text with
    | none => none
    | some none => some []
    | some (some y) => (Setting.ofYaml? y).map Setting.entries

end FileFormat

namespace Environment

/-- What the names of the operator's variables start with, in any case. -/
def namePrefix : String := "flannel_operator__"

/-- The path that a variable's name stands for: two underscores separate its parts. -/
def separate : List Char → List Char
  | '_' :: '_' :: r => '.' :: separate r
  | c :: r => c :: separate r
  | [] => []

private def lower (s : String) : String := String.ofList (s.toList.map Char.toLower)

/-- The path of a variable of the operator. -/
def pathOf? (name : String) : Option String :=
  (Text.dropPrefix? namePrefix.toList (lower name).toList).map fun rest =>
    String.ofList (separate rest)

/-- The setting that is a list of texts. -/
def listPath : String := "etcd.endpoints"

/-- The setting that a variable's text stands for: a truth value, a number, a list where one is
expected, or the text itself. -/
def settingOf (path value : String) : Setting :=
  match lower value with
  | "true" => .bool true
  | "false" => .bool false
  | _ =>
    match Text.signed? Text.int64Bound value.toList with
    | some i => .int i
    | none =>
      match Decimal.read? value.toList with
      | some x => .float x.toBits
      | none =>
        if path = listPath then
          .list ((Text.splitOn ',' value.toList).map fun part => .text (String.ofList part))
        else .text value

/-- The settings in the environment. -/
def settings (environment : List (String × String)) : List (String × Setting) :=
  environment.filterMap fun v => (pathOf? v.1).map fun path => (path, settingOf path v.2)

end Environment

namespace StoreConfig

def ofSetting? (s : Setting) : Option StoreConfig := do
  let fields ← s.record? ["endpoints", "ca_file", "crt_file", "key_file"]
  let endpoints ← (fields "endpoints").bind Setting.toTexts?
  let authorityFile ← (fields "ca_file").bind Setting.toText?
  let certificateFile ← (fields "crt_file").bind Setting.toText?
  let keyFile ← (fields "key_file").bind Setting.toText?
  return ⟨endpoints, authorityFile, certificateFile, keyFile⟩

end StoreConfig

namespace ControllerConfig

def ofSetting? (s : Setting) : Option ControllerConfig := do
  let fields ← s.record?
    ["label_selector", "resync_seconds", "error_requeue_seconds", "short_requeue_seconds"]
  let labelSelector ← (fields "label_selector").bind Setting.toText?
  let resyncSeconds ← (fields "resync_seconds").bind Setting.toUnsigned?
  let errorRequeueSeconds ← (fields "error_requeue_seconds").bind Setting.toUnsigned?
  let shortRequeueSeconds ← (fields "short_requeue_seconds").bind Setting.toUnsigned?
  return ⟨labelSelector, resyncSeconds, errorRequeueSeconds, shortRequeueSeconds⟩

end ControllerConfig

namespace RetryConfig

def ofSetting? (s : Setting) : Option RetryConfig := do
  let fields ← s.record? ["initial_interval_ms", "max_interval_seconds", "multiplier",
    "max_elapsed_seconds", "teardown_max_elapsed_seconds"]
  let initialIntervalMs ← (fields "initial_interval_ms").bind Setting.toUnsigned?
  let maxIntervalSeconds ← (fields "max_interval_seconds").bind Setting.toUnsigned?
  let multiplier ← (fields "multiplier").bind Setting.toFloat?
  let maxElapsedSeconds ← (fields "max_elapsed_seconds").bind Setting.toUnsigned?
  let teardownMaxElapsedSeconds ←
    (fields "teardown_max_elapsed_seconds").bind Setting.toUnsigned?
  return ⟨initialIntervalMs, maxIntervalSeconds, multiplier, maxElapsedSeconds,
    teardownMaxElapsedSeconds⟩

end RetryConfig

namespace MetricsConfig

def ofSetting? (s : Setting) : Option MetricsConfig := do
  let fields ← s.record? ["listen_address", "port"]
  let listenAddress ← (fields "listen_address").bind Setting.toText?
  let port ← (fields "port").bind Setting.toPort?
  return ⟨listenAddress, port⟩

end MetricsConfig

namespace OperatorConfig

def ofSetting? (s : Setting) : Option OperatorConfig := do
  let fields ← s.record? ["etcd", "controller", "retry", "metrics", "log_level"]
  let store ← (fields "etcd").bind StoreConfig.ofSetting?
  let controller ← (fields "controller").bind ControllerConfig.ofSetting?
  let retry ← (fields "retry").bind RetryConfig.ofSetting?
  let metrics ← (fields "metrics").bind MetricsConfig.ofSetting?
  let logLevel ← (fields "log_level").bind Setting.toText?
  return ⟨store, controller, retry, metrics, logLevel⟩

/-- The settings of a file, if one is named. -/
def fileSettings (files : String → Option String) :
    Option String → Except StartError (List (String × Setting))
  | none => .ok []
  | some path =>
    match FileFormat.ofPath? path with
    | none => .error .unsupportedFormat
    | some format =>
      match (files path).bind format.read? with
      | none => .error (.unreadableFile path)
      | some settings => .ok settings

/-- Defaults, file and environment, one over the other. -/
def merge (files : String → Option String) (environment : List (String × String))
    (path : Option String) : Except StartError OperatorConfig := do
  let file ← fileSettings files path
  let defaults := Setting.ofJson default.toJson
  let settings := Setting.overlay (Environment.settings environment) (Setting.overlay file defaults)
  match ofSetting? settings with
  | some c => return c
  | none => throw .malformed

/-- The merged configuration, if it is valid. -/
def load (files : String → Option String) (environment : List (String × String))
    (path : Option String) : Except StartError OperatorConfig := do
  let c ← merge files environment path
  c.validate
  return c

end OperatorConfig

end TenantOverlay
