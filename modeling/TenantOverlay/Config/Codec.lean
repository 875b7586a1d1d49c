import TenantOverlay.Config.Basic
import TenantOverlay.Json.Basic
import TenantOverlay.Kubernetes.Normal

/-!
# Configurations as JSON

Every field has to be given, with a value of its own type.
-/

namespace TenantOverlay

namespace Json

/-- A whole number of 64 bits. -/
def uint64? (j : Json) : Option Nat := j.nat? UInt64.size

/-- A number, whole or fractional. -/
def float? : Json → Option Float
  | .float bits => some (Float.ofBits bits)
  | .int i => some (Float.ofInt i)
  | _ => none

end Json

namespace StoreConfig

def ofJson? (j : Json) : Option StoreConfig := do
  let fields ← j.record? ["endpoints", "ca_file", "crt_file", "key_file"]
  let endpoints ← fields.required "endpoints" (Json.list? Json.text?)
  let authorityFile ← fields.required "ca_file" Json.text?
  let certificateFile ← fields.required "crt_file" Json.text?
  let keyFile ← fields.required "key_file" Json.text?
  return ⟨endpoints, authorityFile, certificateFile, keyFile⟩

def toJson (c : StoreConfig) : Json :=
  .obj [("endpoints", Json.ofTexts c.endpoints), ("ca_file", .str c.authorityFile),
    ("crt_file", .str c.certificateFile), ("key_file", .str c.keyFile)]

end StoreConfig

namespace ControllerConfig

def ofJson? (j : Json) : Option ControllerConfig := do
  let fields ← j.record?
    ["label_selector", "resync_seconds", "error_requeue_seconds", "short_requeue_seconds"]
  let labelSelector ← fields.required "label_selector" Json.text?
  let resyncSeconds ← fields.required "resync_seconds" Json.uint64?
  let errorRequeueSeconds ← fields.required "error_requeue_seconds" Json.uint64?
  let shortRequeueSeconds ← fields.required "short_requeue_seconds" Json.uint64?
  return ⟨labelSelector, resyncSeconds, errorRequeueSeconds, shortRequeueSeconds⟩

def toJson (c : ControllerConfig) : Json :=
  .obj [("label_selector", .str c.labelSelector), ("resync_seconds", .int c.resyncSeconds),
    ("error_requeue_seconds", .int c.errorRequeueSeconds),
    ("short_requeue_seconds", .int c.shortRequeueSeconds)]

end ControllerConfig

namespace RetryConfig

def ofJson? (j : Json) : Option RetryConfig := do
  let fields ← j.record? ["initial_interval_ms", "max_interval_seconds", "multiplier",
    "max_elapsed_seconds", "teardown_max_elapsed_seconds"]
  let initialIntervalMs ← fields.required "initial_interval_ms" Json.uint64?
  let maxIntervalSeconds ← fields.required "max_interval_seconds" Json.uint64?
  let multiplier ← fields.required "multiplier" Json.float?
  let maxElapsedSeconds ← fields.required "max_elapsed_seconds" Json.uint64?
  let teardownMaxElapsedSeconds ← fields.required "teardown_max_elapsed_seconds" Json.uint64?
  return ⟨initialIntervalMs, maxIntervalSeconds, multiplier, maxElapsedSeconds,
    teardownMaxElapsedSeconds⟩

def toJson (c : RetryConfig) : Json :=
  .obj [("initial_interval_ms", .int c.initialIntervalMs),
    ("max_interval_seconds", .int c.maxIntervalSeconds),
    ("multiplier", .float c.multiplier.toBits), ("max_elapsed_seconds", .int c.maxElapsedSeconds),
    ("teardown_max_elapsed_seconds", .int c.teardownMaxElapsedSeconds)]

end RetryConfig

namespace MetricsConfig

def ofJson? (j : Json) : Option MetricsConfig := do
  let fields ← j.record? ["listen_address", "port"]
  let listenAddress ← fields.required "listen_address" Json.text?
  let port ← fields.required "port" (Json.nat? 65536)
  return ⟨listenAddress, port⟩

def toJson (c : MetricsConfig) : Json :=
  .obj [("listen_address", .str c.listenAddress), ("port", .int c.port)]

end MetricsConfig

namespace OperatorConfig

def ofJson? (j : Json) : Option OperatorConfig := do
  let fields ← j.record? ["etcd", "controller", "retry", "metrics", "log_level"]
  let store ← fields.required "etcd" StoreConfig.ofJson?
  let controller ← fields.required "controller" ControllerConfig.ofJson?
  let retry ← fields.required "retry" RetryConfig.ofJson?
  let metrics ← fields.required "metrics" MetricsConfig.ofJson?
  let logLevel ← fields.required "log_level" Json.text?
  return ⟨store, controller, retry, metrics, logLevel⟩

def toJson (c : OperatorConfig) : Json :=
  .obj [("etcd", c.store.toJson), ("controller", c.controller.toJson), ("retry", c.retry.toJson),
    ("metrics", c.metrics.toJson), ("log_level", .str c.logLevel)]

end OperatorConfig

end TenantOverlay
