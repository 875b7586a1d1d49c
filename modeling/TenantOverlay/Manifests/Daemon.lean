import TenantOverlay.Bundle
import TenantOverlay.Manifests.Host

/-!
# The network's daemon set

Flannel's daemon, the bridge and, in generations that have it, a health container on every host.
`DaemonConfig` holds what differs between generations.
-/

namespace TenantOverlay

/-- How one generation deploys flannel's daemon. -/
structure DaemonConfig where
  /-- The generation, as it is recorded on the daemon set. -/
  bundleVersion : String
  image : String
  storeEndpoints : List String
  authorityFile : String
  certificateFile : String
  keyFile : String
  healthContainer : Bool
  deriving DecidableEq, Repr

/-- The generation is a version, and image, endpoints and certificates are given. -/
def DaemonConfig.validate (c : DaemonConfig) : Result Unit := do
  let _ ← Version.parse c.bundleVersion
  Result.require (c.image != "") .emptyDaemonImage
  Result.require (!c.storeEndpoints.isEmpty) .noDaemonEndpoints
  Result.require (c.authorityFile != "") (.emptyField "flanneld etcd_ca_file")
  Result.require (c.certificateFile != "") (.emptyField "flanneld etcd_crt_file")
  Result.require (c.keyFile != "") (.emptyField "flanneld etcd_key_file")

namespace Overlay

variable (o : Overlay)

/-- Asks for the health of the network at its own port. -/
def livenessProbe (port : Nat) : Probe where
  initialDelaySeconds := some 10
  timeoutSeconds := some 5
  periodSeconds := some 10
  failureThreshold := some 2
  successThreshold := some 1
  http := some { path := some "/healthz", port := .int port, host := some probeHost }

/-- Hands out a subnet to its host. -/
def daemonContainer (c : DaemonConfig) (port : Nat) : Container where
  name := "flanneld"
  image := some c.image
  imagePullPolicy := some "Always"
  command := some ["/bin/sh", "-c",
    "/opt/bin/flanneld --etcd-endpoints=" ++ String.intercalate "," c.storeEndpoints ++
      " --etcd-cafile=$\x7bETCD_CA\x7d --etcd-certfile=$\x7bETCD_CRT\x7d" ++
      " --etcd-keyfile=$\x7bETCD_KEY\x7d --etcd-prefix=$\x7bETCD_PREFIX\x7d" ++
      " --iface=$\x7bNETWORK_INTERFACE_NAME\x7d --subnet-file=$\x7bNETWORK_ENV_FILE_PATH\x7d -v=0"]
  env := some [
    .of "ETCD_CA" c.authorityFile,
    .of "ETCD_CRT" c.certificateFile,
    .of "ETCD_KEY" c.keyFile,
    .of "ETCD_PREFIX" o.daemonStorePath,
    .of "NETWORK_BRIDGE_NAME" o.bridgeName,
    .of "NETWORK_ENV_FILE_PATH" o.environmentFile,
    .of "NETWORK_INTERFACE_NAME" o.body.bridge.interface]
  livenessProbe := some (livenessProbe port)
  volumeMounts := some [
    .of "etcd-certs" "/etc/kubernetes/ssl/etcd",
    .of "flannel" "/run/flannel",
    .of "ssl" "/etc/ssl/certs"]
  securityContext := some .whole

/-- Sets up the bridge once the daemon has left its subnet. -/
def bridgeContainer (port : Nat) : Container where
  name := "k8s-network-bridge"
  image := some o.body.bridge.image
  imagePullPolicy := some "Always"
  command := some ["/bin/sh", "-c",
    "while [ ! -f $\x7bNETWORK_ENV_FILE_PATH\x7d ]; do " ++
      "echo \"Waiting for $\x7bNETWORK_ENV_FILE_PATH\x7d to be created\"; sleep 1; done; " ++
      "/docker-entrypoint.sh create $\x7bNETWORK_ENV_FILE_PATH\x7d $\x7bNETWORK_BRIDGE_NAME\x7d " ++
      "$\x7bNETWORK_INTERFACE_NAME\x7d $\x7bHOST_PRIVATE_NETWORK\x7d"]
  env := some o.bridgeEnvironment
  livenessProbe := some (livenessProbe port)
  volumeMounts := some bridgeMounts
  securityContext := some .whole

/-- Answers the probes. -/
def healthContainer (port : Nat) : Container where
  name := "flannel-network-health"
  image := some o.body.healthImage
  imagePullPolicy := some "Always"
  env := some [
    .of "LISTEN_ADDRESS" ("http://" ++ probeHost ++ ":" ++ toString port),
    .of "NETWORK_BRIDGE_NAME" o.bridgeName,
    .of "NETWORK_ENV_FILE_PATH" o.environmentFile,
    .of "NETWORK_FLANNEL_DEVICE" o.flannelDevice]
  volumeMounts := some [.of "flannel" "/run/flannel"]
  securityContext := some .whole

/-- The containers, probed at a port. -/
def networkContainers (c : DaemonConfig) (port : Nat) : List Container :=
  [o.daemonContainer c port, o.bridgeContainer port] ++
    if c.healthContainer then [o.healthContainer port] else []

/-- The daemon set with its containers probed at a port. -/
def daemonSetAt (c : DaemonConfig) (port : Nat) : DaemonSet where
  metadata := {
    name := some networkApp
    namespaceName := some o.networkNamespace
    labels := some (o.workloadLabels networkApp)
    annotations := some (.ofList [(versionMark, c.bundleVersion)]) }
  body := {
    spec := some {
      selector := {
        matchLabels := some (.ofList [("app", networkApp), ("cluster", o.clusterId)]) }
      template := {
        metadata := some {
          generateName := some networkApp
          labels := some (o.workloadLabels networkApp) }
        spec := some {
          containers := o.networkContainers c port
          volumes := some o.hostVolumes
          hostNetwork := some true
          serviceAccountName := some o.serviceAccount } }
      updateStrategy := some {
        type := some "RollingUpdate"
        rollingUpdate := some { maxUnavailable := some (.int 1) } } } }

/-- The daemon set of the network; there is none without a port to probe. -/
def daemonSet (c : DaemonConfig) : Result DaemonSet := do
  let port ← o.probePort
  return o.daemonSetAt c port

end Overlay

end TenantOverlay
