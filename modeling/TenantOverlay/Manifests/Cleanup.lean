import TenantOverlay.Manifests.Host

/-!
# The cleanup job

A job that runs once on every host and removes the bridge and flannel's devices from it.
-/

namespace TenantOverlay.Overlay

variable (o : Overlay)

/-- At most one pod of the cleanup on each host. -/
def cleanupAffinity : Affinity where
  podAntiAffinity := some {
    required := some [{
      labelSelector := some {
        matchExpressions := some [
          { key := "app", operator := "In", values := some [destroyerApp] }] }
      namespaces := some [o.destroyerNamespace]
      topologyKey := "kubernetes.io/hostname" }] }

/-- Takes down the bridge. -/
def cleanupContainer : Container where
  name := "k8s-network-bridge"
  image := some o.body.bridge.image
  imagePullPolicy := some "Always"
  command := some ["/bin/sh", "-c",
    "/docker-entrypoint.sh delete $\x7bNETWORK_ENV_FILE_PATH\x7d $\x7bNETWORK_BRIDGE_NAME\x7d " ++
      "$\x7bNETWORK_INTERFACE_NAME\x7d $\x7bHOST_PRIVATE_NETWORK\x7d"]
  env := some o.bridgeEnvironment
  volumeMounts := some bridgeMounts
  securityContext := some .whole

/-- The job for a number of hosts. -/
def cleanupJob (hosts : Int) : Job where
  metadata := {
    name := some destroyerApp
    namespaceName := some o.destroyerNamespace
    labels := some (o.workloadLabels destroyerApp) }
  body := {
    spec := some {
      parallelism := some hosts
      completions := some hosts
      template := {
        metadata := some {
          generateName := some destroyerApp
          labels := some (o.workloadLabels destroyerApp) }
        spec := some {
          containers := [o.cleanupContainer]
          volumes := some o.hostVolumes
          hostNetwork := some true
          hostPid := some true
          restartPolicy := some "OnFailure"
          serviceAccountName := some o.serviceAccount
          affinity := some o.cleanupAffinity } } } }

end TenantOverlay.Overlay
