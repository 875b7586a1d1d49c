import TenantOverlay.Overlay.Basic

/-!
# Names

Every name that is derived from an overlay: objects of the cluster, keys of the store, devices and
files on the hosts. Each is a function of the overlay alone, so that a later pass finds what an
earlier one made.
-/

namespace TenantOverlay

/-- The label `app` of the network's objects, and the name of its daemon set. -/
def networkApp : String := "flannel-network"

/-- The label `app` of the cleanup's objects, and the name of its job. -/
def destroyerApp : String := "flannel-destroyer"

/-- The annotation that records which generation wrote a daemon set. -/
def versionMark : String := "giantswarm.io/version-bundle-version"

/-- The key under which the store keeps all networks. -/
def storeRoot : String := "coreos.com/network"

/-- The host that probes are sent to. -/
def probeHost : String := "127.0.0.1"

namespace Overlay

variable (o : Overlay)

def clusterId : String := o.body.cluster.id
def customer : String := o.body.cluster.customer
def clusterNamespace : String := o.body.cluster.namespaceName

def networkNamespace : String := networkApp ++ "-" ++ o.clusterId
def destroyerNamespace : String := destroyerApp ++ "-" ++ o.clusterId
def bridgeName : String := "br-" ++ o.clusterId
def tapName : String := "tap-" ++ o.clusterId
def flannelDevice : String := "flannel." ++ toString o.body.network.vni.toNat

/-- The file that flannel's daemon leaves for the bridge. -/
def environmentFile : String := o.body.network.runDirectory ++ "/networks/" ++ o.bridgeName ++ ".env"

/-- The key below which the store keeps the network. -/
def storePath : String := storeRoot ++ "/" ++ o.bridgeName

/-- The key of the network's entry. -/
def entryPath : String := o.storePath ++ "/config"

/-- The key of the network as flannel's daemon is given it. -/
def daemonStorePath : String := "/" ++ o.storePath

/-- One line for each server. -/
def serverLines (name : String) (servers : List String) : String :=
  String.intercalate "\n" (servers.map fun s => name ++ "=" ++ s)

def dnsBlock : String := serverLines "DNS" o.body.bridge.dnsServers
def ntpBlock : String := serverLines "NTP" o.body.bridge.ntpServers

/-- The service account of the network and of the cleanup. -/
def serviceAccount : String := o.clusterId

def probePort : Result Nat := TenantOverlay.probePort o.body.network.vni

/-- Where the health container listens. -/
def healthAddress : Result String := do
  let port ← o.probePort
  return "http://" ++ probeHost ++ ":" ++ toString port

def roleBinding : String := networkApp ++ "-" ++ o.clusterId
def pspRoleBinding : String := networkApp ++ "-" ++ o.clusterId ++ "-psp"
def deletionRoleBinding : String := o.clusterId ++ "-deletion"
def deletionPspRoleBinding : String := networkApp ++ "-" ++ o.clusterId ++ "-deletion-psp"

/-- Labels of namespaces, accounts and role bindings. -/
def clusterLabels (app : String) : Labels := .ofList [
  ("app", app), ("giantswarm.io/cluster", o.clusterId),
  ("giantswarm.io/organization", o.customer), ("cluster-id", o.clusterId),
  ("customer-id", o.customer)]

/-- Labels of daemon sets, jobs and their pods. -/
def workloadLabels (app : String) : Labels := .ofList [
  ("app", app), ("cluster", o.clusterId), ("customer", o.customer)]

end Overlay

end TenantOverlay
