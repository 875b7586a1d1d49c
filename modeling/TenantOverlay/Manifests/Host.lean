import TenantOverlay.Kubernetes.Kinds
import TenantOverlay.Overlay.Naming

/-!
# Access to the hosts

What the network's pods and the cleanup's pods share: directories of the host, the rights to change
its network, and the variables from which the bridge is set up.
-/

namespace TenantOverlay

def EnvVar.of (name value : String) : EnvVar := { name := name, value := some value }

def VolumeMount.of (name path : String) : VolumeMount := { name := name, mountPath := path }

def Volume.ofHost (name path : String) : Volume :=
  { name := name, hostPath := some { path := path } }

/-- May change the network of its host. -/
def SecurityContext.whole : SecurityContext := { privileged := some true }

/-- The host's directories that the bridge works with. -/
def bridgeMounts : List VolumeMount := [
  .of "cgroup" "/sys/fs/cgroup",
  .of "dbus" "/var/run/dbus",
  .of "environment" "/etc/environment",
  .of "etc-systemd" "/etc/systemd/",
  .of "flannel" "/run/flannel",
  .of "systemd" "/run/systemd",
  .of "sys-class-net" "/sys/class/net/"]

namespace Overlay

variable (o : Overlay)

/-- The variables that the bridge is set up from. -/
def bridgeEnvironment : List EnvVar := [
  .of "HOST_PRIVATE_NETWORK" o.body.bridge.privateNetwork,
  .of "NETWORK_BRIDGE_NAME" o.bridgeName,
  .of "NETWORK_DNS_BLOCK" o.dnsBlock,
  .of "NETWORK_ENV_FILE_PATH" o.environmentFile,
  .of "NETWORK_FLANNEL_DEVICE" o.flannelDevice,
  .of "NETWORK_INTERFACE_NAME" o.body.bridge.interface,
  .of "NETWORK_NTP_BLOCK" o.ntpBlock,
  .of "NETWORK_TAP_NAME" o.tapName]

/-- The host's directories that pods of the network mount. -/
def hostVolumes : List Volume := [
  .ofHost "cgroup" "/sys/fs/cgroup",
  .ofHost "dbus" "/var/run/dbus",
  .ofHost "environment" "/etc/environment",
  .ofHost "etcd-certs" "/etc/kubernetes/ssl/etcd",
  .ofHost "etc-systemd" "/etc/systemd/",
  .ofHost "flannel" o.body.network.runDirectory,
  .ofHost "ssl" "/etc/ssl/certs",
  .ofHost "systemd" "/run/systemd",
  .ofHost "sys-class-net" "/sys/class/net/"]

end Overlay

end TenantOverlay
