import TenantOverlay.Kubernetes.Kinds
import TenantOverlay.Overlay.Naming

/-!
# Namespaces, accounts and role bindings

The objects that give a network its place and its rights in the cluster.
-/

namespace TenantOverlay

/-- A namespace that is being removed takes no new objects. -/
def Manifest.isTerminating (n : Manifest NamespaceBody) : Bool :=
  n.metadata.isDeleted || (n.body.status.bind fun s => s.phase) == some "Terminating"

/-- The cluster role of the network's account. -/
def clusterRole : String := "flannel-operator"

/-- The cluster role that lets the network's pods run privileged. -/
def clusterRolePsp : String := "flannel-operator-psp"

namespace Overlay

variable (o : Overlay)

def namespaceManifest (name app : String) : Namespace where
  metadata := { name := some name, labels := some (o.clusterLabels app) }
  body := {}

def accountManifest (namespaceName : String) : ServiceAccount where
  metadata := {
    name := some o.serviceAccount
    namespaceName := some namespaceName
    labels := some (o.clusterLabels networkApp) }
  body := {}

/-- Grants a cluster role to the account in a namespace. -/
def bindingManifest (name namespaceName role : String) : RoleBinding where
  metadata := { name := some name, labels := some (o.clusterLabels networkApp) }
  body := {
    roleRef := ⟨"rbac.authorization.k8s.io", "ClusterRole", role⟩
    subjects := some [{
      kind := "ServiceAccount"
      name := o.serviceAccount
      namespaceName := some namespaceName }] }

/-- The role bindings of the network. -/
def networkBindings : List RoleBinding := [
  o.bindingManifest o.roleBinding o.networkNamespace clusterRole,
  o.bindingManifest o.pspRoleBinding o.networkNamespace clusterRolePsp]

/-- The role bindings of the cleanup. -/
def deletionBindings : List RoleBinding := [
  o.bindingManifest o.deletionRoleBinding o.destroyerNamespace clusterRole,
  o.bindingManifest o.deletionPspRoleBinding o.destroyerNamespace clusterRolePsp]

end Overlay

end TenantOverlay
