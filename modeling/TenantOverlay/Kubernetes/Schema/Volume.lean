import TenantOverlay.Kubernetes.Schema.Meta

/-!
# Schemas of volumes

The sources that a pod can mount, version 1.26.
-/

namespace TenantOverlay.Schema

def keyToPath : Schema := .record [req "key" .text, opt "mode" .int32, req "path" .text]

def fieldSelector : Schema := .record [opt "apiVersion" .text, req "fieldPath" .text]

def resourceSelector : Schema := .record [
  opt "containerName" .text, opt "divisor" .text, req "resource" .text]

def downwardFile : Schema := .record [
  opt "fieldRef" fieldSelector, opt "mode" .int32, req "path" .text,
  opt "resourceFieldRef" resourceSelector]

def resourceRequirements : Schema := .record [
  opt "claims" (.list (.record [req "name" .text])), opt "limits" quantities,
  opt "requests" quantities]

def claimSpec : Schema := .record [
  opt "accessModes" texts,
  opt "dataSource" (.record [opt "apiGroup" .text, req "kind" .text, req "name" .text]),
  opt "dataSourceRef" (.record [
    opt "apiGroup" .text, req "kind" .text, req "name" .text, opt "namespace" .text]),
  opt "resources" resourceRequirements, opt "selector" labelSelector,
  opt "storageClassName" .text, opt "volumeMode" .text, opt "volumeName" .text]

/-- Keys of a configuration map or a secret, projected into files. -/
def projectedKeys : Schema := .record [
  opt "items" (.list keyToPath), opt "name" .text, opt "optional" .bool]

def projection : Schema := .record [
  opt "configMap" projectedKeys,
  opt "downwardAPI" (.record [opt "items" (.list downwardFile)]),
  opt "secret" projectedKeys,
  opt "serviceAccountToken" (.record [
    opt "audience" .text, opt "expirationSeconds" .int64, req "path" .text])]

/-- Disks and file systems of clouds and storage clusters. -/
def storageSources : List (String × Bool × Schema) := [
  opt "awsElasticBlockStore" (.record [
    opt "fsType" .text, opt "partition" .int32, opt "readOnly" .bool, req "volumeID" .text]),
  opt "azureDisk" (.record [
    opt "cachingMode" .text, req "diskName" .text, req "diskURI" .text, opt "fsType" .text,
    opt "kind" .text, opt "readOnly" .bool]),
  opt "azureFile" (.record [
    opt "readOnly" .bool, req "secretName" .text, req "shareName" .text]),
  opt "cephfs" (.record [
    req "monitors" texts, opt "path" .text, opt "readOnly" .bool, opt "secretFile" .text,
    opt "secretRef" localReference, opt "user" .text]),
  opt "cinder" (.record [
    opt "fsType" .text, opt "readOnly" .bool, opt "secretRef" localReference,
    req "volumeID" .text]),
  opt "fc" (.record [
    opt "fsType" .text, opt "lun" .int32, opt "readOnly" .bool, opt "targetWWNs" texts,
    opt "wwids" texts]),
  opt "flexVolume" (.record [
    req "driver" .text, opt "fsType" .text, opt "options" textMap, opt "readOnly" .bool,
    opt "secretRef" localReference]),
  opt "flocker" (.record [opt "datasetName" .text, opt "datasetUUID" .text]),
  opt "gcePersistentDisk" (.record [
    opt "fsType" .text, opt "partition" .int32, req "pdName" .text, opt "readOnly" .bool]),
  opt "glusterfs" (.record [req "endpoints" .text, req "path" .text, opt "readOnly" .bool]),
  opt "iscsi" (.record [
    opt "chapAuthDiscovery" .bool, opt "chapAuthSession" .bool, opt "fsType" .text,
    opt "initiatorName" .text, req "iqn" .text, opt "iscsiInterface" .text, req "lun" .int32,
    opt "portals" texts, opt "readOnly" .bool, opt "secretRef" localReference,
    req "targetPortal" .text]),
  opt "nfs" (.record [req "path" .text, opt "readOnly" .bool, req "server" .text]),
  opt "photonPersistentDisk" (.record [opt "fsType" .text, req "pdID" .text]),
  opt "portworxVolume" (.record [
    opt "fsType" .text, opt "readOnly" .bool, req "volumeID" .text]),
  opt "quobyte" (.record [
    opt "group" .text, opt "readOnly" .bool, req "registry" .text, opt "tenant" .text,
    opt "user" .text, req "volume" .text]),
  opt "rbd" (.record [
    opt "fsType" .text, req "image" .text, opt "keyring" .text, req "monitors" texts,
    opt "pool" .text, opt "readOnly" .bool, opt "secretRef" localReference, opt "user" .text]),
  opt "scaleIO" (.record [
    opt "fsType" .text, req "gateway" .text, opt "protectionDomain" .text, opt "readOnly" .bool,
    req "secretRef" localReference, opt "sslEnabled" .bool, opt "storageMode" .text,
    opt "storagePool" .text, req "system" .text, opt "volumeName" .text]),
  opt "storageos" (.record [
    opt "fsType" .text, opt "readOnly" .bool, opt "secretRef" localReference,
    opt "volumeName" .text, opt "volumeNamespace" .text]),
  opt "vsphereVolume" (.record [
    opt "fsType" .text, opt "storagePolicyID" .text, opt "storagePolicyName" .text,
    req "volumePath" .text])]

/-- Sources that the cluster itself provides. -/
def clusterSources : List (String × Bool × Schema) := [
  opt "configMap" (.record [
    opt "defaultMode" .int32, opt "items" (.list keyToPath), opt "name" .text,
    opt "optional" .bool]),
  opt "csi" (.record [
    req "driver" .text, opt "fsType" .text, opt "nodePublishSecretRef" localReference,
    opt "readOnly" .bool, opt "volumeAttributes" textMap]),
  opt "downwardAPI" (.record [opt "defaultMode" .int32, opt "items" (.list downwardFile)]),
  opt "emptyDir" (.record [opt "medium" .text, opt "sizeLimit" .text]),
  opt "ephemeral" (.record [
    opt "volumeClaimTemplate" (.record [opt "metadata" objectMeta, req "spec" claimSpec])]),
  opt "gitRepo" (.record [opt "directory" .text, req "repository" .text, opt "revision" .text]),
  opt "hostPath" (.record [req "path" .text, opt "type" .text]),
  opt "persistentVolumeClaim" (.record [req "claimName" .text, opt "readOnly" .bool]),
  opt "projected" (.record [opt "defaultMode" .int32, opt "sources" (.list projection)]),
  opt "secret" (.record [
    opt "defaultMode" .int32, opt "items" (.list keyToPath), opt "optional" .bool,
    opt "secretName" .text])]

def volume : Schema := .record (req "name" .text :: clusterSources ++ storageSources)

end TenantOverlay.Schema
