import TenantOverlay.Kubernetes.Schema.Pod

/-!
# Schemas of the kinds

What each kind of object has besides its metadata, version 1.26.
-/

namespace TenantOverlay.Schema

/-- The fields of a namespace. -/
def namespaceFields : List (String × Bool × Schema) := [
  opt "spec" (.record [opt "finalizers" texts]),
  opt "status" (.record [
    opt "conditions" (.list (condition ["lastTransitionTime"])), opt "phase" .text])]

def serviceAccountFields : List (String × Bool × Schema) := [
  opt "automountServiceAccountToken" .bool, opt "imagePullSecrets" (.list localReference),
  opt "secrets" (.list objectReference)]

def clusterRoleBindingFields : List (String × Bool × Schema) := [
  req "roleRef" (.record [req "apiGroup" .text, req "kind" .text, req "name" .text]),
  opt "subjects" (.list (.record [
    opt "apiGroup" .text, req "kind" .text, req "name" .text, opt "namespace" .text]))]

def daemonSetFields : List (String × Bool × Schema) := [
  opt "spec" (.record [
    opt "minReadySeconds" .int32, opt "revisionHistoryLimit" .int32, req "selector" labelSelector,
    req "template" podTemplate,
    opt "updateStrategy" (.record [
      opt "rollingUpdate" (.record [
        opt "maxSurge" .intOrText, opt "maxUnavailable" .intOrText]),
      opt "type" .text])]),
  opt "status" (.record [
    opt "collisionCount" .int32, opt "conditions" (.list (condition ["lastTransitionTime"])),
    req "currentNumberScheduled" .int32, req "desiredNumberScheduled" .int32,
    opt "numberAvailable" .int32, req "numberMisscheduled" .int32, req "numberReady" .int32,
    opt "numberUnavailable" .int32, opt "observedGeneration" .int64,
    opt "updatedNumberScheduled" .int32])]

def podFailurePolicy : Schema := .record [
  req "rules" (.list (.record [
    req "action" .text,
    opt "onExitCodes" (.record [
      opt "containerName" .text, req "operator" .text, req "values" (.list .int32)]),
    req "onPodConditions" (.list (.record [req "status" .text, req "type" .text]))]))]

def jobFields : List (String × Bool × Schema) := [
  opt "spec" (.record [
    opt "activeDeadlineSeconds" .int64, opt "backoffLimit" .int32, opt "completionMode" .text,
    opt "completions" .int32, opt "manualSelector" .bool, opt "parallelism" .int32,
    opt "podFailurePolicy" podFailurePolicy, opt "selector" labelSelector, opt "suspend" .bool,
    req "template" podTemplate, opt "ttlSecondsAfterFinished" .int32]),
  opt "status" (.record [
    opt "active" .int32, opt "completedIndexes" .text, opt "completionTime" .time,
    opt "conditions" (.list (condition ["lastProbeTime", "lastTransitionTime"])),
    opt "failed" .int32, opt "ready" .int32, opt "startTime" .time, opt "succeeded" .int32,
    opt "uncountedTerminatedPods" (.record [opt "failed" texts, opt "succeeded" texts])])]

def podFields : List (String × Bool × Schema) := [opt "spec" podSpec, opt "status" podStatus]

def nodeConfigSource : Schema := .record [
  opt "configMap" (.record [
    req "kubeletConfigKey" .text, req "name" .text, req "namespace" .text,
    opt "resourceVersion" .text, opt "uid" .text])]

def nodeStatus : Schema := .record [
  opt "addresses" (.list (.record [req "address" .text, req "type" .text])),
  opt "allocatable" quantities, opt "capacity" quantities,
  opt "conditions" (.list (condition ["lastHeartbeatTime", "lastTransitionTime"])),
  opt "config" (.record [
    opt "active" nodeConfigSource, opt "assigned" nodeConfigSource, opt "error" .text,
    opt "lastKnownGood" nodeConfigSource]),
  opt "daemonEndpoints" (.record [opt "kubeletEndpoint" (.record [req "Port" .int32])]),
  opt "images" (.list (.record [opt "names" texts, opt "sizeBytes" .int64])),
  opt "nodeInfo" (.record [
    req "architecture" .text, req "bootID" .text, req "containerRuntimeVersion" .text,
    req "kernelVersion" .text, req "kubeProxyVersion" .text, req "kubeletVersion" .text,
    req "machineID" .text, req "operatingSystem" .text, req "osImage" .text,
    req "systemUUID" .text]),
  opt "phase" .text,
  opt "volumesAttached" (.list (.record [req "devicePath" .text, req "name" .text])),
  opt "volumesInUse" texts]

def nodeFields : List (String × Bool × Schema) := [
  opt "spec" (.record [
    opt "configSource" nodeConfigSource, opt "externalID" .text, opt "podCIDR" .text,
    opt "podCIDRs" texts, opt "providerID" .text,
    opt "taints" (.list (.record [
      req "effect" .text, req "key" .text, opt "timeAdded" .time, opt "value" .text])),
    opt "unschedulable" .bool]),
  opt "status" nodeStatus]

end TenantOverlay.Schema
