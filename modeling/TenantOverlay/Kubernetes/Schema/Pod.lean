import TenantOverlay.Kubernetes.Schema.Volume

/-!
# Schemas of pods

Containers, pod specifications, pod templates and the status of a pod, version 1.26.
-/

namespace TenantOverlay.Schema

/-- A key of a configuration map or a secret. -/
def keySelector : Schema := .record [req "key" .text, opt "name" .text, opt "optional" .bool]

def envVar : Schema := .record [
  req "name" .text, opt "value" .text,
  opt "valueFrom" (.record [
    opt "configMapKeyRef" keySelector, opt "fieldRef" fieldSelector,
    opt "resourceFieldRef" resourceSelector, opt "secretKeyRef" keySelector])]

def environmentSource : Schema := .record [opt "name" .text, opt "optional" .bool]

def execAction : Schema := .record [opt "command" texts]

def httpGetAction : Schema := .record [
  opt "host" .text,
  opt "httpHeaders" (.list (.record [req "name" .text, req "value" .text])),
  opt "path" .text, req "port" .intOrText, opt "scheme" .text]

def tcpSocketAction : Schema := .record [opt "host" .text, req "port" .intOrText]

def lifecycleHandler : Schema := .record [
  opt "exec" execAction, opt "httpGet" httpGetAction, opt "tcpSocket" tcpSocketAction]

def probe : Schema := .record [
  opt "exec" execAction, opt "failureThreshold" .int32,
  opt "grpc" (.record [req "port" .int32, opt "service" .text]), opt "httpGet" httpGetAction,
  opt "initialDelaySeconds" .int32, opt "periodSeconds" .int32, opt "successThreshold" .int32,
  opt "tcpSocket" tcpSocketAction, opt "terminationGracePeriodSeconds" .int64,
  opt "timeoutSeconds" .int32]

def seLinuxOptions : Schema := .record [
  opt "level" .text, opt "role" .text, opt "type" .text, opt "user" .text]

def seccompProfile : Schema := .record [opt "localhostProfile" .text, req "type" .text]

def windowsOptions : Schema := .record [
  opt "gmsaCredentialSpec" .text, opt "gmsaCredentialSpecName" .text, opt "hostProcess" .bool,
  opt "runAsUserName" .text]

def securityContext : Schema := .record [
  opt "allowPrivilegeEscalation" .bool,
  opt "capabilities" (.record [opt "add" texts, opt "drop" texts]), opt "privileged" .bool,
  opt "procMount" .text, opt "readOnlyRootFilesystem" .bool, opt "runAsGroup" .int64,
  opt "runAsNonRoot" .bool, opt "runAsUser" .int64, opt "seLinuxOptions" seLinuxOptions,
  opt "seccompProfile" seccompProfile, opt "windowsOptions" windowsOptions]

def volumeMount : Schema := .record [
  req "mountPath" .text, opt "mountPropagation" .text, req "name" .text, opt "readOnly" .bool,
  opt "subPath" .text, opt "subPathExpr" .text]

def containerFields : List (String × Bool × Schema) := [
  opt "args" texts, opt "command" texts, opt "env" (.list envVar),
  opt "envFrom" (.list (.record [
    opt "configMapRef" environmentSource, opt "prefix" .text,
    opt "secretRef" environmentSource])),
  opt "image" .text, opt "imagePullPolicy" .text,
  opt "lifecycle" (.record [opt "postStart" lifecycleHandler, opt "preStop" lifecycleHandler]),
  opt "livenessProbe" probe, req "name" .text,
  opt "ports" (.list (.record [
    req "containerPort" .int32, opt "hostIP" .text, opt "hostPort" .int32, opt "name" .text,
    opt "protocol" .text])),
  opt "readinessProbe" probe, opt "resources" resourceRequirements,
  opt "securityContext" securityContext, opt "startupProbe" probe, opt "stdin" .bool,
  opt "stdinOnce" .bool, opt "terminationMessagePath" .text,
  opt "terminationMessagePolicy" .text, opt "tty" .bool,
  opt "volumeDevices" (.list (.record [req "devicePath" .text, req "name" .text])),
  opt "volumeMounts" (.list volumeMount), opt "workingDir" .text]

def container : Schema := .record containerFields

def ephemeralContainer : Schema := .record (containerFields ++ [opt "targetContainerName" .text])

def nodeSelectorTerm : Schema := .record [
  opt "matchExpressions" (.list requirement), opt "matchFields" (.list requirement)]

def podAffinityTerm : Schema := .record [
  opt "labelSelector" labelSelector, opt "namespaceSelector" labelSelector,
  opt "namespaces" texts, req "topologyKey" .text]

/-- Rules that attract or repel pods. -/
def podAffinity : Schema := .record [
  opt "preferredDuringSchedulingIgnoredDuringExecution" (.list (.record [
    req "podAffinityTerm" podAffinityTerm, req "weight" .int32])),
  opt "requiredDuringSchedulingIgnoredDuringExecution" (.list podAffinityTerm)]

def nodeAffinity : Schema := .record [
  opt "preferredDuringSchedulingIgnoredDuringExecution" (.list (.record [
    req "preference" nodeSelectorTerm, req "weight" .int32])),
  opt "requiredDuringSchedulingIgnoredDuringExecution" (.record [
    req "nodeSelectorTerms" (.list nodeSelectorTerm)])]

def affinity : Schema := .record [
  opt "nodeAffinity" nodeAffinity, opt "podAffinity" podAffinity,
  opt "podAntiAffinity" podAffinity]

def podSecurityContext : Schema := .record [
  opt "fsGroup" .int64, opt "fsGroupChangePolicy" .text, opt "runAsGroup" .int64,
  opt "runAsNonRoot" .bool, opt "runAsUser" .int64, opt "seLinuxOptions" seLinuxOptions,
  opt "seccompProfile" seccompProfile, opt "supplementalGroups" (.list .int64),
  opt "sysctls" (.list (.record [req "name" .text, req "value" .text])),
  opt "windowsOptions" windowsOptions]

def toleration : Schema := .record [
  opt "effect" .text, opt "key" .text, opt "operator" .text, opt "tolerationSeconds" .int64,
  opt "value" .text]

def spreadConstraint : Schema := .record [
  opt "labelSelector" labelSelector, opt "matchLabelKeys" texts, req "maxSkew" .int32,
  opt "minDomains" .int32, opt "nodeAffinityPolicy" .text, opt "nodeTaintsPolicy" .text,
  req "topologyKey" .text, req "whenUnsatisfiable" .text]

def podSpec : Schema := .record [
  opt "activeDeadlineSeconds" .int64, opt "affinity" affinity,
  opt "automountServiceAccountToken" .bool, req "containers" (.list container),
  opt "dnsConfig" (.record [
    opt "nameservers" texts,
    opt "options" (.list (.record [opt "name" .text, opt "value" .text])),
    opt "searches" texts]),
  opt "dnsPolicy" .text, opt "enableServiceLinks" .bool,
  opt "ephemeralContainers" (.list ephemeralContainer),
  opt "hostAliases" (.list (.record [opt "hostnames" texts, opt "ip" .text])),
  opt "hostIPC" .bool, opt "hostNetwork" .bool, opt "hostPID" .bool, opt "hostUsers" .bool,
  opt "hostname" .text, opt "imagePullSecrets" (.list localReference),
  opt "initContainers" (.list container), opt "nodeName" .text, opt "nodeSelector" textMap,
  opt "os" (.record [req "name" .text]), opt "overhead" quantities,
  opt "preemptionPolicy" .text, opt "priority" .int32, opt "priorityClassName" .text,
  opt "readinessGates" (.list (.record [req "conditionType" .text])),
  opt "resourceClaims" (.list (.record [
    req "name" .text,
    opt "source" (.record [
      opt "resourceClaimName" .text, opt "resourceClaimTemplateName" .text])])),
  opt "restartPolicy" .text, opt "runtimeClassName" .text, opt "schedulerName" .text,
  opt "schedulingGates" (.list (.record [req "name" .text])),
  opt "securityContext" podSecurityContext, opt "serviceAccount" .text,
  opt "serviceAccountName" .text, opt "setHostnameAsFQDN" .bool,
  opt "shareProcessNamespace" .bool, opt "subdomain" .text,
  opt "terminationGracePeriodSeconds" .int64, opt "tolerations" (.list toleration),
  opt "topologySpreadConstraints" (.list spreadConstraint), opt "volumes" (.list volume)]

def podTemplate : Schema := .record [opt "metadata" objectMeta, opt "spec" podSpec]

def containerState : Schema := .record [
  opt "running" (.record [opt "startedAt" .time]),
  opt "terminated" (.record [
    opt "containerID" .text, req "exitCode" .int32, opt "finishedAt" .time, opt "message" .text,
    opt "reason" .text, opt "signal" .int32, opt "startedAt" .time]),
  opt "waiting" (.record [opt "message" .text, opt "reason" .text])]

def containerStatus : Schema := .record [
  opt "containerID" .text, req "image" .text, req "imageID" .text, opt "lastState" containerState,
  req "name" .text, req "ready" .bool, req "restartCount" .int32, opt "started" .bool,
  opt "state" containerState]

def podStatus : Schema := .record [
  opt "conditions" (.list (condition ["lastProbeTime", "lastTransitionTime"])),
  opt "containerStatuses" (.list containerStatus),
  opt "ephemeralContainerStatuses" (.list containerStatus), opt "hostIP" .text,
  opt "initContainerStatuses" (.list containerStatus), opt "message" .text,
  opt "nominatedNodeName" .text, opt "phase" .text, opt "podIP" .text,
  opt "podIPs" (.list (.record [opt "ip" .text])), opt "qosClass" .text, opt "reason" .text,
  opt "startTime" .time]

end TenantOverlay.Schema
