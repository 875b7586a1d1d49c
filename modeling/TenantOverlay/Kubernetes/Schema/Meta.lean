import TenantOverlay.Kubernetes.Schema

/-!
# Schemas shared by all kinds

Metadata, label selectors and references between objects, version 1.26.
-/

namespace TenantOverlay.Schema

def texts : Schema := .list .text
def textMap : Schema := .map .text

/-- Amounts of resources, written as texts. -/
def quantities : Schema := .map .text

def managedFields : Schema := .record [
  opt "apiVersion" .text, opt "fieldsType" .text, opt "fieldsV1" .any, opt "manager" .text,
  opt "operation" .text, opt "subresource" .text, opt "time" .time]

def ownerReference : Schema := .record [
  req "apiVersion" .text, opt "blockOwnerDeletion" .bool, opt "controller" .bool, req "kind" .text,
  req "name" .text, req "uid" .text]

def objectMeta : Schema := .record [
  opt "annotations" textMap, opt "creationTimestamp" .time,
  opt "deletionGracePeriodSeconds" .int64, opt "deletionTimestamp" .time, opt "finalizers" texts,
  opt "generateName" .text, opt "generation" .int64, opt "labels" textMap,
  opt "managedFields" (.list managedFields), opt "name" .text, opt "namespace" .text,
  opt "ownerReferences" (.list ownerReference), opt "resourceVersion" .text, opt "selfLink" .text,
  opt "uid" .text]

/-- One condition of a selector. -/
def requirement : Schema := .record [req "key" .text, req "operator" .text, opt "values" texts]

def labelSelector : Schema := .record [
  opt "matchExpressions" (.list requirement), opt "matchLabels" textMap]

/-- The name of another object in the same namespace. -/
def localReference : Schema := .record [opt "name" .text]

def objectReference : Schema := .record [
  opt "apiVersion" .text, opt "fieldPath" .text, opt "kind" .text, opt "name" .text,
  opt "namespace" .text, opt "resourceVersion" .text, opt "uid" .text]

/-- A condition that an object's status reports, with the moments `moments` besides. -/
def condition (moments : List String) : Schema := .record (
  moments.map (fun m => opt m .time) ++
    [opt "message" .text, opt "reason" .text, req "status" .text, req "type" .text])

end TenantOverlay.Schema
