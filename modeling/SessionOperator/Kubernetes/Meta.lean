import SessionOperator.Kubernetes.Schema

/-!
# Metadata and references

Schemas of what objects of every kind carry, and of the ways in which one object names another.
-/

namespace SessionOperator

namespace Kubernetes

open Schema (opt req quantity texts textDict)

def managedFieldsEntry : Schema := .record "ManagedFieldsEntry" [
  ("apiVersion", opt .text), ("fieldsType", opt .text), ("fieldsV1", opt .any), ("manager", opt .text),
  ("operation", opt .text), ("subresource", opt .text), ("time", opt .time)]

def ownerReference : Schema := .record "OwnerReference" [
  ("apiVersion", req .text), ("blockOwnerDeletion", opt .flag), ("controller", opt .flag), ("kind", req .text),
  ("name", req .text), ("uid", req .text)]

def objectMeta : Schema := .record "ObjectMeta" [
  ("annotations", opt textDict), ("creationTimestamp", opt .time), ("deletionGracePeriodSeconds", opt .int64),
  ("deletionTimestamp", opt .time), ("finalizers", opt texts), ("generateName", opt .text),
  ("generation", opt .int64), ("labels", opt textDict), ("managedFields", opt (.list managedFieldsEntry)),
  ("name", opt .text), ("namespace", opt .text), ("ownerReferences", opt (.list ownerReference)),
  ("resourceVersion", opt .text), ("selfLink", opt .text), ("uid", opt .text)]

def listMeta : Schema := .record "ListMeta" [
  ("continue", opt .text), ("remainingItemCount", opt .int64), ("resourceVersion", opt .text), ("selfLink", opt .text)]

def labelSelectorRequirement : Schema := .record "LabelSelectorRequirement" [
  ("key", req .text), ("operator", req .text), ("values", opt texts)]

def labelSelector : Schema := .record "LabelSelector" [
  ("matchExpressions", opt (.list labelSelectorRequirement)), ("matchLabels", opt textDict)]

def localObjectReference : Schema := .record "LocalObjectReference" [("name", req .text)]

def typedLocalObjectReference : Schema := .record "TypedLocalObjectReference" [
  ("apiGroup", opt .text), ("kind", req .text), ("name", req .text)]

def typedObjectReference : Schema := .record "TypedObjectReference" [
  ("apiGroup", opt .text), ("kind", req .text), ("name", req .text), ("namespace", opt .text)]

def condition : Schema := .record "Condition" [
  ("lastTransitionTime", req .time), ("message", req .text), ("observedGeneration", opt .int64),
  ("reason", req .text), ("status", req .text), ("type", req .text)]

def objectReference : Schema := .record "ObjectReference" [
  ("apiVersion", opt .text), ("fieldPath", opt .text), ("kind", opt .text), ("name", opt .text),
  ("namespace", opt .text), ("resourceVersion", opt .text), ("uid", opt .text)]

end Kubernetes

end SessionOperator
