import SessionOperator.Kubernetes.Pods

/-!
# Workloads and routes

Schemas of the objects that keep a pod running and lead requests to it, and of secrets.
-/

namespace SessionOperator

namespace Kubernetes

open Schema (opt req quantity texts textDict)

def statefulSetOrdinals : Schema := .record "StatefulSetOrdinals" [("start", opt .int32)]

def statefulSetPersistentVolumeClaimRetentionPolicy : Schema := .record "StatefulSetPersistentVolumeClaimRetentionPolicy" [
  ("whenDeleted", opt .text), ("whenScaled", opt .text)]

def rollingUpdateStatefulSetStrategy : Schema := .record "RollingUpdateStatefulSetStrategy" [
  ("maxUnavailable", opt .intOrText), ("partition", opt .int32)]

def statefulSetUpdateStrategy : Schema := .record "StatefulSetUpdateStrategy" [
  ("rollingUpdate", opt rollingUpdateStatefulSetStrategy), ("type", opt .text)]

def statefulSetSpec : Schema := .record "StatefulSetSpec" [
  ("minReadySeconds", opt .int32), ("ordinals", opt statefulSetOrdinals),
  ("persistentVolumeClaimRetentionPolicy", opt statefulSetPersistentVolumeClaimRetentionPolicy),
  ("podManagementPolicy", opt .text), ("replicas", opt .int32), ("revisionHistoryLimit", opt .int32),
  ("selector", req labelSelector), ("serviceName", req .text), ("template", req podTemplateSpec),
  ("updateStrategy", opt statefulSetUpdateStrategy), ("volumeClaimTemplates", opt (.list persistentVolumeClaim))]

def statefulSetCondition : Schema := .record "StatefulSetCondition" [
  ("lastTransitionTime", opt .time), ("message", opt .text), ("reason", opt .text), ("status", req .text),
  ("type", req .text)]

def statefulSetStatus : Schema := .record "StatefulSetStatus" [
  ("availableReplicas", opt .int32), ("collisionCount", opt .int32),
  ("conditions", opt (.list statefulSetCondition)), ("currentReplicas", opt .int32),
  ("currentRevision", opt .text), ("observedGeneration", opt .int64), ("readyReplicas", opt .int32),
  ("replicas", req .int32), ("updateRevision", opt .text), ("updatedReplicas", opt .int32)]

def statefulSet : Schema := .record "StatefulSet" [
  ("apiVersion", req (.constant "apps/v1")), ("kind", req (.constant "StatefulSet")),
  ("metadata", req objectMeta), ("spec", opt statefulSetSpec), ("status", opt statefulSetStatus)]

def servicePort : Schema := .record "ServicePort" [
  ("appProtocol", opt .text), ("name", opt .text), ("nodePort", opt .int32), ("port", req .int32),
  ("protocol", opt .text), ("targetPort", opt .intOrText)]

def clientIPConfig : Schema := .record "ClientIPConfig" [("timeoutSeconds", opt .int32)]

def sessionAffinityConfig : Schema := .record "SessionAffinityConfig" [("clientIP", opt clientIPConfig)]

def serviceSpec : Schema := .record "ServiceSpec" [
  ("allocateLoadBalancerNodePorts", opt .flag), ("clusterIP", opt .text), ("clusterIPs", opt texts),
  ("externalIPs", opt texts), ("externalName", opt .text), ("externalTrafficPolicy", opt .text),
  ("healthCheckNodePort", opt .int32), ("internalTrafficPolicy", opt .text), ("ipFamilies", opt texts),
  ("ipFamilyPolicy", opt .text), ("loadBalancerClass", opt .text), ("loadBalancerIP", opt .text),
  ("loadBalancerSourceRanges", opt texts), ("ports", opt (.list servicePort)),
  ("publishNotReadyAddresses", opt .flag), ("selector", opt textDict), ("sessionAffinity", opt .text),
  ("sessionAffinityConfig", opt sessionAffinityConfig), ("trafficDistribution", opt .text), ("type", opt .text)]

def portStatus : Schema := .record "PortStatus" [
  ("error", opt .text), ("port", req .int32), ("protocol", req .text)]

def loadBalancerIngress : Schema := .record "LoadBalancerIngress" [
  ("hostname", opt .text), ("ip", opt .text), ("ipMode", opt .text), ("ports", opt (.list portStatus))]

def loadBalancerStatus : Schema := .record "LoadBalancerStatus" [("ingress", opt (.list loadBalancerIngress))]

def serviceStatus : Schema := .record "ServiceStatus" [
  ("conditions", opt (.list condition)), ("loadBalancer", opt loadBalancerStatus)]

def service : Schema := .record "Service" [
  ("apiVersion", req (.constant "v1")), ("kind", req (.constant "Service")), ("metadata", req objectMeta),
  ("spec", opt serviceSpec), ("status", opt serviceStatus)]

def serviceBackendPort : Schema := .record "ServiceBackendPort" [("name", opt .text), ("number", opt .int32)]

def ingressServiceBackend : Schema := .record "IngressServiceBackend" [
  ("name", req .text), ("port", opt serviceBackendPort)]

def ingressBackend : Schema := .record "IngressBackend" [
  ("resource", opt typedLocalObjectReference), ("service", opt ingressServiceBackend)]

def httpIngressPath : Schema := .record "HTTPIngressPath" [
  ("backend", req ingressBackend), ("path", opt .text), ("pathType", req .text)]

def httpIngressRuleValue : Schema := .record "HTTPIngressRuleValue" [("paths", req (.list httpIngressPath))]

def ingressRule : Schema := .record "IngressRule" [("host", opt .text), ("http", opt httpIngressRuleValue)]

def ingressTLS : Schema := .record "IngressTLS" [("hosts", opt texts), ("secretName", opt .text)]

def ingressSpec : Schema := .record "IngressSpec" [
  ("defaultBackend", opt ingressBackend), ("ingressClassName", opt .text), ("rules", opt (.list ingressRule)),
  ("tls", opt (.list ingressTLS))]

def ingressPortStatus : Schema := .record "IngressPortStatus" [
  ("error", opt .text), ("port", req .int32), ("protocol", req .text)]

def ingressLoadBalancerIngress : Schema := .record "IngressLoadBalancerIngress" [
  ("hostname", opt .text), ("ip", opt .text), ("ports", opt (.list ingressPortStatus))]

def ingressLoadBalancerStatus : Schema := .record "IngressLoadBalancerStatus" [
  ("ingress", opt (.list ingressLoadBalancerIngress))]

def ingressStatus : Schema := .record "IngressStatus" [("loadBalancer", opt ingressLoadBalancerStatus)]

def ingress : Schema := .record "Ingress" [
  ("apiVersion", req (.constant "networking.k8s.io/v1")), ("kind", req (.constant "Ingress")),
  ("metadata", req objectMeta), ("spec", opt ingressSpec), ("status", opt ingressStatus)]

def secret : Schema := .record "Secret" [
  ("apiVersion", req (.constant "v1")), ("data", opt (.dict .base64)), ("immutable", opt .flag),
  ("kind", req (.constant "Secret")), ("metadata", req objectMeta), ("stringData", opt textDict),
  ("type", opt .text)]

end Kubernetes

end SessionOperator
