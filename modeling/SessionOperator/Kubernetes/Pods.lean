import SessionOperator.Kubernetes.Containers

/-!
# Pods

Schemas of pods, of where they may run, and of the events that are reported about them.
-/

namespace SessionOperator

namespace Kubernetes

open Schema (opt req quantity texts textDict)

def nodeSelectorRequirement : Schema := .record "NodeSelectorRequirement" [
  ("key", req .text), ("operator", req .text), ("values", opt texts)]

def nodeSelectorTerm : Schema := .record "NodeSelectorTerm" [
  ("matchExpressions", opt (.list nodeSelectorRequirement)),
  ("matchFields", opt (.list nodeSelectorRequirement))]

def preferredSchedulingTerm : Schema := .record "PreferredSchedulingTerm" [
  ("preference", req nodeSelectorTerm), ("weight", req .int32)]

def nodeSelector : Schema := .record "NodeSelector" [("nodeSelectorTerms", req (.list nodeSelectorTerm))]

def nodeAffinity : Schema := .record "NodeAffinity" [
  ("preferredDuringSchedulingIgnoredDuringExecution", opt (.list preferredSchedulingTerm)),
  ("requiredDuringSchedulingIgnoredDuringExecution", opt nodeSelector)]

def podAffinityTerm : Schema := .record "PodAffinityTerm" [
  ("labelSelector", opt labelSelector), ("matchLabelKeys", opt texts), ("mismatchLabelKeys", opt texts),
  ("namespaceSelector", opt labelSelector), ("namespaces", opt texts), ("topologyKey", req .text)]

def weightedPodAffinityTerm : Schema := .record "WeightedPodAffinityTerm" [
  ("podAffinityTerm", req podAffinityTerm), ("weight", req .int32)]

def podAffinity : Schema := .record "PodAffinity" [
  ("preferredDuringSchedulingIgnoredDuringExecution", opt (.list weightedPodAffinityTerm)),
  ("requiredDuringSchedulingIgnoredDuringExecution", opt (.list podAffinityTerm))]

def podAntiAffinity : Schema := .record "PodAntiAffinity" [
  ("preferredDuringSchedulingIgnoredDuringExecution", opt (.list weightedPodAffinityTerm)),
  ("requiredDuringSchedulingIgnoredDuringExecution", opt (.list podAffinityTerm))]

def affinity : Schema := .record "Affinity" [
  ("nodeAffinity", opt nodeAffinity), ("podAffinity", opt podAffinity), ("podAntiAffinity", opt podAntiAffinity)]

def podDNSConfigOption : Schema := .record "PodDNSConfigOption" [("name", opt .text), ("value", opt .text)]

def podDNSConfig : Schema := .record "PodDNSConfig" [
  ("nameservers", opt texts), ("options", opt (.list podDNSConfigOption)), ("searches", opt texts)]

def hostAlias : Schema := .record "HostAlias" [("hostnames", opt texts), ("ip", req .text)]

def podOS : Schema := .record "PodOS" [("name", req .text)]

def podReadinessGate : Schema := .record "PodReadinessGate" [("conditionType", req .text)]

def podResourceClaim : Schema := .record "PodResourceClaim" [
  ("name", req .text), ("resourceClaimName", opt .text), ("resourceClaimTemplateName", opt .text)]

def podSchedulingGate : Schema := .record "PodSchedulingGate" [("name", req .text)]

def sysctl : Schema := .record "Sysctl" [("name", req .text), ("value", req .text)]

def podSecurityContext : Schema := .record "PodSecurityContext" [
  ("appArmorProfile", opt appArmorProfile), ("fsGroup", opt .int64), ("fsGroupChangePolicy", opt .text),
  ("runAsGroup", opt .int64), ("runAsNonRoot", opt .flag), ("runAsUser", opt .int64),
  ("seLinuxOptions", opt seLinuxOptions), ("seccompProfile", opt seccompProfile),
  ("supplementalGroups", opt (.list .int64)), ("supplementalGroupsPolicy", opt .text),
  ("sysctls", opt (.list sysctl)), ("windowsOptions", opt windowsSecurityContextOptions)]

def toleration : Schema := .record "Toleration" [
  ("effect", opt .text), ("key", opt .text), ("operator", opt .text), ("tolerationSeconds", opt .int64),
  ("value", opt .text)]

def topologySpreadConstraint : Schema := .record "TopologySpreadConstraint" [
  ("labelSelector", opt labelSelector), ("matchLabelKeys", opt texts), ("maxSkew", req .int32),
  ("minDomains", opt .int32), ("nodeAffinityPolicy", opt .text), ("nodeTaintsPolicy", opt .text),
  ("topologyKey", req .text), ("whenUnsatisfiable", req .text)]

def podSpec : Schema := .record "PodSpec" [
  ("activeDeadlineSeconds", opt .int64), ("affinity", opt affinity), ("automountServiceAccountToken", opt .flag),
  ("containers", req (.list container)), ("dnsConfig", opt podDNSConfig), ("dnsPolicy", opt .text),
  ("enableServiceLinks", opt .flag), ("ephemeralContainers", opt (.list ephemeralContainer)),
  ("hostAliases", opt (.list hostAlias)), ("hostIPC", opt .flag), ("hostNetwork", opt .flag),
  ("hostPID", opt .flag), ("hostUsers", opt .flag), ("hostname", opt .text),
  ("imagePullSecrets", opt (.list localObjectReference)), ("initContainers", opt (.list container)),
  ("nodeName", opt .text), ("nodeSelector", opt textDict), ("os", opt podOS), ("overhead", opt (.dict quantity)),
  ("preemptionPolicy", opt .text), ("priority", opt .int32), ("priorityClassName", opt .text),
  ("readinessGates", opt (.list podReadinessGate)), ("resourceClaims", opt (.list podResourceClaim)),
  ("restartPolicy", opt .text), ("runtimeClassName", opt .text), ("schedulerName", opt .text),
  ("schedulingGates", opt (.list podSchedulingGate)), ("securityContext", opt podSecurityContext),
  ("serviceAccount", opt .text), ("serviceAccountName", opt .text), ("setHostnameAsFQDN", opt .flag),
  ("shareProcessNamespace", opt .flag), ("subdomain", opt .text), ("terminationGracePeriodSeconds", opt .int64),
  ("tolerations", opt (.list toleration)), ("topologySpreadConstraints", opt (.list topologySpreadConstraint)),
  ("volumes", opt (.list volume))]

def podTemplateSpec : Schema := .record "PodTemplateSpec" [("metadata", opt objectMeta), ("spec", opt podSpec)]

def podCondition : Schema := .record "PodCondition" [
  ("lastProbeTime", opt .time), ("lastTransitionTime", opt .time), ("message", opt .text), ("reason", opt .text),
  ("status", req .text), ("type", req .text)]

def hostIP : Schema := .record "HostIP" [("ip", req .text)]

def podIP : Schema := .record "PodIP" [("ip", req .text)]

def podResourceClaimStatus : Schema := .record "PodResourceClaimStatus" [
  ("name", req .text), ("resourceClaimName", opt .text)]

def podStatus : Schema := .record "PodStatus" [
  ("conditions", opt (.list podCondition)), ("containerStatuses", opt (.list containerStatus)),
  ("ephemeralContainerStatuses", opt (.list containerStatus)), ("hostIP", opt .text),
  ("hostIPs", opt (.list hostIP)), ("initContainerStatuses", opt (.list containerStatus)),
  ("message", opt .text), ("nominatedNodeName", opt .text), ("phase", opt .text), ("podIP", opt .text),
  ("podIPs", opt (.list podIP)), ("qosClass", opt .text), ("reason", opt .text), ("resize", opt .text),
  ("resourceClaimStatuses", opt (.list podResourceClaimStatus)), ("startTime", opt .time)]

def pod : Schema := .record "Pod" [
  ("apiVersion", req (.constant "v1")), ("kind", req (.constant "Pod")), ("metadata", req objectMeta),
  ("spec", opt podSpec), ("status", opt podStatus)]

def eventSeries : Schema := .record "EventSeries" [("count", opt .int32), ("lastObservedTime", opt .microTime)]

def eventSource : Schema := .record "EventSource" [("component", opt .text), ("host", opt .text)]

def event : Schema := .record "Event" [
  ("action", opt .text), ("apiVersion", req (.constant "v1")), ("count", opt .int32),
  ("eventTime", opt .microTime), ("firstTimestamp", opt .time), ("involvedObject", req objectReference),
  ("kind", req (.constant "Event")), ("lastTimestamp", opt .time), ("message", opt .text),
  ("metadata", req objectMeta), ("reason", opt .text), ("related", opt objectReference),
  ("reportingComponent", opt .text), ("reportingInstance", opt .text), ("series", opt eventSeries),
  ("source", opt eventSource), ("type", opt .text)]

end Kubernetes

end SessionOperator
