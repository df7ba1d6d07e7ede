import SessionOperator.Kubernetes.Volumes

/-!
# Containers

Schemas of containers, of what they may do and how they are probed, and of the state in which they are seen.
-/

namespace SessionOperator

namespace Kubernetes

open Schema (opt req quantity texts textDict)

def configMapKeySelector : Schema := .record "ConfigMapKeySelector" [
  ("key", req .text), ("name", req .text), ("optional", opt .flag)]

def secretKeySelector : Schema := .record "SecretKeySelector" [
  ("key", req .text), ("name", req .text), ("optional", opt .flag)]

def envVarSource : Schema := .record "EnvVarSource" [
  ("configMapKeyRef", opt configMapKeySelector), ("fieldRef", opt objectFieldSelector),
  ("resourceFieldRef", opt resourceFieldSelector), ("secretKeyRef", opt secretKeySelector)]

def envVar : Schema := .record "EnvVar" [("name", req .text), ("value", opt .text), ("valueFrom", opt envVarSource)]

def configMapEnvSource : Schema := .record "ConfigMapEnvSource" [("name", req .text), ("optional", opt .flag)]

def secretEnvSource : Schema := .record "SecretEnvSource" [("name", req .text), ("optional", opt .flag)]

def envFromSource : Schema := .record "EnvFromSource" [
  ("configMapRef", opt configMapEnvSource), ("prefix", opt .text), ("secretRef", opt secretEnvSource)]

def execAction : Schema := .record "ExecAction" [("command", opt texts)]

def httpHeader : Schema := .record "HTTPHeader" [("name", req .text), ("value", req .text)]

def httpGetAction : Schema := .record "HTTPGetAction" [
  ("host", opt .text), ("httpHeaders", opt (.list httpHeader)), ("path", opt .text), ("port", req .intOrText),
  ("scheme", opt .text)]

def sleepAction : Schema := .record "SleepAction" [("seconds", req .int64)]

def tcpSocketAction : Schema := .record "TCPSocketAction" [("host", opt .text), ("port", req .intOrText)]

def lifecycleHandler : Schema := .record "LifecycleHandler" [
  ("exec", opt execAction), ("httpGet", opt httpGetAction), ("sleep", opt sleepAction),
  ("tcpSocket", opt tcpSocketAction)]

def lifecycle : Schema := .record "Lifecycle" [
  ("postStart", opt lifecycleHandler), ("preStop", opt lifecycleHandler)]

def grpcAction : Schema := .record "GRPCAction" [("port", req .int32), ("service", opt .text)]

def probe : Schema := .record "Probe" [
  ("exec", opt execAction), ("failureThreshold", opt .int32), ("grpc", opt grpcAction),
  ("httpGet", opt httpGetAction), ("initialDelaySeconds", opt .int32), ("periodSeconds", opt .int32),
  ("successThreshold", opt .int32), ("tcpSocket", opt tcpSocketAction),
  ("terminationGracePeriodSeconds", opt .int64), ("timeoutSeconds", opt .int32)]

def containerPort : Schema := .record "ContainerPort" [
  ("containerPort", req .int32), ("hostIP", opt .text), ("hostPort", opt .int32), ("name", opt .text),
  ("protocol", opt .text)]

def containerResizePolicy : Schema := .record "ContainerResizePolicy" [
  ("resourceName", req .text), ("restartPolicy", req .text)]

def resourceClaim : Schema := .record "ResourceClaim" [("name", req .text), ("request", opt .text)]

def resourceRequirements : Schema := .record "ResourceRequirements" [
  ("claims", opt (.list resourceClaim)), ("limits", opt (.dict quantity)), ("requests", opt (.dict quantity))]

def appArmorProfile : Schema := .record "AppArmorProfile" [("localhostProfile", opt .text), ("type", req .text)]

def capabilities : Schema := .record "Capabilities" [("add", opt texts), ("drop", opt texts)]

def seLinuxOptions : Schema := .record "SELinuxOptions" [
  ("level", opt .text), ("role", opt .text), ("type", opt .text), ("user", opt .text)]

def seccompProfile : Schema := .record "SeccompProfile" [("localhostProfile", opt .text), ("type", req .text)]

def windowsSecurityContextOptions : Schema := .record "WindowsSecurityContextOptions" [
  ("gmsaCredentialSpec", opt .text), ("gmsaCredentialSpecName", opt .text), ("hostProcess", opt .flag),
  ("runAsUserName", opt .text)]

def securityContext : Schema := .record "SecurityContext" [
  ("allowPrivilegeEscalation", opt .flag), ("appArmorProfile", opt appArmorProfile),
  ("capabilities", opt capabilities), ("privileged", opt .flag), ("procMount", opt .text),
  ("readOnlyRootFilesystem", opt .flag), ("runAsGroup", opt .int64), ("runAsNonRoot", opt .flag),
  ("runAsUser", opt .int64), ("seLinuxOptions", opt seLinuxOptions), ("seccompProfile", opt seccompProfile),
  ("windowsOptions", opt windowsSecurityContextOptions)]

def container : Schema := .record "Container" [
  ("args", opt texts), ("command", opt texts), ("env", opt (.list envVar)),
  ("envFrom", opt (.list envFromSource)), ("image", opt .text), ("imagePullPolicy", opt .text),
  ("lifecycle", opt lifecycle), ("livenessProbe", opt probe), ("name", req .text),
  ("ports", opt (.list containerPort)), ("readinessProbe", opt probe),
  ("resizePolicy", opt (.list containerResizePolicy)), ("resources", opt resourceRequirements),
  ("restartPolicy", opt .text), ("securityContext", opt securityContext), ("startupProbe", opt probe),
  ("stdin", opt .flag), ("stdinOnce", opt .flag), ("terminationMessagePath", opt .text),
  ("terminationMessagePolicy", opt .text), ("tty", opt .flag), ("volumeDevices", opt (.list volumeDevice)),
  ("volumeMounts", opt (.list volumeMount)), ("workingDir", opt .text)]

def ephemeralContainer : Schema := .record "EphemeralContainer" [
  ("args", opt texts), ("command", opt texts), ("env", opt (.list envVar)),
  ("envFrom", opt (.list envFromSource)), ("image", opt .text), ("imagePullPolicy", opt .text),
  ("lifecycle", opt lifecycle), ("livenessProbe", opt probe), ("name", req .text),
  ("ports", opt (.list containerPort)), ("readinessProbe", opt probe),
  ("resizePolicy", opt (.list containerResizePolicy)), ("resources", opt resourceRequirements),
  ("restartPolicy", opt .text), ("securityContext", opt securityContext), ("startupProbe", opt probe),
  ("stdin", opt .flag), ("stdinOnce", opt .flag), ("targetContainerName", opt .text),
  ("terminationMessagePath", opt .text), ("terminationMessagePolicy", opt .text), ("tty", opt .flag),
  ("volumeDevices", opt (.list volumeDevice)), ("volumeMounts", opt (.list volumeMount)),
  ("workingDir", opt .text)]

def resourceHealth : Schema := .record "ResourceHealth" [("health", opt .text), ("resourceID", req .text)]

def resourceStatus : Schema := .record "ResourceStatus" [
  ("name", req .text), ("resources", opt (.list resourceHealth))]

def containerStateRunning : Schema := .record "ContainerStateRunning" [("startedAt", opt .time)]

def containerStateTerminated : Schema := .record "ContainerStateTerminated" [
  ("containerID", opt .text), ("exitCode", req .int32), ("finishedAt", opt .time), ("message", opt .text),
  ("reason", opt .text), ("signal", opt .int32), ("startedAt", opt .time)]

def containerStateWaiting : Schema := .record "ContainerStateWaiting" [
  ("message", opt .text), ("reason", opt .text)]

def containerState : Schema := .record "ContainerState" [
  ("running", opt containerStateRunning), ("terminated", opt containerStateTerminated),
  ("waiting", opt containerStateWaiting)]

def linuxContainerUser : Schema := .record "LinuxContainerUser" [
  ("gid", req .int64), ("supplementalGroups", opt (.list .int64)), ("uid", req .int64)]

def containerUser : Schema := .record "ContainerUser" [("linux", opt linuxContainerUser)]

def volumeMountStatus : Schema := .record "VolumeMountStatus" [
  ("mountPath", req .text), ("name", req .text), ("readOnly", opt .flag), ("recursiveReadOnly", opt .text)]

def containerStatus : Schema := .record "ContainerStatus" [
  ("allocatedResources", opt (.dict quantity)), ("allocatedResourcesStatus", opt (.list resourceStatus)),
  ("containerID", opt .text), ("image", req .text), ("imageID", req .text), ("lastState", opt containerState),
  ("name", req .text), ("ready", req .flag), ("resources", opt resourceRequirements),
  ("restartCount", req .int32), ("started", opt .flag), ("state", opt containerState),
  ("user", opt containerUser), ("volumeMounts", opt (.list volumeMountStatus))]

end Kubernetes

end SessionOperator
