import SessionOperator.Form
import SessionOperator.Kubernetes.Workloads
import SessionOperator.Session.Basic

/-!
# Documents of sessions

Reading and writing sessions and their statuses.  A field of a record with a default may be left out; an optional one
may also be `null`, and is written as `null` when it has no value, so that a merge patch with a status clears it.

* `Session.form`, `Session.decode`, `Session.encode`;
* `SessionStatus.form`, `SessionStatus.decode`, `SessionStatus.encode`.
-/

namespace SessionOperator

def encodeTexts (texts : List String) : Json := .arr (texts.map .str)

def encodeText? (text : Option String) : Json := Json.orNull (text.map .str)

def encodeAll (s : Schema) (values : List Json) : Json := .arr (values.map s.encode)

namespace SecretRef

def form : Form := .record "struct SessionSecretRef" [
  ("name", .required, .text), ("key", .optional, .text), ("adopt", .defaulted, .flag)]

def decode : Decoder SecretRef := fun j => do
  let r ← Record.ofForm form j
  let name ← r.required "name" Decoder.text
  let key ← r.optional "key" Decoder.text
  let adopt ← r.withDefault "adopt" false Decoder.flag
  .ok { name, key, adopt }

def encode (s : SecretRef) : Json :=
  .object [("name", .str s.name), ("key", encodeText? s.key), ("adopt", .bool s.adopt)]

end SecretRef

namespace ReadinessCheck

def variants : List (String × ReadinessCheck) := [("none", .none), ("tcp", .tcp), ("http", .http)]

def form : Form := .record "struct ReadinessProbe" [("type", .defaulted, .choiceOf variants)]

def decode : Decoder ReadinessCheck := fun j => do
  let r ← Record.ofForm form j
  r.withDefault "type" .tcp (Decoder.choice variants)

def name : ReadinessCheck → String
  | .none => "none"
  | .tcp => "tcp"
  | .http => "http"

def encode (c : ReadinessCheck) : Json := .object [("type", .str c.name)]

end ReadinessCheck

namespace Storage

def form : Form := .record "struct SessionStorage" [
  ("className", .optional, .text), ("size", .optional, .text), ("mountPath", .defaulted, .text)]

def decode : Decoder Storage := fun j => do
  let r ← Record.ofForm form j
  let className ← r.optional "className" Decoder.text
  let size ← r.optional "size" Decoder.text
  let mountPath ← r.withDefault "mountPath" Storage.default.mountPath Decoder.text
  .ok { className, size, mountPath }

def encode (s : Storage) : Json :=
  .object [("className", encodeText? s.className), ("size", encodeText? s.size), ("mountPath", .str s.mountPath)]

end Storage

namespace SessionContainer

def form : Form := .record "struct SessionContainer" [
  ("image", .required, .text), ("command", .defaulted, .texts), ("args", .defaulted, .texts),
  ("env", .defaulted, .parts Kubernetes.envVar), ("resources", .optional, .part Kubernetes.resourceRequirements),
  ("port", .defaulted, .part .int32), ("storage", .defaulted, Storage.form), ("shmSize", .optional, .text),
  ("workingDir", .optional, .text), ("runAsUser", .defaulted, .part .int64),
  ("runAsGroup", .defaulted, .part .int64), ("urlPath", .defaulted, .text),
  ("extraVolumeMounts", .defaulted, .parts Kubernetes.volumeMount),
  ("readinessProbe", .defaulted, ReadinessCheck.form), ("imagePullPolicy", .optional, .text)]

def decode : Decoder SessionContainer := fun j => do
  let r ← Record.ofForm form j
  let image ← r.required "image" Decoder.text
  let command ← r.withDefault "command" [] (Decoder.list Decoder.text)
  let args ← r.withDefault "args" [] (Decoder.list Decoder.text)
  let env ← r.withDefault "env" [] (Decoder.list Kubernetes.envVar.decode)
  let resources ← r.optional "resources" Kubernetes.resourceRequirements.decode
  let port ← r.withDefault "port" 8000 Decoder.int32
  let storage ← r.withDefault "storage" Storage.default Storage.decode
  let shmSize ← r.optional "shmSize" Decoder.text
  let workingDir ← r.optional "workingDir" Decoder.text
  let runAsUser ← r.withDefault "runAsUser" 1000 Decoder.int64
  let runAsGroup ← r.withDefault "runAsGroup" 1000 Decoder.int64
  let urlPath ← r.withDefault "urlPath" "/" Decoder.text
  let extraVolumeMounts ← r.withDefault "extraVolumeMounts" [] (Decoder.list Kubernetes.volumeMount.decode)
  let readiness ← r.withDefault "readinessProbe" .tcp ReadinessCheck.decode
  let imagePullPolicy ← r.optional "imagePullPolicy" Decoder.text
  .ok { image, command, args, env, resources, port, storage, shmSize, workingDir, runAsUser, runAsGroup, urlPath,
        extraVolumeMounts, readiness, imagePullPolicy }

def encode (c : SessionContainer) : Json :=
  .object [("image", .str c.image), ("command", encodeTexts c.command), ("args", encodeTexts c.args),
    ("env", encodeAll Kubernetes.envVar c.env),
    ("resources", Json.orNull (c.resources.map Kubernetes.resourceRequirements.encode)), ("port", .int c.port),
    ("storage", c.storage.encode), ("shmSize", encodeText? c.shmSize), ("workingDir", encodeText? c.workingDir),
    ("runAsUser", .int c.runAsUser), ("runAsGroup", .int c.runAsGroup), ("urlPath", .str c.urlPath),
    ("extraVolumeMounts", encodeAll Kubernetes.volumeMount c.extraVolumeMounts),
    ("readinessProbe", c.readiness.encode), ("imagePullPolicy", encodeText? c.imagePullPolicy)]

end SessionContainer

namespace DataSource

def variants : List (String × DataSourceType) := [("rclone", .rclone)]

def form : Form := .record "struct DataSource" [
  ("type", .defaulted, .choiceOf variants), ("secretRef", .required, SecretRef.form),
  ("mountPath", .required, .text), ("accessMode", .defaulted, .text)]

def decode : Decoder DataSource := fun j => do
  let r ← Record.ofForm form j
  let type ← r.withDefault "type" .rclone (Decoder.choice variants)
  let secretRef ← r.required "secretRef" SecretRef.decode
  let mountPath ← r.required "mountPath" Decoder.text
  let accessMode ← r.withDefault "accessMode" "ReadOnlyMany" Decoder.text
  .ok { type, secretRef, mountPath, accessMode }

def encode (d : DataSource) : Json :=
  .object [("type", .str "rclone"), ("secretRef", d.secretRef.encode), ("mountPath", .str d.mountPath),
    ("accessMode", .str d.accessMode)]

end DataSource

namespace Authentication

def variants : List (String × AuthenticationType) := [("token", .token), ("oauth2proxy", .oauth2proxy)]

def form : Form := .record "struct Authentication" [
  ("enabled", .defaulted, .flag), ("type", .defaulted, .choiceOf variants), ("secretRef", .required, SecretRef.form),
  ("extraVolumeMounts", .defaulted, .parts Kubernetes.volumeMount)]

def decode : Decoder Authentication := fun j => do
  let r ← Record.ofForm form j
  let enabled ← r.withDefault "enabled" false Decoder.flag
  let type ← r.withDefault "type" .token (Decoder.choice variants)
  let secretRef ← r.required "secretRef" SecretRef.decode
  let extraVolumeMounts ← r.withDefault "extraVolumeMounts" [] (Decoder.list Kubernetes.volumeMount.decode)
  .ok { enabled, type, secretRef, extraVolumeMounts }

def encode (a : Authentication) : Json :=
  .object [("enabled", .bool a.enabled), ("type", .str a.type.name), ("secretRef", a.secretRef.encode),
    ("extraVolumeMounts", encodeAll Kubernetes.volumeMount a.extraVolumeMounts)]

end Authentication

namespace CullingSpec

def form : Form := .record "struct Culling" [
  ("maxAge", .optional, .text), ("maxIdleDuration", .optional, .text), ("maxStartingDuration", .optional, .text),
  ("maxFailedDuration", .optional, .text), ("maxHibernatedDuration", .optional, .text),
  ("lastInteraction", .optional, .text)]

def decode : Decoder CullingSpec := fun j => do
  let r ← Record.ofForm form j
  let maxAge ← r.optional "maxAge" Decoder.text
  let maxIdleDuration ← r.optional "maxIdleDuration" Decoder.text
  let maxStartingDuration ← r.optional "maxStartingDuration" Decoder.text
  let maxFailedDuration ← r.optional "maxFailedDuration" Decoder.text
  let maxHibernatedDuration ← r.optional "maxHibernatedDuration" Decoder.text
  let lastInteraction ← r.optional "lastInteraction" Decoder.text
  .ok { maxAge, maxIdleDuration, maxStartingDuration, maxFailedDuration, maxHibernatedDuration, lastInteraction }

def encode (c : CullingSpec) : Json :=
  .object [("maxAge", encodeText? c.maxAge), ("maxIdleDuration", encodeText? c.maxIdleDuration),
    ("maxStartingDuration", encodeText? c.maxStartingDuration), ("maxFailedDuration", encodeText? c.maxFailedDuration),
    ("maxHibernatedDuration", encodeText? c.maxHibernatedDuration),
    ("lastInteraction", encodeText? c.lastInteraction)]

end CullingSpec

namespace SessionIngress

def form : Form := .record "struct SessionIngress" [
  ("host", .optional, .text), ("ingressClassName", .optional, .text), ("annotations", .defaulted, .textDict),
  ("tlsSecret", .optional, SecretRef.form)]

def decode : Decoder SessionIngress := fun j => do
  let r ← Record.ofForm form j
  let host ← r.optional "host" Decoder.text
  let ingressClassName ← r.optional "ingressClassName" Decoder.text
  let annotations ← r.withDefault "annotations" [] (Decoder.dict Decoder.text)
  let tlsSecret ← r.optional "tlsSecret" SecretRef.decode
  .ok { host, ingressClassName, annotations, tlsSecret }

def encode (i : SessionIngress) : Json :=
  .object [("host", encodeText? i.host), ("ingressClassName", encodeText? i.ingressClassName),
    ("annotations", .ofDict i.annotations), ("tlsSecret", Json.orNull (i.tlsSecret.map SecretRef.encode))]

end SessionIngress

namespace ReconcileStrategy

def variants : List (String × ReconcileStrategy) :=
  [("never", .never), ("always", .always), ("whenFailedOrHibernated", .whenFailedOrHibernated)]

def decode : Decoder ReconcileStrategy := Decoder.choice variants

def name : ReconcileStrategy → String
  | .never => "never"
  | .always => "always"
  | .whenFailedOrHibernated => "whenFailedOrHibernated"

end ReconcileStrategy

namespace SessionSpec

def form : Form := .record "struct InteractiveSessionSpec" [
  ("session", .required, SessionContainer.form), ("dataSources", .defaulted, .list DataSource.form),
  ("authentication", .optional, Authentication.form), ("culling", .defaulted, CullingSpec.form),
  ("hibernated", .defaulted, .flag), ("extraContainers", .defaulted, .parts Kubernetes.container),
  ("initContainers", .defaulted, .parts Kubernetes.container),
  ("extraVolumes", .defaulted, .parts Kubernetes.volume), ("ingress", .optional, SessionIngress.form),
  ("nodeSelector", .defaulted, .textDict), ("affinity", .optional, .part Kubernetes.affinity),
  ("tolerations", .defaulted, .parts Kubernetes.toleration), ("priorityClassName", .optional, .text),
  ("serviceAccountName", .optional, .text), ("imagePullSecrets", .defaulted, .list SecretRef.form),
  ("reconcileStrategy", .defaulted, .choiceOf ReconcileStrategy.variants)]

def decode : Decoder SessionSpec := fun j => do
  let r ← Record.ofForm form j
  let session ← r.required "session" SessionContainer.decode
  let dataSources ← r.withDefault "dataSources" [] (Decoder.list DataSource.decode)
  let authentication ← r.optional "authentication" Authentication.decode
  let culling ← r.withDefault "culling" CullingSpec.default CullingSpec.decode
  let hibernated ← r.withDefault "hibernated" false Decoder.flag
  let extraContainers ← r.withDefault "extraContainers" [] (Decoder.list Kubernetes.container.decode)
  let initContainers ← r.withDefault "initContainers" [] (Decoder.list Kubernetes.container.decode)
  let extraVolumes ← r.withDefault "extraVolumes" [] (Decoder.list Kubernetes.volume.decode)
  let ingress ← r.optional "ingress" SessionIngress.decode
  let nodeSelector ← r.withDefault "nodeSelector" [] (Decoder.dict Decoder.text)
  let affinity ← r.optional "affinity" Kubernetes.affinity.decode
  let tolerations ← r.withDefault "tolerations" [] (Decoder.list Kubernetes.toleration.decode)
  let priorityClassName ← r.optional "priorityClassName" Decoder.text
  let serviceAccountName ← r.optional "serviceAccountName" Decoder.text
  let imagePullSecrets ← r.withDefault "imagePullSecrets" [] (Decoder.list SecretRef.decode)
  let reconcileStrategy ← r.withDefault "reconcileStrategy" .always ReconcileStrategy.decode
  .ok { session, dataSources, authentication, culling, hibernated, extraContainers, initContainers, extraVolumes,
        ingress, nodeSelector, affinity, tolerations, priorityClassName, serviceAccountName, imagePullSecrets,
        reconcileStrategy }

def encode (s : SessionSpec) : Json :=
  .object [("session", s.session.encode), ("dataSources", .arr (s.dataSources.map DataSource.encode)),
    ("authentication", Json.orNull (s.authentication.map Authentication.encode)), ("culling", s.culling.encode),
    ("hibernated", .bool s.hibernated), ("extraContainers", encodeAll Kubernetes.container s.extraContainers),
    ("initContainers", encodeAll Kubernetes.container s.initContainers),
    ("extraVolumes", encodeAll Kubernetes.volume s.extraVolumes),
    ("ingress", Json.orNull (s.ingress.map SessionIngress.encode)), ("nodeSelector", .ofDict s.nodeSelector),
    ("affinity", Json.orNull (s.affinity.map Kubernetes.affinity.encode)),
    ("tolerations", encodeAll Kubernetes.toleration s.tolerations),
    ("priorityClassName", encodeText? s.priorityClassName), ("serviceAccountName", encodeText? s.serviceAccountName),
    ("imagePullSecrets", .arr (s.imagePullSecrets.map SecretRef.encode)),
    ("reconcileStrategy", .str s.reconcileStrategy.name)]

end SessionSpec

namespace SessionState

def variants : List (String × SessionState) :=
  [notReady, running, runningDegraded, failed, hibernated].map fun s => (s.name, s)

def decode : Decoder SessionState := Decoder.choice variants

end SessionState

namespace ContainerCounts

def form : Form := .record "struct ContainerCounts" [
  ("ready", .required, .part .int32), ("total", .required, .part .int32)]

def decode : Decoder ContainerCounts := fun j => do
  let r ← Record.ofForm form j
  let ready ← r.required "ready" Decoder.int32
  let total ← r.required "total" Decoder.int32
  .ok { ready, total }

def encode (c : ContainerCounts) : Json := .object [("ready", .int c.ready), ("total", .int c.total)]

end ContainerCounts

namespace Condition

def variants : List (String × ConditionType) := [("Ready", .ready), ("RoutingReady", .routingReady)]

def form : Form := .record "struct SessionCondition" [
  ("type", .required, .choiceOf variants), ("status", .required, .text), ("reason", .defaulted, .text),
  ("message", .defaulted, .text), ("lastTransitionTime", .optional, .text)]

def decode : Decoder Condition := fun j => do
  let r ← Record.ofForm form j
  let type ← r.required "type" (Decoder.choice variants)
  let status ← r.required "status" Decoder.text
  let reason ← r.withDefault "reason" "" Decoder.text
  let message ← r.withDefault "message" "" Decoder.text
  let lastTransitionTime ← r.optional "lastTransitionTime" Decoder.text
  .ok { type, status, reason, message, lastTransitionTime }

def encode (c : Condition) : Json :=
  .object [("type", .str c.type.name), ("status", .str c.status), ("reason", .str c.reason),
    ("message", .str c.message), ("lastTransitionTime", encodeText? c.lastTransitionTime)]

end Condition

namespace SessionStatus

def form : Form := .record "struct InteractiveSessionStatus" [
  ("conditions", .defaulted, .list Condition.form), ("state", .defaulted, .choiceOf SessionState.variants),
  ("url", .defaulted, .text), ("containerCounts", .defaulted, ContainerCounts.form),
  ("initContainerCounts", .defaulted, ContainerCounts.form), ("idle", .defaulted, .flag),
  ("idleSince", .optional, .text), ("failingSince", .optional, .text), ("hibernatedSince", .optional, .text),
  ("willHibernateAt", .optional, .text), ("error", .optional, .text)]

def decode : Decoder SessionStatus := fun j => do
  let r ← Record.ofForm form j
  let conditions ← r.withDefault "conditions" [] (Decoder.list Condition.decode)
  let state ← r.withDefault "state" .notReady SessionState.decode
  let url ← r.withDefault "url" "" Decoder.text
  let containerCounts ← r.withDefault "containerCounts" .zero ContainerCounts.decode
  let initContainerCounts ← r.withDefault "initContainerCounts" .zero ContainerCounts.decode
  let idle ← r.withDefault "idle" false Decoder.flag
  let idleSince ← r.optional "idleSince" Decoder.text
  let failingSince ← r.optional "failingSince" Decoder.text
  let hibernatedSince ← r.optional "hibernatedSince" Decoder.text
  let willHibernateAt ← r.optional "willHibernateAt" Decoder.text
  let error ← r.optional "error" Decoder.text
  .ok { conditions, state, url, containerCounts, initContainerCounts, idle, idleSince, failingSince,
        hibernatedSince, willHibernateAt, error }

def encode (s : SessionStatus) : Json :=
  .object [("conditions", .arr (s.conditions.map Condition.encode)), ("state", .str s.state.name), ("url", .str s.url),
    ("containerCounts", s.containerCounts.encode), ("initContainerCounts", s.initContainerCounts.encode),
    ("idle", .bool s.idle), ("idleSince", encodeText? s.idleSince), ("failingSince", encodeText? s.failingSince),
    ("hibernatedSince", encodeText? s.hibernatedSince), ("willHibernateAt", encodeText? s.willHibernateAt),
    ("error", encodeText? s.error)]

end SessionStatus

namespace Session

def apiVersion : String := "sessions.platform/v1alpha1"

def kind : String := "InteractiveSession"

def form : Form := .record "struct InteractiveSession" [
  ("metadata", .required, .part Kubernetes.objectMeta), ("spec", .required, SessionSpec.form),
  ("status", .listedOptional, SessionStatus.form)]

def decode : Decoder Session := fun j => do
  let r ← Record.ofForm form j
  let metadata ← r.required "metadata" Kubernetes.objectMeta.decode
  let spec ← r.required "spec" SessionSpec.decode
  let status ← r.listedOptional "status" SessionStatus.decode
  .ok { metadata, spec, status }

def document : Document Session := ⟨form, decode⟩

/-- The status is left out while there is none. -/
def encode (s : Session) : Json :=
  .objectOfSome [("apiVersion", some (.str apiVersion)), ("kind", some (.str kind)),
    ("metadata", some (Kubernetes.objectMeta.encode s.metadata)), ("spec", some s.spec.encode),
    ("status", s.status.map SessionStatus.encode)]

end Session

end SessionOperator
