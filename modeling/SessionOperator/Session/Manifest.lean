import SessionOperator.Session.Naming
import SessionOperator.Session.Codec
import SessionOperator.Config
import SessionOperator.Child

/-!
# Desired children

The objects that a session should have, rebuilt from its spec on every pass.  Each is written as a document and read
back through the schema of its kind, which fills in the required fields that the document leaves out.

* `Session.pathPrefix`, `Session.url?`: where the session is served;
* `Manifest.statefulSet`, `Manifest.service`, `Manifest.ingress`, `Manifest.sessionClaim`,
  `Manifest.dataSourceClaims`: the desired children.
-/

namespace SessionOperator

namespace Session

/-- The path under which the session is served; it ends in a slash. -/
def pathPrefix (s : Session) : String :=
  let path := Text.trim s.spec.session.urlPath
  if path.toList.getLast? = some '/' then path else path ++ "/"

/-- The host of the ingress, unless it is left empty. -/
def host? (s : Session) : Option String := (s.spec.ingress.bind (·.host)).filter fun h => h ≠ ""

/-- The secret with the certificate of the ingress, unless its name is left empty. -/
def tlsSecret? (s : Session) : Option String :=
  ((s.spec.ingress.bind (·.tlsSecret)).map (·.name)).filter fun n => n ≠ ""

def urlScheme (s : Session) : String := if s.tlsSecret?.isSome then "https" else "http"

/-- The public address, if an ingress host is declared. -/
def url? (s : Session) : Option String := s.host?.map fun host => s.urlScheme ++ "://" ++ host ++ s.pathPrefix

end Session

namespace Manifest

def sessionContainerName : String := "session"

def proxyContainerName : String := "authproxy"

def servicePortName : String := "http"

def serviceMetaPortName : String := "http-meta"

def servicePort : Int := 80

/-- The port on which the authentication proxy listens in front of the session. -/
def proxyPort : Int := 65535

/-- The port on which the proxy tells about itself. -/
def proxyMetaPort : Int := 65534

def sessionVolumeName : String := "session-volume"

def sharedMemoryVolumeName : String := "dev-shm"

def proxyVolumeName : String := "session-auth"

def proxyConfigDir : String := "/etc/authproxy"

def dataSourceSecretKey : String := "csi-rclone.dev/secretName"

def named (name : String) (fields : List (String × Json)) : Json := .object (("name", .str name) :: fields)

def envValue (name value : String) : Json := named name [("value", .str value)]

def mount (name path : String) : Json := named name [("mountPath", .str path)]

def claimVolume (name claimName : String) : Json :=
  named name [("persistentVolumeClaim", .object [("claimName", .str claimName)])]

/-- A value under a key, left out when a condition does not hold. -/
def when (condition : Bool) (value : Json) : Option Json := if condition then some value else none

/-! ### The pod -/

/-- Data sources with their positions. -/
def numberedSources (s : Session) : List (DataSource × Nat) := s.spec.dataSources.zipIdx

/-- The volumes that the session container itself needs. -/
def sessionVolumes (s : Session) : List Json :=
  [claimVolume sessionVolumeName s.childName] ++
    (s.spec.session.shmSize.map fun size =>
      named sharedMemoryVolumeName [("emptyDir", .object [("medium", .str "Memory"), ("sizeLimit", .str size)])]).toList ++
    (numberedSources s).map fun d => claimVolume (Naming.dataSourceVolumeName d.2) (s.dataSourceClaimName d.2)

def sessionMounts (s : Session) : List Json :=
  [mount sessionVolumeName s.spec.session.storage.mountPath] ++
    (s.spec.session.shmSize.map fun _ => mount sharedMemoryVolumeName "/dev/shm").toList ++
    (numberedSources s).map (fun d => mount (Naming.dataSourceVolumeName d.2) d.1.mountPath) ++
    s.spec.session.extraVolumeMounts.map Kubernetes.volumeMount.encode

def readinessProbe (s : Session) : Option Json :=
  let probe := fun (action : String) (fields : List (String × Json)) =>
    Json.object [(action, .object fields), ("periodSeconds", .int 10), ("failureThreshold", .int 3)]
  match s.spec.session.readiness with
  | .none => none
  | .tcp => some (probe "tcpSocket" [("port", .int s.spec.session.port)])
  | .http => some (probe "httpGet" [("path", .str s.pathPrefix), ("port", .int s.spec.session.port)])

def sessionContainer (s : Session) : Json :=
  let c := s.spec.session
  .objectOfSome [
    ("name", some (.str sessionContainerName)),
    ("image", some (.str c.image)),
    ("env", some (encodeAll Kubernetes.envVar c.env)),
    ("ports", some (.arr [named "session" [("containerPort", .int c.port)]])),
    ("volumeMounts", some (.arr (sessionMounts s))),
    ("securityContext", some (.object [("runAsUser", .int c.runAsUser), ("runAsGroup", .int c.runAsGroup),
      ("runAsNonRoot", .bool (c.runAsUser ≠ 0))])),
    ("command", when (!c.command.isEmpty) (encodeTexts c.command)),
    ("args", when (!c.args.isEmpty) (encodeTexts c.args)),
    ("resources", c.resources.map Kubernetes.resourceRequirements.encode),
    ("workingDir", c.workingDir.map .str),
    ("imagePullPolicy", c.imagePullPolicy.map .str),
    ("readinessProbe", readinessProbe s)]

/-- The proxy of a session with authentication. -/
def proxyContainer (s : Session) (config : Config) (a : Authentication) : Json :=
  .object [
    ("name", .str proxyContainerName),
    ("image", .str config.sidecars.image),
    ("args", encodeTexts ["authproxy", "serve"]),
    ("env", .arr [
      envValue "AUTHPROXY_MODE" a.type.name,
      envValue "AUTHPROXY_PORT" (toString proxyPort),
      envValue "AUTHPROXY_META_PORT" (toString proxyMetaPort),
      envValue "AUTHPROXY_REMOTE" ("http://127.0.0.1:" ++ toString s.spec.session.port),
      envValue "AUTHPROXY_PATH_PREFIX" s.pathPrefix,
      envValue "AUTHPROXY_CONFIG_FILE" (proxyConfigDir ++ "/" ++ a.secretRef.key.getD "config.yaml")]),
    ("ports", .arr [named "auth-proxy" [("containerPort", .int proxyPort)],
      named "auth-meta" [("containerPort", .int proxyMetaPort)]]),
    ("volumeMounts", .arr (named proxyVolumeName [("mountPath", .str proxyConfigDir), ("readOnly", .bool true)] ::
      a.extraVolumeMounts.map Kubernetes.volumeMount.encode)),
    ("readinessProbe", .object [("tcpSocket", .object [("port", .int proxyPort)]), ("periodSeconds", .int 5)]),
    ("securityContext", .object [("runAsUser", .int 1000), ("runAsGroup", .int 1000), ("runAsNonRoot", .bool true),
      ("allowPrivilegeEscalation", .bool false)])]

/-- The authentication of a session, if it is enabled. -/
def authentication? (s : Session) : Option Authentication := s.spec.authentication.filter (·.enabled)

def proxyVolume (a : Authentication) : Json :=
  named proxyVolumeName [("secret", .object [("secretName", .str a.secretRef.name)])]

/-- The session container, the proxy, and the containers that the user adds. -/
def containers (s : Session) (config : Config) : List Json :=
  [sessionContainer s] ++ ((authentication? s).map (proxyContainer s config)).toList ++
    s.spec.extraContainers.map Kubernetes.container.encode

def volumes (s : Session) : List Json :=
  sessionVolumes s ++ ((authentication? s).map proxyVolume).toList ++
    s.spec.extraVolumes.map Kubernetes.volume.encode

def pod (s : Session) (config : Config) : Json :=
  let spec := s.spec
  .objectOfSome [
    ("enableServiceLinks", some (.bool false)),
    ("securityContext", some (.object [("fsGroup", .int spec.session.runAsGroup),
      ("fsGroupChangePolicy", .str "OnRootMismatch")])),
    ("containers", some (.arr (containers s config))),
    ("volumes", some (.arr (volumes s))),
    ("initContainers", when (!spec.initContainers.isEmpty) (encodeAll Kubernetes.container spec.initContainers)),
    ("tolerations", when (!spec.tolerations.isEmpty) (encodeAll Kubernetes.toleration spec.tolerations)),
    ("nodeSelector", when (!spec.nodeSelector.isEmpty) (.ofDict spec.nodeSelector)),
    ("affinity", spec.affinity.map Kubernetes.affinity.encode),
    ("priorityClassName", (spec.priorityClassName.filter fun p => p ≠ "").map .str),
    ("serviceAccountName", (spec.serviceAccountName.filter fun a => !Text.isBlankText a).map .str),
    ("imagePullSecrets", when (!spec.imagePullSecrets.isEmpty)
      (.arr (spec.imagePullSecrets.map fun r => named r.name [])))]

/-! ### The children -/

def metadata (s : Session) (name : String) (more : List (String × Json)) : Json :=
  named name (("labels", .ofDict s.labels) :: more)

def statefulSetDocument (s : Session) (config : Config) : Json :=
  .object [
    ("metadata", metadata s s.childName []),
    ("spec", .object [
      ("replicas", .int (if s.spec.hibernated then 0 else 1)),
      ("podManagementPolicy", .str "Parallel"),
      ("selector", .object [("matchLabels", .ofDict s.selector)]),
      ("template", .object [("metadata", .object [("labels", .ofDict s.labels)]), ("spec", pod s config)])])]

def servicePortDocument (name : String) (port target : Int) : Json :=
  named name [("port", .int port), ("targetPort", .int target), ("protocol", .str "TCP")]

/-- The port to which requests go: that of the proxy if there is one. -/
def targetPort (s : Session) : Int := if s.authenticationEnabled then proxyPort else s.spec.session.port

def serviceDocument (s : Session) : Json :=
  .object [
    ("metadata", metadata s s.childName []),
    ("spec", .object [
      ("ports", .arr [servicePortDocument servicePortName servicePort (targetPort s),
        servicePortDocument serviceMetaPortName proxyMetaPort proxyMetaPort]),
      ("selector", .ofDict s.selector)])]

def ingressRule (s : Session) : Json :=
  let backend := Json.object [("service", named s.childName [("port", named servicePortName [])])]
  .objectOfSome [
    ("http", some (.object [("paths", .arr [.object [("path", .str s.pathPrefix), ("pathType", .str "Prefix"),
      ("backend", backend)]])])),
    ("host", s.host?.map .str)]

def ingressDocument (s : Session) (declared : SessionIngress) : Json :=
  .object [
    ("metadata", metadata s s.childName [("annotations", .ofDict declared.annotations)]),
    ("spec", .objectOfSome [
      ("rules", some (.arr [ingressRule s])),
      ("ingressClassName", declared.ingressClassName.map .str),
      ("tls", s.tlsSecret?.map fun secret =>
        .arr [.object [("hosts", encodeTexts declared.host.toList), ("secretName", .str secret)]])])]

/-- A claim for storage of a size, with the access modes and the storage class that it asks for. -/
def claimSpec (accessMode size : String) (className : Option String) : Json :=
  .objectOfSome [
    ("accessModes", some (encodeTexts [accessMode])),
    ("resources", some (.object [("requests", .object [("storage", .str size)])])),
    ("storageClassName", className.map .str)]

/-- The size of the session claim: what the session requests or else the configured default. -/
def sessionClaimSize (s : Session) (config : Config) : String :=
  s.spec.session.storage.size.getD config.storage.defaultSessionSize

def sessionClaimDocument (s : Session) (config : Config) : Json :=
  .object [
    ("metadata", metadata s s.childName []),
    ("spec", claimSpec "ReadWriteOnce" (sessionClaimSize s config)
      (s.spec.session.storage.className.filter fun c => c ≠ ""))]

def dataSourceClaimDocument (s : Session) (config : Config) (d : DataSource × Nat) : Json :=
  .object [
    ("metadata", metadata s (s.dataSourceClaimName d.2)
      [("annotations", .object [(dataSourceSecretKey, .str d.1.secretRef.name)])]),
    ("spec", claimSpec d.1.accessMode config.storage.dataSourceSize (some config.storage.dataSourceStorageClass))]

def statefulSet (s : Session) (config : Config) : Except DecodeError Child :=
  Child.decode .statefulSet (statefulSetDocument s config)

def service (s : Session) : Except DecodeError Child := Child.decode .service (serviceDocument s)

/-- Nothing when the session declares no ingress. -/
def ingress (s : Session) : Except DecodeError (Option Child) :=
  match s.spec.ingress with
  | none => .ok none
  | some declared => (Child.decode .ingress (ingressDocument s declared)).map some

def sessionClaim (s : Session) (config : Config) : Except DecodeError Child :=
  Child.decode .claim (sessionClaimDocument s config)

/-- One claim for each data source. -/
def dataSourceClaims (s : Session) (config : Config) : Except DecodeError (List Child) :=
  (numberedSources s).mapM fun d => Child.decode .dataSourceClaim (dataSourceClaimDocument s config d)

end Manifest

end SessionOperator
