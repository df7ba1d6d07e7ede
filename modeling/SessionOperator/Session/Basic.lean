import SessionOperator.Json

/-!
# Interactive sessions

What a user declares of a session and what is recorded of its life.  Parts that pass through to cluster objects
(environment variables, containers, volumes, tolerations, …) stay JSON values in the normal form of their schema.
-/

namespace SessionOperator

/-- A reference to a secret; an adopted secret is deleted together with the session. -/
structure SecretRef where
  name : String
  key : Option String
  adopt : Bool
  deriving DecidableEq

inductive ReadinessCheck where
  | none
  | tcp
  | http
  deriving DecidableEq

/-- The persistent volume of a session. -/
structure Storage where
  className : Option String
  /-- Requested size; the configured default applies when absent. -/
  size : Option String
  mountPath : String
  deriving DecidableEq

def Storage.default : Storage := ⟨none, none, "/workspace"⟩

structure SessionContainer where
  image : String
  command : List String
  args : List String
  env : List Json
  resources : Option Json
  port : Int
  storage : Storage
  /-- Size of the memory-backed `/dev/shm`. -/
  shmSize : Option String
  workingDir : Option String
  runAsUser : Int
  runAsGroup : Int
  urlPath : String
  extraVolumeMounts : List Json
  readiness : ReadinessCheck
  imagePullPolicy : Option String
  deriving DecidableEq

inductive DataSourceType where
  | rclone
  deriving DecidableEq

/-- Remote storage mounted into a session. -/
structure DataSource where
  type : DataSourceType
  secretRef : SecretRef
  mountPath : String
  accessMode : String
  deriving DecidableEq

inductive AuthenticationType where
  | token
  | oauth2proxy
  deriving DecidableEq

def AuthenticationType.name : AuthenticationType → String
  | .token => "token"
  | .oauth2proxy => "oauth2proxy"

/-- The proxy in front of a session. -/
structure Authentication where
  enabled : Bool
  type : AuthenticationType
  secretRef : SecretRef
  extraVolumeMounts : List Json
  deriving DecidableEq

/-- Culling thresholds as written; an absent or zero one disables its rule. -/
structure CullingSpec where
  maxAge : Option String
  maxIdleDuration : Option String
  maxStartingDuration : Option String
  maxFailedDuration : Option String
  maxHibernatedDuration : Option String
  lastInteraction : Option String
  deriving DecidableEq

def CullingSpec.default : CullingSpec := ⟨none, none, none, none, none, none⟩

structure SessionIngress where
  host : Option String
  ingressClassName : Option String
  annotations : Dict String
  tlsSecret : Option SecretRef
  deriving DecidableEq

/-- When existing child objects may be patched beyond their replica count. -/
inductive ReconcileStrategy where
  | never
  | always
  | whenFailedOrHibernated
  deriving DecidableEq

structure SessionSpec where
  session : SessionContainer
  dataSources : List DataSource
  authentication : Option Authentication
  culling : CullingSpec
  hibernated : Bool
  extraContainers : List Json
  initContainers : List Json
  extraVolumes : List Json
  ingress : Option SessionIngress
  nodeSelector : Dict String
  affinity : Option Json
  tolerations : List Json
  priorityClassName : Option String
  serviceAccountName : Option String
  imagePullSecrets : List SecretRef
  reconcileStrategy : ReconcileStrategy
  deriving DecidableEq

inductive SessionState where
  | notReady
  | running
  | runningDegraded
  | failed
  | hibernated
  deriving DecidableEq

namespace SessionState

def name : SessionState → String
  | notReady => "NotReady"
  | running => "Running"
  | runningDegraded => "RunningDegraded"
  | failed => "Failed"
  | hibernated => "Hibernated"

/-- The form used in messages. -/
def description : SessionState → String
  | notReady => "not ready"
  | running => "running"
  | runningDegraded => "running degraded"
  | failed => "failed"
  | hibernated => "hibernated"

end SessionState

structure ContainerCounts where
  ready : Int
  total : Int
  deriving DecidableEq

def ContainerCounts.zero : ContainerCounts := ⟨0, 0⟩

def ContainerCounts.allReady (c : ContainerCounts) : Bool := c.ready = c.total

inductive ConditionType where
  | ready
  | routingReady
  deriving DecidableEq

def ConditionType.name : ConditionType → String
  | .ready => "Ready"
  | .routingReady => "RoutingReady"

structure Condition where
  type : ConditionType
  status : String
  reason : String
  message : String
  lastTransitionTime : Option String
  deriving DecidableEq

def Condition.isTrue (c : Condition) : Bool := c.status = "True"

/-- What is recorded of a session. -/
structure SessionStatus where
  conditions : List Condition
  state : SessionState
  url : String
  containerCounts : ContainerCounts
  initContainerCounts : ContainerCounts
  idle : Bool
  idleSince : Option String
  failingSince : Option String
  hibernatedSince : Option String
  willHibernateAt : Option String
  error : Option String
  deriving DecidableEq

def SessionStatus.default : SessionStatus where
  conditions := []
  state := .notReady
  url := ""
  containerCounts := .zero
  initContainerCounts := .zero
  idle := false
  idleSince := none
  failingSince := none
  hibernatedSince := none
  willHibernateAt := none
  error := none

/-- A session as the cluster holds it; the metadata is a conforming `ObjectMeta`. -/
structure Session where
  metadata : Json
  spec : SessionSpec
  status : Option SessionStatus
  deriving DecidableEq

namespace Session

def name? (s : Session) : Option String := s.metadata.text? "name"

/-- The name, or what the cluster generates it from. -/
def name (s : Session) : String := (s.name?.orElse fun _ => s.metadata.text? "generateName").getD ""

def namespace? (s : Session) : Option String := s.metadata.text? "namespace"

def uid? (s : Session) : Option String := s.metadata.text? "uid"

def deleting (s : Session) : Bool := (s.metadata.get? "deletionTimestamp").isSome

def finalizers (s : Session) : List String := (s.metadata.list "finalizers").filterMap Json.str?

/-- The recorded status, or that of a session nothing is recorded of. -/
def recorded (s : Session) : SessionStatus := s.status.getD .default

def authenticationEnabled (s : Session) : Bool := s.spec.authentication.any (·.enabled)

/-- References to secrets: TLS, authentication, data sources, image pulls. -/
def secretRefs (s : Session) : List SecretRef :=
  (s.spec.ingress.bind (·.tlsSecret)).toList ++ (s.spec.authentication.map (·.secretRef)).toList ++
    s.spec.dataSources.map (·.secretRef) ++ s.spec.imagePullSecrets

/-- The names that are adopted by some reference, each once, in order of first occurrence. -/
def adoptedSecrets (s : Session) : List String :=
  (s.secretRefs.filter fun r => r.adopt && r.name ≠ "").foldl
    (fun names r => if names.contains r.name then names else names ++ [r.name]) []

end Session

end SessionOperator
