import SessionOperator.Cluster.Http
import SessionOperator.Config
import SessionOperator.Idle
import SessionOperator.Session.Manifest

/-!
# The idle probe

Asks the metrics of the cluster how much processor time a session takes, and its proxy when it last forwarded a
request.  A signal that cannot be had counts as unknown.

* `Probe.isIdle`: the decision about a session;
* `Probe.disabled`: the probe that finds every session in use.
-/

namespace SessionOperator

namespace Probe

def namespaceOf (s : Session) : String := s.namespace?.getD "default"

/-- The metrics of a pod; they are used as they come, but their metadata has to be in order. -/
def metricsDocument : Document Json where
  form := .extensible "struct DynamicObject" true [("metadata", .defaulted, .part Kubernetes.objectMeta)]
  decode := .ok

/-- Processor usage of the session container. -/
def usage (metrics : Json) : Option Float :=
  ((metrics.list "containers").find? fun c => c.text? "name" = some Manifest.sessionContainerName).bind fun c =>
    ((c.path? ["usage", "cpu"]).bind Json.str?).bind Idle.millicores

def ofMetrics (config : IdleConfig) (answer : Except ApiError (Option Json)) : IdleDecision :=
  Idle.ofUsage ((answer.toOption.bind id).bind usage) config.cpuThresholdMillicores

def cpuDecision (config : IdleConfig) (s : Session) : Wired IdleDecision := do
  let answer ← Http.ask metricsDocument.read (Http.get Http.podMetrics (namespaceOf s) s.podName)
  return ofMetrics config (ApiError.ifFound answer)

/-- Where the proxy of a session reports on its requests. -/
def statsUrl (s : Session) : String :=
  "http://" ++ s.childName ++ "." ++ namespaceOf s ++ ".svc:" ++ toString Manifest.proxyMetaPort ++ "/request_stats"

def statsForm : Form := .record "struct RequestStats" [("lastRequestTime", .required, .part .time)]

def decodeStats : Decoder Instant := fun j => do
  let r ← Record.ofForm statsForm j
  let text ← r.required "lastRequestTime" Decoder.text
  (Instant.parseLenient text).mapError .malformedTime

def statsDocument : Document Instant := ⟨statsForm, decodeStats⟩

def lastRequest (response : Option HttpResponse) : Option Instant :=
  response.bind fun r => if r.isRefusal then none else (statsDocument.read r.body).toOption

/-- Only the proxy of a session with authentication reports. -/
def requestDecision (config : IdleConfig) (now : Instant) (s : Session) : Wired IdleDecision :=
  if s.authenticationEnabled then do
    let response ← Http.fetch (statsUrl s)
    return Idle.ofLastRequest (lastRequest response) now (.ofSeconds config.lastRequestAgeSeconds)
  else return .unknown

def isIdle (config : IdleConfig) (now : Instant) (s : Session) : Wired Bool :=
  if config.enabled then do
    let cpu ← cpuDecision config s
    let requests ← requestDecision config now s
    return IdleDecision.combine [cpu, requests]
  else return false

def disabled (_ : Session) : Wired Bool := return false

end Probe

end SessionOperator
