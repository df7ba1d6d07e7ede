import SessionOperator.Cluster.Response
import SessionOperator.Cluster.Target
import SessionOperator.Json.Writer

/-!
# Requests over HTTP

How requests are put to an API server: the place of every kind of object and the bodies of writes.  A request without a
name, or with one that no target can hold, is not sent.

* `Http.send`: one request as a program of HTTP exchanges.
-/

namespace SessionOperator

structure HttpRequest where
  method : String
  target : Target
  contentType : Option String
  body : Option String
  deriving DecidableEq

/-- The value that the body of a request holds. -/
def HttpRequest.content? (r : HttpRequest) : Option Json := r.body.bind Json.parse?

/-- What goes over the wire: requests to the API server, and fetches from services, which may be out of reach. -/
inductive Exchange where
  | api (request : HttpRequest)
  | fetch (url : String)
  deriving DecidableEq

abbrev Exchange.Answer : Exchange → Type
  | api _ => HttpResponse
  | fetch _ => Option HttpResponse

def Exchange.request? : Exchange → Option HttpRequest
  | api request => some request
  | fetch _ => none

abbrev wireInterface : Interface := ⟨Exchange, Exchange.Answer⟩

abbrev Wired (α : Type) := Program wireInterface α

namespace Http

def exchange (r : HttpRequest) : Wired HttpResponse := Program.ask (Exchange.api r) .done

def fetch (url : String) : Wired (Option HttpResponse) := Program.ask (Exchange.fetch url) .done

/-! ### Places -/

/-- The place of a kind of object: its group with version, and its plural name. -/
structure Resource where
  root : String
  plural : String

def Resource.collection (r : Resource) (ns : String) : String := r.root ++ "/namespaces/" ++ ns ++ "/" ++ r.plural

/-- The place of an object, which must have a name. -/
def Resource.item (r : Resource) (ns name : String) : Except Target.Fault String :=
  if name.isEmpty then .error .noName else .ok (r.collection ns ++ "/" ++ name)

def pods : Resource := ⟨"/api/v1", "pods"⟩

def events : Resource := ⟨"/api/v1", "events"⟩

def secrets : Resource := ⟨"/api/v1", "secrets"⟩

def sessions : Resource := ⟨"/apis/sessions.platform/v1alpha1", "interactivesessions"⟩

def podMetrics : Resource := ⟨"/apis/metrics.k8s.io/v1beta1", "pods"⟩

def resourceOf : ChildKind → Resource
  | .statefulSet => ⟨"/apis/apps/v1", "statefulsets"⟩
  | .service => ⟨"/api/v1", "services"⟩
  | .ingress => ⟨"/apis/networking.k8s.io/v1", "ingresses"⟩
  | .claim | .dataSourceClaim => ⟨"/api/v1", "persistentvolumeclaims"⟩

/-! ### Requests -/

/-- A request that is not sent if it cannot be put together. -/
abbrev Draft := Except Target.Fault HttpRequest

def get (r : Resource) (ns name : String) : Draft := do
  return ⟨"GET", ← Target.parse (← r.item ns name), none, none⟩

/-- The objects of a kind that a selector picks. -/
def select (r : Resource) (ns selector : String) : Draft := do
  return ⟨"GET", ← Target.parse (r.collection ns ++ "?&fieldSelector=" ++ Query.encode selector), none, none⟩

def post (r : Resource) (ns : String) (body : Json) : Draft := do
  return ⟨"POST", ← Target.parse (r.collection ns ++ "?"), none, some body.compact⟩

/-- Patches an object or, below it, a part of it. -/
def patch (r : Resource) (ns name part contentType : String) (body : Json) : Draft := do
  return ⟨"PATCH", ← Target.parse ((← r.item ns name) ++ part ++ "?"), some contentType, some body.compact⟩

def mergePatch (r : Resource) (ns name part : String) (body : Json) : Draft :=
  patch r ns name part "application/merge-patch+json" body

def jsonPatch (r : Resource) (ns name : String) (body : Json) : Draft :=
  patch r ns name "" "application/json-patch+json" body

def delete (r : Resource) (ns name : String) (options : Json) : Draft := do
  return ⟨"DELETE", ← Target.parse ((← r.item ns name) ++ "?"), none, some options.compact⟩

/-! ### The requests of the controller -/

def selectorOf (pod : String) : String := "involvedObject.kind=Pod,involvedObject.name=" ++ pod

def ask {α : Type} (read : String → Except Json.Misread α) : Draft → Wired (Except ApiError α)
  | .ok r => do
    let response ← exchange r
    return response.accept read
  | .error fault => return .error (.unsent fault)

/-- A write is answered by the session as it is now. -/
def askSession (r : Draft) : Wired (Except ApiError Unit) := do
  return (← ask Session.document.read r).map fun _ => ()

/-- One request, put to the API server; the probe is a program of its own. -/
def send (ns : String) (probe : Session → Wired Bool) : (r : Request) → Wired r.Answer
  | .getChild kind name => do
    return ApiError.ifFound (← ask (Child.document kind).read (get (resourceOf kind) ns name))
  | .createChild child => ask (Child.document child.kind).read (post (resourceOf child.kind) ns child.encode)
  | .patchChild kind name patch => ask (Child.document kind).read (mergePatch (resourceOf kind) ns name "" patch)
  | .getPod name => do return ApiError.ifFound (← ask Kubernetes.pod.document.read (get pods ns name))
  | .listPodEvents pod => ask Kubernetes.event.listDocument.read (select events ns (selectorOf pod))
  | .probeIdle s => probe s
  | .patchStatus name status =>
    askSession (mergePatch sessions ns name "/status" (.object [("status", status.encode)]))
  | .hibernateSession name =>
    askSession (mergePatch sessions ns name "" (.object [("spec", .object [("hibernated", .bool true)])]))
  | .deleteSession name => do
    let answer ← ask (Deletion.read Session.document)
      (delete sessions ns name (.object [("propagationPolicy", .str "Foreground")]))
    return (Deletion.wasThere answer).map fun _ => ()
  | .deleteSecret name => do
    return Deletion.wasThere (← ask (Deletion.read Kubernetes.secret.document) (delete secrets ns name .empty))
  | .editSession name operations => askSession (jsonPatch sessions ns name operations)

end Http

/-- A program of the controller over the wire. -/
def Controlled.overWire {α : Type} (ns : String) (probe : Session → Wired Bool) (p : Controlled α) : Wired α :=
  p.interpret (Http.send ns probe)

end SessionOperator
