import SessionOperator.Cluster.Memory

/-!
# Rehearsals

A cluster in memory that may be made to fail, to see what a pass does in bad weather.  A fault makes one kind of
request fail, for all objects or for those of a kind or a name; a lie shows an object where another one is stored.

* `Rehearsal.answer`: the answer to a request under the faults and the lies.
-/

namespace SessionOperator

namespace Request

/-- The request as faults name it. -/
def method : Request → String
  | getChild .. => "get_child"
  | createChild .. => "create_child"
  | patchChild .. => "patch_child"
  | getPod .. => "get_pod"
  | listPodEvents .. => "list_pod_events"
  | probeIdle .. => "is_idle"
  | patchStatus .. => "patch_session_status"
  | hibernateSession .. => "hibernate_session"
  | deleteSession .. => "delete_session"
  | deleteSecret .. => "delete_secret"
  | editSession .. => "edit_session"

/-- What a fault may be aimed at: the kind of the child and the name of the object. -/
def targets : Request → List String
  | getChild kind name | patchChild kind name _ => [kind.name, name]
  | createChild child => [child.kind.name, child.name]
  | getPod name | listPodEvents name | patchStatus name _ | hibernateSession name | deleteSession name
  | deleteSecret name | editSession name _ => [name]
  | probeIdle _ => []

def fail (e : ApiError) : (r : Request) → Option r.Answer
  | probeIdle _ => none
  | getChild .. | createChild .. | patchChild .. | getPod .. | listPodEvents .. | patchStatus .. | hibernateSession ..
  | deleteSession .. | deleteSecret .. | editSession .. => some (.error e)

end Request

structure Fault where
  method : String
  target : Option String
  error : ApiError
  deriving DecidableEq

def Fault.hits (f : Fault) (r : Request) : Bool := f.method = r.method && f.target.all fun t => r.targets.contains t

/-- An object that is shown for every child of a kind. -/
structure Lie where
  kind : ChildKind
  shown : Child
  deriving DecidableEq

structure Rehearsal where
  cluster : Cluster
  faults : List Fault
  lies : List Lie

namespace Rehearsal

def ofSession (session : Session) : Rehearsal := { cluster := .ofSession session, faults := [], lies := [] }

/-- The first fault that hits a request makes it fail. -/
def fault? (r : Rehearsal) (q : Request) : Option q.Answer :=
  (r.faults.find? fun f => f.hits q).bind fun f => q.fail f.error

/-- The answer of the cluster itself. -/
def honest (r : Rehearsal) (q : Request) : q.Answer × Rehearsal :=
  let (a, cluster) := r.cluster.answer q
  (a, { r with cluster })

/-- The first lie about a kind is what is shown of it. -/
def respond (r : Rehearsal) : (q : Request) → q.Answer × Rehearsal
  | .getChild kind name =>
    match r.lies.find? fun l => l.kind = kind with
    | some lie => (.ok (some lie.shown), r)
    | none => r.honest (.getChild kind name)
  | q => r.honest q

def answer : Handler clusterInterface Rehearsal := fun q r =>
  match r.fault? q with
  | some a => (a, r)
  | none => r.respond q

end Rehearsal

end SessionOperator
