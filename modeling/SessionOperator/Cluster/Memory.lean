import SessionOperator.Cluster.Request
import SessionOperator.Session.Codec

/-!
# A cluster in memory

A cluster that holds one session, what surrounds it and its children.  An object gets a new version exactly when it
changes.  Versions are counted from one over all objects.

* `Cluster.answer`: what the cluster answers to each request and what becomes of it;
* `Cluster.putChild`, `Cluster.dropChild`: changes from outside.
-/

namespace SessionOperator

/-- The children of each kind by their names. -/
abbrev ChildStore := ChildKind → Dict Child

namespace ChildStore

def empty : ChildStore := fun _ => []

def find? (store : ChildStore) (kind : ChildKind) (name : String) : Option Child := (store kind).get? name

def put (store : ChildStore) (name : String) (child : Child) : ChildStore := fun kind =>
  if kind = child.kind then (store kind).insert name child else store kind

def drop (store : ChildStore) (kind : ChildKind) (name : String) : ChildStore := fun k =>
  if k = kind then (store k).erase name else store k

/-- All children with their names, by kind and then by name. -/
def toList (store : ChildStore) : List (String × Child) := ChildKind.all.flatMap store

theorem find?_put (store : ChildStore) (name n : String) (child : Child) (kind : ChildKind) :
    (store.put name child).find? kind n =
      if kind = child.kind ∧ name = n then some child else store.find? kind n := by
  unfold find? put
  by_cases hk : kind = child.kind
  · simp [hk, Dict.get?_insert]
  · simp [hk]

theorem find?_drop (store : ChildStore) (k kind : ChildKind) (name n : String) :
    (store.drop k name).find? kind n = if kind = k ∧ name = n then none else store.find? kind n := by
  unfold find? drop
  by_cases hk : kind = k
  · simp [hk, Dict.get?_erase]
  · simp [hk]

end ChildStore

structure Cluster where
  session : Session
  pod : Option Json
  events : List Json
  idle : Bool
  secrets : List String
  children : ChildStore
  /-- The latest version that an object got. -/
  version : Nat
  deleted : Bool

namespace Cluster

/-- A cluster with nothing but a session. -/
def ofSession (session : Session) : Cluster :=
  { session, pod := none, events := [], idle := false, secrets := [], children := .empty, version := 0,
    deleted := false }

def notFound (name : String) : ApiError := .refused "Failure" (name ++ " not found") "NotFound" 404

def versioned (child : Child) (version : Nat) : Child := child.setMetadata "resourceVersion" (.str (toString version))

/-- Stores a child under its name with the next version. -/
def putChild (c : Cluster) (name : String) (child : Child) : Child × Cluster :=
  let stored := versioned child (c.version + 1)
  (stored, { c with version := c.version + 1, children := c.children.put name stored })

def dropChild (c : Cluster) (kind : ChildKind) (name : String) : Cluster :=
  { c with children := c.children.drop kind name }

/-- A child after a merge patch. -/
def patched (live : Child) (patch : Json) : Except DecodeError Child :=
  Child.decode live.kind (live.encode.mergePatch patch)

def patchChild (c : Cluster) (kind : ChildKind) (name : String) (patch : Json) : Except ApiError Child × Cluster :=
  match c.children.find? kind name with
  | none => (.error (notFound name), c)
  | some live =>
    match patched live patch with
    | .error e => (.error (.unreadable (.ofDecodeError e)), c)
    | .ok child =>
      if child = live then (.ok live, c)
      else
        let (stored, c) := c.putChild name child
        (.ok stored, c)

def setStatus (c : Cluster) (status : SessionStatus) : Cluster := { c with session := { c.session with status } }

def setHibernated (c : Cluster) : Cluster :=
  { c with session := { c.session with spec := { c.session.spec with hibernated := true } } }

/-- The answer to a request and the cluster after it.  Edits of the finalizers are accepted and not kept. -/
def answer : Handler clusterInterface Cluster
  | .getChild kind name, c => (.ok (c.children.find? kind name), c)
  | .createChild child, c => let (stored, c) := c.putChild child.name child; (.ok stored, c)
  | .patchChild kind name patch, c => c.patchChild kind name patch
  | .getPod _, c => (.ok c.pod, c)
  | .listPodEvents _, c => (.ok c.events, c)
  | .probeIdle _, c => (c.idle, c)
  | .patchStatus _ status, c => (.ok (), c.setStatus status)
  | .hibernateSession _, c => (.ok (), c.setHibernated)
  | .deleteSession _, c => (.ok (), { c with deleted := true })
  | .deleteSecret name, c => (.ok (c.secrets.contains name), { c with secrets := c.secrets.filter fun s => s ≠ name })
  | .editSession .., c => (.ok (), c)

end Cluster

end SessionOperator
