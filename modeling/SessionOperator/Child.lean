import SessionOperator.Session.Basic
import SessionOperator.Json.MergePatch
import SessionOperator.Kubernetes.Workloads

/-!
# Children of a session

The objects that the controller keeps for a session.  A live object is never overwritten as a whole: only the fields
that the controller manages are copied from the desired object.

* `Child.mergeFrom`: a live object with the managed fields of the desired one;
* `Child.patch`: the merge patch that asks the cluster for the same change.
-/

namespace SessionOperator

inductive ChildKind where
  | statefulSet
  | service
  | ingress
  | claim
  | dataSourceClaim
  deriving DecidableEq

namespace ChildKind

def name : ChildKind → String
  | statefulSet => "statefulset"
  | service => "service"
  | ingress => "ingress"
  | claim => "persistentvolumeclaim"
  | dataSourceClaim => "data source claim"

/-- All kinds, in the order in which lists of children show them. -/
def all : List ChildKind := [statefulSet, service, ingress, claim, dataSourceClaim]

def ofName? (name : String) : Option ChildKind := all.find? fun k => k.name = name

/-- Position in `all`. -/
def rank : ChildKind → Nat
  | statefulSet => 0
  | service => 1
  | ingress => 2
  | claim => 3
  | dataSourceClaim => 4

def schema : ChildKind → Schema
  | statefulSet => Kubernetes.statefulSet
  | service => Kubernetes.service
  | ingress => Kubernetes.ingress
  | claim | dataSourceClaim => Kubernetes.persistentVolumeClaim

end ChildKind

/-- An object of one of the kinds; the body is in the normal form of the schema of the kind. -/
structure Child where
  kind : ChildKind
  body : Json
  deriving DecidableEq

/-- Which fields of existing children may be changed. -/
inductive MergeScope where
  /-- All managed fields. -/
  | full
  /-- The replica count of the stateful set only, so that hibernation keeps working. -/
  | replicasOnly
  deriving DecidableEq

namespace MergeScope

/-- The scope that a strategy allows while a state is recorded. -/
def ofStrategy : ReconcileStrategy → SessionState → MergeScope
  | .always, _ => .full
  | .whenFailedOrHibernated, .failed => .full
  | .whenFailedOrHibernated, .hibernated => .full
  | .whenFailedOrHibernated, _ => .replicasOnly
  | .never, _ => .replicasOnly

end MergeScope

/-- The live object is of another kind than the desired one. -/
structure ChildMismatch where
  expected : ChildKind
  found : ChildKind
  deriving DecidableEq

def ChildMismatch.message (m : ChildMismatch) : String :=
  "expected a " ++ m.expected.name ++ " but found a " ++ m.found.name

namespace Child

def decode (kind : ChildKind) : Decoder Child := fun j => (kind.schema.decode j).map fun body => ⟨kind, body⟩

def encode (c : Child) : Json := c.kind.schema.encode c.body

def metadata (c : Child) : Json := (c.body.get? "metadata").getD .empty

def name (c : Child) : String := (c.metadata.text? "name").getD ""

def resourceVersion? (c : Child) : Option String := c.metadata.text? "resourceVersion"

def deleting (c : Child) : Bool := (c.metadata.get? "deletionTimestamp").isSome

def spec? (c : Child) : Option Json := c.body.get? "spec"

def setMetadata (c : Child) (key : String) (value : Json) : Child :=
  { c with body := c.body.set "metadata" (c.metadata.set key value) }

/-- The child as messages name it: data source claims go by their own names. -/
def label (c : Child) : String := if c.kind = .dataSourceClaim then c.name else c.kind.name

/-! ### Merging -/

/-- Replicas and, in full scope, the containers and volumes of the pod template. -/
def mergeStatefulSetSpec (scope : MergeScope) (desired live : Json) : Json :=
  let scaled := live.copyKey desired "replicas"
  match scope, desired.path? ["template", "spec"] with
  | .full, some pod =>
    let template := (scaled.get? "template").getD Kubernetes.podTemplateSpec.zero
    let livePod := (template.get? "spec").getD Kubernetes.podSpec.zero
    scaled.set "template" (template.set "spec" (livePod.copyKeys pod ["containers", "initContainers", "volumes"]))
  | _, _ => scaled

def mergeServiceSpec (desired live : Json) : Json := live.copyKeys desired ["ports", "selector"]

/-- The requests, and the storage class if the desired claim names one. -/
def mergeClaimSpec (desired live : Json) : Json :=
  let resources := (live.get? "resources").getD Kubernetes.volumeResourceRequirements.zero
  let requested := live.set "resources" (resources.copyKey ((desired.get? "resources").getD .empty) "requests")
  if (desired.get? "storageClassName").isSome then requested.copyKey desired "storageClassName" else requested

/-- Replaces the spec of an object by what it becomes next to a desired spec; without a desired spec nothing happens. -/
def mergeSpec (merge : Json → Json → Json) (zero : Json) (desired live : Json) : Json :=
  match desired.get? "spec" with
  | some spec => live.set "spec" (merge spec ((live.get? "spec").getD zero))
  | none => live

def mergeBody (kind : ChildKind) (scope : MergeScope) (desired live : Json) : Json :=
  match kind, scope with
  | .statefulSet, scope => mergeSpec (mergeStatefulSetSpec scope) Kubernetes.statefulSetSpec.zero desired live
  | _, .replicasOnly => live
  | .service, .full => mergeSpec mergeServiceSpec Kubernetes.serviceSpec.zero desired live
  | .ingress, .full => live.copyKey desired "spec"
  | .claim, .full | .dataSourceClaim, .full =>
    mergeSpec mergeClaimSpec Kubernetes.persistentVolumeClaimSpec.zero desired live

/-- The live object with the managed fields of the desired one. -/
def mergeFrom (live desired : Child) (scope : MergeScope) : Except ChildMismatch Child :=
  if live.kind = desired.kind then .ok ⟨live.kind, mergeBody desired.kind scope desired.body live.body⟩
  else .error ⟨desired.kind, live.kind⟩

/-! ### Patching -/

/-- A list in a patch; an absent or empty one clears the field. -/
def listOrNull (items : Option Json) : Json :=
  match items with
  | some (.arr []) => .null
  | some v => v
  | none => .null

def fieldOrNull (spec : Json) (key : String) : Json := Json.orNull (spec.get? key)

def statefulSetPatch (scope : MergeScope) (spec : Json) : Json :=
  let replicas := ("replicas", fieldOrNull spec "replicas")
  match scope, spec.path? ["template", "spec"] with
  | .full, some pod =>
    .object [replicas, ("template", .object [("spec", .object [("containers", fieldOrNull pod "containers"),
      ("initContainers", listOrNull (pod.get? "initContainers")), ("volumes", listOrNull (pod.get? "volumes"))])])]
  | _, _ => .object [replicas]

def servicePatch (spec : Json) : Json :=
  .object [("ports", listOrNull (spec.get? "ports")), ("selector", fieldOrNull spec "selector")]

def ingressPatch (spec : Json) : Json :=
  .object [("ingressClassName", fieldOrNull spec "ingressClassName"),
    ("defaultBackend", fieldOrNull spec "defaultBackend"), ("rules", listOrNull (spec.get? "rules")),
    ("tls", listOrNull (spec.get? "tls"))]

def claimPatch (spec : Json) : Json :=
  .objectOfSome [
    ("resources", some (.object [("requests", Json.orNull (spec.path? ["resources", "requests"]))])),
    ("storageClassName", spec.get? "storageClassName")]

/-- The merge patch that carries the managed fields of this desired object.  What the object leaves out is sent as
`null`, so that the cluster clears it.  Metadata is never sent. -/
def patch (desired : Child) (scope : MergeScope) : Json :=
  let spec := ((desired.encode).get? "spec").getD .empty
  match desired.kind, scope with
  | .statefulSet, scope => .object [("spec", statefulSetPatch scope spec)]
  | _, .replicasOnly => .empty
  | .service, .full => .object [("spec", servicePatch spec)]
  | .ingress, .full => .object [("spec", ingressPatch spec)]
  | .claim, .full | .dataSourceClaim, .full => .object [("spec", claimPatch spec)]

end Child

end SessionOperator
