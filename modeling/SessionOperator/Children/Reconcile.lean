import SessionOperator.Children.Update
import SessionOperator.Cluster.Request
import SessionOperator.Session.Manifest

/-!
# Reconciling children

Bringing the live children of a session in line with the desired ones.  A missing child is created with the session as
its owner; an existing one is patched when the managed fields differ.  What happens to one child never stops another.

* `Child.reconcile`: one child;
* `ChildSet.ofSession`: the desired children of a session;
* `ChildSet.reconcile`: all of them, one after the other;
* `ChildSet.reconcileSideBySide`: all of them at the same time.
-/

namespace SessionOperator

namespace Session

/-- The reference by which children name the session as their owner; it needs a name and a unique identifier. -/
def owner? (s : Session) : Option Json := do
  let name ← s.name?
  let uid ← s.uid?
  some (.object [("apiVersion", .str apiVersion), ("controller", .bool true), ("kind", .str kind), ("name", .str name),
    ("uid", .str uid)])

end Session

namespace Child

/-- The desired object as it is created: with the session as its only owner. -/
def owned (desired : Child) (owner : Json) : Child := desired.setMetadata "ownerReferences" (.arr [owner])

/-- Whether a write did anything: the cluster keeps the version of an object that a write leaves as it is. -/
def operationAfter (before after : Child) : Operation :=
  if after.resourceVersion? = before.resourceVersion? then .unchanged else .updated

def createMissing (desired : Child) (owner : Json) : Controlled ChildUpdate := do
  let answer : Except ApiError Child ← request (.createChild (desired.owned owner))
  match answer with
  | .ok created => return .done desired created .created
  | .error e => return .failed desired e.message

def updateLive (desired : Child) (scope : MergeScope) (live : Child) : Controlled ChildUpdate :=
  match live.mergeFrom desired scope with
  | .error mismatch => return .failed desired mismatch.message
  | .ok merged =>
    if merged = live then return .done desired live .unchanged
    else do
      let answer : Except ApiError Child ← request (.patchChild desired.kind desired.name (desired.patch scope))
      match answer with
      | .ok patched => return .done desired patched (operationAfter live patched)
      | .error e => return .failed desired e.message

def reconcile (desired : Child) (owner : Json) (scope : MergeScope) : Controlled ChildUpdate := do
  let answer : Except ApiError (Option Child) ← request (.getChild desired.kind desired.name)
  match answer with
  | .error e => return .failed desired e.message
  | .ok none => createMissing desired owner
  | .ok (some live) => updateLive desired scope live

end Child

/-- The children that a session should have. -/
structure ChildSet where
  statefulSet : Child
  service : Child
  ingress : Option Child
  claim : Child
  dataSourceClaims : List Child
  deriving DecidableEq

namespace ChildSet

def ofSession (s : Session) (config : Config) : Except DecodeError ChildSet := do
  let statefulSet ← Manifest.statefulSet s config
  let service ← Manifest.service s
  let ingress ← Manifest.ingress s
  let claim ← Manifest.sessionClaim s config
  let dataSourceClaims ← Manifest.dataSourceClaims s config
  .ok { statefulSet, service, ingress, claim, dataSourceClaims }

/-- The children in the order in which they are reconciled. -/
def toList (c : ChildSet) : List Child :=
  [c.statefulSet, c.service] ++ c.ingress.toList ++ [c.claim] ++ c.dataSourceClaims

def reconcileIngress (owner : Json) (scope : MergeScope) : Option Child → Controlled (Option ChildUpdate)
  | none => return none
  | some desired => do return some (← desired.reconcile owner scope)

def reconcile (c : ChildSet) (owner : Json) (scope : MergeScope) : Controlled ChildUpdates := do
  let statefulSet ← c.statefulSet.reconcile owner scope
  let service ← c.service.reconcile owner scope
  let ingress ← reconcileIngress owner scope c.ingress
  let claim ← c.claim.reconcile owner scope
  let dataSourceClaims ← Program.forEach c.dataSourceClaims fun d => d.reconcile owner scope
  return { statefulSet, service, ingress, claim, dataSourceClaims }

/-- All children at the same time: every child is looked at before one is written.  No child asks more than twice, so
that two rounds are all there are. -/
def reconcileSideBySide (c : ChildSet) (owner : Json) (scope : MergeScope) : Controlled ChildUpdates := do
  let statefulSet ← (c.statefulSet.reconcile owner scope).first
  let service ← (c.service.reconcile owner scope).first
  let ingress ← (reconcileIngress owner scope c.ingress).first
  let claim ← (c.claim.reconcile owner scope).first
  let dataSourceClaims ← Program.forEach c.dataSourceClaims fun d => (d.reconcile owner scope).first
  let statefulSet ← statefulSet
  let service ← service
  let ingress ← ingress
  let claim ← claim
  let dataSourceClaims ← Program.forEach dataSourceClaims id
  return { statefulSet, service, ingress, claim, dataSourceClaims }

end ChildSet

end SessionOperator
