import SessionOperator.Child

/-!
# What happened to the children

The outcome of reconciling one child, and the outcomes of reconciling all children of a session.

* `ChildUpdates.toList`: the outcomes in the order in which they are reported;
* `ChildUpdates.failures`: the children that failed, with the reasons;
* `ChildUpdates.statefulSet?`, `ChildUpdates.service?`, `ChildUpdates.ingress?`, `ChildUpdates.claims`: the objects as
  they are now.
-/

namespace SessionOperator

inductive Operation where
  | unchanged
  | created
  | updated
  deriving DecidableEq

def Operation.name : Operation → String
  | .unchanged => "unchanged"
  | .created => "created"
  | .updated => "updated"

structure ChildUpdate where
  kind : ChildKind
  label : String
  /-- The object as last seen or written; none when it could not be read. -/
  manifest : Option Child
  operation : Operation
  error : Option String
  deriving DecidableEq

namespace ChildUpdate

def failed (desired : Child) (error : String) : ChildUpdate :=
  ⟨desired.kind, desired.label, none, .unchanged, some error⟩

def done (desired manifest : Child) (operation : Operation) : ChildUpdate :=
  ⟨desired.kind, desired.label, some manifest, operation, none⟩

def isUnchanged (u : ChildUpdate) : Bool := u.error.isNone && u.operation = .unchanged

/-- The body of the object, if it is of a kind that has been asked for. -/
def bodyOf? (kinds : List ChildKind) (u : ChildUpdate) : Option Json :=
  u.manifest.bind fun c => if kinds.contains c.kind then some c.body else none

end ChildUpdate

/-- A part that failed: what it is and why. -/
structure Failure where
  part : String
  reason : String
  deriving DecidableEq

def Failure.message (f : Failure) : String := f.part ++ ": " ++ f.reason

structure ChildUpdates where
  statefulSet : ChildUpdate
  service : ChildUpdate
  ingress : Option ChildUpdate
  claim : ChildUpdate
  dataSourceClaims : List ChildUpdate
  deriving DecidableEq

namespace ChildUpdates

def toList (u : ChildUpdates) : List ChildUpdate :=
  [u.statefulSet, u.service, u.claim] ++ u.ingress.toList ++ u.dataSourceClaims

/-- Nothing was written and nothing failed. -/
def allUnchanged (u : ChildUpdates) : Bool := u.toList.all ChildUpdate.isUnchanged

def failures (u : ChildUpdates) : List Failure :=
  u.toList.filterMap fun c => c.error.map fun reason => ⟨c.label, reason⟩

def statefulSet? (u : ChildUpdates) : Option Json := u.statefulSet.bodyOf? [.statefulSet]

def service? (u : ChildUpdates) : Option Json := u.service.bodyOf? [.service]

def ingress? (u : ChildUpdates) : Option Json := u.ingress.bind fun c => c.bodyOf? [.ingress]

/-- The session claim and the data source claims, as far as they could be read. -/
def claims (u : ChildUpdates) : List Json :=
  (u.claim :: u.dataSourceClaims).filterMap fun c => c.bodyOf? [.claim, .dataSourceClaim]

end ChildUpdates

end SessionOperator
