import SessionOperator.Diagnosis
import SessionOperator.Session.Manifest
import SessionOperator.Status.Conditions
import SessionOperator.Status.State

/-!
# The status of a session

The status that a pass records, as a function of the session, of what happened to its children, of what was seen of
its pod and of the time.

* `Status.failureReason`: the first reason to fail among pod, events, claims and routes;
* `Status.latch`: since when a predicate has held without a break;
* `Status.build`: the whole status, but for the date of the next hibernation.
-/

namespace SessionOperator

/-- What a pass has seen of the pod; its events are oldest first. -/
structure Observations where
  pod : Option Json
  events : List Json
  idle : Bool
  deriving DecidableEq

namespace Status

/-- All reasons to fail, empty ones included. -/
def failureReasons (updates : ChildUpdates) (seen : Observations) : List String :=
  (seen.pod.map Diagnosis.pod).toList ++ [Diagnosis.scheduling seen.events] ++ updates.claims.map Diagnosis.claim ++
    (updates.service?.map Diagnosis.route).toList ++ (updates.ingress?.map Diagnosis.route).toList

def failureReason (updates : ChildUpdates) (seen : Observations) : String :=
  ((failureReasons updates seen).find? fun reason => reason ≠ "").getD ""

/-- The time at which a predicate became true; kept while it holds. -/
def latch (active : Bool) (since : Option String) (now : Instant) : Option String :=
  if active then some (since.getD now.stamp) else none

/-- The pod, unless it is being deleted. -/
def livePod (seen : Observations) : Option Json := seen.pod.filter fun p => !Diagnosis.isDeleting p

/-- Why the session fails; a session that is being deleted does not. -/
def reason (s : Session) (updates : ChildUpdates) (seen : Observations) : String :=
  if s.deleting then "" else failureReason updates seen

def stateInputs (s : Session) (updates : ChildUpdates) (seen : Observations) : StateInputs where
  deleting := s.deleting
  hibernationRequested := s.spec.hibernated
  replicaTarget := updates.replicaTarget
  failing := reason s updates seen ≠ ""
  workloadReady := updates.workloadReady
  podReady := (livePod seen).any Pod.isReady
  podDegraded := (livePod seen).any Pod.isDegraded

def build (s : Session) (updates : ChildUpdates) (seen : Observations) (now : Instant) : SessionStatus :=
  let previous := s.recorded
  let state := (stateInputs s updates seen).state
  let hibernated := state = .hibernated
  let failing := state = .failed
  let idle := seen.idle && !hibernated && !s.deleting
  let counts := fun (c : ContainerCounts) => if hibernated || s.deleting then .zero else c
  { conditions := Conditions.advance previous.conditions state s.spec.ingress.isSome updates.ingress?.isSome now
    state := state
    url := s.url?.getD ""
    containerCounts := counts (Pod.mainCounts (livePod seen))
    initContainerCounts := counts (Pod.initCounts (livePod seen))
    idle := idle
    idleSince := latch idle previous.idleSince now
    failingSince := latch failing previous.failingSince now
    hibernatedSince := latch hibernated previous.hibernatedSince now
    willHibernateAt := none
    error := if failing then some (reason s updates seen) else none }

end Status

end SessionOperator
