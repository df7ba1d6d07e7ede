import SessionOperator.Children.Update
import SessionOperator.Session.Basic

/-!
# Containers and the state of a session

How many containers of a pod are ready, and which state a session is in.

* `Pod.initCounts`, `Pod.mainCounts`: how many init and main containers a pod has, and how many of them are ready;
* `StateInputs.state`: the first rule that applies decides the state.
-/

namespace SessionOperator

structure StateInputs where
  deleting : Bool
  hibernationRequested : Bool
  /-- Replicas that the live stateful set asks for. -/
  replicaTarget : Option Int
  failing : Bool
  /-- One of one replicas is ready and no child was written in this pass. -/
  workloadReady : Bool
  podReady : Bool
  podDegraded : Bool
  deriving DecidableEq

def StateInputs.state (i : StateInputs) : SessionState :=
  if i.deleting then .notReady
  else if i.hibernationRequested ∧ i.replicaTarget = some 0 then .hibernated
  else if i.failing then .failed
  else if i.workloadReady ∧ i.podReady then .running
  else if i.podDegraded then .runningDegraded
  else .notReady

namespace Pod

def terminated? (status : Json) : Option Json := status.path? ["state", "terminated"]

/-- An init container is ready when it has completed. -/
def initContainerReady (status : Json) : Bool :=
  (terminated? status).any fun t => t.number? "exitCode" = some 0 && t.text? "reason" = some "Completed"

/-- A main container is ready when it runs and says so, or has ended well. -/
def containerReady (status : Json) : Bool :=
  (status.flag? "ready" = some true && (status.path? ["state", "running"]).isSome) ||
    (terminated? status).any fun t => t.number? "exitCode" = some 0

/-- The largest number that is recorded as a count; larger ones are recorded as this one. -/
def largestCount : Nat := 2147483647

def count (statuses : List Json) (ready : Json → Bool) : ContainerCounts where
  ready := (min (statuses.filter ready).length largestCount : Nat)
  total := (min statuses.length largestCount : Nat)

def statusOf (pod : Option Json) : Json := (pod.bind fun p => p.get? "status").getD .empty

def initCounts (pod : Option Json) : ContainerCounts :=
  count ((statusOf pod).list "initContainerStatuses") initContainerReady

def mainCounts (pod : Option Json) : ContainerCounts := count ((statusOf pod).list "containerStatuses") containerReady

def phase (pod : Json) : String := ((statusOf (some pod)).text? "phase").getD ""

def isReady (pod : Json) : Bool :=
  (phase pod = "Running" || phase pod = "Succeeded") && (initCounts (some pod)).allReady &&
    (mainCounts (some pod)).allReady

/-- Some but not all main containers are ready. -/
def isDegraded (pod : Json) : Bool :=
  let main := mainCounts (some pod)
  phase pod = "Running" && (initCounts (some pod)).allReady && 0 < main.ready && main.ready < main.total

end Pod

/-- Replicas that the live stateful set asks for. -/
def ChildUpdates.replicaTarget (u : ChildUpdates) : Option Int :=
  u.statefulSet?.bind fun body => (body.path? ["spec", "replicas"]).bind Json.int?

/-- The only replica is ready, and no child was written or failed. -/
def ChildUpdates.workloadReady (u : ChildUpdates) : Bool :=
  let status := u.statefulSet?.bind fun body => body.get? "status"
  status.any (fun s => s.number? "replicas" = some 1 && s.number? "readyReplicas" = some 1) && u.allUnchanged

end SessionOperator
