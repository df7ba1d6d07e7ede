import SessionOperator.Session.Basic
import SessionOperator.Text.Quoted
import SessionOperator.Time.Rfc3339

/-!
# Diagnosis

Why an object fails, read off its status.  A reason is a text, and the empty text means that nothing is wrong; an
object that is being deleted has no reason to fail.

* `Diagnosis.pod`, `Diagnosis.route`, `Diagnosis.claim`: the reasons of single objects;
* `Diagnosis.scheduling`: the reason that the events of a pod give, oldest event first;
* `Diagnosis.sortEvents`: events in that order.
-/

namespace SessionOperator

namespace Diagnosis

def isDeleting (object : Json) : Bool := (object.path? ["metadata", "deletionTimestamp"]).isSome

/-! ### Pods -/

/-- What every container waits for while it starts. -/
def benignWaitingReasons : List String := ["ContainerCreating", "PodInitializing"]

def imagePullReasons : List String := ["ErrImagePull", "ImagePullBackOff"]

def textOr (object : Json) (key : String) : String := (object.text? key).getD ""

/-- Why a container that waits does not start. -/
def waitingReason (status waiting : Json) : Option String :=
  let name := textOr status "name"
  let image := textOr status "image"
  let reason := textOr waiting "reason"
  let message := textOr waiting "message"
  if benignWaitingReasons.contains reason then none
  else if imagePullReasons.contains reason then
    if image = "" then some ("failed to pull the image for container " ++ name ++ ": " ++ message)
    else some ("failed to pull image " ++ image ++ " for container " ++ name ++ ": " ++ message)
  else if reason = "CrashLoopBackOff" then
    some ("the command in container " ++ name ++ " keeps crashing, which can happen when the disk is full; " ++
      "last reported reason: " ++ Text.quoted message)
  else if message ≠ "" then some ("the container " ++ name ++ " is failing because " ++ message)
  else some ("the container " ++ name ++ " is failing because " ++ reason)

def exitCode (terminated : Json) : Int := (terminated.number? "exitCode").getD 0

/-- Why a container ended, unless it ended well. -/
def terminatedReason (status terminated : Json) : Option String :=
  let name := textOr status "name"
  let message := textOr terminated "message"
  if exitCode terminated = 0 then none
  else if message ≠ "" then some ("the container " ++ name ++ " terminated with an error: " ++ message)
  else some ("the command in container " ++ name ++ " exited with code " ++ toString (exitCode terminated) ++
    ", likely because the disk ran out of space")

def container (status : Json) : Option String :=
  if status.flag? "started" = some true ∧ status.flag? "ready" = some true then none
  else
    (status.get? "state").bind fun state =>
      match state.get? "waiting" with
      | some waiting => waitingReason status waiting
      | none => (state.get? "terminated").bind fun terminated => terminatedReason status terminated

/-- Init containers come first, as they run first. -/
def containerStatuses (status : Json) : List Json :=
  status.list "initContainerStatuses" ++ status.list "containerStatuses"

def isDisruption (condition : Json) : Bool :=
  condition.text? "type" = some "DisruptionTarget" && condition.text? "status" = some "True"

def disruptionReason (condition : Json) : String :=
  if textOr condition "message" ≠ "" then textOr condition "message" else textOr condition "reason"

/-- The first container that fails, or else the disruption that the pod is a target of. -/
def pod (pod : Json) : String :=
  if isDeleting pod then ""
  else
    match pod.get? "status" with
    | none => ""
    | some status =>
      match (containerStatuses status).findSome? container with
      | some reason => reason
      | none => (((status.list "conditions").find? isDisruption).map disruptionReason).getD ""

/-! ### Routes and claims -/

/-- The ports of the load balancers of a service or an ingress, in order. -/
def balancerPorts (object : Json) : List Json :=
  (((object.path? ["status", "loadBalancer"]).map fun b => b.list "ingress").getD []).flatMap fun i => i.list "ports"

/-- The first error of a load balancer port. -/
def route (object : Json) : String :=
  if isDeleting object then "" else ((balancerPorts object).findSome? fun port => port.text? "error").getD ""

def infeasibleStates : List String := ["NodeResizeInfeasible", "ControllerResizeInfeasible"]

def resizeConditions : List String := ["Resizing", "FileSystemResizePending"]

/-- An allocated resource whose resize cannot be done. -/
def infeasible (status : Json) : Option (String × String) :=
  ((status.get? "allocatedResourceStatuses").getD .empty).entries.findSome? fun e =>
    match e.2 with
    | .str state => if infeasibleStates.contains state then some (e.1, state) else none
    | _ => none

def isFailedResize (condition : Json) : Bool :=
  resizeConditions.contains (textOr condition "type") && condition.text? "status" = some "False"

/-- Why a claim that is not bound cannot be resized. -/
def claim (claim : Json) : String :=
  if isDeleting claim then ""
  else
    match claim.get? "status" with
    | none => ""
    | some status =>
      if status.text? "phase" = some "Bound" then ""
      else
        match infeasible status with
        | some (resource, state) =>
          "the claim " ++ Text.quoted (((claim.path? ["metadata", "name"]).bind Json.str?).getD "") ++
            " failed with status " ++ Text.quoted state ++ " for resource " ++ resource
        | none => (((status.list "conditions").find? isFailedResize).map fun c => textOr c "message").getD ""

/-! ### Events -/

def schedulingReasons : List String := ["FailedScheduling", "Scheduled", "TriggeredScaleUp"]

def timeOf (event : Json) (key : String) : Option Instant :=
  (event.text? key).bind fun s => (Instant.parseLenient s).toOption

/-- The time of an event, from the most precise of its timestamps. -/
def eventTime (event : Json) : Option Instant :=
  ((timeOf event "eventTime").orElse fun _ => timeOf event "lastTimestamp").orElse fun _ =>
    timeOf event "firstTimestamp"

/-- Events without a time count as oldest. -/
def notAfter (a b : Option Instant) : Bool :=
  match a, b with
  | none, _ => true
  | some _, none => false
  | some a, some b => !b.before a

/-- Oldest first; events of the same time keep their order. -/
def sortEvents (events : List Json) : List Json :=
  events.mergeSort fun a b => notAfter (eventTime a) (eventTime b)

def isScheduling (event : Json) : Bool := schedulingReasons.contains (textOr event "reason")

/-- A failure to schedule counts only while it is the latest scheduling event. -/
def scheduling (events : List Json) : String :=
  match (events.filter isScheduling).getLast? with
  | some event =>
    if event.text? "reason" = some "FailedScheduling" then "Failed scheduling: " ++ textOr event "message" else ""
  | none => ""

end Diagnosis

end SessionOperator
