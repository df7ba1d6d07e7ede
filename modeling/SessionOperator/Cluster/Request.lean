import SessionOperator.Child
import SessionOperator.Cluster.Target
import SessionOperator.Json.Cursor
import SessionOperator.Program
import SessionOperator.Text.Quoted

/-!
# Requests to the cluster

Everything that the controller asks the cluster, and the probe that tells whether a session is idle.  All requests are
about one namespace.  A request that reads an object is answered by nothing when there is no such object.

* `ApiError.message`: the wording of failures;
* `Request.Answer`: what each request is answered by;
* `Controlled`, `request`: the programs of the controller and their only step.
-/

namespace SessionOperator

inductive ApiError where
  /-- The cluster refused, with its own account of why. -/
  | refused (status message reason : String) (code : Nat)
  /-- The cluster answered with something that cannot be read. -/
  | unreadable (fault : Json.Misread)
  /-- The request could not be put together. -/
  | unsent (fault : Target.Fault)
  deriving DecidableEq

namespace ApiError

def message : ApiError → String
  | refused status message reason code =>
    "ApiError: " ++ message ++ ": " ++ reason ++ " (ErrorResponse \x7b status: " ++ Text.quoted status ++ ", message: " ++
      Text.quoted message ++ ", reason: " ++ Text.quoted reason ++ ", code: " ++ toString code ++ " \x7d)"
  | unreadable fault => "Error deserializing response: " ++ fault.message
  | unsent fault => "Failed to build request: " ++ fault.message

/-- Whether the cluster says that the object does not exist. -/
def isGone : ApiError → Bool
  | refused _ _ _ code => code = 404
  | unreadable _ | unsent _ => false

end ApiError

inductive Request where
  | getChild (kind : ChildKind) (name : String)
  | createChild (child : Child)
  /-- Applies a merge patch. -/
  | patchChild (kind : ChildKind) (name : String) (patch : Json)
  | getPod (name : String)
  /-- The events whose subject is a pod. -/
  | listPodEvents (pod : String)
  | probeIdle (session : Session)
  /-- Replaces the recorded status of a session. -/
  | patchStatus (name : String) (status : SessionStatus)
  /-- Sets `spec.hibernated` of a session. -/
  | hibernateSession (name : String)
  /-- Deletes a session together with what belongs to it; a session that is gone already counts as deleted. -/
  | deleteSession (name : String)
  /-- Deletes a secret and tells whether there was one. -/
  | deleteSecret (name : String)
  /-- Applies a list of guarded edits to a session. -/
  | editSession (name : String) (operations : Json)
  deriving DecidableEq

namespace Request

/-- What a request is answered by when it succeeds. -/
abbrev Result : Request → Type
  | getChild .. => Option Child
  | createChild .. => Child
  | patchChild .. => Child
  | getPod .. => Option Json
  | listPodEvents .. => List Json
  | probeIdle .. => Bool
  | deleteSecret .. => Bool
  | patchStatus .. | hibernateSession .. | deleteSession .. | editSession .. => Unit

/-- The probe always answers; every other request may fail. -/
abbrev Answer : Request → Type
  | probeIdle _ => Bool
  | r => Except ApiError r.Result

end Request

abbrev clusterInterface : Interface := ⟨Request, Request.Answer⟩

/-- A program of the controller. -/
abbrev Controlled (α : Type) := Program clusterInterface α

/-- Sends one request. -/
def request (r : Request) : Controlled r.Answer := Program.ask r .done

end SessionOperator
