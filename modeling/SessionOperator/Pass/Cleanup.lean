import SessionOperator.Pass.Outcome
import SessionOperator.Session.Basic

/-!
# Cleaning up after a session

Before a session goes away it is reported as not ready, and the secrets that it adopted are deleted.  Its children need
no care: the cluster removes them together with their owner.

* `Pass.parted`: the status of a session that goes away;
* `Pass.cleanup`: the whole cleanup.
-/

namespace SessionOperator

namespace Pass

def parted (status : SessionStatus) : SessionStatus :=
  { status with
    state := .notReady
    containerCounts := .zero
    initContainerCounts := .zero
    idle := false
    willHibernateAt := none }

/-- Deletes secrets, going on after failures, and lists the failures. -/
def deleteSecrets : List String → Controlled (List Failure)
  | [] => return []
  | name :: rest => do
    let answer : Except ApiError Bool ← request (.deleteSecret name)
    let failures ← deleteSecrets rest
    match answer with
    | .ok _ => return failures
    | .error e => return ⟨"secret/" ++ name, e.message⟩ :: failures

def releaseSecrets (s : Session) : Controlled Outcome := do
  let failures ← deleteSecrets s.adoptedSecrets
  return if failures = [] then .ok .onChange else .error (.children failures)

def cleanup (s : Session) : Controlled Outcome := do
  let status := parted s.recorded
  if status = s.recorded then releaseSecrets s
  else
    let answer : Except ApiError Unit ← request (.patchStatus s.name status)
    match answer with
    | .ok _ => releaseSecrets s
    | .error e => return .error (.cluster e)

end Pass

end SessionOperator
