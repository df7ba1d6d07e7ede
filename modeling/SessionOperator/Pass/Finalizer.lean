import SessionOperator.Pass.Apply
import SessionOperator.Pass.Cleanup

/-!
# Finalizers

A session is kept from disappearing before it has been cleaned up by a finalizer, a mark in its metadata that the
controller sets before its first pass and removes after the cleanup.  Both edits test what they rely on, so that they
fail when the session has changed in the meantime.

* `Pass.reconcile`: a pass, a cleanup or the setting of the mark, whichever is due.  The pass goes about the children at
  the same time.
-/

namespace SessionOperator

namespace Pass

def finalizerName : String := "sessions.platform/finalizer"

def operation (op path : String) (value : Option Json) : Json :=
  .objectOfSome [("op", some (.str op)), ("path", some (.str path)), ("value", value)]

def addMark (finalizers : List String) : Json :=
  if finalizers.isEmpty then
    .arr [operation "test" "/metadata/finalizers" (some .null),
      operation "add" "/metadata/finalizers" (some (.arr [.str finalizerName]))]
  else
    .arr [operation "test" "/metadata/finalizers" (some (.ofStrings finalizers)),
      operation "add" "/metadata/finalizers/-" (some (.str finalizerName))]

def removeMark (index : Nat) : Json :=
  let path := "/metadata/finalizers/" ++ toString index
  .arr [operation "test" path (some (.str finalizerName)), operation "remove" path none]

/-- Edits the finalizers of a session. -/
def edit (name : String) (operations : Json) (outcome : Outcome) : Controlled Outcome := do
  let answer : Except ApiError Unit ← request (.editSession name operations)
  match answer with
  | .ok _ => return outcome
  | .error e => return .error (.cluster e)

/-- Cleans up and, when that has worked, removes the mark. -/
def release (s : Session) (index : Nat) : Controlled Outcome :=
  match s.name? with
  | none => return .error .missingObjectKey
  | some name => do
    let outcome ← cleanup s
    match outcome with
    | .ok next => edit name (removeMark index) (.ok next)
    | .error e => return .error e

def reconcile (s : Session) (config : Config) (now : Instant) : Controlled Outcome :=
  let marked := s.finalizers.contains finalizerName
  if marked && !s.deleting then applySideBySide s config now
  else if marked then release s (s.finalizers.idxOf finalizerName)
  else if s.deleting then return .ok .onChange
  else
    match s.name? with
    | none => return .error .missingObjectKey
    | some name => edit name (addMark s.finalizers) (.ok .onChange)

end Pass

end SessionOperator
