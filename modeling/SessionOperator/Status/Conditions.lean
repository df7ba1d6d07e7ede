import SessionOperator.Session.Basic
import SessionOperator.Time.Rfc3339

/-!
# Conditions

The record of each condition of a session: what it is and since when.  A record is replaced only when its status
changes, so its time is that of the last change.

* `Conditions.initial`: the records of a new session;
* `Conditions.advance`: the records after a pass, one for each type, in a fixed order.
-/

namespace SessionOperator

namespace Conditions

def types : List ConditionType := [.ready, .routingReady]

def initial (now : Instant) : List Condition :=
  types.map fun type => ⟨type, "False", "SessionCreated", "the session was just created", some now.stamp⟩

def ofFlag (type : ConditionType) (holds : Bool) (reason message : String) (now : Instant) : Condition :=
  ⟨type, if holds then "True" else "False", reason, message, some now.stamp⟩

def ready (state : SessionState) (now : Instant) : Condition :=
  ofFlag .ready (state = .running) state.name ("the session is " ++ state.description) now

/-- An ingress that is declared but not there leaves the question open. -/
def routing (declared live : Bool) (now : Instant) : Option Condition :=
  if !declared then some (ofFlag .routingReady false "NoIngress" "the session has no ingress" now)
  else if live then some (ofFlag .routingReady true "IngressReady" "the ingress of the session exists" now)
  else none

/-- The latest record of a type. -/
def latest (records : List Condition) (type : ConditionType) : Option Condition :=
  records.reverse.find? fun c => c.type = type

/-- A new record takes the place of one with another status. -/
def replace (prior next : Option Condition) : Option Condition :=
  match prior, next with
  | some p, some n => if p.status = n.status then some p else some n
  | none, next => next
  | prior, none => prior

/-- What this pass says about a condition. -/
def observed (state : SessionState) (declared live : Bool) (now : Instant) : ConditionType → Option Condition
  | .ready => some (ready state now)
  | .routingReady => routing declared live now

def advance (previous : List Condition) (state : SessionState) (declared live : Bool) (now : Instant) :
    List Condition :=
  let seed := if previous.isEmpty then initial now else previous
  types.filterMap fun type => replace (latest seed type) (observed state declared live now type)

end Conditions

end SessionOperator
