import SessionOperator.Session.Basic
import SessionOperator.Time.DurationText
import SessionOperator.Time.Rfc3339
import SessionOperator.Text.Trim

/-!
# Culling

When a session is hibernated and when a hibernated one is deleted.  Each rule allows a session to stay in some
condition for a time; a rule whose time is zero is disabled.

* `CullingPolicy.ofSpec`: the thresholds of a session, or why they cannot be read;
* `CullingPolicy.needsScaleDown`, `CullingPolicy.needsDeletion`: the decisions at a point of time;
* `CullingPolicy.hibernationDate`: the earliest date at which some hibernation rule fires.
-/

namespace SessionOperator

structure CullingPolicy where
  maxAge : Duration
  maxIdle : Duration
  maxStarting : Duration
  maxFailed : Duration
  maxHibernated : Duration
  lastInteraction : Option Instant
  deriving DecidableEq

inductive PolicyError where
  | lastInteraction (text : String)
  | duration (field text : String) (cause : DurationError)
  deriving DecidableEq

def PolicyError.message : PolicyError → String
  | .lastInteraction text => "culling.lastInteraction '" ++ text ++ "' is not RFC3339"
  | .duration field text cause => "culling." ++ field ++ " '" ++ text ++ "': " ++ cause.message

/-- The time of a recorded timestamp; absent and unreadable ones count as none. -/
def recordedTime (text : Option String) : Option Instant := text.bind Instant.parse?

/-- The longest threshold that leads to a date: 2 ^ 63 - 1 milliseconds. -/
def longestDated : Duration := 9223372036854775807 * 1000000

/-- Whether an enabled threshold has been exceeded since a point of time. -/
def exceeds (threshold : Duration) (now : Instant) (start : Option Instant) : Bool :=
  threshold ≠ 0 && start.any fun start => threshold < now.elapsed start

/-- The date at which an enabled threshold is reached; none if the calendar does not reach that far. -/
def deadline (start : Option Instant) (threshold : Duration) : Option Instant :=
  if threshold = 0 ∨ longestDated < threshold then none else start.bind fun start => start.add? threshold

/-- The reasons for which a session is hibernated. -/
inductive HibernationRule where
  | maxAge
  | maxStarting
  | maxFailed
  | maxIdle
  deriving DecidableEq

def HibernationRule.name : HibernationRule → String
  | .maxAge => "MaxAge"
  | .maxStarting => "MaxStartingDuration"
  | .maxFailed => "MaxFailedDuration"
  | .maxIdle => "MaxIdleDuration"

/-- Of two candidates the earlier one; the first if they are at the same time. -/
def earlier (best : Option (HibernationRule × Instant)) (next : HibernationRule × Instant) :
    Option (HibernationRule × Instant) :=
  match best with
  | some b => if next.2.before b.2 then some next else some b
  | none => some next

namespace CullingPolicy

/-- A threshold; absent and blank ones disable their rule. -/
def readThreshold (field : String) (text : Option String) : Except PolicyError Duration :=
  match text.map Text.trim with
  | none => .ok 0
  | some t => if t.isEmpty then .ok 0 else (Duration.parse t).mapError fun e => .duration field t e

def readInteraction : Option String → Except PolicyError (Option Instant)
  | none => .ok none
  | some text =>
    if text.isEmpty then .ok none
    else
      match Instant.parse? text with
      | some t => .ok (some t)
      | none => .error (.lastInteraction text)

def ofSpec (c : CullingSpec) : Except PolicyError CullingPolicy := do
  let lastInteraction ← readInteraction c.lastInteraction
  let maxAge ← readThreshold "maxAge" c.maxAge
  let maxIdle ← readThreshold "maxIdleDuration" c.maxIdleDuration
  let maxStarting ← readThreshold "maxStartingDuration" c.maxStartingDuration
  let maxFailed ← readThreshold "maxFailedDuration" c.maxFailedDuration
  let maxHibernated ← readThreshold "maxHibernatedDuration" c.maxHibernatedDuration
  .ok { maxAge, maxIdle, maxStarting, maxFailed, maxHibernated, lastInteraction }

/-- Start of the idle window; a later interaction of the user restarts it. -/
def idleOrigin (p : CullingPolicy) (status : SessionStatus) : Option Instant :=
  (recordedTime status.idleSince).map fun idleSince =>
    match p.lastInteraction with
    | some interaction => if idleSince.before interaction then interaction else idleSince
    | none => idleSince

/-- Whether the session must be hibernated now. -/
def needsScaleDown (p : CullingPolicy) (now : Instant) (startedAt : Option Instant) (status : SessionStatus) : Bool :=
  if status.state = .hibernated then false
  else
    let starting : Bool := status.state = .notReady
    let byAge := exceeds p.maxAge now startedAt
    let byStarting := starting && exceeds p.maxStarting now startedAt
    let byIdle := exceeds p.maxIdle now (p.idleOrigin status)
    let byFailing := exceeds p.maxFailed now (recordedTime status.failingSince)
    byAge || byStarting || byIdle || byFailing

/-- Whether a hibernated session has been hibernated for too long. -/
def needsDeletion (p : CullingPolicy) (now : Instant) (status : SessionStatus) : Bool :=
  status.state = .hibernated && exceeds p.maxHibernated now (recordedTime status.hibernatedSince)

/-- The date of each rule, in the order in which the rules are weighed. -/
def dates (p : CullingPolicy) (startedAt : Option Instant) (status : SessionStatus) :
    List (HibernationRule × Option Instant) :=
  let starting : Bool := status.state = .notReady
  [(.maxAge, deadline startedAt p.maxAge),
    (.maxStarting, deadline (startedAt.filter fun _ => starting) p.maxStarting),
    (.maxFailed, deadline (recordedTime status.failingSince) p.maxFailed),
    (.maxIdle, deadline (p.idleOrigin status) p.maxIdle)]

/-- The rules that have a date, with their dates. -/
def candidates (p : CullingPolicy) (startedAt : Option Instant) (status : SessionStatus) :
    List (HibernationRule × Instant) :=
  (p.dates startedAt status).filterMap fun (rule, date) => date.map fun date => (rule, date)

def earliest (p : CullingPolicy) (startedAt : Option Instant) (status : SessionStatus) :
    Option (HibernationRule × Instant) :=
  (p.candidates startedAt status).foldl earlier none

/-- The date at which the first rule fires; a session that is hibernated already has none. -/
def hibernationDate (p : CullingPolicy) (startedAt : Option Instant) (status : SessionStatus) : Option Instant :=
  if status.state = .hibernated then none else (p.earliest startedAt status).map (·.2)

/-- The candidates and the choice among them in words; nothing is weighed for a hibernated session. -/
def decisionLog (p : CullingPolicy) (startedAt : Option Instant) (status : SessionStatus) : Option String :=
  if status.state = .hibernated then none
  else
    let text := fun (c : HibernationRule × Instant) => c.1.name ++ ":" ++ c.2.stamp
    let choice := match p.earliest startedAt status with
      | some c => "=> " ++ text c
      | none => "=> NONE"
    some (" ".intercalate ((p.candidates startedAt status).map text ++ [choice]))

end CullingPolicy

end SessionOperator
