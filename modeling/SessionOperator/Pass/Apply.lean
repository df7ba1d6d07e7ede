import SessionOperator.Children.Reconcile
import SessionOperator.Pass.Outcome
import SessionOperator.Status.Build

/-!
# One pass over a live session

A pass brings the children in line, looks at the pod, records the status if it changed, and then deletes or hibernates
the session if its culling policy says so.  Failing children stop nothing; they are reported at the end.

* `Pass.prepare`: what a pass needs to know before it asks the cluster anything, or why it cannot start;
* `Pass.observe`, `Pass.record`, `Pass.cull`: the parts of a pass;
* `Pass.apply`: the whole pass;
* `Pass.applySideBySide`: the pass that goes about the children at the same time.
-/

namespace SessionOperator

namespace Pass

/-- What a pass works with. -/
structure Plan where
  owner : Json
  policy : CullingPolicy
  scope : MergeScope
  children : ChildSet

def prepare (s : Session) (config : Config) : Except PassError Plan :=
  match s.owner? with
  | none => .error .missingObjectKey
  | some owner => do
    let policy ← (CullingPolicy.ofSpec s.spec.culling).mapError .policy
    let children ← (ChildSet.ofSession s config).mapError .serialization
    .ok { owner, policy, scope := .ofStrategy s.spec.reconcileStrategy s.recorded.state, children }

/-- What a pass has seen of the pod, and why the pod could not be read if it could not. -/
structure Sighting where
  seen : Observations
  podError : Option ApiError

def listEvents (s : Session) : Controlled (List Json) := do
  let events : Except ApiError (List Json) ← request (.listPodEvents s.podName)
  return Diagnosis.sortEvents (events.toOption.getD [])

/-- The probe is asked only about sessions that are to run. -/
def probe (s : Session) : Controlled Bool := if s.spec.hibernated then return false else request (.probeIdle s)

/-- The events count as none when they cannot be read. -/
def observe (s : Session) : Controlled Sighting := do
  let pod : Except ApiError (Option Json) ← request (.getPod s.podName)
  match pod with
  | .error e => return ⟨⟨none, [], false⟩, some e⟩
  | .ok none => return ⟨⟨none, [], false⟩, none⟩
  | .ok (some pod) =>
    let events ← listEvents s
    let idle ← probe s
    return ⟨⟨some pod, events, idle⟩, none⟩

def creationTime (metadata : Json) : Option Instant :=
  (metadata.text? "creationTimestamp").bind fun t => (Instant.parseLenient t).toOption

/-- When the pod was created, or else the session. -/
def startedAt (s : Session) (pod : Option Json) : Option Instant :=
  ((pod.bind fun p => p.get? "metadata").bind creationTime).orElse fun _ => creationTime s.metadata

/-- The status that a pass computes. -/
def status (s : Session) (policy : CullingPolicy) (updates : ChildUpdates) (seen : Observations) (now : Instant) :
    SessionStatus :=
  let built := Status.build s updates seen now
  if built.state ≠ .hibernated ∧ !s.spec.hibernated then
    { built with willHibernateAt := (policy.hibernationDate (startedAt s seen.pod) built).map Instant.stamp }
  else built

/-- Records a status that differs from the recorded one. -/
def record (s : Session) (status : SessionStatus) : Controlled (Except ApiError Unit) :=
  if s.status = some status then return .ok () else request (.patchStatus s.name status)

/-- Whether the session is to be hibernated by this pass. -/
def mustHibernate (s : Session) (policy : CullingPolicy) (pod : Option Json) (status : SessionStatus) (now : Instant) :
    Bool :=
  !s.spec.hibernated && policy.needsScaleDown now (startedAt s pod) status

/-- The end of a pass that leaves the session in place. -/
def conclude (s : Session) (config : Config) (updates : ChildUpdates) (status : SessionStatus) : Outcome :=
  if updates.failures ≠ [] then .error (.children updates.failures)
  else if s.status = some status then .ok (.after config.reconcile.requeueSeconds)
  else .ok (.after config.reconcile.statusChangedRequeueSeconds)

/-- Deletes or hibernates the session if it is time. -/
def cull (s : Session) (config : Config) (policy : CullingPolicy) (updates : ChildUpdates) (pod : Option Json)
    (status : SessionStatus) (now : Instant) : Controlled Outcome := do
  if policy.needsDeletion now status then
    let answer : Except ApiError Unit ← request (.deleteSession s.name)
    match answer with
    | .ok _ => return .ok .onChange
    | .error e => return .error (.cluster e)
  else if mustHibernate s policy pod status now then
    let answer : Except ApiError Unit ← request (.hibernateSession s.name)
    match answer with
    | .ok _ => return conclude s config updates status
    | .error e => return .error (.cluster e)
  else return conclude s config updates status

/-- What follows the reconciliation of the children and the look at the pod. -/
def finish (s : Session) (config : Config) (policy : CullingPolicy) (updates : ChildUpdates) (sighting : Sighting)
    (now : Instant) : Controlled Outcome := do
  let status := status s policy updates sighting.seen now
  let recorded ← record s status
  match recorded, sighting.podError with
  | .error e, _ => return .error (.cluster e)
  | .ok _, some e => return .error (.cluster e)
  | .ok _, none => cull s config policy updates sighting.seen.pod status now

/-- A pass by a way to bring the children in line. -/
def applyBy (reconcile : ChildSet → Json → MergeScope → Controlled ChildUpdates) (s : Session) (config : Config)
    (now : Instant) : Controlled Outcome :=
  match prepare s config with
  | .error e => return .error e
  | .ok plan => do
    let updates ← reconcile plan.children plan.owner plan.scope
    let sighting ← observe s
    finish s config plan.policy updates sighting now

def apply (s : Session) (config : Config) (now : Instant) : Controlled Outcome :=
  applyBy ChildSet.reconcile s config now

def applySideBySide (s : Session) (config : Config) (now : Instant) : Controlled Outcome :=
  applyBy ChildSet.reconcileSideBySide s config now

end Pass

end SessionOperator
