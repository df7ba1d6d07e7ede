import SessionOperator.Proofs.Children.Statuses
import SessionOperator.Proofs.Pass.Conduct
import SessionOperator.Proofs.Pass.Restraint
import SessionOperator.Proofs.Status.Lifecycle

/-!
# Passes during an outage

A pass computes its status from what it could read, and what it could not read counts as not there.  So when the
stateful set, the pod or its events cannot be read for a while, the session counts as hibernated or as failed only as
far as the rest shows it, and a timestamp that the status has borne so far may be dropped.

* `Cluster.glimpse`: what a pass sees of the pod when calls fail; `Pass.observe_glimpse`;
* `Cluster.ShowsFailure`: something that could be read gives a reason to fail;
* `Pass.recorded_of_shaky`: what stands on record after a pass of which only looks have failed;
* `Pass.timestamps_in_outage`: which of the timestamps that a pass keeps are kept when looks fail.
-/

namespace SessionOperator

open Program Child

namespace Cluster

/-- What a pass sees of the pod when some of its calls have failed: no pod that could not be read, and no events that
could not be listed. -/
def glimpse (c : Cluster) (s : Session) (calls : List clusterInterface.Call) : Observations :=
  if (Request.getPod s.podName).lost calls then ⟨none, [], false⟩
  else if (Request.listPodEvents s.podName).lost calls then { c.sight s with events := [] }
  else c.sight s

theorem glimpse_of_read {c : Cluster} {s : Session} {calls : List clusterInterface.Call}
    (hpod : (Request.getPod s.podName).lost calls = false)
    (hevents : (Request.listPodEvents s.podName).lost calls = false) :
    c.glimpse s calls = c.sight s := by
  unfold glimpse
  rw [hpod, hevents]
  rfl

/-- The pod and the events that were seen, or the children in the cluster, give a reason to fail. -/
def ShowsFailure (c : Cluster) (children : ChildSet) (seen : Observations) : Prop :=
  ∃ reason ∈ (seen.pod.map Diagnosis.pod).toList ++ [Diagnosis.scheduling seen.events] ++ children.reasons c,
    reason ≠ ""

/-- Calls about children leave everything else as it was, whether they fail or not. -/
theorem FaultyRun.frame {c c' : Cluster} {calls : List clusterInterface.Call} (h : FaultyRun c calls c')
    (hchild : ∀ call ∈ calls, Request.isAboutChild call.question = true) :
    c' = { c with children := c'.children, version := c'.version } := by
  induction h with
  | nil c => rfl
  | @cons c c₁ c' call calls step rest ih =>
    obtain ⟨hcall, hcalls⟩ := List.forall_mem_cons.1 hchild
    rw [ih hcalls]
    cases step with
    | answered r => rw [answer_frame hcall c]
    | refused hfailed => rfl
    | unheard hfailed => rw [answer_frame hcall c]

end Cluster

namespace Pass

variable {s : Session} {config : Config} {now : Instant} {plan : Plan} {policy : CullingPolicy} {updates : ChildUpdates}
  {seen : Observations} {c c' : Cluster} {calls : List clusterInterface.Call} {outcome : Outcome}

/-! ### What is seen of the pod -/

private theorem listEvents_glimpse {events : List Json} (h : (listEvents s).Conversation calls events)
    (hrun : Cluster.FaultyRun c calls c') :
    c' = c ∧ (∀ call ∈ calls, call.question = Request.listPodEvents s.podName) ∧
      events = if (Request.listPodEvents s.podName).lost calls then [] else Diagnosis.sortEvents c.events := by
  obtain ⟨answer, rest, rfl, hrest⟩ := request_bind_conversation.1 h
  obtain ⟨rfl, rfl⟩ := conversation_done.1 hrest
  obtain ⟨c₁, hstep, hnil⟩ := hrun.uncons
  cases hnil
  refine ⟨hstep.eq_of_isLook rfl, fun call hcall => by rw [List.mem_singleton.1 hcall], ?_⟩
  cases answer with
  | error e => simp [Request.lost, Request.failed, Except.isOk, Except.toBool, Except.toOption, Diagnosis.sortEvents]
  | ok events =>
    obtain rfl : events = c.events := Except.ok.inj (hstep.answered_of_ok rfl).1
    simp [Request.lost, Request.failed, Except.isOk, Except.toBool, Except.toOption]

private theorem probe_glimpse {idle : Bool} (h : (probe s).Conversation calls idle)
    (hrun : Cluster.FaultyRun c calls c') :
    c' = c ∧ (∀ call ∈ calls, call.question = Request.probeIdle s) ∧ idle = (!s.spec.hibernated && c.idle) := by
  unfold probe at h
  split at h
  · rename_i hhibernated
    obtain ⟨rfl, rfl⟩ := conversation_done.1 h
    cases hrun
    exact ⟨rfl, fun call hcall => absurd hcall List.not_mem_nil, by simp [hhibernated]⟩
  · rename_i hrunning
    obtain rfl := request_conversation.1 h
    obtain ⟨c₁, hstep, hnil⟩ := hrun.uncons
    cases hnil
    refine ⟨hstep.eq_of_isLook rfl, fun call hcall => by rw [List.mem_singleton.1 hcall], ?_⟩
    rw [show idle = c.idle from (hstep.answered_of_ok rfl).1]
    simp [hrunning]

/-- The pod is seen as far as it could be read, and nothing changes by that. -/
theorem observe_glimpse {sighting : Sighting} (h : (observe s).Conversation calls sighting)
    (hrun : Cluster.FaultyRun c calls c') : c' = c ∧ sighting.seen = c.glimpse s calls := by
  obtain ⟨answer, rest, rfl, hrest⟩ := request_bind_conversation.1 h
  obtain ⟨c₁, hstep, hlater⟩ := hrun.uncons
  obtain rfl : c = c₁ := (hstep.eq_of_isLook rfl).symm
  rcases answer with e | _ | pod
  · obtain ⟨rfl, rfl⟩ := conversation_done.1 hrest
    cases hlater
    refine ⟨rfl, ?_⟩
    simp [Cluster.glimpse, Request.lost, Request.failed, Except.isOk, Except.toBool]
  · obtain ⟨rfl, rfl⟩ := conversation_done.1 hrest
    cases hlater
    refine ⟨rfl, ?_⟩
    have hpod : none = c.pod := Except.ok.inj (hstep.answered_of_ok rfl).1
    simp [Cluster.glimpse, Request.lost, Request.failed, Except.isOk, Except.toBool, Cluster.sight, ← hpod]
  · have hpod : some pod = c.pod := Except.ok.inj (hstep.answered_of_ok rfl).1
    obtain ⟨listed, events, more, rfl, hlisted, hrest⟩ := conversation_bind.1 hrest
    obtain ⟨probed, idle, last, rfl, hprobed, hrest⟩ := conversation_bind.1 hrest
    obtain ⟨rfl, rfl⟩ := conversation_done.1 hrest
    rw [List.append_nil] at hlater ⊢
    obtain ⟨c₁, hlistedRun, hprobedRun⟩ := hlater.split
    obtain ⟨rfl, hlists, hevents⟩ := listEvents_glimpse hlisted hlistedRun
    obtain ⟨rfl, hprobes, hidle⟩ := probe_glimpse hprobed hprobedRun
    refine ⟨rfl, ?_⟩
    have hread : (Request.getPod s.podName).lost
        (⟨.getPod s.podName, .ok (some pod)⟩ :: (listed ++ probed)) = false := by
      refine Request.lost_eq_false.2 fun call hcall hquestion => ?_
      rcases List.mem_cons.1 hcall with rfl | hcall
      · rfl
      · rcases List.mem_append.1 hcall with hcall | hcall
        · cases (hlists call hcall).symm.trans hquestion
        · cases (hprobes call hcall).symm.trans hquestion
    -- only the call that lists the events tells whether they could be listed
    have hprobed' : (Request.listPodEvents s.podName).lost probed = false :=
      Request.lost_eq_false.2 fun call hcall hquestion => by cases (hprobes call hcall).symm.trans hquestion
    have hlost : (Request.listPodEvents s.podName).lost (⟨.getPod s.podName, .ok (some pod)⟩ :: (listed ++ probed)) =
        (Request.listPodEvents s.podName).lost listed := by
      rw [← List.singleton_append, Request.lost_append, Request.lost_append, hprobed', Bool.or_false]
      rfl
    unfold Cluster.glimpse Cluster.sight
    rw [hread, hlost, ← hpod, hevents, hidle]
    split <;> rfl

/-! ### What stands on record -/

theorem Ending.recorded {sighting : Sighting} {st : SessionStatus}
    (h : Ending s config policy updates sighting now st calls outcome) (hshaky : Shaky s calls) :
    calls.foldl statusAfter s.status = some st := by
  cases h with
  | unrecorded e hnew =>
    have hlook := hshaky _ List.mem_cons_self rfl
    simp [Session.looks] at hlook
  | unseen | concluded => exact recording_foldl s st
  | deleted | undeleted | hibernated | unhibernated =>
    rw [List.foldl_append, recording_foldl]
    rfl

theorem Ending.not_look {sighting : Sighting} {st : SessionStatus}
    (h : Ending s config policy updates sighting now st calls outcome) :
    ∀ call ∈ calls, Request.isLook call.question = false := by
  have hrecording : ∀ call ∈ recording s st, Request.isLook call.question = false := by
    intro call hcall
    rw [mem_recording hcall]
    rfl
  cases h with
  | unrecorded e hnew => simp [Request.isLook]
  | unseen | concluded => exact hrecording
  | deleted | undeleted | hibernated | unhibernated =>
    refine List.forall_mem_append.2 ⟨hrecording, ?_⟩
    simp [Request.isLook]

/-- What has come of a pass of which only looks have failed: what was reported of the children, and the status on
record. -/
structure Weathered (c : Cluster) (config : Config) (now : Instant) (plan : Plan) (calls : List clusterInterface.Call)
    (updates : ChildUpdates) (c' : Cluster) : Prop where
  reported : plan.children.Reported c updates
  replicaTarget : updates.replicaTarget =
    if (Request.getChild .statefulSet c.session.childName).lost calls then none
    else some (if c.session.spec.hibernated then 0 else 1)
  recorded : c'.session.status = some (status c.session plan.policy updates (c.glimpse c.session calls) now)

/-- Whether the pod could be looked at is told by the calls between those about the children and those that end the
pass. -/
private theorem lost_between {r : Request} {brought seen rest : List clusterInterface.Call}
    (hbrought : ∀ call ∈ brought, Request.isAboutChild call.question = true)
    (hrest : ∀ call ∈ rest, Request.isLook call.question = false) (hchild : r.isAboutChild = false)
    (hlook : r.isLook = true) : r.lost (brought ++ (seen ++ rest)) = r.lost seen := by
  have hfirst : r.lost brought = false := Request.lost_eq_false.2 fun call hcall hquestion => by
    rw [← hquestion, hbrought call hcall] at hchild
    cases hchild
  have hlast : r.lost rest = false := Request.lost_eq_false.2 fun call hcall hquestion => by
    rw [← hquestion, hrest call hcall] at hlook
    cases hlook
  rw [Request.lost_append, Request.lost_append, hfirst, hlast, Bool.false_or, Bool.or_false]

theorem recorded_of_shaky (schedule : ChildSet.Schedule) (hc : c.Conforms) (hplan : prepare c.session config = .ok plan)
    (h : (applyBy schedule.reconcile c.session config now).Conversation calls outcome)
    (hrun : Cluster.FaultyRun c calls c') (hshaky : Shaky c.session calls) :
    ∃ updates, Weathered c config now plan calls updates c' := by
  obtain ⟨howner, hchildren, -⟩ := prepare_eq_ok hplan
  have hrecorded : c'.session.status = calls.foldl statusAfter c.session.status := by
    refine hrun.session_status fun call hcall name st hquestion => ?_
    by_contra hfailed
    have hlook := hshaky call hcall (by simpa using hfailed)
    simp [hquestion, Session.looks] at hlook
  rw [applyBy_eq hplan, conversation_bind] at h
  obtain ⟨brought, updates, after, rfl, hbrought, hafter⟩ := h
  have hother := hafter.question_kind (afterChildren_asksOnly_other c.session config plan updates now)
  obtain ⟨seen, sighting, rest, rfl, hseen, hrest⟩ := conversation_bind.1 hafter
  obtain ⟨hshakyBrought, hshakyAfter⟩ := List.forall_mem_append.1 hshaky
  obtain ⟨c₁, hrunBrought, hrunAfter⟩ := hrun.split
  obtain ⟨c₂, hrunSeen, -⟩ := hrunAfter.split
  obtain ⟨errands, herrands⟩ := schedule.attended hbrought
  have hending := finish_ending hrest
  obtain ⟨-, hreported⟩ := schedule.reports hchildren howner hc hbrought hrunBrought hshakyBrought
  refine ⟨updates, hreported, ?replicaTarget, ?recorded⟩
  case replicaTarget =>
    -- the children are not looked at again
    have hnone : (Request.getChild .statefulSet c.session.childName).lost (seen ++ rest) = false :=
      Request.lost_eq_false.2 fun call hcall hquestion => by
        have hnot := hother call hcall
        rw [hquestion] at hnot
        cases hnot
    rw [Request.lost_append, hnone, Bool.or_false]
    exact schedule.replicaTarget_eq hchildren howner hc hbrought hrunBrought hshakyBrought
  case recorded =>
    have hglimpse : c.glimpse c.session (brought ++ (seen ++ rest)) = sighting.seen := by
      have hframe := hrunBrought.frame herrands.isAboutChild
      have hsight : c₁.sight c.session = c.sight c.session := by rw [hframe]; rfl
      rw [(observe_glimpse hseen hrunSeen).2]
      unfold Cluster.glimpse
      rw [lost_between herrands.isAboutChild hending.not_look rfl rfl,
        lost_between herrands.isAboutChild hending.not_look rfl rfl, hsight]
    have hbroughtOnly : ∀ call ∈ brought, Request.isPreliminary call.question = true := fun call hcall =>
      Request.isPreliminary_of_isAboutChild (herrands.isAboutChild call hcall)
    rw [hrecorded, hglimpse, List.foldl_append, List.foldl_append, foldl_preliminary hbroughtOnly,
      foldl_preliminary (hseen.question_kind (observe_preliminary c.session))]
    exact hending.recorded (List.forall_mem_append.1 hshakyAfter).2

/-! ### Timestamps -/

/-- A time that is on record is kept exactly when what it is latched by holds again. -/
private theorem since_status_iff {P : SessionStatus → Bool} {since : SessionStatus → Option String} {time : String}
    (hlatch : Status.Latch P since) (hdate : ∀ st date, since { st with willHibernateAt := date } = since st)
    (hsince : since s.recorded = some time) :
    since (status s policy updates seen now) = some time ↔ P (Status.build s updates seen now) = true := by
  obtain ⟨date, hstatus⟩ := status_eq s policy updates seen now
  rw [hstatus, hdate, hlatch.built, hsince]
  cases P (Status.build s updates seen now) <;> simp [Status.latch]

namespace Weathered

variable {time : String} (h : Weathered c config now plan calls updates c')
include h

/-- Since when a session is hibernated stays on record as long as its stateful set is seen to have no replicas. -/
theorem hibernatedSince_iff (hsince : c.session.recorded.hibernatedSince = some time) :
    (status c.session plan.policy updates (c.glimpse c.session calls) now).hibernatedSince = some time ↔
      c.session.deleting = false ∧ c.session.spec.hibernated = true ∧
        (Request.getChild .statefulSet c.session.childName).lost calls = false := by
  rw [since_status_iff Status.latch_hibernated (fun _ _ => rfl) hsince, decide_eq_true_eq]
  refine StateInputs.state_eq_hibernated_iff.trans (and_congr_right fun _ => and_congr_right fun hrequested => ?_)
  show updates.replicaTarget = some 0 ↔ _
  rw [h.replicaTarget, show c.session.spec.hibernated = true from hrequested]
  cases (Request.getChild .statefulSet c.session.childName).lost calls <;> simp

/-- Since when a session fails stays on record as long as something that is seen gives a reason for it. -/
theorem failingSince_iff (hkinds : plan.children.Kinds) (hsince : c.session.recorded.failingSince = some time) :
    (status c.session plan.policy updates (c.glimpse c.session calls) now).failingSince = some time ↔
      c.session.deleting = false ∧ ¬(c.session.spec.hibernated = true ∧
          (Request.getChild .statefulSet c.session.childName).lost calls = false) ∧
        c.ShowsFailure plan.children (c.glimpse c.session calls) := by
  rw [since_status_iff Status.latch_failing (fun _ _ => rfl) hsince, decide_eq_true_eq]
  refine StateInputs.state_eq_failed_iff.trans (and_congr_right fun hlive => and_congr ?_ ?_)
  · show ¬(c.session.spec.hibernated = true ∧ updates.replicaTarget = some 0) ↔ _
    rw [h.replicaTarget]
    cases c.session.spec.hibernated <;>
      cases (Request.getChild .statefulSet c.session.childName).lost calls <;> simp
  · have hlive' : c.session.deleting = false := hlive
    have hreason : Status.reason c.session updates (c.glimpse c.session calls) =
        Status.failureReason updates (c.glimpse c.session calls) := if_neg (by simp [hlive'])
    show decide (Status.reason c.session updates (c.glimpse c.session calls) ≠ "") = true ↔ _
    rw [decide_eq_true_eq, hreason, Status.failureReason_ne_empty, h.reported.failureReasons_eq hkinds]
    rfl

end Weathered

/-- What a pass of which some looks have failed keeps of the timestamps that the same pass keeps in calm weather. -/
structure Outlasts (c : Cluster) (plan : Plan) (calls : List clusterInterface.Call) (calm shaken : SessionStatus) :
    Prop where
  hibernatedSince : ∀ since, c.session.recorded.hibernatedSince = some since → calm.hibernatedSince = some since →
    (shaken.hibernatedSince = some since ↔ (Request.getChild .statefulSet c.session.childName).lost calls = false)
  failingSince : ∀ since, c.session.recorded.failingSince = some since → calm.failingSince = some since →
    (shaken.failingSince = some since ↔ c.ShowsFailure plan.children (c.glimpse c.session calls))
  /-- It is enough that the pod and its events could be read. -/
  failingSince_of_seen : ∀ since, c.session.recorded.failingSince = some since → calm.failingSince = some since →
    (Request.getPod c.session.podName).lost calls = false →
      (Request.listPodEvents c.session.podName).lost calls = false → shaken.failingSince = some since

/-- Two passes from the same cluster, one of them without a failure. -/
theorem Weathered.outlasts {smooth : List clusterInterface.Call} {updates' : ChildUpdates} {calm : Cluster}
    (hcalm : Weathered c config now plan smooth updates calm) (h : Weathered c config now plan calls updates' c')
    (hkinds : plan.children.Kinds) (hnone : ∀ r : Request, r.lost smooth = false) :
    Outlasts c plan calls (status c.session plan.policy updates (c.glimpse c.session smooth) now)
      (status c.session plan.policy updates' (c.glimpse c.session calls) now) := by
  have hfailing : ∀ since, c.session.recorded.failingSince = some since →
      (status c.session plan.policy updates (c.glimpse c.session smooth) now).failingSince = some since →
        c.session.deleting = false ∧ c.session.spec.hibernated = false ∧
          c.ShowsFailure plan.children (c.sight c.session) := by
    intro since hsince hcalmSince
    obtain ⟨hlive, hrunning, hreason⟩ := (hcalm.failingSince_iff hkinds hsince).1 hcalmSince
    rw [hnone, and_iff_left rfl, Bool.not_eq_true] at hrunning
    rw [Cluster.glimpse_of_read (hnone _) (hnone _)] at hreason
    exact ⟨hlive, hrunning, hreason⟩
  constructor
  · intro since hsince hcalmSince
    obtain ⟨hlive, hrequested, -⟩ := (hcalm.hibernatedSince_iff hsince).1 hcalmSince
    rw [h.hibernatedSince_iff hsince]
    simp [hlive, hrequested]
  · intro since hsince hcalmSince
    obtain ⟨hlive, hrunning, -⟩ := hfailing since hsince hcalmSince
    rw [h.failingSince_iff hkinds hsince]
    simp [hlive, hrunning]
  · intro since hsince hcalmSince hpod hevents
    obtain ⟨hlive, hrunning, hreason⟩ := hfailing since hsince hcalmSince
    rw [h.failingSince_iff hkinds hsince, Cluster.glimpse_of_read hpod hevents]
    exact ⟨hlive, by simp [hrunning], hreason⟩

theorem applyBy_of_error {e : PassError} (h : prepare s config = .error e)
    (reconcile : ChildSet → Json → MergeScope → Controlled ChildUpdates) (now : Instant) :
    applyBy reconcile s config now = .done (.error e) := by
  unfold applyBy
  rw [h]
  rfl

/-- The timestamps after a pass of which only looks have failed, next to those after the same pass without a failure.
The children may be gone about by any schedules.  A pass that cannot start changes nothing. -/
theorem timestamps_in_outage (schedule schedule' : ChildSet.Schedule) (config : Config) (now : Instant)
    (hc : c.Conforms) (hsmooth : Smooth ((applyBy schedule.reconcile c.session config now).calls Cluster.answer c))
    (hsaid : (applyBy schedule'.reconcile c.session config now).Conversation calls outcome)
    (hrun : Cluster.FaultyRun c calls c') (hshaky : Shaky c.session calls) :
    let calm := ((applyBy schedule.reconcile c.session config now).run Cluster.answer c).2
    ((∃ e, prepare c.session config = .error e) ∧ calm = c ∧ c' = c) ∨
      ∃ plan st st', prepare c.session config = .ok plan ∧ calm.session.status = some st ∧
        c'.session.status = some st' ∧ Outlasts c plan calls st st' := by
  intro calm
  cases hplan : prepare c.session config with
  | error e =>
    rw [applyBy_of_error hplan] at hsaid
    obtain ⟨rfl, -⟩ := conversation_done.1 hsaid
    cases hrun
    refine .inl ⟨⟨e, rfl⟩, ?_, rfl⟩
    show ((applyBy schedule.reconcile c.session config now).run Cluster.answer c).2 = c
    rw [applyBy_of_error hplan, run_done]
  | ok plan =>
    have hcalm : Shaky c.session ((applyBy schedule.reconcile c.session config now).calls Cluster.answer c) := by
      intro call hcall hfailed
      rw [hsmooth call hcall] at hfailed
      cases hfailed
    obtain ⟨updates, hcalmPass⟩ := recorded_of_shaky schedule hc hplan (conversation_run Cluster.answer _ c)
      (.of_answered (answered_run Cluster.answer _ c)) hcalm
    obtain ⟨updates', hpass⟩ := recorded_of_shaky schedule' hc hplan hsaid hrun hshaky
    have hnone : ∀ r : Request,
        r.lost ((applyBy schedule.reconcile c.session config now).calls Cluster.answer c) = false := fun r =>
      Request.lost_eq_false.2 fun call hcall _ => hsmooth call hcall
    exact .inr ⟨plan, _, _, rfl, hcalmPass.recorded, hpass.recorded,
      hcalmPass.outlasts hpass (ChildSet.kinds (prepare_eq_ok hplan).2.1) hnone⟩

end Pass

/-! ### Sessions in bad weather -/

namespace Cluster

/-- A stateful set without replicas. -/
def restingSet : Child :=
  ⟨.statefulSet, .object [("apiVersion", .str "apps/v1"), ("kind", .str "StatefulSet"),
    ("metadata", .object [("name", .str "plain"), ("resourceVersion", .str "7")]),
    ("spec", .object [("replicas", .int 0), ("selector", .empty), ("serviceName", .str ""), ("template", .empty)])]⟩

/-- A plain session that has been hibernated since the day before. -/
def dozing : Cluster where
  session := ⟨Session.plainMetadata "2024-01-01T00:00:00Z", .plain true .default,
    some { SessionStatus.default with state := .hibernated, hibernatedSince := some "2024-10-03T00:00:00Z" }⟩
  pod := none
  events := []
  idle := false
  secrets := []
  children := ChildStore.empty.put "plain" restingSet
  version := 7
  deleted := false

/-- A plain session whose pod could not be scheduled since the day before. -/
def stuck : Cluster :=
  { ofSession ⟨Session.plainMetadata "2024-01-01T00:00:00Z", .plain false .default,
      some { SessionStatus.default with state := .failed, failingSince := some "2024-10-03T00:00:00Z" }⟩ with
    pod := some (.object [("metadata", .object [("name", .str "plain-0")]),
      ("status", .object [("phase", .str "Pending")])])
    events := [.object [("reason", .str "FailedScheduling"), ("message", .str "no node")]] }

theorem dozing_conforms : dozing.Conforms := conforms_of_single rfl ⟨restingSet.body, by decide +kernel⟩

theorem stuck_conforms : stuck.Conforms := fun _ _ _ h => by cases h

/-- The cluster while requests of one kind are refused. -/
def without (c : Cluster) (method : String) (target : Option String) : Rehearsal :=
  ⟨c, [⟨method, target, .refused "Failure" "the server is unavailable" "ServiceUnavailable" 503⟩], []⟩

end Cluster

namespace Pass

/-- While the stateful set cannot be read, it stays on record since when the pod could not be scheduled. -/
theorem timestamps_in_outage_stuck :
    let config := Config.default ⟨none, none⟩
    let now := Instant.ofUnix 1728000000
    let c := Cluster.stuck
    let r := c.without "get_child" (some "statefulset")
    let pass := applyBy ChildSet.Schedule.sideBySide.reconcile c.session config now
    (c.Conforms ∧ Smooth (pass.calls Cluster.answer c) ∧ Shaky c.session (pass.calls Rehearsal.answer r) ∧
        (Request.getChild .statefulSet "plain").lost (pass.calls Rehearsal.answer r) = true) ∧
      ∃ st, (pass.run Rehearsal.answer r).2.cluster.session.status = some st ∧
        st.failingSince = some "2024-10-03T00:00:00Z" := by
  intro config now c r pass
  obtain ⟨hsmooth, hcalm⟩ : Smooth (pass.calls Cluster.answer c) ∧
      (pass.run Cluster.answer c).2.session.status.bind (·.failingSince) = some "2024-10-03T00:00:00Z" := by
    decide +kernel
  obtain ⟨hshaky, hlost, hpod, hevents⟩ : Shaky c.session (pass.calls Rehearsal.answer r) ∧
      (Request.getChild .statefulSet "plain").lost (pass.calls Rehearsal.answer r) = true ∧
      (Request.getPod c.session.podName).lost (pass.calls Rehearsal.answer r) = false ∧
      (Request.listPodEvents c.session.podName).lost (pass.calls Rehearsal.answer r) = false := by decide +kernel
  refine ⟨⟨Cluster.stuck_conforms, hsmooth, hshaky, hlost⟩, ?_⟩
  have hrun := Rehearsal.faultyRun (r := r) rfl (answered_run Rehearsal.answer pass r)
  rcases timestamps_in_outage .sideBySide .sideBySide config now Cluster.stuck_conforms hsmooth
    (conversation_run Rehearsal.answer pass r) hrun hshaky with ⟨⟨e, he⟩, -⟩ | ⟨plan, st, st', -, hst, hst', houtlasts⟩
  · have hstart : (prepare c.session config).isOk = true := by decide +kernel
    rw [he] at hstart
    cases hstart
  · rw [hst, Option.bind_some] at hcalm
    exact ⟨st', hst', houtlasts.failingSince_of_seen _ rfl hcalm hpod hevents⟩

/-- A time is on record that a pass over the cluster keeps, but not the same pass when the looks fail that are refused
in a rehearsal. -/
structure Forgets (schedule : ChildSet.Schedule) (config : Config) (now : Instant) (r : Rehearsal)
    (since : SessionStatus → Option String) : Prop where
  conforms : r.cluster.Conforms
  smooth : Smooth ((applyBy schedule.reconcile r.cluster.session config now).calls Cluster.answer r.cluster)
  shaky : Shaky r.cluster.session ((applyBy schedule.reconcile r.cluster.session config now).calls Rehearsal.answer r)
  kept : ∃ time, since r.cluster.session.recorded = some time ∧
    since ((applyBy schedule.reconcile r.cluster.session config now).run Cluster.answer r.cluster).2.session.recorded =
      some time
  lost :
    since ((applyBy schedule.reconcile r.cluster.session config now).run
      Rehearsal.answer r).2.cluster.session.recorded = none

/-- Both runs are asked about in one proposition, so that each of them is evaluated only once. -/
private theorem forgets_of_runs {schedule : ChildSet.Schedule} {r : Rehearsal} {since : SessionStatus → Option String}
    (time : String) (hc : r.cluster.Conforms) (hsince : since r.cluster.session.recorded = some time)
    (h : let pass := applyBy schedule.reconcile r.cluster.session config now
      Smooth (pass.calls Cluster.answer r.cluster) ∧ Shaky r.cluster.session (pass.calls Rehearsal.answer r) ∧
        since (pass.run Cluster.answer r.cluster).2.session.recorded = some time ∧
        since (pass.run Rehearsal.answer r).2.cluster.session.recorded = none) :
    Forgets schedule config now r since := by
  obtain ⟨hsmooth, hshaky, hkept, hlost⟩ := h
  exact ⟨hc, hsmooth, hshaky, ⟨time, hsince, hkept⟩, hlost⟩

/-- While the stateful set cannot be read, it is forgotten since when a session has been hibernated, and while the pod
cannot be read, since when it fails. -/
theorem timestamps_forgotten :
    let config := Config.default ⟨none, none⟩
    let now := Instant.ofUnix 1728000000
    Forgets .sideBySide config now (Cluster.dozing.without "get_child" (some "statefulset")) (·.hibernatedSince) ∧
      Forgets .sideBySide config now (Cluster.stuck.without "get_pod" none) (·.failingSince) := by
  intro config now
  constructor
  · exact forgets_of_runs "2024-10-03T00:00:00Z" Cluster.dozing_conforms rfl (by decide +kernel)
  · exact forgets_of_runs "2024-10-03T00:00:00Z" Cluster.stuck_conforms rfl (by decide +kernel)

end Pass

end SessionOperator
