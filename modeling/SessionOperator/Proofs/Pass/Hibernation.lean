import SessionOperator.Proofs.Children.Apart
import SessionOperator.Proofs.Pass.Convergence

/-!
# Hibernation

A session that is to be hibernated sleeps after one pass, whatever stands recorded, whatever the cluster holds, and
however little of the children the pass may change: the replicas of the stateful set are managed in every scope, and the
state follows from them before anything that fails is considered.

* `SessionStatus.Asleep`, `Cluster.Sleeps`: what stands recorded of a sleeping session, and what is left of it;
* `Pass.status_asleep`: without replicas the status of such a session is that of a sleeping one;
* `Pass.hibernation_takes_effect`: the whole pass, by any schedule.
-/

namespace SessionOperator

open Program Child

/-- What stands recorded of a session that has been asleep since some time. -/
structure SessionStatus.Asleep (st : SessionStatus) (since : String) : Prop where
  state : st.state = .hibernated
  hibernatedSince : st.hibernatedSince = some since
  idle : st.idle = false
  idleSince : st.idleSince = none
  failingSince : st.failingSince = none
  error : st.error = none
  willHibernateAt : st.willHibernateAt = none
  initContainerCounts : st.initContainerCounts = .zero
  containerCounts : st.containerCounts = .zero

/-- The stateful set of a name has no replicas, and the session is on record as asleep since some time. -/
structure Cluster.Sleeps (c : Cluster) (name since : String) : Prop where
  replicas : ∃ set, c.children.find? .statefulSet name = some set ∧
    set.body.path? ["spec", "replicas"] = some (.int 0)
  status : ∃ st, c.session.status = some st ∧ st.Asleep since

/-- A request that would make sense for a session that is to run only. -/
def Request.presumesRunning : Request → Bool
  | probeIdle _ | hibernateSession _ => true
  | _ => false

theorem Request.not_presumesRunning {r : Request} (h : r.isAboutChild = true) : r.presumesRunning = false := by
  cases r <;> first | rfl | cases h

namespace Pass

variable {s : Session} {config : Config} {now : Instant} {plan : Plan} {policy : CullingPolicy}
  {updates : ChildUpdates} {seen : Observations} {c : Cluster}

/-- A stateful set without replicas decides the state, whatever else was seen. -/
theorem status_asleep (hrequested : s.spec.hibernated = true) (hlive : s.deleting = false)
    (htarget : updates.replicaTarget = some 0) (policy : CullingPolicy) (seen : Observations) (now : Instant) :
    (status s policy updates seen now).Asleep (s.recorded.hibernatedSince.getD now.stamp) := by
  have hstate : (Status.stateInputs s updates seen).state = .hibernated :=
    StateInputs.state_eq_hibernated_iff.2 ⟨hlive, hrequested, htarget⟩
  have hstatus : status s policy updates seen now = Status.build s updates seen now :=
    if_neg fun h => h.1 hstate
  rw [hstatus]
  constructor <;> simp [Status.build, Status.latch, hstate]

theorem mustHibernate_eq_false (hrequested : s.spec.hibernated = true) (policy : CullingPolicy) (pod : Option Json)
    (status : SessionStatus) (now : Instant) : mustHibernate s policy pod status now = false := by
  rw [mustHibernate, hrequested]
  rfl

private theorem observe_asksOnly (hrequested : s.spec.hibernated = true) :
    (observe s).AsksOnly fun q : Request => q.presumesRunning = false := by
  refine AsksOnly.bind ⟨rfl, fun _ => trivial⟩ fun pod => ?_
  rcases pod with e | _ | pod
  · trivial
  · trivial
  · refine AsksOnly.bind (AsksOnly.bind ⟨rfl, fun _ => trivial⟩ fun _ => trivial) fun _ => ?_
    rw [probe, if_pos hrequested]
    trivial

private theorem cull_asksOnly (hrequested : s.spec.hibernated = true) (pod : Option Json) (status : SessionStatus) :
    (cull s config policy updates pod status now).AsksOnly fun q : Request => q.presumesRunning = false := by
  unfold cull
  rw [mustHibernate_eq_false hrequested]
  split
  · refine ⟨rfl, fun deleted => ?_⟩
    cases deleted <;> trivial
  · trivial

/-- Once the children have been brought about, nothing is asked that presumes a running session. -/
theorem afterChildren_asksOnly (hrequested : s.spec.hibernated = true) (config : Config) (plan : Plan)
    (updates : ChildUpdates) (now : Instant) :
    (afterChildren s config plan updates now).AsksOnly fun q : Request => q.presumesRunning = false := by
  refine AsksOnly.bind (observe_asksOnly hrequested) fun sighting => AsksOnly.bind ?_ fun answer => ?_
  · unfold record
    split
    · trivial
    · exact ⟨rfl, fun _ => trivial⟩
  · split
    · trivial
    · trivial
    · exact cull_asksOnly hrequested _ _

/-- What is left of a pass records that the session sleeps, once its stateful set has no replicas. -/
theorem afterChildren_sleeps (hrequested : s.spec.hibernated = true) (hlive : s.deleting = false)
    (hsession : c.session = s) {set : Child} {name : String} (hset : c.children.find? .statefulSet name = some set)
    (hnone : set.body.path? ["spec", "replicas"] = some (.int 0)) (hshown : updates.statefulSet? = some set.body)
    (config : Config) (plan : Plan) (now : Instant) :
    ((afterChildren s config plan updates now).run Cluster.answer c).2.Sleeps name
      (s.recorded.hibernatedSince.getD now.stamp) := by
  have htarget : updates.replicaTarget = some 0 := by
    rw [ChildUpdates.replicaTarget, hshown, Option.bind_some, hnone]
    rfl
  rw [afterChildren_run config plan updates now hsession]
  obtain ⟨hchildren, hstatus⟩ := cull_run s config plan.policy updates (c.sight s).pod
    (status s plan.policy updates (c.sight s) now) now
    { c with session := { s with status := some (status s plan.policy updates (c.sight s) now) } }
  refine ⟨⟨set, ?_, hnone⟩, _, hstatus, status_asleep hrequested hlive htarget plan.policy (c.sight s) now⟩
  rw [hchildren]
  exact hset

/-- One pass over a session that is to be hibernated puts it to sleep, by whatever schedule the children are gone about
and whatever the cluster holds, if the pass can start and no call fails.  It asks nothing that presumes a running
session. -/
theorem hibernation_takes_effect (schedule : ChildSet.Schedule) (now : Instant) (hc : c.Conforms)
    (hrequested : c.session.spec.hibernated = true) (hlive : c.session.deleting = false)
    (hplan : prepare c.session config = .ok plan)
    (hsmooth : Smooth ((applyBy schedule.reconcile c.session config now).calls Cluster.answer c)) :
    ((applyBy schedule.reconcile c.session config now).run Cluster.answer c).2.Sleeps c.session.childName
        (c.session.recorded.hibernatedSince.getD now.stamp) ∧
      ∀ call ∈ (applyBy schedule.reconcile c.session config now).calls Cluster.answer c,
        Request.presumesRunning call.question = false := by
  obtain ⟨howner, hchildren, -⟩ := prepare_eq_ok hplan
  rw [applyBy_eq hplan, calls_bind] at hsmooth ⊢
  rw [run_bind]
  have hserved : Served ((schedule.reconcile plan.children plan.owner plan.scope).calls Cluster.answer c) c
      ((schedule.reconcile plan.children plan.owner plan.scope).run Cluster.answer c).2 :=
    schedule.served hchildren howner hc
  obtain ⟨set, hset, ⟨spec, desired, hspec, hdesired, hreplicas⟩, hshown⟩ := schedule.scaled hchildren howner hc
    fun call hcall => hsmooth call (List.mem_append_left _ hcall)
  constructor
  · -- the desired stateful set has no replicas, so neither has the live one
    have hnone : set.body.path? ["spec", "replicas"] = some (.int 0) := by
      have hwanted := ChildSet.statefulSet_replicas hchildren
      rw [Json.path?, hdesired, Option.bind_some, Json.path?, ← hreplicas, hrequested] at hwanted
      rw [Json.path?, hspec, Option.bind_some, Json.path?]
      exact hwanted
    rw [Cluster.found, ChildSet.statefulSet_name hchildren, ChildSet.statefulSet_kind hchildren] at hset
    exact afterChildren_sleeps hrequested hlive (by rw [hserved.frame]) hset hnone hshown config plan now
  · intro call hcall
    rcases List.mem_append.1 hcall with hcall | hcall
    · exact Request.not_presumesRunning (hserved.isAboutChild call hcall)
    · exact (conversation_run Cluster.answer _ _).question_kind (afterChildren_asksOnly hrequested config plan _ now)
        call hcall

end Pass

/-! ### A session that runs and is to be hibernated -/

namespace Cluster

/-- A stateful set with one replica. -/
def runningSet : Child :=
  ⟨.statefulSet, .object [("apiVersion", .str "apps/v1"), ("kind", .str "StatefulSet"),
    ("metadata", .object [("name", .str "plain"), ("resourceVersion", .str "7")]),
    ("spec", .object [("replicas", .int 1), ("selector", .empty), ("serviceName", .str ""), ("template", .empty)])]⟩

/-- A plain session that runs, is to be hibernated, and wants its children left alone. -/
def drowsy (culling : CullingSpec) : Cluster where
  session := ⟨Session.plainMetadata "2024-01-01T00:00:00Z",
    { SessionSpec.plain true culling with reconcileStrategy := .never }, none⟩
  pod := none
  events := []
  idle := true
  secrets := []
  children := ChildStore.empty.put "plain" runningSet
  version := 7
  deleted := false

theorem drowsy_conforms (culling : CullingSpec) : (drowsy culling).Conforms :=
  conforms_of_single rfl ⟨runningSet.body, by decide +kernel⟩

/-- The pass scales the stateful set down although the session wants its children left alone. -/
theorem drowsy_falls_asleep :
    let config := Config.default ⟨none, none⟩
    let now := Instant.ofUnix 1728000000
    let c := drowsy .default
    let pass := Pass.applyBy ChildSet.Schedule.sideBySide.reconcile c.session config now
    (c.Conforms ∧ c.session.spec.hibernated = true ∧ c.session.deleting = false ∧
        (∃ plan, Pass.prepare c.session config = .ok plan) ∧ Smooth (pass.calls answer c)) ∧
      (c.children.find? .statefulSet c.session.childName).bind (·.body.path? ["spec", "replicas"]) = some (.int 1) ∧
      (pass.run answer c).2.Sleeps c.session.childName (c.session.recorded.hibernatedSince.getD now.stamp) ∧
      ∀ call ∈ pass.calls answer c, Request.presumesRunning call.question = false := by
  intro config now c pass
  have hstart : (Pass.prepare c.session config).isOk = true := by decide +kernel
  cases hplan : Pass.prepare c.session config with
  | error e =>
    rw [hplan] at hstart
    cases hstart
  | ok plan =>
    have hsmooth : Smooth (pass.calls answer c) := by decide +kernel
    exact ⟨⟨drowsy_conforms .default, rfl, rfl, ⟨plan, rfl⟩, hsmooth⟩, by decide +kernel,
      Pass.hibernation_takes_effect .sideBySide now (drowsy_conforms .default) rfl rfl hplan hsmooth⟩

/-- A session whose culling policy cannot be read is not put to sleep: the pass over it fails before its first call. -/
theorem drowsy_stays_awake :
    let config := Config.default ⟨none, none⟩
    let now := Instant.ofUnix 1728000000
    let c := drowsy { CullingSpec.default with maxAge := some "forever" }
    c.Conforms ∧ c.session.spec.hibernated = true ∧ c.session.deleting = false ∧ Smooth (c.passCalls config now) ∧
      ¬(c.afterPass config now).Sleeps c.session.childName (c.session.recorded.hibernatedSince.getD now.stamp) := by
  intro config now c
  refine ⟨drowsy_conforms _, rfl, rfl, by decide +kernel, fun h => ?_⟩
  have hrunning : ((c.afterPass config now).children.find? .statefulSet c.session.childName).bind
      (·.body.path? ["spec", "replicas"]) = some (.int 1) := by decide +kernel
  obtain ⟨set, hset, hnone⟩ := h.replicas
  rw [hset, Option.bind_some, hnone] at hrunning
  cases hrunning

end Cluster

end SessionOperator
