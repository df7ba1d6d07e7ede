import SessionOperator.Proofs.Culling.History

/-!
# Passes over a session without a pod

A session that is to run has no pod at first: it is new, or it has just been resumed.  Until there is a pod its start
is taken to be its creation, so that the pass which resumes an old session may hibernate it again at once.

* `Pass.hibernates_without_pod_iff`: exactly when a pass that sees no pod hibernates a session that is to run;
* `Pass.resumption_undone`: a session that is resumed and hibernated by one and the same pass.
-/

namespace SessionOperator

open Program

namespace Pass

variable {s : Session} {config : Config} {now : Instant} {plan : Plan}

/-- Without a pod a session that is to run is not ready or it fails. -/
theorem state_without_pod {policy : CullingPolicy} {updates : ChildUpdates} (hrun : s.spec.hibernated = false) :
    (status s policy updates ⟨none, [], false⟩ now).state = .notReady ∨
      (status s policy updates ⟨none, [], false⟩ now).state = .failed := by
  rw [status_state]
  simp only [StateInputs.state, Status.stateInputs, hrun, Status.livePod]
  by_cases hdeleting : s.deleting = true
  · simp [hdeleting]
  · by_cases hfailing : Status.reason s updates ⟨none, [], false⟩ = ""
    · simp [hdeleting, hfailing]
    · simp [hdeleting, hfailing]

/-- The rules for age and starting measure from the creation of the session, that for failing from the time on record
or from now, and that for idleness measures nothing. -/
theorem mustHibernate_without_pod {policy : CullingPolicy} {updates : ChildUpdates}
    (hrun : s.spec.hibernated = false) :
    let st := status s policy updates ⟨none, [], false⟩ now
    mustHibernate s policy none st now = true ↔
      exceeds policy.maxAge now (creationTime s.metadata) = true ∨
        (st.state = .notReady ∧ exceeds policy.maxStarting now (creationTime s.metadata) = true) ∨
        (st.state = .failed ∧
          exceeds policy.maxFailed now (recordedTime (s.recorded.failingSince.getD now.stamp)) = true) := by
  intro st
  have hstate : st.state = .notReady ∨ st.state = .failed := state_without_pod hrun
  have hstart : startedAt s none = creationTime s.metadata := rfl
  obtain ⟨date, heq⟩ := status_eq s policy updates ⟨none, [], false⟩ now
  have hidle : st.idleSince = none := by
    show (status s policy updates ⟨none, [], false⟩ now).idleSince = none
    rw [heq]
    rfl
  have hfailing : st.failingSince =
      if st.state = .failed then some (s.recorded.failingSince.getD now.stamp) else none := by
    show (status s policy updates ⟨none, [], false⟩ now).failingSince =
      if (status s policy updates ⟨none, [], false⟩ now).state = .failed then _ else _
    rw [heq]
    simp [Status.build, Status.latch]
  -- what is left are the four rules, of which the one for idleness has no origin
  simp only [mustHibernate, CullingPolicy.needsScaleDown, hrun, hstart, hfailing, hidle, CullingPolicy.idleOrigin]
  rcases hstate with hstate | hstate
  · simp [hstate, recordedTime, exceeds]
  · simp [hstate, recordedTime, exceeds]

/-- A pass that sees no pod, over a session that is to run, hibernates it exactly when the session is older than
allowed, or older than it may be while it is not ready, or has failed for too long. -/
theorem hibernates_without_pod_iff {calls : List clusterInterface.Call} {outcome : Outcome}
    (hplan : prepare s config = .ok plan) (hrun : s.spec.hibernated = false)
    (h : (apply s config now).Conversation calls outcome)
    (hok : ∀ call ∈ calls, Request.failed call.question call.answer = false)
    (hpod : ∀ call ∈ calls, Request.showsNoPod call.question call.answer = true) :
    ∃ st, calls.foldl statusAfter s.status = some st ∧
      ((∃ call ∈ calls, call.question = .hibernateSession s.name) ↔
        exceeds plan.policy.maxAge now (creationTime s.metadata) = true ∨
          (st.state = .notReady ∧ exceeds plan.policy.maxStarting now (creationTime s.metadata) = true) ∨
          (st.state = .failed ∧
            exceeds plan.policy.maxFailed now (recordedTime (s.recorded.failingSince.getD now.stamp)) = true)) := by
  rcases apply_conversation h with
    ⟨-, e, he⟩ | ⟨plan', brought, updates, seen, sighting, rest, hplan', rfl, hb, hs, hf⟩
  · rw [hplan] at he
    cases he
  obtain rfl : plan = plan' := Except.ok.inj (hplan.symm.trans hplan')
  obtain ⟨written, answer, culled, rfl, hrecord, hcull⟩ := finish_conversation hf
  obtain rfl : sighting = ⟨⟨none, [], false⟩, none⟩ :=
    observe_none hs fun call hcall => hpod call (by simp [hcall])
  obtain ⟨hnew, rfl⟩ := record_foldl_of_smooth hrecord fun call hcall => hok call (by simp [hcall])
  have hcull' : (cull s config plan.policy updates none (status s plan.policy updates ⟨none, [], false⟩ now)
      now).Conversation culled outcome := by
    rcases hcull with ⟨-, hpodError⟩ | ⟨-, -, hcull⟩
    · exact absurd rfl (hpodError rfl)
    · exact hcull
  refine ⟨_, (recorded_eq s.status hb hs hcull).trans hnew, Iff.trans ?_ (mustHibernate_without_pod hrun)⟩
  rw [← cull_hibernates_iff hcull' (needsDeletion_eq_false _ _ hrun)]
  constructor
  · rintro ⟨call, hcall, hquestion⟩
    exact ⟨call, final_mem_culled hb hs hrecord hcall (by rw [hquestion]; rfl), hquestion⟩
  · rintro ⟨call, hcall, hquestion⟩
    exact ⟨call, List.mem_append_right _ (List.mem_append_right _ hcall), hquestion⟩

/-- The rule for age applies to a new session without a pod: it may run for an hour, and is seen too late. -/
theorem hibernates_without_pod_late :
    let config := Config.default ⟨none, none⟩
    let now := Instant.ofUnix 1728007200
    let s : Session := ⟨Session.plainMetadata "2024-01-01T00:00:00Z",
      .plain false { CullingSpec.default with maxAge := some "1h" }, none⟩
    ∃ call ∈ (apply s config now).calls Cluster.answer (.ofSession s), call.question = .hibernateSession s.name := by
  intro config now s
  obtain ⟨plan, hplan, hold⟩ : ∃ plan, prepare s config = .ok plan ∧
      exceeds plan.policy.maxAge now (creationTime s.metadata) = true := by
    have h : ((prepare s config).toOption.any fun plan =>
        exceeds plan.policy.maxAge now (creationTime s.metadata)) = true := by decide +kernel
    cases hplan : prepare s config with
    | error e => simp [hplan, Except.toOption] at h
    | ok plan => exact ⟨plan, rfl, by simpa [hplan, Except.toOption] using h⟩
  obtain ⟨st, -, hiff⟩ := hibernates_without_pod_iff hplan rfl
    (conversation_run Cluster.answer (apply s config now) (.ofSession s)) (by decide +kernel) (by decide +kernel)
  exact hiff.2 (.inl hold)

/-- A cluster after the pass at `begin` over a session that was to be hibernated and now is to run again. -/
def resumedAfter (c : Cluster) (config : Config) (begin : Instant) : Cluster :=
  let slept := ((apply c.session config begin).run Cluster.answer c).2
  { slept with session := { slept.session with spec := { slept.session.spec with hibernated := false } } }

/-- A session that may run for an hour is resumed an hour and more after it was created: the pass that scales it up,
sees no pod and meets with no failure hibernates it again. -/
theorem resumption_undone :
    let config := Config.default ⟨none, none⟩
    let begin := Instant.ofUnix 1728000000
    let now := Instant.ofUnix 1728007200
    let c := resumedAfter (.sleeping { CullingSpec.default with maxAge := some "1h" }) config begin
    let calls := (apply c.session config now).calls Cluster.answer c
    let resumed := ((apply c.session config now).run Cluster.answer c).2
    let replicas := fun child : Child => child.body.path? ["spec", "replicas"]
    c.session.recorded.state = .hibernated ∧ c.session.spec.hibernated = false ∧
      (∀ call ∈ calls, Request.failed call.question call.answer = false) ∧
      (∀ call ∈ calls, Request.showsNoPod call.question call.answer = true) ∧
      (c.children.find? .statefulSet c.session.childName).bind replicas = some (.int 0) ∧
      (resumed.children.find? .statefulSet c.session.childName).bind replicas = some (.int 1) ∧
      ∃ call ∈ calls, call.question = .hibernateSession "plain" := by
  decide +kernel

end Pass

end SessionOperator
