import SessionOperator.Proofs.Children.Reconcile

/-!
# A pass over a cluster in memory

What a pass finds in a cluster in memory and what it leaves there: the pod is seen as it is, the status that is computed
stands recorded, and the children are those that were brought about.

* `Cluster.sight`, `Pass.observe_run`: what a pass sees of the pod;
* `Pass.record_run`, `Pass.cull_run`: the second half of a pass;
* `Pass.applyBy_eq`, `Pass.afterChildren_run`, `Pass.afterChildren_calls`: the whole pass, part by part;
* `Pass.prepare_recorded`: how far a plan depends on the recorded status.
-/

namespace SessionOperator

open Program

/-- What a pass over a session sees of the pod in a cluster. -/
def Cluster.sight (c : Cluster) (s : Session) : Observations :=
  match c.pod with
  | none => ⟨none, [], false⟩
  | some pod => ⟨some pod, Diagnosis.sortEvents c.events, !s.spec.hibernated && c.idle⟩

namespace Pass

variable {s : Session} {config : Config} {now : Instant} {c : Cluster} {plan : Plan}

theorem observe_run (s : Session) (c : Cluster) : (observe s).run Cluster.answer c = (⟨c.sight s, none⟩, c) := by
  unfold observe Cluster.sight
  rw [bind_eq, run_bind, request_run]
  have hanswer : Cluster.answer (.getPod s.podName) c = (.ok c.pod, c) := rfl
  rw [hanswer]
  cases c.pod with
  | none => rfl
  | some pod =>
    unfold probe
    cases s.spec.hibernated <;> rfl

/-- Afterwards the status stands recorded, whether it had to be written or not. -/
theorem record_run (hsession : c.session = s) (status : SessionStatus) :
    (record s status).run Cluster.answer c = (.ok (), { c with session := { s with status := some status } }) := by
  subst hsession
  unfold record
  split
  · rename_i heq
    rw [← heq]
    rfl
  · rfl

/-- Culling changes neither the children nor the recorded status. -/
theorem cull_run (s : Session) (config : Config) (policy : CullingPolicy) (updates : ChildUpdates) (pod : Option Json)
    (status : SessionStatus) (now : Instant) (c : Cluster) :
    ((cull s config policy updates pod status now).run Cluster.answer c).2.children = c.children ∧
      ((cull s config policy updates pod status now).run Cluster.answer c).2.session.status = c.session.status := by
  unfold cull
  split
  · exact ⟨rfl, rfl⟩
  · split
    · exact ⟨rfl, rfl⟩
    · exact ⟨rfl, rfl⟩

theorem cull_run_of_not_final {policy : CullingPolicy} {updates : ChildUpdates} {pod : Option Json}
    {status : SessionStatus} (h : ∀ call ∈ (cull s config policy updates pod status now).calls Cluster.answer c,
      Request.isFinal call.question = false) :
    ((cull s config policy updates pod status now).run Cluster.answer c).2 = c := by
  unfold cull at h ⊢
  split
  · rename_i hdelete
    rw [if_pos hdelete] at h
    cases h _ List.mem_cons_self
  · rename_i hdelete
    rw [if_neg hdelete] at h
    split
    · rename_i hhibernate
      rw [if_pos hhibernate] at h
      cases h _ List.mem_cons_self
    · rfl

/-- What is left of a pass once the children have been brought about. -/
def afterChildren (s : Session) (config : Config) (plan : Plan) (updates : ChildUpdates) (now : Instant) :
    Controlled Outcome :=
  (observe s).bind fun sighting => finish s config plan.policy updates sighting now

theorem applyBy_eq {reconcile : ChildSet → Json → MergeScope → Controlled ChildUpdates}
    (hplan : prepare s config = .ok plan) (now : Instant) : applyBy reconcile s config now =
      (reconcile plan.children plan.owner plan.scope).bind fun updates => afterChildren s config plan updates now := by
  unfold applyBy
  rw [hplan]
  rfl

theorem apply_eq (hplan : prepare s config = .ok plan) (now : Instant) : apply s config now =
    (plan.children.reconcile plan.owner plan.scope).bind fun updates => afterChildren s config plan updates now :=
  applyBy_eq hplan now

theorem finish_run (policy : CullingPolicy) (updates : ChildUpdates) (seen : Observations) (hsession : c.session = s) :
    let st := status s policy updates seen now
    (finish s config policy updates ⟨seen, none⟩ now).run Cluster.answer c =
      (cull s config policy updates seen.pod st now).run Cluster.answer
        { c with session := { s with status := some st } } := by
  intro st
  unfold finish
  rw [bind_eq, run_bind, record_run hsession]

theorem finish_calls (policy : CullingPolicy) (updates : ChildUpdates) (seen : Observations)
    (hsession : c.session = s) :
    let st := status s policy updates seen now
    (finish s config policy updates ⟨seen, none⟩ now).calls Cluster.answer c =
      (record s st).calls Cluster.answer c ++ (cull s config policy updates seen.pod st now).calls Cluster.answer
        { c with session := { s with status := some st } } := by
  intro st
  unfold finish
  rw [bind_eq, calls_bind, record_run hsession]

theorem afterChildren_run (config : Config) (plan : Plan) (updates : ChildUpdates) (now : Instant)
    (hsession : c.session = s) :
    let st := status s plan.policy updates (c.sight s) now
    (afterChildren s config plan updates now).run Cluster.answer c =
      (cull s config plan.policy updates (c.sight s).pod st now).run Cluster.answer
        { c with session := { s with status := some st } } := by
  intro st
  unfold afterChildren
  rw [run_bind, observe_run]
  exact finish_run plan.policy updates (c.sight s) hsession

theorem afterChildren_calls (config : Config) (plan : Plan) (updates : ChildUpdates) (now : Instant)
    (hsession : c.session = s) :
    let st := status s plan.policy updates (c.sight s) now
    (afterChildren s config plan updates now).calls Cluster.answer c = (observe s).calls Cluster.answer c ++
      ((record s st).calls Cluster.answer c ++ (cull s config plan.policy updates (c.sight s).pod st now).calls
        Cluster.answer { c with session := { s with status := some st } }) := by
  intro st
  unfold afterChildren
  rw [calls_bind, observe_run]
  exact congrArg _ (finish_calls plan.policy updates (c.sight s) hsession)

/-! ### Plans -/

theorem prepare_eq_ok (h : prepare s config = .ok plan) :
    s.owner? = some plan.owner ∧ ChildSet.ofSession s config = .ok plan.children ∧
      plan.scope = .ofStrategy s.spec.reconcileStrategy s.recorded.state := by
  unfold prepare at h
  split at h
  · cases h
  · rename_i owner howner
    simp only [Fallible.bind_eq_ok_iff] at h
    obtain ⟨policy, -, children, hchildren, heq⟩ := h
    cases heq
    refine ⟨howner, ?_, rfl⟩
    cases hset : ChildSet.ofSession s config with
    | error e =>
      rw [hset] at hchildren
      cases hchildren
    | ok cs =>
      rw [hset] at hchildren
      cases hchildren
      rfl

/-- Of what is recorded only the state matters to a plan, and only for the scope. -/
theorem prepare_recorded (h : prepare s config = .ok plan) (status : SessionStatus) :
    ∃ next, prepare { s with status := some status } config = .ok next ∧ next.policy = plan.policy ∧
      next.children = plan.children ∧ next.scope = .ofStrategy s.spec.reconcileStrategy status.state := by
  have howner : ({ s with status := some status } : Session).owner? = s.owner? := rfl
  have hchildren : ChildSet.ofSession { s with status := some status } config = ChildSet.ofSession s config := rfl
  unfold prepare at h ⊢
  rw [howner, hchildren]
  split at h
  · cases h
  · simp only [Fallible.bind_eq_ok_iff] at h ⊢
    obtain ⟨policy, hpolicy, children, hset, heq⟩ := h
    cases heq
    exact ⟨_, ⟨policy, hpolicy, children, hset, rfl⟩, rfl, rfl, rfl⟩

end Pass

end SessionOperator
