import SessionOperator.Proofs.Diagnosis
import SessionOperator.Proofs.Pass.Memory
import SessionOperator.Proofs.Status.Stable
import SessionOperator.Proofs.Time.Elapsed

/-!
# Passes that come to rest

A pass feeds on what the pass before it left: the recorded state decides which fields of the children may be patched,
and what happened to the children decides the state.  Still two passes are enough to come to rest.  The first one may
be confined to the replicas by a state that does not hold; the second one knows the state, and whatever it writes to
the children lets the state as it is.

* `ChildSet.Shown.replicaTarget_eq`: the replicas that are asked for are the desired ones after every pass;
* `Status.stateInputs_eq`: only the readiness of the workload differs from pass to pass;
* `StateInputs.ofStrategy_eq`, `StateInputs.state_eq`: and that matters neither to the scope nor to the states for
  which it is wide;
* `Cluster.passes_converge`: after two undisturbed passes another one changes nothing.
-/

namespace SessionOperator

open Program Child

/-! ### What the state depends on -/

namespace StateInputs

variable {i : StateInputs} {ready : Bool}

theorem failed_iff (i : StateInputs) (ready : Bool) :
    ({ i with workloadReady := ready } : StateInputs).state = .failed ↔ i.state = .failed := by
  rw [state_eq_failed_iff, state_eq_failed_iff]

theorem hibernated_iff (i : StateInputs) (ready : Bool) :
    ({ i with workloadReady := ready } : StateInputs).state = .hibernated ↔ i.state = .hibernated := by
  rw [state_eq_hibernated_iff, state_eq_hibernated_iff]

/-- The scope is the same whether the workload is ready or not. -/
theorem ofStrategy_eq (i : StateInputs) (ready : Bool) (strategy : ReconcileStrategy) :
    MergeScope.ofStrategy strategy ({ i with workloadReady := ready } : StateInputs).state =
      MergeScope.ofStrategy strategy i.state := by
  have hfailed := failed_iff i ready
  have hhibernated := hibernated_iff i ready
  cases strategy with
  | never | always => rfl
  | whenFailedOrHibernated =>
    cases h : i.state <;> cases h' : ({ i with workloadReady := ready } : StateInputs).state <;>
      simp_all [MergeScope.ofStrategy]

/-- In a state for which the scope is wide the readiness of the workload does not matter. -/
theorem state_eq (h : i.state = .failed ∨ i.state = .hibernated) (ready : Bool) :
    ({ i with workloadReady := ready } : StateInputs).state = i.state := by
  rcases h with h | h
  · rw [(failed_iff i ready).2 h, h]
  · rw [(hibernated_iff i ready).2 h, h]

end StateInputs

/-- Only these states widen the scope. -/
theorem MergeScope.state_of_ofStrategy_ne {strategy : ReconcileStrategy} {state state' : SessionState}
    (hne : MergeScope.ofStrategy strategy state' ≠ MergeScope.ofStrategy strategy state)
    (hfull : MergeScope.ofStrategy strategy state' = .full) : state' = .failed ∨ state' = .hibernated := by
  cases strategy with
  | never | always => exact absurd rfl hne
  | whenFailedOrHibernated =>
    cases state' with
    | failed => exact .inl rfl
    | hibernated => exact .inr rfl
    | notReady | running | runningDegraded => cases hfull

namespace ChildSet.Shown

variable {children : ChildSet} {c c' : Cluster} {u u' : ChildUpdates} {s : Session} {config : Config}
  {scope : MergeScope}

theorem statefulSet?_eq (hchildren : ChildSet.ofSession s config = .ok children) (hc : c.Conforms)
    (hstand : AllStand scope children.toList c) (h : children.Shown c u) :
    ∃ l, u.statefulSet? = some l.body ∧ c.found children.statefulSet = some l ∧
      Child.Scaled children.statefulSet l := by
  have hmem : children.statefulSet ∈ children.toList := mem_toList.2 (.inl rfl)
  obtain ⟨l, hlive, hl⟩ := hstand _ hmem
  have hkind := statefulSet_kind hchildren
  have hlkind : l.kind = children.statefulSet.kind := (hc _ _ _ hlive).1
  refine ⟨l, ?_, hlive, hl.scaled (isDesired hchildren hmem) hlkind hkind⟩
  rw [ChildUpdates.statefulSet?, ChildUpdate.bodyOf?, h.statefulSet, hlive, Option.bind_some, hlkind, hkind]
  rfl

/-- After a pass the live stateful set asks for the desired replicas, whatever the scope was. -/
theorem replicaTarget_eq (hchildren : ChildSet.ofSession s config = .ok children) (hc : c.Conforms)
    (hstand : AllStand scope children.toList c) (h : children.Shown c u) :
    u.replicaTarget = (children.statefulSet.body.path? ["spec", "replicas"]).bind Json.int? := by
  obtain ⟨l, hbody, -, spec, desired, hspec, hdesired, hreplicas⟩ := h.statefulSet?_eq hchildren hc hstand
  rw [ChildUpdates.replicaTarget, hbody, Option.bind_some, Json.path?, Json.path?, hspec, hdesired, Option.bind_some,
    Option.bind_some, Json.path?, Json.path?, hreplicas]

end ChildSet.Shown

/-- Between two passes that leave all children settled only the readiness of the workload can change. -/
theorem Status.stateInputs_eq {s s' : Session} {children : ChildSet} {config : Config} {scope scope' : MergeScope}
    {c c' : Cluster} {u u' : ChildUpdates} (hchildren : ChildSet.ofSession s' config = .ok children)
    (hc : c.Conforms) (hc' : c'.Conforms) (hstand : AllStand scope children.toList c)
    (hstand' : AllStand scope' children.toList c') (h : children.Shown c u) (h' : children.Shown c' u')
    (halike : c.AlikeOn c' children.toList) (seen : Observations) :
    stateInputs s u' seen = { stateInputs s u seen with workloadReady := u'.workloadReady } := by
  have hreason : reason s u' seen = reason s u seen := by rw [reason, reason, h.failureReason_eq h' halike]
  simp only [stateInputs, hreason, h.replicaTarget_eq hchildren hc hstand, h'.replicaTarget_eq hchildren hc' hstand']

/-- What was read of the stateful set does not depend on what was done to it. -/
theorem ChildSet.Shown.workloadReady_eq {children : ChildSet} {c : Cluster} {u u' : ChildUpdates}
    (h : children.Shown c u) (h' : children.Shown c u') (hunchanged : u.allUnchanged = u'.allUnchanged) :
    u.workloadReady = u'.workloadReady := by
  have hset : u.statefulSet? = u'.statefulSet? := by
    rw [ChildUpdates.statefulSet?, ChildUpdates.statefulSet?, ChildUpdate.bodyOf?, ChildUpdate.bodyOf?,
      h.statefulSet, h'.statefulSet]
  rw [ChildUpdates.workloadReady, ChildUpdates.workloadReady, hset, hunchanged]

theorem AllStand.alikeOn {scope : MergeScope} {ds : List Child} {c : Cluster} (h : AllStand scope ds c) :
    c.AlikeOn c ds := by
  intro d hd
  obtain ⟨l, hlive, -⟩ := h d hd
  exact ⟨l, l, hlive, hlive, .refl l⟩

theorem AllStand.congr {scope : MergeScope} {ds : List Child} {c c' : Cluster} (h : AllStand scope ds c)
    (heq : c'.children = c.children) : AllStand scope ds c' := by
  intro d hd
  rw [Cluster.found, heq]
  exact h d hd

theorem ChildSet.Shown.congr {children : ChildSet} {c c' : Cluster} {u : ChildUpdates} (h : children.Shown c u)
    (heq : c'.children = c.children) : children.Shown c' u := by
  have hfound : c'.found = c.found := by
    funext d
    rw [Cluster.found, Cluster.found, heq]
  exact ⟨hfound ▸ h.statefulSet, hfound ▸ h.service, hfound ▸ h.ingress, hfound ▸ h.claim, hfound ▸ h.dataSourceClaims⟩

/-- What stands settled for one scope does so for every scope that is not wider. -/
theorem AllStand.of_scope {scope scope' : MergeScope} {children : ChildSet} {s : Session} {config : Config}
    {c : Cluster} (hstand : AllStand scope children.toList c) (hchildren : ChildSet.ofSession s config = .ok children)
    (hc : c.Conforms) (hscope : scope' = scope ∨ scope' = .replicasOnly) : AllStand scope' children.toList c := by
  rcases hscope with rfl | rfl
  · exact hstand
  · intro d hd
    obtain ⟨l, hlive, hl⟩ := hstand d hd
    obtain ⟨hkind, hread⟩ := hc _ _ _ hlive
    exact ⟨l, hlive, hl.replicasOnly (ChildSet.isDesired hchildren hd) hread hkind⟩

/-! ### Two passes in a row -/

section

variable {s : Session} {config : Config} {children : ChildSet} {scope₁ scope₂ : MergeScope} {c c₁ c₁' c₂ : Cluster}
  {u₁ u₂ u : ChildUpdates} {seen : Observations}

/-- From the first pass to the second only the readiness of the workload changes. -/
theorem ChildSet.Reconciled.stateInputs_eq (hchildren : ChildSet.ofSession s config = .ok children)
    (h₁ : children.Reconciled scope₁ c u₁ c₁) (hsame : c₁'.children = c₁.children)
    (h₂ : children.Reconciled scope₂ c₁' u₂ c₂) (seen : Observations) :
    Status.stateInputs s u₂ seen = { Status.stateInputs s u₁ seen with workloadReady := u₂.workloadReady } := by
  have halike : c₁.AlikeOn c₂ children.toList := by
    intro d hd
    obtain ⟨l, hlive, -⟩ := h₁.stand d hd
    have hlive' : c₁'.found d = some l := by rw [Cluster.found, hsame]; exact hlive
    obtain ⟨l', hl', hab⟩ := h₂.alike d l hlive'
    exact ⟨l, l', hlive, hl', hab⟩
  exact Status.stateInputs_eq hchildren h₁.conforms h₂.conforms h₁.stand h₂.stand h₁.shown h₂.shown halike seen

/-- A pass that finds the children as the second pass left them finds the session in the state of that pass: either the
second pass wrote nothing, or it was one with a wide scope, in a state in which the workload does not matter. -/
theorem ChildSet.Reconciled.state_eq {strategy : ReconcileStrategy} {state : SessionState}
    (hchildren : ChildSet.ofSession s config = .ok children) (h₁ : children.Reconciled scope₁ c u₁ c₁)
    (hsame : c₁'.children = c₁.children) (h₂ : children.Reconciled scope₂ c₁' u₂ c₂)
    (hscope₁ : scope₁ = .ofStrategy strategy state)
    (hscope₂ : scope₂ = .ofStrategy strategy (Status.stateInputs s u₁ seen).state)
    (hu : children.Shown c₂ u) (hunchanged : u.allUnchanged = true) :
    (Status.stateInputs s u seen).state = (Status.stateInputs s u₂ seen).state := by
  have hinputs := h₁.stateInputs_eq hchildren hsame h₂ seen
  have hagain : Status.stateInputs s u seen =
      { Status.stateInputs s u₂ seen with workloadReady := u.workloadReady } :=
    Status.stateInputs_eq hchildren h₂.conforms h₂.conforms h₂.stand h₂.stand h₂.shown hu h₂.stand.alikeOn seen
  by_cases hkept : AllStand scope₂ children.toList c₁'
  · -- nothing was left to write, so both passes judge the workload alike
    obtain ⟨-, hunchanged₂⟩ := h₂.kept hkept
    rw [hagain, hu.workloadReady_eq h₂.shown (hunchanged.trans hunchanged₂.symm)]
    rfl
  · -- something was left to write only because the scope grew
    have hnarrow : ¬(scope₂ = scope₁ ∨ scope₂ = .replicasOnly) := by
      intro hscope
      exact hkept ((h₁.stand.of_scope hchildren h₁.conforms hscope).congr hsame)
    have hfull : scope₂ = .full := by
      cases scope₂ with
      | full => rfl
      | replicasOnly => exact absurd (.inr rfl) hnarrow
    have hwidened : MergeScope.ofStrategy strategy (Status.stateInputs s u₁ seen).state ≠
        MergeScope.ofStrategy strategy state := by
      rw [← hscope₁, ← hscope₂]
      exact fun h => hnarrow (.inl h)
    have hstate := MergeScope.state_of_ofStrategy_ne hwidened (hscope₂.symm.trans hfull)
    have hstate₂ := StateInputs.state_eq hstate u₂.workloadReady
    rw [← hinputs] at hstate₂
    rw [hagain]
    exact StateInputs.state_eq (by rwa [hstate₂]) u.workloadReady

end

/-! ### Passes over a cluster -/

namespace Cluster

variable {c : Cluster} {config : Config} {now : Instant} {plan : Pass.Plan}

/-- The calls of a pass over the session of a cluster. -/
def passCalls (c : Cluster) (config : Config) (now : Instant) : List clusterInterface.Call :=
  (Pass.apply c.session config now).calls answer c

/-- The cluster that such a pass leaves. -/
def afterPass (c : Cluster) (config : Config) (now : Instant) : Cluster :=
  ((Pass.apply c.session config now).run answer c).2

/-- No call of the pass fails, and the pass neither deletes the session nor hibernates it. -/
def Undisturbed (c : Cluster) (config : Config) (now : Instant) : Prop :=
  ∀ call ∈ c.passCalls config now, Request.failed call.question call.answer = false ∧
    Request.isFinal call.question = false

/-- The status that a pass computes of some outcomes. -/
abbrev statusOf (c : Cluster) (plan : Pass.Plan) (u : ChildUpdates) (now : Instant) : SessionStatus :=
  Pass.status c.session plan.policy u (c.sight c.session) now

/-- A pass of which the calls about children succeed, part by part. -/
theorem pass_eq (hc : c.Conforms) (hplan : Pass.prepare c.session config = .ok plan)
    (hsmooth : Smooth ((plan.children.reconcile plan.owner plan.scope).calls answer c)) (now : Instant) :
    ∃ u c', plan.children.Reconciled plan.scope c u c' ∧
      c.afterPass config now = ((Pass.cull c.session config plan.policy u (c.sight c.session).pod
        (c.statusOf plan u now) now).run answer
          { c' with session := { c.session with status := some (c.statusOf plan u now) } }).2 ∧
      c.passCalls config now = (plan.children.reconcile plan.owner plan.scope).calls answer c ++
        ((Pass.observe c.session).calls answer c' ++
          ((Pass.record c.session (c.statusOf plan u now)).calls answer c' ++
            (Pass.cull c.session config plan.policy u (c.sight c.session).pod (c.statusOf plan u now) now).calls answer
              { c' with session := { c.session with status := some (c.statusOf plan u now) } })) := by
  obtain ⟨howner, hchildren, -⟩ := Pass.prepare_eq_ok hplan
  have hbrought := ChildSet.reconciled hchildren howner hc hsmooth
  refine ⟨_, _, hbrought, ?_⟩
  -- the rest of the pass finds the session and the pod as they were
  have hframe := hbrought.frame
  have hsession : ((plan.children.reconcile plan.owner plan.scope).run answer c).2.session = c.session := by
    rw [hframe]
  have hsight : ((plan.children.reconcile plan.owner plan.scope).run answer c).2.sight c.session =
      c.sight c.session := by
    rw [hframe]
    rfl
  have hrun := Pass.afterChildren_run config plan
    ((plan.children.reconcile plan.owner plan.scope).run answer c).1 now hsession
  have hcalls := Pass.afterChildren_calls config plan
    ((plan.children.reconcile plan.owner plan.scope).run answer c).1 now hsession
  rw [hsight] at hrun hcalls
  unfold afterPass passCalls
  rw [Pass.apply_eq hplan, run_bind, calls_bind]
  exact ⟨congrArg Prod.snd hrun, congrArg _ hcalls⟩

/-- A pass has brought the children about and has recorded its status; what surrounds the session is as before. -/
structure Passed (plan : Pass.Plan) (now : Instant) (c : Cluster) (u : ChildUpdates) (b c' : Cluster) : Prop where
  brought : plan.children.Reconciled plan.scope c u b
  children : c'.children = b.children
  session : c'.session = { c.session with status := some (c.statusOf plan u now) }
  sight : ∀ s, c'.sight s = c.sight s

theorem Undisturbed.passed (hc : c.Conforms) (hplan : Pass.prepare c.session config = .ok plan)
    (h : c.Undisturbed config now) : ∃ u b, Passed plan now c u b (c.afterPass config now) := by
  have hsmooth : Smooth ((plan.children.reconcile plan.owner plan.scope).calls answer c) := by
    intro call hcall
    refine (h call ?_).1
    rw [passCalls, Pass.apply_eq hplan, calls_bind]
    exact List.mem_append_left _ hcall
  obtain ⟨u, b, hbrought, hafter, hcalls⟩ := pass_eq hc hplan hsmooth now
  have hculled : c.afterPass config now =
      { b with session := { c.session with status := some (c.statusOf plan u now) } } := by
    refine hafter.trans (Pass.cull_run_of_not_final fun call hcall => (h call ?_).2)
    rw [hcalls]
    exact List.mem_append_right _ (List.mem_append_right _ (List.mem_append_right _ hcall))
  refine ⟨u, b, hbrought, ?_, ?_, fun s => ?_⟩
  · rw [hculled]
  · rw [hculled]
  · rw [hculled, hbrought.frame]
    rfl

namespace Passed

variable {u : ChildUpdates} {b c' : Cluster}

theorem conforms (p : Passed plan now c u b c') : c'.Conforms := by
  unfold Conforms
  rw [p.children]
  exact p.brought.conforms

/-- The next pass has the same plan, but for the scope, which follows the state that this one has recorded. -/
theorem prepare_eq (p : Passed plan now c u b c') (hplan : Pass.prepare c.session config = .ok plan) :
    ∃ plan', Pass.prepare c'.session config = .ok plan' ∧ plan'.policy = plan.policy ∧
      plan'.children = plan.children ∧ plan'.scope = .ofStrategy c.session.spec.reconcileStrategy
        (Status.stateInputs c.session u (c.sight c.session)).state := by
  obtain ⟨plan', hplan', hpolicy, hchildren, hscope⟩ := Pass.prepare_recorded hplan (c.statusOf plan u now)
  rw [p.session]
  refine ⟨plan', hplan', hpolicy, hchildren, ?_⟩
  rw [hscope, Pass.status_state]

/-- A recorded status is not an input of the state. -/
theorem stateInputs_eq (p : Passed plan now c u b c') (v : ChildUpdates) :
    Status.stateInputs c'.session v (c'.sight c'.session) = Status.stateInputs c.session v (c.sight c.session) := by
  rw [p.sight, p.session]
  rfl

end Passed

/-- A request that neither creates a child nor records a status. -/
def Spares (q : Request) : Prop :=
  (∀ child, q ≠ .createChild child) ∧ ∀ name status, q ≠ .patchStatus name status

private theorem reconcile_spares {children : ChildSet} {owner : Json} {scope : MergeScope} (hc : c.Conforms)
    (hstand : AllStand scope children.toList c) :
    ∀ call ∈ (children.reconcile owner scope).calls answer c, Spares call.question := by
  intro call hcall
  refine ⟨(ChildSet.reconcile_quiet hc hstand call hcall).2, fun name status heq => ?_⟩
  have hpreliminary := (conversation_run answer (children.reconcile owner scope) c).question_kind
    (ChildSet.reconcile_preliminary _ _ _) call hcall
  rw [heq] at hpreliminary
  cases hpreliminary

private theorem observe_spares (s : Session) : ∀ call ∈ (Pass.observe s).calls answer c, Spares call.question := by
  refine (conversation_run answer (Pass.observe s) c).question_kind ?_
  refine AsksOnly.bind ⟨by simp [Spares], fun _ => trivial⟩ fun found => ?_
  rcases found with e | _ | pod
  · trivial
  · trivial
  · refine AsksOnly.bind (AsksOnly.bind ⟨by simp [Spares], fun _ => trivial⟩ fun _ => trivial) fun _ =>
      AsksOnly.bind ?_ fun _ => trivial
    unfold Pass.probe
    split
    · trivial
    · exact ⟨by simp [Spares], fun _ => trivial⟩

private theorem cull_spares (s : Session) (policy : CullingPolicy) (u : ChildUpdates) (pod : Option Json)
    (status : SessionStatus) :
    ∀ call ∈ (Pass.cull s config policy u pod status now).calls answer c, Spares call.question := by
  intro call hcall
  rcases Pass.cull_conversation (conversation_run answer (Pass.cull s config policy u pod status now) c) with
    ⟨-, _, heq, -⟩ | ⟨-, -, _, heq, -⟩ | ⟨-, -, heq, -⟩
  all_goals rw [heq] at hcall
  · rw [List.mem_singleton.1 hcall]
    simp [Spares]
  · rw [List.mem_singleton.1 hcall]
    simp [Spares]
  · cases hcall

/-- A pass over a cluster where all children stand settled writes nothing but a status that differs. -/
theorem settled_pass (hc : c.Conforms) (hplan : Pass.prepare c.session config = .ok plan)
    (hstand : AllStand plan.scope plan.children.toList c) (now : Instant) :
    ∃ u, plan.children.Shown c u ∧ u.allUnchanged = true ∧
      (c.session.status = some (c.statusOf plan u now) →
        (∀ call ∈ c.passCalls config now, Spares call.question) ∧
        (c.afterPass config now).children = c.children ∧
        (c.afterPass config now).session.status = c.session.status) := by
  have hquiet : Quiet ((plan.children.reconcile plan.owner plan.scope).calls answer c) :=
    ChildSet.reconcile_quiet hc hstand
  obtain ⟨u, c', hbrought, hafter, hcalls⟩ := pass_eq hc hplan (fun call hcall => (hquiet call hcall).1) now
  obtain ⟨rfl, hunchanged⟩ := hbrought.kept hstand
  refine ⟨u, hbrought.shown, hunchanged, fun hstatus => ⟨fun call hcall => ?_, ?_⟩⟩
  · -- of the four parts of the pass only the third one could record a status
    rw [hcalls] at hcall
    rcases List.mem_append.1 hcall with hcall | hcall
    · exact reconcile_spares hc hstand call hcall
    · rcases List.mem_append.1 hcall with hcall | hcall
      · exact observe_spares _ call hcall
      · rcases List.mem_append.1 hcall with hcall | hcall
        · rw [Pass.record, if_pos hstatus] at hcall
          cases hcall
        · exact cull_spares _ _ _ _ _ call hcall
  · obtain ⟨hchildren, hrecorded⟩ := Pass.cull_run c'.session config plan.policy u (c'.sight c'.session).pod
      (c'.statusOf plan u now) now
      { c' with session := { c'.session with status := some (c'.statusOf plan u now) } }
    rw [hafter]
    exact ⟨hchildren, hrecorded.trans hstatus.symm⟩

/-- A pass that cannot start changes nothing. -/
private theorem afterPass_of_error {e : PassError} (h : Pass.prepare c.session config = .error e) (now : Instant) :
    c.afterPass config now = c ∧ c.passCalls config now = [] := by
  unfold afterPass passCalls Pass.apply Pass.applyBy
  rw [h]
  exact ⟨rfl, rfl⟩

/-- The second undisturbed pass leaves all children settled for the scope of the pass after it, and the status that it
records is the one that the pass after it computes. -/
private theorem settled_after_two {t₁ t₂ : Instant} (hc : c.Conforms) (hplan : Pass.prepare c.session config = .ok plan)
    (h₁ : c.Undisturbed config t₁) (h₂ : (c.afterPass config t₁).Undisturbed config t₂) :
    let c₂ := (c.afterPass config t₁).afterPass config t₂
    ∃ plan', Pass.prepare c₂.session config = .ok plan' ∧ c₂.Conforms ∧ AllStand plan'.scope plan'.children.toList c₂ ∧
      ∀ u, plan'.children.Shown c₂ u → u.allUnchanged = true → ∀ now,
        c₂.session.status = some (c₂.statusOf plan' u now) := by
  intro c₂
  obtain ⟨-, hchildren, hscope⟩ := Pass.prepare_eq_ok hplan
  obtain ⟨u₁, b₁, p₁⟩ := h₁.passed hc hplan
  obtain ⟨plan₁, hplan₁, hpolicy₁, hchildren₁, hscope₁⟩ := p₁.prepare_eq hplan
  obtain ⟨u₂, b₂, p₂⟩ := h₂.passed p₁.conforms hplan₁
  obtain ⟨plan₂, hplan₂, hpolicy₂, hchildren₂, hscope₂⟩ := p₂.prepare_eq hplan₁
  have hbrought₂ := p₂.brought
  rw [hchildren₁] at hbrought₂
  -- the second pass may see the workload become ready, and no scope depends on that
  have hsettled : plan₂.scope = plan₁.scope := by
    rw [hscope₂, hscope₁, p₁.stateInputs_eq, p₁.session,
      p₁.brought.stateInputs_eq hchildren p₁.children hbrought₂, StateInputs.ofStrategy_eq]
  refine ⟨plan₂, hplan₂, p₂.conforms, ?_, fun u hshown hunchanged now => ?_⟩
  · rw [hsettled, hchildren₂]
    exact p₂.brought.stand.congr p₂.children
  · rw [hchildren₂, hchildren₁] at hshown
    have hshown₂ := hshown.congr p₂.children.symm
    have hstate := p₁.brought.state_eq hchildren p₁.children hbrought₂ hscope hscope₁ hshown₂ hunchanged
    rw [← p₁.stateInputs_eq, ← p₁.stateInputs_eq] at hstate
    have halike := hbrought₂.stand.alikeOn
    have hagain := Pass.status_again plan₁.policy t₂ now hstate
      (hshown₂.failureReason_eq hbrought₂.shown halike _) (hshown₂.isSome_ingress?_eq hbrought₂.shown halike)
    rw [statusOf, p₂.session, hpolicy₂, p₂.sight]
    exact congrArg some hagain.symm

/-- After two undisturbed passes a third one, whenever it comes, creates no child and records no status, and leaves all
children and the recorded status as they are. -/
theorem passes_converge (c : Cluster) (config : Config) (t₁ t₂ t₃ : Instant) (hc : c.Conforms)
    (h₁ : c.Undisturbed config t₁) (h₂ : (c.afterPass config t₁).Undisturbed config t₂) :
    let c₂ := (c.afterPass config t₁).afterPass config t₂
    (∀ call ∈ c₂.passCalls config t₃, Spares call.question) ∧
      (c₂.afterPass config t₃).children = c₂.children ∧
      (c₂.afterPass config t₃).session.status = c₂.session.status := by
  intro c₂
  cases hplan : Pass.prepare c.session config with
  | error e =>
    have hc₂ : c₂ = c := by
      show (c.afterPass config t₁).afterPass config t₂ = c
      rw [(afterPass_of_error hplan t₁).1, (afterPass_of_error hplan t₂).1]
    rw [hc₂, (afterPass_of_error hplan t₃).1, (afterPass_of_error hplan t₃).2]
    exact ⟨fun call hcall => absurd hcall List.not_mem_nil, rfl, rfl⟩
  | ok plan =>
    obtain ⟨plan', hplan', hc₂, hstand, hstatus⟩ := settled_after_two hc hplan h₁ h₂
    obtain ⟨u, hshown, hunchanged, hpass⟩ := settled_pass hc₂ hplan' hstand t₃
    exact hpass (hstatus u hshown hunchanged t₃)

/-- A service that leads nowhere. -/
def staleService : Child :=
  ⟨.service, .object [("apiVersion", .str "v1"), ("kind", .str "Service"),
    ("metadata", .object [("name", .str "plain"), ("resourceVersion", .str "7")]), ("spec", .object [])]⟩

/-- A session that is to be hibernated and wants its children left alone until then, next to a service that does not fit
it. -/
def stale : Cluster where
  session := ⟨Session.plainMetadata "2024-01-01T00:00:00Z",
    { SessionSpec.plain true .default with reconcileStrategy := .whenFailedOrHibernated }, none⟩
  pod := none
  events := []
  idle := false
  secrets := []
  children := ChildStore.empty.put "plain" staleService
  version := 7
  deleted := false

theorem stale_conforms : stale.Conforms := conforms_of_single rfl ⟨staleService.body, by decide +kernel⟩

/-- The first pass leaves the service alone, the second one patches it, and the third one has nothing left to do. -/
theorem passes_converge_stale :
    let config := Config.default ⟨none, none⟩
    let t₁ := Instant.ofUnix 1728000000
    let t₂ := Instant.ofUnix 1728000060
    let t₃ := Instant.ofUnix 1728000120
    let c₁ := stale.afterPass config t₁
    let c₂ := c₁.afterPass config t₂
    (stale.Conforms ∧ stale.Undisturbed config t₁ ∧ c₁.Undisturbed config t₂) ∧
      c₁.children.find? .service "plain" = some staleService ∧
      c₂.children.find? .service "plain" ≠ some staleService ∧
      (∀ call ∈ c₂.passCalls config t₃, Spares call.question) ∧
      (c₂.afterPass config t₃).children = c₂.children ∧
      (c₂.afterPass config t₃).session.status = c₂.session.status := by
  intro config t₁ t₂ t₃ c₁ c₂
  obtain ⟨h₁, h₂, hbefore, hafter⟩ : stale.Undisturbed config t₁ ∧ c₁.Undisturbed config t₂ ∧
      c₁.children.find? .service "plain" = some staleService ∧
      c₂.children.find? .service "plain" ≠ some staleService := by
    unfold Undisturbed
    decide +kernel
  exact ⟨⟨stale_conforms, h₁, h₂⟩, hbefore, hafter,
    passes_converge stale config t₁ t₂ t₃ stale_conforms h₁ h₂⟩

end Cluster

end SessionOperator
