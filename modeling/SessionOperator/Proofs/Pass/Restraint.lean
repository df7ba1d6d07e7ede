import SessionOperator.Proofs.Children.Apart
import SessionOperator.Proofs.Pass.Hibernation

/-!
# Sessions whose children are left alone

A strategy can ask that existing children are left alone.  Then a pass still creates what is missing and keeps scaling
the stateful set, so that hibernation goes on working, and it writes nothing else to any child.

* `Session.IsRestricted`: the strategy asks for that, as things stand;
* `Child.Attended.patch_eq`, `Child.Attended.created_of_missing`: what is written for the sake of one child;
* `ChildSet.Schedule.spares`: what stands in the cluster stays, but for the stateful set;
* `Pass.restraint`: the whole pass, by any schedule.
-/

namespace SessionOperator

open Program Child

namespace Session

/-- The strategy of the session leaves existing children alone while this status is recorded. -/
def IsRestricted (s : Session) : Prop :=
  s.spec.reconcileStrategy = .never ∨
    s.spec.reconcileStrategy = .whenFailedOrHibernated ∧ s.recorded.state ≠ .failed ∧ s.recorded.state ≠ .hibernated

theorem IsRestricted.scope_eq {s : Session} (h : s.IsRestricted) :
    MergeScope.ofStrategy s.spec.reconcileStrategy s.recorded.state = .replicasOnly := by
  rcases h with hnever | ⟨hwhen, hfailed, hhibernated⟩
  · rw [hnever]
    rfl
  · rw [hwhen]
    cases hstate : s.recorded.state with
    | failed => exact absurd hstate hfailed
    | hibernated => exact absurd hstate hhibernated
    | notReady | running | runningDegraded => rfl

/-- How many replicas the stateful set of the session should have. -/
def replicas (s : Session) : Int := if s.spec.hibernated then 0 else 1

end Session

namespace Child

variable {owner : Json} {scope : MergeScope} {d l : Child} {said : List clusterInterface.Call} {u : ChildUpdate}
  {call : clusterInterface.Call} {kind : ChildKind} {name : String} {patch : Json} {n : Int}

/-! ### One child -/

/-- The patch that sets the number of replicas and nothing else. -/
def scaling (n : Int) : Json := .object [("spec", .object [("replicas", .int n)])]

theorem patch_replicasOnly (hset : d.kind = .statefulSet) (hn : d.body.path? ["spec", "replicas"] = some (.int n)) :
    d.patch .replicasOnly = scaling n := by
  obtain ⟨spec, hspec, hreplicas⟩ := Option.bind_eq_some_iff.1 hn
  rw [Json.path?_singleton] at hreplicas
  have hfield : fieldOrNull (Kubernetes.statefulSetSpec.encode spec) "replicas" = .int n := by
    rw [fieldOrNull, Kubernetes.hasField_replicas.get?_encode (ChildKind.specSchema_isOrdered .statefulSet), hreplicas,
      Option.map_some, Schema.encode_plain rfl]
    rfl
  unfold patch
  rw [get?_encode_spec hspec, hset]
  simp only [ChildKind.specSchema, Option.getD_some, statefulSetPatch, hfield]
  rfl

/-- In the narrow scope only a stateful set has anything to be given. -/
theorem mergeFrom_replicasOnly (hne : d.kind ≠ .statefulSet) (hkind : l.kind = d.kind) :
    l.mergeFrom d .replicasOnly = .ok l := by
  rw [mergeFrom, if_pos hkind]
  cases hk : d.kind with
  | statefulSet => exact absurd hk hne
  | service | ingress | claim | dataSourceClaim => rfl

namespace Attended

theorem patch_eq (h : d.Attended owner .replicasOnly said u) (hcall : call ∈ said)
    (hpatch : call.question = Request.patchChild kind name patch) :
    d.kind = .statefulSet ∧ kind = d.kind ∧ name = d.name ∧ patch = d.patch .replicasOnly := by
  cases h with
  | patched live merged child hmerge hne | unpatched live merged child hmerge hne =>
    have hset : d.kind = .statefulSet := by
      by_contra hother
      rw [mergeFrom_replicasOnly hother (kind_of_mergeFrom hmerge)] at hmerge
      exact hne (Except.ok.inj hmerge).symm
    simp only [List.mem_cons, List.not_mem_nil, or_false] at hcall
    rcases hcall with rfl | rfl
    · cases hpatch
    · cases hpatch
      exact ⟨hset, rfl, rfl, rfl⟩
  | unread | created | uncreated | mismatched | kept =>
    simp only [List.mem_cons, List.not_mem_nil, or_false] at hcall
    rcases hcall with rfl | rfl <;> cases hpatch

/-- A child that is missing is created as a whole. -/
theorem created_of_missing (h : d.Attended owner scope said u) (hmissing : d.looking (.ok none) ∈ said) :
    ∃ answer, said = [d.looking (.ok none), d.creating owner answer] := by
  cases h with
  | created child => exact ⟨_, rfl⟩
  | uncreated e => exact ⟨_, rfl⟩
  | unread | mismatched | kept | patched | unpatched => simp [looking, patching] at hmissing

end Attended

/-- After the look there is at most one question: the creation of a child that was not found, or the patch of a stateful
set. -/
theorem goOn_question {found : Option Child} {q : Request} {next : q.Answer → Controlled ChildUpdate}
    (h : goOn d owner .replicasOnly found = .ask q next) :
    (found = none ∧ q = .createChild (d.owned owner)) ∨
      (d.kind = .statefulSet ∧ q = .patchChild d.kind d.name (d.patch .replicasOnly)) := by
  rcases found with _ | live
  · cases h
    exact .inl ⟨rfl, rfl⟩
  · simp only [goOn, updateLive] at h
    cases hmerge : live.mergeFrom d .replicasOnly with
    | error mismatch =>
      rw [hmerge] at h
      cases h
    | ok merged =>
      simp only [hmerge] at h
      split at h
      · cases h
      · rename_i hne
        cases h
        refine .inr ⟨?_, rfl⟩
        by_contra hother
        rw [mergeFrom_replicasOnly hother (kind_of_mergeFrom hmerge)] at hmerge
        exact hne (Except.ok.inj hmerge).symm

end Child

namespace ChildSet

variable {children : ChildSet} {s : Session} {config : Config} {owner : Json} {c c' c₀ : Cluster} {d : Child}

/-! ### All children -/

/-- The children that stood in a cluster still stand there as they were, but for the stateful set of a name. -/
def Spares (setName : String) (c₀ c : Cluster) : Prop := ∀ kind name child,
  ¬(kind = .statefulSet ∧ name = setName) → c₀.children.find? kind name = some child →
    c.children.find? kind name = some child

/-- An errand in the narrow scope that began with the cluster `c₀`: it is ahead, or it has looked and would create only
what was missing at first, or it is over. -/
inductive Careful (setName : String) (owner : Json) (c₀ : Cluster) (d : Child) : Controlled ChildUpdate → Prop
  | ahead : Careful setName owner c₀ d (d.reconcile owner .replicasOnly)
  | looked (found : Option Child)
      (h : found = none → ¬(d.kind = .statefulSet ∧ d.name = setName) → c₀.found d = none) :
      Careful setName owner c₀ d (d.goOn owner .replicasOnly found)
  | ended (u : ChildUpdate) : Careful setName owner c₀ d (.done u)

theorem Spares.putChild {setName : String} (h : Spares setName c₀ c) {name : String} {child : Child}
    (hplace : ¬(child.kind = .statefulSet ∧ name = setName) → c₀.children.find? child.kind name = none) :
    Spares setName c₀ (c.putChild name child).2 := by
  intro kind n stored hother hstood
  refine (Cluster.find?_putChild c name n child kind).trans ((if_neg ?_).trans (h kind n stored hother hstood))
  rintro ⟨rfl, rfl⟩
  rw [hplace hother] at hstood
  cases hstood

/-- One question of an errand in the narrow scope. -/
private theorem Careful.step {q : Request} {next : q.Answer → Controlled ChildUpdate} {setName : String}
    (h : Careful setName owner c₀ d (.ask q next)) (hd : d.IsDesired) (howner : s.owner? = some owner)
    (hset : d.kind = .statefulSet → d.name = setName) (hc : c.Conforms) (hspares : Spares setName c₀ c) :
    ((Cluster.answer q c).2.Conforms ∧ Spares setName c₀ (Cluster.answer q c).2) ∧
      Careful setName owner c₀ d (next (Cluster.answer q c).1) := by
  generalize hp : (.ask q next : Controlled ChildUpdate) = p at h
  cases h with
  | ahead =>
    obtain ⟨next', hask, -, hnext⟩ := Child.reconcile_eq_ask d owner .replicasOnly
    rw [hask] at hp
    cases hp
    refine ⟨⟨hc, hspares⟩, ?_⟩
    show Careful setName owner c₀ d (next' (.ok (c.found d)))
    rw [hnext]
    refine .looked _ fun hnone hother => ?_
    -- what stood there at first would have been found
    cases hstood : c₀.found d with
    | none => rfl
    | some child => exact absurd (hnone.symm.trans (hspares _ _ child hother hstood)) (by simp)
  | looked found hmissing =>
    obtain ⟨u, hu⟩ := Child.goOn_ask hp.symm (Cluster.answer q c).1
    rw [hu]
    refine ⟨?_, .ended u⟩
    rcases Child.goOn_question hp.symm with ⟨hnone, rfl⟩ | ⟨hkind, rfl⟩
    · refine ⟨hc.putChild (hd.read.owned (Child.isValue_owner howner)) _, hspares.putChild fun hother => ?_⟩
      rw [Child.name_owned] at hother ⊢
      exact hmissing hnone hother
    · have hread : ∀ child, Request.patchChild d.kind d.name (d.patch .replicasOnly) = .createChild child →
          child.IsRead := nofun
      refine ⟨hc.answer rfl hread, ?_⟩
      rcases Cluster.patchChild_cases hc d.kind d.name (d.patch .replicasOnly) with hsame | ⟨child, hk, -, hput⟩
      · rwa [show (Cluster.answer (.patchChild d.kind d.name (d.patch .replicasOnly)) c).2 = c from hsame]
      · rw [show (Cluster.answer (.patchChild d.kind d.name (d.patch .replicasOnly)) c).2 = _ from hput]
        exact hspares.putChild fun hother => absurd ⟨hk.trans hkind, hset hkind⟩ hother
  | ended u => cases hp

/-- There is one stateful set among the children. -/
theorem eq_statefulSet_of_kind (hkinds : children.Kinds) (hd : d ∈ children.toList) (hkind : d.kind = .statefulSet) :
    d = children.statefulSet := by
  rcases mem_toList.1 hd with rfl | rfl | hd | rfl | hd
  · rfl
  · rw [hkinds.service] at hkind
    cases hkind
  · rw [hkinds.ingress d hd] at hkind
    cases hkind
  · rw [hkinds.claim] at hkind
    cases hkind
  · rw [hkinds.dataSourceClaims d hd] at hkind
    cases hkind

/-- In the narrow scope everything that stands in the cluster stays, but for the stateful set of the session, whatever
the schedule is. -/
theorem Schedule.spares (schedule : Schedule) (hchildren : ofSession s config = .ok children)
    (howner : s.owner? = some owner) (hc : c.Conforms) :
    Spares s.childName c ((schedule.reconcile children owner .replicasOnly).run Cluster.answer c).2 := by
  have hset : ∀ d ∈ children.toList, d.kind = .statefulSet → d.name = s.childName := by
    intro d hd hkind
    rw [eq_statefulSet_of_kind (kinds hchildren) hd hkind]
    exact statefulSet_name hchildren
  have hcalls := schedule.interleaved
    (conversation_run Cluster.answer (schedule.reconcile children owner .replicasOnly) c)
  have hbegin : List.Forall₂ (Careful s.childName owner c) children.toList
      (children.toList.map fun d => d.reconcile owner .replicasOnly) :=
    List.forall₂_map_right_iff.2 (List.forall₂_same.2 fun d _ => .ahead)
  refine (hcalls.stages_alone (answeredStep Cluster.answer) (fun c₁ => c₁.Conforms ∧ Spares s.childName c c₁)
    (Careful s.childName owner c) (answered_run Cluster.answer _ c).along ?own ⟨hc, fun _ _ _ _ h => h⟩ hbegin).1.2
  rintro d hd q next answer c₁ t ⟨hc₁, hspares⟩ hstage ⟨hanswer, hstate⟩
  obtain rfl : answer = (Cluster.answer q c₁).1 := hanswer
  obtain rfl : t = (Cluster.answer q c₁).2 := hstate
  exact hstage.step (isDesired hchildren hd) howner (hset d hd) hc₁ hspares

end ChildSet

namespace Pass

variable {s : Session} {config : Config} {now : Instant} {plan : Plan} {c : Cluster} {updates : ChildUpdates}
  {calls : List clusterInterface.Call} {outcome : Outcome}

/-! ### The whole pass -/

private theorem observe_asksOnly_other (s : Session) :
    (observe s).AsksOnly fun q : Request => q.isAboutChild = false := by
  refine AsksOnly.bind ⟨rfl, fun _ => trivial⟩ fun pod => ?_
  rcases pod with e | _ | pod
  · trivial
  · trivial
  · refine AsksOnly.bind (AsksOnly.bind ⟨rfl, fun _ => trivial⟩ fun _ => trivial) fun _ => AsksOnly.bind ?_ fun _ => ?_
    · unfold probe
      split
      · trivial
      · exact ⟨rfl, fun _ => trivial⟩
    · trivial

private theorem cull_asksOnly_other (s : Session) (config : Config) (policy : CullingPolicy) (updates : ChildUpdates)
    (pod : Option Json) (status : SessionStatus) (now : Instant) :
    (cull s config policy updates pod status now).AsksOnly fun q : Request => q.isAboutChild = false := by
  unfold cull
  split
  · refine ⟨rfl, fun answer => ?_⟩
    cases answer <;> trivial
  · split
    · refine ⟨rfl, fun answer => ?_⟩
      cases answer <;> trivial
    · trivial

/-- Once the children have been brought about, nothing more is said about them. -/
theorem afterChildren_asksOnly_other (s : Session) (config : Config) (plan : Plan) (updates : ChildUpdates)
    (now : Instant) : (afterChildren s config plan updates now).AsksOnly fun q : Request => q.isAboutChild = false := by
  refine AsksOnly.bind (observe_asksOnly_other s) fun sighting => AsksOnly.bind ?_ fun answer => ?_
  · unfold record
    split
    · trivial
    · exact ⟨rfl, fun _ => trivial⟩
  · split
    · trivial
    · trivial
    · exact cull_asksOnly_other _ _ _ _ _ _ _

theorem afterChildren_children (config : Config) (plan : Plan) (updates : ChildUpdates) (now : Instant)
    (hsession : c.session = s) :
    ((afterChildren s config plan updates now).run Cluster.answer c).2.children = c.children := by
  rw [afterChildren_run config plan updates now hsession]
  exact (cull_run s config plan.policy updates (c.sight s).pod _ now _).1

/-- What a pass says that leaves existing children alone: patches scale the stateful set, and every child that is found
missing is created as a whole. -/
structure Restrained (s : Session) (config : Config) (calls : List clusterInterface.Call) : Prop where
  patches : ∀ call ∈ calls, ∀ kind name patch, call.question = Request.patchChild kind name patch →
    kind = .statefulSet ∧ name = s.childName ∧ patch = Child.scaling s.replicas
  creations : ∀ plan, prepare s config = .ok plan → ∃ brought updates errands rest,
    calls = brought ++ rest ∧ (∀ call ∈ rest, Request.isAboutChild call.question = false) ∧
      plan.children.Attended plan.owner plan.scope brought updates errands ∧
      ∀ e ∈ errands, e.desired.looking (.ok none) ∈ e.calls →
        ∃ answer, e.calls = [e.desired.looking (.ok none), e.desired.creating plan.owner answer]

/-- What such a pass does to the children in a cluster. -/
structure Scales (s : Session) (c c' : Cluster) : Prop where
  replicas : ∃ set, c'.children.find? .statefulSet s.childName = some set ∧
    set.body.path? ["spec", "replicas"] = some (.int s.replicas)
  spares : ChildSet.Spares s.childName c c'

theorem scope_of_prepare (hs : s.IsRestricted) (hplan : prepare s config = .ok plan) : plan.scope = .replicasOnly :=
  (prepare_eq_ok hplan).2.2.trans hs.scope_eq

/-- The patches among the calls of the errands. -/
theorem patch_of_attended {children : ChildSet} {owner : Json} {errands : List Errand}
    (hchildren : ChildSet.ofSession s config = .ok children)
    (h : children.Attended owner .replicasOnly calls updates errands)
    {call : clusterInterface.Call} (hcall : call ∈ calls)
    {kind : ChildKind} {name : String} {patch : Json} (hpatch : call.question = Request.patchChild kind name patch) :
    kind = .statefulSet ∧ name = s.childName ∧ patch = Child.scaling s.replicas := by
  obtain ⟨hdesired, -, hperm, hall⟩ := h
  obtain ⟨e, he, hcall⟩ := List.mem_flatMap.1 (hperm.mem_iff.1 hcall)
  obtain ⟨hset, rfl, rfl, rfl⟩ := (hall e he).1.patch_eq hcall hpatch
  have hmem : e.desired ∈ children.toList :=
    ChildSet.mem_inReportOrder.1 (hdesired ▸ List.mem_map_of_mem he)
  rw [ChildSet.eq_statefulSet_of_kind (ChildSet.kinds hchildren) hmem hset]
  exact ⟨ChildSet.statefulSet_kind hchildren, ChildSet.statefulSet_name hchildren,
    Child.patch_replicasOnly (ChildSet.statefulSet_kind hchildren) (ChildSet.statefulSet_replicas hchildren)⟩

theorem restrained (schedule : ChildSet.Schedule) (hs : s.IsRestricted)
    (h : (applyBy schedule.reconcile s config now).Conversation calls outcome) : Restrained s config calls := by
  cases hplan : prepare s config with
  | error e =>
    unfold applyBy at h
    rw [hplan] at h
    obtain ⟨rfl, -⟩ := conversation_done.1 h
    exact ⟨fun call hcall => absurd hcall List.not_mem_nil, fun plan hok => by rw [hplan] at hok; cases hok⟩
  | ok plan =>
    rw [applyBy_eq hplan, conversation_bind] at h
    obtain ⟨brought, updates, rest, rfl, hbrought, hrest⟩ := h
    obtain ⟨errands, herrands⟩ := schedule.attended hbrought
    have hother := hrest.question_kind (afterChildren_asksOnly_other s config plan updates now)
    constructor
    · intro call hcall kind name patch hpatch
      rcases List.mem_append.1 hcall with hcall | hcall
      · rw [scope_of_prepare hs hplan] at herrands
        exact patch_of_attended (prepare_eq_ok hplan).2.1 herrands hcall hpatch
      · have hquestion := hother call hcall
        rw [hpatch] at hquestion
        cases hquestion
    · intro plan' hplan'
      obtain rfl : plan = plan' := Except.ok.inj (hplan.symm.trans hplan')
      exact ⟨brought, updates, errands, rest, rfl, hother, herrands,
        fun e he hmissing => (herrands.2.2.2 e he).1.created_of_missing hmissing⟩

theorem scales (schedule : ChildSet.Schedule) (hs : s.IsRestricted) (hc : c.Conforms) (hsession : c.session = s)
    (hplan : prepare s config = .ok plan)
    (hsmooth : Smooth ((applyBy schedule.reconcile s config now).calls Cluster.answer c)) :
    Scales s c ((applyBy schedule.reconcile s config now).run Cluster.answer c).2 := by
  obtain ⟨howner, hchildren, -⟩ := prepare_eq_ok hplan
  rw [applyBy_eq hplan, calls_bind, scope_of_prepare hs hplan] at hsmooth
  rw [applyBy_eq hplan, run_bind, scope_of_prepare hs hplan]
  have hserved : Served ((schedule.reconcile plan.children plan.owner .replicasOnly).calls Cluster.answer c) c
      ((schedule.reconcile plan.children plan.owner .replicasOnly).run Cluster.answer c).2 :=
    schedule.served hchildren howner hc
  obtain ⟨set, hset, hscaled, -⟩ := schedule.scaled hchildren howner hc
    fun call hcall => hsmooth call (List.mem_append_left _ hcall)
  have hspares := schedule.spares hchildren howner hc
  have hsession' :
      ((schedule.reconcile plan.children plan.owner .replicasOnly).run Cluster.answer c).2.session = s := by
    rw [hserved.frame, hsession]
  -- what follows leaves the children alone
  have hsame := afterChildren_children config plan
    ((schedule.reconcile plan.children plan.owner .replicasOnly).run Cluster.answer c).1 now hsession'
  constructor
  · rw [hsame]
    rw [Cluster.found, ChildSet.statefulSet_name hchildren, ChildSet.statefulSet_kind hchildren] at hset
    exact ⟨set, hset, hscaled.path?_eq.trans (ChildSet.statefulSet_replicas hchildren)⟩
  · intro kind name child hother hstood
    rw [hsame]
    exact hspares kind name child hother hstood

/-- A pass over a session that wants its children left alone says nothing to change them but to scale the stateful set,
whatever it is answered, and creates every child that is missing.  If it can start and no call fails, the stateful set
has the right number of replicas afterwards and every other child is as it was. -/
theorem restraint (schedule : ChildSet.Schedule) (config : Config) (now : Instant) (hs : s.IsRestricted) :
    (∀ calls outcome, (applyBy schedule.reconcile s config now).Conversation calls outcome →
        Restrained s config calls) ∧
      ∀ c plan, c.Conforms → c.session = s → prepare s config = .ok plan →
        Smooth ((applyBy schedule.reconcile s config now).calls Cluster.answer c) →
          Scales s c ((applyBy schedule.reconcile s config now).run Cluster.answer c).2 :=
  ⟨fun _ _ h => restrained schedule hs h, fun _ _ hc hsession hplan hsmooth =>
    scales schedule hs hc hsession hplan hsmooth⟩

end Pass

/-! ### A session that wants its children left alone -/

namespace Cluster

/-- A service that leads to other pods than those of a session. -/
def foreignService : Child :=
  ⟨.service, .object [("apiVersion", .str "v1"), ("kind", .str "Service"),
    ("metadata", .object [("name", .str "plain")]), ("spec", .object [("selector", .object [("app", .str "legacy")])])]⟩

/-- A plain session that runs, is to be hibernated and wants its children left alone; its service is a foreign one, and
its claim is missing. -/
def guarded (culling : CullingSpec) : Cluster := ((drowsy culling).putChild "plain" foreignService).2

theorem guarded_conforms (culling : CullingSpec) : (guarded culling).Conforms :=
  (drowsy_conforms culling).putChild ⟨foreignService.body, by decide +kernel⟩ "plain"

/-- The questions of a pass that write. -/
def writes (calls : List clusterInterface.Call) : List Request :=
  (calls.map fun call => (call.question : Request)).filter fun q => match q with
    | .createChild _ | .patchChild .. => true
    | _ => false

/-- The stateful set is scaled down, the claim is created, and the foreign service stays. -/
theorem guarded_restrained :
    let config := Config.default ⟨none, none⟩
    let now := Instant.ofUnix 1728000000
    let c := guarded .default
    let pass := Pass.applyBy ChildSet.Schedule.sideBySide.reconcile c.session config now
    (c.Conforms ∧ c.session.IsRestricted ∧ (∃ plan, Pass.prepare c.session config = .ok plan) ∧
        Smooth (pass.calls answer c) ∧ (writes (pass.calls answer c)).length = 2) ∧
      Pass.Restrained c.session config (pass.calls answer c) ∧ Pass.Scales c.session c (pass.run answer c).2 := by
  intro config now c pass
  have hstart : (Pass.prepare c.session config).isOk = true := by decide +kernel
  cases hplan : Pass.prepare c.session config with
  | error e =>
    rw [hplan] at hstart
    cases hstart
  | ok plan =>
    have hrestricted : c.session.IsRestricted := .inl rfl
    have hsmooth : Smooth (pass.calls answer c) ∧ (writes (pass.calls answer c)).length = 2 := by decide +kernel
    obtain ⟨hspoken, hdoes⟩ := Pass.restraint .sideBySide config now hrestricted
    exact ⟨⟨guarded_conforms .default, hrestricted, ⟨plan, rfl⟩, hsmooth⟩,
      hspoken _ _ (conversation_run answer pass c), hdoes c plan (guarded_conforms .default) rfl hplan hsmooth.1⟩

/-- If the culling policy cannot be read the pass fails before its first call, and the stateful set is not scaled. -/
theorem guarded_unscaled :
    let config := Config.default ⟨none, none⟩
    let now := Instant.ofUnix 1728000000
    let c := guarded { CullingSpec.default with maxAge := some "forever" }
    let pass := Pass.applyBy ChildSet.Schedule.sideBySide.reconcile c.session config now
    c.Conforms ∧ c.session.IsRestricted ∧ Smooth (pass.calls answer c) ∧
      ¬Pass.Scales c.session c (pass.run answer c).2 := by
  intro config now c pass
  refine ⟨guarded_conforms _, .inl rfl, by decide +kernel, fun h => ?_⟩
  have hrunning : ((pass.run answer c).2.children.find? .statefulSet c.session.childName).bind
      (·.body.path? ["spec", "replicas"]) = some (.int 1) := by decide +kernel
  have hhibernated : c.session.replicas = 0 := rfl
  obtain ⟨set, hset, hscaled⟩ := h.replicas
  rw [hset, Option.bind_some, hscaled, hhibernated] at hrunning
  cases hrunning

end Cluster

end SessionOperator
