import SessionOperator.Proofs.Children.Apart
import SessionOperator.Proofs.Cluster.Faults
import SessionOperator.Proofs.Diagnosis
import SessionOperator.Proofs.Kubernetes.Path

/-!
# What is reported of the children when a look fails

No errand writes a status.  So what is reported of a child bears the status that it had before, or none if it is new,
and the reasons why a session fails that are read off its children can be read off the cluster before the pass.  A
stateful set that could not be looked at takes nothing from them: it gives no reason, and no other errand waits for it.

* `Child.Inherits`, `Cluster.Succeeds`: children that have come about without a change of status;
* `Child.Reporting`: how far an errand has come that may fail only by its look;
* `ChildSet.Schedule.reports`: what a schedule reports, and what it leaves in the cluster;
* `ChildSet.Reported.failureReasons_eq`: the reasons of the children, read off the cluster before;
* `ChildSet.Schedule.replicaTarget_eq`: the replicas are known unless the stateful set could not be looked at.
-/

namespace SessionOperator

open Program

namespace Session

/-- The looks of a pass that may fail: at the stateful set, at the pod and at its events. -/
def looks (s : Session) : List Request :=
  [.getChild .statefulSet s.childName, .getPod s.podName, .listPodEvents s.podName]

end Session

/-- Of the calls about a session only looks have failed. -/
abbrev Shaky (s : Session) (calls : List clusterInterface.Call) : Prop :=
  ∀ call ∈ calls, Request.failed call.question call.answer = true → call.question ∈ s.looks

namespace Child

variable {owner : Json} {scope : MergeScope} {s : Session} {kind : ChildKind} {before : Option Child} {d m m' : Child}
  {c c' c₀ : Cluster} {u : ChildUpdate}

/-! ### Statuses that are handed on -/

/-- The child has its status and its metadata from the one that stood in its place, or no status if there was none. -/
def Inherits : Option Child → Child → Prop
  | some l, m => l.Alike m
  | none, m => m.encode.get? "status" = none

theorem Inherits.alike (h : Inherits before m) (halike : m.Alike m') : Inherits before m' := by
  cases before with
  | none => exact halike.status.symm.trans h
  | some l => exact Alike.trans h halike

theorem Inherits.versioned (h : Inherits before m) (hm : m.IsRead) (version : Nat) :
    Inherits before (Cluster.versioned m version) := h.alike (.versioned hm version)

/-- A child that was made of metadata and a spec has no status. -/
private theorem get?_status_of_decode {metadata spec : Json}
    (h : Child.decode kind (.object [("metadata", metadata), ("spec", spec)]) = .ok d) :
    d.body.get? "status" = none := by
  refine kind.hasField_status.get?_eq_none kind.schema_isOrdered (decode_eq_ok.1 h).2 ?_
  simp [Json.object, Json.get?, Json.entries, Dict.ofList, Dict.get?_insert, Dict.get?]

theorem get?_status_owned (hnew : d.body.get? "status" = none) (owner : Json) :
    (d.owned owner).encode.get? "status" = none := by
  have hbody : (d.owned owner).body.get? "status" = none :=
    (Json.get?_set d.body "metadata" "status" _).trans ((if_neg (by decide)).trans hnew)
  rw [encode, (d.owned owner).kind.hasField_status.get?_encode (d.owned owner).kind.schema_isOrdered, hbody]
  rfl

end Child

theorem ChildSet.get?_status {s : Session} {config : Config} {children : ChildSet} {d : Child}
    (h : ofSession s config = .ok children) (hd : d ∈ children.toList) : d.body.get? "status" = none := by
  obtain ⟨hset, hservice, hingress, hclaim, hclaims⟩ := ofSession_eq_ok h
  rcases mem_toList.1 hd with rfl | rfl | hd | rfl | hd
  · exact Child.get?_status_of_decode hset
  · exact Child.get?_status_of_decode hservice
  · obtain ⟨declared, hdecode⟩ := ingress_decode (hd ▸ hingress)
    exact Child.get?_status_of_decode hdecode
  · exact Child.get?_status_of_decode hclaim
  · obtain ⟨source, hdecode⟩ := dataSourceClaim_decode hclaims hd
    exact Child.get?_status_of_decode hdecode

namespace Cluster

variable {c c₀ : Cluster} {child : Child} {name : String}

/-- The reason that the child in some place gives; there is none if there is no child. -/
def reasonOf (c : Cluster) (reason : Json → String) (d : Child) : String :=
  ((c.found d).map fun l => reason l.body).getD ""

/-- Every child has come about without a change of status from what stood in its place in an earlier cluster, and none
has gone. -/
structure Succeeds (c₀ c : Cluster) : Prop where
  conforms : c.Conforms
  inherits : ∀ kind name child, c.children.find? kind name = some child →
    Child.Inherits (c₀.children.find? kind name) child
  stays : ∀ kind name, c.children.find? kind name = none → c₀.children.find? kind name = none

namespace Succeeds

theorem refl (hc : c.Conforms) : Succeeds c c where
  conforms := hc
  inherits := by
    intro kind name child hchild
    rw [hchild]
    exact Child.Alike.refl child
  stays := fun _ _ h => h

theorem putChild (h : Succeeds c₀ c) (hchild : child.IsRead)
    (hinherits : Child.Inherits (c₀.children.find? child.kind name) child) : Succeeds c₀ (c.putChild name child).2 where
  conforms := h.conforms.putChild hchild name
  inherits := by
    intro kind n stored hstored
    rw [find?_putChild] at hstored
    split at hstored
    · rename_i heq
      cases hstored
      rw [heq.1, ← heq.2]
      exact hinherits.versioned hchild _
    · exact h.inherits kind n stored hstored
  stays := by
    intro kind n hnone
    rw [find?_putChild] at hnone
    split at hnone
    · cases hnone
    · exact h.stays kind n hnone

end Succeeds

end Cluster

namespace Child

variable {owner : Json} {scope : MergeScope} {s : Session} {d m : Child} {c c' c₀ : Cluster} {u : ChildUpdate}

/-! ### Errands that may fail by their look -/

/-- What may be reported of a desired child: a child of its kind that has its status from before. -/
def Testifies (c₀ : Cluster) (d : Child) (m : Child) : Prop := m.kind = d.kind ∧ Inherits (c₀.found d) m

/-- Such a child is reported. -/
def Attested (c₀ : Cluster) (d : Child) (u : ChildUpdate) : Prop := ∃ m, u.manifest = some m ∧ d.Testifies c₀ m

/-- How far an errand has come that may fail only by its look at a stateful set. -/
inductive Reporting (owner : Json) (scope : MergeScope) (c₀ : Cluster) (d : Child) : Controlled ChildUpdate → Prop
  | ahead : Reporting owner scope c₀ d (d.reconcile owner scope)
  | missing (h : c₀.found d = none) : Reporting owner scope c₀ d (goOn d owner scope none)
  | present (live : Child) (h : d.Testifies c₀ live) : Reporting owner scope c₀ d (goOn d owner scope (some live))
  | ended (u : ChildUpdate) (h : d.kind ≠ .statefulSet → d.Attested c₀ u) :
      Reporting owner scope c₀ d (.done u)

/-- The reason that a reported child gives is that of the child in whose place it stands, and none if there was none. -/
private theorem Testifies.reason_eq {reason : Json → String} (h : d.Testifies c₀ m)
    (hencode : reason m.encode = reason m.body) (hnew : ∀ j : Json, j.get? "status" = none → reason j = "")
    (halike : ∀ l : Child, l.Alike m → reason l.body = reason m.body) : reason m.body = c₀.reasonOf reason d := by
  obtain ⟨-, hinherits⟩ := h
  unfold Cluster.reasonOf
  cases hfound : c₀.found d with
  | none =>
    rw [hfound] at hinherits
    rw [← hencode, hnew _ hinherits]
    rfl
  | some l =>
    rw [hfound] at hinherits
    exact (halike l hinherits).symm

theorem Testifies.claim_eq (h : d.Testifies c₀ m) (hd : d.IsClaim) :
    Diagnosis.claim m.body = c₀.reasonOf Diagnosis.claim d := by
  have hm : m.IsClaim := by rwa [IsClaim, h.1]
  refine h.reason_eq (claim_encode hm) (fun j hj => ?_) fun l hl => hl.claim_eq (by rwa [IsClaim, hl.kind])
  unfold Diagnosis.claim
  rw [hj]
  split <;> rfl

theorem Testifies.route_eq (h : d.Testifies c₀ m) (hd : d.kind = .service ∨ d.kind = .ingress) :
    Diagnosis.route m.body = c₀.reasonOf Diagnosis.route d := by
  have hm : m.kind = .service ∨ m.kind = .ingress := by rwa [h.1]
  refine h.reason_eq (route_encode hm) (fun j hj => ?_) fun l hl => hl.route_eq (by rwa [hl.kind])
  unfold Diagnosis.route Diagnosis.balancerPorts
  rw [Json.path?, hj]
  split <;> rfl

theorem Testifies.mergeFrom_eq (h : d.Testifies c₀ m) (scope : MergeScope) :
    ∃ merged, m.mergeFrom d scope = .ok merged :=
  ⟨_, if_pos h.1⟩

/-- A patch that does not fail leaves a child with the status of before, and that is the answer. -/
private theorem patch_testifies (hd : d.IsDesired) (hc : Cluster.Succeeds c₀ c) {answer : Except ApiError Child}
    (hpatched : c.patchChild d.kind d.name (d.patch scope) = (answer, c')) (hok : answer.isOk = true) :
    Cluster.Succeeds c₀ c' ∧ ∃ child, answer = .ok child ∧ d.Testifies c₀ child := by
  cases hlive : c.children.find? d.kind d.name with
  | none =>
    unfold Cluster.patchChild at hpatched
    rw [hlive] at hpatched
    cases hpatched
    cases hok
  | some live =>
    obtain ⟨hkind, hread⟩ := hc.conforms _ _ _ hlive
    have hinherits := hc.inherits _ _ _ hlive
    cases hpatch : Cluster.patched live (d.patch scope) with
    | error e =>
      rw [Cluster.patchChild_of_error hlive hpatch] at hpatched
      cases hpatched
      cases hok
    | ok child =>
      by_cases hsame : child = live
      · rw [Cluster.patchChild_of_same hlive (hsame ▸ hpatch)] at hpatched
        cases hpatched
        exact ⟨hc, live, rfl, hkind, hinherits⟩
      · rw [Cluster.patchChild_of_ne hlive hpatch hsame] at hpatched
        cases hpatched
        -- the patch names the spec only
        obtain ⟨changes, heq, hchanges⟩ := d.patch_eq_obj scope
        have hdistinct := hd.patch scope
        rw [heq, Json.KeysDistinct] at hdistinct
        have hchild : Inherits (c₀.children.find? d.kind d.name) child :=
          hinherits.alike (.patched hread hdistinct hchanges (heq ▸ hpatch))
        have hkind' : child.kind = d.kind := (patched_eq_ok.1 hpatch).1.trans hkind
        exact ⟨hc.putChild (isRead_of_patched hpatch) (by rwa [hkind']), _, rfl, hkind',
          hchild.versioned (isRead_of_patched hpatch) _⟩

/-- A child that could not be looked at is not reported. -/
theorem Attended.manifest_of_unseen {said : List clusterInterface.Call} {call : clusterInterface.Call}
    (h : d.Attended owner scope said u) (hcall : call ∈ said) (hlook : Request.isLook call.question = true)
    (hfailed : Request.failed call.question call.answer = true) : u.manifest = none := by
  cases h with
  | unread e => rfl
  | created | uncreated | mismatched | kept | patched | unpatched =>
    simp only [List.mem_cons, List.not_mem_nil, or_false] at hcall
    rcases hcall with rfl | rfl <;> simp [looking, creating, patching, Request.isLook, Request.failed, Except.isOk,
      Except.toBool] at hlook hfailed

/-- One question of an errand. -/
theorem Reporting.step {q : Request} {next : q.Answer → Controlled ChildUpdate} {answer : q.Answer}
    (h : Reporting owner scope c₀ d (.ask q next)) (hd : d.IsDesired) (hnew : d.body.get? "status" = none)
    (howner : s.owner? = some owner) (hc : Cluster.Succeeds c₀ c) (hstep : Cluster.FaultyStep c ⟨q, answer⟩ c')
    (hlook : Request.failed q answer = true → q ∈ s.looks) :
    Cluster.Succeeds c₀ c' ∧ Reporting owner scope c₀ d (next answer) := by
  generalize hp : (.ask q next : Controlled ChildUpdate) = p at h
  -- all but looks are answered by the cluster
  have hwrite : q ∉ s.looks → Request.failed q answer = false ∧ answer = (Cluster.answer q c).1 ∧
      c' = (Cluster.answer q c).2 := by
    intro hother
    have hok : Request.failed q answer = false := Bool.eq_false_iff.2 fun hfailed => hother (hlook hfailed)
    exact ⟨hok, hstep.answered_of_ok hok⟩
  cases h with
  | ahead =>
    obtain ⟨next', hask, herror, hfound⟩ := reconcile_eq_ask d owner scope
    rw [hask] at hp
    cases hp
    have hsame : c' = c := hstep.eq_of_isLook rfl
    refine ⟨hsame ▸ hc, ?_⟩
    cases answer with
    | error e =>
      rw [herror]
      have hset : d.kind = .statefulSet ∧ d.name = s.childName := by simpa [Session.looks] using hlook rfl
      exact .ended _ fun hother => absurd hset.1 hother
    | ok found =>
      rw [hfound]
      have hanswer : found = c.found d := Except.ok.inj (hstep.answered_of_ok rfl).1
      cases found with
      | none => exact .missing (hc.stays _ _ hanswer.symm)
      | some live => exact .present live ⟨(hc.conforms _ _ _ hanswer.symm).1, hc.inherits _ _ _ hanswer.symm⟩
  | missing hnone =>
    cases hp
    obtain ⟨-, hanswer, rfl⟩ := hwrite (by simp [Session.looks])
    have hinherits : Inherits (c₀.found d) (d.owned owner) := by
      rw [hnone]
      exact get?_status_owned hnew owner
    have hread := hd.read.owned (Child.isValue_owner howner)
    refine ⟨hc.putChild hread (by rwa [name_owned]), ?_⟩
    obtain rfl : answer = .ok (Cluster.versioned (d.owned owner) (c.version + 1)) := hanswer
    exact .ended _ fun _ => ⟨_, rfl, rfl, hinherits.versioned hread _⟩
  | present live hlive =>
    obtain ⟨merged, hmerge⟩ := hlive.mergeFrom_eq scope
    simp only [goOn, updateLive, hmerge] at hp
    split at hp
    · cases hp
    · cases hp
      obtain ⟨hok, hanswer, hstate⟩ := hwrite (by simp [Session.looks])
      have hok' : Except.isOk answer = true := by simpa [Request.failed] using hok
      have hpatched : c.patchChild d.kind d.name (d.patch scope) = (answer, c') := (Prod.ext hanswer hstate).symm
      obtain ⟨hc', child, rfl, hchild⟩ := patch_testifies hd hc hpatched hok'
      exact ⟨hc', .ended _ fun _ => ⟨child, rfl, hchild⟩⟩
  | ended u h => cases hp

/-- What an errand has come to. -/
theorem Reporting.of_done (h : Reporting owner scope c₀ d (.done u)) (hother : d.kind ≠ .statefulSet) :
    d.Attested c₀ u := by
  generalize hp : (.done u : Controlled ChildUpdate) = p at h
  cases h with
  | ahead =>
    obtain ⟨next', hask, -, -⟩ := reconcile_eq_ask d owner scope
    rw [hask] at hp
    cases hp
  | missing hnone => cases hp
  | present live hlive =>
    obtain ⟨merged, hmerge⟩ := hlive.mergeFrom_eq scope
    simp only [goOn, updateLive, hmerge] at hp
    split at hp
    · cases hp
      exact ⟨live, rfl, hlive⟩
    · cases hp
  | ended u h =>
    cases hp
    exact h hother

end Child

namespace ChildSet

variable {children : ChildSet} {s : Session} {config : Config} {owner : Json} {scope : MergeScope} {c c' : Cluster}
  {calls : List clusterInterface.Call} {updates : ChildUpdates}

/-! ### All errands -/

/-- The errands in the order of their children: each but that for the stateful set reports a child with its status of
before, and so is the whole cluster left. -/
private theorem reports_inOrder (schedule : Schedule) (hchildren : ofSession s config = .ok children)
    (howner : s.owner? = some owner) (hc : c.Conforms)
    (h : (schedule.reconcile children owner scope).Conversation calls updates) (hrun : Cluster.FaultyRun c calls c')
    (hshaky : Shaky s calls) : Cluster.Succeeds c c' ∧
      List.Forall₂ (fun d u => d.kind ≠ .statefulSet → d.Attested c u) children.toList updates.inOrder := by
  have hbegin : List.Forall₂ (Child.Reporting owner scope c) children.toList
      (children.toList.map fun d => d.reconcile owner scope) :=
    List.forall₂_map_right_iff.2 (List.forall₂_same.2 fun d _ => .ahead)
  refine ((schedule.interleaved h).stages_alone _ (Cluster.Succeeds c) (Child.Reporting owner scope c)
    (hrun.along hshaky) ?own (.refl hc) hbegin).imp_right fun hend => hend.imp fun d u hstage => hstage.of_done
  rintro d hd q next answer c₁ t hc₁ hstage ⟨hstep, hlook⟩
  exact hstage.step (isDesired hchildren hd) (get?_status hchildren hd) howner hc₁ hstep hlook

/-- What is reported of the children other than the stateful set bears the statuses that they had in a cluster. -/
structure Reported (children : ChildSet) (c : Cluster) (u : ChildUpdates) : Prop where
  service : children.service.Attested c u.service
  ingress : Option.Rel (fun d v => d.Attested c v) children.ingress u.ingress
  claims : List.Forall₂ (fun d v => d.Attested c v) (children.claim :: children.dataSourceClaims)
    (u.claim :: u.dataSourceClaims)

private theorem reported_of_inOrder (hkinds : children.Kinds) (hsome : updates.ingress.isSome = children.ingress.isSome)
    (h : List.Forall₂ (fun d u => d.kind ≠ .statefulSet → d.Attested c u) children.toList updates.inOrder) :
    children.Reported c updates := by
  have hservice : children.service.kind ≠ .statefulSet := by simp [hkinds.service]
  have hclaim : children.claim.kind ≠ .statefulSet := by simp [hkinds.claim]
  have hclaims : ∀ {us}, List.Forall₂ (fun d u => d.kind ≠ .statefulSet → d.Attested c u) children.dataSourceClaims us →
      List.Forall₂ (fun d v => d.Attested c v) children.dataSourceClaims us := fun hall =>
    ((List.forall₂_and_left _ _).2 ⟨hkinds.dataSourceClaims, hall⟩).imp fun d u hd => hd.2 (by simp [hd.1])
  unfold toList ChildUpdates.inOrder at h
  cases hd : children.ingress with
  | none =>
    rw [hd, Option.isSome_none, Option.isSome_eq_false_iff, Option.isNone_iff_eq_none] at hsome
    rw [hd, hsome] at h
    simp only [Option.toList_none, List.append_nil, List.cons_append, List.nil_append, List.forall₂_cons] at h
    obtain ⟨-, h₂, h₃, h₄⟩ := h
    exact ⟨h₂ hservice, by rw [hd, hsome]; exact .none, .cons (h₃ hclaim) (hclaims h₄)⟩
  | some d =>
    rw [hd, Option.isSome_some, Option.isSome_iff_exists] at hsome
    obtain ⟨v, hv⟩ := hsome
    rw [hd, hv] at h
    simp only [Option.toList_some, List.cons_append, List.nil_append, List.forall₂_cons] at h
    obtain ⟨-, h₂, h₃, h₄, h₅⟩ := h
    have hingress : d.kind ≠ .statefulSet := by simp [hkinds.ingress d hd]
    exact ⟨h₂ hservice, by rw [hd, hv]; exact .some (h₃ hingress), .cons (h₄ hclaim) (hclaims h₅)⟩

/-- When only looks fail, what is reported of the children bears the statuses of before, and so do all children in the
cluster. -/
theorem Schedule.reports (schedule : Schedule) (hchildren : ofSession s config = .ok children)
    (howner : s.owner? = some owner) (hc : c.Conforms)
    (h : (schedule.reconcile children owner scope).Conversation calls updates) (hrun : Cluster.FaultyRun c calls c')
    (hshaky : Shaky s calls) : Cluster.Succeeds c c' ∧ children.Reported c updates :=
  (reports_inOrder schedule hchildren howner hc h hrun hshaky).imp_right
    (reported_of_inOrder (kinds hchildren) (schedule.isSome_ingress h))

/-! ### The reasons of the children -/

/-- The reasons to fail that the children of a session give in a cluster, empty ones included. -/
def reasons (children : ChildSet) (c : Cluster) : List String :=
  (children.claim :: children.dataSourceClaims).map (c.reasonOf Diagnosis.claim) ++
    [c.reasonOf Diagnosis.route children.service] ++ (children.ingress.map (c.reasonOf Diagnosis.route)).toList

namespace Reported

private theorem map_claims {ds : List Child} {us : List ChildUpdate}
    (h : List.Forall₂ (fun d u => d.IsClaim ∧ d.Attested c u) ds us) :
    (us.filterMap fun u => u.bodyOf? [.claim, .dataSourceClaim]).map Diagnosis.claim =
      ds.map (c.reasonOf Diagnosis.claim) := by
  induction h with
  | nil => rfl
  | @cons d u ds us hd _ ih =>
    obtain ⟨hclaim, m, hm, htestifies⟩ := hd
    have hbody : u.bodyOf? [.claim, .dataSourceClaim] = some m.body := by
      have hkind : m.IsClaim := by rwa [Child.IsClaim, htestifies.1]
      rcases hkind with hkind | hkind <;> simp [ChildUpdate.bodyOf?, hm, hkind]
    rw [List.filterMap_cons_some hbody, List.map_cons, List.map_cons, ih, htestifies.claim_eq hclaim]

theorem claims_eq (h : children.Reported c updates) (hkinds : children.Kinds) : updates.claims.map Diagnosis.claim =
    (children.claim :: children.dataSourceClaims).map (c.reasonOf Diagnosis.claim) := by
  have hclaims : ∀ d ∈ children.claim :: children.dataSourceClaims, d.IsClaim :=
    List.forall_mem_cons.2 ⟨.inl hkinds.claim, fun d hd => .inr (hkinds.dataSourceClaims d hd)⟩
  exact map_claims ((List.forall₂_and_left _ _).2 ⟨hclaims, h.claims⟩)

theorem service?_eq (h : children.Reported c updates) (hkinds : children.Kinds) :
    updates.service?.map Diagnosis.route = some (c.reasonOf Diagnosis.route children.service) := by
  obtain ⟨m, hm, htestifies⟩ := h.service
  have hkind : m.kind = .service := htestifies.1.trans hkinds.service
  have hbody : updates.service? = some m.body := by simp [ChildUpdates.service?, ChildUpdate.bodyOf?, hm, hkind]
  rw [hbody, Option.map_some, htestifies.route_eq (.inl hkinds.service)]

theorem ingress?_eq (h : children.Reported c updates) (hkinds : children.Kinds) :
    updates.ingress?.map Diagnosis.route = children.ingress.map (c.reasonOf Diagnosis.route) := by
  have hingress := h.ingress
  unfold ChildUpdates.ingress?
  cases hd : children.ingress with
  | none =>
    rw [hd] at hingress
    cases hu : updates.ingress with
    | none => rfl
    | some v =>
      rw [hu] at hingress
      cases hingress
  | some d =>
    rw [hd] at hingress
    cases hu : updates.ingress with
    | none =>
      rw [hu] at hingress
      cases hingress
    | some v =>
      rw [hu] at hingress
      cases hingress with
      | some hattested =>
        obtain ⟨m, hm, htestifies⟩ := hattested
        have hkind : m.kind = .ingress := htestifies.1.trans (hkinds.ingress d hd)
        have hbody : v.bodyOf? [.ingress] = some m.body := by simp [ChildUpdate.bodyOf?, hm, hkind]
        rw [Option.bind_some, hbody, Option.map_some, Option.map_some,
          htestifies.route_eq (.inr (hkinds.ingress d hd))]

/-- Pod and events apart, a session fails for the reasons that its children gave before. -/
theorem failureReasons_eq (h : children.Reported c updates) (hkinds : children.Kinds) (seen : Observations) :
    Status.failureReasons updates seen =
      (seen.pod.map Diagnosis.pod).toList ++ [Diagnosis.scheduling seen.events] ++ children.reasons c := by
  unfold Status.failureReasons reasons
  rw [h.claims_eq hkinds, h.service?_eq hkinds, h.ingress?_eq hkinds, Option.toList_some]
  simp only [List.append_assoc]

end Reported

/-! ### The replicas of the stateful set -/

/-- The replicas that are asked for are the desired ones; they are not known when the stateful set could not be looked
at. -/
theorem Schedule.replicaTarget_eq (schedule : Schedule) (hchildren : ofSession s config = .ok children)
    (howner : s.owner? = some owner) (hc : c.Conforms)
    (h : (schedule.reconcile children owner scope).Conversation calls updates) (hrun : Cluster.FaultyRun c calls c')
    (hshaky : Shaky s calls) : updates.replicaTarget =
      if (Request.getChild .statefulSet s.childName).lost calls then none
      else some (if s.spec.hibernated then 0 else 1) := by
  obtain ⟨errands, herrands⟩ := schedule.attended h
  split
  · rename_i hlost
    obtain ⟨call, hcall, hquestion, hfailed⟩ := Request.lost_eq_true.1 hlost
    obtain ⟨e, he, -, hupdate, hsaid⟩ := herrands.statefulSet (kinds hchildren)
    have hmine : call ∈ e.calls := by
      rw [← hsaid, concerning, List.mem_filter, hquestion]
      exact ⟨hcall, by simp [Request.concerns]⟩
    have hnone := (herrands.2.2.2 e he).1.manifest_of_unseen hmine (by rw [hquestion]; rfl) hfailed
    rw [ChildUpdates.replicaTarget, ChildUpdates.statefulSet?, ChildUpdate.bodyOf?, ← hupdate, hnone]
    rfl
  · rename_i hfound
    -- nothing else that is said about children may fail
    have hsmooth : Child.Smooth calls := by
      intro call hcall
      by_contra hfailed
      rw [Bool.not_eq_false] at hfailed
      have hchild := herrands.isAboutChild call hcall
      have hlook := hshaky call hcall hfailed
      simp only [Session.looks, List.mem_cons, List.not_mem_nil, or_false] at hlook
      rcases hlook with hquestion | hquestion | hquestion
      · exact hfound (Request.lost_eq_true.2 ⟨call, hcall, hquestion, hfailed⟩)
      · rw [hquestion] at hchild
        cases hchild
      · rw [hquestion] at hchild
        cases hchild
    obtain ⟨hcalls, hupdates⟩ := h.run_eq (hrun.answered hsmooth)
    obtain ⟨set, -, hscaled, hshown⟩ := schedule.scaled hchildren howner hc (hcalls ▸ hsmooth)
    rw [hupdates] at hshown
    rw [ChildUpdates.replicaTarget, hshown, Option.bind_some, hscaled.path?_eq, statefulSet_replicas hchildren]
    rfl

end ChildSet

end SessionOperator
