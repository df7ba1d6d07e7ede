import SessionOperator.Proofs.Child.Settled
import SessionOperator.Proofs.Pass.Conversation

/-!
# Bringing one child about

What a pass does to a cluster in memory for the sake of one desired child, as long as nothing fails.  Afterwards a
settled child stands under the name, and a settled child is left as it is.

* `Cluster.Conforms`: clusters whose children were read and stand under their kinds;
* `Child.Brought`: what happens for one desired child; `Child.reconcile_brought`: nothing else does;
* `Child.Brought.stands`: a settled child stands there afterwards;
* `Child.Brought.keeps`: children that are settled already are kept;
* `Child.Brought.alike`: no child disappears, and nothing but its spec is changed.
-/

namespace SessionOperator

open Program

namespace Cluster

/-- Every child was read and stands under its kind. -/
def Conforms (c : Cluster) : Prop :=
  ∀ kind name child, c.children.find? kind name = some child → child.kind = kind ∧ child.IsRead

/-- The child that stands where a desired one should. -/
def found (c : Cluster) (d : Child) : Option Child := c.children.find? d.kind d.name

variable {c : Cluster} {child : Child} {name n : String} {kind : ChildKind}

theorem find?_putChild (c : Cluster) (name n : String) (child : Child) (kind : ChildKind) :
    (c.putChild name child).2.children.find? kind n =
      if kind = child.kind ∧ name = n then some (versioned child (c.version + 1)) else c.children.find? kind n :=
  c.children.find?_put name n (versioned child (c.version + 1)) kind

section

variable {live : Child} {patch : Json} (hlive : c.children.find? kind name = some live)
include hlive

theorem patchChild_of_error {e : DecodeError} (hpatch : patched live patch = .error e) :
    c.patchChild kind name patch = (.error (.unreadable (.ofDecodeError e)), c) := by
  unfold patchChild
  rw [hlive]
  simp only [hpatch]

/-- A patch that changes nothing stores no new version. -/
theorem patchChild_of_same (hpatch : patched live patch = .ok live) : c.patchChild kind name patch = (.ok live, c) := by
  unfold patchChild
  rw [hlive]
  simp only [hpatch, if_true]

theorem patchChild_of_ne (hpatch : patched live patch = .ok child) (hne : child ≠ live) :
    c.patchChild kind name patch = (.ok (versioned child (c.version + 1)), (c.putChild name child).2) := by
  unfold patchChild
  rw [hlive]
  simp only [hpatch, if_neg hne]
  rfl

end

theorem Conforms.putChild (hc : c.Conforms) (hchild : child.IsRead) (name : String) :
    (c.putChild name child).2.Conforms := by
  intro kind n stored h
  rw [find?_putChild] at h
  split at h
  · rename_i heq
    cases h
    exact ⟨heq.1.symm, hchild.versioned _⟩
  · exact hc kind n stored h

theorem conforms_of_single (hc : c.children = ChildStore.empty.put name child) (hchild : child.IsRead) :
    c.Conforms := by
  intro kind n found h
  rw [hc, ChildStore.find?_put] at h
  split at h
  · rename_i heq
    cases h
    exact ⟨heq.1.symm, hchild⟩
  · cases h

end Cluster

namespace Child

variable {owner : Json} {scope : MergeScope} {d d' l : Child} {c c' : Cluster} {u : ChildUpdate}

/-- What a pass does for the sake of one desired child: it creates a missing one, leaves a settled one as it is, and
patches any other. -/
inductive Brought (owner : Json) (scope : MergeScope) (d : Child) (c : Cluster) : ChildUpdate → Cluster → Prop
  | created (hnone : c.found d = none) : Brought owner scope d c
      (.done d (Cluster.versioned (d.owned owner) (c.version + 1)) .created) (c.putChild d.name (d.owned owner)).2
  | kept (l : Child) (hlive : c.found d = some l) (hsettled : Settled scope d l) :
      Brought owner scope d c (.done d l .unchanged) c
  | written (l child : Child) (hlive : c.found d = some l) (hmerge : l.mergeFrom d scope ≠ .ok l)
      (hpatch : Cluster.patched l (d.patch scope) = .ok child) (hne : child ≠ l) :
      Brought owner scope d c
        (.done d (Cluster.versioned child (c.version + 1)) (operationAfter l (Cluster.versioned child (c.version + 1))))
        (c.putChild d.name child).2

theorem name_owned (d : Child) (owner : Json) : (d.owned owner).name = d.name := by
  rw [name, name, owned, metadata_setMetadata, Json.text?, Json.text?, Json.get?_set, if_neg (by decide)]

/-- No call of a run failed. -/
abbrev Smooth (calls : List clusterInterface.Call) : Prop :=
  ∀ call ∈ calls, Request.failed call.question call.answer = false

/-- What follows the look at the child that is there. -/
def goOn (d : Child) (owner : Json) (scope : MergeScope) : Option Child → Controlled ChildUpdate
  | none => createMissing d owner
  | some live => updateLive d scope live

/-- First the child is looked at. -/
theorem reconcile_eq_ask (d : Child) (owner : Json) (scope : MergeScope) :
    ∃ next, d.reconcile owner scope = .ask (.getChild d.kind d.name) next ∧
      (∀ e, next (.error e) = .done (.failed d e.message)) ∧ ∀ found, next (.ok found) = goOn d owner scope found := by
  refine ⟨_, rfl, fun _ => rfl, fun found => ?_⟩
  cases found <;> rfl

/-- After one more question an errand is over. -/
theorem goOn_ask {found : Option Child} {q : Request} {next : q.Answer → Controlled ChildUpdate}
    (h : goOn d owner scope found = .ask q next) (answer : q.Answer) : ∃ u, next answer = .done u := by
  rcases found with _ | live
  · cases h
    rcases answer with e | child <;> exact ⟨_, rfl⟩
  · simp only [goOn, updateLive] at h
    cases hmerge : live.mergeFrom d scope with
    | error mismatch =>
      rw [hmerge] at h
      cases h
    | ok merged =>
      simp only [hmerge] at h
      split at h
      · cases h
      · cases h
        rcases answer with e | child <;> exact ⟨_, rfl⟩

theorem reconcile_run (d : Child) (owner : Json) (scope : MergeScope) (c : Cluster) :
    (d.reconcile owner scope).run Cluster.answer c = (goOn d owner scope (c.found d)).run Cluster.answer c := by
  have hfound : (request (.getChild d.kind d.name)).run Cluster.answer c = (.ok (c.found d), c) := rfl
  rw [reconcile, bind_eq, run_bind, hfound]
  cases c.found d <;> rfl

theorem reconcile_calls (d : Child) (owner : Json) (scope : MergeScope) (c : Cluster) :
    (d.reconcile owner scope).calls Cluster.answer c =
      ⟨Request.getChild d.kind d.name, .ok (c.found d)⟩ :: (goOn d owner scope (c.found d)).calls Cluster.answer c := by
  have hfound : (request (.getChild d.kind d.name)).run Cluster.answer c = (.ok (c.found d), c) := rfl
  rw [reconcile, bind_eq, calls_bind, hfound]
  refine congrArg (List.cons _) ?_
  cases c.found d <;> rfl

private theorem updateLive_brought (hkind : l.kind = d.kind) (hlive : c.found d = some l)
    (h : Smooth ((updateLive d scope l).calls Cluster.answer c)) :
    Brought owner scope d c ((updateLive d scope l).run Cluster.answer c).1
      ((updateLive d scope l).run Cluster.answer c).2 := by
  have hmerged : l.mergeFrom d scope = .ok ⟨l.kind, mergeBody d.kind scope d.body l.body⟩ := if_pos hkind
  unfold updateLive at h ⊢
  rw [hmerged] at h ⊢
  by_cases heq : (⟨l.kind, mergeBody d.kind scope d.body l.body⟩ : Child) = l
  · -- no patch is sent
    simp only [if_pos heq] at h ⊢
    exact .kept l hlive (.inl (by rw [hmerged, heq]))
  · simp only [if_neg heq] at h ⊢
    rw [bind_eq, calls_bind, request_calls] at h
    rw [bind_eq, run_bind, request_run]
    have hanswer : Cluster.answer (.patchChild d.kind d.name (d.patch scope)) c =
        c.patchChild d.kind d.name (d.patch scope) := rfl
    have hfound : c.children.find? d.kind d.name = some l := hlive
    unfold Cluster.patchChild at hanswer
    rw [hfound] at hanswer
    cases hpatch : Cluster.patched l (d.patch scope) with
    | error e =>
      simp only [hpatch] at hanswer
      have hfail := h _ (List.mem_append_left _ List.mem_cons_self)
      rw [hanswer] at hfail
      cases hfail
    | ok child =>
      by_cases hne : child = l
      · -- the patch was sent and has changed nothing, so that no new version was stored
        simp only [hpatch, if_pos hne] at hanswer
        rw [hanswer]
        have hunchanged : operationAfter l l = .unchanged := if_pos rfl
        show Brought owner scope d c (.done d l (operationAfter l l)) c
        rw [hunchanged]
        exact .kept l hlive (.inr (hne ▸ hpatch))
      · simp only [hpatch, if_neg hne] at hanswer
        rw [hanswer]
        exact .written l child hlive (by rw [hmerged]; exact fun h => heq (Except.ok.inj h)) hpatch hne

theorem reconcile_brought (hc : c.Conforms) (h : Smooth ((d.reconcile owner scope).calls Cluster.answer c)) :
    Brought owner scope d c ((d.reconcile owner scope).run Cluster.answer c).1
      ((d.reconcile owner scope).run Cluster.answer c).2 := by
  rw [reconcile_run]
  rw [reconcile_calls] at h
  have hrest : Smooth ((goOn d owner scope (c.found d)).calls Cluster.answer c) :=
    fun call hcall => h call (List.mem_cons_of_mem _ hcall)
  cases hlive : c.found d with
  | none =>
    show Brought owner scope d c (.done d (Cluster.versioned (d.owned owner) (c.version + 1)) .created)
      (c.putChild (d.owned owner).name (d.owned owner)).2
    rw [name_owned]
    exact .created hlive
  | some l =>
    rw [hlive] at hrest
    exact updateLive_brought (hc _ _ _ hlive).1 hlive hrest

/-! ### What a step leads to -/

private theorem settled_created (hd : d.IsDesired) (howner : Kubernetes.ownerReference.IsValue owner)
    (version : Nat) : Settled scope d (Cluster.versioned (d.owned owner) version) := by
  refine .inl (mergeFrom_of_spec hd ((hd.read.owned howner).versioned version) rfl ?_ scope)
  have hset : ∀ (body m : Json), (body.set "metadata" m).get? "spec" = body.get? "spec" := by
    intro body m
    rw [Json.get?_set, if_neg (by decide)]
  exact (hset _ _).trans (hset _ _)

namespace Brought

/-- Afterwards a settled child stands where the desired one should, and that is what is reported. -/
theorem stands (hd : d.IsDesired) (hc : c.Conforms) (howner : Kubernetes.ownerReference.IsValue owner)
    (h : Brought owner scope d c u c') :
    ∃ l, c'.found d = some l ∧ Settled scope d l ∧ ∃ operation, u = .done d l operation := by
  cases h with
  | created hnone =>
    refine ⟨_, ?_, settled_created hd howner (c.version + 1), _, rfl⟩
    exact (Cluster.find?_putChild c d.name d.name (d.owned owner) d.kind).trans (if_pos ⟨rfl, rfl⟩)
  | kept l hlive hsettled => exact ⟨l, hlive, hsettled, _, rfl⟩
  | written l child hlive hmerge hpatch hne =>
    obtain ⟨hkind, hread⟩ := hc _ _ _ hlive
    refine ⟨_, ?_, settled_of_patched hd hread hpatch (c.version + 1), _, rfl⟩
    have hchild : d.kind = child.kind := hkind.symm.trans (patched_eq_ok.1 hpatch).1.symm
    exact (Cluster.find?_putChild c d.name d.name child d.kind).trans (if_pos ⟨hchild, rfl⟩)

theorem conforms (hd : d.IsDesired) (hc : c.Conforms) (howner : Kubernetes.ownerReference.IsValue owner)
    (h : Brought owner scope d c u c') : c'.Conforms := by
  cases h with
  | created hnone => exact hc.putChild (hd.read.owned howner) d.name
  | kept l hlive hsettled => exact hc
  | written l child hlive hmerge hpatch hne => exact hc.putChild (isRead_of_patched hpatch) d.name

/-- Only the children and the count of versions change. -/
theorem frame (h : Brought owner scope d c u c') :
    c' = { c with children := c'.children, version := c'.version } := by
  cases h <;> rfl

/-- Where a settled child stands, nothing happens. -/
theorem eq_of_settled (h : Brought owner scope d c u c') (hlive : c.found d = some l) (hl : Settled scope d l) :
    u = .done d l .unchanged ∧ c' = c := by
  cases h with
  | created hnone =>
    rw [hlive] at hnone
    cases hnone
  | kept l' hlive' hsettled =>
    cases hlive.symm.trans hlive'
    exact ⟨rfl, rfl⟩
  | written l' child hlive' hmerge hpatch hne =>
    cases hlive.symm.trans hlive'
    rcases hl with hl | hl
    · exact absurd hl hmerge
    · exact absurd (Except.ok.inj (hpatch.symm.trans hl)) hne

/-- A child that is settled already is kept while another desired one is brought about. -/
theorem keeps (h : Brought owner scope d' c u c') (hc : c.Conforms) (hlive : c.found d = some l)
    (hl : Settled scope d l) (halike : d.kind = d'.kind → d.Interchangeable d') : c'.found d = some l := by
  by_cases hkey : d.kind = d'.kind ∧ d.name = d'.name
  · -- both are desired in one place, and ask for the same there
    have hfound : c.found d' = c.found d := by rw [Cluster.found, Cluster.found, hkey.1, hkey.2]
    obtain ⟨-, rfl⟩ := h.eq_of_settled (hfound.trans hlive) (hl.interchange (halike hkey.1))
    exact hlive
  · have hput : ∀ child : Child, child.kind = d'.kind → (c.putChild d'.name child).2.found d = some l := by
      intro child hkind
      refine (Cluster.find?_putChild c d'.name d.name child d.kind).trans ((if_neg ?_).trans hlive)
      rintro ⟨hk, hname⟩
      exact hkey ⟨hk.trans hkind, hname.symm⟩
    cases h with
    | created hnone => exact hput _ rfl
    | kept l' hlive' hsettled => exact hlive
    | written l' child hlive' hmerge hpatch hne =>
      exact hput child ((patched_eq_ok.1 hpatch).1.trans (hc _ _ _ hlive').1)

/-- No child disappears, and nothing but specs and versions is changed. -/
theorem alike (h : Brought owner scope d c u c') (hd : d.IsDesired) (hc : c.Conforms) {kind : ChildKind} {name : String}
    {child : Child} (hchild : c.children.find? kind name = some child) :
    ∃ child', c'.children.find? kind name = some child' ∧ child.Alike child' := by
  cases h with
  | created hnone =>
    refine ⟨child, ?_, .refl child⟩
    refine (Cluster.find?_putChild c d.name name (d.owned owner) kind).trans ((if_neg ?_).trans hchild)
    rintro ⟨rfl, rfl⟩
    exact absurd (hnone.symm.trans hchild) (by simp)
  | kept l hlive hsettled => exact ⟨child, hchild, .refl child⟩
  | written l next hlive hmerge hpatch hne =>
    by_cases hkey : kind = next.kind ∧ d.name = name
    · obtain ⟨hk, rfl⟩ := hkey
      obtain ⟨hkind, hread⟩ := hc _ _ _ hlive
      have hlk : d.kind = kind := hkind.symm.trans ((patched_eq_ok.1 hpatch).1.symm.trans hk.symm)
      rw [Cluster.found, hlk] at hlive
      cases hchild.symm.trans hlive
      refine ⟨_, (Cluster.find?_putChild c d.name d.name next kind).trans (if_pos ⟨hk, rfl⟩), ?_⟩
      -- the patch names the spec only, and then the new version is set
      have hdistinct := hd.patch scope
      obtain ⟨changes, heq, hchanges⟩ := d.patch_eq_obj scope
      rw [heq, Json.KeysDistinct] at hdistinct
      exact (Alike.patched hread hdistinct hchanges (heq ▸ hpatch)).trans
        (.versioned (isRead_of_patched hpatch) (c.version + 1))
    · refine ⟨child, ?_, .refl child⟩
      exact (Cluster.find?_putChild c d.name name next kind).trans ((if_neg hkey).trans hchild)

end Brought

/-! ### Settled children -/

/-- No call of a run failed, and none created a child. -/
abbrev Quiet (calls : List clusterInterface.Call) : Prop :=
  ∀ call ∈ calls, Request.failed call.question call.answer = false ∧ ∀ child, call.question ≠ Request.createChild child

private theorem updateLive_quiet (hkind : l.kind = d.kind) (hlive : c.found d = some l) (hl : Settled scope d l) :
    Quiet ((updateLive d scope l).calls Cluster.answer c) := by
  unfold updateLive
  rw [show l.mergeFrom d scope = .ok ⟨l.kind, mergeBody d.kind scope d.body l.body⟩ from if_pos hkind]
  by_cases heq : (⟨l.kind, mergeBody d.kind scope d.body l.body⟩ : Child) = l
  · simp only [if_pos heq]
    exact fun call hcall => absurd hcall List.not_mem_nil
  · simp only [if_neg heq]
    have hpatch : Cluster.patched l (d.patch scope) = .ok l := by
      refine hl.resolve_left fun h => heq ?_
      rw [mergeFrom, if_pos hkind] at h
      exact Except.ok.inj h
    have hanswer : Cluster.answer (.patchChild d.kind d.name (d.patch scope)) c = (.ok l, c) := by
      show c.patchChild d.kind d.name (d.patch scope) = _
      rw [Cluster.patchChild, show c.children.find? d.kind d.name = some l from hlive]
      simp only [hpatch, if_true]
    rw [bind_eq, calls_bind, request_calls, request_run, hanswer]
    intro call hcall
    rw [show call = _ from List.mem_singleton.1 hcall]
    exact ⟨rfl, by simp⟩

/-- Where a settled child stands no call fails, and no child is created. -/
theorem reconcile_quiet (hc : c.Conforms) (hlive : c.found d = some l) (hl : Settled scope d l) :
    Quiet ((d.reconcile owner scope).calls Cluster.answer c) := by
  intro call hcall
  rw [reconcile_calls, hlive] at hcall
  rcases List.mem_cons.1 hcall with rfl | hcall
  · exact ⟨rfl, by simp⟩
  · exact updateLive_quiet (hc _ _ _ hlive).1 hlive hl call hcall

end Child

end SessionOperator
