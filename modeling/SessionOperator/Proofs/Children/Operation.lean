import SessionOperator.Proofs.Children.Independence
import SessionOperator.Proofs.Session.Patched

/-!
# The operation that is reported

What an errand reports of its child is what has happened to it, and the same errand once more finds nothing to do.

* `Child.Reported`: a report that agrees with the cluster before and after;
* `Child.Brought.reported`: as long as nothing fails, such a report is made;
* `ChildSet.reported_once`: for the children of a session, and the errand that follows.
-/

namespace SessionOperator

open Program

namespace Child

variable {owner : Json} {scope : MergeScope} {d l : Child} {c c' : Cluster} {u : ChildUpdate}

/-- What is reported of one child is what has happened to it, and nothing has happened to any other. -/
structure Reported (d : Child) (before : Cluster) (u : ChildUpdate) (after : Cluster) : Prop where
  created : u.operation = .created ↔ before.found d = none
  updated : u.operation = .updated ↔ ∃ l, before.found d = some l ∧ after.found d ≠ some l
  unchanged : u.operation = .unchanged ↔ ∃ l, before.found d = some l ∧ after.found d = some l
  stored : ∃ l, after.found d = some l ∧ u = .done d l u.operation
  elsewhere : ∀ kind name, ¬ (kind = d.kind ∧ name = d.name) →
    after.children.find? kind name = before.children.find? kind name
  children : after = { before with children := after.children, version := after.version }
  still : u.operation = .unchanged → after = before

private theorem find?_putChild_of_ne {child : Child} (hkind : child.kind = d.kind) (c : Cluster) {kind : ChildKind}
    {name : String} (hother : ¬ (kind = d.kind ∧ name = d.name)) :
    (c.putChild d.name child).2.children.find? kind name = c.children.find? kind name := by
  rw [Cluster.find?_putChild, hkind]
  exact if_neg fun hkey => hother ⟨hkey.1, hkey.2.symm⟩

/-- A version that was never given out tells an object that was written from the one before. -/
theorem Brought.reported (h : Brought owner scope d c u c') (hc : c.Conforms) (hnumbered : c.Numbered) :
    Reported d c u c' := by
  have hframe := h.frame
  cases h with
  | created hnone =>
    have hkind : (d.owned owner).kind = d.kind := rfl
    have hstored := found_putChild hkind c
    refine ⟨iff_of_true rfl hnone, iff_of_false nofun ?_, iff_of_false nofun ?_, ⟨_, hstored, rfl⟩, fun kind name =>
      find?_putChild_of_ne hkind c, hframe, nofun⟩
    all_goals
      rintro ⟨l, hl, -⟩
      exact absurd (hnone.symm.trans hl) (by simp)
  | kept l hlive hsettled =>
    refine ⟨iff_of_false nofun (by simp [hlive]), iff_of_false nofun ?_, iff_of_true rfl ⟨l, hlive, hlive⟩,
      ⟨l, hlive, rfl⟩, fun _ _ _ => rfl, hframe, fun _ => rfl⟩
    rintro ⟨l', hl', hne⟩
    exact hne hl'
  | written l child hlive hmerge hpatch hne =>
    have hversion := hnumbered.resourceVersion?_ne hlive child
    have hupdated : operationAfter l (Cluster.versioned child (c.version + 1)) = .updated := if_neg hversion
    have hkind : child.kind = d.kind := (patched_eq_ok.1 hpatch).1.trans (hc _ _ _ hlive).1
    have hstored := found_putChild hkind c
    have hdiffers : (c.putChild d.name child).2.found d ≠ some l := by
      rw [hstored]
      intro heq
      exact hversion (congrArg resourceVersion? (Option.some.inj heq))
    rw [hupdated]
    refine ⟨iff_of_false nofun (by simp [hlive]), iff_of_true rfl ⟨l, hlive, hdiffers⟩, iff_of_false nofun ?_,
      ⟨_, hstored, rfl⟩, fun kind name => find?_putChild_of_ne hkind c, hframe, nofun⟩
    rintro ⟨l', hl', hsame⟩
    cases hlive.symm.trans hl'
    exact hdiffers hsame

end Child

namespace ChildSet

open Child

variable {s : Session} {config : Config} {children : ChildSet} {d : Child} {owner : Json} {scope : MergeScope}
  {c c' : Cluster} {u : ChildUpdate}

/-- As long as no call fails, what is reported of a desired child is what has happened to it, and then the same errand
finds the child as it left it, whether or not merging would still change it. -/
theorem reported_once (h : ofSession s config = .ok children) (hd : d ∈ children.toList)
    (howner : Kubernetes.ownerReference.IsValue owner) (hc : c.Conforms) (hnumbered : c.Numbered)
    (hrun : (d.reconcile owner scope).run Cluster.answer c = (u, c'))
    (hsmooth : Smooth ((d.reconcile owner scope).calls Cluster.answer c)) :
    d.Reported c u c' ∧ ∃ l, c'.found d = some l ∧
      (d.reconcile owner scope).run Cluster.answer c' = (.done d l .unchanged, c') ∧
      Smooth ((d.reconcile owner scope).calls Cluster.answer c') := by
  have hdesired := isDesired h hd
  have hbrought : Brought owner scope d c u c' := by
    have hbrought := reconcile_brought hc hsmooth
    rwa [hrun] at hbrought
  obtain ⟨l, hlive, hl, -⟩ := hbrought.stands hdesired hc howner
  have hc' := hbrought.conforms hdesired hc howner
  have hsmooth' : Smooth ((d.reconcile owner scope).calls Cluster.answer c') := fun call hcall =>
    (Child.reconcile_quiet hc' hlive hl call hcall).1
  obtain ⟨hu, hsame⟩ := (reconcile_brought hc' hsmooth').eq_of_settled hlive hl
  exact ⟨hbrought.reported hc hnumbered, l, hlive, Prod.ext hu hsame, hsmooth'⟩

/-- A cluster in which the service of a session selects pods by a label that is not desired, and nothing else stands. -/
def mislabelled : Cluster :=
  ((Cluster.ofSession plainSession).putChild plainSession.childName (serviceTo [("app", "legacy")])).2

/-- Merging would take the label away and no patch does.  Yet the service is written only once. -/
theorem reported_once_mislabelled :
    let owner := plainSession.owner?.getD .null
    ∃ children u c' l, ofSession plainSession (.default ⟨none, none⟩) = .ok children ∧
      children.service ∈ children.toList ∧ Kubernetes.ownerReference.IsValue owner ∧ mislabelled.Conforms ∧
      mislabelled.Numbered ∧ (children.service.reconcile owner .full).run Cluster.answer mislabelled = (u, c') ∧
      Smooth ((children.service.reconcile owner .full).calls Cluster.answer mislabelled) ∧
      u = .done children.service l .updated ∧ c'.found children.service = some l ∧
      l.mergeFrom children.service .full ≠ .ok l ∧
      (children.service.reconcile owner .full).run Cluster.answer c' = (.done children.service l .unchanged, c') := by
  intro owner
  have howner : Kubernetes.ownerReference.IsValue owner := ⟨owner, by decide +kernel⟩
  have hread : (serviceTo [("app", "legacy")]).IsRead := ⟨(serviceTo [("app", "legacy")]).body, by decide +kernel⟩
  have hc : mislabelled.Conforms := Cluster.Conforms.putChild (fun _ _ _ h => by cases h) hread _
  have hnumbered : mislabelled.Numbered := Cluster.Numbered.putChild (fun _ _ _ _ h => by cases h) _ _
  obtain ⟨children, h, htest⟩ := Fallible.exists_of_any (p := fun children : ChildSet =>
      let outcome := (children.service.reconcile owner .full).run Cluster.answer mislabelled
      (((children.service.reconcile owner .full).calls Cluster.answer mislabelled).all fun call =>
          !Request.failed call.question call.answer) &&
        (outcome.1.operation = .updated &&
          (outcome.2.found children.service).all fun l => l.mergeFrom children.service .full ≠ .ok l))
    (show (ofSession plainSession (.default ⟨none, none⟩)).toOption.any _ = true by decide +kernel)
  obtain ⟨u, c', hrun⟩ : ∃ u c', (children.service.reconcile owner .full).run Cluster.answer mislabelled = (u, c') :=
    ⟨_, _, rfl⟩
  simp only [hrun] at htest
  obtain ⟨hcalls, houtcome⟩ := Bool.and_eq_true_iff.1 htest
  obtain ⟨hoperation, hlabel⟩ := Bool.and_eq_true_iff.1 houtcome
  have hmem : children.service ∈ children.toList := mem_toList.2 (.inr (.inl rfl))
  have hsmooth : Smooth ((children.service.reconcile owner .full).calls Cluster.answer mislabelled) :=
    fun call hcall => by simpa using List.all_eq_true.1 hcalls call hcall
  obtain ⟨hreported, l, hl, hagain, -⟩ := reported_once h hmem howner hc hnumbered hrun hsmooth
  obtain ⟨l', hl', hu⟩ := hreported.stored
  cases hl.symm.trans hl'
  rw [of_decide_eq_true hoperation] at hu
  rw [hl] at hlabel
  exact ⟨children, u, c', l, h, hmem, howner, hc, hnumbered, hrun, hsmooth, hu, hl, of_decide_eq_true hlabel, hagain⟩

end ChildSet

end SessionOperator
