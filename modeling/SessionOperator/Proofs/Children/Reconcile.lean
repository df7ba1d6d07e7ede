import SessionOperator.Proofs.Children.Brought
import SessionOperator.Proofs.Session.Manifest

/-!
# Bringing all children about

The desired children are brought about one after the other.  A child that is settled stays so while the others are
brought about, so that in the end all of them stand there settled, and where all of them are settled nothing happens.

* `BroughtAll`: what happens for a list of desired children; `forEach_brought`: nothing else does;
* `ChildSet.forEach_toList`: the children of a session, brought about as a list;
* `ChildSet.reconciled`: what is known after all children of a session have been brought about.
-/

namespace SessionOperator

open Program Child

variable {owner : Json} {scope : MergeScope} {d l : Child} {ds : List Child} {c c' : Cluster} {us : List ChildUpdate}
  {s : Session}

/-- Every desired child stands there settled. -/
def AllStand (scope : MergeScope) (ds : List Child) (c : Cluster) : Prop :=
  ∀ d ∈ ds, ∃ l, c.found d = some l ∧ Settled scope d l

/-- Desired children that can be brought about next to one another. -/
structure Compatible (ds : List Child) : Prop where
  desired : ∀ d ∈ ds, d.IsDesired
  interchangeable : ∀ d ∈ ds, ∀ d' ∈ ds, d.kind = d'.kind → d.Interchangeable d'

theorem Compatible.tail (h : Compatible (d :: ds)) : Compatible ds where
  desired := fun d hd => h.desired d (List.mem_cons_of_mem _ hd)
  interchangeable := fun d hd d' hd' =>
    h.interchangeable d (List.mem_cons_of_mem _ hd) d' (List.mem_cons_of_mem _ hd')

/-- What happens for the sake of a list of desired children. -/
inductive BroughtAll (owner : Json) (scope : MergeScope) : List Child → Cluster → List ChildUpdate → Cluster → Prop
  | nil (c : Cluster) : BroughtAll owner scope [] c [] c
  | cons {d : Child} {ds : List Child} {u : ChildUpdate} {us : List ChildUpdate} {c c₁ c' : Cluster}
      (first : Brought owner scope d c u c₁) (rest : BroughtAll owner scope ds c₁ us c') :
      BroughtAll owner scope (d :: ds) c (u :: us) c'

theorem forEach_brought (hds : Compatible ds) (hc : c.Conforms) (howner : s.owner? = some owner)
    (h : Smooth ((forEach ds fun d => d.reconcile owner scope).calls Cluster.answer c)) :
    BroughtAll owner scope ds c ((forEach ds fun d => d.reconcile owner scope).run Cluster.answer c).1
      ((forEach ds fun d => d.reconcile owner scope).run Cluster.answer c).2 := by
  induction ds generalizing c with
  | nil => exact .nil c
  | cons d ds ih =>
    rw [forEach, calls_bind, calls_bind] at h
    rw [forEach, run_bind, run_bind]
    have hfirst := reconcile_brought hc fun call hcall => h call (List.mem_append_left _ hcall)
    have hconforms := hfirst.conforms (hds.desired d List.mem_cons_self) hc (isValue_owner howner)
    refine .cons hfirst (ih hds.tail hconforms fun call hcall => ?_)
    exact h call (List.mem_append_right _ (List.mem_append_left _ hcall))

namespace BroughtAll

theorem conforms (h : BroughtAll owner scope ds c us c') (hds : Compatible ds) (hc : c.Conforms)
    (howner : s.owner? = some owner) : c'.Conforms := by
  induction h with
  | nil c => exact hc
  | cons first rest ih =>
    exact ih hds.tail (first.conforms (hds.desired _ List.mem_cons_self) hc (isValue_owner howner))

theorem frame (h : BroughtAll owner scope ds c us c') :
    c' = { c with children := c'.children, version := c'.version } := by
  induction h with
  | nil c => rfl
  | cons first rest ih =>
    rw [ih, first.frame]

/-- A settled child stays while others are brought about. -/
theorem keeps (h : BroughtAll owner scope ds c us c') (hds : Compatible ds) (hc : c.Conforms)
    (howner : s.owner? = some owner) (hlive : c.found d = some l) (hl : Settled scope d l)
    (halike : ∀ d' ∈ ds, d.kind = d'.kind → d.Interchangeable d') : c'.found d = some l := by
  induction h with
  | nil c => exact hlive
  | cons first rest ih =>
    exact ih hds.tail (first.conforms (hds.desired _ List.mem_cons_self) hc (isValue_owner howner))
      (first.keeps hc hlive hl (halike _ List.mem_cons_self)) fun d' hd' => halike d' (List.mem_cons_of_mem _ hd')

/-- In the end all desired children stand there settled, and what stands there is what is reported. -/
theorem stands (h : BroughtAll owner scope ds c us c') (hds : Compatible ds) (hc : c.Conforms)
    (howner : s.owner? = some owner) : AllStand scope ds c' ∧ us.map (·.manifest) = ds.map c'.found := by
  induction h with
  | nil c => exact ⟨fun d hd => absurd hd List.not_mem_nil, rfl⟩
  | @cons d ds u us c c₁ c' first rest ih =>
    have hd := hds.desired _ List.mem_cons_self
    have hc₁ := first.conforms hd hc (isValue_owner howner)
    obtain ⟨hstand, hshown⟩ := ih hds.tail hc₁
    obtain ⟨l, hlive, hl, operation, rfl⟩ := first.stands hd hc (isValue_owner howner)
    -- what was brought about first is not undone by the rest
    have hkept := rest.keeps hds.tail hc₁ howner hlive hl fun d' hd' =>
      hds.interchangeable _ List.mem_cons_self d' (List.mem_cons_of_mem _ hd')
    constructor
    · intro d' hd'
      rcases List.mem_cons.1 hd' with rfl | hd'
      · exact ⟨l, hkept, hl⟩
      · exact hstand d' hd'
    · rw [List.map_cons, List.map_cons, hshown, hkept]
      rfl

/-- Where all desired children are settled, nothing happens. -/
theorem eq_of_stand (h : BroughtAll owner scope ds c us c') (hstand : AllStand scope ds c) :
    c' = c ∧ ∀ u ∈ us, u.isUnchanged = true := by
  induction h with
  | nil c => exact ⟨rfl, fun u hu => absurd hu List.not_mem_nil⟩
  | cons first rest ih =>
    obtain ⟨l, hlive, hl⟩ := hstand _ List.mem_cons_self
    obtain ⟨rfl, rfl⟩ := first.eq_of_settled hlive hl
    obtain ⟨rfl, hrest⟩ := ih fun d hd => hstand d (List.mem_cons_of_mem _ hd)
    refine ⟨rfl, fun u hu => ?_⟩
    rcases List.mem_cons.1 hu with rfl | hu
    · rfl
    · exact hrest u hu

theorem alike (h : BroughtAll owner scope ds c us c') (hds : Compatible ds) (hc : c.Conforms)
    (howner : s.owner? = some owner) (hlive : c.found d = some l) : ∃ l', c'.found d = some l' ∧ l.Alike l' := by
  induction h generalizing l with
  | nil c => exact ⟨l, hlive, .refl l⟩
  | cons first rest ih =>
    have hd := hds.desired _ List.mem_cons_self
    obtain ⟨l₁, hlive₁, halike₁⟩ := first.alike hd hc hlive
    obtain ⟨l', hlive', halike⟩ := ih hds.tail (first.conforms hd hc (isValue_owner howner)) hlive₁
    exact ⟨l', hlive', halike₁.trans halike⟩

end BroughtAll

theorem forEach_quiet (hc : c.Conforms) (h : AllStand scope ds c) :
    Quiet ((forEach ds fun d => d.reconcile owner scope).calls Cluster.answer c) := by
  induction ds with
  | nil => exact fun call hcall => absurd hcall List.not_mem_nil
  | cons d ds ih =>
    obtain ⟨l, hlive, hl⟩ := h d List.mem_cons_self
    have hquiet : Quiet ((d.reconcile owner scope).calls Cluster.answer c) := reconcile_quiet hc hlive hl
    have hsame : ((d.reconcile owner scope).run Cluster.answer c).2 = c :=
      ((reconcile_brought hc fun call hcall => (hquiet call hcall).1).eq_of_settled hlive hl).2
    rw [forEach, calls_bind, calls_bind, hsame]
    intro call hcall
    rcases List.mem_append.1 hcall with hcall | hcall
    · exact hquiet call hcall
    · rcases List.mem_append.1 hcall with hcall | hcall
      · exact ih (fun d' hd' => h d' (List.mem_cons_of_mem _ hd')) call hcall
      · exact absurd hcall List.not_mem_nil

/-! ### The children of a session -/

/-- The outcomes in the order in which the children are reconciled. -/
def ChildUpdates.inOrder (u : ChildUpdates) : List ChildUpdate :=
  [u.statefulSet, u.service] ++ u.ingress.toList ++ [u.claim] ++ u.dataSourceClaims

namespace ChildSet

variable {children : ChildSet} {config : Config} {u : ChildUpdates}

/-- The children of a session are brought about as a list. -/
theorem forEach_toList (children : ChildSet) (owner : Json) (scope : MergeScope) :
    (forEach children.toList fun d => d.reconcile owner scope) =
      (children.reconcile owner scope).bind fun u => .done u.inOrder := by
  unfold ChildSet.reconcile toList ChildUpdates.inOrder
  cases children.ingress with
  | none => simp [forEach, bind_assoc, reconcileIngress]
  | some d => simp [forEach, bind_assoc, reconcileIngress]

theorem isSome_reconcile_ingress (children : ChildSet) (owner : Json) (scope : MergeScope) (c : Cluster) :
    ((children.reconcile owner scope).run Cluster.answer c).1.ingress.isSome = children.ingress.isSome := by
  unfold ChildSet.reconcile
  cases children.ingress with
  | none => simp [run_bind, reconcileIngress]
  | some d => simp [run_bind, reconcileIngress]

/-- The outcomes tell of the children that stand in a cluster. -/
structure Shown (children : ChildSet) (c : Cluster) (u : ChildUpdates) : Prop where
  statefulSet : u.statefulSet.manifest = c.found children.statefulSet
  service : u.service.manifest = c.found children.service
  ingress : u.ingress.map (·.manifest) = children.ingress.map c.found
  claim : u.claim.manifest = c.found children.claim
  dataSourceClaims : u.dataSourceClaims.map (·.manifest) = children.dataSourceClaims.map c.found

private theorem shown_of_inOrder (hsome : u.ingress.isSome = children.ingress.isSome)
    (h : u.inOrder.map (·.manifest) = children.toList.map c.found) : children.Shown c u := by
  unfold ChildUpdates.inOrder toList at h
  cases hu : u.ingress with
  | none =>
    cases hd : children.ingress with
    | none =>
      simp only [hu, hd, Option.toList_none, List.append_nil, List.cons_append, List.nil_append, List.map_cons,
        List.cons.injEq] at h
      exact ⟨h.1, h.2.1, by rw [hu, hd]; rfl, h.2.2.1, h.2.2.2⟩
    | some d =>
      rw [hu, hd] at hsome
      cases hsome
  | some v =>
    cases hd : children.ingress with
    | none =>
      rw [hu, hd] at hsome
      cases hsome
    | some d =>
      simp only [hu, hd, Option.toList_some, List.cons_append, List.nil_append, List.map_cons, List.cons.injEq] at h
      exact ⟨h.1, h.2.1, by rw [hu, hd, Option.map_some, Option.map_some, h.2.2.1], h.2.2.2.1, h.2.2.2.2⟩

private theorem allUnchanged_of_inOrder (h : ∀ v ∈ u.inOrder, v.isUnchanged = true) : u.allUnchanged = true := by
  refine List.all_eq_true.2 fun v hv => h v ?_
  simp only [ChildUpdates.toList, ChildUpdates.inOrder, List.mem_append, List.mem_cons, List.not_mem_nil, or_false]
    at hv ⊢
  rcases hv with ((hv | hv | hv) | hv) | hv <;> simp [hv]

theorem compatible (h : ChildSet.ofSession s config = .ok children) : Compatible children.toList where
  desired := fun _ hd => isDesired h hd
  interchangeable := fun _ hd _ hd' => interchangeable h hd hd'

/-- What is known after the children of a session have been brought about: all of them stand there settled, and those
that stood there before differ in their specs and versions at most. -/
structure Reconciled (children : ChildSet) (scope : MergeScope) (c : Cluster) (u : ChildUpdates) (c' : Cluster) :
    Prop where
  conforms : c'.Conforms
  frame : c' = { c with children := c'.children, version := c'.version }
  stand : AllStand scope children.toList c'
  shown : children.Shown c' u
  alike : ∀ d l, c.found d = some l → ∃ l', c'.found d = some l' ∧ l.Alike l'
  kept : AllStand scope children.toList c → c' = c ∧ u.allUnchanged = true

theorem reconciled (h : ChildSet.ofSession s config = .ok children) (howner : s.owner? = some owner) (hc : c.Conforms)
    (hsmooth : Smooth ((children.reconcile owner scope).calls Cluster.answer c)) :
    children.Reconciled scope c ((children.reconcile owner scope).run Cluster.answer c).1
      ((children.reconcile owner scope).run Cluster.answer c).2 := by
  have hds := compatible h
  have hcalls : (forEach children.toList fun d => d.reconcile owner scope).calls Cluster.answer c =
      (children.reconcile owner scope).calls Cluster.answer c := by
    rw [forEach_toList, calls_bind]
    exact List.append_nil _
  have hbrought := forEach_brought hds hc howner (hcalls ▸ hsmooth)
  rw [forEach_toList, run_bind, run_done] at hbrought
  obtain ⟨hstand, hshown⟩ := hbrought.stands hds hc howner
  exact {
    conforms := hbrought.conforms hds hc howner
    frame := hbrought.frame
    stand := hstand
    shown := shown_of_inOrder (isSome_reconcile_ingress children owner scope c) hshown
    alike := fun d l hlive => hbrought.alike hds hc howner hlive
    kept := fun hbefore => by
      obtain ⟨hsame, hall⟩ := hbrought.eq_of_stand hbefore
      exact ⟨hsame, allUnchanged_of_inOrder hall⟩ }

/-- Where all children stand settled no call fails, and no child is created. -/
theorem reconcile_quiet (hc : c.Conforms) (h : AllStand scope children.toList c) :
    Quiet ((children.reconcile owner scope).calls Cluster.answer c) := by
  have hquiet : Quiet ((forEach children.toList fun d => d.reconcile owner scope).calls Cluster.answer c) :=
    forEach_quiet hc h
  rw [forEach_toList, calls_bind] at hquiet
  exact fun call hcall => hquiet call (List.mem_append_left _ hcall)

end ChildSet

end SessionOperator
