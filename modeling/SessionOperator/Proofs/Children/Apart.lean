import SessionOperator.Proofs.Children.Errand

/-!
# Children of different kinds

The calls for children of different kinds do not get in each other's way.  So the stateful set of a session, the only
child of its kind, is brought about as if there were no other children, in whatever order the calls come.

* `Request.concerns`: the requests about children of a kind;
* `Cluster.answer_children`: other requests leave these children alone;
* `Child.Attended.alone`, `Child.Attended.stands`: an errand that is the only one for its kind;
* `ChildSet.Schedule.scaled`: whatever the schedule is, the live stateful set has the desired replicas in the end.
-/

namespace SessionOperator

open Program Child

/-- A request about children of some kind. -/
def Request.concerns (kind : ChildKind) : Request → Bool
  | getChild k _ | patchChild k .. => k = kind
  | createChild child => child.kind = kind
  | _ => false

variable {kind : ChildKind} {c c' : Cluster} {calls more : List clusterInterface.Call} {call : clusterInterface.Call}

/-- The calls about children of some kind. -/
def concerning (kind : ChildKind) (calls : List clusterInterface.Call) : List clusterInterface.Call :=
  calls.filter fun call => Request.concerns kind call.question

/-! ### One call -/

namespace Cluster

/-- A patch stores at most a child of the kind that was asked for. -/
theorem patchChild_cases (hc : c.Conforms) (k : ChildKind) (name : String) (patch : Json) :
    (c.patchChild k name patch).2 = c ∨
      ∃ child : Child, child.kind = k ∧ child.IsRead ∧ (c.patchChild k name patch).2 = (c.putChild name child).2 := by
  unfold patchChild
  cases hlive : c.children.find? k name with
  | none => exact .inl rfl
  | some live =>
    cases hpatch : patched live patch with
    | error e =>
      left
      simp only [hpatch]
    | ok child =>
      simp only [hpatch]
      split
      · exact .inl rfl
      · exact .inr ⟨child, (patched_eq_ok.1 hpatch).1.trans (hc _ _ _ hlive).1, isRead_of_patched hpatch, rfl⟩

theorem Conforms.answer {q : Request} (hc : c.Conforms) (hq : q.isAboutChild = true)
    (hread : ∀ child, q = .createChild child → child.IsRead) : (Cluster.answer q c).2.Conforms := by
  cases q with
  | getChild k name => exact hc
  | createChild child => exact hc.putChild (hread child rfl) child.name
  | patchChild k name patch =>
    rcases patchChild_cases hc k name patch with heq | ⟨child, -, hchild, heq⟩
    · rwa [show (Cluster.answer (.patchChild k name patch) c).2 = c from heq]
    · rw [show (Cluster.answer (.patchChild k name patch) c).2 = _ from heq]
      exact hc.putChild hchild name
  | _ => cases hq

/-- Requests that do not concern the children of a kind leave them alone. -/
theorem answer_children {q : Request} (hc : c.Conforms) (hq : q.concerns kind = false) :
    (Cluster.answer q c).2.children kind = c.children kind := by
  have hput : ∀ (name : String) (child : Child), child.kind ≠ kind →
      (c.putChild name child).2.children kind = c.children kind := by
    intro name child hne
    exact if_neg (Ne.symm hne)
  cases q with
  | createChild child => exact hput child.name child (by simpa [Request.concerns] using hq)
  | patchChild k name patch =>
    rcases patchChild_cases hc k name patch with heq | ⟨child, hkind, -, heq⟩
    · exact congrArg (fun d => d.children kind) heq
    · refine (congrArg (fun d => d.children kind) heq).trans (hput name child ?_)
      rw [hkind]
      simpa [Request.concerns] using hq
  | _ => rfl

/-- Requests about children leave everything else alone. -/
theorem answer_frame {q : Request} (hq : q.isAboutChild = true) (c : Cluster) : (Cluster.answer q c).2 =
    { c with children := (Cluster.answer q c).2.children, version := (Cluster.answer q c).2.version } := by
  cases q with
  | getChild k name => rfl
  | createChild child => rfl
  | patchChild k name patch =>
    show (c.patchChild k name patch).2 =
      { c with children := (c.patchChild k name patch).2.children, version := (c.patchChild k name patch).2.version }
    unfold patchChild
    split
    · rfl
    · split
      · rfl
      · split <;> rfl
  | _ => cases hq

end Cluster

/-! ### Many calls -/

/-- Calls about children, as a cluster answers them; every child in it was read, and so were those that are created. -/
structure Served (calls : List clusterInterface.Call) (c c' : Cluster) : Prop where
  answered : Answered Cluster.answer calls c c'
  conforms : c.Conforms
  isAboutChild : ∀ call ∈ calls, Request.isAboutChild call.question = true
  creates : ∀ call ∈ calls, ∀ child, call.question = Request.createChild child → child.IsRead

namespace Served

theorem uncons (h : Served (call :: calls) c c') :
    call.answer = (Cluster.answer call.question c).1 ∧ Served calls (Cluster.answer call.question c).2 c' := by
  obtain ⟨hfirst, hchild⟩ := List.forall_mem_cons.1 h.isAboutChild
  obtain ⟨hread, hcreates⟩ := List.forall_mem_cons.1 h.creates
  exact ⟨h.answered.1, h.answered.2, h.conforms.answer hfirst hread, hchild, hcreates⟩

/-- Only the children and the count of versions change. -/
theorem frame (h : Served calls c c') : c' = { c with children := c'.children, version := c'.version } := by
  induction calls generalizing c with
  | nil =>
    obtain rfl : c' = c := h.answered
    rfl
  | cons call calls ih =>
    rw [ih h.uncons.2, Cluster.answer_frame (h.isAboutChild call List.mem_cons_self) c]

/-- Without a call that concerns the children of a kind they stay as they are. -/
theorem children_eq (h : Served calls c c') (hnone : concerning kind calls = []) :
    c'.children kind = c.children kind := by
  induction calls generalizing c with
  | nil =>
    obtain rfl : c' = c := h.answered
    rfl
  | cons call calls ih =>
    obtain ⟨hother, hnone⟩ := List.forall_mem_cons.1 (List.filter_eq_nil_iff.1 hnone)
    rw [ih h.uncons.2 (List.filter_eq_nil_iff.2 hnone), Cluster.answer_children h.conforms (by simpa using hother)]

/-- The first call that concerns the children of a kind finds them as they were. -/
theorem next (h : Served calls c c') (hnext : concerning kind calls = call :: more) :
    ∃ c₁ rest, c₁.children kind = c.children kind ∧ Served (call :: rest) c₁ c' ∧ concerning kind rest = more := by
  induction calls generalizing c with
  | nil => cases hnext
  | cons first calls ih =>
    unfold concerning at hnext
    rw [List.filter_cons] at hnext
    split at hnext
    · cases hnext
      exact ⟨c, calls, rfl, h, rfl⟩
    · rename_i hother
      obtain ⟨c₁, rest, hsame, hrest⟩ := ih h.uncons.2 hnext
      exact ⟨c₁, rest, hsame.trans (Cluster.answer_children h.conforms (by simpa using hother)), hrest⟩

end Served

/-! ### The errand of the only child of a kind -/

variable {owner : Json} {scope : MergeScope} {d : Child} {said : List clusterInterface.Call} {u : ChildUpdate}
  {s : Session}

/-- An errand goes as if nothing else were said, when nothing else concerns children of its kind. -/
theorem Child.Attended.alone (hattended : d.Attended owner scope said u) (h : Served calls c c')
    (hsaid : concerning d.kind calls = said) :
    ∃ c₁ c₁' : Cluster, c₁.Conforms ∧ c₁'.children d.kind = c'.children d.kind ∧
      Answered Cluster.answer said c₁ c₁' := by
  obtain ⟨looked, rfl | ⟨write, rfl⟩⟩ := hattended.calls_cases
  · obtain ⟨c₁, rest, -, hserved, hnone⟩ := h.next hsaid
    obtain ⟨hlooked, hrest⟩ := hserved.uncons
    exact ⟨c₁, c₁, hserved.conforms, (hrest.children_eq hnone).symm, hlooked, rfl⟩
  · -- the look would have shown the same right before the write
    obtain ⟨c₁, rest, -, hserved, hwrite⟩ := h.next hsaid
    obtain ⟨hlooked, hrest⟩ := hserved.uncons
    obtain ⟨c₂, last, hsame, hserved, hnone⟩ := hrest.next hwrite
    obtain ⟨hwritten, hlast⟩ := hserved.uncons
    refine ⟨c₂, (Cluster.answer write.question c₂).2, hserved.conforms, (hlast.children_eq hnone).symm, ?_, hwritten,
      rfl⟩
    have hfound : c₁.children.find? d.kind d.name = c₂.children.find? d.kind d.name :=
      congrArg (Dict.get? · d.name) hsame.symm
    exact hlooked.trans (congrArg Except.ok hfound)

/-- After an errand that went well a settled child stands where the desired one should. -/
theorem Child.Attended.stands (hattended : d.Attended owner scope said u) (h : Served calls c c')
    (hsaid : concerning d.kind calls = said) (hsmooth : Smooth said) (hd : d.IsDesired)
    (howner : s.owner? = some owner) :
    ∃ l, c'.found d = some l ∧ l.kind = d.kind ∧ Settled scope d l ∧ u.manifest = some l := by
  obtain ⟨c₁, c₁', hc₁, hsame, hanswered⟩ := hattended.alone h hsaid
  obtain ⟨hcalls, hrun⟩ := hattended.conversation.run_eq hanswered
  have hbrought : Brought owner scope d c₁ ((d.reconcile owner scope).run Cluster.answer c₁).1
      ((d.reconcile owner scope).run Cluster.answer c₁).2 := reconcile_brought hc₁ (by rwa [hcalls])
  rw [hrun] at hbrought
  obtain ⟨l, hlive, hl, operation, rfl⟩ := hbrought.stands hd hc₁ (Child.isValue_owner howner)
  refine ⟨l, ?_, (hbrought.conforms hd hc₁ (Child.isValue_owner howner) _ _ _ hlive).1, hl, rfl⟩
  rw [← hlive, Cluster.found, Cluster.found, ChildStore.find?, ChildStore.find?, hsame]

theorem Child.Attended.concerns (h : d.Attended owner scope said u) :
    ∀ call ∈ said, Request.concerns kind call.question = decide (d.kind = kind) := by
  cases h <;> simp [looking, creating, patching, Request.concerns, owned, setMetadata]

namespace ChildSet

variable {children : ChildSet} {updates : ChildUpdates} {errands : List Errand}

/-- Nothing that is said for the sake of another child concerns stateful sets. -/
theorem Attended.statefulSet (h : children.Attended owner scope calls updates errands) (hkinds : children.Kinds) :
    ∃ e ∈ errands, e.desired = children.statefulSet ∧ e.update = updates.statefulSet ∧
      concerning .statefulSet calls = e.calls := by
  obtain ⟨hdesired, hupdates, hperm, hall⟩ := h
  obtain ⟨e, others, rfl, he, hothers⟩ := List.map_eq_cons_iff.1 hdesired
  have hupdate : e.update = updates.statefulSet := (List.cons.inj hupdates).1
  have hmine : concerning .statefulSet e.calls = e.calls := by
    refine List.filter_eq_self.2 fun call hcall => ?_
    rw [(hall e List.mem_cons_self).1.concerns call hcall, he]
    exact decide_eq_true hkinds.statefulSet
  have hnone : concerning .statefulSet (others.flatMap (·.calls)) = [] := by
    refine List.filter_eq_nil_iff.2 fun call hcall => ?_
    obtain ⟨o, ho, hcall⟩ := List.mem_flatMap.1 hcall
    rw [(hall o (List.mem_cons_of_mem _ ho)).1.concerns call hcall, decide_eq_true_eq]
    have hmem : o.desired ∈ others.map (·.desired) := List.mem_map_of_mem ho
    simp only [hothers, List.append_eq, List.mem_append, List.mem_cons, List.not_mem_nil, or_false,
      Option.mem_toList] at hmem
    rcases hmem with ((hd | hd) | hd) | hd
    · simp [hd, hkinds.service]
    · simp [hd, hkinds.claim]
    · simp [hkinds.ingress _ hd]
    · simp [hkinds.dataSourceClaims _ hd]
  refine ⟨e, List.mem_cons_self, he, hupdate, ?_⟩
  -- the errand is a part of what concerns stateful sets, and no shorter
  have hlength : (concerning .statefulSet calls).length = e.calls.length := by
    have hconcerning := (hperm.filter fun call => Request.concerns .statefulSet call.question).length_eq
    rw [List.flatMap_cons, List.filter_append] at hconcerning
    exact hconcerning.trans (by rw [← concerning, ← concerning, hmine, hnone, List.append_nil])
  have hsublist : e.calls.Sublist (concerning .statefulSet calls) :=
    hmine ▸ (hall e List.mem_cons_self).2.filter _
  exact (hsublist.eq_of_length hlength.symm).symm

theorem mem_inReportOrder : d ∈ children.inReportOrder ↔ d ∈ children.toList := by
  simp only [inReportOrder, toList, List.mem_append, List.mem_cons, List.not_mem_nil, or_false]
  tauto

variable {config : Config}

/-- What a schedule says to a cluster is about children that were read. -/
theorem Schedule.served (schedule : Schedule) (hchildren : ChildSet.ofSession s config = .ok children)
    (howner : s.owner? = some owner) (hc : c.Conforms) :
    Served ((schedule.reconcile children owner scope).calls Cluster.answer c) c
      ((schedule.reconcile children owner scope).run Cluster.answer c).2 := by
  obtain ⟨errands, herrands⟩ :=
    schedule.attended (conversation_run Cluster.answer (schedule.reconcile children owner scope) c)
  refine ⟨answered_run .., hc, herrands.isAboutChild, fun call hcall child hcreate => ?_⟩
  obtain ⟨hdesired, -, hperm, hall⟩ := herrands
  obtain ⟨e, he, hcall⟩ := List.mem_flatMap.1 (hperm.mem_iff.1 hcall)
  obtain ⟨rfl, -⟩ := (hall e he).1.owner_of_created hcall hcreate
  have hmem : e.desired ∈ children.inReportOrder := hdesired ▸ List.mem_map_of_mem he
  exact (isDesired hchildren (mem_inReportOrder.1 hmem)).read.owned (Child.isValue_owner howner)

/-- In whatever order the children are gone about, in the end the live stateful set has the desired replicas, and it is
what is reported. -/
theorem Schedule.scaled (schedule : Schedule) (hchildren : ChildSet.ofSession s config = .ok children)
    (howner : s.owner? = some owner) (hc : c.Conforms)
    (hsmooth : Smooth ((schedule.reconcile children owner scope).calls Cluster.answer c)) :
    ∃ l, ((schedule.reconcile children owner scope).run Cluster.answer c).2.found children.statefulSet = some l ∧
      Scaled children.statefulSet l ∧
      ((schedule.reconcile children owner scope).run Cluster.answer c).1.statefulSet? = some l.body := by
  have hkinds := kinds hchildren
  obtain ⟨errands, herrands⟩ :=
    schedule.attended (conversation_run Cluster.answer (schedule.reconcile children owner scope) c)
  obtain ⟨e, he, hdesired, hupdate, hsaid⟩ := herrands.statefulSet hkinds
  obtain ⟨hattended, hsublist⟩ := herrands.2.2.2 e he
  rw [hdesired] at hattended
  have hdes : children.statefulSet.IsDesired := isDesired hchildren (mem_toList.2 (.inl rfl))
  obtain ⟨l, hlive, hkind, hl, hmanifest⟩ := hattended.stands (schedule.served hchildren howner hc)
    (hkinds.statefulSet ▸ hsaid) (fun call hcall => hsmooth call (hsublist.subset hcall)) hdes howner
  refine ⟨l, hlive, hl.scaled hdes hkind hkinds.statefulSet, ?_⟩
  rw [ChildUpdates.statefulSet?, ChildUpdate.bodyOf?, ← hupdate, hmanifest, Option.bind_some, hkind, hkinds.statefulSet]
  rfl

end ChildSet

end SessionOperator
