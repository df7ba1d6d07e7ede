import SessionOperator.Pass.Apply
import SessionOperator.Proofs.Conversation

/-!
# What a pass says to the cluster

A pass first looks at the children and the pod, and what it asks then concerns neither the recorded status nor the
fate of the session.  Then it records its status, if that differs, and only then may it delete or hibernate.

* `Pass.apply_conversation`: the two halves of a pass;
* `Pass.finish_conversation`: the second half, call by call;
* `Pass.recorded_cases`: what stands recorded after a pass;
* `Pass.cull_hibernates_iff`, `Pass.fate_conversation`: when a pass hibernates or deletes the session, and on what.
-/

namespace SessionOperator

open Program

/-- A request that is about a child or that only reads. -/
def Request.isPreliminary : Request → Bool
  | getChild .. | createChild .. | patchChild .. | getPod _ | listPodEvents _ | probeIdle _ => true
  | _ => false

/-- A request after which the session is not what it was. -/
def Request.isFinal : Request → Bool
  | hibernateSession _ | deleteSession _ => true
  | _ => false

theorem Request.not_preliminary {r : Request} (h : r.isFinal = true) : ¬ r.isPreliminary = true := by
  cases r <;> simp [isFinal, isPreliminary] at h ⊢

/-- A program that asks nothing but preliminary requests. -/
abbrev Preliminary {α : Type} (p : Controlled α) : Prop := p.AsksOnly fun q : Request => q.isPreliminary = true

/-- Whether a request was refused; the probe always answers. -/
def Request.failed : (r : Request) → r.Answer → Bool
  | getChild .., answer => !answer.isOk
  | createChild _, answer => !answer.isOk
  | patchChild .., answer => !answer.isOk
  | getPod _, answer => !answer.isOk
  | listPodEvents _, answer => !answer.isOk
  | probeIdle _, _ => false
  | patchStatus .., answer => !answer.isOk
  | hibernateSession _, answer => !answer.isOk
  | deleteSession _, answer => !answer.isOk
  | deleteSecret _, answer => !answer.isOk
  | editSession .., answer => !answer.isOk

/-- Whether a request shows no pod; only a look at the pod can show one. -/
def Request.showsNoPod : (r : Request) → r.Answer → Bool
  | getPod _, .ok none => true
  | getPod _, _ => false
  | _, _ => true

/-- The status that is recorded of a session after a call. -/
def statusAfter (status : Option SessionStatus) : clusterInterface.Call → Option SessionStatus
  | ⟨.patchStatus _ next, .ok _⟩ => some next
  | _ => status

theorem request_conversation {r : Request} {calls : List clusterInterface.Call} {answer : r.Answer} :
    (request r).Conversation calls answer ↔ calls = [⟨r, answer⟩] := by
  unfold request
  rw [conversation_ask]
  constructor
  · rintro ⟨answer', rest, rfl, h⟩
    obtain ⟨rfl, rfl⟩ := conversation_done.1 h
    rfl
  · rintro rfl
    exact ⟨answer, [], rfl, .done answer⟩

/-- What asks first has been answered first. -/
theorem request_bind_conversation {α : Type} {r : Request} {f : r.Answer → Controlled α}
    {calls : List clusterInterface.Call} {a : α} :
    (request r >>= f).Conversation calls a ↔
      ∃ answer rest, calls = ⟨r, answer⟩ :: rest ∧ (f answer).Conversation rest a := conversation_ask

theorem request_run {σ : Type} (handler : Handler clusterInterface σ) (r : Request) (s : σ) :
    (request r).run handler s = handler r s := rfl

theorem request_calls {σ : Type} (handler : Handler clusterInterface σ) (r : Request) (s : σ) :
    (request r).calls handler s = [⟨r, (handler r s).1⟩] := rfl

theorem request_preliminary {r : Request} (h : r.isPreliminary = true) :
    Preliminary (request r) :=
  ⟨h, fun _ => trivial⟩

theorem statusAfter_preliminary {call : clusterInterface.Call} (h : Request.isPreliminary call.question = true)
    (status : Option SessionStatus) : statusAfter status call = status := by
  obtain ⟨q, answer⟩ := call
  cases q <;> first | rfl | cases h

theorem foldl_preliminary {calls : List clusterInterface.Call}
    (h : ∀ call ∈ calls, Request.isPreliminary call.question = true) (status : Option SessionStatus) :
    calls.foldl statusAfter status = status := by
  induction calls with
  | nil => rfl
  | cons call calls ih =>
    rw [List.foldl_cons, statusAfter_preliminary (h call List.mem_cons_self)]
    exact ih fun c hc => h c (List.mem_cons_of_mem call hc)

/-! ### The children and the pod -/

theorem Child.reconcile_preliminary (desired : Child) (owner : Json) (scope : MergeScope) :
    Preliminary (desired.reconcile owner scope) := by
  refine (request_preliminary rfl).bind fun answer => ?_
  rcases answer with e | _ | live
  · trivial
  · refine (request_preliminary rfl).bind fun answer => ?_
    cases answer <;> trivial
  · simp only [updateLive]
    split
    · trivial
    · split
      · trivial
      · refine (request_preliminary rfl).bind fun answer => ?_
        cases answer <;> trivial

theorem ChildSet.reconcile_preliminary (c : ChildSet) (owner : Json) (scope : MergeScope) :
    Preliminary (c.reconcile owner scope) := by
  refine (Child.reconcile_preliminary _ _ _).bind fun _ => (Child.reconcile_preliminary _ _ _).bind fun _ => ?_
  refine AsksOnly.bind ?_ fun _ => (Child.reconcile_preliminary _ _ _).bind fun _ => ?_
  · cases c.ingress with
    | none => trivial
    | some desired => exact (Child.reconcile_preliminary _ _ _).bind fun _ => trivial
  · exact (AsksOnly.forEach fun d => Child.reconcile_preliminary d _ _).bind fun _ => trivial

namespace Pass

variable {s : Session} {config : Config} {now : Instant}

theorem observe_preliminary (s : Session) : Preliminary (observe s) := by
  refine (request_preliminary rfl).bind fun answer => ?_
  rcases answer with e | _ | pod
  · trivial
  · trivial
  · refine AsksOnly.bind ((request_preliminary rfl).bind fun _ => trivial) fun _ => AsksOnly.bind ?_ fun _ => trivial
    unfold probe
    split
    · trivial
    · exact request_preliminary rfl

/-- A pass either cannot start and says nothing, or it brings the children in line, looks at the pod and goes on. -/
theorem applyBy_conversation {reconcile : ChildSet → Json → MergeScope → Controlled ChildUpdates}
    {calls : List clusterInterface.Call} {outcome : Outcome}
    (h : (applyBy reconcile s config now).Conversation calls outcome) :
    (calls = [] ∧ ∃ e, prepare s config = .error e ∧ outcome = .error e) ∨
      ∃ plan brought updates seen sighting rest, prepare s config = .ok plan ∧ calls = brought ++ seen ++ rest ∧
        (reconcile plan.children plan.owner plan.scope).Conversation brought updates ∧
        (observe s).Conversation seen sighting ∧
        (finish s config plan.policy updates sighting now).Conversation rest outcome := by
  unfold applyBy at h
  cases hplan : prepare s config with
  | error e =>
    rw [hplan] at h
    obtain ⟨rfl, rfl⟩ := conversation_done.1 h
    exact .inl ⟨rfl, e, rfl, rfl⟩
  | ok plan =>
    rw [hplan] at h
    obtain ⟨brought, updates, after, rfl, hbrought, h⟩ := conversation_bind.1 h
    obtain ⟨seen, sighting, rest, rfl, hseen, h⟩ := conversation_bind.1 h
    exact .inr ⟨plan, brought, updates, seen, sighting, rest, rfl, by simp, hbrought, hseen, h⟩

theorem apply_conversation {calls : List clusterInterface.Call} {outcome : Outcome}
    (h : (apply s config now).Conversation calls outcome) :
    (calls = [] ∧ ∃ e, prepare s config = .error e) ∨
      ∃ plan brought updates seen sighting rest, prepare s config = .ok plan ∧ calls = brought ++ seen ++ rest ∧
        (plan.children.reconcile plan.owner plan.scope).Conversation brought updates ∧
        (observe s).Conversation seen sighting ∧
        (finish s config plan.policy updates sighting now).Conversation rest outcome := by
  rcases applyBy_conversation h with ⟨hnil, e, he, -⟩ | hpass
  · exact .inl ⟨hnil, e, he⟩
  · exact .inr hpass

/-- Of a pod that does not exist nothing is seen. -/
theorem observe_none {calls : List clusterInterface.Call} {sighting : Sighting}
    (h : (observe s).Conversation calls sighting)
    (hpod : ∀ call ∈ calls, Request.showsNoPod call.question call.answer = true) :
    sighting = ⟨⟨none, [], false⟩, none⟩ := by
  obtain ⟨answer, rest, rfl, hrest⟩ := request_bind_conversation.1 h
  have hanswer := hpod _ List.mem_cons_self
  rcases answer with e | _ | pod
  · cases hanswer
  · exact (conversation_done.1 hrest).2
  · cases hanswer

/-! ### The status and the fate of the session -/

theorem record_conversation {status : SessionStatus} {calls : List clusterInterface.Call}
    {answer : Except ApiError Unit} :
    (record s status).Conversation calls answer ↔
      (s.status = some status ∧ calls = [] ∧ answer = .ok ()) ∨
        (s.status ≠ some status ∧ calls = [⟨.patchStatus s.name status, answer⟩]) := by
  unfold record
  split
  · rename_i heq
    simp [conversation_done, heq]
  · rename_i hne
    simp only [hne, false_and, ne_eq, not_false_eq_true, true_and, false_or]
    exact request_conversation

/-- Nothing is recorded anew, or the status is, as far as the cluster takes it. -/
theorem record_foldl {status : SessionStatus} {calls : List clusterInterface.Call} {answer : Except ApiError Unit}
    (h : (record s status).Conversation calls answer) :
    (calls.foldl statusAfter s.status = some status ∧ answer = .ok ()) ∨
      (calls.foldl statusAfter s.status = s.status ∧ ∃ e, answer = .error e) := by
  rcases record_conversation.1 h with ⟨heq, rfl, rfl⟩ | ⟨-, rfl⟩
  · exact .inl ⟨heq, rfl⟩
  · cases answer with
    | ok u => exact .inl ⟨rfl, rfl⟩
    | error e => exact .inr ⟨rfl, e, rfl⟩

/-- Culling sends at most one request, and fails if that does. -/
theorem cull_conversation {policy : CullingPolicy} {updates : ChildUpdates} {pod : Option Json}
    {status : SessionStatus} {calls : List clusterInterface.Call} {outcome : Outcome}
    (h : (cull s config policy updates pod status now).Conversation calls outcome) :
    (policy.needsDeletion now status = true ∧ ∃ answer, calls = [⟨.deleteSession s.name, answer⟩] ∧
        outcome = (answer.mapError .cluster).bind fun _ => .ok .onChange) ∨
      (policy.needsDeletion now status = false ∧ mustHibernate s policy pod status now = true ∧
        ∃ answer, calls = [⟨.hibernateSession s.name, answer⟩] ∧
          outcome = (answer.mapError .cluster).bind fun _ => conclude s config updates status) ∨
      (policy.needsDeletion now status = false ∧ mustHibernate s policy pod status now = false ∧ calls = [] ∧
        outcome = conclude s config updates status) := by
  unfold cull at h
  split at h
  · rename_i hdelete
    obtain ⟨answer, rest, rfl, hrest⟩ := request_bind_conversation.1 h
    refine .inl ⟨hdelete, answer, ?_⟩
    cases answer with
    | ok u =>
      obtain ⟨rfl, rfl⟩ := conversation_done.1 hrest
      exact ⟨rfl, rfl⟩
    | error e =>
      obtain ⟨rfl, rfl⟩ := conversation_done.1 hrest
      exact ⟨rfl, rfl⟩
  · rename_i hdelete
    split at h
    · rename_i hhibernate
      obtain ⟨answer, rest, rfl, hrest⟩ := request_bind_conversation.1 h
      refine .inr (.inl ⟨by simpa using hdelete, hhibernate, answer, ?_⟩)
      cases answer with
      | ok u =>
        obtain ⟨rfl, rfl⟩ := conversation_done.1 hrest
        exact ⟨rfl, rfl⟩
      | error e =>
        obtain ⟨rfl, rfl⟩ := conversation_done.1 hrest
        exact ⟨rfl, rfl⟩
    · rename_i hhibernate
      obtain ⟨rfl, rfl⟩ := conversation_done.1 h
      exact .inr (.inr ⟨by simpa using hdelete, by simpa using hhibernate, rfl, rfl⟩)

/-- A status whose recording does not fail stands recorded. -/
theorem record_foldl_of_smooth {status : SessionStatus} {calls : List clusterInterface.Call}
    {answer : Except ApiError Unit} (h : (record s status).Conversation calls answer)
    (hok : ∀ call ∈ calls, Request.failed call.question call.answer = false) :
    calls.foldl statusAfter s.status = some status ∧ answer = .ok () := by
  rcases record_conversation.1 h with ⟨heq, rfl, rfl⟩ | ⟨-, rfl⟩
  · exact ⟨heq, rfl⟩
  · have hanswer := hok _ List.mem_cons_self
    cases answer with
    | ok u => exact ⟨rfl, rfl⟩
    | error e => cases hanswer

section

variable {policy : CullingPolicy} {updates : ChildUpdates} {pod : Option Json} {status : SessionStatus}
  {calls : List clusterInterface.Call} {outcome : Outcome} {call : clusterInterface.Call} {name : String}

theorem cull_deletes (h : (cull s config policy updates pod status now).Conversation calls outcome)
    (hcall : call ∈ calls) (hname : call.question = .deleteSession name) :
    policy.needsDeletion now status = true := by
  rcases cull_conversation h with ⟨hdelete, -⟩ | ⟨-, -, _, rfl, -⟩ | ⟨-, -, rfl, -⟩
  · exact hdelete
  · rw [List.mem_singleton.1 hcall] at hname
    cases hname
  · cases hcall

theorem cull_hibernates (h : (cull s config policy updates pod status now).Conversation calls outcome)
    (hcall : call ∈ calls) (hname : call.question = .hibernateSession name) :
    mustHibernate s policy pod status now = true := by
  rcases cull_conversation h with ⟨-, _, rfl, -⟩ | ⟨-, hhibernate, -⟩ | ⟨-, -, rfl, -⟩
  · rw [List.mem_singleton.1 hcall] at hname
    cases hname
  · exact hhibernate
  · cases hcall

/-- A session that need not be deleted is hibernated exactly when it must be. -/
theorem cull_hibernates_iff (h : (cull s config policy updates pod status now).Conversation calls outcome)
    (hkept : policy.needsDeletion now status = false) :
    (∃ call ∈ calls, call.question = .hibernateSession s.name) ↔ mustHibernate s policy pod status now = true := by
  constructor
  · rintro ⟨call, hcall, hname⟩
    exact cull_hibernates h hcall hname
  · intro hmust
    rcases cull_conversation h with ⟨hdelete, -⟩ | ⟨-, -, answer, rfl, -⟩ | ⟨-, hnot, -⟩
    · rw [hkept] at hdelete
      cases hdelete
    · exact ⟨_, List.mem_cons_self, rfl⟩
    · rw [hmust] at hnot
      cases hnot

end

/-- The second half of a pass records a status and then culls; it culls only once the status stands recorded. -/
theorem finish_conversation {policy : CullingPolicy} {updates : ChildUpdates} {sighting : Sighting}
    {calls : List clusterInterface.Call} {outcome : Outcome}
    (h : (finish s config policy updates sighting now).Conversation calls outcome) :
    ∃ written answer culled, calls = written ++ culled ∧
      (record s (status s policy updates sighting.seen now)).Conversation written answer ∧
      ((culled = [] ∧ (answer = .ok () → sighting.podError ≠ none)) ∨
        (answer = .ok () ∧ sighting.podError = none ∧ (cull s config policy updates sighting.seen.pod
          (status s policy updates sighting.seen now) now).Conversation culled outcome)) := by
  unfold finish at h
  obtain ⟨written, answer, culled, rfl, hwritten, h⟩ := conversation_bind.1 h
  refine ⟨written, answer, culled, rfl, hwritten, ?_⟩
  cases answer with
  | error e => exact .inl ⟨(conversation_done.1 h).1, by simp⟩
  | ok u =>
    cases hpod : sighting.podError with
    | some e =>
      rw [hpod] at h
      exact .inl ⟨(conversation_done.1 h).1, by simp⟩
    | none =>
      rw [hpod] at h
      exact .inr ⟨rfl, rfl, h⟩

/-- What stands recorded after a pass that could start is settled by the one call that records a status. -/
theorem recorded_eq {plan : Plan} {brought seen written culled : List clusterInterface.Call} {updates : ChildUpdates}
    {sighting : Sighting} {answer : Except ApiError Unit} {outcome : Outcome} (status : Option SessionStatus)
    (hbrought : (plan.children.reconcile plan.owner plan.scope).Conversation brought updates)
    (hseen : (observe s).Conversation seen sighting)
    (hculled : (culled = [] ∧ (answer = .ok () → sighting.podError ≠ none)) ∨
      (answer = .ok () ∧ sighting.podError = none ∧ (cull s config plan.policy updates sighting.seen.pod
        (Pass.status s plan.policy updates sighting.seen now) now).Conversation culled outcome)) :
    (brought ++ seen ++ (written ++ culled)).foldl statusAfter status = written.foldl statusAfter status := by
  have hculled' : ∀ status, culled.foldl statusAfter status = status := by
    intro status
    rcases hculled with ⟨rfl, -⟩ | ⟨-, -, hculled⟩
    · rfl
    · rcases cull_conversation hculled with ⟨-, _, rfl, -⟩ | ⟨-, -, _, rfl, -⟩ | ⟨-, -, rfl, -⟩ <;> rfl
  rw [List.foldl_append, List.foldl_append, List.foldl_append, hculled',
    foldl_preliminary (hbrought.question_kind (ChildSet.reconcile_preliminary _ _ _)),
    foldl_preliminary (hseen.question_kind (observe_preliminary _))]

/-- A pass leaves the status on record as it was, or puts there the one that it computed. -/
theorem recorded_cases {calls : List clusterInterface.Call} {outcome : Outcome}
    (h : (apply s config now).Conversation calls outcome) :
    calls.foldl statusAfter s.status = s.status ∨
      ∃ policy updates seen, calls.foldl statusAfter s.status = some (status s policy updates seen now) := by
  rcases apply_conversation h with ⟨hnil, -⟩ | ⟨plan, brought, updates, seen, sighting, rest, -, heq, hb, hs, hf⟩
  · exact .inl (by rw [hnil]; rfl)
  · obtain ⟨written, answer, culled, rfl, hrecord, hcull⟩ := finish_conversation hf
    rw [heq, recorded_eq s.status hb hs hcull]
    rcases record_foldl hrecord with ⟨hnew, -⟩ | ⟨hold, -⟩
    · exact .inr ⟨plan.policy, updates, sighting.seen, hnew⟩
    · exact .inl hold

/-- The calls that delete or hibernate are those of culling. -/
theorem final_mem_culled {plan : Plan} {brought seen written culled : List clusterInterface.Call}
    {updates : ChildUpdates} {sighting : Sighting} {status : SessionStatus} {answer : Except ApiError Unit}
    (hbrought : (plan.children.reconcile plan.owner plan.scope).Conversation brought updates)
    (hseen : (observe s).Conversation seen sighting) (hwritten : (record s status).Conversation written answer)
    {call : clusterInterface.Call} (hcall : call ∈ brought ++ seen ++ (written ++ culled))
    (hfinal : Request.isFinal call.question = true) : call ∈ culled := by
  have hlate := Request.not_preliminary hfinal
  rcases List.mem_append.1 hcall with hcall | hcall
  · rcases List.mem_append.1 hcall with hcall | hcall
    · exact absurd (hbrought.question_kind (ChildSet.reconcile_preliminary _ _ _) call hcall) hlate
    · exact absurd (hseen.question_kind (observe_preliminary _) call hcall) hlate
  · rcases List.mem_append.1 hcall with hcall | hcall
    · rcases record_conversation.1 hwritten with ⟨-, rfl, -⟩ | ⟨-, rfl⟩
      · cases hcall
      · rw [List.mem_singleton.1 hcall] at hfinal
        cases hfinal
    · exact hcall

/-- A session is deleted or hibernated only when the status computed by this very pass stands recorded. -/
theorem fate_conversation {calls : List clusterInterface.Call} {outcome : Outcome}
    (h : (apply s config now).Conversation calls outcome) {call : clusterInterface.Call} (hcall : call ∈ calls)
    (hfinal : Request.isFinal call.question = true) :
    ∃ (plan : Plan) (updates : ChildUpdates) (sighting : Sighting) (culled : List clusterInterface.Call),
      prepare s config = .ok plan ∧
        calls.foldl statusAfter s.status = some (status s plan.policy updates sighting.seen now) ∧ call ∈ culled ∧
        (cull s config plan.policy updates sighting.seen.pod (status s plan.policy updates sighting.seen now)
          now).Conversation culled outcome := by
  rcases apply_conversation h with ⟨rfl, -⟩ | ⟨plan, brought, updates, seen, sighting, rest, hplan, rfl, hb, hs, hf⟩
  · cases hcall
  obtain ⟨written, answer, culled, rfl, hrecord, hcull⟩ := finish_conversation hf
  have hculled := final_mem_culled hb hs hrecord hcall hfinal
  rcases hcull with ⟨rfl, -⟩ | ⟨rfl, hpod, hcull⟩
  · cases hculled
  refine ⟨plan, updates, sighting, culled, hplan, ?_, hculled, hcull⟩
  rw [recorded_eq s.status hb hs (.inr ⟨rfl, hpod, hcull⟩)]
  rcases record_foldl hrecord with ⟨hnew, -⟩ | ⟨-, e, he⟩
  · exact hnew
  · cases he

end Pass

/-! ### A plain session -/

/-- A spec with an image and nothing else but the culling thresholds. -/
def SessionSpec.plain (hibernated : Bool) (culling : CullingSpec) : SessionSpec where
  session := ⟨"image", [], [], [], none, 8888, .default, none, none, 1000, 1000, "/", [], .none, none⟩
  dataSources := []
  authentication := none
  culling := culling
  hibernated := hibernated
  extraContainers := []
  initContainers := []
  extraVolumes := []
  ingress := none
  nodeSelector := []
  affinity := none
  tolerations := []
  priorityClassName := none
  serviceAccountName := none
  imagePullSecrets := []
  reconcileStrategy := .always

/-- Metadata with a name, a unique identifier and a creation time. -/
def Session.plainMetadata (created : String) : Json :=
  .object [("creationTimestamp", .str created), ("name", .str "plain"), ("uid", .str "1")]

end SessionOperator
