import Mathlib.Data.List.Basic
import SessionOperator.Proofs.Children.Errand
import SessionOperator.Proofs.Pass.Memory
import SessionOperator.Proofs.Status

/-!
# What a pass does to the session

Whatever the cluster answers and whatever fails: a pass that can start records its status if that is new, and deletes
or hibernates the session at most once, after the status stands recorded and if nothing that it needs to know is
missing.  Failing children change neither; they are what such a pass ends with if it ends with nothing else.

* `Pass.Ending`: all that a pass may say once it has seen the children and the pod; `Pass.finish_ending`: nothing else
  is said;
* `Pass.Conduct`: what holds of the calls and the outcome of a pass;
* `Pass.apply_conduct`: it holds of every pass, by any schedule and against any cluster;
* `Pass.failures_isolated`: every child has its errand, and exactly the failed ones are reported.
-/

namespace SessionOperator

open Program

/-- A failure for which a pass does not even start. -/
def PassError.isEarly : PassError → Bool
  | missingObjectKey | policy _ | serialization _ => true
  | _ => false

namespace Request

/-- A request that records a status. -/
def isRecording : Request → Bool
  | patchStatus .. => true
  | _ => false

/-- A request whose failure spares the session. -/
def guardsFate : Request → Bool
  | getPod _ | patchStatus .. => true
  | _ => false

/-- A request whose failure is what a pass ends with. -/
def isVital (r : Request) : Bool := r.guardsFate || r.isFinal

variable {r : Request}

theorem isPreliminary_of_isAboutChild (h : r.isAboutChild = true) : r.isPreliminary = true := by
  cases r <;> first | rfl | cases h

theorem not_recording_of_isPreliminary (h : r.isPreliminary = true) : ¬r.isRecording = true := by
  cases r <;> simp [isPreliminary, isRecording] at h ⊢

theorem not_vital_of_isAboutChild (h : r.isAboutChild = true) : r.isVital = false := by
  cases r <;> first | rfl | cases h

end Request

namespace Pass

/-- No vital call failed. -/
def Unfailing (calls : List clusterInterface.Call) : Prop :=
  ∀ call ∈ calls, Request.isVital call.question = true → Request.failed call.question call.answer = false

/-- Some call asks for the deletion of a session. -/
def AsksDeletion (calls : List clusterInterface.Call) : Prop :=
  ∃ call ∈ calls, ∃ name, call.question = Request.deleteSession name

/-- The recording of a status that differs, when the cluster takes it. -/
def recording (s : Session) (st : SessionStatus) : List clusterInterface.Call :=
  if s.status = some st then [] else [⟨.patchStatus s.name st, .ok ()⟩]

/-- What is said after the status has been computed, and how it ends. -/
inductive Ending (s : Session) (config : Config) (policy : CullingPolicy) (updates : ChildUpdates)
    (sighting : Sighting) (now : Instant) (st : SessionStatus) : List clusterInterface.Call → Outcome → Prop
  | unrecorded (e : ApiError) (hnew : s.status ≠ some st) :
      Ending s config policy updates sighting now st [⟨.patchStatus s.name st, .error e⟩] (.error (.cluster e))
  | unseen (e : ApiError) (hpod : sighting.podError = some e) :
      Ending s config policy updates sighting now st (recording s st) (.error (.cluster e))
  | deleted (hpod : sighting.podError = none) (hdelete : policy.needsDeletion now st = true) :
      Ending s config policy updates sighting now st (recording s st ++ [⟨.deleteSession s.name, .ok ()⟩])
        (.ok .onChange)
  | undeleted (e : ApiError) (hpod : sighting.podError = none) (hdelete : policy.needsDeletion now st = true) :
      Ending s config policy updates sighting now st (recording s st ++ [⟨.deleteSession s.name, .error e⟩])
        (.error (.cluster e))
  | hibernated (hpod : sighting.podError = none)
      (hmust : mustHibernate s policy sighting.seen.pod st now = true) :
      Ending s config policy updates sighting now st (recording s st ++ [⟨.hibernateSession s.name, .ok ()⟩])
        (conclude s config updates st)
  | unhibernated (e : ApiError) (hpod : sighting.podError = none)
      (hmust : mustHibernate s policy sighting.seen.pod st now = true) :
      Ending s config policy updates sighting now st (recording s st ++ [⟨.hibernateSession s.name, .error e⟩])
        (.error (.cluster e))
  | concluded (hpod : sighting.podError = none) :
      Ending s config policy updates sighting now st (recording s st) (conclude s config updates st)

section

variable {s : Session} {config : Config} {policy : CullingPolicy} {updates : ChildUpdates} {sighting : Sighting}
  {now : Instant} {st : SessionStatus} {calls : List clusterInterface.Call} {outcome : Outcome}

/-! ### The parts of a pass -/

/-- The pod is looked at first, and what is asked then is not vital. -/
theorem observe_opening (h : (observe s).Conversation calls sighting) :
    ∃ answer rest, calls = ⟨.getPod s.podName, answer⟩ :: rest ∧
      sighting.podError = (match answer with | .error e => some e | .ok _ => none) ∧
      ∀ call ∈ rest, Request.isVital call.question = false := by
  obtain ⟨answer, rest, rfl, hrest⟩ := request_bind_conversation.1 h
  refine ⟨answer, rest, rfl, ?_⟩
  rcases answer with e | _ | pod
  · obtain ⟨rfl, rfl⟩ := conversation_done.1 hrest
    exact ⟨rfl, by simp⟩
  · obtain ⟨rfl, rfl⟩ := conversation_done.1 hrest
    exact ⟨rfl, by simp⟩
  · obtain ⟨listed, events, asked, rfl, hlisted, hrest⟩ := conversation_bind.1 hrest
    obtain ⟨_, _, rfl, hsorted⟩ := request_bind_conversation.1 hlisted
    obtain ⟨rfl, rfl⟩ := conversation_done.1 hsorted
    obtain ⟨probed, idle, _, rfl, hprobed, hrest⟩ := conversation_bind.1 hrest
    obtain ⟨rfl, rfl⟩ := conversation_done.1 hrest
    refine ⟨rfl, ?_⟩
    unfold probe at hprobed
    split at hprobed
    · obtain ⟨rfl, -⟩ := conversation_done.1 hprobed
      simp [Request.isVital, Request.guardsFate, Request.isFinal]
    · rw [request_conversation] at hprobed
      simp [hprobed, Request.isVital, Request.guardsFate, Request.isFinal]

theorem finish_ending (h : (finish s config policy updates sighting now).Conversation calls outcome) :
    Ending s config policy updates sighting now (status s policy updates sighting.seen now) calls outcome := by
  obtain ⟨written, answer, rest, rfl, hrecord, hrest⟩ := conversation_bind.1 h
  cases answer with
  | error e =>
    obtain ⟨rfl, rfl⟩ := conversation_done.1 hrest
    rcases record_conversation.1 hrecord with ⟨-, -, he⟩ | ⟨hnew, rfl⟩
    · cases he
    · exact .unrecorded e hnew
  | ok u =>
    obtain rfl : written = recording s (status s policy updates sighting.seen now) := by
      unfold recording
      rcases record_conversation.1 hrecord with ⟨hold, rfl, -⟩ | ⟨hnew, rfl⟩
      · rw [if_pos hold]
      · rw [if_neg hnew]
    cases hpod : sighting.podError with
    | some e =>
      simp only [hpod] at hrest
      obtain ⟨rfl, rfl⟩ := conversation_done.1 hrest
      rw [List.append_nil]
      exact .unseen e hpod
    | none =>
      simp only [hpod] at hrest
      rcases cull_conversation hrest with ⟨hdelete, answer, rfl, rfl⟩ | ⟨-, hmust, answer, rfl, rfl⟩ | ⟨-, -, rfl, rfl⟩
      · cases answer with
        | ok u => exact .deleted hpod hdelete
        | error e => exact .undeleted e hpod hdelete
      · cases answer with
        | ok u => exact .hibernated hpod hmust
        | error e => exact .unhibernated e hpod hmust
      · rw [List.append_nil]
        exact .concluded hpod

theorem recording_foldl (s : Session) (st : SessionStatus) : (recording s st).foldl statusAfter s.status = some st := by
  unfold recording
  split
  · assumption
  · rfl

theorem mem_recording {call : clusterInterface.Call} (h : call ∈ recording s st) :
    call = ⟨.patchStatus s.name st, .ok ()⟩ := by
  unfold recording at h
  split at h
  · cases h
  · exact List.mem_singleton.1 h

theorem unfailing_append {calls more : List clusterInterface.Call} :
    Unfailing (calls ++ more) ↔ Unfailing calls ∧ Unfailing more := List.forall_mem_append

theorem asksDeletion_append {calls more : List clusterInterface.Call} :
    AsksDeletion (calls ++ more) ↔ AsksDeletion calls ∨ AsksDeletion more := by
  simp only [AsksDeletion, List.mem_append, or_and_right, exists_or]

theorem unfailing_recording : Unfailing (recording s st) := by
  intro call hcall _
  rw [mem_recording hcall]
  rfl

theorem not_asksDeletion_recording : ¬AsksDeletion (recording s st) := by
  rintro ⟨call, hcall, name, hname⟩
  rw [mem_recording hcall] at hname
  cases hname

theorem conclude_eq_children {fs : List Failure} :
    conclude s config updates st = .error (.children fs) ↔ updates.failures ≠ [] ∧ fs = updates.failures := by
  unfold conclude
  split
  · rename_i hne
    rw [Except.error.injEq, PassError.children.injEq, and_iff_right hne, eq_comm]
  · split <;> simp_all

theorem conclude_of_failures_eq_nil (h : updates.failures = []) : conclude s config updates st = .ok (.after
    (if s.status = some st then config.reconcile.requeueSeconds else config.reconcile.statusChangedRequeueSeconds)) := by
  unfold conclude
  rw [if_neg (not_not.2 h)]
  split <;> rfl

theorem conclude_ne_onChange : conclude s config updates st ≠ .ok .onChange := by
  unfold conclude
  split
  · simp
  · split <;> simp

namespace Ending

variable (h : Ending s config policy updates sighting now st calls outcome)
include h

theorem recordings : (calls.map (·.question)).filter Request.isRecording =
    if s.status = some st then [] else [.patchStatus s.name st] := by
  have hrecording : ((recording s st).map (·.question)).filter Request.isRecording =
      if s.status = some st then [] else [.patchStatus s.name st] := by
    unfold recording
    split <;> rfl
  cases h with
  | unrecorded e hnew =>
    rw [if_neg hnew]
    rfl
  | unseen e hpod => exact hrecording
  | concluded hpod => exact hrecording
  | deleted | undeleted | hibernated | unhibernated =>
    rw [List.map_append, List.filter_append, hrecording]
    exact List.append_nil _

/-- Only the last call may be final, and only when the status has been recorded. -/
theorem final_cases : (∀ call ∈ calls, Request.isFinal call.question = false) ∨
    ∃ final, calls = recording s st ++ [final] ∧ sighting.podError = none ∧
      ((final.question = .deleteSession s.name ∧ policy.needsDeletion now st = true) ∨
        (final.question = .hibernateSession s.name ∧ mustHibernate s policy sighting.seen.pod st now = true)) := by
  have hrecording : ∀ call ∈ recording s st, Request.isFinal call.question = false := by
    intro call hcall
    rw [mem_recording hcall]
    rfl
  cases h with
  | unrecorded e hnew => exact .inl (by simp [Request.isFinal])
  | unseen e hpod => exact .inl hrecording
  | concluded hpod => exact .inl hrecording
  | deleted hpod hdelete => exact .inr ⟨_, rfl, hpod, .inl ⟨rfl, hdelete⟩⟩
  | undeleted e hpod hdelete => exact .inr ⟨_, rfl, hpod, .inl ⟨rfl, hdelete⟩⟩
  | hibernated hpod hmust => exact .inr ⟨_, rfl, hpod, .inr ⟨rfl, hmust⟩⟩
  | unhibernated e hpod hmust => exact .inr ⟨_, rfl, hpod, .inr ⟨rfl, hmust⟩⟩

/-- A pass ends with the failure of a vital call, with the deletion of the session, or as if nothing had failed but
children. -/
theorem outcome_cases :
    ((∃ e, outcome = .error (.cluster e)) ∧ (sighting.podError ≠ none ∨ ¬Unfailing calls) ∧
        ∀ name, ⟨.deleteSession name, .ok ()⟩ ∉ calls) ∨
      (outcome = .ok .onChange ∧ ⟨.deleteSession s.name, .ok ()⟩ ∈ calls) ∨
      (outcome = conclude s config updates st ∧ sighting.podError = none ∧ Unfailing calls ∧ ¬AsksDeletion calls) := by
  have hrecording : ∀ name, ⟨.deleteSession name, .ok ()⟩ ∉ recording s st := fun name hmem => by
    cases mem_recording hmem
  cases h with
  | unrecorded e hnew =>
    refine .inl ⟨⟨e, rfl⟩, .inr fun hall => ?_, by simp⟩
    cases hall _ List.mem_cons_self rfl
  | unseen e hpod => exact .inl ⟨⟨e, rfl⟩, .inl (by simp [hpod]), hrecording⟩
  | deleted hpod hdelete => exact .inr (.inl ⟨rfl, by simp⟩)
  | undeleted e hpod hdelete =>
    refine .inl ⟨⟨e, rfl⟩, .inr fun hall => ?_, by simp [hrecording]⟩
    cases hall _ (List.mem_append_right _ List.mem_cons_self) rfl
  | hibernated hpod hmust =>
    refine .inr (.inr ⟨rfl, hpod, ?_, ?_⟩)
    · rw [unfailing_append]
      exact ⟨unfailing_recording, by simp [Unfailing, Request.failed, Except.isOk, Except.toBool]⟩
    · rw [asksDeletion_append, not_or]
      exact ⟨not_asksDeletion_recording, by simp [AsksDeletion]⟩
  | unhibernated e hpod hmust =>
    refine .inl ⟨⟨e, rfl⟩, .inr fun hall => ?_, by simp [hrecording]⟩
    cases hall _ (List.mem_append_right _ List.mem_cons_self) rfl
  | concluded hpod => exact .inr (.inr ⟨rfl, hpod, unfailing_recording, not_asksDeletion_recording⟩)

end Ending

/-! ### The whole pass -/

/-- What is said before the status is computed; the only vital call of it is the look at the pod. -/
structure Opening (opening : List clusterInterface.Call) (sighting : Sighting) : Prop where
  preliminary : ∀ call ∈ opening, Request.isPreliminary call.question = true
  unfailing_iff : Unfailing opening ↔ sighting.podError = none

theorem opening_of_conversation {brought seen : List clusterInterface.Call}
    (hbrought : ∀ call ∈ brought, Request.isAboutChild call.question = true)
    (hseen : (observe s).Conversation seen sighting) : Opening (brought ++ seen) sighting where
  preliminary := by
    intro call hcall
    rcases List.mem_append.1 hcall with hcall | hcall
    · exact Request.isPreliminary_of_isAboutChild (hbrought call hcall)
    · exact hseen.question_kind (observe_preliminary s) call hcall
  unfailing_iff := by
    obtain ⟨answer, rest, rfl, hpod, hrest⟩ := observe_opening hseen
    have hquiet : Unfailing brought := by
      intro call hcall hvital
      rw [Request.not_vital_of_isAboutChild (hbrought call hcall)] at hvital
      cases hvital
    have hlooked : Unfailing rest := by
      intro call hcall hvital
      rw [hrest call hcall] at hvital
      cases hvital
    rw [unfailing_append, and_iff_right hquiet, hpod]
    cases answer with
    | ok pod => simpa [Unfailing, Request.failed, Except.isOk, Except.toBool] using hlooked
    | error e => simp [Unfailing, Request.failed, Request.isVital, Request.guardsFate, Except.isOk, Except.toBool]

/-- What holds of the calls and the outcome of a pass that has computed a status. -/
structure Conduct (s : Session) (config : Config) (updates : ChildUpdates) (st : SessionStatus)
    (calls : List clusterInterface.Call) (outcome : Outcome) : Prop where
  /-- The status is recorded once, if it is new. -/
  records : (calls.map (·.question)).filter Request.isRecording =
    if s.status = some st then [] else [.patchStatus s.name st]
  /-- At most one call in all deletes or hibernates the session. -/
  atMostOnce : (calls.filter fun call => Request.isFinal call.question).length ≤ 1
  /-- That is only when the status stands recorded. -/
  inOrder (before : List clusterInterface.Call) (call : clusterInterface.Call) (after : List clusterInterface.Call) :
    calls = before ++ call :: after → Request.isFinal call.question = true →
      before.foldl statusAfter s.status = some st
  /-- It is never when the pod could not be read or the status could not be recorded. -/
  spared : (∃ call ∈ calls, Request.guardsFate call.question = true ∧
    Request.failed call.question call.answer = true) → ∀ call ∈ calls, Request.isFinal call.question = false
  deletes : ∀ call ∈ calls, ∀ name, call.question = Request.deleteSession name →
    name = s.name ∧ s.spec.hibernated = true ∧ st.state = .hibernated
  hibernates : ∀ call ∈ calls, ∀ name, call.question = Request.hibernateSession name →
    name = s.name ∧ s.spec.hibernated = false
  /-- A pass waits for a change exactly when it has deleted the session. -/
  onChange : outcome = .ok .onChange ↔ ∃ name, ⟨.deleteSession name, .ok ()⟩ ∈ calls
  /-- When nothing failed, the next pass is due after a time that depends on whether the status is new. -/
  requeues : Unfailing calls → updates.failures = [] → outcome ≠ .ok .onChange → outcome = .ok (.after
    (if s.status = some st then config.reconcile.requeueSeconds else config.reconcile.statusChangedRequeueSeconds))

section

variable {opening rest : List clusterInterface.Call} (hopening : Opening opening sighting)
include hopening

theorem Opening.not_final {call : clusterInterface.Call} (hcall : call ∈ opening) :
    Request.isFinal call.question = false := by
  rw [Bool.eq_false_iff]
  exact fun hfinal => Request.not_preliminary hfinal (hopening.preliminary call hcall)

theorem Opening.not_asksDeletion : ¬AsksDeletion opening := by
  rintro ⟨call, hcall, name, hname⟩
  have hfinal := hopening.not_final hcall
  rw [hname] at hfinal
  cases hfinal

/-- Only the last call of a pass may be final; what precedes it went well and has recorded the status. -/
theorem Opening.final_cases (h : Ending s config policy updates sighting now st rest outcome) :
    (∀ call ∈ opening ++ rest, Request.isFinal call.question = false) ∨
      ∃ preceding final, opening ++ rest = preceding ++ [final] ∧
        (∀ call ∈ preceding, Request.isFinal call.question = false) ∧ Unfailing preceding ∧
        preceding.foldl statusAfter s.status = some st ∧
        ((final.question = .deleteSession s.name ∧ policy.needsDeletion now st = true) ∨
          (final.question = .hibernateSession s.name ∧ mustHibernate s policy sighting.seen.pod st now = true)) := by
  rcases h.final_cases with hnone | ⟨final, rfl, hpod, hfinal⟩
  · refine .inl fun call hcall => ?_
    rcases List.mem_append.1 hcall with hcall | hcall
    · exact hopening.not_final hcall
    · exact hnone call hcall
  · refine .inr ⟨opening ++ recording s st, final, (List.append_assoc ..).symm, ?_, ?_, ?_, hfinal⟩
    · intro call hcall
      rcases List.mem_append.1 hcall with hcall | hcall
      · exact hopening.not_final hcall
      · rw [mem_recording hcall]
        rfl
    · exact unfailing_append.2 ⟨hopening.unfailing_iff.2 hpod, unfailing_recording⟩
    · rw [List.foldl_append, foldl_preliminary hopening.preliminary, recording_foldl]

theorem Opening.of_final (h : Ending s config policy updates sighting now st rest outcome)
    {call : clusterInterface.Call} (hcall : call ∈ opening ++ rest) (hfinal : Request.isFinal call.question = true) :
    (call.question = .deleteSession s.name ∧ policy.needsDeletion now st = true) ∨
      (call.question = .hibernateSession s.name ∧ mustHibernate s policy sighting.seen.pod st now = true) := by
  rcases hopening.final_cases h with hnone | ⟨preceding, final, heq, hnone, -, -, hlast⟩
  · rw [hnone call hcall] at hfinal
    cases hfinal
  · rw [heq] at hcall
    rcases List.mem_append.1 hcall with hcall | hcall
    · rw [hnone call hcall] at hfinal
      cases hfinal
    · rwa [List.mem_singleton.1 hcall]

/-- How a pass ends, by its vital calls. -/
theorem Opening.outcome_cases (h : Ending s config policy updates sighting now st rest outcome) :
    ((∃ e, outcome = .error (.cluster e)) ∧ ¬Unfailing (opening ++ rest) ∧
        ∀ name, ⟨.deleteSession name, .ok ()⟩ ∉ opening ++ rest) ∨
      (outcome = .ok .onChange ∧ ⟨.deleteSession s.name, .ok ()⟩ ∈ opening ++ rest) ∨
      (outcome = conclude s config updates st ∧ Unfailing (opening ++ rest) ∧ ¬AsksDeletion (opening ++ rest)) := by
  rw [unfailing_append, asksDeletion_append, hopening.unfailing_iff]
  rcases h.outcome_cases with ⟨hcluster, hfailed, hkept⟩ | ⟨hchange, hdeleted⟩ | ⟨hconclude, hpod, hall, hkept⟩
  · refine .inl ⟨hcluster, fun hall => hfailed.elim (absurd hall.1) (absurd hall.2), fun name hmem => ?_⟩
    rcases List.mem_append.1 hmem with hmem | hmem
    · exact hopening.not_asksDeletion ⟨_, hmem, name, rfl⟩
    · exact hkept name hmem
  · exact .inr (.inl ⟨hchange, List.mem_append_right _ hdeleted⟩)
  · exact .inr (.inr ⟨hconclude, ⟨hpod, hall⟩, not_or.2 ⟨hopening.not_asksDeletion, hkept⟩⟩)

theorem Opening.conduct (h : Ending s config policy updates sighting now st rest outcome)
    (hstate : st.state = .hibernated → s.spec.hibernated = true) :
    Conduct s config updates st (opening ++ rest) outcome where
  records := by
    have hnone : (opening.map (·.question)).filter Request.isRecording = [] := by
      rw [List.filter_eq_nil_iff]
      intro r hr
      obtain ⟨call, hcall, rfl⟩ := List.mem_map.1 hr
      exact Request.not_recording_of_isPreliminary (hopening.preliminary call hcall)
    rw [List.map_append, List.filter_append, hnone, List.nil_append, h.recordings]
  atMostOnce := by
    rcases hopening.final_cases h with hnone | ⟨preceding, final, heq, hnone, -⟩
    · rw [List.filter_eq_nil_iff.2 fun call hcall => by simp [hnone call hcall]]
      exact Nat.zero_le 1
    · rw [heq, List.filter_append, List.filter_eq_nil_iff.2 fun call hcall => by simp [hnone call hcall],
        List.nil_append]
      exact List.length_filter_le _ [final]
  inOrder := by
    intro before call after heq hfinal
    have hcall : call ∈ opening ++ rest := by simp [heq]
    rcases hopening.final_cases h with hnone | ⟨preceding, final, hlast, hnone, -, hrecorded, -⟩
    · rw [hnone call hcall] at hfinal
      cases hfinal
    · have hnot : call ∉ preceding := fun hmem => by
        rw [hnone call hmem] at hfinal
        cases hfinal
      obtain ⟨rfl, -, -⟩ := (List.append_cons_inj_of_notMem hnot List.not_mem_nil).1 (hlast.symm.trans heq)
      exact hrecorded
  spared := by
    rintro ⟨failing, hmem, hguards, hfailed⟩
    rcases hopening.final_cases h with hnone | ⟨preceding, final, heq, -, hall, -, hlast⟩
    · exact hnone
    · rw [heq] at hmem
      rcases List.mem_append.1 hmem with hmem | hmem
      · rw [hall failing hmem (by simp [Request.isVital, hguards])] at hfailed
        cases hfailed
      · rw [List.mem_singleton.1 hmem] at hguards
        rcases hlast with ⟨hname, -⟩ | ⟨hname, -⟩ <;>
        · rw [hname] at hguards
          cases hguards
  deletes := by
    intro call hcall name hname
    rcases hopening.of_final h hcall (by rw [hname]; rfl) with ⟨hself, hdelete⟩ | ⟨hother, -⟩
    · rw [CullingPolicy.needsDeletion, Bool.and_eq_true, decide_eq_true_eq] at hdelete
      rw [hname] at hself
      exact ⟨by cases hself; rfl, hstate hdelete.1, hdelete.1⟩
    · rw [hname] at hother
      cases hother
  hibernates := by
    intro call hcall name hname
    rcases hopening.of_final h hcall (by rw [hname]; rfl) with ⟨hother, -⟩ | ⟨hself, hmust⟩
    · rw [hname] at hother
      cases hother
    · rw [mustHibernate, Bool.and_eq_true, Bool.not_eq_true'] at hmust
      rw [hname] at hself
      exact ⟨by cases hself; rfl, hmust.1⟩
  onChange := by
    rcases hopening.outcome_cases h with ⟨⟨e, rfl⟩, -, hkept⟩ | ⟨rfl, hdeleted⟩ | ⟨rfl, -, hkept⟩
    · simp [hkept]
    · exact ⟨fun _ => ⟨s.name, hdeleted⟩, fun _ => rfl⟩
    · refine iff_of_false conclude_ne_onChange ?_
      rintro ⟨name, hdeleted⟩
      exact hkept ⟨_, hdeleted, name, rfl⟩
  requeues := by
    intro hall hnone hstay
    rcases hopening.outcome_cases h with ⟨-, hfailed, -⟩ | ⟨hchange, -⟩ | ⟨rfl, -, -⟩
    · exact absurd hall hfailed
    · exact absurd hchange hstay
    · exact conclude_of_failures_eq_nil hnone

/-- Children that failed are what a pass ends with if no vital call failed and the session is not to go. -/
theorem Opening.reports (h : Ending s config policy updates sighting now st rest outcome) (failures : List Failure) :
    outcome = .error (.children failures) ↔
      failures = updates.failures ∧ updates.failures ≠ [] ∧ Unfailing (opening ++ rest) ∧
        ¬AsksDeletion (opening ++ rest) := by
  rcases hopening.outcome_cases h with ⟨⟨e, rfl⟩, hfailed, -⟩ | ⟨rfl, hdeleted⟩ | ⟨rfl, hall, hkept⟩
  · simp [hfailed]
  · have hasks : AsksDeletion (opening ++ rest) := ⟨_, hdeleted, s.name, rfl⟩
    simp [hasks]
  · rw [conclude_eq_children]
    exact ⟨fun ⟨hne, heq⟩ => ⟨heq, hne, hall, hkept⟩, fun ⟨heq, hne, _⟩ => ⟨hne, heq⟩⟩

theorem Opening.not_early (h : Ending s config policy updates sighting now st rest outcome) {e : PassError}
    (he : outcome = .error e) : e.isEarly = false := by
  rcases hopening.outcome_cases h with ⟨⟨cause, rfl⟩, -⟩ | ⟨rfl, -⟩ | ⟨rfl, -⟩
  · cases he
    rfl
  · cases he
  · unfold conclude at he
    split at he
    · cases he
      rfl
    · split at he <;> cases he

end

end

/-! ### Any schedule and any cluster -/

/-- The pass of the controller goes about the children side by side. -/
example (s : Session) (config : Config) (now : Instant) :
    applySideBySide s config now = applyBy ChildSet.Schedule.sideBySide.reconcile s config now := rfl

theorem isEarly_of_prepare {s : Session} {config : Config} {e : PassError} (h : prepare s config = .error e) :
    e.isEarly = true := by
  unfold prepare at h
  split at h
  · cases h
    rfl
  · cases hpolicy : CullingPolicy.ofSpec s.spec.culling with
    | error cause =>
      rw [hpolicy] at h
      cases h
      rfl
    | ok policy =>
      rw [hpolicy] at h
      cases hchildren : ChildSet.ofSession s config with
      | error cause =>
        rw [hchildren] at h
        cases h
        rfl
      | ok children =>
        rw [hchildren] at h
        cases h

/-- What has become known of the children and the pod by the first calls of a pass. -/
def Learned (schedule : ChildSet.Schedule) (s : Session) (plan : Plan) (calls : List clusterInterface.Call)
    (updates : ChildUpdates) (sighting : Sighting) : Prop :=
  ∃ brought seen rest, calls = brought ++ seen ++ rest ∧
    (schedule.reconcile plan.children plan.owner plan.scope).Conversation brought updates ∧
    (observe s).Conversation seen sighting

/-- A pass fails early and says nothing, or it computes a status and ends. -/
theorem applyBy_ending {schedule : ChildSet.Schedule} {s : Session} {config : Config} {now : Instant}
    {calls : List clusterInterface.Call} {outcome : Outcome}
    (h : (applyBy schedule.reconcile s config now).Conversation calls outcome) :
    (∃ e, outcome = .error e ∧ e.isEarly = true ∧ calls = []) ∨
      ∃ plan updates sighting opening rest, prepare s config = .ok plan ∧
        Learned schedule s plan calls updates sighting ∧ calls = opening ++ rest ∧ Opening opening sighting ∧
        Ending s config plan.policy updates sighting now (status s plan.policy updates sighting.seen now) rest
          outcome := by
  rcases applyBy_conversation h with
    ⟨rfl, e, he, rfl⟩ | ⟨plan, brought, updates, seen, sighting, rest, hplan, rfl, hbrought, hseen, hrest⟩
  · exact .inl ⟨e, rfl, isEarly_of_prepare he, rfl⟩
  · obtain ⟨errands, herrands⟩ := schedule.attended hbrought
    exact .inr ⟨plan, updates, sighting, brought ++ seen, rest, hplan, ⟨brought, seen, rest, rfl, hbrought, hseen⟩,
      rfl, opening_of_conversation herrands.isAboutChild hseen, finish_ending hrest⟩

section

variable {σ : Type} (schedule : ChildSet.Schedule) (client : Handler clusterInterface σ) (world : σ)

/-- A pass by any schedule against any cluster: either it fails before it has asked anything, because the session has
no name or identity, or its culling policy or the manifests of its children cannot be made out; or it computes a status
from what it has learned and conducts itself accordingly. -/
theorem apply_conduct (s : Session) (config : Config) (now : Instant) :
    let pass := applyBy schedule.reconcile s config now
    let calls := pass.calls client world
    let outcome := (pass.run client world).1
    (∃ e, outcome = .error e ∧ e.isEarly = true ∧ calls = []) ∨
      ∃ plan updates sighting, prepare s config = .ok plan ∧ Learned schedule s plan calls updates sighting ∧
        (∀ e, outcome = .error e → e.isEarly = false) ∧
        Conduct s config updates (status s plan.policy updates sighting.seen now) calls outcome := by
  intro pass calls outcome
  rcases applyBy_ending (conversation_run client pass world) with
    hearly | ⟨plan, updates, sighting, opening, rest, hplan, hlearned, heq, hopening, hending⟩
  · exact .inl hearly
  · have hconduct := hopening.conduct hending hibernated_of_state
    rw [← heq] at hconduct
    exact .inr ⟨plan, updates, sighting, hplan, hlearned, fun e => hopening.not_early hending, hconduct⟩

end

end Pass

end SessionOperator
