import SessionOperator.Cluster.Rehearsal
import SessionOperator.Proofs.Interleaving
import SessionOperator.Proofs.Pass.Conversation

/-!
# A cluster whose calls may fail

A call is answered, or it is refused, or it takes effect and its answer is lost on the way.  The last two look the same
to whoever calls.

* `Request.lost`: a request that was made and refused;
* `Cluster.FaultyStep`, `Cluster.FaultyRun`: what may become of a cluster by one call, and by one call after the other;
* `Cluster.FaultyStep.answered_of_ok`, `Cluster.FaultyStep.eq_of_isLook`: what is known of a call that did not fail, and
  of one that only reads;
* `Cluster.FaultyRun.session_status`: the status on record is the one that was recorded last;
* `Cluster.FaultyRun.secrets_sublist`: secrets only ever go away;
* `Cluster.FaultyRun.not_mem_secrets`: what was deleted without a failure is gone, whatever follows;
* `Cluster.FaultyRun.filter_secrets`: what no call asks to delete is untouched;
* `Rehearsal.faultyRun`: a rehearsal with faults is such a run.
-/

namespace SessionOperator

open Program

/-- A request that only reads. -/
def Request.isLook : Request → Bool
  | getChild .. | getPod _ | listPodEvents _ | probeIdle _ => true
  | _ => false

/-- Whether the request was made and refused. -/
def Request.lost (r : Request) (calls : List clusterInterface.Call) : Bool :=
  calls.any fun call => decide (call.question = r) && Request.failed call.question call.answer

namespace Request

variable {r : Request} {calls : List clusterInterface.Call}

theorem lost_eq_true : r.lost calls = true ↔
    ∃ call ∈ calls, call.question = r ∧ Request.failed call.question call.answer = true := by
  simp [lost]

theorem lost_append (r : Request) (calls more : List clusterInterface.Call) :
    r.lost (calls ++ more) = (r.lost calls || r.lost more) := List.any_append

theorem lost_eq_false : r.lost calls = false ↔
    ∀ call ∈ calls, call.question = r → Request.failed call.question call.answer = false := by
  simp [lost]

end Request

namespace Cluster

variable {c c' : Cluster} {call : clusterInterface.Call} {calls : List clusterInterface.Call} {name : String}

inductive FaultyStep : Cluster → clusterInterface.Call → Cluster → Prop
  | answered (c : Cluster) (r : Request) : FaultyStep c ⟨r, (answer r c).1⟩ (answer r c).2
  | refused (c : Cluster) {call : clusterInterface.Call} (h : Request.failed call.question call.answer = true) :
      FaultyStep c call c
  | unheard (c : Cluster) {call : clusterInterface.Call} (h : Request.failed call.question call.answer = true) :
      FaultyStep c call (answer call.question c).2

inductive FaultyRun : Cluster → List clusterInterface.Call → Cluster → Prop
  | nil (c : Cluster) : FaultyRun c [] c
  | cons {c c' c'' : Cluster} {call : clusterInterface.Call} {calls : List clusterInterface.Call}
      (step : FaultyStep c call c') (rest : FaultyRun c' calls c'') : FaultyRun c (call :: calls) c''

theorem answer_of_isLook {r : Request} (h : r.isLook = true) (c : Cluster) : (answer r c).2 = c := by
  cases r <;> first | rfl | cases h

theorem FaultyStep.answered_of_ok (h : FaultyStep c call c') (hok : Request.failed call.question call.answer = false) :
    call.answer = (answer call.question c).1 ∧ c' = (answer call.question c).2 := by
  cases h with
  | answered r => exact ⟨rfl, rfl⟩
  | refused hfailed | unheard hfailed =>
    rw [hok] at hfailed
    cases hfailed

theorem FaultyStep.eq_of_isLook (h : FaultyStep c call c') (hlook : Request.isLook call.question = true) : c' = c := by
  cases h with
  | answered r => exact answer_of_isLook hlook c
  | refused hfailed => rfl
  | unheard hfailed => exact answer_of_isLook hlook c

/-- The status that is recorded changes only by a call that records one. -/
theorem answer_session_status (r : Request) (c : Cluster) :
    (answer r c).2.session.status = statusAfter c.session.status ⟨r, (answer r c).1⟩ := by
  cases r with
  | patchChild kind name patch =>
    show (c.patchChild kind name patch).2.session.status = c.session.status
    unfold patchChild
    split
    · rfl
    · split
      · rfl
      · split <;> rfl
  | _ => rfl

theorem statusAfter_of_failed (status : Option SessionStatus)
    (hfailed : Request.failed call.question call.answer = true) : statusAfter status call = status := by
  obtain ⟨question, answer⟩ := call
  cases question with
  | patchStatus name st =>
    cases answer with
    | error e => rfl
    | ok u => cases hfailed
  | _ => rfl

theorem FaultyStep.session_status (h : FaultyStep c call c') (hrecorded : ∀ name st,
    call.question = Request.patchStatus name st → Request.failed call.question call.answer = false) :
    c'.session.status = statusAfter c.session.status call := by
  cases h with
  | answered r => exact answer_session_status r c
  | refused hfailed => exact (statusAfter_of_failed _ hfailed).symm
  | unheard hfailed =>
    rw [statusAfter_of_failed _ hfailed, answer_session_status]
    obtain ⟨question, answer⟩ := call
    cases question with
    | patchStatus name st =>
      rw [hrecorded name st rfl] at hfailed
      cases hfailed
    | _ => rfl

namespace FaultyRun

variable {more : List clusterInterface.Call}

theorem uncons (h : FaultyRun c (call :: calls) c') : ∃ c₁, FaultyStep c call c₁ ∧ FaultyRun c₁ calls c' := by
  cases h with
  | cons step rest => exact ⟨_, step, rest⟩

theorem split (h : FaultyRun c (calls ++ more) c') : ∃ c₁, FaultyRun c calls c₁ ∧ FaultyRun c₁ more c' := by
  induction calls generalizing c with
  | nil => exact ⟨c, .nil c, h⟩
  | cons call calls ih =>
    obtain ⟨c₁, step, rest⟩ := h.uncons
    obtain ⟨c₂, hcalls, hmore⟩ := ih rest
    exact ⟨c₂, .cons step hcalls, hmore⟩

/-- Without a failure the calls are answered one after the other. -/
theorem answered (h : FaultyRun c calls c')
    (hok : ∀ call ∈ calls, Request.failed call.question call.answer = false) : Answered answer calls c c' := by
  induction h with
  | nil c => rfl
  | cons step rest ih =>
    obtain ⟨hcall, hcalls⟩ := List.forall_mem_cons.1 hok
    obtain ⟨hanswer, rfl⟩ := step.answered_of_ok hcall
    exact ⟨hanswer, ih hcalls⟩

theorem of_answered (h : Answered answer calls c c') : FaultyRun c calls c' := by
  induction calls generalizing c with
  | nil =>
    obtain rfl : c' = c := h
    exact .nil c'
  | cons call calls ih =>
    obtain ⟨question, answer⟩ := call
    obtain ⟨hanswer, hrest⟩ := h
    obtain rfl : answer = (Cluster.answer question c).1 := hanswer
    exact .cons (.answered c question) (ih hrest)

/-- What is known of each call is known at its step. -/
theorem along {P : clusterInterface.Call → Prop} (h : FaultyRun c calls c') (hP : ∀ call ∈ calls, P call) :
    Along (fun c call c' => FaultyStep c call c' ∧ P call) calls c c' := by
  induction h with
  | nil c => rfl
  | cons step rest ih =>
    obtain ⟨hcall, hcalls⟩ := List.forall_mem_cons.1 hP
    exact ⟨_, ⟨step, hcall⟩, ih hcalls⟩

/-- When the status is recorded without a failure, what stands on record is what the calls have put there. -/
theorem session_status (h : FaultyRun c calls c') (hrecorded : ∀ call ∈ calls, ∀ name st,
    call.question = Request.patchStatus name st → Request.failed call.question call.answer = false) :
    c'.session.status = calls.foldl statusAfter c.session.status := by
  induction h with
  | nil c => rfl
  | @cons c c₁ c' call calls step rest ih =>
    obtain ⟨hcall, hcalls⟩ := List.forall_mem_cons.1 hrecorded
    rw [List.foldl_cons, ih hcalls, step.session_status hcall]

end FaultyRun

/-! ### Secrets -/

theorem patchChild_secrets (c : Cluster) (kind : ChildKind) (name : String) (patch : Json) :
    (c.patchChild kind name patch).2.secrets = c.secrets := by
  unfold patchChild
  split
  · rfl
  · split
    · rfl
    · split <;> rfl

/-- Of the secrets all stay but the one that is asked to be deleted. -/
theorem answer_secrets (r : Request) (c : Cluster) :
    (answer r c).2.secrets = c.secrets.filter fun n => r ≠ .deleteSecret n := by
  cases r with
  | deleteSecret name => simp [answer, eq_comm]
  | patchChild kind name patch =>
    rw [List.filter_eq_self.2 fun n _ => by simp]
    exact patchChild_secrets c kind name patch
  | _ => exact (List.filter_eq_self.2 fun n _ => by simp).symm

/-- Only a call that fails may be without effect. -/
theorem FaultyStep.secrets (h : FaultyStep c call c') :
    (c'.secrets = c.secrets.filter fun n => call.question ≠ .deleteSecret n) ∨
      (Request.failed call.question call.answer = true ∧ c'.secrets = c.secrets) := by
  cases h with
  | answered r => exact .inl (answer_secrets r c)
  | refused hfailed => exact .inr ⟨hfailed, rfl⟩
  | unheard hfailed => exact .inl (answer_secrets call.question c)

theorem FaultyStep.secrets_sublist (h : FaultyStep c call c') : c'.secrets.Sublist c.secrets := by
  rcases h.secrets with hstep | ⟨-, hstep⟩
  · rw [hstep]
    exact List.filter_sublist
  · exact hstep ▸ .refl _

theorem FaultyRun.secrets_sublist (h : FaultyRun c calls c') : c'.secrets.Sublist c.secrets := by
  induction h with
  | nil c => exact .refl _
  | cons step rest ih => exact ih.trans step.secrets_sublist

theorem FaultyRun.not_mem_secrets (h : FaultyRun c calls c') (hcall : call ∈ calls)
    (hname : call.question = .deleteSecret name) (hok : Request.failed call.question call.answer = false) :
    name ∉ c'.secrets := by
  induction h with
  | nil c => cases hcall
  | cons step rest ih =>
    rcases List.mem_cons.1 hcall with rfl | hcall
    · rcases step.secrets with hstep | ⟨hfailed, -⟩
      · -- it is gone after this call, and nothing brings it back
        intro hmem
        have hkept := rest.secrets_sublist.subset hmem
        rw [hstep, List.mem_filter] at hkept
        exact of_decide_eq_true hkept.2 hname
      · rw [hok] at hfailed
        cases hfailed
    · exact ih hcall

theorem FaultyRun.filter_secrets {keep : String → Bool} (h : FaultyRun c calls c')
    (hkeep : ∀ call ∈ calls, ∀ n, call.question = .deleteSecret n → keep n = false) :
    c'.secrets.filter keep = c.secrets.filter keep := by
  induction h with
  | nil c => rfl
  | @cons c c' c'' call calls step rest ih =>
    rw [ih fun later hlater => hkeep later (List.mem_cons_of_mem _ hlater)]
    rcases step.secrets with hstep | ⟨-, hstep⟩
    · rw [hstep, List.filter_filter]
      refine List.filter_congr fun n _ => ?_
      by_cases hname : call.question = .deleteSecret n
      · rw [hkeep call List.mem_cons_self n hname, Bool.false_and]
      · rw [decide_eq_true hname, Bool.and_true]
    · rw [hstep]

end Cluster

/-! ### Rehearsals -/

namespace Rehearsal

variable {r r' : Rehearsal} {q : Request} {calls : List clusterInterface.Call}

/-- A fault refuses the request that it hits. -/
theorem failed_of_fault? {a : q.Answer} (h : r.fault? q = some a) : Request.failed q a = true := by
  obtain ⟨f, -, hfail⟩ := Option.bind_eq_some_iff.1 h
  cases q with
  | probeIdle s => cases hfail
  | _ =>
    cases hfail
    rfl

theorem respond_of_honest (hhonest : r.lies = []) (q : Request) : r.respond q = r.honest q := by
  cases q with
  | getChild kind name =>
    unfold respond
    rw [hhonest]
    rfl
  | _ => rfl

/-- Without lies a request is refused or answered by the cluster. -/
theorem faultyStep (hhonest : r.lies = []) (q : Request) :
    Cluster.FaultyStep r.cluster ⟨q, (Rehearsal.answer q r).1⟩ (Rehearsal.answer q r).2.cluster ∧
      (Rehearsal.answer q r).2.lies = [] := by
  unfold Rehearsal.answer
  cases hfault : r.fault? q with
  | some a => exact ⟨.refused r.cluster (failed_of_fault? hfault), hhonest⟩
  | none =>
    simp only [respond_of_honest hhonest]
    exact ⟨.answered r.cluster q, hhonest⟩

theorem faultyRun (hhonest : r.lies = []) (h : Answered Rehearsal.answer calls r r') :
    Cluster.FaultyRun r.cluster calls r'.cluster := by
  induction calls generalizing r with
  | nil =>
    obtain rfl : r' = r := h
    exact .nil r'.cluster
  | cons call calls ih =>
    obtain ⟨question, answer⟩ := call
    obtain ⟨hanswer, hrest⟩ := h
    obtain rfl : answer = (Rehearsal.answer question r).1 := hanswer
    obtain ⟨hstep, hhonest'⟩ := faultyStep hhonest question
    exact .cons hstep (ih hhonest' hrest)

end Rehearsal

end SessionOperator
