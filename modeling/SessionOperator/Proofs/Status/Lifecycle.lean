import SessionOperator.Proofs.Pass.Conversation
import SessionOperator.Proofs.Status.Stable
import SessionOperator.Proofs.Time.Elapsed

/-!
# The life of a session

A session goes through a succession of statuses: each is built on the one before it, and the first on none, while the
session, its children, its pod and the clock may change in any way from one to the next.  What is said of a status here
holds after every step of every succession.

* `Status.Succession`: the successions of statuses, newest first;
* `Status.beginning`: the step with which the current streak of statuses with some property began;
* `Status.Latch`, `Status.Succession.since_eq`: a timestamp that is latched by a property is that of this step;
* `Status.Succession.lifecycle`: what the parts of a status have to do with its state and with the steps before it.
-/

namespace SessionOperator

namespace Status

/-- What a status is built of: the session, with the status before it, and what there is to be seen. -/
structure Step where
  session : Session
  updates : ChildUpdates
  seen : Observations
  now : Instant

def Step.status (v : Step) : SessionStatus := build v.session v.updates v.seen v.now

inductive Succession : List Step → Prop
  | first {v : Step} (status : v.session.status = none) : Succession [v]
  | next {v u : Step} {older : List Step} (past : Succession (u :: older))
      (status : v.session.status = some u.status) : Succession (v :: u :: older)

/-- The oldest step of the unbroken streak of statuses with a property that lasts up to the newest one; there is none if
the newest one lacks the property. -/
def beginning (P : SessionStatus → Bool) (steps : List Step) : Option Step :=
  (steps.takeWhile fun v => P v.status).getLast?

theorem beginning_cons (P : SessionStatus → Bool) (v : Step) (older : List Step) :
    beginning P (v :: older) = if P v.status then some ((beginning P older).getD v) else none := by
  unfold beginning
  rw [List.takeWhile_cons]
  split
  · exact List.getLast?_cons
  · rfl

/-! ### Latches -/

/-- A timestamp that is latched by a property of the status. -/
structure Latch (P : SessionStatus → Bool) (since : SessionStatus → Option String) : Prop where
  initial : since .default = none
  built (s : Session) (updates : ChildUpdates) (seen : Observations) (now : Instant) :
    since (build s updates seen now) = latch (P (build s updates seen now)) (since s.recorded) now

theorem latch_failing : Latch (fun st => st.state = .failed) (·.failingSince) := ⟨rfl, fun _ _ _ _ => rfl⟩

theorem latch_hibernated : Latch (fun st => st.state = .hibernated) (·.hibernatedSince) := ⟨rfl, fun _ _ _ _ => rfl⟩

theorem latch_idle : Latch (·.idle) (·.idleSince) := ⟨rfl, fun _ _ _ _ => rfl⟩

/-- After every step the timestamp is that of the step with which the current streak began. -/
theorem Succession.since_eq {P : SessionStatus → Bool} {since : SessionStatus → Option String} (hlatch : Latch P since)
    {v : Step} {older : List Step} (h : Succession (v :: older)) :
    since v.status = (beginning P (v :: older)).map fun first => first.now.stamp := by
  generalize hsteps : v :: older = steps at h
  induction h generalizing v older with
  | @first w hnone =>
    cases hsteps
    have hrecorded : since w.session.recorded = none := by
      rw [Session.recorded, hnone, Option.getD_none, hlatch.initial]
    rw [beginning_cons, Step.status, hlatch.built, hrecorded, latch]
    split <;> rfl
  | @next w u past hpast hstatus ih =>
    cases hsteps
    have hrecorded : since w.session.recorded = since u.status := by rw [Session.recorded, hstatus, Option.getD_some]
    rw [beginning_cons, Step.status, hlatch.built, hrecorded, ih rfl, latch]
    split
    · -- a streak that goes on keeps its beginning, and one that starts here has this step as its beginning
      cases beginning P (u :: past) <;> rfl
    · rfl

theorem Succession.isSome_since {P : SessionStatus → Bool} {since : SessionStatus → Option String}
    (hlatch : Latch P since) {v : Step} {older : List Step} (h : Succession (v :: older)) :
    (since v.status).isSome = P v.status := by
  rw [h.since_eq hlatch, Option.isSome_map, beginning_cons]
  split
  · rename_i hP
    exact hP.symm
  · rename_i hP
    exact (Bool.eq_false_iff.2 hP).symm

/-! ### The parts of a status -/

variable {s : Session} {updates : ChildUpdates} {seen : Observations} {now : Instant}

/-- A failed session has a reason to fail. -/
theorem error_build : (build s updates seen now).error =
      (if (build s updates seen now).state = .failed then some (reason s updates seen) else none) ∧
    ((build s updates seen now).state = .failed → reason s updates seen ≠ "") := by
  refine ⟨by simp [build], fun hfailed => ?_⟩
  have hfailing := (StateInputs.state_eq_failed_iff.1 hfailed).2.2
  exact of_decide_eq_true hfailing

theorem resting_build (h : (build s updates seen now).state = .hibernated ∨ s.deleting = true) :
    (build s updates seen now).idle = false ∧ (build s updates seen now).containerCounts = .zero ∧
      (build s updates seen now).initContainerCounts = .zero := by
  have hstate : (build s updates seen now).state = (stateInputs s updates seen).state := rfl
  rw [hstate] at h
  rcases h with h | h
  · simp [build, h]
  · simp [build, h]

/-- There is exactly one record of readiness, with the status that the state asks for. -/
theorem readyStatus_advance (previous : List Condition) (state : SessionState) (declared live : Bool) (now : Instant) :
    ∃ c, (Conditions.advance previous state declared live now).filter (fun c => c.type = .ready) = [c] ∧
      c.status = if state = .running then "True" else "False" := by
  unfold Conditions.advance
  generalize (if previous.isEmpty then Conditions.initial now else previous) = seed
  obtain ⟨a, ha, hstatus⟩ := Conditions.exists_ready_record seed state now
  have hrecord : Conditions.replace (Conditions.latest seed .ready)
      (Conditions.observed state declared live now .ready) = some a := ha
  have htype : a.type = .ready := Conditions.next_type hrecord
  refine ⟨a, ?_, ?_⟩
  · -- the record of the other type is left out, if there is one
    have hother : ∀ b, Conditions.replace (Conditions.latest seed .routingReady)
        (Conditions.observed state declared live now .routingReady) = some b → b.type ≠ .ready := by
      intro b hb heq
      have hrouting : b.type = .routingReady := Conditions.next_type hb
      rw [heq] at hrouting
      cases hrouting
    simp only [Conditions.types, Conditions.observed] at hother ⊢
    simpa [ha, htype] using hother
  · rw [hstatus]
    simp [Conditions.ready, Conditions.ofFlag]

/-- There is exactly one record of readiness, and it says whether the session is running. -/
theorem ready_advance (previous : List Condition) (state : SessionState) (declared live : Bool) (now : Instant) :
    ∃ c, (Conditions.advance previous state declared live now).filter (fun c => c.type = .ready) = [c] ∧
      (c.isTrue = true ↔ state = .running) := by
  obtain ⟨c, hc, hstatus⟩ := readyStatus_advance previous state declared live now
  refine ⟨c, hc, ?_⟩
  rw [Condition.isTrue, hstatus]
  simp

/-- The parts of a status after any succession of steps.  Each timestamp is there while its property holds, and is the
time of the step with which the property began to hold without a break; an error is there, and says something, while the
session is failed; a session that is hibernated or being deleted is not idle and counts no containers; and readiness is
recorded once, as true while the session is running. -/
theorem Succession.lifecycle {v : Step} {older : List Step} (h : Succession (v :: older)) :
    let st := v.status
    let begun := fun P : SessionStatus → Bool => (beginning P (v :: older)).map fun first => first.now.stamp
    (st.failingSince = begun (fun st => st.state = .failed) ∧ (st.failingSince.isSome ↔ st.state = .failed)) ∧
      (st.hibernatedSince = begun (fun st => st.state = .hibernated) ∧
        (st.hibernatedSince.isSome ↔ st.state = .hibernated)) ∧
      (st.idleSince = begun (·.idle) ∧ (st.idleSince.isSome ↔ st.idle = true)) ∧
      ((st.error.isSome ↔ st.state = .failed) ∧ ∀ text, st.error = some text → text ≠ "") ∧
      (st.state = .hibernated ∨ v.session.deleting = true →
        st.idle = false ∧ st.containerCounts = .zero ∧ st.initContainerCounts = .zero) ∧
      ∃ c, st.conditions.filter (fun c => c.type = .ready) = [c] ∧ (c.isTrue = true ↔ st.state = .running) := by
  intro st begun
  obtain ⟨herror, hreason⟩ : st.error = (if st.state = .failed then _ else _) ∧ (st.state = .failed → _) := error_build
  refine ⟨⟨h.since_eq latch_failing, ?_⟩, ⟨h.since_eq latch_hibernated, ?_⟩, ⟨h.since_eq latch_idle, ?_⟩, ⟨?_, ?_⟩,
    resting_build, ready_advance ..⟩
  · rw [h.isSome_since latch_failing, decide_eq_true_eq]
  · rw [h.isSome_since latch_hibernated, decide_eq_true_eq]
  · rw [h.isSome_since latch_idle]
  · rw [herror]
    split <;> simp [*]
  · intro text htext
    rw [herror] at htext
    split at htext
    · rename_i hfailed
      cases htext
      exact hreason hfailed
    · cases htext

/-- What is seen of a session without a pod, of which no child could be read. -/
def Step.unseen (status : Option SessionStatus) (events : List Json) (now : Instant) : Step :=
  let lost := ChildUpdate.failed ⟨.service, .empty⟩ "unreachable"
  ⟨⟨Session.plainMetadata "2024-01-01T00:00:00Z", .plain false .default, status⟩, ⟨lost, lost, none, lost, []⟩,
    ⟨none, events, false⟩, now⟩

/-- A session whose pod cannot be scheduled from the second step on. -/
theorem Succession.lifecycle_unscheduled :
    let failed := [Json.object [("reason", .str "FailedScheduling"), ("message", .str "no node")]]
    let v₁ := Step.unseen none [] (.ofUnix 1728000000)
    let v₂ := Step.unseen (some v₁.status) failed (.ofUnix 1728000060)
    let v₃ := Step.unseen (some v₂.status) failed (.ofUnix 1728000120)
    Succession [v₃, v₂, v₁] ∧ v₃.status.state = .failed ∧ v₃.status.failingSince = some v₂.now.stamp ∧
      v₃.status.error = some "Failed scheduling: no node" := by
  intro failed v₁ v₂ v₃
  have h : Succession [v₃, v₂, v₁] := .next (.next (.first rfl) rfl) rfl
  have hstate : v₁.status.state = .notReady ∧ v₂.status.state = .failed ∧ v₃.status.state = .failed := by
    decide +kernel
  have hsince := (Succession.lifecycle h).1.1
  refine ⟨h, hstate.2.2, ?_, by decide +kernel⟩
  rw [hsince]
  simp [beginning, hstate]

end Status

end SessionOperator
