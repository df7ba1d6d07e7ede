import SessionOperator.Proofs.Pass.Cleanup
import SessionOperator.Proofs.Status.Lifecycle

/-!
# The last status of a session

The status of a session that is being deleted says that it is not ready, and nothing of what was going on before.  A
pass builds such a status anew.  A cleanup changes the one on record instead and leaves some fields as they are, so
that what stands there afterwards depends on what was going on.

* `SessionStatus.Departing`: what is said of a session that is being deleted; `Status.departing_build`: a pass says it;
* `Pass.Cleaning.recorded`: what stands on record after a cleanup;
* `Pass.parted_departing_iff`, `Pass.recorded_after_cleanup`: when it says the same as after a pass.
-/

namespace SessionOperator

open Program

/-- The session is recorded as ready. -/
def SessionStatus.IsReady (st : SessionStatus) : Prop := ∃ c ∈ st.conditions, c.type = .ready ∧ c.isTrue = true

/-- What a status says of a session that is being deleted. -/
structure SessionStatus.Departing (st : SessionStatus) : Prop where
  state : st.state = .notReady
  containerCounts : st.containerCounts = .zero
  initContainerCounts : st.initContainerCounts = .zero
  idle : st.idle = false
  idleSince : st.idleSince = none
  failingSince : st.failingSince = none
  hibernatedSince : st.hibernatedSince = none
  error : st.error = none
  willHibernateAt : st.willHibernateAt = none
  notReady : ¬st.IsReady

namespace Status

variable {s : Session} {updates : ChildUpdates} {seen : Observations} {now : Instant}

theorem latch_eq_none_iff {active : Bool} {since : Option String} : latch active since now = none ↔ active = false := by
  unfold latch
  cases active <;> simp

/-! ### What a pass says -/

/-- A timestamp is absent exactly when its property does not hold. -/
theorem Latch.eq_none_iff {P : SessionStatus → Bool} {since : SessionStatus → Option String} (h : Latch P since) :
    since (build s updates seen now) = none ↔ P (build s updates seen now) = false := by
  rw [h.built, latch_eq_none_iff]

theorem error_build_eq_none_iff :
    (build s updates seen now).error = none ↔ (build s updates seen now).state ≠ .failed := by
  rw [error_build.1]
  split <;> simp [*]

theorem isReady_build_iff : (build s updates seen now).IsReady ↔ (build s updates seen now).state = .running := by
  have hconditions : (build s updates seen now).conditions = Conditions.advance s.recorded.conditions
    (build s updates seen now).state s.spec.ingress.isSome updates.ingress?.isSome now := rfl
  rw [SessionStatus.IsReady, hconditions]
  obtain ⟨a, hfilter, htrue⟩ := ready_advance s.recorded.conditions (build s updates seen now).state
    s.spec.ingress.isSome updates.ingress?.isSome now
  rw [← htrue]
  constructor
  · rintro ⟨c, hc, htype, hready⟩
    -- the record of readiness is the only one of its type
    have hmem : c ∈ [a] := by
      rw [← hfilter, List.mem_filter]
      exact ⟨hc, decide_eq_true htype⟩
    rw [List.mem_singleton] at hmem
    rwa [hmem] at hready
  · intro hready
    have hmem : a ∈ [a] := List.mem_singleton.2 rfl
    rw [← hfilter, List.mem_filter, decide_eq_true_eq] at hmem
    exact ⟨a, hmem.1, hmem.2, hready⟩

theorem departing_build (h : s.deleting = true) : (build s updates seen now).Departing := by
  have hstate : (build s updates seen now).state = .notReady := if_pos h
  obtain ⟨hidle, hcounts, hinit⟩ := resting_build (.inr h)
  refine ⟨hstate, hcounts, hinit, hidle, latch_idle.eq_none_iff.2 hidle, ?_, ?_, ?_, rfl, ?_⟩
  · exact latch_failing.eq_none_iff.2 (by simp [hstate])
  · exact latch_hibernated.eq_none_iff.2 (by simp [hstate])
  · exact error_build_eq_none_iff.2 (by simp [hstate])
  · rw [isReady_build_iff, hstate]
    simp

end Status

namespace Pass

variable {s s₀ : Session} {updates : ChildUpdates} {seen : Observations} {now : Instant} {date : Option String}
  {calls : List clusterInterface.Call} {outcome : Outcome}

/-! ### What a cleanup leaves -/

/-- A status that a pass has built says after a cleanup what it should say exactly if the session was neither idle nor
failed nor hibernated nor running. -/
theorem parted_departing_iff :
    (parted { Status.build s₀ updates seen now with willHibernateAt := date }).Departing ↔
      (Status.build s₀ updates seen now).idle = false ∧
        ((Status.build s₀ updates seen now).state = .notReady ∨
          (Status.build s₀ updates seen now).state = .runningDegraded) := by
  generalize hst : Status.build s₀ updates seen now = st
  have hidle : st.idleSince = none ↔ st.idle = false := hst ▸ Status.latch_idle.eq_none_iff
  have hfailing : st.failingSince = none ↔ decide (st.state = .failed) = false :=
    hst ▸ Status.latch_failing.eq_none_iff
  have hhibernated : st.hibernatedSince = none ↔ decide (st.state = .hibernated) = false :=
    hst ▸ Status.latch_hibernated.eq_none_iff
  rw [decide_eq_false_iff_not] at hfailing hhibernated
  have herror : st.error = none ↔ st.state ≠ .failed := hst ▸ Status.error_build_eq_none_iff
  have hready : st.IsReady ↔ st.state = .running := hst ▸ Status.isReady_build_iff
  constructor
  · intro h
    refine ⟨hidle.1 h.idleSince, ?_⟩
    have hnotFailed := hfailing.1 h.failingSince
    have hnotHibernated := hhibernated.1 h.hibernatedSince
    have hnotRunning : st.state ≠ .running := fun hrunning => h.notReady (hready.2 hrunning)
    cases hstate : st.state with
    | notReady => exact .inl rfl
    | runningDegraded => exact .inr rfl
    | running => exact absurd hstate hnotRunning
    | failed => exact absurd hstate hnotFailed
    | hibernated => exact absurd hstate hnotHibernated
  · rintro ⟨hnotIdle, hstate⟩
    have hother : ∀ state, state ≠ .notReady → state ≠ .runningDegraded → st.state ≠ state := by
      rintro state h h' rfl
      exact hstate.elim h h'
    exact {
      state := rfl
      containerCounts := rfl
      initContainerCounts := rfl
      idle := rfl
      idleSince := hidle.2 hnotIdle
      failingSince := hfailing.2 (hother _ (by simp) (by simp))
      hibernatedSince := hhibernated.2 (hother _ (by simp) (by simp))
      error := herror.2 (hother _ (by simp) (by simp))
      willHibernateAt := rfl
      notReady := fun h => hother _ (by simp) (by simp) (hready.1 h) }

/-- Once its status was taken, a cleanup has the changed status on record, whether it had to be written or not. -/
theorem Cleaning.recorded (h : Cleaning s calls outcome) (hreported : Reported calls) {st : SessionStatus}
    (hstatus : s.status = some st) : calls.foldl statusAfter s.status = some (parted st) := by
  have hrecorded : s.recorded = st := by rw [Session.recorded, hstatus, Option.getD_some]
  obtain ⟨deletions, rfl, hquestions⟩ := (h.clearance hreported).deletions
  have hparting : (parting s).foldl statusAfter s.status = some (parted st) := by
    unfold parting
    rw [hrecorded]
    split
    · rename_i hsame
      rw [hsame]
      exact hstatus
    · rfl
  have hdeletions : ∀ status, deletions.foldl statusAfter status = status := fun status => by
    refine List.foldlRecOn deletions statusAfter (motive := fun later => later = status) rfl
      fun later hlater call hcall => ?_
    obtain ⟨name, -, hname⟩ := exists_of_mem_deletions hquestions hcall
    obtain ⟨question, answer⟩ := call
    obtain rfl : question = .deleteSecret name := hname
    exact hlater
  rw [List.foldl_append, hparting, hdeletions]

/-- What stands on record after a cleanup of a status that a pass has built.  State, counts, idleness and the date of
the next hibernation are as they should be; the other fields are as they were. -/
theorem recorded_after_cleanup
    (hstatus : s.status = some { Status.build s₀ updates seen now with willHibernateAt := date })
    (hsaid : (cleanup s).Conversation calls outcome) (hreported : Reported calls) :
    ∃ st, calls.foldl statusAfter s.status = some st ∧
      (st.state = .notReady ∧ st.containerCounts = .zero ∧ st.initContainerCounts = .zero ∧ st.idle = false ∧
        st.willHibernateAt = none) ∧
      (st.Departing ↔ (Status.build s₀ updates seen now).idle = false ∧
        ((Status.build s₀ updates seen now).state = .notReady ∨
          (Status.build s₀ updates seen now).state = .runningDegraded)) :=
  ⟨_, (cleanup_conversation.1 hsaid).recorded hreported hstatus, ⟨rfl, rfl, rfl, rfl, rfl⟩, parted_departing_iff⟩

/-! ### A session that is deleted while something goes on -/

/-- A plain session that is being deleted. -/
def leaving (status : SessionStatus) : Session where
  metadata := .object [("creationTimestamp", .str "2024-01-01T00:00:00Z"),
    ("deletionTimestamp", .str "2024-10-04T00:05:00Z"), ("name", .str "plain"), ("uid", .str "1")]
  spec := .plain false .default
  status := some status

/-- The status of a session without a pod, about which there are some events. -/
def eventful (events : List Json) : SessionStatus := (Status.Step.unseen none events (.ofUnix 1728000000)).status

/-- A session that was about to be started. -/
theorem recorded_after_cleanup_pending :
    let s := leaving { eventful [] with willHibernateAt := some "2024-10-04T01:00:00Z" }
    let calls : List clusterInterface.Call := [⟨.patchStatus "plain" (eventful []), .ok ()⟩]
    s.deleting = true ∧ (cleanup s).Conversation calls (.ok .onChange) ∧ Reported calls ∧
      ∃ st, calls.foldl statusAfter s.status = some st ∧ st.Departing := by
  intro s calls
  have hsaid : (cleanup s).Conversation calls (.ok .onChange) :=
    cleanup_conversation.2 (.reported [] (by decide +kernel))
  have hreported : Reported calls := by
    intro call hcall name st hstatus
    rw [List.mem_singleton.1 hcall]
    rfl
  obtain ⟨st, hst, -, hdeparting⟩ := recorded_after_cleanup rfl hsaid hreported
  exact ⟨by decide, hsaid, hreported, st, hst, hdeparting.2 (by decide +kernel)⟩

/-- A session whose pod could not be scheduled: after the cleanup it stands recorded as not ready, and still as failing
since then, with the error. -/
theorem recorded_after_cleanup_failed :
    let failed := eventful [.object [("reason", .str "FailedScheduling"), ("message", .str "no node")]]
    let s := leaving failed
    let calls : List clusterInterface.Call := [⟨.patchStatus "plain" (parted failed), .ok ()⟩]
    s.deleting = true ∧ (cleanup s).Conversation calls (.ok .onChange) ∧ Reported calls ∧
      ∃ st, calls.foldl statusAfter s.status = some st ∧ st.failingSince = some "2024-10-04T00:00:00Z" ∧
        st.error = some "Failed scheduling: no node" ∧ ¬st.Departing := by
  intro failed s calls
  refine ⟨by decide, cleanup_conversation.2 (.reported [] (by decide +kernel)), ?_, parted failed, rfl,
    by decide +kernel, by decide +kernel, fun h => ?_⟩
  · intro call hcall name st hstatus
    rw [List.mem_singleton.1 hcall]
    rfl
  · have hsince : (parted failed).failingSince = some "2024-10-04T00:00:00Z" := by decide +kernel
    rw [h.failingSince] at hsince
    cases hsince

end Pass

end SessionOperator
