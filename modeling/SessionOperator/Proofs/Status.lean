import SessionOperator.Pass.Apply

/-!
# The status that a pass computes

* `StateInputs.state_eq_hibernated_iff`, `StateInputs.state_eq_failed_iff`: when a session counts as hibernated, and
  when as failed;
* `Status.failureReason_ne_empty`: when there is a reason to fail;
* `Pass.status_eq`: the status of a pass is that of `Status.build`, the hibernation date apart;
* `Status.latch_eq_some`: a timestamp that is set.
-/

namespace SessionOperator

namespace StateInputs

variable {i : StateInputs}

theorem state_eq_hibernated_iff :
    i.state = .hibernated ↔ i.deleting = false ∧ i.hibernationRequested = true ∧ i.replicaTarget = some 0 := by
  unfold state
  cases i.deleting with
  | true => simp
  | false =>
    by_cases h : i.hibernationRequested = true ∧ i.replicaTarget = some 0
    · simp [h]
    · simp only [h, Bool.false_eq_true, if_false, true_and, iff_false]
      repeat' split
      all_goals simp

theorem state_eq_failed_iff :
    i.state = .failed ↔ i.deleting = false ∧ ¬(i.hibernationRequested = true ∧ i.replicaTarget = some 0) ∧
      i.failing = true := by
  unfold state
  cases i.deleting with
  | true => simp
  | false =>
    by_cases h : i.hibernationRequested = true ∧ i.replicaTarget = some 0
    · simp [h]
    · cases i.failing with
      | true => simp [h]
      | false =>
        simp only [h, Bool.false_eq_true, if_false, and_false, iff_false]
        repeat' split
        all_goals simp

end StateInputs

namespace Status

theorem failureReason_ne_empty {updates : ChildUpdates} {seen : Observations} :
    failureReason updates seen ≠ "" ↔ ∃ reason ∈ failureReasons updates seen, reason ≠ "" := by
  unfold failureReason
  cases hfound : (failureReasons updates seen).find? fun reason => reason ≠ "" with
  | none =>
    have hnone : ∀ reason ∈ failureReasons updates seen, ¬reason ≠ "" := by simpa using List.find?_eq_none.1 hfound
    exact iff_of_false (fun h => h rfl) fun ⟨reason, hmem, hne⟩ => hnone reason hmem hne
  | some reason =>
    have hne : reason ≠ "" := by simpa using List.find?_some hfound
    exact iff_of_true hne ⟨reason, List.mem_of_find?_eq_some hfound, hne⟩

theorem latch_eq_some {active : Bool} {since : Option String} {now : Instant} {text : String}
    (h : latch active since now = some text) : active = true ∧ text = since.getD now.stamp := by
  unfold latch at h
  split at h
  · rename_i hactive
    exact ⟨hactive, (Option.some.inj h).symm⟩
  · cases h

end Status

namespace Pass

variable {s : Session} {policy : CullingPolicy} {updates : ChildUpdates} {seen : Observations} {now : Instant}

theorem status_eq (s : Session) (policy : CullingPolicy) (updates : ChildUpdates) (seen : Observations)
    (now : Instant) : ∃ date, status s policy updates seen now =
      { Status.build s updates seen now with willHibernateAt := date } := by
  by_cases h : (Status.build s updates seen now).state ≠ .hibernated ∧ !s.spec.hibernated
  · exact ⟨_, if_pos h⟩
  · exact ⟨none, if_neg h⟩

theorem status_state : (status s policy updates seen now).state = (Status.stateInputs s updates seen).state := by
  obtain ⟨date, heq⟩ := status_eq s policy updates seen now
  rw [heq]
  rfl

/-- A session that is to run never counts as hibernated. -/
theorem hibernated_of_state (h : (status s policy updates seen now).state = .hibernated) :
    s.spec.hibernated = true :=
  (StateInputs.state_eq_hibernated_iff.1 (status_state.symm.trans h)).2.1

/-- Nor is it ever to be deleted. -/
theorem needsDeletion_eq_false (policy' : CullingPolicy) (later : Instant) (hrun : s.spec.hibernated = false) :
    policy'.needsDeletion later (status s policy updates seen now) = false := by
  rw [Bool.eq_false_iff]
  intro hdelete
  rw [CullingPolicy.needsDeletion, Bool.and_eq_true, decide_eq_true_eq] at hdelete
  rw [hibernated_of_state hdelete.1] at hrun
  cases hrun

end Pass

end SessionOperator
