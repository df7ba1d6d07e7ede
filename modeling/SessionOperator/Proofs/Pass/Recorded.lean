import SessionOperator.Proofs.Pass.Cleanup
import SessionOperator.Proofs.Pass.Conduct
import SessionOperator.Proofs.Session.Recording

/-!
# What passes put on record

A status is read as it was written if its counts are numbers of 32 bits.  Counts of containers do not go beyond them,
and the counts of a session that sleeps or goes away are zero.  So whatever status a pass or a cleanup records is read
as it was written.

* `Pod.isInt32_count`, `Status.isInt32_build`, `Pass.isInt32_parted`: the counts of statuses;
* `Pass.isInt32_of_apply`, `Pass.isInt32_of_cleanup`: the statuses that are recorded;
* `Pass.recorded_reads_back`: they are read as they were written.
-/

namespace SessionOperator

theorem Pod.isInt32_count (statuses : List Json) (ready : Json → Bool) : (count statuses ready).IsInt32 := by
  have hrange : ∀ n : Nat, -Int.pow 2 31 ≤ ((min n largestCount : Nat) : Int) ∧
      ((min n largestCount : Nat) : Int) < Int.pow 2 31 := by
    intro n
    have hle : min n largestCount ≤ largestCount := Nat.min_le_right ..
    have hpow : Int.pow 2 31 = largestCount + 1 := rfl
    omega
  exact ⟨hrange _, hrange _⟩

theorem Status.isInt32_build (s : Session) (updates : ChildUpdates) (seen : Observations) (now : Instant) :
    (build s updates seen now).IsInt32 := by
  have hcounts : ∀ (asleep : Bool) (c : ContainerCounts), c.IsInt32 → (if asleep then .zero else c).IsInt32 := by
    intro asleep c hc
    cases asleep with
    | true => exact ContainerCounts.isInt32_zero
    | false => exact hc
  exact ⟨hcounts _ _ (Pod.isInt32_count ..), hcounts _ _ (Pod.isInt32_count ..)⟩

namespace Pass

open Program

variable {s : Session} {config : Config} {now : Instant} {calls : List clusterInterface.Call} {outcome : Outcome}
  {st : SessionStatus} {schedule : ChildSet.Schedule}

theorem isInt32_status (s : Session) (policy : CullingPolicy) (updates : ChildUpdates) (seen : Observations)
    (now : Instant) : (status s policy updates seen now).IsInt32 := by
  obtain ⟨date, heq⟩ := status_eq s policy updates seen now
  obtain ⟨hmain, hinit⟩ := Status.isInt32_build s updates seen now
  rw [heq]
  exact ⟨hmain, hinit⟩

theorem isInt32_parted (st : SessionStatus) : (parted st).IsInt32 :=
  ⟨ContainerCounts.isInt32_zero, ContainerCounts.isInt32_zero⟩

/-- Some call asks for a status to be recorded. -/
def Records (calls : List clusterInterface.Call) (st : SessionStatus) : Prop :=
  ∃ call ∈ calls, ∃ name, call.question = Request.patchStatus name st

theorem isInt32_of_apply (h : (applyBy schedule.reconcile s config now).Conversation calls outcome)
    (hst : Records calls st) : st.IsInt32 := by
  obtain ⟨call, hcall, name, hname⟩ := hst
  rcases applyBy_ending h with
    ⟨-, -, -, rfl⟩ | ⟨plan, updates, sighting, opening, rest, -, -, rfl, hopening, hending⟩
  · cases hcall
  · -- the one status that a pass records is the one that it computes
    have hmem : call.question ∈ ((opening ++ rest).map (·.question)).filter Request.isRecording :=
      List.mem_filter.2 ⟨List.mem_map_of_mem hcall, by rw [hname]; rfl⟩
    rw [(hopening.conduct hending hibernated_of_state).records, hname] at hmem
    split at hmem
    · cases hmem
    · obtain ⟨-, rfl⟩ := Request.patchStatus.inj (List.mem_singleton.1 hmem)
      exact isInt32_status ..

theorem isInt32_of_cleanup (h : (cleanup s).Conversation calls outcome) (hst : Records calls st) : st.IsInt32 := by
  obtain ⟨call, hcall, name, hname⟩ := hst
  rcases (cleanup_conversation.1 h).question_cases hcall with hquestion | ⟨secret, -, hquestion⟩
  · obtain ⟨-, rfl⟩ := Request.patchStatus.inj (hname.symm.trans hquestion)
    exact isInt32_parted _
  · cases hname.symm.trans hquestion

/-- Whatever a pass or a cleanup records, by any schedule and with any answers, is read as it was written, whatever has
been recorded before. -/
theorem recorded_reads_back (h : (applyBy schedule.reconcile s config now).Conversation calls outcome ∨
      (cleanup s).Conversation calls outcome) (hst : Records calls st) (recorded : Json) :
    SessionStatus.decode (recorded.mergePatch st.encode) = .ok st := by
  have hint32 : st.IsInt32 := h.elim (fun h => isInt32_of_apply h hst) fun h => isInt32_of_cleanup h hst
  exact SessionStatus.decode_mergePatch hint32 recorded

end Pass

end SessionOperator
