import SessionOperator.Proofs.Status.Lifecycle

/-!
# Pods that are being deleted

A pod that is being deleted counts as no pod: its containers are not counted and give no reason to fail.  Its events
are read all the same, so a pod that could not be scheduled makes the session fail until it is gone.

* `Status.build_of_reason`: what a status depends on besides the reason to fail;
* `Status.build_of_deleting`: the status with a pod that is being deleted is the status without a pod;
* `Status.deleted_pod_ignored_iff`: when it is the status without a pod and without events.
-/

namespace SessionOperator

namespace Status

variable {s : Session} {updates : ChildUpdates} {seen seen' : Observations} {now : Instant} {pod : Json}
  {events : List Json} {idle : Bool}

/-! ### What a status depends on -/

theorem build_of_state (hpod : livePod seen = livePod seen') (hidle : seen.idle = seen'.idle)
    (hstate : (stateInputs s updates seen).state = (stateInputs s updates seen').state)
    (hreason : (stateInputs s updates seen').state = .failed → reason s updates seen = reason s updates seen') :
    build s updates seen now = build s updates seen' now := by
  have herror : (if (stateInputs s updates seen').state = .failed then some (reason s updates seen) else none) =
      if (stateInputs s updates seen').state = .failed then some (reason s updates seen') else none := by
    split
    · rename_i hfailed
      rw [hreason hfailed]
    · rfl
  simp only [build, hpod, hidle, hstate, herror]

/-- Besides the reason to fail a status depends on the live pod and on idleness only. -/
theorem build_of_reason (hpod : livePod seen = livePod seen') (hidle : seen.idle = seen'.idle)
    (hreason : reason s updates seen = reason s updates seen') :
    build s updates seen now = build s updates seen' now := by
  have hinputs : stateInputs s updates seen = stateInputs s updates seen' := by
    simp only [stateInputs, hreason, hpod]
  exact build_of_state hpod hidle (by rw [hinputs]) fun _ => hreason

/-! ### The pod -/

theorem livePod_of_deleting (h : Diagnosis.isDeleting pod = true) : livePod ⟨some pod, events, idle⟩ = none := by
  simp [livePod, h]

theorem failureReason_of_deleting (h : Diagnosis.isDeleting pod = true) :
    failureReason updates ⟨some pod, events, idle⟩ = failureReason updates ⟨none, events, idle⟩ := by
  have hpod : Diagnosis.pod pod = "" := if_pos h
  simp [failureReason, failureReasons, hpod]

/-- With a pod that is being deleted the status is the one without a pod. -/
theorem build_of_deleting (h : Diagnosis.isDeleting pod = true) :
    build s updates ⟨some pod, events, idle⟩ now = build s updates ⟨none, events, idle⟩ now := by
  refine build_of_reason (livePod_of_deleting h) rfl ?_
  rw [reason, reason, failureReason_of_deleting h]

/-! ### The events -/

/-- Without a pod the events come first. -/
theorem failureReason_of_events : failureReason updates ⟨none, events, idle⟩ =
    if Diagnosis.scheduling events = "" then failureReason updates ⟨none, [], idle⟩
    else Diagnosis.scheduling events := by
  have hnil : Diagnosis.scheduling [] = "" := rfl
  by_cases hevents : Diagnosis.scheduling events = ""
  · simp [failureReason, failureReasons, hevents, hnil]
  · simp [failureReason, failureReasons, hevents]

/-- A session that is neither being deleted nor asleep fails when its events say so. -/
theorem error_of_events (hlive : s.deleting = false)
    (hawake : ¬(s.spec.hibernated = true ∧ updates.replicaTarget = some 0))
    (hevents : Diagnosis.scheduling events ≠ "") :
    (build s updates ⟨none, events, idle⟩ now).error = some (Diagnosis.scheduling events) := by
  have hreason : reason s updates ⟨none, events, idle⟩ = Diagnosis.scheduling events := by
    rw [reason, hlive, if_neg (by simp), failureReason_of_events, if_neg hevents]
  have hfailed : (build s updates ⟨none, events, idle⟩ now).state = .failed := by
    refine StateInputs.state_eq_failed_iff.2 ⟨hlive, hawake, ?_⟩
    simp only [stateInputs, hreason]
    exact decide_eq_true hevents
  rw [error_build.1, if_pos hfailed, hreason]

/-- With a pod that is being deleted the status is the one without a pod, but it may depend on the events.  It is the
one without events exactly if the events give no reason to fail, if the session is being deleted or asleep, or if a
claim or a route gives the very same reason. -/
theorem deleted_pod_ignored_iff (h : Diagnosis.isDeleting pod = true) :
    build s updates ⟨some pod, events, idle⟩ now = build s updates ⟨none, events, idle⟩ now ∧
      (build s updates ⟨some pod, events, idle⟩ now = build s updates ⟨none, [], idle⟩ now ↔
        Diagnosis.scheduling events = "" ∨ s.deleting = true ∨
          (s.spec.hibernated = true ∧ updates.replicaTarget = some 0) ∨
          failureReason updates ⟨none, [], idle⟩ = Diagnosis.scheduling events) := by
  refine ⟨build_of_deleting h, ?_⟩
  rw [build_of_deleting h]
  constructor
  · intro hsame
    by_contra hother
    simp only [not_or] at hother
    obtain ⟨hevents, hlive, hawake, hdifferent⟩ := hother
    rw [Bool.not_eq_true] at hlive
    have herror : (build s updates ⟨none, events, idle⟩ now).error = some (Diagnosis.scheduling events) :=
      error_of_events hlive hawake hevents
    -- without the events the session would have to fail for the same reason
    rw [hsame, error_build.1] at herror
    split at herror
    · have hreason : reason s updates ⟨none, [], idle⟩ = failureReason updates ⟨none, [], idle⟩ := by
        rw [reason, hlive, if_neg (by simp)]
      rw [hreason] at herror
      exact hdifferent (Option.some.inj herror)
    · cases herror
  · intro hcases
    by_cases hlive : s.deleting = true
    · refine build_of_reason rfl rfl ?_
      rw [reason, reason, if_pos hlive, if_pos hlive]
    · by_cases hasleep : s.spec.hibernated = true ∧ updates.replicaTarget = some 0
      · have hstate : ∀ seen, (stateInputs s updates seen).state = .hibernated := fun seen =>
          StateInputs.state_eq_hibernated_iff.2 ⟨Bool.eq_false_iff.2 hlive, hasleep⟩
        refine build_of_state rfl rfl (by rw [hstate, hstate]) ?_
        intro hfailed
        rw [hstate] at hfailed
        cases hfailed
      · refine build_of_reason rfl rfl ?_
        rw [reason, reason, if_neg hlive, if_neg hlive, failureReason_of_events]
        rcases hcases with hevents | hdeleting | hhibernated | hreason
        · rw [if_pos hevents]
        · exact absurd hdeleting hlive
        · exact absurd hhibernated hasleep
        · rw [hreason, ite_self]

/-- A pod that was scheduled in the end and whose container keeps crashing. -/
theorem deleted_pod_ignored_scheduled :
    let v := Step.unseen none [] (.ofUnix 1728000000)
    let pod := Json.object [("metadata", .object [("deletionTimestamp", .str "2024-10-04T00:00:00Z")]),
      ("status", .object [("phase", .str "Running"), ("containerStatuses", .arr [.object [("name", .str "session"),
        ("state", .object [("waiting", .object [("reason", .str "CrashLoopBackOff")])])]])])]
    let events := [Json.object [("reason", .str "FailedScheduling"), ("message", .str "no node")],
      .object [("reason", .str "Scheduled")]]
    Diagnosis.isDeleting pod = true ∧ Diagnosis.scheduling events = "" ∧
      build v.session v.updates ⟨some pod, events, true⟩ v.now = build v.session v.updates ⟨none, [], true⟩ v.now := by
  intro v pod events
  have hdeleting : Diagnosis.isDeleting pod = true := by decide +kernel
  have hevents : Diagnosis.scheduling events = "" := by decide +kernel
  exact ⟨hdeleting, hevents, (deleted_pod_ignored_iff hdeleting).2.2 (.inl hevents)⟩

/-- A pod that could not be scheduled: the session fails while it is being deleted, and would not without it. -/
theorem deleted_pod_still_fails :
    let v := Step.unseen none [] (.ofUnix 1728000000)
    let pod := Json.object [("metadata", .object [("deletionTimestamp", .str "2024-10-04T00:00:00Z")]),
      ("status", .object [("phase", .str "Pending")])]
    let events := [Json.object [("reason", .str "FailedScheduling"), ("message", .str "no node")]]
    let st := build v.session v.updates ⟨some pod, events, false⟩ v.now
    let st' := build v.session v.updates ⟨none, [], false⟩ v.now
    Diagnosis.isDeleting pod = true ∧ st.state = .failed ∧ st.error = some "Failed scheduling: no node" ∧
      st'.state = .notReady ∧ st'.error = none ∧ st ≠ st' := by
  intro v pod events st st'
  have hstate : st.state = .failed := by decide +kernel
  have hstate' : st'.state = .notReady := by decide +kernel
  refine ⟨by decide +kernel, hstate, by decide +kernel, hstate', by decide +kernel, ?_⟩
  intro hsame
  rw [hsame, hstate'] at hstate
  cases hstate

end Status

end SessionOperator
