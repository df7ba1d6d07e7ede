import SessionOperator.Proofs.Status.Lifecycle

/-!
# Ready pods do not fail

Whether a pod is ready and whether it fails are both read off its container statuses, each by rules of its own.  The
rules agree as long as a container is in one state at a time: a container that counts as ready, be it an init container
or a main one, gives no reason to fail.  What is read off the counts of a pod holds as long as its containers can be
counted.

* `Pod.containerStates`: the states that a container status reports;
* `Pod.allReady_count_iff`: what the counts say of the containers;
* `Diagnosis.container_of_initReady`, `Diagnosis.container_of_ready`: ready containers do not fail;
* `Diagnosis.pod_of_isReady`: nor do ready pods;
* `Status.ready_pod_healthy`: nor do sessions because of them.
-/

namespace SessionOperator

namespace Pod

variable {status : Json} {statuses : List Json} {ready : Json → Bool}

def stateNames : List String := ["waiting", "running", "terminated"]

/-- The states that a container status reports; a container is in one of them at a time. -/
def containerStates (status : Json) : List String :=
  stateNames.filter fun state => (status.path? ["state", state]).isSome

/-- A container that is in one state is in no other. -/
theorem other_state_eq_none {state other : String} (hone : (containerStates status).length ≤ 1)
    (hstate : state ∈ stateNames) (hother : other ∈ stateNames) (hne : other ≠ state)
    (h : (status.path? ["state", state]).isSome = true) : status.path? ["state", other] = none := by
  by_contra hreported
  rw [← ne_eq, ← Option.isSome_iff_ne_none] at hreported
  have hmem : state ∈ containerStates status := List.mem_filter.2 ⟨hstate, h⟩
  have hmem' : other ∈ containerStates status := List.mem_filter.2 ⟨hother, hreported⟩
  obtain ⟨only, honly⟩ := List.length_eq_one_iff.1 (Nat.le_antisymm hone (List.length_pos_of_mem hmem))
  rw [honly, List.mem_singleton] at hmem hmem'
  exact hne (hmem'.trans hmem.symm)

/-- All containers count as ready exactly if each of them is, or if at least as many are as can be counted. -/
theorem allReady_count_iff : (count statuses ready).allReady = true ↔
    (∀ status ∈ statuses, ready status = true) ∨ largestCount ≤ (statuses.filter ready).length := by
  have hlength : (statuses.filter ready).length = statuses.length ↔ ∀ status ∈ statuses, ready status = true :=
    List.length_filter_eq_length_iff
  have hle : (statuses.filter ready).length ≤ statuses.length := List.length_filter_le ..
  rw [← hlength, ContainerCounts.allReady, decide_eq_true_eq]
  simp only [count]
  omega

/-- Of containers that can be counted each one is ready if all count as ready. -/
theorem ready_of_allReady_count (hcounted : statuses.length ≤ largestCount)
    (h : (count statuses ready).allReady = true) : ∀ status ∈ statuses, ready status = true := by
  rcases allReady_count_iff.1 h with hall | hmany
  · exact hall
  · have hle : (statuses.filter ready).length ≤ statuses.length := List.length_filter_le ..
    exact List.length_filter_eq_length_iff.1 (Nat.le_antisymm hle (hcounted.trans hmany))

end Pod

namespace Diagnosis

open Pod

variable {status pod : Json}

/-! ### Containers -/

/-- A container fails only by waiting or by having ended badly. -/
theorem container_eq_none (hwaiting : status.path? ["state", "waiting"] = none)
    (hended : ∀ t, terminated? status = some t → exitCode t = 0) : container status = none := by
  unfold container
  split
  · rfl
  · cases hstate : status.get? "state" with
    | none => rfl
    | some state =>
      have hpath : ∀ key, status.path? ["state", key] = state.get? key := by
        intro key
        rw [Json.path?, hstate, Option.bind_some, Json.path?]
        cases state.get? key <;> rfl
      rw [hpath] at hwaiting
      rw [Option.bind_some, hwaiting]
      cases hterminated : state.get? "terminated" with
      | none => rfl
      | some t =>
        have hcode : exitCode t = 0 := hended t (by rw [terminated?, hpath, hterminated])
        exact if_pos hcode

/-- A container that has ended with code zero does not fail. -/
theorem container_of_completed {t : Json} (hone : (containerStates status).length ≤ 1)
    (hterminated : terminated? status = some t) (hcode : t.number? "exitCode" = some 0) : container status = none := by
  have hstate : (status.path? ["state", "terminated"]).isSome = true := by
    rw [← terminated?, hterminated]
    rfl
  have hwaiting := other_state_eq_none hone (by decide) (by decide) (by decide : "waiting" ≠ "terminated") hstate
  refine container_eq_none hwaiting ?_
  intro t' ht'
  rw [hterminated] at ht'
  cases ht'
  rw [exitCode, hcode, Option.getD_some]

theorem container_of_initReady (hone : (containerStates status).length ≤ 1)
    (hready : initContainerReady status = true) : container status = none := by
  unfold initContainerReady at hready
  obtain ⟨t, hterminated, hcompleted⟩ := (Option.any_eq_true _ _).1 hready
  rw [Bool.and_eq_true, decide_eq_true_eq] at hcompleted
  exact container_of_completed hone hterminated hcompleted.1

theorem container_of_ready (hone : (containerStates status).length ≤ 1) (hready : containerReady status = true) :
    container status = none := by
  unfold containerReady at hready
  rw [Bool.or_eq_true, Bool.and_eq_true] at hready
  rcases hready with ⟨-, hrunning⟩ | hended
  · have hwaiting := other_state_eq_none hone (by decide) (by decide) (by decide : "waiting" ≠ "running") hrunning
    have hended := other_state_eq_none hone (by decide) (by decide) (by decide : "terminated" ≠ "running") hrunning
    refine container_eq_none hwaiting ?_
    intro t ht
    rw [terminated?, hended] at ht
    cases ht
  · obtain ⟨t, hterminated, hcode⟩ := (Option.any_eq_true _ _).1 hended
    exact container_of_completed hone hterminated (of_decide_eq_true hcode)

/-! ### Pods -/

section

variable (hinit : ((statusOf (some pod)).list "initContainerStatuses").length < 2 ^ 31)
  (hmain : ((statusOf (some pod)).list "containerStatuses").length < 2 ^ 31)
  (hone : ∀ c ∈ containerStatuses (statusOf (some pod)), (containerStates c).length ≤ 1) (hready : isReady pod = true)
include hinit hmain hone hready

/-- No container of a ready pod fails. -/
theorem findSome?_container_of_isReady : (containerStatuses (statusOf (some pod))).findSome? container = none := by
  unfold isReady initCounts mainCounts at hready
  rw [Bool.and_eq_true, Bool.and_eq_true] at hready
  obtain ⟨⟨-, hinitCounts⟩, hmainCounts⟩ := hready
  have hlargest : 2 ^ 31 = largestCount + 1 := rfl
  have hinitReady := ready_of_allReady_count (by omega) hinitCounts
  have hmainReady := ready_of_allReady_count (by omega) hmainCounts
  rw [List.findSome?_eq_none_iff]
  intro c hc
  rcases List.mem_append.1 hc with hmem | hmem
  · exact container_of_initReady (hone c hc) (hinitReady c hmem)
  · exact container_of_ready (hone c hc) (hmainReady c hmem)

theorem pod_of_isReady (hundisrupted : ∀ c ∈ (statusOf (some pod)).list "conditions", isDisruption c = false) :
    Diagnosis.pod pod = "" := by
  have hcontainers := findSome?_container_of_isReady hinit hmain hone hready
  have hconditions : ((statusOf (some pod)).list "conditions").find? isDisruption = none := by
    rw [List.find?_eq_none]
    intro c hc
    simp [hundisrupted c hc]
  unfold Diagnosis.pod
  split
  · rfl
  · cases hstatus : pod.get? "status" with
    | none => rfl
    | some status =>
      have heq : statusOf (some pod) = status := by
        rw [statusOf, Option.bind_some, hstatus, Option.getD_some]
      rw [heq] at hcontainers hconditions
      simp [hcontainers, hconditions]

end

end Diagnosis

namespace Status

/-- A pod that is ready, of which each container is in one state and which is no target of a disruption, gives no reason
to fail.  So with such a pod a session does not fail, unless its events, its claims or its routes give a reason.  The
containers of each sort are fewer than 2 ^ 31, so that the counts, from which readiness is told, are exact. -/
theorem ready_pod_healthy {pod : Json}
    (hinit : ((Pod.statusOf (some pod)).list "initContainerStatuses").length < 2 ^ 31)
    (hmain : ((Pod.statusOf (some pod)).list "containerStatuses").length < 2 ^ 31)
    (hundisrupted : ∀ c ∈ (Pod.statusOf (some pod)).list "conditions", Diagnosis.isDisruption c = false)
    (hone : ∀ c ∈ Diagnosis.containerStatuses (Pod.statusOf (some pod)), (Pod.containerStates c).length ≤ 1)
    (hready : Pod.isReady pod = true) :
    Diagnosis.pod pod = "" ∧
      ∀ (s : Session) (updates : ChildUpdates) (seen : Observations) (now : Instant), seen.pod = some pod →
        Diagnosis.scheduling seen.events = "" → (∀ c ∈ updates.claims, Diagnosis.claim c = "") →
        (∀ r ∈ updates.service?, Diagnosis.route r = "") → (∀ r ∈ updates.ingress?, Diagnosis.route r = "") →
        (build s updates seen now).state ≠ .failed := by
  have hpod := Diagnosis.pod_of_isReady hinit hmain hone hready hundisrupted
  refine ⟨hpod, ?_⟩
  intro s updates seen now hseen hevents hclaims hservice hingress hfailed
  have hreason := error_build.2 hfailed
  -- every source of reasons has just been found empty
  have hnone : ∀ reason ∈ failureReasons updates seen, reason = "" := by
    intro reason hmem
    simp only [failureReasons, List.mem_append, List.mem_singleton, Option.mem_toList,
      Option.map_eq_some_iff, List.mem_map, hseen] at hmem
    rcases hmem with (((⟨p, hp, rfl⟩ | rfl) | ⟨c, hc, rfl⟩) | ⟨r, hr, rfl⟩) | ⟨r, hr, rfl⟩
    · cases hp
      exact hpod
    · exact hevents
    · exact hclaims c hc
    · exact hservice r hr
    · exact hingress r hr
  unfold reason at hreason
  split at hreason
  · exact hreason rfl
  · obtain ⟨reason, hmem, hne⟩ := failureReason_ne_empty.1 hreason
    exact hne (hnone reason hmem)

/-- A pod whose init container has completed; of its main containers one runs and has not been seen to start, and one
has ended with code zero. -/
def mixedPod : Json := .object [("status", .object [("phase", .str "Running"),
  ("initContainerStatuses", .arr [.object [("name", .str "git-clone"), ("ready", .bool false),
    ("state", .object [("terminated", .object [("exitCode", .int 0), ("reason", .str "Completed")])])]]),
  ("containerStatuses", .arr [
    .object [("name", .str "session"), ("ready", .bool true), ("state", .object [("running", .object [])])],
    .object [("name", .str "setup"), ("ready", .bool false),
      ("state", .object [("terminated", .object [("exitCode", .int 0)])])]]),
  ("conditions", .arr [.object [("type", .str "DisruptionTarget"), ("status", .str "False")]])])]

theorem ready_pod_healthy_mixed :
    let v := Step.unseen none [.object [("reason", .str "Scheduled")]] (.ofUnix 1728000000)
    let claim : Child := ⟨.claim, .object [("status", .object [("phase", .str "Pending")])]⟩
    let updates := { v.updates with claim := .done claim claim .unchanged }
    Pod.isReady mixedPod = true ∧ Diagnosis.pod mixedPod = "" ∧
      (build v.session updates ⟨some mixedPod, v.seen.events, false⟩ v.now).state ≠ .failed := by
  intro v claim updates
  have hready : Pod.isReady mixedPod = true := by decide +kernel
  have hinit : ((Pod.statusOf (some mixedPod)).list "initContainerStatuses").length < 2 ^ 31 := by decide +kernel
  have hmain : ((Pod.statusOf (some mixedPod)).list "containerStatuses").length < 2 ^ 31 := by decide +kernel
  have hundisrupted : ∀ c ∈ (Pod.statusOf (some mixedPod)).list "conditions", Diagnosis.isDisruption c = false := by
    decide +kernel
  have hone : ∀ c ∈ Diagnosis.containerStatuses (Pod.statusOf (some mixedPod)),
      (Pod.containerStates c).length ≤ 1 := by
    decide +kernel
  have hclaims : ∀ c ∈ updates.claims, Diagnosis.claim c = "" := by decide +kernel
  have hservice : ∀ r ∈ updates.service?, Diagnosis.route r = "" := by decide +kernel
  have hingress : ∀ r ∈ updates.ingress?, Diagnosis.route r = "" := by decide +kernel
  obtain ⟨hpod, hstate⟩ := ready_pod_healthy hinit hmain hundisrupted hone hready
  exact ⟨hready, hpod, hstate _ _ _ _ rfl (by decide +kernel) hclaims hservice hingress⟩

end Status

end SessionOperator
