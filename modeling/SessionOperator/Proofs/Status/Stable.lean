import SessionOperator.Proofs.Status

/-!
# Statuses that stay

A status that is built on top of one that was built of the same observations is the same status, however late: what
holds since a time keeps that time, and conditions keep the records that they have.

* `Conditions.advance_advance`: the conditions do not change again;
* `Status.build_again`, `Pass.status_again`: the whole status does not change again.
-/

namespace SessionOperator

namespace Conditions

variable {state : SessionState} {declared live : Bool} {now later : Instant} {type : ConditionType}

private theorem observed_type {c : Condition} (h : observed state declared live now type = some c) : c.type = type := by
  unfold observed at h
  split at h
  · cases h
    rfl
  · unfold routing at h
    split at h
    · cases h
      rfl
    · split at h
      · cases h
        rfl
      · cases h

/-- At another time the same is said of a condition, if anything is. -/
private theorem observed_status (state : SessionState) (declared live : Bool) (now later : Instant)
    (type : ConditionType) : (observed state declared live later type).map (·.status) =
      (observed state declared live now type).map (·.status) := by
  cases type with
  | ready => simp only [observed, ready, ofFlag, Option.map_some]
  | routingReady =>
    simp only [observed, routing, ofFlag]
    cases declared <;> cases live <;> simp

/-- A record that has been replaced once is not replaced by another record of the same status. -/
private theorem replace_replace {p n n' : Option Condition} (h : n'.map (·.status) = n.map (·.status)) :
    replace (replace p n) n' = replace p n := by
  cases n with
  | none =>
    cases n' with
    | none => cases p <;> rfl
    | some b => cases h
  | some a =>
    cases n' with
    | none => cases h
    | some b =>
      have hstatus : b.status = a.status := Option.some.inj h
      cases p with
      | none => simp [replace, hstatus]
      | some p =>
        by_cases hp : p.status = a.status
        · simp [replace, hp, hstatus]
        · simp [replace, hp, hstatus]

private theorem replace_type {p n : Option Condition} {c : Condition} (hp : ∀ c, p = some c → c.type = type)
    (hn : ∀ c, n = some c → c.type = type) (h : replace p n = some c) : c.type = type := by
  unfold replace at h
  split at h
  · split at h
    · exact hp c h
    · exact hn c h
  · exact hn c h
  · exact hp c h

private theorem latest_type {records : List Condition} {c : Condition} (h : latest records type = some c) :
    c.type = type := by
  simpa using List.find?_some h

/-- Of records of which there is at most one for each type, that one is the latest. -/
private theorem latest_filterMap {f : ConditionType → Option Condition} (hf : ∀ type c, f type = some c → c.type = type)
    (type : ConditionType) : latest (types.filterMap f) type = f type := by
  unfold latest types
  -- either type may be without a record
  cases hr : f .ready with
  | none =>
    cases ho : f .routingReady with
    | none => cases type <;> simp [hr, ho]
    | some b =>
      have hb := hf _ _ ho
      cases type <;> simp [hr, ho, hb]
  | some a =>
    have ha := hf _ _ hr
    cases ho : f .routingReady with
    | none => cases type <;> simp [hr, ho, ha]
    | some b =>
      have hb := hf _ _ ho
      cases type <;> simp [hr, ho, ha, hb]

/-- The records after a pass that started from some. -/
private def next (seed : List Condition) (state : SessionState) (declared live : Bool) (now : Instant) :
    List Condition :=
  types.filterMap fun type => replace (latest seed type) (observed state declared live now type)

/-- There always is a record of readiness, and its status is what this pass says. -/
theorem exists_ready_record (seed : List Condition) (state : SessionState) (now : Instant) :
    ∃ a, replace (latest seed .ready) (some (ready state now)) = some a ∧ a.status = (ready state now).status := by
  unfold replace
  cases latest seed .ready with
  | none => exact ⟨_, rfl, rfl⟩
  | some p =>
    by_cases hp : p.status = (ready state now).status
    · exact ⟨p, if_pos hp, hp⟩
    · exact ⟨_, if_neg hp, rfl⟩

private theorem next_ne_nil (seed : List Condition) : next seed state declared live now ≠ [] := by
  obtain ⟨a, ha, -⟩ := exists_ready_record seed state now
  have hmem : a ∈ next seed state declared live now :=
    List.mem_filterMap.2 ⟨.ready, by simp [types], ha⟩
  exact List.ne_nil_of_mem hmem

theorem next_type {seed : List Condition} {c : Condition}
    (h : replace (latest seed type) (observed state declared live now type) = some c) : c.type = type :=
  replace_type (fun _ => latest_type) (fun _ => observed_type) h

private theorem next_next (seed : List Condition) :
    next (next seed state declared live now) state declared live later = next seed state declared live now := by
  have hlatest : ∀ type, latest (next seed state declared live now) type =
      replace (latest seed type) (observed state declared live now type) := latest_filterMap fun _ _ => next_type
  show types.filterMap _ = types.filterMap _
  simp only [hlatest, replace_replace (observed_status state declared live now later _)]

theorem advance_advance (previous : List Condition) (state : SessionState) (declared live : Bool)
    (now later : Instant) : advance (advance previous state declared live now) state declared live later =
      advance previous state declared live now := by
  have hnext : advance previous state declared live now =
      next (if previous.isEmpty then initial now else previous) state declared live now := rfl
  have hne : (advance previous state declared live now).isEmpty = false := by
    rw [hnext]
    exact List.isEmpty_eq_false_iff.2 (next_ne_nil _)
  rw [advance, hne, hnext]
  exact next_next _

end Conditions

theorem Status.latch_latch (active : Bool) (since : Option String) (now later : Instant) :
    latch active (latch active since now) later = latch active since now := by
  unfold latch
  by_cases h : active = true
  · rw [if_pos h, if_pos h, Option.getD_some]
  · rw [if_neg h, if_neg h]

namespace Status

variable {s : Session} {u u' : ChildUpdates} {seen : Observations} {now later : Instant}

/-- A status is built again on top of one that agrees with it in all that is kept from pass to pass. -/
private theorem build_on {st : SessionStatus} (hstate : (stateInputs s u' seen).state = (stateInputs s u seen).state)
    (hreason : reason s u' seen = reason s u seen) (hingress : u'.ingress?.isSome = u.ingress?.isSome)
    (hconditions : st.conditions = (build s u seen now).conditions)
    (hidle : st.idleSince = (build s u seen now).idleSince)
    (hfailing : st.failingSince = (build s u seen now).failingSince)
    (hhibernated : st.hibernatedSince = (build s u seen now).hibernatedSince) :
    build { s with status := some st } u' seen later = build s u seen now := by
  have hstate' : (stateInputs { s with status := some st } u' seen).state = (stateInputs s u seen).state := hstate
  have hreason' : reason { s with status := some st } u' seen = reason s u seen := hreason
  have hrecorded : ({ s with status := some st } : Session).recorded = st := rfl
  have hdeleting : ({ s with status := some st } : Session).deleting = s.deleting := rfl
  have hurl : ({ s with status := some st } : Session).url? = s.url? := rfl
  unfold build at hconditions hidle hfailing hhibernated ⊢
  simp only [hstate', hreason', hingress, hrecorded, hdeleting, hurl, hconditions, hidle, hfailing, hhibernated,
    Conditions.advance_advance, latch_latch]

theorem build_again (date : Option String) (now later : Instant)
    (hstate : (stateInputs s u' seen).state = (stateInputs s u seen).state)
    (hreason : failureReason u' seen = failureReason u seen) (hingress : u'.ingress?.isSome = u.ingress?.isSome) :
    build { s with status := some { build s u seen now with willHibernateAt := date } } u' seen later =
      build s u seen now :=
  build_on hstate (by rw [reason, reason, hreason]) hingress rfl rfl rfl rfl

end Status

/-- A pass that sees what the one before it saw computes the status that is recorded already. -/
theorem Pass.status_again {s : Session} {u u' : ChildUpdates} {seen : Observations} (policy : CullingPolicy)
    (now later : Instant) (hstate : (Status.stateInputs s u' seen).state = (Status.stateInputs s u seen).state)
    (hreason : Status.failureReason u' seen = Status.failureReason u seen)
    (hingress : u'.ingress?.isSome = u.ingress?.isSome) :
    status { s with status := some (status s policy u seen now) } policy u' seen later =
      status s policy u seen now := by
  obtain ⟨date, hdate⟩ := status_eq s policy u seen now
  have hbuild := Status.build_again date now later hstate hreason hingress
  rw [← hdate] at hbuild
  unfold status at hbuild ⊢
  rw [hbuild]
  rfl

end SessionOperator
