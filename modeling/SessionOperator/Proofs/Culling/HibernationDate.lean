import SessionOperator.Culling
import SessionOperator.Proofs.Time.Elapsed

/-!
# The hibernation date and the hibernation decision

Whether a session must be hibernated is decided by elapsed times, and when it will be is computed by adding up.  Both
come to the same: the decision falls once the date has passed.

* `exceeds_iff_deadline_before`: one threshold, measured both ways;
* `CullingPolicy.origin`, `CullingPolicy.threshold`: what a rule measures from, and how much it allows;
* `CullingPolicy.needsScaleDown_iff`, `CullingPolicy.mem_candidates`: the decision and the dates in terms of them;
* `CullingPolicy.earliest_spec`: the earliest of the dates of the rules;
* `CullingPolicy.needsScaleDown_iff_date_passed`: the decision and the date.
-/

namespace SessionOperator

@[simp]
theorem exceeds_none (threshold : Duration) (now : Instant) : exceeds threshold now none = false := by
  simp [exceeds]

/-- A threshold has been exceeded once its deadline has passed. -/
theorem exceeds_iff_deadline_before (threshold : Nat) {now : Instant} {start : Option Instant}
    (hnow : now.isLeapSecond = false) (hstart : ∀ t, start = some t → t.isLeapSecond = false) :
    exceeds threshold now start = true ↔ ∃ d, deadline start threshold = some d ∧ d.before now = true := by
  cases start with
  | none => simp [exceeds, deadline]
  | some t =>
    have ht := hstart t rfl
    have hlast := Instant.ticks_lt hnow
    have hfirst := t.le_ticks
    have hexceeds : exceeds threshold now (some t) = true ↔ threshold ≠ 0 ∧ t.ticks + threshold < now.ticks := by
      simp only [exceeds, Instant.elapsed, Instant.since_eq hnow ht, Option.any_some, Bool.and_eq_true,
        decide_eq_true_eq]
      refine and_congr_right fun _ => ?_
      show threshold < Int.toNat _ ↔ _
      omega
    rw [hexceeds]
    simp only [Date.firstDay_eq, Date.lastDay_eq] at hlast hfirst
    by_cases h0 : threshold = 0
    · simp [deadline, h0]
    · by_cases hlong : longestDated < threshold
      · -- a threshold without a date is longer than the calendar
        have hbound : 9223372036854775807 * 1000000 < threshold := hlong
        simp only [deadline, if_pos (Or.inr hlong)]
        simp
        omega
      · simp only [deadline, if_neg (not_or.2 ⟨h0, hlong⟩), Option.bind_some]
        cases hadd : t.add? threshold with
        | none =>
          -- the date would lie behind the end of the calendar, and `now` does not
          have := Instant.add?_eq_none ht hadd
          simp only [Date.lastDay_eq] at this
          simp
          omega
        | some u =>
          obtain ⟨hu, hticks⟩ := Instant.add?_eq_some ht hadd
          simp [Instant.before_iff hu hnow, hticks, h0]

/-! ### The rules -/

namespace CullingPolicy

/-- What each rule measures from: the start of the session, of its failure, of its idleness. -/
def origin (p : CullingPolicy) (startedAt : Option Instant) (status : SessionStatus) :
    HibernationRule → Option Instant
  | .maxAge => startedAt
  | .maxStarting => if status.state = .notReady then startedAt else none
  | .maxFailed => recordedTime status.failingSince
  | .maxIdle => p.idleOrigin status

def threshold (p : CullingPolicy) : HibernationRule → Duration
  | .maxAge => p.maxAge
  | .maxStarting => p.maxStarting
  | .maxFailed => p.maxFailed
  | .maxIdle => p.maxIdle

variable {p : CullingPolicy} {startedAt : Option Instant} {status : SessionStatus} {now : Instant}

/-- Outside hibernation one exceeded rule is enough. -/
theorem needsScaleDown_iff : p.needsScaleDown now startedAt status = true ↔
    status.state ≠ .hibernated ∧ ∃ rule, exceeds (p.threshold rule) now (p.origin startedAt status rule) = true := by
  unfold needsScaleDown
  split
  · rename_i hstate
    simp [hstate]
  · rename_i hstate
    -- a session that is not starting has no origin for the rule about that
    have hstarting : (decide (status.state = .notReady) && exceeds p.maxStarting now startedAt) =
        exceeds (p.threshold .maxStarting) now (p.origin startedAt status .maxStarting) := by
      by_cases h : status.state = .notReady <;> simp [threshold, origin, h]
    rw [and_iff_right hstate]
    simp only [hstarting, Bool.or_eq_true]
    constructor
    · rintro (((h | h) | h) | h)
      · exact ⟨.maxAge, h⟩
      · exact ⟨.maxStarting, h⟩
      · exact ⟨.maxIdle, h⟩
      · exact ⟨.maxFailed, h⟩
    · rintro ⟨rule, h⟩
      cases rule with
      | maxAge => exact .inl (.inl (.inl h))
      | maxStarting => exact .inl (.inl (.inr h))
      | maxIdle => exact .inl (.inr h)
      | maxFailed => exact .inr h

/-- Each rule is dated by its own origin and threshold. -/
theorem mem_dates {rule : HibernationRule} {date : Option Instant} : (rule, date) ∈ p.dates startedAt status ↔
    date = deadline (p.origin startedAt status rule) (p.threshold rule) := by
  have hstarting : startedAt.filter (fun _ => decide (status.state = .notReady)) =
      p.origin startedAt status .maxStarting := by
    by_cases h : status.state = .notReady <;> cases startedAt <;> simp [origin, h]
  rw [dates, hstarting]
  cases rule <;> simp [threshold, origin]

theorem mem_candidates {rule : HibernationRule} {date : Instant} :
    (rule, date) ∈ p.candidates startedAt status ↔
      deadline (p.origin startedAt status rule) (p.threshold rule) = some date := by
  simp only [candidates, List.mem_filterMap, Option.map_eq_some_iff, Prod.mk.injEq]
  constructor
  · rintro ⟨⟨rule', date'⟩, hmem, d, hdate, rfl, rfl⟩
    rw [← mem_dates.1 hmem]
    exact hdate
  · intro h
    exact ⟨(rule, some date), mem_dates.2 h.symm, date, rfl, rfl, rfl⟩

end CullingPolicy

/-! ### The earliest date -/

/-- Weighing further candidates: the choice is the one that was best so far or a new one, and none is earlier. -/
private theorem foldl_earlier (cs : List (HibernationRule × Instant)) (best : HibernationRule × Instant) :
    ∃ c, cs.foldl earlier (some best) = some c ∧ (c = best ∨ c ∈ cs) ∧ c.2.rank ≤ best.2.rank ∧
      ∀ c' ∈ cs, c.2.rank ≤ c'.2.rank := by
  induction cs generalizing best with
  | nil => exact ⟨best, rfl, .inl rfl, le_rfl, by simp⟩
  | cons next cs ih =>
    simp only [List.foldl_cons, earlier]
    split
    · -- the next candidate is the best so far
      rename_i hbefore
      rw [Instant.before_iff_rank] at hbefore
      obtain ⟨c, hc, hmem, hle, hall⟩ := ih next
      refine ⟨c, hc, .inr ?_, by omega, ?_⟩
      · rcases hmem with rfl | hmem
        · exact List.mem_cons_self
        · exact List.mem_cons_of_mem _ hmem
      · intro c' hc'
        rcases List.mem_cons.1 hc' with rfl | hc'
        · exact hle
        · exact hall c' hc'
    · rename_i hbefore
      rw [Instant.before_iff_rank] at hbefore
      obtain ⟨c, hc, hmem, hle, hall⟩ := ih best
      refine ⟨c, hc, hmem.imp id (List.mem_cons_of_mem _), hle, ?_⟩
      intro c' hc'
      rcases List.mem_cons.1 hc' with rfl | hc'
      · omega
      · exact hall c' hc'

namespace CullingPolicy

variable (p : CullingPolicy) (startedAt : Option Instant) (status : SessionStatus)

/-- The earliest date is that of some rule, no rule has an earlier one, and there is none only if no rule has one. -/
theorem earliest_spec :
    (p.earliest startedAt status = none ∧ p.candidates startedAt status = []) ∨
      ∃ c ∈ p.candidates startedAt status, p.earliest startedAt status = some c ∧
        ∀ c' ∈ p.candidates startedAt status, c.2.rank ≤ c'.2.rank := by
  unfold earliest
  cases p.candidates startedAt status with
  | nil => exact .inl ⟨rfl, rfl⟩
  | cons first cs =>
    obtain ⟨c, hc, hmem, hle, hall⟩ := foldl_earlier cs first
    refine .inr ⟨c, ?_, hc, ?_⟩
    · rcases hmem with rfl | hmem
      · exact List.mem_cons_self
      · exact List.mem_cons_of_mem _ hmem
    · intro c' hc'
      rcases List.mem_cons.1 hc' with rfl | hc'
      · exact hle
      · exact hall c' hc'

variable {p startedAt status}

/-- The earliest date has passed as soon as that of any rule has. -/
theorem earliest_passed_iff {now : Instant} :
    (∃ c, p.earliest startedAt status = some c ∧ c.2.before now = true) ↔
      ∃ c ∈ p.candidates startedAt status, c.2.before now = true := by
  rcases p.earliest_spec startedAt status with ⟨hnone, hnil⟩ | ⟨c, hmem, hc, hall⟩
  · simp [hnone, hnil]
  · constructor
    · rintro ⟨c', hc', hbefore⟩
      rw [hc] at hc'
      cases hc'
      exact ⟨c, hmem, hbefore⟩
    · rintro ⟨c', hc', hbefore⟩
      refine ⟨c, hc, ?_⟩
      have := hall c' hc'
      rw [Instant.before_iff_rank] at hbefore ⊢
      omega

/-- A session must be hibernated exactly when it has a hibernation date and the date has passed. -/
theorem needsScaleDown_iff_date_passed (p : CullingPolicy) (startedAt : Option Instant) (status : SessionStatus)
    (now : Instant) (hnow : now.isLeapSecond = false)
    (horigin : ∀ rule t, p.origin startedAt status rule = some t → t.isLeapSecond = false) :
    p.needsScaleDown now startedAt status = true ↔
      ∃ d, p.hibernationDate startedAt status = some d ∧ d.before now = true := by
  by_cases hstate : status.state = .hibernated
  · simp [needsScaleDown, hibernationDate, hstate]
  · -- the decision asks for some rule, the date for the earliest one
    have hany : p.needsScaleDown now startedAt status = true ↔
        ∃ rule, exceeds (p.threshold rule) now (p.origin startedAt status rule) = true :=
      needsScaleDown_iff.trans (and_iff_right hstate)
    have hdate : (∃ d, p.hibernationDate startedAt status = some d ∧ d.before now = true) ↔
        ∃ c, p.earliest startedAt status = some c ∧ c.2.before now = true := by
      simp only [hibernationDate, if_neg hstate, Option.map_eq_some_iff]
      constructor
      · rintro ⟨_, ⟨c, hc, rfl⟩, h⟩
        exact ⟨c, hc, h⟩
      · rintro ⟨c, hc, h⟩
        exact ⟨c.2, ⟨c, hc, rfl⟩, h⟩
    rw [hany, hdate, earliest_passed_iff]
    constructor
    · rintro ⟨rule, h⟩
      obtain ⟨d, hd, hbefore⟩ := (exceeds_iff_deadline_before _ hnow (horigin rule)).1 h
      exact ⟨(rule, d), mem_candidates.2 hd, hbefore⟩
    · rintro ⟨⟨rule, d⟩, hmem, hbefore⟩
      exact ⟨rule, (exceeds_iff_deadline_before _ hnow (horigin rule)).2 ⟨d, mem_candidates.1 hmem, hbefore⟩⟩

/-- A session that may be one hour old is two hours old: it must be hibernated, and its date is an hour back. -/
theorem needsScaleDown_hour_past :
    let p : CullingPolicy := ⟨3600000000000, 0, 0, 0, 0, none⟩
    let start := Instant.ofUnix 1728000000
    let now := Instant.ofUnix 1728007200
    p.needsScaleDown now (some start) .default = true ∧
      ∃ d, p.hibernationDate (some start) .default = some d ∧ d.before now = true := by
  intro p start now
  have hneeds : p.needsScaleDown now (some start) .default = true := by decide +kernel
  refine ⟨hneeds, (needsScaleDown_iff_date_passed p (some start) .default now (by decide +kernel) ?_).1 hneeds⟩
  intro rule t ht
  have hstart : t = start := by
    cases rule with
    | maxAge | maxStarting => exact (Option.some.inj ht).symm
    | maxFailed | maxIdle => cases ht
  rw [hstart]
  decide +kernel

end CullingPolicy

end SessionOperator
