import Mathlib.Tactic.IntervalCases
import SessionOperator.Time.Instant

/-!
# The calendar

Day numbers and dates name each other: the date of a day exists and has that day number.

* `Date.monthOf_spec`: the month and the day of the month that a day of the year falls on;
* `Date.toDay_ofDay`: the date of a day has the number of that day;
* `Date.ofParts?_ofDay`: the date of a day is one that exists;
* `Date.year_ofDay_lt_iff`: the days before a year are those before its January 1st;
* `Date.year_ofDay_bounds`: the years of the calendar have at most six digits.
-/

namespace SessionOperator

namespace Date

/-! ### Months -/

/-- A month starts where the month before it ends. -/
private theorem daysBeforeMonth_succ (leap : Bool) {m : Nat} (h₁ : 1 ≤ m) (h₂ : m ≤ 11) :
    daysBeforeMonth leap (m + 1) = daysBeforeMonth leap m + daysInMonth leap m := by
  cases leap <;> interval_cases m <;> decide

private theorem daysBeforeMonth_december (leap : Bool) :
    daysBeforeMonth leap 12 + daysInMonth leap 12 = 365 + leap.toNat := by
  cases leap <;> decide

/-- What is found when the days of the year from the end of month `m + 1` on are excluded. -/
theorem monthOf_spec (leap : Bool) (d m : Nat) (hm : m ≤ 11)
    (hd : d < daysBeforeMonth leap (m + 1) + daysInMonth leap (m + 1)) :
    1 ≤ (monthOf leap d m).1 ∧ (monthOf leap d m).1 ≤ 12 ∧ 1 ≤ (monthOf leap d m).2 ∧
      (monthOf leap d m).2 ≤ daysInMonth leap (monthOf leap d m).1 ∧
      daysBeforeMonth leap (monthOf leap d m).1 + (monthOf leap d m).2 = d + 1 := by
  induction m with
  | zero =>
    have h0 : daysBeforeMonth leap 1 = 0 := by cases leap <;> decide
    simp only [monthOf, Nat.zero_add] at hd ⊢
    omega
  | succ m ih =>
    unfold monthOf
    split
    · rename_i hle
      refine ⟨by simp, by simp; omega, by simp, ?_, ?_⟩
      · simp only [Nat.add_assoc, Nat.reduceAdd] at hd ⊢
        omega
      · simp only
        omega
    · -- the day lies in an earlier month
      rename_i hlt
      refine ih (by omega) ?_
      rw [← daysBeforeMonth_succ leap (by omega) (by omega)]
      exact Nat.lt_of_not_le hlt

/-! ### Years -/

/-- The cycle of years of a day: which 400, 100, 4 and single years are over before it, and the day of the year. -/
private theorem ofDay_cycle (n : Int) :
    ∃ (era : Int) (century four single dayOfYear : Nat), century ≤ 3 ∧ four ≤ 24 ∧ single ≤ 3 ∧
      n = 146097 * era + 36524 * century + 1461 * four + 365 * single + dayOfYear ∧
      dayOfYear ≤ 365 ∧ (dayOfYear = 365 → single = 3 ∧ (four = 24 → century = 3)) ∧
      ofDay (n - epochOffset) =
        (let year : Int := 400 * era + (100 * century + 4 * four + single : Nat) + 1
         ⟨year, (monthOf (isLeap year) dayOfYear 11).1, (monthOf (isLeap year) dayOfYear 11).2⟩) := by
  obtain ⟨inEra, hEra⟩ : ∃ k, k = (n % 146097).toNat := ⟨_, rfl⟩
  obtain ⟨century, hCentury⟩ : ∃ k, k = min 3 (inEra / 36524) := ⟨_, rfl⟩
  obtain ⟨inCentury, hInCentury⟩ : ∃ k, k = inEra - century * 36524 := ⟨_, rfl⟩
  obtain ⟨four, hFour⟩ : ∃ k, k = inCentury / 1461 := ⟨_, rfl⟩
  obtain ⟨inFour, hInFour⟩ : ∃ k, k = inCentury - four * 1461 := ⟨_, rfl⟩
  obtain ⟨single, hSingle⟩ : ∃ k, k = min 3 (inFour / 365) := ⟨_, rfl⟩
  refine ⟨n / 146097, century, four, single, inFour - single * 365, by omega, by omega, by omega, by omega, by omega,
    by omega, ?_⟩
  subst hSingle hInFour hFour hInCentury hCentury hEra
  simp only [ofDay, Int.sub_add_cancel]

theorem isLeap_iff (year : Int) : isLeap year = true ↔ year % 4 = 0 ∧ (year % 100 ≠ 0 ∨ year % 400 = 0) := by
  simp [isLeap]

/-- A day lies in the year of its date, and a year has 365 days or, if it is a leap year, 366. -/
private theorem ofDay_year (day : Int) :
    ∃ dayOfYear : Nat, ofDay day = ⟨(ofDay day).year, (monthOf (isLeap (ofDay day).year) dayOfYear 11).1,
        (monthOf (isLeap (ofDay day).year) dayOfYear 11).2⟩ ∧
      day + epochOffset = daysBeforeYear (ofDay day).year + dayOfYear ∧
      dayOfYear < 365 + (isLeap (ofDay day).year).toNat := by
  obtain ⟨era, century, four, single, dayOfYear, hc, hf, hs, hn, hd, hleap, heq⟩ := ofDay_cycle (day + epochOffset)
  rw [Int.add_sub_cancel] at heq
  refine ⟨dayOfYear, by rw [heq], ?_, ?_⟩
  · rw [heq]
    simp only [daysBeforeYear]
    omega
  · rw [heq]
    simp only
    by_cases h : dayOfYear = 365
    · have hl : isLeap (400 * era + (100 * century + 4 * four + single : Nat) + 1) = true := by
        rw [isLeap_iff]
        omega
      rw [hl]
      simp only [Bool.toNat_true]
      omega
    · omega

theorem toDay_ofDay (day : Int) : (ofDay day).toDay = day := by
  obtain ⟨dayOfYear, heq, hday, hlt⟩ := ofDay_year day
  generalize (ofDay day).year = year at heq hday hlt
  have hm := monthOf_spec (isLeap year) dayOfYear 11 (by omega)
    (by rw [daysBeforeMonth_december]; exact hlt)
  rw [heq]
  simp only [toDay]
  omega

theorem ofParts?_ofDay (day : Int) :
    ofParts? (ofDay day).year (ofDay day).month (ofDay day).day = some (ofDay day) := by
  obtain ⟨dayOfYear, heq, -, hlt⟩ := ofDay_year day
  generalize (ofDay day).year = year at heq hlt
  have hm := monthOf_spec (isLeap year) dayOfYear 11 (by omega)
    (by rw [daysBeforeMonth_december]; exact hlt)
  rw [heq]
  simp only [ofParts?]
  rw [if_pos ⟨hm.1, hm.2.1, hm.2.2.1, hm.2.2.2.1⟩]

theorem month_ofDay (day : Int) : 1 ≤ (ofDay day).month ∧ (ofDay day).month ≤ 12 := by
  have h := ofParts?_ofDay day
  unfold ofParts? at h
  split at h
  · rename_i hv; exact ⟨hv.1, hv.2.1⟩
  · simp at h

theorem day_ofDay (day : Int) : 1 ≤ (ofDay day).day ∧ (ofDay day).day ≤ 31 := by
  have h := ofParts?_ofDay day
  unfold ofParts? at h
  split at h
  · rename_i hv
    refine ⟨hv.2.2.1, hv.2.2.2.trans ?_⟩
    unfold daysInMonth
    split <;> (try split) <;> omega
  · simp at h

/-! ### Bounds -/

theorem firstDay_eq : firstDay = -96465292 := by decide

theorem lastDay_eq : lastDay = 95026236 := by decide

private theorem daysBeforeYear_succ (year : Int) :
    daysBeforeYear (year + 1) = daysBeforeYear year + (365 + (isLeap year).toNat) := by
  by_cases h : isLeap year = true
  · rw [h, Bool.toNat_true]
    rw [isLeap_iff] at h
    simp only [daysBeforeYear]
    omega
  · rw [Bool.not_eq_true] at h
    rw [h, Bool.toNat_false]
    rw [← Bool.not_eq_true, isLeap_iff] at h
    simp only [daysBeforeYear]
    omega

private theorem daysBeforeYear_mono {a b : Int} (h : a ≤ b) : daysBeforeYear a ≤ daysBeforeYear b := by
  simp only [daysBeforeYear]
  omega

/-- A day lies in an earlier year just when it comes before January 1st. -/
theorem year_ofDay_lt_iff {day year : Int} : (ofDay day).year < year ↔ day < toDay ⟨year, 1, 1⟩ := by
  obtain ⟨dayOfYear, -, hday, hlt⟩ := ofDay_year day
  generalize (ofDay day).year = current at hday hlt ⊢
  have hstart : toDay ⟨year, 1, 1⟩ = daysBeforeYear year - epochOffset := by
    cases h : isLeap year <;> simp [toDay, daysBeforeMonth, monthStarts]
  rw [hstart]
  constructor
  · intro h
    -- the year of the day is over when the later one begins
    have hend := daysBeforeYear_mono (Int.add_one_le_iff.2 h)
    rw [daysBeforeYear_succ] at hend
    omega
  · intro h
    by_contra hge
    have hbegin := daysBeforeYear_mono (Int.not_lt.1 hge)
    omega

theorem year_ofDay_bounds {day : Int} (h₁ : firstDay ≤ day) (h₂ : day ≤ lastDay) :
    -300000 < (ofDay day).year ∧ (ofDay day).year < 300000 := by
  have hfirst : toDay ⟨-299999, 1, 1⟩ ≤ firstDay := by decide
  have hlast : lastDay < toDay ⟨300000, 1, 1⟩ := by decide
  constructor
  · have h := mt year_ofDay_lt_iff.1 (Int.not_lt.2 (Int.le_trans hfirst h₁))
    omega
  · exact year_ofDay_lt_iff.2 (Int.lt_of_le_of_lt h₂ hlast)

end Date

end SessionOperator
