import SessionOperator.Proofs.Time.Calendar

/-!
# Instants and durations as numbers

Outside leap seconds an instant is a number of nanoseconds, and the arithmetic of instants is that of numbers.

* `Instant.before_iff_rank`, `Instant.rank_inj`: the chronological order is an order of numbers, leap seconds included;
* `Instant.before_iff`, `Instant.since_eq`: order and difference outside leap seconds;
* `Instant.add?_eq_some`, `Instant.add?_eq_none`: a duration later, or beyond the end of the calendar.
-/

namespace SessionOperator

namespace Instant

/-- The place of an instant in the chronological order, with room for a leap second after every second. -/
def rank (t : Instant) : Int := t.unix * 2000000000 + t.nano

theorem before_iff_rank (a b : Instant) : a.before b = true ↔ a.rank < b.rank := by
  have ha := a.nano_lt
  have hb := b.nano_lt
  have ha' := a.second_lt
  have hb' := b.second_lt
  simp only [before, rank, unix, Bool.or_eq_true, Bool.and_eq_true, decide_eq_true_eq]
  omega

/-- Different instants have different places in the order. -/
theorem rank_inj {a b : Instant} : a.rank = b.rank ↔ a = b := by
  constructor
  · intro h
    have ha := a.nano_lt
    have hb := b.nano_lt
    have ha' := a.second_lt
    have hb' := b.second_lt
    simp only [rank, unix] at h
    have hday : a.day = b.day := by omega
    have hsecond : a.second = b.second := by omega
    have hnano : a.nano = b.nano := by omega
    cases a
    cases b
    simp only [mk.injEq]
    exact ⟨hday, hsecond, hnano⟩
  · intro h
    rw [h]

/-- No instant comes before the first day of the calendar. -/
theorem le_rank (t : Instant) : Date.firstDay * 86400 * 2000000000 ≤ t.rank := by
  have := t.firstDay_le
  simp only [rank, unix]
  omega

/-- Nanoseconds since 1970-01-01, if `t` is not in a leap second. -/
def ticks (t : Instant) : Int := t.unix * 1000000000 + t.nano

theorem isLeapSecond_eq_false (t : Instant) : t.isLeapSecond = false ↔ t.nano < 1000000000 := by
  simp [isLeapSecond]

variable {a b t : Instant}

theorem before_iff (ha : a.isLeapSecond = false) (hb : b.isLeapSecond = false) :
    a.before b = true ↔ a.ticks < b.ticks := by
  rw [isLeapSecond_eq_false] at ha hb
  rw [before_iff_rank]
  simp only [rank, ticks]
  omega

theorem since_eq (ha : a.isLeapSecond = false) (hb : b.isLeapSecond = false) : a.since b = a.ticks - b.ticks := by
  simp only [since, leapCorrection, ha, hb, ticks]
  simp
  omega

/-- No instant is later than the last second of the calendar. -/
theorem ticks_lt (h : t.isLeapSecond = false) : t.ticks < (Date.lastDay + 1) * 86400 * 1000000000 := by
  rw [isLeapSecond_eq_false] at h
  have := t.le_lastDay
  have := t.second_lt
  simp only [ticks, unix]
  omega

theorem le_ticks (t : Instant) : Date.firstDay * 86400 * 1000000000 ≤ t.ticks := by
  have := t.firstDay_le
  simp only [ticks, unix]
  omega

/-- The carries of adding a duration: what is left are a day, a second and a nanosecond with the right sum. -/
private theorem add?_of_not_leap (h : t.isLeapSecond = false) (d : Duration) :
    (∀ u, t.add? d = some u → u.isLeapSecond = false ∧ u.ticks = t.ticks + d) ∧
      (t.add? d = none → (Date.lastDay + 1) * 86400 * 1000000000 ≤ t.ticks + d) := by
  have hn := (isLeapSecond_eq_false t).1 h
  have hsplit : t.day + (((t.second + d / 1000000000 + (t.nano + d % 1000000000) / 1000000000) / 86400 : Nat) : Int) =
      (t.ticks + d) / (86400 * 1000000000) := by
    have := t.second_lt
    simp only [ticks, unix]
    omega
  rw [add?, dif_neg (by simp [h])]
  simp only [ofSeconds?, Duration.seconds, Duration.subsecond, Nat.mod_eq_of_lt hn]
  split
  · refine ⟨?_, by simp⟩
    rintro u ⟨⟩
    have := t.second_lt
    simp only [isLeapSecond_eq_false, ticks, unix]
    omega
  · rename_i hlast
    refine ⟨by simp, fun _ => ?_⟩
    rw [hsplit] at hlast
    omega

theorem add?_eq_some {u : Instant} (h : t.isLeapSecond = false) {d : Duration} (hu : t.add? d = some u) :
    u.isLeapSecond = false ∧ u.ticks = t.ticks + d :=
  (add?_of_not_leap h d).1 u hu

theorem add?_eq_none (h : t.isLeapSecond = false) {d : Duration} (hu : t.add? d = none) :
    (Date.lastDay + 1) * 86400 * 1000000000 ≤ t.ticks + d :=
  (add?_of_not_leap h d).2 hu

/-- The instant some seconds after the start of 1970, or that start if the calendar does not reach so far. -/
def ofUnix (seconds : Nat) : Instant := (epoch.add? (.ofSeconds seconds)).getD epoch

end Instant

end SessionOperator
