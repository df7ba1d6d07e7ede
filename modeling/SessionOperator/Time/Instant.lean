import SessionOperator.Time.Date

/-!
# Instants

A point of time in UTC: a day of the calendar, a second of the day and the nanoseconds of that second.  A leap second,
which comes at the end of a minute, is kept as the second before it with a billion nanoseconds or more.  Durations are
natural numbers of nanoseconds.

* `Instant.since`: the time from an earlier instant to a later one; a leap second that lies between the two second
  counts is counted;
* `Instant.elapsed`: the same, zero when the order is reversed;
* `Instant.add?`: the instant a duration later, as long as the calendar reaches.
-/

namespace SessionOperator

abbrev Duration := Nat

namespace Duration

def ofSeconds (n : Nat) : Duration := n * 1000000000

/-- Whole seconds. -/
def seconds (d : Duration) : Nat := d / 1000000000

/-- Nanoseconds beyond the whole seconds. -/
def subsecond (d : Duration) : Nat := d % 1000000000

end Duration

structure Instant where
  day : Int
  second : Nat
  nano : Nat
  firstDay_le : Date.firstDay ≤ day := by decide
  le_lastDay : day ≤ Date.lastDay := by decide
  second_lt : second < 86400 := by omega
  nano_lt : nano < 2000000000 := by omega
  leap_last : 1000000000 ≤ nano → second % 60 = 59 := by omega
  deriving DecidableEq

namespace Instant

def epoch : Instant := { day := 0, second := 0, nano := 0 }

/-- Seconds since 1970-01-01, a leap second counting as the one before it. -/
def unix (t : Instant) : Int := t.day * 86400 + t.second

def isLeapSecond (t : Instant) : Bool := 1000000000 ≤ t.nano

/-- Chronological order. -/
def before (a b : Instant) : Bool :=
  a.day < b.day || (a.day = b.day && (a.second < b.second || (a.second = b.second && a.nano < b.nano)))

/-- The leap second that a difference of two second counts misses: one more if the earlier instant lies in it, one
less if the later does. -/
def leapCorrection (later earlier : Instant) : Int :=
  if earlier.second < later.second ∧ earlier.isLeapSecond then 1
  else if later.second < earlier.second ∧ later.isLeapSecond then -1
  else 0

/-- Signed nanoseconds from `earlier` to `later`. -/
def since (later earlier : Instant) : Int :=
  (later.unix - earlier.unix + leapCorrection later earlier) * 1000000000 + ((later.nano : Int) - earlier.nano)

def elapsed (now start : Instant) : Duration := (now.since start).toNat

/-- An instant from seconds and nanoseconds counted from the start of a day. -/
def ofSeconds? (day : Int) (seconds nano : Nat) (hday : Date.firstDay ≤ day) (hnano : nano < 1000000000) :
    Option Instant :=
  if h : day + (seconds / 86400 : Nat) ≤ Date.lastDay then
    some {
      day := day + (seconds / 86400 : Nat)
      second := seconds % 86400
      nano := nano
      firstDay_le := by omega
      le_lastDay := h
      second_lt := Nat.mod_lt _ (by decide)
      nano_lt := by omega
      leap_last := by omega }
  else none

/-- The instant after a duration.  A duration that leaves a leap second continues from the second before it. -/
def add? (t : Instant) (d : Duration) : Option Instant :=
  if h : t.isLeapSecond ∧ d.seconds = 0 ∧ t.nano + d.subsecond < 2000000000 then
    some {
      t with
      nano := t.nano + d.subsecond
      nano_lt := h.2.2
      leap_last := fun _ => t.leap_last (of_decide_eq_true h.1) }
  else
    let nano := t.nano % 1000000000 + d.subsecond
    ofSeconds? t.day (t.second + d.seconds + nano / 1000000000) (nano % 1000000000) t.firstDay_le
      (Nat.mod_lt _ (by decide))

/-- The instant without its fraction of a second; a leap second stays one. -/
def truncate (t : Instant) : Instant :=
  { t with
    nano := if t.isLeapSecond then 1000000000 else 0
    nano_lt := by split <;> decide
    leap_last := fun h => t.leap_last (by
      split at h
      · rename_i hleap; exact of_decide_eq_true hleap
      · omega) }

end Instant

end SessionOperator
