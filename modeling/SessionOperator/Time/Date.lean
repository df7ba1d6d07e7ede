/-!
# Dates

Days of the proleptic Gregorian calendar, counted from 1970-01-01.  A run of 400 years has 146097 days, and within it
a century has 36524 days, four years have 1461 and a year has 365; only the last part of each division is a day
longer, because the leap day closes it.

* `Date.toDay`, `Date.ofDay`: between a date and its day number;
* `Date.ofParts?`: the dates that exist;
* `Date.inCalendar`: the days that an instant may fall on.
-/

namespace SessionOperator

structure Date where
  year : Int
  month : Nat
  day : Nat
  deriving DecidableEq

namespace Date

def isLeap (year : Int) : Bool := year % 4 = 0 && (year % 100 ≠ 0 || year % 400 = 0)

/-- Days of a common year before each month, from January on. -/
def monthStarts : List Nat := [0, 31, 59, 90, 120, 151, 181, 212, 243, 273, 304, 334]

def daysBeforeMonth (leap : Bool) (month : Nat) : Nat :=
  monthStarts.getD (month - 1) 0 + if leap ∧ 2 < month then 1 else 0

def daysInMonth (leap : Bool) (month : Nat) : Nat :=
  match month with
  | 2 => if leap then 29 else 28
  | 4 | 6 | 9 | 11 => 30
  | _ => 31

/-- Days from 0001-01-01 to the first day of a year. -/
def daysBeforeYear (year : Int) : Int :=
  365 * (year - 1) + (year - 1) / 4 - (year - 1) / 100 + (year - 1) / 400

/-- The day number of 0001-01-01 is `-719162`. -/
def epochOffset : Int := 719162

def toDay (d : Date) : Int :=
  daysBeforeYear d.year + daysBeforeMonth (isLeap d.year) d.month + d.day - 1 - epochOffset

/-- The month of a day of the year, and the day of that month; both count from one, the day of the year from zero. -/
def monthOf (leap : Bool) (dayOfYear : Nat) : Nat → Nat × Nat
  | 0 => (1, dayOfYear + 1)
  | m + 1 =>
    if daysBeforeMonth leap (m + 2) ≤ dayOfYear then (m + 2, dayOfYear - daysBeforeMonth leap (m + 2) + 1)
    else monthOf leap dayOfYear m

def ofDay (day : Int) : Date :=
  let n := day + epochOffset
  let era := n / 146097
  let inEra := (n % 146097).toNat
  let century := min 3 (inEra / 36524)
  let inCentury := inEra - century * 36524
  let four := inCentury / 1461
  let inFour := inCentury - four * 1461
  let single := min 3 (inFour / 365)
  let dayOfYear := inFour - single * 365
  let year : Int := 400 * era + (100 * century + 4 * four + single : Nat) + 1
  let (month, dayOfMonth) := monthOf (isLeap year) dayOfYear 11
  ⟨year, month, dayOfMonth⟩

def ofParts? (year : Int) (month day : Nat) : Option Date :=
  if 1 ≤ month ∧ month ≤ 12 ∧ 1 ≤ day ∧ day ≤ daysInMonth (isLeap year) month then some ⟨year, month, day⟩
  else none

/-- The last day that an instant may fall on, 262142-12-31. -/
def lastDay : Int := toDay ⟨262142, 12, 31⟩

/-- The first day that an instant may fall on, -262143-01-01. -/
def firstDay : Int := toDay ⟨-262143, 1, 1⟩

def inCalendar (day : Int) : Bool := firstDay ≤ day && day ≤ lastDay

theorem inCalendar_iff (day : Int) : inCalendar day = true ↔ firstDay ≤ day ∧ day ≤ lastDay := by
  simp [inCalendar]

end Date

end SessionOperator
