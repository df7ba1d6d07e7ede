import SessionOperator.Time.Instant
import SessionOperator.Text.Quoted

/-!
# Written durations

A duration is written as a row of spans, each a number and a unit: `2h5m`, `1h 30m`, `1.5min`.  White space may stand
anywhere but inside a unit.  A fraction is taken only where it is exact: in nanoseconds for units up to the minute, in
seconds for longer ones.  Numbers, products and sums that do not fit 64 bits are refused.

* `Duration.parse`: the duration, or the first fault with its byte offset.
-/

namespace SessionOperator

inductive DurationError where
  | invalidCharacter (offset : Nat)
  | numberExpected (offset : Nat)
  | unitNeeded (value : Nat)
  | unknownUnit (unit : String)
  | overflow
  | empty
  deriving DecidableEq

def DurationError.message : DurationError → String
  | .invalidCharacter offset => "invalid character at " ++ toString offset
  | .numberExpected offset => "expected number at " ++ toString offset
  | .unitNeeded value => "time unit needed, for example " ++ toString value ++ "sec or " ++ toString value ++ "ms"
  | .unknownUnit unit => "unknown time unit " ++ Text.quoted unit ++ ", supported units: ns, us/µs, ms, sec, min, " ++
      "hours, days, weeks, months, years (and few variations)"
  | .overflow => "number is too large or cannot be represented without a lack of precision " ++
      "(values below 1ns are not supported)"
  | .empty => "value was empty"

namespace Duration

/-- What one unit is worth. -/
inductive Scale where
  | nanos (per : Nat)
  | seconds (per : Nat)

/-- A time unit: its names, its worth, and the scale in which a fraction of it has to be exact. -/
structure TimeUnit where
  names : List String
  whole : Scale
  fraction : Option Scale

def timeUnits : List TimeUnit := [
  ⟨["nanos", "nsec", "ns"], .nanos 1, none⟩,
  ⟨["usec", "us", "µs"], .nanos 1000, some (.nanos 1000)⟩,
  ⟨["millis", "msec", "ms"], .nanos 1000000, some (.nanos 1000000)⟩,
  ⟨["seconds", "second", "secs", "sec", "s"], .seconds 1, some (.nanos 1000000000)⟩,
  ⟨["minutes", "minute", "mins", "min", "m"], .seconds 60, some (.nanos 60000000000)⟩,
  ⟨["hours", "hour", "hrs", "hr", "h"], .seconds 3600, some (.seconds 3600)⟩,
  ⟨["days", "day", "d"], .seconds 86400, some (.seconds 86400)⟩,
  ⟨["weeks", "week", "wks", "wk", "w"], .seconds 604800, some (.seconds 604800)⟩,
  ⟨["months", "month", "M"], .seconds 2630016, some (.seconds 2630016)⟩,
  ⟨["years", "year", "yrs", "yr", "y"], .seconds 31557600, some (.seconds 31557600)⟩]

/-- Digits after the point as a fraction. -/
structure Fraction where
  numerator : Nat
  denominator : Nat

def fits (n : Nat) : Except DurationError Nat := if n < Nat.pow 2 64 then .ok n else .error .overflow

def addAmount (total : Duration) (secs nanos : Nat) : Except DurationError Duration := do
  let below ← fits (total.subsecond + nanos)
  let secs ← fits secs
  let _ ← fits (total.seconds + secs + below / 1000000000)
  .ok (total + ofSeconds secs + nanos)

def addWhole (total : Duration) (n : Nat) : Scale → Except DurationError Duration
  | .nanos per => do addAmount total 0 (← fits (n * per))
  | .seconds per => do addAmount total (← fits (n * per)) 0

def exactly (n denominator : Nat) : Except DurationError Nat := do
  let n ← fits n
  if n % denominator = 0 then .ok (n / denominator) else .error .overflow

def addFraction (total : Duration) (f : Fraction) : Option Scale → Except DurationError Duration
  | none => .error .overflow
  | some (.nanos per) => do addAmount total 0 (← exactly (f.numerator * per) f.denominator)
  | some (.seconds per) => do addAmount total (← exactly (f.numerator * per) f.denominator) 0

def addSpan (total : Duration) (n : Nat) (f : Option Fraction) (name : List Char) : Except DurationError Duration :=
  let name := String.ofList name
  if name.isEmpty then .error (.unitNeeded n)
  else
    match timeUnits.find? fun u => u.names.contains name with
    | none => .error (.unknownUnit name)
    | some u => do
      let total ← addWhole total n u.whole
      match f with
      | none => .ok total
      | some f => addFraction total f u.fraction

def isUnitChar (c : Char) : Bool := c.isAlpha || c = 'µ'

def digitValue (c : Char) : Nat := c.toNat - '0'.toNat

mutual

/-- Between two spans.  A fault is reported at `start`, where the gap began. -/
def betweenSpans (total : Duration) (start pos : Nat) : List Char → Except DurationError Duration
  | [] => .ok total
  | c :: rest =>
    if c.isDigit then inNumber total (digitValue c) (pos + c.utf8Size) rest
    else if Text.isBlank c then betweenSpans total start (pos + c.utf8Size) rest
    else .error (.numberExpected start)

def inNumber (total : Duration) (n : Nat) (pos : Nat) : List Char → Except DurationError Duration
  | [] => addSpan total n none []
  | c :: rest =>
    if c.isDigit then do inNumber total (← fits (n * 10 + digitValue c)) (pos + c.utf8Size) rest
    else if Text.isBlank c then inNumber total n (pos + c.utf8Size) rest
    else if isUnitChar c then inUnit total n none [c] (pos + c.utf8Size) rest
    else if c = '.' then inFraction total n ⟨0, 1⟩ pos (pos + c.utf8Size) rest
    else .error (.invalidCharacter pos)

/-- After a point; faults are reported at `mark`, the position behind the last digit or blank, or else the point. -/
def inFraction (total : Duration) (n : Nat) (f : Fraction) (mark pos : Nat) :
    List Char → Except DurationError Duration
  | [] => if f.denominator = 1 then .error (.invalidCharacter mark) else addSpan total n (some f) []
  | c :: rest =>
    if c.isDigit then do
      let denominator ← fits (f.denominator * 10)
      let numerator ← fits (f.numerator * 10 + digitValue c)
      inFraction total n ⟨numerator, denominator⟩ (pos + c.utf8Size) (pos + c.utf8Size) rest
    else if Text.isBlank c then inFraction total n f (pos + c.utf8Size) (pos + c.utf8Size) rest
    else if isUnitChar c ∧ f.denominator ≠ 1 then inUnit total n (some f) [c] (pos + c.utf8Size) rest
    else .error (.invalidCharacter mark)

/-- Inside a unit, whose characters so far are given in reverse. -/
def inUnit (total : Duration) (n : Nat) (f : Option Fraction) (name : List Char) (pos : Nat) :
    List Char → Except DurationError Duration
  | [] => addSpan total n f name.reverse
  | c :: rest =>
    if c.isDigit then do
      inNumber (← addSpan total n f name.reverse) (digitValue c) (pos + c.utf8Size) rest
    else if Text.isBlank c then do
      betweenSpans (← addSpan total n f name.reverse) (pos + c.utf8Size) (pos + c.utf8Size) rest
    else if isUnitChar c then inUnit total n f (c :: name) (pos + c.utf8Size) rest
    else .error (.invalidCharacter pos)

end

/-- A lone `0` needs no unit. -/
def parse (s : String) : Except DurationError Duration :=
  if s = "0" then .ok 0
  else if s.toList.all Text.isBlank then .error .empty
  else betweenSpans 0 0 0 s.toList

end Duration

end SessionOperator
