import SessionOperator.Time.Instant
import SessionOperator.Text.Trim

/-!
# RFC 3339 texts of instants

Instants are written in UTC with a `Z`; second 60 stands for a leap second, and years outside 0000-9999 carry a sign.
Two grammars are read.  The strict one takes four-digit years, two digits for every other number and nothing around
the text.  The lenient one is that of timestamps in cluster objects: numbers may be shorter, years may carry a sign,
blanks may stand between the parts, and `UTC` may stand for the offset.

* `Instant.write`: the text with a chosen number of fraction digits;
* `Instant.parse?`: the strict grammar;
* `Instant.parseLenient`: the lenient grammar, with the reason of a failure.
-/

namespace SessionOperator

inductive TimeError where
  | outOfRange
  /-- The time is in range at its offset but not in UTC. -/
  | impossible
  | invalid
  | tooShort
  | tooLong
  deriving DecidableEq

def TimeError.message : TimeError → String
  | .outOfRange => "input is out of range"
  | .impossible => "no possible date and time matching input"
  | .invalid => "input contains invalid characters"
  | .tooShort => "premature end of input"
  | .tooLong => "trailing input"

/-- How many digits of a fraction are written. -/
inductive FractionDigits where
  | none
  | six
  /-- None, three, six or nine: the fewest that are exact. -/
  | exact

namespace Instant

/-! ### Writing -/

def padded (width n : Nat) : List Char :=
  let ds := Nat.toDigits 10 n
  List.replicate (width - ds.length) '0' ++ ds

def writeYear (year : Int) : List Char :=
  if 0 ≤ year ∧ year ≤ 9999 then padded 4 year.toNat
  else (if year < 0 then '-' else '+') :: padded 4 year.natAbs

def writeFraction (digits : FractionDigits) (nano : Nat) : List Char :=
  match digits with
  | .none => []
  | .six => '.' :: padded 6 (nano / 1000)
  | .exact =>
    if nano = 0 then []
    else if nano % 1000000 = 0 then '.' :: padded 3 (nano / 1000000)
    else if nano % 1000 = 0 then '.' :: padded 6 (nano / 1000)
    else '.' :: padded 9 nano

def write (t : Instant) (digits : FractionDigits) : String :=
  let date := Date.ofDay t.day
  let second := t.second % 60 + if t.isLeapSecond then 1 else 0
  String.ofList (writeYear date.year ++ '-' :: padded 2 date.month ++ '-' :: padded 2 date.day ++
    'T' :: padded 2 (t.second / 3600) ++ ':' :: padded 2 (t.second / 60 % 60) ++ ':' :: padded 2 second ++
    writeFraction digits (t.nano % 1000000000) ++ ['Z'])

/-- The text in whole seconds, as timestamps are recorded. -/
def stamp (t : Instant) : String := t.write .none

/-! ### Numbers -/

def byteLength (cs : List Char) : Nat := cs.foldl (fun n c => n + c.utf8Size) 0

/-- Reads at least `least` and at most `most` digits of a number below `2 ^ 63`. -/
def readNumber (least most : Nat) (cs : List Char) : Except TimeError (Nat × List Char) :=
  let ds := (cs.take most).takeWhile Char.isDigit
  let n := ds.foldl (fun n c => n * 10 + (c.toNat - '0'.toNat)) 0
  if byteLength cs < least then .error .tooShort
  else if ds.length < least then .error .invalid
  else if n < Nat.pow 2 63 then .ok (n, cs.drop ds.length)
  else .error .outOfRange

def readChar (c : Char) : List Char → Except TimeError (List Char)
  | [] => .error .tooShort
  | d :: rest => if d = c then .ok rest else .error .invalid

/-- Nine digits count, any further ones are skipped. -/
def readFraction : List Char → Except TimeError (Nat × List Char)
  | '.' :: rest => do
    let (n, after) ← readNumber 1 9 rest
    .ok (n * Nat.pow 10 (9 - (rest.length - after.length)), after.dropWhile Char.isDigit)
  | rest => .ok (0, rest)

def readSeparator : List Char → Except TimeError (List Char)
  | [] => .error .tooShort
  | c :: rest => if c = 'T' ∨ c = 't' ∨ c = ' ' then .ok rest else .error .invalid

def digitPair (first last : Char) (cs : List Char) (beyond : TimeError) : Except TimeError (Nat × List Char) :=
  match cs with
  | a :: b :: rest =>
    if a.isDigit ∧ b.isDigit then
      if first ≤ a ∧ a ≤ last then .ok ((a.toNat - 48) * 10 + (b.toNat - 48), rest) else .error beyond
    else .error .invalid
  | _ => .error (if byteLength cs < 2 then .tooShort else .invalid)

/-- Minutes east of UTC. -/
def readOffset (colon : List Char → Except TimeError (List Char)) (cs : List Char) :
    Except TimeError (Int × List Char) :=
  match cs with
  | [] => .error .tooShort
  | c :: rest =>
    if c = 'Z' ∨ c = 'z' then .ok (0, rest)
    else if c = '+' ∨ c = '-' ∨ c = '\u2212' then do
      let (hours, rest) ← digitPair '0' '9' rest .outOfRange
      let rest ← colon rest
      let (minutes, rest) ← digitPair '0' '5' rest .outOfRange
      let total : Int := hours * 60 + minutes
      .ok (if c = '+' then total else -total, rest)
    else .error .invalid

/-! ### Assembling -/

structure Parts where
  year : Int
  month : Nat
  day : Nat
  hour : Nat
  minute : Nat
  second : Nat
  nano : Nat
  /-- Minutes east of UTC. -/
  offset : Int

/-- Second 60 is a leap second of the minute before; the offset is taken off last. -/
def ofParts (p : Parts) : Except TimeError Instant :=
  match Date.ofParts? p.year p.month p.day with
  | none => .error .outOfRange
  | some date =>
    if h : Date.inCalendar date.toDay ∧ p.hour < 24 ∧ p.minute < 60 ∧ p.second ≤ 60 ∧ p.nano < 1000000000 ∧
        -1440 < p.offset ∧ p.offset < 1440 then
      let minutes := (p.hour * 60 + p.minute : Nat) - p.offset
      let day := date.toDay + minutes / 1440
      if hday : Date.inCalendar day then
        .ok {
          day := day
          second := (minutes % 1440).toNat * 60 + min p.second 59
          nano := if p.second = 60 then p.nano + 1000000000 else p.nano
          firstDay_le := ((Date.inCalendar_iff day).1 hday).1
          le_lastDay := ((Date.inCalendar_iff day).1 hday).2
          second_lt := by omega
          nano_lt := by split <;> omega
          leap_last := by split <;> omega }
      else .error .impossible
    else .error .outOfRange

def readStrict (cs : List Char) : Except TimeError Instant := do
  let (year, cs) ← readNumber 4 4 cs
  let cs ← readChar '-' cs
  let (month, cs) ← readNumber 2 2 cs
  let cs ← readChar '-' cs
  let (day, cs) ← readNumber 2 2 cs
  let cs ← readSeparator cs
  let (hour, cs) ← readNumber 2 2 cs
  let cs ← readChar ':' cs
  let (minute, cs) ← readNumber 2 2 cs
  let cs ← readChar ':' cs
  let (second, cs) ← readNumber 2 2 cs
  let (nano, cs) ← readFraction cs
  let (offset, cs) ← readOffset (readChar ':') cs
  if cs.isEmpty then ofParts ⟨year, month, day, hour, minute, second, nano, offset⟩ else .error .tooLong

def parse? (s : String) : Option Instant := (readStrict s.toList).toOption

/-! ### The lenient grammar -/

/-- A year with a sign has any number of digits but fits 32 bits. -/
def readYearLenient (cs : List Char) : Except TimeError (Int × List Char) := do
  let (year, rest) ← match Text.trimStart cs with
    | '-' :: rest => (readNumber 1 rest.length rest).map fun (n, rest) => (-(n : Int), rest)
    | '+' :: rest => (readNumber 1 rest.length rest).map fun (n, rest) => ((n : Int), rest)
    | cs => (readNumber 1 4 cs).map fun (n, rest) => ((n : Int), rest)
  if -Int.pow 2 31 ≤ year ∧ year < Int.pow 2 31 then .ok (year, rest) else .error .outOfRange

def readShortNumber (cs : List Char) : Except TimeError (Nat × List Char) := readNumber 1 2 (Text.trimStart cs)

def readMark (c : Char) (cs : List Char) : Except TimeError (List Char) := readChar c (Text.trimStart cs)

def within (low high n : Nat) : Except TimeError Unit :=
  if low ≤ n ∧ n ≤ high then .ok () else .error .outOfRange

def isUtcName (cs : List Char) : Bool := (cs.take 3).map Char.toUpper = ['U', 'T', 'C']

def readOffsetLenient (cs : List Char) : Except TimeError (Int × List Char) :=
  let cs := Text.trimStart cs
  if isUtcName cs then .ok (0, cs.drop 3)
  else readOffset (fun rest => .ok (rest.dropWhile fun c => c = ':' || Text.isBlank c)) cs

def readLenient (cs : List Char) : Except TimeError Instant := do
  let (year, cs) ← readYearLenient cs
  let cs ← readMark '-' cs
  let (month, cs) ← readShortNumber cs
  within 1 12 month
  let cs ← readMark '-' cs
  let (day, cs) ← readShortNumber cs
  within 1 31 day
  let cs ← readSeparator cs
  let (hour, cs) ← readShortNumber cs
  within 0 23 hour
  let cs ← readMark ':' cs
  let (minute, cs) ← readShortNumber cs
  within 0 59 minute
  let cs ← readMark ':' cs
  let (second, cs) ← readShortNumber cs
  within 0 60 second
  let (nano, cs) ← readFraction cs
  let (offset, cs) ← readOffsetLenient cs
  if (Text.trimStart cs).isEmpty then ofParts ⟨year, month, day, hour, minute, second, nano, offset⟩
  else .error .tooLong

def parseLenient (s : String) : Except TimeError Instant := readLenient s.toList

end Instant

end SessionOperator
