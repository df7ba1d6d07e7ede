import SessionOperator.Session.Basic
import SessionOperator.Decimal.Nearest
import SessionOperator.Time.Rfc3339
import SessionOperator.Text.Trim

/-!
# Idleness

Two signals say whether a session is in use: how much processor time its container takes, and when the proxy last
forwarded a request.  A session is idle when no signal says that it is used and at least one says that it is idle.

* `IdleDecision.combine`: the rule above;
* `Idle.millicores`, `Idle.ofUsage`: the signal of the processor;
* `Idle.ofLastRequest`: the signal of the proxy.
-/

namespace SessionOperator

/-- Signals in increasing order of weight. -/
inductive IdleDecision where
  | unknown
  | idle
  | notIdle
  deriving DecidableEq

namespace IdleDecision

def name : IdleDecision → String
  | unknown => "Unknown"
  | idle => "Idle"
  | notIdle => "NotIdle"

/-- Of two signals the weightier one. -/
def join : IdleDecision → IdleDecision → IdleDecision
  | notIdle, _ => notIdle
  | _, notIdle => notIdle
  | idle, _ => idle
  | unknown, d => d

/-- Whether the weightiest signal says idle. -/
def combine (decisions : List IdleDecision) : Bool := decisions.foldl join unknown = idle

end IdleDecision

namespace Idle

/-- A decimal numeral: its digits as one number and the power of ten that divides it. -/
structure Numeral where
  digits : Nat
  places : Nat

/-- The binary number nearest to a numeral. -/
def Numeral.toFloat (n : Numeral) : Float := Float.ofBits (UInt64.ofNat (Nearest.bits n.digits (Nat.pow 10 n.places)))

def readDigits (cs : List Char) : Nat := cs.foldl (fun n c => n * 10 + (c.toNat - '0'.toNat)) 0

/-- A numeral with an optional fraction at the start of a text. -/
def numeral? (cs : List Char) : Option (Numeral × List Char) :=
  let whole := cs.takeWhile Char.isDigit
  if whole.isEmpty then none
  else
    match cs.dropWhile Char.isDigit with
    | '.' :: rest =>
      let fraction := rest.takeWhile Char.isDigit
      if fraction.isEmpty then some (⟨readDigits whole, 0⟩, '.' :: rest)
      else some (⟨readDigits (whole ++ fraction), fraction.length⟩, rest.dropWhile Char.isDigit)
    | rest => some (⟨readDigits whole, 0⟩, rest)

/-- How many millicores a unit is worth. -/
def scale? : List Char → Option Float
  | [] => some 1000.0
  | ['m'] => some 1.0
  | ['u'] => some 1e-3
  | ['n'] => some 1e-6
  | _ => none

/-- The millicores of a processor quantity such as `250m`, `12345678n` or `1.5`. -/
def millicores (quantity : String) : Option Float := do
  let (value, unit) ← numeral? (Text.trim quantity).toList
  let scale ← scale? unit
  some (value.toFloat * scale)

/-- Usage below the threshold is idle. -/
def ofUsage (usage : Option Float) (thresholdMillicores : Nat) : IdleDecision :=
  match usage with
  | none => .unknown
  | some u => if u < Float.ofNat thresholdMillicores then .idle else .notIdle

/-- A last request that is old enough is idle. -/
def ofLastRequest (last : Option Instant) (now : Instant) (threshold : Duration) : IdleDecision :=
  match last with
  | none => .unknown
  | some last => if threshold ≤ now.elapsed last then .idle else .notIdle

end Idle

end SessionOperator
