import SessionOperator.Decimal.Nearest
import SessionOperator.Decimal.Shortest

/-!
# Decimal numbers scaled in floating point

Numbers of JSON texts are read in floating point: the digits are rounded to a number, and that is multiplied or divided
by a power of ten, which is rounded itself.  The result may miss the nearest number by a unit in the last place.

* `Scaled.bits?`: the bits of `digits * 10 ^ exponent` read in this way, unless they go beyond the greatest number.
-/

namespace SessionOperator

namespace Scaled

open Shortest (Ratio)

/-- The bits of the number nearest to the product of two numbers. -/
def product (a b : Nat) : Nat :=
  let x := Shortest.decode (UInt64.ofNat a)
  let y := Shortest.decode (UInt64.ofNat b)
  let r := Ratio.ofBinary (x.mantissa * y.mantissa) (x.exponent + y.exponent)
  Nearest.bits r.num r.den

/-- The bits of the number nearest to a quotient. -/
def quotient (a b : Nat) : Nat :=
  let x := Shortest.decode (UInt64.ofNat a)
  let y := Shortest.decode (UInt64.ofNat b)
  let r := Ratio.ofBinary x.mantissa (x.exponent - y.exponent)
  Nearest.bits r.num (r.den * y.mantissa)

/-- The greatest power of ten in one step. -/
def greatestPower : Nat := 308

def power (n : Nat) : Nat := Nearest.bits (Nat.pow 10 n) 1

/-- Scales a number by a power of ten, in several steps if that is too small for one. -/
def scale? : Nat → Nat → Int → Option Nat
  | 0, _, _ => some 0
  | fuel + 1, a, exponent =>
    if exponent.natAbs ≤ greatestPower then
      if 0 ≤ exponent then
        let p := product a (power exponent.natAbs)
        if p = Nearest.infinity then none else some p
      else some (quotient a (power exponent.natAbs))
    else if a = 0 then some 0
    else if 0 ≤ exponent then none
    else scale? fuel (quotient a (power greatestPower)) (exponent + greatestPower)

/-- Three steps bring any number of 64 binary digits down to zero. -/
def bits? (digits : Nat) (exponent : Int) : Option Nat := scale? 4 (Nearest.bits digits 1) exponent

end Scaled

end SessionOperator
