/-!
# The binary floating-point number nearest to a fraction

A 64-bit binary floating-point number is a multiple of a power of two with at most 53 binary digits.  Read as one
natural number its bits count the numbers below it, so that stepping to the next number is adding one.

* `Nearest.bits`: the bits of the number nearest to a fraction, of two equally near ones the one whose last digit is
  even; infinity if that is beyond the greatest number.
* `Nearest.whole_near`, `Nearest.whole_even`: rounding to a whole number is off by one half at most, and what lies in
  the middle goes to the even neighbour.
-/

namespace SessionOperator

namespace Nearest

/-- The greatest power of two that is at most `num / den`. -/
def leadingPower (num den : Nat) : Int :=
  let e : Int := (num.log2 : Int) - den.log2
  if den * Nat.pow 2 e.toNat ≤ num * Nat.pow 2 (-e).toNat then e else e - 1

/-- The whole number nearest to `num / den`, an even one if two are. -/
def whole (num den : Nat) : Nat :=
  let below := num / den
  let rest := num % den
  if den < 2 * rest ∨ (2 * rest = den ∧ below % 2 = 1) then below + 1 else below

theorem whole_near (num den : Nat) (h : 0 < den) :
    2 * num ≤ 2 * (whole num den * den) + den ∧ 2 * (whole num den * den) ≤ 2 * num + den := by
  have hnum : num / den * den + num % den = num := by rw [Nat.mul_comm]; exact Nat.div_add_mod num den
  have hrest := Nat.mod_lt num h
  unfold whole
  dsimp only
  split
  · rw [Nat.add_mul]; omega
  · omega

theorem whole_even (num den : Nat) (h : 2 * (num % den) = den) : whole num den % 2 = 0 := by
  unfold whole
  dsimp only
  split <;> omega

def infinity : Nat := 2047 * Nat.pow 2 52

/-- The last of the 53 digits stands for `2 ^ e`; numbers close to zero have fewer digits. -/
def bits (num den : Nat) : Nat :=
  if num = 0 then 0
  else
    let e := max (leadingPower num den - 52) (-1074)
    min infinity ((e + 1074).toNat * Nat.pow 2 52 + whole (num * Nat.pow 2 (-e).toNat) (den * Nat.pow 2 e.toNat))

end Nearest

end SessionOperator
