/-!
# Decimal text of binary floating-point numbers

The text of a 64-bit binary floating-point number shows the fewest digits that read back as the same number, and of
the texts with that many digits the one nearest to it.

* `Shortest.decode`: a finite number as `mantissa * 2 ^ exponent`;
* `Shortest.digits`: the shortest digits and the power of ten of the last one;
* `FloatText.write`: their text, in positional notation as far as the chosen format goes.
-/

namespace SessionOperator

namespace Shortest

/-- A positive finite number `mantissa * 2 ^ exponent`; `lowBoundary` tells that the gap below it is half as wide
as the one above. -/
structure Binary where
  mantissa : Nat
  exponent : Int
  lowBoundary : Bool

def decode (bits : UInt64) : Binary :=
  let field : Nat := bits.toNat / Nat.pow 2 52 % Nat.pow 2 11
  let fraction : Nat := bits.toNat % Nat.pow 2 52
  if field = 0 then ⟨fraction, -1074, false⟩
  else ⟨fraction + Nat.pow 2 52, (field : Int) - 1075, fraction = 0 ∧ 1 < field⟩

/-- A fraction of natural numbers. -/
structure Ratio where
  num : Nat
  den : Nat

def Ratio.le (a b : Ratio) : Bool := a.num * b.den ≤ b.num * a.den

def Ratio.lt (a b : Ratio) : Bool := a.num * b.den < b.num * a.den

/-- `n * 2 ^ e` -/
def Ratio.ofBinary (n : Nat) (e : Int) : Ratio :=
  if 0 ≤ e then ⟨n * Nat.pow 2 e.toNat, 1⟩ else ⟨n, Nat.pow 2 (-e).toNat⟩

/-- `n * 10 ^ e` -/
def Ratio.ofDecimal (n : Nat) (e : Int) : Ratio :=
  if 0 ≤ e then ⟨n * Nat.pow 10 e.toNat, 1⟩ else ⟨n, Nat.pow 10 (-e).toNat⟩

def Ratio.scale (a : Ratio) (e : Int) : Ratio :=
  if 0 ≤ e then ⟨a.num * Nat.pow 10 e.toNat, a.den⟩ else ⟨a.num, a.den * Nat.pow 10 (-e).toNat⟩

/-- The power of ten of the leading digit of a positive fraction below `10 ^ 400`, searched downwards. -/
def leadingPower (a : Ratio) : Nat → Int → Int
  | 0, e => e
  | fuel + 1, e => if (Ratio.ofDecimal 1 e).le a then e else leadingPower a fuel (e - 1)

/-- The two neighbours of a number on the grid of multiples of `10 ^ e` that read back as it; the nearer first. -/
def onGrid (low value high : Ratio) (closed : Bool) (e : Int) : List Nat :=
  let scaled := value.scale (-e)
  let below := scaled.num / scaled.den
  let inside (k : Nat) : Bool :=
    let point := Ratio.ofDecimal k e
    if closed then low.le point && point.le high else low.lt point && point.lt high
  let rest := scaled.num % scaled.den
  let order := if 2 * rest < scaled.den ∨ (2 * rest = scaled.den ∧ below % 2 = 0) then [below, below + 1]
    else [below + 1, below]
  order.filter inside

def search (low value high : Ratio) (closed : Bool) (leading : Int) : Nat → Nat → Nat × Int
  | 0, _ => (0, 0)
  | fuel + 1, count =>
    let e := leading - (count : Int) + 1
    match onGrid low value high closed e with
    | k :: _ => (k, e)
    | [] => search low value high closed leading fuel (count + 1)

/-- Shortest digits of a positive finite number, and the power of ten of the last digit. -/
def digits (b : Binary) : Nat × Int :=
  let value := Ratio.ofBinary (4 * b.mantissa) (b.exponent - 2)
  let high := Ratio.ofBinary (4 * b.mantissa + 2) (b.exponent - 2)
  let low := Ratio.ofBinary (4 * b.mantissa - if b.lowBoundary then 1 else 2) (b.exponent - 2)
  search low value high (b.mantissa % 2 = 0) (leadingPower value 800 400) 18 1

end Shortest

/-- Which numbers are written without an exponent: those whose leading digit has a power of ten in this range. -/
structure FloatText where
  least : Int
  greatest : Int

namespace FloatText

/-- The text of numbers in JSON documents, and wherever one of them is named. -/
def json : FloatText := ⟨-5, 15⟩

private def zeros (n : Nat) : String := String.ofList (List.replicate n '0')

def dropZeros : Nat → Nat → Int → Nat × Int
  | 0, n, e => (n, e)
  | fuel + 1, n, e => if n ≠ 0 ∧ n % 10 = 0 then dropZeros fuel (n / 10) (e + 1) else (n, e)

/-- The text of a finite number; a whole number in positional notation keeps one zero after the point, and an exponent
has its sign. -/
def write (format : FloatText) (bits : UInt64) : String :=
  let sign := if Nat.pow 2 63 ≤ bits.toNat then "-" else ""
  let binary := Shortest.decode bits
  if binary.mantissa = 0 then sign ++ "0.0"
  else
    let (n, e) := Shortest.digits binary
    let (n, e) := dropZeros 400 n e
    let text := toString n
    let leading := e + (text.length : Int) - 1
    if format.least ≤ leading ∧ leading ≤ format.greatest then
      if 0 ≤ e then sign ++ text ++ zeros e.toNat ++ ".0"
      else if 0 ≤ leading then
        let whole := (leading + 1).toNat
        sign ++ String.ofList (text.toList.take whole) ++ "." ++ String.ofList (text.toList.drop whole)
      else sign ++ "0." ++ zeros (-leading - 1).toNat ++ text
    else
      let tail := text.toList.drop 1
      let point := if tail.isEmpty then "" else "." ++ String.ofList tail
      let mark := if 0 ≤ leading then "e+" else "e"
      sign ++ String.ofList (text.toList.take 1) ++ point ++ mark ++ toString leading

end FloatText

end SessionOperator
