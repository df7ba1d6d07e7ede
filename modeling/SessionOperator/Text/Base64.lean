/-!
# Base64

Binary data written as text, in groups of four symbols, the last of which is filled up with `=`.

* `Base64.check`: what is wrong with a text.  A text is right only if its last group is full and the bits that its last
  symbol adds to no byte are zero.
-/

namespace SessionOperator

namespace Base64

inductive Fault where
  | symbol (byte : UInt8) (offset : Nat)
  | length (symbols : Nat)
  | lastSymbol (byte : UInt8) (offset : Nat)
  | padding
  deriving DecidableEq

def Fault.message : Fault → String
  | symbol byte offset => "Invalid symbol " ++ toString byte.toNat ++ ", offset " ++ toString offset ++ "."
  | length symbols => "Invalid input length: " ++ toString symbols
  | lastSymbol byte offset => "Invalid last symbol " ++ toString byte.toNat ++ ", offset " ++ toString offset ++ "."
  | padding => "Invalid padding"

def pad : UInt8 := 61

/-- The six bits of a symbol. -/
def value? (byte : UInt8) : Option Nat :=
  let n := byte.toNat
  if 65 ≤ n ∧ n ≤ 90 then some (n - 65)
  else if 97 ≤ n ∧ n ≤ 122 then some (n - 97 + 26)
  else if 48 ≤ n ∧ n ≤ 57 then some (n - 48 + 52)
  else if n = 43 then some 62
  else if n = 47 then some 63
  else none

/-- Finds fault with the first byte that is no symbol. -/
def checkSymbols (offset : Nat) : List UInt8 → Except Fault Unit
  | [] => .ok ()
  | byte :: rest => if (value? byte).isSome then checkSymbols (offset + 1) rest else .error (.symbol byte offset)

/-- The last group: two symbols at least, the bits that are left over from the last one zero, and nothing but padding
behind them. -/
def checkGroup (offset : Nat) (group : List UInt8) : Except Fault Unit := do
  let symbols := group.takeWhile (· ≠ pad)
  let padding := group.dropWhile (· ≠ pad)
  checkSymbols offset symbols
  if !padding.isEmpty && (symbols.length < 2 || padding.any (· ≠ pad)) then throw (.symbol pad (offset + symbols.length))
  else if !group.isEmpty && symbols.length < 2 then throw (.length (offset + symbols.length))
  else if group.length % 4 ≠ 0 then throw .padding
  else
    match symbols.getLast? with
    | none => return
    | some byte =>
      if ((value? byte).getD 0) % Nat.pow 4 (4 - symbols.length) = 0 then return
      else throw (.lastSymbol byte (offset + symbols.length - 1))

/-- A byte too many that is no symbol is noticed first. -/
def checkExcess (bytes : List UInt8) : Except Fault Unit :=
  match bytes.getLast? with
  | some byte =>
    if bytes.length % 4 = 1 && byte ≠ pad && (value? byte).isNone then .error (.symbol byte (bytes.length - 1)) else .ok ()
  | none => .ok ()

def check (text : String) : Except Fault Unit := do
  let bytes := text.toUTF8.toList
  let start := (bytes.length - 1) / 4 * 4
  checkExcess bytes
  checkSymbols 0 (bytes.take start)
  checkGroup start (bytes.drop start)

end Base64

end SessionOperator
