/-!
# Reading bytes as UTF-8

* `Utf8.decode`: the characters of a sequence of bytes.  A byte that starts no character, and the start of a character
  that does not go on as it should, give the replacement character.
-/

namespace SessionOperator

namespace Utf8

/-- A character of which some bytes have been read: what they say of its code, how many are to come, and between which
bounds the next one lies. -/
structure Pending where
  code : Nat
  missing : Nat
  low : Nat
  high : Nat

def replacement : Char := '\uFFFD'

/-- A byte where a character is to start. -/
def first (byte : Nat) : List Char × Option Pending :=
  if byte < 0x80 then ([Char.ofNat byte], none)
  else if 0xC2 ≤ byte ∧ byte < 0xE0 then ([], some ⟨byte - 0xC0, 1, 0x80, 0xBF⟩)
  else if 0xE0 ≤ byte ∧ byte < 0xF0 then
    ([], some ⟨byte - 0xE0, 2, if byte = 0xE0 then 0xA0 else 0x80, if byte = 0xED then 0x9F else 0xBF⟩)
  else if 0xF0 ≤ byte ∧ byte < 0xF5 then
    ([], some ⟨byte - 0xF0, 3, if byte = 0xF0 then 0x90 else 0x80, if byte = 0xF4 then 0x8F else 0xBF⟩)
  else ([replacement], none)

/-- A byte that goes on with a character, or breaks it off and starts another one. -/
def next (p : Pending) (byte : Nat) : List Char × Option Pending :=
  if p.low ≤ byte ∧ byte ≤ p.high then
    let code := p.code * 64 + (byte - 0x80)
    if p.missing ≤ 1 then ([Char.ofNat code], none) else ([], some ⟨code, p.missing - 1, 0x80, 0xBF⟩)
  else
    let (cs, p) := first byte
    (replacement :: cs, p)

def decodeFrom : Option Pending → List Nat → List Char
  | none, [] => []
  | some _, [] => [replacement]
  | none, byte :: rest =>
    let (cs, p) := first byte
    cs ++ decodeFrom p rest
  | some p, byte :: rest =>
    let (cs, p) := next p byte
    cs ++ decodeFrom p rest

def decode (bytes : List Nat) : String := String.ofList (decodeFrom none bytes)

end Utf8

end SessionOperator
