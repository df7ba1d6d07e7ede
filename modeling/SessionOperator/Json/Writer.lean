import SessionOperator.Json
import SessionOperator.Decimal.Shortest

/-!
# Writing JSON texts

The text of a value has no blanks, and the fields of an object in the order of their keys.  Quotes, backslashes and
control characters are escaped; in ASCII texts so is everything from U+007F on, as UTF-16 units.
-/

namespace SessionOperator

namespace Json

namespace Writer

def hexChar (n : Nat) : Char := if n < 10 then Char.ofNat (48 + n) else Char.ofNat (87 + n)

def unit (n : Nat) : List Char :=
  ['\\', 'u', hexChar (n / 4096 % 16), hexChar (n / 256 % 16), hexChar (n / 16 % 16), hexChar (n % 16)]

def units (c : Char) : List Char :=
  if c.toNat < 0x10000 then unit c.toNat
  else unit (0xD800 + (c.toNat - 0x10000) / 0x400) ++ unit (0xDC00 + (c.toNat - 0x10000) % 0x400)

def escape (ascii : Bool) (c : Char) : List Char :=
  match c with
  | '"' => ['\\', '"']
  | '\\' => ['\\', '\\']
  | '\n' => ['\\', 'n']
  | '\r' => ['\\', 'r']
  | '\t' => ['\\', 't']
  | '\x08' => ['\\', 'b']
  | '\x0c' => ['\\', 'f']
  | c => if c.toNat < 0x20 ∨ (ascii ∧ 0x7f ≤ c.toNat) then units c else [c]

def quoted (ascii : Bool) (s : String) : String :=
  "\"" ++ String.ofList (s.toList.flatMap (escape ascii)) ++ "\""

mutual

def render (ascii : Bool) : Json → String
  | .null => "null"
  | .bool true => "true"
  | .bool false => "false"
  | .int n => toString n
  | .float bits => FloatText.json.write bits
  | .str s => quoted ascii s
  | .arr items => "[" ++ ",".intercalate (renderItems ascii items) ++ "]"
  | .obj fields => "\x7b" ++ ",".intercalate (renderFields ascii fields) ++ "\x7d"

def renderItems (ascii : Bool) : List Json → List String
  | [] => []
  | item :: rest => render ascii item :: renderItems ascii rest

def renderFields (ascii : Bool) : List (String × Json) → List String
  | [] => []
  | (key, value) :: rest => (quoted ascii key ++ ":" ++ render ascii value) :: renderFields ascii rest

end

end Writer

/-- The text with all characters that need no escape written as they are. -/
def compact (j : Json) : String := Writer.render false j

/-- The text in printable ASCII alone. -/
def ascii (j : Json) : String := Writer.render true j

end Json

end SessionOperator
