import SessionOperator.Text.Utf8

/-!
# Targets of requests

What a request is about, as it is written behind the host: a path and, behind a question mark, a query.  The text of a
target is put together from names as they are.  So a name may hold the query, or a mark behind which the rest is dropped,
or something that no target can hold.

* `Target.parse`: the parts of a target that is written out;
* `Query.encode`, `Query.decode`: pairs of names and values as texts.
-/

namespace SessionOperator

/-! ### Queries -/

namespace Query

def isPlain (byte : UInt8) : Bool :=
  let n := byte.toNat
  (48 ≤ n && n ≤ 57) || (65 ≤ n && n ≤ 90) || (97 ≤ n && n ≤ 122) || n = 42 || n = 45 || n = 46 || n = 95

def hexDigit (n : Nat) : Char := Char.ofNat (if n < 10 then 48 + n else 55 + n)

/-- A byte as it stands in a query: itself, a plus sign for a blank, or its number. -/
def encodeByte (byte : UInt8) : List Char :=
  if isPlain byte then [Char.ofNat byte.toNat]
  else if byte = 32 then ['+']
  else ['%', hexDigit (byte.toNat / 16), hexDigit (byte.toNat % 16)]

def encode (text : String) : String := String.ofList (text.toUTF8.toList.flatMap encodeByte)

def hexValue? (byte : Nat) : Option Nat :=
  if 48 ≤ byte ∧ byte ≤ 57 then some (byte - 48)
  else if 65 ≤ byte ∧ byte ≤ 70 then some (byte - 55)
  else if 97 ≤ byte ∧ byte ≤ 102 then some (byte - 87)
  else none

/-- The bytes that are written; a percent sign without two digits behind it stands for itself. -/
def decodeBytes : List Nat → List Nat
  | [] => []
  | 37 :: high :: low :: rest =>
    match hexValue? high, hexValue? low with
    | some h, some l => (h * 16 + l) :: decodeBytes rest
    | _, _ => 37 :: decodeBytes (high :: low :: rest)
  | 43 :: rest => 32 :: decodeBytes rest
  | byte :: rest => byte :: decodeBytes rest

def decodeText (bytes : List Nat) : String := Utf8.decode (decodeBytes bytes)

/-- The pieces between the ampersands. -/
def pieces : List Nat → List (List Nat)
  | [] => [[]]
  | 38 :: rest => [] :: pieces rest
  | byte :: rest =>
    match pieces rest with
    | piece :: others => (byte :: piece) :: others
    | [] => [[byte]]

/-- A piece is split at its first equals sign. -/
def pair (piece : List Nat) : String × String :=
  (decodeText (piece.takeWhile (· ≠ 61)), decodeText ((piece.dropWhile (· ≠ 61)).drop 1))

/-- The pairs of a query; empty pieces do not count. -/
def decode (text : String) : List (String × String) :=
  ((pieces (text.toUTF8.toList.map UInt8.toNat)).filter fun piece => !piece.isEmpty).map pair

end Query

/-! ### Targets -/

structure Target where
  path : String
  query : List (String × String)
  deriving DecidableEq

namespace Target

/-- Why a request cannot be put together. -/
inductive Fault where
  | noName
  | character
  | tooLong
  deriving DecidableEq

def Fault.message : Fault → String
  | noName => "failed to validate request: A non-empty name is required"
  | character => "failed to build request: invalid uri character"
  | tooLong => "failed to build request: uri too long"

def greatestLength : Nat := 65534

/-- Neither blank nor control character; all beyond ASCII are visible. -/
def isVisible (c : Char) : Bool := 0x20 < c.toNat && c.toNat ≠ 0x7f

def isPathCharacter (c : Char) : Bool :=
  isVisible c && c ≠ '#' && c ≠ '<' && c ≠ '>' && c ≠ '?' && c.toNat ≠ 0x60

def isQueryCharacter (c : Char) : Bool := isVisible c && c ≠ '"' && c ≠ '#' && c ≠ '<' && c ≠ '>'

def parse (text : String) : Except Fault Target :=
  if greatestLength < text.utf8ByteSize then .error .tooLong
  else
    let path := text.toList.takeWhile fun c => c ≠ '?' && c ≠ '#'
    let query := match text.toList.dropWhile fun c => c ≠ '?' && c ≠ '#' with
      | '?' :: rest => rest.takeWhile (· ≠ '#')
      | _ => []
    if path.all isPathCharacter && query.all isQueryCharacter then
      .ok ⟨String.ofList path, Query.decode (String.ofList query)⟩
    else .error .character

end Target

end SessionOperator
