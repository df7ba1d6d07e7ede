import SessionOperator.Decode

/-!
# Places in a JSON text

Readers of JSON texts tell where a text goes wrong: the line, counted from one, and how many bytes of the line had been
read.  Some faults are noticed one byte ahead.

* `Misread.message`: the wording of a fault together with its place;
* `TextReader`: readers of texts, which go on to a later place or fail.
-/

namespace SessionOperator

namespace Json

structure Place where
  line : Nat
  column : Nat
  deriving DecidableEq

/-- What makes a text no JSON. -/
inductive SyntaxFault where
  | endInList
  | endInObject
  | endInText
  | endInValue
  | noColon
  | noListEnd
  | noObjectEnd
  | noWord
  | noValue
  | badEscape
  | badNumber
  | numberTooLarge
  | controlCharacter
  | keyIsNoText
  | loneSurrogate
  | endInSurrogate
  | trailingComma
  | trailingText
  | tooDeep
  deriving DecidableEq

def SyntaxFault.message : SyntaxFault → String
  | .endInList => "EOF while parsing a list"
  | .endInObject => "EOF while parsing an object"
  | .endInText => "EOF while parsing a string"
  | .endInValue => "EOF while parsing a value"
  | .noColon => "expected `:`"
  | .noListEnd => "expected `,` or `]`"
  | .noObjectEnd => "expected `,` or `\x7d`"
  | .noWord => "expected ident"
  | .noValue => "expected value"
  | .badEscape => "invalid escape"
  | .badNumber => "invalid number"
  | .numberTooLarge => "number out of range"
  | .controlCharacter => "control character (\\u0000-\\u001F) found while parsing a string"
  | .keyIsNoText => "key must be a string"
  | .loneSurrogate => "lone leading surrogate in hex escape"
  | .endInSurrogate => "unexpected end of hex escape"
  | .trailingComma => "trailing comma"
  | .trailingText => "trailing characters"
  | .tooDeep => "recursion limit exceeded"

/-- Why a text could not be read: it is no JSON, or it holds something else than what was to be read. -/
inductive MisreadCause where
  | malformed (fault : SyntaxFault)
  | unfit (fault : DecodeError)
  deriving DecidableEq

def MisreadCause.message : MisreadCause → String
  | .malformed fault => fault.message
  | .unfit fault => fault.message

/-- The cause, and the place if what was read is a text. -/
structure Misread where
  cause : MisreadCause
  place : Option Place
  deriving DecidableEq

def Misread.message (m : Misread) : String :=
  match m.place with
  | some p => m.cause.message ++ " at line " ++ toString p.line ++ " column " ++ toString p.column
  | none => m.cause.message

def Misread.ofDecodeError (fault : DecodeError) : Misread := ⟨.unfit fault, none⟩

/-- The place after a character. -/
def Place.after (p : Place) (c : Char) : Place :=
  if c = '\n' then ⟨p.line + 1, 0⟩ else ⟨p.line, p.column + c.utf8Size⟩

/-- What is left of a text, and the place that has been reached. -/
structure Cursor where
  place : Place
  rest : List Char

namespace Cursor

def start (text : String) : Cursor := ⟨⟨1, 0⟩, text.toList⟩

/-- Passes a character. -/
def next (c : Cursor) : Cursor :=
  match c.rest with
  | [] => c
  | d :: rest => ⟨c.place.after d, rest⟩

/-- Passes characters as long as they satisfy a condition. -/
def skipWhile (p : Char → Bool) (c : Cursor) : Cursor := go c.place c.rest
where
  go (place : Place) : List Char → Cursor
    | [] => ⟨place, []⟩
    | d :: rest => if p d then go (place.after d) rest else ⟨place, d :: rest⟩

/-- The place a number of bytes ahead, which may lie inside a character, but not beyond the end of the text. -/
def ahead (bytes : Nat) (c : Cursor) : Place := go bytes c.place c.rest
where
  go (bytes : Nat) (place : Place) : List Char → Place
    | [] => place
    | d :: rest =>
      if bytes < d.utf8Size then (if bytes = 0 then place else ⟨place.line, place.column + bytes⟩)
      else go (bytes - d.utf8Size) (place.after d) rest

end Cursor

/-! ### Readers -/

abbrev TextReader (α : Type) := StateT Cursor (Except Misread) α

namespace TextReader

variable {α : Type}

/-- The text goes wrong here. -/
def fail (fault : SyntaxFault) : TextReader α := fun c => .error ⟨.malformed fault, some c.place⟩

/-- The text goes wrong with the next byte. -/
def failAhead (fault : SyntaxFault) : TextReader α := fun c => .error ⟨.malformed fault, some (c.ahead 1)⟩

/-- What was read up to here does not fit. -/
def refuse (fault : DecodeError) : TextReader α := fun c => .error ⟨.unfit fault, some c.place⟩

/-- The next character. -/
def peek : TextReader (Option Char) := fun c => .ok (c.rest.head?, c)

def next : TextReader Unit := fun c => .ok ((), c.next)

def isBlank (c : Char) : Bool := c = ' ' || c = '\n' || c = '\t' || c = '\r'

/-- The next character that is no blank. -/
def peekMark : TextReader (Option Char) := fun c =>
  let c := c.skipWhile isBlank
  .ok (c.rest.head?, c)

/-- Passes the characters that satisfy a condition. -/
def run (p : Char → Bool) : TextReader (List Char) := fun c => .ok (c.rest.takeWhile p, c.skipWhile p)

/-- Reads a whole text. -/
def read (r : TextReader α) (text : String) : Except Misread α := (StateT.run r (.start text)).map (·.1)

end TextReader

end Json

end SessionOperator
