import SessionOperator.Json.Reader

/-!
# Reading texts as typed values

Readers that expect a value of one type.  A value of another type, or one that does not fit, is refused where it ends.
What is wrong with a list or an object as a whole is told at its closing mark, if that comes next.
-/

namespace SessionOperator

namespace Json

namespace TextReader

variable {α : Type}

/-- The first character of a value that is to be read. -/
def valueMark : TextReader Char := do
  match ← peekMark with
  | some c => return c
  | none => failAhead .endInValue

/-- Passes the mark that opens a list or an object; what is in it may be nested one level less deep. -/
def enter (depth : Nat) (content : Nat → TextReader α) : TextReader α :=
  match depth with
  | 0 => failAhead .tooDeep
  | depth + 1 => next *> content depth

/-- Refuses the object whose fields are being read. -/
def refuseObject (fault : DecodeError) : TextReader α := do
  if (← peekMark) = some '\x7d' then next
  refuse fault

/-- Refuses the list whose items are being read. -/
def refuseList (fault : DecodeError) : TextReader α := do
  match ← peekMark with
  | some ']' => next
  | some ',' =>
    next
    let _ ← peekMark
  | _ => pure ()
  refuse fault

/-- What a decoder makes of a value that has been read. -/
def accept (decode : Decoder α) (value : Json) : TextReader α :=
  match decode value with
  | .ok a => return a
  | .error fault => refuse fault

/-! ### Scalars -/

def flag (fuel : Nat) : TextReader Bool := do
  match ← valueMark with
  | 't' => next *> wordRest "rue".toList *> return true
  | 'f' => next *> wordRest "alse".toList *> return false
  | _ => wrongType fuel "a boolean"

def integer (fuel : Nat) (low high : Int) (expected : String) : TextReader Int := do
  let c ← valueMark
  if c = '-' then next *> number fuel true >>= accept (Decoder.integer low high expected)
  else if c.isDigit then number fuel false >>= accept (Decoder.integer low high expected)
  else wrongType fuel expected

/-- A text that is decoded further. -/
def textAs (fuel : Nat) (expected : String) (decode : Decoder α) : TextReader α := do
  let s ← text fuel expected
  accept decode (.str s)

/-- Nothing for `null`. -/
def nullable (value : TextReader α) : TextReader (Option α) := do
  if (← peekMark) = some 'n' then next *> wordRest "ull".toList *> return none
  else some <$> value

/-- A value that is neither a list nor an object. -/
def scalarAs (fuel depth : Nat) (expected : String) (decode : Decoder α) : TextReader α := do
  match ← valueMark with
  | '[' => enter depth fun _ => refuseList (.invalidType (.arr []) expected)
  | '\x7b' => enter depth fun _ => refuseObject (.invalidType (.obj []) expected)
  | _ => value fuel depth >>= accept decode

/-! ### Lists, dictionaries and enumerations -/

def listOf (fuel depth : Nat) (item : Nat → TextReader α) : TextReader (List α) := do
  if (← valueMark) = '[' then enter depth fun depth => items (item depth) fuel true <* closeList
  else wrongType fuel "a sequence"

def dictOf (fuel depth : Nat) (value : Nat → TextReader α) : TextReader (Dict α) := do
  if (← valueMark) = '\x7b' then
    enter depth fun depth => Dict.ofList <$> fields (fun _ => value depth) fuel fuel true <* closeObject
  else wrongType fuel "a map"

/-- Checks the name of a variant that has been read. -/
def variantNamed (variants : List String) (name : String) : TextReader String :=
  if variants.contains name then return name else refuse (.unknownVariant name variants)

/-- The only key of an object. -/
def variantKey (fuel : Nat) : TextReader String := do
  match ← peekMark with
  | some '"' => key fuel
  | some '\x7d' => failAhead .noValue
  | some _ => failAhead .keyIsNoText
  | none => failAhead .endInObject

/-- `null`, where nothing else may be. -/
def noContent (fuel : Nat) : TextReader Unit := do
  if (← valueMark) = 'n' then next *> wordRest "ull".toList else wrongType fuel "unit"

/-- One of a list of names, written as a text or as an object whose only key is the name, with the value `null`. -/
def choice (fuel depth : Nat) (variants : List String) : TextReader String := do
  match ← valueMark with
  | '"' => next *> textRest fuel [] >>= variantNamed variants
  | '\x7b' => enter depth fun _ => do
    let name ← variantKey fuel >>= variantNamed variants
    colon
    noContent fuel
    match ← peekMark with
    | some '\x7d' => next *> return name
    | some _ => fail .noValue
    | none => fail .endInObject
  | _ => failAhead .noValue

end TextReader

end Json

end SessionOperator
