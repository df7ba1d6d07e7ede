import SessionOperator.Json.Cursor
import SessionOperator.Decimal.Scaled

/-!
# Reading JSON texts

The parts that values consist of, values as a whole, and values that are passed over unread.  Of two fields with one key
the later counts.  Lists and objects may be nested 127 deep in a value that is read, and at any depth in one that is
passed over; there, texts may also hold half a surrogate pair and numbers may be of any size.

An object whose first key is `embeddedKey` stands for the value that the text under it holds.

* `Json.read`, `Json.parse?`: a whole text as one value.
-/

namespace SessionOperator

namespace Json

namespace TextReader

variable {α : Type}

/-! ### Texts -/

def hexDigit? (c : Char) : Option Nat :=
  if c.isDigit then some (c.toNat - '0'.toNat)
  else if 'a' ≤ c ∧ c ≤ 'f' then some (c.toNat - 'a'.toNat + 10)
  else if 'A' ≤ c ∧ c ≤ 'F' then some (c.toNat - 'A'.toNat + 10)
  else none

def hex4? (cs : List Char) : Option Nat := do
  let values ← cs.mapM hexDigit?
  if values.length = 4 then some (values.foldl (fun n v => n * 16 + v) 0) else none

/-- Four hexadecimal digits; four bytes are looked at. -/
def hex4 : TextReader Nat := fun c =>
  if (c.rest.take 4).foldl (fun n d => n + d.utf8Size) 0 < 4 then .error ⟨.malformed .endInText, some (c.ahead 4)⟩
  else
    match hex4? (c.rest.take 4) with
    | none => .error ⟨.malformed .badEscape, some (c.ahead 4)⟩
    | some n => .ok (n, ⟨c.ahead 4, c.rest.drop 4⟩)

def isHighHalf (n : Nat) : Bool := 0xD800 ≤ n && n ≤ 0xDBFF

def isLowHalf (n : Nat) : Bool := 0xDC00 ≤ n && n ≤ 0xDFFF

/-- Passes a character that must come next for a surrogate pair to go on. -/
def pairMark (mark : Char) : TextReader Unit := do
  match ← peek with
  | none => fail .endInText
  | some c => if c = mark then next else failAhead .endInSurrogate

/-- The character of an escape with digits, or of two of them that form a surrogate pair. -/
def codePoint : TextReader Char := do
  let n ← hex4
  if isLowHalf n then fail .loneSurrogate
  else if isHighHalf n then
    pairMark '\\'
    pairMark 'u'
    let m ← hex4
    if isLowHalf m then return Char.ofNat (0x10000 + (n - 0xD800) * 0x400 + (m - 0xDC00)) else fail .loneSurrogate
  else return Char.ofNat n

def escape? : Char → Option Char
  | '"' => some '"'
  | '\\' => some '\\'
  | '/' => some '/'
  | 'b' => some '\x08'
  | 'f' => some '\x0c'
  | 'n' => some '\n'
  | 'r' => some '\r'
  | 't' => some '\t'
  | _ => none

/-- The character after a backslash, which has been passed. -/
def escapeMark : TextReader Char := do
  match ← peek with
  | none => fail .endInText
  | some e =>
    next
    return e

def escaped : TextReader Char := do
  let c ← get
  let e ← escapeMark
  if e = 'u' then codePoint
  else
    match escape? e with
    | some e => return e
    | none => throw ⟨.malformed .badEscape, some (c.ahead 1)⟩

def isOrdinary (c : Char) : Bool := c ≠ '"' && c ≠ '\\' && 0x20 ≤ c.toNat

/-- The rest of a text up to its closing quote; the parts read so far come in reverse. -/
def textRest : Nat → List (List Char) → TextReader String
  | 0, _ => fail .endInText
  | fuel + 1, parts => do
    let part ← run isOrdinary
    match ← peek with
    | none => fail .endInText
    | some '"' =>
      next
      return String.ofList (part :: parts).reverse.flatten
    | some '\\' =>
      next
      let e ← escaped
      textRest fuel ([e] :: part :: parts)
    | some _ => failAhead .controlCharacter

def skipEscaped : TextReader Unit := do
  let c ← get
  let e ← escapeMark
  if e = 'u' then
    let _ ← hex4
  else if (escape? e).isNone then throw ⟨.malformed .badEscape, some (c.ahead 1)⟩

/-- Passes over the rest of a text. -/
def skipTextRest : Nat → TextReader Unit
  | 0 => fail .endInText
  | fuel + 1 => do
    let _ ← run isOrdinary
    match ← peek with
    | none => fail .endInText
    | some '"' => next
    | some '\\' =>
      next
      skipEscaped
      skipTextRest fuel
    | some _ => fail .controlCharacter

/-! ### Words and numbers -/

/-- The characters of a word that starts with the character that has been passed. -/
def wordRest : List Char → TextReader Unit
  | [] => return
  | c :: rest => do
    match ← peek with
    | none => fail .endInValue
    | some d => if d = c then next *> wordRest rest else failAhead .noWord

/-- How many of the digits can be put behind a number so that it fits 64 bits, and the number with them. -/
def fitting (n used : Nat) : List Char → Nat × Nat
  | [] => (n, used)
  | d :: rest =>
    let m := n * 10 + (d.toNat - '0'.toNat)
    if m < Nat.pow 2 64 then fitting m (used + 1) rest else (n, used)

/-- Digits of a number as far as they count: those that do not fit 64 bits are cut off. -/
structure Numeral where
  digits : Nat
  /-- The power of ten of the last digit. -/
  exponent : Int
  whole : Bool

/-- Binary floating-point numbers by their bits. -/
def floatBits (negative : Bool) (bits : Nat) : Json :=
  .float (UInt64.ofNat (bits + if negative then Nat.pow 2 63 else 0))

def scaled (negative : Bool) (digits : Nat) (exponent : Int) : TextReader Json :=
  match Scaled.bits? digits exponent with
  | some bits => return floatBits negative bits
  | none => fail .numberTooLarge

/-- A whole number if it fits 64 bits; minus zero is none. -/
def ofNumeral (negative : Bool) (n : Numeral) : TextReader Json :=
  if n.whole && n.exponent = 0 then
    if !negative then return .int n.digits
    else if 0 < n.digits && n.digits ≤ Nat.pow 2 63 then return .int (-n.digits)
    else scaled negative n.digits 0
  else scaled negative n.digits n.exponent

/-- A digit must come next. -/
def digitAhead : TextReader Unit := do
  match ← peek with
  | none => fail .endInValue
  | some c => if !c.isDigit then failAhead .badNumber

def greatestExponent : Nat := Nat.pow 2 31 - 1

/-- The digits of an exponent; when it gets too large, what was read of it is kept and the place at which it does so. -/
def exponentDigits : Nat → Nat → TextReader (Nat × Bool)
  | 0, n => return (n, false)
  | fuel + 1, n => do
    match ← peek with
    | some c =>
      if c.isDigit then
        next
        let m := n * 10 + (c.toNat - '0'.toNat)
        if m ≤ greatestExponent then exponentDigits fuel m else return (n, true)
      else return (n, false)
    | none => return (n, false)

/-- The sign of an exponent, behind its mark. -/
def exponentSign : TextReader Bool := do
  match ← peek with
  | some '+' => next *> return false
  | some '-' => next *> return true
  | _ => return false

def exponentOf (fuel : Nat) (negative : Bool) (n : Numeral) : TextReader Json := do
  next
  let down ← exponentSign
  digitAhead
  let (e, tooLarge) ← exponentDigits fuel 0
  if tooLarge then
    if n.digits ≠ 0 && !down then fail .numberTooLarge
    else
      let _ ← run Char.isDigit
      return floatBits negative 0
  else scaled negative n.digits (if down then n.exponent - e else n.exponent + e)

def fractionOf (n : Numeral) : TextReader Numeral := do
  next
  let ds ← run Char.isDigit
  if ds.isEmpty then
    match ← peek with
    | none => fail .endInValue
    | some _ => failAhead .badNumber
  else
    let (digits, used) := fitting n.digits 0 ds
    return { digits, exponent := n.exponent - used, whole := false }

def isExponentMark (c : Option Char) : Bool := c = some 'e' || c = some 'E'

/-- A number behind its sign. -/
def number (fuel : Nat) (negative : Bool) : TextReader Json := do
  digitAhead
  let zero := (← peek) = some '0'
  let ds ← if zero then (next *> return ['0']) else run Char.isDigit
  if zero && (← peek).any Char.isDigit then failAhead .badNumber
  else
    let (digits, used) := fitting 0 0 ds
    let n : Numeral := ⟨digits, ds.length - used, true⟩
    let n ← if (← peek) = some '.' then fractionOf n else pure n
    if isExponentMark (← peek) then exponentOf fuel negative n else ofNumeral negative n

/-- Passes over a number behind its sign. -/
def skipNumber : TextReader Unit := do
  match ← peek with
  | some '0' =>
    next
    if (← peek).any Char.isDigit then failAhead .badNumber
  | c => if c.any Char.isDigit then let _ ← run Char.isDigit else failAhead .badNumber
  if (← peek) = some '.' then
    next
    if (← run Char.isDigit).isEmpty then failAhead .badNumber
  if isExponentMark (← peek) then
    next
    let _ ← exponentSign
    if (← run Char.isDigit).isEmpty then failAhead .badNumber

/-! ### Lists and objects -/

/-- Whether a list goes on, from behind its opening mark or an item. -/
def hasItem (first : Bool) : TextReader Bool := do
  match ← peekMark with
  | none => failAhead .endInList
  | some ']' => return false
  | some c =>
    if first then return true
    else if c = ',' then
      next
      match ← peekMark with
      | none => failAhead .endInValue
      | some ']' => failAhead .trailingComma
      | some _ => return true
    else failAhead .noListEnd

/-- The items of a list up to its closing mark. -/
def items (item : TextReader α) : Nat → Bool → TextReader (List α)
  | 0, _ => fail .endInList
  | fuel + 1, first => do
    if ← hasItem first then
      let a ← item
      return a :: (← items item fuel false)
    else return []

/-- Passes the closing mark of a list whose items have been read. -/
def closeList : TextReader Unit := do
  match ← peekMark with
  | none => failAhead .endInList
  | some ']' => next
  | some ',' =>
    next
    if (← peekMark) = some ']' then failAhead .trailingComma else failAhead .trailingText
  | some _ => failAhead .trailingText

/-- Whether an object goes on, from behind its opening mark or a field. -/
def hasKey (first : Bool) : TextReader Bool := do
  match ← peekMark with
  | none => failAhead .endInObject
  | some '\x7d' => return false
  | some c =>
    if first then (if c = '"' then return true else failAhead .keyIsNoText)
    else if c = ',' then
      next
      match ← peekMark with
      | none => failAhead .endInValue
      | some '"' => return true
      | some '\x7d' => failAhead .trailingComma
      | some _ => failAhead .keyIsNoText
    else failAhead .noObjectEnd

def key (fuel : Nat) : TextReader String := next *> textRest fuel []

def colon : TextReader Unit := do
  match ← peekMark with
  | none => failAhead .endInObject
  | some ':' => next
  | some _ => failAhead .noColon

/-- The fields of an object up to its closing mark, each read by its key. -/
def fields (field : String → TextReader α) (fuel : Nat) : Nat → Bool → TextReader (List (String × α))
  | 0, _ => fail .endInObject
  | n + 1, first => do
    if ← hasKey first then
      let k ← key fuel
      colon
      let a ← field k
      return (k, a) :: (← fields field fuel n false)
    else return []

/-- Passes the closing mark of an object whose fields have been read. -/
def closeObject : TextReader Unit := do
  match ← peekMark with
  | none => failAhead .endInObject
  | some '\x7d' => next
  | some ',' => failAhead .trailingComma
  | some _ => failAhead .trailingText

/-! ### Values that are passed over -/

/-- Whether a list that is passed over goes on behind an item. -/
def skipsOn (stop : Char) (atEnd noEnd : SyntaxFault) : TextReader Bool := do
  match ← peekMark with
  | none => failAhead atEnd
  | some c => if c = ',' then next *> return true else if c = stop then next *> return false else failAhead noEnd

def skipItems (item : TextReader Unit) : Nat → TextReader Unit
  | 0 => fail .endInList
  | fuel + 1 => do
    item
    if ← skipsOn ']' .endInList .noListEnd then skipItems item fuel

def skipKey (fuel : Nat) : TextReader Unit := do
  match ← peekMark with
  | none => failAhead .endInObject
  | some '"' => next *> skipTextRest fuel *> colon
  | some _ => failAhead .keyIsNoText

def skipFields (fuel : Nat) (value : TextReader Unit) : Nat → TextReader Unit
  | 0 => fail .endInObject
  | n + 1 => do
    skipKey fuel
    value
    if ← skipsOn '\x7d' .endInObject .noObjectEnd then skipFields fuel value n

/-- Passes over a value; the text has less than `fuel` characters. -/
def skip (fuel : Nat) : Nat → TextReader Unit
  | 0 => fail .endInValue
  | depth + 1 => do
    match ← peekMark with
    | none => failAhead .endInValue
    | some 'n' => next *> wordRest "ull".toList
    | some 't' => next *> wordRest "rue".toList
    | some 'f' => next *> wordRest "alse".toList
    | some '-' => next *> skipNumber
    | some '"' => next *> skipTextRest fuel
    | some '[' =>
      next
      match ← peekMark with
      | none => failAhead .endInList
      | some ']' => next
      | some _ => skipItems (skip fuel depth) fuel
    | some '\x7b' =>
      next
      match ← peekMark with
      | none => failAhead .endInObject
      | some '\x7d' => next
      | some _ => skipFields fuel (skip fuel depth) fuel
    | some c => if c.isDigit then skipNumber else failAhead .noValue

/-! ### Values -/

/-- Reads the start of a value of another type than the expected one and refuses it. -/
def wrongType (fuel : Nat) (expected : String) : TextReader α := do
  match ← peek with
  | some 'n' => next *> wordRest "ull".toList *> refuse (.invalidType .null expected)
  | some 't' => next *> wordRest "rue".toList *> refuse (.invalidType (.bool true) expected)
  | some 'f' => next *> wordRest "alse".toList *> refuse (.invalidType (.bool false) expected)
  | some '"' =>
    next
    let s ← textRest fuel []
    refuse (.invalidType (.str s) expected)
  | some '-' =>
    next
    let n ← number fuel true
    refuse (.invalidType n expected)
  | some '[' => refuse (.invalidType (.arr []) expected)
  | some '\x7b' => refuse (.invalidType (.obj []) expected)
  | some c =>
    if c.isDigit then
      let n ← number fuel false
      refuse (.invalidType n expected)
    else failAhead .noValue
  | none => failAhead .noValue

/-- A text, where a text is to be read. -/
def text (fuel : Nat) (expected : String) : TextReader String := do
  match ← peekMark with
  | none => failAhead .endInValue
  | some '"' => next *> textRest fuel []
  | some _ => wrongType fuel expected

/-- The depth to which values may be nested. -/
def deepest : Nat := 127

/-- The key of an object that stands for the value in the text under it. -/
def embeddedKey : String := "$serde_json::private::RawValue"

/-- A value that may hold `depth` more levels of lists and objects.  With `embedded`, objects may stand for the value in a
text, which is read by `inner`. -/
def valueWith (embedded : Option (String → Except Misread Json)) (fuel : Nat) : Nat → TextReader Json
  | 0 => leaf fuel (failAhead .tooDeep) (failAhead .tooDeep)
  | depth + 1 => leaf fuel
    (do
      next
      let items ← items (valueWith embedded fuel depth) fuel true
      closeList
      return .arr items)
    (do
      next
      match embedded with
      | none => object depth true []
      | some inner =>
        if ← hasKey true then
          let k ← key fuel
          colon
          if k = embeddedKey then
            let s ← text fuel "raw value"
            match inner s with
            | .ok j => closeObject *> return j
            | .error e => throw e
          else
            let first ← valueWith embedded fuel depth
            object depth false [(k, first)]
        else object depth true [])
where
  leaf (fuel : Nat) (list object : TextReader Json) : TextReader Json := do
    match ← peekMark with
    | none => failAhead .endInValue
    | some 'n' => next *> wordRest "ull".toList *> return .null
    | some 't' => next *> wordRest "rue".toList *> return .bool true
    | some 'f' => next *> wordRest "alse".toList *> return .bool false
    | some '-' => next *> number fuel true
    | some '"' => next *> (Json.str <$> textRest fuel [])
    | some '[' => list
    | some '\x7b' => object
    | some c => if c.isDigit then number fuel false else failAhead .noValue
  object (depth : Nat) (first : Bool) (done : List (String × Json)) : TextReader Json := do
    let others ← fields (fun _ => valueWith embedded fuel depth) fuel fuel first
    closeObject
    return Json.object (done ++ others)

/-- Reads a whole text, behind which there must be nothing but blanks. -/
def readAll (r : TextReader α) (text : String) : Except Misread α :=
  read (do
    let a ← r
    match ← peekMark with
    | none => return a
    | some _ => failAhead .trailingText) text

/-- A text as one value, in which values may be embedded up to a depth. -/
def readValue : Nat → String → Except Misread Json
  | 0, _ => .error ⟨.malformed .tooDeep, some ⟨1, 0⟩⟩
  | n + 1, s => readAll (valueWith (some (readValue n)) (s.length + 1) deepest) s

/-- A value; `fuel` exceeds the length of the text, and no text embeds values more often than it has characters. -/
def value (fuel depth : Nat) : TextReader Json := valueWith (some (readValue fuel)) fuel depth

end TextReader

/-- Reads a whole text. -/
def read (text : String) : Except Misread Json := TextReader.readValue (text.length + 1) text

def parse? (text : String) : Option Json := (read text).toOption

end Json

end SessionOperator
