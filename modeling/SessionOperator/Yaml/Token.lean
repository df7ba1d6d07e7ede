import SessionOperator.Yaml.Scalar

/-!
# YAML tokens

The marks, scalars and properties of a text in order, together with the starts and ends of block collections, which
follow from columns.  Whether a scalar is a key shows only at the colon behind it: until then its place is kept as that
of a possible key, and the marks of the key are put in there.  A key on its own must end on the line on which it starts,
at most 1024 bytes on.

* `Token.scan?`: the tokens of a text, or nothing when it is malformed.
-/

namespace SessionOperator

namespace Yaml

inductive ScalarStyle where
  | plain
  | quoted
  | literal
  | folded
  deriving DecidableEq

inductive Token where
  | streamEnd
  | version (major minor : Nat)
  | tagHandle (handle tagPrefix : List Char)
  | documentStart
  | documentEnd
  | blockSequenceStart
  | blockMappingStart
  | blockEnd
  | flowSequenceStart
  | flowSequenceEnd
  | flowMappingStart
  | flowMappingEnd
  | blockEntry
  | flowEntry
  | key
  | value
  | alias (name : List Char)
  | anchor (name : List Char)
  | tag (handle suffix : List Char)
  | scalar (text : List Char) (style : ScalarStyle)
  deriving DecidableEq

/-- A place at which a key may have started. -/
structure PossibleKey where
  /-- The key starts a block mapping or goes on with one, so that it has to be a key. -/
  required : Bool
  /-- How many tokens there were before it. -/
  before : Nat
  place : Cursor

structure Scan where
  cursor : Cursor
  /-- The latest token comes first. -/
  tokens : List Token
  count : Nat
  /-- The column of the innermost block collection; `-1` outside of all. -/
  indent : Int
  /-- The columns of the collections around it. -/
  outer : List Int
  /-- A key may start here. -/
  keyAllowed : Bool
  /-- The possible key of each open flow collection, the innermost first, and of the block around them. -/
  keys : List (Option PossibleKey)

abbrev Scanner := StateT Scan Option

namespace Scan

def start (text : List Char) : Scan :=
  { cursor := .start text, tokens := [], count := 0, indent := -1, outer := [], keyAllowed := true, keys := [none] }

def inFlow (s : Scan) : Bool := 1 < s.keys.length

def rest (s : Scan) : List Char := s.cursor.rest

def add (t : Token) (s : Scan) : Scan := { s with tokens := t :: s.tokens, count := s.count + 1 }

/-- Puts a token in behind the first `before` ones. -/
def addAt (before : Nat) (t : Token) (s : Scan) : Scan :=
  let later := s.count - before
  { s with tokens := s.tokens.take later ++ t :: s.tokens.drop later, count := s.count + 1 }

def skip (n : Nat) (s : Scan) : Scan := { s with cursor := s.cursor.skip n }

def allowKey (allowed : Bool) (s : Scan) : Scan := { s with keyAllowed := allowed }

/-! ### Possible keys -/

def isStale (s : Scan) (k : PossibleKey) : Bool :=
  k.place.line < s.cursor.line || k.place.offset + 1024 < s.cursor.offset

/-- Gives up the possible keys that can no longer be keys. -/
def dropStale? (s : Scan) : Option Scan :=
  if s.keys.any fun k => k.any fun k => k.required && s.isStale k then none
  else some { s with keys := s.keys.map fun k => k.filter fun k => !s.isStale k }

def setKey (k : Option PossibleKey) (s : Scan) : Scan := { s with keys := k :: s.keys.drop 1 }

def currentKey (s : Scan) : Option PossibleKey := s.keys.head?.join

/-- Gives up the possible key of the innermost collection. -/
def dropKey? (s : Scan) : Option Scan := if s.currentKey.any (·.required) then none else some (s.setKey none)

/-- Remembers this place if a key may start here. -/
def saveKey? (s : Scan) : Option Scan :=
  if s.keyAllowed then do
    let required := !s.inFlow && s.indent = (s.cursor.column : Int)
    some ((← s.dropKey?).setKey (some ⟨required, s.count, s.cursor⟩))
  else some s

/-! ### Block collections -/

/-- Starts a block collection at a column that is right of the innermost one. -/
def openBlock (column before : Nat) (t : Token) (s : Scan) : Scan :=
  if !s.inFlow && s.indent < (column : Int) then
    { s.addAt before t with indent := column, outer := s.indent :: s.outer }
  else s

/-- Ends the block collections that are right of a column. -/
def closeBlocks (column : Int) (s : Scan) : Scan :=
  if s.inFlow then s else go s.outer s
where
  go : List Int → Scan → Scan
    | [], s => s
    | i :: outer, s =>
      if column < s.indent then go outer { s.add .blockEnd with indent := i, outer } else s

/-! ### Blanks and comments -/

/-- Passes blanks, comments and line breaks.  A tab is no blank where a key may start in a block. -/
def toToken : Nat → Scan → Scan
  | 0, s => s
  | fuel + 1, s =>
    let c := s.cursor
    let c := if c.column = 0 && atOneOf "\uFEFF" c.rest then c.skip 1 else c
    let tabs := s.inFlow || !s.keyAllowed
    let c := (c.skipWhile fun d => d = ' ' || (tabs && d = '\t')).skipComment
    if !c.rest.isEmpty && atLineEnd c.rest then
      toToken fuel { s with cursor := c.skipBreak, keyAllowed := s.keyAllowed || !s.inFlow }
    else { s with cursor := c }

/-! ### Directives -/

/-- A number of at most nine digits. -/
def versionNumber? (c : Cursor) : Option (Nat × Cursor) :=
  let digits := c.rest.takeWhile Char.isDigit
  if digits.isEmpty || 9 < digits.length then none
  else some (digits.foldl (fun n d => n * 10 + (d.toNat - 48)) 0, c.skip digits.length)

def version? (c : Cursor) : Option (Token × Cursor) := do
  let (major, c) ← versionNumber? (c.skipWhile isBlank)
  if !atOneOf "." c.rest then none
  else
    let (minor, c) ← versionNumber? (c.skip 1)
    some (.version major minor, c)

/-- An exclamation mark, word characters and perhaps another exclamation mark. -/
def handle? (c : Cursor) : Option (List Char × Cursor) :=
  match c.rest with
  | '!' :: rest =>
    let word := rest.takeWhile isWord
    let close := if atOneOf "!" (rest.drop word.length) then ['!'] else []
    some ('!' :: word ++ close, c.skip (1 + word.length + close.length))
  | _ => none

def isUriChar (verbatim : Bool) (c : Char) : Bool :=
  isWord c || ";/?:@&=+$.!~*'()".toList.contains c || (verbatim && ",[]".toList.contains c)

/-- Whether an octet may come first in the encoding of a character, and how many octets follow it. -/
def octetsAfter? (n : Nat) : Option Nat :=
  if n < 0x80 then some 0
  else if 0xC0 ≤ n && n < 0xE0 then some 1
  else if 0xE0 ≤ n && n < 0xF0 then some 2
  else if 0xF0 ≤ n && n < 0xF8 then some 3
  else none

def octet? : List Char → Option Nat
  | '%' :: a :: b :: _ => Scalar.hexNumber? [a, b]
  | _ => none

/-- The escaped octets that continue a character. -/
def octets? : Nat → List Char → Cursor → Option (List Char × Cursor)
  | 0, done, c => some (done, c)
  | more + 1, done, c => do
    let n ← octet? c.rest
    if 0x80 ≤ n && n < 0xC0 then octets? more (done ++ [Char.ofNat n]) (c.skip 3) else none

/-- The characters of a tag; an escaped octet stands for itself. -/
def uri? (verbatim : Bool) : Nat → List Char → Cursor → Option (List Char × Cursor)
  | 0, _, _ => none
  | fuel + 1, done, c =>
    match c.rest with
    | [] => some (done, c)
    | d :: _ =>
      if d = '%' then do
        let n ← octet? c.rest
        let more ← octetsAfter? n
        let (octets, c) ← octets? more [Char.ofNat n] (c.skip 3)
        uri? verbatim fuel (done ++ octets) c
      else if isUriChar verbatim d then uri? verbatim fuel (done ++ [d]) (c.skip 1)
      else some (done, c)

def uriFrom? (verbatim : Bool) (c : Cursor) : Option (List Char × Cursor) := uri? verbatim (c.rest.length + 1) [] c

def tagHandle? (c : Cursor) : Option (Token × Cursor) := do
  let (handle, c) ← handle? (c.skipWhile isBlank)
  if !(handle.getLast? = some '!') || !atOneOf " \t" c.rest then none
  else
    let (tagPrefix, c) ← uriFrom? true (c.skipWhile isBlank)
    if tagPrefix.isEmpty || !atGap c.rest then none else some (.tagHandle handle tagPrefix, c)

def directive? (c : Cursor) : Option (Token × Cursor) := do
  let c := c.skip 1
  let name := c.rest.takeWhile isWord
  let c := c.skip name.length
  if !atGap c.rest then none
  else
    let (t, c) ← if name = "YAML".toList then version? c else if name = "TAG".toList then tagHandle? c else none
    let c := (c.skipWhile isBlank).skipComment
    if !atLineEnd c.rest then none else some (t, if c.rest.isEmpty then c else c.skipBreak)

/-! ### Properties of nodes -/

/-- The name of an anchor and what must follow it. -/
def name? (c : Cursor) : Option (List Char × Cursor) :=
  let name := c.rest.takeWhile isWord
  let c := c.skip name.length
  if name.isEmpty || !(atGap c.rest || atOneOf "?:,]\x7d%@\x60" c.rest) then none else some (name, c)

/-- A tag in full between angle brackets, behind a handle, or on its own. -/
def tagBody? (c : Cursor) : Option (Token × Cursor) :=
  match c.rest with
  | '!' :: '<' :: _ => do
    let (suffix, c) ← uriFrom? true (c.skip 2)
    if suffix.isEmpty || !atOneOf ">" c.rest then none else some (.tag [] suffix, c.skip 1)
  | _ => do
    let (handle, c) ← handle? c
    let (suffix, c) ← uriFrom? false c
    if 1 < handle.length && handle.getLast? = some '!' then
      if suffix.isEmpty then none else some (.tag handle suffix, c)
    else
      let suffix := handle.drop 1 ++ suffix
      some (if suffix.isEmpty then .tag [] ['!'] else .tag ['!'] suffix, c)

def tag? (flow : Bool) (c : Cursor) : Option (Token × Cursor) := do
  let (t, c) ← tagBody? c
  if (flow && atOneOf "," c.rest) || atGap c.rest then some (t, c) else none

/-! ### Steps -/

/-- A token that may start a key. -/
def keyLike? (read : Cursor → Option (Token × Cursor)) (s : Scan) : Option Scan := do
  let s ← s.saveKey?
  let (t, cursor) ← read s.cursor
  some { (s.add t).allowKey false with cursor }

def endDocument? (s : Scan) : Option Scan := do
  let s ← (s.closeBlocks (-1)).dropKey?
  some (s.allowKey false)

def flowStart? (t : Token) (s : Scan) : Option Scan := do
  let s ← s.saveKey?
  some ((({ s with keys := none :: s.keys }).allowKey true).skip 1 |>.add t)

def flowEnd? (t : Token) (s : Scan) : Option Scan := do
  let s ← s.dropKey?
  some ((({ s with keys := if s.inFlow then s.keys.drop 1 else s.keys }).allowKey false).skip 1 |>.add t)

def flowEntry? (s : Scan) : Option Scan := do
  let s ← s.dropKey?
  some (((s.allowKey true).skip 1).add .flowEntry)

/-- An indicator that opens a block collection where there is none; outside flow collections it has to stand where a
key may start. -/
def indicator? (start t : Token) (allow : Scan → Bool) (s : Scan) : Option Scan := do
  if !s.inFlow && !s.keyAllowed then none
  else
    let s ← (s.openBlock s.cursor.column s.count start).dropKey?
    some (((s.allowKey (allow s)).skip 1).add t)

def value? (s : Scan) : Option Scan :=
  match s.currentKey with
  | some k =>
    let s := (s.addAt k.before .key).openBlock k.place.column k.before .blockMappingStart
    some ((((s.setKey none).allowKey false).skip 1).add .value)
  | none =>
    if !s.inFlow && !s.keyAllowed then none
    else
      let s := s.openBlock s.cursor.column s.count .blockMappingStart
      some (((s.allowKey (!s.inFlow)).skip 1).add .value)

def blockScalar? (literal : Bool) (s : Scan) : Option Scan := do
  let s ← s.dropKey?
  let (text, cursor) ← Scalar.block? literal s.indent s.cursor
  some { (s.add (.scalar text (if literal then .literal else .folded))).allowKey true with cursor }

def plainScalar? (s : Scan) : Option Scan := do
  let s ← s.saveKey?
  let p ← Scalar.plain? s.inFlow (s.indent + 1) s.cursor
  some { (s.add (.scalar p.text .plain)).allowKey p.brokeLine with cursor := p.stop }

/-- A plain scalar may start with a dash, and outside flow collections with a question mark or a colon, if no gap
follows. -/
def startsPlain (s : Scan) : Bool :=
  match s.rest with
  | [] => false
  | c :: rest =>
    if c = '-' then !(atOneOf " \t" rest)
    else if c = '?' || c = ':' then !s.inFlow && !atGap rest
    else !isBlank c && !isBreak c && !(",[]\x7b\x7d#&*!|>'\"%@\x60".toList.contains c)

def named (make : List Char → Token) (c : Cursor) : Option (Token × Cursor) :=
  (name? (c.skip 1)).map fun (name, c) => (make name, c)

def quoted? (read : Cursor → Option (List Char × Cursor)) (c : Cursor) : Option (Token × Cursor) :=
  (read c).map fun (text, c) => (.scalar text .quoted, c)

/-- The next token of a text that goes on. -/
def next? (s : Scan) : Option Scan :=
  let lineStart := s.cursor.column = 0
  if lineStart && atOneOf "%" s.rest then do
    let s ← s.endDocument?
    let (t, cursor) ← directive? s.cursor
    some { s.add t with cursor }
  else if lineStart && atMarker '-' s.rest then do some (((← s.endDocument?).skip 3).add .documentStart)
  else if lineStart && atMarker '.' s.rest then do some (((← s.endDocument?).skip 3).add .documentEnd)
  else
    match s.rest with
    | '[' :: _ => s.flowStart? .flowSequenceStart
    | '\x7b' :: _ => s.flowStart? .flowMappingStart
    | ']' :: _ => s.flowEnd? .flowSequenceEnd
    | '\x7d' :: _ => s.flowEnd? .flowMappingEnd
    | ',' :: _ => s.flowEntry?
    | '*' :: _ => s.keyLike? (named .alias)
    | '&' :: _ => s.keyLike? (named .anchor)
    | '!' :: _ => s.keyLike? (tag? s.inFlow)
    | '\'' :: _ => s.keyLike? (quoted? Scalar.singleQuoted?)
    | '"' :: _ => s.keyLike? (quoted? Scalar.doubleQuoted?)
    | c :: rest =>
      if c = '-' && atGap rest then s.indicator? .blockSequenceStart .blockEntry fun _ => true
      else if c = '?' && (s.inFlow || atGap rest) then s.indicator? .blockMappingStart .key fun s => !s.inFlow
      else if c = ':' && (s.inFlow || atGap rest) then s.value?
      else if c = '|' && !s.inFlow then s.blockScalar? true
      else if c = '>' && !s.inFlow then s.blockScalar? false
      else if s.startsPlain then s.plainScalar?
      else none
    | [] => none

/-- Reads tokens up to the end of the text. -/
def toEnd? : Nat → Scan → Option Scan
  | 0, _ => none
  | fuel + 1, s => do
    let s ← (s.toToken (s.rest.length + 1)).dropStale?
    let s := s.closeBlocks s.cursor.column
    if s.rest.isEmpty then some ((← s.endDocument?).add .streamEnd)
    else toEnd? fuel (← s.next?)

end Scan

def Token.scan? (text : List Char) : Option (List Token) :=
  if text.all isAllowed then (Scan.toEnd? (text.length + 1) (.start text)).map fun s => s.tokens.reverse else none

end Yaml

end SessionOperator
