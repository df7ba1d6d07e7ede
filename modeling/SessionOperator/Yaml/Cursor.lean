/-!
# Places in a YAML text

What is left of a text, together with the place that has been reached: bytes so far, line and column, all counted from
zero.  Five characters break lines, and a carriage return before a line feed belongs to the same break.

* `Cursor.skip`, `Cursor.skipBreak`: steps along a line and to the next one;
* `Cursor.breakText`: what a line break stands for in a text that keeps it.
-/

namespace SessionOperator

namespace Yaml

/-! ### Characters -/

def isBreak (c : Char) : Bool := c = '\n' || c = '\r' || c = '\u0085' || c = '\u2028' || c = '\u2029'

def isBlank (c : Char) : Bool := c = ' ' || c = '\t'

/-- The characters of names of anchors, of handles and of directives. -/
def isWord (c : Char) : Bool := c.isAlphanum || c = '-' || c = '_'

/-- The characters that a text may consist of. -/
def isAllowed (c : Char) : Bool :=
  let n := c.toNat
  c = '\t' || c = '\n' || c = '\r' || c = '\u0085' || (0x20 ≤ n && n ≤ 0x7E) || (0xA0 ≤ n && n ≤ 0xFFFD) || 0x10000 ≤ n

/-- A line break or the end of the text comes next. -/
def atLineEnd : List Char → Bool
  | [] => true
  | c :: _ => isBreak c

/-- A blank, a line break or the end of the text comes next. -/
def atGap : List Char → Bool
  | [] => true
  | c :: _ => isBlank c || isBreak c

/-- One of the given characters comes next. -/
def atOneOf (marks : String) : List Char → Bool
  | [] => false
  | c :: _ => marks.toList.contains c

/-- Three dashes or three points that stand alone. -/
def atMarker (mark : Char) (cs : List Char) : Bool := cs.take 3 = [mark, mark, mark] && atGap (cs.drop 3)

/-! ### Places -/

structure Cursor where
  /-- How many bytes have been passed. -/
  offset : Nat
  line : Nat
  column : Nat
  rest : List Char

namespace Cursor

def start (text : List Char) : Cursor := ⟨0, 0, 0, text⟩

/-- How many bytes the next characters have. -/
def byteWidth (n : Nat) (c : Cursor) : Nat := (c.rest.take n).foldl (fun bytes d => bytes + d.utf8Size) 0

/-- Passes characters of the current line. -/
def skip (n : Nat) (c : Cursor) : Cursor :=
  { c with offset := c.offset + c.byteWidth n, column := c.column + n, rest := c.rest.drop n }

/-- Passes the characters of the current line as long as they satisfy a condition. -/
def skipWhile (p : Char → Bool) (c : Cursor) : Cursor := c.skip (c.rest.takeWhile p).length

/-- How many characters the line break has that comes next. -/
def breakWidth (c : Cursor) : Nat :=
  match c.rest with
  | '\r' :: '\n' :: _ => 2
  | _ => 1

/-- Passes a line break. -/
def skipBreak (c : Cursor) : Cursor :=
  { offset := c.offset + c.byteWidth c.breakWidth, line := c.line + 1, column := 0, rest := c.rest.drop c.breakWidth }

/-- The text of the line break that comes next: a line feed, except for the two separators that stand for themselves. -/
def breakText (c : Cursor) : List Char :=
  match c.rest with
  | [] => []
  | b :: _ => if b = '\u2028' || b = '\u2029' then [b] else ['\n']

/-- A comment reaches to the end of its line. -/
def skipComment (c : Cursor) : Cursor := if atOneOf "#" c.rest then c.skipWhile fun d => !isBreak d else c

/-- A marker of documents stands at the start of a line. -/
def atDocumentMarker (c : Cursor) : Bool := c.column = 0 && (atMarker '-' c.rest || atMarker '.' c.rest)

end Cursor

end Yaml

end SessionOperator
