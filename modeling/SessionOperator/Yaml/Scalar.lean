import SessionOperator.Yaml.Cursor

/-!
# YAML scalars

How the text of a scalar is read from its lines.  In flow scalars, plain or quoted, blanks around line breaks vanish, a
single line break is a space, and of several the first one vanishes.  In block scalars indentation is cut off, and what
becomes of line breaks is chosen in the header.

* `Scalar.plain?`, `Scalar.singleQuoted?`, `Scalar.doubleQuoted?`, `Scalar.block?`: the text and the place after it.
-/

namespace SessionOperator

namespace Yaml

namespace Scalar

/-! ### Gaps -/

/-- Blanks and line breaks between the words of a flow scalar. -/
structure Gap where
  /-- The blanks before the first line break. -/
  blanks : List Char
  first : Option (List Char)
  /-- The line breaks after the first one. -/
  more : List Char

def Gap.empty : Gap := ⟨[], none, []⟩

/-- What a gap adds to the text. -/
def Gap.text (g : Gap) : List Char :=
  match g.first with
  | none => g.blanks
  | some ['\n'] => if g.more.isEmpty then [' '] else g.more
  | some first => first ++ g.more

/-- Passes a gap.  With `indent`, tabs must not stand left of that column on the lines after the first. -/
def gap? (indent : Option Int) : Nat → Gap → Cursor → Option (Gap × Cursor)
  | 0, _, _ => none
  | fuel + 1, g, c =>
    match c.rest with
    | [] => some (g, c)
    | d :: _ =>
      if isBlank d then
        match g.first with
        | none => gap? indent fuel { g with blanks := g.blanks ++ [d] } (c.skip 1)
        | some _ =>
          if d = '\t' && indent.any fun i => (c.column : Int) < i then none else gap? indent fuel g (c.skip 1)
      else if isBreak d then
        match g.first with
        | none => gap? indent fuel { g with first := some c.breakText } c.skipBreak
        | some _ => gap? indent fuel { g with more := g.more ++ c.breakText } c.skipBreak
      else some (g, c)

/-! ### Plain scalars -/

/-- The characters up to the next gap or to an indicator that ends a plain scalar. -/
def plainRun? (flow : Bool) : List Char → Option (List Char)
  | [] => some []
  | c :: rest =>
    if isBlank c || isBreak c then some []
    else if flow && c = ':' && atOneOf ",?[]\x7b\x7d" rest then none
    else if (c = ':' && atGap rest) || (flow && atOneOf ",[]\x7b\x7d" [c]) then some []
    else (plainRun? flow rest).map (c :: ·)

structure Plain where
  text : List Char
  /-- The scalar was left at a later line than its last word. -/
  brokeLine : Bool
  stop : Cursor

/-- Reads on after a gap; outside flow collections the words must not stand left of the column `indent`. -/
def plainWords? (flow : Bool) (indent : Int) : Nat → Gap → List Char → Cursor → Option Plain
  | 0, _, _, _ => none
  | fuel + 1, g, done, c =>
    if c.atDocumentMarker || atOneOf "#" c.rest then some ⟨done, g.first.isSome, c⟩
    else do
      let run ← plainRun? flow c.rest
      let c := c.skip run.length
      let (g, done) := if run.isEmpty then (g, done) else (Gap.empty, done ++ g.text ++ run)
      if c.rest.isEmpty || !atGap c.rest then some ⟨done, g.first.isSome, c⟩
      else
        let (g, c) ← gap? (some indent) (c.rest.length + 1) g c
        if !flow && (c.column : Int) < indent then some ⟨done, g.first.isSome, c⟩
        else plainWords? flow indent fuel g done c

def plain? (flow : Bool) (indent : Int) (c : Cursor) : Option Plain :=
  plainWords? flow indent (c.rest.length + 1) .empty [] c

/-! ### Quoted scalars -/

def hexValue? (c : Char) : Option Nat :=
  if c.isDigit then some (c.toNat - 48)
  else if 'a' ≤ c && c ≤ 'f' then some (c.toNat - 87)
  else if 'A' ≤ c && c ≤ 'F' then some (c.toNat - 55)
  else none

def hexNumber? (digits : List Char) : Option Nat := do
  let values ← digits.mapM hexValue?
  some (values.foldl (fun n v => n * 16 + v) 0)

def escape? : Char → Option Char
  | '0' => some '\x00' | 'a' => some '\x07' | 'b' => some '\x08' | 't' => some '\t' | '\t' => some '\t'
  | 'n' => some '\n' | 'v' => some '\x0b' | 'f' => some '\x0c' | 'r' => some '\r' | 'e' => some '\x1b'
  | ' ' => some ' ' | '"' => some '"' | '/' => some '/' | '\\' => some '\\' | 'N' => some '\u0085'
  | '_' => some '\u00a0' | 'L' => some '\u2028' | 'P' => some '\u2029' | _ => none

def escapeWidth? : Char → Option Nat
  | 'x' => some 2 | 'u' => some 4 | 'U' => some 8 | _ => none

/-- The character that follows a backslash in the text, and how many characters say so. -/
def escaped? : List Char → Option (Char × Nat)
  | [] => none
  | e :: rest =>
    match escapeWidth? e with
    | some width => do
      if rest.length < width then none
      else
        let n ← hexNumber? (rest.take width)
        if h : n.isValidChar then some (Char.ofNatAux n h, width + 1) else none
    | none => (escape? e).map fun c => (c, 1)

/-- The characters of a quoted scalar up to a gap or the closing quote. -/
structure Run where
  text : List Char
  /-- The run ended with a backslash at the end of a line. -/
  joined : Bool
  stop : Cursor

/-- The characters read so far are in reverse. -/
def singleRun : Nat → List Char → Cursor → Run
  | 0, done, c => ⟨done.reverse, false, c⟩
  | fuel + 1, done, c =>
    match c.rest with
    | '\'' :: '\'' :: _ => singleRun fuel ('\'' :: done) (c.skip 2)
    | d :: _ =>
      if d = '\'' || isBlank d || isBreak d then ⟨done.reverse, false, c⟩ else singleRun fuel (d :: done) (c.skip 1)
    | [] => ⟨done.reverse, false, c⟩

def doubleRun? : Nat → List Char → Cursor → Option Run
  | 0, _, _ => none
  | fuel + 1, done, c =>
    match c.rest with
    | '\\' :: rest =>
      if !rest.isEmpty && atLineEnd rest then some ⟨done.reverse, true, (c.skip 1).skipBreak⟩
      else do
        let (e, width) ← escaped? rest
        doubleRun? fuel (e :: done) (c.skip (width + 1))
    | d :: _ =>
      if d = '"' || isBlank d || isBreak d then some ⟨done.reverse, false, c⟩ else doubleRun? fuel (d :: done) (c.skip 1)
    | [] => some ⟨done.reverse, false, c⟩

/-- Reads runs and gaps up to the closing quote.  A marker of documents must not stand in a quoted scalar. -/
def quotedRuns? (quote : Char) (run : Cursor → Option Run) : Nat → List Char → Cursor → Option (List Char × Cursor)
  | 0, _, _ => none
  | fuel + 1, done, c =>
    if c.atDocumentMarker || c.rest.isEmpty then none
    else do
      let r ← run c
      let done := done ++ r.text
      if r.stop.rest.head? = some quote then some (done, r.stop.skip 1)
      else
        let (g, c) ← gap? none (r.stop.rest.length + 1) ⟨[], if r.joined then some [] else none, []⟩ r.stop
        quotedRuns? quote run fuel (done ++ g.text) c

def singleQuoted? (c : Cursor) : Option (List Char × Cursor) :=
  quotedRuns? '\'' (fun c => some (singleRun (c.rest.length + 1) [] c)) (c.rest.length + 1) [] (c.skip 1)

def doubleQuoted? (c : Cursor) : Option (List Char × Cursor) :=
  quotedRuns? '"' (fun c => doubleRun? (c.rest.length + 1) [] c) (c.rest.length + 1) [] (c.skip 1)

/-! ### Block scalars -/

/-- What becomes of the line breaks at the end of a block scalar. -/
inductive Chomping where
  | strip
  | clip
  | keep
  deriving DecidableEq

structure Header where
  chomping : Chomping
  /-- The indentation relative to the parent, if it is given. -/
  indent : Option Nat

def chomping? : List Char → Option Chomping
  | '+' :: _ => some .keep
  | '-' :: _ => some .strip
  | _ => none

/-- An indentation of zero is a fault. -/
def indentDigit? : List Char → Option (Option Nat)
  | [] => some none
  | c :: _ => if c.isDigit then (if c = '0' then none else some (some (c.toNat - 48))) else some none

def count {α : Type} (o : Option α) : Nat := if o.isSome then 1 else 0

/-- The marks after the indicator of a block scalar, in either order. -/
def header? (c : Cursor) : Option (Header × Cursor) := do
  match chomping? c.rest with
  | some chomping =>
    let indent ← indentDigit? (c.rest.drop 1)
    some (⟨chomping, indent⟩, c.skip (1 + count indent))
  | none =>
    let indent ← indentDigit? c.rest
    let c := c.skip (count indent)
    match indent, chomping? c.rest with
    | some n, some chomping => some (⟨chomping, some n⟩, c.skip 1)
    | indent, _ => some (⟨.clip, indent⟩, c)

/-- Indentation and empty lines: their line breaks, the deepest column reached and the place of the next text.  While
the indentation is not known it reaches as far as there are spaces. -/
def indentation? (indent : Option Nat) : Nat → List Char → Nat → Cursor → Option (List Char × Nat × Cursor)
  | 0, _, _, _ => none
  | fuel + 1, breaks, deepest, c =>
    let spaces := (c.rest.takeWhile (· = ' ')).length
    let c := c.skip (match indent with
      | none => spaces
      | some n => min spaces (n - c.column))
    let deepest := max deepest c.column
    if atOneOf "\t" c.rest && indent.all fun n => c.column < n then none
    else if c.rest.isEmpty || !atLineEnd c.rest then some (breaks, deepest, c)
    else indentation? indent fuel (breaks ++ c.breakText) deepest c.skipBreak

/-- A line of a block scalar and what was read of the lines before it. -/
structure Lines where
  text : List Char
  /-- The line break that ended the last line. -/
  last : List Char
  /-- The line breaks of the empty lines after it. -/
  empty : List Char
  /-- The last line started with a blank. -/
  indented : Bool

/-- The line breaks between the last line and the next. -/
def Lines.joint (literal : Bool) (l : Lines) (indented : Bool) : List Char :=
  if !literal && l.last = ['\n'] && !l.indented && !indented then (if l.empty.isEmpty then [' '] else l.empty)
  else l.last ++ l.empty

def blockLines? (literal : Bool) (indent : Nat) : Nat → Lines → Cursor → Option (Lines × Cursor)
  | 0, _, _ => none
  | fuel + 1, l, c =>
    if c.column = indent && !c.rest.isEmpty then do
      let indented := atOneOf " \t" c.rest
      let line := c.rest.takeWhile fun d => !isBreak d
      let c := c.skip line.length
      let last := c.breakText
      let c := if c.rest.isEmpty then c else c.skipBreak
      let (empty, _, next) ← indentation? (some indent) (c.rest.length + 1) [] 0 c
      blockLines? literal indent fuel ⟨l.text ++ l.joint literal indented ++ line, last, empty, indented⟩ next
    else some (l, c)

/-- A block scalar below a parent at the column `parent`; at the top level that is `-1`. -/
def block? (literal : Bool) (parent : Int) (c : Cursor) : Option (List Char × Cursor) := do
  let (header, c) ← header? (c.skip 1)
  let c := (c.skipWhile isBlank).skipComment
  if !atLineEnd c.rest then none
  else
    let c := if c.rest.isEmpty then c else c.skipBreak
    let given := header.indent.map fun n => (max parent 0).toNat + n
    let (empty, deepest, c) ← indentation? given (c.rest.length + 1) [] 0 c
    let indent := given.getD (max (max deepest (parent + 1).toNat) 1)
    let (l, c) ← blockLines? literal indent (c.rest.length + 1) ⟨[], [], empty, false⟩ c
    match header.chomping with
    | .strip => some (l.text, c)
    | .clip => some (l.text ++ l.last, c)
    | .keep => some (l.text ++ l.last ++ l.empty, c)

end Scalar

end Yaml

end SessionOperator
