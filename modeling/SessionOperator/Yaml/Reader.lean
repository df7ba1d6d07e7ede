import SessionOperator.Yaml

/-!
# Reading YAML

The tree of a document from its tokens.  Wherever a node may be left out, nothing stands in for it.  A tag must have a
declared handle, an alias must name an anchor that was set before, and a text must not hold more than one document.

An anchor goes by the number of names that were set before it.  A name that is set again takes a new number, the next
new name takes the same one, and of the nodes of one number the last counts.

* `Yaml.read?`: the document of a text, or nothing when the text is malformed.
-/

namespace SessionOperator

namespace Yaml

/-- What is left of the tokens and the anchors so far. -/
structure Reading where
  tokens : List Token
  /-- The names of anchors with their numbers. -/
  names : List (List Char × Nat)
  /-- The nodes with anchors in the order in which they started, by their numbers; the latest comes first. -/
  started : List Nat
  /-- The nodes that are complete, by their places in that order. -/
  nodes : List (Nat × Yaml)

abbrev Reader := StateT Reading Option

namespace Reading

def peek : Reader Token := do
  match (← get).tokens with
  | [] => return .streamEnd
  | t :: _ => return t

def pass : Reader Unit := modify fun r => { r with tokens := r.tokens.drop 1 }

/-- Passes the next token if it is the given one. -/
def passIf (t : Token) : Reader Bool := do
  if (← peek) = t then
    pass
    return true
  else return false

def expect (t : Token) : Reader Unit := do if !(← passIf t) then failure

/-! ### Anchors and tags -/

/-- Takes note of an anchor whose node starts here; the answer is the place of the node. -/
def setAnchor (name : List Char) : Reader Nat := do
  let r ← get
  let number := r.names.length
  set { r with names := (name, number) :: r.names.filter fun n => n.1 ≠ name, started := number :: r.started }
  return r.started.length

/-- A node that is complete. -/
def finish (place : Option Nat) (y : Yaml) : Reader Yaml := do
  if let some p := place then modify fun r => { r with nodes := (p, y) :: r.nodes }
  return y

def numberOf (name : List Char) : Reader Nat := do
  match (← get).names.find? fun n => n.1 = name with
  | some (_, number) => return number
  | none => failure

/-- The nodes by the numbers of their anchors; of those with one number the last to start comes first. -/
def anchors (r : Reading) : List (Nat × Yaml) :=
  (r.started.zip (List.range r.started.length).reverse).filterMap fun (number, place) =>
    (r.nodes.find? fun n => n.1 = place).map fun n => (number, n.2)

/-- The meanings of the handles of tags. -/
abbrev Handles := List (List Char × List Char)

def Handles.standard : Handles := [(['!'], ['!']), (['!', '!'], "tag:yaml.org,2002:".toList)]

/-- The part of a tag before the first NUL, where it ends. -/
def beforeNul (cs : List Char) : List Char := cs.takeWhile fun c => c ≠ '\x00'

def tagName? (handles : Handles) (handle suffix : List Char) : Option String :=
  if handle.isEmpty then some (String.ofList (beforeNul suffix))
  else (handles.find? fun h => h.1 = handle).map fun h => String.ofList (beforeNul h.2 ++ beforeNul suffix)

structure Properties where
  place : Option Nat
  tag : Option String

def anchor : Reader (Option Nat) := do
  match ← peek with
  | .anchor name =>
    pass
    return some (← setAnchor name)
  | _ => return none

def tag (handles : Handles) : Reader (Option String) := do
  match ← peek with
  | .tag handle suffix =>
    pass
    return some (← tagName? handles handle suffix)
  | _ => return none

/-- An anchor and a tag, in either order. -/
def properties (handles : Handles) : Reader Properties := do
  match ← anchor with
  | some place => return ⟨some place, ← tag handles⟩
  | none =>
    let tag ← tag handles
    return ⟨← anchor, tag⟩

/-! ### Nodes -/

mutual

/-- A node; block collections count in a block only, and a sequence without indentation only below a key. -/
def node (handles : Handles) : Nat → Bool → Bool → Reader Yaml
  | 0, _, _ => failure
  | fuel + 1, block, level => do
    match ← peek with
    | .alias name =>
      pass
      return .alias (← numberOf name)
    | _ =>
      let p ← properties handles
      match ← peek with
      | .blockEntry => if level then finish p.place (.sequence (← levelItems handles fuel)) else empty p
      | .scalar text style =>
        pass
        finish p.place (.scalar (String.ofList text) style p.tag)
      | .flowSequenceStart =>
        pass
        finish p.place (.sequence (← flowItems handles fuel true))
      | .flowMappingStart =>
        pass
        finish p.place (.mapping (← flowEntries handles fuel true))
      | .blockSequenceStart =>
        if block then
          pass
          finish p.place (.sequence (← blockItems handles fuel))
        else empty p
      | .blockMappingStart =>
        if block then
          pass
          finish p.place (.mapping (← blockEntries handles fuel))
        else empty p
      | _ => empty p

/-- A node of which there are properties alone. -/
def empty (p : Properties) : Reader Yaml :=
  if p.place.isSome || p.tag.isSome then finish p.place (.scalar "" .plain p.tag) else failure

/-- A node, or nothing before one of the given tokens. -/
def nodeUnless (handles : Handles) : Nat → List Token → Bool → Bool → Reader Yaml
  | 0, _, _, _ => failure
  | fuel + 1, stops, block, level => do
    if stops.contains (← peek) then return nothing else node handles fuel block level

def blockItems (handles : Handles) : Nat → Reader (List Yaml)
  | 0 => failure
  | fuel + 1 => do
    if ← passIf .blockEntry then
      let item ← nodeUnless handles fuel [.blockEntry, .blockEnd] true false
      return item :: (← blockItems handles fuel)
    else
      expect .blockEnd
      return []

def levelItems (handles : Handles) : Nat → Reader (List Yaml)
  | 0 => failure
  | fuel + 1 => do
    if ← passIf .blockEntry then
      let item ← nodeUnless handles fuel [.blockEntry, .key, .value, .blockEnd] true false
      return item :: (← levelItems handles fuel)
    else return []

def blockEntries (handles : Handles) : Nat → Reader (List (Yaml × Yaml))
  | 0 => failure
  | fuel + 1 => do
    if ← passIf .key then
      let stops := [Token.key, .value, .blockEnd]
      let key ← nodeUnless handles fuel stops true true
      let value ← if ← passIf .value then nodeUnless handles fuel stops true true else pure nothing
      return (key, value) :: (← blockEntries handles fuel)
    else
      expect .blockEnd
      return []

/-- A flow sequence may hold pairs, each of which is a mapping. -/
def flowItems (handles : Handles) : Nat → Bool → Reader (List Yaml)
  | 0, _ => failure
  | fuel + 1, first => do
    if ← passIf .flowSequenceEnd then return []
    else
      if !first then expect .flowEntry
      if ← passIf .flowSequenceEnd then return []
      else if ← passIf .key then
        let pair ← flowPair handles fuel
        return pair :: (← flowItems handles fuel false)
      else
        let item ← node handles fuel false false
        return item :: (← flowItems handles fuel false)

/-- A pair in a flow sequence.  A token that stands where its key is missing is passed over. -/
def flowPair (handles : Handles) : Nat → Reader Yaml
  | 0 => failure
  | fuel + 1 => do
    let stops := [Token.flowEntry, .flowSequenceEnd]
    let key ← if (Token.value :: stops).contains (← peek) then
        pass
        pure nothing
      else node handles fuel false false
    let value ← if ← passIf .value then nodeUnless handles fuel stops false false else pure nothing
    return .mapping [(key, value)]

def flowEntries (handles : Handles) : Nat → Bool → Reader (List (Yaml × Yaml))
  | 0, _ => failure
  | fuel + 1, first => do
    if ← passIf .flowMappingEnd then return []
    else
      if !first then expect .flowEntry
      let stops := [Token.flowEntry, .flowMappingEnd]
      if ← passIf .flowMappingEnd then return []
      else if ← passIf .key then
        let key ← nodeUnless handles fuel (.value :: stops) false false
        let value ← if ← passIf .value then nodeUnless handles fuel stops false false else pure nothing
        return (key, value) :: (← flowEntries handles fuel false)
      else
        let key ← node handles fuel false false
        return (key, nothing) :: (← flowEntries handles fuel false)

end

/-! ### Documents -/

/-- The directives in front of a document.  A version and a handle may be declared once; the version must be 1.1 or
1.2. -/
def directives : Nat → Bool → Handles → Reader Handles
  | 0, _, _ => failure
  | fuel + 1, versioned, declared => do
    match ← peek with
    | .version major minor =>
      if versioned || major ≠ 1 || !(minor = 1 || minor = 2) then failure
      pass
      directives fuel true declared
    | .tagHandle handle tagPrefix =>
      if declared.any fun h => h.1 = handle then failure
      pass
      directives fuel versioned (declared ++ [(handle, tagPrefix)])
    | _ => return declared ++ Handles.standard

def isDirective : Token → Bool
  | .version .. | .tagHandle .. => true
  | _ => false

/-- The content behind a start marker may be missing. -/
def content (handles : Handles) (fuel : Nat) : Reader Yaml := do
  let t ← peek
  if isDirective t || [Token.documentStart, .documentEnd, .streamEnd].contains t then return nothing
  else node handles fuel true false

def passEnds : Nat → Reader Unit
  | 0 => failure
  | fuel + 1 => do if ← passIf .documentEnd then passEnds fuel

/-- The first document, with or without a start marker, after which there must be none. -/
def document (fuel : Nat) : Reader Document := do
  let t ← peek
  if t = .streamEnd then return .empty
  else
    let root ←
      if isDirective t || t = .documentStart then
        let handles ← directives fuel false []
        expect .documentStart
        content handles fuel
      else node .standard fuel true false
    let r ← get
    passEnds fuel
    if (← peek) = .streamEnd then return ⟨root, r.anchors⟩ else failure

end Reading

def read? (text : String) : Option Document := do
  let tokens ← Token.scan? text.toList
  let (d, _) ← (Reading.document (4 * tokens.length + 8)).run ⟨tokens, [], [], []⟩
  some d

end Yaml

end SessionOperator
