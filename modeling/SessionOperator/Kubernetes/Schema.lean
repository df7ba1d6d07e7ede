import SessionOperator.Decode

/-!
# Schemas of cluster objects

Objects of the cluster are JSON values in a normal form that their schema describes: fields the schema does not know
are gone, optional fields without a value are absent, required fields are there even when they hold nothing, and
timestamps are in UTC with the fewest exact digits of fraction.  A document must not leave out a required timestamp.

* `Schema.decode`: the normal form of a document, or the first field that does not fit;
* `Schema.Conforms`: the values that are in normal form;
* `Schema.encode`: the document of an object, in which timestamps lose the digits that documents do not carry.
-/

namespace SessionOperator

inductive Schema where
  | text
  | flag
  | int32
  | int64
  | time
  | microTime
  | intOrText
  /-- A text that holds binary data; `null` counts as empty. -/
  | base64
  | any
  /-- A text that documents may leave out but not change. -/
  | constant (value : String)
  | list (item : Schema)
  | dict (value : Schema)
  /-- Fields in the order of their names; the flag tells which are required. -/
  | record (name : String) (fields : List (String × Bool × Schema))

namespace Schema

def opt (s : Schema) : Bool × Schema := (false, s)

def req (s : Schema) : Bool × Schema := (true, s)

def quantity : Schema := .text

def texts : Schema := .list .text

def textDict : Schema := .dict .text

mutual

/-- What a required field holds when a document leaves it out; there is no such timestamp. -/
def zero? : Schema → Option Json
  | .text | .base64 => some (.str "")
  | .flag => some (.bool false)
  | .int32 | .int64 | .intOrText => some (.int 0)
  | .time | .microTime => none
  | .any => some .null
  | .constant value => some (.str value)
  | .list _ => some (.arr [])
  | .dict _ => some (.obj [])
  | .record _ fields => (zeroFields? fields).map .obj

def zeroFields? : List (String × Bool × Schema) → Option (List (String × Json))
  | [] => some []
  | (key, required, s) :: rest => do
    let others ← zeroFields? rest
    if required then return (key, ← zero? s) :: others else return others

end

/-- What stands in for a value that is left out; `null` if nothing does. -/
def zero (s : Schema) : Json := s.zero?.getD .null

def decodeTime (j : Json) : Except DecodeError Json :=
  match j with
  | .str s =>
    match Instant.parseLenient s with
    | .ok t => .ok (.str (t.write .exact))
    | .error e => .error (.malformedTime e)
  | j => .error (.invalidType j "an RFC 3339 formatted date and time string")

def decodeIntOrText (j : Json) : Except DecodeError Json :=
  match j with
  | .str _ => .ok j
  | .int n => if -Int.pow 2 31 ≤ n ∧ n < Int.pow 2 31 then .ok j else .error (.invalidValue j "a 32-bit integer")
  | _ => .error (.invalidType j "IntOrString")

def decodeBase64 (j : Json) : Except DecodeError Json :=
  match j with
  | .null => .ok (.str "")
  | .str s =>
    match Base64.check s with
    | .ok () => .ok j
    | .error e => .error (.malformedBase64 e)
  | j => .error (.invalidType j "a base64-encoded string")

def isConstant : Schema → Bool
  | .constant _ => true
  | _ => false

/-- Whether a field must be there because nothing stands in for it. -/
def isIndispensable (required : Bool) (s : Schema) : Bool := required && s.zero?.isNone

/-- Whether a field that is `null` counts as left out. -/
def allowsNull (required : Bool) (s : Schema) : Bool := !s.isConstant && !isIndispensable required s

/-- The value of a field that is not left out. -/
def stated? (required : Bool) (s : Schema) (value : Option Json) : Option Json :=
  value.filter fun j => !(j = .null && allowsNull required s)

/-- The first field that must be there and is not. -/
def missing? (fields : List (String × Bool × Schema)) (found : Dict Json) : Option String :=
  (fields.find? fun f => isIndispensable f.2.1 f.2.2 && (found.get? f.1).isNone).map (·.1)

/-- The fields of a record in normal form, of which some were found. -/
def assemble : List (String × Bool × Schema) → Dict Json → Dict Json
  | [], _ => []
  | (key, required, s) :: rest, found =>
    match (found.get? key).or (if required then zero? s else none) with
    | some value => (key, value) :: assemble rest found
    | none => assemble rest found

mutual

def decode : Schema → Decoder Json
  | .text, j => (Decoder.text j).map .str
  | .flag, j => (Decoder.flag j).map .bool
  | .int32, j => (Decoder.int32 j).map .int
  | .int64, j => (Decoder.int64 j).map .int
  | .time, j => decodeTime j
  | .microTime, j => decodeTime j
  | .intOrText, j => decodeIntOrText j
  | .base64, j => decodeBase64 j
  | .any, j => .ok j
  | .constant value, j => do
    let s ← Decoder.text j
    if s = value then .ok j else .error (.invalidValue j value)
  | .list item, j => (Decoder.list (decode item) j).map .arr
  | .dict value, j => (Decoder.dict (decode value) j).map .obj
  | .record name fields, j =>
    match j with
    | .obj content => do
      let found ← decodeFields fields content
      match missing? fields found with
      | some key => .error (.missingField key)
      | none => .ok (.obj (assemble fields found))
    | j => .error (.invalidType j name)

/-- The fields that are there. -/
def decodeFields : List (String × Bool × Schema) → Dict Json → Except DecodeError (Dict Json)
  | [], _ => .ok []
  | (key, required, s) :: rest, content =>
    match stated? required s (content.get? key) with
    | some value => do
      let value ← decode s value
      let others ← decodeFields rest content
      .ok ((key, value) :: others)
    | none => decodeFields rest content

end

def Conforms (s : Schema) (j : Json) : Prop := s.decode j = .ok j

def rewriteTime (digits : FractionDigits) (j : Json) : Json :=
  match j with
  | .str s =>
    match Instant.parseLenient s with
    | .ok t => .str (t.write digits)
    | .error _ => j
  | j => j

mutual

def encode : Schema → Json → Json
  | .time, j => rewriteTime .none j
  | .microTime, j => rewriteTime .six j
  | .list item, .arr items => .arr (items.map (encode item))
  | .dict value, .obj fields => .obj (fields.map fun f => (f.1, encode value f.2))
  | .record _ fields, .obj found => .obj (encodeFields fields found)
  | _, j => j

def encodeFields : List (String × Bool × Schema) → Dict Json → Dict Json
  | [], found => found
  | (key, _, s) :: rest, found =>
    encodeFields rest
      (match Dict.get? found key with
      | some value => Dict.insert key (encode s value) found
      | none => found)

end

end Schema

end SessionOperator
