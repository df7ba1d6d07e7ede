import SessionOperator.Json
import SessionOperator.Decimal.Shortest
import SessionOperator.Text.Base64
import SessionOperator.Text.Quoted
import SessionOperator.Time.Rfc3339

/-!
# Decoding

Decoders from JSON to typed values.  A record is read from an object, in which unknown fields do not matter, or from
a list of its fields in declared order.  A field is required, or has a default that stands in when it is absent but
not when it is `null`, or is optional, and then absent and `null` mean the same.

* `DecodeError.message`: the wording of the faults;
* `Decoder.text`, `Decoder.integer`, `Decoder.list`, `Decoder.choice`, …: the basic decoders;
* `Record.read`: the fields of a record, for `Record.required`, `Record.withDefault` and `Record.optional`.
-/

namespace SessionOperator

inductive DecodeError where
  | invalidType (found : Json) (expected : String)
  | invalidValue (found : Json) (expected : String)
  | invalidLength (length : Nat) (expected : String)
  | unknownVariant (name : String) (variants : List String)
  | missingField (name : String)
  | duplicateField (name : String)
  | malformedTime (cause : TimeError)
  | malformedBase64 (cause : Base64.Fault)
  deriving DecidableEq

namespace DecodeError

/-- How a fault names the value that it found. -/
def describe : Json → String
  | .null => "null"
  | .bool true => "boolean `true`"
  | .bool false => "boolean `false`"
  | .int n => "integer `" ++ toString n ++ "`"
  | .float bits => "floating point `" ++ FloatText.json.write bits ++ "`"
  | .str s => "string " ++ Text.quoted s
  | .arr _ => "sequence"
  | .obj _ => "map"

def alternatives : List String → String
  | [] => "there are no variants"
  | [a] => "expected `" ++ a ++ "`"
  | [a, b] => "expected `" ++ a ++ "` or `" ++ b ++ "`"
  | names => "expected one of " ++ ", ".intercalate (names.map fun n => "`" ++ n ++ "`")

def message : DecodeError → String
  | .invalidType found expected => "invalid type: " ++ describe found ++ ", expected " ++ expected
  | .invalidValue found expected => "invalid value: " ++ describe found ++ ", expected " ++ expected
  | .invalidLength length expected => "invalid length " ++ toString length ++ ", expected " ++ expected
  | .unknownVariant name variants => "unknown variant `" ++ name ++ "`, " ++ alternatives variants
  | .missingField name => "missing field `" ++ name ++ "`"
  | .duplicateField name => "duplicate field `" ++ name ++ "`"
  | .malformedTime cause => cause.message
  | .malformedBase64 cause => cause.message

end DecodeError

abbrev Decoder (α : Type) := Json → Except DecodeError α

namespace Decoder

def text : Decoder String
  | .str s => .ok s
  | j => .error (.invalidType j "a string")

def flag : Decoder Bool
  | .bool b => .ok b
  | j => .error (.invalidType j "a boolean")

/-- An integer of a named range. -/
def integer (low high : Int) (expected : String) : Decoder Int
  | .int n => if low ≤ n ∧ n ≤ high then .ok n else .error (.invalidValue (.int n) expected)
  | j => .error (.invalidType j expected)

def int32 : Decoder Int := integer (-Int.pow 2 31) (Int.pow 2 31 - 1) "i32"

def int64 : Decoder Int := integer (-Int.pow 2 63) (Int.pow 2 63 - 1) "i64"

def nat64 : Decoder Nat := fun j => (integer 0 (Int.pow 2 64 - 1) "u64" j).map Int.toNat

def nat16 : Decoder Nat := fun j => (integer 0 (Int.pow 2 16 - 1) "u16" j).map Int.toNat

def list {α : Type} (item : Decoder α) : Decoder (List α)
  | .arr items => items.mapM item
  | j => .error (.invalidType j "a sequence")

def dict {α : Type} (value : Decoder α) : Decoder (Dict α)
  | .obj fields => fields.mapM fun f => (value f.2).map fun v => (f.1, v)
  | j => .error (.invalidType j "a map")

def optional {α : Type} (value : Decoder α) : Decoder (Option α)
  | .null => .ok none
  | j => (value j).map some

def variant {α : Type} (variants : List (String × α)) (name : String) : Except DecodeError α :=
  match Dict.get? variants name with
  | some a => .ok a
  | none => .error (.unknownVariant name (variants.map (·.1)))

/-- One of a list of names, written as a text or as an object whose only key is the name, with the value `null`. -/
def choice {α : Type} (variants : List (String × α)) : Decoder α
  | .str name => variant variants name
  | .obj [(name, content)] => do
    let a ← variant variants name
    if content = .null then .ok a else .error (.invalidType content "unit")
  | .obj fields => .error (.invalidValue (.obj fields) "map with a single key")
  | j => .error (.invalidType j "string or map")

end Decoder

/-- The fields of a record as they were found, the fault that a missing one means, and whether they were listed without
their names. -/
structure Record where
  fields : Dict Json
  missing : String → DecodeError
  listed : Bool

namespace Record

/-- A list of `length` fields of a record is too short for a record with `size` fields. -/
def tooShort (name : String) (size length : Nat) : DecodeError :=
  .invalidLength length (name ++ " with " ++ toString size ++ if size = 1 then " element" else " elements")

/-- Reads a record of the given name, whose fields are listed in declared order. -/
def read (name : String) (fields : List String) : Decoder Record
  | .obj found => .ok ⟨found, .missingField, false⟩
  | .arr items =>
    if fields.length < items.length then .error (.invalidLength items.length "fewer elements in array")
    else .ok ⟨Dict.ofList (fields.zip items), fun field => tooShort name fields.length (fields.idxOf field), true⟩
  | j => .error (.invalidType j name)

variable {α : Type}

def required (r : Record) (field : String) (value : Decoder α) : Except DecodeError α :=
  match Dict.get? r.fields field with
  | some j => value j
  | none => .error (r.missing field)

def withDefault (r : Record) (field : String) (default : α) (value : Decoder α) : Except DecodeError α :=
  match Dict.get? r.fields field with
  | some j => value j
  | none => .ok default

def optional (r : Record) (field : String) (value : Decoder α) : Except DecodeError (Option α) :=
  r.withDefault field none (Decoder.optional value)

/-- An optional field that may be absent from an object but not from a list. -/
def listedOptional (r : Record) (field : String) (value : Decoder α) : Except DecodeError (Option α) :=
  if r.listed then r.required field (Decoder.optional value) else r.optional field value

end Record

end SessionOperator
