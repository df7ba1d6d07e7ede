import SessionOperator.Form
import SessionOperator.Kubernetes.Schema.Reader

/-!
# Reading texts by their form

* `Form.read`: reads a value of a form;
* `Document.read`: a whole text as a value of a type.
-/

namespace SessionOperator

namespace Form

open Json (TextReader)
open Json.TextReader

/-- The fields of an object up to its closing mark.  A field that has a reader of its own may be there once; what the
others hold is kept or not, and of two with one name the later counts. -/
def readFields (fuel : Nat) (known : String → Option (TextReader Json)) (other : TextReader (Option Json)) :
    Nat → Bool → Dict Json → TextReader (Dict Json)
  | 0, _, _ => fail .endInObject
  | n + 1, first, found => do
    if ← hasKey first then
      let k ← Json.TextReader.key fuel
      match known k with
      | some reader =>
        if (found.get? k).isSome then refuseObject (.duplicateField k)
        else
          colon
          let v ← reader
          readFields fuel known other n false (found.insert k v)
      | none =>
        colon
        match ← other with
        | some v => readFields fuel known other n false (found.insert k v)
        | none => readFields fuel known other n false found
    else return found

/-- The first field that must not be absent and is. -/
def missing? (fields : List (String × Presence × Form)) (found : Dict Json) : Option String :=
  (fields.find? fun f => !f.2.1.allowsAbsence && (found.get? f.1).isNone).map (·.1)

/-- Passes the closing mark of an object in which no field is missing. -/
def closeRecord (fields : List (String × Presence × Form)) (found : Dict Json) : TextReader Json :=
  match missing? fields found with
  | some name => refuseObject (.missingField name)
  | none => closeObject *> return .obj found

def orNull (allowed : Bool) (value : TextReader Json) : TextReader Json :=
  if allowed then Json.orNull <$> nullable value else value

mutual

def read (fuel : Nat) : Form → Nat → TextReader Json
  | .part s, depth => s.read fuel depth
  | .natural bits, _ => Json.int <$> integer fuel 0 (Int.pow 2 bits - 1) ("u" ++ toString bits)
  | .choice variants, depth => Json.str <$> Json.TextReader.choice fuel depth variants
  | .list item, depth => Json.arr <$> listOf fuel depth fun depth => read fuel item depth
  | .record name known, depth => do
    match ← valueMark with
    | '\x7b' => enter depth fun depth => do
      readFields fuel (fun key => reader? fuel known depth key) (skip fuel fuel *> return none) fuel true [] >>=
        closeRecord known
    | '[' => enter depth fun depth => do
      let found ← readListed fuel (Record.tooShort name known.length) known depth 0 true
      closeList
      return .obj found
    | _ => wrongType fuel name
  | .extensible name embedding known, depth => do
    let other := fun depth => if embedding then value fuel depth else valueWith none fuel depth
    if (← valueMark) = '\x7b' then
      enter depth fun depth => do
        readFields fuel (fun key => reader? fuel known depth key) (some <$> other depth) fuel true [] >>=
          closeRecord known
    else wrongType fuel name

/-- The reader of the field with a key. -/
def reader? (fuel : Nat) : List (String × Presence × Form) → Nat → String → Option (TextReader Json)
  | [], _, _ => none
  | (name, presence, f) :: rest, depth, key =>
    if key = name then some (orNull presence.allowsNull (read fuel f depth)) else reader? fuel rest depth key

/-- The fields of a record that are listed in order; `tooShort` tells that a list of some length is too short. -/
def readListed (fuel : Nat) (tooShort : Nat → DecodeError) :
    List (String × Presence × Form) → Nat → Nat → Bool → TextReader (Dict Json)
  | [], _, _, _ => return []
  | (name, presence, f) :: rest, depth, index, first => do
    if ← hasItem first then
      let v ← orNull presence.allowsNull (read fuel f depth)
      return (← readListed fuel tooShort rest depth (index + 1) false).insert name v
    else if presence.allowsEnd then readListed fuel tooShort rest depth (index + 1) first
    else refuseList (tooShort index)

end

end Form

/-- Reads a whole text.  What is in the form can be decoded, so the decoder finds no fault of its own. -/
def Document.read {α : Type} (d : Document α) (text : String) : Except Json.Misread α := do
  let j ← Json.TextReader.readAll (d.form.read (text.length + 1) Json.TextReader.deepest) text
  (d.decode j).mapError .ofDecodeError

end SessionOperator
