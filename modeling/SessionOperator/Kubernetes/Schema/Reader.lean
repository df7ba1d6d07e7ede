import SessionOperator.Json.Typed
import SessionOperator.Kubernetes.Schema

/-!
# Reading texts of cluster objects

The text of an object is read into its normal form at once: unknown fields are passed over unread, and of several fields
with one name the last counts, which `null` leaves empty.

* `Schema.read`: reads a value that a schema describes.
-/

namespace SessionOperator

namespace Schema

open Json (TextReader)
open Json.TextReader

/-- What one field after another makes of the fields found so far: `null` drops what was there. -/
def lastOf (fields : List (String × Option Json)) : Dict Json :=
  fields.foldl (fun found f => match f.2 with
    | some value => found.insert f.1 value
    | none => found.erase f.1) []

mutual

def read (fuel : Nat) : Schema → Nat → TextReader Json
  | .text, _ => Json.str <$> Json.TextReader.text fuel "a string"
  | .flag, _ => Json.bool <$> Json.TextReader.flag fuel
  | .int32, _ => Json.int <$> integer fuel (-Int.pow 2 31) (Int.pow 2 31 - 1) "i32"
  | .int64, _ => Json.int <$> integer fuel (-Int.pow 2 63) (Int.pow 2 63 - 1) "i64"
  | .time, _ | .microTime, _ => textAs fuel "an RFC 3339 formatted date and time string" decodeTime
  | .intOrText, depth => scalarAs fuel depth "IntOrString" decodeIntOrText
  | .base64, _ => do
    let s ← nullable (textAs fuel "a base64-encoded string" decodeBase64)
    return s.getD (.str "")
  | .any, depth => value fuel depth
  | .constant content, _ => do
    let s ← Json.TextReader.text fuel "a string"
    if s = content then return .str s else refuseObject (.invalidValue (.str s) content)
  | .list item, depth => Json.arr <$> listOf fuel depth fun depth => read fuel item depth
  | .dict content, depth => Json.obj <$> dictOf fuel depth fun depth => read fuel content depth
  | .record name known, depth => do
    match ← valueMark with
    | '\x7b' => enter depth fun depth => do
      let found := lastOf (← fields (fun key => readField fuel known depth key) fuel fuel true)
      match missing? known found with
      | some key => refuseObject (.missingField key)
      | none => closeObject *> return .obj (assemble known found)
    | '[' => enter depth fun _ => refuseList (.invalidType (.arr []) name)
    | _ => wrongType fuel name

/-- The field with a key; nothing if it is unknown or empty. -/
def readField (fuel : Nat) : List (String × Bool × Schema) → Nat → String → TextReader (Option Json)
  | [], _, _ => skip fuel fuel *> return none
  | (name, required, s) :: rest, depth, key =>
    if key = name then
      if allowsNull required s then nullable (read fuel s depth) else some <$> read fuel s depth
    else readField fuel rest depth key

end

end Schema

end SessionOperator
