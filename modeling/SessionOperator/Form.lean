import SessionOperator.Kubernetes.Schema

/-!
# Forms of documents

What a document may look like whose text is read: which fields a record has, what it means to leave one out, and what
each of them holds.  The fields of a record may be there once only, those of the parts that schemas describe more often.

* `Document`: how documents of a type look, and how they are decoded;
* `Record.ofForm`: the fields of a record with the names of its form.
-/

namespace SessionOperator

/-- Whether a field may be left out, and whether it may be `null`. -/
inductive Presence where
  | required
  /-- It must be there, but may be `null`. -/
  | stated
  /-- Something stands in for an absent field, but not for `null`. -/
  | defaulted
  /-- An absent field and `null` mean the same. -/
  | optional
  /-- It may be absent from an object but not from a list. -/
  | listedOptional
  deriving DecidableEq

namespace Presence

def allowsNull : Presence → Bool
  | required | defaulted => false
  | stated | optional | listedOptional => true

def allowsAbsence : Presence → Bool
  | required | stated => false
  | defaulted | optional | listedOptional => true

/-- Whether a list of fields may end before it. -/
def allowsEnd : Presence → Bool
  | required | stated | listedOptional => false
  | defaulted | optional => true

end Presence

inductive Form where
  | part (schema : Schema)
  /-- Natural numbers of so many binary digits. -/
  | natural (bits : Nat)
  | choice (variants : List String)
  | list (item : Form)
  /-- An object with these fields and others that do not matter, or a list of the fields in this order. -/
  | record (name : String) (fields : List (String × Presence × Form))
  /-- An object with these fields and others that may hold any value; the flag tells whether texts may embed values in
  them. -/
  | extensible (name : String) (embedding : Bool) (fields : List (String × Presence × Form))

namespace Form

def text : Form := .part .text

def flag : Form := .part .flag

def texts : Form := .part Schema.texts

def textDict : Form := .part Schema.textDict

def parts (s : Schema) : Form := .part (.list s)

/-- The names of the variants of an enumeration. -/
def choiceOf {α : Type} (variants : List (String × α)) : Form := .choice (variants.map (·.1))

def name : Form → String
  | .record name _ | .extensible name _ _ => name
  | _ => ""

def fields : Form → List (String × Presence × Form)
  | .record _ fields | .extensible _ _ fields => fields
  | _ => []

end Form

/-- Reads a record whose fields have the names that the form tells. -/
def Record.ofForm (form : Form) : Decoder Record := Record.read form.name (form.fields.map (·.1))

/-- How documents of a type look, and how a value in this form is decoded. -/
structure Document (α : Type) where
  form : Form
  decode : Decoder α

/-- Objects that a schema describes. -/
def Schema.document (s : Schema) : Document Json := ⟨.part s, s.decode⟩

end SessionOperator
