import SessionOperator.Dict

/-!
# JSON values

The one dynamic value of the library: requests and answers of the cluster, patches and the objects of the cluster
themselves are trees of this type.  The fields of an object are a dictionary, so objects that differ in the order
of their fields only are equal.  A number is an integer or, when it was written with a fraction or an exponent or
does not fit 64 bits, the binary floating-point number nearest to it.

* `Json.beq_iff`: the comparison decides equality, hence `DecidableEq Json`.
-/

namespace SessionOperator

inductive Json where
  | null
  | bool (value : Bool)
  | int (value : Int)
  /-- A 64-bit binary floating-point number, by its bits. -/
  | float (bits : UInt64)
  | str (value : String)
  | arr (items : List Json)
  | obj (fields : List (String × Json))
  deriving Inhabited

namespace Json

/-! ### Equality -/

mutual

def beq : Json → Json → Bool
  | .null, .null => true
  | .bool a, .bool b => a == b
  | .int a, .int b => a == b
  | .float a, .float b => a == b
  | .str a, .str b => a == b
  | .arr a, .arr b => beqItems a b
  | .obj a, .obj b => beqFields a b
  | _, _ => false

def beqItems : List Json → List Json → Bool
  | [], [] => true
  | a :: as, b :: bs => beq a b && beqItems as bs
  | _, _ => false

def beqFields : List (String × Json) → List (String × Json) → Bool
  | [], [] => true
  | (k, a) :: as, (l, b) :: bs => k == l && (beq a b && beqFields as bs)
  | _, _ => false

end

mutual

theorem beq_iff : (a b : Json) → (beq a b = true ↔ a = b)
  | .null, b => by cases b <;> simp [beq]
  | .bool _, b => by cases b <;> simp [beq]
  | .int _, b => by cases b <;> simp [beq]
  | .float _, b => by cases b <;> simp [beq]
  | .str _, b => by cases b <;> simp [beq]
  | .arr as, b => by cases b <;> simp [beq, beqItems_iff as]
  | .obj as, b => by cases b <;> simp [beq, beqFields_iff as]

theorem beqItems_iff : (as bs : List Json) → (beqItems as bs = true ↔ as = bs)
  | [], bs => by cases bs <;> simp [beqItems]
  | a :: as, bs => by cases bs <;> simp [beqItems, beq_iff a, beqItems_iff as]

theorem beqFields_iff : (as bs : List (String × Json)) → (beqFields as bs = true ↔ as = bs)
  | [], bs => by cases bs <;> simp [beqFields]
  | (k, a) :: as, bs => by
    rcases bs with _ | ⟨⟨l, b⟩, bs⟩
    · simp [beqFields]
    · simp [beqFields, beq_iff a, beqFields_iff as, and_assoc]

end

instance : DecidableEq Json := fun a b => decidable_of_iff _ (beq_iff a b)

/-! ### Reading -/

def entries : Json → Dict Json
  | .obj fields => fields
  | _ => []

def items : Json → List Json
  | .arr items => items
  | _ => []

def get? (j : Json) (key : String) : Option Json := Dict.get? j.entries key

/-- The value at the end of a path of object keys. -/
def path? (j : Json) : List String → Option Json
  | [] => some j
  | key :: rest => (j.get? key).bind fun inner => inner.path? rest

def str? : Json → Option String
  | .str s => some s
  | _ => none

def int? : Json → Option Int
  | .int n => some n
  | _ => none

def bool? : Json → Option Bool
  | .bool b => some b
  | _ => none

/-- The text under a key, if there is one. -/
def text? (j : Json) (key : String) : Option String := (j.get? key).bind str?

def number? (j : Json) (key : String) : Option Int := (j.get? key).bind int?

def flag? (j : Json) (key : String) : Option Bool := (j.get? key).bind bool?

/-- The list under a key; empty if there is none. -/
def list (j : Json) (key : String) : List Json := ((j.get? key).map items).getD []

/-! ### Building -/

def object (fields : List (String × Json)) : Json := .obj (Dict.ofList fields)

/-- An object of the fields that have a value. -/
def objectOfSome (fields : List (String × Option Json)) : Json :=
  object (fields.filterMap fun f => f.2.map fun v => (f.1, v))

def empty : Json := .obj []

def ofStrings (texts : List String) : Json := .arr (texts.map .str)

def ofDict (texts : Dict String) : Json := .obj (texts.mapValues .str)

def orNull : Option Json → Json
  | some v => v
  | none => .null

/-- Sets a key; a value that is not an object is replaced by one with this key alone. -/
def set (j : Json) (key : String) (value : Json) : Json := .obj (Dict.insert key value j.entries)

def remove (j : Json) (key : String) : Json :=
  match j with
  | .obj fields => .obj (Dict.erase key fields)
  | other => other

/-- Gives `j` the value that `source` has under a key, or no value where `source` has none. -/
def copyKey (j source : Json) (key : String) : Json :=
  match source.get? key with
  | some value => j.set key value
  | none => j.remove key

def copyKeys (j source : Json) (keys : List String) : Json := keys.foldl (fun acc key => acc.copyKey source key) j

end Json

end SessionOperator
