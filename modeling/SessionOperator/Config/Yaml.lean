import SessionOperator.Config
import SessionOperator.Yaml.Reader

/-!
# Configuration files

Reading a configuration from a YAML document.  A text may be any scalar and is kept as written, truth values and
numbers have to be plain or literal blocks with the tag of their type, and a section that says nothing counts as empty.
A known key may occur once only; unknown keys do not matter.

* `Config.ofYaml?`: the configuration of a file, overridden by the environment.
-/

namespace SessionOperator

namespace Yaml

namespace Document

def text? (d : Document) (y : Yaml) : Option String :=
  match d.node y with
  | .scalar text _ _ => some text
  | _ => none

/-- The text of a scalar that may stand for a value of a type other than text. -/
def typedText? (d : Document) (type : String) (y : Yaml) : Option String :=
  match d.node y with
  | .scalar text .plain _ => some text
  | .scalar text .literal tag => if tag = some ("tag:yaml.org,2002:" ++ type) then some text else none
  | _ => none

def flag? (d : Document) (y : Yaml) : Option Bool := do
  let text ← d.typedText? "bool" y
  if ["true", "True", "TRUE"].contains text then some true
  else if ["false", "False", "FALSE"].contains text then some false
  else none

end Document

def digit? (base : Nat) (c : Char) : Option Nat := do
  let n ← Scalar.hexValue? c
  if n < base then some n else none

def digits? (base : Nat) (cs : List Char) : Option Nat := do
  let values ← cs.mapM (digit? base)
  if values.isEmpty then none else some (values.foldl (fun n v => n * base + v) 0)

/-- Decimal digits without leading zeros, or hexadecimal, octal or binary ones behind their mark. -/
def unsigned? : List Char → Option Nat
  | '0' :: 'x' :: rest => digits? 16 rest
  | '0' :: 'o' :: rest => digits? 8 rest
  | '0' :: 'b' :: rest => digits? 2 rest
  | '0' :: c :: rest => if (c :: rest).all Char.isDigit then none else digits? 10 ('0' :: c :: rest)
  | cs => digits? 10 cs

namespace Document

/-- A natural number below a bound. -/
def nat? (d : Document) (bound : Nat) (y : Yaml) : Option Nat := do
  let text ← d.typedText? "int" y
  let n ← match text.toList with
    | '+' :: rest => unsigned? rest
    | cs => unsigned? cs
  if n < bound then some n else none

/-- The fields of a section; every key has to be a scalar and every known one has to be the only one of its name. -/
def section? (d : Document) (known : List String) (y : Yaml) : Option (List (String × Yaml)) :=
  match d.node y with
  | .mapping entries => do
    let fields ← entries.mapM fun e => (d.text? e.1).map fun key => (key, e.2)
    if known.all fun name => (fields.filter fun f => f.1 = name).length ≤ 1 then some fields else none
  | value => if value.isNothing then some [] else none

end Document

def fieldOr {α : Type} (fields : List (String × Yaml)) (name : String) (default : α) (read : Yaml → Option α) :
    Option α :=
  match fields.find? fun f => f.1 = name with
  | some (_, value) => read value
  | none => some default

end Yaml

open Yaml (fieldOr)

namespace SidecarsConfig

def ofYaml? (env : Environment) (d : Yaml.Document) (y : Yaml) : Option SidecarsConfig := do
  let fields ← d.section? ["image"] y
  let image ← fieldOr fields "image" (default env).image d.text?
  some { image }

end SidecarsConfig

namespace StorageConfig

def ofYaml? (env : Environment) (d : Yaml.Document) (y : Yaml) : Option StorageConfig := do
  let fields ← d.section? fieldNames y
  let defaultSessionSize ← fieldOr fields "defaultSessionSize" (default env).defaultSessionSize d.text?
  let dataSourceStorageClass ← fieldOr fields "dataSourceStorageClass" (default env).dataSourceStorageClass d.text?
  let dataSourceSize ← fieldOr fields "dataSourceSize" (default env).dataSourceSize d.text?
  some { defaultSessionSize, dataSourceStorageClass, dataSourceSize }

end StorageConfig

namespace IdleConfig

def ofYaml? (d : Yaml.Document) (y : Yaml) : Option IdleConfig := do
  let fields ← d.section? fieldNames y
  let enabled ← fieldOr fields "enabled" default.enabled d.flag?
  let cpuThresholdMillicores ←
    fieldOr fields "cpuThresholdMillicores" default.cpuThresholdMillicores (d.nat? (Nat.pow 2 64))
  let lastRequestAgeSeconds ←
    fieldOr fields "lastRequestAgeSeconds" default.lastRequestAgeSeconds (d.nat? (Nat.pow 2 64))
  let requestTimeoutSeconds ←
    fieldOr fields "requestTimeoutSeconds" default.requestTimeoutSeconds (d.nat? (Nat.pow 2 64))
  some { enabled, cpuThresholdMillicores, lastRequestAgeSeconds, requestTimeoutSeconds }

end IdleConfig

namespace ReconcileConfig

def ofYaml? (d : Yaml.Document) (y : Yaml) : Option ReconcileConfig := do
  let fields ← d.section? fieldNames y
  let requeueSeconds ← fieldOr fields "requeueSeconds" default.requeueSeconds (d.nat? (Nat.pow 2 64))
  let statusChangedRequeueSeconds ←
    fieldOr fields "statusChangedRequeueSeconds" default.statusChangedRequeueSeconds (d.nat? (Nat.pow 2 64))
  let errorRequeueSeconds ← fieldOr fields "errorRequeueSeconds" default.errorRequeueSeconds (d.nat? (Nat.pow 2 64))
  let concurrency ← fieldOr fields "concurrency" default.concurrency (d.nat? (Nat.pow 2 16))
  some { requeueSeconds, statusChangedRequeueSeconds, errorRequeueSeconds, concurrency }

end ReconcileConfig

namespace Config

/-- The configuration of a document alone. -/
def ofDocument? (env : Environment) (d : Yaml.Document) : Option Config := do
  let fields ← d.section? fieldNames d.root
  let sidecars ← fieldOr fields "sidecars" (.default env) (SidecarsConfig.ofYaml? env d)
  let storage ← fieldOr fields "storage" (.default env) (StorageConfig.ofYaml? env d)
  let idle ← fieldOr fields "idle" .default (IdleConfig.ofYaml? d)
  let reconcile ← fieldOr fields "reconcile" .default (ReconcileConfig.ofYaml? d)
  some { sidecars, storage, idle, reconcile }

def ofYaml? (env : Environment) (text : String) : Option Config := do
  let d ← Yaml.read? text
  let c ← ofDocument? env d
  some (c.override env)

end Config

end SessionOperator
