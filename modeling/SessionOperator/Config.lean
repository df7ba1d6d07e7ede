import SessionOperator.Decode
import SessionOperator.Text.Trim

/-!
# Configuration

What an operator of the controller can set, each with a default.  Two defaults may come from the environment.

* `Config.default`, `Config.decode`, `Config.encode`;
* `Config.check`: the first reason why a configuration cannot be used;
* `Quantity.isValid`: the storage sizes that a configuration may name.
-/

namespace SessionOperator

/-- The environment variables that the controller looks at. -/
structure Environment where
  sidecarsImage : Option String
  storageClass : Option String
  deriving DecidableEq

structure SidecarsConfig where
  image : String
  deriving DecidableEq

structure StorageConfig where
  defaultSessionSize : String
  dataSourceStorageClass : String
  dataSourceSize : String
  deriving DecidableEq

structure IdleConfig where
  enabled : Bool
  cpuThresholdMillicores : Nat
  lastRequestAgeSeconds : Nat
  requestTimeoutSeconds : Nat
  deriving DecidableEq

structure ReconcileConfig where
  requeueSeconds : Nat
  statusChangedRequeueSeconds : Nat
  errorRequeueSeconds : Nat
  /-- Sessions reconciled in parallel; zero means no bound. -/
  concurrency : Nat
  deriving DecidableEq

structure Config where
  sidecars : SidecarsConfig
  storage : StorageConfig
  idle : IdleConfig
  reconcile : ReconcileConfig
  deriving DecidableEq

/-! ### Defaults -/

def SidecarsConfig.default (env : Environment) : SidecarsConfig :=
  ⟨env.sidecarsImage.getD "ghcr.io/5dlabs/session-sidecars:latest"⟩

def StorageConfig.default (env : Environment) : StorageConfig :=
  ⟨"1Gi", env.storageClass.getD "csi-rclone", "10Gi"⟩

def IdleConfig.default : IdleConfig := ⟨true, 300, 1800, 5⟩

def ReconcileConfig.default : ReconcileConfig := ⟨10, 1, 30, 16⟩

def Config.default (env : Environment) : Config := ⟨.default env, .default env, .default, .default⟩

/-! ### Documents -/

namespace SidecarsConfig

def decode (env : Environment) : Decoder SidecarsConfig := fun j => do
  let r ← Record.read "struct SidecarsConfig" ["image"] j
  let image ← r.withDefault "image" (default env).image Decoder.text
  .ok { image }

def encode (c : SidecarsConfig) : Json := .object [("image", .str c.image)]

end SidecarsConfig

namespace StorageConfig

def fieldNames : List String := ["defaultSessionSize", "dataSourceStorageClass", "dataSourceSize"]

def decode (env : Environment) : Decoder StorageConfig := fun j => do
  let r ← Record.read "struct StorageConfig" fieldNames j
  let defaultSessionSize ← r.withDefault "defaultSessionSize" (default env).defaultSessionSize Decoder.text
  let dataSourceStorageClass ← r.withDefault "dataSourceStorageClass" (default env).dataSourceStorageClass Decoder.text
  let dataSourceSize ← r.withDefault "dataSourceSize" (default env).dataSourceSize Decoder.text
  .ok { defaultSessionSize, dataSourceStorageClass, dataSourceSize }

def encode (c : StorageConfig) : Json :=
  .object [("defaultSessionSize", .str c.defaultSessionSize), ("dataSourceStorageClass", .str c.dataSourceStorageClass),
    ("dataSourceSize", .str c.dataSourceSize)]

end StorageConfig

namespace IdleConfig

def fieldNames : List String := ["enabled", "cpuThresholdMillicores", "lastRequestAgeSeconds", "requestTimeoutSeconds"]

def decode : Decoder IdleConfig := fun j => do
  let r ← Record.read "struct IdleConfig" fieldNames j
  let enabled ← r.withDefault "enabled" default.enabled Decoder.flag
  let cpuThresholdMillicores ← r.withDefault "cpuThresholdMillicores" default.cpuThresholdMillicores Decoder.nat64
  let lastRequestAgeSeconds ← r.withDefault "lastRequestAgeSeconds" default.lastRequestAgeSeconds Decoder.nat64
  let requestTimeoutSeconds ← r.withDefault "requestTimeoutSeconds" default.requestTimeoutSeconds Decoder.nat64
  .ok { enabled, cpuThresholdMillicores, lastRequestAgeSeconds, requestTimeoutSeconds }

def encode (c : IdleConfig) : Json :=
  .object [("enabled", .bool c.enabled), ("cpuThresholdMillicores", .int c.cpuThresholdMillicores),
    ("lastRequestAgeSeconds", .int c.lastRequestAgeSeconds), ("requestTimeoutSeconds", .int c.requestTimeoutSeconds)]

end IdleConfig

namespace ReconcileConfig

def fieldNames : List String :=
  ["requeueSeconds", "statusChangedRequeueSeconds", "errorRequeueSeconds", "concurrency"]

def decode : Decoder ReconcileConfig := fun j => do
  let r ← Record.read "struct ReconcileConfig" fieldNames j
  let requeueSeconds ← r.withDefault "requeueSeconds" default.requeueSeconds Decoder.nat64
  let statusChangedRequeueSeconds ←
    r.withDefault "statusChangedRequeueSeconds" default.statusChangedRequeueSeconds Decoder.nat64
  let errorRequeueSeconds ← r.withDefault "errorRequeueSeconds" default.errorRequeueSeconds Decoder.nat64
  let concurrency ← r.withDefault "concurrency" default.concurrency Decoder.nat16
  .ok { requeueSeconds, statusChangedRequeueSeconds, errorRequeueSeconds, concurrency }

def encode (c : ReconcileConfig) : Json :=
  .object [("requeueSeconds", .int c.requeueSeconds),
    ("statusChangedRequeueSeconds", .int c.statusChangedRequeueSeconds),
    ("errorRequeueSeconds", .int c.errorRequeueSeconds), ("concurrency", .int c.concurrency)]

end ReconcileConfig

namespace Config

def fieldNames : List String := ["sidecars", "storage", "idle", "reconcile"]

def decode (env : Environment) : Decoder Config := fun j => do
  let r ← Record.read "struct ControllerConfig" fieldNames j
  let sidecars ← r.withDefault "sidecars" (.default env) (SidecarsConfig.decode env)
  let storage ← r.withDefault "storage" (.default env) (StorageConfig.decode env)
  let idle ← r.withDefault "idle" .default IdleConfig.decode
  let reconcile ← r.withDefault "reconcile" .default ReconcileConfig.decode
  .ok { sidecars, storage, idle, reconcile }

def encode (c : Config) : Json :=
  .object [("sidecars", c.sidecars.encode), ("storage", c.storage.encode), ("idle", c.idle.encode),
    ("reconcile", c.reconcile.encode)]

/-- The environment wins over a document that was read. -/
def override (env : Environment) (c : Config) : Config :=
  { c with
    sidecars := ⟨env.sidecarsImage.getD c.sidecars.image⟩
    storage := { c.storage with dataSourceStorageClass := env.storageClass.getD c.storage.dataSourceStorageClass } }

end Config

/-! ### Validity -/

namespace Quantity

def units : List String := ["Ki", "Mi", "Gi", "Ti", "Pi", "Ei", "k", "M", "G", "T", "P", "E"]

def isUnit (cs : List Char) : Bool := cs.isEmpty || units.any fun u => u.toList = cs

/-- What may follow the digits of a quantity: a fraction, a unit, both or nothing. -/
def isTail : List Char → Bool
  | '.' :: rest => !(rest.takeWhile Char.isDigit).isEmpty && isUnit (rest.dropWhile Char.isDigit)
  | rest => isUnit rest

/-- Digits, optionally a fraction, optionally a unit, and nothing before or after. -/
def isValid (s : String) : Bool :=
  !(s.toList.takeWhile Char.isDigit).isEmpty && isTail (s.toList.dropWhile Char.isDigit)

end Quantity

inductive ConfigFault where
  | noSidecarsImage
  | badQuantity (field value : String)
  | noStorageClass
  | zeroRequeue
  | zeroTimeout
  deriving DecidableEq

def ConfigFault.message : ConfigFault → String
  | .noSidecarsImage => "sidecars.image must name the authentication proxy image"
  | .badQuantity field value => field ++ " '" ++ value ++ "' is not a valid storage quantity"
  | .noStorageClass => "storage.dataSourceStorageClass must not be empty"
  | .zeroRequeue => "reconcile requeue intervals must be greater than zero"
  | .zeroTimeout => "idle.requestTimeoutSeconds must be greater than zero"

namespace Config

def check (c : Config) : Except ConfigFault Unit :=
  if Text.isBlankText c.sidecars.image then .error .noSidecarsImage
  else if !Quantity.isValid (Text.trim c.storage.defaultSessionSize) then
    .error (.badQuantity "storage.defaultSessionSize" c.storage.defaultSessionSize)
  else if !Quantity.isValid (Text.trim c.storage.dataSourceSize) then
    .error (.badQuantity "storage.dataSourceSize" c.storage.dataSourceSize)
  else if Text.isBlankText c.storage.dataSourceStorageClass then .error .noStorageClass
  else if c.reconcile.requeueSeconds = 0 ∨ c.reconcile.statusChangedRequeueSeconds = 0 ∨
      c.reconcile.errorRequeueSeconds = 0 then .error .zeroRequeue
  else if c.idle.enabled ∧ c.idle.requestTimeoutSeconds = 0 then .error .zeroTimeout
  else .ok ()

end Config

end SessionOperator
