import SessionOperator.Children.Update
import SessionOperator.Cluster.Request
import SessionOperator.Config
import SessionOperator.Culling
import SessionOperator.Decode

/-!
# Outcomes of a pass

A pass over a session either fails or says when the next one is due.

* `PassError.message`: the wording of failures.
-/

namespace SessionOperator

inductive PassError where
  | cluster (cause : ApiError)
  | missingObjectKey
  | config (fault : ConfigFault)
  | policy (cause : PolicyError)
  | children (failures : List Failure)
  | serialization (cause : DecodeError)
  deriving DecidableEq

def PassError.message : PassError → String
  | .cluster cause => "Kubernetes error: " ++ cause.message
  | .missingObjectKey => "Missing object key"
  | .config fault => "Configuration error: " ++ fault.message
  | .policy cause => "Culling policy error: " ++ cause.message
  | .children failures => "Child resource reconciliation failed: " ++ "; ".intercalate (failures.map Failure.message)
  | .serialization cause => "Serialization error: " ++ cause.message

/-- When the next pass is due. -/
inductive NextPass where
  | after (seconds : Nat)
  /-- When something about the session changes. -/
  | onChange
  deriving DecidableEq

abbrev Outcome := Except PassError NextPass

/-- The check that a configuration has to pass before the controller starts. -/
def Config.admit (c : Config) : Except PassError Unit := c.check.mapError .config

end SessionOperator
