import SessionOperator.Cluster.ApiServer
import SessionOperator.Cluster.Probe
import SessionOperator.Cluster.Rehearsal
import SessionOperator.Config.Yaml
import SessionOperator.Pass.Finalizer
import SessionOperator.Proofs.Time.Calendar
import SessionOperator.Proofs.Fallible
import SessionOperator.Proofs.Text.Trim
import SessionOperator.Proofs.Time.Rfc3339
import SessionOperator.Proofs.Culling.HibernationDate
import SessionOperator.Proofs.Conversation
import SessionOperator.Proofs.Pass.Conversation
import SessionOperator.Proofs.Culling.History
import SessionOperator.Proofs.Pass.Resumption
import SessionOperator.Proofs.Dict
import SessionOperator.Proofs.Json.MergePatch
import SessionOperator.Proofs.Kubernetes.Record
import SessionOperator.Proofs.Kubernetes.Document
import SessionOperator.Proofs.Json
import SessionOperator.Proofs.Kubernetes.Value
import SessionOperator.Proofs.Child
import SessionOperator.Proofs.Child.Settled
import SessionOperator.Proofs.Children.Brought
import SessionOperator.Proofs.Children.Reconcile
import SessionOperator.Proofs.Diagnosis
import SessionOperator.Proofs.Pass.Convergence
import SessionOperator.Proofs.Status.Lifecycle
import SessionOperator.Proofs.Session.Patched
import SessionOperator.Proofs.Children.Errand
import SessionOperator.Proofs.Pass.Conduct
import SessionOperator.Proofs.Children.Apart
import SessionOperator.Proofs.Pass.Hibernation
import SessionOperator.Proofs.Cluster.Faults
import SessionOperator.Proofs.Pass.Cleanup
import SessionOperator.Proofs.Decode
import SessionOperator.Proofs.Session.Naming
import SessionOperator.Proofs.Session.ValidNames
import SessionOperator.Proofs.Config.Usable
import SessionOperator.Proofs.Session.Recording
import SessionOperator.Proofs.Session.Coherence
import SessionOperator.Proofs.Children.Independence
import SessionOperator.Proofs.Pass.Restraint
import SessionOperator.Proofs.Pass.Departure
import SessionOperator.Proofs.Children.Statuses
import SessionOperator.Proofs.Pass.Outage
import SessionOperator.Proofs.Pass.Recorded
import SessionOperator.Proofs.Children.Operation
import SessionOperator.Proofs.Status.Conditions
import SessionOperator.Proofs.Kubernetes.Untimed
import SessionOperator.Proofs.Kubernetes.Accepted
import SessionOperator.Proofs.Session.Typed
import SessionOperator.Proofs.Session.RoundTrip
import SessionOperator.Proofs.Session.Hibernating
import SessionOperator.Proofs.Session.Total
import SessionOperator.Proofs.Session.Faithful
import SessionOperator.Proofs.Session.Storage
import SessionOperator.Proofs.Session.Address
import SessionOperator.Proofs.Diagnosis.Scheduling
import SessionOperator.Proofs.Diagnosis.Reported
import SessionOperator.Proofs.Status.Readiness
import SessionOperator.Proofs.Status.DeletedPod
