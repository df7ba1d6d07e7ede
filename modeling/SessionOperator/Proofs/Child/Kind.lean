import SessionOperator.Child
import SessionOperator.Proofs.Kubernetes.Value

/-!
# The schemas of all kinds

Every kind of child is a record with metadata, a spec and a status, and the fields of every record in it stand in order.

* `ChildKind.schema_isOrdered`: the schema of a kind is in order;
* `ChildKind.hasField_metadata`, `ChildKind.hasField_spec`, `ChildKind.hasField_status`: the fields that all kinds have.
-/

namespace SessionOperator

namespace ChildKind

theorem schema_isOrdered (k : ChildKind) : k.schema.isOrdered = true := by
  cases k <;> decide +kernel

def specSchema : ChildKind → Schema
  | statefulSet => Kubernetes.statefulSetSpec
  | service => Kubernetes.serviceSpec
  | ingress => Kubernetes.ingressSpec
  | claim | dataSourceClaim => Kubernetes.persistentVolumeClaimSpec

def statusSchema : ChildKind → Schema
  | statefulSet => Kubernetes.statefulSetStatus
  | service => Kubernetes.serviceStatus
  | ingress => Kubernetes.ingressStatus
  | claim | dataSourceClaim => Kubernetes.persistentVolumeClaimStatus

theorem hasField_metadata (k : ChildKind) : k.schema.HasField "metadata" true Kubernetes.objectMeta := by
  cases k <;> exact ⟨_, _, rfl, .tail _ (.tail _ (.head _))⟩

theorem hasField_spec (k : ChildKind) : k.schema.HasField "spec" false k.specSchema := by
  cases k <;> exact ⟨_, _, rfl, .tail _ (.tail _ (.tail _ (.head _)))⟩

theorem hasField_status (k : ChildKind) : k.schema.HasField "status" false k.statusSchema := by
  cases k <;> exact ⟨_, _, rfl, .tail _ (.tail _ (.tail _ (.tail _ (.head _))))⟩

theorem specSchema_isOrdered (k : ChildKind) : k.specSchema.isOrdered = true :=
  k.hasField_spec.isOrdered k.schema_isOrdered

theorem statusSchema_isOrdered (k : ChildKind) : k.statusSchema.isOrdered = true :=
  k.hasField_status.isOrdered k.schema_isOrdered

end ChildKind

namespace Kubernetes

theorem objectMeta_isOrdered : objectMeta.isOrdered = true :=
  (ChildKind.hasField_metadata .service).isOrdered (ChildKind.schema_isOrdered .service)

theorem hasField_resourceVersion : objectMeta.HasField "resourceVersion" false .text :=
  ⟨_, _, rfl, List.mem_of_getElem? (i := 12) rfl⟩

theorem hasField_ownerReferences : objectMeta.HasField "ownerReferences" false (.list ownerReference) :=
  ⟨_, _, rfl, List.mem_of_getElem? (i := 11) rfl⟩

theorem hasField_deletionTimestamp : objectMeta.HasField "deletionTimestamp" false .time :=
  ⟨_, _, rfl, List.mem_of_getElem? (i := 3) rfl⟩

theorem hasField_name : objectMeta.HasField "name" false .text :=
  ⟨_, _, rfl, List.mem_of_getElem? (i := 9) rfl⟩

/-! ### Managed fields -/

theorem hasField_replicas : statefulSetSpec.HasField "replicas" false .int32 :=
  ⟨_, _, rfl, List.mem_of_getElem? (i := 4) rfl⟩

theorem hasField_template : statefulSetSpec.HasField "template" true podTemplateSpec :=
  ⟨_, _, rfl, List.mem_of_getElem? (i := 8) rfl⟩

theorem hasField_podSpec : podTemplateSpec.HasField "spec" false podSpec :=
  ⟨_, _, rfl, List.mem_of_getElem? (i := 1) rfl⟩

theorem podTemplateSpec_isOrdered : podTemplateSpec.isOrdered = true :=
  hasField_template.isOrdered (ChildKind.specSchema_isOrdered .statefulSet)

theorem podSpec_isOrdered : podSpec.isOrdered = true :=
  hasField_podSpec.isOrdered podTemplateSpec_isOrdered

theorem hasField_containers : podSpec.HasField "containers" true (.list container) :=
  ⟨_, _, rfl, List.mem_of_getElem? (i := 3) rfl⟩

theorem hasField_initContainers : podSpec.HasField "initContainers" false (.list container) :=
  ⟨_, _, rfl, List.mem_of_getElem? (i := 15) rfl⟩

theorem hasField_volumes : podSpec.HasField "volumes" false (.list volume) :=
  ⟨_, _, rfl, List.mem_of_getElem? (i := 38) rfl⟩

theorem container_isOrdered : container.isOrdered = true := by
  have h := hasField_containers.isOrdered podSpec_isOrdered
  rwa [Schema.isOrdered] at h

theorem volume_isOrdered : volume.isOrdered = true := by
  have h := hasField_volumes.isOrdered podSpec_isOrdered
  rwa [Schema.isOrdered] at h

theorem hasField_ports : serviceSpec.HasField "ports" false (.list servicePort) :=
  ⟨_, _, rfl, List.mem_of_getElem? (i := 13) rfl⟩

theorem hasField_selector : serviceSpec.HasField "selector" false Schema.textDict :=
  ⟨_, _, rfl, List.mem_of_getElem? (i := 15) rfl⟩

theorem hasField_defaultBackend : ingressSpec.HasField "defaultBackend" false ingressBackend :=
  ⟨_, _, rfl, List.mem_of_getElem? (i := 0) rfl⟩

theorem hasField_ingressClassName : ingressSpec.HasField "ingressClassName" false .text :=
  ⟨_, _, rfl, List.mem_of_getElem? (i := 1) rfl⟩

theorem hasField_rules : ingressSpec.HasField "rules" false (.list ingressRule) :=
  ⟨_, _, rfl, List.mem_of_getElem? (i := 2) rfl⟩

theorem hasField_tls : ingressSpec.HasField "tls" false (.list ingressTLS) :=
  ⟨_, _, rfl, List.mem_of_getElem? (i := 3) rfl⟩

theorem hasField_resources : persistentVolumeClaimSpec.HasField "resources" false volumeResourceRequirements :=
  ⟨_, _, rfl, List.mem_of_getElem? (i := 3) rfl⟩

theorem hasField_storageClassName : persistentVolumeClaimSpec.HasField "storageClassName" false .text :=
  ⟨_, _, rfl, List.mem_of_getElem? (i := 5) rfl⟩

theorem volumeResourceRequirements_isOrdered : volumeResourceRequirements.isOrdered = true :=
  hasField_resources.isOrdered (ChildKind.specSchema_isOrdered .claim)

theorem hasField_requests : volumeResourceRequirements.HasField "requests" false (.dict Schema.quantity) :=
  ⟨_, _, rfl, List.mem_of_getElem? (i := 1) rfl⟩

end Kubernetes

end SessionOperator
