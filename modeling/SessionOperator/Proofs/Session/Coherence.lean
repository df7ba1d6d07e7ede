import Mathlib.Data.List.DropRight
import SessionOperator.Proofs.Kubernetes.Path
import SessionOperator.Proofs.Pass.Conversation
import SessionOperator.Proofs.Session.Manifest

/-!
# References between desired children

The desired children of a session name each other: the stateful set its claims, containers the volumes of the pod, the
service the pod and a port of it, the ingress the service.  What stands at the two ends of a reference is written in
different places, and it is the same.

* `ChildSet.generatedVolumes`, `ChildSet.generatedMounts`: what is not added by the session itself;
* `ChildSet.IsCoherent`: every reference leads to what is meant;
* `ChildSet.isCoherent`: so it is for the children of every session.
-/

namespace SessionOperator

/-! ### Parts of children -/

/-- The claim that a volume stands for. -/
def Kubernetes.claimName? (volume : Json) : Option String :=
  (volume.path? ["persistentVolumeClaim", "claimName"]).bind Json.str?

/-- Where an ingress leads to. -/
def Kubernetes.backends (ingress : Json) : List Json :=
  (ingress.path? ["spec", "defaultBackend"]).toList ++
    (ingress.listAt ["spec", "rules"]).flatMap fun rule =>
      (rule.listAt ["http", "paths"]).filterMap fun path => path.get? "backend"

namespace ChildSet

def volumes (c : ChildSet) : List Json := c.statefulSet.body.listAt ["spec", "template", "spec", "volumes"]

def containers (c : ChildSet) : List Json := c.statefulSet.body.listAt ["spec", "template", "spec", "containers"]

def container? (c : ChildSet) (name : String) : Option Json :=
  c.containers.find? fun container => container.text? "name" = some name

def servicePorts (c : ChildSet) : List Json := c.service.body.listAt ["spec", "ports"]

/-- The mounts of a container that stand before those that were added to it. -/
def mountsBefore (c : ChildSet) (name : String) (added : List Json) : List Json :=
  (((c.container? name).map fun container => container.listAt ["volumeMounts"]).getD []).rdrop added.length

/-- The volumes that stand before those that the session adds. -/
def generatedVolumes (c : ChildSet) (s : Session) : List Json := c.volumes.rdrop s.spec.extraVolumes.length

/-- The mounts of the session container and of the proxy, if there is one, that the session does not add. -/
def generatedMounts (c : ChildSet) (s : Session) : List Json :=
  c.mountsBefore Manifest.sessionContainerName s.spec.session.extraVolumeMounts ++
    (Manifest.authentication? s).elim [] fun a => c.mountsBefore Manifest.proxyContainerName a.extraVolumeMounts

/-- The container to which requests go. -/
def targetContainerName (s : Session) : String :=
  if s.authenticationEnabled then Manifest.proxyContainerName else Manifest.sessionContainerName

/-- The children of a session name each other. -/
structure IsCoherent (c : ChildSet) (s : Session) : Prop where
  claims : (c.generatedVolumes s).filterMap Kubernetes.claimName? = c.claim.name :: c.dataSourceClaims.map Child.name
  /-- Every generated volume is mounted once, in the order of the volumes. -/
  mountNames : (c.generatedMounts s).map (·.text? "name") = (c.generatedVolumes s).map (·.text? "name")
  mounts : ∀ mount ∈ c.generatedMounts s, ∃ volume ∈ c.volumes, ∃ name,
    mount.text? "name" = some name ∧ volume.text? "name" = some name
  /-- The stateful set selects by labels only. -/
  selector : c.statefulSet.body.path? ["spec", "selector", "matchLabels"] = some (.ofDict s.selector) ∧
    c.statefulSet.body.path? ["spec", "selector", "matchExpressions"] = none ∧
    c.service.body.path? ["spec", "selector"] = some (.ofDict s.selector)
  labels : ∀ key value, s.selector.get? key = some value →
    c.statefulSet.body.path? ["spec", "template", "metadata", "labels", key] = some (.str value)
  target : ∃ port number container, c.servicePorts.filter (·.text? "name" = some Manifest.servicePortName) = [port] ∧
    port.get? "targetPort" = some (.int number) ∧ c.container? (targetContainerName s) = some container ∧
    ∃ declared ∈ container.listAt ["ports"], declared.get? "containerPort" = some (.int number)
  backends : ∀ ingress, c.ingress = some ingress → Kubernetes.backends ingress.body ≠ [] ∧
    ∀ backend ∈ Kubernetes.backends ingress.body,
      backend.path? ["service", "name"] = some (.str c.service.name) ∧
      ∃ port ∈ c.servicePorts, ∃ name, port.text? "name" = some name ∧
        backend.path? ["service", "port", "name"] = some (.str name)
  pod : s.podName = c.statefulSet.name ++ "-0"

end ChildSet

/-! ### Paths -/

namespace Kubernetes

open Schema (HasPath)

private theorem hasPath_volumes : statefulSet.HasPath ["spec", "template", "spec", "volumes"] (.list volume) :=
  .cons (ChildKind.hasField_spec .statefulSet) (.cons hasField_template (.cons hasField_podSpec
    (.cons hasField_volumes .nil)))

private theorem hasPath_containers : statefulSet.HasPath ["spec", "template", "spec", "containers"] (.list container) :=
  .cons (ChildKind.hasField_spec .statefulSet) (.cons hasField_template (.cons hasField_podSpec
    (.cons hasField_containers .nil)))

private theorem hasPath_selector : statefulSet.HasPath ["spec", "selector"] labelSelector :=
  .cons (ChildKind.hasField_spec .statefulSet) (.cons (.of_getElem? 6 rfl) .nil)

private theorem hasField_matchExpressions :
    labelSelector.HasField "matchExpressions" false (.list labelSelectorRequirement) := .of_getElem? 0 rfl

private theorem hasPath_matchLabels : statefulSet.HasPath ["spec", "selector", "matchLabels"] Schema.textDict :=
  .cons (ChildKind.hasField_spec .statefulSet) (.cons (.of_getElem? 6 rfl) (.cons (.of_getElem? 1 rfl) .nil))

private theorem hasPath_labels :
    statefulSet.HasPath ["spec", "template", "metadata", "labels"] Schema.textDict :=
  .cons (ChildKind.hasField_spec .statefulSet) (.cons hasField_template (.cons (.of_getElem? 0 rfl)
    (.cons (.of_getElem? 7 rfl) .nil)))

private theorem hasField_volumeName : volume.HasField "name" true .text := .of_getElem? 19 rfl

theorem hasField_containerName : container.HasField "name" true .text := .of_getElem? 8 rfl

private theorem hasField_claim :
    volume.HasField "persistentVolumeClaim" false persistentVolumeClaimVolumeSource := .of_getElem? 21 rfl

private theorem hasPath_claimName : volume.HasPath ["persistentVolumeClaim", "claimName"] .text :=
  .cons hasField_claim (.cons (.of_getElem? 0 rfl) .nil)

private theorem claimName?_of_get? {volume : Json} (h : volume.get? "persistentVolumeClaim" = none) :
    claimName? volume = none := by
  rw [claimName?, Json.path?, h]
  rfl

private theorem hasPath_mounts : container.HasPath ["volumeMounts"] (.list volumeMount) :=
  .cons (.of_getElem? 22 rfl) .nil

private theorem volumeMount_isOrdered : volumeMount.isOrdered = true :=
  hasPath_mounts.isOrdered_item container_isOrdered

private theorem hasField_mountName : volumeMount.HasField "name" true .text := .of_getElem? 2 rfl

private theorem hasPath_containerPorts : container.HasPath ["ports"] (.list containerPort) :=
  .cons (.of_getElem? 9 rfl) .nil

private theorem hasPath_servicePorts : service.HasPath ["spec", "ports"] (.list servicePort) :=
  .cons (ChildKind.hasField_spec .service) (.cons hasField_ports .nil)

private theorem servicePort_isOrdered : servicePort.isOrdered = true :=
  hasPath_servicePorts.isOrdered_item (ChildKind.schema_isOrdered .service)

private theorem hasField_servicePortName : servicePort.HasField "name" false .text := .of_getElem? 1 rfl

private theorem hasField_targetPort : servicePort.HasField "targetPort" false .intOrText := .of_getElem? 5 rfl

private theorem hasField_containerPort : containerPort.HasField "containerPort" true .int32 := .of_getElem? 0 rfl

private theorem hasPath_serviceSelector : service.HasPath ["spec", "selector"] Schema.textDict :=
  .cons (ChildKind.hasField_spec .service) (.cons hasField_selector .nil)

private theorem hasPath_rules : ingress.HasPath ["spec", "rules"] (.list ingressRule) :=
  .cons (ChildKind.hasField_spec .ingress) (.cons hasField_rules .nil)

private theorem hasPath_paths : ingressRule.HasPath ["http", "paths"] (.list httpIngressPath) :=
  .cons (.of_getElem? 1 rfl) (.cons (.of_getElem? 0 rfl) .nil)

theorem ingressRule_isOrdered : ingressRule.isOrdered = true :=
  hasPath_rules.isOrdered_item (ChildKind.schema_isOrdered .ingress)

theorem httpIngressPath_isOrdered : httpIngressPath.isOrdered = true :=
  hasPath_paths.isOrdered_item ingressRule_isOrdered

private theorem hasField_backend : httpIngressPath.HasField "backend" true ingressBackend := .of_getElem? 0 rfl

private theorem hasPath_serviceName : ingressBackend.HasPath ["service", "name"] .text :=
  .cons (.of_getElem? 1 rfl) (.cons (.of_getElem? 0 rfl) .nil)

private theorem hasPath_portName : ingressBackend.HasPath ["service", "port", "name"] .text :=
  .cons (.of_getElem? 1 rfl) (.cons (.of_getElem? 1 rfl) (.cons (.of_getElem? 0 rfl) .nil))

end Kubernetes

/-! ### Documents -/

theorem Session.get?_labels_of_selector (s : Session) {key value : String} (h : s.selector.get? key = some value) :
    s.labels.get? key = some value := by
  have hpart : key ≠ "app.kubernetes.io/part-of" := by
    rintro rfl
    simp [selector, Dict.ofList, Dict.get?_insert, Dict.get?] at h
  have hcreated : key ≠ "app.kubernetes.io/created-by" := by
    rintro rfl
    simp [selector, Dict.ofList, Dict.get?_insert, Dict.get?] at h
  rw [labels, Dict.get?_insert, if_neg hcreated.symm, Dict.get?_insert, if_neg hpart.symm, h]

namespace Manifest

variable {s : Session} {config : Config}

theorem path?_pod (rest : List String) :
    (statefulSetDocument s config).path? ("spec" :: "template" :: "spec" :: rest) = (pod s config).path? rest := by
  simp [statefulSetDocument, Json.path?, Json.get?_object, Dict.get?]

private theorem path?_containers : (pod s config).path? ["containers"] = some (.arr (containers s config)) := by
  rw [Json.path?_singleton]
  exact Json.get?_objectOfSome_of_mem (by simp) (by simp)

private theorem path?_volumes : (pod s config).path? ["volumes"] = some (.arr (volumes s)) := by
  rw [Json.path?_singleton]
  exact Json.get?_objectOfSome_of_mem (by simp) (by simp)

private theorem get?_named {name key : String} {fields : List (String × Json)} (hname : key ≠ "name")
    (h : ∀ f ∈ fields, f.1 ≠ key) : (named name fields).get? key = none :=
  Dict.get?_ofList_eq_none_iff.2 (List.forall_mem_cons.2 ⟨hname.symm, h⟩)

private theorem text?_named {name : String} {fields : List (String × Json)} (h : ∀ f ∈ fields, f.1 ≠ "name") :
    (named name fields).text? "name" = some name := by
  have hget : (named name fields).get? "name" = some (.str name) :=
    Dict.get?_ofList_of_mem List.mem_cons_self fun v hv =>
      (List.mem_cons.1 hv).elim (fun heq => (Prod.mk.inj heq).2) fun hmem => absurd rfl (h _ hmem)
  rw [Json.text?, hget]
  rfl

theorem text?_sessionContainer : (sessionContainer s).text? "name" = some sessionContainerName := by
  have hname : (sessionContainer s).get? "name" = some (.str sessionContainerName) :=
    Json.get?_objectOfSome_of_mem (by simp) (by simp)
  rw [Json.text?, hname]
  rfl

theorem text?_proxyContainer (a : Authentication) :
    (proxyContainer s config a).text? "name" = some proxyContainerName := by
  simp [proxyContainer, Json.text?, Json.get?_object, Dict.get?, Json.str?]

/-- The documents of the volumes that the session does not add. -/
def generatedVolumes (s : Session) : List Json :=
  sessionVolumes s ++ ((authentication? s).map proxyVolume).toList

/-- The documents of the mounts of the session container that the session does not add. -/
def sessionOwnMounts (s : Session) : List Json :=
  [mount sessionVolumeName s.spec.session.storage.mountPath] ++
    (s.spec.session.shmSize.map fun _ => mount sharedMemoryVolumeName "/dev/shm").toList ++
    (numberedSources s).map fun d => mount (Naming.dataSourceVolumeName d.2) d.1.mountPath

/-- The document of the mount that every proxy has. -/
def proxyOwnMount : Json := named proxyVolumeName [("mountPath", .str proxyConfigDir), ("readOnly", .bool true)]

theorem path?_sessionMounts : (sessionContainer s).path? ["volumeMounts"] =
    some (.arr (sessionOwnMounts s ++ s.spec.session.extraVolumeMounts.map Kubernetes.volumeMount.encode)) := by
  rw [Json.path?_singleton]
  exact Json.get?_objectOfSome_of_mem (by simp) (by simp [sessionMounts, sessionOwnMounts])

theorem path?_proxyMounts (a : Authentication) : (proxyContainer s config a).path? ["volumeMounts"] =
    some (.arr ([proxyOwnMount] ++ a.extraVolumeMounts.map Kubernetes.volumeMount.encode)) := by
  simp [proxyContainer, proxyOwnMount, Json.path?, Json.get?_object, Dict.get?]

private theorem path?_claimVolume (name claim : String) :
    (claimVolume name claim).path? ["persistentVolumeClaim", "claimName"] = some (.str claim) := by
  simp [claimVolume, named, Json.path?, Json.get?_object, Dict.get?]

private theorem claimName?_claimVolume (name claim : String) :
    Kubernetes.claimName? (claimVolume name claim) = some claim := by
  rw [Kubernetes.claimName?, path?_claimVolume]
  rfl

/-- A generated volume either stands for a claim or is a volume of its own. -/
private theorem mem_generatedVolumes {d : Json} (h : d ∈ generatedVolumes s) :
    (∃ name, d.text? "name" = some name) ∧
      ((∃ name claim, d = claimVolume name claim) ∨ d.get? "persistentVolumeClaim" = none) := by
  simp only [generatedVolumes, sessionVolumes, List.mem_append, List.mem_singleton, Option.mem_toList,
    Option.map_eq_some_iff, List.mem_map] at h
  rcases h with ((rfl | ⟨size, -, rfl⟩) | ⟨source, -, rfl⟩) | ⟨a, -, rfl⟩
  · exact ⟨⟨_, text?_named (by simp)⟩, .inl ⟨_, _, rfl⟩⟩
  · exact ⟨⟨_, text?_named (by simp)⟩, .inr (get?_named (by simp) (by simp))⟩
  · exact ⟨⟨_, text?_named (by simp)⟩, .inl ⟨_, _, rfl⟩⟩
  · exact ⟨⟨_, text?_named (by simp)⟩, .inr (get?_named (by simp) (by simp))⟩

private theorem claimNames_generatedVolumes : (generatedVolumes s).filterMap Kubernetes.claimName? =
    s.childName :: (numberedSources s).map fun d => s.dataSourceClaimName d.2 := by
  have hother : ∀ name key value, key ≠ "persistentVolumeClaim" →
      Kubernetes.claimName? (named name [(key, value)]) = none :=
    fun name key value hkey => Kubernetes.claimName?_of_get? (get?_named (by simp) (by simpa using hkey))
  rw [generatedVolumes, sessionVolumes]
  cases s.spec.session.shmSize <;> cases authentication? s <;> simp [claimName?_claimVolume, hother, proxyVolume]

/-- The generated volumes are mounted in their order, each one once. -/
private theorem mountNames_generatedVolumes :
    (sessionOwnMounts s ++ ((authentication? s).map fun _ => proxyOwnMount).toList).map (·.text? "name") =
      (generatedVolumes s).map (·.text? "name") := by
  rw [generatedVolumes, sessionVolumes, sessionOwnMounts]
  cases s.spec.session.shmSize <;> cases authentication? s <;>
    simp [text?_named, mount, claimVolume, proxyOwnMount, proxyVolume, Function.comp_def]

private theorem path?_selector : (statefulSetDocument s config).path? ["spec", "selector"] =
    some (.object [("matchLabels", .ofDict s.selector)]) := by
  simp [statefulSetDocument, Json.path?, Json.get?_object, Dict.get?]

private theorem path?_matchLabels :
    (statefulSetDocument s config).path? ["spec", "selector", "matchLabels"] = some (.ofDict s.selector) := by
  simp [statefulSetDocument, Json.path?, Json.get?_object, Dict.get?]

private theorem path?_labels :
    (statefulSetDocument s config).path? ["spec", "template", "metadata", "labels"] = some (.ofDict s.labels) := by
  simp [statefulSetDocument, Json.path?, Json.get?_object, Dict.get?]

private theorem path?_servicePorts : (serviceDocument s).path? ["spec", "ports"] =
    some (.arr [servicePortDocument servicePortName servicePort (targetPort s),
      servicePortDocument serviceMetaPortName proxyMetaPort proxyMetaPort]) := by
  simp [serviceDocument, Json.path?, Json.get?_object, Dict.get?]

private theorem path?_rules (declared : SessionIngress) :
    (ingressDocument s declared).path? ["spec", "rules"] = some (.arr [ingressRule s]) := by
  have hrules : ∀ className tls : Option Json, (Json.objectOfSome [("rules", some (.arr [ingressRule s])),
      ("ingressClassName", className), ("tls", tls)]).get? "rules" = some (.arr [ingressRule s]) :=
    fun className tls => Json.get?_objectOfSome_of_mem (by simp) (by simp)
  simp [ingressDocument, Json.path?, Json.get?_object, Dict.get?, hrules]

/-- The document of the only place to which an ingress leads. -/
def ingressBackend (s : Session) : Json :=
  .object [("service", named s.childName [("port", named servicePortName [])])]

def ingressPath (s : Session) : Json :=
  .object [("path", .str s.pathPrefix), ("pathType", .str "Prefix"), ("backend", ingressBackend s)]

private theorem path?_paths : (ingressRule s).path? ["http", "paths"] = some (.arr [ingressPath s]) := by
  have hhttp : (ingressRule s).get? "http" = some (.object [("paths", .arr [ingressPath s])]) :=
    Json.get?_objectOfSome_of_mem (by simp) (by simp [ingressPath, ingressBackend])
  rw [Json.path?_cons_of_get? hhttp]
  simp [Json.path?, Json.get?_object, Dict.get?]

private theorem get?_backend : (ingressPath s).get? "backend" = some (ingressBackend s) := by
  simp [ingressPath, Json.get?_object, Dict.get?]

private theorem path?_backendName : (ingressBackend s).path? ["service", "name"] = some (.str s.childName) := by
  simp [ingressBackend, named, Json.path?, Json.get?_object, Dict.get?]

private theorem path?_backendPort :
    (ingressBackend s).path? ["service", "port", "name"] = some (.str servicePortName) := by
  simp [ingressBackend, named, Json.path?, Json.get?_object, Dict.get?]

private theorem get?_defaultBackend (declared : SessionIngress) :
    ∃ spec, (ingressDocument s declared).get? "spec" = some spec ∧ spec ≠ .null ∧ spec.get? "defaultBackend" = none :=
  ⟨_, ChildSet.get?_spec .., nofun, Json.get?_objectOfSome_of_not_mem (by simp)⟩

private theorem get?_targetPort (name : String) (port target : Int) :
    (servicePortDocument name port target).get? "targetPort" = some (.int target) := by
  simp [servicePortDocument, named, Json.get?_object, Dict.get?]

private theorem path?_sessionPorts : (sessionContainer s).path? ["ports"] =
    some (.arr [named "session" [("containerPort", .int s.spec.session.port)]]) := by
  rw [Json.path?_singleton]
  exact Json.get?_objectOfSome_of_mem (by simp) (by simp)

private theorem path?_proxyPorts (a : Authentication) : (proxyContainer s config a).path? ["ports"] =
    some (.arr [named "auth-proxy" [("containerPort", .int proxyPort)],
      named "auth-meta" [("containerPort", .int proxyMetaPort)]]) := by
  simp [proxyContainer, Json.path?, Json.get?_object, Dict.get?]

theorem isSome_authentication? : (authentication? s).isSome = s.authenticationEnabled := by
  rw [authentication?, Session.authenticationEnabled]
  cases s.spec.authentication with
  | none => rfl
  | some a => cases ha : a.enabled <;> simp [ha]

private theorem path?_serviceSelector :
    (serviceDocument s).path? ["spec", "selector"] = some (.ofDict s.selector) := by
  simp [serviceDocument, Json.path?, Json.get?_object, Dict.get?]

end Manifest

/-! ### What is read -/

namespace ChildSet

variable {s : Session} {config : Config} {c : ChildSet} {container : Json}

theorem decode_statefulSet (h : ofSession s config = .ok c) :
    Kubernetes.statefulSet.decode (Manifest.statefulSetDocument s config) = .ok c.statefulSet.body :=
  (Child.decode_eq_ok.1 (ofSession_eq_ok h).1).2

private theorem decode_service (h : ofSession s config = .ok c) :
    Kubernetes.service.decode (Manifest.serviceDocument s) = .ok c.service.body :=
  (Child.decode_eq_ok.1 (ofSession_eq_ok h).2.1).2

theorem forall₂_volumes (h : ofSession s config = .ok c) :
    List.Forall₂ (fun document v => Kubernetes.volume.decode document = .ok v) (Manifest.volumes s) c.volumes :=
  Kubernetes.hasPath_volumes.forall₂_listAt (ChildKind.schema_isOrdered .statefulSet) (decode_statefulSet h)
    ((Manifest.path?_pod _).trans Manifest.path?_volumes)

theorem forall₂_containers (h : ofSession s config = .ok c) :
    List.Forall₂ (fun document v => Kubernetes.container.decode document = .ok v) (Manifest.containers s config)
      c.containers :=
  Kubernetes.hasPath_containers.forall₂_listAt (ChildKind.schema_isOrdered .statefulSet) (decode_statefulSet h)
    ((Manifest.path?_pod _).trans Manifest.path?_containers)

theorem forall₂_servicePorts (h : ofSession s config = .ok c) :
    List.Forall₂ (fun document v => Kubernetes.servicePort.decode document = .ok v)
      [Manifest.servicePortDocument Manifest.servicePortName Manifest.servicePort (Manifest.targetPort s),
        Manifest.servicePortDocument Manifest.serviceMetaPortName Manifest.proxyMetaPort Manifest.proxyMetaPort]
      c.servicePorts :=
  Kubernetes.hasPath_servicePorts.forall₂_listAt (ChildKind.schema_isOrdered .service) (decode_service h)
    Manifest.path?_servicePorts

/-! ### Volumes and mounts -/

private theorem forall₂_rdrop {α β : Type} {R : α → β → Prop} {as extra : List α} {bs : List β}
    (h : List.Forall₂ R (as ++ extra) bs) : List.Forall₂ R as (bs.rdrop extra.length) := by
  have htake := List.forall₂_take as.length h
  rw [List.take_left] at htake
  rwa [List.rdrop, ← h.length_eq, List.length_append, Nat.add_sub_cancel]

theorem map_eq_of_forall₂ {α β γ : Type} {R : α → β → Prop} {f : β → γ} {g : α → γ} {as : List α} {bs : List β}
    (h : List.Forall₂ R as bs) (hfg : ∀ a ∈ as, ∀ b, R a b → f b = g a) : bs.map f = as.map g := by
  induction h with
  | nil => rfl
  | cons hr _ ih =>
    rw [List.map_cons, List.map_cons, hfg _ List.mem_cons_self _ hr, ih fun a ha => hfg a (List.mem_cons_of_mem _ ha)]

theorem forall₂_generatedVolumes (h : ofSession s config = .ok c) :
    List.Forall₂ (fun document v => Kubernetes.volume.decode document = .ok v) (Manifest.generatedVolumes s)
      (c.generatedVolumes s) := by
  have hvolumes := forall₂_rdrop (forall₂_volumes h)
  rwa [List.length_map] at hvolumes

private theorem container?_of_name {name : String} (before : List Json) {after : List Json}
    (heq : c.containers = before ++ container :: after) (hbefore : ∀ b ∈ before, b.text? "name" ≠ some name)
    (hname : container.text? "name" = some name) : c.container? name = some container := by
  rw [container?, heq, List.find?_append, List.find?_eq_none.2 (by simpa using hbefore), Option.none_or]
  exact List.find?_cons_of_pos (decide_eq_true hname)

theorem container?_session (h : ofSession s config = .ok c) :
    ∃ container, c.container? Manifest.sessionContainerName = some container ∧
      Kubernetes.container.decode (Manifest.sessionContainer s) = .ok container := by
  obtain ⟨session, rest, hsession, -, heq⟩ := List.forall₂_cons_left_iff.1 (forall₂_containers h)
  have hname := Kubernetes.hasField_containerName.text?_of_decode Kubernetes.container_isOrdered hsession
    Manifest.text?_sessionContainer
  exact ⟨session, container?_of_name [] heq nofun hname, hsession⟩

theorem container?_proxy (h : ofSession s config = .ok c) {a : Authentication}
    (ha : Manifest.authentication? s = some a) :
    ∃ container, c.container? Manifest.proxyContainerName = some container ∧
      Kubernetes.container.decode (Manifest.proxyContainer s config a) = .ok container := by
  obtain ⟨session, rest, hsession, hrest, heq⟩ := List.forall₂_cons_left_iff.1 (forall₂_containers h)
  rw [ha] at hrest
  obtain ⟨proxy, rest, hproxy, -, rfl⟩ := List.forall₂_cons_left_iff.1 hrest
  have hfirst := Kubernetes.hasField_containerName.text?_of_decode Kubernetes.container_isOrdered hsession
    Manifest.text?_sessionContainer
  have hname := Kubernetes.hasField_containerName.text?_of_decode Kubernetes.container_isOrdered hproxy
    (Manifest.text?_proxyContainer a)
  refine ⟨proxy, container?_of_name [session] heq ?_ hname, hproxy⟩
  rw [List.forall_mem_singleton, hfirst]
  decide

private theorem forall₂_mountsBefore {name : String} {document : Json} {generated added : List Json}
    (hcontainer : c.container? name = some container) (hread : Kubernetes.container.decode document = .ok container)
    (hmounts : document.path? ["volumeMounts"] = some (.arr (generated ++ added.map Kubernetes.volumeMount.encode))) :
    List.Forall₂ (fun document m => Kubernetes.volumeMount.decode document = .ok m) generated
      (c.mountsBefore name added) := by
  have hlist := Kubernetes.hasPath_mounts.forall₂_listAt Kubernetes.container_isOrdered hread hmounts
  have hgenerated := forall₂_rdrop hlist
  rw [List.length_map] at hgenerated
  rwa [mountsBefore, hcontainer, Option.map_some, Option.getD_some]

theorem forall₂_generatedMounts (h : ofSession s config = .ok c) :
    List.Forall₂ (fun document m => Kubernetes.volumeMount.decode document = .ok m)
      (Manifest.sessionOwnMounts s ++ ((Manifest.authentication? s).map fun _ => Manifest.proxyOwnMount).toList)
      (c.generatedMounts s) := by
  obtain ⟨session, hsession, hread⟩ := container?_session h
  refine List.rel_append (forall₂_mountsBefore hsession hread Manifest.path?_sessionMounts) ?_
  cases ha : Manifest.authentication? s with
  | none => exact .nil
  | some a =>
    obtain ⟨proxy, hproxy, hread⟩ := container?_proxy h ha
    exact forall₂_mountsBefore hproxy hread (Manifest.path?_proxyMounts a)

theorem volumeNames (h : ofSession s config = .ok c) :
    (c.generatedVolumes s).map (·.text? "name") = (Manifest.generatedVolumes s).map (·.text? "name") := by
  refine map_eq_of_forall₂ (forall₂_generatedVolumes h) fun d hd v hv => ?_
  obtain ⟨⟨name, hname⟩, -⟩ := Manifest.mem_generatedVolumes hd
  rw [hname, Kubernetes.hasField_volumeName.text?_of_decode Kubernetes.volume_isOrdered hv hname]

theorem mountNames (h : ofSession s config = .ok c) :
    (c.generatedMounts s).map (·.text? "name") = (c.generatedVolumes s).map (·.text? "name") := by
  rw [volumeNames h, ← Manifest.mountNames_generatedVolumes]
  refine map_eq_of_forall₂ (forall₂_generatedMounts h) fun d hd m hm => ?_
  -- the mount bears the name of a volume, so it has one
  have hmem := List.mem_map_of_mem (f := (·.text? "name")) hd
  rw [Manifest.mountNames_generatedVolumes] at hmem
  obtain ⟨v, hv, heq⟩ := List.mem_map.1 hmem
  obtain ⟨⟨name, hname⟩, -⟩ := Manifest.mem_generatedVolumes hv
  rw [heq] at hname
  rw [hname, Kubernetes.hasField_mountName.text?_of_decode Kubernetes.volumeMount_isOrdered hm hname]

/-- Every generated mount names a volume of the pod. -/
theorem exists_volume_of_mem (h : ofSession s config = .ok c) {mount : Json} (hmount : mount ∈ c.generatedMounts s) :
    ∃ volume ∈ c.volumes, ∃ name, mount.text? "name" = some name ∧ volume.text? "name" = some name := by
  have hmem := List.mem_map_of_mem (f := (·.text? "name")) hmount
  rw [mountNames h] at hmem
  obtain ⟨volume, hvolume, heq⟩ := List.mem_map.1 hmem
  have hnamed := List.mem_map_of_mem (f := (·.text? "name")) hvolume
  rw [volumeNames h] at hnamed
  obtain ⟨d, hd, hname⟩ := List.mem_map.1 hnamed
  obtain ⟨⟨name, hd⟩, -⟩ := Manifest.mem_generatedVolumes hd
  exact ⟨volume, List.mem_of_mem_take hvolume, name, by rw [← heq, ← hname, hd], by rw [← hname, hd]⟩

theorem claimNames (h : ofSession s config = .ok c) : (c.generatedVolumes s).filterMap Kubernetes.claimName? =
    s.childName :: (Manifest.numberedSources s).map fun d => s.dataSourceClaimName d.2 := by
  have hmap : (c.generatedVolumes s).map Kubernetes.claimName? =
      (Manifest.generatedVolumes s).map Kubernetes.claimName? := by
    refine map_eq_of_forall₂ (forall₂_generatedVolumes h) fun d hd v hv => ?_
    rcases (Manifest.mem_generatedVolumes hd).2 with ⟨name, claim, rfl⟩ | hnone
    · have hclaim := Kubernetes.hasPath_claimName.path?_of_plain Kubernetes.volume_isOrdered rfl hv
        (Manifest.path?_claimVolume name claim) (by simp)
      rw [Kubernetes.claimName?, Kubernetes.claimName?, hclaim, Manifest.path?_claimVolume]
    · have habsent := Kubernetes.hasField_claim.get?_eq_none Kubernetes.volume_isOrdered hv hnone
      rw [Kubernetes.claimName?_of_get? habsent, Kubernetes.claimName?_of_get? hnone]
  have hids := congrArg (List.filterMap id) hmap
  rw [List.filterMap_map, List.filterMap_map, Function.id_comp] at hids
  rw [hids, Manifest.claimNames_generatedVolumes]

/-! ### Names -/

private theorem name_of_decode {kind : ChildKind} {document : Json} {d : Child}
    (h : Child.decode kind document = .ok d) {name : String}
    (hmetadata : document.path? ["metadata", "name"] = some (.str name)) : d.name = name := by
  have hpath : kind.schema.HasPath ["metadata", "name"] .text :=
    .cons kind.hasField_metadata (.cons Kubernetes.hasField_name .nil)
  have hname := hpath.path?_of_plain kind.schema_isOrdered rfl (Child.decode_eq_ok.1 h).2 hmetadata (by simp)
  obtain ⟨m, hm, hname⟩ := Option.bind_eq_some_iff.1 hname
  rw [Json.path?_singleton] at hname
  rw [Child.name, Child.metadata, hm, Option.getD_some, Json.text?, hname]
  rfl

theorem claim_name (h : ofSession s config = .ok c) : c.claim.name = s.childName :=
  name_of_decode (ofSession_eq_ok h).2.2.2.1 (by
    simp [Manifest.sessionClaimDocument, Manifest.metadata, Manifest.named, Json.path?, Json.get?_object, Dict.get?])

theorem service_name (h : ofSession s config = .ok c) : c.service.name = s.childName :=
  name_of_decode (ofSession_eq_ok h).2.1 (by
    simp [Manifest.serviceDocument, Manifest.metadata, Manifest.named, Json.path?, Json.get?_object, Dict.get?])

theorem dataSourceClaims_name (h : ofSession s config = .ok c) :
    c.dataSourceClaims.map Child.name = (Manifest.numberedSources s).map fun d => s.dataSourceClaimName d.2 := by
  refine map_eq_of_forall₂ (Fallible.mapM_eq_ok_iff.1 (ofSession_eq_ok h).2.2.2.2) fun d _ claim hclaim => ?_
  exact name_of_decode hclaim (by
    simp [Manifest.dataSourceClaimDocument, Manifest.metadata, Manifest.named, Json.path?, Json.get?_object, Dict.get?])

/-! ### Selectors -/

theorem selectors (h : ofSession s config = .ok c) :
    c.statefulSet.body.path? ["spec", "selector", "matchLabels"] = some (.ofDict s.selector) ∧
      c.statefulSet.body.path? ["spec", "selector", "matchExpressions"] = none ∧
      c.service.body.path? ["spec", "selector"] = some (.ofDict s.selector) := by
  have hs := ChildKind.schema_isOrdered .statefulSet
  refine ⟨?_, ?_, ?_⟩
  · exact Kubernetes.hasPath_matchLabels.path?_of_dict hs rfl (decode_statefulSet h) Manifest.path?_matchLabels nofun
  · obtain ⟨selector, hread, hpath⟩ := Kubernetes.hasPath_selector.decode_of_path? hs (decode_statefulSet h)
      Manifest.path?_selector nofun
    have habsent := Kubernetes.hasField_matchExpressions.get?_eq_none (Kubernetes.hasPath_selector.isOrdered hs) hread
      (by simp [Json.get?_object, Dict.get?])
    rw [show ["spec", "selector", "matchExpressions"] = ["spec", "selector"] ++ ["matchExpressions"] from rfl,
      Json.path?_append, hpath, Option.bind_some, Json.path?_singleton, habsent]
  · exact Kubernetes.hasPath_serviceSelector.path?_of_dict (ChildKind.schema_isOrdered .service) rfl (decode_service h)
      Manifest.path?_serviceSelector nofun

theorem selector_subset_labels (h : ofSession s config = .ok c) {key value : String}
    (hkey : s.selector.get? key = some value) :
    c.statefulSet.body.path? ["spec", "template", "metadata", "labels", key] = some (.str value) := by
  have hlabels := Kubernetes.hasPath_labels.path?_of_dict (ChildKind.schema_isOrdered .statefulSet) rfl
    (decode_statefulSet h) Manifest.path?_labels nofun
  rw [show ["spec", "template", "metadata", "labels", key] = ["spec", "template", "metadata", "labels"] ++ [key] from
    rfl, Json.path?_append, hlabels, Option.bind_some, Json.path?_singleton, Json.get?_ofDict,
    s.get?_labels_of_selector hkey]
  rfl

/-! ### Ports and backends -/

theorem exists_servicePorts (h : ofSession s config = .ok c) : ∃ port other, c.servicePorts = [port, other] ∧
    port.text? "name" = some Manifest.servicePortName ∧ other.text? "name" = some Manifest.serviceMetaPortName ∧
    port.get? "targetPort" = some (.int (Manifest.targetPort s)) := by
  obtain ⟨port, rest, hport, hrest, heq⟩ := List.forall₂_cons_left_iff.1 (forall₂_servicePorts h)
  obtain ⟨other, none, hother, hnone, rfl⟩ := List.forall₂_cons_left_iff.1 hrest
  obtain rfl := List.forall₂_nil_left_iff.1 hnone
  have hs := Kubernetes.servicePort_isOrdered
  have hname := Kubernetes.hasField_servicePortName.text?_of_decode hs hport (Manifest.text?_named (by simp))
  have hotherName := Kubernetes.hasField_servicePortName.text?_of_decode hs hother (Manifest.text?_named (by simp))
  have htarget := Kubernetes.hasField_targetPort.get?_of_plain hs rfl hport (Manifest.get?_targetPort ..) (by simp)
  exact ⟨port, other, heq, hname, hotherName, htarget⟩

/-- A container declares the first port of its document. -/
private theorem exists_containerPort {document first : Json} {rest : List Json} {number : Int}
    (hread : Kubernetes.container.decode document = .ok container)
    (hports : document.path? ["ports"] = some (.arr (first :: rest)))
    (hfirst : first.get? "containerPort" = some (.int number)) :
    ∃ declared ∈ container.listAt ["ports"], declared.get? "containerPort" = some (.int number) := by
  obtain ⟨declared, others, hdeclared, -, heq⟩ := List.forall₂_cons_left_iff.1
    (Kubernetes.hasPath_containerPorts.forall₂_listAt Kubernetes.container_isOrdered hread hports)
  rw [heq]
  exact ⟨declared, List.mem_cons_self, Kubernetes.hasField_containerPort.get?_of_plain
    (Kubernetes.hasPath_containerPorts.isOrdered_item Kubernetes.container_isOrdered) rfl hdeclared hfirst (by simp)⟩

/-- The container to which requests go declares the port to which they go. -/
theorem exists_target (h : ofSession s config = .ok c) :
    ∃ container, c.container? (targetContainerName s) = some container ∧
      ∃ declared ∈ container.listAt ["ports"], declared.get? "containerPort" = some (.int (Manifest.targetPort s)) := by
  cases ha : Manifest.authentication? s with
  | none =>
    have hdisabled : s.authenticationEnabled = false := by
      rw [← Manifest.isSome_authentication?, ha]
      rfl
    obtain ⟨session, hsession, hread⟩ := container?_session h
    rw [targetContainerName, Manifest.targetPort, hdisabled]
    exact ⟨session, hsession, exists_containerPort hread Manifest.path?_sessionPorts (by
      simp [Manifest.named, Json.get?_object, Dict.get?])⟩
  | some a =>
    have henabled : s.authenticationEnabled = true := by
      rw [← Manifest.isSome_authentication?, ha]
      rfl
    obtain ⟨proxy, hproxy, hread⟩ := container?_proxy h ha
    rw [targetContainerName, Manifest.targetPort, henabled]
    exact ⟨proxy, hproxy, exists_containerPort hread (Manifest.path?_proxyPorts a) (by
      simp [Manifest.named, Json.get?_object, Dict.get?])⟩

/-- An ingress is read with one rule and one path. -/
theorem rules_of_decode {declared : SessionIngress} {j : Json}
    (h : Kubernetes.ingress.decode (Manifest.ingressDocument s declared) = .ok j) :
    ∃ rule path, j.listAt ["spec", "rules"] = [rule] ∧ rule.listAt ["http", "paths"] = [path] ∧
      Kubernetes.ingressRule.decode (Manifest.ingressRule s) = .ok rule ∧
      Kubernetes.httpIngressPath.decode (Manifest.ingressPath s) = .ok path := by
  obtain ⟨rule, hrules, hrule⟩ := Kubernetes.hasPath_rules.exists_listAt_singleton
    (ChildKind.schema_isOrdered .ingress) h (Manifest.path?_rules declared)
  obtain ⟨path, hpaths, hpath⟩ := Kubernetes.hasPath_paths.exists_listAt_singleton
    Kubernetes.ingressRule_isOrdered hrule Manifest.path?_paths
  exact ⟨rule, path, hrules, hpaths, hrule, hpath⟩

/-- An ingress leads to one place: the port of the service that stands for the session. -/
theorem backends_ingress (h : ofSession s config = .ok c) {d : Child} (hd : c.ingress = some d) :
    ∃ backend, Kubernetes.backends d.body = [backend] ∧ backend.path? ["service", "name"] = some (.str s.childName) ∧
      backend.path? ["service", "port", "name"] = some (.str Manifest.servicePortName) := by
  have hmanifest := (ofSession_eq_ok h).2.2.1
  rw [hd] at hmanifest
  obtain ⟨declared, hdecode⟩ := ingress_decode hmanifest
  obtain ⟨rule, path, hrules, hpaths, -, hpath⟩ := rules_of_decode (Child.decode_eq_ok.1 hdecode).2
  have hpathSchema := Kubernetes.httpIngressPath_isOrdered
  obtain ⟨backend, hbackend, hget⟩ :=
    Kubernetes.hasField_backend.decode_of_get? hpathSchema hpath Manifest.get?_backend nofun
  have hbackendSchema := Kubernetes.hasField_backend.isOrdered hpathSchema
  -- and nothing for what the rule does not match
  have hdefault : d.body.path? ["spec", "defaultBackend"] = none := by
    obtain ⟨document, hspec, hne, hnone⟩ := Manifest.get?_defaultBackend declared
    obtain ⟨spec, hspec, hread⟩ := Child.spec_of_decode hdecode hspec hne
    rw [Json.path?_cons_of_get? hspec, Json.path?_singleton]
    exact Kubernetes.hasField_defaultBackend.get?_eq_none (ChildKind.specSchema_isOrdered .ingress) hread hnone
  refine ⟨backend, ?_, ?_, ?_⟩
  · simp [Kubernetes.backends, hdefault, hrules, hpaths, hget]
  · exact Kubernetes.hasPath_serviceName.path?_of_plain hbackendSchema rfl hbackend Manifest.path?_backendName nofun
  · exact Kubernetes.hasPath_portName.path?_of_plain hbackendSchema rfl hbackend Manifest.path?_backendPort nofun

/-- The desired children of every session name each other. -/
theorem isCoherent (h : ofSession s config = .ok c) : c.IsCoherent s where
  claims := by rw [claimNames h, claim_name h, dataSourceClaims_name h]
  mountNames := mountNames h
  mounts := fun _ hmount => exists_volume_of_mem h hmount
  selector := selectors h
  labels := fun _ _ hkey => selector_subset_labels h hkey
  target := by
    obtain ⟨port, other, hports, hname, hother, htarget⟩ := exists_servicePorts h
    obtain ⟨container, hcontainer, hdeclared⟩ := exists_target h
    refine ⟨port, _, container, ?_, htarget, hcontainer, hdeclared⟩
    simp [hports, hname, hother, Manifest.servicePortName, Manifest.serviceMetaPortName]
  backends := by
    intro ingress hingress
    obtain ⟨port, other, hports, hname, -⟩ := exists_servicePorts h
    obtain ⟨backend, heq, hservice, hport⟩ := backends_ingress h hingress
    rw [heq, service_name h, hports]
    exact ⟨List.cons_ne_nil _ _,
      List.forall_mem_singleton.2 ⟨hservice, port, List.mem_cons_self, _, hname, hport⟩⟩
  pod := by rw [Session.podName, statefulSet_name h]

/-- A session with all options that make for more references, and with volumes and mounts of its own. -/
def servedSession : Session where
  metadata := Session.plainMetadata "2024-01-01T00:00:00Z"
  spec := { SessionSpec.plain false .default with
    session := { (SessionSpec.plain false .default).session with
      shmSize := some "1Gi"
      extraVolumeMounts := [.object [("mountPath", .str "/cache"), ("name", .str "cache")]] }
    dataSources := [⟨.rclone, ⟨"first", none, false⟩, "/data/first", "ReadOnlyMany"⟩,
      ⟨.rclone, ⟨"second", none, false⟩, "/data/second", "ReadWriteMany"⟩]
    authentication := some ⟨true, .token, ⟨"login", none, false⟩,
      [.object [("mountPath", .str "/cache"), ("name", .str "cache")]]⟩
    extraVolumes := [.object [("emptyDir", .object []), ("name", .str "cache")]]
    ingress := some ⟨some "sessions.test", none, [], none⟩ }
  status := none

theorem isCoherent_served : ∃ c, ofSession servedSession (.default ⟨none, none⟩) = .ok c ∧ c.IsCoherent servedSession ∧
    c.volumes.length = 6 ∧ (c.generatedVolumes servedSession).length = 5 ∧ c.dataSourceClaims.length = 2 ∧
    c.ingress.isSome := by
  obtain ⟨c, h, htest⟩ := Fallible.exists_of_any (p := fun c : ChildSet => c.volumes.length = 6 ∧
      (c.generatedVolumes servedSession).length = 5 ∧ c.dataSourceClaims.length = 2 ∧ c.ingress.isSome)
    (show (ofSession servedSession (.default ⟨none, none⟩)).toOption.any _ = true by decide +kernel)
  exact ⟨c, h, isCoherent h, of_decide_eq_true htest⟩

end ChildSet

end SessionOperator
