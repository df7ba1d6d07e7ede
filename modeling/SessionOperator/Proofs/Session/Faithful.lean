import SessionOperator.Proofs.Session.Total

/-!
# What a session declares is kept

The stateful set of a session is read from a document into which the declared parts were written, so that a part which
the document left out, or named otherwise, would be lost without notice.  None is: containers, volumes and the rest
stand in the stateful set as they were declared.

* `Session.IsMainContainer`, `Session.IsProxy`: containers with what is declared of them;
* `ChildSet.IsFaithful`: a stateful set with what is declared of the pod;
* `ChildSet.isFaithful`: so it is for every session.
-/

namespace SessionOperator

open Schema (HasField)

/-! ### Fields of what is read -/

namespace Schema

variable {s t item : Schema} {key : String} {required : Bool} {j w x v : Json} {o : Option Json} {written : Json → Json}

/-- A field holds the value that is read of what stands in the document. -/
theorem HasField.get?_of_read (hf : s.HasField key required t) (hs : s.isOrdered = true) (hx : s.decode j = .ok x)
    (hw : j.get? key = some w) (hne : w ≠ .null) (hread : t.decode w = .ok v) : x.get? key = some v := by
  obtain ⟨y, hy, hget⟩ := hf.decode_of_get? hs hx hw hne
  rw [hread] at hy
  cases hy
  exact hget

/-- An optional field holds the value that was written, or none if none was. -/
theorem HasField.get?_of_written (hf : s.HasField key false t) (hs : s.isOrdered = true) (hx : s.decode j = .ok x)
    (hw : j.get? key = o.map written) (h : ∀ v, o = some v → written v ≠ .null ∧ t.decode (written v) = .ok v) :
    x.get? key = o := by
  cases o with
  | none => exact hf.get?_eq_none hs hx hw
  | some v => exact hf.get?_of_read hs hx hw (h v rfl).1 (h v rfl).2

theorem HasField.get?_of_stands (hf : s.HasField key false t) (hs : s.isOrdered = true) (hx : s.decode j = .ok x)
    (hw : j.get? key = o) (h : ∀ v, o = some v → t.Stands v) : x.get? key = o := by
  have hwritten : j.get? key = o.map id := by rw [hw, Option.map_id_fun, id]
  exact hf.get?_of_written hs hx hwritten h

theorem encode_list (item : Schema) (values : List Json) : (list item).encode (.arr values) = encodeAll item values := by
  rw [encode]
  rfl

theorem decode_encodeAll {values : List Json} (h : ∀ v ∈ values, item.IsWhole v) :
    (list item).decode (encodeAll item values) = .ok (.arr values) := by
  rw [← encode_list]
  exact IsWhole.list h

/-- Whole values are read of what was written of them, one by one. -/
theorem forall₂_encode {values : List Json} (h : ∀ v ∈ values, item.IsWhole v) :
    List.Forall₂ (fun document v => item.decode document = .ok v) (values.map item.encode) values := by
  rw [List.forall₂_map_left_iff]
  exact List.forall₂_same.2 h

/-- What was added to a list stands behind what was there. -/
theorem forall₂_append {own added : List Json} (hown : ∀ v ∈ own, item.Stands v) (hadded : ∀ v ∈ added, item.IsWhole v) :
    List.Forall₂ (fun document v => item.decode document = .ok v) (own ++ added.map item.encode) (own ++ added) := by
  have hfirst : List.Forall₂ (fun document v => item.decode document = .ok v) own own :=
    List.forall₂_same.2 fun v hv => (hown v hv).2
  exact List.rel_append hfirst (forall₂_encode hadded)

theorem decode_append {own added : List Json} (hown : ∀ v ∈ own, item.Stands v) (hadded : ∀ v ∈ added, item.IsWhole v) :
    (list item).decode (.arr (own ++ added.map item.encode)) = .ok (.arr (own ++ added)) :=
  decode_list_iff.2 ⟨_, _, rfl, rfl, forall₂_append hown hadded⟩

end Schema

/-! ### Faithfulness -/

/-- A part that is left out when it is empty. -/
def unlessEmpty {α : Type} (parts : List α) (v : Json) : Option Json := if parts.isEmpty then none else some v

/-- The session's container, with what is declared of it. -/
structure Session.IsMainContainer (s : Session) (container : Json) : Prop where
  name : container.text? "name" = some Manifest.sessionContainerName
  image : container.get? "image" = some (.str s.spec.session.image)
  env : container.get? "env" = some (.arr s.spec.session.env)
  resources : container.get? "resources" = s.spec.session.resources
  command : container.get? "command" = unlessEmpty s.spec.session.command (.ofStrings s.spec.session.command)
  args : container.get? "args" = unlessEmpty s.spec.session.args (.ofStrings s.spec.session.args)
  workingDir : container.get? "workingDir" = s.spec.session.workingDir.map .str
  mounts : container.get? "volumeMounts" =
    some (.arr (Manifest.sessionOwnMounts s ++ s.spec.session.extraVolumeMounts))

/-- The proxy of a session, with the mounts that are declared for it. -/
structure Session.IsProxy (s : Session) (container : Json) : Prop where
  name : container.text? "name" = some Manifest.proxyContainerName
  mounts : ∃ a, s.spec.authentication = some a ∧
    container.get? "volumeMounts" = some (.arr ([Manifest.proxyOwnMount] ++ a.extraVolumeMounts))

namespace ChildSet

/-- A field of the pod that the stateful set asks for. -/
def podField? (c : ChildSet) (key : String) : Option Json := c.statefulSet.body.path? ["spec", "template", "spec", key]

/-- What is declared of the pod of a session stands in the stateful set. -/
structure IsFaithful (c : ChildSet) (s : Session) : Prop where
  /-- The session's container, the proxy if authentication is enabled, and then what the session adds. -/
  containers : ∃ (session : Json) (proxy : Option Json),
    c.containers = [session] ++ proxy.toList ++ s.spec.extraContainers ∧ s.IsMainContainer session ∧
      proxy.isSome = s.authenticationEnabled ∧ ∀ p, proxy = some p → s.IsProxy p
  volumes : c.volumes = Manifest.generatedVolumes s ++ s.spec.extraVolumes
  initContainers : c.podField? "initContainers" = unlessEmpty s.spec.initContainers (.arr s.spec.initContainers)
  tolerations : c.podField? "tolerations" = unlessEmpty s.spec.tolerations (.arr s.spec.tolerations)
  nodeSelector : c.podField? "nodeSelector" = unlessEmpty s.spec.nodeSelector (.ofDict s.spec.nodeSelector)
  affinity : c.podField? "affinity" = s.spec.affinity

end ChildSet

/-! ### Containers -/

namespace Manifest

variable {s : Session} {config : Config} {container : Json}

private theorem when_eq {α : Type} (parts : List α) (v : Json) : when (!parts.isEmpty) v = unlessEmpty parts v := by
  cases parts <;> rfl

private theorem eq_of_unlessEmpty {α : Type} {parts : List α} {v w : Json} (h : unlessEmpty parts v = some w) :
    w = v := by
  unfold unlessEmpty at h
  split at h
  · cases h
  · exact (Option.some.inj h).symm

private theorem stands_unlessEmpty {α : Type} {parts : List α} {t : Schema} {v : Json} (h : t.Stands v) :
    ∀ w, unlessEmpty parts v = some w → t.Stands w := by
  intro w hw
  rwa [eq_of_unlessEmpty hw]

/-- The mounts that are added to a container stand behind its own. -/
private theorem get?_mounts {document : Json} {own added : List Json}
    (hread : Kubernetes.container.decode document = .ok container)
    (hmounts : document.path? ["volumeMounts"] = some (.arr (own ++ added.map Kubernetes.volumeMount.encode)))
    (hown : ∀ m ∈ own, Kubernetes.volumeMount.Stands m) (hadded : ∀ m ∈ added, Kubernetes.volumeMount.IsValue m) :
    container.get? "volumeMounts" = some (.arr (own ++ added)) := by
  rw [Json.path?_singleton] at hmounts
  have hlist := Schema.decode_append hown fun m hm => Kubernetes.isWhole_volumeMount (hadded m hm)
  exact (HasField.of_getElem? 22 rfl).get?_of_read Kubernetes.container_isOrdered hread hmounts (by simp) hlist

theorem isMainContainer (hs : s.spec.session.IsTyped)
    (hread : Kubernetes.container.decode (sessionContainer s) = .ok container) : s.IsMainContainer container := by
  have hordered := Kubernetes.container_isOrdered
  have himage : (sessionContainer s).get? "image" = some (.str s.spec.session.image) :=
    Json.get?_objectOfSome_of_mem (by simp) (by simp)
  have henv : (sessionContainer s).get? "env" = some (encodeAll Kubernetes.envVar s.spec.session.env) :=
    Json.get?_objectOfSome_of_mem (by simp) (by simp)
  have hresources : (sessionContainer s).get? "resources" =
      s.spec.session.resources.map Kubernetes.resourceRequirements.encode :=
    Json.get?_objectOfSome_of_mem (by simp) (by simp)
  have hcommand : (sessionContainer s).get? "command" =
      when (!s.spec.session.command.isEmpty) (encodeTexts s.spec.session.command) :=
    Json.get?_objectOfSome_of_mem (by simp) (by simp)
  have hargs : (sessionContainer s).get? "args" =
      when (!s.spec.session.args.isEmpty) (encodeTexts s.spec.session.args) :=
    Json.get?_objectOfSome_of_mem (by simp) (by simp)
  have hdir : (sessionContainer s).get? "workingDir" = s.spec.session.workingDir.map .str :=
    Json.get?_objectOfSome_of_mem (by simp) (by simp)
  exact {
    name := Kubernetes.hasField_containerName.text?_of_decode hordered hread text?_sessionContainer
    image := (HasField.of_getElem? 4 rfl).get?_of_plain hordered rfl hread himage (by simp)
    env := (HasField.of_getElem? 2 rfl).get?_of_read hordered hread henv (by simp [encodeAll])
      (Schema.decode_encodeAll fun v hv => Kubernetes.isWhole_envVar (hs.env v hv))
    resources := (HasField.of_getElem? 12 rfl).get?_of_written hordered hread hresources fun v hv =>
      have hwhole := Kubernetes.isWhole_resourceRequirements (hs.resources v hv)
      ⟨hwhole.encode_ne_null (by simp [Kubernetes.resourceRequirements]), hwhole⟩
    command := (HasField.of_getElem? 1 rfl).get?_of_stands hordered hread (hcommand.trans (when_eq ..))
      (stands_unlessEmpty (Schema.stands_texts _))
    args := (HasField.of_getElem? 0 rfl).get?_of_stands hordered hread (hargs.trans (when_eq ..))
      (stands_unlessEmpty (Schema.stands_texts _))
    workingDir := (HasField.of_getElem? 23 rfl).get?_of_stands hordered hread hdir fun v hv =>
      have ⟨dir, _, heq⟩ := Option.map_eq_some_iff.1 hv
      heq ▸ Schema.stands_text dir
    mounts := get?_mounts hread path?_sessionMounts (fun _ => stands_sessionOwnMount) hs.mounts }

theorem isProxy {a : Authentication} (ha : s.spec.authentication = some a) (htyped : a.IsTyped)
    (hread : Kubernetes.container.decode (proxyContainer s config a) = .ok container) : s.IsProxy container where
  name := Kubernetes.hasField_containerName.text?_of_decode Kubernetes.container_isOrdered hread
    (text?_proxyContainer a)
  mounts := ⟨a, ha, get?_mounts hread (path?_proxyMounts a) (List.forall_mem_singleton.2 stands_proxyOwnMount)
    htyped.mounts⟩

end Manifest

/-! ### The pod -/

namespace ChildSet

variable {s : Session} {config : Config} {c : ChildSet}

/-- There is a proxy if authentication is enabled. -/
private theorem exists_proxy (hs : s.spec.IsTyped) (config : Config) : ∃ proxy : Option Json,
    List.Forall₂ (fun document v => Kubernetes.container.decode document = .ok v)
      ((Manifest.authentication? s).map (Manifest.proxyContainer s config)).toList proxy.toList ∧
    proxy.isSome = s.authenticationEnabled ∧ ∀ p, proxy = some p → s.IsProxy p := by
  rw [← Manifest.isSome_authentication?]
  cases hauthentication : Manifest.authentication? s with
  | none => exact ⟨none, .nil, rfl, nofun⟩
  | some a =>
    have hdeclared := Manifest.authentication?_eq_some hauthentication
    have ha := hs.authentication a hdeclared
    obtain ⟨p, hp⟩ := Manifest.accepts_proxyContainer s config ha Kubernetes.container_isOrdered
    refine ⟨some p, .cons hp .nil, rfl, ?_⟩
    rintro _ ⟨⟩
    exact Manifest.isProxy hdeclared ha hp

theorem volumes_eq (hs : s.spec.IsTyped) (huntimed : s.spec.Untimed) (h : ofSession s config = .ok c) :
    c.volumes = Manifest.generatedVolumes s ++ s.spec.extraVolumes :=
  Fallible.forall₂_unique (forall₂_volumes h) (Schema.forall₂_append (fun _ => Manifest.stands_generatedVolume)
    fun _ => hs.isWhole_volume huntimed)

/-- The pod is read of its document. -/
private theorem exists_pod (h : ofSession s config = .ok c) :
    ∃ pod, Kubernetes.podSpec.decode (Manifest.pod s config) = .ok pod ∧ ∀ key, c.podField? key = pod.get? key := by
  have hpath : Kubernetes.statefulSet.HasPath ["spec", "template", "spec"] Kubernetes.podSpec :=
    .cons (ChildKind.hasField_spec .statefulSet)
      (.cons Kubernetes.hasField_template (.cons Kubernetes.hasField_podSpec .nil))
  obtain ⟨pod, hread, hpod⟩ := hpath.decode_of_path? (ChildKind.schema_isOrdered .statefulSet) (decode_statefulSet h)
    (Manifest.path?_pod []) (by simp [Manifest.pod, Json.objectOfSome, Json.object])
  refine ⟨pod, hread, fun key => ?_⟩
  rw [podField?, show ["spec", "template", "spec", key] = ["spec", "template", "spec"] ++ [key] from rfl,
    Json.path?_append, hpod, Option.bind_some, Json.path?_singleton]

/-- Lists of the pod are left out when they are empty. -/
private theorem podField_listed {item : Schema} {key : String} {values : List Json} (h : ofSession s config = .ok c)
    (hf : Kubernetes.podSpec.HasField key false (.list item))
    (hvalues : (Manifest.pod s config).get? key = Manifest.when (!values.isEmpty) (encodeAll item values))
    (hwhole : ∀ v ∈ values, item.IsWhole v) : c.podField? key = unlessEmpty values (.arr values) := by
  obtain ⟨pod, hread, hfield⟩ := exists_pod h
  rw [hfield]
  cases values with
  | nil => exact hf.get?_eq_none Kubernetes.podSpec_isOrdered hread hvalues
  | cons v rest =>
    exact hf.get?_of_read Kubernetes.podSpec_isOrdered hread hvalues (by simp [encodeAll])
      (Schema.decode_encodeAll hwhole)

theorem podField_initContainers (hs : s.spec.IsTyped) (h : ofSession s config = .ok c) :
    c.podField? "initContainers" = unlessEmpty s.spec.initContainers (.arr s.spec.initContainers) :=
  podField_listed h (.of_getElem? 15 rfl) (Json.get?_objectOfSome_of_mem (by simp) (by simp)) fun v hv =>
    Kubernetes.isWhole_container (hs.initContainers v hv)

theorem podField_tolerations (hs : s.spec.IsTyped) (h : ofSession s config = .ok c) :
    c.podField? "tolerations" = unlessEmpty s.spec.tolerations (.arr s.spec.tolerations) :=
  podField_listed h (.of_getElem? 36 rfl) (Json.get?_objectOfSome_of_mem (by simp) (by simp)) fun v hv =>
    Kubernetes.isWhole_toleration (hs.tolerations v hv)

theorem podField_nodeSelector (h : ofSession s config = .ok c) :
    c.podField? "nodeSelector" = unlessEmpty s.spec.nodeSelector (.ofDict s.spec.nodeSelector) := by
  obtain ⟨pod, hread, hfield⟩ := exists_pod h
  have hwritten : (Manifest.pod s config).get? "nodeSelector" =
      Manifest.when (!s.spec.nodeSelector.isEmpty) (.ofDict s.spec.nodeSelector) :=
    Json.get?_objectOfSome_of_mem (by simp) (by simp)
  rw [hfield]
  exact (HasField.of_getElem? 17 rfl).get?_of_stands Kubernetes.podSpec_isOrdered hread
    (hwritten.trans (Manifest.when_eq ..)) (Manifest.stands_unlessEmpty (Schema.stands_textDict _))

theorem podField_affinity (hs : s.spec.IsTyped) (h : ofSession s config = .ok c) :
    c.podField? "affinity" = s.spec.affinity := by
  obtain ⟨pod, hread, hfield⟩ := exists_pod h
  have hwritten : (Manifest.pod s config).get? "affinity" = s.spec.affinity.map Kubernetes.affinity.encode :=
    Json.get?_objectOfSome_of_mem (by simp) (by simp)
  rw [hfield]
  refine (HasField.of_getElem? 1 rfl).get?_of_written Kubernetes.podSpec_isOrdered hread hwritten fun v hv => ?_
  have hwhole := Kubernetes.isWhole_affinity (hs.affinity v hv)
  exact ⟨hwhole.encode_ne_null (by simp [Kubernetes.affinity]), hwhole⟩

theorem containers_eq (hs : s.spec.IsTyped) (h : ofSession s config = .ok c) :
    ∃ (session : Json) (proxy : Option Json), c.containers = [session] ++ proxy.toList ++ s.spec.extraContainers ∧
      s.IsMainContainer session ∧ proxy.isSome = s.authenticationEnabled ∧ ∀ p, proxy = some p → s.IsProxy p := by
  obtain ⟨session, hsession⟩ := Manifest.accepts_sessionContainer hs Kubernetes.container_isOrdered
  obtain ⟨proxy, hproxy, hsome, hisProxy⟩ := exists_proxy hs config
  have hgenerated : List.Forall₂ (fun document v => Kubernetes.container.decode document = .ok v)
      ([Manifest.sessionContainer s] ++ ((Manifest.authentication? s).map (Manifest.proxyContainer s config)).toList)
      ([session] ++ proxy.toList) := .cons hsession hproxy
  have hadded := Schema.forall₂_encode fun v hv => Kubernetes.isWhole_container (hs.extraContainers v hv)
  have hcontainers := Fallible.forall₂_unique (forall₂_containers h) (List.rel_append hgenerated hadded)
  exact ⟨session, proxy, hcontainers, Manifest.isMainContainer hs.session hsession, hsome, hisProxy⟩

/-- Every session has desired children, and what it declares of its pod stands in its stateful set. -/
theorem isFaithful {j : Json} (hs : Session.decode j = .ok s) (huntimed : s.spec.Untimed) (config : Config) :
    ∃ c, ofSession s config = .ok c ∧ c.IsFaithful s := by
  have htyped := (Session.isTyped_of_decode hs).spec
  obtain ⟨c, h⟩ := exists_ofSession htyped config
  exact ⟨c, h, {
    containers := containers_eq htyped h
    volumes := volumes_eq htyped huntimed h
    initContainers := podField_initContainers htyped h
    tolerations := podField_tolerations htyped h
    nodeSelector := podField_nodeSelector h
    affinity := podField_affinity htyped h }⟩

/-- A furnished session, of which nothing is lost. -/
theorem isFaithful_furnished : ∃ s c, Session.decode Session.furnished = .ok s ∧ s.spec.Untimed ∧
    (s.authenticationEnabled = true ∧ s.spec.extraContainers.length = 1 ∧ s.spec.extraVolumes.length = 1 ∧
      s.spec.initContainers.length = 1 ∧ s.spec.tolerations.length = 1 ∧ s.spec.nodeSelector.length = 1 ∧
      s.spec.affinity.isSome = true ∧ s.spec.session.env.length = 1 ∧ s.spec.session.resources.isSome = true) ∧
    ofSession s (.default ⟨none, none⟩) = .ok c ∧ c.IsFaithful s := by
  obtain ⟨s, hs, htest⟩ := Fallible.exists_of_any
    (p := fun s : Session => decide (s.spec.Untimed ∧ (s.authenticationEnabled = true ∧
      s.spec.extraContainers.length = 1 ∧ s.spec.extraVolumes.length = 1 ∧ s.spec.initContainers.length = 1 ∧
      s.spec.tolerations.length = 1 ∧ s.spec.nodeSelector.length = 1 ∧ s.spec.affinity.isSome = true ∧
      s.spec.session.env.length = 1 ∧ s.spec.session.resources.isSome = true)))
    (show (Session.decode Session.furnished).toOption.any _ = true by decide +kernel)
  obtain ⟨huntimed, hfurnished⟩ := of_decide_eq_true htest
  obtain ⟨c, hc, hfaithful⟩ := isFaithful hs huntimed (.default ⟨none, none⟩)
  exact ⟨s, c, hs, huntimed, hfurnished, hc, hfaithful⟩

end ChildSet

end SessionOperator
