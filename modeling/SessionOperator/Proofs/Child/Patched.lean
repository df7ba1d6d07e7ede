import SessionOperator.Proofs.Child.Keeping
import SessionOperator.Proofs.Child.Settled
import SessionOperator.Proofs.Kubernetes.Patched

/-!
# What a patch makes of a child

The patch of a desired child makes of a live one what merging would make of it, with one difference: a dictionary is
merged key by key, so that the keys of the live one remain.

* `Child.Sendable`: the specs that a patch can ask for;
* `Child.patched_eq_mergeBody`: what the patch of a desired child makes of a live one.
-/

namespace SessionOperator

open Schema (Reads)

namespace Child

variable {w x spec pod : Json} {item : Schema} {v o : Option Json} {scope : MergeScope}

/-- The times of a child are in whole seconds, so that nothing is lost when it is written. -/
def InWholeSeconds (c : Child) : Prop := c.encode = c.body

instance (c : Child) : Decidable c.InWholeSeconds := inferInstanceAs (Decidable (c.encode = c.body))

/-! ### What patches can ask for -/

/-- A list that a patch can ask for: it is read back as it was written, and not empty, as an empty one is cleared. -/
def IsListed (item : Schema) (o : Option Json) : Prop :=
  ∀ u, o = some u → (Schema.list item).IsWhole u ∧ u ≠ .arr []

/-- A dictionary of texts whose keys stand in order. -/
def IsTextDict (o : Option Json) (texts : Dict Json) : Prop :=
  o = some (.obj texts) ∧ texts.Sorted ∧ Json.IsTexts texts

/-- A spec of which a patch asks for all that is managed. -/
def Sendable : ChildKind → Json → Prop
  | .statefulSet, spec => ∃ pod, spec.path? ["template", "spec"] = some pod ∧
      IsListed Kubernetes.container (pod.get? "initContainers") ∧ IsListed Kubernetes.volume (pod.get? "volumes")
  | .service, spec => IsListed Kubernetes.servicePort (spec.get? "ports") ∧
      ∃ texts, IsTextDict (spec.get? "selector") texts
  | .ingress, spec => spec.get? "defaultBackend" = none ∧ IsListed Kubernetes.ingressRule (spec.get? "rules") ∧
      IsListed Kubernetes.ingressTLS (spec.get? "tls")
  | .claim, spec | .dataSourceClaim, spec => ∃ resources, spec.get? "resources" = some resources ∧
      ∃ texts, IsTextDict (resources.get? "requests") texts

/-- A desired child holds what its managed fields are in. -/
theorem exists_holder {d : Child} {path : List String} (hspec : d.body.get? "spec" = some spec)
    (h : Sendable d.kind spec) (hpath : path ∈ d.managed scope) :
    ∃ holder, d.body.path? path.dropLast = some holder := by
  have hspec' : d.body.path? ["spec"] = some spec := (Json.path?_singleton ..).trans hspec
  have hmanages := manages_of_mem hpath
  obtain ⟨kind, desired⟩ := d
  cases hmanages with
  | replicas | service | storageClass => exact ⟨spec, hspec'⟩
  | ingress => exact ⟨desired, rfl⟩
  | pod =>
    obtain ⟨pod, hpod, -⟩ := h
    exact ⟨pod, (Json.path?_cons_of_get? hspec _).trans hpod⟩
  | requests hkind =>
    obtain ⟨resources, hresources⟩ : ∃ resources, spec.get? "resources" = some resources := by
      rcases hkind with rfl | rfl <;> exact h.imp fun _ hresources => hresources.1
    exact ⟨resources, (Json.path?_cons_of_get? hspec _).trans ((Json.path?_singleton ..).trans hresources)⟩

theorem exists_texts {d : Child} {path : List String} (hspec : d.body.get? "spec" = some spec)
    (h : Sendable d.kind spec) (hpath : d.kind.dictPath? = some path) :
    ∃ texts, IsTextDict (d.body.path? path) texts := by
  obtain ⟨kind, desired⟩ := d
  cases kind with
  | statefulSet | ingress => cases hpath
  | service =>
    cases hpath
    obtain ⟨-, texts, htexts⟩ := h
    rw [Json.path?_cons_of_get? hspec, Json.path?_singleton]
    exact ⟨texts, htexts⟩
  | claim | dataSourceClaim =>
    cases hpath
    obtain ⟨resources, hresources, texts, htexts⟩ := h
    rw [Json.path?_cons_of_get? hspec, Json.path?_cons_of_get? hresources, Json.path?_singleton]
    exact ⟨texts, htexts⟩

private theorem replaces_encode_list {u : Json} (h : (Schema.list item).IsWhole u) :
    Schema.Replaces ((Schema.list item).encode u) := by
  obtain ⟨items, xs, hitems, -, -⟩ := Schema.decode_list_iff.1 h
  rw [hitems]
  exact ⟨by simp, by simp⟩

private theorem reads_listOrNull (h : IsListed item o) :
    Reads false (.list item) (Json.changed v (some (listOrNull (o.map (Schema.list item).encode)))) o := by
  cases o with
  | none => exact Schema.reads_cleared
  | some u =>
    obtain ⟨hwhole, hne⟩ := h u rfl
    have hlist : listOrNull (some ((Schema.list item).encode u)) = (Schema.list item).encode u := by
      obtain ⟨items, xs, -, rfl, -⟩ := Schema.decode_list_iff.1 hwhole
      cases xs with
      | nil => exact absurd rfl hne
      | cons y ys =>
        rw [Schema.encode]
        rfl
    rw [Option.map_some, hlist]
    exact Schema.reads_replaced hwhole (replaces_encode_list hwhole)

/-- A field that holds no object is what it is in the patch. -/
private theorem reads_fieldOrNull {s t : Schema} {key : String} (hf : s.HasField key false t) (hs : s.isOrdered = true)
    (ht : t.isPlain = true) (hreplaces : ∀ u, t.IsValue u → Schema.Replaces u) (hspec : s.IsValue spec) :
    Reads false t (Json.changed v (some (fieldOrNull (s.encode spec) key))) (spec.get? key) := by
  rw [fieldOrNull, hf.get?_encode hs]
  refine Schema.reads_orNull fun u hu => ?_
  have hvalue := hf.isValue hs hspec hu
  rw [Schema.encode_plain ht]
  exact ⟨hvalue.isWhole_timeless (hf.isOrdered hs) (Schema.isTimeless_of_isPlain ht), hreplaces u hvalue⟩

private theorem replaces_int32 {u : Json} (h : Schema.int32.IsValue u) : Schema.Replaces u := by
  obtain ⟨j, hj⟩ := h
  obtain ⟨n, -, rfl⟩ := Fallible.map_eq_ok_iff.1 (show (Decoder.int32 j).map Json.int = .ok u from hj)
  exact ⟨by simp, by simp⟩

private theorem replaces_text {u : Json} (h : Schema.text.IsValue u) : Schema.Replaces u := by
  obtain ⟨j, hj⟩ := h
  obtain ⟨t, -, rfl⟩ := Fallible.map_eq_ok_iff.1 (show (Decoder.text j).map Json.str = .ok u from hj)
  exact ⟨by simp, by simp⟩

/-! ### Stateful sets -/

/-- The part of a patch that is about the pod. -/
private def podPatch (pod : Json) : List (String × Json) :=
  [("containers", fieldOrNull pod "containers"), ("initContainers", listOrNull (pod.get? "initContainers")),
    ("volumes", listOrNull (pod.get? "volumes"))]

private theorem decode_podPatch (hdistinct : (Json.object (podPatch (Kubernetes.podSpec.encode pod))).KeysDistinct)
    (hx : Kubernetes.podSpec.decode w = .ok x) (hpod : Kubernetes.podSpec.IsValue pod)
    (hinit : IsListed Kubernetes.container (pod.get? "initContainers"))
    (hvolumes : IsListed Kubernetes.volume (pod.get? "volumes")) :
    Kubernetes.podSpec.decode (w.mergePatch (.object (podPatch (Kubernetes.podSpec.encode pod)))) =
      .ok (x.copyKeys pod ["containers", "initContainers", "volumes"]) := by
  have hps := Kubernetes.podSpec_isOrdered
  obtain ⟨containers, hcontainers⟩ := Kubernetes.hasField_containers.get?_required hps hpod rfl
  have hwhole : (Schema.list Kubernetes.container).IsWhole containers :=
    (Kubernetes.hasField_containers.isValue hps hpod hcontainers).isWhole_timeless
      (Kubernetes.hasField_containers.isOrdered hps) (by decide +kernel)
  refine Schema.decode_copied hps hx (Kubernetes.hasField_containers.hasShape hps ⟨w, hx⟩) hdistinct ?_
  refine List.forall_mem_cons.2 ⟨⟨_, _, Kubernetes.hasField_containers, ?_⟩, List.forall_mem_cons.2
    ⟨⟨_, _, Kubernetes.hasField_initContainers, ?_⟩, List.forall_mem_singleton.2
      ⟨_, _, Kubernetes.hasField_volumes, ?_⟩⟩⟩
  · rw [fieldOrNull, Kubernetes.hasField_containers.get?_encode hps, hcontainers]
    exact Schema.reads_replaced hwhole (replaces_encode_list hwhole)
  · rw [Kubernetes.hasField_initContainers.get?_encode hps]
    exact reads_listOrNull hinit
  · rw [Kubernetes.hasField_volumes.get?_encode hps]
    exact reads_listOrNull hvolumes

private theorem reads_replicas (hspec : Kubernetes.statefulSetSpec.IsValue spec) :
    Reads false .int32 (Json.changed v (some (fieldOrNull (Kubernetes.statefulSetSpec.encode spec) "replicas")))
      (spec.get? "replicas") :=
  reads_fieldOrNull Kubernetes.hasField_replicas (ChildKind.specSchema_isOrdered .statefulSet) rfl
    (fun _ => replaces_int32) hspec

private theorem path?_encode_pod (hpod : spec.path? ["template", "spec"] = some pod)
    (hspec : Kubernetes.statefulSetSpec.IsValue spec) : Kubernetes.podSpec.IsValue pod ∧
      (Kubernetes.statefulSetSpec.encode spec).path? ["template", "spec"] = some (Kubernetes.podSpec.encode pod) := by
  have hs := ChildKind.specSchema_isOrdered .statefulSet
  have hts := Kubernetes.podTemplateSpec_isOrdered
  obtain ⟨template, htemplate, hpod⟩ := Option.bind_eq_some_iff.1 hpod
  rw [Json.path?_singleton] at hpod
  have hvalue := Kubernetes.hasField_template.isValue hs hspec htemplate
  refine ⟨Kubernetes.hasField_podSpec.isValue hts hvalue hpod, ?_⟩
  rw [Json.path?, Kubernetes.hasField_template.get?_encode hs, htemplate, Option.map_some, Option.bind_some,
    Json.path?_singleton, Kubernetes.hasField_podSpec.get?_encode hts, hpod, Option.map_some]

private theorem decode_templatePatch
    (hdistinct : (Json.object [("spec", .object (podPatch (Kubernetes.podSpec.encode pod)))]).KeysDistinct)
    (hx : Kubernetes.podTemplateSpec.decode w = .ok x) (hpod : Kubernetes.podSpec.IsValue pod)
    (hinit : IsListed Kubernetes.container (pod.get? "initContainers"))
    (hvolumes : IsListed Kubernetes.volume (pod.get? "volumes")) :
    Kubernetes.podTemplateSpec.decode
        (w.mergePatch (.object [("spec", .object (podPatch (Kubernetes.podSpec.encode pod)))])) =
      .ok (x.set "spec" (((x.get? "spec").getD Kubernetes.podSpec.zero).copyKeys pod
        ["containers", "initContainers", "volumes"])) := by
  have hts := Kubernetes.podTemplateSpec_isOrdered
  have hfields : (Json.object (podPatch (Kubernetes.podSpec.encode pod))).KeysDistinct := hdistinct.2.1
  exact Kubernetes.hasField_podSpec.decode_patched hts hx rfl hfields fun w' hw' =>
    decode_podPatch hfields hw' hpod hinit hvolumes

private theorem statefulSetPatch_full (hpod : spec.path? ["template", "spec"] = some pod) :
    statefulSetPatch .full spec = .object [("replicas", fieldOrNull spec "replicas"),
      ("template", .object [("spec", .object (podPatch pod))])] := by
  unfold statefulSetPatch
  rw [hpod]
  rfl

/-- The replicas and the template are what merging changes. -/
private theorem mergeStatefulSetSpec_full (hpod : spec.path? ["template", "spec"] = some pod) (x : Json) :
    mergeStatefulSetSpec .full spec x =
      let template := (x.get? "template").getD Kubernetes.podTemplateSpec.zero
      x.copyKeys (spec.set "template" (template.set "spec"
        (((template.get? "spec").getD Kubernetes.podSpec.zero).copyKeys pod ["containers", "initContainers", "volumes"])))
        ["replicas", "template"] := by
  have hreplicas : ∀ template, x.copyKey (spec.set "template" template) "replicas" = x.copyKey spec "replicas" := by
    intro template
    rw [Json.copyKey, Json.get?_set, if_neg (by decide), Json.copyKey]
  have htemplate : (x.copyKey spec "replicas").get? "template" = x.get? "template" := by
    rw [Json.get?_copyKey, if_neg (by decide)]
  unfold mergeStatefulSetSpec
  rw [hpod]
  simp only [htemplate, Json.copyKeys, List.foldl_cons, List.foldl_nil, hreplicas]
  exact (Json.copyKey_of_get? (by rw [Json.get?_set, if_pos rfl])).symm

private theorem decode_statefulSetPatch
    (hdistinct : (statefulSetPatch scope (Kubernetes.statefulSetSpec.encode spec)).KeysDistinct)
    (hx : Kubernetes.statefulSetSpec.decode w = .ok x) (hspec : Kubernetes.statefulSetSpec.IsValue spec)
    (h : Sendable .statefulSet spec) :
    Kubernetes.statefulSetSpec.decode (w.mergePatch (statefulSetPatch scope (Kubernetes.statefulSetSpec.encode spec))) =
      .ok (mergeStatefulSetSpec scope spec x) := by
  have hs := ChildKind.specSchema_isOrdered .statefulSet
  have hshape := Kubernetes.hasField_replicas.hasShape hs ⟨w, hx⟩
  obtain ⟨pod, hpath, hinit, hvolumes⟩ := h
  obtain ⟨hpod, hencode⟩ := path?_encode_pod hpath hspec
  cases scope with
  | replicasOnly =>
    have hscaled := Schema.decode_copied hs hx hshape hdistinct
      (List.forall_mem_singleton.2 ⟨_, _, Kubernetes.hasField_replicas, reads_replicas hspec⟩)
    exact hscaled
  | full =>
    rw [statefulSetPatch_full hencode] at hdistinct ⊢
    rw [mergeStatefulSetSpec_full hpath]
    have htemplate : (Json.object [("spec", .object (podPatch (Kubernetes.podSpec.encode pod)))]).KeysDistinct :=
      hdistinct.of_mem_object (by simp) (.tail _ (.head _))
    refine Schema.decode_copied hs hx hshape hdistinct (List.forall_mem_cons.2
      ⟨⟨_, _, Kubernetes.hasField_replicas, ?_⟩, List.forall_mem_singleton.2 ⟨_, _, Kubernetes.hasField_template, ?_⟩⟩)
    · rw [Json.get?_set, if_neg (by simp)]
      exact reads_replicas hspec
    · rw [Json.get?_set, if_pos rfl]
      exact Kubernetes.hasField_template.reads_nested hs hx rfl htemplate fun w' hw' =>
        decode_templatePatch htemplate hw' hpod hinit hvolumes

/-! ### Services and ingresses -/

/-- What a patch holds for a dictionary of texts. -/
private theorem fieldOrNull_encode_texts {s : Schema} {key : String} {texts : Dict Json}
    (hf : s.HasField key false Schema.textDict) (hs : s.isOrdered = true) (hget : spec.get? key = some (.obj texts)) :
    fieldOrNull (s.encode spec) key = .obj texts := by
  rw [fieldOrNull, hf.get?_encode hs, hget, Option.map_some, Schema.textDict, Schema.encode_dict_plain rfl]
  rfl

private theorem decode_servicePatch {texts : Dict Json}
    (hdistinct : (servicePatch (Kubernetes.serviceSpec.encode spec)).KeysDistinct)
    (hx : Kubernetes.serviceSpec.decode w = .ok x) (hports : IsListed Kubernetes.servicePort (spec.get? "ports"))
    (htexts : IsTextDict (spec.get? "selector") texts) :
    Kubernetes.serviceSpec.decode (w.mergePatch (servicePatch (Kubernetes.serviceSpec.encode spec))) =
      .ok (mergeServiceSpec
        (spec.set "selector" (((x.get? "selector").getD .empty).mergePatch (.obj texts))) x) := by
  have hs := ChildKind.specSchema_isOrdered .service
  refine Schema.decode_copied hs hx (Kubernetes.hasField_ports.hasShape hs ⟨w, hx⟩) hdistinct
    (List.forall_mem_cons.2 ⟨⟨_, _, Kubernetes.hasField_ports, ?_⟩,
      List.forall_mem_singleton.2 ⟨_, _, Kubernetes.hasField_selector, ?_⟩⟩)
  · rw [Json.get?_set, if_neg (by simp), Kubernetes.hasField_ports.get?_encode hs]
    exact reads_listOrNull hports
  · obtain ⟨hget, hsorted, htexts⟩ := htexts
    rw [Json.get?_set, if_pos rfl, fieldOrNull_encode_texts Kubernetes.hasField_selector hs hget]
    exact Kubernetes.hasField_selector.reads_nested hs hx rfl (htexts.keysDistinct hsorted) fun w' hw' =>
      Schema.decode_textDict_patched htexts hw'

private theorem decode_ingressPatch (hdistinct : (ingressPatch (Kubernetes.ingressSpec.encode spec)).KeysDistinct)
    (hx : Kubernetes.ingressSpec.decode w = .ok x) (hspec : Kubernetes.ingressSpec.IsValue spec)
    (h : Sendable .ingress spec) :
    Kubernetes.ingressSpec.decode (w.mergePatch (ingressPatch (Kubernetes.ingressSpec.encode spec))) = .ok spec := by
  have hs := ChildKind.specSchema_isOrdered .ingress
  have hshape := Kubernetes.hasField_rules.hasShape hs ⟨w, hx⟩
  obtain ⟨hbackend, hrules, htls⟩ := h
  have hcopied : Kubernetes.ingressSpec.decode (w.mergePatch (ingressPatch (Kubernetes.ingressSpec.encode spec))) =
      .ok (x.copyKeys spec ["ingressClassName", "defaultBackend", "rules", "tls"]) := by
    refine Schema.decode_copied hs hx hshape hdistinct (List.forall_mem_cons.2
      ⟨⟨_, _, Kubernetes.hasField_ingressClassName, ?_⟩, List.forall_mem_cons.2
        ⟨⟨_, _, Kubernetes.hasField_defaultBackend, ?_⟩, List.forall_mem_cons.2
          ⟨⟨_, _, Kubernetes.hasField_rules, ?_⟩, List.forall_mem_singleton.2 ⟨_, _, Kubernetes.hasField_tls, ?_⟩⟩⟩⟩)
    · exact reads_fieldOrNull Kubernetes.hasField_ingressClassName hs rfl (fun _ => replaces_text) hspec
    · rw [fieldOrNull, Kubernetes.hasField_defaultBackend.get?_encode hs, hbackend]
      exact Schema.reads_cleared
    · rw [Kubernetes.hasField_rules.get?_encode hs]
      exact reads_listOrNull hrules
    · rw [Kubernetes.hasField_tls.get?_encode hs]
      exact reads_listOrNull htls
  -- an ingress has no other fields than those that the patch names
  have hkeys : ∀ key required t, Kubernetes.ingressSpec.HasField key required t →
      key ∈ ["ingressClassName", "defaultBackend", "rules", "tls"] := by
    rintro key required t ⟨name, fields, heq, hf⟩
    cases heq
    simp only [List.mem_cons, Prod.mk.injEq, List.not_mem_nil, or_false] at hf
    rcases hf with ⟨rfl, -⟩ | ⟨rfl, -⟩ | ⟨rfl, -⟩ | ⟨rfl, -⟩ <;> simp
  rw [hcopied]
  refine congrArg Except.ok (Schema.HasShape.ext (Kubernetes.hasField_rules.hasShape hs ⟨_, hcopied⟩)
    (Kubernetes.hasField_rules.hasShape hs hspec) fun key required t hf => ?_)
  rw [Json.get?_copyKeys, if_pos (hkeys key required t hf)]

/-! ### Claims -/

private theorem decode_resourcesPatch {resources : Json} {texts : Dict Json}
    (hx : Kubernetes.volumeResourceRequirements.decode w = .ok x)
    (htexts : IsTextDict (resources.get? "requests") texts) :
    Kubernetes.volumeResourceRequirements.decode (w.mergePatch (.obj [("requests", .obj texts)])) =
      .ok (x.set "requests" (((x.get? "requests").getD .empty).mergePatch (.obj texts))) := by
  have hrs := Kubernetes.volumeResourceRequirements_isOrdered
  obtain ⟨hget, hsorted, htexts⟩ := htexts
  exact Kubernetes.hasField_requests.decode_patched hrs hx rfl (htexts.keysDistinct hsorted) fun w' hw' =>
    Schema.decode_textDict_patched htexts hw'

/-- The resources and, if it is desired, the storage class are what merging changes. -/
private theorem mergeClaimSpec_eq {resources requests : Json} (x : Json) :
    mergeClaimSpec (spec.set "resources" (resources.set "requests" requests)) x =
      x.copyKeys (spec.set "resources"
          (((x.get? "resources").getD Kubernetes.volumeResourceRequirements.zero).set "requests" requests))
        ("resources" :: if (spec.get? "storageClassName").isSome then ["storageClassName"] else []) := by
  have hset : ∀ r : Json, (spec.set "resources" r).get? "resources" = some r ∧
      (spec.set "resources" r).get? "storageClassName" = spec.get? "storageClassName" := by
    intro r
    rw [Json.get?_set, Json.get?_set, if_pos rfl, if_neg (by decide)]
    exact ⟨rfl, rfl⟩
  have hrequests : ∀ r : Json, r.copyKey (resources.set "requests" requests) "requests" = r.set "requests" requests :=
    fun r => Json.copyKey_of_get? (by rw [Json.get?_set, if_pos rfl])
  unfold mergeClaimSpec
  simp only [hset, Option.getD_some, hrequests, Json.copyKeys, List.foldl_cons, Json.copyKey_of_get? (hset _).1]
  split
  · rw [List.foldl_cons, List.foldl_nil, Json.copyKey, Json.copyKey, (hset _).2, (hset _).2]
  · rfl

private theorem claimPatch_encode {resources : Json} {texts : Dict Json}
    (hresources : spec.get? "resources" = some resources) (htexts : IsTextDict (resources.get? "requests") texts) :
    claimPatch (Kubernetes.persistentVolumeClaimSpec.encode spec) =
      .objectOfSome [("resources", some (.obj [("requests", .obj texts)])),
        ("storageClassName", spec.get? "storageClassName")] := by
  have hs := ChildKind.specSchema_isOrdered .claim
  have hclass : (Kubernetes.persistentVolumeClaimSpec.encode spec).get? "storageClassName" =
      spec.get? "storageClassName" := by
    rw [Kubernetes.hasField_storageClassName.get?_encode hs, funext (Schema.encode_plain rfl), Option.map_id']
  have hrequests := fieldOrNull_encode_texts Kubernetes.hasField_requests
    Kubernetes.volumeResourceRequirements_isOrdered htexts.1
  rw [claimPatch, Json.path?, Kubernetes.hasField_resources.get?_encode hs, hresources, Option.map_some,
    Option.bind_some, Json.path?_singleton, hclass, ← hrequests]
  rfl

private theorem decode_claimPatch {resources : Json} {texts : Dict Json}
    (hdistinct : (claimPatch (Kubernetes.persistentVolumeClaimSpec.encode spec)).KeysDistinct)
    (hx : Kubernetes.persistentVolumeClaimSpec.decode w = .ok x)
    (hspec : Kubernetes.persistentVolumeClaimSpec.IsValue spec) (hresources : spec.get? "resources" = some resources)
    (htexts : IsTextDict (resources.get? "requests") texts) :
    let live := (x.get? "resources").getD Kubernetes.volumeResourceRequirements.zero
    Kubernetes.persistentVolumeClaimSpec.decode
        (w.mergePatch (claimPatch (Kubernetes.persistentVolumeClaimSpec.encode spec))) =
      .ok (mergeClaimSpec (spec.set "resources"
        (resources.set "requests" (((live.get? "requests").getD .empty).mergePatch (.obj texts)))) x) := by
  intro live
  have hs := ChildKind.specSchema_isOrdered .claim
  have hshape := Kubernetes.hasField_resources.hasShape hs ⟨w, hx⟩
  have hread : Reads false Kubernetes.volumeResourceRequirements
      (Json.changed (w.get? "resources") (some (.obj [("requests", .obj texts)])))
      (some (live.set "requests" (((live.get? "requests").getD .empty).mergePatch (.obj texts)))) :=
    Kubernetes.hasField_resources.reads_nested hs hx rfl ⟨by simp, htexts.2.2.keysDistinct htexts.2.1, trivial⟩
      fun w' hw' => decode_resourcesPatch hw' htexts
  rw [claimPatch_encode hresources htexts] at hdistinct ⊢
  rw [mergeClaimSpec_eq]
  have hresources' : ∀ r : Json, (spec.set "resources" r).get? "resources" = some r := fun r => by
    rw [Json.get?_set, if_pos rfl]
  cases hclass : spec.get? "storageClassName" with
  | none =>
    rw [hclass] at hdistinct
    refine Schema.decode_copied hs hx hshape hdistinct
      (List.forall_mem_singleton.2 ⟨_, _, Kubernetes.hasField_resources, ?_⟩)
    rw [hresources']
    exact hread
  | some name =>
    rw [hclass] at hdistinct
    have hvalue := Kubernetes.hasField_storageClassName.isValue hs hspec hclass
    refine Schema.decode_copied hs hx hshape hdistinct (List.forall_mem_cons.2
      ⟨⟨_, _, Kubernetes.hasField_resources, ?_⟩,
        List.forall_mem_singleton.2 ⟨_, _, Kubernetes.hasField_storageClassName, ?_⟩⟩)
    · rw [hresources']
      exact hread
    · rw [Json.get?_set, if_neg (by simp), hclass]
      have hreplaced : Reads false .text
          (Json.changed (w.get? "storageClassName") (some (Schema.text.encode name))) (some name) := by
        refine Schema.reads_replaced (hvalue.isWhole_timeless rfl rfl) ?_
        rw [Schema.encode_plain rfl]
        exact replaces_text hvalue
      rwa [Schema.encode_plain rfl] at hreplaced

/-! ### Children -/

variable {l d : Child}

private theorem patched_spec {p u : Json} (hl : l.IsRead) (hwhole : l.InWholeSeconds)
    (hp : ∃ changes, p = .obj changes) (hdistinct : (Json.object [("spec", p)]).KeysDistinct)
    (hzero : l.kind.specSchema.zero? = some l.kind.specSchema.zero)
    (h : p.KeysDistinct → ∀ w,
      l.kind.specSchema.decode w = .ok ((l.body.get? "spec").getD l.kind.specSchema.zero) →
      l.kind.specSchema.decode (w.mergePatch p) = .ok u) :
    Cluster.patched l (.object [("spec", p)]) = .ok ⟨l.kind, l.body.set "spec" u⟩ := by
  obtain ⟨changes, rfl⟩ := hp
  exact patched_eq_ok.2 ⟨rfl, l.kind.hasField_spec.decode_patched l.kind.schema_isOrdered
    (hl.isWhole l.kind.schema_isOrdered hwhole) hzero hdistinct.2.1 (h hdistinct.2.1)⟩

private theorem patched_empty (hl : l.IsRead) (hwhole : l.InWholeSeconds) : Cluster.patched l .empty = .ok l := by
  have hs := l.kind.schema_isOrdered
  have hnothing : l.kind.schema.decode ((l.kind.schema.encode l.body).mergePatch (.obj [])) = .ok l.body :=
    Schema.decode_patched hs (hl.isWhole hs hwhole) (l.kind.hasField_spec.hasShape hs hl) trivial (fun _ _ => rfl)
      (List.forall_mem_nil _)
  exact patched_eq_ok.2 ⟨rfl, hnothing⟩

private theorem mergeSpec_set {merge : Json → Json → Json} {zero desired live : Json} :
    mergeSpec merge zero (desired.set "spec" spec) live =
      live.set "spec" (merge spec ((live.get? "spec").getD zero)) := by
  rw [mergeSpec, Json.get?_set, if_pos rfl]

/-- The requests of a live claim, where what stands in for an absent object is looked at in its place. -/
private theorem get?_requests_getD (live : Json) :
    ((((live.get? "spec").getD Kubernetes.persistentVolumeClaimSpec.zero).get? "resources").getD
      Kubernetes.volumeResourceRequirements.zero).get? "requests" = live.path? ["spec", "resources", "requests"] := by
  rw [← Json.path?_singleton, Json.path?_getD rfl, Json.path?_getD rfl]

/-- A patch makes of a live child what merging makes of it, but for the keys that the live child has besides. -/
theorem patched_eq_mergeBody (hd : d.IsDesired) (hspec : d.body.get? "spec" = some spec) (hsend : Sendable d.kind spec)
    (hl : l.IsRead) (hwhole : l.InWholeSeconds) (hkind : l.kind = d.kind) (scope : MergeScope) :
    Cluster.patched l (d.patch scope) = .ok ⟨l.kind, mergeBody d.kind scope (d.keeping l).body l.body⟩ := by
  have hdistinct := hd.patch scope
  have hvalue := hd.read.spec hspec
  unfold patch at hdistinct ⊢
  rw [get?_encode_spec hspec, Option.getD_some] at hdistinct ⊢
  obtain ⟨kind, live⟩ := l
  obtain ⟨_, desired⟩ := d
  cases hkind
  -- every kind has a patch of its own; restricted to replicas, only that of a stateful set asks for anything
  cases kind with
  | statefulSet =>
    have hbody : mergeBody .statefulSet scope desired live = live.set "spec" (mergeStatefulSetSpec scope spec
        ((live.get? "spec").getD Kubernetes.statefulSetSpec.zero)) := by
      rw [mergeBody, mergeSpec, hspec]
    have hobj : ∃ changes, statefulSetPatch scope (Kubernetes.statefulSetSpec.encode spec) = .obj changes := by
      unfold statefulSetPatch
      split <;> exact ⟨_, rfl⟩
    change _ = Except.ok (Child.mk .statefulSet (mergeBody .statefulSet scope desired live))
    rw [hbody]
    exact patched_spec hl hwhole hobj hdistinct rfl fun hdistinct w hw =>
      decode_statefulSetPatch hdistinct hw hvalue hsend
  | service =>
    cases scope with
    | replicasOnly => exact patched_empty hl hwhole
    | full =>
      obtain ⟨hports, texts, htexts⟩ := hsend
      rw [mergeBody, body_keeping rfl hspec, Json.path?_singleton, htexts.1, mergeSpec_set]
      refine patched_spec hl hwhole ⟨_, rfl⟩ hdistinct rfl fun hdistinct w hw => ?_
      have hpatch := decode_servicePatch hdistinct hw hports htexts
      rwa [← Json.path?_singleton, Json.path?_getD rfl] at hpatch
  | ingress =>
    cases scope with
    | replicasOnly => exact patched_empty hl hwhole
    | full =>
      have hbody : mergeBody .ingress .full desired live = live.set "spec" spec := Json.copyKey_of_get? hspec
      change _ = Except.ok (Child.mk .ingress (mergeBody .ingress .full desired live))
      rw [hbody]
      exact patched_spec hl hwhole ⟨_, rfl⟩ hdistinct rfl fun hdistinct w hw =>
        decode_ingressPatch hdistinct hw hvalue hsend
  | claim | dataSourceClaim =>
    cases scope with
    | replicasOnly => exact patched_empty hl hwhole
    | full =>
      obtain ⟨resources, hresources, texts, htexts⟩ := hsend
      have hpath : spec.path? ["resources", "requests"] = some (.obj texts) := by
        rw [Json.path?_cons_of_get? hresources, Json.path?_singleton, htexts.1]
      rw [mergeBody, body_keeping rfl hspec, hpath, mergeSpec_set]
      refine patched_spec hl hwhole ⟨_, rfl⟩ hdistinct rfl fun hdistinct w hw => ?_
      simp only [Json.setPath, hresources, Option.getD_some, ← get?_requests_getD]
      exact decode_claimPatch hdistinct hw hvalue hresources htexts

end Child

end SessionOperator
