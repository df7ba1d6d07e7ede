import SessionOperator.Proofs.Child.Settled

/-!
# What is desired of the children

The desired children are read from documents that the controller writes itself, so that more is known of them than of
live ones: they have a spec, their patches name no field twice, and all data source claims ask for the same.

* `ChildSet.isDesired`: every desired child of a session is fit to be brought about;
* `ChildSet.interchangeable`: desired children that stand under one name ask the same of a live child.
-/

namespace SessionOperator

namespace Child

variable {kind : ChildKind} {d d' : Child} {document w spec : Json}

/-- The spec of a child is the reading of the spec of its document. -/
theorem spec_of_decode (h : Child.decode kind document = .ok d) (hw : document.get? "spec" = some w) (hne : w ≠ .null) :
    ∃ spec, d.body.get? "spec" = some spec ∧ kind.specSchema.decode w = .ok spec := by
  obtain ⟨spec, hspec, hget⟩ :=
    kind.hasField_spec.decode_of_get? kind.schema_isOrdered (decode_eq_ok.1 h).2 hw hne
  exact ⟨spec, hget, hspec⟩

/-! ### Leaves of patches -/

private theorem keysDistinct_encode_list {item : Schema} (h : (Schema.list item).IsValue w) :
    ((Schema.list item).encode w).KeysDistinct := by
  obtain ⟨j, hj⟩ := h
  obtain ⟨items, xs, -, rfl, -⟩ := Schema.decode_list_iff.1 hj
  rw [Schema.encode]
  trivial

private theorem keysDistinct_encode_text (h : Schema.text.IsValue w) : (Schema.text.encode w).KeysDistinct := by
  obtain ⟨j, hj⟩ := h
  obtain ⟨t, -, rfl⟩ := Fallible.map_eq_ok_iff.1 (show (Decoder.text j).map Json.str = .ok w from hj)
  rw [Schema.encode_plain rfl]
  trivial

private theorem keysDistinct_encode_int32 (h : Schema.int32.IsValue w) : (Schema.int32.encode w).KeysDistinct := by
  obtain ⟨j, hj⟩ := h
  obtain ⟨n, -, rfl⟩ := Fallible.map_eq_ok_iff.1 (show (Decoder.int32 j).map Json.int = .ok w from hj)
  rw [Schema.encode_plain rfl]
  trivial

private theorem keysDistinct_field {s t : Schema} {key : String} {required : Bool} (hf : s.HasField key required t)
    (hs : s.isOrdered = true) (hx : s.IsValue w) (h : ∀ v, t.IsValue v → (t.encode v).KeysDistinct) :
    ∀ v, (s.encode w).get? key = some v → v.KeysDistinct := by
  intro v hv
  obtain ⟨y, hy, rfl⟩ := hf.of_get?_encode hs hx hv
  exact h y hy

private theorem keysDistinct_orNull {o : Option Json} (h : ∀ v, o = some v → v.KeysDistinct) :
    (Json.orNull o).KeysDistinct := by
  cases o with
  | none => trivial
  | some v => exact h v rfl

private theorem keysDistinct_listOrNull {o : Option Json} (h : ∀ v, o = some v → v.KeysDistinct) :
    (listOrNull o).KeysDistinct := by
  unfold listOrNull
  split
  · trivial
  · exact h _ rfl
  · trivial

/-! ### Patches -/

private theorem statefulSetPatch_keysDistinct (scope : MergeScope) (h : Kubernetes.statefulSetSpec.IsValue spec) :
    (statefulSetPatch scope (Kubernetes.statefulSetSpec.encode spec)).KeysDistinct := by
  have hs := ChildKind.specSchema_isOrdered .statefulSet
  have hreplicas : (fieldOrNull (Kubernetes.statefulSetSpec.encode spec) "replicas").KeysDistinct :=
    keysDistinct_orNull (keysDistinct_field Kubernetes.hasField_replicas hs h fun _ => keysDistinct_encode_int32)
  unfold statefulSetPatch
  split
  · rename_i pod hpath
    obtain ⟨template, htemplate, hpath⟩ := Option.bind_eq_some_iff.1 hpath
    obtain ⟨pod', hpod, heq⟩ := Option.bind_eq_some_iff.1 hpath
    cases heq
    have hts := Kubernetes.podTemplateSpec_isOrdered
    have hps := Kubernetes.podSpec_isOrdered
    obtain ⟨t, ht, rfl⟩ := Kubernetes.hasField_template.of_get?_encode hs h htemplate
    obtain ⟨p, hp, rfl⟩ := Kubernetes.hasField_podSpec.of_get?_encode hts ht hpod
    have hcontainers := keysDistinct_orNull
      (keysDistinct_field Kubernetes.hasField_containers hps hp fun _ => keysDistinct_encode_list)
    have hinit := keysDistinct_listOrNull
      (keysDistinct_field Kubernetes.hasField_initContainers hps hp fun _ => keysDistinct_encode_list)
    have hvolumes := keysDistinct_listOrNull
      (keysDistinct_field Kubernetes.hasField_volumes hps hp fun _ => keysDistinct_encode_list)
    refine Json.keysDistinct_object (List.forall_mem_cons.2 ⟨hreplicas, List.forall_mem_singleton.2 ?_⟩)
    refine Json.keysDistinct_object (List.forall_mem_singleton.2 (Json.keysDistinct_object ?_))
    exact List.forall_mem_cons.2 ⟨hcontainers, List.forall_mem_cons.2 ⟨hinit, List.forall_mem_singleton.2 hvolumes⟩⟩
  · exact Json.keysDistinct_object (List.forall_mem_singleton.2 hreplicas)

private theorem servicePatch_keysDistinct (h : Kubernetes.serviceSpec.IsValue spec)
    (hselector : ∀ v, (Kubernetes.serviceSpec.encode spec).get? "selector" = some v → v.KeysDistinct) :
    (servicePatch (Kubernetes.serviceSpec.encode spec)).KeysDistinct := by
  have hports := keysDistinct_listOrNull (keysDistinct_field Kubernetes.hasField_ports
    (ChildKind.specSchema_isOrdered .service) h fun _ => keysDistinct_encode_list)
  exact Json.keysDistinct_object
    (List.forall_mem_cons.2 ⟨hports, List.forall_mem_singleton.2 (keysDistinct_orNull hselector)⟩)

private theorem ingressPatch_keysDistinct (h : Kubernetes.ingressSpec.IsValue spec)
    (hbackend : (Kubernetes.ingressSpec.encode spec).get? "defaultBackend" = none) :
    (ingressPatch (Kubernetes.ingressSpec.encode spec)).KeysDistinct := by
  have hs := ChildKind.specSchema_isOrdered .ingress
  have hclass := keysDistinct_orNull
    (keysDistinct_field Kubernetes.hasField_ingressClassName hs h fun _ => keysDistinct_encode_text)
  have hdefault : (fieldOrNull (Kubernetes.ingressSpec.encode spec) "defaultBackend").KeysDistinct :=
    keysDistinct_orNull (by simp [hbackend])
  have hrules := keysDistinct_listOrNull
    (keysDistinct_field Kubernetes.hasField_rules hs h fun _ => keysDistinct_encode_list)
  have htls := keysDistinct_listOrNull
    (keysDistinct_field Kubernetes.hasField_tls hs h fun _ => keysDistinct_encode_list)
  exact Json.keysDistinct_object (List.forall_mem_cons.2 ⟨hclass, List.forall_mem_cons.2 ⟨hdefault,
    List.forall_mem_cons.2 ⟨hrules, List.forall_mem_singleton.2 htls⟩⟩⟩)

private theorem claimPatch_keysDistinct (h : Kubernetes.persistentVolumeClaimSpec.IsValue spec)
    (hrequests : ∀ v, (Kubernetes.persistentVolumeClaimSpec.encode spec).path? ["resources", "requests"] = some v →
      v.KeysDistinct) : (claimPatch (Kubernetes.persistentVolumeClaimSpec.encode spec)).KeysDistinct := by
  have hclass := keysDistinct_field Kubernetes.hasField_storageClassName (ChildKind.specSchema_isOrdered .claim) h
    fun _ => keysDistinct_encode_text
  refine Json.keysDistinct_objectOfSome (List.forall_mem_cons.2 ⟨?_, List.forall_mem_singleton.2 hclass⟩)
  rintro v ⟨⟩
  exact Json.keysDistinct_object (List.forall_mem_singleton.2 (keysDistinct_orNull hrequests))

/-! ### Reading documents -/

/-- A dictionary of plain values is its own reading and its own document. -/
private theorem get?_encode_dict {s value : Schema} {key : String} {required : Bool} {x : Json} {content : Dict Json}
    (hf : s.HasField key required (.dict value)) (hs : s.isOrdered = true) (hvalue : value.isPlain = true)
    (hx : s.decode w = .ok x) (hw : w.get? key = some (.obj content)) :
    (s.encode x).get? key = some (.obj content) := by
  obtain ⟨y, hy, hget⟩ := hf.decode_of_get? hs hx hw (by simp)
  rw [hf.get?_encode hs, hget, (Schema.decode_dict_plain hvalue hy).1, Option.map_some,
    Schema.encode_dict_plain hvalue]

theorem isDesired_statefulSet (h : Child.decode .statefulSet document = .ok d) (hw : document.get? "spec" = some w)
    (hne : w ≠ .null) : d.IsDesired := by
  obtain ⟨spec, hspec, hdecode⟩ := spec_of_decode h hw hne
  have hkind := (decode_eq_ok.1 h).1
  refine ⟨isRead_of_decode h, ⟨spec, hspec, fun hclaim => ?_⟩, fun scope => ?_⟩
  · simp [IsClaim, hkind] at hclaim
  · unfold patch
    rw [get?_encode_spec hspec, hkind]
    exact Json.keysDistinct_object (List.forall_mem_singleton.2 (statefulSetPatch_keysDistinct scope ⟨w, hdecode⟩))

theorem isDesired_service (h : Child.decode .service document = .ok d) (hw : document.get? "spec" = some w)
    {selector : Dict String} (hselector : w.get? "selector" = some (.ofDict selector)) (hsorted : selector.Sorted) :
    d.IsDesired := by
  obtain ⟨spec, hspec, hdecode⟩ := spec_of_decode h hw (by rintro rfl; cases hselector)
  have hkind := (decode_eq_ok.1 h).1
  refine ⟨isRead_of_decode h, ⟨spec, hspec, fun hclaim => ?_⟩, fun scope => ?_⟩
  · simp [IsClaim, hkind] at hclaim
  · unfold patch
    rw [get?_encode_spec hspec, hkind]
    cases scope with
    | replicasOnly => trivial
    | full =>
      refine Json.keysDistinct_object
        (List.forall_mem_singleton.2 (servicePatch_keysDistinct ⟨w, hdecode⟩ fun v hv => ?_))
      have hget := get?_encode_dict Kubernetes.hasField_selector (ChildKind.specSchema_isOrdered .service) rfl hdecode
        hselector
      cases hget.symm.trans hv
      exact Json.keysDistinct_ofDict hsorted

theorem isDesired_ingress (h : Child.decode .ingress document = .ok d) (hw : document.get? "spec" = some w)
    (hne : w ≠ .null) (hbackend : w.get? "defaultBackend" = none) : d.IsDesired := by
  obtain ⟨spec, hspec, hdecode⟩ := spec_of_decode h hw hne
  have hkind := (decode_eq_ok.1 h).1
  refine ⟨isRead_of_decode h, ⟨spec, hspec, fun hclaim => ?_⟩, fun scope => ?_⟩
  · simp [IsClaim, hkind] at hclaim
  · unfold patch
    rw [get?_encode_spec hspec, hkind]
    cases scope with
    | replicasOnly => trivial
    | full =>
      refine Json.keysDistinct_object (List.forall_mem_singleton.2 (ingressPatch_keysDistinct ⟨w, hdecode⟩ ?_))
      have hs := ChildKind.specSchema_isOrdered .ingress
      have hread := Kubernetes.hasField_defaultBackend.reads hs hdecode
      rw [hbackend] at hread
      have hnone : spec.get? "defaultBackend" = none := hread.2
      rw [Kubernetes.hasField_defaultBackend.get?_encode hs, hnone]
      rfl

/-! ### Claims -/

theorem isDesired_claim (hkind : kind = .claim ∨ kind = .dataSourceClaim) (h : Child.decode kind document = .ok d)
    (hw : document.get? "spec" = some w) {size : String}
    (hresources : w.get? "resources" = some (.object [("requests", .object [("storage", .str size)])])) :
    d.IsDesired := by
  obtain ⟨spec, hspec, hdecode⟩ := spec_of_decode h hw (by rintro rfl; cases hresources)
  have hdkind := (decode_eq_ok.1 h).1
  have hschema : kind.specSchema = Kubernetes.persistentVolumeClaimSpec := by rcases hkind with rfl | rfl <;> rfl
  rw [hschema] at hdecode
  have hs := ChildKind.specSchema_isOrdered .claim
  -- a claim is given its resources, and they hold nothing but the requests
  obtain ⟨r, hr, hget⟩ := Kubernetes.hasField_resources.decode_of_get? hs hdecode hresources (by simp [Json.object])
  refine ⟨isRead_of_decode h, ⟨spec, hspec, fun _ => ⟨r, hget⟩⟩, fun scope => ?_⟩
  have hpatch : (claimPatch (Kubernetes.persistentVolumeClaimSpec.encode spec)).KeysDistinct := by
    refine claimPatch_keysDistinct ⟨w, hdecode⟩ fun v hv => ?_
    have hrequests : (Kubernetes.volumeResourceRequirements.encode r).get? "requests" =
        some (.obj [("storage", .str size)]) :=
      get?_encode_dict Kubernetes.hasField_requests (Kubernetes.hasField_resources.isOrdered hs) rfl hr rfl
    have hpath : (Kubernetes.persistentVolumeClaimSpec.encode spec).path? ["resources", "requests"] =
        some (.obj [("storage", .str size)]) := by
      rw [Json.path?, Kubernetes.hasField_resources.get?_encode hs, hget, Option.map_some, Option.bind_some, Json.path?,
        hrequests]
      rfl
    cases hpath.symm.trans hv
    show (Json.object [("storage", .str size)]).KeysDistinct
    exact Json.keysDistinct_object (List.forall_mem_singleton.2 trivial)
  unfold patch
  rw [get?_encode_spec hspec, hdkind, hschema]
  rcases hkind with rfl | rfl
  all_goals
    cases scope with
    | replicasOnly => trivial
    | full => exact Json.keysDistinct_object (List.forall_mem_singleton.2 hpatch)

/-- Claims whose documents ask for the same resources of the same class ask the same of a live claim. -/
theorem interchangeable_claims (hkind : kind = .claim ∨ kind = .dataSourceClaim) {document' w' : Json}
    (h : Child.decode kind document = .ok d) (h' : Child.decode kind document' = .ok d')
    (hw : document.get? "spec" = some w) (hw' : document'.get? "spec" = some w') (hne : w ≠ .null) (hne' : w' ≠ .null)
    (hresources : w.get? "resources" = w'.get? "resources")
    (hclass : w.get? "storageClassName" = w'.get? "storageClassName") : d.Interchangeable d' := by
  obtain ⟨spec, hspec, hdecode⟩ := spec_of_decode h hw hne
  obtain ⟨spec', hspec', hdecode'⟩ := spec_of_decode h' hw' hne'
  have hdkind := (decode_eq_ok.1 h).1
  have hdkind' := (decode_eq_ok.1 h').1
  have hschema : kind.specSchema = Kubernetes.persistentVolumeClaimSpec := by rcases hkind with rfl | rfl <;> rfl
  rw [hschema] at hdecode hdecode'
  have hs := ChildKind.specSchema_isOrdered .claim
  have hr : spec.get? "resources" = spec'.get? "resources" := by
    have hread := Kubernetes.hasField_resources.reads hs hdecode
    rw [hresources] at hread
    exact hread.unique (Kubernetes.hasField_resources.reads hs hdecode')
  have hc : spec.get? "storageClassName" = spec'.get? "storageClassName" := by
    have hread := Kubernetes.hasField_storageClassName.reads hs hdecode
    rw [hclass] at hread
    exact hread.unique (Kubernetes.hasField_storageClassName.reads hs hdecode')
  -- patch and merge look at these two fields only
  have hpatch : claimPatch (Kubernetes.persistentVolumeClaimSpec.encode spec) =
      claimPatch (Kubernetes.persistentVolumeClaimSpec.encode spec') := by
    simp only [claimPatch, Json.path?, Kubernetes.hasField_resources.get?_encode hs,
      Kubernetes.hasField_storageClassName.get?_encode hs, hr, hc]
  have hmerge : ∀ live, mergeClaimSpec spec live = mergeClaimSpec spec' live := by
    intro live
    simp only [mergeClaimSpec, Json.copyKey, hr, hc]
  intro scope
  constructor
  · unfold patch
    rw [get?_encode_spec hspec, get?_encode_spec hspec', hdkind, hdkind', hschema]
    rcases hkind with rfl | rfl <;> cases scope <;> first | rfl | simp only [Option.getD_some, hpatch]
  · intro l
    unfold mergeFrom
    rw [hdkind, hdkind']
    rcases hkind with rfl | rfl <;> cases scope <;> simp only [mergeBody, mergeSpec, hspec, hspec', hmerge]

end Child

namespace ChildSet

variable {s : Session} {config : Config} {children : ChildSet} {d : Child}

theorem ofSession_eq_ok (h : ChildSet.ofSession s config = .ok children) :
    Manifest.statefulSet s config = .ok children.statefulSet ∧ Manifest.service s = .ok children.service ∧
      Manifest.ingress s = .ok children.ingress ∧ Manifest.sessionClaim s config = .ok children.claim ∧
      Manifest.dataSourceClaims s config = .ok children.dataSourceClaims := by
  unfold ChildSet.ofSession at h
  simp only [Fallible.bind_eq_ok_iff] at h
  obtain ⟨statefulSet, h₁, service, h₂, ingress, h₃, claim, h₄, claims, h₅, heq⟩ := h
  cases heq
  exact ⟨h₁, h₂, h₃, h₄, h₅⟩

theorem mem_toList : d ∈ children.toList ↔ d = children.statefulSet ∨ d = children.service ∨
    children.ingress = some d ∨ d = children.claim ∨ d ∈ children.dataSourceClaims := by
  simp only [toList, List.mem_append, List.mem_cons, List.not_mem_nil, or_false, Option.mem_toList, or_assoc]

/-- The claim of a data source, by the document that it is read from. -/
theorem dataSourceClaim_decode (h : Manifest.dataSourceClaims s config = .ok children.dataSourceClaims)
    (hd : d ∈ children.dataSourceClaims) :
    ∃ source, Child.decode .dataSourceClaim (Manifest.dataSourceClaimDocument s config source) = .ok d := by
  obtain ⟨source, -, hsource⟩ := Fallible.exists_of_mem_mapM h hd
  exact ⟨source, hsource⟩

/-- The reading of an ingress, if the session has one. -/
theorem ingress_decode (h : Manifest.ingress s = .ok (some d)) :
    ∃ declared, Child.decode .ingress (Manifest.ingressDocument s declared) = .ok d := by
  unfold Manifest.ingress at h
  split at h
  · cases h
  · obtain ⟨child, hchild, heq⟩ := Fallible.map_eq_ok_iff.1 h
    cases heq
    exact ⟨_, hchild⟩

theorem get?_spec (m w : Json) : (Json.object [("metadata", m), ("spec", w)]).get? "spec" = some w := by
  simp [Json.object, Json.get?, Json.entries, Dict.ofList, Dict.get?_insert]

theorem get?_metadata (m w : Json) : (Json.object [("metadata", m), ("spec", w)]).get? "metadata" = some m := by
  simp [Json.object, Json.get?, Json.entries, Dict.ofList, Dict.get?_insert]

theorem get?_name (s : Session) (name : String) : (Manifest.metadata s name []).get? "name" = some (.str name) := by
  simp [Manifest.metadata, Manifest.named, Json.object, Json.get?, Json.entries, Dict.ofList, Dict.get?_insert]

theorem get?_replicas (replicas policy selector template : Json) :
    (Json.object [("replicas", replicas), ("podManagementPolicy", policy), ("selector", selector),
      ("template", template)]).get? "replicas" = some replicas := by
  simp [Json.object, Json.get?, Json.entries, Dict.ofList, Dict.get?_insert]

theorem get?_selector (ports selector : Json) :
    (Json.object [("ports", ports), ("selector", selector)]).get? "selector" = some selector := by
  simp [Json.object, Json.get?, Json.entries, Dict.ofList, Dict.get?_insert]

theorem get?_resources (accessMode size : String) (className : Option String) :
    (Manifest.claimSpec accessMode size className).get? "resources" =
      some (.object [("requests", .object [("storage", .str size)])]) := by
  cases className <;>
    simp [Manifest.claimSpec, Json.objectOfSome, Json.object, Json.get?, Json.entries, Dict.ofList, Dict.get?_insert]

theorem get?_storageClassName (accessMode size : String) (className : Option String) :
    (Manifest.claimSpec accessMode size className).get? "storageClassName" = className.map .str := by
  cases className <;>
    simp [Manifest.claimSpec, Json.objectOfSome, Json.object, Json.get?, Json.entries, Dict.ofList, Dict.get?_insert,
      Dict.get?]

/-- Every desired child is fit to be brought about. -/
theorem isDesired (h : ChildSet.ofSession s config = .ok children) (hd : d ∈ children.toList) : d.IsDesired := by
  obtain ⟨hset, hservice, hingress, hclaim, hclaims⟩ := ofSession_eq_ok h
  rcases mem_toList.1 hd with rfl | rfl | hd | rfl | hd
  · exact Child.isDesired_statefulSet hset (get?_spec ..) (by simp [Json.object])
  · exact Child.isDesired_service hservice (get?_spec ..) (get?_selector ..) (Dict.sorted_ofList _)
  · rw [hd] at hingress
    obtain ⟨declared, hdecode⟩ := ingress_decode hingress
    exact Child.isDesired_ingress hdecode (get?_spec ..) (by simp [Json.objectOfSome, Json.object])
      (Json.get?_objectOfSome_of_not_mem (by simp))
  · exact Child.isDesired_claim (.inl rfl) hclaim (get?_spec ..) (get?_resources ..)
  · obtain ⟨source, hdecode⟩ := dataSourceClaim_decode hclaims hd
    exact Child.isDesired_claim (.inr rfl) hdecode (get?_spec ..) (get?_resources ..)

/-- Every child of a session is of the kind of its place. -/
structure Kinds (children : ChildSet) : Prop where
  statefulSet : children.statefulSet.kind = .statefulSet
  service : children.service.kind = .service
  ingress : ∀ d, children.ingress = some d → d.kind = .ingress
  claim : children.claim.kind = .claim
  dataSourceClaims : ∀ d ∈ children.dataSourceClaims, d.kind = .dataSourceClaim

theorem kinds (h : ChildSet.ofSession s config = .ok children) : children.Kinds := by
  obtain ⟨hset, hservice, hingress, hclaim, hclaims⟩ := ofSession_eq_ok h
  refine ⟨(Child.decode_eq_ok.1 hset).1, (Child.decode_eq_ok.1 hservice).1, fun d hd => ?_,
    (Child.decode_eq_ok.1 hclaim).1, fun d hd => ?_⟩
  · obtain ⟨declared, hdecode⟩ := ingress_decode (hd ▸ hingress)
    exact (Child.decode_eq_ok.1 hdecode).1
  · obtain ⟨source, hdecode⟩ := dataSourceClaim_decode hclaims hd
    exact (Child.decode_eq_ok.1 hdecode).1

theorem statefulSet_kind (h : ChildSet.ofSession s config = .ok children) : children.statefulSet.kind = .statefulSet :=
  (kinds h).statefulSet

/-- Only the claims of data sources can be several of one kind. -/
private theorem eq_of_kind_eq {d' : Child} (h : ChildSet.ofSession s config = .ok children) (hd : d ∈ children.toList)
    (hd' : d' ∈ children.toList) (hkind : d.kind = d'.kind) :
    d = d' ∨ (d ∈ children.dataSourceClaims ∧ d' ∈ children.dataSourceClaims) := by
  obtain ⟨k₁, k₂, k₃, k₄, k₅⟩ := kinds h
  rcases mem_toList.1 hd with rfl | rfl | hd | rfl | hd <;> rcases mem_toList.1 hd' with rfl | rfl | hd' | rfl | hd'
  -- the kinds rule out all pairs of children from different places
  all_goals first
    | exact .inl rfl
    | exact .inl (Option.some.inj (hd.symm.trans hd'))
    | exact .inr ⟨hd, hd'⟩
    | simp [*] at hkind

/-- The stateful set bears the name that stands for the session. -/
theorem statefulSet_name (h : ChildSet.ofSession s config = .ok children) :
    children.statefulSet.name = s.childName := by
  have hdecode := (Child.decode_eq_ok.1 (ofSession_eq_ok h).1).2
  obtain ⟨m, hm, hget⟩ := (ChildKind.hasField_metadata .statefulSet).decode_of_get? (ChildKind.schema_isOrdered _)
    hdecode (get?_metadata ..) (by simp [Manifest.metadata, Manifest.named, Json.object])
  have hname := Kubernetes.hasField_name.get?_of_plain Kubernetes.objectMeta_isOrdered rfl hm (get?_name ..) (by simp)
  rw [Child.name, Child.metadata, hget, Option.getD_some, Json.text?, hname]
  rfl

/-- It asks for one replica, or for none if the session is to be hibernated. -/
theorem statefulSet_replicas (h : ChildSet.ofSession s config = .ok children) :
    children.statefulSet.body.path? ["spec", "replicas"] = some (.int (if s.spec.hibernated then 0 else 1)) := by
  obtain ⟨spec, hspec, hdecode⟩ := Child.spec_of_decode (ofSession_eq_ok h).1 (get?_spec ..) (by simp [Json.object])
  have hreplicas := Kubernetes.hasField_replicas.get?_of_plain (ChildKind.specSchema_isOrdered .statefulSet) rfl hdecode
    (get?_replicas ..) (by simp)
  rw [Json.path?, hspec, Option.bind_some, Json.path?, hreplicas]
  rfl

/-- Desired children of one kind ask the same of a live child. -/
theorem interchangeable {d' : Child} (h : ChildSet.ofSession s config = .ok children) (hd : d ∈ children.toList)
    (hd' : d' ∈ children.toList) (hkind : d.kind = d'.kind) : d.Interchangeable d' := by
  rcases eq_of_kind_eq h hd hd' hkind with rfl | ⟨hd, hd'⟩
  · exact .refl d
  · obtain ⟨-, -, -, -, hclaims⟩ := ofSession_eq_ok h
    obtain ⟨source, hdecode⟩ := dataSourceClaim_decode hclaims hd
    obtain ⟨source', hdecode'⟩ := dataSourceClaim_decode hclaims hd'
    exact Child.interchangeable_claims (.inr rfl) hdecode hdecode' (get?_spec ..) (get?_spec ..)
      (by simp [Manifest.claimSpec, Json.objectOfSome, Json.object])
      (by simp [Manifest.claimSpec, Json.objectOfSome, Json.object])
      ((get?_resources ..).trans (get?_resources ..).symm)
      ((get?_storageClassName ..).trans (get?_storageClassName ..).symm)

end ChildSet

end SessionOperator
