import SessionOperator.Children.Reconcile
import SessionOperator.Cluster.Memory
import SessionOperator.Proofs.Child.Kind

/-!
# Children that were read

What a write does to a child: its metadata gets a new version, and whatever the patch does not name stays as it is.

* `Child.IsRead`: the children that some document is read as; writes lead from such children to such children;
* `Child.IsRead.patched_versioned`: a patch that leaves a child alone leaves it alone under another version;
* `Child.Alike`: children between which there are only writes to the spec.
-/

namespace SessionOperator

namespace Child

variable {c d : Child} {kind : ChildKind} {changes : List (String × Json)} {key : String} {x : Json} {version : Nat}

theorem decode_eq_ok {j : Json} : Child.decode kind j = .ok c ↔ c.kind = kind ∧ kind.schema.decode j = .ok c.body := by
  unfold Child.decode
  rw [Fallible.map_eq_ok_iff]
  constructor
  · rintro ⟨body, hbody, rfl⟩
    exact ⟨rfl, hbody⟩
  · rintro ⟨rfl, hbody⟩
    exact ⟨c.body, hbody, rfl⟩

theorem metadata_setMetadata (c : Child) (key : String) (x : Json) :
    (c.setMetadata key x).metadata = c.metadata.set key x := by
  rw [metadata, setMetadata, Json.get?_set, if_pos rfl]
  rfl

theorem get?_encode_spec (hspec : c.body.get? "spec" = some x) :
    c.encode.get? "spec" = some (c.kind.specSchema.encode x) := by
  rw [encode, c.kind.hasField_spec.get?_encode c.kind.schema_isOrdered, hspec]
  rfl

/-- A child that some document is read as. -/
def IsRead (c : Child) : Prop := c.kind.schema.IsValue c.body

theorem isRead_of_decode {j : Json} (h : Child.decode kind j = .ok c) : c.IsRead := by
  obtain ⟨rfl, hbody⟩ := decode_eq_ok.1 h
  exact ⟨j, hbody⟩

private theorem reads_version (version : String) :
    Schema.Reads false .text (some (Schema.text.encode (.str version))) (some (.str version)) := by
  rw [Schema.encode_plain rfl]
  exact (Schema.reads_of_ne_null (by simp)).2 ⟨_, rfl, rfl⟩

private theorem owner_decode {s : Session} {owner : Json} (h : s.owner? = some owner) :
    Kubernetes.ownerReference.decode owner = .ok owner := by
  unfold Session.owner? at h
  simp only [Option.bind_eq_bind, Option.bind_eq_some_iff, Option.some.injEq] at h
  obtain ⟨name, -, uid, -, rfl⟩ := h
  -- the fields of a reference are few and fixed, so it is read by evaluation
  simp only [Json.object, Dict.ofList, List.foldl, Dict.insert, String.reduceLT, String.reduceEq, if_false]
  simp [Kubernetes.ownerReference, Schema.decode, Schema.decodeFields, Schema.stated?, Schema.isConstant,
    Schema.isIndispensable, Schema.allowsNull, Schema.zero?, Schema.missing?, Schema.assemble, Schema.req, Schema.opt,
    Dict.get?, Option.filter_some, Decoder.text, Decoder.flag, Except.map, bind, Except.bind]

/-- The reference to a session is one. -/
theorem isValue_owner {s : Session} {owner : Json} (h : s.owner? = some owner) :
    Kubernetes.ownerReference.IsValue owner := ⟨owner, owner_decode h⟩

namespace IsRead

theorem get?_metadata (h : c.IsRead) : c.body.get? "metadata" = some c.metadata := by
  obtain ⟨m, hm⟩ := c.kind.hasField_metadata.get?_required c.kind.schema_isOrdered h rfl
  rw [Child.metadata, hm]
  rfl

theorem get?_encode_metadata (h : c.IsRead) :
    c.encode.get? "metadata" = some (Kubernetes.objectMeta.encode c.metadata) := by
  rw [encode, c.kind.hasField_metadata.get?_encode c.kind.schema_isOrdered, h.get?_metadata]
  rfl

theorem metadata (h : c.IsRead) : Kubernetes.objectMeta.IsValue c.metadata :=
  c.kind.hasField_metadata.isValue c.kind.schema_isOrdered h h.get?_metadata

theorem spec (h : c.IsRead) (hspec : c.body.get? "spec" = some x) : c.kind.specSchema.IsValue x :=
  c.kind.hasField_spec.isValue c.kind.schema_isOrdered h hspec

/-- Other metadata that was read may take the place of that of the child. -/
private theorem setMetadata (h : c.IsRead) (hm : Kubernetes.objectMeta.IsValue (c.metadata.set key x)) :
    (c.setMetadata key x).IsRead := by
  obtain ⟨j, hj⟩ := hm
  exact c.kind.hasField_metadata.isValue_set c.kind.schema_isOrdered h
    ((Schema.reads_of_ne_null (Kubernetes.hasField_resourceVersion.ne_null hj)).2 ⟨_, hj, rfl⟩)

theorem versioned (h : c.IsRead) (version : Nat) : (Cluster.versioned c version).IsRead :=
  h.setMetadata (Kubernetes.hasField_resourceVersion.isValue_set Kubernetes.objectMeta_isOrdered h.metadata
    (reads_version (toString version)))

theorem owned (h : c.IsRead) {owner : Json} (howner : Kubernetes.ownerReference.IsValue owner) :
    (c.owned owner).IsRead := by
  obtain ⟨j, hj⟩ := howner
  have hread : (Schema.list Kubernetes.ownerReference).decode (.arr [j]) = .ok (.arr [owner]) := by
    rw [Schema.decode_list_iff]
    exact ⟨_, _, rfl, rfl, .cons hj .nil⟩
  exact h.setMetadata (Kubernetes.hasField_ownerReferences.isValue_set Kubernetes.objectMeta_isOrdered h.metadata
    ((Schema.reads_of_ne_null (by simp)).2 ⟨_, hread, rfl⟩))

end IsRead

/-! ### Patches -/

theorem patched_eq_ok {p : Json} :
    Cluster.patched c p = .ok d ↔
      d.kind = c.kind ∧ c.kind.schema.decode ((c.kind.schema.encode c.body).mergePatch p) = .ok d.body :=
  decode_eq_ok

theorem isRead_of_patched {p : Json} (hd : Cluster.patched c p = .ok d) : d.IsRead := by
  unfold Cluster.patched at hd
  exact isRead_of_decode hd

/-- A patch applied to its own outcome does nothing. -/
theorem IsRead.patched_patched (h : c.IsRead) {p : Json} (hp : p.KeysDistinct) (hd : Cluster.patched c p = .ok d) :
    Cluster.patched d p = .ok d := by
  obtain ⟨hkind, hbody⟩ := patched_eq_ok.1 hd
  obtain ⟨j, hj⟩ := h
  refine patched_eq_ok.2 ⟨rfl, ?_⟩
  rw [hkind]
  exact Schema.patch_settles _ c.kind.schema_isOrdered p hp _ _
    (.inl (Schema.isDocument_encode _ c.kind.schema_isOrdered j _ hj)) hbody

/-- The metadata of a child that a patch leaves alone is the reading of its own document. -/
private theorem decode_encode_metadata (h : c.IsRead) (hdistinct : Json.KeysDistinctFields changes)
    (hnew : Dict.get? changes "metadata" = none) (hc : Cluster.patched c (.obj changes) = .ok c) :
    Kubernetes.objectMeta.decode (Kubernetes.objectMeta.encode c.metadata) = .ok c.metadata := by
  have hread := c.kind.hasField_metadata.reads c.kind.schema_isOrdered (patched_eq_ok.1 hc).2
  rw [Json.get?_mergePatch_of_none hdistinct hnew, c.kind.hasField_metadata.get?_encode c.kind.schema_isOrdered,
    h.get?_metadata] at hread
  obtain ⟨j, hj⟩ := h.metadata
  obtain ⟨m, hm, -⟩ := Schema.isDocument_encode _ Kubernetes.objectMeta_isOrdered j _ hj
  obtain ⟨m', hm', heq⟩ := (Schema.reads_of_ne_null (Kubernetes.hasField_resourceVersion.ne_null hm)).1 hread
  obtain rfl : c.metadata = m' := Option.some.inj heq
  exact hm'

/-- A patch that leaves a child alone leaves it alone under another version. -/
theorem IsRead.patched_versioned (h : c.IsRead) (hdistinct : Json.KeysDistinctFields changes)
    (hnew : Dict.get? changes "metadata" = none) (hc : Cluster.patched c (.obj changes) = .ok c) (version : Nat) :
    Cluster.patched (Cluster.versioned c version) (.obj changes) = .ok (Cluster.versioned c version) := by
  have hm := decode_encode_metadata h hdistinct hnew hc
  have hm' := Kubernetes.hasField_resourceVersion.reread_set Kubernetes.objectMeta_isOrdered
    (reads_version (toString version)) hm
  refine patched_eq_ok.2 ⟨rfl, c.kind.hasField_metadata.settled_set c.kind.schema_isOrdered hdistinct hnew ?_
    (patched_eq_ok.1 hc).2⟩
  exact (Schema.reads_of_ne_null (Kubernetes.hasField_resourceVersion.ne_null hm')).2 ⟨_, hm', rfl⟩

/-! ### What writes keep -/

/-- A write to the spec may lead from one child to the other: they are written alike in status and metadata, but for the
version. -/
structure Alike (c d : Child) : Prop where
  kind : c.kind = d.kind
  status : c.encode.get? "status" = d.encode.get? "status"
  metadata : ∀ key, key ≠ "resourceVersion" → c.encode.path? ["metadata", key] = d.encode.path? ["metadata", key]

namespace Alike

theorem refl (c : Child) : c.Alike c := ⟨rfl, rfl, fun _ _ => rfl⟩

theorem trans {e : Child} (h : c.Alike d) (h' : d.Alike e) : c.Alike e where
  kind := h.kind.trans h'.kind
  status := h.status.trans h'.status
  metadata := fun key hkey => (h.metadata key hkey).trans (h'.metadata key hkey)

theorem patched (h : c.IsRead) (hdistinct : Json.KeysDistinctFields changes)
    (hspec : ∀ key, key ≠ "spec" → Dict.get? changes key = none) (hd : Cluster.patched c (.obj changes) = .ok d) :
    c.Alike d := by
  obtain ⟨hkind, hbody⟩ := patched_eq_ok.1 hd
  have hs := c.kind.schema_isOrdered
  have hmetadata := c.kind.hasField_metadata.get?_encode_patched hs hdistinct (hspec _ (by decide)) h hbody
  have hstatus := c.kind.hasField_status.get?_encode_patched hs hdistinct (hspec _ (by decide)) h hbody
  refine ⟨hkind.symm, ?_, fun key _ => ?_⟩
  · rw [encode, encode, hkind, hstatus]
  · rw [encode, encode, hkind, Json.path?, Json.path?, hmetadata]

theorem versioned (h : c.IsRead) (version : Nat) : c.Alike (Cluster.versioned c version) := by
  have hs := c.kind.schema_isOrdered
  refine ⟨rfl, ?_, fun key hkey => ?_⟩
  · exact Schema.get?_encode_congr hs c.kind.hasField_status
      ((Json.get?_set c.body "metadata" "status" _).trans (if_neg (by decide))).symm
  · have hset : (c.metadata.set "resourceVersion" (.str (toString version))).get? key = c.metadata.get? key := by
      rw [Json.get?_set, if_neg (Ne.symm hkey)]
    have hmetadata := Schema.get?_encode_congr Kubernetes.objectMeta_isOrdered Kubernetes.hasField_resourceVersion hset
    rw [Json.path?, Json.path?, h.get?_encode_metadata, (h.versioned version).get?_encode_metadata, Cluster.versioned,
      metadata_setMetadata, Option.bind_some, Option.bind_some, Json.path?, Json.path?, hmetadata]

end Alike

end Child

end SessionOperator
