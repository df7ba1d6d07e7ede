import SessionOperator.Proofs.Pass.Conversation
import SessionOperator.Proofs.Session.Sendable

/-!
# Patches of desired children

Whether a live child is written is decided by merging the desired one into it; what is written is a patch.  Both change
the managed fields only.  They agree on stateful sets and ingresses.  On services and claims they differ where the live
child holds keys in its selector or its requests that are not desired: merging drops them, the patch cannot.

* `ChildSet.patched_eq_merged`: patches of stateful sets and ingresses do what merging predicts;
* `ChildSet.patched_sameBut`: a patch leaves all fields alone that are not managed;
* `ChildSet.patched_dict`: what patches of services and claims do;
* `ChildSet.legacy_key_survives`: a service that no patch brings in line.
-/

namespace SessionOperator

namespace ChildSet

variable {s : Session} {config : Config} {children : ChildSet} {d l : Child} {path : List String}

/-- The patch of a desired child makes of a live one what merging makes of it, but for the keys that are kept. -/
theorem patched_eq (h : ChildSet.ofSession s config = .ok children) (hd : d ∈ children.toList) (hl : l.IsRead)
    (hwhole : l.InWholeSeconds) (hkind : l.kind = d.kind) (scope : MergeScope) :
    Cluster.patched l (d.patch scope) = .ok ⟨l.kind, Child.mergeBody d.kind scope (d.keeping l).body l.body⟩ := by
  obtain ⟨spec, hspec, hsend⟩ := sendable h hd
  exact Child.patched_eq_mergeBody (isDesired h hd) hspec hsend hl hwhole hkind scope

theorem path?_merged (h : ChildSet.ofSession s config = .ok children) (hd : d ∈ children.toList) {scope : MergeScope}
    (hpath : path ∈ d.managed scope) (live : Json) :
    (Child.mergeBody d.kind scope d.body live).path? path = d.body.path? path := by
  obtain ⟨spec, hspec, hsend⟩ := sendable h hd
  obtain ⟨holder, hholder⟩ := Child.exists_holder hspec hsend hpath
  exact Child.path?_mergeBody hpath hholder live

/-- A session that declares nothing but an image. -/
def plainSession : Session := ⟨Session.plainMetadata "2024-01-01T00:00:00Z", .plain false .default, none⟩

theorem ofSession_plain : ∃ children, ChildSet.ofSession plainSession (.default ⟨none, none⟩) = .ok children := by
  have h : (ChildSet.ofSession plainSession (.default ⟨none, none⟩)).toOption.any (fun _ => true) = true := by
    decide +kernel
  obtain ⟨children, hchildren, -⟩ := Fallible.exists_of_any h
  exact ⟨children, hchildren⟩

/-! ### Stateful sets and ingresses -/

/-- The patch of a stateful set or an ingress leads to the very object that merging predicts, and its managed fields are
the desired ones: what is not desired any more is gone. -/
theorem patched_eq_merged (h : ChildSet.ofSession s config = .ok children) (hd : d ∈ children.toList)
    (hset : d.kind = .statefulSet ∨ d.kind = .ingress) (hl : l.IsRead) (hwhole : l.InWholeSeconds)
    (hkind : l.kind = d.kind) (scope : MergeScope) :
    ∃ merged, l.mergeFrom d scope = .ok merged ∧ Cluster.patched l (d.patch scope) = .ok merged ∧
      ∀ path ∈ d.managed scope, merged.body.path? path = d.body.path? path := by
  have hkeeping : d.keeping l = d := by
    refine Child.keeping_of_none ?_ l
    rcases hset with hset | hset <;> rw [hset] <;> rfl
  refine ⟨⟨l.kind, Child.mergeBody d.kind scope d.body l.body⟩, ?_, ?_, fun path hpath => path?_merged h hd hpath _⟩
  · rw [Child.mergeFrom, if_pos hkind]
  · rw [patched_eq h hd hl hwhole hkind, hkeeping]

/-- A stateful set that is scaled down and has a container that is no more desired. -/
def staleSet : Child :=
  ⟨.statefulSet, .object [("apiVersion", .str "apps/v1"), ("kind", .str "StatefulSet"),
    ("metadata", .object [("name", .str "plain")]), ("spec", .object [("replicas", .int 0), ("selector", .empty),
      ("serviceName", .str ""), ("template", .object [("spec", .object [("containers", .arr []),
        ("initContainers", .arr [.object [("name", .str "setup")]])])])])]⟩

/-- The container goes, by the patch as by merging. -/
theorem patched_eq_merged_stale :
    ∃ children, ChildSet.ofSession plainSession (.default ⟨none, none⟩) = .ok children ∧
      children.statefulSet ∈ children.toList ∧ staleSet.IsRead ∧ staleSet.InWholeSeconds ∧
      staleSet.kind = children.statefulSet.kind ∧
      ∃ merged, staleSet.mergeFrom children.statefulSet .full = .ok merged ∧
        Cluster.patched staleSet (children.statefulSet.patch .full) = .ok merged ∧
        merged.body.path? ["spec", "template", "spec", "initContainers"] = none := by
  obtain ⟨children, h⟩ := ofSession_plain
  have hmem : children.statefulSet ∈ children.toList := mem_toList.2 (.inl rfl)
  have hkind := statefulSet_kind h
  have hread : staleSet.IsRead := ⟨staleSet.body, by decide +kernel⟩
  have hwhole : staleSet.InWholeSeconds := by decide +kernel
  have hnone : (Manifest.statefulSet plainSession (.default ⟨none, none⟩)).toOption.all (fun d =>
      d.body.path? ["spec", "template", "spec", "initContainers"] = none) = true := by decide +kernel
  rw [(ofSession_eq_ok h).1] at hnone
  obtain ⟨merged, hmerged, hpatched, hmanaged⟩ :=
    patched_eq_merged h hmem (.inl hkind) hread hwhole hkind.symm .full
  refine ⟨children, h, hmem, hread, hwhole, hkind.symm, merged, hmerged, hpatched, ?_⟩
  rw [hmanaged _ (by simp [Child.managed, hkind])]
  exact of_decide_eq_true hnone

/-! ### Fields that are not managed -/

/-- Whatever a child has become by the time that it is patched, its metadata, its status and all fields that are not
managed stay as they are; where nothing is managed nothing changes. -/
theorem patched_sameBut (h : ChildSet.ofSession s config = .ok children) (hd : d ∈ children.toList) (hl : l.IsRead)
    (hwhole : l.InWholeSeconds) (hkind : l.kind = d.kind) (scope : MergeScope) :
    ∃ patched, Cluster.patched l (d.patch scope) = .ok patched ∧ patched.kind = l.kind ∧
      (∀ key, key ≠ "spec" → patched.body.get? key = l.body.get? key) ∧
      l.kind.schema.SameBut (d.managed scope) l.body patched.body := by
  have hsame := Child.sameBut_mergeBody (d.keeping l) scope l.body
  rw [Child.managed_keeping, Child.kind_keeping] at hsame
  refine ⟨_, patched_eq h hd hl hwhole hkind scope, rfl, fun key hkey => ?_, ?_⟩
  · refine (hsame.get?_eq fun p hp hmeet => ?_).symm
    obtain ⟨rest, rfl⟩ := Child.exists_of_mem_managed hp
    exact hkey (Schema.meet_cons.1 hmeet).1.symm
  · rw [hkind]
    exact hsame

/-- A live service with an address that leads to the pods with some labels. -/
def serviceTo (labels : Dict String) : Child :=
  ⟨.service, .object [("apiVersion", .str "v1"), ("kind", .str "Service"),
    ("metadata", .object [("name", .str "plain"), ("resourceVersion", .str "7")]),
    ("spec", .object [("clusterIP", .str "10.0.0.7"), ("selector", .ofDict labels)])]⟩

theorem service_kind (h : ChildSet.ofSession s config = .ok children) : children.service.kind = .service :=
  (Child.decode_eq_ok.1 (ofSession_eq_ok h).2.1).1

/-- The service keeps its address. -/
theorem patched_sameBut_service :
    ∃ children, ChildSet.ofSession plainSession (.default ⟨none, none⟩) = .ok children ∧
      children.service ∈ children.toList ∧ (serviceTo []).IsRead ∧ (serviceTo []).InWholeSeconds ∧
      (serviceTo []).kind = children.service.kind ∧
      ∃ patched, Cluster.patched (serviceTo []) (children.service.patch .full) = .ok patched ∧
        Kubernetes.service.look? ["spec", "clusterIP"] patched.body = some (.str "10.0.0.7") := by
  obtain ⟨children, h⟩ := ofSession_plain
  have hmem : children.service ∈ children.toList := mem_toList.2 (.inr (.inl rfl))
  have hkind := service_kind h
  have hread : (serviceTo []).IsRead := ⟨(serviceTo []).body, by decide +kernel⟩
  have hwhole : (serviceTo []).InWholeSeconds := by decide +kernel
  obtain ⟨patched, hpatched, -, -, hsame⟩ := patched_sameBut h hmem hread hwhole hkind.symm .full
  refine ⟨children, h, hmem, hread, hwhole, hkind.symm, patched, hpatched, ?_⟩
  rw [show Kubernetes.service = (serviceTo []).kind.schema from rfl, ← hsame]
  · decide +kernel
  · simp [Child.managed, hkind, Schema.Meet]

/-! ### Services and claims -/

/-- The patch of a service or a claim adds the desired keys to those of the live dictionary, which stand in order as in
every dictionary that is read from a text.  In all else it does what merging predicts, so that it does what merging
predicts exactly if the live child holds no other keys. -/
theorem patched_dict (h : ChildSet.ofSession s config = .ok children) (hd : d ∈ children.toList)
    (hpath : d.kind.dictPath? = some path) (hl : l.IsRead) (hwhole : l.InWholeSeconds) (hkind : l.kind = d.kind)
    (hsorted : l.dict.Sorted) :
    ∃ merged patched, l.mergeFrom d .full = .ok merged ∧ Cluster.patched l (d.patch .full) = .ok patched ∧
      merged.body.path? path = d.body.path? path ∧
      (∀ key, patched.dict.get? key = (d.dict.get? key).or (l.dict.get? key)) ∧
      l.kind.schema.SameBut [path] merged.body patched.body ∧
      (patched = merged ↔ ∀ key, l.dict.get? key ≠ none → d.dict.get? key ≠ none) := by
  obtain ⟨spec, hspec, hsend⟩ := sendable h hd
  obtain ⟨texts, htexts, hdesired, hdict⟩ := Child.exists_texts hspec hsend hpath
  have hkeeping : (d.keeping l).kind.dictPath? = some path := by rw [Child.kind_keeping, hpath]
  -- both hold the dictionary of what is merged into the live child
  have hmerged := path?_merged h hd (Child.dictPath?_mem_managed hpath) l.body
  have hpatched : (Child.mergeBody d.kind .full (d.keeping l).body l.body).path? path =
      (d.keeping l).body.path? path := by
    obtain ⟨holder, hholder⟩ := Json.exists_path?_dropLast (Child.path?_keeping hpath htexts l)
    rw [← Child.kind_keeping d l]
    exact Child.path?_mergeBody (Child.dictPath?_mem_managed hkeeping) hholder l.body
  have hget : ∀ key, (Child.dict ⟨l.kind, Child.mergeBody d.kind .full (d.keeping l).body l.body⟩).get? key =
      (d.dict.get? key).or (l.dict.get? key) := by
    intro key
    rw [Child.dict_congr hkeeping (hkind.trans (Child.kind_keeping d l).symm) hpatched]
    exact Child.get?_dict_keeping hpath htexts hdict hdesired hkind key
  refine ⟨⟨l.kind, Child.mergeBody d.kind .full d.body l.body⟩, _, ?_, patched_eq h hd hl hwhole hkind .full, hmerged,
    hget, ?_, fun heq key hlive hnone => ?_, fun hkeys => ?_⟩
  · rw [Child.mergeFrom, if_pos hkind]
  · rw [hkind]
    exact Child.sameBut_keeping hpath htexts l l.body
  · have hkey := hget key
    rw [heq, Child.dict_congr hpath hkind hmerged, hnone, Option.none_or] at hkey
    exact hlive hkey.symm
  · rw [Child.keeping_eq_self (isDesired h hd).read hpath htexts hdict hdesired hkind hsorted hkeys]

/-- A service that holds no other key than a desired one is brought in line. -/
theorem patched_dict_service :
    let live := serviceTo [("app.kubernetes.io/instance", "other")]
    ∃ children, ChildSet.ofSession plainSession (.default ⟨none, none⟩) = .ok children ∧
      children.service ∈ children.toList ∧ children.service.kind.dictPath? = some ["spec", "selector"] ∧ live.IsRead ∧
      live.InWholeSeconds ∧ live.kind = children.service.kind ∧ live.dict.Sorted ∧
      ∃ merged, live.mergeFrom children.service .full = .ok merged ∧
        Cluster.patched live (children.service.patch .full) = .ok merged ∧
        merged.body.path? ["spec", "selector"] = children.service.body.path? ["spec", "selector"] := by
  intro live
  obtain ⟨children, h⟩ := ofSession_plain
  have hmem : children.service ∈ children.toList := mem_toList.2 (.inr (.inl rfl))
  have hkind := service_kind h
  have hpath : children.service.kind.dictPath? = some ["spec", "selector"] := by rw [hkind]; rfl
  have hread : live.IsRead := ⟨live.body, by decide +kernel⟩
  have hwhole : live.InWholeSeconds := by decide +kernel
  have hlive : live.dict = [("app.kubernetes.io/instance", .str "other")] := by decide +kernel
  have hsorted : live.dict.Sorted := by rw [hlive]; exact List.pairwise_singleton _ _
  have hdesired : (Manifest.service plainSession).toOption.all (fun d =>
      (d.dict.get? "app.kubernetes.io/instance").isSome) = true := by decide +kernel
  rw [(ofSession_eq_ok h).2.1] at hdesired
  obtain ⟨merged, patched, hmerged, hpatched, hselector, -, -, hiff⟩ :=
    patched_dict h hmem hpath hread hwhole hkind.symm hsorted
  have hsame : patched = merged := by
    refine hiff.2 fun key hkey => ?_
    rw [hlive, Dict.get?] at hkey
    split at hkey
    · rename_i heq
      exact heq ▸ Option.isSome_iff_ne_none.1 hdesired
    · exact absurd rfl hkey
  exact ⟨children, h, hmem, hpath, hread, hwhole, hkind.symm, hsorted, merged, hmerged, hsame ▸ hpatched, hselector⟩

/-- A service with a key in its selector that is not desired: merging drops it, and no patch does. -/
theorem legacy_key_survives :
    let live := serviceTo [("app", "legacy")]
    ∃ children merged patched, ChildSet.ofSession plainSession (.default ⟨none, none⟩) = .ok children ∧
      children.service ∈ children.toList ∧ live.IsRead ∧ live.InWholeSeconds ∧ live.kind = children.service.kind ∧
      live.mergeFrom children.service .full = .ok merged ∧
      Cluster.patched live (children.service.patch .full) = .ok patched ∧
      merged.body.path? ["spec", "selector", "app"] = none ∧
      patched.body.path? ["spec", "selector", "app"] = some (.str "legacy") := by
  intro live
  obtain ⟨children, h⟩ := ofSession_plain
  have hkind := service_kind h
  have hread : live.IsRead := ⟨live.body, by decide +kernel⟩
  have hwhole : live.InWholeSeconds := by decide +kernel
  obtain ⟨merged, patched, hmerged, hpatched, hgone, hkept⟩ : ∃ merged patched,
      live.mergeFrom children.service .full = .ok merged ∧
      Cluster.patched live (children.service.patch .full) = .ok patched ∧
      merged.body.path? ["spec", "selector", "app"] = none ∧
      patched.body.path? ["spec", "selector", "app"] = some (.str "legacy") := by
    have hcompute : (Manifest.service plainSession).toOption.all (fun d =>
        ((live.mergeFrom d .full).toOption.any fun merged =>
          merged.body.path? ["spec", "selector", "app"] = none) &&
        ((Cluster.patched live (d.patch .full)).toOption.any fun patched =>
          patched.body.path? ["spec", "selector", "app"] = some (.str "legacy"))) = true := by decide +kernel
    rw [(ofSession_eq_ok h).2.1] at hcompute
    obtain ⟨hmerge, hpatch⟩ := Bool.and_eq_true_iff.1 hcompute
    obtain ⟨merged, hmerged, hgone⟩ := Fallible.exists_of_any hmerge
    obtain ⟨patched, hpatched, hkept⟩ := Fallible.exists_of_any hpatch
    exact ⟨merged, patched, hmerged, hpatched, of_decide_eq_true hgone, of_decide_eq_true hkept⟩
  exact ⟨children, merged, patched, h, mem_toList.2 (.inr (.inl rfl)), hread, hwhole, hkind.symm, hmerged, hpatched,
    hgone, hkept⟩

end ChildSet

end SessionOperator
