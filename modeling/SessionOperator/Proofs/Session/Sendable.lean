import SessionOperator.Proofs.Child.Patched
import SessionOperator.Proofs.Kubernetes.Untimed
import SessionOperator.Proofs.Session.Manifest

/-!
# What patches ask for

The lists in the spec of a desired child are not empty and its dictionaries hold texts, so that a patch asks for all of
it.

* `ChildSet.sendable`: every desired child of a session has a spec that a patch can ask for.
-/

namespace SessionOperator

open Schema (Reads)

namespace Child

variable {kind : ChildKind} {d : Child} {document w x : Json} {item s : Schema} {v o : Option Json} {key : String}

/-- A list that is read of one that is not empty is not empty either. -/
private theorem isListed_of_reads (h : Reads false (.list item) v o) (hne : v ≠ some (.arr []))
    (hwhole : ∀ list, v = some list → (Schema.list item).ReadsWhole list) : IsListed item o := by
  intro u hu
  subst hu
  unfold Reads at h
  split at h
  · rename_i list hlist
    obtain ⟨x, hx, heq⟩ := h
    cases heq
    have hv := (Schema.stated?_eq_some hlist).1
    refine ⟨hwhole list hv u hx, ?_⟩
    rintro rfl
    obtain ⟨items, xs, rfl, hxs, hall⟩ := Schema.decode_list_iff.1 hx
    cases hxs
    cases hall
    exact hne hv
  · cases h.2

private theorem isListed_timeless (hf : s.HasField key false (.list item)) (hs : s.isOrdered = true)
    (htimeless : (Schema.list item).isTimeless = true) (hx : s.decode w = .ok x)
    (hne : w.get? key ≠ some (.arr [])) : IsListed item (x.get? key) :=
  isListed_of_reads (hf.reads hs hx) hne fun list _ =>
    Schema.readsWhole_timeless _ (hf.isOrdered hs) htimeless list

private theorem isTextDict_of_reads {texts : Dict String} (hf : s.HasField key false Schema.textDict)
    (hs : s.isOrdered = true) (hx : s.decode w = .ok x) (hw : w.get? key = some (.ofDict texts))
    (hsorted : texts.Sorted) : IsTextDict (x.get? key) (texts.mapValues .str) := by
  obtain ⟨y, hy, hget⟩ := hf.decode_of_get? hs hx hw (by simp [Json.ofDict])
  rw [hget, (Schema.decode_dict_plain rfl hy).1]
  exact ⟨rfl, hsorted.mapValues _, Json.isTexts_mapValues texts⟩

/-! ### Volumes -/

/-- There are times in the claim of an ephemeral volume only. -/
private theorem readsWhole_volume (name : String) {source : String} (content : Json) (hsource : source ≠ "ephemeral") :
    Kubernetes.volume.ReadsWhole (Manifest.named name [(source, content)]) := by
  refine Schema.ReadsWhole.record ⟨_, _, rfl, .head _⟩ Kubernetes.volume_isOrdered fun key hkey required t _ value hvalue => ?_
  rw [Kubernetes.timedFields_volume, List.mem_singleton] at hkey
  subst hkey
  have hnone : (Manifest.named name [(source, content)]).get? "ephemeral" = none :=
    Dict.get?_ofList_eq_none_iff.2
      (List.forall_mem_cons.2 ⟨by simp, List.forall_mem_singleton.2 hsource⟩)
  cases hnone.symm.trans hvalue

private theorem readsWhole_volumes (s : Session) :
    (Schema.list Kubernetes.volume).ReadsWhole (.arr (Manifest.volumes s)) := by
  refine Schema.ReadsWhole.list fun volume hvolume => ?_
  simp only [Manifest.volumes, Manifest.sessionVolumes, List.mem_append, List.mem_singleton, Option.mem_toList,
    Option.map_eq_some_iff, List.mem_map] at hvolume
  rcases hvolume with (((rfl | ⟨size, -, rfl⟩) | ⟨source, -, rfl⟩) | ⟨a, -, rfl⟩) | ⟨j, -, rfl⟩
  · exact readsWhole_volume _ _ (by simp)
  · exact readsWhole_volume _ _ (by simp)
  · exact readsWhole_volume _ _ (by simp)
  · exact readsWhole_volume _ _ (by simp)
  · exact Schema.readsWhole_encode _ Kubernetes.volume_isOrdered j

/-! ### The children -/

private theorem sendable_pod {s : Session} {config : Config} {pod : Json}
    (hpod : Kubernetes.podSpec.decode (Manifest.pod s config) = .ok pod) :
    IsListed Kubernetes.container (pod.get? "initContainers") ∧ IsListed Kubernetes.volume (pod.get? "volumes") := by
  have hps := Kubernetes.podSpec_isOrdered
  have hinit : (Manifest.pod s config).get? "initContainers" =
      Manifest.when (!s.spec.initContainers.isEmpty) (encodeAll Kubernetes.container s.spec.initContainers) :=
    Json.get?_objectOfSome_of_mem (by simp) (.tail _ (.tail _ (.tail _ (.tail _ (.head _)))))
  have hvolumes : (Manifest.pod s config).get? "volumes" = some (.arr (Manifest.volumes s)) :=
    Json.get?_objectOfSome_of_mem (by simp) (.tail _ (.tail _ (.tail _ (.head _))))
  refine ⟨isListed_timeless Kubernetes.hasField_initContainers hps (by decide +kernel) hpod ?_,
    isListed_of_reads (Kubernetes.hasField_volumes.reads hps hpod) ?_ fun list hlist => ?_⟩
  · rw [hinit]
    cases hcontainers : s.spec.initContainers with
    | nil => simp [Manifest.when]
    | cons c rest => simp [Manifest.when, encodeAll]
  · simp [hvolumes, Manifest.volumes, Manifest.sessionVolumes]
  · cases hvolumes.symm.trans hlist
    exact readsWhole_volumes s

private theorem sendable_statefulSet {s : Session} {config : Config} (h : Manifest.statefulSet s config = .ok d) :
    ∃ spec, d.body.get? "spec" = some spec ∧ Sendable .statefulSet spec := by
  have hs := ChildKind.specSchema_isOrdered .statefulSet
  obtain ⟨spec, hspec, hdecode⟩ := spec_of_decode h (ChildSet.get?_spec ..) (by simp [Json.object])
  obtain ⟨template, htemplate, hget⟩ := Kubernetes.hasField_template.decode_of_get? hs hdecode
    (Json.get?_object_of_mem (by simp) (.tail _ (.tail _ (.tail _ (.head _))))) (by simp [Json.object])
  obtain ⟨pod, hpod, hgetpod⟩ := Kubernetes.hasField_podSpec.decode_of_get? Kubernetes.podTemplateSpec_isOrdered
    htemplate (Json.get?_object_of_mem (by simp) (.tail _ (.head _)))
    (by simp [Manifest.pod, Json.objectOfSome, Json.object])
  refine ⟨spec, hspec, pod, ?_, sendable_pod hpod⟩
  rw [Json.path?_cons_of_get? hget, Json.path?_singleton, hgetpod]

private theorem sendable_service {s : Session} (h : Manifest.service s = .ok d) :
    ∃ spec, d.body.get? "spec" = some spec ∧ Sendable .service spec := by
  have hs := ChildKind.specSchema_isOrdered .service
  obtain ⟨spec, hspec, hdecode⟩ := spec_of_decode h (ChildSet.get?_spec ..) (by simp [Json.object])
  refine ⟨spec, hspec, isListed_timeless Kubernetes.hasField_ports hs (by decide +kernel) hdecode ?_, _,
    isTextDict_of_reads Kubernetes.hasField_selector hs hdecode (ChildSet.get?_selector ..) (Dict.sorted_ofList _)⟩
  rw [Json.get?_object_of_mem (by simp) (.head _)]
  simp

private theorem sendable_ingress {s : Session} {declared : SessionIngress}
    (h : Child.decode .ingress (Manifest.ingressDocument s declared) = .ok d) :
    ∃ spec, d.body.get? "spec" = some spec ∧ Sendable .ingress spec := by
  have hs := ChildKind.specSchema_isOrdered .ingress
  obtain ⟨spec, hspec, hdecode⟩ := spec_of_decode h (ChildSet.get?_spec ..) (by simp [Json.objectOfSome, Json.object])
  refine ⟨spec, hspec, ?_, isListed_timeless Kubernetes.hasField_rules hs (by decide +kernel) hdecode ?_,
    isListed_timeless Kubernetes.hasField_tls hs (by decide +kernel) hdecode ?_⟩
  · have hread := Kubernetes.hasField_defaultBackend.reads hs hdecode
    rw [Json.get?_objectOfSome_of_not_mem (by simp)] at hread
    exact hread.2
  · rw [Json.get?_objectOfSome_of_mem (by simp) (.head _)]
    simp
  · rw [Json.get?_objectOfSome_of_mem (by simp) (.tail _ (.tail _ (.head _)))]
    cases s.tlsSecret? <;> simp

private theorem sendable_claim (hkind : kind = .claim ∨ kind = .dataSourceClaim)
    (h : Child.decode kind document = .ok d) {accessMode size : String} {className : Option String}
    (hw : document.get? "spec" = some (Manifest.claimSpec accessMode size className)) :
    ∃ spec, d.body.get? "spec" = some spec ∧ Sendable kind spec := by
  have hs := ChildKind.specSchema_isOrdered .claim
  obtain ⟨spec, hspec, hdecode⟩ := spec_of_decode h hw (by simp [Manifest.claimSpec, Json.objectOfSome, Json.object])
  have hschema : kind.specSchema = Kubernetes.persistentVolumeClaimSpec := by rcases hkind with rfl | rfl <;> rfl
  rw [hschema] at hdecode
  obtain ⟨resources, hresources, hget⟩ := Kubernetes.hasField_resources.decode_of_get? hs hdecode
    (ChildSet.get?_resources ..) (by simp [Json.object])
  have htexts : IsTextDict (resources.get? "requests") (Dict.mapValues .str [("storage", size)]) :=
    isTextDict_of_reads Kubernetes.hasField_requests Kubernetes.volumeResourceRequirements_isOrdered hresources rfl
      (by simp [Dict.Sorted])
  refine ⟨spec, hspec, ?_⟩
  rcases hkind with rfl | rfl <;> exact ⟨resources, hget, _, htexts⟩

end Child

namespace ChildSet

variable {s : Session} {config : Config} {children : ChildSet} {d l : Child}

/-- Every desired child has a spec that a patch can ask for. -/
theorem sendable (h : ChildSet.ofSession s config = .ok children) (hd : d ∈ children.toList) :
    ∃ spec, d.body.get? "spec" = some spec ∧ Child.Sendable d.kind spec := by
  obtain ⟨hset, hservice, hingress, hclaim, hclaims⟩ := ofSession_eq_ok h
  rcases mem_toList.1 hd with rfl | rfl | hd | rfl | hd
  · rw [(Child.decode_eq_ok.1 hset).1]
    exact Child.sendable_statefulSet hset
  · rw [(Child.decode_eq_ok.1 hservice).1]
    exact Child.sendable_service hservice
  · rw [hd] at hingress
    obtain ⟨declared, hdecode⟩ := ingress_decode hingress
    rw [(Child.decode_eq_ok.1 hdecode).1]
    exact Child.sendable_ingress hdecode
  · rw [(Child.decode_eq_ok.1 hclaim).1]
    exact Child.sendable_claim (.inl rfl) hclaim (get?_spec ..)
  · obtain ⟨source, hdecode⟩ := dataSourceClaim_decode hclaims hd
    rw [(Child.decode_eq_ok.1 hdecode).1]
    exact Child.sendable_claim (.inr rfl) hdecode (get?_spec ..)

end ChildSet

end SessionOperator
