import SessionOperator.Proofs.Child.Kind
import SessionOperator.Proofs.Kubernetes.Frame

/-!
# Managed fields

Bringing a live child in line with a desired one changes its managed fields and no others, and afterwards they hold what
is desired of them.

* `Child.managed`: the places of the managed fields; `Child.Manages` has one case for each kind of them;
* `Child.sameBut_mergeBody`: all other places of a child are left as they are;
* `Child.path?_mergeBody`: the managed fields are the desired ones.
-/

namespace SessionOperator

open Schema (SameBut)

namespace Child

/-- The places that bringing a child in line with this desired one may change. -/
def managed (d : Child) (scope : MergeScope) : List (List String) :=
  match d.kind, scope with
  | .statefulSet, .replicasOnly => [["spec", "replicas"]]
  | .statefulSet, .full =>
    [["spec", "replicas"], ["spec", "template", "spec", "containers"], ["spec", "template", "spec", "initContainers"],
      ["spec", "template", "spec", "volumes"]]
  | _, .replicasOnly => []
  | .service, .full => [["spec", "ports"], ["spec", "selector"]]
  | .ingress, .full => [["spec"]]
  | .claim, .full | .dataSourceClaim, .full =>
    ["spec", "resources", "requests"] ::
      if (d.body.path? ["spec", "storageClassName"]).isSome then [["spec", "storageClassName"]] else []

/-- The managed places, by what merging does with them. -/
inductive Manages (desired : Json) : ChildKind → MergeScope → List String → Prop
  | replicas {scope : MergeScope} : Manages desired .statefulSet scope ["spec", "replicas"]
  | pod {key : String} (h : key ∈ ["containers", "initContainers", "volumes"]) :
      Manages desired .statefulSet .full ["spec", "template", "spec", key]
  | service {key : String} (h : key ∈ ["ports", "selector"]) : Manages desired .service .full ["spec", key]
  | ingress : Manages desired .ingress .full ["spec"]
  | requests {kind : ChildKind} (h : kind = .claim ∨ kind = .dataSourceClaim) :
      Manages desired kind .full ["spec", "resources", "requests"]
  | storageClass {kind : ChildKind} (h : kind = .claim ∨ kind = .dataSourceClaim)
      (hclass : (desired.path? ["spec", "storageClassName"]).isSome = true) :
      Manages desired kind .full ["spec", "storageClassName"]

theorem manages_of_mem {d : Child} {scope : MergeScope} {p : List String} (hp : p ∈ d.managed scope) :
    Manages d.body d.kind scope p := by
  obtain ⟨kind, desired⟩ := d
  cases scope with
  | replicasOnly =>
    cases kind with
    | statefulSet =>
      obtain rfl := List.mem_singleton.1 hp
      exact .replicas
    | service | ingress | claim | dataSourceClaim => cases hp
  | full =>
    cases kind with
    | statefulSet =>
      simp only [managed, List.mem_cons, List.not_mem_nil, or_false] at hp
      rcases hp with rfl | rfl | rfl | rfl
      · exact .replicas
      all_goals exact .pod (by simp)
    | service =>
      simp only [managed, List.mem_cons, List.not_mem_nil, or_false] at hp
      rcases hp with rfl | rfl
      all_goals exact .service (by simp)
    | ingress =>
      obtain rfl := List.mem_singleton.1 hp
      exact .ingress
    | claim | dataSourceClaim =>
      rcases List.mem_cons.1 hp with rfl | hp
      · exact .requests (by simp)
      · split at hp
        · rename_i hclass
          obtain rfl := List.mem_singleton.1 hp
          exact .storageClass (by simp) hclass
        · cases hp

/-- Nothing is managed outside of the spec. -/
theorem exists_of_mem_managed {d : Child} {scope : MergeScope} {p : List String} (hp : p ∈ d.managed scope) :
    ∃ rest, p = "spec" :: rest := by
  obtain ⟨kind, desired⟩ := d
  cases manages_of_mem hp <;> exact ⟨_, rfl⟩

variable {desired live spec : Json} {key : String} {path : List String}

/-! ### All other fields -/

private theorem sameBut_mergeSpec (kind : ChildKind) {merge : Json → Json → Json} {paths : List (List String)}
    (hpaths : paths ≠ [])
    (h : ∀ spec, desired.get? "spec" = some spec → ∀ x, kind.specSchema.SameBut paths x (merge spec x)) :
    kind.schema.SameBut (paths.map ("spec" :: ·)) live (mergeSpec merge kind.specSchema.zero desired live) := by
  unfold mergeSpec
  cases hspec : desired.get? "spec" with
  | none => exact SameBut.refl _ _ _
  | some spec => exact SameBut.set_nested kind.hasField_spec kind.schema_isOrdered hpaths (h spec hspec _)

private theorem sameBut_mergeStatefulSetSpec (spec x : Json) :
    Kubernetes.statefulSetSpec.SameBut
      [["replicas"], ["template", "spec", "containers"], ["template", "spec", "initContainers"],
        ["template", "spec", "volumes"]] x (mergeStatefulSetSpec .full spec x) := by
  have hs := ChildKind.specSchema_isOrdered .statefulSet
  have hts := Kubernetes.podTemplateSpec_isOrdered
  have hscaled : Kubernetes.statefulSetSpec.SameBut [["replicas"]] x (x.copyKey spec "replicas") :=
    SameBut.copyKey "replicas" spec x
  unfold mergeStatefulSetSpec
  split
  · rename_i pod _ _
    have hpod : ∀ live : Json, Kubernetes.podSpec.SameBut [["containers"], ["initContainers"], ["volumes"]] live _ :=
      SameBut.copyKeys ["containers", "initContainers", "volumes"] (List.cons_ne_nil _ _) pod
    have htemplate : ∀ template : Json, Kubernetes.podTemplateSpec.SameBut
        [["spec", "containers"], ["spec", "initContainers"], ["spec", "volumes"]] template _ :=
      fun template => SameBut.set_nested Kubernetes.hasField_podSpec hts (List.cons_ne_nil _ _) (hpod _)
    refine (hscaled.mono (by simp)).trans (SameBut.mono ?_ (List.subset_cons_self ..))
    exact SameBut.set_nested Kubernetes.hasField_template hs (List.cons_ne_nil _ _) (htemplate _)
  · exact hscaled.mono (by simp)

private theorem sameBut_mergeClaimSpec (spec x : Json) :
    Kubernetes.persistentVolumeClaimSpec.SameBut
      (["resources", "requests"] :: if (spec.get? "storageClassName").isSome then [["storageClassName"]] else []) x
      (mergeClaimSpec spec x) := by
  have hresources : Kubernetes.persistentVolumeClaimSpec.SameBut [["resources", "requests"]] x
      (x.set "resources" (((x.get? "resources").getD Kubernetes.volumeResourceRequirements.zero).copyKey
        ((spec.get? "resources").getD .empty) "requests")) :=
    SameBut.set_nested Kubernetes.hasField_resources (ChildKind.specSchema_isOrdered .claim) (List.cons_ne_nil _ _)
      (SameBut.copyKey "requests" _ _)
  unfold mergeClaimSpec
  split
  · exact (hresources.mono (by simp)).trans ((SameBut.copyKey "storageClassName" spec _).mono (by simp))
  · exact hresources.mono (by simp)

private theorem sameBut_mergeClaim :
    Kubernetes.persistentVolumeClaim.SameBut
      (["spec", "resources", "requests"] ::
        if (desired.path? ["spec", "storageClassName"]).isSome then [["spec", "storageClassName"]] else []) live
      (mergeSpec mergeClaimSpec Kubernetes.persistentVolumeClaimSpec.zero desired live) := by
  have hmerge : Kubernetes.persistentVolumeClaim.SameBut
      ((["resources", "requests"] ::
        if (desired.path? ["spec", "storageClassName"]).isSome then [["storageClassName"]] else []).map ("spec" :: ·))
      live (mergeSpec mergeClaimSpec Kubernetes.persistentVolumeClaimSpec.zero desired live) := by
    refine sameBut_mergeSpec .claim (List.cons_ne_nil _ _) fun spec hspec x => ?_
    rw [Json.path?_cons_of_get? hspec, Json.path?_singleton]
    exact sameBut_mergeClaimSpec spec x
  exact hmerge.mono (by split <;> simp)

/-- Whatever is desired of a child, no other fields than the managed ones change. -/
theorem sameBut_mergeBody (d : Child) (scope : MergeScope) (live : Json) :
    d.kind.schema.SameBut (d.managed scope) live (mergeBody d.kind scope d.body live) := by
  obtain ⟨kind, desired⟩ := d
  cases scope with
  | replicasOnly =>
    cases kind with
    | statefulSet =>
      exact sameBut_mergeSpec .statefulSet (List.cons_ne_nil _ _) fun spec _ x => SameBut.copyKey "replicas" spec x
    | service | ingress | claim | dataSourceClaim => exact SameBut.refl _ _ live
  | full =>
    cases kind with
    | statefulSet =>
      exact sameBut_mergeSpec .statefulSet (List.cons_ne_nil _ _) fun spec _ x => sameBut_mergeStatefulSetSpec spec x
    | service =>
      exact sameBut_mergeSpec .service (List.cons_ne_nil _ _) fun spec _ x =>
        SameBut.copyKeys ["ports", "selector"] (List.cons_ne_nil _ _) spec x
    | ingress => exact SameBut.copyKey "spec" desired live
    | claim | dataSourceClaim => exact sameBut_mergeClaim

/-! ### The managed fields -/

theorem get?_replicas_mergeStatefulSetSpec (scope : MergeScope) (spec x : Json) :
    (mergeStatefulSetSpec scope spec x).get? "replicas" = spec.get? "replicas" := by
  have hscaled : (x.copyKey spec "replicas").get? "replicas" = spec.get? "replicas" := by
    rw [Json.get?_copyKey, if_pos rfl]
  unfold mergeStatefulSetSpec
  split
  · simp only
    rw [Json.get?_set, if_neg (by decide), hscaled]
  · exact hscaled

private theorem path?_mergeSpec {merge : Json → Json → Json} {zero : Json} (hspec : desired.get? "spec" = some spec)
    (h : ∀ x, (merge spec x).path? path = spec.path? path) (live : Json) :
    (mergeSpec merge zero desired live).path? ("spec" :: path) = desired.path? ("spec" :: path) := by
  rw [mergeSpec, hspec]
  simp only [Json.path?_set, Json.path?_cons_of_get? hspec, h]

private theorem path?_mergeReplicas {scope : MergeScope} (hspec : desired.path? ["spec"] = some spec) (live : Json) :
    (mergeSpec (mergeStatefulSetSpec scope) Kubernetes.statefulSetSpec.zero desired live).path? ["spec", "replicas"] =
      desired.path? ["spec", "replicas"] := by
  rw [Json.path?_singleton] at hspec
  refine path?_mergeSpec hspec (fun x => ?_) live
  rw [Json.path?_singleton, Json.path?_singleton, get?_replicas_mergeStatefulSetSpec]

private theorem path?_mergePod {pod : Json} (hpod : desired.path? ["spec", "template", "spec"] = some pod)
    (hkey : key ∈ ["containers", "initContainers", "volumes"]) (live : Json) :
    (mergeSpec (mergeStatefulSetSpec .full) Kubernetes.statefulSetSpec.zero desired live).path?
      ["spec", "template", "spec", key] = desired.path? ["spec", "template", "spec", key] := by
  obtain ⟨spec, hspec, hpod⟩ := Option.bind_eq_some_iff.1 hpod
  refine path?_mergeSpec hspec (fun x => ?_) live
  have hdesired : spec.path? ["template", "spec", key] = pod.get? key := by
    rw [show ["template", "spec", key] = ["template", "spec"] ++ [key] from rfl, Json.path?_append, hpod,
      Option.bind_some, Json.path?_singleton]
  rw [hdesired]
  unfold mergeStatefulSetSpec
  rw [hpod]
  simp only [Json.path?_set]
  rw [Json.path?_singleton, Json.get?_copyKeys, if_pos hkey]

private theorem path?_mergeService (hspec : desired.path? ["spec"] = some spec) (hkey : key ∈ ["ports", "selector"])
    (live : Json) : (mergeSpec mergeServiceSpec Kubernetes.serviceSpec.zero desired live).path? ["spec", key] =
      desired.path? ["spec", key] := by
  rw [Json.path?_singleton] at hspec
  refine path?_mergeSpec hspec (fun x => ?_) live
  rw [Json.path?_singleton, Json.path?_singleton, mergeServiceSpec, Json.get?_copyKeys, if_pos hkey]

/-- What a merged claim spec holds. -/
theorem get?_mergeClaimSpec (spec x : Json) (k : String) :
    (mergeClaimSpec spec x).get? k =
      if k = "resources" then
        some (((x.get? "resources").getD Kubernetes.volumeResourceRequirements.zero).copyKey
          ((spec.get? "resources").getD .empty) "requests")
      else if k = "storageClassName" ∧ (spec.get? "storageClassName").isSome = true then spec.get? k
      else x.get? k := by
  have hset : ∀ r : Json, (x.set "resources" r).get? k = if k = "resources" then some r else x.get? k := by
    intro r
    rw [Json.get?_set]
    simp only [eq_comm]
  unfold mergeClaimSpec
  simp only
  split
  · rename_i hclass
    rw [Json.get?_copyKey, hset]
    by_cases hk : k = "resources"
    · subst hk
      rfl
    · by_cases hk' : k = "storageClassName"
      · subst hk'
        simp [hclass]
      · rw [if_neg (Ne.symm hk'), if_neg hk, if_neg hk, if_neg fun h => hk' h.1]
  · rename_i hclass
    rw [hset, if_neg fun h : k = "storageClassName" ∧ _ => hclass h.2]

private theorem path?_mergeRequests {resources : Json}
    (hresources : desired.path? ["spec", "resources"] = some resources) (live : Json) :
    (mergeSpec mergeClaimSpec Kubernetes.persistentVolumeClaimSpec.zero desired live).path?
      ["spec", "resources", "requests"] = desired.path? ["spec", "resources", "requests"] := by
  obtain ⟨spec, hspec, hresources⟩ := Option.bind_eq_some_iff.1 hresources
  rw [Json.path?_singleton] at hresources
  refine path?_mergeSpec hspec (fun x => ?_) live
  rw [Json.path?_cons_of_get? hresources, Json.path?_cons_of_get? (by rw [get?_mergeClaimSpec, if_pos rfl]),
    Json.path?_singleton, Json.path?_singleton, Json.get?_copyKey, if_pos rfl, hresources, Option.getD_some]

private theorem path?_mergeClass (hclass : (desired.path? ["spec", "storageClassName"]).isSome = true) (live : Json) :
    (mergeSpec mergeClaimSpec Kubernetes.persistentVolumeClaimSpec.zero desired live).path?
      ["spec", "storageClassName"] = desired.path? ["spec", "storageClassName"] := by
  obtain ⟨name, hname⟩ := Option.isSome_iff_exists.1 hclass
  obtain ⟨spec, hspec, hname⟩ := Option.bind_eq_some_iff.1 hname
  rw [Json.path?_singleton] at hname
  refine path?_mergeSpec hspec (fun x => ?_) live
  rw [Json.path?_singleton, Json.path?_singleton, get?_mergeClaimSpec, if_neg (by decide),
    if_pos ⟨rfl, Option.isSome_iff_exists.2 ⟨name, hname⟩⟩]

/-- A managed field is what is desired, as long as the desired object holds what the field is in. -/
theorem path?_mergeBody {d : Child} {scope : MergeScope} {holder : Json} (hpath : path ∈ d.managed scope)
    (hholder : d.body.path? path.dropLast = some holder) (live : Json) :
    (mergeBody d.kind scope d.body live).path? path = d.body.path? path := by
  have hmanages := manages_of_mem hpath
  obtain ⟨kind, desired⟩ := d
  cases hmanages with
  | replicas => exact path?_mergeReplicas hholder live
  | pod hkey => exact path?_mergePod hholder hkey live
  | service hkey => exact path?_mergeService hholder hkey live
  | ingress => rw [Json.path?_singleton, Json.path?_singleton, mergeBody, Json.get?_copyKey, if_pos rfl]
  | requests h => rcases h with rfl | rfl <;> exact path?_mergeRequests hholder live
  | storageClass h hclass => rcases h with rfl | rfl <;> exact path?_mergeClass hclass live

end Child

end SessionOperator
