import SessionOperator.Proofs.Child
import SessionOperator.Proofs.Child.Managed

/-!
# Managed dictionaries

The selector of a service and the requests of a claim are dictionaries.  Merging replaces the one of the live child, but
a patch can only add keys to it: what it does not name it leaves alone.

* `ChildKind.dictPath?`, `Child.dict`: the managed dictionary of a child;
* `Child.keeping`: a desired child with the keys that a live one has besides;
* `Child.get?_dict_keeping`, `Child.keeping_eq_self`: the keys of its dictionary, and when there are none besides;
* `Child.sameBut_keeping`: merging it differs from merging the desired child in the dictionary only.
-/

namespace SessionOperator

open Schema (SameBut)

/-- Where the objects of a kind hold a managed dictionary. -/
def ChildKind.dictPath? : ChildKind → Option (List String)
  | .service => some ["spec", "selector"]
  | .claim | .dataSourceClaim => some ["spec", "resources", "requests"]
  | .statefulSet | .ingress => none

namespace Child

/-- The managed dictionary of a child; empty if there is none. -/
def dict (c : Child) : Dict Json :=
  match c.kind.dictPath? with
  | none => []
  | some path => ((c.body.path? path).getD .empty).entries

/-- A desired child with the keys that a live one has besides in the managed dictionary. -/
def keeping (d l : Child) : Child :=
  match d.kind.dictPath? with
  | none => d
  | some path =>
    ⟨d.kind, d.body.setPath path (((l.body.path? path).getD .empty).mergePatch ((d.body.path? path).getD .empty))⟩

variable {d l : Child} {scope : MergeScope} {path rest : List String} {texts : Dict Json} {spec x : Json}

theorem dict_of_path? (hpath : d.kind.dictPath? = some path) : d.dict = ((d.body.path? path).getD .empty).entries := by
  rw [dict, hpath]

theorem dict_congr {body : Json} (hpath : d.kind.dictPath? = some path) (hkind : l.kind = d.kind)
    (h : body.path? path = d.body.path? path) : Child.dict ⟨l.kind, body⟩ = d.dict := by
  rw [dict_of_path? hpath, dict_of_path? (d := ⟨l.kind, body⟩) (hkind ▸ hpath), h]

theorem dictPath?_mem_managed (hpath : d.kind.dictPath? = some path) : path ∈ d.managed .full := by
  obtain ⟨kind, desired⟩ := d
  cases kind with
  | statefulSet | ingress => cases hpath
  | service =>
    cases hpath
    exact .tail _ (.head _)
  | claim | dataSourceClaim =>
    cases hpath
    exact .head _

theorem keeping_of_none (hpath : d.kind.dictPath? = none) (l : Child) : d.keeping l = d := by
  rw [keeping, hpath]

theorem kind_keeping (d l : Child) : (d.keeping l).kind = d.kind := by
  unfold keeping
  split <;> rfl

theorem body_keeping (hpath : d.kind.dictPath? = some ("spec" :: rest)) (hspec : d.body.get? "spec" = some spec)
    (l : Child) :
    (d.keeping l).body = d.body.set "spec" (spec.setPath rest
      (((l.body.path? ("spec" :: rest)).getD .empty).mergePatch ((spec.path? rest).getD .empty))) := by
  rw [keeping, hpath]
  simp only [Json.path?_cons_of_get? hspec, Json.setPath, hspec, Option.getD_some]

/-- The same fields are managed. -/
theorem managed_keeping (d l : Child) (scope : MergeScope) : (d.keeping l).managed scope = d.managed scope := by
  obtain ⟨kind, desired⟩ := d
  have hclass : ∀ v : Json, (desired.setPath ["spec", "resources", "requests"] v).path? ["spec", "storageClassName"] =
      desired.path? ["spec", "storageClassName"] := by
    intro v
    rw [Json.setPath, Json.path?_set, Json.setPath, Json.path?_singleton, Json.get?_set, if_neg (by decide),
      ← Json.path?_singleton, Json.path?_getD rfl]
  cases kind with
  | statefulSet | service | ingress => cases scope <;> rfl
  | claim | dataSourceClaim =>
    cases scope with
    | replicasOnly => rfl
    | full =>
      simp only [managed, keeping, ChildKind.dictPath?, hclass]

theorem path?_keeping (hpath : d.kind.dictPath? = some path) (htexts : d.body.path? path = some (.obj texts))
    (l : Child) :
    (d.keeping l).body.path? path = some (.obj (Json.mergeFields ((l.body.path? path).getD .empty).entries texts)) := by
  rw [keeping, hpath]
  simp only [htexts, Option.getD_some, Json.path?_setPath, Json.mergePatch_obj]

/-- The keys of a live child are kept where the desired one does not hold them. -/
theorem get?_dict_keeping (hpath : d.kind.dictPath? = some path) (htexts : d.body.path? path = some (.obj texts))
    (hdict : Json.IsTexts texts) (hsorted : texts.Sorted) (hkind : l.kind = d.kind) (key : String) :
    (d.keeping l).dict.get? key = (d.dict.get? key).or (l.dict.get? key) := by
  have hkeeping : (d.keeping l).dict = Json.mergeFields l.dict texts := by
    rw [dict_of_path? (by rw [kind_keeping, hpath]), path?_keeping hpath htexts, Option.getD_some, Json.entries_obj,
      dict_of_path? (by rw [hkind, hpath])]
  rw [hkeeping, hdict.get?_mergeFields (hdict.keysDistinct hsorted), dict_of_path? hpath, htexts]
  rfl

/-- To set the managed dictionary to what it is changes nothing. -/
private theorem setPath_dict (hd : d.IsRead) (hpath : d.kind.dictPath? = some path) {v : Json}
    (hv : d.body.path? path = some v) : d.body.setPath path v = d.body := by
  obtain ⟨kind, desired⟩ := d
  have hbody : desired.InOrder := kind.hasField_spec.inOrder kind.schema_isOrdered hd
  have hclaim : path = ["spec", "resources", "requests"] → kind.specSchema = Kubernetes.persistentVolumeClaimSpec →
      desired.setPath path v = desired := by
    rintro rfl hschema
    obtain ⟨spec, hspec, hv⟩ := Option.bind_eq_some_iff.1 hv
    obtain ⟨resources, hresources, hv⟩ := Option.bind_eq_some_iff.1 hv
    rw [Json.path?_singleton] at hv
    have hvalue := hd.spec hspec
    rw [hschema] at hvalue
    have hs := ChildKind.specSchema_isOrdered .claim
    have hrs := Kubernetes.volumeResourceRequirements_isOrdered
    exact Json.setPath_cons_eq_self hbody hspec (Json.setPath_cons_eq_self
      (Kubernetes.hasField_resources.inOrder hs hvalue) hresources (Json.setPath_cons_eq_self
        (Kubernetes.hasField_requests.inOrder hrs (Kubernetes.hasField_resources.isValue hs hvalue hresources)) hv rfl))
  cases kind with
  | statefulSet | ingress => cases hpath
  | service =>
    cases hpath
    obtain ⟨spec, hspec, hv⟩ := Option.bind_eq_some_iff.1 hv
    rw [Json.path?_singleton] at hv
    exact Json.setPath_cons_eq_self hbody hspec (Json.setPath_cons_eq_self
      (Kubernetes.hasField_selector.inOrder (ChildKind.specSchema_isOrdered .service) (hd.spec hspec)) hv rfl)
  | claim | dataSourceClaim => exact hclaim (Option.some.inj hpath).symm rfl

/-- Where the live child holds no other keys there is nothing to keep. -/
theorem keeping_eq_self (hd : d.IsRead) (hpath : d.kind.dictPath? = some path)
    (htexts : d.body.path? path = some (.obj texts)) (hdict : Json.IsTexts texts) (hsorted : texts.Sorted)
    (hkind : l.kind = d.kind) (hlive : l.dict.Sorted) (h : ∀ key, l.dict.get? key ≠ none → d.dict.get? key ≠ none) :
    d.keeping l = d := by
  have hsame : ((l.body.path? path).getD .empty).mergePatch (.obj texts) = .obj texts := by
    rw [Json.mergePatch_obj, ← dict_of_path? (by rw [hkind, hpath])]
    refine congrArg Json.obj ((Json.sorted_mergeFields hlive).ext hsorted fun key => ?_)
    rw [hdict.get?_mergeFields (hdict.keysDistinct hsorted)]
    cases hkey : texts.get? key with
    | some v => rfl
    | none =>
      have hnone : d.dict.get? key = none := by rwa [dict_of_path? hpath, htexts]
      rw [Option.none_or]
      exact Decidable.byContradiction fun hne => h key hne hnone
  rw [keeping, hpath]
  simp only [htexts, Option.getD_some, hsame, setPath_dict hd hpath htexts]

/-! ### Merging -/

private theorem sameBut_mergeServiceSpec (spec v x : Json) :
    Kubernetes.serviceSpec.SameBut [["selector"]] (mergeServiceSpec spec x)
      (mergeServiceSpec (spec.set "selector" v) x) := by
  refine SameBut.of_get?_eq (List.cons_ne_nil "selector" []) fun key hkey => ?_
  have hset : (spec.set "selector" v).get? key = spec.get? key := by
    rw [Json.get?_set, if_neg fun h => hkey (List.mem_singleton.2 h.symm)]
  rw [mergeServiceSpec, mergeServiceSpec, Json.get?_copyKeys, Json.get?_copyKeys, hset]

private theorem sameBut_mergeClaimSpec_requests (spec resources v x : Json) :
    Kubernetes.persistentVolumeClaimSpec.SameBut [["resources", "requests"]] (mergeClaimSpec spec x)
      (mergeClaimSpec (spec.set "resources" (resources.set "requests" v)) x) := by
  have hclass : (spec.set "resources" (resources.set "requests" v)).get? "storageClassName" =
      spec.get? "storageClassName" := by
    rw [Json.get?_set, if_neg (by decide)]
  refine SameBut.nested Kubernetes.hasField_resources (ChildKind.specSchema_isOrdered .claim) (List.cons_ne_nil _ _)
    (fun k hk => ?_) (SameBut.of_get?_eq (List.cons_ne_nil "requests" []) fun k hk => ?_)
  · rw [get?_mergeClaimSpec, get?_mergeClaimSpec, if_neg hk, if_neg hk, hclass, Json.get?_set, if_neg (Ne.symm hk)]
  · have hk' : "requests" ≠ k := fun h => hk (List.mem_singleton.2 h.symm)
    rw [get?_mergeClaimSpec, get?_mergeClaimSpec, if_pos rfl, if_pos rfl, Option.getD_some, Option.getD_some,
      Json.get?_copyKey, Json.get?_copyKey, if_neg hk', if_neg hk']

private theorem sameBut_mergeSpec_mergeSpec (kind : ChildKind) {merge : Json → Json → Json}
    {paths : List (List String)} (hpaths : paths ≠ []) {desired desired' spec' : Json}
    (hspec : desired.get? "spec" = some spec) (hspec' : desired'.get? "spec" = some spec')
    (h : ∀ x, kind.specSchema.SameBut paths (merge spec x) (merge spec' x)) (live : Json) :
    kind.schema.SameBut (paths.map ("spec" :: ·)) (mergeSpec merge kind.specSchema.zero desired live)
      (mergeSpec merge kind.specSchema.zero desired' live) := by
  rw [mergeSpec, mergeSpec, hspec, hspec']
  refine SameBut.nested kind.hasField_spec kind.schema_isOrdered hpaths (fun k hk => ?_) ?_
  · simp only [Json.get?_set, if_neg (Ne.symm hk)]
  · simp only [Json.get?_set, if_true, Option.getD_some]
    exact h _

/-- What is kept makes no difference but for the dictionary. -/
theorem sameBut_keeping (hpath : d.kind.dictPath? = some path) {v : Json} (hv : d.body.path? path = some v) (l : Child)
    (live : Json) :
    d.kind.schema.SameBut [path] (mergeBody d.kind .full d.body live)
      (mergeBody d.kind .full (d.keeping l).body live) := by
  obtain ⟨kind, desired⟩ := d
  cases kind with
  | statefulSet | ingress => cases hpath
  | service =>
    cases hpath
    obtain ⟨spec, hspec, hv⟩ := Option.bind_eq_some_iff.1 hv
    rw [Json.path?_singleton] at hv
    have hkeeping := congrArg (Json.get? · "spec") (body_keeping rfl hspec l)
    simp only [Json.get?_set_self] at hkeeping
    exact sameBut_mergeSpec_mergeSpec .service (List.cons_ne_nil ["selector"] []) hspec hkeeping
      (sameBut_mergeServiceSpec spec _) live
  | claim | dataSourceClaim =>
    cases hpath
    obtain ⟨spec, hspec, hv⟩ := Option.bind_eq_some_iff.1 hv
    obtain ⟨resources, hresources, -⟩ := Option.bind_eq_some_iff.1 hv
    have hkeeping := congrArg (Json.get? · "spec") (body_keeping rfl hspec l)
    simp only [Json.get?_set_self, Json.setPath, hresources, Option.getD_some] at hkeeping
    exact sameBut_mergeSpec_mergeSpec .claim (List.cons_ne_nil ["resources", "requests"] []) hspec hkeeping
      (sameBut_mergeClaimSpec_requests spec resources _) live

end Child

end SessionOperator
