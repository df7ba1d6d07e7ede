import SessionOperator.Proofs.Child
import SessionOperator.Proofs.Child.Managed

/-!
# Settled children

A live child is settled when bringing it in line with what is desired of it would not change it: its managed fields are
the desired ones, or the patch that asks for them does nothing.

* `Child.mergeFrom_of_spec`: a child with the very spec that is desired of it;
* `Child.Settled`: the settled children; `Child.settled_of_patched`: what a write leads to;
* `Child.Settled.scaled`: the replicas of a settled stateful set are the desired ones;
* `Child.Settled.replicasOnly`: what is settled in full scope is settled in the narrow one.
-/

namespace SessionOperator

namespace Child

/-! ### Merging a spec into itself -/

variable {live desired : Json}

private theorem mergeSpec_self {merge : Json → Json → Json} {zero : Json} (hlive : live.InOrder)
    (hspec : live.get? "spec" = desired.get? "spec")
    (hmerge : ∀ spec, desired.get? "spec" = some spec → merge spec spec = spec) :
    mergeSpec merge zero desired live = live := by
  unfold mergeSpec
  cases h : desired.get? "spec" with
  | none => rfl
  | some spec =>
    rw [h] at hspec
    simp only [hspec, Option.getD_some, hmerge spec h]
    exact Json.set_eq_self hlive hspec

private theorem mergeStatefulSetSpec_self {spec : Json} (scope : MergeScope)
    (h : Kubernetes.statefulSetSpec.IsValue spec) :
    mergeStatefulSetSpec scope spec spec = spec := by
  have hs := ChildKind.specSchema_isOrdered .statefulSet
  have horder : spec.InOrder := Kubernetes.hasField_replicas.inOrder hs h
  have hscaled : spec.copyKey spec "replicas" = spec := Json.copyKey_eq_self horder rfl
  unfold mergeStatefulSetSpec
  rw [hscaled]
  cases hpath : spec.path? ["template", "spec"] with
  | none => cases scope <;> rfl
  | some pod =>
    cases scope with
    | replicasOnly => rfl
    | full =>
      obtain ⟨template, htemplate, hpod⟩ := Option.bind_eq_some_iff.1 hpath
      obtain ⟨pod', hpod, heq⟩ := Option.bind_eq_some_iff.1 hpod
      cases heq
      have hts := Kubernetes.hasField_template.isOrdered hs
      have hvalue := Kubernetes.hasField_template.isValue hs h htemplate
      have hpods := Kubernetes.hasField_podSpec.isValue hts hvalue hpod
      have hcopied : pod.copyKeys pod ["containers", "initContainers", "volumes"] = pod :=
        Json.copyKeys_eq_self (Kubernetes.hasField_containers.inOrder (Kubernetes.hasField_podSpec.isOrdered hts) hpods)
          fun _ _ => rfl
      simp only [htemplate, Option.getD_some, hpod, hcopied]
      rw [Json.set_eq_self (Kubernetes.hasField_podSpec.inOrder hts hvalue) hpod, Json.set_eq_self horder htemplate]

private theorem mergeServiceSpec_self {spec : Json} (h : Kubernetes.serviceSpec.IsValue spec) :
    mergeServiceSpec spec spec = spec :=
  Json.copyKeys_eq_self (Kubernetes.hasField_ports.inOrder (ChildKind.specSchema_isOrdered .service) h) fun _ _ => rfl

/-- A claim that says nothing about resources would be given empty ones. -/
private theorem mergeClaimSpec_self {spec resources : Json} (h : Kubernetes.persistentVolumeClaimSpec.IsValue spec)
    (hresources : spec.get? "resources" = some resources) : mergeClaimSpec spec spec = spec := by
  have hs := ChildKind.specSchema_isOrdered .claim
  have hrs := Kubernetes.hasField_resources.isOrdered hs
  have horder := Kubernetes.hasField_resources.inOrder hs h
  have hcopied : resources.copyKey resources "requests" = resources :=
    Json.copyKey_eq_self
      (Kubernetes.hasField_requests.inOrder hrs (Kubernetes.hasField_resources.isValue hs h hresources)) rfl
  unfold mergeClaimSpec
  simp only [hresources, Option.getD_some, hcopied, Json.set_eq_self horder hresources]
  rw [Json.copyKey_eq_self horder rfl, ite_self]

/-! ### Desired children -/

variable {scope : MergeScope} {l d d' : Child}

def IsClaim (d : Child) : Prop := d.kind = .claim ∨ d.kind = .dataSourceClaim

/-- What is known of a desired child: it has a spec, with resources if it is a claim, and no patch names a field
twice. -/
structure IsDesired (d : Child) : Prop where
  read : d.IsRead
  spec : ∃ spec, d.body.get? "spec" = some spec ∧ (d.IsClaim → ∃ resources, spec.get? "resources" = some resources)
  patch : ∀ scope, (d.patch scope).KeysDistinct

/-- Patches name the spec at most. -/
theorem patch_eq_obj (d : Child) (scope : MergeScope) :
    ∃ changes, d.patch scope = .obj changes ∧ ∀ key, key ≠ "spec" → Dict.get? changes key = none := by
  have hspec : ∀ p : Json, ∃ changes, Json.object [("spec", p)] = .obj changes ∧
      ∀ key, key ≠ "spec" → Dict.get? changes key = none := by
    refine fun p => ⟨_, rfl, fun key hkey => ?_⟩
    show (if "spec" = key then some p else none) = none
    exact if_neg (Ne.symm hkey)
  have hnone : ∃ changes, Json.empty = .obj changes ∧ ∀ key, key ≠ "spec" → Dict.get? changes key = none :=
    ⟨[], rfl, fun _ _ => rfl⟩
  unfold patch
  cases d.kind <;> cases scope <;> first | exact hspec _ | exact hnone

/-- A child with the very spec that is desired of it has nothing to be given. -/
theorem mergeFrom_of_spec (hd : d.IsDesired) (hl : l.IsRead) (hkind : l.kind = d.kind)
    (hspec : l.body.get? "spec" = d.body.get? "spec") (scope : MergeScope) : l.mergeFrom d scope = .ok l := by
  obtain ⟨spec, hget, hresources⟩ := hd.spec
  have hvalue := hd.read.spec hget
  have horder : l.body.InOrder := l.kind.hasField_spec.inOrder l.kind.schema_isOrdered hl
  rw [mergeFrom, if_pos hkind]
  suffices h : mergeBody d.kind scope d.body l.body = l.body by rw [h]
  unfold IsClaim at hresources
  -- only the replicas of a stateful set are managed in both scopes
  cases hk : d.kind with
  | statefulSet =>
    rw [hk] at hvalue
    refine mergeSpec_self horder hspec fun spec' h => ?_
    cases hget.symm.trans h
    exact mergeStatefulSetSpec_self scope hvalue
  | service =>
    rw [hk] at hvalue
    cases scope with
    | replicasOnly => rfl
    | full =>
      refine mergeSpec_self horder hspec fun spec' h => ?_
      cases hget.symm.trans h
      exact mergeServiceSpec_self hvalue
  | ingress =>
    cases scope with
    | replicasOnly => rfl
    | full => exact Json.copyKey_eq_self horder hspec
  | claim | dataSourceClaim =>
    rw [hk] at hvalue
    cases scope with
    | replicasOnly => rfl
    | full =>
      refine mergeSpec_self horder hspec fun spec' h => ?_
      cases hget.symm.trans h
      obtain ⟨resources, hresources⟩ := hresources (by simp [hk])
      exact mergeClaimSpec_self hvalue hresources

/-! ### Settled children -/

/-- Bringing the live child in line with the desired one changes nothing. -/
def Settled (scope : MergeScope) (d l : Child) : Prop :=
  l.mergeFrom d scope = .ok l ∨ Cluster.patched l (d.patch scope) = .ok l

/-- What a patch makes of a child is settled, under whatever version it is stored. -/
theorem settled_of_patched (hd : d.IsDesired) (hl : l.IsRead) {child : Child}
    (h : Cluster.patched l (d.patch scope) = .ok child) (version : Nat) :
    Settled scope d (Cluster.versioned child version) := by
  have hagain := hl.patched_patched (hd.patch scope) h
  have hdistinct := hd.patch scope
  obtain ⟨changes, heq, hchanges⟩ := d.patch_eq_obj scope
  rw [Settled, heq]
  rw [heq] at hagain hdistinct
  rw [Json.KeysDistinct] at hdistinct
  exact .inr ((isRead_of_patched h).patched_versioned hdistinct (hchanges _ (by decide)) hagain version)

/-- A live stateful set whose replicas are the desired ones. -/
def Scaled (d l : Child) : Prop :=
  ∃ spec desired, l.body.get? "spec" = some spec ∧ d.body.get? "spec" = some desired ∧
    spec.get? "replicas" = desired.get? "replicas"

theorem Scaled.path?_eq (h : Scaled d l) : l.body.path? ["spec", "replicas"] = d.body.path? ["spec", "replicas"] := by
  obtain ⟨spec, desired, hspec, hdesired, hreplicas⟩ := h
  rw [Json.path?, hspec, Json.path?, hdesired, Option.bind_some, Option.bind_some, Json.path?, Json.path?, hreplicas]

/-- A value under a key as a patch sends it is what is read there after the patch. -/
private theorem get?_replicas_patched {w x : Json} {changes : List (String × Json)} {spec : Json}
    (hspec : Kubernetes.statefulSetSpec.IsValue spec) (hchanges : Json.KeysDistinctFields changes)
    (hkey : Dict.get? changes "replicas" = some (fieldOrNull (Kubernetes.statefulSetSpec.encode spec) "replicas"))
    (hx : Kubernetes.statefulSetSpec.decode (w.mergePatch (.obj changes)) = .ok x) :
    x.get? "replicas" = spec.get? "replicas" := by
  have hs := ChildKind.specSchema_isOrdered .statefulSet
  have hread := Kubernetes.hasField_replicas.reads hs hx
  have hget : (w.mergePatch (.obj changes)).get? "replicas" =
      Json.changed (w.get? "replicas") (some (Json.orNull (spec.get? "replicas"))) := by
    rw [Json.get?_mergePatch hchanges, hkey, fieldOrNull, Kubernetes.hasField_replicas.get?_encode hs]
    cases spec.get? "replicas" with
    | none => rfl
    | some n => rw [Option.map_some, Schema.encode_plain rfl]
  rw [hget] at hread
  -- a patch asks for no replicas by clearing the field
  cases hn : spec.get? "replicas" with
  | none =>
    rw [hn] at hread
    exact hread.2
  | some n =>
    obtain ⟨j, hj⟩ := Kubernetes.hasField_replicas.isValue hs hspec hn
    obtain ⟨m, -, rfl⟩ := Fallible.map_eq_ok_iff.1 (show (Decoder.int32 j).map Json.int = .ok n from hj)
    have hchanged : Json.changed (w.get? "replicas") (some (Json.orNull (some (.int m)))) = some (.int m) := by
      simp [Json.changed, Json.orNull, Json.mergePatch]
    rw [hn, hchanged] at hread
    obtain ⟨y, hy, heq⟩ := (Schema.reads_of_ne_null (by simp)).1 hread
    rw [heq, Schema.decode_plain rfl hy]

private theorem statefulSetPatch_eq_obj (scope : MergeScope) (spec : Json) :
    ∃ changes, statefulSetPatch scope spec = .obj changes ∧
      Dict.get? changes "replicas" = some (fieldOrNull spec "replicas") := by
  unfold statefulSetPatch
  split
  · exact ⟨_, rfl, by simp [Dict.ofList, Dict.get?_insert]⟩
  · exact ⟨_, rfl, rfl⟩

private theorem patch_statefulSet (hset : d.kind = .statefulSet) {spec : Json} (hspec : d.body.get? "spec" = some spec)
    (scope : MergeScope) : ∃ changes, d.patch scope = .obj [("spec", .obj changes)] ∧
      Dict.get? changes "replicas" = some (fieldOrNull (Kubernetes.statefulSetSpec.encode spec) "replicas") := by
  have hpatch : d.patch scope =
      .obj [("spec", statefulSetPatch scope (Kubernetes.statefulSetSpec.encode spec))] := by
    unfold patch
    rw [get?_encode_spec hspec, hset]
    rfl
  obtain ⟨changes, heq, hreplicas⟩ := statefulSetPatch_eq_obj scope (Kubernetes.statefulSetSpec.encode spec)
  exact ⟨changes, hpatch.trans (by rw [heq]), hreplicas⟩

theorem Settled.scaled (hd : d.IsDesired) (hkind : l.kind = d.kind) (hset : d.kind = .statefulSet)
    (h : Settled scope d l) : Scaled d l := by
  obtain ⟨spec, hspec, -⟩ := hd.spec
  rcases h with h | h
  · -- the live spec is the merged one, which has the desired replicas
    rw [mergeFrom, if_pos hkind, hset] at h
    have hbody : mergeSpec (mergeStatefulSetSpec scope) Kubernetes.statefulSetSpec.zero d.body l.body = l.body :=
      congrArg Child.body (Except.ok.inj h)
    unfold mergeSpec at hbody
    rw [hspec] at hbody
    have hget := congrArg (Json.get? · "spec") hbody
    simp only [Json.get?_set, if_true] at hget
    exact ⟨_, spec, hget.symm, hspec, get?_replicas_mergeStatefulSetSpec scope spec _⟩
  · -- the live spec is what the patch makes of it, and the patch names the replicas
    have hdistinct := hd.patch scope
    have hvalue := hd.read.spec hspec
    rw [hset] at hvalue
    obtain ⟨changes, heq, hreplicas⟩ := patch_statefulSet hset hspec scope
    rw [heq, Json.KeysDistinct] at hdistinct
    rw [heq] at h
    have hread := l.kind.hasField_spec.reads l.kind.schema_isOrdered (patched_eq_ok.1 h).2
    rw [Json.get?_mergePatch hdistinct, Dict.get?, if_pos rfl, Json.changed_some _ (by simp)] at hread
    obtain ⟨x, hx, hlive⟩ := (Schema.reads_of_ne_null (by simp [Json.mergePatch])).1 hread
    rw [hkind, hset] at hx
    exact ⟨x, spec, hlive, hspec, get?_replicas_patched hvalue (hdistinct.2.1) hreplicas hx⟩

/-- In the narrow scope there is nothing to change but replicas, and those of a settled child are the desired ones. -/
theorem Settled.replicasOnly (hd : d.IsDesired) (hl : l.IsRead) (hkind : l.kind = d.kind) (h : Settled scope d l) :
    Settled .replicasOnly d l := by
  left
  rw [mergeFrom, if_pos hkind]
  cases hk : d.kind with
  | statefulSet =>
    obtain ⟨x, spec, hx, hspec, hreplicas⟩ := h.scaled hd hkind hk
    have hvalue := hl.spec hx
    rw [hkind, hk] at hvalue
    have hmerge : mergeStatefulSetSpec .replicasOnly spec x = x :=
      Json.copyKey_eq_self
        (Kubernetes.hasField_replicas.inOrder (ChildKind.specSchema_isOrdered .statefulSet) hvalue) hreplicas
    have hbody : mergeBody .statefulSet .replicasOnly d.body l.body = l.body := by
      rw [mergeBody, mergeSpec, hspec]
      simp only [hx, Option.getD_some, hmerge]
      exact Json.set_eq_self (l.kind.hasField_spec.inOrder l.kind.schema_isOrdered hl) hx
    rw [hbody]
  | service | ingress | claim | dataSourceClaim => rfl

/-! ### Children that are managed alike -/

/-- Desired children that ask the same of a live child. -/
def Interchangeable (d d' : Child) : Prop :=
  ∀ scope, d.patch scope = d'.patch scope ∧ ∀ l : Child, l.mergeFrom d scope = l.mergeFrom d' scope

theorem Interchangeable.refl (d : Child) : d.Interchangeable d := fun _ => ⟨rfl, fun _ => rfl⟩

theorem Settled.interchange (h : Settled scope d l) (hd : d.Interchangeable d') : Settled scope d' l := by
  obtain ⟨hpatch, hmerge⟩ := hd scope
  rw [Settled, ← hpatch, ← hmerge]
  exact h

end Child

end SessionOperator
