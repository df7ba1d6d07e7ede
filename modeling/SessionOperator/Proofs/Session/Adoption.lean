import Mathlib.Data.List.Basic
import Mathlib.Data.List.Induction
import SessionOperator.Session.Basic

/-!
# Adopted secrets

A session refers to secrets in four places and may adopt what it refers to.  A name that is adopted several times counts
once, where it occurs first, and a reference without a name adopts nothing.

* `Session.Refers`: the four places;
* `Session.Adoption`: what the list of adopted names has to be;
* `Session.adoptedSecrets_adoption`: it is that.
-/

namespace SessionOperator

namespace Session

variable {s : Session} {r : SecretRef} {name : String}

inductive Refers (s : Session) : SecretRef → Prop
  | tls {ingress : SessionIngress} {r : SecretRef} (hingress : s.spec.ingress = some ingress)
      (hr : ingress.tlsSecret = some r) : Refers s r
  | authentication {authentication : Authentication} (h : s.spec.authentication = some authentication) :
      Refers s authentication.secretRef
  | dataSource {source : DataSource} (h : source ∈ s.spec.dataSources) : Refers s source.secretRef
  | imagePull {r : SecretRef} (h : r ∈ s.spec.imagePullSecrets) : Refers s r

/-- Some reference adopts the secret of a name. -/
def Adopts (s : Session) (name : String) : Prop := name ≠ "" ∧ ∃ r, s.Refers r ∧ r.adopt = true ∧ r.name = name

/-- The names in the references that adopt a secret, as often as they occur. -/
def adoptions (s : Session) : List String := (s.secretRefs.filter fun r => r.adopt && r.name ≠ "").map (·.name)

/-- These names are adopted and no others, each is listed once, and they are in order of first occurrence. -/
structure Adoption (s : Session) (names : List String) : Prop where
  mem_iff : ∀ name, name ∈ names ↔ s.Adopts name
  nodup : names.Nodup
  order : names.Pairwise fun a b => s.adoptions.idxOf a < s.adoptions.idxOf b

theorem mem_secretRefs : r ∈ s.secretRefs ↔ s.Refers r := by
  simp only [secretRefs, List.mem_append, Option.mem_toList, Option.bind_eq_some_iff, Option.map_eq_some_iff,
    List.mem_map]
  constructor
  · rintro (((⟨ingress, hingress, hr⟩ | ⟨authentication, hauthentication, rfl⟩) | ⟨source, hsource, rfl⟩) | hr)
    · exact .tls hingress hr
    · exact .authentication hauthentication
    · exact .dataSource hsource
    · exact .imagePull hr
  · rintro (⟨hingress, hr⟩ | hauthentication | hsource | hr)
    · exact .inl (.inl (.inl ⟨_, hingress, hr⟩))
    · exact .inl (.inl (.inr ⟨_, hauthentication, rfl⟩))
    · exact .inl (.inr ⟨_, hsource, rfl⟩)
    · exact .inr hr

theorem mem_adoptions : name ∈ s.adoptions ↔ s.Adopts name := by
  simp only [adoptions, List.mem_map, List.mem_filter, mem_secretRefs, Adopts, Bool.and_eq_true, decide_eq_true_eq]
  constructor
  · rintro ⟨r, ⟨hr, hadopt, hname⟩, rfl⟩
    exact ⟨hname, r, hr, hadopt, rfl⟩
  · rintro ⟨hname, r, hr, hadopt, rfl⟩
    exact ⟨r, ⟨hr, hadopt, hname⟩, rfl⟩

/-- Appends a name that is not in a list yet. -/
private def enlist (names : List String) (name : String) : List String :=
  if names.contains name then names else names ++ [name]

private theorem adoptedSecrets_eq (s : Session) : s.adoptedSecrets = s.adoptions.foldl enlist [] := by
  rw [adoptions, List.foldl_map]
  rfl

/-- Names that are enlisted one after the other stand in order of first occurrence. -/
private theorem foldl_enlist (names : List String) :
    (∀ name, name ∈ names.foldl enlist [] ↔ name ∈ names) ∧
      (names.foldl enlist []).Pairwise fun a b => names.idxOf a < names.idxOf b := by
  induction names using List.reverseRecOn with
  | nil => exact ⟨fun name => Iff.rfl, .nil⟩
  | append_singleton names name ih =>
    obtain ⟨hmem, horder⟩ := ih
    have hfirst : ∀ n ∈ names, (names ++ [name]).idxOf n = names.idxOf n := fun n hn => List.idxOf_append_of_mem hn
    have hkept : (names.foldl enlist []).Pairwise fun a b =>
        (names ++ [name]).idxOf a < (names ++ [name]).idxOf b := by
      refine horder.imp_of_mem fun ha hb hlt => ?_
      rwa [hfirst _ ((hmem _).1 ha), hfirst _ ((hmem _).1 hb)]
    rw [List.foldl_append, List.foldl_cons, List.foldl_nil, enlist]
    by_cases hold : name ∈ names
    · rw [if_pos (List.contains_iff_mem.2 ((hmem name).2 hold))]
      refine ⟨fun n => ?_, hkept⟩
      rw [hmem, List.mem_append, List.mem_singleton]
      exact ⟨.inl, fun h => h.elim id fun hn => hn ▸ hold⟩
    · rw [if_neg fun hlisted => hold ((hmem name).1 (List.contains_iff_mem.1 hlisted))]
      refine ⟨fun n => by simp [hmem], List.pairwise_append.2 ⟨hkept, List.pairwise_singleton _ _, ?_⟩⟩
      -- the new name stands after all that occurred before it
      intro a ha b hb
      rw [List.mem_singleton.1 hb, hfirst a ((hmem a).1 ha), List.idxOf_append_of_notMem hold]
      exact Nat.lt_add_right _ (List.idxOf_lt_length_of_mem ((hmem a).1 ha))

theorem adoptedSecrets_adoption (s : Session) : s.Adoption s.adoptedSecrets := by
  obtain ⟨hmem, horder⟩ := foldl_enlist s.adoptions
  rw [adoptedSecrets_eq]
  refine ⟨fun name => (hmem name).trans mem_adoptions, ?_, horder⟩
  refine horder.imp fun {a b} hlt heq => ?_
  rw [heq] at hlt
  exact Nat.lt_irrefl _ hlt

theorem adoptedSecrets_congr {t : Session} (h : t.spec = s.spec) : t.adoptedSecrets = s.adoptedSecrets := by
  unfold adoptedSecrets secretRefs
  rw [h]

end Session

end SessionOperator
