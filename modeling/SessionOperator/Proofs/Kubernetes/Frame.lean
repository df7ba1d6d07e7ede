import SessionOperator.Proofs.Kubernetes.Value

/-!
# Objects that differ in named places only

A path leads through the fields of an object.  Where an object on the way is left out, what stands in for it is looked
at in its place.

* `Schema.look?`: what an object holds at the end of a path;
* `Schema.SameBut`: two objects hold the same at the end of every path that does not meet one of some named paths;
* `Schema.SameBut.of_get?_eq`: objects of which some keys differ;
* `Schema.SameBut.nested`: an object of which one field differs, and that in named places only.
-/

namespace SessionOperator

namespace Schema

/-- The schema of what stands under a key. -/
def field (s : Schema) (key : String) : Schema :=
  match s with
  | .record _ fields => (Dict.get? fields key).elim .any (·.2)
  | .dict value => value
  | _ => .any

/-- What an object holds at the end of a path. -/
def look? (s : Schema) : List String → Json → Option Json
  | [], x => some x
  | [key], x => x.get? key
  | key :: next :: rest, x => (s.field key).look? (next :: rest) ((x.get? key).getD (s.field key).zero)

/-- One of the paths leads through the end of the other. -/
def Meet (p q : List String) : Prop := p <+: q ∨ q <+: p

/-- Objects that hold the same at the end of every path that meets none of some paths. -/
def SameBut (s : Schema) (paths : List (List String)) (x y : Json) : Prop :=
  ∀ path, (∀ p ∈ paths, ¬ Meet p path) → s.look? path x = s.look? path y

variable {s t : Schema} {key k : String} {required : Bool} {x y z u : Json} {path : List String}
  {paths more : List (List String)}

theorem HasField.field_eq (hf : s.HasField key required t) (hs : s.isOrdered = true) : s.field key = t := by
  obtain ⟨name, fields, rfl, hf⟩ := hf
  rw [field, (isOrdered_record hs).1.get?_eq_some_iff.2 hf]
  rfl

/-- What stands under a key is all there is to the paths that begin with it. -/
theorem look?_congr (h : x.get? key = y.get? key) (rest : List String) :
    s.look? (key :: rest) x = s.look? (key :: rest) y := by
  cases rest with
  | nil => exact h
  | cons next rest => rw [look?, look?, h]

theorem meet_cons {p q : List String} : Meet (key :: p) (k :: q) ↔ key = k ∧ Meet p q := by
  rw [Meet, List.cons_prefix_cons, List.cons_prefix_cons, eq_comm (a := k), ← and_or_left]
  rfl

theorem meet_nil (p : List String) : Meet p [] := .inr List.nil_prefix

namespace SameBut

theorem refl (s : Schema) (paths : List (List String)) (x : Json) : s.SameBut paths x x := fun _ _ => rfl

theorem trans (h : s.SameBut paths x y) (h' : s.SameBut paths y z) : s.SameBut paths x z :=
  fun path hpath => (h path hpath).trans (h' path hpath)

theorem mono (h : s.SameBut paths x y) (hsub : paths ⊆ more) : s.SameBut more x y :=
  fun path hpath => h path fun p hp => hpath p (hsub hp)

theorem get?_eq (h : s.SameBut paths x y) (hkey : ∀ p ∈ paths, ¬ Meet p [key]) : x.get? key = y.get? key := h [key] hkey

theorem of_get?_eq {keys : List String} (hkeys : keys ≠ []) (h : ∀ key, key ∉ keys → x.get? key = y.get? key) :
    s.SameBut (keys.map fun key => [key]) x y := by
  intro path hpath
  cases path with
  | nil =>
    obtain ⟨key, hkey⟩ := List.exists_mem_of_ne_nil _ hkeys
    exact absurd (meet_nil _) (hpath [key] (List.mem_map_of_mem hkey))
  | cons key rest =>
    refine look?_congr (h key fun hkey => ?_) rest
    exact hpath [key] (List.mem_map_of_mem hkey) (meet_cons.2 ⟨rfl, .inl List.nil_prefix⟩)

theorem copyKeys (keys : List String) (hkeys : keys ≠ []) (source x : Json) :
    s.SameBut (keys.map fun key => [key]) x (x.copyKeys source keys) :=
  of_get?_eq hkeys fun key hkey => by rw [Json.get?_copyKeys, if_neg hkey]

theorem copyKey (key : String) (source x : Json) : s.SameBut [[key]] x (x.copyKey source key) :=
  copyKeys [key] (List.cons_ne_nil key []) source x

/-- Objects of which one field differs, and that in some places only. -/
theorem nested (hf : s.HasField key required t) (hs : s.isOrdered = true) (hpaths : paths ≠ [])
    (hother : ∀ k, k ≠ key → x.get? k = y.get? k)
    (h : t.SameBut paths ((x.get? key).getD t.zero) ((y.get? key).getD t.zero)) :
    s.SameBut (paths.map (key :: ·)) x y := by
  intro path hpath
  obtain ⟨p, hp⟩ := List.exists_mem_of_ne_nil _ hpaths
  have hmeets := hpath (key :: p) (List.mem_map_of_mem hp)
  match path with
  | [] => exact absurd (meet_nil _) hmeets
  | k :: rest =>
    by_cases hk : k = key
    · subst hk
      match rest with
      | [] => exact absurd (meet_cons.2 ⟨rfl, meet_nil p⟩) hmeets
      | next :: rest =>
        rw [look?, look?, hf.field_eq hs]
        exact h _ fun q hq hmeet => hpath (k :: q) (List.mem_map_of_mem hq) (meet_cons.2 ⟨rfl, hmeet⟩)
    · exact look?_congr (hother k hk) rest

theorem set_nested (hf : s.HasField key required t) (hs : s.isOrdered = true) (hpaths : paths ≠ [])
    (h : t.SameBut paths ((x.get? key).getD t.zero) u) : s.SameBut (paths.map (key :: ·)) x (x.set key u) := by
  refine nested hf hs hpaths (fun k hk => ?_) ?_
  · rw [Json.get?_set, if_neg (Ne.symm hk)]
  · rwa [Json.get?_set, if_pos rfl]

end SameBut

end Schema

end SessionOperator
