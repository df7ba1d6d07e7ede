import Mathlib.Data.List.Nodup
import SessionOperator.Proofs.Dict
import SessionOperator.Json

/-!
# Objects, key by key

* `Json.get?_set`, `Json.get?_copyKey`: what an update leaves under each key;
* `Json.path?_append`, `Json.path?_set`: what stands at the end of a path;
* `Json.InOrder`: the objects whose keys stand in order;
* `Json.set_eq_self`, `Json.copyKey_eq_self`: updates that change nothing.
-/

namespace SessionOperator

namespace Json

variable {j source : Json} {key k : String} {v : Json}

theorem get?_set (j : Json) (key k : String) (v : Json) :
    (j.set key v).get? k = if key = k then some v else j.get? k :=
  Dict.get?_insert j.entries key k v

theorem get?_set_self (j : Json) (key : String) (v : Json) : (j.set key v).get? key = some v := by
  rw [get?_set, if_pos rfl]

theorem get?_remove (j : Json) (key k : String) : (j.remove key).get? k = if key = k then none else j.get? k := by
  cases j with
  | obj fields => exact Dict.get?_erase fields key k
  | null | bool b | int n | float bits | str t | arr items =>
    show none = if key = k then none else none
    rw [ite_self]

theorem get?_copyKey (j source : Json) (key k : String) :
    (j.copyKey source key).get? k = if key = k then source.get? key else j.get? k := by
  unfold copyKey
  cases source.get? key with
  | some v => exact get?_set j key k v
  | none => exact get?_remove j key k

theorem copyKey_of_get? (h : source.get? key = some v) : j.copyKey source key = j.set key v := by
  rw [copyKey, h]

theorem get?_copyKeys (j source : Json) (keys : List String) (k : String) :
    (j.copyKeys source keys).get? k = if k ∈ keys then source.get? k else j.get? k := by
  unfold copyKeys
  induction keys generalizing j with
  | nil => rfl
  | cons key keys ih =>
    rw [List.foldl_cons, ih, get?_copyKey]
    by_cases hmem : k ∈ keys
    · rw [if_pos hmem, if_pos (List.mem_cons_of_mem _ hmem)]
    · by_cases hk : key = k
      · rw [if_neg hmem, if_pos hk, if_pos (List.mem_cons.2 (.inl hk.symm)), hk]
      · rw [if_neg hmem, if_neg hk, if_neg (by simp [hmem, Ne.symm hk])]

theorem get?_objectOfSome_of_not_mem {fields : List (String × Option Json)} (h : ∀ f ∈ fields, f.1 ≠ key) :
    (objectOfSome fields).get? key = none := by
  refine Dict.get?_ofList_eq_none_iff.2 fun f hf => ?_
  obtain ⟨g, hg, heq⟩ := List.mem_filterMap.1 hf
  obtain ⟨v, -, rfl⟩ := Option.map_eq_some_iff.1 heq
  exact h g hg

/-- An object holds what its fields say, as long as they name no key twice. -/
theorem get?_object_of_mem {fields : List (String × Json)} (hnodup : (fields.map (·.1)).Nodup)
    (hmem : (key, v) ∈ fields) : (object fields).get? key = some v :=
  Dict.get?_ofList_of_mem hmem fun _ h => (Prod.ext_iff.1 (List.inj_on_of_nodup_map hnodup h hmem rfl)).2

theorem get?_objectOfSome_of_mem {fields : List (String × Option Json)} {o : Option Json}
    (hnodup : (fields.map (·.1)).Nodup) (hmem : (key, o) ∈ fields) : (objectOfSome fields).get? key = o := by
  have hunique : ∀ v, (key, v) ∈ fields.filterMap (fun f => f.2.map fun v => (f.1, v)) → o = some v := by
    intro v hv
    obtain ⟨f, hf, hv⟩ := List.mem_filterMap.1 hv
    obtain ⟨v, hv, heq⟩ := Option.map_eq_some_iff.1 hv
    cases heq
    rw [← hv, List.inj_on_of_nodup_map hnodup hf hmem rfl]
  cases o with
  | none =>
    refine Dict.get?_ofList_eq_none_iff.2 fun f hf heq => ?_
    cases hunique f.2 (heq ▸ hf)
  | some v =>
    refine Dict.get?_ofList_of_mem (List.mem_filterMap.2 ⟨_, hmem, rfl⟩) fun v' hv' => ?_
    exact (Option.some.inj (hunique v' hv')).symm

/-- To set a field of an object is to list another value under its name. -/
theorem set_object {fields : List (String × Json)} (hnodup : (fields.map (·.1)).Nodup) (hkey : key ∈ fields.map (·.1))
    (v : Json) : (object fields).set key v = object (fields.map fun f => if f.1 = key then (key, v) else f) := by
  set fields' := fields.map fun f => if f.1 = key then (key, v) else f
  have hkeys : fields'.map (·.1) = fields.map (·.1) := by
    rw [List.map_map]
    refine List.map_congr_left fun f _ => ?_
    by_cases hf : f.1 = key <;> simp [hf]
  refine congrArg Json.obj (((Dict.sorted_ofList fields).insert key v).ext (Dict.sorted_ofList fields') fun k => ?_)
  rw [Dict.get?_insert]
  by_cases hk : key = k
  · subst hk
    obtain ⟨f, hf, heq⟩ := List.mem_map.1 hkey
    have hmem : (key, v) ∈ fields' := List.mem_map.2 ⟨f, hf, if_pos heq⟩
    rw [if_pos rfl]
    exact (get?_object_of_mem (hkeys ▸ hnodup) hmem).symm
  · rw [if_neg hk]
    cases hget : (Dict.ofList fields).get? k with
    | none =>
      refine (Dict.get?_ofList_eq_none_iff.2 fun f hf heq => ?_).symm
      have hlisted : k ∈ fields.map (·.1) := hkeys ▸ List.mem_map.2 ⟨f, hf, heq⟩
      obtain ⟨g, hg, heq⟩ := List.mem_map.1 hlisted
      exact Dict.get?_ofList_eq_none_iff.1 hget g hg heq
    | some w =>
      have hmem := Dict.mem_ofList (Dict.mem_of_get?_eq_some hget)
      have hmem' : (k, w) ∈ fields' := List.mem_map.2 ⟨_, hmem, if_neg (Ne.symm hk)⟩
      exact (get?_object_of_mem (hkeys ▸ hnodup) hmem').symm

/-! ### Paths -/

theorem path?_singleton (j : Json) (key : String) : j.path? [key] = j.get? key := Option.bind_fun_some _

theorem path?_cons_of_get? (h : j.get? key = some v) (rest : List String) : j.path? (key :: rest) = v.path? rest := by
  rw [path?, h, Option.bind_some]

theorem path?_set (j : Json) (key : String) (v : Json) (rest : List String) :
    (j.set key v).path? (key :: rest) = v.path? rest :=
  path?_cons_of_get? (by rw [get?_set, if_pos rfl]) rest

theorem path?_append (j : Json) (path rest : List String) :
    j.path? (path ++ rest) = (j.path? path).bind fun inner => inner.path? rest := by
  induction path generalizing j with
  | nil => rfl
  | cons key path ih =>
    rw [List.cons_append, path?, path?, Option.bind_assoc]
    exact congrArg _ (funext ih)

theorem exists_path?_dropLast {path : List String} (h : j.path? path = some v) :
    ∃ holder, j.path? path.dropLast = some holder := by
  rcases List.eq_nil_or_concat path with rfl | ⟨init, key, rfl⟩
  · exact ⟨j, rfl⟩
  · rw [List.concat_eq_append, path?_append] at h
    obtain ⟨holder, hholder, -⟩ := Option.bind_eq_some_iff.1 h
    exact ⟨holder, by simpa using hholder⟩

/-- Where an object may be left out, what stands in for it may be looked at in its place if it holds nothing there. -/
theorem path?_getD {zero : Json} {rest : List String} (hzero : zero.path? rest = none) (j : Json) (key : String) :
    ((j.get? key).getD zero).path? rest = j.path? (key :: rest) := by
  rw [path?]
  cases j.get? key with
  | none => exact hzero
  | some v => rfl

/-- Sets what stands at the end of a path. -/
def setPath (j : Json) : List String → Json → Json
  | [], v => v
  | key :: rest, v => j.set key (((j.get? key).getD .empty).setPath rest v)

theorem path?_setPath (j : Json) (path : List String) (v : Json) : (j.setPath path v).path? path = some v := by
  induction path generalizing j with
  | nil => rfl
  | cons key rest ih => rw [setPath, path?_set, ih]

/-! ### Objects in order -/


/-- An object whose keys stand in order. -/
def InOrder (j : Json) : Prop := ∃ d : Dict Json, j = .obj d ∧ d.Sorted

theorem set_eq_self (h : j.InOrder) (hv : j.get? key = some v) : j.set key v = j := by
  obtain ⟨d, rfl, hd⟩ := h
  exact congrArg Json.obj (hd.insert_eq_self hv)

theorem setPath_cons_eq_self {inner : Json} {rest : List String} (h : j.InOrder) (hkey : j.get? key = some inner)
    (hinner : inner.setPath rest v = inner) : j.setPath (key :: rest) v = j := by
  rw [setPath, hkey, Option.getD_some, hinner, set_eq_self h hkey]

theorem copyKey_eq_self (h : j.InOrder) (hkey : j.get? key = source.get? key) : j.copyKey source key = j := by
  unfold copyKey
  cases hv : source.get? key with
  | some v => exact set_eq_self h (hkey.trans hv)
  | none =>
    obtain ⟨d, rfl, hd⟩ := h
    exact congrArg Json.obj (Dict.erase_eq_self (hkey.trans hv))

theorem copyKeys_eq_self (h : j.InOrder) {keys : List String} (hkeys : ∀ key ∈ keys, j.get? key = source.get? key) :
    j.copyKeys source keys = j := by
  unfold copyKeys
  induction keys with
  | nil => rfl
  | cons key keys ih =>
    rw [List.foldl_cons, copyKey_eq_self h (hkeys key List.mem_cons_self)]
    exact ih fun k hk => hkeys k (List.mem_cons_of_mem _ hk)

end Json

end SessionOperator
