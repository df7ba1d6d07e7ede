import Mathlib.Data.List.Induction
import SessionOperator.Proofs.Kubernetes.Value

/-!
# Values along paths

What an object holds at the end of a path of fields, by what its document holds there.

* `Json.listAt`: the list at the end of a path;
* `Schema.HasPath`: the schema at the end of a path of fields;
* `Schema.HasPath.decode_of_path?`, `Schema.HasPath.path?_of_plain`, `Schema.HasPath.forall₂_listAt`: what is read
  there.
-/

namespace SessionOperator

namespace Json

variable {j : Json} {path : List String} {items : List Json}

/-- Of fields with one name the last one counts. -/
theorem get?_object (fields : List (String × Json)) (key : String) :
    (object fields).get? key = Dict.get? fields.reverse key := by
  induction fields using List.reverseRecOn with
  | nil => rfl
  | append_singleton rest f ih =>
    have hlast : object (rest ++ [f]) = (object rest).set f.1 f.2 := by
      simp [object, Dict.ofList, set]
    rw [hlast, get?_set, ih, List.reverse_append]
    rfl

theorem get?_ofDict (texts : Dict String) (key : String) : (ofDict texts).get? key = (texts.get? key).map .str := by
  rw [get?, ofDict, entries_obj]
  induction texts with
  | nil => rfl
  | cons e rest ih =>
    simp only [Dict.mapValues, List.map_cons, Dict.get?] at ih ⊢
    split
    · rfl
    · exact ih

/-- The list at the end of a path of keys; empty if there is none. -/
def listAt (j : Json) (path : List String) : List Json := ((j.path? path).map Json.items).getD []

theorem listAt_of_path? (h : j.path? path = some (.arr items)) : j.listAt path = items := by
  rw [listAt, h]
  rfl

end Json

namespace Schema

variable {s t u : Schema} {key : String} {required : Bool} {path : List String} {j x v : Json}

theorem HasField.of_getElem? {name : String} {fields : List (String × Bool × Schema)} (i : Nat)
    (h : fields[i]? = some (key, required, t)) : (record name fields).HasField key required t :=
  ⟨name, fields, rfl, List.mem_of_getElem? h⟩

/-- An optional field without a value is absent. -/
theorem HasField.get?_eq_none (hf : s.HasField key false t) (hs : s.isOrdered = true) (hx : s.decode j = .ok x)
    (hv : j.get? key = none) : x.get? key = none := by
  have hread := hf.reads hs hx
  rw [hv] at hread
  exact hread.2

/-- A text is read as it stands. -/
theorem HasField.text?_of_decode (hf : s.HasField key required .text) (hs : s.isOrdered = true)
    (hx : s.decode j = .ok x) {name : String} (hv : j.text? key = some name) : x.text? key = some name := by
  obtain ⟨v, hv, hname⟩ := Option.bind_eq_some_iff.1 hv
  have hne : v ≠ .null := by
    rintro rfl
    cases hname
  rw [Json.text?, hf.get?_of_plain hs rfl hx hv hne]
  exact hname

/-- A path of fields through records. -/
inductive HasPath : Schema → List String → Schema → Prop
  | nil {s : Schema} : HasPath s [] s
  | cons {s t u : Schema} {key : String} {required : Bool} {path : List String} (hf : s.HasField key required t)
      (h : HasPath t path u) : HasPath s (key :: path) u

namespace HasPath

theorem isOrdered (h : s.HasPath path t) (hs : s.isOrdered = true) : t.isOrdered = true := by
  induction h with
  | nil => exact hs
  | cons hf _ ih => exact ih (hf.isOrdered hs)

/-- At the end of a path there is the reading of what the document holds there. -/
theorem decode_of_path? (h : s.HasPath path t) (hs : s.isOrdered = true) (hx : s.decode j = .ok x)
    (hv : j.path? path = some v) (hne : v ≠ .null) : ∃ y, t.decode v = .ok y ∧ x.path? path = some y := by
  induction h generalizing j x with
  | nil =>
    cases hv
    exact ⟨x, hx, rfl⟩
  | @cons _ _ _ key _ path hf h ih =>
    obtain ⟨inner, hinner, hv⟩ := Option.bind_eq_some_iff.1 hv
    have hinner_ne : inner ≠ .null := by
      rintro rfl
      cases path with
      | nil => exact hne (Option.some.inj hv).symm
      | cons key path => cases hv
    obtain ⟨y, hy, hget⟩ := hf.decode_of_get? hs hx hinner hinner_ne
    rw [Json.path?_cons_of_get? hget]
    exact ih (hf.isOrdered hs) hy hv

theorem path?_of_plain (h : s.HasPath path t) (hs : s.isOrdered = true) (ht : t.isPlain = true)
    (hx : s.decode j = .ok x) (hv : j.path? path = some v) (hne : v ≠ .null) : x.path? path = some v := by
  obtain ⟨y, hy, hpath⟩ := h.decode_of_path? hs hx hv hne
  rw [hpath, decode_plain ht hy]

theorem path?_of_dict (h : s.HasPath path (.dict t)) (hs : s.isOrdered = true) (ht : t.isPlain = true)
    (hx : s.decode j = .ok x) (hv : j.path? path = some v) (hne : v ≠ .null) : x.path? path = some v := by
  obtain ⟨y, hy, hpath⟩ := h.decode_of_path? hs hx hv hne
  rw [hpath, (decode_dict_plain ht hy).1]

/-- A list is read item by item. -/
theorem forall₂_listAt (h : s.HasPath path (.list t)) (hs : s.isOrdered = true) (hx : s.decode j = .ok x)
    {items : List Json} (hv : j.path? path = some (.arr items)) :
    List.Forall₂ (fun item y => t.decode item = .ok y) items (x.listAt path) := by
  obtain ⟨y, hy, hpath⟩ := h.decode_of_path? hs hx hv (by simp)
  obtain ⟨items', ys, heq, rfl, hread⟩ := decode_list_iff.1 hy
  cases heq
  rw [Json.listAt_of_path? hpath]
  exact hread

theorem exists_listAt_singleton (h : s.HasPath path (.list t)) (hs : s.isOrdered = true) (hx : s.decode j = .ok x)
    {item : Json} (hv : j.path? path = some (.arr [item])) : ∃ y, x.listAt path = [y] ∧ t.decode item = .ok y := by
  obtain ⟨y, rest, hy, hrest, hlist⟩ := List.forall₂_cons_left_iff.1 (h.forall₂_listAt hs hx hv)
  obtain rfl := List.forall₂_nil_left_iff.1 hrest
  exact ⟨y, hlist, hy⟩

theorem isOrdered_item (h : s.HasPath path (.list t)) (hs : s.isOrdered = true) : t.isOrdered = true := by
  have hlist := h.isOrdered hs
  rwa [Schema.isOrdered] at hlist

end HasPath

end Schema

end SessionOperator
