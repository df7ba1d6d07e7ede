import SessionOperator.Form
import SessionOperator.Proofs.Fallible
import SessionOperator.Proofs.Json.MergePatch

/-!
# Reading what was written

How decoders read what encoders write, and how records read an object into which a patch was merged.

* `Decoder.list_map`, `Decoder.choice_str`, `Decoder.int32_int`: parts of documents;
* `Record.ofObject`, `Record.required_ofObject`, `Record.withDefault_ofObject`, `Record.optional_ofObject`: records that
  are read from an object, field by field;
* `Record.exists_of_required`, `Record.exists_of_withDefault`, `Record.exists_of_optional`: what was read of a field;
* `Json.get?_mergePatch_object`, `Json.changed_of_ne_obj`: what an object holds after a patch.
-/

namespace SessionOperator

variable {α : Type} {d : Decoder α} {a default : α} {o : Option α} {encode : α → Json} {j v : Json} {key : String}

namespace Decoder

theorem text_str (t : String) : text (.str t) = .ok t := rfl

theorem flag_bool (b : Bool) : flag (.bool b) = .ok b := rfl

theorem int32_int {n : Int} (h : -Int.pow 2 31 ≤ n ∧ n < Int.pow 2 31) : int32 (.int n) = .ok n := by
  rw [int32, integer, if_pos ⟨h.1, Int.le_sub_one_of_lt h.2⟩]

theorem choice_str {variants : List (String × α)} (h : Dict.get? variants key = some a) :
    choice variants (.str key) = .ok a := by
  rw [choice, variant, h]

theorem int64_int {n : Int} (h : -Int.pow 2 63 ≤ n ∧ n < Int.pow 2 63) : int64 (.int n) = .ok n := by
  rw [int64, integer, if_pos ⟨h.1, Int.le_sub_one_of_lt h.2⟩]

private theorem integer_range {low high n : Int} {expected : String} (h : integer low high expected v = .ok n) :
    low ≤ n ∧ n ≤ high := by
  unfold integer at h
  split at h
  · split at h
    · next hrange =>
      cases h
      exact hrange
    · cases h
  · cases h

theorem int32_range {n : Int} (h : int32 v = .ok n) : -Int.pow 2 31 ≤ n ∧ n < Int.pow 2 31 :=
  ⟨(integer_range h).1, Int.lt_of_le_sub_one (integer_range h).2⟩

theorem int64_range {n : Int} (h : int64 v = .ok n) : -Int.pow 2 63 ≤ n ∧ n < Int.pow 2 63 :=
  ⟨(integer_range h).1, Int.lt_of_le_sub_one (integer_range h).2⟩

theorem exists_of_list {as : List α} (h : list d v = .ok as) : ∀ a ∈ as, ∃ w, d w = .ok a := by
  intro a ha
  unfold list at h
  split at h
  · obtain ⟨w, -, hw⟩ := Fallible.exists_of_mem_mapM h ha
    exact ⟨w, hw⟩
  · cases h

theorem dict_mapValues {as : Dict α} (h : ∀ e ∈ as, d (encode e.2) = .ok e.2) :
    dict d (.obj (as.mapValues encode)) = .ok as := by
  rw [dict, Dict.mapValues, Fallible.mapM_eq_ok_iff, List.forall₂_map_left_iff]
  exact List.forall₂_same.2 fun e he => by rw [h e he, Fallible.map_ok]

theorem list_map {as : List α} (h : ∀ a ∈ as, d (encode a) = .ok a) : list d (.arr (as.map encode)) = .ok as := by
  rw [list, Fallible.mapM_eq_ok_iff, List.forall₂_map_left_iff]
  exact List.forall₂_same.2 h

end Decoder

namespace Record

/-- The record that an object is read as. -/
def ofObject (j : Json) : Record := ⟨j.entries, .missingField, false⟩

theorem ofForm_object (form : Form) (fields : List (String × Json)) :
    ofForm form (.object fields) = .ok (ofObject (.object fields)) := rfl

/-- Whatever an object is merged into, an object is read. -/
theorem ofForm_mergePatch (form : Form) (w : Json) (fields : List (String × Json)) :
    ofForm form (w.mergePatch (.object fields)) = .ok (ofObject (w.mergePatch (.object fields))) := by
  rw [Json.object, Json.mergePatch_obj]
  rfl

theorem required_ofObject (hv : j.get? key = some v) (hd : d v = .ok a) : (ofObject j).required key d = .ok a := by
  rw [required, show (ofObject j).fields.get? key = some v from hv]
  exact hd

theorem withDefault_ofObject (hv : j.get? key = some v) (hd : d v = .ok a) :
    (ofObject j).withDefault key default d = .ok a := by
  rw [withDefault, show (ofObject j).fields.get? key = some v from hv]
  exact hd

theorem optional_ofObject_some (hv : j.get? key = some v) (hd : d v = .ok a) (hne : v ≠ .null) :
    (ofObject j).optional key d = .ok (some a) := by
  have hvalue : Decoder.optional d v = .ok (some a) := by
    rw [Decoder.optional, hd, Fallible.map_ok]
    exact hne
  rw [optional, withDefault, show (ofObject j).fields.get? key = some v from hv]
  exact hvalue

/-- An optional field has no value if it is left out or `null`. -/
theorem optional_ofObject (hv : j.get? key = o.map encode ∨ j.get? key = some (Json.orNull (o.map encode)))
    (hd : ∀ a, o = some a → d (encode a) = .ok a ∧ encode a ≠ .null) : (ofObject j).optional key d = .ok o := by
  cases o with
  | none =>
    have hfield : (ofObject j).fields.get? key = none ∨ (ofObject j).fields.get? key = some .null := hv
    rcases hfield with hfield | hfield
    · rw [optional, withDefault, hfield]
    · rw [optional, withDefault, hfield]
      rfl
  | some a =>
    obtain ⟨hread, hne⟩ := hd a rfl
    exact optional_ofObject_some (hv.elim id id) hread hne

/-- In an object a field may be absent that may not be absent from a list. -/
theorem listedOptional_ofObject (j : Json) (key : String) (d : Decoder α) :
    (ofObject j).listedOptional key d = (ofObject j).optional key d := rfl

/-! ### Objects that list their fields -/

section

variable {fields : List (String × Json)} (hnodup : (fields.map (·.1)).Nodup)
include hnodup

theorem required_object (hmem : (key, v) ∈ fields) (hd : d v = .ok a) :
    (ofObject (.object fields)).required key d = .ok a :=
  required_ofObject (Json.get?_object_of_mem hnodup hmem) hd

theorem withDefault_object (hmem : (key, v) ∈ fields) (hd : d v = .ok a) :
    (ofObject (.object fields)).withDefault key default d = .ok a :=
  withDefault_ofObject (Json.get?_object_of_mem hnodup hmem) hd

theorem optional_object (hmem : (key, Json.orNull (o.map encode)) ∈ fields)
    (hd : ∀ a, o = some a → d (encode a) = .ok a ∧ encode a ≠ .null) :
    (ofObject (.object fields)).optional key d = .ok o :=
  optional_ofObject (.inr (Json.get?_object_of_mem hnodup hmem)) hd

end

/-! ### What was read -/

variable {r : Record}

theorem exists_of_required (h : r.required key d = .ok a) : ∃ v, d v = .ok a := by
  unfold required at h
  split at h
  · exact ⟨_, h⟩
  · cases h

theorem exists_of_withDefault (h : r.withDefault key default d = .ok a) : a = default ∨ ∃ v, d v = .ok a := by
  unfold withDefault at h
  split at h
  · exact .inr ⟨_, h⟩
  · exact .inl (Except.ok.inj h).symm

private theorem exists_of_decoderOptional (h : Decoder.optional d v = .ok (some a)) : ∃ w, d w = .ok a := by
  unfold Decoder.optional at h
  split at h
  · cases h
  · obtain ⟨a', ha', heq⟩ := Fallible.map_eq_ok_iff.1 h
    cases heq
    exact ⟨_, ha'⟩

theorem exists_of_optional (h : r.optional key d = .ok o) (ho : o = some a) : ∃ v, d v = .ok a := by
  subst ho
  rcases exists_of_withDefault h with heq | ⟨v, hv⟩
  · cases heq
  · exact exists_of_decoderOptional hv

theorem exists_of_listedOptional (h : r.listedOptional key d = .ok o) (ho : o = some a) : ∃ v, d v = .ok a := by
  unfold listedOptional at h
  split at h
  · obtain ⟨v, hv⟩ := exists_of_required h
    exact exists_of_decoderOptional (ho ▸ hv)
  · exact exists_of_optional h ho

end Record

namespace Json

variable {fields : List (String × Json)} {p : Json}

theorem get?_mergePatch_object (h : (object fields).KeysDistinct) (w : Json) (key : String) :
    (w.mergePatch (object fields)).get? key = changed (w.get? key) ((object fields).get? key) :=
  get?_mergePatch h w key

/-- A value that is neither `null` nor an object replaces what was there. -/
theorem changed_of_ne_obj (hnull : p ≠ .null) (hobj : ∀ changes, p ≠ .obj changes) (held : Option Json) :
    changed held (some p) = some p := by
  rw [changed_some held hnull, mergePatch_of_ne_obj hobj]

end Json

end SessionOperator
