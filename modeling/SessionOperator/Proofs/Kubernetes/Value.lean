import SessionOperator.Proofs.Json
import SessionOperator.Proofs.Kubernetes.Document

/-!
# Values that were read

What is known of a value because it was read through a schema, field by field, and what remains so when one of its
fields is set.

* `Schema.IsValue`: the values that some document is read as;
* `Schema.HasField.reads`, `Schema.HasField.get?_encode`: the fields of a value and of its document;
* `Schema.HasField.isValue_set`: a value with a field set;
* `Schema.HasField.settled_set`: a patch that leaves a value alone does so after other fields have been set.
-/

namespace SessionOperator

namespace Schema

variable {s t : Schema} {key : String} {required : Bool} {j x v y : Json} {changes : List (String × Json)}

/-- A value that some document is read as. -/
def IsValue (s : Schema) (x : Json) : Prop := ∃ j, s.decode j = .ok x

/-- A schema of records with a field of some name. -/
def HasField (s : Schema) (key : String) (required : Bool) (t : Schema) : Prop :=
  ∃ name fields, s = record name fields ∧ (key, required, t) ∈ fields

theorem isOrdered_record {name : String} {fields : List (String × Bool × Schema)}
    (h : (record name fields).isOrdered = true) :
    Dict.Sorted fields ∧ ∀ f ∈ fields, f.2.2.isOrdered = true := by
  rw [isOrdered] at h
  obtain ⟨hsorted, hfields⟩ := inductFields
    { atom := fun _ _ => trivial, list := fun _ _ => trivial, dict := fun _ _ => trivial,
      record := fun _ _ _ _ => trivial : Cases fun _ => True } fields h
  exact ⟨hsorted, fun f hf => (hfields f hf).1⟩

theorem reads_of_ne_null {o : Option Json} (h : y ≠ .null) :
    Reads required s (some y) o ↔ ∃ x, s.decode y = .ok x ∧ o = some x := by
  unfold Reads
  rw [stated?_of_not_null (.inl h)]

/-- What a field holds was read, or stands in for what was left out. -/
theorem Reads.isValue {w : Option Json} (hs : s.isOrdered = true) (h : Reads required s w (some v)) : IsValue s v := by
  unfold Reads at h
  split at h
  · rename_i value _
    obtain ⟨x, hx, heq⟩ := h
    cases heq
    exact ⟨value, hx⟩
  · obtain ⟨-, ho⟩ := h
    split at ho
    · exact ⟨v, (decode_zero s hs v ho.symm).1⟩
    · cases ho

theorem get?_encode_congr (hs : s.isOrdered = true) (hf : s.HasField key required t) {k : String}
    (heq : x.get? k = y.get? k) : (s.encode x).get? k = (s.encode y).get? k := by
  obtain ⟨name, fields, rfl, -⟩ := hf
  have hget : ∀ x : Json, ((record name fields).encode x).get? k =
      (x.get? k).map ((Dict.get? fields k).elim id fun g => g.2.encode) := by
    intro x
    cases x with
    | obj d =>
      rw [encode_record]
      exact get?_encodeFields (isOrdered_record hs).1 d k
    | null | bool b | int n | float bits | str t | arr items =>
      rw [encode]
      · rfl
      all_goals simp
  rw [hget, hget, heq]

namespace HasField

theorem isOrdered (hf : s.HasField key required t) (hs : s.isOrdered = true) : t.isOrdered = true := by
  obtain ⟨name, fields, rfl, hf⟩ := hf
  exact (isOrdered_record hs).2 _ hf

theorem ne_null (hf : s.HasField key required t) (hx : s.decode j = .ok x) : j ≠ .null := by
  obtain ⟨name, fields, rfl, -⟩ := hf
  obtain ⟨content, rfl⟩ := decode_record_shape hx
  simp

theorem reads (hf : s.HasField key required t) (hs : s.isOrdered = true) (hx : s.decode j = .ok x) :
    Reads required t (j.get? key) (x.get? key) := by
  obtain ⟨name, fields, rfl, hf⟩ := hf
  obtain ⟨content, rfl⟩ := decode_record_shape hx
  obtain ⟨d, rfl, -, hreads⟩ := (decode_record_iff (isOrdered_record hs).1).1 hx
  exact hreads _ hf

/-- A field holds the reading of what its document holds. -/
theorem decode_of_get? (hf : s.HasField key required t) (hs : s.isOrdered = true) (hx : s.decode j = .ok x)
    (hv : j.get? key = some v) (hne : v ≠ .null) : ∃ y, t.decode v = .ok y ∧ x.get? key = some y := by
  have hread := hf.reads hs hx
  rw [hv] at hread
  exact (reads_of_ne_null hne).1 hread

/-- A plain field holds what its document holds. -/
theorem get?_of_plain (hf : s.HasField key required t) (hs : s.isOrdered = true) (ht : t.isPlain = true)
    (hx : s.decode j = .ok x) (hv : j.get? key = some v) (hne : v ≠ .null) : x.get? key = some v := by
  obtain ⟨y, hy, hget⟩ := hf.decode_of_get? hs hx hv hne
  rw [hget, decode_plain ht hy]

theorem get?_encode (hf : s.HasField key required t) (hs : s.isOrdered = true) (x : Json) :
    (s.encode x).get? key = (x.get? key).map t.encode := by
  obtain ⟨name, fields, rfl, hf⟩ := hf
  cases x with
  | obj d =>
    rw [encode_record]
    exact get?_encodeFields_of_mem (isOrdered_record hs).1 hf d
  | null | bool b | int n | float bits | str t | arr items =>
    rw [encode]
    · rfl
    all_goals simp

theorem inOrder (hf : s.HasField key required t) (hs : s.isOrdered = true) (hx : s.IsValue x) : x.InOrder := by
  obtain ⟨name, fields, rfl, -⟩ := hf
  obtain ⟨j, hx⟩ := hx
  obtain ⟨content, rfl⟩ := decode_record_shape hx
  obtain ⟨d, rfl, hrecord, -⟩ := (decode_record_iff (isOrdered_record hs).1).1 hx
  exact ⟨d, rfl, hrecord.sorted⟩

theorem isValue (hf : s.HasField key required t) (hs : s.isOrdered = true) (hx : s.IsValue x)
    (hv : x.get? key = some v) : t.IsValue v := by
  obtain ⟨j, hx⟩ := hx
  have hread := hf.reads hs hx
  rw [hv] at hread
  exact hread.isValue (hf.isOrdered hs)

/-- What a field of the document holds is the document of what the field of the value holds. -/
theorem of_get?_encode (hf : s.HasField key required t) (hs : s.isOrdered = true) (hx : s.IsValue x)
    (hv : (s.encode x).get? key = some v) : ∃ y, t.IsValue y ∧ v = t.encode y := by
  rw [hf.get?_encode hs, Option.map_eq_some_iff] at hv
  obtain ⟨y, hy, rfl⟩ := hv
  exact ⟨y, hf.isValue hs hx hy, rfl⟩

/-- A required field that something stands in for always holds something. -/
theorem get?_required (hf : s.HasField key true t) (hs : s.isOrdered = true) (hx : s.IsValue x)
    (hzero : t.zero?.isSome = true) : ∃ v, x.get? key = some v := by
  obtain ⟨j, hx⟩ := hx
  have hread := hf.reads hs hx
  cases hv : x.get? key with
  | some v => exact ⟨v, rfl⟩
  | none =>
    rw [hv] at hread
    unfold Reads at hread
    split at hread
    · obtain ⟨_, -, heq⟩ := hread
      cases heq
    · rw [if_pos rfl] at hread
      rw [← hread.2] at hzero
      cases hzero

end HasField

/-! ### Setting a field -/

theorem eq_of_name {fields : List (String × Bool × Schema)} {f g : String × Bool × Schema}
    (hsorted : Dict.Sorted fields) (hf : f ∈ fields) (hg : g ∈ fields) (heq : f.1 = g.1) : f = g := by
  have hfirst := hsorted.get?_eq_some_iff.2 hf
  rw [heq, hsorted.get?_eq_some_iff.2 hg] at hfirst
  exact Prod.ext heq (Option.some.inj hfirst).symm

/-- A name stands for one field. -/
theorem HasField.unique {required' : Bool} {t' : Schema} (hf : s.HasField key required t) (hs : s.isOrdered = true)
    (hf' : s.HasField key required' t') : t = t' := by
  obtain ⟨name, fields, rfl, hf⟩ := hf
  obtain ⟨_, _, heq, hf'⟩ := hf'
  cases heq
  cases eq_of_name (isOrdered_record hs).1 hf hf' rfl
  rfl

theorem IsRecord.insert {fields : List (String × Bool × Schema)} {f : String × Bool × Schema} {d : Dict Json}
    (h : IsRecord fields d) (hf : f ∈ fields) (v : Json) : IsRecord fields (d.insert f.1 v) where
  sorted := h.sorted.insert f.1 v
  names := by
    intro key hkey
    by_cases heq : f.1 = key
    · exact ⟨f, hf, heq⟩
    · rw [Dict.get?_insert, if_neg heq] at hkey
      exact h.names key hkey

namespace HasField

theorem isValue_set (hf : s.HasField key required t) (hs : s.isOrdered = true) (hx : s.IsValue x)
    (hread : Reads required t (some y) (some v)) : s.IsValue (x.set key v) := by
  obtain ⟨name, fields, rfl, hf⟩ := hf
  have hsorted := (isOrdered_record hs).1
  obtain ⟨j, hx⟩ := hx
  obtain ⟨content, rfl⟩ := decode_record_shape hx
  obtain ⟨d, rfl, hrecord, hreads⟩ := (decode_record_iff hsorted).1 hx
  refine ⟨.obj (Dict.insert key y content), (decode_record_iff hsorted).2 ⟨_, rfl, hrecord.insert hf v, ?_⟩⟩
  intro g hg
  rw [Dict.get?_insert, Dict.get?_insert]
  by_cases heq : key = g.1
  · rw [if_pos heq, if_pos heq, ← eq_of_name hsorted hf hg heq]
    exact hread
  · rw [if_neg heq, if_neg heq]
    exact hreads g hg

/-- A patch that leaves a value alone leaves it alone as well when a field that it does not name has been set to
something that is its own document's reading. -/
theorem settled_set (hf : s.HasField key required t) (hs : s.isOrdered = true)
    (hchanges : Json.KeysDistinctFields changes) (hnew : Dict.get? changes key = none)
    (hread : Reads required t (some (t.encode v)) (some v))
    (hx : s.decode ((s.encode x).mergePatch (.obj changes)) = .ok x) :
    s.decode ((s.encode (x.set key v)).mergePatch (.obj changes)) = .ok (x.set key v) := by
  obtain ⟨name, fields, rfl, hf⟩ := hf
  have hsorted := (isOrdered_record hs).1
  rw [Json.mergePatch_obj] at hx ⊢
  obtain ⟨d, rfl, hrecord, hreads⟩ := (decode_record_iff hsorted).1 hx
  refine (decode_record_iff hsorted).2 ⟨d.insert key v, rfl, hrecord.insert hf v, fun g hg => ?_⟩
  have hg' := hreads g hg
  rw [Json.get?_mergeFields hchanges, encode_record, Json.entries_obj, get?_encodeFields_of_mem hsorted hg] at hg'
  rw [Json.get?_mergeFields hchanges, show Json.set (.obj d) key v = .obj (d.insert key v) from rfl, encode_record,
    Json.entries_obj, get?_encodeFields_of_mem hsorted hg, Dict.get?_insert]
  by_cases heq : key = g.1
  · -- the field that was set, which the patch does not name
    obtain rfl := eq_of_name hsorted hf hg heq
    rw [if_pos rfl, hnew]
    exact hread
  · rw [if_neg heq]
    exact hg'

theorem reread_set (hf : s.HasField key required t) (hs : s.isOrdered = true)
    (hread : Reads required t (some (t.encode v)) (some v)) (hx : s.decode (s.encode x) = .ok x) :
    s.decode (s.encode (x.set key v)) = .ok (x.set key v) := by
  have hnothing : ∀ (w : Json) (content : Dict Json), w = .obj content → w.mergePatch (.obj []) = w := by
    rintro w content rfl
    rw [Json.mergePatch_obj, Json.entries_obj, Json.mergeFields]
  have hset : s.decode ((s.encode x).mergePatch (.obj [])) = .ok x →
      s.decode ((s.encode (x.set key v)).mergePatch (.obj [])) = .ok (x.set key v) :=
    hf.settled_set hs trivial rfl hread
  obtain ⟨name, fields, rfl, -⟩ := hf
  obtain ⟨content, hcontent⟩ := decode_record_shape hx
  have hencode : (record name fields).encode (x.set key v) = _ := encode_record name fields (x.entries.insert key v)
  rw [hnothing _ _ hcontent, hnothing _ _ hencode] at hset
  exact hset hx

/-- A field that a patch does not name is written as before once the patched document has been read. -/
theorem get?_encode_patched (hf : s.HasField key required t) (hs : s.isOrdered = true)
    (hchanges : Json.KeysDistinctFields changes) (hnew : Dict.get? changes key = none) (hx : s.IsValue x)
    (hy : s.decode ((s.encode x).mergePatch (.obj changes)) = .ok y) :
    (s.encode y).get? key = (s.encode x).get? key := by
  have ht := hf.isOrdered hs
  obtain ⟨j, hx⟩ := hx
  obtain ⟨o, ho, heq⟩ := isFieldDocument_encode ht (isDocument_encode t ht) (hf.reads hs hx)
  have hread := hf.reads hs hy
  rw [Json.get?_mergePatch_of_none hchanges hnew, hf.get?_encode hs] at hread
  rw [hf.get?_encode hs, hf.get?_encode hs, hread.unique ho, heq]

end HasField

end Schema

end SessionOperator
