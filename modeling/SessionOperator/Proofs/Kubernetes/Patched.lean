import SessionOperator.Proofs.Kubernetes.Whole

/-!
# Patched documents

A patch acts on a record field by field: a field that it does not name is read as before, and any other is read of what
the patch makes of it.  An absent record is patched like the one that stands in for it.

* `Schema.HasShape`: the objects that a record may be read as, as far as their fields go;
* `Schema.decode_patched`: what a patched record is read as;
* `Schema.reads_replaced`, `Schema.reads_cleared`, `Schema.reads_orNull`: fields that are written anew or cleared;
* `Schema.HasField.reads_nested`: a field that is patched itself;
* `Schema.decode_textDict_patched`: a dictionary of texts that is patched with another one.
-/

namespace SessionOperator

namespace Schema

variable {s t : Schema} {key : String} {required : Bool} {w x y u z : Json} {v o : Option Json}
  {changes : List (String × Json)}

/-! ### Shapes -/

/-- An object with no other fields than those of the schema. -/
def HasShape (s : Schema) (y : Json) : Prop :=
  ∃ name fields d, s = record name fields ∧ y = .obj d ∧ IsRecord fields d

theorem HasField.hasShape (hf : s.HasField key required t) (hs : s.isOrdered = true) (hx : s.IsValue x) :
    s.HasShape x := by
  obtain ⟨name, fields, rfl, -⟩ := hf
  obtain ⟨j, hx⟩ := hx
  obtain ⟨content, rfl⟩ := decode_record_shape hx
  obtain ⟨d, rfl, hrecord, -⟩ := (decode_record_iff (isOrdered_record hs).1).1 hx
  exact ⟨name, fields, d, rfl, rfl, hrecord⟩

theorem IsRecord.erase {fields : List (String × Bool × Schema)} {d : Dict Json} (h : IsRecord fields d) (key : String) :
    IsRecord fields (d.erase key) where
  sorted := h.sorted.erase key
  names := by
    intro k hk
    rw [Dict.get?_erase] at hk
    split at hk
    · exact absurd rfl hk
    · exact h.names k hk

namespace HasShape

/-- Objects with the same fields are the same. -/
theorem ext (hx : s.HasShape x) (hy : s.HasShape y)
    (h : ∀ key required t, s.HasField key required t → x.get? key = y.get? key) : x = y := by
  obtain ⟨name, fields, d, rfl, rfl, hd⟩ := hx
  obtain ⟨name', fields', d', heq, rfl, hd'⟩ := hy
  cases heq
  exact congrArg Json.obj (hd.ext hd' fun f hf => h f.1 f.2.1 f.2.2 ⟨name, fields, rfl, hf⟩)

theorem set (h : s.HasShape y) (hf : s.HasField key required t) (u : Json) : s.HasShape (y.set key u) := by
  obtain ⟨name, fields, d, rfl, rfl, hrecord⟩ := h
  obtain ⟨name', fields', heq, hf⟩ := hf
  cases heq
  exact ⟨name, fields, Dict.insert key u d, rfl, rfl, hrecord.insert hf u⟩

theorem remove (h : s.HasShape y) (key : String) : s.HasShape (y.remove key) := by
  obtain ⟨name, fields, d, rfl, rfl, hrecord⟩ := h
  exact ⟨name, fields, Dict.erase key d, rfl, rfl, hrecord.erase key⟩

theorem copyKey (h : s.HasShape y) (hf : s.HasField key required t) (source : Json) :
    s.HasShape (y.copyKey source key) := by
  unfold Json.copyKey
  cases source.get? key with
  | some u => exact h.set hf u
  | none => exact h.remove key

theorem copyKeys (h : s.HasShape y) {keys : List String} (hf : ∀ key ∈ keys, ∃ required t, s.HasField key required t)
    (source : Json) : s.HasShape (y.copyKeys source keys) := by
  unfold Json.copyKeys
  induction keys generalizing y with
  | nil => exact h
  | cons key keys ih =>
    obtain ⟨required, t, hkey⟩ := hf key List.mem_cons_self
    exact ih (h.copyKey hkey source) fun k hk => hf k (List.mem_cons_of_mem _ hk)

end HasShape

/-! ### Records -/

/-- A patched record is read as the object that has the old fields where the patch names none, and elsewhere what is
read of what the patch makes of them. -/
theorem decode_patched (hs : s.isOrdered = true) (hx : s.decode w = .ok x) (hshape : s.HasShape y)
    (hchanges : Json.KeysDistinctFields changes) (hkept : ∀ key, Dict.get? changes key = none → y.get? key = x.get? key)
    (hnamed : ∀ e ∈ changes, ∃ required t, s.HasField e.1 required t ∧
      Reads required t (Json.changed (w.get? e.1) (some e.2)) (y.get? e.1)) :
    s.decode (w.mergePatch (.obj changes)) = .ok y := by
  obtain ⟨name, fields, d, rfl, rfl, hrecord⟩ := hshape
  have hsorted := (isOrdered_record hs).1
  rw [Json.mergePatch_obj]
  refine (decode_record_iff hsorted).2 ⟨d, rfl, hrecord, fun f hf => ?_⟩
  rw [Json.get?_mergeFields hchanges]
  cases hc : Dict.get? changes f.1 with
  | none =>
    have hread : Reads f.2.1 f.2.2 (w.get? f.1) (x.get? f.1) := HasField.reads ⟨name, fields, rfl, hf⟩ hs hx
    rw [← hkept f.1 hc] at hread
    exact hread
  | some c =>
    obtain ⟨required, t, ⟨name', fields', heq, hf'⟩, hread⟩ := hnamed (f.1, c) (Dict.mem_of_get?_eq_some hc)
    cases heq
    have hfield : (f.1, required, t) = f := eq_of_name hsorted hf' hf rfl
    rw [← hfield]
    exact hread

/-- A record of which some fields are patched, where `source` holds what they come to hold. -/
theorem decode_copied {fields : List (String × Json)} {source : Json} (hs : s.isOrdered = true)
    (hx : s.decode w = .ok x) (hshape : s.HasShape x) (hdistinct : (Json.object fields).KeysDistinct)
    (h : ∀ f ∈ fields, ∃ required t, s.HasField f.1 required t ∧
      Reads required t (Json.changed (w.get? f.1) (some f.2)) (source.get? f.1)) :
    s.decode (w.mergePatch (.object fields)) = .ok (x.copyKeys source (fields.map (·.1))) := by
  refine decode_patched hs hx (hshape.copyKeys (fun key hkey => ?_) source) hdistinct (fun key hkey => ?_)
    fun f hf => ?_
  · obtain ⟨f, hf, rfl⟩ := List.mem_map.1 hkey
    obtain ⟨required, t, hf, -⟩ := h f hf
    exact ⟨required, t, hf⟩
  · rw [Json.get?_copyKeys, if_neg]
    intro hmem
    obtain ⟨f, hf, heq⟩ := List.mem_map.1 hmem
    exact Dict.get?_ofList_eq_none_iff.1 hkey f hf heq
  · have hf := Dict.mem_ofList hf
    rw [Json.get?_copyKeys, if_pos (List.mem_map_of_mem hf)]
    exact h f hf

/-! ### Fields that are written anew -/

/-- A value that takes the place of another one in a patch. -/
def Replaces (u : Json) : Prop := u ≠ .null ∧ ∀ content, u ≠ .obj content

theorem reads_replaced (hwhole : t.IsWhole u) (hu : Replaces (t.encode u)) :
    Reads required t (Json.changed v (some (t.encode u))) (some u) := by
  rw [Json.changed_some _ hu.1, Json.mergePatch_of_ne_obj hu.2]
  exact (reads_of_ne_null hu.1).2 ⟨u, hwhole, rfl⟩

theorem reads_cleared : Reads false t (Json.changed v (some .null)) none := ⟨rfl, rfl⟩

/-- A field that is written anew if there is something to write, and else cleared. -/
theorem reads_orNull (h : ∀ u, o = some u → t.IsWhole u ∧ Replaces (t.encode u)) :
    Reads false t (Json.changed v (some (Json.orNull (o.map t.encode)))) o := by
  cases o with
  | none => exact reads_cleared
  | some u => exact reads_replaced (h u rfl).1 (h u rfl).2

/-! ### Fields that are patched -/

/-- A field that is left out and patched comes to hold what it would if it held what stands in for it. -/
private theorem reads_left_out {c : Option Json} (hs : s.isOrdered = true) (hz : s.zero? = some z)
    (hc : ∀ p, c = some p → p.KeysDistinct)
    (hpatched : ∀ changes, Json.KeysDistinctFields changes → ∀ y, s.decode (z.mergePatch (.obj changes)) = .ok y →
      s.decode (Json.null.mergePatch (.obj changes)) = .ok y)
    (h : Reads true s (Json.changed (some z) c) o) : Reads true s (Json.changed none c) o := by
  cases c with
  | none =>
    have hind : isIndispensable true s = false := by simp [isIndispensable, hz]
    have hself : Reads true s (some z) (some z) := reads_of_zero (fun z hz => (decode_zero s hs z hz).1) hind hz.symm
    have ho : o = s.zero? := (h.unique hself).trans hz.symm
    exact ⟨hind, ho⟩
  | some p =>
    by_cases hnull : p = .null
    · subst hnull
      exact h
    rw [Json.changed_some _ hnull] at h ⊢
    by_cases hobj : ∃ changes, p = .obj changes
    · obtain ⟨changes, rfl⟩ := hobj
      obtain ⟨x, hx, rfl⟩ := (reads_of_ne_null (by simp [Json.mergePatch_obj])).1 h
      exact (reads_of_ne_null (by simp [Json.mergePatch_obj])).2 ⟨x, hpatched changes (hc _ rfl) x hx, rfl⟩
    · -- what is no object takes the place of whatever is there
      have hne : ∀ changes, p ≠ .obj changes := fun changes heq => hobj ⟨changes, heq⟩
      rwa [Json.mergePatch_of_ne_obj hne] at h ⊢

/-- An absent value is patched like the one that stands in for it. -/
theorem decode_null_patched : ∀ s : Schema, s.isOrdered = true → ∀ z, s.zero? = some z → ∀ changes,
    Json.KeysDistinctFields changes → ∀ y, s.decode (z.mergePatch (.obj changes)) = .ok y →
      s.decode (Json.null.mergePatch (.obj changes)) = .ok y :=
  induct {
    atom := by
      intro s hs z hz changes _ y hy
      cases s with
      | text | flag | int32 | int64 | intOrText | any | constant value | base64 =>
        cases hz
        rwa [Json.mergePatch_obj] at hy ⊢
      | time | microTime => cases hz
      | list item | dict value | record name fields => cases hs
    list := by
      intro item _ z hz changes _ y hy
      cases hz
      rwa [Json.mergePatch_obj] at hy ⊢
    dict := by
      intro value _ z hz changes _ y hy
      cases hz
      rwa [Json.mergePatch_obj] at hy ⊢
    record := by
      intro name fields hsorted ih z hz changes hchanges y hy
      rw [zero?, Option.map_eq_some_iff] at hz
      obtain ⟨zs, hzs, rfl⟩ := hz
      rw [Json.mergePatch_obj] at hy ⊢
      obtain ⟨d, rfl, hrecord, hreads⟩ := (decode_record_iff hsorted).1 hy
      refine (decode_record_iff hsorted).2 ⟨d, rfl, hrecord, fun f hf => ?_⟩
      have hread := hreads f hf
      obtain ⟨hzero, hheld⟩ := (zeroFields_eq_some hsorted hzs).2 f hf
      rw [Json.get?_mergeFields hchanges, Json.entries_obj, hheld] at hread
      rw [Json.get?_mergeFields hchanges]
      show Reads f.2.1 f.2.2 (Json.changed none (Dict.get? changes f.1)) (d.get? f.1)
      cases hreq : f.2.1 with
      | false => simpa [hreq] using hread
      | true =>
        obtain ⟨z, hz⟩ := Option.ne_none_iff_exists'.1 (hzero hreq)
        rw [hreq, hz] at hread
        exact reads_left_out (ih f hf).1 hz (fun p hp => Json.KeysDistinctFields.get? hchanges hp)
          ((ih f hf).2 z hz) hread
  }

/-- What a field comes to hold that is patched itself, where `z` stands in for an absent value. -/
theorem HasField.reads_nested (hf : s.HasField key required t) (hs : s.isOrdered = true) (hx : s.decode w = .ok x)
    (hz : t.zero? = some z) (hchanges : Json.KeysDistinctFields changes)
    (h : ∀ w', t.decode w' = .ok ((x.get? key).getD z) → t.decode (w'.mergePatch (.obj changes)) = .ok u) :
    Reads required t (Json.changed (w.get? key) (some (.obj changes))) (some u) := by
  have ht := hf.isOrdered hs
  have hread := hf.reads hs hx
  rw [Json.changed_some _ (by simp)]
  refine (reads_of_ne_null (by simp [Json.mergePatch_obj])).2 ⟨u, ?_, rfl⟩
  unfold Reads at hread
  split at hread
  · rename_i value hvalue
    obtain ⟨x', hx', heq⟩ := hread
    rw [(stated?_eq_some hvalue).1]
    exact h value (by rw [heq]; exact hx')
  · -- nothing is stated, and the value that stands in reads as itself
    rename_i hvalue
    have hheld : (x.get? key).getD z = z := by
      rw [hread.2]
      split
      · rw [hz, Option.getD_some]
      · rfl
    rw [getD_of_not_stated hvalue]
    refine decode_null_patched t ht z hz changes hchanges u (h z ?_)
    rw [hheld]
    exact (decode_zero t ht z hz).1

/-- A record of which one field is patched. -/
theorem HasField.decode_patched (hf : s.HasField key required t) (hs : s.isOrdered = true) (hx : s.decode w = .ok x)
    (hz : t.zero? = some z) (hchanges : Json.KeysDistinctFields changes)
    (h : ∀ w', t.decode w' = .ok ((x.get? key).getD z) → t.decode (w'.mergePatch (.obj changes)) = .ok u) :
    s.decode (w.mergePatch (.obj [(key, .obj changes)])) = .ok (x.set key u) := by
  refine Schema.decode_patched hs hx ((hf.hasShape hs ⟨w, hx⟩).set hf u) ?_ (fun k hk => ?_) ?_
  · exact ⟨by simp, hchanges, trivial⟩
  · have hne : key ≠ k := by
      rintro rfl
      simp [Dict.get?] at hk
    rw [Json.get?_set, if_neg hne]
  · refine List.forall_mem_singleton.2 ⟨required, t, hf, ?_⟩
    rw [Json.get?_set, if_pos rfl]
    exact hf.reads_nested hs hx hz hchanges h

/-! ### Dictionaries of texts -/

theorem decode_textDict_iff {d : Dict Json} : textDict.decode (.obj d) = .ok (.obj d) ↔ Json.IsTexts d := by
  have hentry : ∀ e : String × Json, ((Schema.text.decode e.2).map fun v => (e.1, v)) = .ok e ↔ ∃ t, e.2 = .str t := by
    rintro ⟨key, value⟩
    cases value <;> simp [decode, Decoder.text, Except.map]
  have hdecode : textDict.decode (.obj d) =
      (List.mapM (fun e : String × Json => (Schema.text.decode e.2).map fun v => (e.1, v)) d).map Json.obj := by
    rw [textDict, decode]
    rfl
  rw [hdecode, Fallible.map_eq_ok_iff]
  constructor
  · rintro ⟨d', hd', heq⟩
    cases heq
    exact fun e he => (hentry e).1 (List.forall₂_same.1 (Fallible.mapM_eq_ok_iff.1 hd') e he)
  · exact fun h => ⟨d, Fallible.mapM_eq_ok_iff.2 (List.forall₂_same.2 fun e he => (hentry e).2 (h e he)), rfl⟩

/-- A dictionary of texts that is patched with another one. -/
theorem decode_textDict_patched {texts : Dict Json} (htexts : Json.IsTexts texts) (hx : textDict.decode w = .ok x) :
    textDict.decode (w.mergePatch (.obj texts)) = .ok (x.mergePatch (.obj texts)) := by
  obtain ⟨rfl, d, rfl⟩ := decode_dict_plain rfl hx
  exact decode_textDict_iff.2 ((decode_textDict_iff.1 hx).mergeFields htexts)

end Schema

end SessionOperator
