import SessionOperator.Proofs.Json.MergePatch
import SessionOperator.Proofs.Kubernetes.Record
import SessionOperator.Proofs.Time.Rfc3339

/-!
# Documents and patches

A value that was read is written as a document, and the document is read back as a value that is written in the same
way: only digits of times may be lost, and they are lost once.  So a patch that was applied to a document and whose
result was read settles: applied to the document of that result, it gives the same result again.

* `Schema.IsDocument`, `Schema.isDocument_encode`: the documents that values are written to;
* `Schema.decode_zero`: what stands in for a required field reads as itself;
* `Schema.patch_settles`: a patch changes nothing where it was applied before.
-/

namespace SessionOperator

namespace Schema

variable {name : String} {fields : List (String × Bool × Schema)} {required : Bool} {s : Schema} {j x : Json}
  {v o : Option Json}

/-- A document to which some value is written. -/
def IsDocument (s : Schema) (w : Json) : Prop := ∃ x, s.decode w = .ok x ∧ s.encode x = w

/-! ### Plain values -/

theorem encode_plain (h : s.isPlain = true) (j : Json) : s.encode j = j := by
  cases s with
  | text | flag | int32 | int64 | intOrText | any | constant value => simp [encode]
  | time | microTime | base64 | list item | dict value | record name fields => cases h

private theorem integer_eq_ok {low high n : Int} {expected : String}
    (h : Decoder.integer low high expected j = .ok n) : j = .int n := by
  unfold Decoder.integer at h
  split at h
  · split at h
    · exact congrArg Json.int (Except.ok.inj h)
    · cases h
  · cases h

private theorem text_eq_ok {t : String} (h : Decoder.text j = .ok t) : j = .str t := by
  unfold Decoder.text at h
  split at h
  · exact congrArg Json.str (Except.ok.inj h)
  · cases h

theorem decode_plain (h : s.isPlain = true) (hx : s.decode j = .ok x) : x = j := by
  cases s with
  | text =>
    rw [decode, Fallible.map_eq_ok_iff] at hx
    obtain ⟨t, ht, rfl⟩ := hx
    exact (text_eq_ok ht).symm
  | flag =>
    rw [decode, Fallible.map_eq_ok_iff] at hx
    obtain ⟨b, hb, rfl⟩ := hx
    unfold Decoder.flag at hb
    split at hb
    · cases hb
      rfl
    · cases hb
  | int32 | int64 =>
    rw [decode, Fallible.map_eq_ok_iff] at hx
    obtain ⟨n, hn, rfl⟩ := hx
    exact (integer_eq_ok hn).symm
  | intOrText =>
    cases j with
    | str t =>
      cases hx
      rfl
    | int n =>
      rw [decode, decodeIntOrText] at hx
      split at hx
      · cases hx
        rfl
      · cases hx
    | null | bool b | float bits | arr items | obj content => cases hx
  | any =>
    rw [decode] at hx
    exact (Except.ok.inj hx).symm
  | constant value =>
    rw [decode, Fallible.bind_eq_ok_iff] at hx
    obtain ⟨t, -, hx⟩ := hx
    split at hx
    · cases hx
      rfl
    · cases hx
  | time | microTime | base64 | list item | dict value | record name fields => cases h

/-! ### Times -/

theorem decodeTime_eq_ok (h : decodeTime j = .ok x) : ∃ t : Instant, x = .str (t.write .exact) := by
  unfold decodeTime at h
  split at h
  · split at h
    · rename_i t _
      exact ⟨t, (Except.ok.inj h).symm⟩
    · cases h
  · cases h

theorem rewriteTime_write (digits : FractionDigits) (t : Instant) :
    rewriteTime digits (.str (t.write .exact)) = .str (t.write digits) := by
  rw [rewriteTime, Instant.parseLenient_write, Instant.cut_exact]

/-- A time that was written is read back without the digits that were not written, and is written as before. -/
private theorem isDocument_time (digits : FractionDigits) (h : decodeTime j = .ok x) :
    ∃ x', decodeTime (rewriteTime digits x) = .ok x' ∧ rewriteTime digits x' = rewriteTime digits x := by
  obtain ⟨t, rfl⟩ := decodeTime_eq_ok h
  refine ⟨.str ((t.cut digits).write .exact), ?_, ?_⟩
  · rw [rewriteTime_write, decodeTime, Instant.parseLenient_write]
  · rw [rewriteTime_write, rewriteTime_write, Instant.write_cut]

private theorem decodeBase64_empty : decodeBase64 (.str "") = .ok (.str "") := by
  decide +kernel

theorem decodeBase64_eq_ok (h : decodeBase64 j = .ok x) : decodeBase64 x = .ok x ∧ ∃ t, x = .str t := by
  unfold decodeBase64 at h
  split at h
  · cases h
    exact ⟨decodeBase64_empty, "", rfl⟩
  · rename_i t
    split at h
    · rename_i hcheck
      cases h
      exact ⟨by simp [decodeBase64, hcheck], t, rfl⟩
    · cases h
  · cases h

/-! ### The forms of schemas -/

theorem decode_list_iff {item : Schema} : (list item).decode j = .ok x ↔
    ∃ items xs, j = .arr items ∧ x = .arr xs ∧ List.Forall₂ (fun a b => item.decode a = .ok b) items xs := by
  rw [decode, Fallible.map_eq_ok_iff]
  constructor
  · rintro ⟨xs, h, rfl⟩
    unfold Decoder.list at h
    split at h
    · exact ⟨_, xs, rfl, rfl, Fallible.mapM_eq_ok_iff.1 h⟩
    · cases h
  · rintro ⟨items, xs, rfl, rfl, h⟩
    exact ⟨xs, Fallible.mapM_eq_ok_iff.2 h, rfl⟩

theorem decode_dict_plain {value : Schema} (h : value.isPlain = true) (hx : (dict value).decode j = .ok x) :
    x = j ∧ ∃ d, j = .obj d := by
  rw [decode, Fallible.map_eq_ok_iff] at hx
  obtain ⟨d, hd, rfl⟩ := hx
  unfold Decoder.dict at hd
  split at hd
  · rename_i content
    have hsame : List.Forall₂ Eq content d := by
      refine (Fallible.mapM_eq_ok_iff.1 hd).imp fun f g hfg => ?_
      obtain ⟨y, hy, rfl⟩ := Fallible.map_eq_ok_iff.1 hfg
      exact Prod.ext rfl (decode_plain h hy).symm
    rw [List.forall₂_eq_eq_eq] at hsame
    exact ⟨congrArg Json.obj hsame.symm, content, rfl⟩
  · cases hd

theorem encode_dict_plain {value : Schema} (h : value.isPlain = true) (d : Dict Json) :
    (dict value).encode (.obj d) = .obj d := by
  rw [encode]
  refine congrArg Json.obj ((List.map_congr_left fun f _ => ?_).trans (List.map_id d))
  rw [encode_plain h]
  rfl

theorem decode_record_shape (h : (record name fields).decode j = .ok x) : ∃ content, j = .obj content := by
  cases j with
  | obj content => exact ⟨content, rfl⟩
  | null | bool b | int n | float bits | str t | arr items =>
    rw [decode] at h
    · cases h
    · simp

/-- Only an arbitrary value is written as `null`, and then it was read of `null`. -/
theorem eq_any_of_encode_null (hx : s.decode j = .ok x) (hnull : s.encode x = .null) : s = .any ∧ j = .null := by
  by_cases hplain : s.isPlain = true
  · rw [encode_plain hplain] at hnull
    have hj : j = .null := (decode_plain hplain hx).symm.trans hnull
    subst hj
    cases s with
    | any => exact ⟨rfl, rfl⟩
    | text | flag | int32 | int64 | intOrText | constant value => cases hx
    | time | microTime | base64 | list item | dict value | record name fields => cases hplain
  · cases s with
    | text | flag | int32 | int64 | intOrText | any | constant value => exact absurd rfl hplain
    | time | microTime =>
      obtain ⟨t, rfl⟩ := decodeTime_eq_ok hx
      rw [encode, rewriteTime_write] at hnull
      cases hnull
    | base64 =>
      obtain ⟨-, t, rfl⟩ := decodeBase64_eq_ok hx
      rw [encode] at hnull
      · cases hnull
      all_goals simp
    | list item =>
      obtain ⟨items, xs, rfl, rfl, -⟩ := decode_list_iff.1 hx
      rw [encode] at hnull
      cases hnull
    | dict value =>
      rw [decode, Fallible.map_eq_ok_iff] at hx
      obtain ⟨d, -, rfl⟩ := hx
      rw [encode] at hnull
      cases hnull
    | record name fields =>
      obtain ⟨content, rfl⟩ := decode_record_shape hx
      rw [decode, Fallible.bind_eq_ok_iff] at hx
      obtain ⟨found, -, hx⟩ := hx
      split at hx
      · cases hx
      · cases hx
        rw [encode_record] at hnull
        cases hnull

/-! ### Zeros -/

theorem zeroFields_eq_some (hsorted : Dict.Sorted fields) {zs : List (String × Json)}
    (h : zeroFields? fields = some zs) : IsRecord fields zs ∧ ∀ f ∈ fields,
      (f.2.1 = true → f.2.2.zero? ≠ none) ∧ Dict.get? zs f.1 = if f.2.1 then f.2.2.zero? else none := by
  induction fields generalizing zs with
  | nil =>
    cases h
    exact ⟨⟨.nil, by simp [Dict.get?]⟩, by simp⟩
  | cons f rest ih =>
    obtain ⟨key, required, s⟩ := f
    rw [zeroFields?] at h
    obtain ⟨others, hothers, h⟩ := Option.bind_eq_some_iff.1 h
    obtain ⟨hrecord, hfields⟩ := ih hsorted.tail hothers
    cases required with
    | false =>
      cases h
      refine ⟨hrecord.skip, fun g hg => ?_⟩
      rcases List.mem_cons.1 hg with rfl | hg
      · exact ⟨by simp, hrecord.get?_head hsorted⟩
      · exact hfields g hg
    | true =>
      obtain ⟨z, hz, h⟩ := Option.bind_eq_some_iff.1 h
      cases h
      refine ⟨hrecord.cons hsorted z, fun g hg => ?_⟩
      rcases List.mem_cons.1 hg with rfl | hg
      · exact ⟨by simp [hz], by simp [Dict.get?, hz]⟩
      · rw [Dict.get?, if_neg (hsorted.head_ne hg)]
        exact hfields g hg

theorem reads_of_zero (hzero : ∀ z, s.zero? = some z → s.decode z = .ok z)
    (hind : isIndispensable required s = false) (ho : o = if required then s.zero? else none) :
    Reads required s o o := by
  unfold Reads
  cases o with
  | none => exact ⟨hind, ho⟩
  | some z =>
    cases required with
    | false => cases ho
    | true =>
      have hz : s.zero? = some z := ho.symm
      split
      · rename_i value hvalue
        obtain rfl : z = value := by
          unfold stated? at hvalue
          exact Option.some.inj (Option.filter_eq_some_iff.1 hvalue).1
        exact ⟨z, hzero z hz, rfl⟩
      · exact ⟨hind, ho⟩

private theorem decode_zero_record (hsorted : Dict.Sorted fields) {zs : List (String × Json)}
    (hzs : zeroFields? fields = some zs)
    (ih : ∀ f ∈ fields, ∀ z, f.2.2.zero? = some z → f.2.2.decode z = .ok z ∧ f.2.2.encode z = z) :
    (record name fields).decode (.obj zs) = .ok (.obj zs) ∧ (record name fields).encode (.obj zs) = .obj zs := by
  obtain ⟨hrecord, hfields⟩ := zeroFields_eq_some hsorted hzs
  constructor
  · refine (decode_record_iff hsorted).2 ⟨zs, rfl, hrecord, fun f hf => ?_⟩
    obtain ⟨hsome, hget⟩ := hfields f hf
    refine reads_of_zero (fun z hz => (ih f hf z hz).1) ?_ hget
    cases hreq : f.2.1 with
    | false => rfl
    | true => simpa [isIndispensable, Option.isSome_iff_ne_none] using hsome hreq
  · rw [encode_record]
    refine congrArg Json.obj ((hrecord.encodeFields hsorted).ext hrecord fun f hf => ?_)
    rw [get?_encodeFields_of_mem hsorted hf]
    cases hz : Dict.get? zs f.1 with
    | none => rfl
    | some z =>
      -- a field with a value is one with a zero
      have hget := (hfields f hf).2
      rw [hz] at hget
      split at hget
      · rw [Option.map_some, (ih f hf z hget.symm).2]
      · cases hget

/-- What stands in for a required field reads as itself and is its own document. -/
theorem decode_zero : ∀ s : Schema, s.isOrdered = true → ∀ z, s.zero? = some z → s.decode z = .ok z ∧ s.encode z = z :=
  induct {
    atom := by
      intro s hs z hz
      cases s with
      | text | flag | int32 | int64 | intOrText | any | constant value =>
        cases hz
        refine ⟨?_, encode_plain rfl _⟩
        simp [decode, Decoder.text, Decoder.flag, Decoder.int32, Decoder.int64, Decoder.integer, decodeIntOrText,
          Except.map, bind, Except.bind]
      | base64 =>
        cases hz
        exact ⟨decodeBase64_empty, rfl⟩
      | time | microTime => cases hz
      | list item | dict value | record name fields => cases hs
    list := by
      intro item ih z hz
      cases hz
      exact ⟨decode_list_iff.2 ⟨[], [], rfl, rfl, .nil⟩, by rw [encode]; rfl⟩
    dict := by
      intro value hvalue z hz
      cases hz
      exact ⟨rfl, encode_dict_plain hvalue []⟩
    record := by
      intro name fields hsorted ih z hz
      rw [zero?, Option.map_eq_some_iff] at hz
      obtain ⟨zs, hzs, rfl⟩ := hz
      exact decode_zero_record hsorted hzs fun f hf => (ih f hf).2
  }

/-! ### Documents of values that were read -/

/-- What the document of a record holds in a field: what some value of the field is written as. -/
def IsFieldDocument (required : Bool) (s : Schema) (v : Option Json) : Prop :=
  ∃ o, Reads required s v o ∧ o.map s.encode = v

theorem stated?_of_not_null {value : Json} (h : value ≠ .null ∨ ¬allowsNull required s = true) :
    stated? required s (some value) = some value := by
  unfold stated?
  rw [Option.filter_some, if_pos]
  rcases h with h | h <;> simp [h]

theorem stated?_eq_some {value : Json} (h : stated? required s v = some value) :
    v = some value ∧ (value ≠ .null ∨ ¬allowsNull required s = true) := by
  unfold stated? at h
  obtain ⟨hv, hp⟩ := Option.filter_eq_some_iff.1 h
  refine ⟨hv, ?_⟩
  by_cases hnull : value = .null
  · right
    simpa [hnull] using hp
  · exact .inl hnull

theorem getD_of_not_stated (h : stated? required s v = none) : v.getD .null = .null := by
  cases v with
  | none => rfl
  | some value =>
    by_contra hne
    rw [stated?_of_not_null (.inl (show value ≠ .null from hne))] at h
    cases h

/-- A field that was left out holds what it would hold if it were stated in its document. -/
theorem reads_encode_zero (hs : s.isOrdered = true) (hind : isIndispensable required s = false)
    (ho : o = if required then s.zero? else none) : Reads required s (o.map s.encode) o := by
  have henc : o.map s.encode = o := by
    cases o with
    | none => rfl
    | some z =>
      split at ho
      · rw [Option.map_some, (decode_zero s hs z ho.symm).2]
      · cases ho
  rw [henc]
  exact reads_of_zero (fun z hz => (decode_zero s hs z hz).1) hind ho

/-- What a field that was stated holds is stated in its document. -/
theorem stated?_encode {value : Json} (hx : s.decode value = .ok x) (hvalue : stated? required s v = some value) :
    stated? required s (some (s.encode x)) = some (s.encode x) := by
  refine stated?_of_not_null ?_
  by_cases hnull : s.encode x = .null
  · obtain ⟨rfl, rfl⟩ := eq_any_of_encode_null hx hnull
    rcases (stated?_eq_some hvalue).2 with h | h
    · exact absurd rfl h
    · exact .inr h
  · exact .inl hnull

theorem isFieldDocument_encode (hs : s.isOrdered = true)
    (ih : ∀ j x, s.decode j = .ok x → IsDocument s (s.encode x)) (h : Reads required s v o) :
    IsFieldDocument required s (o.map s.encode) := by
  unfold Reads at h
  split at h
  · rename_i value hvalue
    obtain ⟨x, hx, rfl⟩ := h
    obtain ⟨x', hx', henc⟩ := ih value x hx
    refine ⟨some x', ?_, by rw [Option.map_some, henc, Option.map_some]⟩
    have hstated := stated?_encode hx hvalue
    rw [Option.map_some, Reads, hstated]
    exact ⟨x', hx', rfl⟩
  · exact ⟨o, reads_encode_zero hs h.1 h.2, rfl⟩

private theorem isDocument_list {item : Schema} (ih : ∀ j x, item.decode j = .ok x → IsDocument item (item.encode x))
    (hx : (list item).decode j = .ok x) : IsDocument (list item) ((list item).encode x) := by
  obtain ⟨items, xs, rfl, rfl, hall⟩ := decode_list_iff.1 hx
  -- each item is read again, and written as before
  obtain ⟨xs', hxs', henc⟩ : ∃ xs', List.Forall₂ (fun a b => item.decode a = .ok b) (xs.map item.encode) xs' ∧
      xs'.map item.encode = xs.map item.encode := by
    clear hx
    induction hall with
    | nil => exact ⟨[], .nil, rfl⟩
    | @cons a b items xs hab _ ih' =>
      obtain ⟨xs', hxs', henc⟩ := ih'
      obtain ⟨b', hb', henc'⟩ := ih a b hab
      exact ⟨b' :: xs', .cons hb' hxs', by rw [List.map_cons, List.map_cons, henc, henc']⟩
  refine ⟨.arr xs', ?_, by rw [encode, encode, henc]⟩
  rw [encode]
  exact decode_list_iff.2 ⟨_, _, rfl, rfl, hxs'⟩

private theorem isDocument_record (hsorted : Dict.Sorted fields)
    (ih : ∀ f ∈ fields, f.2.2.isOrdered = true ∧ ∀ j x, f.2.2.decode j = .ok x → IsDocument f.2.2 (f.2.2.encode x))
    (hx : (record name fields).decode j = .ok x) :
    IsDocument (record name fields) ((record name fields).encode x) := by
  obtain ⟨content, rfl⟩ := decode_record_shape hx
  obtain ⟨d, rfl, hrecord, hreads⟩ := (decode_record_iff hsorted).1 hx
  -- the fields are read again one by one, and there is a record that holds all of them
  obtain ⟨d', hrecord', hfields⟩ := exists_isRecord hsorted fun f hf =>
    isFieldDocument_encode (ih f hf).1 (ih f hf).2 (hreads f hf)
  refine ⟨.obj d', ?_, ?_⟩
  · rw [encode_record]
    refine (decode_record_iff hsorted).2 ⟨d', rfl, hrecord', fun f hf => ?_⟩
    rw [get?_encodeFields_of_mem hsorted hf]
    exact (hfields f hf).1
  · rw [encode_record, encode_record]
    refine congrArg Json.obj ((hrecord'.encodeFields hsorted).ext (hrecord.encodeFields hsorted) fun f hf => ?_)
    rw [get?_encodeFields_of_mem hsorted hf, get?_encodeFields_of_mem hsorted hf]
    exact (hfields f hf).2

/-- A value that was read is written as a document. -/
theorem isDocument_encode : ∀ s : Schema, s.isOrdered = true → ∀ j x, s.decode j = .ok x → IsDocument s (s.encode x) :=
  induct {
    atom := by
      intro s hs j x hx
      cases s with
      | text | flag | int32 | int64 | intOrText | any | constant value =>
        obtain rfl := decode_plain rfl hx
        rw [encode_plain rfl]
        exact ⟨x, hx, encode_plain rfl x⟩
      | time | microTime =>
        obtain ⟨x', hx', henc⟩ := isDocument_time _ hx
        exact ⟨x', by rwa [decode, encode], by rwa [encode, encode]⟩
      | base64 =>
        obtain ⟨hx', t, rfl⟩ := decodeBase64_eq_ok hx
        exact ⟨.str t, hx', rfl⟩
      | list item | dict value | record name fields => cases hs
    list := by
      intro item ih j x hx
      exact isDocument_list ih hx
    dict := by
      intro value hvalue j x hx
      obtain ⟨rfl, d, rfl⟩ := decode_dict_plain hvalue hx
      rw [encode_dict_plain hvalue]
      exact ⟨.obj d, hx, encode_dict_plain hvalue d⟩
    record := by
      intro name fields hsorted ih j x hx
      exact isDocument_record hsorted ih hx
  }

/-! ### Patches -/

/-- A patch changes nothing in the document of what its application to a document was read as. -/
def PatchesSettle (s : Schema) : Prop :=
  ∀ p : Json, p.KeysDistinct → ∀ w x, IsDocument s w ∨ w = .null → s.decode (w.mergePatch p) = .ok x →
    s.decode ((s.encode x).mergePatch p) = .ok x

private theorem mergePatch_ne_null {w p : Json} (h : p ≠ .null) : w.mergePatch p ≠ .null := by
  cases p with
  | null => exact absurd rfl h
  | obj changes => rw [Json.mergePatch_obj]; simp
  | bool b | int n | float bits | str t | arr items => simp [Json.mergePatch]

/-- Only an object has keys for a patch to change. -/
private theorem decode_patched_atom {w : Json} {changes : List (String × Json)} (hs : s.isAtom = true)
    (hx : s.decode (w.mergePatch (.obj changes)) = .ok x) : s = .any := by
  rw [Json.mergePatch_obj] at hx
  cases s with
  | any => rfl
  | text | flag | int32 | int64 | intOrText | constant value | time | microTime | base64 => cases hx
  | list item | dict value | record name fields => cases hs

/-- A field that a patch was applied to once is left alone by it. -/
private theorem reads_patched (hs : s.isOrdered = true) {w c : Option Json}
    (hw : w = none ∨ IsFieldDocument required s w)
    (ih : PatchesSettle s) (hc : ∀ p, c = some p → p.KeysDistinct)
    (h : Reads required s (Json.changed w c) o) : Reads required s (Json.changed (o.map s.encode) c) o := by
  cases c with
  | none =>
    rcases hw with rfl | ⟨o', ho', rfl⟩
    · exact reads_encode_zero hs h.1 h.2
    · obtain rfl := h.unique ho'
      exact h
  | some p =>
    by_cases hnull : p = .null
    · subst hnull
      exact h
    · have hstated : ∀ w' : Json, stated? required s (some (w'.mergePatch p)) = some (w'.mergePatch p) :=
        fun w' => stated?_of_not_null (.inl (mergePatch_ne_null hnull))
      rw [Json.changed_some _ hnull, Reads, hstated] at h ⊢
      obtain ⟨x, hx, rfl⟩ := h
      refine ⟨x, ih p (hc p rfl) _ x ?_ hx, rfl⟩
      rcases hw with rfl | ⟨o', ho', rfl⟩
      · exact .inr rfl
      · unfold Reads at ho'
        split at ho'
        · rename_i value hvalue
          obtain ⟨x', hx', rfl⟩ := ho'
          have hval := (stated?_eq_some hvalue).1
          rw [Option.map_some, Option.some.injEq] at hval
          exact .inl ⟨x', by rwa [Option.map_some, Option.getD_some, hval], rfl⟩
        · rename_i hvalue
          exact .inr (getD_of_not_stated hvalue)

/-- Only patches that are objects depend on what they are applied to. -/
private theorem PatchesSettle.of_obj (h : ∀ changes, Json.KeysDistinctFields changes → ∀ w x,
    IsDocument s w ∨ w = .null → s.decode (w.mergePatch (.obj changes)) = .ok x →
      s.decode ((s.encode x).mergePatch (.obj changes)) = .ok x) : PatchesSettle s := by
  intro p hp w x hw hx
  by_cases hobj : ∃ changes, p = .obj changes
  · obtain ⟨changes, rfl⟩ := hobj
    exact h changes hp w x hw hx
  · have hne : ∀ changes, p ≠ .obj changes := fun changes heq => hobj ⟨changes, heq⟩
    rwa [Json.mergePatch_of_ne_obj hne] at hx ⊢

/-- A field of the document of a record is a document of the field. -/
private theorem IsDocument.field {w : Json} (hsorted : Dict.Sorted fields) (hw : IsDocument (record name fields) w)
    {f : String × Bool × Schema} (hf : f ∈ fields) : IsFieldDocument f.2.1 f.2.2 (Dict.get? w.entries f.1) := by
  obtain ⟨x, hx, rfl⟩ := hw
  obtain ⟨content, hcontent⟩ := decode_record_shape hx
  rw [hcontent] at hx
  obtain ⟨d, rfl, -, hreads⟩ := (decode_record_iff hsorted).1 hx
  rw [encode_record] at hcontent ⊢
  rw [← Json.obj.inj hcontent] at hreads
  refine ⟨d.get? f.1, hreads f hf, ?_⟩
  rw [Json.entries_obj, get?_encodeFields_of_mem hsorted hf]

theorem patch_settles : ∀ s : Schema, s.isOrdered = true → PatchesSettle s :=
  induct {
    atom := by
      intro s hs
      refine .of_obj fun changes hp w x _ hx => ?_
      obtain rfl := decode_patched_atom hs hx
      obtain rfl := decode_plain rfl hx
      rw [encode_plain rfl, Json.mergePatch_idem (.obj changes) hp]
      exact hx
    list := by
      intro item _
      refine .of_obj fun changes hp w x _ hx => ?_
      rw [Json.mergePatch_obj] at hx
      cases hx
    dict := by
      intro value hvalue
      refine .of_obj fun changes hp w x _ hx => ?_
      obtain ⟨rfl, d, hd⟩ := decode_dict_plain hvalue hx
      rw [hd, encode_dict_plain hvalue, ← hd, Json.mergePatch_idem (.obj changes) hp]
      exact hx
    record := by
      intro name fields hsorted ih
      refine .of_obj fun changes hp w x hw hx => ?_
      rw [Json.mergePatch_obj] at hx
      obtain ⟨d, rfl, hrecord, hreads⟩ := (decode_record_iff hsorted).1 hx
      rw [encode_record, Json.mergePatch_obj]
      refine (decode_record_iff hsorted).2 ⟨d, rfl, hrecord, fun f hf => ?_⟩
      have hread := hreads f hf
      rw [Json.get?_mergeFields hp] at hread
      rw [Json.entries_obj, Json.get?_mergeFields hp, get?_encodeFields_of_mem hsorted hf]
      refine reads_patched (ih f hf).1 ?_ (ih f hf).2 (fun p hp' => Json.KeysDistinctFields.get? hp hp') hread
      rcases hw with hw | rfl
      · exact .inr (hw.field hsorted hf)
      · exact .inl rfl
  }

end Schema

end SessionOperator
