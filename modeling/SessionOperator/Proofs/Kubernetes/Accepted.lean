import SessionOperator.Proofs.Decode
import SessionOperator.Proofs.Kubernetes.Patched
import SessionOperator.Proofs.Kubernetes.Path
import SessionOperator.Session.Codec

/-!
# Documents that are accepted

A document of which every part is accepted is accepted, unless a field is left out that nothing stands in for.

* `Schema.Accepts`: the documents of which a value is read;
* `Schema.Accepts.object`, `Schema.Accepts.objectOfSome`: objects, field by field;
* `Schema.Stands.object`: objects that are read as they are.
-/

namespace SessionOperator

namespace Schema

variable {name : String} {s t item : Schema} {key : String} {required : Bool} {j x v : Json} {items : List Json}

/-- A schema in order reads some value of the document. -/
def Accepts (s : Schema) (j : Json) : Prop := s.isOrdered = true → ∃ x, s.decode j = .ok x

theorem accepts_of_decode (h : s.decode j = .ok x) : s.Accepts j := fun _ => ⟨x, h⟩

/-- What was written is accepted. -/
theorem IsValue.accepts_encode (h : s.IsValue x) : s.Accepts (s.encode x) := by
  obtain ⟨j, hx⟩ := h
  intro hs
  obtain ⟨y, hy, -⟩ := isDocument_encode s hs j x hx
  exact ⟨y, hy⟩

/-! ### Fields -/

/-- Each field is one of the record and holds what fits its schema. -/
def EachField (s : Schema) (Fits : Schema → Json → Prop) (fields : List (String × Json)) : Prop :=
  ∀ e ∈ fields, ∃ required t, s.HasField e.1 required t ∧ Fits t e.2

/-- The same for fields of which some have no value. -/
def EachOption (s : Schema) (Fits : Schema → Json → Prop) (options : List (String × Option Json)) : Prop :=
  ∀ e ∈ options, ∃ required t, s.HasField e.1 required t ∧ ∀ v, e.2 = some v → Fits t v

section

variable {Fits : Schema → Json → Prop} {schemas : List (String × Bool × Schema)} {o : Option Json}
  {fields : List (String × Json)} {options : List (String × Option Json)}

theorem EachField.nil : s.EachField Fits [] := by
  intro e he
  cases he

theorem EachField.cons (i : Nat) (hi : schemas[i]? = some (key, required, t)) (hv : Fits t v)
    (hfields : (record name schemas).EachField Fits fields) :
    (record name schemas).EachField Fits ((key, v) :: fields) :=
  List.forall_mem_cons.2 ⟨⟨required, t, .of_getElem? i hi, hv⟩, hfields⟩

theorem EachOption.nil : s.EachOption Fits [] := by
  intro e he
  cases he

theorem EachOption.cons (i : Nat) (hi : schemas[i]? = some (key, required, t)) (ho : ∀ v, o = some v → Fits t v)
    (hoptions : (record name schemas).EachOption Fits options) :
    (record name schemas).EachOption Fits ((key, o) :: options) :=
  List.forall_mem_cons.2 ⟨⟨required, t, .of_getElem? i hi, ho⟩, hoptions⟩

theorem EachOption.cons_some (i : Nat) (hi : schemas[i]? = some (key, required, t)) (hv : Fits t v)
    (hoptions : (record name schemas).EachOption Fits options) :
    (record name schemas).EachOption Fits ((key, some v) :: options) :=
  .cons i hi (fun _ hw => Option.some.inj hw ▸ hv) hoptions

theorem EachOption.cons_map {α : Type} {a? : Option α} {f : α → Json} (i : Nat)
    (hi : schemas[i]? = some (key, required, t)) (hv : ∀ a, a? = some a → Fits t (f a))
    (hoptions : (record name schemas).EachOption Fits options) :
    (record name schemas).EachOption Fits ((key, a?.map f) :: options) := by
  refine .cons i hi (fun v hv' => ?_) hoptions
  obtain ⟨a, ha, rfl⟩ := Option.map_eq_some_iff.1 hv'
  exact hv a ha

/-- The fields that have a value. -/
theorem EachOption.eachField (h : s.EachOption Fits options) :
    s.EachField Fits (options.filterMap fun f => f.2.map fun v => (f.1, v)) := by
  intro e he
  obtain ⟨g, hg, heq⟩ := List.mem_filterMap.1 he
  obtain ⟨v, hv, rfl⟩ := Option.map_eq_some_iff.1 heq
  obtain ⟨required, t, hf, hfits⟩ := h g hg
  exact ⟨required, t, hf, hfits v hv⟩

end

/-! ### Atoms -/

theorem accepts_text (text : String) : Schema.text.Accepts (.str text) := accepts_of_decode rfl

theorem accepts_flag (b : Bool) : flag.Accepts (.bool b) := accepts_of_decode rfl

theorem accepts_int32 {n : Int} (h : -Int.pow 2 31 ≤ n ∧ n < Int.pow 2 31) : int32.Accepts (.int n) := by
  refine accepts_of_decode (x := .int n) ?_
  rw [decode, Decoder.int32_int h, Fallible.map_ok]

theorem accepts_int64 {n : Int} (h : -Int.pow 2 63 ≤ n ∧ n < Int.pow 2 63) : int64.Accepts (.int n) := by
  refine accepts_of_decode (x := .int n) ?_
  rw [decode, Decoder.int64_int h, Fallible.map_ok]

theorem accepts_intOrText {n : Int} (h : -Int.pow 2 31 ≤ n ∧ n < Int.pow 2 31) : intOrText.Accepts (.int n) := by
  refine accepts_of_decode (x := .int n) ?_
  rw [decode, decodeIntOrText, if_pos h]

/-! ### Lists and dictionaries -/

theorem Accepts.list (h : ∀ w ∈ items, item.Accepts w) : (list item).Accepts (.arr items) := by
  intro hs
  rw [isOrdered] at hs
  obtain ⟨xs, hxs⟩ := Fallible.exists_mapM fun w hw => h w hw hs
  exact ⟨.arr xs, decode_list_iff.2 ⟨items, xs, rfl, rfl, Fallible.mapM_eq_ok_iff.1 hxs⟩⟩

theorem decode_texts (ts : List String) : texts.decode (encodeTexts ts) = .ok (encodeTexts ts) := by
  refine decode_list_iff.2 ⟨_, _, rfl, rfl, List.forall₂_same.2 fun w hw => ?_⟩
  obtain ⟨t, -, rfl⟩ := List.mem_map.1 hw
  rfl

theorem accepts_texts (ts : List String) : texts.Accepts (encodeTexts ts) := accepts_of_decode (decode_texts ts)

theorem decode_textDict (ts : Dict String) : textDict.decode (.ofDict ts) = .ok (.ofDict ts) :=
  decode_textDict_iff.2 (Json.isTexts_mapValues ts)

theorem accepts_textDict (ts : Dict String) : textDict.Accepts (.ofDict ts) := accepts_of_decode (decode_textDict ts)

/-! ### Objects -/

variable {schemas : List (String × Bool × Schema)} {fields : List (String × Json)}
  {options : List (String × Option Json)}

/-- What the only field of a name holds in an object is one of the values that are listed under the name. -/
private theorem fits_of_field (hsorted : Dict.Sorted schemas) {f : String × Bool × Schema} (hf : f ∈ schemas)
    {Fits : Schema → Json → Prop} (h : (record name schemas).EachField Fits fields)
    (hv : Dict.get? (Dict.ofList fields) f.1 = some v) : Fits f.2.2 v := by
  obtain ⟨required, t, ⟨_, _, heq, hmem⟩, ht⟩ := h (f.1, v) (Dict.mem_ofList (Dict.mem_of_get?_eq_some hv))
  cases heq
  have hfield : (f.1, required, t) = f := eq_of_name hsorted hmem hf rfl
  rwa [← hfield]

/-- An object is accepted if all its fields are and something stands in for each required one. -/
theorem Accepts.object (hzero : (record name schemas).zero?.isSome = true)
    (h : (record name schemas).EachField Accepts fields) : (record name schemas).Accepts (.object fields) := by
  intro hs
  obtain ⟨hsorted, hordered⟩ := isOrdered_record hs
  rw [zero?, Option.isSome_map] at hzero
  obtain ⟨zs, hzs⟩ := Option.isSome_iff_exists.1 hzero
  have hreads : ∀ f ∈ schemas, ∃ o, Reads f.2.1 f.2.2 (Dict.get? (Dict.ofList fields) f.1) o := by
    intro f hf
    have hind : isIndispensable f.2.1 f.2.2 = false := by
      have hstands := ((zeroFields_eq_some hsorted hzs).2 f hf).1
      cases hrequired : f.2.1 with
      | false => rfl
      | true => simpa [isIndispensable] using Option.isSome_iff_ne_none.2 (hstands hrequired)
    cases hstated : stated? f.2.1 f.2.2 (Dict.get? (Dict.ofList fields) f.1) with
    | some v =>
      have haccepts : f.2.2.Accepts v := fits_of_field hsorted hf h (stated?_eq_some hstated).1
      obtain ⟨x, hx⟩ := haccepts (hordered f hf)
      refine ⟨some x, ?_⟩
      rw [Reads, hstated]
      exact ⟨x, hx, rfl⟩
    | none =>
      refine ⟨if f.2.1 then f.2.2.zero? else none, ?_⟩
      rw [Reads, hstated]
      exact ⟨hind, rfl⟩
  obtain ⟨d, hrecord, hread⟩ := exists_isRecord hsorted hreads
  exact ⟨.obj d, (decode_record_iff hsorted).2 ⟨d, rfl, hrecord, hread⟩⟩

theorem Accepts.objectOfSome (hzero : (record name schemas).zero?.isSome = true)
    (h : (record name schemas).EachOption Accepts options) : (record name schemas).Accepts (.objectOfSome options) :=
  .object hzero h.eachField

/-- The fields of a record that are required. -/
def requiredFields : Schema → List String
  | .record _ fields => (fields.filter (·.2.1)).map (·.1)
  | _ => []

/-- A value that stands in a document as it is. -/
def Stands (s : Schema) (v : Json) : Prop := v ≠ .null ∧ s.Conforms v

theorem stands_text (text : String) : Schema.text.Stands (.str text) := ⟨by simp, rfl⟩

theorem stands_flag (b : Bool) : flag.Stands (.bool b) := ⟨by simp, rfl⟩

theorem stands_texts (ts : List String) : texts.Stands (encodeTexts ts) := ⟨by simp [encodeTexts], decode_texts ts⟩

theorem stands_textDict (ts : Dict String) : textDict.Stands (.ofDict ts) :=
  ⟨by simp [Json.ofDict], decode_textDict ts⟩

/-- An object is read as it is if all its fields are and no required one is left out. -/
theorem Stands.object (hs : (record name schemas).isOrdered = true)
    (hrequired : ∀ key ∈ (record name schemas).requiredFields, key ∈ fields.map (·.1))
    (h : (record name schemas).EachField Stands fields) : (record name schemas).Stands (.object fields) := by
  refine ⟨by simp [Json.object], ?_⟩
  have hsorted := (isOrdered_record hs).1
  have hrecord : IsRecord schemas (Dict.ofList fields) := by
    refine ⟨Dict.sorted_ofList fields, fun key hkey => ?_⟩
    obtain ⟨v, hv⟩ := Option.ne_none_iff_exists'.1 hkey
    obtain ⟨required, t, ⟨_, _, heq, hmem⟩, -⟩ := h (key, v) (Dict.mem_ofList (Dict.mem_of_get?_eq_some hv))
    cases heq
    exact ⟨_, hmem, rfl⟩
  refine (decode_record_iff hsorted).2 ⟨_, rfl, hrecord, fun f hf => ?_⟩
  cases hv : Dict.get? (Dict.ofList fields) f.1 with
  | some v =>
    obtain ⟨hne, hconforms⟩ : f.2.2.Stands v := fits_of_field hsorted hf h hv
    exact (reads_of_ne_null hne).2 ⟨v, hconforms, rfl⟩
  | none =>
    have hoptional : f.2.1 = false := by
      by_contra hne
      have hkey : f.1 ∈ (record name schemas).requiredFields :=
        List.mem_map_of_mem (List.mem_filter.2 ⟨hf, by simpa using hne⟩)
      obtain ⟨e, he, heq⟩ := List.mem_map.1 (hrequired _ hkey)
      exact Dict.get?_ofList_eq_none_iff.1 hv e he heq
    rw [hoptional]
    exact ⟨rfl, rfl⟩

end Schema

end SessionOperator
