import SessionOperator.Kubernetes.Schema
import SessionOperator.Proofs.Dict
import SessionOperator.Proofs.Fallible

/-!
# Records, field by field

A record is read field by field, as long as its schema lists the fields in strict order of their names.  What a field
holds depends on what the document holds under its name and on nothing else.

* `Schema.isOrdered`, `Schema.induct`: the schemas in question, and how to reason about them;
* `Schema.Reads`: what a record holds in a field;
* `Schema.decode_record_iff`: which record a document is read as;
* `Schema.get?_encodeFields`: what the document of a record holds.
-/

namespace SessionOperator

namespace Schema

/-- A schema whose values are their own documents. -/
def isPlain : Schema → Bool
  | .text | .flag | .int32 | .int64 | .intOrText | .any | .constant _ => true
  | _ => false

mutual

/-- The fields of every record stand in strict order of their names, and dictionaries hold plain values only. -/
def isOrdered : Schema → Bool
  | .list item => isOrdered item
  | .dict value => isPlain value
  | .record _ fields => isOrderedFields fields
  | _ => true

def isOrderedFields : List (String × Bool × Schema) → Bool
  | [] => true
  | (key, _, s) :: rest => rest.head?.all (fun f => key < f.1) && (isOrdered s && isOrderedFields rest)

end

/-- A schema that is neither one of lists, nor of dictionaries, nor of records. -/
def isAtom : Schema → Bool
  | .list _ | .dict _ | .record .. => false
  | _ => true

/-- What has to be shown of the schemas of each form to show it of all in order. -/
structure Cases (P : Schema → Prop) : Prop where
  atom : ∀ s, s.isAtom = true → P s
  list : ∀ item, P item → P (.list item)
  dict : ∀ value, value.isPlain = true → P (.dict value)
  record : ∀ name fields, Dict.Sorted fields → (∀ f ∈ fields, f.2.2.isOrdered = true ∧ P f.2.2) →
    P (.record name fields)

private theorem sorted_cons {key : String} {required : Bool} {s : Schema} {rest : List (String × Bool × Schema)}
    (h : rest.head?.all (fun f => key < f.1) = true) (hrest : Dict.Sorted rest) :
    Dict.Sorted ((key, required, s) :: rest) := by
  refine .cons (fun f hf => ?_) hrest
  cases rest with
  | nil => cases hf
  | cons g rest =>
    have hlt : key < g.1 := of_decide_eq_true h
    rcases List.mem_cons.1 hf with rfl | hf
    · exact hlt
    · exact String.lt_trans hlt ((List.pairwise_cons.1 hrest).1 f hf)

mutual

/-- Induction on schemas in order. -/
theorem induct {P : Schema → Prop} (cases : Cases P) : (s : Schema) → s.isOrdered = true → P s
  | .text, _ | .flag, _ | .int32, _ | .int64, _ | .time, _ | .microTime, _ | .intOrText, _ | .base64, _ | .any, _
  | .constant _, _ => cases.atom _ rfl
  | .list item, h => cases.list item (induct cases item (by rwa [isOrdered] at h))
  | .dict value, h => cases.dict value (by rwa [isOrdered] at h)
  | .record name fields, h => by
    rw [isOrdered] at h
    obtain ⟨hsorted, hfields⟩ := inductFields cases fields h
    exact cases.record name fields hsorted hfields

theorem inductFields {P : Schema → Prop} (cases : Cases P) : (fields : List (String × Bool × Schema)) →
    isOrderedFields fields = true → Dict.Sorted fields ∧ ∀ f ∈ fields, f.2.2.isOrdered = true ∧ P f.2.2
  | [], _ => ⟨.nil, by simp⟩
  | (key, required, s) :: rest, h => by
    rw [isOrderedFields, Bool.and_eq_true, Bool.and_eq_true] at h
    obtain ⟨hkey, hs, hrest⟩ := h
    obtain ⟨hsorted, hfields⟩ := inductFields cases rest hrest
    refine ⟨sorted_cons hkey hsorted, fun f hf => ?_⟩
    rcases List.mem_cons.1 hf with rfl | hf
    · exact ⟨hs, induct cases s hs⟩
    · exact hfields f hf

end

/-! ### What a field holds -/

/-- `o` is what a record holds in a field for which its document holds `v`. -/
def Reads (required : Bool) (s : Schema) (v o : Option Json) : Prop :=
  match stated? required s v with
  | some value => ∃ x, s.decode value = .ok x ∧ o = some x
  | none => isIndispensable required s = false ∧ o = if required then s.zero? else none

variable {name : String} {fields : List (String × Bool × Schema)} {required : Bool} {s : Schema}
  {v o o' : Option Json} {content found d : Dict Json} {l : Json}

theorem Reads.unique (h : Reads required s v o) (h' : Reads required s v o') : o = o' := by
  unfold Reads at h h'
  cases hv : stated? required s v with
  | none =>
    rw [hv] at h h'
    exact h.2.trans h'.2.symm
  | some value =>
    rw [hv] at h h'
    obtain ⟨x, hx, rfl⟩ := h
    obtain ⟨x', hx', rfl⟩ := h'
    rw [hx] at hx'
    exact congrArg some (Except.ok.inj hx')

/-- A dictionary in order with no other keys than those of the fields. -/
structure IsRecord (fields : List (String × Bool × Schema)) (d : Dict Json) : Prop where
  sorted : d.Sorted
  names : ∀ key, d.get? key ≠ none → ∃ f ∈ fields, f.1 = key

theorem IsRecord.get?_eq_none (h : IsRecord fields d) {key : String} (hkey : ∀ f ∈ fields, f.1 ≠ key) :
    d.get? key = none := by
  by_contra hne
  obtain ⟨f, hf, heq⟩ := h.names key hne
  exact hkey f hf heq

/-- Records with the same fields are the same. -/
theorem IsRecord.ext {d' : Dict Json} (h : IsRecord fields d) (h' : IsRecord fields d')
    (heq : ∀ f ∈ fields, d.get? f.1 = d'.get? f.1) : d = d' := by
  refine h.sorted.ext h'.sorted fun key => ?_
  by_cases hkey : ∃ f ∈ fields, f.1 = key
  · obtain ⟨f, hf, rfl⟩ := hkey
    exact heq f hf
  · have hnone : ∀ f ∈ fields, f.1 ≠ key := fun f hf h => hkey ⟨f, hf, h⟩
    rw [h.get?_eq_none hnone, h'.get?_eq_none hnone]

theorem IsRecord.skip {f : String × Bool × Schema} (h : IsRecord fields d) : IsRecord (f :: fields) d where
  sorted := h.sorted
  names := by
    intro key hkey
    obtain ⟨g, hg, heq⟩ := h.names key hkey
    exact ⟨g, List.mem_cons_of_mem _ hg, heq⟩

theorem IsRecord.cons {f : String × Bool × Schema} (hsorted : Dict.Sorted (f :: fields)) (h : IsRecord fields d)
    (x : Json) : IsRecord (f :: fields) ((f.1, x) :: d) where
  sorted := by
    refine List.pairwise_cons.2 ⟨fun e he => ?_, h.sorted⟩
    obtain ⟨g, hg, heq⟩ := h.names e.1 (by rw [h.sorted.get?_eq_some_iff.2 he]; simp)
    exact heq ▸ (List.pairwise_cons.1 hsorted).1 g hg
  names := by
    intro key hkey
    by_cases hf : f.1 = key
    · exact ⟨f, List.mem_cons_self, hf⟩
    · rw [Dict.get?, if_neg hf] at hkey
      obtain ⟨g, hg, heq⟩ := h.names key hkey
      exact ⟨g, List.mem_cons_of_mem _ hg, heq⟩

/-- A field that comes before all others holds nothing in a record of the others. -/
theorem IsRecord.get?_head {f : String × Bool × Schema} (hsorted : Dict.Sorted (f :: fields)) (h : IsRecord fields d) :
    d.get? f.1 = none :=
  h.get?_eq_none fun _ hg => (hsorted.head_ne hg).symm

/-- There is a record for every choice of what its fields hold. -/
theorem exists_isRecord {Q : String × Bool × Schema → Option Json → Prop} (hsorted : Dict.Sorted fields)
    (h : ∀ f ∈ fields, ∃ o, Q f o) : ∃ d, IsRecord fields d ∧ ∀ f ∈ fields, Q f (d.get? f.1) := by
  induction fields with
  | nil => exact ⟨[], ⟨.nil, by simp [Dict.get?]⟩, by simp⟩
  | cons f rest ih =>
    obtain ⟨o, ho⟩ := h f List.mem_cons_self
    obtain ⟨d, hd, hq⟩ := ih hsorted.tail fun g hg => h g (List.mem_cons_of_mem _ hg)
    cases o with
    | none =>
      refine ⟨d, hd.skip, fun g hg => ?_⟩
      rcases List.mem_cons.1 hg with rfl | hg
      · rwa [hd.get?_head hsorted]
      · exact hq g hg
    | some x =>
      refine ⟨(f.1, x) :: d, hd.cons hsorted x, fun g hg => ?_⟩
      rcases List.mem_cons.1 hg with rfl | hg
      · rwa [Dict.get?, if_pos rfl]
      · rw [Dict.get?, if_neg (hsorted.head_ne hg)]
        exact hq g hg

/-! ### Reading a record -/

/-- The fields that are found are those that are stated, and all of these can be read. -/
private theorem decodeFields_eq_ok (hsorted : Dict.Sorted fields) (h : decodeFields fields content = .ok found) :
    IsRecord fields found ∧ ∀ f ∈ fields, match stated? f.2.1 f.2.2 (content.get? f.1) with
      | some value => ∃ x, f.2.2.decode value = .ok x ∧ found.get? f.1 = some x
      | none => found.get? f.1 = none := by
  induction fields generalizing found with
  | nil =>
    cases h
    exact ⟨⟨.nil, by simp [Dict.get?]⟩, by simp⟩
  | cons f rest ih =>
    obtain ⟨key, required, s⟩ := f
    unfold decodeFields at h
    split at h
    · rename_i value hstated
      obtain ⟨x, hx, h⟩ := Fallible.bind_eq_ok_iff.1 h
      obtain ⟨others, hothers, h⟩ := Fallible.bind_eq_ok_iff.1 h
      cases h
      obtain ⟨hrecord, hfields⟩ := ih hsorted.tail hothers
      refine ⟨hrecord.cons hsorted x, fun g hg => ?_⟩
      rcases List.mem_cons.1 hg with rfl | hg
      · simp only [hstated]
        exact ⟨x, hx, by simp [Dict.get?]⟩
      · rw [Dict.get?, if_neg (hsorted.head_ne hg)]
        exact hfields g hg
    · rename_i hstated
      obtain ⟨hrecord, hfields⟩ := ih hsorted.tail h
      refine ⟨hrecord.skip, fun g hg => ?_⟩
      rcases List.mem_cons.1 hg with rfl | hg
      · simp only [hstated]
        exact hrecord.get?_head hsorted
      · exact hfields g hg

private theorem decodeFields_ok (h : ∀ f ∈ fields, ∀ value, stated? f.2.1 f.2.2 (content.get? f.1) = some value →
    ∃ x, f.2.2.decode value = .ok x) : ∃ found, decodeFields fields content = .ok found := by
  induction fields with
  | nil => exact ⟨[], rfl⟩
  | cons f rest ih =>
    obtain ⟨key, required, s⟩ := f
    obtain ⟨others, hothers⟩ := ih fun g hg => h g (List.mem_cons_of_mem _ hg)
    unfold decodeFields
    split
    · rename_i value hstated
      obtain ⟨x, hx⟩ := h _ List.mem_cons_self value hstated
      exact ⟨(key, x) :: others, by rw [hothers]; simp only [hx]; rfl⟩
    · exact ⟨others, hothers⟩

/-- What is assembled from the fields that were found is a record with these and the zeros of required ones. -/
private theorem assemble_spec (hsorted : Dict.Sorted fields) (found : Dict Json) :
    IsRecord fields (assemble fields found) ∧ ∀ f ∈ fields,
      (assemble fields found).get? f.1 = (found.get? f.1).or (if f.2.1 then f.2.2.zero? else none) := by
  induction fields with
  | nil => exact ⟨⟨.nil, by simp [assemble, Dict.get?]⟩, by simp⟩
  | cons f rest ih =>
    obtain ⟨key, required, s⟩ := f
    obtain ⟨hrecord, hfields⟩ := ih hsorted.tail
    unfold assemble
    split
    · rename_i value hvalue
      refine ⟨hrecord.cons hsorted value, fun g hg => ?_⟩
      rcases List.mem_cons.1 hg with rfl | hg
      · rw [Dict.get?, if_pos rfl]
        exact hvalue.symm
      · rw [Dict.get?, if_neg (hsorted.head_ne hg)]
        exact hfields g hg
    · rename_i hvalue
      refine ⟨hrecord.skip, fun g hg => ?_⟩
      rcases List.mem_cons.1 hg with rfl | hg
      · exact (hrecord.get?_head hsorted).trans hvalue.symm
      · exact hfields g hg

private theorem missing?_eq_none_iff :
    missing? fields found = none ↔ ∀ f ∈ fields, isIndispensable f.2.1 f.2.2 = true → found.get? f.1 ≠ none := by
  simp [missing?]

/-- Where no indispensable field is missing, what is assembled holds in every field what the document holds there. -/
private theorem assemble_reads (hsorted : Dict.Sorted fields) (hfound : decodeFields fields content = .ok found)
    (hmissing : missing? fields found = none) : IsRecord fields (assemble fields found) ∧
      ∀ f ∈ fields, Reads f.2.1 f.2.2 (content.get? f.1) ((assemble fields found).get? f.1) := by
  obtain ⟨-, hfields⟩ := decodeFields_eq_ok hsorted hfound
  obtain ⟨hrecord, hget⟩ := assemble_spec hsorted found
  refine ⟨hrecord, fun f hf => ?_⟩
  have hstated := hfields f hf
  unfold Reads
  split
  · rename_i value hvalue
    rw [hvalue] at hstated
    obtain ⟨x, hx, hfoundx⟩ := hstated
    exact ⟨x, hx, by rw [hget f hf, hfoundx]; rfl⟩
  · rename_i hvalue
    rw [hvalue] at hstated
    refine ⟨?_, by rw [hget f hf, hstated]; rfl⟩
    rw [Bool.eq_false_iff]
    exact fun hind => missing?_eq_none_iff.1 hmissing f hf hind hstated

private theorem missing?_of_reads (hsorted : Dict.Sorted fields) (hfound : decodeFields fields content = .ok found)
    (hreads : ∀ f ∈ fields, Reads f.2.1 f.2.2 (content.get? f.1) (d.get? f.1)) : missing? fields found = none := by
  obtain ⟨-, hfields⟩ := decodeFields_eq_ok hsorted hfound
  refine missing?_eq_none_iff.2 fun f hf hind => ?_
  have hstated := hfields f hf
  have hread := hreads f hf
  unfold Reads at hread
  split at hread
  · rename_i value hvalue
    rw [hvalue] at hstated
    obtain ⟨x, -, hx⟩ := hstated
    simp [hx]
  · rw [hind] at hread
    cases hread.1

/-- A document is read as the one record of which every field holds what the document holds there. -/
theorem decode_record_iff (hsorted : Dict.Sorted fields) :
    (record name fields).decode (.obj content) = .ok l ↔
      ∃ d : Dict Json, l = .obj d ∧ IsRecord fields d ∧
        ∀ f ∈ fields, Reads f.2.1 f.2.2 (content.get? f.1) (d.get? f.1) := by
  rw [decode, Fallible.bind_eq_ok_iff]
  constructor
  · rintro ⟨found, hfound, h⟩
    split at h
    · cases h
    · rename_i hmissing
      cases h
      exact ⟨_, rfl, assemble_reads hsorted hfound hmissing⟩
  · rintro ⟨d, rfl, hd, hreads⟩
    obtain ⟨found, hfound⟩ : ∃ found, decodeFields fields content = .ok found := by
      refine decodeFields_ok fun f hf value hvalue => ?_
      have hread := hreads f hf
      rw [Reads, hvalue] at hread
      obtain ⟨x, hx, -⟩ := hread
      exact ⟨x, hx⟩
    have hmissing := missing?_of_reads hsorted hfound hreads
    -- two records that hold what the document holds are the same
    obtain ⟨hrecord, hassembled⟩ := assemble_reads hsorted hfound hmissing
    obtain rfl : assemble fields found = d := hrecord.ext hd fun f hf => (hassembled f hf).unique (hreads f hf)
    refine ⟨found, hfound, ?_⟩
    rw [hmissing]

/-! ### The document of a record -/

theorem encode_record (name : String) (fields : List (String × Bool × Schema)) (d : Dict Json) :
    (record name fields).encode (.obj d) = .obj (encodeFields fields d) := by
  rw [encode]

theorem Sorted.encodeFields (h : d.Sorted) : (encodeFields fields d).Sorted := by
  induction fields generalizing d with
  | nil => rwa [Schema.encodeFields]
  | cons f rest ih =>
    obtain ⟨key, required, s⟩ := f
    rw [Schema.encodeFields]
    refine ih ?_
    split
    · exact h.insert _ _
    · exact h

/-- Each field of a document is the document of the field. -/
theorem get?_encodeFields (hsorted : Dict.Sorted fields) (d : Dict Json) (key : String) :
    (encodeFields fields d).get? key =
      (d.get? key).map ((Dict.get? fields key).elim id fun f => f.2.encode) := by
  induction fields generalizing d with
  | nil =>
    rw [encodeFields]
    exact Option.map_id'.symm
  | cons f rest ih =>
    obtain ⟨k, required, s⟩ := f
    rw [encodeFields, ih hsorted.tail, Dict.get?]
    by_cases hk : k = key
    · subst hk
      have hrest : Dict.get? rest k = none := Dict.get?_eq_none_iff.2 fun g hg => (hsorted.head_ne hg).symm
      rw [hrest, if_pos rfl]
      split
      · rename_i value hvalue
        rw [Dict.get?_insert, if_pos rfl, hvalue]
        rfl
      · rename_i hvalue
        rw [hvalue]
        rfl
    · rw [if_neg hk]
      cases d.get? k with
      | none => rfl
      | some value => simp only [Dict.get?_insert, if_neg hk]

theorem get?_encodeFields_of_mem (hsorted : Dict.Sorted fields) {f : String × Bool × Schema} (hf : f ∈ fields)
    (d : Dict Json) : (encodeFields fields d).get? f.1 = (d.get? f.1).map f.2.2.encode := by
  rw [get?_encodeFields hsorted, hsorted.get?_eq_some_iff.2 hf]
  rfl

theorem IsRecord.encodeFields (hsorted : Dict.Sorted fields) (h : IsRecord fields d) :
    IsRecord fields (encodeFields fields d) where
  sorted := Sorted.encodeFields h.sorted
  names := by
    intro key hkey
    refine h.names key fun hnone => hkey ?_
    rw [get?_encodeFields hsorted, hnone]
    rfl

end Schema

end SessionOperator
