import SessionOperator.Json.MergePatch
import SessionOperator.Proofs.Json

/-!
# Merge patches, key by key

A patch in which no object names a key twice changes each key of its target on its own, and to apply it twice is to
apply it once.

* `applyChange`, `changed`: what a patch does with one key;
* `get?_mergeFields`: what a key holds after a patch;
* `mergePatch_idem`: patches are idempotent, whatever they are applied to;
* `IsTexts.get?_mergeFields`: a patch of texts adds keys and clears none.
-/

namespace SessionOperator

namespace Json

/-- One key of a merge patch. -/
def applyChange (d : Dict Json) (key : String) (change : Json) : Dict Json :=
  if change = .null then d.erase key else d.insert key (mergePatch ((d.get? key).getD .null) change)

mutual

/-- No object names a key twice; what stands in lists does not matter. -/
def KeysDistinct : Json → Prop
  | .obj fields => KeysDistinctFields fields
  | _ => True

def KeysDistinctFields : List (String × Json) → Prop
  | [] => True
  | (key, value) :: rest => (∀ e ∈ rest, e.1 ≠ key) ∧ KeysDistinct value ∧ KeysDistinctFields rest

end

/-- What a key holds after a patch: it is left alone, cleared or patched itself. -/
def changed (held change : Option Json) : Option Json :=
  match change with
  | none => held
  | some .null => none
  | some p => some ((held.getD .null).mergePatch p)

variable {d : Dict Json} {key k : String} {change c : Json} {changes rest : List (String × Json)}

@[simp]
theorem entries_obj (fields : List (String × Json)) : (obj fields).entries = fields := rfl

theorem mergePatch_obj (w : Json) (changes : List (String × Json)) :
    mergePatch w (.obj changes) = .obj (mergeFields w.entries changes) := by
  rw [mergePatch]

/-- A patch that is no object takes the place of its target. -/
theorem mergePatch_of_ne_obj {p : Json} (h : ∀ changes, p ≠ .obj changes) (w : Json) : mergePatch w p = p := by
  cases p with
  | obj changes => exact absurd rfl (h changes)
  | null | bool b | int n | float bits | str t | arr items => simp [mergePatch]

theorem mergeFields_cons (d : Dict Json) (key : String) (change : Json) (rest : List (String × Json)) :
    mergeFields d ((key, change) :: rest) = mergeFields (applyChange d key change) rest := by
  cases change <;> simp [mergeFields, applyChange]

theorem changed_some (held : Option Json) (hne : change ≠ .null) :
    changed held (some change) = some ((held.getD .null).mergePatch change) := by
  cases change with
  | null => exact absurd rfl hne
  | bool b | int n | float bits | str t | arr items | obj fields => rfl

theorem get?_applyChange (d : Dict Json) (key k : String) (change : Json) :
    (applyChange d key change).get? k = if key = k then changed (d.get? key) (some change) else d.get? k := by
  unfold applyChange
  by_cases hnull : change = .null
  · simp [hnull, Dict.get?_erase, changed]
  · simp [hnull, Dict.get?_insert, changed_some]

theorem get?_mergeFields (h : KeysDistinctFields changes) (d : Dict Json) (k : String) :
    (mergeFields d changes).get? k = changed (d.get? k) (Dict.get? changes k) := by
  induction changes generalizing d with
  | nil => rfl
  | cons entry rest ih =>
    obtain ⟨key, change⟩ := entry
    obtain ⟨hnew, -, hrest⟩ := h
    rw [mergeFields_cons, ih hrest, get?_applyChange, Dict.get?]
    by_cases hk : key = k
    · -- the key is not named again
      subst hk
      rw [Dict.get?_eq_none_iff.2 hnew]
      simp [changed]
    · simp only [if_neg hk]

theorem get?_mergePatch (h : KeysDistinctFields changes) (w : Json) (k : String) :
    (w.mergePatch (.obj changes)).get? k = changed (w.get? k) (Dict.get? changes k) := by
  rw [mergePatch_obj]
  exact get?_mergeFields h w.entries k

/-- Where a patch says nothing it leaves its target as it is. -/
theorem get?_mergePatch_of_none (h : KeysDistinctFields changes) (hkey : Dict.get? changes k = none) (w : Json) :
    (w.mergePatch (.obj changes)).get? k = w.get? k := by
  rw [get?_mergePatch h, hkey]
  rfl

/-- A patch of one field. -/
theorem mergePatch_field {w v p : Json} (hv : w.get? key = some v) (hp : p ≠ .null) :
    w.mergePatch (object [(key, p)]) = w.set key (v.mergePatch p) := by
  have hheld : w.entries.get? key = some v := hv
  rw [show object [(key, p)] = .obj [(key, p)] from rfl, mergePatch_obj, mergeFields_cons, mergeFields, applyChange,
    if_neg hp, hheld, Option.getD_some]
  rfl

/-! ### Idempotence -/

theorem applyChange_self (h : ∀ w, mergePatch (mergePatch w change) change = mergePatch w change) (d : Dict Json) :
    applyChange (applyChange d key change) key change = applyChange d key change := by
  unfold applyChange
  by_cases hnull : change = .null
  · simp only [hnull, if_true]
    exact Dict.erase_eq_self (by simp [Dict.get?_erase])
  · simp only [hnull, if_false]
    rw [Dict.get?_insert, if_pos rfl, Option.getD_some, h, Dict.insert_insert]

/-- A key that a change leaves alone is left alone after a change of another key as well. -/
theorem applyChange_comm (h : applyChange d key change = d) (hne : key ≠ k) (c : Json) :
    applyChange (applyChange d k c) key change = applyChange d k c := by
  have hget : (applyChange d k c).get? key = d.get? key := by rw [get?_applyChange, if_neg (Ne.symm hne)]
  by_cases hnull : change = .null
  · subst hnull
    have hnone : d.get? key = none := by
      rw [← h, get?_applyChange, if_pos rfl]
      rfl
    rw [applyChange, if_pos rfl]
    exact Dict.erase_eq_self (hget.trans hnone)
  · rw [applyChange, if_neg hnull] at h ⊢
    rw [hget]
    unfold applyChange
    split
    · exact Dict.insert_erase_fixed h hne
    · exact Dict.insert_comm_fixed h hne _

theorem applyChange_mergeFields (h : applyChange d key change = d) (hnew : ∀ e ∈ rest, e.1 ≠ key) :
    applyChange (mergeFields d rest) key change = mergeFields d rest := by
  induction rest generalizing d with
  | nil => exact h
  | cons entry rest ih =>
    obtain ⟨k, c⟩ := entry
    rw [mergeFields_cons]
    exact ih (applyChange_comm h (Ne.symm (hnew _ List.mem_cons_self)) c) fun e he =>
      hnew e (List.mem_cons_of_mem _ he)

theorem mergeFields_fixed (h : ∀ e ∈ changes, applyChange d e.1 e.2 = d) : mergeFields d changes = d := by
  induction changes with
  | nil => rfl
  | cons entry rest ih =>
    obtain ⟨key, change⟩ := entry
    rw [mergeFields_cons, h _ List.mem_cons_self]
    exact ih fun e he => h e (List.mem_cons_of_mem _ he)

mutual

theorem mergePatch_idem : (p : Json) → KeysDistinct p → ∀ w, mergePatch (mergePatch w p) p = mergePatch w p
  | .obj changes, h, w => by
    rw [mergePatch_obj, mergePatch_obj, entries_obj, mergeFields_fixed (mergeFields_settled changes h w.entries)]
  | .null, _, _ | .bool _, _, _ | .int _, _, _ | .float _, _, _ | .str _, _, _ | .arr _, _, _ => by simp [mergePatch]

/-- After a patch none of its changes changes anything. -/
theorem mergeFields_settled : (changes : List (String × Json)) → KeysDistinctFields changes → ∀ d : Dict Json,
    ∀ e ∈ changes, applyChange (mergeFields d changes) e.1 e.2 = mergeFields d changes
  | [], _, _, e, he => nomatch he
  | (key, change) :: rest, h, d, e, he => by
    obtain ⟨hnew, hchange, hrest⟩ := h
    rw [mergeFields_cons]
    rcases List.mem_cons.1 he with rfl | he
    · exact applyChange_mergeFields (applyChange_self (mergePatch_idem change hchange) d) hnew
    · exact mergeFields_settled rest hrest _ e he

end

theorem KeysDistinctFields.get? {p : Json} (h : KeysDistinctFields changes) (hp : Dict.get? changes key = some p) :
    p.KeysDistinct := by
  induction changes with
  | nil => cases hp
  | cons entry rest ih =>
    obtain ⟨k, change⟩ := entry
    rw [Dict.get?] at hp
    split at hp
    · cases hp
      exact h.2.1
    · exact ih h.2.2 hp

/-! ### Dictionaries of texts -/

/-- A dictionary of which all values are texts. -/
def IsTexts (d : Dict Json) : Prop := ∀ e ∈ d, ∃ t, e.2 = .str t

theorem isTexts_mapValues (texts : Dict String) : IsTexts (texts.mapValues .str) := by
  intro e he
  obtain ⟨f, -, rfl⟩ := List.mem_map.1 he
  exact ⟨f.2, rfl⟩

theorem IsTexts.mergeFields (hd : IsTexts d) (hc : IsTexts changes) : IsTexts (mergeFields d changes) := by
  induction changes generalizing d with
  | nil => exact hd
  | cons entry rest ih =>
    obtain ⟨key, change⟩ := entry
    obtain ⟨t, ht⟩ := hc _ List.mem_cons_self
    rw [mergeFields_cons]
    refine ih (fun e he => ?_) fun e he => hc e (List.mem_cons_of_mem _ he)
    obtain rfl : change = .str t := ht
    rcases Dict.mem_insert (show e ∈ d.insert key (.str t) by simpa [applyChange, mergePatch] using he) with rfl | he
    · exact ⟨t, rfl⟩
    · exact hd e he

theorem sorted_mergeFields (h : d.Sorted) : (mergeFields d changes).Sorted := by
  induction changes generalizing d with
  | nil => exact h
  | cons entry rest ih =>
    rw [mergeFields_cons]
    refine ih ?_
    unfold applyChange
    split
    · exact h.erase _
    · exact h.insert _ _

/-- A patch of texts adds its keys and keeps all others. -/
theorem IsTexts.get?_mergeFields (hc : IsTexts changes) (hdistinct : KeysDistinctFields changes) (d : Dict Json)
    (k : String) : (Json.mergeFields d changes).get? k = (Dict.get? changes k).or (d.get? k) := by
  rw [Json.get?_mergeFields hdistinct]
  cases hget : Dict.get? changes k with
  | none => rfl
  | some c =>
    obtain ⟨t, rfl⟩ := hc _ (Dict.mem_of_get?_eq_some hget)
    simp [changed, mergePatch]

/-! ### Patches that name no key twice -/

theorem keysDistinct_of_sorted {fields : Dict Json} (h : fields.Sorted) (hvalues : ∀ f ∈ fields, f.2.KeysDistinct) :
    (obj fields).KeysDistinct := by
  rw [KeysDistinct]
  induction fields with
  | nil => trivial
  | cons f rest ih =>
    obtain ⟨key, value⟩ := f
    rw [KeysDistinctFields]
    exact ⟨fun e he => (h.head_ne he).symm, hvalues _ List.mem_cons_self,
      ih (List.pairwise_cons.1 h).2 fun e he => hvalues e (List.mem_cons_of_mem _ he)⟩

theorem keysDistinct_object {fields : List (String × Json)} (h : ∀ f ∈ fields, f.2.KeysDistinct) :
    (object fields).KeysDistinct :=
  keysDistinct_of_sorted (Dict.sorted_ofList fields) fun f hf => h f (Dict.mem_ofList hf)

theorem KeysDistinct.of_mem_object {fields : List (String × Json)} {p : Json} (h : (object fields).KeysDistinct)
    (hnodup : (fields.map (·.1)).Nodup) (hmem : (key, p) ∈ fields) : p.KeysDistinct :=
  KeysDistinctFields.get? h (get?_object_of_mem hnodup hmem)

theorem keysDistinct_objectOfSome {fields : List (String × Option Json)}
    (h : ∀ f ∈ fields, ∀ v, f.2 = some v → v.KeysDistinct) : (objectOfSome fields).KeysDistinct := by
  refine keysDistinct_object fun f hf => ?_
  obtain ⟨g, hg, heq⟩ := List.mem_filterMap.1 hf
  obtain ⟨v, hv, rfl⟩ := Option.map_eq_some_iff.1 heq
  exact h g hg v hv

theorem IsTexts.keysDistinct {texts : Dict Json} (h : IsTexts texts) (hsorted : texts.Sorted) :
    (obj texts).KeysDistinct := by
  refine keysDistinct_of_sorted hsorted fun e he => ?_
  obtain ⟨t, ht⟩ := h e he
  rw [ht]
  trivial

theorem keysDistinct_ofDict {texts : Dict String} (h : texts.Sorted) : (ofDict texts).KeysDistinct := by
  refine keysDistinct_of_sorted (h.mapValues Json.str) fun f hf => ?_
  obtain ⟨e, -, rfl⟩ := List.mem_map.1 hf
  trivial

end Json

end SessionOperator
