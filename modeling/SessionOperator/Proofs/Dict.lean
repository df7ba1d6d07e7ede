import SessionOperator.Dict

/-!
# Dictionaries as functions

A dictionary in order is determined by what its keys hold, and an update that changes nothing leaves it as it is.

* `Sorted.ext`: two dictionaries in order that hold the same are the same;
* `Sorted.insert_eq_self`, `erase_eq_self`: updates that change nothing;
* `insert_comm_fixed`, `insert_erase_fixed`: an update that changes nothing still changes nothing after one of another
  key, whatever the order of the keys.
-/

namespace SessionOperator

namespace Dict

variable {α : Type u} {β : Type v} {d e : Dict α} {key k : String} {value v : α}

theorem mem_of_get?_eq_some (h : d.get? key = some value) : (key, value) ∈ d := by
  induction d with
  | nil => cases h
  | cons entry rest ih =>
    obtain ⟨k, v⟩ := entry
    unfold get? at h
    split at h
    · rename_i hk
      cases h
      exact hk ▸ List.mem_cons_self
    · exact List.mem_cons_of_mem _ (ih h)

theorem get?_eq_none_iff : d.get? key = none ↔ ∀ entry ∈ d, entry.1 ≠ key := by
  induction d with
  | nil => simp [get?]
  | cons entry rest ih =>
    obtain ⟨k, v⟩ := entry
    by_cases hk : k = key
    · simp [get?, hk]
    · simp [get?, hk, ih]

theorem Sorted.get?_eq_some_iff (h : d.Sorted) : d.get? key = some value ↔ (key, value) ∈ d := by
  refine ⟨mem_of_get?_eq_some, fun hmem => ?_⟩
  induction d with
  | nil => cases hmem
  | cons entry rest ih =>
    obtain ⟨k, v⟩ := entry
    obtain ⟨hk, hrest⟩ := List.pairwise_cons.1 h
    rcases List.mem_cons.1 hmem with heq | hmem
    · cases heq
      simp [get?]
    · have hlt := hk _ hmem
      rw [get?, if_neg (fun heq : k = key => String.lt_irrefl k (heq ▸ hlt))]
      exact ih hrest hmem

theorem Sorted.head_ne {entry entry' : String × α} {rest : Dict α} (h : Sorted (entry :: rest)) (hmem : entry' ∈ rest) :
    entry.1 ≠ entry'.1 :=
  fun heq => String.lt_irrefl entry'.1 (heq ▸ (List.pairwise_cons.1 h).1 entry' hmem)

/-- The first key of a dictionary in order stands before every other key that holds something. -/
private theorem Sorted.lt_of_get? {entry : String × α} {rest : Dict α} (h : Sorted (entry :: rest))
    (hk : get? (entry :: rest) key = some value) (hne : entry.1 ≠ key) : entry.1 < key := by
  obtain ⟨k, v⟩ := entry
  rw [get?, if_neg hne] at hk
  exact (List.pairwise_cons.1 h).1 _ (mem_of_get?_eq_some hk)

theorem Sorted.ext (hd : d.Sorted) (he : e.Sorted) (h : ∀ key, d.get? key = e.get? key) : d = e := by
  induction d generalizing e with
  | nil =>
    cases e with
    | nil => rfl
    | cons entry rest =>
      have := h entry.1
      simp [get?] at this
  | cons entry rest ih =>
    cases e with
    | nil =>
      have := h entry.1
      simp [get?] at this
    | cons entry' rest' =>
      have hfirst : get? (entry :: rest) entry.1 = some entry.2 := by simp [get?]
      have hfirst' : get? (entry' :: rest') entry'.1 = some entry'.2 := by simp [get?]
      have hkey : entry.1 = entry'.1 := by
        refine Decidable.byContradiction fun hne => ?_
        -- each first key would stand before the other
        have hlt := Sorted.lt_of_get? hd ((h entry'.1).trans hfirst') hne
        have hlt' := Sorted.lt_of_get? he ((h entry.1).symm.trans hfirst) (Ne.symm hne)
        exact String.lt_irrefl _ (String.lt_trans hlt hlt')
      have hvalue : entry = entry' := by
        rw [h entry.1, hkey, hfirst'] at hfirst
        exact Prod.ext hkey (Option.some.inj hfirst).symm
      subst hvalue
      obtain ⟨hk, hrest⟩ := List.pairwise_cons.1 hd
      obtain ⟨hk', hrest'⟩ := List.pairwise_cons.1 he
      refine congrArg _ (ih hrest hrest' fun key => ?_)
      by_cases hkey : entry.1 = key
      · -- the first key does not come back
        have hnone : ∀ r : Dict α, (∀ a ∈ r, entry.1 < a.1) → r.get? key = none := by
          intro r hr
          rw [get?_eq_none_iff]
          intro a ha heq
          exact String.lt_irrefl key (by simpa [← heq, hkey] using hr a ha)
        rw [hnone rest hk, hnone rest' hk']
      · have := h key
        rwa [get?, get?, if_neg hkey, if_neg hkey] at this

/-! ### Updates that change nothing -/

theorem Sorted.insert_eq_self (h : d.Sorted) (hv : d.get? key = some value) : d.insert key value = d := by
  refine Sorted.ext (h.insert key value) h fun k => ?_
  rw [get?_insert]
  split
  · rename_i hk
    rw [← hk, hv]
  · rfl

theorem erase_eq_self (h : d.get? key = none) : d.erase key = d := by
  induction d with
  | nil => rfl
  | cons entry rest ih =>
    obtain ⟨k, v⟩ := entry
    unfold get? at h
    split at h
    · cases h
    · rename_i hk
      rw [erase, if_neg hk, ih h]

theorem insert_insert (d : Dict α) (key : String) (value value' : α) :
    (d.insert key value').insert key value = d.insert key value := by
  induction d with
  | nil => simp [insert]
  | cons entry rest ih =>
    obtain ⟨k, v⟩ := entry
    by_cases hlt : key < k
    · simp [insert, hlt]
    · by_cases hk : k = key
      · simp [insert, hk]
      · simp [insert, hlt, hk, ih]

/-- The head of a dictionary that an insertion leaves alone. -/
private theorem insert_eq_self_cons {rest : Dict α} (h : insert key value ((k, v) :: rest) = (k, v) :: rest) :
    (k = key ∧ v = value) ∨ (¬ key < k ∧ k ≠ key ∧ insert key value rest = rest) := by
  unfold insert at h
  split at h
  · have := congrArg List.length h
    simp at this
  · split at h
    · rename_i hlt hk
      simp only [List.cons.injEq, Prod.mk.injEq] at h
      exact .inl ⟨hk, h.1.2.symm⟩
    · rename_i hlt hk
      simp only [List.cons.injEq, true_and] at h
      exact .inr ⟨hlt, hk, h⟩

theorem insert_comm_fixed (h : d.insert key value = d) (hne : key ≠ k) (v : α) :
    (d.insert k v).insert key value = d.insert k v := by
  induction d with
  | nil => simp [insert] at h
  | cons entry rest ih =>
    obtain ⟨k', v'⟩ := entry
    rcases insert_eq_self_cons h with ⟨rfl, rfl⟩ | ⟨hlt, hk', hrest⟩
    · by_cases hlt : k < k'
      · have : ¬ k' < k := fun h => String.lt_irrefl k (String.lt_trans hlt h)
        simp [insert, hlt, this, Ne.symm hne]
      · simp [insert, hlt, hne]
    · by_cases hlt' : k < k'
      · -- the new key comes before `k'`, which comes before `key`
        have hle : k' < key := Decidable.byContradiction fun hn => hk' (String.le_antisymm hlt hn)
        have : ¬ key < k := fun h => String.lt_irrefl k (String.lt_trans (String.lt_trans hlt' hle) h)
        simp [insert, hlt', this, Ne.symm hne, hlt, hk', hrest]
      · by_cases hk : k' = k
        · simp [insert, hk, hk ▸ hlt, hk ▸ hk', hrest]
        · simp [insert, hlt', hk, hlt, hk', ih hrest]

theorem insert_erase_fixed (h : d.insert key value = d) (hne : key ≠ k) :
    (d.erase k).insert key value = d.erase k := by
  induction d with
  | nil => simp [insert] at h
  | cons entry rest ih =>
    obtain ⟨k', v'⟩ := entry
    rcases insert_eq_self_cons h with ⟨rfl, rfl⟩ | ⟨hlt, hk', hrest⟩
    · simp [erase, hne, insert]
    · by_cases hk : k' = k
      · simp [erase, hk, ih hrest]
      · simp [erase, hk, insert, hlt, hk', ih hrest]

/-! ### Dictionaries of lists -/

theorem mem_ofList {entries : List (String × α)} {entry : String × α} (h : entry ∈ ofList entries) :
    entry ∈ entries := by
  have hfold : ∀ d : Dict α, entry ∈ entries.foldl (fun d e => insert e.1 e.2 d) d → entry ∈ d ∨ entry ∈ entries := by
    clear h
    induction entries with
    | nil => exact fun d h => .inl h
    | cons e rest ih =>
      intro d h
      rcases ih (insert e.1 e.2 d) h with h | h
      · rcases mem_insert h with rfl | h
        · exact .inr List.mem_cons_self
        · exact .inl h
      · exact .inr (List.mem_cons_of_mem _ h)
  exact (hfold [] h).resolve_left (by simp)

theorem sorted_ofList (entries : List (String × α)) : (ofList entries).Sorted := by
  have hfold : ∀ d : Dict α, d.Sorted → (entries.foldl (fun d e => insert e.1 e.2 d) d).Sorted := by
    induction entries with
    | nil => exact fun d h => h
    | cons e rest ih => exact fun d h => ih _ (h.insert e.1 e.2)
  exact hfold [] .nil

theorem get?_ofList_eq_none_iff {entries : List (String × α)} :
    (ofList entries).get? key = none ↔ ∀ entry ∈ entries, entry.1 ≠ key := by
  have hfold : ∀ d : Dict α, (entries.foldl (fun d e => insert e.1 e.2 d) d).get? key = none ↔
      d.get? key = none ∧ ∀ entry ∈ entries, entry.1 ≠ key := by
    induction entries with
    | nil => simp
    | cons e rest ih =>
      intro d
      rw [List.foldl_cons, ih, get?_insert, List.forall_mem_cons]
      by_cases hkey : e.1 = key <;> simp [hkey]
  rw [ofList, hfold]
  exact and_iff_right rfl

theorem get?_ofList_of_mem {entries : List (String × α)} (hmem : (key, value) ∈ entries)
    (hunique : ∀ v, (key, v) ∈ entries → v = value) : (ofList entries).get? key = some value := by
  cases hget : (ofList entries).get? key with
  | none => exact absurd rfl (get?_ofList_eq_none_iff.1 hget _ hmem)
  | some v => rw [hunique v (mem_ofList (mem_of_get?_eq_some hget))]

theorem Sorted.mapValues (f : α → β) (h : d.Sorted) : (d.mapValues f).Sorted :=
  List.pairwise_map.2 h

end Dict

end SessionOperator
