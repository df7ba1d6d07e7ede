/-!
# Dictionaries

Finite maps with string keys, kept as lists of pairs in increasing order of their keys, so that two dictionaries
with the same entries are the same list.  The order of strings is the order of their code points.

* `get?_insert`, `get?_erase`: what a lookup finds after an update;
* `Sorted.insert`, `Sorted.erase`: both updates keep the order of the keys.
-/

namespace SessionOperator

abbrev Dict (α : Type u) := List (String × α)

namespace Dict

variable {α : Type u} {β : Type v}

def get? : Dict α → String → Option α
  | [], _ => none
  | (k, v) :: rest, key => if k = key then some v else get? rest key

/-- Sets an entry, replacing the one that the key had. -/
def insert (key : String) (value : α) : Dict α → Dict α
  | [] => [(key, value)]
  | (k, v) :: rest =>
    if key < k then (key, value) :: (k, v) :: rest
    else if k = key then (key, value) :: rest
    else (k, v) :: insert key value rest

def erase (key : String) : Dict α → Dict α
  | [] => []
  | (k, v) :: rest => if k = key then erase key rest else (k, v) :: erase key rest

/-- Of two entries with one key the later one stays. -/
def ofList (entries : List (String × α)) : Dict α :=
  entries.foldl (fun d e => insert e.1 e.2 d) []

def mapValues (f : α → β) (d : Dict α) : Dict β := d.map fun e => (e.1, f e.2)

def Sorted (d : Dict α) : Prop := d.Pairwise fun a b => a.1 < b.1

theorem get?_insert (d : Dict α) (key k : String) (value : α) :
    get? (insert key value d) k = if key = k then some value else get? d k := by
  induction d with
  | nil => simp [insert, get?]
  | cons e rest ih =>
    obtain ⟨k', v'⟩ := e
    by_cases h₁ : key < k'
    · simp [insert, get?, h₁]
    · by_cases h₂ : k' = key
      · subst h₂
        by_cases h₃ : k' = k <;> simp [insert, get?, h₃]
      · by_cases h₃ : k' = k
        · subst h₃
          simp [insert, get?, h₁, h₂, Ne.symm h₂]
        · simp [insert, get?, h₁, h₂, h₃, ih]

theorem get?_erase (d : Dict α) (key k : String) :
    get? (erase key d) k = if key = k then none else get? d k := by
  induction d with
  | nil => simp [erase, get?]
  | cons e rest ih =>
    obtain ⟨k', v'⟩ := e
    by_cases h₁ : k' = key
    · subst h₁
      by_cases h₂ : k' = k
      · subst h₂; simpa [erase] using ih
      · simp [erase, get?, ih, h₂]
    · by_cases h₂ : k' = k
      · subst h₂
        simp [erase, get?, h₁, Ne.symm h₁]
      · simp [erase, get?, h₁, h₂, ih]

theorem mem_insert {d : Dict α} {key : String} {value : α} {e : String × α} (h : e ∈ insert key value d) :
    e = (key, value) ∨ e ∈ d := by
  induction d with
  | nil => simpa [insert] using h
  | cons e' rest ih =>
    unfold insert at h
    split at h
    · simpa using h
    · split at h
      · rcases List.mem_cons.1 h with h | h
        · exact .inl h
        · exact .inr (List.mem_cons_of_mem _ h)
      · rcases List.mem_cons.1 h with h | h
        · exact .inr (h ▸ List.mem_cons_self)
        · exact (ih h).imp id (List.mem_cons_of_mem _)

theorem mem_of_mem_erase {d : Dict α} {key : String} {e : String × α} (h : e ∈ erase key d) : e ∈ d := by
  induction d with
  | nil => exact h
  | cons e' rest ih =>
    unfold erase at h
    split at h
    · exact List.mem_cons_of_mem _ (ih h)
    · rcases List.mem_cons.1 h with h | h
      · exact h ▸ List.mem_cons_self
      · exact List.mem_cons_of_mem _ (ih h)

theorem Sorted.insert {d : Dict α} (h : d.Sorted) (key : String) (value : α) : (insert key value d).Sorted := by
  induction d with
  | nil => simp [Dict.insert, Sorted]
  | cons e rest ih =>
    obtain ⟨k, v⟩ := e
    obtain ⟨hk, hrest⟩ := List.pairwise_cons.1 h
    unfold Dict.insert
    split
    · rename_i hlt
      refine List.pairwise_cons.2 ⟨fun e he => ?_, h⟩
      rcases List.mem_cons.1 he with rfl | he
      · exact hlt
      · exact String.lt_trans hlt (hk e he)
    · split
      · rename_i hkey
        exact List.pairwise_cons.2 ⟨hkey ▸ hk, hrest⟩
      · rename_i hlt hne
        refine List.pairwise_cons.2 ⟨fun e he => ?_, ih hrest⟩
        rcases mem_insert he with rfl | he
        · exact Decidable.byContradiction fun hn => hne (String.le_antisymm hlt hn)
        · exact hk e he

theorem Sorted.erase {d : Dict α} (h : d.Sorted) (key : String) : (erase key d).Sorted := by
  induction d with
  | nil => exact h
  | cons e rest ih =>
    obtain ⟨hk, hrest⟩ := List.pairwise_cons.1 h
    unfold Dict.erase
    split
    · exact ih hrest
    · exact List.pairwise_cons.2 ⟨fun e he => hk e (mem_of_mem_erase he), ih hrest⟩

end Dict

end SessionOperator
