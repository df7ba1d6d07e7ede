import Mathlib.Data.List.DropRight
import SessionOperator.Text.Trim

/-!
# What is taken from the ends of texts

A text without white space is not changed by trimming, and digits are no white space.  What is taken as long as a class
lasts ends where a character outside of it follows.
-/

namespace SessionOperator

namespace Text

theorem takeWhile_append_eq_left_iff {p : Char → Bool} {xs ys : List Char} :
    (xs ++ ys).takeWhile p = xs ↔ (∀ c ∈ xs, p c = true) ∧ ∀ c ∈ ys.head?, p c = false := by
  have hhead : ys.takeWhile p = [] ↔ ∀ c ∈ ys.head?, p c = false := by
    cases ys with
    | nil => simp
    | cons c rest => cases hc : p c <;> simp [hc]
  constructor
  · intro h
    have hxs : ∀ c ∈ xs, p c = true := by
      intro c hc
      rw [← h] at hc
      exact List.mem_takeWhile_imp hc
    rw [List.takeWhile_append_of_pos hxs, List.append_right_eq_self] at h
    exact ⟨hxs, hhead.1 h⟩
  · rintro ⟨hxs, hys⟩
    rw [List.takeWhile_append_of_pos hxs, hhead.2 hys, List.append_nil]

theorem dropEndWhile_eq_rdropWhile (p : Char → Bool) (cs : List Char) : dropEndWhile p cs = cs.rdropWhile p := rfl

theorem trimStart_cons {c : Char} (h : isBlank c = false) (cs : List Char) : trimStart (c :: cs) = c :: cs := by
  simp [trimStart, h]

theorem trim_eq_self {s : String} (h : ∀ c ∈ s.toList, isBlank c = false) : trim s = s := by
  have hstart : trimStart s.toList = s.toList := by
    cases hs : s.toList with
    | nil => rfl
    | cons c cs => exact trimStart_cons (h c (hs ▸ List.mem_cons_self)) cs
  have hend : dropEndWhile isBlank s.toList = s.toList := by
    rw [dropEndWhile_eq_rdropWhile, List.rdropWhile_eq_self_iff]
    intro hne
    rw [h _ (List.getLast_mem hne)]
    exact Bool.false_ne_true
  rw [trim, hstart, hend, String.ofList_toList]

theorem isBlank_of_isDigit {c : Char} (h : c.isDigit = true) : isBlank c = false := by
  simp only [Char.isDigit, Bool.and_eq_true, decide_eq_true_eq, ge_iff_le, UInt32.le_iff_toNat_le] at h
  have h₁ : 48 ≤ c.toNat := h.1
  have h₂ : c.toNat ≤ 57 := h.2
  simp only [isBlank, Bool.or_eq_false_iff, Bool.and_eq_false_iff, decide_eq_false_iff_not]
  omega

end Text

end SessionOperator
