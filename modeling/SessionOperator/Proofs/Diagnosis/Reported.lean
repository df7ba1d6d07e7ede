import SessionOperator.Diagnosis

/-!
# Reported errors

The errors that a route or a claim reports stand in lists, and the first entry of a list decides.  A port without an
error is no entry, but an empty text is one: it is taken for the answer, and what comes after it is missed.

* `Diagnosis.portErrors`, `Diagnosis.resizeMessages`, `Diagnosis.IsInfeasible`: what is reported;
* `Diagnosis.Hidden`: a real error behind an empty text; `Diagnosis.head_ne_empty_iff`: the only way to miss one;
* `Diagnosis.reason_reported_iff`: when a route or a claim has a reason to fail.
-/

namespace SessionOperator

namespace Diagnosis

variable {object c : Json} {texts : List String}

/-! ### The first text of a list -/

/-- The first text that is not empty, if there is one. -/
def firstReal (texts : List String) : String := (texts.find? fun text => text ≠ "").getD ""

/-- There are texts that are not empty, but an empty one comes first. -/
def Hidden (texts : List String) : Prop := texts.head? = some "" ∧ ∃ text ∈ texts, text ≠ ""

instance : Decidable (Hidden texts) := inferInstanceAs (Decidable (_ ∧ _))

theorem head_eq_firstReal (h : texts.head?.getD "" ≠ "") : texts.head?.getD "" = firstReal texts := by
  cases texts with
  | nil => rfl
  | cons text rest =>
    have hreal : text ≠ "" := h
    simp [firstReal, hreal]

/-- The first text is empty exactly if all texts are empty or the others are hidden behind it. -/
theorem head_ne_empty_iff : texts.head?.getD "" ≠ "" ↔ (∃ text ∈ texts, text ≠ "") ∧ ¬Hidden texts := by
  cases texts with
  | nil => simp
  | cons text rest =>
    by_cases hempty : text = ""
    · subst hempty
      have hhead : (("" : String) :: rest).head? = some "" := rfl
      have hnone : ("" :: rest).head?.getD "" = "" := rfl
      refine iff_of_false (fun h => h hnone) ?_
      rintro ⟨hreal, hseen⟩
      exact hseen ⟨hhead, hreal⟩
    · have hhead : (text :: rest).head?.getD "" = text := rfl
      have hseen : ¬Hidden (text :: rest) := by
        rintro ⟨hfirst, -⟩
        exact hempty (Option.some.inj hfirst)
      rw [hhead]
      exact iff_of_true hempty ⟨⟨text, List.mem_cons_self, hempty⟩, hseen⟩

/-! ### Routes -/

/-- The errors of the load balancer ports, in order. -/
def portErrors (object : Json) : List String := (balancerPorts object).filterMap fun port => port.text? "error"

theorem route_eq (h : isDeleting object = false) : route object = (portErrors object).head?.getD "" := by
  have hlive : ¬isDeleting object = true := by simp [h]
  unfold route portErrors
  rw [if_neg hlive, List.head?_filterMap]

/-! ### Claims -/

/-- The status of a claim; empty if there is none. -/
def claimStatus (c : Json) : Json := (c.get? "status").getD .empty

def isBound (c : Json) : Bool := (claimStatus c).text? "phase" = some "Bound"

/-- A resize of an allocated resource cannot be done. -/
def IsInfeasible (c : Json) : Prop :=
  ∃ entry ∈ (((claimStatus c).get? "allocatedResourceStatuses").getD .empty).entries,
    ∃ state ∈ infeasibleStates, entry.2 = .str state

/-- What the failed resizes say, in order. -/
def resizeMessages (c : Json) : List String :=
  (((claimStatus c).list "conditions").filter isFailedResize).map fun condition => textOr condition "message"

theorem isSome_infeasible_iff : (infeasible (claimStatus c)).isSome = true ↔ IsInfeasible c := by
  unfold infeasible IsInfeasible
  rw [List.findSome?_isSome_iff]
  constructor
  · rintro ⟨entry, hmem, hsome⟩
    refine ⟨entry, hmem, ?_⟩
    split at hsome
    · rename_i state hstate
      by_cases hinfeasible : infeasibleStates.contains state = true
      · exact ⟨state, List.contains_iff_mem.1 hinfeasible, hstate⟩
      · rw [if_neg hinfeasible] at hsome
        cases hsome
    · cases hsome
  · rintro ⟨entry, hmem, state, hinfeasible, hstate⟩
    have hcontains : infeasibleStates.contains state = true := List.contains_iff_mem.2 hinfeasible
    refine ⟨entry, hmem, ?_⟩
    simp only [hstate]
    rw [if_pos hcontains]
    rfl

/-- A claim with an infeasible resize has a reason to fail. -/
theorem claim_of_infeasible (hlive : isDeleting c = false) (hunbound : isBound c = false) (h : IsInfeasible c) :
    claim c ≠ "" := by
  have hsome := isSome_infeasible_iff.2 h
  obtain ⟨found, hfound⟩ := Option.isSome_iff_exists.1 hsome
  cases hstatus : c.get? "status" with
  | none =>
    rw [claimStatus, hstatus] at hfound
    cases hfound
  | some status =>
    obtain rfl : claimStatus c = status := by rw [claimStatus, hstatus, Option.getD_some]
    have hphase : ¬(claimStatus c).text? "phase" = some "Bound" := by simpa [isBound] using hunbound
    simp [claim, hlive, hstatus, hphase, hfound]

/-- Any other claim has the first message of a failed resize for a reason. -/
theorem claim_of_feasible (hlive : isDeleting c = false) (hunbound : isBound c = false) (h : ¬IsInfeasible c) :
    claim c = (resizeMessages c).head?.getD "" := by
  have hnone : infeasible (claimStatus c) = none := by
    rw [← Option.not_isSome_iff_eq_none, isSome_infeasible_iff]
    exact h
  have hmessage : (resizeMessages c).head? =
      (((claimStatus c).list "conditions").find? isFailedResize).map fun condition => textOr condition "message" := by
    rw [resizeMessages, List.head?_map, List.head?_filter]
  rw [hmessage]
  cases hstatus : c.get? "status" with
  | none =>
    -- no message is reported where there is no status
    have hempty : claimStatus c = .empty := by rw [claimStatus, hstatus, Option.getD_none]
    have hlist : Json.empty.list "conditions" = [] := rfl
    simp [claim, hlive, hstatus, hempty, hlist]
  | some status =>
    obtain rfl : claimStatus c = status := by rw [claimStatus, hstatus, Option.getD_some]
    have hphase : ¬(claimStatus c).text? "phase" = some "Bound" := by simpa [isBound] using hunbound
    simp [claim, hlive, hstatus, hphase, hnone]

theorem claim_ne_empty_iff (hlive : isDeleting c = false) (hunbound : isBound c = false) :
    claim c ≠ "" ↔ IsInfeasible c ∨ (∃ text ∈ resizeMessages c, text ≠ "") ∧ ¬Hidden (resizeMessages c) := by
  by_cases hinfeasible : IsInfeasible c
  · exact iff_of_true (claim_of_infeasible hlive hunbound hinfeasible) (.inl hinfeasible)
  · rw [claim_of_feasible hlive hunbound hinfeasible, head_ne_empty_iff]
    constructor
    · exact .inr
    · rintro (h | h)
      · exact absurd h hinfeasible
      · exact h

/-! ### When there is a reason -/

/-- A service or an ingress that is not being deleted has a reason to fail exactly if some port reports a real error and
no empty text comes before it, and the reason is the first real error.  A claim that is neither bound nor being deleted
has one exactly if a resize is infeasible or a failed resize has a real message and no empty one comes before it. -/
theorem reason_reported_iff (hobject : isDeleting object = false) (hlive : isDeleting c = false)
    (hunbound : isBound c = false) :
    ((route object ≠ "" ↔ (∃ text ∈ portErrors object, text ≠ "") ∧ ¬Hidden (portErrors object)) ∧
        (route object ≠ "" → route object = firstReal (portErrors object))) ∧
      (claim c ≠ "" ↔ IsInfeasible c ∨ (∃ text ∈ resizeMessages c, text ≠ "") ∧ ¬Hidden (resizeMessages c)) := by
  rw [route_eq hobject]
  exact ⟨⟨head_ne_empty_iff, head_eq_firstReal⟩, claim_ne_empty_iff hlive hunbound⟩

/-- A service of which the second port has an error and a claim of which the second failed resize says why. -/
theorem reason_reported_second :
    let service := Json.object [("status", .object [("loadBalancer", .object [("ingress", .arr [
      .object [("ports", .arr [.object [("port", .int 80)],
        .object [("error", .str "PortConflict"), ("port", .int 65534)]])]])])])]
    let c := Json.object [("status", .object [("phase", .str "Pending"), ("conditions", .arr [
      .object [("type", .str "Resizing"), ("status", .str "True")],
      .object [("type", .str "FileSystemResizePending"), ("status", .str "False"),
        ("message", .str "resize failed")]])])]
    isDeleting service = false ∧ isDeleting c = false ∧ isBound c = false ∧ route service = "PortConflict" ∧
      claim c ≠ "" := by
  intro service c
  have hobject : isDeleting service = false := by decide +kernel
  have hlive : isDeleting c = false := by decide +kernel
  have hunbound : isBound c = false := by decide +kernel
  obtain ⟨⟨hroute, hfirst⟩, hclaim⟩ := reason_reported_iff hobject hlive hunbound
  have herror : route service ≠ "" := hroute.2 (by decide +kernel)
  refine ⟨hobject, hlive, hunbound, ?_, hclaim.2 (.inr (by decide +kernel))⟩
  rw [hfirst herror]
  decide +kernel

/-- A resize that failed without a message hides the message of another one, and so does an empty error of a port. -/
theorem later_error_missed :
    let c := Json.object [("status", .object [("phase", .str "Pending"), ("conditions", .arr [
      .object [("type", .str "Resizing"), ("status", .str "False")],
      .object [("type", .str "FileSystemResizePending"), ("status", .str "False"),
        ("message", .str "resize failed")]])])]
    let service := Json.object [("status", .object [("loadBalancer", .object [("ingress", .arr [
      .object [("ports", .arr [.object [("error", .str ""), ("port", .int 80)],
        .object [("error", .str "PortConflict"), ("port", .int 65534)]])]])])])]
    (isDeleting c = false ∧ isBound c = false ∧ (∃ text ∈ resizeMessages c, text ≠ "") ∧ claim c = "") ∧
      isDeleting service = false ∧ (∃ text ∈ portErrors service, text ≠ "") ∧ route service = "" := by
  decide +kernel

end Diagnosis

end SessionOperator
