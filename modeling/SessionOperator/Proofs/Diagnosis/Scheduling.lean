import Mathlib.Data.List.Nodup
import Mathlib.Data.List.Pairwise
import SessionOperator.Diagnosis
import SessionOperator.Proofs.Time.Elapsed

/-!
# The latest scheduling event

Events come in no particular order.  They are sorted by time before they are read, and then the last one about
scheduling decides.  As long as no two of these have the same time, it is the one with the greatest time, so that the
order in which the events came does not matter.

* `Diagnosis.Earlier`: the order of event times, in which an event without a time comes first;
* `Diagnosis.IsLatest`: the scheduling event with the greatest time; `Diagnosis.IsLatest.unique`;
* `Diagnosis.getLast?_sortEvents_iff`: sorting puts this event last;
* `Diagnosis.scheduling_by_time`: the reason that the events give, by their times alone.
-/

namespace SessionOperator

namespace Diagnosis

variable {events events' : List Json} {e e' : Json}

/-! ### The order of event times -/

/-- One event time comes before another; no time comes before every time. -/
def Earlier : Option Instant → Option Instant → Prop
  | _, none => False
  | none, some _ => True
  | some a, some b => a.before b = true

instance : DecidableRel Earlier := fun a b =>
  match a, b with
  | _, none => inferInstanceAs (Decidable False)
  | none, some _ => inferInstanceAs (Decidable True)
  | some a, some b => inferInstanceAs (Decidable (a.before b = true))

/-- The place of an event time in this order; no time has its place before the calendar begins. -/
def timeRank : Option Instant → Int
  | none => Date.firstDay * 86400 * 2000000000 - 1
  | some t => t.rank

theorem timeRank_none_lt (t : Instant) : timeRank none < timeRank (some t) := by
  have hfirst := t.le_rank
  simp only [timeRank]
  omega

theorem timeRank_inj {a b : Option Instant} : timeRank a = timeRank b ↔ a = b := by
  cases a with
  | none =>
    cases b with
    | none => simp
    | some b =>
      have hlt := timeRank_none_lt b
      exact iff_of_false (by omega) (by simp)
  | some a =>
    cases b with
    | none =>
      have hlt := timeRank_none_lt a
      exact iff_of_false (by omega) (by simp)
    | some b => simp [timeRank, Instant.rank_inj]

theorem earlier_iff {a b : Option Instant} : Earlier a b ↔ timeRank a < timeRank b := by
  cases b with
  | none =>
    cases a with
    | none => simp [Earlier]
    | some a =>
      have hlt := timeRank_none_lt a
      exact iff_of_false (by simp [Earlier]) (by omega)
  | some b =>
    cases a with
    | none => exact iff_of_true trivial (timeRank_none_lt b)
    | some a => exact Instant.before_iff_rank a b

theorem notAfter_iff {a b : Option Instant} : notAfter a b = true ↔ timeRank a ≤ timeRank b := by
  cases a with
  | none =>
    cases b with
    | none => simp [notAfter]
    | some b =>
      have hlt := timeRank_none_lt b
      exact iff_of_true rfl (by omega)
  | some a =>
    cases b with
    | none =>
      have hlt := timeRank_none_lt a
      exact iff_of_false (by simp [notAfter]) (by omega)
    | some b =>
      have hbefore := Instant.before_iff_rank b a
      simp only [notAfter, timeRank, Bool.not_eq_true', Bool.eq_false_iff, ne_eq, hbefore]
      omega

/-! ### Sorting -/

theorem sortEvents_perm (events : List Json) : (sortEvents events).Perm events := List.mergeSort_perm _ _

theorem sortEvents_sorted (events : List Json) :
    (sortEvents events).Pairwise fun a b => timeRank (eventTime a) ≤ timeRank (eventTime b) := by
  have htrans : ∀ a b c : Json, notAfter (eventTime a) (eventTime b) = true →
      notAfter (eventTime b) (eventTime c) = true → notAfter (eventTime a) (eventTime c) = true := by
    intro a b c hab hbc
    rw [notAfter_iff] at hab hbc ⊢
    omega
  have htotal : ∀ a b : Json,
      (notAfter (eventTime a) (eventTime b) || notAfter (eventTime b) (eventTime a)) = true := by
    intro a b
    rw [Bool.or_eq_true, notAfter_iff, notAfter_iff]
    omega
  have hsorted := List.pairwise_mergeSort htrans htotal events
  exact hsorted.imp fun h => notAfter_iff.1 h

/-- No two scheduling events have the same time. -/
def DistinctTimes (events : List Json) : Prop := ((events.filter isScheduling).map eventTime).Nodup

theorem DistinctTimes.perm (h : DistinctTimes events) (hperm : events'.Perm events) : DistinctTimes events' := by
  have hmap : ((events'.filter isScheduling).map eventTime).Perm ((events.filter isScheduling).map eventTime) :=
    (hperm.filter isScheduling).map eventTime
  exact hmap.nodup_iff.2 h

/-- Among scheduling events with different times the time tells which one it is. -/
theorem DistinctTimes.eq_of_time (h : DistinctTimes events) (he : e ∈ events) (hscheduling : isScheduling e = true)
    (he' : e' ∈ events) (hscheduling' : isScheduling e' = true) (htime : eventTime e = eventTime e') : e = e' :=
  List.inj_on_of_nodup_map h (List.mem_filter.2 ⟨he, hscheduling⟩) (List.mem_filter.2 ⟨he', hscheduling'⟩) htime

/-- The order in which the events come has no influence on the order in which scheduling events are read. -/
theorem filter_sortEvents_perm (h : DistinctTimes events) (hperm : events'.Perm events) :
    (sortEvents events').filter isScheduling = (sortEvents events).filter isScheduling := by
  have hsame : ((sortEvents events').filter isScheduling).Perm ((sortEvents events).filter isScheduling) :=
    (((sortEvents_perm events').trans hperm).trans (sortEvents_perm events).symm).filter isScheduling
  refine hsame.eq_of_pairwise ?_ ((sortEvents_sorted events').filter _) ((sortEvents_sorted events).filter _)
  intro a b ha hb hab hba
  obtain ⟨hmem, hscheduling⟩ := List.mem_filter.1 ha
  obtain ⟨hmem', hscheduling'⟩ := List.mem_filter.1 (hsame.mem_iff.2 hb)
  have hsorted : DistinctTimes (sortEvents events') := h.perm ((sortEvents_perm events').trans hperm)
  exact hsorted.eq_of_time hmem hscheduling hmem' hscheduling' (timeRank_inj.1 (Int.le_antisymm hab hba))

/-! ### The latest event -/

/-- The scheduling event with the greatest time. -/
structure IsLatest (events : List Json) (e : Json) : Prop where
  mem : e ∈ events
  scheduling : isScheduling e = true
  latest : ∀ other ∈ events, isScheduling other = true → other ≠ e → Earlier (eventTime other) (eventTime e)

theorem IsLatest.unique (h : IsLatest events e) (h' : IsLatest events e') : e = e' := by
  by_contra hne
  have hlt := earlier_iff.1 (h.latest e' h'.mem h'.scheduling (Ne.symm hne))
  have hlt' := earlier_iff.1 (h'.latest e h.mem h.scheduling hne)
  omega

/-- Of sorted events the last one about scheduling is the latest one. -/
theorem getLast?_sortEvents_iff (h : DistinctTimes events) :
    ((sortEvents events).filter isScheduling).getLast? = some e ↔ IsLatest events e := by
  have hmem : ∀ other, other ∈ (sortEvents events).filter isScheduling ↔
      other ∈ events ∧ isScheduling other = true := by
    intro other
    rw [List.mem_filter, (sortEvents_perm events).mem_iff]
  have hlatest : ∀ last, ((sortEvents events).filter isScheduling).getLast? = some last → IsLatest events last := by
    intro last hlast
    obtain ⟨hin, hscheduling⟩ := (hmem last).1 (List.mem_of_getLast? hlast)
    refine ⟨hin, hscheduling, ?_⟩
    intro other hother hother' hne
    have hmem' := (hmem other).2 ⟨hother, hother'⟩
    have hsorted := (sortEvents_sorted events).filter isScheduling
    have hle := hsorted.rel_getLast_of_rel_getLast_getLast hmem' (Int.le_refl _)
    rw [(List.getLast_eq_iff_getLast?_eq_some (List.ne_nil_of_mem hmem')).2 hlast] at hle
    have htime : timeRank (eventTime other) ≠ timeRank (eventTime last) := by
      intro heq
      exact hne (h.eq_of_time hother hother' hin hscheduling (timeRank_inj.1 heq))
    exact earlier_iff.2 (by omega)
  constructor
  · exact hlatest e
  · intro he
    cases hlast : ((sortEvents events).filter isScheduling).getLast? with
    | none =>
      have hnil := List.getLast?_eq_none_iff.1 hlast
      have hin := (hmem e).2 ⟨he.mem, he.scheduling⟩
      rw [hnil] at hin
      cases hin
    | some last => rw [(hlatest last hlast).unique he]

/-! ### What is reported -/

def IsFailure (event : Json) : Prop := event.text? "reason" = some "FailedScheduling"

theorem scheduling_of_getLast? (h : (events.filter isScheduling).getLast? = some e) (hfailure : IsFailure e) :
    scheduling events = "Failed scheduling: " ++ textOr e "message" := by
  unfold scheduling
  rw [h]
  exact if_pos hfailure

theorem scheduling_ne_empty_iff :
    scheduling events ≠ "" ↔ ∃ e, (events.filter isScheduling).getLast? = some e ∧ IsFailure e := by
  cases hlast : (events.filter isScheduling).getLast? with
  | none => simp [scheduling, hlast]
  | some e =>
    by_cases hfailure : IsFailure e
    · have hreason := scheduling_of_getLast? hlast hfailure
      have hne : "Failed scheduling: " ++ textOr e "message" ≠ "" := by simp
      rw [hreason]
      exact iff_of_true hne ⟨e, rfl, hfailure⟩
    · have hreason : scheduling events = "" := by
        unfold scheduling
        rw [hlast]
        exact if_neg hfailure
      rw [hreason]
      refine iff_of_false (fun hne => hne rfl) ?_
      rintro ⟨e', he', hfailure'⟩
      cases he'
      exact hfailure hfailure'

/-- In whatever order events come, the scheduling event with the greatest time decides after sorting: there is a reason
to fail exactly if it is a failure, and then the reason is its message. -/
theorem scheduling_by_time (hdistinct : DistinctTimes events) (hperm : events'.Perm events) :
    scheduling (sortEvents events') = scheduling (sortEvents events) ∧
      (scheduling (sortEvents events) ≠ "" ↔ ∃ e, IsLatest events e ∧ IsFailure e) ∧
      ∀ e, IsLatest events e → IsFailure e →
        scheduling (sortEvents events) = "Failed scheduling: " ++ textOr e "message" := by
  refine ⟨?_, ?_, ?_⟩
  · unfold scheduling
    rw [filter_sortEvents_perm hdistinct hperm]
  · rw [scheduling_ne_empty_iff]
    simp only [getLast?_sortEvents_iff hdistinct]
  · intro e hlatest hfailure
    exact scheduling_of_getLast? ((getLast?_sortEvents_iff hdistinct).2 hlatest) hfailure

/-- A failure half a second after the pod was scheduled, between events of which one has no time and one, the newest, is
not about scheduling. -/
theorem scheduling_by_time_shuffled :
    let scaled := Json.object [("reason", .str "TriggeredScaleUp"), ("message", .str "scale up")]
    let scheduled := Json.object [("reason", .str "Scheduled"), ("lastTimestamp", .str "2024-10-04T00:00:01Z"),
      ("firstTimestamp", .str "2024-10-04T00:00:09Z")]
    let failed := Json.object [("reason", .str "FailedScheduling"), ("message", .str "no node"),
      ("eventTime", .str "2024-10-04T00:00:01.500000Z"), ("lastTimestamp", .str "2024-10-04T00:00:00Z")]
    let pulled := Json.object [("reason", .str "Pulled"), ("firstTimestamp", .str "2024-10-04T00:00:05Z")]
    let events := [pulled, failed, scaled, scheduled]
    let events' := [scheduled, scaled, pulled, failed]
    DistinctTimes events ∧ events'.Perm events ∧ IsLatest events failed ∧ IsFailure failed ∧
      scheduling (sortEvents events') = "Failed scheduling: no node" := by
  intro scaled scheduled failed pulled events events'
  have hdistinct : DistinctTimes events := by
    unfold DistinctTimes
    decide +kernel
  have hperm : events'.Perm events := by decide +kernel
  have hlatest : IsLatest events failed := ⟨by decide +kernel, by decide +kernel, by decide +kernel⟩
  have hfailure : IsFailure failed := by
    unfold IsFailure
    decide +kernel
  obtain ⟨hsame, -, hreason⟩ := scheduling_by_time hdistinct hperm
  refine ⟨hdistinct, hperm, hlatest, hfailure, ?_⟩
  rw [hsame, hreason failed hlatest hfailure]
  decide +kernel

/-- An event that only says when it was first seen counts from then. -/
example :
    let failed := Json.object [("reason", .str "FailedScheduling"), ("firstTimestamp", .str "1970-01-01T00:03:20Z")]
    let scheduled := Json.object [("reason", .str "Scheduled"), ("firstTimestamp", .str "1970-01-01T00:01:40Z")]
    Earlier (eventTime scheduled) (eventTime failed) := by
  decide +kernel

/-- A failure is over as soon as nodes are being added. -/
example :
    let failed := Json.object [("reason", .str "FailedScheduling"), ("message", .str "no node")]
    let pulled := Json.object [("reason", .str "Pulled")]
    let scaled := Json.object [("reason", .str "TriggeredScaleUp"), ("message", .str "scale up")]
    scheduling [failed, pulled] = "Failed scheduling: no node" ∧ scheduling [failed, pulled, scaled] = "" := by
  decide +kernel

end Diagnosis

end SessionOperator
