import Mathlib.Data.List.Induction
import SessionOperator.Proofs.Status.Lifecycle

/-!
# The history of conditions

What the record of a condition is after any number of steps, the first of which finds no records.  A step may leave a
condition open, and then what was said before stands.

* `Conditions.holds`: what was last said of a condition;
* `Conditions.Written`: the record of the last step that changed a condition, or the one that sessions start with;
* `Conditions.Written.texts`: its reason, its message and its time, which are those of that step;
* `Conditions.Recorded.concat`: one more step; `Conditions.recorded_after`: all steps;
* `Conditions.advance_exact`: the records after any steps, and after one step from any records.
-/

namespace SessionOperator

namespace Conditions

/-- What the conditions depend on in one step. -/
structure Step where
  state : SessionState
  declared : Bool
  live : Bool
  now : Instant

namespace Step

/-- What a step tells of a condition, if anything. -/
def verdict? (v : Step) : ConditionType → Option Bool
  | .ready => some (v.state = .running)
  | .routingReady => if v.declared && !v.live then none else some v.declared

/-- The record that a step writes of a condition that it changes. -/
def record? (v : Step) (type : ConditionType) : Option Condition := observed v.state v.declared v.live v.now type

/-- Why a step says what it says of a condition. -/
def reason (v : Step) : ConditionType → String
  | .ready => v.state.name
  | .routingReady => if v.declared then "IngressReady" else "NoIngress"

/-- How a step puts it. -/
def message (v : Step) : ConditionType → String
  | .ready => "the session is " ++ v.state.description
  | .routingReady => if v.declared then "the ingress of the session exists" else "the session has no ingress"

end Step

/-- The records after some steps, the first of which finds none. -/
def after (steps : List Step) : List Condition :=
  steps.foldl (fun records v => advance records v.state v.declared v.live v.now) []

/-- Whether a condition holds after some steps: so it was said last.  Before anything is said nothing holds. -/
def holds (type : ConditionType) (steps : List Step) : Bool := (steps.filterMap (·.verdict? type)).getLast?.getD false

/-- The step at this position changes whether the condition holds. -/
def ChangesAt (type : ConditionType) (steps : List Step) (i : Nat) : Prop :=
  holds type (steps.take (i + 1)) ≠ holds type (steps.take i)

/-- The record of a condition: written by the last step that changed it, or at the first step if none did. -/
inductive Written (type : ConditionType) (first : Instant) (steps : List Step) : Condition → Prop
  | initially {c : Condition} (hc : c ∈ initial first) (htype : c.type = type)
      (hnever : ∀ i, ¬ ChangesAt type steps i) : Written type first steps c
  | changed {c : Condition} {v : Step} {i : Nat} (hv : steps[i]? = some v) (hchange : ChangesAt type steps i)
      (hlast : ∀ j, i < j → ¬ ChangesAt type steps j) (hc : v.record? type = some c) : Written type first steps c

/-- The record of a condition after some steps. -/
structure Recorded (type : ConditionType) (first : Instant) (steps : List Step) (c : Condition) : Prop where
  type_eq : c.type = type
  status : c.status = if holds type steps then "True" else "False"
  written : Written type first steps c

variable {type : ConditionType} {first : Instant} {steps : List Step} {v : Step} {c p : Condition} {i : Nat}

theorem Step.record?_of_verdict (hverdict : v.verdict? type = none) : v.record? type = none := by
  cases type with
  | ready => cases hverdict
  | routingReady =>
    cases hdeclared : v.declared <;> cases hlive : v.live <;> simp [verdict?, hdeclared, hlive] at hverdict
    simp [record?, observed, routing, hdeclared, hlive]

/-- A record has the status that the step tells of. -/
theorem Step.exists_record {b : Bool} (hverdict : v.verdict? type = some b) :
    ∃ c, v.record? type = some c ∧ c.type = type ∧ c.status = if b then "True" else "False" := by
  cases type with
  | ready =>
    cases hverdict
    exact ⟨_, rfl, rfl, rfl⟩
  | routingReady =>
    cases hdeclared : v.declared <;> cases hlive : v.live <;> simp [verdict?, hdeclared, hlive] at hverdict
    all_goals
      subst hverdict
      simp [record?, observed, routing, ofFlag, hdeclared, hlive]

/-! ### What a record says -/

/-- A record bears the reason, the message and the time of the step that writes it. -/
theorem Step.texts_of_record (h : v.record? type = some c) :
    c.reason = v.reason type ∧ c.message = v.message type ∧ c.lastTransitionTime = some v.now.stamp := by
  cases type with
  | ready =>
    cases h
    exact ⟨rfl, rfl, rfl⟩
  | routingReady =>
    simp only [record?, observed, routing] at h
    by_cases hdeclared : v.declared = true
    · by_cases hlive : v.live = true
      · simp only [hdeclared, hlive, Bool.not_true, Bool.false_eq_true, if_false, if_true] at h
        cases h
        simp [reason, message, ofFlag, hdeclared]
      · -- an ingress that is declared but not live leaves no record
        simp [hdeclared, hlive] at h
    · simp only [hdeclared, Bool.not_false, if_true] at h
      cases h
      simp [reason, message, ofFlag, hdeclared]

/-- The records that sessions start with say so. -/
theorem texts_of_initial (hc : c ∈ initial first) : c.reason = "SessionCreated" ∧
    c.message = "the session was just created" ∧ c.lastTransitionTime = some first.stamp := by
  obtain ⟨type, -, rfl⟩ := List.mem_map.1 hc
  exact ⟨rfl, rfl, rfl⟩

/-- A condition is explained and dated by the last step that changed it, or by the beginning if none did. -/
theorem Written.texts (h : Written type first steps c) :
    ((∀ i, ¬ ChangesAt type steps i) ∧ c.reason = "SessionCreated" ∧ c.message = "the session was just created" ∧
        c.lastTransitionTime = some first.stamp) ∨
      ∃ i v, steps[i]? = some v ∧ ChangesAt type steps i ∧ (∀ j, i < j → ¬ ChangesAt type steps j) ∧
        c.reason = v.reason type ∧ c.message = v.message type ∧ c.lastTransitionTime = some v.now.stamp := by
  cases h with
  | initially hc htype hnever => exact .inl ⟨hnever, texts_of_initial hc⟩
  | changed hv hchange hlast hc => exact .inr ⟨_, _, hv, hchange, hlast, Step.texts_of_record hc⟩

/-! ### One more step -/

theorem after_concat (steps : List Step) (v : Step) :
    after (steps ++ [v]) = advance (after steps) v.state v.declared v.live v.now := by
  rw [after, List.foldl_append]
  rfl

theorem holds_concat (type : ConditionType) (steps : List Step) (v : Step) :
    holds type (steps ++ [v]) = (v.verdict? type).getD (holds type steps) := by
  rw [holds, List.filterMap_append, List.filterMap_cons]
  cases v.verdict? type with
  | none => rw [List.filterMap_nil, List.append_nil, Option.getD_none, holds]
  | some b => rw [List.filterMap_nil, List.getLast?_concat, Option.getD_some, Option.getD_some]

theorem ChangesAt.lt_length (h : ChangesAt type steps i) : i < steps.length := by
  by_contra hle
  have hle := Nat.le_of_not_lt hle
  rw [ChangesAt, List.take_of_length_le hle, List.take_of_length_le (Nat.le_succ_of_le hle)] at h
  exact h rfl

theorem changesAt_concat : ChangesAt type (steps ++ [v]) i ↔
    ChangesAt type steps i ∨ (i = steps.length ∧ holds type (steps ++ [v]) ≠ holds type steps) := by
  rcases Nat.lt_trichotomy i steps.length with hlt | rfl | hgt
  · rw [ChangesAt, ChangesAt, List.take_append_of_le_length hlt, List.take_append_of_le_length (Nat.le_of_lt hlt)]
    simp [Nat.ne_of_lt hlt]
  · have hnot : ¬ ChangesAt type steps steps.length := fun h => Nat.lt_irrefl _ h.lt_length
    rw [ChangesAt, List.take_of_length_le (by simp), List.take_left]
    simp [hnot]
  · have hnot : ¬ ChangesAt type steps i := fun h => Nat.lt_asymm hgt h.lt_length
    have hnot' : ¬ ChangesAt type (steps ++ [v]) i := fun h => by
      have hlt := h.lt_length
      rw [List.length_append, List.length_singleton] at hlt
      exact Nat.lt_irrefl _ (Nat.lt_of_lt_of_le hgt (Nat.le_of_lt_succ hlt))
    simp [hnot, hnot', Nat.ne_of_gt hgt]

/-- A step that changes nothing leaves the record as it is. -/
private theorem Recorded.keep (h : Recorded type first steps c) (hsame : holds type (steps ++ [v]) = holds type steps) :
    Recorded type first (steps ++ [v]) c := by
  have hchanges : ∀ i, ChangesAt type (steps ++ [v]) i → ChangesAt type steps i := fun i hi =>
    (changesAt_concat.1 hi).resolve_right fun hnew => hnew.2 hsame
  refine ⟨h.type_eq, by rw [hsame, h.status], ?_⟩
  cases h.written with
  | initially hc htype hnever => exact .initially hc htype fun i hi => hnever i (hchanges i hi)
  | changed hv hchange hlast hc =>
    refine .changed ?_ (changesAt_concat.2 (.inl hchange)) (fun j hj hi => hlast j hj (hchanges j hi)) hc
    rw [List.getElem?_append_left hchange.lt_length, hv]

/-- A step that changes a condition writes the record. -/
private theorem Recorded.of_change (hchange : holds type (steps ++ [v]) ≠ holds type steps)
    (hc : v.record? type = some c) (htype : c.type = type)
    (hstatus : c.status = if holds type (steps ++ [v]) then "True" else "False") :
    Recorded type first (steps ++ [v]) c := by
  refine ⟨htype, hstatus, .changed (i := steps.length) ?_ (changesAt_concat.2 (.inr ⟨rfl, hchange⟩)) (fun j hj hi => ?_)
    hc⟩
  · rw [List.getElem?_append_right (Nat.le_refl _), Nat.sub_self]
    rfl
  · rcases changesAt_concat.1 hi with hi | ⟨rfl, -⟩
    · exact Nat.lt_asymm hj hi.lt_length
    · exact Nat.lt_irrefl _ hj

/-- One more step: what replaces the record is the record then. -/
theorem Recorded.concat (h : Recorded type first steps p) (v : Step) :
    ∃ c, replace (some p) (v.record? type) = some c ∧ Recorded type first (steps ++ [v]) c := by
  cases hverdict : v.verdict? type with
  | none =>
    rw [Step.record?_of_verdict hverdict]
    exact ⟨p, rfl, h.keep (by rw [holds_concat, hverdict, Option.getD_none])⟩
  | some b =>
    obtain ⟨c, hc, htype, hstatus⟩ := Step.exists_record hverdict
    have hholds : holds type (steps ++ [v]) = b := by rw [holds_concat, hverdict, Option.getD_some]
    rw [hc, replace]
    by_cases hsame : b = holds type steps
    · exact ⟨p, if_pos (by rw [h.status, hstatus, hsame]), h.keep (hholds.trans hsame)⟩
    · have hne : p.status ≠ c.status := by
        rw [h.status, hstatus]
        cases b <;> cases hb : holds type steps <;> simp_all
      exact ⟨c, if_neg hne, .of_change (by rwa [hholds]) hc htype (by rw [hholds, hstatus])⟩

/-! ### All steps -/

private theorem advance_eq {previous seed : List Condition} {a b a' b' : Condition}
    (hseed : (if previous.isEmpty then initial v.now else previous) = seed) (ha : latest seed .ready = some a)
    (hb : latest seed .routingReady = some b) (ha' : replace (some a) (v.record? .ready) = some a')
    (hb' : replace (some b) (v.record? .routingReady) = some b') :
    advance previous v.state v.declared v.live v.now = [a', b'] := by
  rw [Step.record?] at ha' hb'
  simp only [advance, hseed, types, List.filterMap_cons, List.filterMap_nil, ha, hb, ha', hb']

/-- A session starts with a record of each condition, none of which holds. -/
private theorem exists_initial (type : ConditionType) (now : Instant) :
    ∃ c, latest (initial now) type = some c ∧ Recorded type now [] c := by
  have hnever : ∀ i, ¬ ChangesAt type [] i := fun i h => absurd h.lt_length (Nat.not_lt_zero i)
  cases type with
  | ready => exact ⟨_, rfl, rfl, rfl, .initially (.head _) rfl hnever⟩
  | routingReady => exact ⟨_, rfl, rfl, rfl, .initially (.tail _ (.head _)) rfl hnever⟩

/-- After any steps there is one record of each condition. -/
theorem recorded_after (first : Step) (later : List Step) :
    ∃ ready routing, after (first :: later) = [ready, routing] ∧ Recorded .ready first.now (first :: later) ready ∧
      Recorded .routingReady first.now (first :: later) routing := by
  induction later using List.reverseRecOn with
  | nil =>
    obtain ⟨a, ha, hready⟩ := exists_initial .ready first.now
    obtain ⟨b, hb, hrouting⟩ := exists_initial .routingReady first.now
    obtain ⟨a', ha', hready'⟩ := hready.concat first
    obtain ⟨b', hb', hrouting'⟩ := hrouting.concat first
    exact ⟨a', b', advance_eq rfl ha hb ha' hb', hready', hrouting'⟩
  | append_singleton later v ih =>
    obtain ⟨a, b, hafter, hready, hrouting⟩ := ih
    have ha : latest [a, b] .ready = some a := by simp [latest, hready.type_eq, hrouting.type_eq]
    have hb : latest [a, b] .routingReady = some b := by simp [latest, hrouting.type_eq]
    obtain ⟨a', ha', hready'⟩ := hready.concat v
    obtain ⟨b', hb', hrouting'⟩ := hrouting.concat v
    refine ⟨a', b', ?_, hready', hrouting'⟩
    rw [← List.cons_append, after_concat, hafter]
    exact advance_eq rfl ha hb ha' hb'

/-! ### What was said last -/

theorem holds_ready : holds .ready steps = true ↔ ∃ v, steps.getLast? = some v ∧ v.state = .running := by
  have hverdict : steps.filterMap (·.verdict? .ready) = steps.map fun v => decide (v.state = .running) :=
    congrFun List.filterMap_eq_map steps
  rw [holds, hverdict, List.getLast?_map]
  cases steps.getLast? <;> simp

/-- The steps that say something of routing are those without an ingress declared, or with one live. -/
theorem holds_routingReady : holds .routingReady steps = true ↔
    ∃ v, (steps.filter fun v => !v.declared || v.live).getLast? = some v ∧ v.declared = true ∧ v.live = true := by
  have hverdict : steps.filterMap (·.verdict? .routingReady) =
      (steps.filter fun v => !v.declared || v.live).map (·.declared) := by
    induction steps with
    | nil => rfl
    | cons v steps ih =>
      rw [List.filterMap_cons, List.filter_cons, ih]
      cases hdeclared : v.declared <;> cases hlive : v.live <;> simp [Step.verdict?, hdeclared, hlive]
  rw [holds, hverdict, List.getLast?_map]
  cases hlast : (steps.filter fun v => !v.declared || v.live).getLast? with
  | none => simp
  | some v =>
    have hopen : (!v.declared || v.live) = true := (List.mem_filter.1 (List.mem_of_getLast? hlast)).2
    cases hdeclared : v.declared <;> simp_all

private theorem Recorded.isTrue_iff (h : Recorded type first steps c) : c.isTrue = true ↔ holds type steps = true := by
  rw [Condition.isTrue, h.status]
  cases holds type steps <;> simp

/-- There is at most one record for each type, in the order of the types. -/
theorem advance_types (previous : List Condition) (state : SessionState) (declared live : Bool) (now : Instant) :
    ((advance previous state declared live now).map (·.type)).Sublist types := by
  rw [advance, List.map_filterMap]
  generalize (if previous.isEmpty then initial now else previous) = seed
  have hguard : (fun type => (replace (latest seed type) (observed state declared live now type)).map (·.type)) =
      Option.guard fun type => (replace (latest seed type) (observed state declared live now type)).isSome := by
    funext type
    cases h : replace (latest seed type) (observed state declared live now type) with
    | none => simp [Option.guard, h]
    | some c => simp [Option.guard, h, next_type h]
  rw [hguard, List.filterMap_eq_filter]
  exact List.filter_sublist

/-- The records after any steps are those of readiness and of routing, each as the last step that changed it has
written it; and one step from any records leaves at most one of each type, that of readiness as the state asks. -/
theorem advance_exact :
    (∀ first later, ∃ ready routing, after (first :: later) = [ready, routing] ∧
      (ready.isTrue = true ↔ ∃ v, (first :: later).getLast? = some v ∧ v.state = .running) ∧
      (routing.isTrue = true ↔ ∃ v, ((first :: later).filter fun v => !v.declared || v.live).getLast? = some v ∧
        v.declared = true ∧ v.live = true) ∧
      Recorded .ready first.now (first :: later) ready ∧ Recorded .routingReady first.now (first :: later) routing) ∧
    ∀ previous state declared live now, ((advance previous state declared live now).map (·.type)).Sublist types ∧
      ∃ c, (advance previous state declared live now).filter (fun c => c.type = .ready) = [c] ∧
        c.status = if state = .running then "True" else "False" := by
  constructor
  · intro first later
    obtain ⟨ready, routing, hafter, hready, hrouting⟩ := recorded_after first later
    exact ⟨ready, routing, hafter, hready.isTrue_iff.trans holds_ready, hrouting.isTrue_iff.trans holds_routingReady,
      hready, hrouting⟩
  · intro previous state declared live now
    exact ⟨advance_types .., Status.readyStatus_advance ..⟩

end Conditions

end SessionOperator
