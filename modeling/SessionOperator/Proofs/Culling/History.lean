import SessionOperator.Cluster.Memory
import SessionOperator.Proofs.Culling.HibernationDate
import SessionOperator.Proofs.Fallible
import SessionOperator.Proofs.Pass.Conversation
import SessionOperator.Proofs.Status
import SessionOperator.Proofs.Time.Elapsed
import SessionOperator.Proofs.Time.Rfc3339

/-!
# Culling over the life of a session

A run is any sequence of passes over a session: between two passes the session may be edited at will, except for its
recorded status, and what a pass asks may be answered or refused in any way.  A session is culled only for what has
been on record, without a break, since some pass long enough ago.

* `Run`: the runs of a session, newest pass first;
* `HeldSince`: since some pass every status on record has had a property;
* `Latched`: a timestamp that is set when a property begins to hold and kept while it holds;
* `Run.stamped`: a recorded timestamp of this kind is that of a pass since which the property has held;
* `Run.culling_justified`: why a session is deleted, and why it is hibernated by the rules for idle and failed ones.
-/

namespace SessionOperator

open Program

/-- One pass: the session as the pass got it, and what was said. -/
structure Visit where
  session : Session
  config : Config
  now : Instant
  calls : List clusterInterface.Call

/-- The status that is on record after a pass. -/
def Visit.recorded (v : Visit) : Option SessionStatus := v.calls.foldl statusAfter v.session.status

def recordedAfter : List Visit → Option SessionStatus
  | [] => none
  | v :: _ => v.recorded

/-- The runs of a session that starts without a status, newest pass first. -/
inductive Run : List Visit → Prop
  | start : Run []
  | pass {v : Visit} {visits : List Visit} {outcome : Outcome} (past : Run visits)
      (status : v.session.status = recordedAfter visits) (time : ∀ w ∈ visits, v.now.before w.now = false)
      (conversation : (Pass.apply v.session v.config v.now).Conversation v.calls outcome) : Run (v :: visits)

/-- The newest pass of a run is a pass over its session. -/
theorem Run.conversation {v : Visit} {visits : List Visit} (h : Run (v :: visits)) :
    ∃ outcome, (Pass.apply v.session v.config v.now).Conversation v.calls outcome := by
  cases h with
  | pass past status time conversation => exact ⟨_, conversation⟩

/-- Every status that has been on record since the pass at `t₀` has the property. -/
def HeldSince (P : SessionStatus → Prop) (visits : List Visit) (t₀ : Instant) : Prop :=
  ∃ recent first older, visits = recent ++ first :: older ∧ first.now = t₀ ∧
    ∀ v ∈ recent ++ [first], ∃ status, v.recorded = some status ∧ P status

/-- The timestamp `since` is set by the pass with which `P` begins to hold, and kept while it holds. -/
structure Latched (P : SessionStatus → Prop) (since : SessionStatus → Option String) : Prop where
  initial : since .default = none
  computed (s : Session) (policy : CullingPolicy) (updates : ChildUpdates) (seen : Observations) (now : Instant)
      (text : String) : since (Pass.status s policy updates seen now) = some text →
    P (Pass.status s policy updates seen now) ∧ text = (since s.recorded).getD now.stamp

/-- A timestamp on record is that of a pass since which the property has held. -/
def Stamped (P : SessionStatus → Prop) (since : SessionStatus → Option String) (visits : List Visit) : Prop :=
  ∀ status text, recordedAfter visits = some status → since status = some text →
    P status ∧ ∃ t₀, HeldSince P visits t₀ ∧ text = t₀.stamp

/-! ### Latches -/

/-- A timestamp that is latched by what the property says is set when the property begins to hold. -/
private theorem Latched.of_build {P : SessionStatus → Prop} {since : SessionStatus → Option String}
    (hinitial : since .default = none)
    (h : ∀ (s : Session) (updates : ChildUpdates) (seen : Observations) (now : Instant) (date : Option String),
      ∃ active, since { Status.build s updates seen now with willHibernateAt := date } =
          Status.latch active (since s.recorded) now ∧
        (active = true → P { Status.build s updates seen now with willHibernateAt := date })) : Latched P since where
  initial := hinitial
  computed := by
    intro s policy updates seen now text hsince
    obtain ⟨date, heq⟩ := Pass.status_eq s policy updates seen now
    obtain ⟨active, hlatch, hactive⟩ := h s updates seen now date
    rw [heq, hlatch] at hsince
    rw [heq]
    obtain ⟨hon, htext⟩ := Status.latch_eq_some hsince
    exact ⟨hactive hon, htext⟩

theorem latched_hibernated : Latched (fun st => st.state = .hibernated) (·.hibernatedSince) :=
  .of_build rfl fun _ _ _ _ _ => ⟨_, rfl, of_decide_eq_true⟩

theorem latched_failed : Latched (fun st => st.state = .failed) (·.failingSince) :=
  .of_build rfl fun _ _ _ _ _ => ⟨_, rfl, of_decide_eq_true⟩

theorem latched_idle : Latched (fun st => st.idle = true) (·.idleSince) :=
  .of_build rfl fun _ _ _ _ _ => ⟨_, rfl, id⟩

/-! ### What stands recorded -/

theorem HeldSince.extend {P : SessionStatus → Prop} {v : Visit} {visits : List Visit} {t₀ : Instant}
    {status : SessionStatus} (h : HeldSince P visits t₀) (hv : v.recorded = some status) (hP : P status) :
    HeldSince P (v :: visits) t₀ := by
  obtain ⟨recent, first, older, rfl, hfirst, hall⟩ := h
  refine ⟨v :: recent, first, older, rfl, hfirst, ?_⟩
  intro w hw
  rcases List.mem_cons.1 hw with rfl | hw
  · exact ⟨status, hv, hP⟩
  · exact hall w hw

theorem HeldSince.begin {P : SessionStatus → Prop} {v : Visit} {status : SessionStatus} (visits : List Visit)
    (hv : v.recorded = some status) (hP : P status) : HeldSince P (v :: visits) v.now := by
  refine ⟨[], v, visits, rfl, rfl, ?_⟩
  intro w hw
  rw [List.mem_singleton.1 hw]
  exact ⟨status, hv, hP⟩

/-- Time does not run backwards. -/
theorem HeldSince.not_before {P : SessionStatus → Prop} {v : Visit} {visits : List Visit} {t₀ : Instant}
    (h : HeldSince P (v :: visits) t₀) (hrun : Run (v :: visits)) : v.now.before t₀ = false := by
  obtain ⟨recent, first, older, heq, rfl, -⟩ := h
  cases hrun with
  | pass past status time conversation =>
    have hmem : first ∈ v :: visits := heq ▸ List.mem_append_right recent List.mem_cons_self
    rcases List.mem_cons.1 hmem with rfl | hmem
    · rw [Bool.eq_false_iff, ne_eq, Instant.before_iff_rank]
      omega
    · exact time first hmem

/-- One more pass keeps the timestamps true. -/
theorem Stamped.pass {P : SessionStatus → Prop} {since : SessionStatus → Option String} (hlatch : Latched P since)
    {v : Visit} {visits : List Visit} {outcome : Outcome} (h : Stamped P since visits)
    (hstatus : v.session.status = recordedAfter visits)
    (hconv : (Pass.apply v.session v.config v.now).Conversation v.calls outcome) : Stamped P since (v :: visits) := by
  intro status text (hv : v.recorded = some status) hsince
  rcases Pass.recorded_cases hconv with hold | ⟨policy, updates, seen, hnew⟩
  · -- nothing new on record
    have hbefore : recordedAfter visits = some status := by
      rw [← hstatus, ← hold]
      exact hv
    obtain ⟨hP, t₀, hheld, htext⟩ := h status text hbefore hsince
    exact ⟨hP, t₀, hheld.extend hv hP, htext⟩
  · obtain rfl : Pass.status v.session policy updates seen v.now = status := Option.some.inj (hnew.symm.trans hv)
    obtain ⟨hP, htext⟩ := hlatch.computed _ _ _ _ _ _ hsince
    refine ⟨hP, ?_⟩
    cases hprev : since v.session.recorded with
    | none =>
      -- the property begins to hold with this pass
      rw [hprev] at htext
      exact ⟨v.now, .begin visits hv hP, htext⟩
    | some text' =>
      rw [hprev] at htext
      obtain rfl : text = text' := htext
      unfold Session.recorded at hprev
      cases hs : v.session.status with
      | none =>
        rw [hs] at hprev
        rw [Option.getD_none, hlatch.initial] at hprev
        cases hprev
      | some previous =>
        rw [hs] at hprev
        obtain ⟨-, t₀, hheld, ht⟩ := h previous text (hstatus ▸ hs) hprev
        exact ⟨t₀, hheld.extend hv hP, ht⟩

theorem Run.stamped {P : SessionStatus → Prop} {since : SessionStatus → Option String} (hlatch : Latched P since)
    {visits : List Visit} (h : Run visits) : Stamped P since visits := by
  induction h with
  | start => exact fun _ _ hrec => nomatch hrec
  | pass past status time conversation ih => exact ih.pass hlatch status conversation

/-! ### The decisions -/

/-- The later of two instants; the first if there is only one. -/
def Instant.orLater (t : Instant) : Option Instant → Instant
  | some u => if t.before u then u else t
  | none => t

/-- A threshold that is exceeded since a recorded time: the time is that of some pass, cut to the second. -/
theorem Stamped.exceeded {P : SessionStatus → Prop} {since : SessionStatus → Option String} {visits : List Visit}
    (h : Stamped P since visits) {status : SessionStatus} (hrec : recordedAfter visits = some status)
    {t : Instant} (ht : recordedTime (since status) = some t) :
    P status ∧ ∃ t₀, HeldSince P visits t₀ ∧ t = t₀.truncate := by
  obtain ⟨text, htext, hparse⟩ := Option.bind_eq_some_iff.1 ht
  obtain ⟨hP, t₀, hheld, rfl⟩ := h status text hrec htext
  rw [Instant.parse?_stamp] at hparse
  split at hparse
  · exact ⟨hP, t₀, hheld, (Option.some.inj hparse).symm⟩
  · cases hparse

theorem exceeds_eq_true {threshold : Duration} {now : Instant} {start : Option Instant} :
    exceeds threshold now start = true ↔
      0 < threshold ∧ ∃ t, start = some t ∧ (threshold : Int) < now.since t := by
  simp only [exceeds, Bool.and_eq_true, decide_eq_true_eq, Option.any_eq_true, Instant.elapsed]
  have hlt : ∀ n : Int, threshold < n.toNat ↔ (threshold : Int) < n := fun n => Int.lt_toNat
  simp only [hlt, Nat.pos_iff_ne_zero, ne_eq, decide_eq_true_eq]

theorem Pass.policy_of_prepare {s : Session} {config : Config} {plan : Plan} (h : prepare s config = .ok plan) :
    CullingPolicy.ofSpec s.spec.culling = .ok plan.policy := by
  unfold prepare at h
  split at h
  · cases h
  · obtain ⟨policy, hpolicy, h⟩ := Fallible.bind_eq_ok_iff.1 h
    obtain ⟨children, -, h⟩ := Fallible.bind_eq_ok_iff.1 h
    cases h
    cases hspec : CullingPolicy.ofSpec s.spec.culling with
    | error e =>
      rw [hspec] at hpolicy
      cases hpolicy
    | ok p =>
      rw [hspec] at hpolicy
      cases hpolicy
      rfl

/-- A session is deleted by a pass only if it has been on record as hibernated since a pass long ago. -/
private theorem Run.deletion_justified {v : Visit} {visits : List Visit} (hrun : Run (v :: visits))
    {call : clusterInterface.Call} (hcall : call ∈ v.calls) {name : String}
    (hname : call.question = .deleteSession name) :
    v.session.spec.hibernated = true ∧ ∃ p t₀, CullingPolicy.ofSpec v.session.spec.culling = .ok p ∧
      0 < p.maxHibernated ∧ v.now.before t₀ = false ∧
      HeldSince (fun st => st.state = .hibernated) (v :: visits) t₀ ∧
      (p.maxHibernated : Int) < v.now.since t₀.truncate := by
  obtain ⟨outcome, hconv⟩ := hrun.conversation
  obtain ⟨plan, updates, sighting, culled, hplan, hrec, hmem, hcull⟩ :=
    Pass.fate_conversation hconv hcall (by rw [hname]; rfl)
  have hdelete := Pass.cull_deletes hcull hmem hname
  rw [CullingPolicy.needsDeletion, Bool.and_eq_true, decide_eq_true_eq] at hdelete
  obtain ⟨hpos, t, ht, hlong⟩ := exceeds_eq_true.1 hdelete.2
  -- the recorded time is that of the pass since which the session has been hibernated
  obtain ⟨-, t₀, hheld, rfl⟩ := (hrun.stamped latched_hibernated).exceeded hrec ht
  exact ⟨Pass.hibernated_of_state hdelete.1, plan.policy, t₀, Pass.policy_of_prepare hplan, hpos,
    hheld.not_before hrun, hheld, hlong⟩

/-- A session is hibernated by a pass for one of the rules in force. -/
private theorem Run.hibernation_justified {v : Visit} {visits : List Visit} (hrun : Run (v :: visits))
    {call : clusterInterface.Call} (hcall : call ∈ v.calls) {name : String}
    (hname : call.question = .hibernateSession name) :
    ∃ p, CullingPolicy.ofSpec v.session.spec.culling = .ok p ∧ (p.maxAge = 0 → p.maxStarting = 0 →
      ∃ t₀, v.now.before t₀ = false ∧
        ((HeldSince (fun st => st.idle = true) (v :: visits) t₀ ∧ 0 < p.maxIdle ∧
          (p.maxIdle : Int) < v.now.since (t₀.truncate.orLater p.lastInteraction)) ∨
        (HeldSince (fun st => st.state = .failed) (v :: visits) t₀ ∧ 0 < p.maxFailed ∧
          (p.maxFailed : Int) < v.now.since t₀.truncate))) := by
  obtain ⟨outcome, hconv⟩ := hrun.conversation
  obtain ⟨plan, updates, sighting, culled, hplan, hrec, hmem, hcull⟩ :=
    Pass.fate_conversation hconv hcall (by rw [hname]; rfl)
  refine ⟨plan.policy, Pass.policy_of_prepare hplan, fun hage hstarting => ?_⟩
  have hhibernate := Pass.cull_hibernates hcull hmem hname
  rw [Pass.mustHibernate, Bool.and_eq_true, CullingPolicy.needsScaleDown_iff] at hhibernate
  obtain ⟨-, -, rule, hexceeds⟩ := hhibernate
  obtain ⟨hpos, t, ht, hlong⟩ := exceeds_eq_true.1 hexceeds
  cases rule with
  | maxAge => exact absurd hage hpos.ne'
  | maxStarting => exact absurd hstarting hpos.ne'
  | maxFailed =>
    obtain ⟨-, t₀, hheld, rfl⟩ := (hrun.stamped latched_failed).exceeded hrec ht
    exact ⟨t₀, hheld.not_before hrun, .inr ⟨hheld, hpos, hlong⟩⟩
  | maxIdle =>
    -- a later interaction of the user moves the start of this rule
    obtain ⟨since, hsince, rfl⟩ := Option.map_eq_some_iff.1 ht
    obtain ⟨-, t₀, hheld, rfl⟩ := (hrun.stamped latched_idle).exceeded hrec hsince
    exact ⟨t₀, hheld.not_before hrun, .inl ⟨hheld, hpos, hlong⟩⟩

/-- What justifies culling.  A session is deleted only if it is to be hibernated and has been on record as hibernated,
without a break, since a pass that lies back by more than the time allowed.  If only the rules for idle and for failed
sessions are in force, it is hibernated only if it has been on record as idle, or as failed, since such a pass; a later
interaction of the user restarts the time of an idle one. -/
theorem Run.culling_justified {v : Visit} {visits : List Visit} (h : Run (v :: visits)) :
    (∀ call ∈ v.calls, ∀ name, call.question = .deleteSession name →
      v.session.spec.hibernated = true ∧ ∃ p t₀, CullingPolicy.ofSpec v.session.spec.culling = .ok p ∧
        0 < p.maxHibernated ∧ v.now.before t₀ = false ∧
        HeldSince (fun st => st.state = .hibernated) (v :: visits) t₀ ∧
        (p.maxHibernated : Int) < v.now.since t₀.truncate) ∧
    (∀ call ∈ v.calls, ∀ name, call.question = .hibernateSession name →
      ∃ p, CullingPolicy.ofSpec v.session.spec.culling = .ok p ∧ (p.maxAge = 0 → p.maxStarting = 0 →
        ∃ t₀, v.now.before t₀ = false ∧
          ((HeldSince (fun st => st.idle = true) (v :: visits) t₀ ∧ 0 < p.maxIdle ∧
            (p.maxIdle : Int) < v.now.since (t₀.truncate.orLater p.lastInteraction)) ∨
          (HeldSince (fun st => st.state = .failed) (v :: visits) t₀ ∧ 0 < p.maxFailed ∧
            (p.maxFailed : Int) < v.now.since t₀.truncate)))) := by
  exact ⟨fun call hcall name hname => h.deletion_justified hcall hname,
    fun call hcall name hname => h.hibernation_justified hcall hname⟩

/-- A pass against a cluster in memory. -/
def Visit.ofCluster (c : Cluster) (config : Config) (now : Instant) : Visit :=
  ⟨c.session, config, now, (Pass.apply c.session config now).calls Cluster.answer c⟩

/-- A cluster with nothing but a plain session that is to be hibernated. -/
def Cluster.sleeping (culling : CullingSpec) : Cluster :=
  .ofSession ⟨Session.plainMetadata "2024-01-01T00:00:00Z", .plain true culling, none⟩

/-- A session that may sleep for an hour falls asleep with its first pass; two hours later it is deleted. -/
theorem Run.culling_justified_sleeping :
    let config := Config.default ⟨none, none⟩
    let begin := Instant.ofUnix 1728000000
    let now := Instant.ofUnix 1728007200
    let c := Cluster.sleeping { CullingSpec.default with maxHibernatedDuration := some "1h" }
    let first := Visit.ofCluster c config begin
    let slept := ((Pass.apply c.session config begin).run Cluster.answer c).2
    let second := Visit.ofCluster slept config now
    Run [second, first] ∧ (∃ call ∈ second.calls, call.question = .deleteSession "plain") ∧
      ∃ p t₀, CullingPolicy.ofSpec second.session.spec.culling = .ok p ∧
        HeldSince (fun st => st.state = .hibernated) [second, first] t₀ ∧
        (p.maxHibernated : Int) < now.since t₀.truncate := by
  intro config begin now c first slept second
  have hrun : Run [second, first] := by
    refine .pass (.pass .start rfl (by simp) (conversation_run _ _ _)) ?_ ?_ (conversation_run _ _ _)
    · decide +kernel
    · decide +kernel
  have hdelete : (second.calls.map fun call => call.question).contains (Request.deleteSession "plain") = true := by
    decide +kernel
  obtain ⟨call, hcall, hname⟩ := List.mem_map.1 (List.contains_iff_mem.1 hdelete)
  obtain ⟨-, p, t₀, hp, -, -, hheld, hlong⟩ := (Run.culling_justified hrun).1 call hcall "plain" hname
  exact ⟨hrun, ⟨call, hcall, hname⟩, p, t₀, hp, hheld, hlong⟩

end SessionOperator
