import SessionOperator.Pass.Finalizer
import SessionOperator.Proofs.Children.Brought
import SessionOperator.Proofs.Cluster.Faults
import SessionOperator.Proofs.Session.Adoption

/-!
# Cleaning up, attempt after attempt

Any call of a cleanup may fail, and an attempt may be broken off after any call; then another one is made.  One whose
status is on record goes through all adopted secrets, whatever fails on the way, and succeeds when nothing has.

* `Pass.cleanup_conversation`: all that an attempt may say, and how it ends;
* `Pass.Clearance`: what an attempt achieves whose status is on record;
* `Attempts`: a history of attempts over a cluster whose calls may fail;
* `Pass.release_guarded`: the mark is removed only when the adopted secrets are gone;
* `CleanedUp`, `Attempts.cleaned_up`: what holds after any history, and at any time while the next attempt is made.
-/

namespace SessionOperator

open Program Child Cluster

namespace Pass

variable {s : Session} {calls : List clusterInterface.Call} {outcome : Outcome}

/-- What is reported of a deletion that failed. -/
def deletionFailure? : clusterInterface.Call → Option Failure
  | ⟨.deleteSecret name, .error e⟩ => some ⟨"secret/" ++ name, e.message⟩
  | _ => none

/-- How an attempt ends that has asked for deletions. -/
def verdict (calls : List clusterInterface.Call) : Outcome :=
  if calls.filterMap deletionFailure? = [] then .ok .onChange else .error (.children (calls.filterMap deletionFailure?))

/-- The recording of the status of a session that goes away, if it differs and when the cluster takes it. -/
def parting (s : Session) : List clusterInterface.Call :=
  if parted s.recorded = s.recorded then [] else [⟨.patchStatus s.name (parted s.recorded), .ok ()⟩]

/-- All that an attempt may say, and how it ends. -/
inductive Cleaning (s : Session) : List clusterInterface.Call → Outcome → Prop
  | unreported (e : ApiError) (hnew : parted s.recorded ≠ s.recorded) :
      Cleaning s [⟨.patchStatus s.name (parted s.recorded), .error e⟩] (.error (.cluster e))
  | reported (deletions : List clusterInterface.Call)
      (h : deletions.map (·.question) = s.adoptedSecrets.map Request.deleteSecret) :
      Cleaning s (parting s ++ deletions) (verdict deletions)

/-- No status failed to be recorded. -/
def Reported (calls : List clusterInterface.Call) : Prop :=
  ∀ call ∈ calls, ∀ name st, call.question = Request.patchStatus name st →
    Request.failed call.question call.answer = false

/-- What an attempt achieves whose status is on record: all adopted secrets are asked to be deleted, and it succeeds
exactly when no call fails. -/
structure Clearance (s : Session) (calls : List clusterInterface.Call) (outcome : Outcome) : Prop where
  deletions : ∃ deletions, calls = parting s ++ deletions ∧
    deletions.map (·.question) = s.adoptedSecrets.map Request.deleteSecret
  ok_iff : outcome = .ok .onChange ↔ Smooth calls
  failures : ¬Smooth calls → outcome = .error (.children (calls.filterMap deletionFailure?))

/-! ### One attempt -/

theorem deleteSecrets_conversation {names : List String} {failures : List Failure} :
    (deleteSecrets names).Conversation calls failures ↔
      calls.map (·.question) = names.map Request.deleteSecret ∧ failures = calls.filterMap deletionFailure? := by
  induction names generalizing calls failures with
  | nil =>
    rw [deleteSecrets, pure_eq, conversation_done, List.map_nil, List.map_eq_nil_iff]
    refine and_congr_right fun hnil => ?_
    rw [hnil, List.filterMap_nil]
  | cons name names ih =>
    rw [deleteSecrets, request_bind_conversation, List.map_cons]
    constructor
    · rintro ⟨answer, rest, rfl, h⟩
      obtain ⟨asked, later, last, rfl, hasked, hlast⟩ := conversation_bind.1 h
      obtain ⟨hquestions, rfl⟩ := ih.1 hasked
      cases answer with
      | ok found =>
        obtain ⟨rfl, rfl⟩ := conversation_done.1 hlast
        rw [List.append_nil]
        exact ⟨congrArg _ hquestions, rfl⟩
      | error e =>
        obtain ⟨rfl, rfl⟩ := conversation_done.1 hlast
        rw [List.append_nil]
        exact ⟨congrArg _ hquestions, rfl⟩
    · rintro ⟨hquestions, rfl⟩
      obtain ⟨⟨question, answer⟩, rest, rfl, hquestion, hrest⟩ := List.map_eq_cons_iff.1 hquestions
      obtain rfl : question = .deleteSecret name := hquestion
      refine ⟨answer, rest, rfl, conversation_bind.2 ⟨rest, _, [], by simp, ih.2 ⟨hrest, rfl⟩, ?_⟩⟩
      cases answer with
      | ok found => exact .done _
      | error e => exact .done _

theorem releaseSecrets_conversation : (releaseSecrets s).Conversation calls outcome ↔
    calls.map (·.question) = s.adoptedSecrets.map Request.deleteSecret ∧ outcome = verdict calls := by
  rw [releaseSecrets, bind_eq, conversation_bind]
  constructor
  · rintro ⟨asked, failures, last, rfl, hasked, hlast⟩
    obtain ⟨hquestions, rfl⟩ := deleteSecrets_conversation.1 hasked
    obtain ⟨rfl, rfl⟩ := conversation_done.1 hlast
    rw [List.append_nil]
    exact ⟨hquestions, rfl⟩
  · rintro ⟨hquestions, rfl⟩
    exact ⟨calls, _, [], by simp, deleteSecrets_conversation.2 ⟨hquestions, rfl⟩, .done _⟩

theorem cleanup_conversation : (cleanup s).Conversation calls outcome ↔ Cleaning s calls outcome := by
  unfold cleanup
  by_cases hold : parted s.recorded = s.recorded
  · simp only [if_pos hold]
    rw [releaseSecrets_conversation]
    constructor
    · rintro ⟨hquestions, rfl⟩
      have hreported := Cleaning.reported calls hquestions
      rwa [parting, if_pos hold] at hreported
    · intro h
      cases h with
      | unreported e hnew => exact absurd hold hnew
      | reported deletions hquestions =>
        rw [parting, if_pos hold]
        exact ⟨hquestions, rfl⟩
  · simp only [if_neg hold]
    rw [request_bind_conversation]
    constructor
    · rintro ⟨answer, rest, rfl, h⟩
      cases answer with
      | error e =>
        obtain ⟨rfl, rfl⟩ := conversation_done.1 h
        exact .unreported e hold
      | ok u =>
        obtain ⟨hquestions, rfl⟩ := releaseSecrets_conversation.1 h
        have hreported := Cleaning.reported rest hquestions
        rwa [parting, if_neg hold] at hreported
    · intro h
      cases h with
      | unreported e hnew => exact ⟨.error e, [], rfl, .done _⟩
      | reported deletions hquestions =>
        rw [parting, if_neg hold]
        exact ⟨.ok (), deletions, rfl, releaseSecrets_conversation.2 ⟨hquestions, rfl⟩⟩

/-! ### What an attempt achieves -/

theorem mem_parting {call : clusterInterface.Call} (h : call ∈ parting s) :
    call = ⟨.patchStatus s.name (parted s.recorded), .ok ()⟩ := by
  unfold parting at h
  split at h
  · cases h
  · exact List.mem_singleton.1 h

theorem smooth_parting (s : Session) : Smooth (parting s) := by
  intro call hcall
  rw [mem_parting hcall]
  rfl

theorem filterMap_parting (s : Session) : (parting s).filterMap deletionFailure? = [] := by
  refine List.filterMap_eq_nil_iff.2 fun call hcall => ?_
  rw [mem_parting hcall]
  rfl

theorem deletionFailure?_eq_none_iff {call : clusterInterface.Call} {name : String}
    (h : call.question = .deleteSecret name) :
    deletionFailure? call = none ↔ Request.failed call.question call.answer = false := by
  obtain ⟨question, answer⟩ := call
  obtain rfl : question = .deleteSecret name := h
  cases answer <;> simp [deletionFailure?, Request.failed, Except.isOk, Except.toBool]

theorem exists_of_mem_deletions {deletions : List clusterInterface.Call} {call : clusterInterface.Call}
    (h : deletions.map (·.question) = s.adoptedSecrets.map Request.deleteSecret) (hcall : call ∈ deletions) :
    ∃ name ∈ s.adoptedSecrets, call.question = .deleteSecret name := by
  have hasked : call.question ∈ s.adoptedSecrets.map Request.deleteSecret := h ▸ List.mem_map_of_mem hcall
  obtain ⟨name, hname, heq⟩ := List.mem_map.1 hasked
  exact ⟨name, hname, heq.symm⟩

/-- An attempt records the status and asks for the deletion of adopted secrets, and nothing else. -/
theorem Cleaning.question_cases (h : Cleaning s calls outcome) {call : clusterInterface.Call} (hcall : call ∈ calls) :
    call.question = .patchStatus s.name (parted s.recorded) ∨
      ∃ name ∈ s.adoptedSecrets, call.question = .deleteSecret name := by
  cases h with
  | unreported e hnew =>
    rw [List.mem_singleton.1 hcall]
    exact .inl rfl
  | reported deletions hquestions =>
    rcases List.mem_append.1 hcall with hcall | hcall
    · rw [mem_parting hcall]
      exact .inl rfl
    · exact .inr (exists_of_mem_deletions hquestions hcall)

theorem Cleaning.adopted (h : Cleaning s calls outcome) {call : clusterInterface.Call} (hcall : call ∈ calls)
    {name : String} (hname : call.question = .deleteSecret name) : name ∈ s.adoptedSecrets := by
  rcases h.question_cases hcall with hstatus | ⟨_, hmem, hdelete⟩
  · cases hname.symm.trans hstatus
  · cases hname.symm.trans hdelete
    exact hmem

theorem Cleaning.clearance (h : Cleaning s calls outcome) (hreported : Reported calls) :
    Clearance s calls outcome := by
  cases h with
  | unreported e hnew => cases hreported _ List.mem_cons_self _ _ rfl
  | reported deletions hquestions =>
    have hsmooth : deletions.filterMap deletionFailure? = [] ↔ Smooth (parting s ++ deletions) := by
      rw [Smooth, List.forall_mem_append, and_iff_right (smooth_parting s), List.filterMap_eq_nil_iff]
      refine forall₂_congr fun call hcall => ?_
      obtain ⟨name, -, hname⟩ := exists_of_mem_deletions hquestions hcall
      exact deletionFailure?_eq_none_iff hname
    refine ⟨⟨deletions, rfl, hquestions⟩, ?_, fun hfailed => ?_⟩
    · unfold verdict
      split
      · rename_i hnone
        exact ⟨fun _ => hsmooth.1 hnone, fun _ => rfl⟩
      · rename_i hsome
        exact ⟨fun h => (nomatch h), fun h => absurd (hsmooth.2 h) hsome⟩
    · rw [verdict, if_neg (mt hsmooth.1 hfailed), List.filterMap_append, filterMap_parting, List.nil_append]

theorem Cleaning.ends_at_once (h : Cleaning s calls outcome) (hnot : ¬Reported calls) :
    ∃ e, calls = [⟨.patchStatus s.name (parted s.recorded), .error e⟩] ∧ outcome = .error (.cluster e) := by
  cases h with
  | unreported e hnew => exact ⟨e, rfl, rfl⟩
  | reported deletions hquestions =>
    refine absurd (fun call hcall name st hstatus => ?_) hnot
    rcases List.mem_append.1 hcall with hcall | hcall
    · rw [mem_parting hcall]
      rfl
    · obtain ⟨_, -, hdelete⟩ := exists_of_mem_deletions hquestions hcall
      cases hstatus.symm.trans hdelete

/-- An attempt that succeeds has asked for the deletion of every adopted secret, and no call failed. -/
theorem Cleaning.deleted {next : NextPass} (h : Cleaning s calls (.ok next)) {name : String}
    (hname : name ∈ s.adoptedSecrets) : ∃ call ∈ calls, call.question = .deleteSecret name ∧
      Request.failed call.question call.answer = false := by
  generalize houtcome : (Except.ok next : Outcome) = outcome at h
  cases h with
  | unreported e hnew => cases houtcome
  | reported deletions hquestions =>
    have hasked : Request.deleteSecret name ∈ deletions.map (·.question) :=
      hquestions ▸ List.mem_map_of_mem hname
    obtain ⟨call, hcall, hquestion⟩ := List.mem_map.1 hasked
    refine ⟨call, List.mem_append_right _ hcall, hquestion, ?_⟩
    unfold verdict at houtcome
    split at houtcome
    · rename_i hnone
      exact (deletionFailure?_eq_none_iff hquestion).1 (List.filterMap_eq_nil_iff.1 hnone call hcall)
    · cases houtcome

/-! ### The mark -/

/-- Once an attempt has succeeded, the adopted secrets are gone. -/
theorem Cleaning.gone {next : NextPass} {c c' : Cluster} (h : Cleaning s calls (.ok next)) (run : c.FaultyRun calls c')
    {name : String} (hname : name ∈ s.adoptedSecrets) : name ∉ c'.secrets := by
  obtain ⟨call, hcall, hquestion, hok⟩ := h.deleted hname
  exact run.not_mem_secrets hcall hquestion hok

/-- The mark is asked to be removed only at a time when the adopted secrets are gone. -/
theorem release_guarded {index : Nat} {name : String} {operations : Json} {answer : Except ApiError Unit}
    {rest : List clusterInterface.Call} {c c' : Cluster}
    (h : (release s index).Conversation (calls ++ ⟨.editSession name operations, answer⟩ :: rest) outcome)
    (run : c.FaultyRun calls c') : ∀ secret ∈ s.adoptedSecrets, secret ∉ c'.secrets := by
  unfold release at h
  split at h
  · cases (List.append_eq_nil_iff.1 (conversation_done.1 h).1).2
  · obtain ⟨cleaned, result, last, hcalls, hcleaned, hlast⟩ := conversation_bind.1 h
    have hcleaning := cleanup_conversation.1 hcleaned
    have hnot : (⟨.editSession name operations, answer⟩ : clusterInterface.Call) ∉ cleaned := by
      intro hmem
      rcases hcleaning.question_cases hmem with hstatus | ⟨_, -, hdelete⟩
      · cases hstatus
      · cases hdelete
    cases result with
    | error e =>
      obtain ⟨rfl, -⟩ := conversation_done.1 hlast
      rw [List.append_nil] at hcalls
      exact absurd (hcalls ▸ List.mem_append_right _ List.mem_cons_self) hnot
    | ok next =>
      obtain ⟨answer', others, rfl, hdone⟩ := request_bind_conversation.1 hlast
      have hothers : others = [] := by cases answer' <;> exact (conversation_done.1 hdone).1
      subst hothers
      -- what precedes the edit is the cleanup, which has succeeded
      have hbefore : calls = cleaned := by
        rcases List.append_eq_append_iff.1 hcalls with ⟨more, rfl, hmore⟩ | ⟨more, rfl, hmore⟩
        · cases more with
          | nil => rw [List.append_nil]
          | cons call more =>
            cases hmore
            exact absurd (List.mem_append_right _ List.mem_cons_self) hnot
        · cases more with
          | nil => rw [List.append_nil]
          | cons call more => simp at hmore
      exact fun secret hsecret => hcleaning.gone (hbefore ▸ run) hsecret

end Pass

/-! ### Attempt after attempt -/

/-- An attempt to clean up after a session: the calls that it made, and its outcome if it was not broken off. -/
structure Attempt where
  session : Session
  calls : List clusterInterface.Call
  outcome : Option Outcome

/-- The attempts that were made on sessions of one spec, the latest first, and the cluster that they have led to. -/
inductive Attempts (spec : SessionSpec) (c₀ : Cluster) : List Attempt → Cluster → Prop
  | start : Attempts spec c₀ [] c₀
  | returned {s : Session} {calls : List clusterInterface.Call} {outcome : Outcome} {past : List Attempt}
      {c c' : Cluster} (before : Attempts spec c₀ past c) (hspec : s.spec = spec)
      (said : (Pass.cleanup s).Conversation calls outcome) (run : c.FaultyRun calls c') :
      Attempts spec c₀ (⟨s, calls, some outcome⟩ :: past) c'
  | brokenOff {s : Session} {calls rest : List clusterInterface.Call} {outcome : Outcome} {past : List Attempt}
      {c c' : Cluster} (before : Attempts spec c₀ past c) (hspec : s.spec = spec)
      (said : (Pass.cleanup s).Conversation (calls ++ rest) outcome) (run : c.FaultyRun calls c') :
      Attempts spec c₀ (⟨s, calls, none⟩ :: past) c'

/-- What holds at any time while a session is cleaned up after: an attempt that is under way counts as broken off. -/
structure CleanedUp (s : Session) (c₀ : Cluster) (attempts : List Attempt) (c : Cluster) : Prop where
  adoption : s.Adoption s.adoptedSecrets
  /-- An attempt whose status is on record goes through all adopted secrets and succeeds unless some call failed. -/
  cleared : ∀ a ∈ attempts, ∀ outcome, a.outcome = some outcome → Pass.Reported a.calls →
    Pass.Clearance a.session a.calls outcome
  /-- Any other one ends at once. -/
  unreported : ∀ a ∈ attempts, ∀ outcome, a.outcome = some outcome → ¬Pass.Reported a.calls → ∃ e,
    a.calls = [⟨.patchStatus a.session.name (Pass.parted a.session.recorded), .error e⟩] ∧ outcome = .error (.cluster e)
  confined : ∀ a ∈ attempts, ∀ call ∈ a.calls, ∀ name, call.question = .deleteSecret name → name ∈ s.adoptedSecrets
  /-- Once some attempt has succeeded, the adopted secrets are gone. -/
  gone : (∃ a ∈ attempts, a.outcome = some (.ok .onChange)) → ∀ name ∈ s.adoptedSecrets, name ∉ c.secrets
  untouched : (c.secrets.filter fun name => name ∉ s.adoptedSecrets) =
    c₀.secrets.filter fun name => name ∉ s.adoptedSecrets
  /-- Whoever releases the session from now on edits its marks at a time when the adopted secrets are gone. -/
  guarded : ∀ (t : Session) index name operations answer calls rest outcome c', t.spec = s.spec →
    (Pass.release t index).Conversation (calls ++ ⟨.editSession name operations, answer⟩ :: rest) outcome →
    c.FaultyRun calls c' → ∀ secret ∈ s.adoptedSecrets, secret ∉ c'.secrets

namespace Attempts

variable {s t : Session} {spec : SessionSpec} {c₀ c c' : Cluster} {attempts : List Attempt}
  {calls rest : List clusterInterface.Call} {outcome : Outcome}

/-- Every attempt has said the beginning of something that a cleanup may say, and all of it if it has an outcome. -/
theorem said (h : Attempts spec c₀ attempts c) {a : Attempt} (ha : a ∈ attempts) :
    a.session.spec = spec ∧ ∃ rest result, Pass.Cleaning a.session (a.calls ++ rest) result ∧
      ∀ outcome, a.outcome = some outcome → rest = [] ∧ outcome = result := by
  induction h with
  | start => cases ha
  | @returned s calls outcome past c c' before hspec said run ih =>
    rcases List.mem_cons.1 ha with rfl | ha
    · refine ⟨hspec, [], outcome, ?_, fun _ houtcome => ⟨rfl, (Option.some.inj houtcome).symm⟩⟩
      rw [List.append_nil]
      exact Pass.cleanup_conversation.1 said
    · exact ih ha
  | @brokenOff s calls rest outcome past c c' before hspec said run ih =>
    rcases List.mem_cons.1 ha with rfl | ha
    · exact ⟨hspec, rest, outcome, Pass.cleanup_conversation.1 said, fun _ houtcome => (nomatch houtcome)⟩
    · exact ih ha

theorem returned_cleaning (h : Attempts spec c₀ attempts c) {a : Attempt} (ha : a ∈ attempts)
    (houtcome : a.outcome = some outcome) : Pass.Cleaning a.session a.calls outcome := by
  obtain ⟨-, rest, result, hcleaning, hresult⟩ := h.said ha
  obtain ⟨rfl, rfl⟩ := hresult outcome houtcome
  rwa [List.append_nil] at hcleaning

/-- One attempt, broken off or not, leaves alone what is not adopted. -/
theorem untouched_step (hspec : t.spec = s.spec) (hcleaning : Pass.Cleaning t (calls ++ rest) outcome)
    (run : c.FaultyRun calls c') : (c'.secrets.filter fun name => name ∉ s.adoptedSecrets) =
      c.secrets.filter fun name => name ∉ s.adoptedSecrets := by
  refine run.filter_secrets fun call hcall name hname => ?_
  have hadopted := hcleaning.adopted (List.mem_append_left rest hcall) hname
  rw [Session.adoptedSecrets_congr hspec] at hadopted
  exact decide_eq_false (not_not.2 hadopted)

theorem untouched (h : Attempts s.spec c₀ attempts c) : (c.secrets.filter fun name => name ∉ s.adoptedSecrets) =
    c₀.secrets.filter fun name => name ∉ s.adoptedSecrets := by
  induction h with
  | start => rfl
  | @returned t calls outcome past c c' before hspec said run ih =>
    rw [← ih]
    have hcleaning : Pass.Cleaning t (calls ++ []) outcome := by
      rw [List.append_nil]
      exact Pass.cleanup_conversation.1 said
    exact untouched_step hspec hcleaning run
  | brokenOff before hspec said run ih =>
    rw [← ih]
    exact untouched_step hspec (Pass.cleanup_conversation.1 said) run

/-- What is gone stays gone, however the attempts that follow end. -/
theorem gone (h : Attempts s.spec c₀ attempts c) (hok : ∃ a ∈ attempts, a.outcome = some (.ok .onChange))
    {name : String} (hname : name ∈ s.adoptedSecrets) : name ∉ c.secrets := by
  induction h with
  | start =>
    obtain ⟨a, ha, -⟩ := hok
    cases ha
  | @returned t calls outcome past c c' before hspec said run ih =>
    obtain ⟨a, ha, houtcome⟩ := hok
    rcases List.mem_cons.1 ha with rfl | ha
    · obtain rfl : outcome = .ok .onChange := Option.some.inj houtcome
      rw [← Session.adoptedSecrets_congr hspec] at hname
      exact (Pass.cleanup_conversation.1 said).gone run hname
    · exact fun hmem => ih ⟨a, ha, houtcome⟩ (run.secrets_sublist.subset hmem)
  | @brokenOff t calls rest outcome past c c' before hspec said run ih =>
    obtain ⟨a, ha, houtcome⟩ := hok
    rcases List.mem_cons.1 ha with rfl | ha
    · cases houtcome
    · exact fun hmem => ih ⟨a, ha, houtcome⟩ (run.secrets_sublist.subset hmem)

/-- Attempts to clean up go through exactly the adopted secrets and leave all others alone, whatever fails; once one has
succeeded the adopted ones are gone, and not before that is the mark asked to be removed. -/
theorem cleaned_up (h : Attempts s.spec c₀ attempts c) : CleanedUp s c₀ attempts c := by
  refine ⟨s.adoptedSecrets_adoption, ?_, ?_, ?_, fun hok name hname => h.gone hok hname, h.untouched, ?_⟩
  · exact fun a ha outcome houtcome hreported => (h.returned_cleaning ha houtcome).clearance hreported
  · exact fun a ha outcome houtcome hnot => (h.returned_cleaning ha houtcome).ends_at_once hnot
  · intro a ha call hcall name hname
    obtain ⟨hspec, rest, result, hcleaning, -⟩ := h.said ha
    rw [← Session.adoptedSecrets_congr hspec]
    exact hcleaning.adopted (List.mem_append_left rest hcall) hname
  · intro t index name operations answer calls rest outcome c' hspec hsaid run
    rw [← Session.adoptedSecrets_congr hspec]
    exact Pass.release_guarded hsaid run

end Attempts

/-! ### A session that is cleaned up after twice -/

/-- A session that adopts two secrets, one of them by two references, and uses a third one. -/
def leaver (state : SessionState) : Session where
  metadata := Session.plainMetadata "2024-01-01T00:00:00Z"
  spec := { SessionSpec.plain false .default with
    ingress := some ⟨none, none, [], some ⟨"tls", none, true⟩⟩
    dataSources := [⟨.rclone, ⟨"shared", none, false⟩, "/data", "ReadOnlyMany"⟩]
    imagePullSecrets := [⟨"", none, true⟩, ⟨"registry", none, true⟩, ⟨"tls", none, true⟩] }
  status := some { SessionStatus.default with state }

/-- The first attempt fails to delete one secret and goes on; the second one finds the other gone already. -/
theorem leaver_cleaned_up :
    let forbidden := ApiError.refused "Failure" "secrets is forbidden" "Forbidden" 403
    let first : Attempt := ⟨leaver .running, [⟨.patchStatus "plain" .default, .ok ()⟩,
      ⟨.deleteSecret "tls", .error forbidden⟩, ⟨.deleteSecret "registry", .ok true⟩],
      some (.error (.children [⟨"secret/tls", forbidden.message⟩]))⟩
    let second : Attempt := ⟨leaver .notReady, [⟨.deleteSecret "tls", .ok true⟩, ⟨.deleteSecret "registry", .ok false⟩],
      some (.ok .onChange)⟩
    let c₀ := { Cluster.ofSession (leaver .running) with secrets := ["registry", "shared", "tls"] }
    ∃ c, Attempts (leaver .running).spec c₀ [second, first] c ∧ c.secrets = ["shared"] ∧
      CleanedUp (leaver .running) c₀ [second, first] c := by
  intro forbidden first second c₀
  let c₁ := c₀.setStatus .default
  let c₂ := (answer (.deleteSecret "registry") c₁).2
  let c₃ := (answer (.deleteSecret "tls") c₂).2
  let c₄ := (answer (.deleteSecret "registry") c₃).2
  have hfirst : Attempts (leaver .running).spec c₀ [first] c₂ := by
    refine .returned .start rfl (Pass.cleanup_conversation.2 (.reported _ rfl)) ?_
    exact .cons (.answered c₀ _) (.cons (.refused c₁ rfl) (.cons (.answered c₁ _) (.nil c₂)))
  have hsecond : Attempts (leaver .running).spec c₀ [second, first] c₄ := by
    refine .returned hfirst rfl (Pass.cleanup_conversation.2 (.reported _ rfl)) ?_
    exact .cons (.answered c₂ _) (.cons (.answered c₃ _) (.nil c₄))
  exact ⟨c₄, hsecond, by decide +kernel, Attempts.cleaned_up hsecond⟩

end SessionOperator
