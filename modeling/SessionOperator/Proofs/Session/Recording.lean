import SessionOperator.Cluster.Http
import SessionOperator.Proofs.Decode

/-!
# Recording a status

A status is recorded by a merge patch.  What was recorded before, whatever it was, leaves no trace in what is read
afterwards: texts that the new status does not have are cleared, the counts are overwritten, the conditions replaced.

* `Condition.decode_encode`: conditions are read as they were written;
* `ContainerCounts.decode_mergePatch`, `SessionStatus.decode_mergePatch`: counts and statuses are, whatever they are
  merged into;
* `Session.status_recorded`: the session after its status was recorded.
-/

namespace SessionOperator

variable {key : String}

/-! ### Optional texts -/

private theorem changed_encodeText (held : Option Json) (t : Option String) :
    Json.changed held (some (encodeText? t)) = t.map .str := by
  cases t with
  | none => rfl
  | some t => exact Json.changed_of_ne_obj (p := .str t) (by simp) (by simp) held

theorem Record.optional_text {j : Json} {t : Option String}
    (hv : j.get? key = t.map .str ∨ j.get? key = some (encodeText? t)) :
    (Record.ofObject j).optional key Decoder.text = .ok t :=
  Record.optional_ofObject hv fun t _ => ⟨Decoder.text_str t, by simp⟩

private theorem keysDistinct_encodeText (t : Option String) : (encodeText? t).KeysDistinct := by
  cases t <;> trivial

/-! ### Conditions -/

namespace Condition

theorem decode_encode (c : Condition) : decode c.encode = .ok c := by
  have hread : Record.ofForm form c.encode = .ok (Record.ofObject c.encode) := Record.ofForm_object ..
  have hget : ∀ key p, (key, p) ∈ [("type", .str c.type.name), ("status", .str c.status), ("reason", .str c.reason),
      ("message", .str c.message), ("lastTransitionTime", encodeText? c.lastTransitionTime)] →
      c.encode.get? key = some p :=
    fun key p => Json.get?_object_of_mem (by simp)
  have hvariant : Decoder.choice variants (.str c.type.name) = .ok c.type :=
    Decoder.choice_str (by cases c.type <;> rfl)
  have htype := Record.required_ofObject (hget "type" _ (by simp)) hvariant
  have hstatus := Record.required_ofObject (hget "status" _ (by simp)) (Decoder.text_str c.status)
  have hreason : (Record.ofObject c.encode).withDefault "reason" "" Decoder.text = .ok c.reason :=
    Record.withDefault_ofObject (hget "reason" _ (by simp)) (Decoder.text_str c.reason)
  have hmessage : (Record.ofObject c.encode).withDefault "message" "" Decoder.text = .ok c.message :=
    Record.withDefault_ofObject (hget "message" _ (by simp)) (Decoder.text_str c.message)
  have htime := Record.optional_text (t := c.lastTransitionTime) (.inr (hget "lastTransitionTime" _ (by simp)))
  simp only [decode, hread, Fallible.ok_bind, htype, hstatus, hreason, hmessage, htime]

end Condition

/-! ### Counts -/

/-- Counts are numbers of 32 bits. -/
structure ContainerCounts.IsInt32 (c : ContainerCounts) : Prop where
  ready : -Int.pow 2 31 ≤ c.ready ∧ c.ready < Int.pow 2 31
  total : -Int.pow 2 31 ≤ c.total ∧ c.total < Int.pow 2 31

namespace ContainerCounts

variable {c : ContainerCounts}

theorem isInt32_zero : zero.IsInt32 := ⟨by decide, by decide⟩

theorem keysDistinct_encode (c : ContainerCounts) : c.encode.KeysDistinct :=
  Json.keysDistinct_object (List.forall_mem_cons.2 ⟨trivial, List.forall_mem_singleton.2 trivial⟩)

/-- Counts are read as they were written, whatever they are merged into. -/
theorem decode_mergePatch (hc : c.IsInt32) (w : Json) : decode (w.mergePatch c.encode) = .ok c := by
  have hread : Record.ofForm form (w.mergePatch c.encode) = .ok (Record.ofObject (w.mergePatch c.encode)) :=
    Record.ofForm_mergePatch ..
  have hget : ∀ key n, (key, Json.int n) ∈ [("ready", .int c.ready), ("total", .int c.total)] →
      (w.mergePatch c.encode).get? key = some (.int n) := by
    intro key n hmem
    rw [encode, Json.get?_mergePatch_object c.keysDistinct_encode, Json.get?_object_of_mem (by simp) hmem]
    exact Json.changed_of_ne_obj (by simp) (by simp) _
  have hready := Record.required_ofObject (hget "ready" _ (by simp)) (Decoder.int32_int hc.ready)
  have htotal := Record.required_ofObject (hget "total" _ (by simp)) (Decoder.int32_int hc.total)
  simp only [decode, hread, Fallible.ok_bind, hready, htotal]

end ContainerCounts

/-! ### Statuses -/

structure SessionStatus.IsInt32 (s : SessionStatus) : Prop where
  main : s.containerCounts.IsInt32
  init : s.initContainerCounts.IsInt32

namespace SessionStatus

variable {s : SessionStatus}

/-- What the document of a status holds. -/
@[irreducible]
def fields (s : SessionStatus) : List (String × Json) := [
  ("conditions", .arr (s.conditions.map Condition.encode)), ("state", .str s.state.name), ("url", .str s.url),
  ("containerCounts", s.containerCounts.encode), ("initContainerCounts", s.initContainerCounts.encode),
  ("idle", .bool s.idle), ("idleSince", encodeText? s.idleSince), ("failingSince", encodeText? s.failingSince),
  ("hibernatedSince", encodeText? s.hibernatedSince), ("willHibernateAt", encodeText? s.willHibernateAt),
  ("error", encodeText? s.error)]

theorem encode_eq (s : SessionStatus) : s.encode = .object s.fields := by
  rw [encode, fields]

theorem keysDistinct_fields (s : SessionStatus) : (Json.object s.fields).KeysDistinct := by
  refine Json.keysDistinct_object ?_
  simp only [fields, List.forall_mem_cons, ContainerCounts.keysDistinct_encode, keysDistinct_encodeText,
    Json.KeysDistinct, List.not_mem_nil, false_implies, implies_true, and_self]

theorem get?_encode {p : Json} (hmem : (key, p) ∈ s.fields) : s.encode.get? key = some p := by
  rw [encode_eq]
  exact Json.get?_object_of_mem (by simp [fields]) hmem

private theorem get?_mergePatch {p : Json} (h : s.encode.get? key = some p) (w : Json) :
    (w.mergePatch s.encode).get? key = Json.changed (w.get? key) (some p) := by
  rw [encode_eq] at h ⊢
  rw [Json.get?_mergePatch_object s.keysDistinct_fields, h]

private theorem withDefault_mergePatch {α : Type} {p : Json} {d : Decoder α} {a default : α}
    (h : s.encode.get? key = some p) (hd : d p = .ok a) (hnull : p ≠ .null) (hobj : ∀ changes, p ≠ .obj changes)
    (w : Json) : (Record.ofObject (w.mergePatch s.encode)).withDefault key default d = .ok a :=
  Record.withDefault_ofObject ((get?_mergePatch h w).trans (Json.changed_of_ne_obj hnull hobj _)) hd

private theorem withDefault_counts {c : ContainerCounts} (h : s.encode.get? key = some c.encode)
    (hc : c.IsInt32) (w : Json) :
    (Record.ofObject (w.mergePatch s.encode)).withDefault key .zero ContainerCounts.decode = .ok c :=
  have hne : c.encode ≠ .null := by simp [ContainerCounts.encode, Json.object]
  Record.withDefault_ofObject ((get?_mergePatch h w).trans (Json.changed_some _ hne))
    (ContainerCounts.decode_mergePatch hc _)

private theorem optional_mergePatch {t : Option String} (h : s.encode.get? key = some (encodeText? t))
    (w : Json) : (Record.ofObject (w.mergePatch s.encode)).optional key Decoder.text = .ok t :=
  Record.optional_text (.inl ((get?_mergePatch h w).trans (changed_encodeText _ t)))

/-- A status is read as it was written, whatever it is merged into. -/
theorem decode_mergePatch (hs : s.IsInt32) (w : Json) : decode (w.mergePatch s.encode) = .ok s := by
  have hread : Record.ofForm form (w.mergePatch s.encode) = .ok (Record.ofObject (w.mergePatch s.encode)) :=
    Record.ofForm_mergePatch ..
  set r := Record.ofObject (w.mergePatch s.encode)
  have hvariant : SessionState.decode (.str s.state.name) = .ok s.state :=
    Decoder.choice_str (by cases s.state <;> rfl)
  have hlist : Decoder.list Condition.decode (.arr (s.conditions.map Condition.encode)) = .ok s.conditions :=
    Decoder.list_map fun c _ => Condition.decode_encode c
  have hconditions : r.withDefault "conditions" [] (Decoder.list Condition.decode) = .ok s.conditions :=
    withDefault_mergePatch (get?_encode (by simp [fields])) hlist (by simp) (by simp) w
  have hstate : r.withDefault "state" .notReady SessionState.decode = .ok s.state :=
    withDefault_mergePatch (get?_encode (by simp [fields])) hvariant (by simp) (by simp) w
  have hurl : r.withDefault "url" "" Decoder.text = .ok s.url :=
    withDefault_mergePatch (get?_encode (by simp [fields])) (Decoder.text_str s.url) (by simp) (by simp) w
  have hcounts : r.withDefault "containerCounts" .zero ContainerCounts.decode = .ok s.containerCounts :=
    withDefault_counts (get?_encode (by simp [fields])) hs.main w
  have hinit : r.withDefault "initContainerCounts" .zero ContainerCounts.decode = .ok s.initContainerCounts :=
    withDefault_counts (get?_encode (by simp [fields])) hs.init w
  have hidle : r.withDefault "idle" false Decoder.flag = .ok s.idle :=
    withDefault_mergePatch (get?_encode (by simp [fields])) (Decoder.flag_bool s.idle) (by simp) (by simp) w
  -- an absent text is written as `null`, which clears what was there
  have hidleSince : r.optional "idleSince" Decoder.text = .ok s.idleSince :=
    optional_mergePatch (get?_encode (by simp [fields])) w
  have hfailing : r.optional "failingSince" Decoder.text = .ok s.failingSince :=
    optional_mergePatch (get?_encode (by simp [fields])) w
  have hhibernated : r.optional "hibernatedSince" Decoder.text = .ok s.hibernatedSince :=
    optional_mergePatch (get?_encode (by simp [fields])) w
  have hwill : r.optional "willHibernateAt" Decoder.text = .ok s.willHibernateAt :=
    optional_mergePatch (get?_encode (by simp [fields])) w
  have herror : r.optional "error" Decoder.text = .ok s.error :=
    optional_mergePatch (get?_encode (by simp [fields])) w
  simp only [decode, hread, Fallible.ok_bind, hconditions, hstate, hurl, hcounts, hinit, hidle, hidleSince, hfailing,
    hhibernated, hwill, herror]

/-- A status that holds `null` for a text clears it from what it is merged into. -/
theorem get?_mergePatch_of_null (h : s.encode.get? key = some .null) (w : Json) :
    (w.mergePatch s.encode).get? key = none :=
  get?_mergePatch h w

/-- The patch of a session that records a status. -/
def recording (s : SessionStatus) : Json := .object [("status", s.encode)]

theorem keysDistinct_recording (s : SessionStatus) : s.recording.KeysDistinct := by
  refine Json.keysDistinct_object (List.forall_mem_singleton.2 ?_)
  rw [encode_eq]
  exact s.keysDistinct_fields

theorem get?_mergePatch_recording (s : SessionStatus) (stored : Json) (key : String) :
    (stored.mergePatch s.recording).get? key =
      if key = "status" then some (((stored.get? "status").getD .null).mergePatch s.encode) else stored.get? key := by
  rw [recording, Json.get?_mergePatch_object s.keysDistinct_recording]
  split
  · next hkey =>
    rw [hkey, Json.get?_object_of_mem (by simp) (List.mem_singleton.2 rfl)]
    exact Json.changed_some _ nofun
  · next hkey =>
    have hnone : (Json.object [("status", s.encode)]).get? key = none := by
      simp [Json.object, Json.get?, Dict.ofList, Dict.get?_insert, Dict.get?, Ne.symm hkey]
    rw [hnone]
    rfl

end SessionStatus

theorem Http.send_patchStatus (ns : String) (probe : Session → Wired Bool) (name : String) (s : SessionStatus) :
    send ns probe (.patchStatus name s) = askSession (mergePatch sessions ns name "/status" s.recording) := rfl

/-- Whatever was stored of a session, after a status was recorded this status is read, and nothing else has changed. -/
theorem Session.status_recorded {s : SessionStatus} (hs : s.IsInt32) (stored : Json) :
    let written := stored.mergePatch s.recording
    (∃ status, written.get? "status" = some status ∧ SessionStatus.decode status = .ok s ∧
        ∀ key, s.encode.get? key = some .null → status.get? key = none) ∧
      (∀ key, key ≠ "status" → written.get? key = stored.get? key) ∧
      ∀ metadata spec, (stored.get? "metadata").map Kubernetes.objectMeta.decode = some (.ok metadata) →
        (stored.get? "spec").map SessionSpec.decode = some (.ok spec) →
        Session.decode written = .ok ⟨metadata, spec, some s⟩ := by
  intro written
  set held := (stored.get? "status").getD .null
  have hstatus : written.get? "status" = some (held.mergePatch s.encode) := s.get?_mergePatch_recording stored "status"
  have hother : ∀ key, key ≠ "status" → written.get? key = stored.get? key := fun key hkey =>
    (s.get?_mergePatch_recording stored key).trans (if_neg hkey)
  have hdecode := SessionStatus.decode_mergePatch hs held
  refine ⟨⟨_, hstatus, hdecode, fun key hkey => SessionStatus.get?_mergePatch_of_null hkey held⟩, hother, ?_⟩
  intro metadata spec hmetadata hspec
  obtain ⟨m, hm, hmetadata⟩ := Option.map_eq_some_iff.1 hmetadata
  obtain ⟨v, hv, hspec⟩ := Option.map_eq_some_iff.1 hspec
  have hread : Record.ofForm form written = .ok (Record.ofObject written) := Record.ofForm_mergePatch ..
  have hmetadata := Record.required_ofObject ((hother "metadata" (by decide)).trans hm) hmetadata
  have hspec := Record.required_ofObject ((hother "spec" (by decide)).trans hv) hspec
  have hrecorded : (Record.ofObject written).optional "status" SessionStatus.decode = .ok (some s) :=
    Record.optional_ofObject_some hstatus hdecode (by simp [SessionStatus.encode, Json.object, Json.mergePatch_obj])
  simp only [decode, hread, Fallible.ok_bind, hmetadata, hspec, Record.listedOptional_ofObject, hrecorded]

/-- A session that has recovered: its error is gone, and the time since which it was failing. -/
theorem Session.status_recorded_recovered :
    let metadata := Json.object [("name", .str "plain")]
    let spec := Json.object [("session", .object [("image", .str "plain:1")])]
    let failed := Json.object [("state", .str "failed"), ("error", .str "no node"), ("note", .str "kept"),
      ("failingSince", .str "2024-01-01T00:00:00Z"), ("containerCounts", .object [("ready", .str "none")])]
    let stored := Json.object [("metadata", metadata), ("spec", spec), ("status", failed)]
    let s : SessionStatus := { SessionStatus.default with state := .running, containerCounts := ⟨1, 1⟩ }
    s.IsInt32 ∧ ∃ m v status, Kubernetes.objectMeta.decode metadata = .ok m ∧ SessionSpec.decode spec = .ok v ∧
      (stored.mergePatch s.recording).get? "status" = some status ∧ status.get? "note" = some (.str "kept") ∧
      status.get? "error" = none ∧ status.get? "failingSince" = none ∧
      Session.decode (stored.mergePatch s.recording) = .ok ⟨m, v, some s⟩ := by
  intro metadata spec failed stored s
  have hs : s.IsInt32 := ⟨⟨by decide, by decide⟩, ⟨by decide, by decide⟩⟩
  obtain ⟨m, hm, -⟩ := Fallible.exists_of_any (p := fun _ => true)
    (show (Kubernetes.objectMeta.decode metadata).toOption.any _ = true by decide +kernel)
  obtain ⟨v, hv, -⟩ := Fallible.exists_of_any (p := fun _ => true)
    (show (SessionSpec.decode spec).toOption.any _ = true by decide +kernel)
  obtain ⟨⟨status, hstatus, -, hcleared⟩, -, hdecode⟩ := status_recorded hs stored
  have hnote : (stored.mergePatch s.recording).path? ["status", "note"] = some (.str "kept") := by decide +kernel
  rw [Json.path?_cons_of_get? hstatus, Json.path?_singleton] at hnote
  refine ⟨hs, m, v, status, hm, hv, hstatus, hnote, hcleared _ (by decide +kernel), hcleared _ (by decide +kernel), ?_⟩
  have hmetadata : stored.get? "metadata" = some metadata := Json.get?_object_of_mem (by simp) (by simp)
  have hspec : stored.get? "spec" = some spec := Json.get?_object_of_mem (by simp) (by simp)
  exact hdecode m v (by rw [hmetadata, Option.map_some, hm]) (by rw [hspec, Option.map_some, hv])

end SessionOperator
