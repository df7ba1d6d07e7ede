import SessionOperator.Cluster.Memory
import SessionOperator.Proofs.Session.RoundTrip

/-!
# The patch that hibernates a session

A session is hibernated by a merge patch of one field of what is declared.  The document with the patch is that of the
same session with this field set, so nothing else that was declared or recorded is lost on the way.

* `Session.hibernation`, `Http.send_hibernateSession`: the patch;
* `Session.mergePatch_hibernation`: the document with the patch;
* `Session.patched_by_hibernation`: the session that is read of it.
-/

namespace SessionOperator

namespace SessionSpec

/-- To set the field in the document is to set it in what is declared. -/
theorem set_hibernated (s : SessionSpec) (b : Bool) :
    s.encode.set "hibernated" (.bool b) = { s with hibernated := b }.encode := by
  rw [encode_eq, encode_eq, Json.set_object s.nodup_fields (by simp [fields])]
  refine congrArg Json.object ?_
  simp [fields]

theorem get?_hibernated (s : SessionSpec) : s.encode.get? "hibernated" = some (.bool s.hibernated) :=
  get?_encode (by simp [fields])

end SessionSpec

namespace Session

variable {s : Session}

/-- The patch that hibernates a session. -/
def hibernation : Json := .object [("spec", .object [("hibernated", .bool true)])]

/-- A session that is to hibernate, and otherwise as it was. -/
def hibernating (s : Session) : Session := { s with spec := { s.spec with hibernated := true } }

theorem hibernating_hibernating (s : Session) : s.hibernating.hibernating = s.hibernating := rfl

theorem get?_spec (s : Session) : s.encode.get? "spec" = some s.spec.encode :=
  get?_encode (by simp [fields])

theorem set_spec (s : Session) (spec : SessionSpec) : s.encode.set "spec" spec.encode = { s with spec }.encode := by
  rw [encode_eq, encode_eq]
  cases hstatus : s.status with
  | none =>
    simp only [fields, hstatus, Json.objectOfSome, List.filterMap, Option.map_some, Option.map_none]
    rw [Json.set_object (by simp) (by simp)]
    refine congrArg Json.object ?_
    simp
  | some status =>
    simp only [fields, hstatus, Json.objectOfSome, List.filterMap, Option.map_some]
    rw [Json.set_object (by simp) (by simp)]
    refine congrArg Json.object ?_
    simp

/-- Merging the patch into the document of a session sets one field. -/
theorem mergePatch_hibernation (s : Session) : s.encode.mergePatch hibernation = s.hibernating.encode := by
  have hfield : s.spec.encode.mergePatch (.object [("hibernated", .bool true)]) = s.hibernating.spec.encode := by
    rw [Json.mergePatch_field s.spec.get?_hibernated (by simp), Json.mergePatch_of_ne_obj (by simp)]
    exact s.spec.set_hibernated true
  rw [hibernation, Json.mergePatch_field s.get?_spec (by simp [Json.object]), hfield]
  exact s.set_spec s.hibernating.spec

theorem isTyped_hibernating (hs : s.IsTyped) : s.hibernating.IsTyped where
  metadata := hs.metadata
  spec := { hs.spec with }
  status := hs.status

/-- The patch that hibernates a session changes one field of what is declared, and applied again it changes nothing: the
patched document is that of the session that is read of it. -/
theorem patched_by_hibernation (hs : s.IsTyped) (huntimed : s.spec.Untimed) :
    let patched := s.encode.mergePatch hibernation
    ∃ s', decode patched = .ok s' ∧ s'.spec = { s.spec with hibernated := true } ∧ s'.status = s.status ∧
      Kubernetes.objectMeta.encode s'.metadata = Kubernetes.objectMeta.encode s.metadata ∧
      patched.mergePatch hibernation = patched ∧ decode (s'.encode.mergePatch hibernation) = .ok s' := by
  intro patched
  have hpatched : patched = s.hibernating.encode := s.mergePatch_hibernation
  obtain ⟨metadata, hdecode, hwritten⟩ := decode_encode (isTyped_hibernating hs) huntimed
  have hagain : patched.mergePatch hibernation = patched := by
    rw [hpatched, mergePatch_hibernation, hibernating_hibernating]
  set s' : Session := { s.hibernating with metadata }
  -- the metadata that are read are written as before, so the session that is read has the patched document
  have hencode : s'.encode = patched := by
    rw [hpatched, encode_eq, encode_eq]
    simp only [fields, s', hwritten]
  rw [← hpatched] at hdecode
  exact ⟨s', hdecode, rfl, rfl, hwritten, hagain, by rw [hencode, hagain, hdecode]⟩

/-- A furnished session goes to sleep with all its furniture. -/
theorem patched_by_hibernation_furnished :
    ∃ s s', decode furnished = .ok s ∧ s.IsTyped ∧ s.spec.Untimed ∧
      s.spec.hibernated = false ∧ s.spec.affinity.isSome = true ∧ s.spec.extraVolumes.length = 1 ∧
      decode (s.encode.mergePatch hibernation) = .ok s' ∧ s'.spec = { s.spec with hibernated := true } ∧
      s'.status = s.status ∧ decode (s'.encode.mergePatch hibernation) = .ok s' := by
  obtain ⟨s, hs, hfurnished⟩ := Fallible.exists_of_any
    (p := fun s : Session => decide (s.spec.Untimed ∧ s.spec.hibernated = false ∧ s.spec.affinity.isSome = true ∧
      s.spec.extraVolumes.length = 1))
    (show (decode furnished).toOption.any _ = true by decide +kernel)
  obtain ⟨huntimed, hawake, haffinity, hvolumes⟩ := of_decide_eq_true hfurnished
  have htyped := isTyped_of_decode hs
  obtain ⟨s', hs', hspec, hstatus, -, -, hagain⟩ := patched_by_hibernation htyped huntimed
  exact ⟨s, s', hs, htyped, huntimed, hawake, haffinity, hvolumes, hs', hspec, hstatus, hagain⟩

end Session

/-- A cluster in memory does to its session what the patch does to the document. -/
theorem Cluster.encode_setHibernated (c : Cluster) :
    c.setHibernated.session.encode = c.session.encode.mergePatch Session.hibernation :=
  c.session.mergePatch_hibernation.symm

theorem Http.send_hibernateSession (ns : String) (probe : Session → Wired Bool) (name : String) :
    send ns probe (.hibernateSession name) = askSession (mergePatch sessions ns name "" Session.hibernation) := rfl

end SessionOperator
