import SessionOperator.Proofs.Kubernetes.Untimed
import SessionOperator.Proofs.Session.Recording

/-!
# The parts of a session

A session that was read holds values that were read themselves, each through the schema of its part, and numbers in the
ranges of their types.  Such values are written without loss, unless there are times in the claim of an ephemeral volume.

* `Session.IsTyped`, `Session.isTyped_of_decode`: sessions whose parts are of their types, such as all that are read;
* `SessionSpec.Untimed`: no claim of an ephemeral volume holds a time;
* `SessionSpec.IsTyped.isWhole_volume`: then the volumes are whole, as all other parts are;
* `Session.furnished`: a session with parts of all kinds.
-/

namespace SessionOperator

open Fallible (bind_eq_ok_iff)

variable {j v : Json}

/-! ### Types of parts -/

structure SessionContainer.IsTyped (c : SessionContainer) : Prop where
  env : ∀ v ∈ c.env, Kubernetes.envVar.IsValue v
  resources : ∀ v, c.resources = some v → Kubernetes.resourceRequirements.IsValue v
  port : -Int.pow 2 31 ≤ c.port ∧ c.port < Int.pow 2 31
  runAsUser : -Int.pow 2 63 ≤ c.runAsUser ∧ c.runAsUser < Int.pow 2 63
  runAsGroup : -Int.pow 2 63 ≤ c.runAsGroup ∧ c.runAsGroup < Int.pow 2 63
  mounts : ∀ v ∈ c.extraVolumeMounts, Kubernetes.volumeMount.IsValue v

structure Authentication.IsTyped (a : Authentication) : Prop where
  mounts : ∀ v ∈ a.extraVolumeMounts, Kubernetes.volumeMount.IsValue v

structure SessionSpec.IsTyped (s : SessionSpec) : Prop where
  session : s.session.IsTyped
  authentication : ∀ a, s.authentication = some a → a.IsTyped
  extraContainers : ∀ v ∈ s.extraContainers, Kubernetes.container.IsValue v
  initContainers : ∀ v ∈ s.initContainers, Kubernetes.container.IsValue v
  extraVolumes : ∀ v ∈ s.extraVolumes, Kubernetes.volume.IsValue v
  affinity : ∀ v, s.affinity = some v → Kubernetes.affinity.IsValue v
  tolerations : ∀ v ∈ s.tolerations, Kubernetes.toleration.IsValue v

/-- The parts of a session are of their types. -/
structure Session.IsTyped (s : Session) : Prop where
  metadata : Kubernetes.objectMeta.IsValue s.metadata
  spec : s.spec.IsTyped
  status : ∀ status, s.status = some status → status.IsInt32

/-! ### What is read -/

/-- What is true of a default and of all that is read is true of a field with this default. -/
private theorem of_withDefault {α : Type} {r : Record} {key : String} {d : Decoder α} {a default : α} {P : α → Prop}
    (h : r.withDefault key default d = .ok a) (hdefault : P default) (hd : ∀ v, d v = .ok a → P a) : P a := by
  rcases Record.exists_of_withDefault h with rfl | ⟨v, hv⟩
  · exact hdefault
  · exact hd v hv

private theorem isValue_of_list {s : Schema} {r : Record} {key : String} {values : List Json}
    (h : r.withDefault key [] (Decoder.list s.decode) = .ok values) : ∀ v ∈ values, s.IsValue v :=
  of_withDefault h (P := fun values => ∀ v ∈ values, s.IsValue v) (by simp) fun _ => Decoder.exists_of_list

theorem SessionContainer.isTyped_of_decode {c : SessionContainer} (h : decode j = .ok c) : c.IsTyped := by
  simp only [decode, bind_eq_ok_iff] at h
  obtain ⟨r, -, image, -, command, -, args, -, env, henv, resources, hresources, port, hport, storage, -, shmSize, -,
    workingDir, -, user, huser, group, hgroup, urlPath, -, mounts, hmounts, readiness, -, policy, -, h⟩ := h
  cases h
  exact {
    env := isValue_of_list henv
    resources := fun _ => Record.exists_of_optional hresources
    port := of_withDefault hport (P := fun n => -Int.pow 2 31 ≤ n ∧ n < Int.pow 2 31) (by decide) fun _ =>
      Decoder.int32_range
    runAsUser := of_withDefault huser (P := fun n => -Int.pow 2 63 ≤ n ∧ n < Int.pow 2 63) (by decide) fun _ =>
      Decoder.int64_range
    runAsGroup := of_withDefault hgroup (P := fun n => -Int.pow 2 63 ≤ n ∧ n < Int.pow 2 63) (by decide) fun _ =>
      Decoder.int64_range
    mounts := isValue_of_list hmounts }

theorem Authentication.isTyped_of_decode {a : Authentication} (h : decode j = .ok a) : a.IsTyped := by
  simp only [decode, bind_eq_ok_iff] at h
  obtain ⟨r, -, enabled, -, type, -, secret, -, mounts, hmounts, h⟩ := h
  cases h
  exact ⟨isValue_of_list hmounts⟩

theorem SessionSpec.isTyped_of_decode {s : SessionSpec} (h : decode j = .ok s) : s.IsTyped := by
  simp only [decode, bind_eq_ok_iff] at h
  obtain ⟨r, -, session, hsession, sources, -, authentication, hauthentication, culling, -, hibernated, -, containers,
    hcontainers, init, hinit, volumes, hvolumes, ingress, -, selector, -, affinity, haffinity, tolerations,
    htolerations, priority, -, account, -, secrets, -, strategy, -, h⟩ := h
  cases h
  obtain ⟨w, hw⟩ := Record.exists_of_required hsession
  exact {
    session := SessionContainer.isTyped_of_decode hw
    authentication := fun a ha =>
      (Record.exists_of_optional hauthentication ha).elim fun _ => Authentication.isTyped_of_decode
    extraContainers := isValue_of_list hcontainers
    initContainers := isValue_of_list hinit
    extraVolumes := isValue_of_list hvolumes
    affinity := fun _ => Record.exists_of_optional haffinity
    tolerations := isValue_of_list htolerations }

theorem ContainerCounts.isInt32_of_decode {c : ContainerCounts} (h : decode j = .ok c) : c.IsInt32 := by
  simp only [decode, bind_eq_ok_iff] at h
  obtain ⟨r, -, ready, hready, total, htotal, h⟩ := h
  cases h
  obtain ⟨_, hready⟩ := Record.exists_of_required hready
  obtain ⟨_, htotal⟩ := Record.exists_of_required htotal
  exact ⟨Decoder.int32_range hready, Decoder.int32_range htotal⟩

theorem SessionStatus.isInt32_of_decode {s : SessionStatus} (h : decode j = .ok s) : s.IsInt32 := by
  simp only [decode, bind_eq_ok_iff] at h
  obtain ⟨r, -, conditions, -, state, -, url, -, main, hmain, init, hinit, idle, -, idleSince, -, failingSince, -,
    hibernatedSince, -, willHibernateAt, -, error, -, h⟩ := h
  cases h
  exact ⟨of_withDefault hmain ContainerCounts.isInt32_zero fun _ => ContainerCounts.isInt32_of_decode,
    of_withDefault hinit ContainerCounts.isInt32_zero fun _ => ContainerCounts.isInt32_of_decode⟩

/-- Whatever document a session is read of, its parts are of their types. -/
theorem Session.isTyped_of_decode {s : Session} (h : decode j = .ok s) : s.IsTyped := by
  simp only [decode, bind_eq_ok_iff] at h
  obtain ⟨r, -, metadata, hmetadata, spec, hspec, status, hstatus, h⟩ := h
  cases h
  obtain ⟨w, hw⟩ := Record.exists_of_required hspec
  exact {
    metadata := Record.exists_of_required hmetadata
    spec := SessionSpec.isTyped_of_decode hw
    status := fun st hst =>
      (Record.exists_of_listedOptional hstatus hst).elim fun _ => SessionStatus.isInt32_of_decode }

/-! ### Times -/

/-- No claim of an ephemeral volume holds a time. -/
def SessionSpec.Untimed (s : SessionSpec) : Prop :=
  ∀ volume ∈ s.extraVolumes, ∀ template, volume.path? ["ephemeral", "volumeClaimTemplate"] = some template →
    Kubernetes.persistentVolumeClaimTemplate.holdsTime template = false

instance (s : SessionSpec) : Decidable s.Untimed :=
  inferInstanceAs (Decidable (∀ volume ∈ s.extraVolumes, ∀ template ∈ volume.path? ["ephemeral", "volumeClaimTemplate"],
    Kubernetes.persistentVolumeClaimTemplate.holdsTime template = false))

/-! ### Wholeness -/

namespace Kubernetes

private theorem isWhole_timeless {s : Schema} (hs : s.isOrdered = true ∧ s.isTimeless = true) (h : s.IsValue v) :
    s.IsWhole v :=
  h.isWhole_timeless hs.1 hs.2

theorem isWhole_container (h : container.IsValue v) : container.IsWhole v :=
  isWhole_timeless (by decide +kernel) h

theorem isWhole_envVar (h : envVar.IsValue v) : envVar.IsWhole v :=
  isWhole_timeless (by decide +kernel) h

theorem isWhole_resourceRequirements (h : resourceRequirements.IsValue v) : resourceRequirements.IsWhole v :=
  isWhole_timeless (by decide +kernel) h

theorem isWhole_volumeMount (h : volumeMount.IsValue v) : volumeMount.IsWhole v :=
  isWhole_timeless (by decide +kernel) h

theorem isWhole_affinity (h : affinity.IsValue v) : affinity.IsWhole v :=
  isWhole_timeless (by decide +kernel) h

theorem isWhole_toleration (h : toleration.IsValue v) : toleration.IsWhole v :=
  isWhole_timeless (by decide +kernel) h

end Kubernetes

theorem SessionSpec.IsTyped.isWhole_volume {s : SessionSpec} (hs : s.IsTyped) (huntimed : s.Untimed)
    (hv : v ∈ s.extraVolumes) : Kubernetes.volume.IsWhole v :=
  (hs.extraVolumes v hv).isWhole_untimed Kubernetes.volume_isOrdered (Kubernetes.untimed_volume (huntimed v hv))

/-! ### A furnished session -/

/-- The document of a session with parts of all kinds, whose ephemeral volume is claimed without times. -/
def Session.furnished : Json :=
  let term := Json.object [("key", .str "zone"), ("operator", .str "In"), ("values", .ofStrings ["a", "b"])]
  let terms := Json.object [("nodeSelectorTerms", .arr [.object [("matchExpressions", .arr [term])]])]
  let claim := Json.object [
    ("metadata", .object [("labels", .object [("use", .str "scratch")])]),
    ("spec", .object [
      ("accessModes", .ofStrings ["ReadWriteOnce"]),
      ("resources", .object [("requests", .object [("storage", .str "1Gi")])])])]
  let container := Json.object [
    ("image", .str "lab:1"), ("command", .ofStrings ["serve"]), ("args", .ofStrings ["--port", "8000"]),
    ("env", .arr [.object [("name", .str "MODE"), ("value", .str "fast")]]),
    ("resources", .object [("limits", .object [("memory", .str "2Gi")])]),
    ("extraVolumeMounts", .arr [.object [("name", .str "scratch"), ("mountPath", .str "/scratch")]])]
  let probe := Json.object [("httpGet", .object [("path", .str "/health"), ("port", .str "web")])]
  .object [
    ("metadata", .object [("name", .str "lab"), ("creationTimestamp", .str "2024-01-01T00:00:00.5Z")]),
    ("spec", .object [
      ("session", container),
      ("authentication", .object [("enabled", .bool true), ("secretRef", .object [("name", .str "keys")])]),
      ("extraContainers", .arr [
        .object [("name", .str "sidecar"), ("image", .str "side:1"), ("readinessProbe", probe)]]),
      ("initContainers", .arr [.object [("name", .str "setup"), ("image", .str "setup:1")]]),
      ("extraVolumes", .arr [
        .object [("name", .str "scratch"), ("ephemeral", .object [("volumeClaimTemplate", claim)])]]),
      ("nodeSelector", .object [("disk", .str "fast")]),
      ("affinity", .object [
        ("nodeAffinity", .object [("requiredDuringSchedulingIgnoredDuringExecution", terms)])]),
      ("tolerations", .arr [.object [("key", .str "dedicated"), ("operator", .str "Exists")]])]),
    ("status", .object [("state", .str "Running"), ("url", .str "https://lab")])]

end SessionOperator
