import SessionOperator.Proofs.Config.Usable
import SessionOperator.Proofs.Session.Total

/-!
# Requested storage

What the claims of a session request when the session asks for no size of its own.  The sizes are checked without the
white space around them and requested with it, so that a usable configuration names quantities unless there is some.

* `Child.storageRequest?`: the storage that a claim requests;
* `Manifest.exists_sessionClaim`, `Manifest.exists_dataSourceClaims`: what is requested for a session;
* `Config.requests_written_iff`: which requests for a usable configuration are quantities.
-/

namespace SessionOperator

open Schema (HasPath)

/-- The storage that a claim requests. -/
def Child.storageRequest? (d : Child) : Option String :=
  (d.body.path? ["spec", "resources", "requests", "storage"]).bind Json.str?

namespace Manifest

variable {s : Session} {config : Config} {size accessMode : String} {className : Option String} {m : Json} {d : Child}

theorem path?_requests : (Json.object [("metadata", m), ("spec", claimSpec accessMode size className)]).path?
    ["spec", "resources", "requests"] = some (.object [("storage", .str size)]) := by
  rw [Json.path?_cons_of_get? (ChildSet.get?_spec m _), Json.path?_cons_of_get? (ChildSet.get?_resources ..)]
  simp [Json.path?, Json.get?_object, Dict.get?]

theorem storageRequest?_of_decode (h : Kubernetes.persistentVolumeClaim.decode
      (.object [("metadata", m), ("spec", claimSpec accessMode size className)]) = .ok d.body) :
    d.storageRequest? = some size := by
  have hpath : Kubernetes.persistentVolumeClaim.HasPath ["spec", "resources", "requests"] (.dict Schema.quantity) :=
    .cons (ChildKind.hasField_spec .claim)
      (.cons Kubernetes.hasField_resources (.cons Kubernetes.hasField_requests .nil))
  have hrequests := hpath.path?_of_dict (ChildKind.schema_isOrdered .claim) rfl h path?_requests nofun
  have hstorage : d.body.path? (["spec", "resources", "requests"] ++ ["storage"]) = some (.str size) := by
    rw [Json.path?_append, hrequests, Option.bind_some, Json.path?_singleton]
    simp [Json.get?_object, Dict.get?]
  rw [Child.storageRequest?]
  exact congrArg (Option.bind · Json.str?) hstorage

theorem exists_sessionClaim (s : Session) (config : Config) :
    ∃ claim, sessionClaim s config = .ok claim ∧ claim.storageRequest? = some (sessionClaimSize s config) := by
  obtain ⟨claim, hclaim⟩ := Child.exists_decode .claim (accepts_sessionClaim s config)
  exact ⟨claim, hclaim, storageRequest?_of_decode (Child.decode_eq_ok.1 hclaim).2⟩

theorem exists_dataSourceClaims (s : Session) (config : Config) :
    ∃ claims, dataSourceClaims s config = .ok claims ∧ claims.length = s.spec.dataSources.length ∧
      ∀ d ∈ claims, d.storageRequest? = some config.storage.dataSourceSize := by
  obtain ⟨claims, hclaims⟩ : ∃ claims, dataSourceClaims s config = .ok claims :=
    Fallible.exists_mapM fun d _ => Child.exists_decode .dataSourceClaim (accepts_dataSourceClaim s config d)
  refine ⟨claims, hclaims, ?_, fun d hd => ?_⟩
  · have hlength := (Fallible.mapM_eq_ok_iff.1 hclaims).length_eq
    rw [← hlength, numberedSources, List.length_zipIdx]
  · obtain ⟨source, -, hdecode⟩ := Fallible.exists_of_mem_mapM hclaims hd
    exact storageRequest?_of_decode (Child.decode_eq_ok.1 hdecode).2

end Manifest

namespace Config

/-- With a usable configuration the claims of a session that asks for no size of its own request the configured sizes,
white space included.  These are quantities exactly if there is none around them. -/
theorem requests_written_iff {s : Session} {config : Config} (hcheck : config.check = .ok ())
    (hsize : s.spec.session.storage.size = none) :
    ∃ claim claims, Manifest.sessionClaim s config = .ok claim ∧ Manifest.dataSourceClaims s config = .ok claims ∧
      claims.length = s.spec.dataSources.length ∧
      claim.storageRequest? = some config.storage.defaultSessionSize ∧
      (∀ d ∈ claims, d.storageRequest? = some config.storage.dataSourceSize) ∧
      (Quantity.IsWritten config.storage.defaultSessionSize ↔
        Text.trim config.storage.defaultSessionSize = config.storage.defaultSessionSize) ∧
      (Quantity.IsWritten config.storage.dataSourceSize ↔
        Text.trim config.storage.dataSourceSize = config.storage.dataSourceSize) := by
  have husable := check_eq_ok_iff.1 hcheck
  obtain ⟨claim, hclaim, hrequest⟩ := Manifest.exists_sessionClaim s config
  obtain ⟨claims, hclaims, hlength, hrequests⟩ := Manifest.exists_dataSourceClaims s config
  rw [Manifest.sessionClaimSize, hsize, Option.getD_none] at hrequest
  have hsession := Quantity.isWritten_iff_trim_eq husable.sessionSize
  have hsource := Quantity.isWritten_iff_trim_eq husable.dataSourceSize
  exact ⟨claim, claims, hclaim, hclaims, hlength, hrequest, hrequests, hsession, hsource⟩

/-- All three claims of this session request quantities when nothing is configured. -/
theorem requests_written_default :
    let s := ChildSet.servedSession
    let config := Config.default ⟨none, none⟩
    config.check = .ok () ∧ s.spec.session.storage.size = none ∧
      ∃ claim claims, Manifest.sessionClaim s config = .ok claim ∧ Manifest.dataSourceClaims s config = .ok claims ∧
        claims.length = 2 ∧
        ∀ d ∈ claim :: claims, ∃ size, d.storageRequest? = some size ∧ Quantity.IsWritten size := by
  intro s config
  have hcheck : config.check = .ok () := check_eq_ok_iff.2 (isUsable_default_iff.2 ⟨nofun, nofun⟩)
  have hsize : s.spec.session.storage.size = none := rfl
  obtain ⟨claim, claims, hclaim, hclaims, hlength, hrequest, hrequests, hsession, hsource⟩ :=
    requests_written_iff hcheck hsize
  have hten : Text.trim "10Gi" = "10Gi" := Text.trim_eq_self (by simp [Text.isBlank])
  have hone : Text.trim "1Gi" = "1Gi" := Text.trim_eq_self (by simp [Text.isBlank])
  refine ⟨hcheck, hsize, claim, claims, hclaim, hclaims, hlength, List.forall_mem_cons.2 ⟨?_, fun d hd => ?_⟩⟩
  · exact ⟨_, hrequest, hsession.2 hone⟩
  · exact ⟨_, hrequests d hd, hsource.2 hten⟩

/-- A configuration with white space around a size is usable, and what is requested with it is no quantity. -/
theorem blank_requested :
    let s := ChildSet.servedSession
    let config : Config :=
      { Config.default ⟨none, none⟩ with storage := ⟨" 5Gi ", "csi-rclone", "10Gi"⟩ }
    config.check = .ok () ∧ s.spec.session.storage.size = none ∧
      ∃ claim size, Manifest.sessionClaim s config = .ok claim ∧ claim.storageRequest? = some size ∧
        ¬ Quantity.IsWritten size := by
  intro s config
  have hdefault : (Config.default ⟨none, none⟩).IsUsable := isUsable_default_iff.2 ⟨nofun, nofun⟩
  have htrim : Text.trim " 5Gi " = "5Gi" := by
    simp [Text.trim, Text.trimStart, Text.dropEndWhile, Text.isBlank]
  have husable : config.IsUsable := { hdefault with
    sessionSize := by
      rw [htrim]
      simp [Quantity.isValid, Quantity.isTail, Quantity.isUnit, Quantity.units] }
  obtain ⟨claim, hclaim, hrequest⟩ := Manifest.exists_sessionClaim s config
  refine ⟨check_eq_ok_iff.2 husable, rfl, claim, " 5Gi ", hclaim, hrequest, fun hwritten => ?_⟩
  have hsame := hwritten.trim_eq
  rw [htrim] at hsame
  exact absurd hsame (by decide)

end Config

end SessionOperator
