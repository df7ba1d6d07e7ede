import SessionOperator.Diagnosis
import SessionOperator.Proofs.Children.Reconcile
import SessionOperator.Status.Build

/-!
# Reasons to fail

The reasons of an object are read off its status and its metadata, and they are the same for an object and for the
document that it is written as.  So they do not change while only specs are written.

* `Diagnosis.claim_encode`, `Diagnosis.route_encode`: the reasons of a document;
* `Child.Alike.claim_eq`, `Child.Alike.route_eq`: the reasons of children that differ by writes to the spec only;
* `ChildSet.Shown.failureReason_eq`: the reason of a session while its children differ in specs only.
-/

namespace SessionOperator

/-! ### Reading documents -/

namespace Schema

variable {s item : Schema} {key : String} {required : Bool}

theorem HasField.text?_encode (hf : s.HasField key required .text) (hs : s.isOrdered = true) (x : Json) :
    (s.encode x).text? key = x.text? key := by
  rw [Json.text?, Json.text?, hf.get?_encode hs]
  cases x.get? key with
  | none => rfl
  | some v => rw [Option.map_some, encode_plain rfl]

theorem isOrdered_of_list (h : (list item).isOrdered = true) : item.isOrdered = true := by
  rwa [isOrdered] at h

theorem items_encode (item : Schema) (j : Json) : ((list item).encode j).items = j.items.map item.encode := by
  cases j with
  | arr items => rw [encode]; rfl
  | null | bool b | int n | float bits | str t | obj fields =>
    rw [encode]
    · rfl
    all_goals simp

theorem HasField.list_encode (hf : s.HasField key required (.list item)) (hs : s.isOrdered = true) (x : Json) :
    (s.encode x).list key = (x.list key).map item.encode := by
  rw [Json.list, Json.list, hf.get?_encode hs]
  cases x.get? key with
  | none => rfl
  | some v => exact items_encode item v

theorem encode_textDict (j : Json) : textDict.encode j = j := by
  cases j with
  | obj d => exact encode_dict_plain rfl d
  | null | bool b | int n | float bits | str t | arr items =>
    rw [textDict, encode]
    all_goals simp

end Schema

namespace Diagnosis

open Schema Kubernetes

variable {s : Schema} {j j' : Json}

theorem isDeleting_encode (hs : s.isOrdered = true) (hmetadata : s.HasField "metadata" true objectMeta) (j : Json) :
    isDeleting (s.encode j) = isDeleting j := by
  unfold isDeleting
  simp only [Json.path?, hmetadata.get?_encode hs]
  cases j.get? "metadata" with
  | none => rfl
  | some m =>
    rw [Option.map_some, Option.bind_some, Option.bind_some,
      hasField_deletionTimestamp.get?_encode (hmetadata.isOrdered hs)]
    cases m.get? "deletionTimestamp" <;> rfl

/-! ### Routes -/

theorem balancerPorts_encode {status balancer point port : Schema} (hs : s.isOrdered = true)
    (hstatus : s.HasField "status" false status) (hbalancer : status.HasField "loadBalancer" false balancer)
    (hpoint : balancer.HasField "ingress" false (.list point)) (hport : point.HasField "ports" false (.list port))
    (j : Json) : balancerPorts (s.encode j) = (balancerPorts j).map port.encode := by
  have hss := hstatus.isOrdered hs
  have hbs := hbalancer.isOrdered hss
  have hps := isOrdered_of_list (hpoint.isOrdered hbs)
  unfold balancerPorts
  simp only [Json.path?, hstatus.get?_encode hs]
  cases j.get? "status" with
  | none => rfl
  | some st =>
    rw [Option.map_some, Option.bind_some, Option.bind_some, hbalancer.get?_encode hss]
    cases st.get? "loadBalancer" with
    | none => rfl
    | some b =>
      simp only [Option.map_some, Option.bind_some, Option.getD_some, hpoint.list_encode hbs]
      rw [List.flatMap_map, List.map_flatMap]
      exact List.flatMap_congr fun i _ => hport.list_encode hps i

theorem route_encode {status balancer point port : Schema} (hs : s.isOrdered = true)
    (hmetadata : s.HasField "metadata" true objectMeta)
    (hstatus : s.HasField "status" false status) (hbalancer : status.HasField "loadBalancer" false balancer)
    (hpoint : balancer.HasField "ingress" false (.list point)) (hport : point.HasField "ports" false (.list port))
    (herror : port.HasField "error" false .text) (j : Json) : route (s.encode j) = route j := by
  have hps := isOrdered_of_list (hpoint.isOrdered (hbalancer.isOrdered (hstatus.isOrdered hs)))
  have hports := isOrdered_of_list (hport.isOrdered hps)
  unfold route
  rw [isDeleting_encode hs hmetadata, balancerPorts_encode hs hstatus hbalancer hpoint hport, List.findSome?_map]
  simp only [Function.comp_def, herror.text?_encode hports]

/-! ### Claims -/

private theorem claimStatus_isOrdered : persistentVolumeClaimStatus.isOrdered = true :=
  ChildKind.statusSchema_isOrdered .claim

private theorem hasField_conditions :
    persistentVolumeClaimStatus.HasField "conditions" false (.list persistentVolumeClaimCondition) :=
  ⟨_, _, rfl, List.mem_of_getElem? (i := 4) rfl⟩

private theorem hasField_phase : persistentVolumeClaimStatus.HasField "phase" false .text :=
  ⟨_, _, rfl, List.mem_of_getElem? (i := 7) rfl⟩

private theorem hasField_allocated :
    persistentVolumeClaimStatus.HasField "allocatedResourceStatuses" false textDict :=
  ⟨_, _, rfl, List.mem_of_getElem? (i := 1) rfl⟩

theorem infeasible_encode (status : Json) :
    infeasible (persistentVolumeClaimStatus.encode status) = infeasible status := by
  unfold infeasible
  rw [hasField_allocated.get?_encode claimStatus_isOrdered]
  cases status.get? "allocatedResourceStatuses" with
  | none => rfl
  | some d => rw [Option.map_some, encode_textDict]

/-- The message of the first condition that tells of a failed resize. -/
theorem failedResize_encode (status : Json) :
    (((persistentVolumeClaimStatus.encode status).list "conditions").find? isFailedResize).map (textOr · "message") =
      ((status.list "conditions").find? isFailedResize).map (textOr · "message") := by
  have hs := isOrdered_of_list (hasField_conditions.isOrdered claimStatus_isOrdered)
  have hmessage : persistentVolumeClaimCondition.HasField "message" false .text :=
    ⟨_, _, rfl, List.mem_of_getElem? (i := 2) rfl⟩
  have hstatus : persistentVolumeClaimCondition.HasField "status" true .text :=
    ⟨_, _, rfl, List.mem_of_getElem? (i := 4) rfl⟩
  have htype : persistentVolumeClaimCondition.HasField "type" true .text :=
    ⟨_, _, rfl, List.mem_of_getElem? (i := 5) rfl⟩
  have hfailed : isFailedResize ∘ persistentVolumeClaimCondition.encode = isFailedResize := by
    funext condition
    simp only [Function.comp_apply, isFailedResize, textOr, hstatus.text?_encode hs, htype.text?_encode hs]
  rw [hasField_conditions.list_encode claimStatus_isOrdered, List.find?_map, hfailed, Option.map_map]
  simp only [Function.comp_def, textOr, hmessage.text?_encode hs]

theorem claim_encode (j : Json) : claim (persistentVolumeClaim.encode j) = claim j := by
  have hs := ChildKind.schema_isOrdered .claim
  have hmetadata := ChildKind.hasField_metadata .claim
  have hname : (((persistentVolumeClaim.encode j).path? ["metadata", "name"]).bind Json.str?) =
      (j.path? ["metadata", "name"]).bind Json.str? := by
    simp only [Json.path?]
    rw [show persistentVolumeClaim = ChildKind.claim.schema from rfl, hmetadata.get?_encode hs]
    cases j.get? "metadata" with
    | none => rfl
    | some m => simpa [Json.text?] using hasField_name.text?_encode objectMeta_isOrdered m
  unfold claim
  rw [hname]
  rw [show persistentVolumeClaim = ChildKind.claim.schema from rfl, isDeleting_encode hs hmetadata,
    (ChildKind.hasField_status .claim).get?_encode hs]
  cases j.get? "status" with
  | none => rfl
  | some status =>
    rw [Option.map_some, show ChildKind.claim.statusSchema = persistentVolumeClaimStatus from rfl]
    simp only [hasField_phase.text?_encode claimStatus_isOrdered, infeasible_encode, failedResize_encode]

/-! ### What the reasons depend on -/

theorem claim_congr (hstatus : j.get? "status" = j'.get? "status")
    (hmetadata : ∀ key, key ≠ "resourceVersion" → j.path? ["metadata", key] = j'.path? ["metadata", key]) :
    claim j = claim j' := by
  unfold claim isDeleting
  rw [hstatus, hmetadata _ (by decide), hmetadata _ (by decide)]

theorem route_congr (hstatus : j.get? "status" = j'.get? "status")
    (hmetadata : ∀ key, key ≠ "resourceVersion" → j.path? ["metadata", key] = j'.path? ["metadata", key]) :
    route j = route j' := by
  have hpath : j.path? ["status", "loadBalancer"] = j'.path? ["status", "loadBalancer"] := by
    rw [Json.path?, hstatus, Json.path?]
  unfold route isDeleting balancerPorts
  rw [hmetadata _ (by decide), hpath]

end Diagnosis

namespace Child

variable {a b c : Child}

/-- The reason of a claim can be read off its document as well. -/
theorem claim_encode (hc : c.IsClaim) : Diagnosis.claim c.encode = Diagnosis.claim c.body := by
  have heq : c.kind.schema = Kubernetes.persistentVolumeClaim := by rcases hc with hc | hc <;> rw [hc] <;> rfl
  rw [encode, heq, Diagnosis.claim_encode]

/-- So can the reason of a service or an ingress. -/
theorem route_encode (hc : c.kind = .service ∨ c.kind = .ingress) :
    Diagnosis.route c.encode = Diagnosis.route c.body := by
  have hs := c.kind.schema_isOrdered
  have hmetadata := c.kind.hasField_metadata
  have hstatus := c.kind.hasField_status
  rcases hc with hc | hc
  · rw [hc] at hs hmetadata hstatus
    rw [encode, hc]
    exact Diagnosis.route_encode hs hmetadata hstatus ⟨_, _, rfl, List.mem_of_getElem? (i := 1) rfl⟩
      ⟨_, _, rfl, List.mem_of_getElem? (i := 0) rfl⟩ ⟨_, _, rfl, List.mem_of_getElem? (i := 3) rfl⟩
      ⟨_, _, rfl, List.mem_of_getElem? (i := 0) rfl⟩ c.body
  · rw [hc] at hs hmetadata hstatus
    rw [encode, hc]
    exact Diagnosis.route_encode hs hmetadata hstatus ⟨_, _, rfl, List.mem_of_getElem? (i := 0) rfl⟩
      ⟨_, _, rfl, List.mem_of_getElem? (i := 0) rfl⟩ ⟨_, _, rfl, List.mem_of_getElem? (i := 2) rfl⟩
      ⟨_, _, rfl, List.mem_of_getElem? (i := 0) rfl⟩ c.body

namespace Alike

theorem claim_eq (h : a.Alike b) (hkind : a.IsClaim) : Diagnosis.claim a.body = Diagnosis.claim b.body := by
  rw [← claim_encode hkind, ← claim_encode (by rwa [IsClaim, ← h.kind]), Diagnosis.claim_congr h.status h.metadata]

theorem route_eq (h : a.Alike b) (hkind : a.kind = .service ∨ a.kind = .ingress) :
    Diagnosis.route a.body = Diagnosis.route b.body := by
  rw [← route_encode hkind, ← route_encode (by rwa [← h.kind]), Diagnosis.route_congr h.status h.metadata]

end Alike

end Child

/-! ### The reason of a session -/

/-- What is desired of the children stands in both clusters, and what stands there differs in specs only. -/
def Cluster.AlikeOn (c c' : Cluster) (ds : List Child) : Prop :=
  ∀ d ∈ ds, ∃ a b, c.found d = some a ∧ c'.found d = some b ∧ a.Alike b

/-- The body of a child of one of some kinds. -/
private def bodyIf (kinds : List ChildKind) (m : Option Child) : Option Json :=
  m.bind fun c => if kinds.contains c.kind then some c.body else none

private theorem map_bodyIf {kinds : List ChildKind} {m m' : Option Child} (f : Json → String)
    (hf : ∀ a b : Child, kinds.contains a.kind = true → a.Alike b → f a.body = f b.body)
    (h : ∃ a b, m = some a ∧ m' = some b ∧ a.Alike b) : (bodyIf kinds m).map f = (bodyIf kinds m').map f := by
  obtain ⟨a, b, rfl, rfl, halike⟩ := h
  simp only [bodyIf, Option.bind_some, ← halike.kind]
  split
  · rename_i hkind
    exact congrArg some (hf a b hkind halike)
  · rfl

namespace ChildSet.Shown

variable {children : ChildSet} {c c' : Cluster} {u u' : ChildUpdates}

private theorem claims_eq (h : children.Shown c u) : u.claims =
    (children.claim :: children.dataSourceClaims).filterMap fun d => bodyIf [.claim, .dataSourceClaim] (c.found d) := by
  have hmanifests : (u.claim :: u.dataSourceClaims).map (·.manifest) =
      (children.claim :: children.dataSourceClaims).map c.found := by
    rw [List.map_cons, List.map_cons, h.claim, h.dataSourceClaims]
  have hbodies : u.claims =
      ((u.claim :: u.dataSourceClaims).map (·.manifest)).filterMap (bodyIf [.claim, .dataSourceClaim]) := by
    rw [List.filterMap_map]
    rfl
  rw [hbodies, hmanifests, List.filterMap_map]
  rfl

private theorem ingress?_eq (h : children.Shown c u) :
    u.ingress? = children.ingress.bind fun d => bodyIf [.ingress] (c.found d) := by
  have hbody : u.ingress? = (u.ingress.map (·.manifest)).bind (bodyIf [.ingress]) := by
    unfold ChildUpdates.ingress?
    cases u.ingress <;> rfl
  rw [hbody, h.ingress]
  cases children.ingress <;> rfl

private theorem service?_eq (h : children.Shown c u) : u.service? = bodyIf [.service] (c.found children.service) :=
  congrArg (bodyIf [.service]) h.service

theorem claims_map_claim (h : children.Shown c u) (h' : children.Shown c' u') (halike : c.AlikeOn c' children.toList) :
    u.claims.map Diagnosis.claim = u'.claims.map Diagnosis.claim := by
  rw [h.claims_eq, h'.claims_eq, List.map_filterMap, List.map_filterMap]
  refine List.filterMap_congr fun d hd => map_bodyIf _ (fun a b hkind hab => hab.claim_eq ?_) (halike d ?_)
  · simpa [Child.IsClaim] using hkind
  · rcases List.mem_cons.1 hd with rfl | hd
    · exact mem_toList.2 (.inr (.inr (.inr (.inl rfl))))
    · exact mem_toList.2 (.inr (.inr (.inr (.inr hd))))

theorem service?_map_route (h : children.Shown c u) (h' : children.Shown c' u')
    (halike : c.AlikeOn c' children.toList) : u.service?.map Diagnosis.route = u'.service?.map Diagnosis.route := by
  rw [h.service?_eq, h'.service?_eq]
  exact map_bodyIf _ (fun a b hkind hab => hab.route_eq (.inl (by simpa using hkind)))
    (halike _ (mem_toList.2 (.inr (.inl rfl))))

theorem ingress?_map_route (h : children.Shown c u) (h' : children.Shown c' u')
    (halike : c.AlikeOn c' children.toList) : u.ingress?.map Diagnosis.route = u'.ingress?.map Diagnosis.route := by
  rw [h.ingress?_eq, h'.ingress?_eq]
  cases hd : children.ingress with
  | none => rfl
  | some d =>
    exact map_bodyIf _ (fun a b hkind hab => hab.route_eq (.inr (by simpa using hkind)))
      (halike d (mem_toList.2 (.inr (.inr (.inl hd)))))

/-- While the children differ in their specs only, the session fails for the same reason. -/
theorem failureReason_eq (h : children.Shown c u) (h' : children.Shown c' u')
    (halike : c.AlikeOn c' children.toList) (seen : Observations) :
    Status.failureReason u seen = Status.failureReason u' seen := by
  unfold Status.failureReason Status.failureReasons
  rw [h.claims_map_claim h' halike, h.service?_map_route h' halike, h.ingress?_map_route h' halike]

/-- Whether there is an ingress does not change either. -/
theorem isSome_ingress?_eq (h : children.Shown c u) (h' : children.Shown c' u')
    (halike : c.AlikeOn c' children.toList) : u.ingress?.isSome = u'.ingress?.isSome := by
  have hroute := congrArg Option.isSome (h.ingress?_map_route h' halike)
  rwa [Option.isSome_map, Option.isSome_map] at hroute

end ChildSet.Shown

end SessionOperator
