import SessionOperator.Proofs.Kubernetes.Accepted
import SessionOperator.Proofs.Session.Coherence
import SessionOperator.Proofs.Session.Typed

/-!
# Every session has desired children

The documents of the desired children are put together of texts and numbers of the session and of values that it was
read with.  The schemas accept them whatever these are, so nothing that a user writes can keep a session from having
children.

* `Manifest.stands_claimVolume`, `Manifest.stands_mount`, …: volumes and mounts, which are read as they are;
* `Manifest.accepts_sessionContainer`, `Manifest.accepts_pod`, …: documents that are accepted, from the inside out;
* `ChildSet.exists_ofSession`: every session has desired children.
-/

namespace SessionOperator

open Schema (Accepts Stands accepts_text accepts_flag accepts_int32 accepts_int64 accepts_intOrText
  accepts_texts accepts_textDict stands_text stands_flag)

theorem Schema.accepts_encodeAll {item : Schema} {values : List Json} (h : ∀ v ∈ values, item.IsValue v) :
    (Schema.list item).Accepts (encodeAll item values) := by
  refine .list fun w hw => ?_
  obtain ⟨v, hv, rfl⟩ := List.mem_map.1 hw
  exact (h v hv).accepts_encode

namespace Manifest

variable {s : Session} {config : Config}

/-- A value under a key that is left out when a condition does not hold. -/
private theorem accepts_when {t : Schema} {condition : Bool} {v : Json} (h : t.Accepts v) :
    ∀ w, when condition v = some w → t.Accepts w := by
  intro w hw
  cases condition with
  | true =>
    cases hw
    exact h
  | false => cases hw

/-! ### Volumes and mounts -/

theorem stands_claimVolume (name claim : String) : Kubernetes.volume.Stands (claimVolume name claim) := by
  have hsource : Kubernetes.persistentVolumeClaimVolumeSource.Stands (.object [("claimName", .str claim)]) :=
    .object (by decide +kernel) (by simp [Schema.requiredFields, Schema.req, Schema.opt])
      (.cons 0 rfl (stands_text claim) .nil)
  exact .object Kubernetes.volume_isOrdered (by simp [Schema.requiredFields, Schema.req, Schema.opt])
    (.cons 19 rfl (stands_text name) (.cons 21 rfl hsource .nil))

theorem stands_sharedMemoryVolume (size : String) : Kubernetes.volume.Stands (named sharedMemoryVolumeName
    [("emptyDir", .object [("medium", .str "Memory"), ("sizeLimit", .str size)])]) := by
  have hsource : Kubernetes.emptyDirVolumeSource.Stands (.object [("medium", .str "Memory"),
      ("sizeLimit", .str size)]) :=
    .object (by decide +kernel) (by simp [Schema.requiredFields, Schema.opt])
      (.cons 0 rfl (stands_text _) (.cons 1 rfl (stands_text size) .nil))
  exact .object Kubernetes.volume_isOrdered (by simp [Schema.requiredFields, Schema.req, Schema.opt])
    (.cons 19 rfl (stands_text _) (.cons 8 rfl hsource .nil))

theorem stands_proxyVolume (a : Authentication) : Kubernetes.volume.Stands (proxyVolume a) := by
  have hsource : Kubernetes.secretVolumeSource.Stands (.object [("secretName", .str a.secretRef.name)]) :=
    .object (by decide +kernel) (by simp [Schema.requiredFields, Schema.opt]) (.cons 3 rfl (stands_text _) .nil)
  exact .object Kubernetes.volume_isOrdered (by simp [Schema.requiredFields, Schema.req, Schema.opt])
    (.cons 19 rfl (stands_text _) (.cons 28 rfl hsource .nil))

theorem stands_mount (name path : String) : Kubernetes.volumeMount.Stands (mount name path) :=
  .object (by decide +kernel) (by simp [Schema.requiredFields, Schema.req, Schema.opt])
    (.cons 2 rfl (stands_text name) (.cons 0 rfl (stands_text path) .nil))

theorem stands_proxyOwnMount : Kubernetes.volumeMount.Stands proxyOwnMount :=
  .object (by decide +kernel) (by simp [Schema.requiredFields, Schema.req, Schema.opt])
    (.cons 2 rfl (stands_text _) (.cons 0 rfl (stands_text _) (.cons 3 rfl (stands_flag true) .nil)))

theorem stands_generatedVolume {v : Json} (hv : v ∈ generatedVolumes s) : Kubernetes.volume.Stands v := by
  simp only [generatedVolumes, sessionVolumes, List.mem_append, List.mem_singleton, Option.mem_toList,
    Option.map_eq_some_iff, List.mem_map] at hv
  rcases hv with ((rfl | ⟨size, -, rfl⟩) | ⟨source, -, rfl⟩) | ⟨a, -, rfl⟩
  · exact stands_claimVolume ..
  · exact stands_sharedMemoryVolume size
  · exact stands_claimVolume ..
  · exact stands_proxyVolume a

theorem stands_sessionOwnMount {m : Json} (hm : m ∈ sessionOwnMounts s) : Kubernetes.volumeMount.Stands m := by
  simp only [sessionOwnMounts, List.mem_append, List.mem_singleton, Option.mem_toList, Option.map_eq_some_iff,
    List.mem_map] at hm
  rcases hm with (rfl | ⟨size, -, rfl⟩) | ⟨source, -, rfl⟩
  all_goals exact stands_mount ..

/-- What a session adds stands behind what is generated. -/
private theorem accepts_append {item : Schema} {own added : List Json} (hown : ∀ v ∈ own, item.Stands v)
    (hadded : ∀ v ∈ added, item.IsValue v) : (Schema.list item).Accepts (.arr (own ++ added.map item.encode)) := by
  refine .list fun w hw => ?_
  rcases List.mem_append.1 hw with hw | hw
  · exact Schema.accepts_of_decode (hown w hw).2
  · obtain ⟨v, hv, rfl⟩ := List.mem_map.1 hw
    exact (hadded v hv).accepts_encode

/-! ### Containers -/

theorem accepts_readinessProbe (hs : s.spec.IsTyped) : ∀ v, readinessProbe s = some v → Kubernetes.probe.Accepts v := by
  have hport : Schema.intOrText.Accepts (.int s.spec.session.port) := accepts_intOrText hs.session.port
  intro v hv
  unfold readinessProbe at hv
  cases hreadiness : s.spec.session.readiness with
  | none =>
    rw [hreadiness] at hv
    cases hv
  | tcp =>
    rw [hreadiness] at hv
    cases hv
    have haction : Kubernetes.tcpSocketAction.Accepts (.object [("port", .int s.spec.session.port)]) :=
      .object rfl (.cons 1 rfl hport .nil)
    exact .object rfl (.cons 7 rfl haction (.cons 5 rfl (accepts_int32 (by decide))
      (.cons 1 rfl (accepts_int32 (by decide)) .nil)))
  | http =>
    rw [hreadiness] at hv
    cases hv
    have haction : Kubernetes.httpGetAction.Accepts
        (.object [("path", .str s.pathPrefix), ("port", .int s.spec.session.port)]) :=
      .object rfl (.cons 2 rfl (accepts_text _) (.cons 3 rfl hport .nil))
    exact .object rfl (.cons 3 rfl haction (.cons 5 rfl (accepts_int32 (by decide))
      (.cons 1 rfl (accepts_int32 (by decide)) .nil)))

theorem accepts_containerPort (name : String) {port : Int} (hport : -Int.pow 2 31 ≤ port ∧ port < Int.pow 2 31) :
    Kubernetes.containerPort.Accepts (named name [("containerPort", .int port)]) :=
  .object rfl (.cons 3 rfl (accepts_text name) (.cons 0 rfl (accepts_int32 hport) .nil))

theorem accepts_envValue (name value : String) : Kubernetes.envVar.Accepts (envValue name value) :=
  .object rfl (.cons 0 rfl (accepts_text name) (.cons 1 rfl (accepts_text value) .nil))

theorem accepts_sessionContainer (hs : s.spec.IsTyped) : Kubernetes.container.Accepts (sessionContainer s) := by
  have hports : (Schema.list Kubernetes.containerPort).Accepts
      (.arr [named "session" [("containerPort", .int s.spec.session.port)]]) :=
    .list (List.forall_mem_singleton.2 (accepts_containerPort _ hs.session.port))
  have hmounts : (Schema.list Kubernetes.volumeMount).Accepts (.arr (sessionMounts s)) :=
    accepts_append (fun _ => stands_sessionOwnMount) hs.session.mounts
  have hsecurity : Kubernetes.securityContext.Accepts (.object [("runAsUser", .int s.spec.session.runAsUser),
      ("runAsGroup", .int s.spec.session.runAsGroup), ("runAsNonRoot", .bool (s.spec.session.runAsUser ≠ 0))]) :=
    .object rfl (.cons 8 rfl (accepts_int64 hs.session.runAsUser) (.cons 6 rfl (accepts_int64 hs.session.runAsGroup)
      (.cons 7 rfl (accepts_flag _) .nil)))
  refine .objectOfSome rfl ?_
  refine .cons_some 8 rfl (accepts_text sessionContainerName) ?_
  refine .cons_some 4 rfl (accepts_text s.spec.session.image) ?_
  refine .cons_some 2 rfl (Schema.accepts_encodeAll hs.session.env) ?_
  refine .cons_some 9 rfl hports ?_
  refine .cons_some 22 rfl hmounts ?_
  refine .cons_some 14 rfl hsecurity ?_
  refine .cons 1 rfl (accepts_when (accepts_texts s.spec.session.command)) ?_
  refine .cons 0 rfl (accepts_when (accepts_texts s.spec.session.args)) ?_
  refine .cons_map 12 rfl (fun v hv => (hs.session.resources v hv).accepts_encode) ?_
  refine .cons_map 23 rfl (fun dir _ => accepts_text dir) ?_
  refine .cons_map 5 rfl (fun policy _ => accepts_text policy) ?_
  exact .cons 10 rfl (accepts_readinessProbe hs) .nil

theorem accepts_proxyContainer (s : Session) (config : Config) {a : Authentication} (ha : a.IsTyped) :
    Kubernetes.container.Accepts (proxyContainer s config a) := by
  have henv : (Schema.list Kubernetes.envVar).Accepts (.arr [
      envValue "AUTHPROXY_MODE" a.type.name,
      envValue "AUTHPROXY_PORT" (toString proxyPort),
      envValue "AUTHPROXY_META_PORT" (toString proxyMetaPort),
      envValue "AUTHPROXY_REMOTE" ("http://127.0.0.1:" ++ toString s.spec.session.port),
      envValue "AUTHPROXY_PATH_PREFIX" s.pathPrefix,
      envValue "AUTHPROXY_CONFIG_FILE" (proxyConfigDir ++ "/" ++ a.secretRef.key.getD "config.yaml")]) :=
    .list (by simp only [List.forall_mem_cons, accepts_envValue, List.not_mem_nil, false_implies, implies_true, and_self])
  have hports : (Schema.list Kubernetes.containerPort).Accepts (.arr [
      named "auth-proxy" [("containerPort", .int proxyPort)],
      named "auth-meta" [("containerPort", .int proxyMetaPort)]]) :=
    .list (List.forall_mem_cons.2 ⟨accepts_containerPort _ (by decide),
      List.forall_mem_singleton.2 (accepts_containerPort _ (by decide))⟩)
  have hmounts : (Schema.list Kubernetes.volumeMount).Accepts
      (.arr ([proxyOwnMount] ++ a.extraVolumeMounts.map Kubernetes.volumeMount.encode)) :=
    accepts_append (List.forall_mem_singleton.2 stands_proxyOwnMount) ha.mounts
  have haction : Kubernetes.tcpSocketAction.Accepts (.object [("port", .int proxyPort)]) :=
    .object rfl (.cons 1 rfl (accepts_intOrText (by decide)) .nil)
  have hprobe : Kubernetes.probe.Accepts
      (.object [("tcpSocket", .object [("port", .int proxyPort)]), ("periodSeconds", .int 5)]) :=
    .object rfl (.cons 7 rfl haction (.cons 5 rfl (accepts_int32 (by decide)) .nil))
  have hsecurity : Kubernetes.securityContext.Accepts (.object [("runAsUser", .int 1000), ("runAsGroup", .int 1000),
      ("runAsNonRoot", .bool true), ("allowPrivilegeEscalation", .bool false)]) :=
    .object rfl (.cons 8 rfl (accepts_int64 (by decide)) (.cons 6 rfl (accepts_int64 (by decide))
      (.cons 7 rfl (accepts_flag true) (.cons 0 rfl (accepts_flag false) .nil))))
  refine .object rfl ?_
  refine .cons 8 rfl (accepts_text proxyContainerName) ?_
  refine .cons 4 rfl (accepts_text config.sidecars.image) ?_
  refine .cons 0 rfl (accepts_texts ["authproxy", "serve"]) ?_
  refine .cons 2 rfl henv ?_
  refine .cons 9 rfl hports ?_
  refine .cons 22 rfl hmounts ?_
  refine .cons 10 rfl hprobe ?_
  exact .cons 14 rfl hsecurity .nil

theorem authentication?_eq_some {a : Authentication} (ha : authentication? s = some a) :
    s.spec.authentication = some a :=
  (Option.filter_eq_some_iff.1 ha).1

/-! ### The stateful set -/

theorem accepts_containers (hs : s.spec.IsTyped) :
    (Schema.list Kubernetes.container).Accepts (.arr (containers s config)) := by
  refine .list fun w hw => ?_
  simp only [containers, List.mem_append, List.mem_singleton, Option.mem_toList, Option.map_eq_some_iff,
    List.mem_map] at hw
  rcases hw with (rfl | ⟨a, ha, rfl⟩) | ⟨v, hv, rfl⟩
  · exact accepts_sessionContainer hs
  · exact accepts_proxyContainer s config (hs.authentication a (authentication?_eq_some ha))
  · exact (hs.extraContainers v hv).accepts_encode

theorem accepts_volumes (hs : s.spec.IsTyped) : (Schema.list Kubernetes.volume).Accepts (.arr (volumes s)) :=
  accepts_append (fun _ => stands_generatedVolume) hs.extraVolumes

theorem accepts_pod (hs : s.spec.IsTyped) : Kubernetes.podSpec.Accepts (pod s config) := by
  have hsecurity : Kubernetes.podSecurityContext.Accepts (.object [("fsGroup", .int s.spec.session.runAsGroup),
      ("fsGroupChangePolicy", .str "OnRootMismatch")]) :=
    .object rfl (.cons 1 rfl (accepts_int64 hs.session.runAsGroup) (.cons 2 rfl (accepts_text _) .nil))
  have hsecrets : (Schema.list Kubernetes.localObjectReference).Accepts
      (.arr (s.spec.imagePullSecrets.map fun r => named r.name [])) := by
    refine .list fun w hw => ?_
    obtain ⟨r, -, rfl⟩ := List.mem_map.1 hw
    exact .object rfl (.cons 0 rfl (accepts_text r.name) .nil)
  refine .objectOfSome rfl ?_
  refine .cons_some 6 rfl (accepts_flag false) ?_
  refine .cons_some 29 rfl hsecurity ?_
  refine .cons_some 3 rfl (accepts_containers hs) ?_
  refine .cons_some 38 rfl (accepts_volumes hs) ?_
  refine .cons 15 rfl (accepts_when (Schema.accepts_encodeAll hs.initContainers)) ?_
  refine .cons 36 rfl (accepts_when (Schema.accepts_encodeAll hs.tolerations)) ?_
  refine .cons 17 rfl (accepts_when (accepts_textDict s.spec.nodeSelector)) ?_
  refine .cons_map 1 rfl (fun v hv => (hs.affinity v hv).accepts_encode) ?_
  refine .cons_map 22 rfl (fun name _ => accepts_text name) ?_
  refine .cons_map 31 rfl (fun name _ => accepts_text name) ?_
  exact .cons 14 rfl (accepts_when hsecrets) .nil

theorem accepts_metadata (s : Session) (name : String) {more : List (String × Json)}
    (hmore : Kubernetes.objectMeta.EachField Accepts more) :
    Kubernetes.objectMeta.Accepts (metadata s name more) :=
  .object rfl (.cons 9 rfl (accepts_text name) (.cons 7 rfl (accepts_textDict s.labels) hmore))

theorem accepts_statefulSet (hs : s.spec.IsTyped) (config : Config) :
    Kubernetes.statefulSet.Accepts (statefulSetDocument s config) := by
  have hreplicas : Schema.int32.Accepts (.int (if s.spec.hibernated then 0 else 1)) := by
    cases s.spec.hibernated <;> exact accepts_int32 (by decide)
  have hselector : Kubernetes.labelSelector.Accepts (.object [("matchLabels", .ofDict s.selector)]) :=
    .object rfl (.cons 1 rfl (accepts_textDict s.selector) .nil)
  have hmetadata : Kubernetes.objectMeta.Accepts (.object [("labels", .ofDict s.labels)]) :=
    .object rfl (.cons 7 rfl (accepts_textDict s.labels) .nil)
  have htemplate : Kubernetes.podTemplateSpec.Accepts
      (.object [("metadata", .object [("labels", .ofDict s.labels)]), ("spec", pod s config)]) :=
    .object rfl (.cons 0 rfl hmetadata (.cons 1 rfl (accepts_pod hs) .nil))
  refine .object rfl (.cons 2 rfl (accepts_metadata s s.childName .nil) (.cons 3 rfl (.object rfl ?_) .nil))
  refine .cons 4 rfl hreplicas ?_
  refine .cons 3 rfl (accepts_text "Parallel") ?_
  refine .cons 6 rfl hselector ?_
  exact .cons 8 rfl htemplate .nil

/-! ### Services and ingresses -/

theorem accepts_servicePort (name : String) {port target : Int} (hport : -Int.pow 2 31 ≤ port ∧ port < Int.pow 2 31)
    (htarget : -Int.pow 2 31 ≤ target ∧ target < Int.pow 2 31) :
    Kubernetes.servicePort.Accepts (servicePortDocument name port target) := by
  refine .object rfl ?_
  refine .cons 1 rfl (accepts_text name) ?_
  refine .cons 3 rfl (accepts_int32 hport) ?_
  refine .cons 5 rfl (accepts_intOrText htarget) ?_
  exact .cons 4 rfl (accepts_text "TCP") .nil

theorem accepts_service (hs : s.spec.IsTyped) : Kubernetes.service.Accepts (serviceDocument s) := by
  have htarget : -Int.pow 2 31 ≤ targetPort s ∧ targetPort s < Int.pow 2 31 := by
    unfold targetPort
    split
    · decide
    · exact hs.session.port
  have hports : (Schema.list Kubernetes.servicePort).Accepts (.arr [
      servicePortDocument servicePortName servicePort (targetPort s),
      servicePortDocument serviceMetaPortName proxyMetaPort proxyMetaPort]) :=
    .list (List.forall_mem_cons.2 ⟨accepts_servicePort _ (by decide) htarget,
      List.forall_mem_singleton.2 (accepts_servicePort _ (by decide) (by decide))⟩)
  refine .object rfl (.cons 2 rfl (accepts_metadata s s.childName .nil) (.cons 3 rfl (.object rfl ?_) .nil))
  exact .cons 13 rfl hports (.cons 15 rfl (accepts_textDict s.selector) .nil)

theorem accepts_ingressPath (s : Session) : Kubernetes.httpIngressPath.Accepts (ingressPath s) := by
  have hport : Kubernetes.serviceBackendPort.Accepts (named servicePortName []) :=
    .object rfl (.cons 0 rfl (accepts_text _) .nil)
  have hservice : Kubernetes.ingressServiceBackend.Accepts
      (named s.childName [("port", named servicePortName [])]) :=
    .object rfl (.cons 0 rfl (accepts_text _) (.cons 1 rfl hport .nil))
  have hbackend : Kubernetes.ingressBackend.Accepts (ingressBackend s) := .object rfl (.cons 1 rfl hservice .nil)
  refine .object rfl ?_
  refine .cons 1 rfl (accepts_text s.pathPrefix) ?_
  refine .cons 2 rfl (accepts_text "Prefix") ?_
  exact .cons 0 rfl hbackend .nil

theorem accepts_ingressRule (s : Session) : Kubernetes.ingressRule.Accepts (ingressRule s) := by
  have hhttp : Kubernetes.httpIngressRuleValue.Accepts (.object [("paths", .arr [ingressPath s])]) :=
    .object rfl (.cons 0 rfl (.list (List.forall_mem_singleton.2 (accepts_ingressPath s))) .nil)
  refine .objectOfSome rfl ?_
  refine .cons_some 1 rfl hhttp ?_
  exact .cons_map 0 rfl (fun host _ => accepts_text host) .nil

theorem accepts_ingress (s : Session) (declared : SessionIngress) :
    Kubernetes.ingress.Accepts (ingressDocument s declared) := by
  have hmetadata : Kubernetes.objectMeta.Accepts
      (metadata s s.childName [("annotations", .ofDict declared.annotations)]) :=
    accepts_metadata s s.childName (.cons 0 rfl (accepts_textDict declared.annotations) .nil)
  have htls : ∀ secret : String, (Schema.list Kubernetes.ingressTLS).Accepts
      (.arr [.object [("hosts", encodeTexts declared.host.toList), ("secretName", .str secret)]]) :=
    fun secret => .list (List.forall_mem_singleton.2
      (.object rfl (.cons 0 rfl (accepts_texts _) (.cons 1 rfl (accepts_text secret) .nil))))
  refine .object rfl (.cons 2 rfl hmetadata (.cons 3 rfl (.objectOfSome rfl ?_) .nil))
  refine .cons_some 2 rfl (.list (List.forall_mem_singleton.2 (accepts_ingressRule s))) ?_
  refine .cons_map 1 rfl (fun name _ => accepts_text name) ?_
  exact .cons_map 3 rfl (fun secret _ => htls secret) .nil

/-! ### Claims -/

theorem accepts_claimSpec (accessMode size : String) (className : Option String) :
    Kubernetes.persistentVolumeClaimSpec.Accepts (claimSpec accessMode size className) := by
  have hrequests : (Schema.dict Schema.quantity).Accepts (.object [("storage", .str size)]) :=
    accepts_textDict [("storage", size)]
  have hresources : Kubernetes.volumeResourceRequirements.Accepts
      (.object [("requests", .object [("storage", .str size)])]) :=
    .object rfl (.cons 1 rfl hrequests .nil)
  refine .objectOfSome rfl ?_
  refine .cons_some 0 rfl (accepts_texts [accessMode]) ?_
  refine .cons_some 3 rfl hresources ?_
  exact .cons_map 5 rfl (fun name _ => accepts_text name) .nil

theorem accepts_sessionClaim (s : Session) (config : Config) :
    Kubernetes.persistentVolumeClaim.Accepts (sessionClaimDocument s config) :=
  .object rfl (.cons 2 rfl (accepts_metadata s s.childName .nil) (.cons 3 rfl (accepts_claimSpec _ _ _) .nil))

theorem accepts_dataSourceClaim (s : Session) (config : Config) (d : DataSource × Nat) :
    Kubernetes.persistentVolumeClaim.Accepts (dataSourceClaimDocument s config d) := by
  have hannotations : Schema.textDict.Accepts (.object [(dataSourceSecretKey, .str d.1.secretRef.name)]) :=
    accepts_textDict [(dataSourceSecretKey, d.1.secretRef.name)]
  have hmetadata := accepts_metadata s (s.dataSourceClaimName d.2) (.cons 0 rfl hannotations .nil)
  exact .object rfl (.cons 2 rfl hmetadata (.cons 3 rfl (accepts_claimSpec _ _ _) .nil))

end Manifest

/-! ### Children -/

theorem Child.exists_decode (kind : ChildKind) {document : Json} (h : kind.schema.Accepts document) :
    ∃ child, Child.decode kind document = .ok child := by
  obtain ⟨body, hbody⟩ := h kind.schema_isOrdered
  exact ⟨⟨kind, body⟩, Fallible.map_eq_ok_iff.2 ⟨body, hbody, rfl⟩⟩

/-- Whatever a session declares, it has desired children. -/
theorem ChildSet.exists_ofSession {s : Session} (hs : s.spec.IsTyped) (config : Config) :
    ∃ c, ofSession s config = .ok c := by
  obtain ⟨statefulSet, hset⟩ := Child.exists_decode .statefulSet (Manifest.accepts_statefulSet hs config)
  obtain ⟨service, hservice⟩ := Child.exists_decode .service (Manifest.accepts_service hs)
  obtain ⟨claim, hclaim⟩ := Child.exists_decode .claim (Manifest.accepts_sessionClaim s config)
  obtain ⟨claims, hclaims⟩ : ∃ claims, Manifest.dataSourceClaims s config = .ok claims :=
    Fallible.exists_mapM fun d _ => Child.exists_decode .dataSourceClaim (Manifest.accepts_dataSourceClaim s config d)
  obtain ⟨ingress, hingress⟩ : ∃ ingress, Manifest.ingress s = .ok ingress := by
    unfold Manifest.ingress
    cases s.spec.ingress with
    | none => exact ⟨none, rfl⟩
    | some declared =>
      obtain ⟨ingress, hdecode⟩ := Child.exists_decode .ingress (Manifest.accepts_ingress s declared)
      exact ⟨some ingress, Fallible.map_eq_ok_iff.2 ⟨ingress, hdecode, rfl⟩⟩
  refine ⟨⟨statefulSet, service, ingress, claim, claims⟩, ?_⟩
  simp only [ofSession, Manifest.statefulSet, Manifest.service, Manifest.sessionClaim, hset, hservice, hingress, hclaim,
    hclaims, Fallible.ok_bind]

end SessionOperator
