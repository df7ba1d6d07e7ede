import SessionOperator.Proofs.Session.Typed

/-!
# Sessions are read as they were written

No field of a session is lost on the way through its document: what is left out stands for its default, what is `null`
for nothing.  Only fractions of seconds are lost.  There are times in the metadata, and there may be some in the claims
of ephemeral volumes.

* `SessionContainer.decode_encode`, `SessionSpec.decode_encode`, `SessionStatus.decode_encode`: the parts of a session;
* `Session.decode_encode`: the session, with metadata that are written as before.
-/

namespace SessionOperator

variable {key : String} {v : Json}

/-! ### Texts and values of schemas -/

private theorem decode_encodeTexts (texts : List String) :
    Decoder.list Decoder.text (encodeTexts texts) = .ok texts :=
  Decoder.list_map fun t _ => Decoder.text_str t

private theorem decode_ofDict (texts : Dict String) : Decoder.dict Decoder.text (.ofDict texts) = .ok texts :=
  Decoder.dict_mapValues fun e _ => Decoder.text_str e.2

private theorem decode_encodeAll {s : Schema} {values : List Json} (h : ∀ v ∈ values, s.IsWhole v) :
    Decoder.list s.decode (encodeAll s values) = .ok values :=
  Decoder.list_map h

private theorem decode_part {s : Schema} (hwhole : s.IsWhole v) (hs : s ≠ .any) :
    s.decode (s.encode v) = .ok v ∧ s.encode v ≠ .null :=
  ⟨hwhole, hwhole.encode_ne_null hs⟩

/-! ### Small parts -/

namespace SecretRef

theorem decode_encode (s : SecretRef) : decode s.encode = .ok s := by
  have hread : Record.ofForm form s.encode = .ok (.ofObject s.encode) := Record.ofForm_object ..
  have hname : (Record.ofObject s.encode).required "name" Decoder.text = .ok s.name :=
    Record.required_object (by simp) (by simp) (Decoder.text_str s.name)
  have hkey : (Record.ofObject s.encode).optional "key" Decoder.text = .ok s.key :=
    Record.optional_text (.inr (Json.get?_object_of_mem (by simp) (by simp)))
  have hadopt : (Record.ofObject s.encode).withDefault "adopt" false Decoder.flag = .ok s.adopt :=
    Record.withDefault_object (by simp) (by simp) (Decoder.flag_bool s.adopt)
  simp only [decode, hread, Fallible.ok_bind, hname, hkey, hadopt]

theorem encode_ne_null (s : SecretRef) : s.encode ≠ .null := by
  simp [encode, Json.object]

end SecretRef

theorem ReadinessCheck.decode_encode (c : ReadinessCheck) : decode c.encode = .ok c := by
  have hread : Record.ofForm form c.encode = .ok (.ofObject c.encode) := Record.ofForm_object ..
  have hvariant : Decoder.choice variants (.str c.name) = .ok c := Decoder.choice_str (by cases c <;> rfl)
  have htype : (Record.ofObject c.encode).withDefault "type" .tcp (Decoder.choice variants) = .ok c :=
    Record.withDefault_object (by simp) (by simp) hvariant
  simp only [decode, hread, Fallible.ok_bind, htype]

theorem Storage.decode_encode (s : Storage) : decode s.encode = .ok s := by
  have hread : Record.ofForm form s.encode = .ok (.ofObject s.encode) := Record.ofForm_object ..
  have hclass : (Record.ofObject s.encode).optional "className" Decoder.text = .ok s.className :=
    Record.optional_text (.inr (Json.get?_object_of_mem (by simp) (by simp)))
  have hsize : (Record.ofObject s.encode).optional "size" Decoder.text = .ok s.size :=
    Record.optional_text (.inr (Json.get?_object_of_mem (by simp) (by simp)))
  have hmount : (Record.ofObject s.encode).withDefault "mountPath" Storage.default.mountPath Decoder.text =
      .ok s.mountPath :=
    Record.withDefault_object (by simp) (by simp) (Decoder.text_str s.mountPath)
  simp only [decode, hread, Fallible.ok_bind, hclass, hsize, hmount]

theorem DataSource.decode_encode (d : DataSource) : decode d.encode = .ok d := by
  have hread : Record.ofForm form d.encode = .ok (.ofObject d.encode) := Record.ofForm_object ..
  have hvariant : Decoder.choice variants (.str "rclone") = .ok d.type := Decoder.choice_str (by cases d.type; rfl)
  have htype : (Record.ofObject d.encode).withDefault "type" .rclone (Decoder.choice variants) = .ok d.type :=
    Record.withDefault_object (by simp) (by simp) hvariant
  have hsecret : (Record.ofObject d.encode).required "secretRef" SecretRef.decode = .ok d.secretRef :=
    Record.required_object (by simp) (by simp) d.secretRef.decode_encode
  have hmount : (Record.ofObject d.encode).required "mountPath" Decoder.text = .ok d.mountPath :=
    Record.required_object (by simp) (by simp) (Decoder.text_str d.mountPath)
  have hmode : (Record.ofObject d.encode).withDefault "accessMode" "ReadOnlyMany" Decoder.text = .ok d.accessMode :=
    Record.withDefault_object (by simp) (by simp) (Decoder.text_str d.accessMode)
  simp only [decode, hread, Fallible.ok_bind, htype, hsecret, hmount, hmode]

theorem CullingSpec.decode_encode (c : CullingSpec) : decode c.encode = .ok c := by
  have hread : Record.ofForm form c.encode = .ok (.ofObject c.encode) := Record.ofForm_object ..
  have hfield : ∀ key t, (key, t) ∈ [("maxAge", c.maxAge), ("maxIdleDuration", c.maxIdleDuration),
      ("maxStartingDuration", c.maxStartingDuration), ("maxFailedDuration", c.maxFailedDuration),
      ("maxHibernatedDuration", c.maxHibernatedDuration), ("lastInteraction", c.lastInteraction)] →
      (Record.ofObject c.encode).optional key Decoder.text = .ok t := by
    intro key t hmem
    have hwritten := List.mem_map_of_mem (f := fun f : String × Option String => (f.1, encodeText? f.2)) hmem
    exact Record.optional_text (.inr (Json.get?_object_of_mem (by simp) hwritten))
  simp only [decode, hread, Fallible.ok_bind, hfield "maxAge" c.maxAge (by simp),
    hfield "maxIdleDuration" c.maxIdleDuration (by simp), hfield "maxStartingDuration" c.maxStartingDuration (by simp),
    hfield "maxFailedDuration" c.maxFailedDuration (by simp),
    hfield "maxHibernatedDuration" c.maxHibernatedDuration (by simp),
    hfield "lastInteraction" c.lastInteraction (by simp)]

namespace Authentication

variable {a : Authentication}

theorem decode_encode (ha : a.IsTyped) : decode a.encode = .ok a := by
  have hread : Record.ofForm form a.encode = .ok (.ofObject a.encode) := Record.ofForm_object ..
  have hvariant : Decoder.choice variants (.str a.type.name) = .ok a.type :=
    Decoder.choice_str (by cases a.type <;> rfl)
  have henabled : (Record.ofObject a.encode).withDefault "enabled" false Decoder.flag = .ok a.enabled :=
    Record.withDefault_object (by simp) (by simp) (Decoder.flag_bool a.enabled)
  have htype : (Record.ofObject a.encode).withDefault "type" .token (Decoder.choice variants) = .ok a.type :=
    Record.withDefault_object (by simp) (by simp) hvariant
  have hsecret : (Record.ofObject a.encode).required "secretRef" SecretRef.decode = .ok a.secretRef :=
    Record.required_object (by simp) (by simp) a.secretRef.decode_encode
  have hmounts : (Record.ofObject a.encode).withDefault "extraVolumeMounts" []
      (Decoder.list Kubernetes.volumeMount.decode) = .ok a.extraVolumeMounts :=
    Record.withDefault_object (by simp) (by simp)
      (decode_encodeAll fun v hv => Kubernetes.isWhole_volumeMount (ha.mounts v hv))
  simp only [decode, hread, Fallible.ok_bind, henabled, htype, hsecret, hmounts]

theorem encode_ne_null (a : Authentication) : a.encode ≠ .null := by
  simp [encode, Json.object]

end Authentication

namespace SessionIngress

theorem decode_encode (i : SessionIngress) : decode i.encode = .ok i := by
  have hread : Record.ofForm form i.encode = .ok (.ofObject i.encode) := Record.ofForm_object ..
  have hhost : (Record.ofObject i.encode).optional "host" Decoder.text = .ok i.host :=
    Record.optional_text (.inr (Json.get?_object_of_mem (by simp) (by simp)))
  have hclass : (Record.ofObject i.encode).optional "ingressClassName" Decoder.text = .ok i.ingressClassName :=
    Record.optional_text (.inr (Json.get?_object_of_mem (by simp) (by simp)))
  have hannotations : (Record.ofObject i.encode).withDefault "annotations" [] (Decoder.dict Decoder.text) =
      .ok i.annotations :=
    Record.withDefault_object (by simp) (by simp) (decode_ofDict i.annotations)
  have hsecret : (Record.ofObject i.encode).optional "tlsSecret" SecretRef.decode = .ok i.tlsSecret :=
    Record.optional_object (by simp) (by simp) fun s _ => ⟨s.decode_encode, s.encode_ne_null⟩
  simp only [decode, hread, Fallible.ok_bind, hhost, hclass, hannotations, hsecret]

theorem encode_ne_null (i : SessionIngress) : i.encode ≠ .null := by
  simp [encode, Json.object]

end SessionIngress

/-! ### The session's container -/

namespace SessionContainer

variable {c : SessionContainer}

/-- What the document of a session's container holds. -/
@[irreducible]
def fields (c : SessionContainer) : List (String × Json) := [
  ("image", .str c.image), ("command", encodeTexts c.command), ("args", encodeTexts c.args),
  ("env", encodeAll Kubernetes.envVar c.env),
  ("resources", Json.orNull (c.resources.map Kubernetes.resourceRequirements.encode)), ("port", .int c.port),
  ("storage", c.storage.encode), ("shmSize", encodeText? c.shmSize), ("workingDir", encodeText? c.workingDir),
  ("runAsUser", .int c.runAsUser), ("runAsGroup", .int c.runAsGroup), ("urlPath", .str c.urlPath),
  ("extraVolumeMounts", encodeAll Kubernetes.volumeMount c.extraVolumeMounts),
  ("readinessProbe", c.readiness.encode), ("imagePullPolicy", encodeText? c.imagePullPolicy)]

theorem encode_eq (c : SessionContainer) : c.encode = .object c.fields := by
  rw [encode, fields]

private theorem get?_encode (hmem : (key, v) ∈ c.fields) : c.encode.get? key = some v := by
  rw [encode_eq]
  exact Json.get?_object_of_mem (by simp [fields]) hmem

theorem decode_encode (hc : c.IsTyped) : decode c.encode = .ok c := by
  have hread : Record.ofForm form c.encode = .ok (.ofObject c.encode) := Record.ofForm_object ..
  set r := Record.ofObject c.encode
  have himage : r.required "image" Decoder.text = .ok c.image :=
    Record.required_ofObject (get?_encode (by simp [fields])) (Decoder.text_str c.image)
  have hcommand : r.withDefault "command" [] (Decoder.list Decoder.text) = .ok c.command :=
    Record.withDefault_ofObject (get?_encode (by simp [fields])) (decode_encodeTexts c.command)
  have hargs : r.withDefault "args" [] (Decoder.list Decoder.text) = .ok c.args :=
    Record.withDefault_ofObject (get?_encode (by simp [fields])) (decode_encodeTexts c.args)
  have henv : r.withDefault "env" [] (Decoder.list Kubernetes.envVar.decode) = .ok c.env :=
    Record.withDefault_ofObject (get?_encode (by simp [fields]))
      (decode_encodeAll fun v hv => Kubernetes.isWhole_envVar (hc.env v hv))
  have hresources : r.optional "resources" Kubernetes.resourceRequirements.decode = .ok c.resources :=
    Record.optional_ofObject (.inr (get?_encode (by simp [fields]))) fun v hv =>
      decode_part (Kubernetes.isWhole_resourceRequirements (hc.resources v hv)) (by simp [Kubernetes.resourceRequirements])
  have hport : r.withDefault "port" 8000 Decoder.int32 = .ok c.port :=
    Record.withDefault_ofObject (get?_encode (by simp [fields])) (Decoder.int32_int hc.port)
  have hstorage : r.withDefault "storage" Storage.default Storage.decode = .ok c.storage :=
    Record.withDefault_ofObject (get?_encode (by simp [fields])) c.storage.decode_encode
  have hshm : r.optional "shmSize" Decoder.text = .ok c.shmSize :=
    Record.optional_text (.inr (get?_encode (by simp [fields])))
  have hdir : r.optional "workingDir" Decoder.text = .ok c.workingDir :=
    Record.optional_text (.inr (get?_encode (by simp [fields])))
  have huser : r.withDefault "runAsUser" 1000 Decoder.int64 = .ok c.runAsUser :=
    Record.withDefault_ofObject (get?_encode (by simp [fields])) (Decoder.int64_int hc.runAsUser)
  have hgroup : r.withDefault "runAsGroup" 1000 Decoder.int64 = .ok c.runAsGroup :=
    Record.withDefault_ofObject (get?_encode (by simp [fields])) (Decoder.int64_int hc.runAsGroup)
  have hpath : r.withDefault "urlPath" "/" Decoder.text = .ok c.urlPath :=
    Record.withDefault_ofObject (get?_encode (by simp [fields])) (Decoder.text_str c.urlPath)
  have hmounts : r.withDefault "extraVolumeMounts" [] (Decoder.list Kubernetes.volumeMount.decode) =
      .ok c.extraVolumeMounts :=
    Record.withDefault_ofObject (get?_encode (by simp [fields]))
      (decode_encodeAll fun v hv => Kubernetes.isWhole_volumeMount (hc.mounts v hv))
  have hprobe : r.withDefault "readinessProbe" .tcp ReadinessCheck.decode = .ok c.readiness :=
    Record.withDefault_ofObject (get?_encode (by simp [fields])) c.readiness.decode_encode
  have hpolicy : r.optional "imagePullPolicy" Decoder.text = .ok c.imagePullPolicy :=
    Record.optional_text (.inr (get?_encode (by simp [fields])))
  simp only [decode, hread, Fallible.ok_bind, himage, hcommand, hargs, henv, hresources, hport, hstorage, hshm, hdir,
    huser, hgroup, hpath, hmounts, hprobe, hpolicy]

end SessionContainer

/-! ### What is declared -/

namespace SessionSpec

variable {s : SessionSpec}

/-- What the document of a declaration holds. -/
@[irreducible]
def fields (s : SessionSpec) : List (String × Json) := [
  ("session", s.session.encode), ("dataSources", .arr (s.dataSources.map DataSource.encode)),
  ("authentication", Json.orNull (s.authentication.map Authentication.encode)), ("culling", s.culling.encode),
  ("hibernated", .bool s.hibernated), ("extraContainers", encodeAll Kubernetes.container s.extraContainers),
  ("initContainers", encodeAll Kubernetes.container s.initContainers),
  ("extraVolumes", encodeAll Kubernetes.volume s.extraVolumes),
  ("ingress", Json.orNull (s.ingress.map SessionIngress.encode)), ("nodeSelector", .ofDict s.nodeSelector),
  ("affinity", Json.orNull (s.affinity.map Kubernetes.affinity.encode)),
  ("tolerations", encodeAll Kubernetes.toleration s.tolerations),
  ("priorityClassName", encodeText? s.priorityClassName), ("serviceAccountName", encodeText? s.serviceAccountName),
  ("imagePullSecrets", .arr (s.imagePullSecrets.map SecretRef.encode)),
  ("reconcileStrategy", .str s.reconcileStrategy.name)]

theorem encode_eq (s : SessionSpec) : s.encode = .object s.fields := by
  rw [encode, fields]

theorem nodup_fields (s : SessionSpec) : (s.fields.map (·.1)).Nodup := by
  simp [fields]

theorem get?_encode (hmem : (key, v) ∈ s.fields) : s.encode.get? key = some v := by
  rw [encode_eq]
  exact Json.get?_object_of_mem s.nodup_fields hmem

theorem decode_encode (hs : s.IsTyped) (huntimed : s.Untimed) : decode s.encode = .ok s := by
  have hread : Record.ofForm form s.encode = .ok (.ofObject s.encode) := Record.ofForm_object ..
  set r := Record.ofObject s.encode
  have hsession : r.required "session" SessionContainer.decode = .ok s.session :=
    Record.required_ofObject (get?_encode (by simp [fields])) (SessionContainer.decode_encode hs.session)
  have hsources : r.withDefault "dataSources" [] (Decoder.list DataSource.decode) = .ok s.dataSources :=
    Record.withDefault_ofObject (get?_encode (by simp [fields])) (Decoder.list_map fun d _ => d.decode_encode)
  have hauthentication : r.optional "authentication" Authentication.decode = .ok s.authentication :=
    Record.optional_ofObject (.inr (get?_encode (by simp [fields]))) fun a ha =>
      ⟨Authentication.decode_encode (hs.authentication a ha), a.encode_ne_null⟩
  have hculling : r.withDefault "culling" CullingSpec.default CullingSpec.decode = .ok s.culling :=
    Record.withDefault_ofObject (get?_encode (by simp [fields])) s.culling.decode_encode
  have hhibernated : r.withDefault "hibernated" false Decoder.flag = .ok s.hibernated :=
    Record.withDefault_ofObject (get?_encode (by simp [fields])) (Decoder.flag_bool s.hibernated)
  have hcontainers : r.withDefault "extraContainers" [] (Decoder.list Kubernetes.container.decode) =
      .ok s.extraContainers :=
    Record.withDefault_ofObject (get?_encode (by simp [fields]))
      (decode_encodeAll fun v hv => Kubernetes.isWhole_container (hs.extraContainers v hv))
  have hinit : r.withDefault "initContainers" [] (Decoder.list Kubernetes.container.decode) = .ok s.initContainers :=
    Record.withDefault_ofObject (get?_encode (by simp [fields]))
      (decode_encodeAll fun v hv => Kubernetes.isWhole_container (hs.initContainers v hv))
  -- the claim of an ephemeral volume may hold times, so volumes need the assumption
  have hvolumes : r.withDefault "extraVolumes" [] (Decoder.list Kubernetes.volume.decode) = .ok s.extraVolumes :=
    Record.withDefault_ofObject (get?_encode (by simp [fields]))
      (decode_encodeAll fun v hv => hs.isWhole_volume huntimed hv)
  have hingress : r.optional "ingress" SessionIngress.decode = .ok s.ingress :=
    Record.optional_ofObject (.inr (get?_encode (by simp [fields]))) fun i _ => ⟨i.decode_encode, i.encode_ne_null⟩
  have hselector : r.withDefault "nodeSelector" [] (Decoder.dict Decoder.text) = .ok s.nodeSelector :=
    Record.withDefault_ofObject (get?_encode (by simp [fields])) (decode_ofDict s.nodeSelector)
  have haffinity : r.optional "affinity" Kubernetes.affinity.decode = .ok s.affinity :=
    Record.optional_ofObject (.inr (get?_encode (by simp [fields]))) fun v hv =>
      decode_part (Kubernetes.isWhole_affinity (hs.affinity v hv)) (by simp [Kubernetes.affinity])
  have htolerations : r.withDefault "tolerations" [] (Decoder.list Kubernetes.toleration.decode) =
      .ok s.tolerations :=
    Record.withDefault_ofObject (get?_encode (by simp [fields]))
      (decode_encodeAll fun v hv => Kubernetes.isWhole_toleration (hs.tolerations v hv))
  have hpriority : r.optional "priorityClassName" Decoder.text = .ok s.priorityClassName :=
    Record.optional_text (.inr (get?_encode (by simp [fields])))
  have haccount : r.optional "serviceAccountName" Decoder.text = .ok s.serviceAccountName :=
    Record.optional_text (.inr (get?_encode (by simp [fields])))
  have hsecrets : r.withDefault "imagePullSecrets" [] (Decoder.list SecretRef.decode) = .ok s.imagePullSecrets :=
    Record.withDefault_ofObject (get?_encode (by simp [fields])) (Decoder.list_map fun s _ => s.decode_encode)
  have hvariant : ReconcileStrategy.decode (.str s.reconcileStrategy.name) = .ok s.reconcileStrategy :=
    Decoder.choice_str (by cases s.reconcileStrategy <;> rfl)
  have hstrategy : r.withDefault "reconcileStrategy" .always ReconcileStrategy.decode = .ok s.reconcileStrategy :=
    Record.withDefault_ofObject (get?_encode (by simp [fields])) hvariant
  simp only [decode, hread, Fallible.ok_bind, hsession, hsources, hauthentication, hculling, hhibernated, hcontainers,
    hinit, hvolumes, hingress, hselector, haffinity, htolerations, hpriority, haccount, hsecrets, hstrategy]

end SessionSpec

/-! ### What is recorded -/

theorem ContainerCounts.decode_encode {c : ContainerCounts} (hc : c.IsInt32) : decode c.encode = .ok c := by
  have hread : Record.ofForm form c.encode = .ok (.ofObject c.encode) := Record.ofForm_object ..
  have hready : (Record.ofObject c.encode).required "ready" Decoder.int32 = .ok c.ready :=
    Record.required_object (by simp) (by simp) (Decoder.int32_int hc.ready)
  have htotal : (Record.ofObject c.encode).required "total" Decoder.int32 = .ok c.total :=
    Record.required_object (by simp) (by simp) (Decoder.int32_int hc.total)
  simp only [decode, hread, Fallible.ok_bind, hready, htotal]

namespace SessionStatus

variable {s : SessionStatus}

theorem decode_encode (hs : s.IsInt32) : decode s.encode = .ok s := by
  have hread : Record.ofForm form s.encode = .ok (.ofObject s.encode) := Record.ofForm_object ..
  set r := Record.ofObject s.encode
  have hconditions : r.withDefault "conditions" [] (Decoder.list Condition.decode) = .ok s.conditions :=
    Record.withDefault_ofObject (get?_encode (by simp [fields])) (Decoder.list_map fun c _ => c.decode_encode)
  have hvariant : SessionState.decode (.str s.state.name) = .ok s.state :=
    Decoder.choice_str (by cases s.state <;> rfl)
  have hstate : r.withDefault "state" .notReady SessionState.decode = .ok s.state :=
    Record.withDefault_ofObject (get?_encode (by simp [fields])) hvariant
  have hurl : r.withDefault "url" "" Decoder.text = .ok s.url :=
    Record.withDefault_ofObject (get?_encode (by simp [fields])) (Decoder.text_str s.url)
  have hcounts : r.withDefault "containerCounts" .zero ContainerCounts.decode = .ok s.containerCounts :=
    Record.withDefault_ofObject (get?_encode (by simp [fields])) (ContainerCounts.decode_encode hs.main)
  have hinit : r.withDefault "initContainerCounts" .zero ContainerCounts.decode = .ok s.initContainerCounts :=
    Record.withDefault_ofObject (get?_encode (by simp [fields])) (ContainerCounts.decode_encode hs.init)
  have hidle : r.withDefault "idle" false Decoder.flag = .ok s.idle :=
    Record.withDefault_ofObject (get?_encode (by simp [fields])) (Decoder.flag_bool s.idle)
  have hidleSince : r.optional "idleSince" Decoder.text = .ok s.idleSince :=
    Record.optional_text (.inr (get?_encode (by simp [fields])))
  have hfailing : r.optional "failingSince" Decoder.text = .ok s.failingSince :=
    Record.optional_text (.inr (get?_encode (by simp [fields])))
  have hhibernated : r.optional "hibernatedSince" Decoder.text = .ok s.hibernatedSince :=
    Record.optional_text (.inr (get?_encode (by simp [fields])))
  have hwill : r.optional "willHibernateAt" Decoder.text = .ok s.willHibernateAt :=
    Record.optional_text (.inr (get?_encode (by simp [fields])))
  have herror : r.optional "error" Decoder.text = .ok s.error :=
    Record.optional_text (.inr (get?_encode (by simp [fields])))
  simp only [decode, hread, Fallible.ok_bind, hconditions, hstate, hurl, hcounts, hinit, hidle, hidleSince, hfailing,
    hhibernated, hwill, herror]

theorem encode_ne_null (s : SessionStatus) : s.encode ≠ .null := by
  simp [encode, Json.object]

end SessionStatus

/-! ### Sessions -/

namespace Session

variable {s : Session}

/-- What the document of a session holds. -/
@[irreducible]
def fields (s : Session) : List (String × Option Json) := [
  ("apiVersion", some (.str apiVersion)), ("kind", some (.str kind)),
  ("metadata", some (Kubernetes.objectMeta.encode s.metadata)), ("spec", some s.spec.encode),
  ("status", s.status.map SessionStatus.encode)]

theorem encode_eq (s : Session) : s.encode = .objectOfSome s.fields := by
  rw [encode, fields]

theorem get?_encode {o : Option Json} (hmem : (key, o) ∈ s.fields) : s.encode.get? key = o := by
  rw [encode_eq]
  exact Json.get?_objectOfSome_of_mem (by simp [fields]) hmem

/-- The metadata are read without the digits that documents do not carry. -/
theorem decode_encode (hs : s.IsTyped) (huntimed : s.spec.Untimed) :
    ∃ metadata, decode s.encode = .ok { s with metadata } ∧
      Kubernetes.objectMeta.encode metadata = Kubernetes.objectMeta.encode s.metadata := by
  obtain ⟨j, hj⟩ := hs.metadata
  obtain ⟨metadata, hmetadata, hwritten⟩ := Schema.isDocument_encode _ Kubernetes.objectMeta_isOrdered j _ hj
  refine ⟨metadata, ?_, hwritten⟩
  have hread : Record.ofForm form s.encode = .ok (.ofObject s.encode) := Record.ofForm_object ..
  set r := Record.ofObject s.encode
  have hmetadata : r.required "metadata" Kubernetes.objectMeta.decode = .ok metadata :=
    Record.required_ofObject (get?_encode (by simp [fields])) hmetadata
  have hspec : r.required "spec" SessionSpec.decode = .ok s.spec :=
    Record.required_ofObject (get?_encode (by simp [fields])) (SessionSpec.decode_encode hs.spec huntimed)
  have hstatus : r.optional "status" SessionStatus.decode = .ok s.status :=
    Record.optional_ofObject (.inl (get?_encode (by simp [fields]))) fun status hstatus =>
      ⟨SessionStatus.decode_encode (hs.status status hstatus), status.encode_ne_null⟩
  have hlisted : r.listedOptional "status" SessionStatus.decode = .ok s.status := hstatus
  simp only [decode, hread, Fallible.ok_bind, hmetadata, hspec, hlisted]

end Session

end SessionOperator
