import SessionOperator.Proofs.Session.Total
import SessionOperator.Proofs.Text.Trim

/-!
# Addresses

The public address of a session and its ingress are made of the same host, path and secret.  They agree, except that an
empty host is left out of the rule and of the address but not of the hosts for which there is a certificate.  The path
follows on the host as it was written, so that it is part of the host unless it begins with a slash.

* `Url.authority`, `Url.authority_eq_iff`: where the host of an address ends;
* `Kubernetes.ruleHosts`, `Kubernetes.rulePaths`, `Kubernetes.tlsHosts`: what an ingress says;
* `Manifest.ruleHosts_of_decode`, `Manifest.rulePaths_of_decode`, `Manifest.tls_of_decode`: so do generated ones;
* `Session.url_of_host`, `Session.url_agrees`: the address by its parts, and next to the ingress.
-/

namespace SessionOperator

/-! ### Parts of addresses -/

namespace Url

variable {scheme host path : String}

/-- At such a character the authority of an address is over. -/
def isEnd (c : Char) : Bool := c = '/' || c = '?' || c = '#'

/-- What stands behind the two slashes, up to the path. -/
def authority (url : String) : String :=
  .ofList (((url.toList.dropWhile fun c => c ≠ '/').drop 2).takeWhile fun c => !isEnd c)

theorem forall_isEnd_eq_false_iff {cs : List Char} :
    (∀ c ∈ cs, isEnd c = false) ↔ '/' ∉ cs ∧ '?' ∉ cs ∧ '#' ∉ cs := by
  simp only [isEnd, Bool.or_eq_false_iff, decide_eq_false_iff_not]
  grind

theorem authority_append (hscheme : '/' ∉ scheme.toList) : (authority (scheme ++ "://" ++ host ++ path)).toList =
    (host.toList ++ path.toList).takeWhile fun c => !isEnd c := by
  have hlist : (scheme ++ "://" ++ host ++ path).toList =
      (scheme.toList ++ [':']) ++ '/' :: '/' :: (host.toList ++ path.toList) := by simp
  have hbefore : ∀ c ∈ scheme.toList ++ [':'], decide (c ≠ '/') = true := by
    intro c hc
    rw [decide_eq_true_eq]
    rintro rfl
    rcases List.mem_append.1 hc with hc | hc
    · exact hscheme hc
    · exact absurd (List.mem_singleton.1 hc) (by decide)
  rw [authority, String.toList_ofList, hlist, List.dropWhile_append_of_pos hbefore]
  rfl

/-- The authority is the host alone if nothing in the host ends it and the path does so at once. -/
theorem authority_eq_iff (hscheme : '/' ∉ scheme.toList) : authority (scheme ++ "://" ++ host ++ path) = host ↔
    (∀ c ∈ host.toList, isEnd c = false) ∧ ∀ c ∈ path.toList.head?, isEnd c = true := by
  rw [← String.toList_inj, authority_append hscheme, Text.takeWhile_append_eq_left_iff]
  simp only [Bool.not_eq_true', Bool.not_eq_false']

end Url

namespace Session

variable {s : Session} {declared : SessionIngress}

/-- The trimmed path with a slash behind it, unless it has one. -/
theorem pathPrefix_cases (s : Session) : s.pathPrefix.toList = (Text.trim s.spec.session.urlPath).toList ++ ['/'] ∨
    s.pathPrefix.toList = (Text.trim s.spec.session.urlPath).toList ∧ s.pathPrefix.toList.getLast? = some '/' := by
  by_cases hlast : (Text.trim s.spec.session.urlPath).toList.getLast? = some '/'
  · have hpath : s.pathPrefix = Text.trim s.spec.session.urlPath := if_pos hlast
    exact .inr ⟨by rw [hpath], by rw [hpath, hlast]⟩
  · have hpath : s.pathPrefix = Text.trim s.spec.session.urlPath ++ "/" := if_neg hlast
    exact .inl (by rw [hpath, String.toList_append]; rfl)

theorem getLast?_pathPrefix (s : Session) : s.pathPrefix.toList.getLast? = some '/' := by
  rcases pathPrefix_cases s with hpath | ⟨-, hlast⟩
  · rw [hpath, List.getLast?_concat]
  · exact hlast

/-- The path begins as it is written, and with the slash of its end if it is not. -/
theorem head?_pathPrefix (s : Session) :
    s.pathPrefix.toList.head? = some ((Text.trim s.spec.session.urlPath).toList.head?.getD '/') := by
  rcases pathPrefix_cases s with hpath | ⟨hpath, hlast⟩
  · rw [hpath]
    cases (Text.trim s.spec.session.urlPath).toList with
    | nil => rfl
    | cons c rest => rfl
  · rw [hpath] at hlast ⊢
    cases hchars : (Text.trim s.spec.session.urlPath).toList with
    | nil =>
      rw [hchars] at hlast
      cases hlast
    | cons c rest => rfl

/-- What holds of a slash holds of the beginning of the path if it holds of what is written there. -/
theorem forall_head?_pathPrefix {p : Char → Prop} (hslash : p '/') :
    (∀ c ∈ s.pathPrefix.toList.head?, p c) ↔ ∀ c ∈ (Text.trim s.spec.session.urlPath).toList.head?, p c := by
  rw [head?_pathPrefix]
  cases (Text.trim s.spec.session.urlPath).toList.head? with
  | none => simpa using hslash
  | some c => simp

theorem host?_eq (hdeclared : s.spec.ingress = some declared) : s.host? = declared.host.filter fun h => h ≠ "" := by
  rw [host?, hdeclared, Option.bind_some]

theorem host?_of_ne_empty {host : String} (hdeclared : s.spec.ingress = some declared)
    (hhost : declared.host = some host) (hne : host ≠ "") : s.host? = some host := by
  rw [host?_eq hdeclared, hhost]
  exact Option.filter_eq_some_iff.2 ⟨rfl, decide_eq_true hne⟩

theorem toList_host?_eq_iff (hdeclared : s.spec.ingress = some declared) :
    declared.host.toList = s.host?.toList ↔ declared.host ≠ some "" := by
  cases hhost : declared.host with
  | none =>
    rw [host?_eq hdeclared, hhost]
    exact iff_of_true rfl nofun
  | some host =>
    by_cases hempty : host = ""
    · rw [host?_eq hdeclared, hhost, hempty]
      exact iff_of_false (List.cons_ne_nil "" []) fun hne => hne rfl
    · rw [host?_of_ne_empty hdeclared hhost hempty]
      exact iff_of_true rfl fun heq => hempty (Option.some.inj heq)

theorem slash_not_mem_urlScheme (s : Session) : '/' ∉ s.urlScheme.toList := by
  unfold urlScheme
  split <;> decide

theorem authority_url_iff {host : String} : Url.authority (s.urlScheme ++ "://" ++ host ++ s.pathPrefix) = host ↔
    (∀ c ∈ host.toList, Url.isEnd c = false) ∧
      ∀ c ∈ (Text.trim s.spec.session.urlPath).toList.head?, Url.isEnd c = true := by
  rw [Url.authority_eq_iff (slash_not_mem_urlScheme s), forall_head?_pathPrefix (p := fun c => Url.isEnd c = true) rfl]

end Session

/-! ### Parts of ingresses -/

namespace Kubernetes

/-- The hosts of the rules that have one. -/
def ruleHosts (ingress : Json) : List String := (ingress.listAt ["spec", "rules"]).filterMap (·.text? "host")

def rulePaths (ingress : Json) : List String :=
  (ingress.listAt ["spec", "rules"]).flatMap fun rule => (rule.listAt ["http", "paths"]).filterMap (·.text? "path")

def tlsSections (ingress : Json) : List Json := ingress.listAt ["spec", "tls"]

def tlsHosts (ingress : Json) : List String :=
  (tlsSections ingress).flatMap fun tls => (tls.listAt ["hosts"]).filterMap Json.str?

open Schema (HasPath)

theorem hasField_host : ingressRule.HasField "host" false .text := .of_getElem? 0 rfl

theorem hasField_path : httpIngressPath.HasField "path" false .text := .of_getElem? 1 rfl

theorem hasPath_tls : ingress.HasPath ["spec", "tls"] (.list ingressTLS) :=
  .cons (ChildKind.hasField_spec .ingress) (.cons hasField_tls .nil)

theorem hasPath_hosts : ingressTLS.HasPath ["hosts"] Schema.texts := .cons (.of_getElem? 0 rfl) .nil

theorem ingressTLS_isOrdered : ingressTLS.isOrdered = true :=
  hasPath_tls.isOrdered_item (ChildKind.schema_isOrdered .ingress)

end Kubernetes

namespace Manifest

variable {s : Session} {declared : SessionIngress} {d : Child}

/-- A rule without a host is one for all hosts. -/
theorem ruleHosts_of_decode (h : Child.decode .ingress (ingressDocument s declared) = .ok d) :
    Kubernetes.ruleHosts d.body = s.host?.toList := by
  obtain ⟨rule, -, hrules, -, hrule, -⟩ := ChildSet.rules_of_decode (Child.decode_eq_ok.1 h).2
  have hhost : (ingressRule s).get? "host" = s.host?.map .str := Json.get?_objectOfSome_of_mem (by simp) (by simp)
  have htext : rule.text? "host" = s.host? := by
    cases hs : s.host? with
    | none =>
      rw [hs] at hhost
      rw [Json.text?, Kubernetes.hasField_host.get?_eq_none Kubernetes.ingressRule_isOrdered hrule hhost]
      rfl
    | some host =>
      rw [hs] at hhost
      have htext : (ingressRule s).text? "host" = some host := by
        rw [Json.text?, hhost]
        rfl
      exact Kubernetes.hasField_host.text?_of_decode Kubernetes.ingressRule_isOrdered hrule htext
  rw [Kubernetes.ruleHosts, hrules, List.filterMap_cons, htext]
  cases s.host? <;> rfl

theorem rulePaths_of_decode (h : Child.decode .ingress (ingressDocument s declared) = .ok d) :
    Kubernetes.rulePaths d.body = [s.pathPrefix] := by
  obtain ⟨rule, path, hrules, hpaths, -, hpath⟩ := ChildSet.rules_of_decode (Child.decode_eq_ok.1 h).2
  have hwritten : (ingressPath s).text? "path" = some s.pathPrefix := by
    simp [ingressPath, Json.text?, Json.get?_object, Dict.get?, Json.str?]
  have htext := Kubernetes.hasField_path.text?_of_decode Kubernetes.httpIngressPath_isOrdered hpath hwritten
  simp [Kubernetes.rulePaths, hrules, hpaths, htext]

/-- The document of the hosts with the certificate of a secret. -/
def tlsDocument (declared : SessionIngress) (secret : String) : Json :=
  .object [("hosts", encodeTexts declared.host.toList), ("secretName", .str secret)]

theorem get?_tls (s : Session) (declared : SessionIngress) :
    ∃ spec, (ingressDocument s declared).get? "spec" = some spec ∧ spec ≠ .null ∧
      spec.get? "tls" = s.tlsSecret?.map fun secret => .arr [tlsDocument declared secret] :=
  ⟨_, ChildSet.get?_spec .., nofun, Json.get?_objectOfSome_of_mem (by simp) (by simp [tlsDocument])⟩

theorem listAt_hosts_of_decode {secret : String} {tls : Json}
    (h : Kubernetes.ingressTLS.decode (tlsDocument declared secret) = .ok tls) :
    (tls.listAt ["hosts"]).filterMap Json.str? = declared.host.toList := by
  have hwritten : (tlsDocument declared secret).path? ["hosts"] = some (encodeTexts declared.host.toList) := by
    simp [tlsDocument, Json.path?, Json.get?_object, Dict.get?]
  obtain ⟨hosts, hdecode, hpath⟩ :=
    Kubernetes.hasPath_hosts.decode_of_path? Kubernetes.ingressTLS_isOrdered h hwritten (by simp [encodeTexts])
  rw [Schema.decode_texts] at hdecode
  obtain rfl := Except.ok.inj hdecode
  rw [Json.listAt_of_path? hpath]
  cases declared.host <;> rfl

/-- There is a certificate for the declared host if a secret is named. -/
theorem tls_of_decode (h : Child.decode .ingress (ingressDocument s declared) = .ok d) :
    (Kubernetes.tlsSections d.body = [] ↔ s.tlsSecret? = none) ∧
      (Kubernetes.tlsSections d.body ≠ [] → Kubernetes.tlsHosts d.body = declared.host.toList) := by
  obtain ⟨document, hdocument, hne, htls⟩ := get?_tls s declared
  cases hs : s.tlsSecret? with
  | none =>
    rw [hs, Option.map_none] at htls
    obtain ⟨spec, hspec, hread⟩ := Child.spec_of_decode h hdocument hne
    have hnone := Kubernetes.hasField_tls.get?_eq_none (ChildKind.specSchema_isOrdered .ingress) hread htls
    have hsections : Kubernetes.tlsSections d.body = [] := by
      rw [Kubernetes.tlsSections, Json.listAt, Json.path?_cons_of_get? hspec, Json.path?_singleton, hnone]
      rfl
    exact ⟨iff_of_true hsections rfl, fun hsome => absurd hsections hsome⟩
  | some secret =>
    have hpath : (ingressDocument s declared).path? ["spec", "tls"] = some (.arr [tlsDocument declared secret]) := by
      rw [Json.path?_cons_of_get? hdocument, Json.path?_singleton, htls, hs, Option.map_some]
    obtain ⟨tls, hsections, hread⟩ := Kubernetes.hasPath_tls.exists_listAt_singleton
      (ChildKind.schema_isOrdered .ingress) (Child.decode_eq_ok.1 h).2 hpath
    rw [Kubernetes.tlsHosts, Kubernetes.tlsSections, hsections, List.flatMap_singleton]
    exact ⟨iff_of_false (List.cons_ne_nil tls []) (Option.some_ne_none secret), fun _ => listAt_hosts_of_decode hread⟩

theorem exists_ingress (s : Session) (hdeclared : s.spec.ingress = some declared) :
    ∃ d, ingress s = .ok (some d) ∧ Child.decode .ingress (ingressDocument s declared) = .ok d := by
  obtain ⟨d, hd⟩ := Child.exists_decode .ingress (accepts_ingress s declared)
  refine ⟨d, ?_, hd⟩
  rw [ingress, hdeclared]
  simp only [hd]
  rfl

end Manifest

/-! ### The address of a session -/

namespace Session

variable {s : Session} {declared : SessionIngress}

/-- A session with an ingress for a host, with the certificate of a secret. -/
def addressed (host urlPath secret : String) : Session where
  metadata := Session.plainMetadata "2024-01-01T00:00:00Z"
  spec := { SessionSpec.plain false .default with
    session := { (SessionSpec.plain false .default).session with urlPath }
    ingress := some ⟨some host, none, [], some ⟨secret, none, false⟩⟩ }
  status := none

/-- The address is made of the declared host and the path of the rule.  The path begins with a slash unless something
else is written there.  The host is over where the path begins exactly if what is written begins with the end of a
host. -/
theorem url_of_host {host : String} (hdeclared : s.spec.ingress = some declared) (hhost : declared.host = some host)
    (hne : host ≠ "") (hslash : '/' ∉ host.toList) :
    ∃ ingress path url, Manifest.ingress s = .ok (some ingress) ∧ Kubernetes.rulePaths ingress.body = [path] ∧
      s.url? = some url ∧ (url = "http://" ++ host ++ path ∨ url = "https://" ++ host ++ path) ∧
      path.toList.getLast? = some '/' ∧
      (path.toList.head? = some '/' ↔ ∀ c ∈ (Text.trim s.spec.session.urlPath).toList.head?, c = '/') ∧
      (Url.authority url = host ↔ '?' ∉ host.toList ∧ '#' ∉ host.toList ∧
        ∀ c ∈ (Text.trim s.spec.session.urlPath).toList.head?, Url.isEnd c = true) := by
  obtain ⟨ingress, hingress, hdecode⟩ := Manifest.exists_ingress s hdeclared
  have hpaths := Manifest.rulePaths_of_decode hdecode
  have hhost? := host?_of_ne_empty hdeclared hhost hne
  have hurl : s.url? = some (s.urlScheme ++ "://" ++ host ++ s.pathPrefix) := by rw [url?, hhost?, Option.map_some]
  have hscheme : s.urlScheme ++ "://" = "http://" ∨ s.urlScheme ++ "://" = "https://" := by
    unfold urlScheme
    split
    · exact .inr rfl
    · exact .inl rfl
  have hbegins : s.pathPrefix.toList.head? = some '/' ↔ ∀ c ∈ s.pathPrefix.toList.head?, c = '/' := by
    rw [head?_pathPrefix]
    simp
  have hends : (∀ c ∈ host.toList, Url.isEnd c = false) ↔ '?' ∉ host.toList ∧ '#' ∉ host.toList := by
    rw [Url.forall_isEnd_eq_false_iff, and_iff_right hslash]
  refine ⟨ingress, s.pathPrefix, _, hingress, hpaths, hurl, ?_, getLast?_pathPrefix s, ?_, ?_⟩
  · exact hscheme.imp (fun h => by rw [h]) fun h => by rw [h]
  · rw [hbegins, forall_head?_pathPrefix (p := (· = '/')) rfl]
  · rw [authority_url_iff, hends, and_assoc]

/-- With white space around a path that begins with a slash, nothing becomes part of the host. -/
theorem url_of_host_slash :
    let s := addressed "sessions.test" " /lab" "tls"
    ∃ ingress path url, Manifest.ingress s = .ok (some ingress) ∧ Kubernetes.rulePaths ingress.body = [path] ∧
      s.url? = some url ∧ (url = "http://" ++ "sessions.test" ++ path ∨ url = "https://" ++ "sessions.test" ++ path) ∧
      path.toList.head? = some '/' ∧ path.toList.getLast? = some '/' ∧ Url.authority url = "sessions.test" := by
  intro s
  have hdeclared : s.spec.ingress = some ⟨some "sessions.test", none, [], some ⟨"tls", none, false⟩⟩ := rfl
  obtain ⟨ingress, path, url, hingress, hpaths, hurl, hparts, hlast, hbegins, hauthority⟩ :=
    url_of_host hdeclared rfl (by decide) (by decide)
  have hwritten : (Text.trim " /lab").toList = "/lab".toList := by
    simp [Text.trim, Text.trimStart, Text.dropEndWhile, Text.isBlank]
  have hhead : (Text.trim s.spec.session.urlPath).toList.head? = some '/' := by
    simp [s, addressed, hwritten]
  have hslash : ∀ c ∈ (Text.trim s.spec.session.urlPath).toList.head?, c = '/' := by
    rw [hhead]
    exact fun c hc => (Option.some.inj hc).symm
  refine ⟨ingress, path, url, hingress, hpaths, hurl, hparts, hbegins.2 hslash, hlast, ?_⟩
  refine hauthority.2 ⟨by decide, by decide, fun c hc => ?_⟩
  rw [hslash c hc]
  rfl

/-- A path that does not begin with a slash is part of the host in the address, and of no host in the ingress. -/
theorem path_joins_host :
    let s := addressed "sessions.test" "lab" ""
    ∃ ingress, Manifest.ingress s = .ok (some ingress) ∧ Kubernetes.ruleHosts ingress.body = ["sessions.test"] ∧
      Kubernetes.rulePaths ingress.body = ["lab/"] ∧ s.url? = some "http://sessions.testlab/" ∧
      Url.authority "http://sessions.testlab/" = "sessions.testlab" := by
  intro s
  obtain ⟨ingress, hingress, hdecode⟩ := Manifest.exists_ingress s rfl
  have hwritten : Text.trim "lab" = "lab" := Text.trim_eq_self (by simp [Text.isBlank])
  have hhost : s.host? = some "sessions.test" := host?_of_ne_empty rfl rfl (by decide)
  have hpath : s.pathPrefix = "lab/" := by simp [s, addressed, pathPrefix, hwritten]
  have hscheme : s.urlScheme = "http" := by simp [s, addressed, urlScheme, tlsSecret?]
  refine ⟨ingress, hingress, ?_, ?_, ?_, ?_⟩
  · rw [Manifest.ruleHosts_of_decode hdecode, hhost, Option.toList_some]
  · rw [Manifest.rulePaths_of_decode hdecode, hpath]
  · simp [url?, hhost, hpath, hscheme]
  · simp [Url.authority, Url.isEnd]

/-- The address and the ingress are about the same host, with and without a certificate.  The certificate is for the
host of the rule unless the declared host is empty. -/
theorem url_agrees (hdeclared : s.spec.ingress = some declared) :
    ∃ ingress, Manifest.ingress s = .ok (some ingress) ∧
      (s.url?.isSome = true ↔ Kubernetes.ruleHosts ingress.body ≠ []) ∧
      (∀ url, s.url? = some url → ∃ scheme host, Kubernetes.ruleHosts ingress.body = [host] ∧
        url = scheme ++ "://" ++ host ++ s.pathPrefix ∧
        scheme = (if Kubernetes.tlsSections ingress.body = [] then "http" else "https") ∧
        (Url.authority url = host ↔ (∀ c ∈ host.toList, Url.isEnd c = false) ∧
          ∀ c ∈ (Text.trim s.spec.session.urlPath).toList.head?, Url.isEnd c = true)) ∧
      (Kubernetes.tlsSections ingress.body ≠ [] →
        (Kubernetes.tlsHosts ingress.body = Kubernetes.ruleHosts ingress.body ↔ declared.host ≠ some "")) := by
  obtain ⟨ingress, hingress, hdecode⟩ := Manifest.exists_ingress s hdeclared
  have hrules := Manifest.ruleHosts_of_decode hdecode
  obtain ⟨hsections, htls⟩ := Manifest.tls_of_decode hdecode
  refine ⟨ingress, hingress, ?_, fun url hurl => ?_, fun hne => ?_⟩
  · rw [hrules, url?, Option.isSome_map, ne_eq, Option.toList_eq_nil_iff, Option.isSome_iff_ne_none]
  · obtain ⟨host, hhost, rfl⟩ := Option.map_eq_some_iff.1 hurl
    refine ⟨s.urlScheme, host, by rw [hrules, hhost, Option.toList_some], rfl, ?_, authority_url_iff⟩
    rw [urlScheme, if_congr hsections rfl rfl]
    cases s.tlsSecret? <;> rfl
  · rw [htls hne, hrules, toList_host?_eq_iff hdeclared]

/-- Here the address, the rule and the certificate are all for one host. -/
theorem url_agrees_secure :
    let s := addressed "sessions.test" "/lab" "tls"
    ∃ ingress host, Manifest.ingress s = .ok (some ingress) ∧ s.url? = some ("https" ++ "://" ++ host ++ "/lab/") ∧
      Kubernetes.ruleHosts ingress.body = [host] ∧ Kubernetes.tlsHosts ingress.body = [host] := by
  intro s
  obtain ⟨ingress, hingress, hdecode⟩ := Manifest.exists_ingress s rfl
  have hsecret : s.tlsSecret? ≠ none := by simp [s, addressed, tlsSecret?]
  have hsecure : Kubernetes.tlsSections ingress.body ≠ [] := fun hnone =>
    hsecret ((Manifest.tls_of_decode hdecode).1.1 hnone)
  have hwritten : Text.trim "/lab" = "/lab" := Text.trim_eq_self (by simp [Text.isBlank])
  have hpath : s.pathPrefix = "/lab/" := by simp [s, addressed, pathPrefix, hwritten]
  obtain ⟨other, hother, -, hurl, htls⟩ := url_agrees (s := s) rfl
  obtain rfl : ingress = other := Option.some.inj (Except.ok.inj (hingress.symm.trans hother))
  obtain ⟨url, hurl?⟩ : ∃ url, s.url? = some url :=
    Option.isSome_iff_exists.1 (by simp [s, addressed, url?, host?])
  obtain ⟨scheme, host, hrules, hparts, hscheme, -⟩ := hurl url hurl?
  rw [if_neg hsecure] at hscheme
  refine ⟨ingress, host, hingress, ?_, hrules, ?_⟩
  · rw [hurl?, hparts, hscheme, hpath]
  · rw [(htls hsecure).2 (by decide), hrules]

/-- There may be a certificate for the empty host while the rule is for all hosts and there is no address. -/
theorem certificate_without_host :
    let s := addressed "" "/lab" "tls"
    ∃ ingress, Manifest.ingress s = .ok (some ingress) ∧ s.url? = none ∧ Kubernetes.ruleHosts ingress.body = [] ∧
      Kubernetes.tlsSections ingress.body ≠ [] ∧ Kubernetes.tlsHosts ingress.body = [""] := by
  intro s
  obtain ⟨ingress, hingress, hdecode⟩ := Manifest.exists_ingress s rfl
  obtain ⟨hsections, htls⟩ := Manifest.tls_of_decode hdecode
  have hsecret : s.tlsSecret? ≠ none := by simp [s, addressed, tlsSecret?]
  have hsecure : Kubernetes.tlsSections ingress.body ≠ [] := fun hnone => hsecret (hsections.1 hnone)
  have hhost : s.host? = none := rfl
  refine ⟨ingress, hingress, ?_, ?_, hsecure, htls hsecure⟩
  · rw [url?, hhost, Option.map_none]
  · rw [Manifest.ruleHosts_of_decode hdecode, hhost, Option.toList_none]

end Session

end SessionOperator
