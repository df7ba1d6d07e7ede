import Mathlib.Data.List.Sigma
import SessionOperator.Proofs.Children.Errand
import SessionOperator.Proofs.Session.Coherence
import SessionOperator.Proofs.Session.Naming

/-!
# Children that stand in places of their own

An errand looks at one place in the cluster and writes there at most.  So errands for children with places of their own
come to the same in whatever order their calls are made, but for the numbers of the versions that are stored.

* `Child.Apart`, `ChildSet.apart`: the children of a session have places of their own if no name is cut;
* `Cluster.Numbered`: every version in the cluster was given out;
* `Child.goOn_cases`: what was found decides what an errand leaves behind;
* `Child.Stage`: how far an errand has come; the steps of other errands leave it there;
* `independent`: every errand comes to what it would come to alone;
* `ChildSet.order_independent`: the children of a session, in any order and one after the other.
-/

namespace SessionOperator

open Program

/-! ### Versions -/

namespace Child

/-- The child under a version that is never given out. -/
def unversioned (c : Child) : Child := Cluster.versioned c 0

@[simp]
theorem unversioned_versioned (c : Child) (version : Nat) :
    (Cluster.versioned c version).unversioned = c.unversioned := by
  have hset : ∀ (j : Json) (key : String) (v w : Json), (j.set key v).set key w = j.set key w := fun j key v w =>
    congrArg Json.obj (Dict.insert_insert j.entries key w v)
  simp only [unversioned, Cluster.versioned, setMetadata]
  rw [hset, ← setMetadata, metadata_setMetadata, hset]

theorem resourceVersion?_versioned (c : Child) (version : Nat) :
    (Cluster.versioned c version).resourceVersion? = some (toString version) := by
  rw [resourceVersion?, Cluster.versioned, metadata_setMetadata, Json.text?, Json.get?_set, if_pos rfl]
  rfl

end Child

/-- The outcome but for the version of the object. -/
def ChildUpdate.unversioned (u : ChildUpdate) : ChildUpdate := { u with manifest := u.manifest.map Child.unversioned }

namespace Cluster

/-- No child bears a version that is still to be given out. -/
def Numbered (c : Cluster) : Prop := ∀ kind name child version,
  c.children.find? kind name = some child → c.version < version → child.resourceVersion? ≠ some (toString version)

variable {c : Cluster} {kind : ChildKind} {name : String} {l child : Child}

theorem Numbered.resourceVersion?_ne (hc : c.Numbered) (hlive : c.children.find? kind name = some l) (child : Child) :
    (versioned child (c.version + 1)).resourceVersion? ≠ l.resourceVersion? := by
  rw [Child.resourceVersion?_versioned]
  exact (hc kind name l _ hlive (Nat.lt_succ_self _)).symm

theorem Numbered.putChild (hc : c.Numbered) (name : String) (child : Child) : (c.putChild name child).2.Numbered := by
  intro kind n stored version h hversion
  rw [find?_putChild] at h
  split at h
  · cases h
    rw [Child.resourceVersion?_versioned]
    exact fun heq => absurd (Naming.toString_injective (Option.some.inj heq)) (Nat.ne_of_lt hversion)
  · exact hc kind n stored version h (Nat.lt_of_succ_lt hversion)

end Cluster

/-! ### One errand -/

namespace Child

variable {owner : Json} {scope : MergeScope} {d d' : Child} {c c' c₀ : Cluster} {u u' : ChildUpdate}

/-- The two children do not stand in the same place; claims of all kinds are objects of one kind to the cluster. -/
def Apart (d d' : Child) : Prop := Http.resourceOf d.kind = Http.resourceOf d'.kind → d.name ≠ d'.name

theorem Apart.symm (h : Apart d d') : Apart d' d := fun hkind => (h hkind.symm).symm

/-- What was found decides whether the cluster is left as it is or which child is stored under the name. -/
theorem goOn_cases (d : Child) (owner : Json) (scope : MergeScope) (found : Option Child) :
    (∃ u, ∀ c : Cluster, c.Numbered → c.found d = found → (goOn d owner scope found).run Cluster.answer c = (u, c)) ∨
      ∃ child operation, child.kind = d.kind ∧ ∀ c : Cluster, c.Numbered → c.found d = found →
        (goOn d owner scope found).run Cluster.answer c =
          (.done d (Cluster.versioned child (c.version + 1)) operation, (c.putChild d.name child).2) := by
  rcases found with _ | live
  · refine .inr ⟨d.owned owner, .created, rfl, fun c _ _ => ?_⟩
    rw [← name_owned d owner]
    rfl
  simp only [goOn, updateLive]
  cases hmerge : live.mergeFrom d scope with
  | error mismatch => exact .inl ⟨_, fun c _ _ => rfl⟩
  | ok merged =>
    by_cases hsame : merged = live
    · simp only [if_pos hsame]
      exact .inl ⟨_, fun c _ _ => rfl⟩
    simp only [if_neg hsame]
    have hasks : ∀ {c : Cluster} {answer c'}, c.patchChild d.kind d.name (d.patch scope) = (answer, c') →
        (request (.patchChild d.kind d.name (d.patch scope))).run Cluster.answer c = (answer, c') := fun h => h
    -- the patch fails, does nothing, or stores a child
    cases hpatch : Cluster.patched live (d.patch scope) with
    | error e =>
      refine .inl ⟨.failed d (ApiError.unreadable (.ofDecodeError e)).message, fun c _ hlive => ?_⟩
      rw [bind_eq, run_bind, hasks (Cluster.patchChild_of_error hlive hpatch)]
      rfl
    | ok child =>
      by_cases hchild : child = live
      · subst hchild
        refine .inl ⟨.done d child (operationAfter child child), fun c _ hlive => ?_⟩
        rw [bind_eq, run_bind, hasks (Cluster.patchChild_of_same hlive hpatch)]
        rfl
      · refine .inr ⟨child, .updated, (patched_eq_ok.1 hpatch).1.trans (kind_of_mergeFrom hmerge), fun c hc hlive => ?_⟩
        have hupdated : operationAfter live (Cluster.versioned child (c.version + 1)) = .updated :=
          if_neg (hc.resourceVersion?_ne hlive child)
        rw [bind_eq, run_bind, hasks (Cluster.patchChild_of_ne hlive hpatch hchild), ← hupdated]
        rfl

/-- Two outcomes of an errand, each with the cluster that is left, are the same but for the numbers of the versions that
were stored; both or neither have stored something in the place of the child that stood there before. -/
structure Matches (d : Child) (before : Option Child) (r r' : ChildUpdate × Cluster) : Prop where
  update : r.1.unversioned = r'.1.unversioned
  stored : (r.2.found d).map unversioned = (r'.2.found d).map unversioned
  kept : r.2.found d = before ↔ r'.2.found d = before

theorem found_putChild {child : Child} (hkind : child.kind = d.kind) (c : Cluster) :
    (c.putChild d.name child).2.found d = some (Cluster.versioned child (c.version + 1)) :=
  (Cluster.find?_putChild c d.name d.name child d.kind).trans (if_pos ⟨hkind.symm, rfl⟩)

/-- Where the same was found, the same comes of it. -/
theorem goOn_matches {found : Option Child} (hc : c.Numbered) (hc' : c'.Numbered) (h : c.found d = found)
    (h' : c'.found d = found) :
    Matches d found ((goOn d owner scope found).run Cluster.answer c)
      ((goOn d owner scope found).run Cluster.answer c') := by
  rcases goOn_cases d owner scope found with ⟨u, hrun⟩ | ⟨child, operation, hkind, hrun⟩
  · rw [hrun c hc h, hrun c' hc' h']
    exact ⟨rfl, by rw [h, h'], by rw [h, h']⟩
  · have hnew : ∀ c : Cluster, c.Numbered → c.found d = found → (c.putChild d.name child).2.found d ≠ found := by
      intro c hc h heq
      rw [← h, found_putChild hkind] at heq
      exact hc.resourceVersion?_ne heq.symm child rfl
    rw [hrun c hc h, hrun c' hc' h']
    refine ⟨?_, ?_, iff_of_false (hnew c hc h) (hnew c' hc' h')⟩
    · simp [ChildUpdate.unversioned, ChildUpdate.done]
    · simp [found_putChild hkind]

/-! ### Errands under way -/

/-- How far an errand has come that began with the cluster `c₀`.  Until it is over the child is the one that stood there
at first, and then it has come to what the errand alone would have come to. -/
inductive Stage (owner : Json) (scope : MergeScope) (c₀ : Cluster) (d : Child) : Controlled ChildUpdate → Cluster → Prop
  | ahead {c : Cluster} (h : c.found d = c₀.found d) : Stage owner scope c₀ d (d.reconcile owner scope) c
  | looked {c : Cluster} (h : c.found d = c₀.found d) : Stage owner scope c₀ d (goOn d owner scope (c₀.found d)) c
  | ended {c : Cluster} {u : ChildUpdate}
      (h : Matches d (c₀.found d) (u, c) ((d.reconcile owner scope).run Cluster.answer c₀)) :
      Stage owner scope c₀ d (.done u) c

namespace Stage

variable {p : Controlled ChildUpdate} {q : Request} {next : q.Answer → Controlled ChildUpdate}

/-- Only the place of the child matters to its errand. -/
theorem congr (h : Stage owner scope c₀ d p c) (hsame : c'.found d = c.found d) : Stage owner scope c₀ d p c' := by
  cases h with
  | ahead h => exact .ahead (hsame.trans h)
  | looked h => exact .looked (hsame.trans h)
  | ended h => exact .ended ⟨h.update, by rw [← h.stored, hsame], by rw [← h.kept, hsame]⟩

/-- A question of an errand changes the place of the child at most. -/
theorem answer_cases (h : Stage owner scope c₀ d (.ask q next) c) (hc : c.Numbered) :
    (Cluster.answer q c).2 = c ∨
      ∃ child : Child, child.kind = d.kind ∧ (Cluster.answer q c).2 = (c.putChild d.name child).2 := by
  generalize hp : (.ask q next : Controlled ChildUpdate) = p at h
  cases h with
  | ahead h =>
    obtain ⟨next', hask, -⟩ := reconcile_eq_ask d owner scope
    rw [hask] at hp
    cases hp
    exact .inl rfl
  | looked h =>
    obtain ⟨u, hu⟩ := goOn_ask hp.symm (Cluster.answer q c).1
    have hrun : (goOn d owner scope (c₀.found d)).run Cluster.answer c = (u, (Cluster.answer q c).2) := by
      rw [← hp, run_ask, hu, run_done]
    rcases goOn_cases d owner scope (c₀.found d) with ⟨u', hleft⟩ | ⟨child, operation, hkind, hstored⟩
    · exact .inl (congrArg Prod.snd (hrun.symm.trans (hleft c hc h)))
    · exact .inr ⟨child, hkind, congrArg Prod.snd (hrun.symm.trans (hstored c hc h))⟩
  | ended h => cases hp

theorem numbered (h : Stage owner scope c₀ d (.ask q next) c) (hc : c.Numbered) : (Cluster.answer q c).2.Numbered := by
  rcases h.answer_cases hc with heq | ⟨child, -, heq⟩
  · rwa [heq]
  · rw [heq]
    exact hc.putChild d.name child

theorem find?_eq (h : Stage owner scope c₀ d (.ask q next) c) (hc : c.Numbered) {kind : ChildKind} {name : String}
    (hne : kind = d.kind → name ≠ d.name) :
    (Cluster.answer q c).2.children.find? kind name = c.children.find? kind name := by
  rcases h.answer_cases hc with heq | ⟨child, hkind, heq⟩
  · rw [heq]
  · rw [heq, Cluster.find?_putChild, if_neg]
    rintro ⟨hk, hname⟩
    exact hne (hk.trans hkind) hname.symm

/-- An errand goes from stage to stage. -/
theorem step (h : Stage owner scope c₀ d (.ask q next) c) (hc : c.Numbered) (hc₀ : c₀.Numbered) :
    Stage owner scope c₀ d (next (Cluster.answer q c).1) (Cluster.answer q c).2 := by
  generalize hp : (.ask q next : Controlled ChildUpdate) = p at h
  cases h with
  | ahead h =>
    obtain ⟨next', hask, -, hnext⟩ := reconcile_eq_ask d owner scope
    rw [hask] at hp
    cases hp
    show Stage owner scope c₀ d (next' (.ok (c.found d))) c
    rw [hnext, h]
    exact .looked h
  | looked h =>
    obtain ⟨u, hu⟩ := goOn_ask hp.symm (Cluster.answer q c).1
    have hrun : (goOn d owner scope (c₀.found d)).run Cluster.answer c = (u, (Cluster.answer q c).2) := by
      rw [← hp, run_ask, hu, run_done]
    rw [hu]
    refine .ended ?_
    rw [reconcile_run, ← hrun]
    exact goOn_matches hc hc₀ h rfl
  | ended h => cases hp

theorem of_done {u : ChildUpdate} (h : Stage owner scope c₀ d (.done u) c) (hc : c.Numbered) (hc₀ : c₀.Numbered) :
    Matches d (c₀.found d) (u, c) ((d.reconcile owner scope).run Cluster.answer c₀) := by
  generalize hp : (.done u : Controlled ChildUpdate) = p at h
  cases h with
  | ahead h =>
    obtain ⟨next', hask, -⟩ := reconcile_eq_ask d owner scope
    rw [hask] at hp
    cases hp
  | looked h =>
    rw [reconcile_run]
    have hrun : (goOn d owner scope (c₀.found d)).run Cluster.answer c = (u, c) := by rw [← hp, run_done]
    exact hrun ▸ goOn_matches hc hc₀ h rfl
  | ended h =>
    cases hp
    exact h

end Stage

end Child

/-! ### All errands -/

section

variable {owner : Json} {scope : MergeScope} {ds : List Child} {c c' : Cluster} {us : List ChildUpdate}
  {calls : List clusterInterface.Call}

open Child

/-- Where none of the children stands, two clusters hold the same. -/
def Elsewhere (ds : List Child) (c c' : Cluster) : Prop := ∀ kind name, (∀ d ∈ ds, kind = d.kind → name ≠ d.name) →
  c'.children.find? kind name = c.children.find? kind name

/-- In whatever order the calls are made, each errand comes to what it would come to alone, and every other place stays
as it is. -/
theorem independent (hds : ds.Pairwise Apart) (hc : c.Numbered)
    (h : Interleaved (ds.map fun d => d.reconcile owner scope) calls us)
    (hanswered : Answered Cluster.answer calls c c') :
    List.Forall₂ (fun d u => Matches d (c.found d) (u, c') ((d.reconcile owner scope).run Cluster.answer c)) ds us ∧
      Elsewhere ds c c' := by
  have hbegin : List.Forall₂ (fun d p => Stage owner scope c d p c) ds (ds.map fun d => d.reconcile owner scope) :=
    List.forall₂_map_right_iff.2 (List.forall₂_same.2 fun d _ => .ahead rfl)
  suffices hend : (c'.Numbered ∧ Elsewhere ds c c') ∧
      List.Forall₂ (fun d u => Stage owner scope c d (.done u) c') ds us by
    obtain ⟨⟨hc', helsewhere⟩, hstages⟩ := hend
    exact ⟨hstages.imp fun d u hstage => hstage.of_done hc' hc, helsewhere⟩
  refine h.stages (answeredStep Cluster.answer) (fun c₁ => c₁.Numbered ∧ Elsewhere ds c c₁) (Stage owner scope c) Apart
    hanswered.along hds (fun _ _ => .symm) ?own ?other ⟨hc, fun _ _ _ => rfl⟩ hbegin
  case own =>
    rintro d hd q next answer c₁ t ⟨hc₁, helsewhere⟩ hstage ⟨hanswer, hstate⟩
    obtain rfl : answer = (Cluster.answer q c₁).1 := hanswer
    obtain rfl : t = (Cluster.answer q c₁).2 := hstate
    refine ⟨⟨hstage.numbered hc₁, fun kind name hne => ?_⟩, hstage.step hc₁ hc⟩
    exact (hstage.find?_eq hc₁ (hne d hd)).trans (helsewhere kind name hne)
  case other =>
    rintro d d' hapart q next answer p c₁ t ⟨hc₁, -⟩ hstage ⟨-, hstate⟩ hstage'
    obtain rfl : t = (Cluster.answer q c₁).2 := hstate
    exact hstage'.congr (hstage.find?_eq hc₁ fun hkind => (hapart (congrArg _ hkind.symm)).symm)

end

namespace ChildSet

variable {s : Session} {config : Config} {children : ChildSet} {owner : Json} {scope : MergeScope} {c c' : Cluster}
  {calls : List clusterInterface.Call} {updates : List ChildUpdate}

/-! ### The children of a session -/

/-- Names that are not cut tell the claims of a session apart. -/
private theorem nodup_claims (h : ofSession s config = .ok children)
    (hnames : ∀ i < s.spec.dataSources.length, s.Untruncated i) :
    (children.claim.name :: children.dataSourceClaims.map Child.name).Nodup := by
  have hindex : ∀ source ∈ Manifest.numberedSources s, s.Untruncated source.2 := fun source hsource =>
    hnames source.2 (List.snd_lt_of_mem_zipIdx hsource)
  rw [claim_name h, dataSourceClaims_name h, List.nodup_cons]
  constructor
  · -- a composed name is longer than what it is composed of
    intro hmem
    obtain ⟨source, hsource, heq⟩ := List.mem_map.1 hmem
    have huncut := hindex source hsource
    rw [huncut.dataSourceClaimName_eq, huncut.childName_eq] at heq
    have hlength := congrArg String.length heq
    have hpositive : 0 < "session-".length := by decide
    simp only [Naming.numbered, String.length_append] at hlength
    omega
  · have hmap : ((Manifest.numberedSources s).map fun d => s.dataSourceClaimName d.2) =
        ((Manifest.numberedSources s).map Prod.snd).map s.dataSourceClaimName := by
      rw [List.map_map]
      rfl
    rw [hmap]
    refine List.Nodup.map_on (fun i hi j hj heq => ?_) (List.nodup_zipIdx_map_snd _)
    obtain ⟨source, hsource, rfl⟩ := List.mem_map.1 hi
    obtain ⟨source', hsource', rfl⟩ := List.mem_map.1 hj
    rw [(hindex source hsource).dataSourceClaimName_eq, (hindex source' hsource').dataSourceClaimName_eq] at heq
    exact (Naming.numbered_inj.1 heq).2

/-- The children of a session have places of their own, those of the claims of both kinds included, if no name is
cut. -/
theorem apart (h : ofSession s config = .ok children) (hnames : ∀ i < s.spec.dataSources.length, s.Untruncated i) :
    children.toList.Pairwise Child.Apart := by
  obtain ⟨hset, hservice, hingress, hclaim, hsources⟩ := kinds h
  have hother : ∀ {d d' : Child}, Http.resourceOf d.kind ≠ Http.resourceOf d'.kind → d.Apart d' :=
    fun hne heq => absurd heq hne
  have hclaims : ∀ d ∈ children.claim :: children.dataSourceClaims, d.IsClaim :=
    List.forall_mem_cons.2 ⟨.inl hclaim, fun d hd => .inr (hsources d hd)⟩
  have hlist : children.toList = children.statefulSet :: children.service ::
      (children.ingress.toList ++ children.claim :: children.dataSourceClaims) := by simp [toList]
  rw [hlist]
  refine .cons (List.forall_mem_cons.2 ⟨?_, fun d hd => ?_⟩) (.cons (fun d hd => ?_)
    (List.pairwise_append.2 ⟨?_, ?_, fun d hd d' hd' => ?_⟩))
  · exact hother (by simp [hset, hservice, Http.resourceOf])
  · rcases List.mem_append.1 hd with hd | hd
    · exact hother (by simp [hset, hingress d (Option.mem_toList.1 hd), Http.resourceOf])
    · rcases hclaims d hd with hk | hk <;> exact hother (by simp [hset, hk, Http.resourceOf])
  · rcases List.mem_append.1 hd with hd | hd
    · exact hother (by simp [hservice, hingress d (Option.mem_toList.1 hd), Http.resourceOf])
    · rcases hclaims d hd with hk | hk <;> exact hother (by simp [hservice, hk, Http.resourceOf])
  · cases children.ingress with
    | none => exact .nil
    | some d => exact List.pairwise_singleton _ _
  · -- claims of both kinds share one resource, so that it is their names that keep them apart
    have hnodup : ((children.claim :: children.dataSourceClaims).map Child.name).Pairwise (· ≠ ·) :=
      nodup_claims h hnames
    refine (List.pairwise_map.1 hnodup).imp ?_
    intro d d' hne _
    exact hne
  · have hki := hingress d (Option.mem_toList.1 hd)
    rcases hclaims d' hd' with hk | hk <;> exact hother (by simp [hki, hk, Http.resourceOf])

private theorem exists_of_forall₂ {α β : Type} {R : α → β → Prop} {as : List α} {bs : List β}
    (h : List.Forall₂ R as bs) : ∀ a ∈ as, ∃ b, R a b := by
  induction h with
  | nil => exact fun a ha => absurd ha List.not_mem_nil
  | cons hr _ ih => exact List.forall_mem_cons.2 ⟨⟨_, hr⟩, ih⟩

/-- Two clusters that have come about from a third one hold the same children but for the numbers of their versions, and
the same of them are as they were. -/
def SameChildren (before c c' : Cluster) : Prop := ∀ kind name,
  (c.children.find? kind name).map Child.unversioned = (c'.children.find? kind name).map Child.unversioned ∧
    (c.children.find? kind name = before.children.find? kind name ↔
      c'.children.find? kind name = before.children.find? kind name)

/-- The errands for all children of a session come to the same in every order of their calls as one after the other: the
same is reported of each child and the same is stored in the end, but for the numbers of the versions. -/
theorem order_independent (h : ofSession s config = .ok children)
    (hnames : ∀ i < s.spec.dataSources.length, s.Untruncated i) (hc : c.Numbered)
    (hcalls : Interleaved (children.toList.map fun d => d.reconcile owner scope) calls updates)
    (hanswered : Answered Cluster.answer calls c c') :
    updates.map ChildUpdate.unversioned =
        ((children.reconcile owner scope).run Cluster.answer c).1.inOrder.map ChildUpdate.unversioned ∧
      SameChildren c c' ((children.reconcile owner scope).run Cluster.answer c).2 := by
  have hapart := apart h hnames
  obtain ⟨hupdates, helsewhere⟩ := independent hapart hc hcalls hanswered
  have hinTurn := Schedule.inTurn.interleaved (conversation_run Cluster.answer (children.reconcile owner scope) c)
  obtain ⟨hupdates', helsewhere'⟩ := independent hapart hc hinTurn (answered_run Cluster.answer _ c)
  constructor
  · exact (map_eq_of_forall₂ hupdates fun d _ u hu => hu.update).trans
      (map_eq_of_forall₂ hupdates' fun d _ u hu => hu.update).symm
  · intro kind name
    by_cases hplace : ∃ d ∈ children.toList, kind = d.kind ∧ name = d.name
    · obtain ⟨d, hd, rfl, rfl⟩ := hplace
      obtain ⟨u, hu⟩ := exists_of_forall₂ hupdates d hd
      obtain ⟨u', hu'⟩ := exists_of_forall₂ hupdates' d hd
      exact ⟨hu.stored.trans hu'.stored.symm, hu.kept.trans hu'.kept.symm⟩
    · have hnone : ∀ d ∈ children.toList, kind = d.kind → name ≠ d.name := fun d hd hkind hname =>
        hplace ⟨d, hd, hkind, hname⟩
      have hleft := helsewhere kind name hnone
      have hleft' := helsewhere' kind name hnone
      exact ⟨congrArg _ (hleft.trans hleft'.symm), iff_of_true hleft hleft'⟩

/-- A cluster in which the stateful set of a session stands with too many replicas, and nothing else. -/
def overstaffed (s : Session) : Cluster :=
  ((Cluster.ofSession s).putChild s.childName
    ⟨.statefulSet, .object [("apiVersion", .str "apps/v1"), ("kind", .str "StatefulSet"),
      ("metadata", .object [("name", .str s.childName)]),
      ("spec", .object [("replicas", .int 3), ("selector", .empty), ("serviceName", .str ""),
        ("template", .empty)])]⟩).2

theorem overstaffed_numbered (s : Session) : (overstaffed s).Numbered :=
  Cluster.Numbered.putChild (fun _ _ _ _ h => by cases h) _ _

/-- All children of a session with two data sources and an ingress, gone about from the last one on: the versions that
are stored are others than from the first one on, and nothing else is. -/
theorem order_independent_backwards :
    let s := servedSession
    let c := overstaffed s
    let owner := s.owner?.getD .null
    ∃ children, ofSession s (.default ⟨none, none⟩) = .ok children ∧
      (∀ i < s.spec.dataSources.length, s.Untruncated i) ∧ c.Numbered ∧
      let backwards := (forEach children.toList.reverse fun d => d.reconcile owner .full).run Cluster.answer c
      let inTurn := (children.reconcile owner .full).run Cluster.answer c
      (backwards.1.reverse ≠ inTurn.1.inOrder ∧ inTurn.1.inOrder.map (·.operation) =
          [.updated, .created, .created, .created, .created, .created]) ∧
        backwards.1.reverse.map ChildUpdate.unversioned = inTurn.1.inOrder.map ChildUpdate.unversioned ∧
        SameChildren c backwards.2 inTurn.2 := by
  intro s c owner
  obtain ⟨children, h, htest⟩ := Fallible.exists_of_any (p := fun children : ChildSet =>
      let backwards := (forEach children.toList.reverse fun d => d.reconcile owner .full).run Cluster.answer c
      let inTurn := (children.reconcile owner .full).run Cluster.answer c
      backwards.1.reverse ≠ inTurn.1.inOrder ∧ inTurn.1.inOrder.map (·.operation) =
          [.updated, .created, .created, .created, .created, .created])
    (show (ofSession s (.default ⟨none, none⟩)).toOption.any _ = true by decide +kernel)
  have hnames : ∀ i < s.spec.dataSources.length, s.Untruncated i := by
    intro i hi
    have hworkload : s.name.utf8ByteSize ≤ Naming.workloadLimit := by decide +kernel
    have hclaims : ∀ i < s.spec.dataSources.length, (Naming.numbered s.name i).utf8ByteSize ≤ Naming.nameLimit := by
      decide +kernel
    exact ⟨hworkload, hclaims i hi⟩
  exact ⟨children, h, hnames, overstaffed_numbered s, of_decide_eq_true htest,
    order_independent h hnames (overstaffed_numbered s)
      (interleaved_forEach_reverse (conversation_run Cluster.answer _ c)) (answered_run Cluster.answer _ c)⟩

end ChildSet

end SessionOperator
