import Mathlib.Data.List.Lattice
import SessionOperator.Cluster.Http
import SessionOperator.Proofs.Pass.Conversation

/-!
# Names that sessions share

Sessions with different names get objects with different names, with two exceptions.  A name that is short enough to be
kept can be what a longer one is cut to, and a session can bear the name that is composed for a claim of another one.

* `Naming.shorten_eq_iff`: which different names are shortened to the same one;
* `Naming.numbered_inj`: the names of data source claims tell the session and the position;
* `Session.childName_eq_iff`: when two sessions share their workload;
* `Session.claimNames_disjoint_iff`: when they share no claim.
-/

namespace SessionOperator

namespace Naming

variable {a b : String} {limit i j : Nat}

/-- Lower case letters, digits and inner dashes. -/
def isLabel (cs : List Char) : Bool :=
  !cs.isEmpty && cs.all (fun c => c.isLower || c.isDigit || c = '-') && cs.head? ≠ some '-' && cs.getLast? ≠ some '-'

/-- The names that the cluster accepts: labels with dots between them. -/
def isSubdomain (name : String) : Bool := (name.toList.splitOn '.').all isLabel && name.length ≤ nameLimit

/-! ### Short forms -/

/-- What is kept of a name that is too long. -/
def stem (name : String) (limit : Nat) : List Char := Text.dropEndWhile (· = '-') (name.toList.take (limit - 9))

/-- A name that is kept and that a longer name is cut to. -/
structure IsShortForm (limit : Nat) (short long : String) : Prop where
  kept : short.utf8ByteSize ≤ limit
  cut : limit < long.utf8ByteSize
  toList_eq : short.toList = stem long limit ++ '-' :: fingerprint long

theorem length_fingerprint (name : String) : (fingerprint name).length = 8 := by
  simp [fingerprint, Sha256.hexWord]

theorem shorten_of_le (h : a.utf8ByteSize ≤ limit) : shorten a limit = a := if_pos h

theorem toList_shorten (h : limit < a.utf8ByteSize) :
    (shorten a limit).toList = stem a limit ++ '-' :: fingerprint a := by
  simp only [shorten, if_neg (Nat.not_le.2 h), length_fingerprint, stem, String.toList_ofList]

private theorem shorten_eq_kept_iff (ha : limit < a.utf8ByteSize) (hb : b.utf8ByteSize ≤ limit) :
    shorten a limit = shorten b limit ↔ IsShortForm limit b a := by
  rw [shorten_of_le hb, ← String.toList_inj, toList_shorten ha]
  exact ⟨fun h => ⟨hb, ha, h.symm⟩, fun h => h.toList_eq.symm⟩

/-- Different names with different fingerprints are shortened to the same name only if one of them is kept and is what
the other one is cut to. -/
theorem shorten_eq_iff (hne : a ≠ b) (hprint : fingerprint a ≠ fingerprint b) :
    shorten a limit = shorten b limit ↔ IsShortForm limit a b ∨ IsShortForm limit b a := by
  rcases Nat.lt_or_ge limit a.utf8ByteSize with ha | ha <;> rcases Nat.lt_or_ge limit b.utf8ByteSize with hb | hb
  · -- both are cut, and the fingerprints stand at the ends
    refine iff_of_false (fun h => ?_) fun h => ?_
    · rw [← String.toList_inj, toList_shorten ha, toList_shorten hb] at h
      have hends := (List.append_inj' h (by simp [length_fingerprint])).2
      exact hprint (List.cons.inj hends).2
    · exact h.elim (fun h => Nat.not_le.2 ha h.kept) fun h => Nat.not_le.2 hb h.kept
  · rw [shorten_eq_kept_iff ha hb, or_iff_right fun h => Nat.not_le.2 ha h.kept]
  · rw [eq_comm, shorten_eq_kept_iff hb ha, or_iff_left fun h => Nat.not_le.2 hb h.kept]
  · rw [shorten_of_le ha, shorten_of_le hb]
    exact iff_of_false hne fun h => h.elim (fun h => Nat.not_le.2 h.cut hb) fun h => Nat.not_le.2 h.cut ha

/-! ### Numbered names -/

/-- The name of a data source claim before it is shortened. -/
def numbered (name : String) (index : Nat) : String := "session-" ++ name ++ "-ds-" ++ toString index

private theorem dash_not_mem_digits (n : Nat) : '-' ∉ Nat.toDigits 10 n := fun h => by
  have hdigit := Nat.isDigit_of_mem_toDigits (by decide) (by decide) h
  exact absurd hdigit (by decide)

private theorem toDigits_injective : Function.Injective (Nat.toDigits 10) := fun i j h => by
  rw [← Nat.ofDigitChars_ten_toDigits (n := i), h, Nat.ofDigitChars_ten_toDigits]

theorem toString_injective : Function.Injective (toString : Nat → String) := fun i j h => by
  have hdigits := congrArg String.toList h
  simp only [Nat.toString_eq_repr, Nat.toList_repr] at hdigits
  exact toDigits_injective hdigits

/-- A number behind a dash can be split off again. -/
private theorem dash_digits_inj {xs ys : List Char}
    (h : xs ++ '-' :: Nat.toDigits 10 i = ys ++ '-' :: Nat.toDigits 10 j) :
    xs = ys ∧ i = j := by
  -- if one text were longer than the other, the dash behind the other would stand among digits
  rcases List.append_eq_append_iff.1 h with ⟨rest, hys, hrest⟩ | ⟨rest, hxs, hrest⟩
  · cases rest with
    | nil => exact ⟨by rw [hys, List.append_nil], toDigits_injective (List.cons.inj hrest).2⟩
    | cons c rest =>
      have hdigits : Nat.toDigits 10 i = rest ++ '-' :: Nat.toDigits 10 j := (List.cons.inj hrest).2
      exact absurd (by simp [hdigits]) (dash_not_mem_digits i)
  · cases rest with
    | nil => exact ⟨by rw [hxs, List.append_nil], toDigits_injective (List.cons.inj hrest).2.symm⟩
    | cons c rest =>
      have hdigits : Nat.toDigits 10 j = rest ++ '-' :: Nat.toDigits 10 i := (List.cons.inj hrest).2
      exact absurd (by simp [hdigits]) (dash_not_mem_digits j)

private theorem toList_numbered (name : String) (index : Nat) :
    (numbered name index).toList = ("session-" ++ name ++ "-ds").toList ++ '-' :: Nat.toDigits 10 index := by
  simp [numbered, Nat.toString_eq_repr]

theorem numbered_inj : numbered a i = numbered b j ↔ a = b ∧ i = j := by
  refine ⟨fun h => ?_, fun h => by rw [h.1, h.2]⟩
  rw [← String.toList_inj, toList_numbered, toList_numbered] at h
  obtain ⟨hnames, hij⟩ := dash_digits_inj h
  rw [String.toList_inj, String.append_left_inj, String.append_right_inj] at hnames
  exact ⟨hnames, hij⟩

end Naming

namespace Session

variable {a b : Session} {i j : Nat}

/-- A session with a name and a unique identifier that declares nothing but an image. -/
def called (name : String) : Session :=
  ⟨.object [("name", .str name), ("uid", .str "1")], .plain false .default, none⟩

/-! ### The workload -/

theorem podName_inj : a.podName = b.podName ↔ a.childName = b.childName := String.append_left_inj "-0"

theorem get?_selector (s : Session) : s.selector.get? "app.kubernetes.io/instance" = some s.childName := by
  simp [selector, Dict.ofList, Dict.get?_insert]

theorem selector_inj : a.selector = b.selector ↔ a.childName = b.childName := by
  refine ⟨fun h => ?_, fun h => by rw [selector, selector, h]⟩
  have hget := get?_selector a
  rw [h, get?_selector] at hget
  exact (Option.some.inj hget).symm

/-- Two sessions with different names share their children, their pod and their selector exactly if the name of one of
them is kept and the name of the other one is cut to it. -/
theorem childName_eq_iff (hne : a.name ≠ b.name) (hprint : Naming.fingerprint a.name ≠ Naming.fingerprint b.name) :
    (a.childName = b.childName ↔ Naming.IsShortForm Naming.workloadLimit a.name b.name ∨
        Naming.IsShortForm Naming.workloadLimit b.name a.name) ∧
      (a.podName = b.podName ↔ a.childName = b.childName) ∧ (a.selector = b.selector ↔ a.childName = b.childName) :=
  ⟨Naming.shorten_eq_iff hne hprint, podName_inj, selector_inj⟩

/-- A kept name that looks like a short form of a longer name, but for the last digit of the fingerprint. -/
theorem childName_ne_near_miss :
    let long := called "aaaaaaaaaaaaaaaaaaaaaaaaaaaaaaaaaaaaaaaaaaaaaaaaaaaaa"
    let near := called "aaaaaaaaaaaaaaaaaaaaaaaaaaaaaaaaaaaaaaaaaaa-abe346a8"
    long.name ≠ near.name ∧ Naming.fingerprint long.name ≠ Naming.fingerprint near.name ∧
      long.childName ≠ near.childName ∧ long.podName ≠ near.podName ∧ long.selector ≠ near.selector := by
  intro long near
  have hne : long.name ≠ near.name := by decide +kernel
  have hprint : Naming.fingerprint long.name ≠ Naming.fingerprint near.name := by decide +kernel
  obtain ⟨hchild, hpod, hselector⟩ := childName_eq_iff hne hprint
  have hapart : long.childName ≠ near.childName := fun h => by
    rcases hchild.1 h with h | h
    · exact absurd h.kept (by decide +kernel)
    · exact absurd h.toList_eq (by decide +kernel)
  exact ⟨hne, hprint, hapart, fun h => hapart (hpod.1 h), fun h => hapart (hselector.1 h)⟩

/-- A session that bears the very name to which the name of another one is cut. -/
theorem short_form_taken :
    let long := called "aaaaaaaaaaaaaaaaaaaaaaaaaaaaaaaaaaaaaaaaaaaaaaaaaaaaa"
    let short := called "aaaaaaaaaaaaaaaaaaaaaaaaaaaaaaaaaaaaaaaaaaa-abe346a7"
    Naming.isSubdomain long.name = true ∧ Naming.isSubdomain short.name = true ∧ long.name ≠ short.name ∧
      Naming.fingerprint long.name ≠ Naming.fingerprint short.name ∧
      long.childName = short.childName ∧ long.podName = short.podName ∧ long.selector = short.selector := by
  decide +kernel

/-! ### Claims -/

/-- No name that is generated for a session is too long, that of the data source claim at a position included. -/
structure Untruncated (s : Session) (index : Nat) : Prop where
  workload : s.name.utf8ByteSize ≤ Naming.workloadLimit
  claim : (Naming.numbered s.name index).utf8ByteSize ≤ Naming.nameLimit

theorem Untruncated.childName_eq (h : a.Untruncated i) : a.childName = a.name := Naming.shorten_of_le h.workload

theorem Untruncated.dataSourceClaimName_eq (h : a.Untruncated i) :
    a.dataSourceClaimName i = Naming.numbered a.name i := Naming.shorten_of_le h.claim

/-- Two sessions with different names share no claim unless one of them bears the name that is composed for a claim of
the other one. -/
theorem claimNames_disjoint_iff (hne : a.name ≠ b.name) (ha : a.Untruncated i) (hb : b.Untruncated j) :
    [a.childName, a.dataSourceClaimName i].Disjoint [b.childName, b.dataSourceClaimName j] ↔
      a.name ≠ Naming.numbered b.name j ∧ b.name ≠ Naming.numbered a.name i := by
  have hclaims : Naming.numbered a.name i ≠ Naming.numbered b.name j := fun h => hne (Naming.numbered_inj.1 h).1
  rw [ha.childName_eq, ha.dataSourceClaimName_eq, hb.childName_eq, hb.dataSourceClaimName_eq]
  simp only [List.disjoint_cons_left, List.disjoint_nil_left, List.mem_cons, List.not_mem_nil, or_false, not_or,
    and_true]
  exact ⟨fun ⟨⟨_, hown⟩, hother, _⟩ => ⟨hown, Ne.symm hother⟩,
    fun ⟨hown, hother⟩ => ⟨⟨hne, hown⟩, Ne.symm hother, hclaims⟩⟩

/-- A session that bears the name composed for the second claim of another one shares none of the first ones. -/
theorem claimNames_disjoint_first :
    let owner := called "a"
    let other := called "session-a-ds-1"
    owner.name ≠ other.name ∧ owner.Untruncated 0 ∧ other.Untruncated 0 ∧
      [owner.childName, owner.dataSourceClaimName 0].Disjoint [other.childName, other.dataSourceClaimName 0] := by
  intro owner other
  have hne : owner.name ≠ other.name := by decide +kernel
  have howner : owner.Untruncated 0 := ⟨by decide +kernel, by decide +kernel⟩
  have hother : other.Untruncated 0 := ⟨by decide +kernel, by decide +kernel⟩
  exact ⟨hne, howner, hother, (claimNames_disjoint_iff hne howner hother).2 (by decide +kernel)⟩

/-- A session that bears the name composed for the first claim of another one: its own claim stands in the same
place. -/
theorem claim_shared :
    let owner := called "a"
    let other := called "session-a-ds-0"
    Naming.isSubdomain owner.name = true ∧ Naming.isSubdomain other.name = true ∧ owner.name ≠ other.name ∧
      owner.Untruncated 0 ∧ other.Untruncated 0 ∧
      ¬ [owner.childName, owner.dataSourceClaimName 0].Disjoint [other.childName, other.dataSourceClaimName 0] ∧
      ∀ ns, Http.get (Http.resourceOf .claim) ns other.childName =
        Http.get (Http.resourceOf .dataSourceClaim) ns (owner.dataSourceClaimName 0) := by
  intro owner other
  have hname : other.childName = owner.dataSourceClaimName 0 := by decide +kernel
  refine ⟨by decide +kernel, by decide +kernel, by decide +kernel, ⟨by decide +kernel, by decide +kernel⟩,
    ⟨by decide +kernel, by decide +kernel⟩, fun h => ?_, fun ns => by rw [hname]; rfl⟩
  exact h (List.mem_cons_of_mem _ List.mem_cons_self) (hname ▸ List.mem_cons_self)

end Session

end SessionOperator
