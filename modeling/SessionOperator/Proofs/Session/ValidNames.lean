import Mathlib.Data.List.Chain
import SessionOperator.Proofs.Session.Naming
import SessionOperator.Proofs.Text.Trim

/-!
# Validity of generated names

A name that the cluster accepts is made of labels with dots between them.  Whether a text is one can be seen from its
neighbouring characters: next to a dot, and at either end, there are letters and digits.  What is kept of a name that is
too long has the neighbours it had before, and the short form goes on with a dash.  So the short form of a valid name
is valid unless a dot stands right before the cut, for only dashes are removed there.

* `Naming.Follows`, `Naming.all_isLabel_iff`: valid names by their neighbouring characters;
* `Naming.isDotted_numbered`: the composed names of data source claims are valid before they are shortened;
* `Naming.isSubdomain_shorten_iff`: which short forms of valid names are valid;
* `Session.generated_names_valid_iff`: which names that are generated for a session are valid.
-/

namespace SessionOperator

namespace Naming

variable {cs l : List Char} {c x y : Char} {name : String} {limit : Nat}

/-! ### Neighbouring characters -/

/-- The characters with which a label may begin and end. -/
def isAlnum (c : Char) : Bool := c.isLower || c.isDigit

/-- What may follow a character in a name with a dot on either side. -/
structure Follows (x y : Char) : Prop where
  allowed : isAlnum y = true ∨ y = '-' ∨ y = '.'
  behind_dot : x = '.' → isAlnum y = true
  before_dot : y = '.' → isAlnum x = true

/-- Labels with dots between them. -/
def IsDotted (cs : List Char) : Prop := ('.' :: cs ++ ['.']).IsChain Follows

theorem follows_iff (hx : x ≠ '.') (hy : y ≠ '.') : Follows x y ↔ isAlnum y = true ∨ y = '-' :=
  ⟨fun h => h.allowed.imp_right fun hor => hor.resolve_right hy,
    fun h => ⟨h.imp_right .inl, fun hdot => absurd hdot hx, fun hdot => absurd hdot hy⟩⟩

theorem dot_follows_iff : Follows '.' y ↔ isAlnum y = true := by
  refine ⟨fun h => h.behind_dot rfl, fun h => ⟨.inl h, fun _ => h, ?_⟩⟩
  rintro rfl
  exact h

theorem follows_dot_iff : Follows x '.' ↔ isAlnum x = true := by
  refine ⟨fun h => h.before_dot rfl, fun h => ⟨.inr (.inr rfl), ?_, fun _ => h⟩⟩
  rintro rfl
  exact h

theorem follows_dash_iff : Follows x '-' ↔ x ≠ '.' := by
  refine ⟨?_, fun h => (follows_iff h (by decide)).2 (.inr rfl)⟩
  rintro h rfl
  exact absurd (h.behind_dot rfl) (by decide)

/-- Without a dot inside, it only matters what a text is made of. -/
theorem isChain_iff_of_no_dot (h : '.' ∉ l) :
    l.IsChain Follows ↔ ∀ c ∈ l.tail, isAlnum c = true ∨ c = '-' := by
  induction l with
  | nil => simp
  | cons x rest ih =>
    cases rest with
    | nil => simp
    | cons y rest =>
      have hx : x ≠ '.' := fun heq => h (heq ▸ List.mem_cons_self)
      have hrest : '.' ∉ y :: rest := List.not_mem_of_not_mem_cons h
      have hy : y ≠ '.' := fun heq => hrest (heq ▸ List.mem_cons_self)
      rw [List.isChain_cons_cons, follows_iff hx hy, ih hrest, List.tail_cons, List.tail_cons, List.forall_mem_cons]

/-- A label is told by what it is made of and by its two ends. -/
theorem isLabel_iff {last : Char} (hlast : (x :: l).getLast? = some last) :
    isLabel (x :: l) = true ↔ (∀ c ∈ x :: l, isAlnum c = true ∨ c = '-') ∧ x ≠ '-' ∧ last ≠ '-' := by
  simp [isLabel, isAlnum, hlast, and_assoc]

theorem isDotted_iff_of_no_dot {last : Char} (h : '.' ∉ x :: l) (hlast : (x :: l).getLast? = some last) :
    IsDotted (x :: l) ↔ (∀ c ∈ l, isAlnum c = true ∨ c = '-') ∧ isAlnum x = true ∧ isAlnum last = true := by
  rw [IsDotted, List.isChain_append, List.isChain_cons, isChain_iff_of_no_dot h]
  simp [hlast, dot_follows_iff, follows_dot_iff]
  tauto

theorem isLabel_iff_isDotted (h : '.' ∉ l) : isLabel l = true ↔ IsDotted l := by
  cases l with
  | nil => simp [isLabel, IsDotted, dot_follows_iff, isAlnum]
  | cons x rest =>
    obtain ⟨last, hlast⟩ := Option.isSome_iff_exists.1 (List.getLast?_isSome.2 (List.cons_ne_nil x rest))
    have hmem : last ∈ x :: rest := List.mem_of_getLast? hlast
    rw [isLabel_iff hlast, isDotted_iff_of_no_dot h hlast]
    constructor
    · rintro ⟨hall, hx, hlast⟩
      exact ⟨fun c hc => hall c (List.mem_cons_of_mem x hc), (hall x List.mem_cons_self).resolve_right hx,
        (hall last hmem).resolve_right hlast⟩
    · rintro ⟨hrest, hx, hlast⟩
      refine ⟨List.forall_mem_cons.2 ⟨.inl hx, hrest⟩, ?_, ?_⟩
      · rintro rfl
        exact absurd hx (by decide)
      · rintro rfl
        exact absurd hlast (by decide)

/-- The labels of a name can be checked one by one, each with a dot on either side. -/
theorem all_isLabel_iff (cs : List Char) : (cs.splitOn '.').all isLabel = true ↔ IsDotted cs := by
  by_cases hdot : '.' ∈ cs
  · obtain ⟨first, rest, rfl, hfirst⟩ := List.eq_append_cons_of_mem hdot
    have hno : ∀ c ∈ first, (c == '.') = false := by
      intro c hc
      rw [beq_eq_false_iff_ne]
      rintro rfl
      exact hfirst hc
    have hsplit : (first ++ '.' :: rest).splitOn '.' = first :: rest.splitOn '.' :=
      List.splitOnP_append_cons_of_forall_mem hno '.' rfl rest
    have hchain : IsDotted (first ++ '.' :: rest) ↔ IsDotted first ∧ IsDotted rest := by
      rw [IsDotted, show '.' :: (first ++ '.' :: rest) ++ ['.'] = ('.' :: first) ++ '.' :: (rest ++ ['.']) by simp,
        List.isChain_split]
      rfl
    rw [hsplit, hchain, List.all_cons, Bool.and_eq_true, isLabel_iff_isDotted hfirst, all_isLabel_iff rest]
  · rw [List.splitOn_eq_singleton hdot, List.all_cons, List.all_nil, Bool.and_true, isLabel_iff_isDotted hdot]
termination_by cs.length

theorem isSubdomain_iff : isSubdomain name = true ↔ IsDotted name.toList ∧ name.length ≤ nameLimit := by
  rw [isSubdomain, Bool.and_eq_true, all_isLabel_iff, decide_eq_true_eq]

/-! ### Beginnings and ends -/

theorem isAlnum_of_mem_fingerprint (h : c ∈ fingerprint name) : isAlnum c = true := by
  have hdigit : ∀ n < 16, isAlnum (Sha256.hexChar n) = true := by decide
  obtain ⟨shift, -, rfl⟩ := List.mem_map.1 h
  exact hdigit _ (Nat.mod_lt _ (by decide))

theorem IsDotted.isAlnum_head (h : IsDotted cs) : ∀ y ∈ cs.head?, isAlnum y = true := by
  intro y hy
  cases cs with
  | nil => cases hy
  | cons first rest =>
    obtain rfl := Option.some.inj hy
    exact dot_follows_iff.1 (List.isChain_cons_cons.1 h).1

theorem IsDotted.ne_nil (h : IsDotted cs) : cs ≠ [] := by
  rintro rfl
  have hdot : Follows '.' '.' := List.isChain_pair.1 h
  exact absurd (dot_follows_iff.1 hdot) (by decide)

theorem IsDotted.isAlnum_getLast (h : IsDotted cs) : ∀ x ∈ cs.getLast?, isAlnum x = true := by
  intro x hx
  have hlast : x ∈ ('.' :: cs).getLast? := by rwa [List.getLast?_cons_of_ne_nil h.ne_nil]
  exact follows_dot_iff.1 ((List.isChain_append.1 h).2.2 x hlast '.' rfl)

/-- What may stand at the end of a name, behind a dash. -/
structure IsEnding (l : List Char) : Prop where
  allowed : ∀ c ∈ l, isAlnum c = true ∨ c = '-'
  last : ∃ x ∈ l.getLast?, isAlnum x = true

theorem IsEnding.of_isAlnum (hne : l ≠ []) (h : ∀ c ∈ l, isAlnum c = true) : IsEnding l where
  allowed := fun c hc => .inl (h c hc)
  last := ⟨l.getLast hne, List.getLast?_eq_some_getLast hne, h _ (List.getLast_mem hne)⟩

theorem IsEnding.ne_nil (h : IsEnding l) : l ≠ [] := by
  rintro rfl
  obtain ⟨x, hx, -⟩ := h.last
  cases hx

theorem IsEnding.append (hcs : ∀ c ∈ cs, isAlnum c = true ∨ c = '-') (h : IsEnding l) : IsEnding (cs ++ l) where
  allowed := List.forall_mem_append.2 ⟨hcs, h.allowed⟩
  last := by
    rw [List.getLast?_append_of_ne_nil cs h.ne_nil]
    exact h.last

theorem IsEnding.isChain (h : IsEnding l) : ('-' :: l ++ ['.']).IsChain Follows := by
  obtain ⟨last, hlast, halnum⟩ := h.last
  have hdot : '.' ∉ '-' :: l := by
    intro hmem
    rcases List.mem_cons.1 hmem with heq | hmem
    · exact absurd heq (by decide)
    · exact absurd (h.allowed '.' hmem) (by decide)
  refine List.isChain_append.2 ⟨(isChain_iff_of_no_dot hdot).2 h.allowed, List.isChain_singleton _, ?_⟩
  rw [List.getLast?_cons_of_ne_nil h.ne_nil, hlast]
  rintro _ ⟨⟩ _ ⟨⟩
  exact follows_dot_iff.2 halnum

/-- Before an ending all is well unless there is a dot right before its dash. -/
theorem isDotted_append_dash_iff (hl : IsEnding l) (hcs : ('.' :: cs).IsChain Follows) :
    IsDotted (cs ++ '-' :: l) ↔ ('.' :: cs).getLast? ≠ some '.' := by
  rw [IsDotted, show '.' :: (cs ++ '-' :: l) ++ ['.'] = ('.' :: cs) ++ ('-' :: l ++ ['.']) by simp,
    List.isChain_append, and_iff_right hcs, and_iff_right hl.isChain]
  constructor
  · intro h heq
    exact follows_dash_iff.1 (h '.' heq '-' rfl) rfl
  · rintro hne x hx _ ⟨⟩
    refine follows_dash_iff.2 ?_
    rintro rfl
    exact hne hx

/-! ### Composed names -/

theorem isEnding_digits (index : Nat) : IsEnding (Nat.toDigits 10 index) := by
  refine .of_isAlnum Nat.toDigits_ne_nil fun c hc => ?_
  have hdigit : c.isDigit = true := Nat.isDigit_of_mem_toDigits (by decide) (by decide) hc
  rw [isAlnum, hdigit, Bool.or_true]

theorem IsDotted.behind_dash (h : IsDotted cs) : ('-' :: cs).IsChain Follows := by
  refine List.isChain_cons.2 ⟨fun y hy => ?_, (List.IsChain.left_of_append h).tail⟩
  have halnum := h.isAlnum_head y hy
  refine ⟨.inl halnum, nofun, ?_⟩
  rintro rfl
  exact absurd halnum (by decide)

/-- The name of a data source claim is that of the session between labels. -/
theorem isDotted_numbered (h : IsDotted name.toList) (index : Nat) : IsDotted (numbered name index).toList := by
  have hlist : (numbered name index).toList =
      ("session".toList ++ '-' :: name.toList) ++ '-' :: ("ds-".toList ++ Nat.toDigits 10 index) := by
    simp [numbered, Nat.toString_eq_repr]
  have hsession : ('.' :: "session".toList).IsChain Follows :=
    List.isChain_cons.2 ⟨by simp [dot_follows_iff, isAlnum], (isChain_iff_of_no_dot (by decide)).2 (by simp [isAlnum])⟩
  have hstart : ('.' :: ("session".toList ++ '-' :: name.toList)).IsChain Follows := by
    rw [← List.cons_append]
    refine List.isChain_append.2 ⟨hsession, h.behind_dash, ?_⟩
    rintro _ ⟨⟩ _ ⟨⟩
    exact follows_dash_iff.2 (by decide)
  have hending : IsEnding ("ds-".toList ++ Nat.toDigits 10 index) := .append (by simp [isAlnum]) (isEnding_digits index)
  rw [hlist, isDotted_append_dash_iff hending hstart]
  have hlast : ('.' :: ("session".toList ++ '-' :: name.toList)).getLast? = name.toList.getLast? := by
    rw [List.getLast?_cons_of_ne_nil (by simp), List.getLast?_append_of_ne_nil _ (by simp),
      List.getLast?_cons_of_ne_nil h.ne_nil]
  rw [hlast]
  intro hdot
  exact absurd (h.isAlnum_getLast '.' hdot) (by decide)

/-! ### Short forms -/

/-- The cut of a name that is too long falls right behind a dot. -/
structure IsCutAtDot (limit : Nat) (name : String) : Prop where
  long : limit < name.length
  dot : name.toList[limit - 10]? = some '.'

theorem utf8ByteSize_ofList (h : ∀ c ∈ cs, c.utf8Size = 1) : (String.ofList cs).utf8ByteSize = cs.length := by
  induction cs with
  | nil => rfl
  | cons c rest ih =>
    obtain ⟨hc, hrest⟩ := List.forall_mem_cons.1 h
    rw [String.ofList_cons, String.utf8ByteSize_append, String.utf8ByteSize_singleton, hc, ih hrest, List.length_cons,
      Nat.add_comm]

theorem allowed_of_isChain (h : (x :: cs).IsChain Follows) : ∀ c ∈ cs, isAlnum c = true ∨ c = '-' ∨ c = '.' := by
  induction cs generalizing x with
  | nil => nofun
  | cons y rest ih =>
    obtain ⟨hxy, hrest⟩ := List.isChain_cons_cons.1 h
    exact List.forall_mem_cons.2 ⟨hxy.allowed, ih hrest⟩

theorem utf8Size_of_isAlnum (h : isAlnum c = true) : c.utf8Size = 1 := by
  have hbound : c.val ≤ 'z'.val := by
    rcases Bool.or_eq_true_iff.1 h with hlower | hdigit
    · have hrange : (decide (c.val ≥ 'a'.val) && decide (c.val ≤ 'z'.val)) = true := hlower
      exact of_decide_eq_true (Bool.and_eq_true_iff.1 hrange).2
    · have hrange : (decide (c.val ≥ '0'.val) && decide (c.val ≤ '9'.val)) = true := hdigit
      have hnine : c.val ≤ '9'.val := of_decide_eq_true (Bool.and_eq_true_iff.1 hrange).2
      exact UInt32.le_trans hnine (by decide)
  exact Char.utf8Size_eq_one_iff.2 (UInt32.le_trans hbound (by decide))

/-- A valid name has as many bytes as characters. -/
theorem IsDotted.utf8ByteSize_eq (h : IsDotted name.toList) : name.utf8ByteSize = name.length := by
  have hsize : ∀ c ∈ name.toList, c.utf8Size = 1 := by
    intro c hc
    rcases allowed_of_isChain (List.IsChain.left_of_append h) c hc with halnum | rfl | rfl
    · exact utf8Size_of_isAlnum halnum
    · rfl
    · rfl
  have hbytes := utf8ByteSize_ofList hsize
  rwa [String.ofList_toList, String.length_toList] at hbytes

theorem stem_append (name : String) (limit : Nat) :
    stem name limit ++ (name.toList.take (limit - 9)).rtakeWhile (· = '-') = name.toList.take (limit - 9) :=
  List.rdropWhile_append_rtakeWhile

theorem isChain_kept (h : IsDotted name.toList) (limit : Nat) :
    ('.' :: name.toList.take (limit - 9)).IsChain Follows := by
  have hname : ('.' :: name.toList).IsChain Follows := List.IsChain.left_of_append h
  rw [← List.take_append_drop (limit - 9) name.toList, ← List.cons_append] at hname
  exact hname.left_of_append

theorem isChain_stem (h : IsDotted name.toList) (limit : Nat) : ('.' :: stem name limit).IsChain Follows := by
  have hkept := isChain_kept h limit
  rw [← stem_append, ← List.cons_append] at hkept
  exact hkept.left_of_append

theorem length_stem_le (name : String) (limit : Nat) : (stem name limit).length ≤ limit - 9 := by
  have hlength := congrArg List.length (stem_append name limit)
  rw [List.length_append, List.length_take] at hlength
  omega

/-- Only dashes are removed from what is kept, and no dash stands behind a dot. -/
theorem getLast?_stem_eq_dot_iff (h : IsDotted name.toList) (hlimit : 10 ≤ limit) (hlong : limit < name.length) :
    ('.' :: stem name limit).getLast? = some '.' ↔ name.toList[limit - 10]? = some '.' := by
  have hlength : name.toList.length = name.length := String.length_toList
  have hkept : (name.toList.take (limit - 9)).getLast? = name.toList[limit - 10]? := by
    rw [List.getLast?_take, if_neg (by omega), show limit - 9 - 1 = limit - 10 by omega,
      List.getElem?_eq_getElem (show limit - 10 < name.toList.length by omega), Option.some_or]
  have hne : name.toList.take (limit - 9) ≠ [] := by
    rw [← List.length_pos_iff, List.length_take]
    omega
  have hsplit := stem_append name limit
  cases hdashes : (name.toList.take (limit - 9)).rtakeWhile (· = '-') with
  | nil =>
    rw [hdashes, List.append_nil] at hsplit
    rw [hsplit, List.getLast?_cons_of_ne_nil hne, hkept]
  | cons dash dashes =>
    have hall : ∀ c ∈ dash :: dashes, c = '-' := by
      intro c hc
      rw [← hdashes] at hc
      simpa using List.mem_rtakeWhile_imp hc
    rw [hdashes] at hsplit
    -- what is kept ends in a dash, and so it is no dot that stands before the removed dashes
    refine iff_of_false (fun hdot => ?_) fun hdot => ?_
    · have hchain : ('.' :: stem name limit ++ dash :: dashes).IsChain Follows := by
        rw [List.cons_append, hsplit]
        exact isChain_kept h limit
      have hfollows := (List.isChain_append.1 hchain).2.2 '.' hdot dash rfl
      rw [hall dash List.mem_cons_self] at hfollows
      exact follows_dash_iff.1 hfollows rfl
    · rw [← hkept, ← hsplit, List.getLast?_append_of_ne_nil _ (List.cons_ne_nil dash dashes)] at hdot
      exact absurd (hall '.' (List.mem_of_getLast? hdot)) (by decide)

/-- Which valid names are valid when they are shortened. -/
theorem isDotted_shorten_iff (h : IsDotted name.toList) (hlimit : 10 ≤ limit) :
    IsDotted (shorten name limit).toList ↔ ¬ IsCutAtDot limit name := by
  have hbytes := h.utf8ByteSize_eq
  by_cases hlong : limit < name.length
  · have hprint : IsEnding (fingerprint name) := .of_isAlnum
      (by rw [← List.length_pos_iff, length_fingerprint]; decide) fun c hc => isAlnum_of_mem_fingerprint hc
    rw [toList_shorten (by omega), isDotted_append_dash_iff hprint (isChain_stem h limit), ne_eq,
      getLast?_stem_eq_dot_iff h hlimit hlong]
    exact not_congr ⟨fun hdot => ⟨hlong, hdot⟩, fun hcut => hcut.dot⟩
  · rw [shorten_of_le (by omega)]
    exact iff_of_true h fun hcut => hlong hcut.long

theorem length_shorten_le (h : IsDotted name.toList) (hlimit : 10 ≤ limit) : (shorten name limit).length ≤ limit := by
  have hbytes := h.utf8ByteSize_eq
  by_cases hlong : limit < name.length
  · have hstem := length_stem_le name limit
    rw [← String.length_toList, toList_shorten (by omega), List.length_append, List.length_cons, length_fingerprint]
    omega
  · rw [shorten_of_le (by omega)]
    omega

/-- For a limit of which the cluster approves, being valid is all about dots. -/
theorem isSubdomain_shorten_iff (h : IsDotted name.toList) (hlimit : 10 ≤ limit) (hmost : limit ≤ nameLimit) :
    (shorten name limit).length ≤ limit ∧ (isSubdomain (shorten name limit) = true ↔ ¬ IsCutAtDot limit name) := by
  have hlength := length_shorten_le h hlimit
  refine ⟨hlength, ?_⟩
  rw [isSubdomain_iff, and_iff_left (hlength.trans hmost), isDotted_shorten_iff h hlimit]

end Naming

namespace Session

/-- The names that are generated for a session with a valid name are short enough, and they are valid unless they are
cut right behind a dot. -/
theorem generated_names_valid_iff {s : Session} (h : Naming.isSubdomain s.name = true) (index : Nat) :
    (s.childName.length ≤ 52 ∧ (Naming.isSubdomain s.childName = true ↔ ¬ Naming.IsCutAtDot 52 s.name)) ∧
    ((s.dataSourceClaimName index).length ≤ 253 ∧
      (Naming.isSubdomain (s.dataSourceClaimName index) = true ↔
        ¬ Naming.IsCutAtDot 253 (Naming.numbered s.name index))) := by
  have hname := (Naming.isSubdomain_iff.1 h).1
  have hnumbered := Naming.isDotted_numbered hname index
  exact ⟨Naming.isSubdomain_shorten_iff hname (by decide) (by decide),
    Naming.isSubdomain_shorten_iff hnumbered (by decide) (by decide)⟩

/-- The name of a workload is cut here, and not at the dot, while that of a claim is kept. -/
theorem generated_names_valid_long :
    let long := called (String.ofList (List.replicate 43 'a' ++ '.' :: List.replicate 10 'b'))
    Naming.isSubdomain long.name = true ∧ long.childName.length ≤ 52 ∧ Naming.isSubdomain long.childName = true ∧
      (long.dataSourceClaimName 7).length ≤ 253 ∧ Naming.isSubdomain (long.dataSourceClaimName 7) = true := by
  intro long
  have hname : Naming.isSubdomain long.name = true := by decide +kernel
  obtain ⟨⟨hchild, hchildValid⟩, hclaim, hclaimValid⟩ := generated_names_valid_iff hname 7
  refine ⟨hname, hchild, hchildValid.2 fun hcut => ?_, hclaim, hclaimValid.2 fun hcut => ?_⟩
  · exact absurd hcut.dot (by decide +kernel)
  · exact absurd hcut.long (by decide +kernel)

/-- A name with a dot right before the cut: in its short form a label begins with a dash. -/
theorem short_form_broken :
    let long := called "aaaaaaaaaaaaaaaaaaaaaaaaaaaaaaaaaaaaaaaaaa.bbbbbbbbbb"
    Naming.isSubdomain long.name = true ∧
      long.childName = "aaaaaaaaaaaaaaaaaaaaaaaaaaaaaaaaaaaaaaaaaa.-4443fbf1" ∧
      Naming.isSubdomain long.childName = false := by
  decide +kernel

end Session

end SessionOperator
