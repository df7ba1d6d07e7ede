import SessionOperator.Config
import SessionOperator.Proofs.Text.Trim

/-!
# Usable configurations

What is known of a configuration that was found usable.  The storage sizes that it names are checked without the white
space around them.

* `Quantity.IsWritten`, `Quantity.isValid_iff`: the written form of a storage size;
* `Quantity.isWritten_iff_trim_eq`: a size that is right without the white space around it is right if there is none;
* `Config.check_eq_ok_iff`, `Config.isUsable_default_iff`: the configurations that can be used, among them the default.
-/

namespace SessionOperator

namespace Quantity

variable {cs : List Char} {s : String}

/-! ### Written sizes -/

def IsDigits (cs : List Char) : Prop := cs ≠ [] ∧ ∀ c ∈ cs, c.isDigit = true

/-- Nothing, or a point with digits behind it. -/
def IsFraction (cs : List Char) : Prop := cs = [] ∨ ∃ places, IsDigits places ∧ cs = '.' :: places

def IsUnit (cs : List Char) : Prop := cs = [] ∨ String.ofList cs ∈ units

/-- Digits, a fraction or none, a unit or none, and nothing before or after. -/
def IsWritten (s : String) : Prop :=
  ∃ whole fraction unit, s.toList = whole ++ fraction ++ unit ∧ IsDigits whole ∧ IsFraction fraction ∧ IsUnit unit

/-! ### The check -/

theorem isUnit_iff : isUnit cs = true ↔ IsUnit cs := by
  have hunit : (∃ u ∈ units, u.toList = cs) ↔ String.ofList cs ∈ units := by
    constructor
    · rintro ⟨u, hu, rfl⟩
      rwa [String.ofList_toList]
    · exact fun h => ⟨_, h, String.toList_ofList⟩
  simp only [isUnit, IsUnit, Bool.or_eq_true, List.isEmpty_iff, List.any_eq_true, decide_eq_true_eq, hunit]

/-- The characters of units are neither digits nor points nor white space. -/
theorem of_mem_units {u : String} (hu : u ∈ units) :
    ∀ c ∈ u.toList, c.isDigit = false ∧ c ≠ '.' ∧ Text.isBlank c = false := by
  have hunits : units.all (fun u => u.toList.all fun c => !c.isDigit && c != '.' && !Text.isBlank c) = true := by
    simp [units, Text.isBlank]
  intro c hc
  have hchar := List.all_eq_true.1 (List.all_eq_true.1 hunits u hu) c hc
  simpa [and_assoc] using hchar

theorem IsUnit.of_mem (h : IsUnit cs) : ∀ c ∈ cs, c.isDigit = false ∧ c ≠ '.' ∧ Text.isBlank c = false := by
  rcases h with rfl | h
  · nofun
  · have hmem := of_mem_units h
    rwa [String.toList_ofList] at hmem

/-- Digits are taken as far as they go, and what may follow them starts with none. -/
theorem digits_then_iff {p : List Char → Bool} (hp : ∀ rest, p rest = true → ∀ c ∈ rest.head?, c.isDigit = false) :
    (!(cs.takeWhile Char.isDigit).isEmpty && p (cs.dropWhile Char.isDigit)) = true ↔
      ∃ digits rest, cs = digits ++ rest ∧ IsDigits digits ∧ p rest = true := by
  rw [Bool.and_eq_true, Bool.not_eq_true', List.isEmpty_eq_false_iff]
  constructor
  · rintro ⟨hne, hrest⟩
    exact ⟨_, _, List.takeWhile_append_dropWhile.symm, ⟨hne, fun c hc => List.mem_takeWhile_imp hc⟩, hrest⟩
  · rintro ⟨digits, rest, rfl, ⟨hne, hdigits⟩, hrest⟩
    have htake : (digits ++ rest).takeWhile Char.isDigit = digits :=
      Text.takeWhile_append_eq_left_iff.2 ⟨hdigits, hp rest hrest⟩
    have hsplit : (digits ++ rest).takeWhile Char.isDigit ++ (digits ++ rest).dropWhile Char.isDigit = digits ++ rest :=
      List.takeWhile_append_dropWhile
    rw [htake, List.append_right_inj] at hsplit
    rw [htake, hsplit]
    exact ⟨hne, hrest⟩

theorem isUnit_head (rest : List Char) (h : isUnit rest = true) : ∀ c ∈ rest.head?, c.isDigit = false :=
  fun c hc => ((isUnit_iff.1 h).of_mem c (List.mem_of_mem_head? hc)).1

theorem isTail_iff : isTail cs = true ↔ ∃ fraction unit, cs = fraction ++ unit ∧ IsFraction fraction ∧ IsUnit unit := by
  unfold isTail
  split
  · rename_i rest
    rw [digits_then_iff isUnit_head]
    constructor
    · rintro ⟨places, unit, rfl, hplaces, hunit⟩
      exact ⟨'.' :: places, unit, rfl, .inr ⟨places, hplaces, rfl⟩, isUnit_iff.1 hunit⟩
    · rintro ⟨fraction, unit, heq, rfl | ⟨places, hplaces, rfl⟩, hunit⟩
      · rw [List.nil_append] at heq
        exact absurd rfl (hunit.of_mem '.' (heq ▸ List.mem_cons_self)).2.1
      · exact ⟨places, unit, (List.cons.inj heq).2, hplaces, isUnit_iff.2 hunit⟩
  · rename_i hpoint
    rw [isUnit_iff]
    constructor
    · exact fun h => ⟨[], cs, rfl, .inl rfl, h⟩
    · rintro ⟨fraction, unit, rfl, rfl | ⟨places, -, rfl⟩, hunit⟩
      · exact hunit
      · exact absurd rfl (hpoint _)

theorem isTail_head (rest : List Char) (h : isTail rest = true) : ∀ c ∈ rest.head?, c.isDigit = false := by
  obtain ⟨fraction, unit, rfl, rfl | ⟨places, -, rfl⟩, hunit⟩ := isTail_iff.1 h
  · exact isUnit_head _ (isUnit_iff.2 hunit)
  · rintro _ ⟨⟩
    rfl

theorem isValid_iff : isValid s = true ↔ IsWritten s := by
  rw [isValid, digits_then_iff isTail_head]
  constructor
  · rintro ⟨whole, rest, heq, hwhole, hrest⟩
    obtain ⟨fraction, unit, rfl, hfraction, hunit⟩ := isTail_iff.1 hrest
    exact ⟨whole, fraction, unit, by rw [heq, List.append_assoc], hwhole, hfraction, hunit⟩
  · rintro ⟨whole, fraction, unit, heq, hwhole, hfraction, hunit⟩
    exact ⟨whole, fraction ++ unit, by rw [heq, List.append_assoc], hwhole,
      isTail_iff.2 ⟨fraction, unit, rfl, hfraction, hunit⟩⟩

/-! ### White space around sizes -/

theorem IsDigits.isBlank_eq_false (h : IsDigits cs) : ∀ c ∈ cs, Text.isBlank c = false :=
  fun c hc => Text.isBlank_of_isDigit (h.2 c hc)

theorem IsWritten.trim_eq (h : IsWritten s) : Text.trim s = s := by
  obtain ⟨whole, fraction, unit, heq, hwhole, hfraction, hunit⟩ := h
  refine Text.trim_eq_self fun c hc => ?_
  rw [heq, List.mem_append, List.mem_append] at hc
  rcases hc with (hc | hc) | hc
  · exact hwhole.isBlank_eq_false c hc
  · rcases hfraction with rfl | ⟨places, hplaces, rfl⟩
    · cases hc
    · rcases List.mem_cons.1 hc with rfl | hc
      · rfl
      · exact hplaces.isBlank_eq_false c hc
  · exact (hunit.of_mem c hc).2.2

theorem isWritten_iff_trim_eq (h : isValid (Text.trim s) = true) : IsWritten s ↔ Text.trim s = s := by
  refine ⟨fun hs => hs.trim_eq, fun htrim => ?_⟩
  rw [htrim] at h
  exact isValid_iff.1 h

end Quantity

namespace Config

/-- What makes a configuration usable. -/
structure IsUsable (c : Config) : Prop where
  image : Text.isBlankText c.sidecars.image = false
  sessionSize : Quantity.isValid (Text.trim c.storage.defaultSessionSize) = true
  dataSourceSize : Quantity.isValid (Text.trim c.storage.dataSourceSize) = true
  storageClass : Text.isBlankText c.storage.dataSourceStorageClass = false
  requeue : 0 < c.reconcile.requeueSeconds ∧ 0 < c.reconcile.statusChangedRequeueSeconds ∧
    0 < c.reconcile.errorRequeueSeconds
  timeout : c.idle.enabled = true → 0 < c.idle.requestTimeoutSeconds

theorem check_eq_ok_iff {c : Config} : c.check = .ok () ↔ c.IsUsable := by
  unfold check
  constructor
  · intro h
    split_ifs at h with himage hsession hsource hclass hrequeue htimeout
    exact {
      image := by simpa using himage
      sessionSize := by simpa using hsession
      dataSourceSize := by simpa using hsource
      storageClass := by simpa using hclass
      requeue := by omega
      timeout := fun henabled => Nat.pos_of_ne_zero fun hzero => htimeout ⟨henabled, hzero⟩ }
  · intro h
    have hrequeue : ¬ (c.reconcile.requeueSeconds = 0 ∨ c.reconcile.statusChangedRequeueSeconds = 0 ∨
        c.reconcile.errorRequeueSeconds = 0) := by
      have hpos := h.requeue
      omega
    have htimeout : ¬ (c.idle.enabled = true ∧ c.idle.requestTimeoutSeconds = 0) := fun ⟨henabled, hzero⟩ =>
      absurd (h.timeout henabled) (by omega)
    rw [h.image, h.sessionSize, h.dataSourceSize, h.storageClass, if_neg hrequeue, if_neg htimeout]
    rfl

/-- Where nothing is configured, only the environment can make the defaults useless. -/
theorem isUsable_default_iff {env : Environment} : (Config.default env).IsUsable ↔
    (∀ image ∈ env.sidecarsImage, Text.isBlankText image = false) ∧
      ∀ name ∈ env.storageClass, Text.isBlankText name = false := by
  have himage : Text.isBlankText (SidecarsConfig.default env).image = false ↔
      ∀ image ∈ env.sidecarsImage, Text.isBlankText image = false := by
    rw [SidecarsConfig.default]
    cases env.sidecarsImage with
    | none => simp [Text.isBlankText, Text.isBlank]
    | some image => simp
  have hclass : Text.isBlankText (StorageConfig.default env).dataSourceStorageClass = false ↔
      ∀ name ∈ env.storageClass, Text.isBlankText name = false := by
    rw [StorageConfig.default]
    cases env.storageClass with
    | none => simp [Text.isBlankText, Text.isBlank]
    | some name => simp
  constructor
  · exact fun h => ⟨himage.1 h.image, hclass.1 h.storageClass⟩
  · rintro ⟨hsidecars, hname⟩
    have hsession : Text.trim "1Gi" = "1Gi" := Text.trim_eq_self (by simp [Text.isBlank])
    have hsource : Text.trim "10Gi" = "10Gi" := Text.trim_eq_self (by simp [Text.isBlank])
    exact {
      image := himage.2 hsidecars
      sessionSize := by
        rw [Config.default, StorageConfig.default, hsession]
        simp [Quantity.isValid, Quantity.isTail, Quantity.isUnit, Quantity.units]
      dataSourceSize := by
        rw [Config.default, StorageConfig.default, hsource]
        simp [Quantity.isValid, Quantity.isTail, Quantity.isUnit, Quantity.units]
      storageClass := hclass.2 hname
      requeue := show 0 < 10 ∧ 0 < 1 ∧ 0 < 30 by decide
      timeout := fun _ => show 0 < 5 by decide }

end Config

end SessionOperator
