import SessionOperator.Proofs.Fallible
import SessionOperator.Proofs.Text.Trim
import SessionOperator.Proofs.Time.Calendar
import SessionOperator.Time.Rfc3339

/-!
# Written instants read back

A text that was written of an instant is read as that instant, without the digits of the fraction that were not
written.  The lenient grammar reads every such text; the strict one those of years with four digits and no sign.

* `Instant.cut`: what is left of an instant when some digits of its fraction are not written;
* `Instant.parseLenient_write`: the lenient grammar reads back what was kept;
* `Instant.parse?_stamp`: the strict grammar does so in the years 0000-9999 and reads no other stamp;
* `Instant.write_cut`: what was read back is written as before;
* `Instant.stamp_eq_iff`, `Instant.stamp_reads_back`: a stamp stands for one second of the calendar, leap seconds
  included, and in the years 0000-9999 that second is what the strict grammar reads.
-/

namespace SessionOperator

/-- The nanoseconds of a second that the written digits keep. -/
def FractionDigits.keep (digits : FractionDigits) (nano : Nat) : Nat :=
  match digits with
  | .none => 0
  | .six => nano / 1000 * 1000
  | .exact => nano

theorem FractionDigits.keep_le (digits : FractionDigits) (nano : Nat) : digits.keep nano ≤ nano := by
  cases digits <;> simp only [keep] <;> omega

namespace Instant

open Fallible

/-- The instant with the digits of the fraction that are written. -/
def cut (t : Instant) (digits : FractionDigits) : Instant :=
  have h := digits.keep_le (t.nano % 1000000000)
  { t with
    nano := digits.keep (t.nano % 1000000000) + if t.isLeapSecond then 1000000000 else 0
    nano_lt := by split <;> omega
    leap_last := fun hn => t.leap_last (by
      split at hn
      · rename_i hleap; exact of_decide_eq_true hleap
      · omega) }

theorem cut_none (t : Instant) : t.cut .none = t.truncate := by
  simp [cut, truncate, FractionDigits.keep]

theorem cut_exact (t : Instant) : t.cut .exact = t := by
  have hn : t.nano % 1000000000 + (if t.isLeapSecond = true then 1000000000 else 0) = t.nano := by
    have := t.nano_lt
    simp only [isLeapSecond, decide_eq_true_eq]
    split <;> omega
  simp only [cut, FractionDigits.keep, hn]

/-! ### Digits -/

theorem padded_ne_nil (width n : Nat) : padded width n ≠ [] := by
  simp [padded, Nat.toDigits_ne_nil]

theorem isDigit_of_mem_padded {width n : Nat} {c : Char} (h : c ∈ padded width n) : c.isDigit = true := by
  rcases List.mem_append.1 h with h | h
  · rw [List.eq_of_mem_replicate h]; rfl
  · exact Nat.isDigit_of_mem_toDigits (by decide) (by decide) h

theorem length_padded {width n : Nat} (hw : 0 < width) (h : n < 10 ^ width) : (padded width n).length = width := by
  have := (Nat.length_toDigits_le_iff (b := 10) (by decide) hw).2 h
  simp only [padded, List.length_append, List.length_replicate]
  omega

/-- The number that digits stand for, as readers compute it. -/
private theorem foldl_padded (width n : Nat) :
    (padded width n).foldl (fun n c => n * 10 + (c.toNat - '0'.toNat)) 0 = n := by
  have h : Nat.ofDigitChars 10 (padded width n) 0 = n := by
    simp [padded, Nat.ofDigitChars_append]
  rw [Nat.ofDigitChars_eq_foldl] at h
  simpa only [Nat.mul_comm] using h

private theorem le_byteLength (cs : List Char) : cs.length ≤ byteLength cs := by
  have h : ∀ n, n + cs.length ≤ cs.foldl (fun n c => n + c.utf8Size) n := by
    induction cs with
    | nil => simp
    | cons c cs ih =>
      intro n
      have := ih (n + c.utf8Size)
      have := c.utf8Size_pos
      simp only [List.length_cons, List.foldl_cons]
      omega
  simpa [byteLength] using h 0

/-- Digits are taken up to the greatest allowed number of them, or up to something else. -/
private theorem takeWhile_digits {ds rest : List Char} {most : Nat} (hds : ∀ c ∈ ds, c.isDigit = true)
    (hmost : ds.length ≤ most) (hend : ds.length = most ∨ ∀ c ∈ rest.head?, c.isDigit = false) :
    ((ds ++ rest).take most).takeWhile Char.isDigit = ds := by
  obtain ⟨k, rfl⟩ : ∃ k, most = ds.length + k := ⟨most - ds.length, by omega⟩
  rw [List.take_append, List.take_of_length_le (by omega), Nat.add_sub_cancel_left,
    List.takeWhile_append_of_pos hds]
  suffices h : (rest.take k).takeWhile Char.isDigit = [] by rw [h, List.append_nil]
  rcases hend with hk | hrest
  · rw [show k = 0 by omega]; rfl
  · cases rest with
    | nil => simp
    | cons c rest =>
      cases k with
      | zero => rfl
      | succ k => simp [hrest c rfl]

/-- A padded number is read back, with what follows it left over. -/
theorem readNumber_padded {least most width n : Nat} {rest : List Char} (hleast : least ≤ (padded width n).length)
    (hmost : (padded width n).length ≤ most) (hn : n < 2 ^ 63)
    (hend : (padded width n).length = most ∨ ∀ c ∈ rest.head?, c.isDigit = false) :
    readNumber least most (padded width n ++ rest) = .ok (n, rest) := by
  have hlen := le_byteLength (padded width n ++ rest)
  rw [List.length_append] at hlen
  unfold readNumber
  simp only [takeWhile_digits (fun _ h => isDigit_of_mem_padded h) hmost hend, foldl_padded]
  rw [if_neg (by omega), if_neg (by omega), if_pos (show n < Nat.pow 2 63 from hn), List.drop_left]

theorem readNumber_two {n : Nat} (h : n < 100) (rest : List Char) :
    readNumber 2 2 (padded 2 n ++ rest) = .ok (n, rest) := by
  have hlen : (padded 2 n).length = 2 := length_padded (by decide) h
  exact readNumber_padded (by omega) (by omega) (by omega) (.inl hlen)

/-! ### Blanks -/

/-- A number starts with a digit, so that nothing is trimmed before it. -/
theorem padded_eq_cons (width n : Nat) : ∃ c cs, padded width n = c :: cs ∧ c.isDigit = true := by
  obtain ⟨c, cs, h⟩ := List.exists_cons_of_ne_nil (padded_ne_nil width n)
  exact ⟨c, cs, h, isDigit_of_mem_padded (h ▸ List.mem_cons_self)⟩

private theorem trimStart_padded (width n : Nat) (rest : List Char) :
    Text.trimStart (padded width n ++ rest) = padded width n ++ rest := by
  obtain ⟨c, cs, h, hc⟩ := padded_eq_cons width n
  rw [h, List.cons_append, Text.trimStart_cons (Text.isBlank_of_isDigit hc)]

theorem readShortNumber_padded {n : Nat} (h : n < 100) (rest : List Char) :
    readShortNumber (padded 2 n ++ rest) = .ok (n, rest) := by
  have hlen : (padded 2 n).length = 2 := length_padded (by decide) h
  rw [readShortNumber, trimStart_padded]
  exact readNumber_padded (by omega) (by omega) (by omega) (.inl hlen)

/-! ### Years and fractions -/

/-- A year of four digits is written without a sign. -/
theorem readNumber_writeYear {year : Int} (h₁ : 0 ≤ year) (h₂ : year ≤ 9999) (rest : List Char) :
    readNumber 4 4 (writeYear year ++ rest) = .ok (year.toNat, rest) := by
  have hlen : (padded 4 year.toNat).length = 4 := length_padded (by decide) (by omega)
  rw [writeYear, if_pos ⟨h₁, h₂⟩]
  exact readNumber_padded (by omega) (by omega) (by omega) (.inl hlen)

/-- Any other year is written with a sign, which is not a digit. -/
theorem readNumber_writeYear_signed {year : Int} (h : ¬(0 ≤ year ∧ year ≤ 9999)) (rest : List Char) :
    ∃ e, readNumber 4 4 (writeYear year ++ rest) = .error e := by
  obtain ⟨sign, hsign, heq⟩ : ∃ sign : Char, sign.isDigit = false ∧
      writeYear year = sign :: padded 4 year.natAbs := by
    rw [writeYear, if_neg h]
    refine ⟨_, ?_, rfl⟩
    split <;> rfl
  rw [heq, readNumber]
  simp only [List.cons_append, List.take_succ_cons, List.takeWhile_cons, hsign]
  split
  · exact ⟨_, rfl⟩
  · exact ⟨_, rfl⟩

private theorem inYearRange {year : Int} (h₁ : -300000 < year) (h₂ : year < 300000) :
    -2 ^ 31 ≤ year ∧ year < 2 ^ 31 := by
  omega

/-- A year without a sign has at most four digits. -/
private theorem readYearLenient_padded {n : Nat} (h : n < 10 ^ 4) (rest : List Char) :
    readYearLenient (padded 4 n ++ '-' :: rest) = .ok ((n : Int), '-' :: rest) := by
  have hlen : (padded 4 n).length = 4 := length_padded (by decide) h
  have hread : readNumber 1 4 (padded 4 n ++ '-' :: rest) = .ok (n, '-' :: rest) :=
    readNumber_padded (by omega) (by omega) (by omega) (.inl hlen)
  obtain ⟨c, cs, hc, hdigit⟩ := padded_eq_cons 4 n
  have hminus : c ≠ '-' := by rintro rfl; exact absurd hdigit (by decide)
  have hplus : c ≠ '+' := by rintro rfl; exact absurd hdigit (by decide)
  rw [hc, List.cons_append] at hread
  rw [readYearLenient, hc, List.cons_append, Text.trimStart_cons (Text.isBlank_of_isDigit hdigit)]
  split
  · rename_i heq; exact absurd (List.cons.inj heq).1 hminus
  · rename_i heq; exact absurd (List.cons.inj heq).1 hplus
  · rw [hread, map_ok, ok_bind]
    exact if_pos (inYearRange (by omega) (by omega))

/-- After a sign any number of digits counts. -/
private theorem readNumber_signed {n : Nat} (h : n < 300000) (rest : List Char) :
    readNumber 1 (padded 4 n ++ '-' :: rest).length (padded 4 n ++ '-' :: rest) = .ok (n, '-' :: rest) := by
  have hpos := List.length_pos_iff.2 (padded_ne_nil 4 n)
  exact readNumber_padded (by omega) (by rw [List.length_append]; omega) (by omega)
    (.inr fun c hc => by cases hc; rfl)

private theorem readYearLenient_minus {n : Nat} (h : n < 300000) (rest : List Char) :
    readYearLenient ('-' :: (padded 4 n ++ '-' :: rest)) = .ok (-(n : Int), '-' :: rest) := by
  rw [readYearLenient, Text.trimStart_cons rfl]
  simp only [readNumber_signed h]
  rw [map_ok, ok_bind]
  exact if_pos (inYearRange (by omega) (by omega))

private theorem readYearLenient_plus {n : Nat} (h : n < 300000) (rest : List Char) :
    readYearLenient ('+' :: (padded 4 n ++ '-' :: rest)) = .ok ((n : Int), '-' :: rest) := by
  rw [readYearLenient, Text.trimStart_cons rfl]
  simp only [readNumber_signed h]
  rw [map_ok, ok_bind]
  exact if_pos (inYearRange (by omega) (by omega))

theorem readYearLenient_writeYear {year : Int} (h₁ : -300000 < year) (h₂ : year < 300000) (rest : List Char) :
    readYearLenient (writeYear year ++ '-' :: rest) = .ok (year, '-' :: rest) := by
  unfold writeYear
  split
  · rename_i h
    rw [readYearLenient_padded (by omega), Int.toNat_of_nonneg h.1]
  · by_cases hneg : year < 0
    · rw [if_pos hneg, List.cons_append, readYearLenient_minus (by omega), show -(year.natAbs : Int) = year by omega]
    · rw [if_neg hneg, List.cons_append, readYearLenient_plus (by omega), show (year.natAbs : Int) = year by omega]

/-- A fraction of `width` digits counts in units of the last one. -/
private theorem readFraction_padded {width n : Nat} (hw : 0 < width) (hw' : width ≤ 9) (h : n < 10 ^ width) :
    readFraction ('.' :: (padded width n ++ ['Z'])) = .ok (n * 10 ^ (9 - width), ['Z']) := by
  have hlen := length_padded hw h
  have hn : n < 2 ^ 63 := h.trans_le ((Nat.pow_le_pow_right (by decide) hw').trans (by decide))
  have hread : readNumber 1 9 (padded width n ++ ['Z']) = .ok (n, ['Z']) :=
    readNumber_padded (by omega) (by omega) hn (.inr fun c hc => by cases hc; rfl)
  simp only [readFraction, hread, ok_bind, List.length_append, hlen, Nat.add_sub_cancel]
  rfl

theorem readFraction_writeFraction (digits : FractionDigits) {nano : Nat} (h : nano < 1000000000) :
    readFraction (writeFraction digits nano ++ ['Z']) = .ok (digits.keep nano, ['Z']) := by
  unfold writeFraction
  split
  · rfl
  · rw [List.cons_append, readFraction_padded (by decide) (by decide) (by omega)]
    rfl
  · split
    · rename_i h0
      rw [h0]; rfl
    · split
      · rw [List.cons_append, readFraction_padded (by decide) (by decide) (by omega)]
        simp only [FractionDigits.keep, Except.ok.injEq, Prod.mk.injEq, and_true]
        omega
      · split
        · rw [List.cons_append, readFraction_padded (by decide) (by decide) (by omega)]
          simp only [FractionDigits.keep, Except.ok.injEq, Prod.mk.injEq, and_true]
          omega
        · rw [List.cons_append, readFraction_padded (by decide) (by decide) (by omega)]
          simp [FractionDigits.keep]

/-! ### Instants -/

/-- The parts that a written instant shows. -/
def parts (t : Instant) (digits : FractionDigits) : Parts where
  year := (Date.ofDay t.day).year
  month := (Date.ofDay t.day).month
  day := (Date.ofDay t.day).day
  hour := t.second / 3600
  minute := t.second / 60 % 60
  second := t.second % 60 + if t.isLeapSecond then 1 else 0
  nano := digits.keep (t.nano % 1000000000)
  offset := 0

/-- Second 60 is shown for a leap second and for nothing else. -/
private theorem parts_second (t : Instant) (digits : FractionDigits) :
    (t.parts digits).second = 60 ↔ t.isLeapSecond = true := by
  have := t.leap_last
  simp only [parts, isLeapSecond, decide_eq_true_eq] at this ⊢
  split <;> omega

private theorem parts_bounds (t : Instant) (digits : FractionDigits) :
    (1 ≤ (t.parts digits).month ∧ (t.parts digits).month ≤ 12) ∧
      (1 ≤ (t.parts digits).day ∧ (t.parts digits).day ≤ 31) ∧ (t.parts digits).hour ≤ 23 ∧
      (t.parts digits).minute ≤ 59 ∧ (t.parts digits).second ≤ 60 := by
  have hsec := t.second_lt
  refine ⟨Date.month_ofDay t.day, Date.day_ofDay t.day, ?_, ?_, ?_⟩
  · simp only [parts]
    omega
  · simp only [parts]
    omega
  · simp only [parts]
    split <;> omega

theorem ofParts_parts (t : Instant) (digits : FractionDigits) : ofParts (t.parts digits) = .ok (t.cut digits) := by
  have hcal : Date.inCalendar t.day = true := (Date.inCalendar_iff _).2 ⟨t.firstDay_le, t.le_lastDay⟩
  have hsec := t.second_lt
  have hlast := t.leap_last
  have hkeep := digits.keep_le (t.nano % 1000000000)
  have h60 := parts_second t digits
  obtain ⟨-, -, -, -, hsecond⟩ := parts_bounds t digits
  have hdate : Date.ofParts? (t.parts digits).year (t.parts digits).month (t.parts digits).day =
      some (Date.ofDay t.day) := Date.ofParts?_ofDay t.day
  have hminutes : ((t.parts digits).hour * 60 + (t.parts digits).minute : Nat) - (t.parts digits).offset =
      ((t.second / 60 : Nat) : Int) := by simp only [parts]; omega
  have hday : t.day + ((t.second / 60 : Nat) : Int) / 1440 = t.day := by omega
  have hrest : (((t.second / 60 : Nat) : Int) % 1440).toNat * 60 + min (t.parts digits).second 59 = t.second := by
    simp only [parts, isLeapSecond, decide_eq_true_eq]
    split <;> omega
  unfold ofParts
  simp only [hdate, Date.toDay_ofDay, hminutes]
  rw [dif_pos ⟨hcal, by simp only [parts]; omega, by simp only [parts]; omega, hsecond,
    by simp only [parts]; omega, by simp only [parts]; omega, by simp only [parts]; omega⟩]
  simp only [hday, hrest]
  rw [dif_pos hcal]
  simp only [cut, Except.ok.injEq, Instant.mk.injEq, true_and]
  by_cases hleap : t.isLeapSecond = true
  · rw [if_pos (h60.2 hleap), if_pos hleap]; rfl
  · rw [if_neg (mt h60.1 hleap), if_neg hleap]; rfl

/-! ### Texts -/

/-- The characters of a written instant, part after part. -/
private theorem toList_write (t : Instant) (digits : FractionDigits) :
    (t.write digits).toList = writeYear (t.parts digits).year ++ '-' :: (padded 2 (t.parts digits).month ++
      '-' :: (padded 2 (t.parts digits).day ++ 'T' :: (padded 2 (t.parts digits).hour ++
      ':' :: (padded 2 (t.parts digits).minute ++ ':' :: (padded 2 (t.parts digits).second ++
      (writeFraction digits (t.nano % 1000000000) ++ ['Z'])))))) := by
  simp only [write, String.toList_ofList, List.append_assoc, List.cons_append]
  rfl

private theorem readMark_same (c : Char) (h : Text.isBlank c = false) (rest : List Char) :
    readMark c (c :: rest) = .ok rest := by
  simp [readMark, Text.trimStart_cons h, readChar]

private theorem within_ok {low high n : Nat} (h₁ : low ≤ n) (h₂ : n ≤ high) : within low high n = .ok () :=
  if_pos ⟨h₁, h₂⟩

private theorem readOffsetLenient_utc : readOffsetLenient ['Z'] = .ok (0, []) := by
  have h : Text.trimStart ['Z'] = ['Z'] := Text.trimStart_cons (by decide) []
  rw [readOffsetLenient, h]
  rfl

/-- The lenient grammar reads back what was kept of an instant. -/
theorem parseLenient_write (t : Instant) (digits : FractionDigits) :
    parseLenient (t.write digits) = .ok (t.cut digits) := by
  have hyear : -300000 < (t.parts digits).year ∧ (t.parts digits).year < 300000 :=
    Date.year_ofDay_bounds t.firstDay_le t.le_lastDay
  obtain ⟨hmonth, hday, hhour, hminute, hsecond⟩ := parts_bounds t digits
  -- one part after the other, each with the mark in front of it
  rw [parseLenient, toList_write, readLenient, readYearLenient_writeYear hyear.1 hyear.2, ok_bind]
  dsimp only
  rw [readMark_same '-' (by decide), ok_bind, readShortNumber_padded (by omega), ok_bind]
  dsimp only
  rw [within_ok hmonth.1 hmonth.2, ok_bind, readMark_same '-' (by decide), ok_bind,
    readShortNumber_padded (by omega), ok_bind]
  dsimp only
  rw [within_ok hday.1 hday.2, ok_bind, readSeparator, if_pos (.inl rfl), ok_bind,
    readShortNumber_padded (by omega), ok_bind]
  dsimp only
  rw [within_ok (by omega) hhour, ok_bind, readMark_same ':' (by decide), ok_bind,
    readShortNumber_padded (by omega), ok_bind]
  dsimp only
  rw [within_ok (by omega) hminute, ok_bind, readMark_same ':' (by decide), ok_bind,
    readShortNumber_padded (by omega), ok_bind]
  dsimp only
  rw [within_ok (by omega) hsecond, ok_bind, readFraction_writeFraction digits (by omega), ok_bind]
  dsimp only
  rw [readOffsetLenient_utc, ok_bind]
  exact ofParts_parts t digits

def year (t : Instant) : Int := (Date.ofDay t.day).year

/-- The strict grammar reads back what was kept of an instant whose year needs no sign. -/
theorem readStrict_write (t : Instant) (digits : FractionDigits) (h : 0 ≤ t.year ∧ t.year ≤ 9999) :
    readStrict (t.write digits).toList = .ok (t.cut digits) := by
  have hyear : 0 ≤ (t.parts digits).year ∧ (t.parts digits).year ≤ 9999 := h
  obtain ⟨hmonth, hday, hhour, hminute, hsecond⟩ := parts_bounds t digits
  rw [toList_write, readStrict, readNumber_writeYear hyear.1 hyear.2, ok_bind]
  dsimp only
  rw [readChar, if_pos rfl, ok_bind, readNumber_two (by omega), ok_bind]
  dsimp only
  rw [readChar, if_pos rfl, ok_bind, readNumber_two (by omega), ok_bind]
  dsimp only
  rw [readSeparator, if_pos (.inl rfl), ok_bind, readNumber_two (by omega), ok_bind]
  dsimp only
  rw [readChar, if_pos rfl, ok_bind, readNumber_two (by omega), ok_bind]
  dsimp only
  rw [readChar, if_pos rfl, ok_bind, readNumber_two (by omega), ok_bind]
  dsimp only
  rw [readFraction_writeFraction digits (by omega), ok_bind, Int.toNat_of_nonneg hyear.1]
  exact ofParts_parts t digits

/-- A stamp reads back as the instant it was written of, without its fraction, unless its year needs a sign. -/
theorem parse?_stamp (t : Instant) :
    parse? t.stamp = if 0 ≤ t.year ∧ t.year ≤ 9999 then some t.truncate else none := by
  split
  · rename_i h
    rw [parse?, stamp, readStrict_write t .none h, cut_none]
    rfl
  · rename_i h
    obtain ⟨e, he⟩ := readNumber_writeYear_signed h ('-' :: (padded 2 (t.parts .none).month ++
      '-' :: (padded 2 (t.parts .none).day ++ 'T' :: (padded 2 (t.parts .none).hour ++
      ':' :: (padded 2 (t.parts .none).minute ++ ':' :: (padded 2 (t.parts .none).second ++
      (writeFraction .none (t.nano % 1000000000) ++ ['Z'])))))))
    have herror : readStrict (t.write .none).toList = .error e := by
      rw [toList_write, readStrict]
      exact (congrArg (· >>= _) he).trans (error_bind e _)
    rw [parse?, stamp, herror]
    rfl

private theorem nano_cut (t : Instant) (digits : FractionDigits) :
    (t.cut digits).nano % 1000000000 = digits.keep (t.nano % 1000000000) ∧
      (t.cut digits).isLeapSecond = t.isLeapSecond := by
  have hkeep := digits.keep_le (t.nano % 1000000000)
  by_cases h : 1000000000 ≤ t.nano
  · simp only [cut, isLeapSecond, h, decide_true, if_true, decide_eq_true_eq]
    omega
  · simp only [cut, isLeapSecond, h, decide_false, Bool.false_eq_true, if_false, Nat.add_zero,
      decide_eq_false_iff_not]
    omega

/-- What was read back is written as before. -/
theorem write_cut (t : Instant) (digits : FractionDigits) : (t.cut digits).write digits = t.write digits := by
  obtain ⟨hnano, hleap⟩ := nano_cut t digits
  have hfraction : ∀ n, writeFraction digits (digits.keep n) = writeFraction digits n := by
    intro n
    cases digits with
    | none | exact => rfl
    | six => simp [writeFraction, FractionDigits.keep]
  unfold write
  rw [hnano, hleap, hfraction]
  rfl

/-! ### Stamps -/

/-- Without its fraction an instant is still in the same second. -/
theorem truncate_spec (t : Instant) :
    t.truncate.unix = t.unix ∧ t.truncate.isLeapSecond = t.isLeapSecond ∧ t.truncate.nano % 1000000000 = 0 := by
  obtain ⟨hnano, hleap⟩ := nano_cut t .none
  rw [cut_none] at hnano hleap
  exact ⟨rfl, hleap, hnano⟩

/-- A stamp says of an instant which second it lies in, and no more than that. -/
theorem stamp_eq_iff {a b : Instant} : a.stamp = b.stamp ↔ a.unix = b.unix ∧ a.isLeapSecond = b.isLeapSecond := by
  constructor
  · intro h
    -- the lenient grammar reads stamps of all years
    have hread : parseLenient a.stamp = parseLenient b.stamp := congrArg parseLenient h
    rw [stamp, stamp, parseLenient_write, parseLenient_write, cut_none, cut_none, Except.ok.injEq] at hread
    obtain ⟨haUnix, haLeap, -⟩ := truncate_spec a
    obtain ⟨hbUnix, hbLeap, -⟩ := truncate_spec b
    rw [← haUnix, ← haLeap, hread]
    exact ⟨hbUnix, hbLeap⟩
  · rintro ⟨hunix, hleap⟩
    have ha := a.second_lt
    have hb := b.second_lt
    simp only [unix] at hunix
    have hday : a.day = b.day := by omega
    have hsecond : a.second = b.second := by omega
    simp only [stamp, write, writeFraction, hday, hsecond, hleap]

/-- A stamp of the years 0000-9999 reads back as the second that it was written in, a leap second as a leap second,
and that second is stamped alike. -/
theorem stamp_reads_back (t : Instant) (h : 0 ≤ t.year ∧ t.year ≤ 9999) :
    ∃ u, parse? t.stamp = some u ∧ u.unix = t.unix ∧ u.isLeapSecond = t.isLeapSecond ∧
      u.nano % 1000000000 = 0 ∧ u.stamp = t.stamp := by
  obtain ⟨hunix, hleap, hwhole⟩ := truncate_spec t
  have hread : parse? t.stamp = some t.truncate := by rw [parse?_stamp, if_pos h]
  have hstamp : t.truncate.stamp = t.stamp := stamp_eq_iff.2 ⟨hunix, hleap⟩
  exact ⟨t.truncate, hread, hunix, hleap, hwhole, hstamp⟩

/-- The last nanosecond of the year 9999, which is one of a leap second. -/
theorem stamp_reads_back_last :
    let t : Instant := { day := 2932896, second := 86399, nano := 1999999999 }
    (0 ≤ t.year ∧ t.year ≤ 9999) ∧ t.stamp = "9999-12-31T23:59:60Z" ∧
      ∃ u, parse? t.stamp = some u ∧ u.unix = t.unix ∧ u.isLeapSecond = t.isLeapSecond ∧
        u.nano % 1000000000 = 0 ∧ u.stamp = t.stamp := by
  intro t
  have hyear : 0 ≤ t.year ∧ t.year ≤ 9999 := by decide
  have hstamp : t.stamp = "9999-12-31T23:59:60Z" := by decide +kernel
  exact ⟨hyear, hstamp, stamp_reads_back t hyear⟩

end Instant

end SessionOperator
