import Mathlib.Algebra.Group.Nat.Defs
import QueryFilter.Proofs.Numeral.Decimal
import QueryFilter.Proofs.Time.Calendar
import QueryFilter.Time.Timestamp

/-!
# Timestamps of dates

The beginnings of the dates that can be read fit in 64 bits, so that they are in the order of the
dates.  A date of the years 0 to 9999 that is written with four digits for the year and two for the
month and the day is read as its beginning.
-/

namespace QueryFilter.Timestamp

open Decimal (numeral)

variable {a b d : Date}

/-! ### The order -/

theorem isValid_of_inRange (h : inRange d = true) :
  d.isValid = true
  := (Bool.and_eq_true_iff.mp h).2

theorem inRange_of_isValid (h : d.isValid = true) (hlow : 0 ≤ d.year) (hhigh : d.year ≤ 9999) :
  inRange d = true
  := by
  simp only [inRange, h, Bool.and_true, Bool.and_eq_true, decide_eq_true_eq]
  omega

/-- The beginning of a date that can be read. -/
theorem millis_ofDate (h : inRange d = true) :
  (ofDate d).millis.toInt = d.dayNumber * dayMillis
  := by
  have hvalid := isValid_of_inRange h
  have hyears : -262143 ≤ d.year ∧ d.year ≤ 262142 := by
    simp only [inRange, Bool.and_eq_true, decide_eq_true_eq] at h
    exact h.1
  have hlow := Date.yearStart_mono hyears.1
  have hfirst := d.le_dayNumber
  have hhigh := Date.yearStart_mono (Int.add_le_add_right hyears.2 1)
  have hlast := Date.dayNumber_lt_yearStart hvalid
  have hmin : Date.yearStart (-262143) = -96465292 := by decide
  have hmax : Date.yearStart (262142 + 1) = 95026237 := by decide
  rw [ofDate, Int64.toInt_ofInt_of_le]
  · rw [dayMillis]
    omega
  · rw [dayMillis]
    omega

/-- The beginnings of dates are in the order of the dates. -/
theorem notAfter_ofDate (ha : inRange a = true) (hb : inRange b = true) :
  (ofDate a).notAfter (ofDate b) = true ↔ a ≤ b
  := by
  rw [notAfter, decide_eq_true_eq, millis_ofDate ha, millis_ofDate hb,
    Int.mul_le_mul_right (by decide)]
  apply Date.dayNumber_strictMonoOn.le_iff_le (isValid_of_inRange ha) (isValid_of_inRange hb)

/-- Different dates have different beginnings. -/
theorem compare_ofDate_eq (ha : inRange a = true) (hb : inRange b = true) :
  (ofDate a).compare (ofDate b) = .eq ↔ a = b
  := by
  have hvalid := isValid_of_inRange ha
  have hvalid' := isValid_of_inRange hb
  rw [compare, compare_eq_iff_eq, millis_ofDate ha, millis_ofDate hb, Int.mul_eq_mul_right_iff]
  · apply Date.dayNumber_strictMonoOn.eq_iff_eq hvalid hvalid'
  · decide

/-! ### Reading -/

/-- The text does not begin with a digit. -/
def EndsDigits (rest : Text) : Prop := ∀ c ∈ rest.head?, c.isDigit = false

theorem endsDigits_nil :
  EndsDigits []
  := by
  rintro c ⟨⟩

theorem endsDigits_cons {c : Char} (hc : c.isDigit = false) (rest : Text) :
  EndsDigits (c :: rest)
  := by
  rintro _ ⟨⟩
  apply hc

/-- Digits are read up to the first character that is none. -/
theorem digits?_numeral {most zeros n : Nat} {rest : Text}
    (hlength : (numeral zeros n).length ≤ most) (hrest : EndsDigits rest) :
  digits? most (numeral zeros n ++ rest) = some (n, rest)
  := by
  have hnone : (rest.take (most - (numeral zeros n).length)).takeWhile Char.isDigit = [] := by
    cases rest with
    | nil => rw [List.take_nil, List.takeWhile_nil]
    | cons c rest =>
        cases most - (numeral zeros n).length with
        | zero => rfl
        | succ k => simp [hrest c rfl]
  have hdigits :
      ((numeral zeros n ++ rest).take most).takeWhile Char.isDigit = numeral zeros n := by
    rw [List.take_append, List.take_of_length_le hlength,
      List.takeWhile_append_of_pos fun _ => Decimal.isDigit_of_mem_numeral, hnone, List.append_nil]
  have hvalue : Nat.ofDigitChars 10 (numeral zeros n) 0 = n := Decimal.value_numeral zeros n
  simp only [digits?, hdigits, Decimal.isEmpty_numeral, hvalue, List.drop_left,
    Bool.false_eq_true, if_false]

/-- No blanks stand before digits. -/
theorem trimStart_numeral_append (zeros n : Nat) (rest : Text) :
  (numeral zeros n ++ rest).trimStart = numeral zeros n ++ rest
  := by
  obtain ⟨c, digits, hcons, hc⟩ := Decimal.exists_numeral_eq_cons zeros n
  apply Text.trimStart_eq_self_iff.mpr
  rw [hcons]
  rintro _ ⟨⟩
  apply (Text.isBareChar_of_isDigit hc).1

/-- A number below a power of ten has no more digits than its exponent. -/
theorem length_padded {width n : Nat} (hwidth : 0 < width) (h : n < 10 ^ width) :
  (padded width n).length = width
  := by
  have hle := (Nat.length_toDigits_le_iff (by decide) hwidth).mpr h
  rw [padded, List.length_append, List.length_replicate]
  omega

theorem field?_padded {n : Nat} {rest : Text} (h : n < 100)
    (hrest : EndsDigits rest) :
  field? (padded 2 n ++ rest) = some (n, rest)
  := by
  have hlength : (padded 2 n).length = 2 := length_padded (by decide) h
  rw [field?, padded, ← numeral, trimStart_numeral_append, digits?_numeral hlength.le hrest]

theorem field?_padded_cons {n : Nat} {c : Char} (h : n < 100) (hc : c.isDigit = false)
    (rest : Text) :
  field? (padded 2 n ++ c :: rest) = some (n, c :: rest)
  := field?_padded h (endsDigits_cons hc rest)

theorem year?_padded {n : Nat} {rest : Text} (h : n < 10000)
    (hrest : EndsDigits rest) :
  year? (padded 4 n ++ rest) = some ((n : Int), rest)
  := by
  have hlength : (padded 4 n).length = 4 := length_padded (by decide) h
  obtain ⟨c, digits, hcons, hc⟩ :=
    Decimal.exists_numeral_eq_cons (4 - (Nat.toDigits 10 n).length) n
  have hdigits := digits?_numeral hlength.le hrest
  rw [padded, ← numeral, year?, trimStart_numeral_append]
  rw [hcons] at hdigits ⊢
  split
  · rename_i heq
    cases heq
    cases hc
  · rename_i heq
    cases heq
    cases hc
  · rw [hdigits]
    rfl

/-! ### Written dates -/

theorem renderDate_eq (hlow : 0 ≤ d.year) (hhigh : d.year ≤ 9999) :
  renderDate d
    = padded 4 d.year.toNat ++ '-' :: (padded 2 d.month ++ '-' :: padded 2 d.day)
  := by
  have hyear : renderYear d.year = padded 4 d.year.toNat := by
    rw [renderYear, if_neg (by omega), if_neg (by omega)]
    apply congrArg (padded 4)
    omega
  rw [renderDate, hyear]
  simp

/-- A written date is read, whatever follows it but digits. -/
theorem date?_renderDate_append (h : d.isValid = true) (hlow : 0 ≤ d.year) (hhigh : d.year ≤ 9999)
    {rest : Text} (hrest : EndsDigits rest) :
  date? (renderDate d ++ rest) = some (d, rest)
  := by
  obtain ⟨hmonth, hday⟩ := Date.le_of_isValid h
  have hnat : d.year.toNat < 10000 := by omega
  have hhyphen : Char.isDigit '-' = false := rfl
  have hyear := year?_padded hnat
    (endsDigits_cons hhyphen (padded 2 d.month ++ '-' :: (padded 2 d.day ++ rest)))
  have hmonth' := field?_padded_cons (n := d.month) (by omega) hhyphen (padded 2 d.day ++ rest)
  have hday' := field?_padded (n := d.day) (by omega) hrest
  have hrange := inRange_of_isValid h hlow hhigh
  rw [Int.toNat_of_nonneg hlow] at hyear
  simp [date?, renderDate_eq hlow hhigh, hyear, hmonth', hday', char?, hrange]

theorem date?_renderDate (h : d.isValid = true) (hlow : 0 ≤ d.year) (hhigh : d.year ≤ 9999) :
  date? (renderDate d) = some (d, [])
  := by
  have happend := date?_renderDate_append h hlow hhigh endsDigits_nil
  rw [List.append_nil] at happend
  apply happend

theorem isBare_padded (width n : Nat) :
  (padded width n).IsBare
  := Decimal.isBare_numeral _ n

/-- A written date has neither blanks nor parentheses. -/
theorem isBare_renderDate (hlow : 0 ≤ d.year) (hhigh : d.year ≤ 9999) :
  (renderDate d).IsBare
  := by
  have hyphen : Text.IsBareChar '-' := by decide
  rw [renderDate_eq hlow hhigh]
  apply (isBare_padded _ _).append
  apply Text.IsBare.cons hyphen
  apply (isBare_padded _ _).append
  apply Text.IsBare.cons hyphen (isBare_padded _ _)

/-- A written date is read as its beginning. -/
theorem parse_renderDate (h : d.isValid = true) (hlow : 0 ≤ d.year) (hhigh : d.year ≤ 9999) :
  parse (renderDate d) = .ok (ofDate d)
  := by
  simp only [parse, (isBare_renderDate hlow hhigh).trim_eq, dateMillis?,
    date?_renderDate h hlow hhigh]
  rfl

theorem isBlank_renderDate (hlow : 0 ≤ d.year) (hhigh : d.year ≤ 9999) :
  (renderDate d).isBlank = false
  := by
  apply Text.isBlank_eq_false_of_mem (c := '-')
  · simp [renderDate_eq hlow hhigh]
  · decide

end QueryFilter.Timestamp
