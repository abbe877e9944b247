import QueryFilter.Proofs.Time.DayNumber
import QueryFilter.Proofs.Time.Timestamp

/-!
# Written timestamps

A timestamp of the years 0 to 9999 that is written is read as the same timestamp.  Its text goes on
after the date and after the time of day, so that only the reading with an offset takes all of it,
and that one finds the date of the day and the time of day in milliseconds again.
-/

namespace QueryFilter.Timestamp

variable {d : Date} {t : Timestamp} {rest : Text}

/-! ### Fields of fixed width -/

theorem value_padded (width n : Nat) :
  Nat.ofDigitChars 10 (padded width n) 0 = n
  := Decimal.value_numeral _ n

theorem isDigit_of_mem_padded {width n : Nat} {c : Char} (h : c ∈ padded width n) :
  c.isDigit = true
  := Decimal.isDigit_of_mem_numeral h

theorem fixed?_padded {width n : Nat} (hwidth : 0 < width) (h : n < 10 ^ width) (rest : Text) :
  fixed? width (padded width n ++ rest) = some (n, rest)
  := by
  have hlength := length_padded hwidth h
  have hall : (padded width n).all Char.isDigit = true :=
    List.all_eq_true.mpr fun _ => isDigit_of_mem_padded
  simp only [fixed?, List.take_left' hlength, List.drop_left' hlength, hlength, hall,
    value_padded, and_self, if_true]

/-- The digits of the milliseconds are read as the fraction of a second. -/
theorem fraction?_padded {millis : Nat} (h : millis < 1000) (hrest : EndsDigits rest) :
  fraction? ('.' :: (padded 3 millis ++ rest)) = some (millis, rest)
  := by
  have hlength : (padded 3 millis).length = 3 := length_padded (by decide) h
  have hnone : rest.takeWhile Char.isDigit = [] := by
    cases rest with
    | nil => rfl
    | cons c rest => rw [List.takeWhile_cons, hrest c rfl, if_neg Bool.false_ne_true]
  have hdigits : (padded 3 millis ++ rest).takeWhile Char.isDigit = padded 3 millis := by
    rw [List.takeWhile_append_of_pos fun _ => isDigit_of_mem_padded, hnone, List.append_nil]
  have hempty : (padded 3 millis).isEmpty = false := Decimal.isEmpty_numeral _ millis
  simp only [fraction?, hdigits, hempty, Bool.false_eq_true, if_false, fractionMillis,
    List.take_left' hlength, value_padded, List.drop_left]

/-! ### Times of day -/

/-- Hours, minutes, seconds and milliseconds make up a time of day. -/
theorem timeMillis_of_div (millis : Nat) :
  timeMillis (millis / 3600000) (millis / 60000 % 60) (millis / 1000 % 60) (millis % 1000)
    = millis
  := by
  rw [timeMillis]
  omega

theorem isTimeOfDay_of_lt {millis : Nat} (h : millis < 86400000) :
  isTimeOfDay (millis / 3600000) (millis / 60000 % 60) (millis / 1000 % 60) = true
  := by
  simp only [isTimeOfDay, Bool.and_eq_true, decide_eq_true_eq]
  omega

theorem renderTime_append (millis : Nat) (rest : Text) :
  renderTime millis ++ rest
    = padded 2 (millis / 3600000) ++ ':' :: (padded 2 (millis / 60000 % 60)
      ++ ':' :: (padded 2 (millis / 1000 % 60) ++ '.' :: (padded 3 (millis % 1000) ++ rest)))
  := by simp [renderTime]

/-- A written time of day is read, whatever follows it but digits. -/
theorem time?_renderTime_append {millis : Nat} (h : millis < 86400000) (hrest : EndsDigits rest) :
  time? (renderTime millis ++ rest) = some ((millis : Int), rest)
  := by
  have hfraction := fraction?_padded (Nat.mod_lt millis (by decide)) hrest
  have hcolon : Char.isDigit ':' = false := rfl
  have hpoint : Char.isDigit '.' = false := rfl
  have hhour : millis / 3600000 < 100 := by omega
  have hminute : millis / 60000 % 60 < 100 := by omega
  have hsecond : millis / 1000 % 60 < 100 := by omega
  simp only [time?, renderTime_append, field?_padded_cons hhour hcolon,
    field?_padded_cons hminute hcolon, field?_padded_cons hsecond hpoint, hfraction, char?,
    isTimeOfDay_of_lt h, timeMillis_of_div, Option.bind_eq_bind, Option.bind_some, if_true]

/-! ### Written timestamps -/

/-- The text of a date and a time of day in universal time. -/
def renderUniversal (d : Date) (millis : Nat) : Text :=
  renderDate d ++ 'T' :: (renderTime millis ++ ['Z'])

theorem isBare_renderUniversal (hlow : 0 ≤ d.year) (hhigh : d.year ≤ 9999) (millis : Nat) :
  (renderUniversal d millis).IsBare
  := by
  have hcolon : Text.IsBareChar ':' := by decide
  rw [renderUniversal, renderTime_append]
  apply (isBare_renderDate hlow hhigh).append
  apply Text.IsBare.cons (by decide)
  apply (isBare_padded _ _).append
  apply Text.IsBare.cons hcolon
  apply (isBare_padded _ _).append
  apply Text.IsBare.cons hcolon
  apply (isBare_padded _ _).append
  apply Text.IsBare.cons (by decide)
  apply (isBare_padded _ _).append
  apply Text.IsBare.cons (by decide)
  rintro _ ⟨⟩

theorem date?_renderUniversal (hvalid : d.isValid = true) (hlow : 0 ≤ d.year)
    (hhigh : d.year ≤ 9999) (millis : Nat) :
  date? (renderUniversal d millis) = some (d, 'T' :: (renderTime millis ++ ['Z']))
  := date?_renderDate_append hvalid hlow hhigh (endsDigits_cons (by decide) _)

/-- A time of day follows the date, so that the text is no date. -/
theorem dateMillis?_renderUniversal (hvalid : d.isValid = true) (hlow : 0 ≤ d.year)
    (hhigh : d.year ≤ 9999) (millis : Nat) :
  dateMillis? (renderUniversal d millis) = none
  := by
  rw [dateMillis?, date?_renderUniversal hvalid hlow hhigh]
  rfl

/-- An offset follows the time of day, so that the text is no date and time of day alone. -/
theorem dateTimeMillis?_renderUniversal (hvalid : d.isValid = true) (hlow : 0 ≤ d.year)
    (hhigh : d.year ≤ 9999) {millis : Nat} (h : millis < 86400000) :
  dateTimeMillis? (renderUniversal d millis) = none
  := by
  have hoffset : Char.isDigit 'Z' = false := rfl
  have htime := time?_renderTime_append h (endsDigits_cons hoffset [])
  simp only [dateTimeMillis?, date?_renderUniversal hvalid hlow hhigh, char?, htime,
    Option.bind_eq_bind, Option.bind_some, if_true, whole?]

/-- The reading with an offset takes all of the text. -/
theorem offsetTime?_renderUniversal (hvalid : d.isValid = true) (hlow : 0 ≤ d.year)
    (hhigh : d.year ≤ 9999) {millis : Nat} (h : millis < 86400000) :
  offsetTime? (renderUniversal d millis) = some (d.dayNumber * dayMillis + millis, [])
  := by
  obtain ⟨hmonth, hday⟩ := Date.le_of_isValid hvalid
  have hyear : d.year.toNat < 10 ^ 4 := by omega
  have hmonth' : d.month < 10 ^ 2 := by omega
  have hday' : d.day < 10 ^ 2 := by omega
  have hhour : millis / 3600000 < 10 ^ 2 := by omega
  have hminute : millis / 60000 % 60 < 10 ^ 2 := by omega
  have hsecond : millis / 1000 % 60 < 10 ^ 2 := by omega
  have hoffset : Char.isDigit 'Z' = false := rfl
  have hfraction := fraction?_padded (Nat.mod_lt millis (by decide)) (endsDigits_cons hoffset [])
  have hdate : (⟨d.year.toNat, d.month, d.day⟩ : Date) = d := by
    rw [Int.toNat_of_nonneg hlow]
  have htext : renderUniversal d millis
      = padded 4 d.year.toNat ++ '-' :: (padded 2 d.month ++ '-' :: (padded 2 d.day
        ++ 'T' :: (renderTime millis ++ ['Z']))) := by
    simp [renderUniversal, renderDate_eq hlow hhigh]
  have hresult : d.isValid
      && isTimeOfDay (millis / 3600000) (millis / 60000 % 60) (millis / 1000 % 60) := by
    rw [hvalid, isTimeOfDay_of_lt h, Bool.and_self]
  rw [htext, renderTime_append, offsetTime?]
  refine Option.bind_eq_some_iff.mpr ⟨_, fixed?_padded (by decide) hyear _, ?_⟩
  refine Option.bind_eq_some_iff.mpr ⟨_, rfl, ?_⟩
  refine Option.bind_eq_some_iff.mpr ⟨_, fixed?_padded (by decide) hmonth' _, ?_⟩
  refine Option.bind_eq_some_iff.mpr ⟨_, rfl, ?_⟩
  refine Option.bind_eq_some_iff.mpr ⟨_, fixed?_padded (by decide) hday' _, ?_⟩
  refine Option.bind_eq_some_iff.mpr ⟨_, rfl, ?_⟩
  refine Option.bind_eq_some_iff.mpr ⟨_, fixed?_padded (by decide) hhour _, ?_⟩
  refine Option.bind_eq_some_iff.mpr ⟨_, rfl, ?_⟩
  refine Option.bind_eq_some_iff.mpr ⟨_, fixed?_padded (by decide) hminute _, ?_⟩
  refine Option.bind_eq_some_iff.mpr ⟨_, rfl, ?_⟩
  refine Option.bind_eq_some_iff.mpr ⟨_, fixed?_padded (by decide) hsecond _, ?_⟩
  refine Option.bind_eq_some_iff.mpr ⟨_, hfraction, ?_⟩
  refine Option.bind_eq_some_iff.mpr ⟨_, rfl, ?_⟩
  simp only [hdate, hresult, if_true, timeMillis_of_div, Int.zero_mul, Int.sub_zero]

/-- A written date and time of day is read, whatever blanks stand around it. -/
theorem parse_around_renderUniversal (hvalid : d.isValid = true) (hlow : 0 ≤ d.year)
    (hhigh : d.year ≤ 9999) {millis : Nat} (h : millis < 86400000) (p : Text.Padding) :
  parse (p.around (renderUniversal d millis)) = .ok ⟨.ofInt (d.dayNumber * dayMillis + millis)⟩
  := by
  simp only [parse, p.trim_around, (isBare_renderUniversal hlow hhigh millis).trim_eq,
    dateMillis?_renderUniversal hvalid hlow hhigh,
    dateTimeMillis?_renderUniversal hvalid hlow hhigh h,
    offsetTime?_renderUniversal hvalid hlow hhigh h]
  rfl

/-! ### Timestamps of the years 0 to 9999 -/

/-- The day on which a timestamp lies. -/
def day (t : Timestamp) : Int := t.millis.toInt / dayMillis

/-- The time of day of a timestamp in milliseconds. -/
def timeOfDay (t : Timestamp) : Nat := (t.millis.toInt % dayMillis).toNat

/-- The year of the date on which a timestamp lies. -/
def year (t : Timestamp) : Int := (Date.ofDayNumber t.day).year

/-- A year begins with the first of January and ends when the next one begins. -/
theorem year_eq_iff {year : Int} :
  t.year = year ↔ Date.yearStart year * dayMillis ≤ t.millis.toInt
    ∧ t.millis.toInt < Date.yearStart (year + 1) * dayMillis
  := by
  have hpos : 0 < dayMillis := by decide
  rw [Timestamp.year, Date.year_ofDayNumber, Date.yearOf_eq_iff, day,
    Int.le_ediv_iff_mul_le hpos, Int.ediv_lt_iff_lt_mul hpos]

theorem timeOfDay_lt (t : Timestamp) :
  t.timeOfDay < 86400000
  := by
  rw [timeOfDay, dayMillis]
  omega

/-- A timestamp is its time of day after the beginning of its day, before 1970 too. -/
theorem day_mul_add_timeOfDay (t : Timestamp) :
  t.day * dayMillis + t.timeOfDay = t.millis.toInt
  := by
  rw [day, timeOfDay, dayMillis]
  omega

theorem hasDate_of_year (hlow : 0 ≤ t.year) (hhigh : t.year ≤ 9999) :
  t.hasDate = true
  := by
  obtain ⟨hbegin, hend⟩ := year_eq_iff.mp (Eq.refl t.year)
  have hfirst := Date.yearStart_mono hlow
  have hlast := Date.yearStart_mono (Int.add_le_add_right hhigh 1)
  have hmin : Date.yearStart 0 = -719528 := by decide
  have hmax : Date.yearStart (9999 + 1) = 2932897 := by decide
  rw [dayMillis] at hbegin hend
  simp only [hasDate, Bool.and_eq_true, decide_eq_true_eq]
  omega

theorem render_eq_renderUniversal (hlow : 0 ≤ t.year) (hhigh : t.year ≤ 9999) :
  t.render = renderUniversal (Date.ofDayNumber t.day) t.timeOfDay
  := by
  simp [render, hasDate_of_year hlow hhigh, renderUniversal, day, timeOfDay]

/-- A timestamp of the years 0 to 9999 that is written, with any blanks around it, is read as the
same timestamp. -/
theorem parse_around_render (hlow : 0 ≤ t.year) (hhigh : t.year ≤ 9999) (p : Text.Padding) :
  parse (p.around t.render) = .ok t
  := by
  obtain ⟨hvalid, hday⟩ := Date.ofDayNumber_spec t.day
  rw [render_eq_renderUniversal hlow hhigh,
    parse_around_renderUniversal hvalid hlow hhigh t.timeOfDay_lt, hday,
    day_mul_add_timeOfDay, Int64.ofInt_toInt]

/-- The last millisecond before 1970 has a negative number and the year 1969. -/
theorem parse_around_render_neg_one :
  (0 ≤ year ⟨-1⟩ ∧ year ⟨-1⟩ ≤ 9999)
    ∧ parse ([' ', '\u3000'] ++ render ⟨-1⟩ ++ ['\n']) = .ok ⟨-1⟩
    ∧ render ⟨-1⟩ = "1969-12-31T23:59:59.999Z".toList
  := by
  have hyear : 0 ≤ year ⟨-1⟩ ∧ year ⟨-1⟩ ≤ 9999 := by decide
  let p : Text.Padding := ⟨[' ', '\u3000'], ['\n'], by decide, by decide⟩
  refine ⟨hyear, parse_around_render hyear.1 hyear.2 p, ?_⟩
  decide

end QueryFilter.Timestamp
