import QueryFilter.Proofs.Time.Calendar

/-!
# The dates of days

Every day has a date: `Date.ofDayNumber` gives the one that exists and has the number of the day.
It lies in the year that begins on this day or before it and ends after it, which a year of average
length finds up to one.
-/

namespace QueryFilter.Date

variable {day year : Int}

/-! ### Years -/

/-- Years begin where they would if all had the average length of `146097 / 400` days, up to a day
and a half. -/
theorem yearStart_bounds (year : Int) :
  146097 * (year - 1970) - 600 < 400 * yearStart year
    ∧ 400 * yearStart year < 146097 * (year - 1970) + 600
  := by
  have hepoch : leapYears 1969 = 477 := by rfl
  rw [yearStart, hepoch, leapYears]
  omega

/-- The year of a day begins with it or before it and ends after it. -/
theorem yearOf_bounds (day : Int) :
  yearStart (yearOf day) ≤ day ∧ day < yearStart (yearOf day + 1)
  := by
  have hbounds := yearStart_bounds
  simp only [yearOf]
  generalize hguess : 1970 + 400 * day / 146097 = guess
  have hbefore := hbounds (guess - 1)
  have hafter := hbounds (guess + 1 + 1)
  split
  · rw [Int.sub_add_cancel]
    omega
  · split
    · omega
    · omega

theorem yearOf_eq_iff :
  yearOf day = year ↔ yearStart year ≤ day ∧ day < yearStart (year + 1)
  := by
  have hday := yearOf_bounds day
  constructor
  · rintro rfl
    apply hday
  · rintro ⟨hlow, hhigh⟩
    have hlt : yearOf day < year + 1 := yearStart_mono.reflect_lt (hday.1.trans_lt hhigh)
    have hlt' : year < yearOf day + 1 := yearStart_mono.reflect_lt (hlow.trans_lt hday.2)
    omega

/-! ### Months -/

/-- A day within some months lies in one of them, after those before it. -/
theorem exists_monthAndDay_eq {lengths : List Nat} {day : Nat} (h : day < totalDays lengths)
    (month : Nat) :
  ∃ k length rest, lengths[k]? = some length ∧ rest < length
    ∧ day = totalDays (lengths.take k) + rest
    ∧ monthAndDay month lengths day = (month + k, rest + 1)
  := by
  induction lengths generalizing month day with
  | nil => cases h
  | cons length lengths ih =>
      rw [totalDays] at h
      rw [monthAndDay]
      split
      · rename_i hlt
        use 0, length, day
        simp [hlt, totalDays]
      · rename_i hge
        have hlater : day - length < totalDays lengths := by omega
        obtain ⟨k, length', rest, hlength, hrest, hday, heq⟩ := ih hlater (month + 1)
        use k + 1, length', rest
        refine ⟨hlength, hrest, ?_, ?_⟩
        · rw [List.take_succ_cons, totalDays]
          omega
        · rw [heq, Nat.add_assoc, Nat.add_comm 1 k]

/-! ### Dates -/

/-- The date of a day exists, and it is its day. -/
theorem ofDayNumber_spec (day : Int) :
  (ofDayNumber day).isValid = true ∧ (ofDayNumber day).dayNumber = day
  := by
  obtain ⟨hlow, hhigh⟩ := yearOf_bounds day
  rw [yearStart_add_one] at hhigh
  have hday : (day - yearStart (yearOf day)).toNat < totalDays (monthLengths (yearOf day)) := by
    omega
  obtain ⟨k, length, rest, hlength, hrest, hsum, heq⟩ := exists_monthAndDay_eq hday 1
  have hdate : ofDayNumber day = ⟨yearOf day, 1 + k, rest + 1⟩ := by
    rw [ofDayNumber]
    simp only [heq]
  rw [hdate]
  constructor
  · apply isValid_iff.mpr
    refine ⟨Nat.le_add_right 1 k, Nat.le_add_left 1 rest, length, ?_, hrest⟩
    rw [Nat.add_sub_cancel_left]
    apply hlength
  · simp only [dayNumber, Nat.add_sub_cancel_left, Nat.add_sub_cancel]
    omega

theorem year_ofDayNumber (day : Int) :
  (ofDayNumber day).year = yearOf day
  := rfl

end QueryFilter.Date
