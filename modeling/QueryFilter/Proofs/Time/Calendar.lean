import Mathlib.Data.Int.ConditionallyCompleteOrder
import Mathlib.Data.Prod.Lex
import Mathlib.Order.ConditionallyCompleteLattice.Basic
import QueryFilter.Time.Calendar

/-!
# The order of dates

Dates are in the order of year, month and day, and the day numbers of the dates that exist are in
the same order: a month ends before the next one begins, and a year has as many days as its months
and ends before the next one begins.
-/

namespace QueryFilter.Date

variable {a b d : Date}

/-! ### Year, month and day -/

/-- The year, the month and the day, which are compared in this order. -/
def place (d : Date) : Int ×ₗ Nat ×ₗ Nat := toLex (d.year, toLex (d.month, d.day))

theorem place_injective :
  Function.Injective place
  := by
  rintro ⟨year, month, day⟩ ⟨year', month', day'⟩ h
  cases h
  rfl

instance : LinearOrder Date := LinearOrder.lift' place place_injective

theorem lt_iff :
  a < b ↔ a.year < b.year
    ∨ a.year = b.year ∧ (a.month < b.month ∨ a.month = b.month ∧ a.day < b.day)
  := by
  have hplace : a < b ↔ a.place < b.place := Iff.rfl
  rw [hplace, place, place, Prod.Lex.toLex_lt_toLex, Prod.Lex.toLex_lt_toLex]

/-! ### Years -/

theorem leapYears_sub_one (year : Int) :
  leapYears year = leapYears (year - 1) + if isLeap year then 1 else 0
  := by
  have hleap : isLeap year = true ↔ year % 4 = 0 ∧ (year % 100 ≠ 0 ∨ year % 400 = 0) := by
    simp [isLeap]
  rw [leapYears, leapYears]
  split
  · rename_i h
    have hyear := hleap.mp h
    omega
  · rename_i h
    have hyear := mt hleap.mpr h
    omega

/-- The next year begins after the days of a year. -/
theorem yearStart_add_one (year : Int) :
  yearStart (year + 1) = yearStart year + totalDays (monthLengths year)
  := by
  have hlength : (totalDays (monthLengths year) : Int) = 365 + if isLeap year then 1 else 0 := by
    rw [monthLengths]
    split
    · rfl
    · rfl
  have hleap := leapYears_sub_one year
  rw [hlength, yearStart, yearStart, Int.add_sub_cancel]
  omega

theorem yearStart_mono :
  Monotone yearStart
  := by
  apply monotone_int_of_le_succ
  intro year
  rw [yearStart_add_one]
  omega

/-! ### Days -/

theorem totalDays_take_add_one (lengths : List Nat) (n : Nat) :
  totalDays (lengths.take (n + 1)) = totalDays (lengths.take n) + lengths[n]?.getD 0
  := by
  induction lengths generalizing n with
  | nil => simp [totalDays]
  | cons length lengths ih =>
      cases n with
      | zero => simp [totalDays]
      | succ n =>
          rw [List.take_succ_cons, List.take_succ_cons, totalDays, totalDays, ih,
            List.getElem?_cons_succ, Nat.add_assoc]

theorem totalDays_take_mono (lengths : List Nat) {m n : Nat} (h : m ≤ n) :
  totalDays (lengths.take m) ≤ totalDays (lengths.take n)
  := by
  have hmono : Monotone fun n => totalDays (lengths.take n) := by
    apply monotone_nat_of_le_succ
    intro n
    rw [totalDays_take_add_one]
    apply Nat.le_add_right
  apply hmono h

/-- Some months of a year have no more days than all of them. -/
theorem totalDays_take_le (lengths : List Nat) (n : Nat) :
  totalDays (lengths.take n) ≤ totalDays lengths
  := by
  rcases Nat.le_total n lengths.length with h | h
  · have hmono := totalDays_take_mono lengths h
    rw [List.take_length] at hmono
    apply hmono
  · rw [List.take_of_length_le h]

/-- The month and the day of a date that exists. -/
theorem isValid_iff :
  d.isValid = true ↔ 1 ≤ d.month ∧ 1 ≤ d.day
    ∧ ∃ length, (monthLengths d.year)[d.month - 1]? = some length ∧ d.day ≤ length
  := by
  rw [isValid]
  cases (monthLengths d.year)[d.month - 1]? with
  | none => simp
  | some length => simp [and_assoc]

/-- There are twelve months, and none has more than 31 days. -/
theorem le_of_isValid (h : d.isValid = true) :
  d.month ≤ 12 ∧ d.day ≤ 31
  := by
  obtain ⟨hmonth, -, length, hlength, hle⟩ := isValid_iff.mp h
  obtain ⟨hlt, -⟩ := List.getElem?_eq_some_iff.mp hlength
  have hcount : (monthLengths d.year).length = 12 := rfl
  have hlengths : ∀ length ∈ monthLengths d.year, length ≤ 31 := by
    rw [monthLengths]
    split
    · decide
    · decide
  have hlast := hlengths length (List.mem_of_getElem? hlength)
  omega

/-- A date is not before the beginning of its month. -/
theorem le_dayNumber (d : Date) :
  yearStart d.year + totalDays ((monthLengths d.year).take (d.month - 1)) ≤ d.dayNumber
  := by
  rw [dayNumber]
  omega

/-- A date that exists is before the end of its month. -/
theorem dayNumber_lt (h : d.isValid = true) :
  d.dayNumber < yearStart d.year + totalDays ((monthLengths d.year).take d.month)
  := by
  obtain ⟨hmonth, hday, length, hlength, hle⟩ := isValid_iff.mp h
  have hdays := totalDays_take_add_one (monthLengths d.year) (d.month - 1)
  rw [Nat.sub_add_cancel hmonth, hlength, Option.getD_some] at hdays
  rw [dayNumber, hdays]
  omega

/-- A date that exists is before the beginning of the next year. -/
theorem dayNumber_lt_yearStart (h : d.isValid = true) :
  d.dayNumber < yearStart (d.year + 1)
  := by
  have hlt := dayNumber_lt h
  have hle := totalDays_take_le (monthLengths d.year) d.month
  rw [yearStart_add_one]
  omega

/-- Dates that exist are in the order of their day numbers. -/
theorem dayNumber_strictMonoOn :
  StrictMonoOn dayNumber {d | d.isValid = true}
  := by
  intro a ha b hb h
  rcases lt_iff.mp h with hyear | ⟨hyear, hmonth | ⟨hmonth, hday⟩⟩
  · have hstart := yearStart_mono (Int.add_one_le_of_lt hyear)
    have hlow := b.le_dayNumber
    have hhigh := dayNumber_lt_yearStart ha
    omega
  · have hmonths := totalDays_take_mono (monthLengths b.year) (Nat.le_sub_one_of_lt hmonth)
    have hlow := b.le_dayNumber
    have hhigh := dayNumber_lt ha
    rw [hyear] at hhigh
    omega
  · obtain ⟨-, hone, -⟩ := isValid_iff.mp ha
    rw [dayNumber, dayNumber, hyear, hmonth]
    omega

end QueryFilter.Date
