import Mathlib.Order.MinMax
import QueryFilter.Proofs.Predicate.Timestamps
import QueryFilter.Proofs.Time.Timestamp

/-!
# Filtering by dates

The expression for the beginnings of dates holds of the beginning of a day by the calendar: of the
one date, of all days from the earlier to the later of two, and of each of several.  Written dates
make the expression for their beginnings.
-/

namespace QueryFilter.DateFilter

/-- The days that dates select, by their number: all of them, one, those of a range with these ends
in either order, or several. -/
def Selects : List Date → Date → Prop
  | [], _ => True
  | [a], day => day = a
  | [a, b], day => min a b ≤ day ∧ day ≤ max a b
  | dates, day => day ∈ dates

variable {f : Field} {record : Record} {day : Date} {dates : List Date} {e : Expr}

/-! ### What dates select -/

/-- The beginnings of dates let the beginning of a day through exactly if the dates select it. -/
theorem accepts_map_ofDate_iff (hday : Timestamp.inRange day = true)
    (hdates : ∀ d ∈ dates, Timestamp.inRange d = true) :
  Accepts (dates.map Timestamp.ofDate) (.ofDate day) ↔ Selects dates day
  := by
  have hle : ∀ a b, Timestamp.inRange a = true → Timestamp.inRange b = true →
      (Timestamp.ofDate a ≤ .ofDate b ↔ a ≤ b) := by
    intro a b ha hb
    rw [← Timestamp.notAfter_iff, Timestamp.notAfter_ofDate ha hb]
  have heq : ∀ d ∈ dates, (Timestamp.ofDate day = .ofDate d ↔ day = d) := by
    intro d hd
    rw [← Timestamp.compare_eq_iff, Timestamp.compare_ofDate_eq hday (hdates d hd)]
  match dates, hdates, heq with
  | [], _, _ => rfl
  | [a], _, heq => apply heq a List.mem_cons_self
  | [a, b], hdates, _ =>
      have ha := hdates a List.mem_cons_self
      have hb := hdates b (List.mem_cons_of_mem _ List.mem_cons_self)
      simp only [List.map_cons, List.map_nil, Accepts, Selects, min_le_iff, le_max_iff,
        hle _ _ ha hday, hle _ _ hb hday, hle _ _ hday ha, hle _ _ hday hb]
  | a :: b :: c :: rest, _, heq =>
      have hmem : .ofDate day ∈ (a :: b :: c :: rest).map Timestamp.ofDate
          ↔ day ∈ a :: b :: c :: rest := by
        rw [List.mem_map]
        constructor
        · rintro ⟨d, hd, hsame⟩
          rw [(heq d hd).mp hsame.symm]
          apply hd
        · intro hd
          use day
      apply hmem

/-- The expression for the beginnings of dates holds of the days that the dates select. -/
theorem holds_ofTimestamps_ofDate_iff (hrecord : record f.name = .timestamp (.ofDate day))
    (hday : Timestamp.inRange day = true) (hdates : ∀ d ∈ dates, Timestamp.inRange d = true)
    (h : ofTimestamps f (dates.map Timestamp.ofDate) = some e) :
  e.holds record = true ↔ Selects dates day
  := by rw [holds_ofTimestamps_iff hrecord h, accepts_map_ofDate_iff hday hdates]

/-! ### Written dates -/

/-- The values are dates of the years 0 to 9999, as year, month and day. -/
theorem mapM_parse_renderDate
    (hdates : ∀ d ∈ dates, d.isValid = true ∧ 0 ≤ d.year ∧ d.year ≤ 9999) :
  (dates.map Timestamp.renderDate).mapM Timestamp.parse = .ok (dates.map Timestamp.ofDate)
  := by
  rw [Except.mapM_eq_ok_iff, List.map_map, List.map_map]
  apply List.map_congr_left
  intro d hd
  obtain ⟨hvalid, hlow, hhigh⟩ := hdates d hd
  apply Timestamp.parse_renderDate hvalid hlow hhigh

/-- Written dates make the expression for their beginnings. -/
theorem predicate_renderDate
    (hdates : ∀ d ∈ dates, d.isValid = true ∧ 0 ≤ d.year ∧ d.year ≤ 9999) :
  predicate f (dates.map Timestamp.renderDate) = .ok (ofTimestamps f (dates.map Timestamp.ofDate))
  := by
  have hkept : (dates.map Timestamp.renderDate).filter (fun v => !v.isBlank)
      = dates.map Timestamp.renderDate := by
    apply List.filter_eq_self.mpr
    intro v hv
    obtain ⟨d, hd, rfl⟩ := List.mem_map.mp hv
    obtain ⟨-, hlow, hhigh⟩ := hdates d hd
    rw [Timestamp.isBlank_renderDate hlow hhigh]
    rfl
  rw [predicate, hkept, mapM_parse_renderDate hdates]
  rfl

end QueryFilter.DateFilter
