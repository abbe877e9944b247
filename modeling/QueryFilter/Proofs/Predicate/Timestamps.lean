import Mathlib.Data.List.Perm.Basic
import Mathlib.Order.Lattice
import QueryFilter.DateFilter
import QueryFilter.Proofs.Except
import QueryFilter.Proofs.Predicate.Balanced

/-!
# Filtering by timestamps

The number of timestamps decides what their expression holds of: of one, of all from the earlier to
the later of two, and of each of several.  Neither the order in which they are given nor blank
values between them matter, and the tree of alternatives is as deep as the logarithm of their number.
-/

namespace QueryFilter

/-! ### The order of timestamps -/

namespace Timestamp

theorem millis_toInt_injective :
  Function.Injective fun t : Timestamp => t.millis.toInt
  := by
  rintro ⟨a⟩ ⟨b⟩ h
  obtain rfl : a = b := Int64.toInt_inj.mp h
  rfl

/-- Timestamps are in the order of time. -/
instance : LinearOrder Timestamp :=
  LinearOrder.lift' (fun t : Timestamp => t.millis.toInt) millis_toInt_injective

variable {a b : Timestamp}

theorem notAfter_iff :
  a.notAfter b = true ↔ a ≤ b
  := decide_eq_true_iff

theorem compare_eq_iff :
  a.compare b = .eq ↔ a = b
  := by rw [compare, compare_eq_iff_eq, millis_toInt_injective.eq_iff]

end Timestamp

namespace DateFilter

/-- The times that timestamps let through: all of them, one, those of a range with these ends in
either order, or several. -/
def Accepts : List Timestamp → Timestamp → Prop
  | [], _ => True
  | [a], x => x = a
  | [a, b], x => min a b ≤ x ∧ x ≤ max a b
  | ts, x => x ∈ ts

variable {f : Field} {record : Record} {a b t x : Timestamp} {ts ts' : List Timestamp} {e e' : Expr}

/-! ### What timestamps let through -/

theorem holds_equals_iff (hrecord : record f.name = .timestamp x) :
  (equals f t).holds record = true ↔ x = t
  := by
  have hholds : (equals f t).holds record = (x.compare t == .eq) := by
    rw [equals, Dialect.clause, Expr.holds, hrecord]
    rfl
  rw [hholds, beq_iff_eq, Timestamp.compare_eq_iff]

/-- A range holds of the times between its ends. -/
theorem holds_between_iff (hrecord : record f.name = .timestamp x) :
  (Dialect.clause f .between (.range a b) false).holds record = true ↔ a ≤ x ∧ x ≤ b
  := by
  rw [← Timestamp.notAfter_iff, ← Timestamp.notAfter_iff, Dialect.clause, Expr.holds, hrecord,
    ← Bool.and_eq_true_iff]
  rfl

theorem holds_within_iff (hrecord : record f.name = .timestamp x) :
  (within f a b).holds record = true ↔ min a b ≤ x ∧ x ≤ max a b
  := by
  rw [within]
  split
  · rename_i horder
    have hle := Timestamp.notAfter_iff.mp horder
    rw [min_eq_left hle, max_eq_right hle, holds_between_iff hrecord]
  · rename_i horder
    have hle := le_of_not_ge (mt Timestamp.notAfter_iff.mpr horder)
    rw [min_eq_right hle, max_eq_left hle, holds_between_iff hrecord]

theorem holds_any_iff (hrecord : record f.name = .timestamp x)
    (h : Expr.any (ts.map (equals f)) = some e) :
  e.holds record = true ↔ x ∈ ts
  := by
  rw [Expr.holds_balanced_or record h, List.any_map, List.any_eq_true]
  constructor
  · rintro ⟨t, hmem, hholds⟩
    rw [(holds_equals_iff hrecord).mp hholds]
    apply hmem
  · intro hmem
    use x, hmem
    apply (holds_equals_iff hrecord).mpr rfl

/-- The expression for timestamps holds of the times that they let through. -/
theorem holds_ofTimestamps_iff (hrecord : record f.name = .timestamp x)
    (h : ofTimestamps f ts = some e) :
  e.holds record = true ↔ Accepts ts x
  := by
  match ts, h with
  | [a], h =>
      cases h
      apply holds_equals_iff hrecord
  | [a, b], h =>
      cases h
      apply holds_within_iff hrecord
  | a :: b :: c :: rest, h => apply holds_any_iff hrecord h

/-! ### Other values -/

theorem holds_equals_of_ne (hrecord : ∀ x, record f.name ≠ .timestamp x) (t : Timestamp) :
  (equals f t).holds record = false
  := by
  rw [equals, Dialect.clause, Expr.holds]
  cases hvalue : record f.name with
  | timestamp x => cases hrecord x hvalue
  | _ => rfl

theorem holds_within_of_ne (hrecord : ∀ x, record f.name ≠ .timestamp x) (a b : Timestamp) :
  (within f a b).holds record = false
  := by
  have hrange : ∀ a b, (Dialect.clause f .between (.range a b) false).holds record = false := by
    intro a b
    rw [Dialect.clause, Expr.holds]
    cases hvalue : record f.name with
    | timestamp x => cases hrecord x hvalue
    | _ => rfl
  rw [within]
  split
  · apply hrange
  · apply hrange

/-- The expression for timestamps holds of nothing but timestamps. -/
theorem holds_ofTimestamps_of_ne (hrecord : ∀ x, record f.name ≠ .timestamp x)
    (h : ofTimestamps f ts = some e) :
  e.holds record = false
  := by
  match ts, h with
  | [a], h =>
      cases h
      apply holds_equals_of_ne hrecord
  | [a, b], h =>
      cases h
      apply holds_within_of_ne hrecord
  | a :: b :: c :: rest, h =>
      have hany : Expr.any ((a :: b :: c :: rest).map (equals f)) = some e := h
      rw [Expr.holds_balanced_or record hany, List.any_map, List.any_eq_false]
      intro t _
      simp [holds_equals_of_ne hrecord]

/-! ### The expression -/

/-- Only without timestamps there is no expression. -/
theorem ofTimestamps_eq_none_iff :
  ofTimestamps f ts = none ↔ ts = []
  := by
  match ts with
  | [] => simp [ofTimestamps]
  | [t] => simp [ofTimestamps]
  | [t, u] => simp [ofTimestamps]
  | t :: u :: v :: rest =>
      obtain ⟨e, he⟩ := Expr.exists_balanced_eq_some .or (List.cons_ne_nil (equals f t)
        ((u :: v :: rest).map (equals f)))
      have hsome : ofTimestamps f (t :: u :: v :: rest) = some e := he
      simp [hsome]

theorem depth_within (a b : Timestamp) :
  (within f a b).depth = 1
  := by
  rw [within]
  split
  · rfl
  · rfl

/-- The expression for timestamps is deeper than a clause by the logarithm of their number at
most. -/
theorem depth_ofTimestamps_le (h : ofTimestamps f ts = some e) :
  e.depth ≤ 1 + Nat.clog 2 ts.length
  := by
  match ts, h with
  | [a], h =>
      cases h
      apply Nat.le_add_right
  | [a, b], h =>
      cases h
      rw [depth_within]
      apply Nat.le_add_right
  | a :: b :: c :: rest, h =>
      have hany : Expr.any ((a :: b :: c :: rest).map (equals f)) = some e := h
      have hclauses : ∀ e ∈ (a :: b :: c :: rest).map (equals f), e.depth ≤ 1 := by
        intro e he
        obtain ⟨t, -, rfl⟩ := List.mem_map.mp he
        apply Nat.le_refl
      have hdepth := Expr.depth_balanced_le (fun _ _ => rfl) hclauses hany
      rw [List.length_map] at hdepth
      apply hdepth

/-! ### The order of timestamps -/

theorem accepts_pair_iff :
  Accepts [a, b] x ↔ (∃ t ∈ [a, b], t ≤ x) ∧ ∃ t ∈ [a, b], x ≤ t
  := by simp [Accepts]

/-- The order in which timestamps are given does not matter. -/
theorem accepts_perm (h : ts.Perm ts') :
  Accepts ts x ↔ Accepts ts' x
  := by
  have hlength := h.length_eq
  match ts, ts' with
  | [], [] => rfl
  | [a], [b] => rw [List.singleton_perm_singleton.mp h]
  | [a, b], [c, d] => simp only [accepts_pair_iff, h.mem_iff]
  | a :: b :: c :: rest, a' :: b' :: c' :: rest' => apply h.mem_iff

/-- The expressions for timestamps in two orders hold of the same records. -/
theorem holds_ofTimestamps_perm (hperm : ts.Perm ts') (h : ofTimestamps f ts = some e)
    (h' : ofTimestamps f ts' = some e') (record : Record) :
  e.holds record = e'.holds record
  := by
  by_cases hrecord : ∃ x, record f.name = .timestamp x
  · obtain ⟨x, hx⟩ := hrecord
    rw [Bool.eq_iff_iff, holds_ofTimestamps_iff hx h, holds_ofTimestamps_iff hx h',
      accepts_perm hperm]
  · have hne := not_exists.mp hrecord
    rw [holds_ofTimestamps_of_ne hne h, holds_ofTimestamps_of_ne hne h']

/-! ### Values -/

variable {values values' : List Text} {result result' : Option Expr}

/-- The values that are not blank. -/
def dateValues (values : List Text) : List Text := values.filter fun v => !v.isBlank

/-- There is a result exactly if all values that are not blank are timestamps. -/
theorem predicate_eq_ok_iff :
  predicate f values = .ok result
    ↔ ∃ ts, (dateValues values).map Timestamp.parse = ts.map .ok ∧ result = ofTimestamps f ts
  := by
  rw [predicate, Except.map_eq_ok_iff]
  simp only [Except.mapM_eq_ok_iff, dateValues, eq_comm (a := result)]

theorem exists_predicate_eq_error_iff :
  (∃ failure, predicate f values = .error failure)
    ↔ ∃ v ∈ values, v.isBlank = false ∧ ∃ failure, Timestamp.parse v = .error failure
  := by
  simp only [predicate, Except.map_eq_error_iff, Except.exists_mapM_eq_error_iff, List.mem_filter,
    Bool.not_eq_true', and_assoc]

/-- Values in another order and blank values do not change the values that are not blank, up to
their order. -/
theorem dateValues_perm {blanks : List Text} (hblanks : ∀ v ∈ blanks, v.isBlank = true)
    (h : values'.Perm (blanks ++ values)) :
  (dateValues values').Perm (dateValues values)
  := by
  have hnone : dateValues blanks = [] := by
    apply List.filter_eq_nil_iff.mpr
    intro v hv
    simp [hblanks v hv]
  have hfilter := h.filter fun v => !v.isBlank
  rw [List.filter_append, ← dateValues, ← dateValues, ← dateValues, hnone] at hfilter
  apply hfilter

/-- Values in another order are timestamps in another order. -/
theorem perm_of_map_parse (h : (dateValues values').Perm (dateValues values))
    (hts : (dateValues values).map Timestamp.parse = ts.map .ok)
    (hts' : (dateValues values').map Timestamp.parse = ts'.map .ok) :
  ts'.Perm ts
  := by
  have hmap := h.map Timestamp.parse
  rw [hts, hts'] at hmap
  apply (List.map_perm_map_iff (fun _ _ => Except.ok.inj)).mp hmap

/-- The values of a date field fail exactly if one that is not blank is no timestamp.  Otherwise
there is no expression without timestamps, and else one that holds of no other values than
timestamps, holds of those that the timestamps let through, and is deeper than a clause by the
logarithm of their number at most.  Whether the values fail and what their expression holds of does
not depend on their order and on blank values. -/
theorem predicate_accepts (f : Field) (values : List Text) :
  ((∃ failure, predicate f values = .error failure)
      ↔ ∃ v ∈ values, v.isBlank = false ∧ ∃ failure, Timestamp.parse v = .error failure)
    ∧ (∀ result, predicate f values = .ok result →
      ∃ ts : List Timestamp, (dateValues values).map Timestamp.parse = ts.map .ok
        ∧ (result = none ↔ ts = [])
        ∧ ∀ e, result = some e →
          (∀ record : Record, (∀ x, record f.name ≠ .timestamp x) → e.holds record = false)
            ∧ (∀ (record : Record) (x : Timestamp), record f.name = .timestamp x →
              (e.holds record = true ↔ Accepts ts x))
            ∧ e.depth ≤ 1 + Nat.clog 2 ts.length)
    ∧ ∀ blanks values' : List Text, (∀ v ∈ blanks, v.isBlank = true) →
      values'.Perm (blanks ++ values) →
        ((∃ failure, predicate f values' = .error failure)
            ↔ ∃ failure, predicate f values = .error failure)
          ∧ ∀ result result', predicate f values = .ok result → predicate f values' = .ok result' →
            (result' = none ↔ result = none)
              ∧ ∀ record : Record, result'.all (·.holds record) = result.all (·.holds record)
  := by
  refine ⟨exists_predicate_eq_error_iff, ?_, ?_⟩
  · intro result h
    obtain ⟨ts, hts, rfl⟩ := predicate_eq_ok_iff.mp h
    use ts, hts, ofTimestamps_eq_none_iff
    intro e he
    refine ⟨?_, ?_, depth_ofTimestamps_le he⟩
    · intro record hrecord
      apply holds_ofTimestamps_of_ne hrecord he
    · intro record x hrecord
      apply holds_ofTimestamps_iff hrecord he
  · intro blanks values' hblanks hperm
    have hkept := dateValues_perm hblanks hperm
    constructor
    · simp only [exists_predicate_eq_error_iff]
      have hmem := fun v : Text => hkept.mem_iff (a := v)
      simp only [dateValues, List.mem_filter, Bool.not_eq_true'] at hmem
      simp only [← and_assoc, hmem]
    · intro result result' h h'
      obtain ⟨ts, hts, rfl⟩ := predicate_eq_ok_iff.mp h
      obtain ⟨ts', hts', rfl⟩ := predicate_eq_ok_iff.mp h'
      have hsame := perm_of_map_parse hkept hts hts'
      constructor
      · rw [ofTimestamps_eq_none_iff, ofTimestamps_eq_none_iff]
        constructor
        · rintro rfl
          apply hsame.nil_eq.symm
        · rintro rfl
          apply hsame.eq_nil
      · intro record
        cases he : ofTimestamps f ts with
        | none =>
            obtain rfl := ofTimestamps_eq_none_iff.mp he
            rw [hsame.eq_nil]
            rfl
        | some e =>
            cases he' : ofTimestamps f ts' with
            | none =>
                obtain rfl := ofTimestamps_eq_none_iff.mp he'
                rw [← hsame.nil_eq] at he
                cases he
            | some e' => apply holds_ofTimestamps_perm hsame he' he

/-- Two days with a blank value between them are the ends of a range, in either order. -/
theorem predicate_accepts_of_two :
  let f : Field := ⟨"hired_on".toList, .timestamp⟩
  let first : Timestamp := ⟨-86400000⟩
  let last : Timestamp := ⟨1582934400000⟩
  let values : List Text := ["2020-02-29".toList, "1969-12-31".toList]
  let values' : List Text := ["1969-12-31".toList, " ".toList, "2020-02-29".toList]
  let blanks : List Text := [" ".toList]
  (∀ v ∈ blanks, v.isBlank = true) ∧ values'.Perm (blanks ++ values)
    ∧ ∃ e e' : Expr, predicate f values = .ok (some e) ∧ predicate f values' = .ok (some e')
      ∧ (∀ record : Record, e'.holds record = e.holds record)
      ∧ (∀ x : Timestamp, e.holds (fun _ => .timestamp x) = true ↔ first ≤ x ∧ x ≤ last)
      ∧ e.holds (fun _ => .missing) = false
  := by
  intro f first last values values' blanks
  have hblanks : ∀ v ∈ blanks, v.isBlank = true := by decide
  have hperm : values'.Perm (blanks ++ values) := by decide
  have hresult : predicate f values = .ok (some (within f last first)) := by rfl
  have hresult' : predicate f values' = .ok (some (within f first last)) := by rfl
  use hblanks, hperm, within f last first, within f first last, hresult, hresult'
  obtain ⟨-, hok, hsame⟩ := predicate_accepts f values
  obtain ⟨-, hrecords⟩ := (hsame blanks values' hblanks hperm).2 _ _ hresult hresult'
  obtain ⟨ts, hts, -, hexpr⟩ := hok _ hresult
  have hvalues : (dateValues values).map Timestamp.parse = [last, first].map .ok := by rfl
  obtain rfl : [last, first] = ts := by
    rw [hvalues] at hts
    apply List.map_injective_iff.mpr (fun _ _ => Except.ok.inj) hts
  obtain ⟨hother, haccepts, -⟩ := hexpr _ rfl
  refine ⟨hrecords, ?_, ?_⟩
  · intro x
    have horder : first ≤ last := by decide
    rw [haccepts _ x rfl, Accepts, min_eq_right horder, max_eq_left horder]
  · apply hother
    intro x h
    cases h

end DateFilter

end QueryFilter
