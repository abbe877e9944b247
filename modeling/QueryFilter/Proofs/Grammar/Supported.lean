import QueryFilter.Dialect
import QueryFilter.Proofs.Grammar.Node

/-!
# Supported comparisons

Which comparisons a field supports matters for those that occur in a value only.  One that is not
supported is reported under as many `not` and `ci` as may be nested, whatever it wraps, and a value
that is read without it is read in the same way where more comparisons are supported.
-/

namespace QueryFilter

namespace Operator

variable (op : Operator) {t : Text}

/-- The text under an operator for each of the paddings, which stands between it and the next. -/
def wrapEach (op : Operator) (paddings : List Text.Padding) (t : Text) : Text :=
  paddings.foldr (fun p t => op.wrap (p.around t)) t

theorem wrapEach_cons (p : Text.Padding) (paddings : List Text.Padding) (t : Text) :
  op.wrapEach (p :: paddings) t = op.wrap (p.around (op.wrapEach paddings t))
  := rfl

/-- Neither end of a text under operators is blank, if those of the text are not. -/
theorem isTrimmed_wrapEach (ht : t.IsTrimmed) (paddings : List Text.Padding) :
  (op.wrapEach paddings t).IsTrimmed
  := by
  cases paddings with
  | nil => apply ht
  | cons p paddings => apply isTrimmed_wrap

theorem isBlank_wrapEach (ht : t.isBlank = false) (paddings : List Text.Padding) :
  (op.wrapEach paddings t).isBlank = false
  := by
  cases paddings with
  | nil => apply ht
  | cons p paddings => apply isBlank_wrap

theorem trim_around_wrapEach (ht : t.IsTrimmed) (p : Text.Padding) (paddings : List Text.Padding) :
  (p.around (op.wrapEach paddings t)).trim = op.wrapEach paddings t
  := by rw [p.trim_around, (op.isTrimmed_wrapEach ht paddings).trim_eq]

theorem isBlank_around_wrapEach (ht : t.isBlank = false) (p : Text.Padding)
    (paddings : List Text.Padding) :
  (p.around (op.wrapEach paddings t)).isBlank = false
  := by rw [p.isBlank_around, op.isBlank_wrapEach ht]

end Operator

namespace Node

open Wrapping

variable {kind : String} {supported supported' : List Operator} {levels : Nat}
  {value operand : Text} {parent : Option Operator} {folded : Bool} {op : Operator}

/-! ### Comparisons that are not supported -/

/-- A comparison that is not supported is reported under `ci`. -/
theorem parseWithin_of_trim_eq_wrapEach_ignoreCase (hop : op.isComparison = true)
    (hsupported : op ∉ supported) {folds : List Text.Padding}
    (hvalue : value.trim = Operator.ignoreCase.wrapEach folds (op.wrap operand))
    (hlevels : folds.length < levels) :
  parseWithin kind supported levels value parent folded = .error (.unsupported op kind)
  := by
  obtain ⟨levels, rfl⟩ := Nat.exists_eq_succ_of_ne_zero (Nat.ne_zero_of_lt hlevels)
  induction folds generalizing value levels parent folded with
  | nil => apply parseWithin_of_unsupported hvalue hop hsupported
  | cons p folds ih =>
      have hinner := Operator.ignoreCase.trim_around_wrapEach (op.isTrimmed_wrap operand) p folds
      have hblank := Operator.ignoreCase.isBlank_around_wrapEach (op.isBlank_wrap operand) p folds
      have hfewer : folds.length < levels := Nat.lt_of_succ_lt_succ hlevels
      obtain ⟨levels, rfl⟩ := Nat.exists_eq_succ_of_ne_zero (Nat.ne_zero_of_lt hfewer)
      rw [Operator.wrapEach_cons] at hvalue
      rw [parseWithin_of_ignoreCase hvalue, hblank, ih hinner levels hfewer]
      rfl

/-- A comparison that is not supported is reported under `ci` under `not`. -/
theorem parseWithin_of_trim_eq_wrapEach_not (hop : op.isComparison = true)
    (hsupported : op ∉ supported) {negations folds : List Text.Padding}
    (hvalue : value.trim
      = Operator.not.wrapEach negations (Operator.ignoreCase.wrapEach folds (op.wrap operand)))
    (hlevels : negations.length + folds.length < levels)
    (hparent : (parent.isSome && parent != some .not) = false) :
  parseWithin kind supported levels value parent folded = .error (.unsupported op kind)
  := by
  induction negations generalizing value levels parent with
  | nil =>
      rw [List.length_nil, Nat.zero_add] at hlevels
      apply parseWithin_of_trim_eq_wrapEach_ignoreCase hop hsupported hvalue hlevels
  | cons p negations ih =>
      have hinner := Operator.not.trim_around_wrapEach
        (Operator.ignoreCase.isTrimmed_wrapEach (op.isTrimmed_wrap operand) folds) p negations
      have hblank := Operator.not.isBlank_around_wrapEach
        (Operator.ignoreCase.isBlank_wrapEach (op.isBlank_wrap operand) folds) p negations
      rw [List.length_cons, Nat.add_right_comm] at hlevels
      obtain ⟨levels, rfl⟩ := Nat.exists_eq_succ_of_ne_zero (Nat.ne_zero_of_lt hlevels)
      rw [Operator.wrapEach_cons] at hvalue
      rw [parseWithin_of_not hvalue, hparent, hblank,
        ih hinner (Nat.lt_of_succ_lt_succ hlevels) rfl]
      rfl

/-! ### More supported comparisons -/

/-- A value is read in the same way where more comparisons are supported. -/
theorem parseWithin_mono (hsub : supported ⊆ supported') {n : Node}
    (h : parseWithin kind supported levels value parent folded = .ok n) :
  parseWithin kind supported' levels value parent folded = .ok n
  := by
  induction levels generalizing value parent folded n with
  | zero => cases h
  | succ levels ih =>
      cases layer value with
      | blank hvalue =>
          rw [parseWithin_of_isBlank hvalue] at h
          cases h
      | literal hvalue hliteral =>
          rw [parseWithin_of_not_isWrapped hvalue hliteral] at h ⊢
          apply h
      | connective hop hvalue =>
          rw [parseWithin_of_connective hvalue hop] at h
          cases h
      | not hvalue =>
          rw [parseWithin_of_not hvalue] at h ⊢
          split at h
          · cases h
          · rename_i hparent
            split at h
            · cases h
            · rename_i hoperand
              obtain ⟨inner, hinner, rfl⟩ := Except.map_eq_ok_iff.mp h
              rw [if_neg hparent, if_neg hoperand, ih hinner]
              rfl
      | ignoreCase hvalue =>
          rw [parseWithin_of_ignoreCase hvalue] at h ⊢
          split at h
          · cases h
          · rename_i hoperand
            obtain ⟨inner, hinner, rfl⟩ := Except.map_eq_ok_iff.mp h
            rw [if_neg hoperand, ih hinner]
            rfl
      | @comparison op operand hop hvalue =>
          by_cases hsupported : op ∈ supported
          · rw [parseWithin_of_supported hvalue hop hsupported] at h
            rw [parseWithin_of_supported hvalue hop (hsub hsupported)]
            apply h
          · rw [parseWithin_of_unsupported hvalue hop hsupported] at h
            cases h

end Node

/-- A comparison that is not supported is reported under any `ci` under any `not` that may be nested
around it, with or without blanks between them, whatever it wraps. -/
theorem Dialect.parse_eq_unsupported {d : Dialect} {op : Operator} (hop : op.isComparison = true)
    (hsupported : op ∉ d.supported) (operand : Text) (outer : Text.Padding)
    (negations folds : List Text.Padding) (hdepth : negations.length + folds.length ≤ maxDepth) :
  d.parse (outer.around
      (Operator.not.wrapEach negations (Operator.ignoreCase.wrapEach folds (op.wrap operand))))
    = .error (.unsupported op d.kind)
  := by
  have hvalue := Operator.not.trim_around_wrapEach
    (Operator.ignoreCase.isTrimmed_wrapEach (op.isTrimmed_wrap operand) folds) outer negations
  have hlevels : negations.length + folds.length < maxDepth + 1 := Nat.lt_succ_of_le hdepth
  apply Node.parseWithin_of_trim_eq_wrapEach_not hop hsupported hvalue hlevels rfl

/-- At the greatest depth, numbers cannot be asked for what could not be read either. -/
theorem Dialect.parse_eq_unsupported_number :
  let p : Text.Padding := ⟨" ".toList, "\t".toList, by decide, by decide⟩
  let value := p.around (Operator.not.wrapEach (List.replicate 30 p)
    (Operator.ignoreCase.wrapEach [p, p] (Operator.contains.wrap "not())(".toList)))
  Operator.contains.isComparison = true ∧ .contains ∉ number.supported
    ∧ (List.replicate 30 p).length + [p, p].length ≤ maxDepth
    ∧ number.parse value = .error (.unsupported .contains "numeric")
  := by
  intro p value
  have hop : Operator.contains.isComparison = true := by decide
  have hsupported : .contains ∉ number.supported := by decide
  have hdepth : (List.replicate 30 p).length + [p, p].length ≤ maxDepth := by decide
  use hop, hsupported, hdepth
  apply parse_eq_unsupported hop hsupported _ p _ _ hdepth

end QueryFilter
