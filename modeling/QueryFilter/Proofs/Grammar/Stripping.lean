import QueryFilter.Proofs.Grammar.Literal

/-!
# What is left of a value

`Wrapping.strip` goes on until no operator and no blanks are left around the value.  What it leaves
is a part of the value, and stripping that again changes nothing.
-/

namespace QueryFilter

namespace Text

theorem trim_infix (t : Text) :
  t.trim <:+: t
  := by
  have hend : t.trim <+: t.trimStart := List.rdropWhile_prefix isBlankChar t.trimStart
  have hstart : t.trimStart <:+ t := List.dropWhile_suffix isBlankChar
  apply hend.isInfix.trans hstart.isInfix

end Text

namespace Wrapping

variable {value : Text}

theorem operand_infix_wrap (op : Operator) (operand : Text) :
  operand <:+: op.wrap operand
  := by
  use op.opening, [')']
  rfl

/-- A property of all values and their remainders holds if it does of values that no operator wraps
and passes from the operand of a wrapped value to the value. -/
theorem strip_induction {P : Text → Text → Prop}
    (hliteral : ∀ value, isWrapped value.trim = false → P value value.trim)
    (hwrapped : ∀ value op operand, value.trim = Operator.wrap op operand →
      P operand (strip operand) → P value (strip operand))
    (value : Text) :
  P value (strip value)
  := by
  fun_induction strip value with
  | case1 value op operand hfound ih =>
      apply hwrapped value op operand (findWrapped_eq_some_iff.mp hfound).2 ih
  | case2 value hnone =>
      apply hliteral
      apply isWrapped_eq_false_iff.mpr
      intro op
      apply findWrapped_eq_none_iff.mp hnone op op.mem_all

/-- Neither end of what is left is blank. -/
theorem isTrimmed_strip (value : Text) :
  (strip value).IsTrimmed
  := by
  induction value using strip_induction with
  | hliteral value _ => apply value.isTrimmed_trim
  | hwrapped value op operand _ ih => apply ih

theorem isWrapped_strip (value : Text) :
  isWrapped (strip value) = false
  := by
  induction value using strip_induction with
  | hliteral value hvalue => apply hvalue
  | hwrapped value op operand _ ih => apply ih

/-- What is left is a contiguous part of the value. -/
theorem strip_infix (value : Text) :
  strip value <:+: value
  := by
  induction value using strip_induction with
  | hliteral value _ => apply value.trim_infix
  | hwrapped value op operand hvalue ih =>
      have houter : operand <:+: value.trim := by
        rw [hvalue]
        apply operand_infix_wrap
      apply (ih.trans houter).trans value.trim_infix

theorem strip_strip (value : Text) :
  strip (strip value) = strip value
  := by
  have htrim := (isTrimmed_strip value).trim_eq
  have hliteral : isWrapped (strip value).trim = false := by rw [htrim, isWrapped_strip]
  rw [strip_of_isWrapped hliteral, htrim]

/-- Only the blanks around a value are removed exactly if no operator wraps what is between them. -/
theorem strip_eq_trim_iff :
  strip value = value.trim ↔ isWrapped value.trim = false
  := by
  constructor
  · intro h
    rw [← h, isWrapped_strip]
  · apply strip_of_isWrapped

/-- What is left of a value without its operators has no blank at its ends, is wrapped by no
operator, stands in the value, and is not changed any more.  Operators around the value do not
matter, and without any only blanks are removed. -/
theorem strip_stable (value : Text) :
  (strip value).IsTrimmed
    ∧ (∀ op : Operator, op.wraps (strip value) = false)
    ∧ strip value <:+: value
    ∧ strip (strip value) = strip value
    ∧ (∀ op : Operator, strip (op.wrap value) = strip value)
    ∧ (strip value = value.trim ↔ ∀ op : Operator, op.wraps value.trim = false)
  := by
  refine ⟨isTrimmed_strip value, ?_, strip_infix value, strip_strip value, ?_, ?_⟩
  · apply isWrapped_eq_false_iff.mp (isWrapped_strip value)
  · intro op
    apply strip_wrap
  · rw [strip_eq_trim_iff, isWrapped_eq_false_iff]

end Wrapping

end QueryFilter
