import QueryFilter.Dialect
import QueryFilter.Proofs.Grammar.Node

/-!
# The literal of a value

A value that is read has one literal, under all its operators.  `Wrapping.strip` knows nothing of
the comparisons that a field supports, yet it leaves this literal and nothing else: every operator
that it removes is one that `Node.parse` reads, since a value under any other is refused.
-/

namespace QueryFilter

namespace Wrapping

/-- Nothing is removed from a text that no operator wraps but the blanks around it. -/
theorem strip_of_isWrapped {t : Text} (h : isWrapped t.trim = false) :
  strip t = t.trim
  := by
  apply strip_of_eq_none
  apply findWrapped_eq_none_iff.mpr
  intro op _
  apply isWrapped_eq_false_iff.mp h

/-- What is left of the operand of a value is left of the value. -/
theorem strip_of_trim_eq_wrap {t operand : Text} {op : Operator} (h : t.trim = op.wrap operand) :
  strip t = strip operand
  := strip_of_eq_some (findWrapped_eq_some_iff.mpr ⟨op.mem_all, h⟩)

end Wrapping

namespace Node

open Wrapping

/-- The literal under the operators of a node. -/
def literal : Node → Text
  | .leaf _ literal _ => literal
  | .not inner => inner.literal
  | .ignoreCase inner => inner.literal

/-- Removing the operators of a value that is read, whatever stands around it, leaves its
literal. -/
theorem strip_eq_trim_literal {kind : String} {supported : List Operator} {levels : Nat}
    {value : Text} {parent : Option Operator} {folded : Bool} {n : Node}
    (h : parseWithin kind supported levels value parent folded = .ok n) :
  strip value = n.literal.trim
  := by
  induction levels generalizing value parent folded n with
  | zero => cases h
  | succ levels ih =>
      rcases parseWithin_succ_eq_ok h with
        ⟨operand, inner, hvalue, -, hinner, rfl⟩ | ⟨operand, inner, hvalue, hinner, rfl⟩
          | ⟨op, t, -, -, hvalue, ht, rfl⟩ | ⟨hvalue, rfl⟩
      · rw [strip_of_trim_eq_wrap hvalue, ih hinner, literal]
      · rw [strip_of_trim_eq_wrap hvalue, ih hinner, literal]
      · rw [strip_of_trim_eq_wrap hvalue, strip_of_isWrapped ht, literal]
      · rw [strip_of_isWrapped hvalue, literal, Text.trim_trim]

end Node

/-- The literal that a value is read to compare with is what is left of the value without its
operators, up to blanks around it, whatever comparisons are supported. -/
theorem Dialect.strip_of_parse_eq_ok {d : Dialect} {value : Text} {n : Node}
    (h : d.parse value = .ok n) :
  Wrapping.strip value = n.literal.trim
  := Node.strip_eq_trim_literal h

/-- A literal with parentheses and blanks is what is left of a text under three operators. -/
theorem Dialect.strip_of_parse_eq_ok_text :
  text.parse " not(ci(contains( a)b( ))) ".toList
      = .ok (.not (.ignoreCase (.leaf .contains " a)b( ".toList true)))
    ∧ Wrapping.strip " not(ci(contains( a)b( ))) ".toList = "a)b(".toList
  := by
  have hread : text.parse " not(ci(contains( a)b( ))) ".toList
      = .ok (.not (.ignoreCase (.leaf .contains " a)b( ".toList true))) := by decide
  use hread
  apply strip_of_parse_eq_ok hread

end QueryFilter
