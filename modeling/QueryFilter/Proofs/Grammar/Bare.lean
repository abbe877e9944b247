import QueryFilter.Proofs.Composition.Overrides
import QueryFilter.Proofs.Grammar.Literal

/-!
# Bare literals

A text without blanks and parentheses, such as a number or a date, is its own literal: no operator
wraps it, nothing is removed from it, and under a supported comparison it is what the field is
compared with.
-/

namespace QueryFilter

namespace Wrapping

variable {t : Text} {op : Operator}

/-- No operator wraps a bare text, for lack of a parenthesis. -/
theorem isWrapped_of_isBare (h : t.IsBare) :
  isWrapped t = false
  := by
  rcases isWrapped_cases t with hliteral | ⟨op, operand, rfl⟩
  · apply hliteral
  · have hparen : ')' ∈ op.wrap operand := by simp [Operator.wrap]
    cases (h _ hparen).2.2 rfl

theorem strip_of_isBare (h : t.IsBare) :
  strip t = t
  := by
  have hliteral : isWrapped t.trim = false := by
    rw [h.trim_eq]
    apply isWrapped_of_isBare h
  rw [strip_of_isWrapped hliteral, h.trim_eq]

/-! ### Balance -/

/-- A bare text neither opens nor closes a parenthesis. -/
theorem openAtEnd?_append_of_isBare (h : t.IsBare) (depth : Nat) (rest : Text) :
  openAtEnd? depth (t ++ rest) = openAtEnd? depth rest
  := by
  induction t with
  | nil => rfl
  | cons c t ih =>
      obtain ⟨hc, ht⟩ := List.forall_mem_cons.mp h
      rw [List.cons_append, ← ih ht]
      simp only [openAtEnd?, if_neg hc.2.1, if_neg hc.2.2]

theorem isBare_token (op : Operator) :
  op.token.IsBare
  := by cases op <;> decide

/-- The parentheses around a bare text are balanced. -/
theorem validate_wrap_of_isBare (h : t.IsBare) :
  validate (op.wrap t) = .ok ()
  := by
  have hbalance : openAtEnd? 0 (op.wrap t) = some 0 := by
    rw [Operator.wrap, Operator.opening, List.append_assoc, List.append_assoc,
      openAtEnd?_append_of_isBare (isBare_token op), List.singleton_append, openAtEnd?, if_pos rfl,
      openAtEnd?_append_of_isBare h]
    rfl
  rw [validate, Operator.trim_wrap, hbalance]
  split
  · rfl
  · rfl

end Wrapping

section

variable {d : Dialect} {op : Operator} {literal : Text} (f : Field)

/-- A literal that no operator wraps is read under a supported comparison. -/
theorem Dialect.parse_wrap (hop : op.isComparison = true) (hsupported : op ∈ d.supported)
    (hliteral : Wrapping.isWrapped literal.trim = false) :
  d.parse (op.wrap literal) = .ok (.leaf op literal false)
  := by
  rw [parse, Node.parse, Node.parseWithin_of_supported (op.trim_wrap literal) hop hsupported]
  apply Node.parseLeaf_eq_ok_iff.mpr
  use hliteral

/-- A bare literal under a supported comparison is what the field is compared with. -/
theorem Dialect.single_wrap (hop : op.isComparison = true) (hsupported : op ∈ d.supported)
    (hliteral : literal.IsBare) :
  d.single f (op.wrap literal) = d.compare op f literal false
  := by
  have hwrapped : Wrapping.isWrapped literal.trim = false := by
    rw [hliteral.trim_eq]
    apply Wrapping.isWrapped_of_isBare hliteral
  simp only [single, parse_wrap hop hsupported hwrapped, build, leaf, if_pos hop]

/-- So it is when no other value is given. -/
theorem Composition.compose_wrap (hop : op.isComparison = true) (hsupported : op ∈ d.supported)
    (hliteral : literal.IsBare) :
  compose d f [op.wrap literal] none = (d.compare op f literal false).map some
  := by
  have hnone : Wrapping.findWrapped Operator.connectives (op.wrap literal) = none := by
    apply Option.map_eq_none_iff.mp
    rw [← Wrapping.findWrapper_eq_map]
    apply Wrapping.findWrapper_wrap_eq_none (Operator.notMem_connectives hop)
  have hwhole : unwrap (op.wrap literal) = (none, op.wrap literal) := by
    rw [unwrap, op.trim_wrap, hnone]
  rw [compose_singleton, Wrapping.validate_wrap_of_isBare hliteral, lone_eq, hwhole,
    op.isBlank_wrap, Dialect.single_wrap f hop hsupported hliteral]
  · rfl
  · rw [hwhole, op.trim_wrap, hnone]

end

end QueryFilter
