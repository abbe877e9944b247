import QueryFilter.Grammar.Node
import QueryFilter.Proofs.Except
import QueryFilter.Proofs.Grammar.Wrapping

/-!
# Reading one layer of a value

What `Node.parseWithin` does with a value is decided by the operator around the trimmed value.
`Wrapping.Layer` lists the possibilities: no text at all, no operator, a connective, `not`, `ci` and
a comparison.  There is one statement for each, and two for comparisons, which may be supported or
not.
-/

namespace QueryFilter

namespace Operator

/-- An operator is a connective, `not`, `ci` or a comparison. -/
theorem role_cases (op : Operator) :
  op ∈ connectives ∨ op = .not ∨ op = .ignoreCase ∨ op.isComparison = true
  := by cases op <;> decide

theorem mem_comparisons_iff {op : Operator} :
  op ∈ comparisons ↔ op.isComparison = true
  := by cases op <;> decide

theorem notMem_connectives {op : Operator} (h : op.isComparison = true) :
  op ∉ connectives
  := by
  intro hmem
  have hconnectives : ∀ op ∈ connectives, op.isComparison = false := by decide
  rw [hconnectives op hmem] at h
  cases h

end Operator

namespace Wrapping

theorem isWrapped_eq_false_iff {t : Text} :
  isWrapped t = false ↔ ∀ op : Operator, op.wraps t = false
  := by
  rw [isWrapped, Option.isSome_eq_false_iff, Option.isNone_iff_eq_none, findWrapper_eq_none_iff]
  constructor
  · intro h op
    apply h op op.mem_all
  · intro h op _
    apply h op

/-- A text is wrapped by no operator, or it is an operator applied to an operand. -/
theorem isWrapped_cases (t : Text) :
  isWrapped t = false ∨ ∃ (op : Operator) (operand : Text), t = op.wrap operand
  := by
  cases h : isWrapped t with
  | false =>
      left
      rfl
  | true =>
      right
      obtain ⟨op, hop⟩ := Option.isSome_iff_exists.mp h
      obtain ⟨-, operand, ht⟩ := findWrapper_eq_some_iff.mp hop
      use op, operand

theorem findWrapper_eq_none_of_isWrapped {t : Text} (h : isWrapped t = false)
    (candidates : List Operator) :
  findWrapper candidates t = none
  := by
  apply findWrapper_eq_none_iff.mpr
  intro op _
  apply isWrapped_eq_false_iff.mp h

/-- What stands on the outside of a value, blanks around it set aside. -/
inductive Layer (value : Text) : Prop where
  | blank (hvalue : value.isBlank = true)
  | literal (hvalue : value.isBlank = false) (h : isWrapped value.trim = false)
  | connective {op : Operator} {operand : Text} (hop : op ∈ Operator.connectives)
      (h : value.trim = op.wrap operand)
  | not {operand : Text} (h : value.trim = Operator.not.wrap operand)
  | ignoreCase {operand : Text} (h : value.trim = Operator.ignoreCase.wrap operand)
  | comparison {op : Operator} {operand : Text} (hop : op.isComparison = true)
      (h : value.trim = op.wrap operand)

theorem layer (value : Text) :
  Layer value
  := by
  cases hvalue : value.isBlank with
  | true => apply Layer.blank hvalue
  | false =>
      rcases isWrapped_cases value.trim with h | ⟨op, operand, h⟩
      · apply Layer.literal hvalue h
      · rcases op.role_cases with hop | rfl | rfl | hop
        · apply Layer.connective hop h
        · apply Layer.not h
        · apply Layer.ignoreCase h
        · apply Layer.comparison hop h

end Wrapping

namespace Node

open Wrapping

variable {kind : String} {supported : List Operator} {levels : Nat} {value operand : Text}
  {parent : Option Operator} {folded : Bool} {op : Operator}

theorem candidates_ne_nil (supported : List Operator) :
  candidates supported ≠ []
  := by simp [candidates]

/-- A comparison stands before a literal exactly if no operator wraps the literal. -/
theorem parseLeaf_eq_ok_iff {literal : Text} {n : Node} :
  parseLeaf op literal folded = .ok n
    ↔ isWrapped literal.trim = false ∧ n = .leaf op literal folded
  := by
  unfold parseLeaf isWrapped
  cases findWrapper Operator.all literal.trim with
  | none => simp [eq_comm]
  | some nested => simp

/-- Blanks around a value do not matter. -/
theorem parseWithin_trim :
  parseWithin kind supported (levels + 1) value.trim parent folded
    = parseWithin kind supported (levels + 1) value parent folded
  := by simp only [parseWithin, extract, misplaced?, Text.trim_trim]

/-! ### The operator around a value -/

theorem parseWithin_of_isBlank (h : value.isBlank = true) :
  parseWithin kind supported (levels + 1) value parent folded = .error .blankValue
  := by
  have hnone : findWrapper Operator.connectives value.trim = none := by
    rw [Text.trim_eq_nil_iff.mpr h]
    decide
  simp only [parseWithin, hnone, extract_of_isBlank h]

/-- A value that no operator wraps is to be equal. -/
theorem parseWithin_of_not_isWrapped (hvalue : value.isBlank = false)
    (h : isWrapped value.trim = false) :
  parseWithin kind supported (levels + 1) value parent folded = .ok (.leaf .eq value.trim folded)
  := by
  have hfound : findWrapped (candidates supported) value.trim = none := by
    apply findWrapped_eq_none_iff.mpr
    intro op _
    apply isWrapped_eq_false_iff.mp h
  simp only [parseWithin, findWrapper_eq_none_of_isWrapped h, misplaced?,
    extract_eq hvalue (candidates_ne_nil supported), hfound]
  apply parseLeaf_eq_ok_iff.mpr
  rw [Text.trim_trim]
  use h

theorem parseWithin_of_connective (h : value.trim = op.wrap operand)
    (hop : op ∈ Operator.connectives) :
  parseWithin kind supported (levels + 1) value parent folded
    = .error (.nestedConnective op value.trim)
  := by
  have hfound : findWrapper Operator.connectives value.trim = some op :=
    findWrapper_eq_some_iff.mpr ⟨hop, operand, h⟩
  simp only [parseWithin, hfound]

/-- A value wrapped by a candidate other than a connective is split at that operator. -/
theorem extract_candidates (h : value.trim = op.wrap operand) (hop : op ∈ candidates supported) :
  extract value (candidates supported) .eq = .ok ⟨op, operand, true⟩
  := by
  have hvalue : value.isBlank = false := by
    rw [← Text.isEmpty_trim, h, ← op.trim_wrap, Text.isEmpty_trim, op.isBlank_wrap]
  rw [extract_eq hvalue (candidates_ne_nil supported), findWrapped_eq_some_iff.mpr ⟨hop, h⟩]

theorem parseWithin_of_not (h : value.trim = Operator.not.wrap operand) :
  parseWithin kind supported (levels + 1) value parent folded
    = if parent.isSome && parent != some .not then .error (.misplacedNot value.trim)
      else if operand.isBlank then .error (.missingOperand .not)
      else (parseWithin kind supported levels operand (some .not) folded).map .not
  := by
  have hnone : findWrapper Operator.connectives value.trim = none := by
    rw [h]
    apply findWrapper_wrap_eq_none
    decide
  have hop : Operator.not ∈ candidates supported := by simp [candidates]
  simp only [parseWithin, hnone, extract_candidates h hop, misplaced?, ↓reduceIte]

theorem parseWithin_of_ignoreCase (h : value.trim = Operator.ignoreCase.wrap operand) :
  parseWithin kind supported (levels + 1) value parent folded
    = if operand.isBlank then .error (.missingOperand .ignoreCase)
      else (parseWithin kind supported levels operand (some .ignoreCase) true).map .ignoreCase
  := by
  have hnone : findWrapper Operator.connectives value.trim = none := by
    rw [h]
    apply findWrapper_wrap_eq_none
    decide
  have hop : Operator.ignoreCase ∈ candidates supported := by simp [candidates]
  simp only [parseWithin, hnone, extract_candidates h hop, misplaced?, ↓reduceIte]

/-- A supported comparison stands before a literal. -/
theorem parseWithin_of_supported (h : value.trim = op.wrap operand)
    (hop : op.isComparison = true) (hsupported : op ∈ supported) :
  parseWithin kind supported (levels + 1) value parent folded = parseLeaf op operand folded
  := by
  have hnone : findWrapper Operator.connectives value.trim = none := by
    rw [h]
    apply findWrapper_wrap_eq_none (Operator.notMem_connectives hop)
  have hmem : op ∈ candidates supported := List.mem_append_left _ hsupported
  simp only [parseWithin, hnone, extract_candidates h hmem, misplaced?, ↓reduceIte]
  cases op <;> first | rfl | cases hop

/-- A comparison that is not supported is reported, whatever it wraps. -/
theorem parseWithin_of_unsupported (h : value.trim = op.wrap operand)
    (hop : op.isComparison = true) (hsupported : op ∉ supported) :
  parseWithin kind supported (levels + 1) value parent folded = .error (.unsupported op kind)
  := by
  have hvalue : value.isBlank = false := by
    rw [← Text.isEmpty_trim, h, ← op.trim_wrap, Text.isEmpty_trim, op.isBlank_wrap]
  have hnone : findWrapper Operator.connectives value.trim = none := by
    rw [h]
    apply findWrapper_wrap_eq_none (Operator.notMem_connectives hop)
  have hcandidates : op ∉ candidates supported := by
    intro hmem
    rcases List.mem_append.mp hmem with hmem | hmem
    · apply hsupported hmem
    · have hothers : ∀ op ∈ [Operator.not, .ignoreCase], op.isComparison = false := by decide
      rw [hothers op hmem] at hop
      cases hop
  have hfound : findWrapped (candidates supported) value.trim = none := by
    apply Option.map_eq_none_iff.mp
    rw [← findWrapper_eq_map, h]
    apply findWrapper_wrap_eq_none hcandidates
  have hcomparison : findWrapper Operator.comparisons value.trim = some op :=
    findWrapper_eq_some_iff.mpr ⟨Operator.mem_comparisons_iff.mpr hop, operand, h⟩
  simp [parseWithin, hnone, extract_eq hvalue (candidates_ne_nil supported), hfound, misplaced?,
    hcomparison]

/-! ### What can be read -/

/-- A value that is read is `not` or `ci` applied to a value that is read, a supported comparison
with a literal, or a literal alone. -/
theorem parseWithin_succ_eq_ok {n : Node}
    (h : parseWithin kind supported (levels + 1) value parent folded = .ok n) :
  (∃ operand inner, value.trim = Operator.not.wrap operand ∧ parent ≠ some .ignoreCase
      ∧ parseWithin kind supported levels operand (some .not) folded = .ok inner
      ∧ n = .not inner)
    ∨ (∃ operand inner, value.trim = Operator.ignoreCase.wrap operand
      ∧ parseWithin kind supported levels operand (some .ignoreCase) true = .ok inner
      ∧ n = .ignoreCase inner)
    ∨ (∃ op literal, op.isComparison = true ∧ op ∈ supported ∧ value.trim = op.wrap literal
      ∧ isWrapped literal.trim = false ∧ n = .leaf op literal folded)
    ∨ (isWrapped value.trim = false ∧ n = .leaf .eq value.trim folded)
  := by
  cases layer value with
  | blank hvalue =>
      rw [parseWithin_of_isBlank hvalue] at h
      cases h
  | literal hvalue hliteral =>
      rw [parseWithin_of_not_isWrapped hvalue hliteral] at h
      cases h
      right; right; right
      use hliteral
  | connective hop hvalue =>
      rw [parseWithin_of_connective hvalue hop] at h
      cases h
  | not hvalue =>
      rw [parseWithin_of_not hvalue] at h
      split at h
      · cases h
      · rename_i hparent
        split at h
        · cases h
        · obtain ⟨inner, hinner, rfl⟩ := Except.map_eq_ok_iff.mp h
          left
          refine ⟨_, inner, hvalue, ?_, hinner, rfl⟩
          rintro rfl
          apply hparent
          decide
  | ignoreCase hvalue =>
      rw [parseWithin_of_ignoreCase hvalue] at h
      split at h
      · cases h
      · obtain ⟨inner, hinner, rfl⟩ := Except.map_eq_ok_iff.mp h
        right; left
        exact ⟨_, inner, hvalue, hinner, rfl⟩
  | @comparison op operand hop hvalue =>
      by_cases hsupported : op ∈ supported
      · rw [parseWithin_of_supported hvalue hop hsupported] at h
        obtain ⟨hliteral, rfl⟩ := parseLeaf_eq_ok_iff.mp h
        right; right; left
        use op, operand
      · rw [parseWithin_of_unsupported hvalue hop hsupported] at h
        cases h

end Node

end QueryFilter
