import Mathlib.Logic.Function.Iterate
import QueryFilter.Dialect
import QueryFilter.Proofs.Grammar.Node

/-!
# Canonical nodes

A node is canonical when it is a supported comparison with a literal under `ci` under `not`, at
most `maxDepth` wrappers in all, marked to ignore case exactly if some `ci` is among them.  Values
are read as canonical nodes only, and every canonical node is read back from the value it stands
for.
-/

namespace QueryFilter

namespace Node

open Wrapping

/-- A comparison under `folds` times `ci` under `negations` times `not`. -/
def nest (negations folds : Nat) (op : Operator) (literal : Text) (folded : Bool) : Node :=
  not^[negations] (ignoreCase^[folds] (.leaf op literal folded))

theorem nest_zero_zero (op : Operator) (literal : Text) (folded : Bool) :
  nest 0 0 op literal folded = .leaf op literal folded
  := rfl

theorem nest_zero_succ (folds : Nat) (op : Operator) (literal : Text) (folded : Bool) :
  nest 0 (folds + 1) op literal folded = ignoreCase (nest 0 folds op literal folded)
  := Function.iterate_succ_apply' _ _ _

theorem nest_succ (negations folds : Nat) (op : Operator) (literal : Text) (folded : Bool) :
  nest (negations + 1) folds op literal folded = not (nest negations folds op literal folded)
  := Function.iterate_succ_apply' _ _ _

/-- A supported comparison with a literal that no operator wraps, under `ci` under `not`. -/
def Canonical (supported : List Operator) (n : Node) : Prop :=
  ∃ (negations folds : Nat) (op : Operator) (literal : Text),
    negations + folds ≤ maxDepth ∧ op ∈ supported ∧ op.isComparison = true
      ∧ isWrapped literal.trim = false
      ∧ n = nest negations folds op literal (decide (1 ≤ folds))

theorem isBlank_render (n : Node) :
  n.render.isBlank = false
  := by
  cases n with
  | leaf op literal folded => apply op.isBlank_wrap
  | not inner => apply Operator.isBlank_wrap
  | ignoreCase inner => apply Operator.isBlank_wrap

variable {kind : String} {supported : List Operator} {op : Operator} {literal : Text}

/-! ### What is read is canonical -/

/-- What is read under some wrappers is a comparison under `ci` under `not`, a supported one or
equality; under `ci` there is no `not`. -/
theorem exists_nest_of_parseWithin {levels : Nat} {value : Text} {parent : Option Operator}
    {folded : Bool} {n : Node}
    (h : parseWithin kind supported levels value parent folded = .ok n) :
  ∃ (negations folds : Nat) (op : Operator) (literal : Text),
    negations + folds < levels ∧ (parent = some .ignoreCase → negations = 0)
      ∧ (op ∈ supported ∨ op = .eq) ∧ op.isComparison = true ∧ isWrapped literal.trim = false
      ∧ n = nest negations folds op literal (folded || decide (1 ≤ folds))
  := by
  induction levels generalizing value parent folded n with
  | zero => cases h
  | succ levels ih =>
      rcases parseWithin_succ_eq_ok h with
        ⟨operand, inner, -, hparent, hinner, rfl⟩ | ⟨operand, inner, -, hinner, rfl⟩
          | ⟨op, literal, hop, hsupported, -, hliteral, rfl⟩ | ⟨hliteral, rfl⟩
      · obtain ⟨a, b, op, literal, hlt, -, hsupported, hop, hliteral, rfl⟩ := ih hinner
        use a + 1, b, op, literal
        refine ⟨by omega, ?_, hsupported, hop, hliteral, ?_⟩
        · intro hfold
          cases hparent hfold
        · rw [nest_succ]
      · obtain ⟨a, b, op, literal, hlt, hnone, hsupported, hop, hliteral, rfl⟩ := ih hinner
        obtain rfl := hnone rfl
        use 0, b + 1, op, literal
        refine ⟨by omega, fun _ => rfl, hsupported, hop, hliteral, ?_⟩
        rw [nest_zero_succ]
        simp
      · use 0, 0, op, literal
        refine ⟨by omega, fun _ => rfl, .inl hsupported, hop, hliteral, ?_⟩
        simp [nest_zero_zero]
      · use 0, 0, .eq, value.trim
        rw [Text.trim_trim]
        refine ⟨by omega, fun _ => rfl, .inr rfl, by decide, hliteral, ?_⟩
        simp [nest_zero_zero]

/-- Where equality is supported, what is read is a supported comparison under `ci` under `not`. -/
theorem eq_nest_of_parseWithin (heq : .eq ∈ supported) {levels : Nat} {value : Text}
    {parent : Option Operator} {folded : Bool} {n : Node}
    (h : parseWithin kind supported levels value parent folded = .ok n) :
  ∃ (negations folds : Nat) (op : Operator) (literal : Text),
    negations + folds < levels ∧ (parent = some .ignoreCase → negations = 0) ∧ op ∈ supported
      ∧ op.isComparison = true ∧ isWrapped literal.trim = false
      ∧ n = nest negations folds op literal (folded || decide (1 ≤ folds))
  := by
  obtain ⟨a, b, op, literal, hlt, hparent, hsupported | rfl, hrest⟩ := exists_nest_of_parseWithin h
  · use a, b, op, literal
  · use a, b, .eq, literal

/-! ### A canonical node is read back -/

/-- A comparison under `ci` is read back wherever there are levels enough. -/
theorem parseWithin_render_nest_zero (hsupported : op ∈ supported) (hop : op.isComparison = true)
    (hliteral : isWrapped literal.trim = false) {folds levels : Nat} (hlevels : folds < levels)
    (parent : Option Operator) (folded : Bool) :
  parseWithin kind supported levels
      (nest 0 folds op literal (folded || decide (1 ≤ folds))).render parent folded
    = .ok (nest 0 folds op literal (folded || decide (1 ≤ folds)))
  := by
  induction folds generalizing levels parent folded with
  | zero =>
      obtain ⟨levels, rfl⟩ := Nat.exists_eq_succ_of_ne_zero (Nat.ne_of_gt hlevels)
      rw [nest_zero_zero, render, parseWithin_of_supported (op.trim_wrap literal) hop hsupported]
      apply parseLeaf_eq_ok_iff.mpr
      use hliteral
      simp
  | succ folds ih =>
      obtain ⟨levels, rfl⟩ := Nat.exists_eq_succ_of_ne_zero (Nat.ne_zero_of_lt hlevels)
      have hflag : (folded || decide (1 ≤ folds + 1)) = (true || decide (1 ≤ folds)) := by simp
      rw [hflag, nest_zero_succ, render, parseWithin_of_ignoreCase (Operator.trim_wrap _ _),
        isBlank_render, ih (Nat.lt_of_succ_lt_succ hlevels) _ true]
      rfl

/-- A comparison under `ci` under `not` is read back where there are levels enough, unless it
stands under another operator than `not`. -/
theorem parseWithin_render_nest (hsupported : op ∈ supported) (hop : op.isComparison = true)
    (hliteral : isWrapped literal.trim = false) {negations folds levels : Nat}
    (hlevels : negations + folds < levels) {parent : Option Operator}
    (hparent : (parent.isSome && parent != some .not) = false) (folded : Bool) :
  parseWithin kind supported levels
      (nest negations folds op literal (folded || decide (1 ≤ folds))).render parent folded
    = .ok (nest negations folds op literal (folded || decide (1 ≤ folds)))
  := by
  induction negations generalizing levels parent with
  | zero =>
      rw [Nat.zero_add] at hlevels
      apply parseWithin_render_nest_zero hsupported hop hliteral hlevels
  | succ negations ih =>
      obtain ⟨levels, rfl⟩ := Nat.exists_eq_succ_of_ne_zero (Nat.ne_zero_of_lt hlevels)
      have hinner : negations + folds < levels := by omega
      rw [nest_succ, render, parseWithin_of_not (Operator.trim_wrap _ _), hparent,
        isBlank_render, ih hinner (by decide)]
      rfl

end Node

/-- There are four dialects of kinds of fields, the one of enumerations in two modes. -/
theorem Dialect.eq_of_ofKind? {loose : Bool} {kind : FieldKind} {d : Dialect}
    (h : ofKind? loose kind = some d) :
  d = text ∨ d = number ∨ d = date ∨ d = enumeration loose
  := by
  cases kind with
  | text | number | timestamp | enumeration =>
      cases h
      simp
  | other typeName => cases h

/-- Every dialect of a kind of fields supports equality, and comparisons only. -/
theorem Dialect.supported_of_ofKind? {loose : Bool} {kind : FieldKind} {d : Dialect}
    (h : ofKind? loose kind = some d) :
  .eq ∈ d.supported ∧ ∀ op ∈ d.supported, op.isComparison = true
  := by
  rcases eq_of_ofKind? h with rfl | rfl | rfl | rfl
  · decide
  · decide
  · decide
  · clear h
    revert loose
    decide

/-- A dialect that supports equality, as every dialect of a kind of fields does, reads values as
canonical nodes only, and reads every canonical node back from the value it stands for. -/
theorem Dialect.parse_canonical :
  (∀ (loose : Bool) (kind : FieldKind) (d : Dialect), ofKind? loose kind = some d →
      .eq ∈ d.supported ∧ ∀ op ∈ d.supported, op.isComparison = true)
    ∧ ∀ d : Dialect, .eq ∈ d.supported →
      (∀ (value : Text) (n : Node), d.parse value = .ok n → n.Canonical d.supported)
        ∧ ∀ n : Node, n.Canonical d.supported → d.parse n.render = .ok n
  := by
  constructor
  · intro loose kind d
    apply supported_of_ofKind?
  · intro d heq
    constructor
    · intro value n h
      obtain ⟨a, b, op, literal, hlt, -, hsupported, hop, hliteral, hn⟩ :=
        Node.eq_nest_of_parseWithin heq h
      use a, b, op, literal, Nat.le_of_lt_succ hlt, hsupported, hop, hliteral
      rw [hn, Bool.false_or]
    · rintro n ⟨a, b, op, literal, hle, hsupported, hop, hliteral, rfl⟩
      have hback : Node.parseWithin d.kind d.supported (maxDepth + 1)
          (Node.nest a b op literal (false || decide (1 ≤ b))).render none false = .ok _ :=
        Node.parseWithin_render_nest hsupported hop hliteral (Nat.lt_succ_of_le hle) rfl false
      rw [Bool.false_or] at hback
      apply hback

/-- A text of two `not` and a `ci` around a literal with parentheses and blanks is read, and read
back. -/
theorem Dialect.parse_canonical_text :
  .eq ∈ text.supported
    ∧ text.parse "not( not(ci(contains( a)b( ))) )".toList
      = .ok (.not (.not (.ignoreCase (.leaf .contains " a)b( ".toList true))))
    ∧ (Node.not (.not (.ignoreCase (.leaf .contains " a)b( ".toList true)))).Canonical
        text.supported
    ∧ text.parse "not(not(ci(contains( a)b( ))))".toList
      = .ok (.not (.not (.ignoreCase (.leaf .contains " a)b( ".toList true))))
  := by
  obtain ⟨heq, -⟩ := parse_canonical.1 true .text text rfl
  obtain ⟨hcanonical, hback⟩ := parse_canonical.2 text heq
  have hread : text.parse "not( not(ci(contains( a)b( ))) )".toList
      = .ok (.not (.not (.ignoreCase (.leaf .contains " a)b( ".toList true)))) := by decide
  have h := hcanonical _ _ hread
  use heq, hread, h
  apply hback _ h

end QueryFilter
