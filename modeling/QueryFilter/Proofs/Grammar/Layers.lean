import Mathlib.Logic.Function.Iterate
import QueryFilter.Dialect
import QueryFilter.Proofs.Grammar.Node

/-!
# Layers of a value

A value that is read is read in the same way under other operators as well, as far as the levels
suffice and no `not` comes to stand under `ci`: only the mark for ignoring case depends on what
stands around the value.  So `not` and `ci` around a value do to its node and to its expression what
they do alone.
-/

namespace QueryFilter

namespace Node

open Wrapping

/-- The number of operators around the comparison of a node. -/
def layers : Node → Nat
  | .leaf _ _ _ => 0
  | .not inner => inner.layers + 1
  | .ignoreCase inner => inner.layers + 1

/-- The node with its comparison marked to ignore case if `folded` is set or some `ci` of the node
says so. -/
def folding (folded : Bool) : Node → Node
  | .leaf op literal _ => .leaf op literal folded
  | .not inner => .not (inner.folding folded)
  | .ignoreCase inner => .ignoreCase (inner.folding true)

/-- `not` is the operator on the outside of the node. -/
def isNot : Node → Bool
  | .not _ => true
  | _ => false

variable {kind : String} {supported : List Operator} {levels levels' : Nat} {value : Text}
  {parent parent' : Option Operator} {folded : Bool} {n : Node}

/-- A node that is read under a number of levels has fewer layers. -/
theorem layers_lt_of_parseWithin
    (h : parseWithin kind supported levels value parent folded = .ok n) :
  n.layers < levels
  := by
  induction levels generalizing value parent folded n with
  | zero => cases h
  | succ levels ih =>
      rcases parseWithin_succ_eq_ok h with
        ⟨operand, inner, -, -, hinner, rfl⟩ | ⟨operand, inner, -, hinner, rfl⟩
          | ⟨op, literal, -, -, -, -, rfl⟩ | ⟨-, rfl⟩
      · apply Nat.succ_lt_succ (ih hinner)
      · apply Nat.succ_lt_succ (ih hinner)
      · apply Nat.succ_pos
      · apply Nat.succ_pos

/-- There is no `not` directly under `ci`. -/
theorem isNot_of_parseWithin_ignoreCase
    (h : parseWithin kind supported levels value (some .ignoreCase) folded = .ok n) :
  n.isNot = false
  := by
  cases levels with
  | zero => cases h
  | succ levels =>
      rcases parseWithin_succ_eq_ok h with
        ⟨operand, inner, -, hparent, -, -⟩ | ⟨operand, inner, -, -, rfl⟩
          | ⟨op, literal, -, -, -, -, rfl⟩ | ⟨-, rfl⟩
      · cases hparent rfl
      · rfl
      · rfl
      · rfl

/-- The mark of a node that is read is the one that its place asks for. -/
theorem folding_of_parseWithin
    (h : parseWithin kind supported levels value parent folded = .ok n) :
  n.folding folded = n
  := by
  induction levels generalizing value parent folded n with
  | zero => cases h
  | succ levels ih =>
      rcases parseWithin_succ_eq_ok h with
        ⟨operand, inner, -, -, hinner, rfl⟩ | ⟨operand, inner, -, hinner, rfl⟩
          | ⟨op, literal, -, -, -, -, rfl⟩ | ⟨-, rfl⟩
      · rw [folding, ih hinner]
      · rw [folding, ih hinner]
      · rfl
      · rfl

/-- A value that is read is read at any other place with levels enough, unless a `not` comes to
stand under another operator there. -/
theorem parseWithin_folding (h : parseWithin kind supported levels value parent folded = .ok n)
    (hlevels : n.layers < levels')
    (hparent : n.isNot = true → (parent'.isSome && parent' != some .not) = false)
    (folded' : Bool) :
  parseWithin kind supported levels' value parent' folded' = .ok (n.folding folded')
  := by
  induction levels generalizing value parent folded n levels' parent' folded' with
  | zero => cases h
  | succ levels ih =>
      obtain ⟨levels', rfl⟩ := Nat.exists_eq_succ_of_ne_zero (Nat.ne_zero_of_lt hlevels)
      cases layer value with
      | blank hvalue =>
          rw [parseWithin_of_isBlank hvalue] at h
          cases h
      | literal hvalue hliteral =>
          rw [parseWithin_of_not_isWrapped hvalue hliteral] at h
          cases h
          apply parseWithin_of_not_isWrapped hvalue hliteral
      | connective hop hvalue =>
          rw [parseWithin_of_connective hvalue hop] at h
          cases h
      | not hvalue =>
          rw [parseWithin_of_not hvalue] at h
          split at h
          · cases h
          · split at h
            · cases h
            · rename_i hoperand
              obtain ⟨inner, hinner, rfl⟩ := Except.map_eq_ok_iff.mp h
              have hfewer : inner.layers < levels' := Nat.lt_of_succ_lt_succ hlevels
              rw [parseWithin_of_not hvalue, hparent rfl, if_neg Bool.false_ne_true,
                if_neg hoperand, ih hinner hfewer (fun _ => rfl)]
              rfl
      | ignoreCase hvalue =>
          rw [parseWithin_of_ignoreCase hvalue] at h
          split at h
          · cases h
          · rename_i hoperand
            obtain ⟨inner, hinner, rfl⟩ := Except.map_eq_ok_iff.mp h
            have hfewer : inner.layers < levels' := Nat.lt_of_succ_lt_succ hlevels
            have hnot := isNot_of_parseWithin_ignoreCase hinner
            rw [parseWithin_of_ignoreCase hvalue, if_neg hoperand,
              ih hinner hfewer (by simp [hnot])]
            rfl
      | @comparison op operand hop hvalue =>
          by_cases hsupported : op ∈ supported
          · rw [parseWithin_of_supported hvalue hop hsupported] at h
            obtain ⟨hliteral, rfl⟩ := parseLeaf_eq_ok_iff.mp h
            rw [parseWithin_of_supported hvalue hop hsupported]
            apply parseLeaf_eq_ok_iff.mpr
            use hliteral
            rfl
          · rw [parseWithin_of_unsupported hvalue hop hsupported] at h
            cases h

/-- The innermost mark is the last one that is set. -/
theorem folding_folding (n : Node) (folded folded' : Bool) :
  (n.folding folded).folding folded' = n.folding folded'
  := by
  induction n generalizing folded folded' with
  | leaf op literal ignoreCase => rfl
  | not inner ih => rw [folding, folding, folding, ih]
  | ignoreCase inner ih => rw [folding, folding, folding, ih]

/-- A blank value is not read. -/
theorem isBlank_of_parseWithin
    (h : parseWithin kind supported levels value parent folded = .ok n) :
  value.isBlank = false
  := by
  apply Bool.eq_false_iff.mpr
  intro hvalue
  cases levels with
  | zero => cases h
  | succ levels =>
      rw [parseWithin_of_isBlank hvalue] at h
      cases h

end Node

namespace Dialect

variable {d : Dialect} {value : Text} {n m : Node}

theorem single_eq_build (h : d.parse value = .ok n) (f : Field) :
  d.single f value = d.build f n
  := by simp only [single, h]

/-! ### `not` around a value -/

theorem parse_wrap_not (h : d.parse value = .ok n) (hlayers : n.layers < maxDepth) :
  d.parse (Operator.not.wrap value) = .ok (.not n)
  := by
  have hinner : Node.parseWithin d.kind d.supported maxDepth value (some .not) false = .ok n := by
    rw [Node.parseWithin_folding h hlayers (fun _ => rfl), Node.folding_of_parseWithin h]
  rw [parse, Node.parse, Node.parseWithin_of_not (Operator.trim_wrap _ _),
    Node.isBlank_of_parseWithin h, hinner]
  rfl

/-- A value is read if it is read under `not`. -/
theorem exists_of_parse_wrap_not (h : d.parse (Operator.not.wrap value) = .ok m) :
  ∃ n, d.parse value = .ok n ∧ m = .not n
  := by
  rw [parse, Node.parse, Node.parseWithin_of_not (Operator.trim_wrap _ _)] at h
  split at h
  · cases h
  · split at h
    · cases h
    · obtain ⟨n, hn, rfl⟩ := Except.map_eq_ok_iff.mp h
      use n
      constructor
      · have hlevels := Nat.lt_succ_of_lt (Node.layers_lt_of_parseWithin hn)
        rw [parse, Node.parse, Node.parseWithin_folding hn hlevels (fun _ => rfl),
          Node.folding_of_parseWithin hn]
      · rfl

/-! ### `ci` around a value -/

theorem parse_wrap_ignoreCase (h : d.parse value = .ok n) (hlayers : n.layers < maxDepth)
    (hnot : n.isNot = false) :
  d.parse (Operator.ignoreCase.wrap value) = .ok (.ignoreCase (n.folding true))
  := by
  rw [parse, Node.parse, Node.parseWithin_of_ignoreCase (Operator.trim_wrap _ _),
    Node.isBlank_of_parseWithin h, Node.parseWithin_folding h hlayers (by simp [hnot])]
  rfl

/-- `not` under `ci` is misplaced. -/
theorem parse_wrap_ignoreCase_of_isNot (h : d.parse value = .ok n) (hnot : n.isNot = true) :
  d.parse (Operator.ignoreCase.wrap value) = .error (.misplacedNot value.trim)
  := by
  rw [parse, Node.parse] at h
  rcases Node.parseWithin_succ_eq_ok h with
    ⟨operand, inner, hvalue, -, -, -⟩ | ⟨operand, inner, -, -, rfl⟩
      | ⟨op, literal, -, -, -, -, rfl⟩ | ⟨-, rfl⟩
  · rw [parse, Node.parse, Node.parseWithin_of_ignoreCase (Operator.trim_wrap _ _),
      Node.isBlank_of_parseWithin h, maxDepth, Node.parseWithin_of_not hvalue]
    rfl
  · cases hnot
  · cases hnot
  · cases hnot

/-- A value is read if it is read under `ci`. -/
theorem exists_of_parse_wrap_ignoreCase (h : d.parse (Operator.ignoreCase.wrap value) = .ok m) :
  ∃ n, d.parse value = .ok n ∧ m = .ignoreCase (n.folding true)
  := by
  rw [parse, Node.parse, Node.parseWithin_of_ignoreCase (Operator.trim_wrap _ _)] at h
  split at h
  · cases h
  · obtain ⟨n, hn, rfl⟩ := Except.map_eq_ok_iff.mp h
    use n.folding false
    have hlevels := Nat.lt_succ_of_lt (Node.layers_lt_of_parseWithin hn)
    constructor
    · apply Node.parseWithin_folding hn hlevels (fun _ => rfl)
    · rw [Node.folding_folding, Node.folding_of_parseWithin hn]

/-- A second `ci` changes nothing. -/
theorem build_of_parse_wrap_ignoreCase (h : d.parse (Operator.ignoreCase.wrap value) = .ok m)
    (hn : d.parse (Operator.ignoreCase.wrap (Operator.ignoreCase.wrap value)) = .ok n) (f : Field) :
  d.build f n = d.build f m
  := by
  obtain ⟨inner, -, rfl⟩ := exists_of_parse_wrap_ignoreCase h
  obtain ⟨m', hm', rfl⟩ := exists_of_parse_wrap_ignoreCase hn
  rw [h] at hm'
  cases hm'
  rw [Node.folding, Node.folding_folding]
  rfl

/-- `not` and `ci` around a value that is read, with levels left for them, do to its node what they
do alone: `not` is put on the outside and turns the verdict of the expression around; `ci` is put on
the outside and marks the comparison, except that it may not stand before `not`, and a second one
changes nothing.  A value that is read under `not` or `ci` is read without them. -/
theorem parse_wrap_layer (d : Dialect) (value : Text) :
  (∀ n : Node, d.parse value = .ok n → n.layers < maxDepth →
      d.parse (Operator.not.wrap value) = .ok (.not n)
        ∧ (∀ f : Field, d.single f (Operator.not.wrap value) = (d.single f value).map .not)
        ∧ (∀ (f : Field) (e : Expr), d.single f value = .ok e →
          ∃ e', d.single f (Operator.not.wrap value) = .ok e'
            ∧ ∀ record : Record, e'.holds record = !e.holds record)
        ∧ (n.isNot = false →
          d.parse (Operator.ignoreCase.wrap value) = .ok (.ignoreCase (n.folding true)))
        ∧ (n.isNot = true → ∃ failure, d.parse (Operator.ignoreCase.wrap value) = .error failure
          ∧ failure.kind = .illegalComposition))
    ∧ (∀ m n : Node, d.parse (Operator.ignoreCase.wrap value) = .ok m →
      d.parse (Operator.ignoreCase.wrap (Operator.ignoreCase.wrap value)) = .ok n →
        ∀ f : Field, d.single f (Operator.ignoreCase.wrap (Operator.ignoreCase.wrap value))
          = d.single f (Operator.ignoreCase.wrap value))
    ∧ (∀ m : Node, d.parse (Operator.not.wrap value) = .ok m →
      ∃ n, d.parse value = .ok n ∧ m = .not n)
    ∧ ∀ m : Node, d.parse (Operator.ignoreCase.wrap value) = .ok m →
      ∃ n, d.parse value = .ok n ∧ m = .ignoreCase (n.folding true)
  := by
  refine ⟨?_, ?_, ?_, ?_⟩
  · intro n h hlayers
    have hparse := parse_wrap_not h hlayers
    have hsingle : ∀ f : Field,
        d.single f (Operator.not.wrap value) = (d.single f value).map .not := by
      intro f
      rw [single_eq_build hparse, single_eq_build h]
      rfl
    refine ⟨hparse, hsingle, ?_, parse_wrap_ignoreCase h hlayers, ?_⟩
    · intro f e he
      use .not e
      rw [hsingle, he]
      exact ⟨rfl, fun record => rfl⟩
    · intro hnot
      use .misplacedNot value.trim, parse_wrap_ignoreCase_of_isNot h hnot
      rfl
  · intro m n h hn f
    rw [single_eq_build h, single_eq_build hn, build_of_parse_wrap_ignoreCase h hn]
  · intro m
    apply exists_of_parse_wrap_not
  · intro m
    apply exists_of_parse_wrap_ignoreCase

/-- One `not` more may stand around 31 of them, and `ci` may not stand around any; around a
comparison it may. -/
theorem parse_wrap_layer_of_thirty_one :
  let n : Node := Node.not^[31] (.leaf .contains "x".toList false)
  text.parse n.render = .ok n ∧ n.layers < maxDepth
    ∧ text.parse (Operator.not.wrap n.render) = .ok (.not n)
    ∧ n.isNot = true
    ∧ (∃ failure, text.parse (Operator.ignoreCase.wrap n.render) = .error failure
      ∧ failure.kind = .illegalComposition)
    ∧ text.parse "x)".toList = .ok (.leaf .eq "x)".toList false)
    ∧ text.parse (Operator.ignoreCase.wrap "x)".toList)
      = .ok (.ignoreCase (.leaf .eq "x)".toList true))
  := by
  intro n
  have hread : text.parse n.render = .ok n := by decide
  have hlayers : n.layers < maxDepth := by decide
  have hnot : n.isNot = true := by decide
  have hbare : text.parse "x)".toList = .ok (.leaf .eq "x)".toList false) := by decide
  obtain ⟨hwrap, -, -, -, hmisplaced⟩ := (parse_wrap_layer text n.render).1 n hread hlayers
  obtain ⟨-, -, -, hfold, -⟩ := (parse_wrap_layer text "x)".toList).1 _ hbare (by decide)
  exact ⟨hread, hlayers, hwrap, hnot, hmisplaced hnot, hbare, hfold rfl⟩

end Dialect

end QueryFilter
