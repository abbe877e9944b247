import QueryFilter.Grammar.Wrapping

/-!
# Single values

A `Node` is one value taken apart: a comparison with a literal under any number of `not` and
`ci`.  `Node.parse` reads a value, given the comparisons that the field supports, and
`Node.render` writes it back.  `not` may stand at the top or under `not` only, `ci` above `ci` or
a comparison, and a comparison above a literal only.
-/

namespace QueryFilter

/-- A single value taken apart. -/
inductive Node where
  | leaf (operator : Operator) (literal : Text) (ignoreCase : Bool)
  | not (inner : Node)
  | ignoreCase (inner : Node)
  deriving DecidableEq

namespace Node

/-- The operator on the outside. -/
def operator : Node → Operator
  | .leaf op _ _ => op
  | .not _ => .not
  | .ignoreCase _ => .ignoreCase

/-- The value that a node stands for. -/
def render : Node → Text
  | .leaf op literal _ => op.wrap literal
  | .not inner => Operator.not.wrap inner.render
  | .ignoreCase inner => Operator.ignoreCase.wrap inner.render

/-- The operators looked for in a value: the supported comparisons, `not` and `ci`. -/
def candidates (supported : List Operator) : List Operator := supported ++ [.not, .ignoreCase]

/-- A comparison stands before a literal, which no operator may wrap. -/
def parseLeaf (op : Operator) (literal : Text) (folded : Bool) : Except Failure Node :=
  match Wrapping.findWrapper Operator.all literal.trim with
  | some nested => .error (.wrappedOperator op nested)
  | none => .ok (.leaf op literal folded)

/-- A connective around the value, or a comparison around it that is not supported, if there is
either. -/
def misplaced? (kind : String) (value : Text) (unwrapped : Wrapping.Unwrapped) : Option Failure :=
  if unwrapped.explicit then none
  else (Wrapping.findWrapper Operator.comparisons value.trim).map (.unsupported · kind)

/-- Reads a value under `levels` more wrappers at most. `parent` is the wrapper around it, and
`folded` tells whether `ci` is among the wrappers. -/
def parseWithin (kind : String) (supported : List Operator) :
    Nat → Text → Option Operator → Bool → Except Failure Node
  | 0, value, _, _ => .error (.tooDeep value)
  | levels + 1, value, parent, folded =>
    match Wrapping.findWrapper Operator.connectives value.trim with
    | some op => .error (.nestedConnective op value.trim)
    | none =>
      match Wrapping.extract value (candidates supported) .eq with
      | .error f => .error f
      | .ok unwrapped =>
        match misplaced? kind value unwrapped with
        | some f => .error f
        | none =>
          match unwrapped.operator with
          | .not =>
            if parent.isSome && parent != some .not then .error (.misplacedNot value.trim)
            else if unwrapped.operand.isBlank then .error (.missingOperand .not)
            else (parseWithin kind supported levels unwrapped.operand (some .not) folded).map .not
          | .ignoreCase =>
            if unwrapped.operand.isBlank then .error (.missingOperand .ignoreCase)
            else (parseWithin kind supported levels unwrapped.operand (some .ignoreCase) true).map
              .ignoreCase
          | op => parseLeaf op unwrapped.operand folded

/-- Reads a value. `kind` names the kind of the field in messages. -/
def parse (kind : String) (supported : List Operator) (value : Text) : Except Failure Node :=
  parseWithin kind supported (maxDepth + 1) value none false

end Node

end QueryFilter
