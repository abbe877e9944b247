import QueryFilter.Grammar.Operator

/-!
# Failures

Why a value gives no predicate.  A `Failure` names the cause with what it concerns;
`Failure.kind` sorts the causes, and `Failure.message` words them.
-/

namespace QueryFilter

/-- The most wrappers that one value may nest. -/
def maxDepth : Nat := 32

/-- The most times that the values of one field may change between `and` and `or`. -/
def maxSwitches : Nat := 32

/-- The sort of a failure. -/
inductive FailureKind where
  | invalidInput
  | malformedExpression
  | illegalComposition
  | unsupportedOperator
  | illegalOperator
  deriving DecidableEq

/-- The cause of a failure. -/
inductive Failure where
  /-- A value is blank where one is required. -/
  | blankValue
  /-- A value is to be split without any operator to split by. -/
  | noCandidates
  /-- A numeric literal is no number. -/
  | invalidNumber (literal : Text)
  /-- A date literal is no date. -/
  | invalidDate (literal : Text)
  /-- A pattern is no regular expression. -/
  | invalidPattern
  /-- A literal names no member of an enumeration. -/
  | unknownMember (literal field : Text)
  /-- A literal names several members of an enumeration up to case. -/
  | ambiguousMember (literal field : Text)
  /-- The values of a field change their connective too often. -/
  | tooManySwitches (field : Text)
  /-- A parenthesis is closed before it is opened. -/
  | misplacedClose (value : Text)
  /-- A parenthesis is never closed. -/
  | unterminated (value : Text)
  /-- `not` or `ci` wraps nothing. -/
  | missingOperand (op : Operator)
  /-- Too many wrappers are nested. -/
  | tooDeep (value : Text)
  /-- A connective occurs within a single value. -/
  | nestedConnective (op : Operator) (value : Text)
  /-- `not` occurs under another operator than `not`. -/
  | misplacedNot (value : Text)
  /-- A comparison wraps another operator. -/
  | wrappedOperator (op nested : Operator)
  /-- An operator other than a comparison stands before a literal. -/
  | notComparison (op : Operator)
  /-- The values of the field's kind do not support a comparison. -/
  | unsupported (op : Operator) (kind : String)
  /-- The values of a field are joined by an operator that joins nothing. -/
  | illegalConnective (op : Operator) (field value : Text)
  deriving DecidableEq

namespace Failure

/-- The sort of a failure. -/
def kind : Failure → FailureKind
  | .blankValue | .noCandidates | .invalidNumber _ | .invalidDate _ | .invalidPattern
  | .unknownMember _ _ | .ambiguousMember _ _ | .tooManySwitches _ => .invalidInput
  | .misplacedClose _ | .unterminated _ | .missingOperand _ | .tooDeep _ => .malformedExpression
  | .nestedConnective _ _ | .misplacedNot _ | .wrappedOperator _ _ | .notComparison _ =>
    .illegalComposition
  | .unsupported _ _ => .unsupportedOperator
  | .illegalConnective _ _ _ => .illegalOperator

/-- A text between single quotes, for messages. -/
def quoted (t : Text) : String := "'" ++ String.ofList t ++ "'"

/-- The cause in words, without its sort. -/
def description : Failure → String
  | .blankValue => "value must not be blank"
  | .noCandidates => "at least one candidate operator is required"
  | .invalidNumber literal => "Invalid numeric value: " ++ quoted literal
  | .invalidDate literal => "Invalid date value: " ++ quoted literal
  | .invalidPattern => "not a regular expression"
  | .unknownMember literal field =>
    quoted literal ++ " is not a member of enum field " ++ quoted field
  | .ambiguousMember literal field =>
    quoted literal ++ " matches several members of enum field " ++ quoted field
  | .tooManySwitches field =>
    "field " ++ quoted field ++ " switches between and/or more than " ++ toString maxSwitches
      ++ " times"
  | .misplacedClose value => "bad ordering of parentheses in " ++ quoted value
  | .unterminated value => "unterminated expression " ++ quoted value
  | .missingOperand op => quoted op.token ++ " requires an operand"
  | .tooDeep value =>
    "more than " ++ toString maxDepth ++ " nested operators in " ++ quoted value
  | .nestedConnective op value =>
    quoted op.token ++ " may only combine several values, found in " ++ quoted value
  | .misplacedNot value =>
    "'not' may only be nested directly under 'not', found in " ++ quoted value
  | .wrappedOperator op nested => quoted op.token ++ " cannot wrap " ++ quoted nested.token
  | .notComparison op => quoted op.token ++ " does not name a comparison"
  | .unsupported op kind =>
    "operator " ++ quoted op.token ++ " is not supported for " ++ kind ++ " values"
  | .illegalConnective op field value =>
    "illegal operator " ++ quoted op.token ++ " for field " ++ quoted field ++ " (value: "
      ++ String.ofList value ++ ")"

/-- The full message of a failure. -/
def message (f : Failure) : String :=
  match f, f.kind with
  | .invalidPattern, _ => "invalid regex pattern: " ++ f.description
  | _, .invalidInput => "invalid input: " ++ f.description
  | _, .malformedExpression => "malformed expression: " ++ f.description
  | _, .illegalComposition => "illegal composition: " ++ f.description
  | _, .unsupportedOperator | _, .illegalOperator => f.description

end Failure

end QueryFilter
