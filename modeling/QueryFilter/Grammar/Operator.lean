import QueryFilter.Text.Blank

/-!
# Operators

The fourteen operators of the value grammar, each with its one token.  `op.wrap t` writes the
token before a text in parentheses, and `op.operand? t` undoes it.  An operator is a comparison
with a literal, a logical operator, or the modifier that ignores case.
-/

namespace QueryFilter

/-- An operator of the value grammar. -/
inductive Operator where
  | eq
  | ne
  | contains
  | startsWith
  | endsWith
  | matches
  | and
  | or
  | not
  | gt
  | gte
  | lt
  | lte
  | ignoreCase
  deriving DecidableEq

/-- The role of an operator in a value. -/
inductive Role where
  | comparison
  | logical
  | modifier
  deriving DecidableEq

namespace Operator

/-- The operators in the order in which they are looked for. -/
def all : List Operator :=
  [.eq, .ne, .contains, .startsWith, .endsWith, .matches, .and, .or, .not, .gt, .gte, .lt, .lte,
    .ignoreCase]

/-- The comparisons in the order in which they are looked for. -/
def comparisons : List Operator :=
  [.eq, .ne, .contains, .startsWith, .endsWith, .matches, .gt, .gte, .lt, .lte]

/-- The operators that join the values of one field. -/
def connectives : List Operator := [.and, .or]

/-- The token of an operator. -/
def token : Operator → Text
  | .eq => "eq".toList
  | .ne => "ne".toList
  | .contains => "contains".toList
  | .startsWith => "startsWith".toList
  | .endsWith => "endsWith".toList
  | .matches => "matches".toList
  | .and => "and".toList
  | .or => "or".toList
  | .not => "not".toList
  | .gt => "gt".toList
  | .gte => "gte".toList
  | .lt => "lt".toList
  | .lte => "lte".toList
  | .ignoreCase => "ci".toList

/-- The name of an operator in messages. -/
def name (op : Operator) : String := String.ofList op.token

/-- The role of an operator. -/
def role : Operator → Role
  | .and | .or | .not => .logical
  | .ignoreCase => .modifier
  | _ => .comparison

/-- The operator compares the field with a literal. -/
def isComparison (op : Operator) : Bool := op.role == .comparison

/-- The operator joins the values of one field. -/
def isConnective : Operator → Bool
  | .and | .or => true
  | _ => false

/-- The operator with a token, blanks around it and the case of its letters set aside. -/
def ofToken? (t : Text) : Option Operator :=
  all.find? fun op => Text.foldAscii op.token == Text.foldAscii t.trim

/-! ### Wrapping -/

/-- The token with the opening parenthesis. -/
def opening (op : Operator) : Text := op.token ++ ['(']

/-- The operator applied to an operand: its token, and the operand in parentheses. -/
def wrap (op : Operator) (operand : Text) : Text := op.opening ++ operand ++ [')']

/-- The text begins with the token and an opening parenthesis, closed or not. -/
def opens (op : Operator) (t : Text) : Bool := op.opening.isPrefixOf t

/-- The operand of a text that the operator wraps. -/
def operand? (op : Operator) (t : Text) : Option Text :=
  (Text.after? op.opening t).bind (Text.before? ')')

/-- The operator wraps the text: it begins with the token and an opening parenthesis and ends
with a closing one. -/
def wraps (op : Operator) (t : Text) : Bool := (op.operand? t).isSome

/-- The operand of a text is what the operator wraps to give the text. -/
theorem operand?_eq_some_iff {op : Operator} {t operand : Text} :
  op.operand? t = some operand ↔ t = op.wrap operand
  := by
  unfold operand? wrap
  constructor
  · intro h
    obtain ⟨rest, hrest, hbody⟩ := Option.bind_eq_some_iff.mp h
    rw [Text.after?_eq_some_iff.mp hrest, Text.before?_eq_some_iff.mp hbody, List.append_assoc]
  · rintro rfl
    simp [List.append_assoc]

@[simp]
theorem operand?_wrap (op : Operator) (operand : Text) :
  op.operand? (op.wrap operand) = some operand
  := operand?_eq_some_iff.mpr rfl

/-- An operand is shorter than the text it is wrapped in. -/
theorem length_lt_of_operand? {op : Operator} {t operand : Text}
    (h : op.operand? t = some operand) :
  operand.length < t.length
  := by
  rw [operand?_eq_some_iff.mp h]
  simp [wrap, opening]
  omega

end Operator

end QueryFilter
