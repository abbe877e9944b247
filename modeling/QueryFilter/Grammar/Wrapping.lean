import QueryFilter.Failure

/-!
# Wrapped values

A value may be wrapped by operators, as in `not(eq(x))`.  `findWrapper` looks for the operator
on the outside, `extract` splits it off, `strip` removes all of them, and `validate` checks that
the parentheses of a value that opens with an operator are balanced.
-/

namespace QueryFilter

namespace Wrapping

/-- The first of the candidates that wraps the text, with the operand. -/
def findWrapped (candidates : List Operator) (t : Text) : Option (Operator × Text) :=
  candidates.findSome? fun op => (op.operand? t).map (op, ·)

/-- The first of the candidates that wraps the text. -/
def findWrapper (candidates : List Operator) (t : Text) : Option Operator :=
  candidates.find? (·.wraps t)

/-- Some operator wraps the text. -/
def isWrapped (t : Text) : Bool := (findWrapper Operator.all t).isSome

/-! ### Balance -/

/-- The number of parentheses open at the end of a text when `depth` are open at its beginning,
if none is closed that is not open. -/
def openAtEnd? (depth : Nat) : Text → Option Nat
  | [] => some depth
  | c :: rest =>
    if c = '(' then openAtEnd? (depth + 1) rest
    else if c = ')' then
      match depth with
      | 0 => none
      | d + 1 => openAtEnd? d rest
    else openAtEnd? depth rest

/-- Some operator's token and opening parenthesis stand at the beginning of the value. -/
def opensOperator (value : Text) : Bool := Operator.all.any (·.opens value.trim)

/-- Checks that the parentheses of a value are balanced, if it opens with an operator. -/
def validate (value : Text) : Except Failure Unit :=
  if opensOperator value then
    match openAtEnd? 0 value.trim with
    | none => .error (.misplacedClose value)
    | some 0 => .ok ()
    | some (_ + 1) => .error (.unterminated value)
  else .ok ()

/-! ### Unwrapping -/

/-- A value split into its operator and operand; `explicit` when the operator was found in the
value. -/
structure Unwrapped where
  operator : Operator
  operand : Text
  explicit : Bool

/-- Splits a value by the first of the candidates that wraps it; else the whole value without
the blanks around it is the operand of the fallback operator. -/
def extract (value : Text) (candidates : List Operator) (fallback : Operator) :
    Except Failure Unwrapped :=
  if value.trim.isEmpty then .error .blankValue
  else if candidates.isEmpty then .error .noCandidates
  else match findWrapped candidates value.trim with
    | some (op, operand) => .ok ⟨op, operand, true⟩
    | none => .ok ⟨fallback, value.trim, false⟩

theorem length_trim_le (t : Text) :
  t.trim.length ≤ t.length
  := by
  have h := fun u : Text => (List.dropWhile_suffix (l := u) Text.isBlankChar).length_le
  simp only [Text.trim, Text.trimEnd, Text.trimStart, List.length_reverse]
  exact Nat.le_trans (h _) (by simpa using h t)

theorem length_lt_of_findWrapped {candidates : List Operator} {t operand : Text} {op : Operator}
    (h : findWrapped candidates t = some (op, operand)) :
  operand.length < t.length
  := by
  obtain ⟨op', -, h'⟩ := List.exists_of_findSome?_eq_some h
  obtain ⟨body, hbody, heq⟩ := Option.map_eq_some_iff.mp h'
  cases heq
  exact Operator.length_lt_of_operand? hbody

/-- The innermost literal of a value: the value without its operators and the blanks around
it. -/
def strip (value : Text) : Text :=
  match _h : findWrapped Operator.all value.trim with
  | some (_, operand) => strip operand
  | none => value.trim
termination_by value.length
decreasing_by exact Nat.lt_of_lt_of_le (length_lt_of_findWrapped _h) (length_trim_le value)

end Wrapping

end QueryFilter
