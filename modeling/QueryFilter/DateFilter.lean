import QueryFilter.Dialect

/-!
# Dates of one field

The values of a date field are dates without operators, and their number decides what they mean:
one date is to be equal, two are the ends of a range, and more are alternatives.
-/

namespace QueryFilter.DateFilter

/-- The field holds this timestamp. -/
def equals (f : Field) (t : Timestamp) : Expr := Dialect.clause f .eq (.timestamp t) false

/-- The field holds a timestamp of a range with these ends, in either order. -/
def within (f : Field) (a b : Timestamp) : Expr :=
  if a.notAfter b then Dialect.clause f .between (.range a b) false
  else Dialect.clause f .between (.range b a) false

/-- The expression for timestamps, by their number. -/
def ofTimestamps (f : Field) : List Timestamp → Option Expr
  | [] => none
  | [t] => some (equals f t)
  | [a, b] => some (within f a b)
  | many => Expr.any (many.map (equals f))

/-- The expression for the values of a date field; blank values are passed over. -/
def predicate (f : Field) (values : List Text) : Except Failure (Option Expr) :=
  ((values.filter fun v => !v.isBlank).mapM Timestamp.parse).map (ofTimestamps f)

end QueryFilter.DateFilter
