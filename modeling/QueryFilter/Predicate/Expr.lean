import QueryFilter.Predicate.Clause

/-!
# Expressions

An `Expr` joins clauses by negation, conjunction and disjunction.  `Expr.holds` evaluates it on a
record, `Expr.clauses` lists its clauses from left to right, and `Expr.render` writes it as text.
`Expr.all` and `Expr.any` join many expressions at once in a tree of least depth.
-/

namespace QueryFilter

/-- A record, given by its values in the fields. -/
abbrev Record := Text → Value

/-- A condition on a record. -/
inductive Expr where
  | leaf (clause : Clause)
  | not (inner : Expr)
  | and (left right : Expr)
  | or (left right : Expr)

namespace Expr

/-- The record satisfies the expression. -/
def holds (record : Record) : Expr → Bool
  | .leaf c => c.holds (record c.field)
  | .not inner => !inner.holds record
  | .and left right => left.holds record && right.holds record
  | .or left right => left.holds record || right.holds record

/-- The number of nodes on the longest path to a clause. -/
def depth : Expr → Nat
  | .leaf _ => 1
  | .not inner => inner.depth + 1
  | .and left right | .or left right => max left.depth right.depth + 1

/-- The clauses from left to right. -/
def clauses : Expr → List Clause
  | .leaf c => [c]
  | .not inner => inner.clauses
  | .and left right | .or left right => left.clauses ++ right.clauses

/-- The text of an expression. -/
def render : Expr → Text
  | .leaf c => c.render
  | .not inner => "NOT (".toList ++ inner.render ++ [')']
  | .and left right => ['('] ++ left.render ++ ") AND (".toList ++ right.render ++ [')']
  | .or left right => ['('] ++ left.render ++ ") OR (".toList ++ right.render ++ [')']

/-! ### Many at once -/

/-- Joins a non-empty list of expressions in a tree that halves it again and again, the first half
being the shorter one. -/
def balanced (join : Expr → Expr → Expr) (es : List Expr) : Option Expr :=
  match es with
  | [] => none
  | [e] => some e
  | e₁ :: e₂ :: rest => do
    let half := (rest.length + 2) / 2
    let left ← balanced join ((e₁ :: e₂ :: rest).take half)
    let right ← balanced join ((e₁ :: e₂ :: rest).drop half)
    some (join left right)
termination_by es.length
decreasing_by
  · simp only [List.length_take, List.length_cons]
    omega
  · simp only [List.length_drop, List.length_cons]
    omega

/-- The conjunction of a non-empty list of expressions. -/
def all (es : List Expr) : Option Expr := balanced .and es

/-- The disjunction of a non-empty list of expressions. -/
def any (es : List Expr) : Option Expr := balanced .or es

end Expr

end QueryFilter
