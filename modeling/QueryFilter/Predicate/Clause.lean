import QueryFilter.Pattern.Compile
import QueryFilter.Text.Lowercase
import QueryFilter.Text.Quoted
import QueryFilter.Value

/-!
# Clauses

A `Clause` compares the value of one field with an operand by a `Relation`.  `Clause.holds` says
whether the value of a record stands in the relation; a value of another kind than the operand,
and a missing one, stands in none.  `Clause.render` writes a clause as text.
-/

namespace QueryFilter

/-- The relation between a value and an operand. -/
inductive Relation where
  | eq
  | ne
  | startsWith
  | endsWith
  | contains
  | matches
  | gt
  | gte
  | lt
  | lte
  | oneOf
  | between
  deriving DecidableEq

namespace Relation

/-- The relations. -/
def all : List Relation :=
  [.eq, .ne, .startsWith, .endsWith, .contains, .matches, .gt, .gte, .lt, .lte, .oneOf, .between]

/-- The sign of a relation. -/
def symbol : Relation → Text
  | .eq => "==".toList
  | .ne => "!=".toList
  | .startsWith => "startswith".toList
  | .endsWith => "endswith".toList
  | .contains => "contains".toList
  | .matches => "=~".toList
  | .gt => ">".toList
  | .gte => ">=".toList
  | .lt => "<".toList
  | .lte => "<=".toList
  | .oneOf => "in".toList
  | .between => "between".toList

/-- The relation holds between values in the given order. -/
def holdsFor : Relation → Ordering → Bool
  | .eq, o => o == .eq
  | .ne, o => o != .eq
  | .gt, o => o == .gt
  | .gte, o => o != .lt
  | .lt, o => o == .lt
  | .lte, o => o != .gt
  | _, _ => false

/-- The relation holds between two texts. -/
def holdsOfTexts : Relation → Text → Text → Bool
  | .eq, value, operand => value == operand
  | .ne, value, operand => value != operand
  | .startsWith, value, operand => operand.isPrefixOf value
  | .endsWith, value, operand => operand.isSuffixOf value
  | .contains, value, operand => operand.occursIn value
  | _, _, _ => false

end Relation

/-- What a value is compared with. -/
inductive Operand where
  | text (t : Text)
  | number (n : Number)
  | timestamp (t : Timestamp)
  | range (low high : Timestamp)
  | member (name : Text)
  | members (names : List Text)
  | pattern (p : Pattern)

/-- The text of an operand. -/
def Operand.render : Operand → Text
  | .text t => t.quote
  | .number n => n.render
  | .timestamp t => t.render
  | .range low high => ['['] ++ low.render ++ ", ".toList ++ high.render ++ [']']
  | .member name => name
  | .members names => ['['] ++ Text.join ", ".toList names ++ [']']
  | .pattern p => ['/'] ++ p.source ++ ['/']

/-- A comparison of one field with an operand. -/
structure Clause where
  field : Text
  relation : Relation
  operand : Operand
  ignoreCase : Bool := false

namespace Clause

/-- The relation holds between a text and the operand, or between their lowercase forms when case
is ignored. -/
def holdsOfText (c : Clause) (value operand : Text) : Bool :=
  if c.ignoreCase then c.relation.holdsOfTexts value.lowercase operand.lowercase
  else c.relation.holdsOfTexts value operand

/-- The value of a record stands in the relation to the operand. -/
def holds (c : Clause) (value : Value) : Bool :=
  match c.operand, value with
  | .text operand, .text t => c.holdsOfText t operand
  | .pattern p, .text t => p.isMatch t
  | .number operand, .number n =>
    match n.compare? operand with
    | some o => c.relation.holdsFor o
    | none => false
  | .timestamp operand, .timestamp t => c.relation.holdsFor (t.compare operand)
  | .range low high, .timestamp t => c.relation == .between && low.notAfter t && t.notAfter high
  | .member operand, .member name =>
    match c.relation with
    | .eq => name == operand
    | .ne => name != operand
    | _ => false
  | .members operand, .member name => c.relation == .oneOf && operand.contains name
  | _, _ => false

/-- The text of a clause. -/
def render (c : Clause) : Text :=
  match c.operand with
  | .range low high =>
    c.field ++ " between ".toList ++ low.render ++ " and ".toList ++ high.render
  | operand =>
    c.field ++ [' '] ++ c.relation.symbol ++ [' '] ++ operand.render
      ++ if c.ignoreCase then " (ci)".toList else []

end Clause

end QueryFilter
