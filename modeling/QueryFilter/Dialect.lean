import QueryFilter.Field
import QueryFilter.Grammar.Node
import QueryFilter.Predicate.Expr

/-!
# Dialects

A `Dialect` says which comparisons the values of one kind of field support and what expression
each makes of a literal.  There is one for texts, one for numbers, one for enumerations, strict
or loose, and one for dates.
-/

namespace QueryFilter

/-- The comparisons that values of a kind support, and what they mean. `compare` is asked about
comparisons only; its last argument tells whether case is to be ignored. -/
structure Dialect where
  kind : String
  supported : List Operator
  acceptsLoose : Bool := false
  compare : Operator → Field → Text → Bool → Except Failure Expr

namespace Dialect

/-- A comparison that the values do not support. -/
def reject (kind : String) (op : Operator) : Except Failure Expr := .error (.unsupported op kind)

/-- The expression of one clause. -/
def clause (f : Field) (relation : Relation) (operand : Operand) (ignoreCase : Bool) : Expr :=
  .leaf ⟨f.name, relation, operand, ignoreCase⟩

/-- The expression for an operator before a literal. -/
def leaf (d : Dialect) (op : Operator) (f : Field) (literal : Text) (ignoreCase : Bool) :
    Except Failure Expr :=
  if op.isComparison then d.compare op f literal ignoreCase else .error (.notComparison op)

/-- The expression for a value taken apart. -/
def build (d : Dialect) (f : Field) : Node → Except Failure Expr
  | .leaf op literal ignoreCase => d.leaf op f literal ignoreCase
  | .not inner => (d.build f inner).map .not
  | .ignoreCase inner => d.build f inner

/-- Takes a value apart by the comparisons of the dialect. -/
def parse (d : Dialect) (value : Text) : Except Failure Node :=
  Node.parse d.kind d.supported value

/-- The expression for a single value. -/
def single (d : Dialect) (f : Field) (value : Text) : Except Failure Expr :=
  match d.parse value with
  | .ok node => d.build f node
  | .error failure => .error failure

/-! ### Texts -/

/-- The comparisons of texts. -/
def textOperators : List Operator := [.eq, .ne, .contains, .startsWith, .endsWith, .matches]

/-- Texts are compared as they are or without regard to case, or with a pattern. -/
def text : Dialect where
  kind := "text"
  supported := textOperators
  acceptsLoose := true
  compare op f literal ignoreCase :=
    match op with
    | .eq => .ok (clause f .eq (.text literal) ignoreCase)
    | .ne => .ok (clause f .ne (.text literal) ignoreCase)
    | .contains => .ok (clause f .contains (.text literal) ignoreCase)
    | .startsWith => .ok (clause f .startsWith (.text literal) ignoreCase)
    | .endsWith => .ok (clause f .endsWith (.text literal) ignoreCase)
    | .matches =>
      match Pattern.compile? literal with
      | some p => .ok (clause f .matches (.pattern p) false)
      | none => .error .invalidPattern
    | op => reject "text" op

/-! ### Numbers -/

/-- The relation of a comparison of numbers. -/
def numberRelation? : Operator → Option Relation
  | .eq => some .eq
  | .ne => some .ne
  | .gt => some .gt
  | .gte => some .gte
  | .lt => some .lt
  | .lte => some .lte
  | _ => none

/-- Numbers are compared by their order with a numeric literal. -/
def number : Dialect where
  kind := "numeric"
  supported := [.eq, .ne, .gt, .gte, .lt, .lte]
  compare op f literal _ :=
    match numberRelation? op with
    | some relation => (Number.parse literal).map fun n => clause f relation (.number n) false
    | none => reject "numeric" op

/-! ### Enumerations -/

/-- The member that a literal names: the one with that very name, or else the only one with that
name up to the case of ASCII letters. -/
def member (f : Field) (literal : Text) : Except Failure Text :=
  let name := literal.trim
  if f.members.contains name then .ok name
  else match f.members.filter fun m => Text.foldAscii m == Text.foldAscii name with
    | [m] => .ok m
    | [] => .error (.unknownMember name f.name)
    | _ => .error (.ambiguousMember name f.name)

/-- The expression that holds of the members whose lowercase form is kept. -/
def select (f : Field) (keep : Text → Bool) : Expr :=
  clause f .oneOf (.members (f.members.filter fun m => keep m.lowercase)) false

/-- The pattern by which the members of an enumeration are matched: the whole lowercase name is to
be matched, without regard to case. -/
def memberPattern? (source : Text) : Option Regex :=
  Pattern.read? { ignoreCase := true } ("^(?:".toList ++ source ++ ")$".toList)

/-- Members of enumerations are compared by name. The comparisons that make sense for texts are
loose: they are accepted in the loose mode only, and select members by their lowercase names. -/
def enumeration (loose : Bool) : Dialect where
  kind := "enum"
  supported := if loose then textOperators else [.eq, .ne]
  acceptsLoose := loose
  compare op f literal _ :=
    let whenLoose := fun e : Except Failure Expr => if loose then e else reject "enum" op
    let needle := literal.lowercase
    match op with
    | .eq => (member f literal).map fun m => clause f .eq (.member m) false
    | .ne => (member f literal).map fun m => clause f .ne (.member m) false
    | .contains => whenLoose (.ok (select f needle.occursIn))
    | .startsWith => whenLoose (.ok (select f needle.isPrefixOf))
    | .endsWith => whenLoose (.ok (select f needle.isSuffixOf))
    | .matches =>
      whenLoose <| match memberPattern? literal with
        | some r => .ok (select f r.isMatch)
        | none => .error .invalidPattern
    | op => reject "enum" op

/-! ### Dates -/

/-- A date as a single value is compared for equality only. -/
def date : Dialect where
  kind := "date"
  supported := [.eq]
  compare op f literal _ :=
    match op with
    | .eq => (Timestamp.parse literal).map fun t => clause f .eq (.timestamp t) false
    | op => reject "date" op

/-- The dialect of a kind of fields, if its values can be filtered by. -/
def ofKind? (loose : Bool) : FieldKind → Option Dialect
  | .text => some text
  | .number => some number
  | .timestamp => some date
  | .enumeration _ => some (enumeration loose)
  | .other _ => none

end Dialect

end QueryFilter
