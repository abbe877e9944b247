import QueryFilter.Composition
import QueryFilter.DateFilter
import QueryFilter.Pattern.Cache

/-!
# Evaluators

An `Evaluator` makes the predicates of one field.  Those of enumerations keep the patterns that
members were matched with: an `Evaluation` is a computation that may fail and looks patterns up in
such a cache, which keeps what it found before a failure.  Otherwise an evaluation of the values of
an enumeration proceeds like `Composition.compose`.
-/

namespace QueryFilter

/-- A computation that may fail and looks patterns up in a cache. -/
abbrev Evaluation (α : Type) := ExceptT Failure (StateM PatternCache) α

namespace Evaluation

/-- A computation that looks nothing up. -/
def ofExcept {α : Type} (x : Except Failure α) : Evaluation α := ExceptT.mk (pure x)

/-- The members of a field that match a pattern. -/
def matching (f : Field) (source : Text) : Evaluation Expr := do
  match ← (PatternCache.find Dialect.memberPattern? source : StateM PatternCache _) with
  | some r => return Dialect.select f r.isMatch
  | none => throw .invalidPattern

/-- The expression for an operator before a literal. -/
def leaf (loose : Bool) (f : Field) (op : Operator) (literal : Text) (ignoreCase : Bool) :
    Evaluation Expr :=
  if loose && op == .matches then matching f literal
  else ofExcept ((Dialect.enumeration loose).leaf op f literal ignoreCase)

/-- The expression for a value taken apart. -/
def build (loose : Bool) (f : Field) : Node → Evaluation Expr
  | .leaf op literal ignoreCase => leaf loose f op literal ignoreCase
  | .not inner => do return .not (← build loose f inner)
  | .ignoreCase inner => build loose f inner

/-- The expression for a single value. -/
def single (loose : Bool) (f : Field) (value : Text) : Evaluation Expr := do
  build loose f (← ofExcept ((Dialect.enumeration loose).parse value))

/-- Joins the next value. -/
def step (loose : Bool) (f : Field) (s : Composition.Progress) (value : Text) :
    Evaluation Composition.Progress := do
  if value.isBlank then return s
  else
    let unwrapped ←
      ofExcept (Wrapping.extract value Operator.connectives (s.fallback.getD .or))
    let s := { s with fallback := some (s.fallback.getD unwrapped.operator) }
    if unwrapped.operand.isBlank then return s
    else
      let e ← single loose f unwrapped.operand
      if s.finished.isNone then return { s with finished := some e }
      else if unwrapped.operator.isConnective then ofExcept (s.append f unwrapped.operator e)
      else throw (.illegalConnective unwrapped.operator f.name value)

/-- Joins several values. -/
def joinAll (loose : Bool) (f : Field) (values : List Text) : Evaluation (Option Expr) := do
  return (← values.foldlM (step loose f) {}).close

/-- The expression for a lone value, nothing for a blank one. -/
def lone (loose : Bool) (f : Field) (value : Text) : Evaluation (Option Expr) :=
  let literal := Composition.withoutConnectives value
  if literal.isBlank then return none else do return some (← single loose f literal)

/-- The expression for the values of a field, or for those in their place. -/
def compose (loose : Bool) (f : Field) (values : List Text) (overrides : Option Overrides) :
    Evaluation (Option Expr) := do
  ofExcept (Composition.validateAll values)
  match values with
  | [] => return none
  | [value] =>
    match overrides.bind (·.first? f) with
    | some sent => do
      ofExcept (Wrapping.validate sent)
      lone loose f sent
    | none => lone loose f value
  | values =>
    match overrides.bind (·.all? f) with
    | some sent => do
      ofExcept (Composition.validateAll sent)
      joinAll loose f sent
    | none => joinAll loose f values

end Evaluation

/-- How the values of a field are evaluated, with what is kept from one time to the next. -/
inductive Method where
  | text
  | number
  | timestamp
  | enumeration (patterns : PatternCache)

namespace Method

/-- The method for the values of a kind, before its first use, if they can be filtered by. -/
def ofKind? (retention : Retention) : FieldKind → Option Method
  | .text => some .text
  | .number => some .number
  | .timestamp => some .timestamp
  | .enumeration _ => some (.enumeration { retention })
  | .other _ => none

/-- The expression for the values of a field, and the method after its use. -/
def predicate (loose : Bool) (f : Field) (values : List Text) (overrides : Option Overrides) :
    Method → Except Failure (Option Expr) × Method
  | .text => (Composition.compose .text f values overrides, .text)
  | .number => (Composition.compose .number f values overrides, .number)
  | .timestamp => (DateFilter.predicate f values, .timestamp)
  | .enumeration patterns =>
    let (result, patterns) := (Evaluation.compose loose f values overrides).run.run patterns
    (result, .enumeration patterns)

end Method

/-- The maker of the predicates of one field. The serial number tells it from all others. -/
structure Evaluator where
  serial : Nat
  method : Method

end QueryFilter
