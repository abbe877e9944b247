import QueryFilter.Evaluator
import QueryFilter.Settings

/-!
# Registries

A `Registry` makes predicates for fields.  It holds its settings, the mode in which enumerations
are compared, the aliases registered for fields, and the evaluators of the fields that it has been
asked about, so that equal fields are always served by the same one.  `Registry.predicate` says
what the predicate of a field is, and `Registry.ask` has the evaluator of the field make it.
-/

namespace QueryFilter

/-- The values given for a field: one, or a list of them. -/
inductive Input where
  | scalar (value : Text)
  | many (values : List Text)

/-- The values in order. -/
def Input.values : Input → List Text
  | .scalar value => [value]
  | .many values => values

/-- A maker of predicates. It keeps nothing for the fields whose values cannot be filtered by, and
the retention says which patterns the evaluator of a field keeps. -/
structure Registry where
  settings : Settings
  loose : Bool
  aliases : List (Field × Text) := []
  retention : Field → Retention
  evaluators : List (Field × Option Evaluator) := []
  made : Nat := 0

namespace Registry

/-- A registry that has not been used, whose evaluators keep the newest patterns, as many as the
settings allow for. -/
def ofSettings (settings : Settings) : Registry where
  settings := settings
  loose := settings.looseValues
  retention _ := .newest settings.patternCapacity

/-- The dialect of a field, if its values can be filtered by. -/
def dialect? (r : Registry) (f : Field) : Option Dialect := Dialect.ofKind? r.loose f.kind

/-- Registers an alias in place of an earlier one; a blank alias is ignored. -/
def registerAlias (r : Registry) (f : Field) (aliasName : Text) : Registry :=
  if aliasName.isBlank then r else { r with aliases := (f, aliasName) :: r.aliases }

/-- The alias of a field: the one registered for it, or else the one in the settings. -/
def alias? (r : Registry) (f : Field) : Option Text :=
  ((r.aliases.find? (·.1 == f)).map (·.2)) <|> r.settings.alias? f.name

/-- Accepts or refuses loose comparisons of enumerations from now on. -/
def setLoose (r : Registry) (loose : Bool) : Registry := { r with loose := loose }

/-- The predicate for a field, nothing when its values cannot be filtered by or none is left.
The values as they were sent, where a source of them is given, take the place of the input, except
for dates, which are read from the input. -/
def predicate (r : Registry) (f : Field) (input : Input) (sent : Option SentValues) :
    Except Failure (Option Expr) :=
  match r.dialect? f with
  | none => .ok none
  | some d =>
    match f.kind with
    | .timestamp => DateFilter.predicate f input.values
    | _ => Composition.compose d f input.values (sent.map (⟨·, r.alias? f⟩))

/-! ### Evaluators -/

/-- The evaluator of a field, which is made when it is first asked for, and the registry with it. -/
def serve (r : Registry) (f : Field) : Registry × Option Evaluator :=
  match r.evaluators.lookup f with
  | some known => (r, known)
  | none =>
    match Method.ofKind? (r.retention f) f.kind with
    | none => ({ r with evaluators := (f, none) :: r.evaluators }, none)
    | some method =>
      let e : Evaluator := ⟨r.made, method⟩
      ({ r with evaluators := (f, some e) :: r.evaluators, made := r.made + 1 }, some e)

/-- Stores what the evaluator of a field is after its use. -/
def store (r : Registry) (f : Field) (e : Evaluator) : Registry :=
  { r with evaluators := (f, some e) :: r.evaluators.filter (·.1 != f) }

/-- The predicate for a field as its evaluator makes it in the mode of the moment, nothing if it has
none, and the registry after that. -/
def ask (r : Registry) (f : Field) (input : Input) (sent : Option SentValues) :
    Registry × Except Failure (Option Expr) :=
  match r.serve f with
  | (r, none) => (r, .ok none)
  | (r, some e) =>
    let overrides := sent.map (⟨·, r.alias? f⟩)
    let (result, method) := e.method.predicate r.loose f input.values overrides
    (r.store f { e with method }, result)

end Registry

end QueryFilter
