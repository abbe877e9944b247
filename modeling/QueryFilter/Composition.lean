import QueryFilter.Dialect
import QueryFilter.Request

/-!
# Several values of one field

`Composition.compose` joins the values of one field by the connectives `and(…)` and `or(…)`
around them.  A value without one takes the connective of the first value that is not blank, and
`or` if that has none either.  The values are joined from left to right, and those of a run with
the same connective in a tree of least depth, which means the same.
-/

namespace QueryFilter

namespace Composition

/-- Checks every value for balanced parentheses. -/
def validateAll (values : List Text) : Except Failure Unit := values.forM Wrapping.validate

/-- How far the values of a field have been joined: the connective of values without one, the
finished expression, the run of values after it with their connective, and the number of changes
of the connective. -/
structure Progress where
  fallback : Option Operator := none
  finished : Option Expr := none
  connective : Option Operator := none
  run : List Expr := []
  switches : Nat := 0

/-- The constructor of expressions that a connective means. -/
def join (connective : Option Operator) : Expr → Expr → Expr :=
  if connective = some .and then .and else .or

namespace Progress

/-- The finished expression joined with the run after it. -/
def close (s : Progress) : Option Expr :=
  match s.finished, Expr.balanced (join s.connective) s.run with
  | some previous, some joined => some (join s.connective previous joined)
  | some previous, none => some previous
  | none, joined => joined

/-- Joins the next expression by a connective. -/
def append (s : Progress) (f : Field) (connective : Operator) (e : Expr) :
    Except Failure Progress :=
  if s.connective.isSome && s.connective != some connective then
    if maxSwitches ≤ s.switches then .error (.tooManySwitches f.name)
    else .ok { s with
      finished := s.close
      connective := some connective
      run := [e]
      switches := s.switches + 1 }
  else .ok { s with connective := some connective, run := s.run ++ [e] }

/-- Joins the next value. A blank value is passed over, and so is one with a connective around
nothing, but that still fixes the connective of the values without one. -/
def step (d : Dialect) (f : Field) (s : Progress) (value : Text) : Except Failure Progress :=
  if value.isBlank then .ok s
  else match Wrapping.extract value Operator.connectives (s.fallback.getD .or) with
    | .error failure => .error failure
    | .ok unwrapped =>
      let s := { s with fallback := some (s.fallback.getD unwrapped.operator) }
      if unwrapped.operand.isBlank then .ok s
      else match d.single f unwrapped.operand with
        | .error failure => .error failure
        | .ok e =>
          if s.finished.isNone then .ok { s with finished := some e }
          else if unwrapped.operator.isConnective then s.append f unwrapped.operator e
          else .error (.illegalConnective unwrapped.operator f.name value)

end Progress

/-- Joins several values. -/
def joinAll (d : Dialect) (f : Field) (values : List Text) : Except Failure (Option Expr) :=
  (values.foldlM (Progress.step d f) {}).map Progress.close

/-- The value without the connectives around it, which have nothing to join. -/
def withoutConnectives (value : Text) : Text :=
  match _h : Wrapping.findWrapped Operator.connectives value.trim with
  | some (_, operand) => withoutConnectives operand
  | none => value
termination_by value.length
decreasing_by
  exact Nat.lt_of_lt_of_le (Wrapping.length_lt_of_findWrapped _h) (Wrapping.length_trim_le value)

/-- The expression for a lone value, nothing for a blank one. -/
def lone (d : Dialect) (f : Field) (value : Text) : Except Failure (Option Expr) :=
  let literal := withoutConnectives value
  if literal.isBlank then .ok none else (d.single f literal).map some

/-- The expression for the values of a field. Values as they were sent take the place of the given
ones and are checked like them: the first one where one value is given, all where several are. -/
def compose (d : Dialect) (f : Field) (values : List Text) (overrides : Option Overrides) :
    Except Failure (Option Expr) := do
  validateAll values
  match values with
  | [] => .ok none
  | [value] =>
    match overrides.bind (·.first? f) with
    | some sent => do
      Wrapping.validate sent
      lone d f sent
    | none => lone d f value
  | values =>
    match overrides.bind (·.all? f) with
    | some sent => do
      validateAll sent
      joinAll d f sent
    | none => joinAll d f values

end Composition

end QueryFilter
