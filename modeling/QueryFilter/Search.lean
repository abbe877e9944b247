import QueryFilter.Registry

/-!
# Searches

A search filters records by the parameters of a request.  Each parameter is a field of a
catalogue, by name or by alias, with a value; the predicates of the fields are joined by `and` in
the order in which the fields are first named.  A field may be named in one way only.
-/

namespace QueryFilter

/-- Why a request makes no search. -/
inductive RequestFailure where
  /-- No field goes by the name of a parameter. -/
  | unknownParameter (name : Text)
  /-- Two parameters name the same field. -/
  | claimedTwice (first second field : Text)
  /-- The values of a parameter make no predicate. -/
  | invalidValue (name : Text) (cause : Failure)

namespace RequestFailure

/-- The outermost message of a failure. -/
def message : RequestFailure → String
  | .unknownParameter name => "unknown parameter " ++ Failure.quoted name
  | .claimedTwice first second field =>
    "parameters " ++ Failure.quoted first ++ " and " ++ Failure.quoted second
      ++ " both filter field " ++ Failure.quoted field
  | .invalidValue name _ => "invalid value for parameter " ++ Failure.quoted name

/-- The failure behind a failure. -/
def cause? : RequestFailure → Option Failure
  | .invalidValue _ cause => some cause
  | _ => none

end RequestFailure

namespace Search

/-- Splits a parameter at the first equals sign into a name, which is not blank, and a value. -/
def parameter? (raw : Text) : Option (Text × Text) :=
  match raw.dropWhile (· != '=') with
  | _ :: value =>
    let name := Text.trim (raw.takeWhile (· != '='))
    if name.isEmpty then none else some (name, value)
  | [] => none

/-- The message for a text that is no parameter. -/
def parameterMessage (raw : Text) : String := "expected NAME=VALUE, got " ++ Failure.quoted raw

/-- The field of a catalogue that goes by a name, its own or else its alias. -/
def resolve? (r : Registry) (catalogue : List Field) (name : Text) : Option Field :=
  catalogue.find? (·.name == name) <|> catalogue.find? fun f => r.alias? f == some name

/-- Joins an expression to those before it. -/
def conjoin : Option Expr → Option Expr → Option Expr
  | some previous, some e => some (.and previous e)
  | none, some e => some e
  | previous, none => previous

/-- The expression for the names that are left, joined to that of the names before them.
`claimed` are the names of the fields so far, each with the parameter that names it. -/
def buildFrom (r : Registry) (catalogue : List Field) (p : Parameters)
    (claimed : List (Text × Text)) (combined : Option Expr) :
    List Text → Except RequestFailure (Option Expr)
  | [] => .ok combined
  | name :: names =>
    match resolve? r catalogue name with
    | none => .error (.unknownParameter name)
    | some f =>
      match claimed.find? (·.1 == f.name) with
      | some (_, first) => .error (.claimedTwice first name f.name)
      | none =>
        match r.predicate f (.many (p.strippedValues name)) (some (.ofParameters p)) with
        | .error cause => .error (.invalidValue name cause)
        | .ok e =>
          buildFrom r catalogue p ((f.name, name) :: claimed) (conjoin combined e) names

/-- The expression for the parameters of a request, nothing if they filter nothing. -/
def build (r : Registry) (catalogue : List Field) (pairs : List (Text × Text)) :
    Except RequestFailure (Option Expr) :=
  let p : Parameters := { pairs := pairs }
  buildFrom r catalogue p [] none p.names

end Search

end QueryFilter
