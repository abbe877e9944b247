import QueryFilter.Format.Yaml.Node

/-!
# YAML

`Yaml.read?` reads a YAML document as a value.  The other functions say what a value is worth: a
scalar is a text, and a plain one may spell a truth value or a number too.
-/

namespace QueryFilter.Yaml

/-- Reads a document. -/
def read? (t : Text) : Option Yaml := (tokens? t).bind ofTokens?

/-- The text of a scalar. -/
def text? : Yaml → Option Text
  | .scalar t _ _ => some t
  | _ => none

/-- The entries of a mapping; a missing value has none. -/
def entries? : Yaml → Option (List (Yaml × Yaml))
  | .mapping entries => some entries
  | .scalar [] .plain _ => some []
  | _ => none

/-- The entries of a mapping whose keys are texts. -/
def fields? (y : Yaml) : Option (List (Text × Yaml)) :=
  y.entries?.bind fun es => es.mapM fun (k, v) => k.text?.map (·, v)

/-- The text of a scalar that may spell something else: one that is plain, or a literal block with
the tag for the kind of value. -/
def spelling? (kind : String) : Yaml → Option Text
  | .scalar t .plain _ => some t
  | .scalar t .literal tag =>
    if tag = "tag:yaml.org,2002:".toList ++ kind.toList then some t else none
  | _ => none

/-- The truth value that a scalar spells. -/
def bool? (y : Yaml) : Option Bool := do
  match String.ofList (← y.spelling? "bool") with
  | "true" | "True" | "TRUE" => some true
  | "false" | "False" | "FALSE" => some false
  | _ => none

/-- The number that digits spell in a base of at most sixteen. -/
def digits? (base : Nat) (t : Text) : Option Nat :=
  if t.isEmpty then none
  else t.foldlM (fun n c =>
    match Text.hexDigit? c with
    | some d => if d < base then some (base * n + d) else none
    | none => none) 0

/-- The natural number that a scalar spells in base ten, or after `0x`, `0o` or `0b` in the base
sixteen, eight or two. A zero before other digits makes no number. -/
def nat? (y : Yaml) : Option Nat := do
  let t ← y.spelling? "int"
  match (Text.after? ['+'] t).getD t with
  | '0' :: 'x' :: rest => digits? 16 rest
  | '0' :: 'o' :: rest => digits? 8 rest
  | '0' :: 'b' :: rest => digits? 2 rest
  | '0' :: _ :: _ => none
  | rest => digits? 10 rest

end QueryFilter.Yaml
