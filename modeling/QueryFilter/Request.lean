import QueryFilter.Field
import QueryFilter.Grammar.Wrapping
import QueryFilter.Text.FormEncoded

/-!
# Requests

The parameters of a request in the order in which they were sent.  `Parameters.firstValue?` and
`Parameters.allValues?` look the values of a field up under its name relative to a root, then its
full name, then its alias.  `SentValues` is any source of the values as they were sent, and
`Overrides` is a source together with the alias of one field.
-/

namespace QueryFilter

/-- The parameters of a request, and the root that qualified names may leave out. -/
structure Parameters where
  pairs : List (Text × Text) := []
  root : Option Text := none

namespace Parameters

/-- The parameters of a query string, with or without its question mark. -/
def ofQuery (query : Text) : Parameters :=
  { pairs := FormEncoded.parse ((Text.after? ['?'] query).getD query) }

/-- The parameters with the root that qualified names may leave out. -/
def withRoot (p : Parameters) (root : Text) : Parameters := { p with root := some root }

/-- The parameters with one more at the end. -/
def push (p : Parameters) (name value : Text) : Parameters :=
  { p with pairs := p.pairs ++ [(name, value)] }

/-- There is no parameter. -/
def isEmpty (p : Parameters) : Bool := p.pairs.isEmpty

/-- The values sent under a name, in order. -/
def values (p : Parameters) (name : Text) : List Text :=
  (p.pairs.filter (·.1 == name)).map (·.2)

/-- The first value sent under a name. -/
def first? (p : Parameters) (name : Text) : Option Text :=
  (p.pairs.find? (·.1 == name)).map (·.2)

/-- The distinct names that follow the names already `seen`, in order of first appearance. -/
def namesAfter (seen : List Text) : List (Text × Text) → List Text
  | [] => []
  | (name, _) :: rest =>
    if seen.contains name then namesAfter seen rest else name :: namesAfter (name :: seen) rest

/-- The distinct names in order of first appearance. -/
def names (p : Parameters) : List Text := namesAfter [] p.pairs

/-- The values sent under a name without their operators. -/
def strippedValues (p : Parameters) (name : Text) : List Text :=
  (p.values name).map Wrapping.strip

/-- A name without the root and the dot after it. -/
def relativeName? (p : Parameters) (name : Text) : Option Text :=
  p.root.bind fun root => (Text.after? root name).bind (Text.after? ['.'])

/-- The names under which the values of a field are looked up, in this order. -/
def candidateNames (p : Parameters) (f : Field) (aliasName : Option Text) : List Text :=
  (p.relativeName? f.name).toList ++ [f.name] ++ (aliasName.filter fun a => !a.isBlank).toList

/-- The first value sent for a field. -/
def firstValue? (p : Parameters) (f : Field) (aliasName : Option Text) : Option Text :=
  (p.candidateNames f aliasName).findSome? p.first?

/-- The values sent for a field. -/
def allValues? (p : Parameters) (f : Field) (aliasName : Option Text) : Option (List Text) :=
  ((p.candidateNames f aliasName).map p.values).find? fun values => !values.isEmpty

end Parameters

/-- A source of the values of fields as they were sent, given a field and its alias. -/
structure SentValues where
  first? : Field → Option Text → Option Text
  all? : Field → Option Text → Option (List Text)

namespace SentValues

/-- The values sent as the parameters of a request. -/
def ofParameters (p : Parameters) : SentValues := ⟨p.firstValue?, p.allValues?⟩

/-- The same values for every field. -/
def fixed (first : Option Text) (all : Option (List Text)) : SentValues :=
  ⟨fun _ _ => first, fun _ _ => all⟩

end SentValues

/-- A source of sent values with the alias of one field. -/
structure Overrides where
  source : SentValues
  aliasName : Option Text

namespace Overrides

/-- The first sent value of a field, unless it is blank. -/
def first? (o : Overrides) (f : Field) : Option Text :=
  (o.source.first? f o.aliasName).filter fun v => !v.isBlank

/-- The sent values of a field, unless there are none. -/
def all? (o : Overrides) (f : Field) : Option (List Text) :=
  (o.source.all? f o.aliasName).filter fun values => !values.isEmpty

end Overrides

end QueryFilter
