import QueryFilter.Text.Basic

/-!
# Settings

The settings of a registry: whether loose comparisons of enumerations are accepted at first, how
many patterns may be kept, and the aliases of fields by name, in the order of the names.
-/

namespace QueryFilter

/-- A text comes before another in the order of the code points. -/
def Text.before (s t : Text) : Bool := decide (s < t)

/-- The settings of a registry. -/
structure Settings where
  looseValues : Bool := false
  patternCapacity : Nat := 500
  aliases : List (Text × Text) := []

namespace Settings

/-- Puts an entry into a list of entries ordered by name, in place of one with the same name. -/
def insertAlias (name aliasName : Text) : List (Text × Text) → List (Text × Text)
  | [] => [(name, aliasName)]
  | (n, a) :: rest =>
    if name = n then (name, aliasName) :: rest
    else if name.before n then (name, aliasName) :: (n, a) :: rest
    else (n, a) :: insertAlias name aliasName rest

/-- The settings with one more alias. -/
def withAlias (s : Settings) (name aliasName : Text) : Settings :=
  { s with aliases := insertAlias name aliasName s.aliases }

/-- The alias of the field with a name. -/
def alias? (s : Settings) (name : Text) : Option Text :=
  (s.aliases.find? (·.1 == name)).map (·.2)

end Settings

end QueryFilter
