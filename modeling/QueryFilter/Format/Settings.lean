import QueryFilter.Format.Json
import QueryFilter.Format.Yaml
import QueryFilter.Settings

/-!
# Written settings

Settings as JSON and YAML documents with the keys `loose_values`, `regex_cache_capacity` and
`aliases`.  A missing key keeps its default, and an unknown one is passed over; a known key that
occurs twice or has a value of the wrong kind makes the document no settings.
-/

namespace QueryFilter.Settings

/-- The keys of the settings, in the order in which they are written. -/
def keys : List Text := ["loose_values".toList, "regex_cache_capacity".toList, "aliases".toList]

/-- The settings with the values that are given, and the defaults for those that are not. -/
def ofValues (loose : Option Bool) (capacity : Option Nat)
    (aliases : Option (List (Text × Text))) : Settings :=
  let defaults : Settings := {}
  { looseValues := loose.getD defaults.looseValues
    patternCapacity := capacity.getD defaults.patternCapacity
    aliases := (aliases.getD []).foldl (fun es entry => insertAlias entry.1 entry.2 es) [] }

/-- The capacities that can be written. -/
def capacity? (n : Int) : Option Nat := if 0 ≤ n ∧ n < UInt64.size then some n.toNat else none

/-- Reads a value that may be missing. -/
def optional? {α β : Type} (read : α → Option β) : Option α → Option (Option β)
  | none => some none
  | some a => (read a).map some

/-! ### JSON -/

/-- A truth value of a JSON document. -/
def jsonBool? : Json → Option Bool
  | .bool b => some b
  | _ => none

/-- A capacity in a JSON document. -/
def jsonCapacity? : Json → Option Nat
  | .integer n => capacity? n
  | _ => none

/-- The aliases in a JSON document. -/
def jsonAliases? : Json → Option (List (Text × Text))
  | .object entries => entries.mapM fun entry =>
    match entry.2 with
    | .string aliasName => some (entry.1, aliasName)
    | _ => none
  | _ => none

/-- The settings that a JSON value holds, an object or the values in order. -/
def ofJson? (j : Json) : Option Settings :=
  match j.fields? keys with
  | some [loose, capacity, aliases] => do
    some (ofValues (← optional? jsonBool? loose) (← optional? jsonCapacity? capacity)
      (← optional? jsonAliases? aliases))
  | _ => none

/-- The settings that a JSON document holds. -/
def readJson? (t : Text) : Option Settings := (Json.read? t).bind ofJson?

/-- The settings as a JSON value. -/
def toJson (s : Settings) : Json :=
  .object [("loose_values".toList, .bool s.looseValues),
    ("regex_cache_capacity".toList, .integer s.patternCapacity),
    ("aliases".toList, .object (s.aliases.map fun (name, aliasName) => (name, .string aliasName)))]

/-! ### YAML -/

/-- The aliases in a YAML document. -/
def yamlAliases? (y : Yaml) : Option (List (Text × Text)) :=
  y.fields?.bind fun entries => entries.mapM fun (name, value) => value.text?.map (name, ·)

/-- A capacity in a YAML document. -/
def yamlCapacity? (y : Yaml) : Option Nat := y.nat?.bind fun n => capacity? n

/-- The settings that a YAML document holds. -/
def readYaml? (t : Text) : Option Settings := do
  let entries ← (← Yaml.read? t).fields?
  match ← keys.mapM (Text.soleValue? · entries) with
  | [loose, capacity, aliases] =>
    some (ofValues (← optional? Yaml.bool? loose) (← optional? yamlCapacity? capacity)
      (← optional? yamlAliases? aliases))
  | _ => none

end QueryFilter.Settings
