import QueryFilter.Format.Json
import QueryFilter.Staff.Employee

/-!
# Written directories

A staff directory as a JSON document: an array of records, each an object with a key for every
field, or the values of the fields in order.
-/

namespace QueryFilter.Employee

/-- The keys of a record, in the order in which they are written. -/
def keys : List Text := fields.map (·.name)

/-! ### Reading -/

/-- Reads a date as year, month and day with hyphens between them; blanks are allowed around
each. -/
def date? (t : Text) : Option Date := do
  let (year, t) ← Timestamp.year? t
  let t ← Timestamp.char? '-' (Text.trimStart t)
  let (month, t) ← Timestamp.field? t
  let t ← Timestamp.char? '-' (Text.trimStart t)
  let (day, t) ← Timestamp.field? t
  let d : Date := ⟨year, month, day⟩
  if (Text.trimStart t).isEmpty && Timestamp.inRange d then some d else none

/-- The text of a JSON string. -/
def text? : Json → Option Text
  | .string t => some t
  | _ => none

/-- A status is written by its name, or as an object with its name as the key of nothing. -/
def status? : Json → Option Status
  | .string name => Status.ofName? name
  | .object [(name, .null)] => Status.ofName? name
  | _ => none

/-- An age is a natural number of 32 bits. -/
def age? : Json → Option UInt32
  | .integer n => if 0 ≤ n ∧ n < UInt32.size then some (.ofNat n.toNat) else none
  | _ => none

/-- The record that a JSON value holds. -/
def ofJson? (j : Json) : Option Employee := do
  match ← j.fields? keys with
  | [some userName, some firstName, some lastName, some jobTitle, some status, some age,
      some email, some hiredOn] =>
    some {
      userName := ← text? userName
      firstName := ← text? firstName
      lastName := ← text? lastName
      jobTitle := ← text? jobTitle
      status := ← status? status
      age := ← age? age
      email := ← text? email
      hiredOn := ← (text? hiredOn).bind date? }
  | _ => none

/-- The records that a JSON value holds. -/
def directory? : Json → Option (List Employee)
  | .array items => items.mapM ofJson?
  | _ => none

/-- The records that a JSON document holds. -/
def readDirectory? (t : Text) : Option (List Employee) := (Json.read? t).bind directory?

/-! ### Writing -/

/-- A record as a JSON value. -/
def toJson (e : Employee) : Json :=
  .object (keys.zip [.string e.userName, .string e.firstName, .string e.lastName,
    .string e.jobTitle, .string e.status.name, .integer e.age.toNat, .string e.email,
    .string (Timestamp.renderDate e.hiredOn)])

/-- The JSON document of a directory, every value on a line of its own. -/
def renderDirectory (es : List Employee) : Text := (Json.array (es.map toJson)).pretty 0

end QueryFilter.Employee
