import QueryFilter.Numeral.Number
import QueryFilter.Time.Timestamp

/-!
# Values of fields

What a record holds in a field: a text, a number, a timestamp, the member of an enumeration, or
nothing that can be compared.
-/

namespace QueryFilter

/-- The value of a record in a field. -/
inductive Value where
  | text (t : Text)
  | number (n : Number)
  | timestamp (t : Timestamp)
  | member (name : Text)
  | missing

namespace Value

/-- There is no value. -/
def isMissing : Value → Bool
  | .missing => true
  | _ => false

/-- The text, if the value is one. -/
def text? : Value → Option Text
  | .text t => some t
  | _ => none

/-- The number, if the value is one. -/
def number? : Value → Option Number
  | .number n => some n
  | _ => none

/-- The timestamp, if the value is one. -/
def timestamp? : Value → Option Timestamp
  | .timestamp t => some t
  | _ => none

/-- The member, if the value is one. -/
def member? : Value → Option Text
  | .member name => some name
  | _ => none

end Value

end QueryFilter
