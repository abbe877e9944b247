import QueryFilter.Text.Basic

/-!
# Fields

A field is a name with the kind of values that records hold under it; fields are equal when both
are.
-/

namespace QueryFilter

/-- The kind of the values of a field. The members of an enumeration are in the order of their
declaration; values of another kind cannot be filtered by. -/
inductive FieldKind where
  | text
  | number
  | timestamp
  | enumeration (members : List Text)
  | other (typeName : Text)
  deriving DecidableEq

/-- The name of a kind in messages. -/
def FieldKind.name : FieldKind → Text
  | .text => "text".toList
  | .number => "numeric".toList
  | .timestamp => "date".toList
  | .enumeration _ => "enum".toList
  | .other typeName => typeName

/-- A name with a kind of values. -/
structure Field where
  name : Text
  kind : FieldKind
  deriving DecidableEq

namespace Field

/-- The members of an enumeration; other fields have none. -/
def members (f : Field) : List Text :=
  match f.kind with
  | .enumeration members => members
  | _ => []

/-- The field is an enumeration. -/
def isEnumeration (f : Field) : Bool :=
  match f.kind with
  | .enumeration _ => true
  | _ => false

end Field

end QueryFilter
