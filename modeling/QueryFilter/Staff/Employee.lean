import QueryFilter.Field
import QueryFilter.Predicate.Expr

/-!
# Employees

The records of a staff directory, and the fields by which they can be filtered.
-/

namespace QueryFilter

/-- The status of an employment. -/
inductive Status where
  | active
  | inactive
  | suspended
  deriving DecidableEq

namespace Status

/-- The statuses in the order of their declaration. -/
def all : List Status := [.active, .inactive, .suspended]

/-- The name of a status. -/
def name : Status → Text
  | .active => "ACTIVE".toList
  | .inactive => "INACTIVE".toList
  | .suspended => "SUSPENDED".toList

/-- The status with a name. -/
def ofName? (name : Text) : Option Status := all.find? (·.name == name)

end Status

/-- A record of the staff directory. -/
structure Employee where
  userName : Text
  firstName : Text
  lastName : Text
  jobTitle : Text
  status : Status
  age : UInt32
  email : Text
  hiredOn : Date

namespace Employee

/-- The value of a record in a field. -/
def value (e : Employee) (field : Text) : Value :=
  if field = "user_name".toList then .text e.userName
  else if field = "first_name".toList then .text e.firstName
  else if field = "last_name".toList then .text e.lastName
  else if field = "job_title".toList then .text e.jobTitle
  else if field = "status".toList then .member e.status.name
  else if field = "age".toList then .number (.unsigned e.age.toUInt64)
  else if field = "email".toList then .text e.email
  else if field = "hired_on".toList then .timestamp (.ofDate e.hiredOn)
  else .missing

/-- The fields by which records can be filtered. -/
def fields : List Field :=
  [⟨"user_name".toList, .text⟩, ⟨"first_name".toList, .text⟩, ⟨"last_name".toList, .text⟩,
    ⟨"job_title".toList, .text⟩, ⟨"status".toList, .enumeration (Status.all.map Status.name)⟩,
    ⟨"age".toList, .number⟩, ⟨"email".toList, .text⟩, ⟨"hired_on".toList, .timestamp⟩]

end Employee

end QueryFilter
