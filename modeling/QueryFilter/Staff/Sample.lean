import QueryFilter.Staff.Employee

/-!
# A sample directory

The staff directory that is used when no other is given.
-/

namespace QueryFilter.Employee

/-- The records of the sample directory. -/
def sample : List Employee :=
  [{ userName := "jdoe".toList
     firstName := "John".toList
     lastName := "Doe".toList
     jobTitle := "Software Engineer".toList
     status := .active
     age := 34
     email := "john.doe@example.com".toList
     hiredOn := ⟨2018, 3, 12⟩ },
   { userName := "asmith".toList
     firstName := "Alice".toList
     lastName := "Smith".toList
     jobTitle := "Engineering Manager".toList
     status := .active
     age := 45
     email := "alice.smith@example.com".toList
     hiredOn := ⟨2012, 7, 1⟩ },
   { userName := "bsmithers".toList
     firstName := "Bob".toList
     lastName := "Smithers".toList
     jobTitle := "Accountant".toList
     status := .inactive
     age := 52
     email := "bob.smithers@example.com".toList
     hiredOn := ⟨2009, 11, 23⟩ },
   { userName := "cjones".toList
     firstName := "Carol".toList
     lastName := "Jones".toList
     jobTitle := "Software Engineer".toList
     status := .active
     age := 28
     email := "carol.jones@example.com".toList
     hiredOn := ⟨2021, 1, 4⟩ },
   { userName := "dlee".toList
     firstName := "David".toList
     lastName := "Lee".toList
     jobTitle := "Data Analyst".toList
     status := .suspended
     age := 39
     email := "david.lee@example.com".toList
     hiredOn := ⟨2016, 5, 30⟩ },
   { userName := "ewang".toList
     firstName := "Emily".toList
     lastName := "Wang".toList
     jobTitle := "Product Manager".toList
     status := .active
     age := 31
     email := "emily.wang@example.com".toList
     hiredOn := ⟨2019, 9, 16⟩ },
   { userName := "fgarcia".toList
     firstName := "Frank".toList
     lastName := "Garcia".toList
     jobTitle := "Support Engineer".toList
     status := .inactive
     age := 26
     email := "frank.garcia@example.com".toList
     hiredOn := ⟨2022, 2, 14⟩ },
   { userName := "gmiller".toList
     firstName := "Grace".toList
     lastName := "Miller".toList
     jobTitle := "Software Engineer".toList
     status := .active
     age := 41
     email := "grace.miller@example.com".toList
     hiredOn := ⟨2014, 10, 6⟩ }]

end QueryFilter.Employee
