import QueryFilter.Unicode.Table

/-!
# Sets of ASCII characters

The classes of ASCII characters that have a name, such as `alpha`, and those that stand for
digits, blanks and the characters of words where elements are bytes.
-/

namespace QueryFilter.Pattern.Property

open Unicode

/-- The ASCII digits. -/
def asciiDigit : CharSet := CharSet.range '0' '9'

/-- The ASCII blanks. -/
def asciiBlank : CharSet := hexSet ["9-D 20"]

/-- The ASCII characters of words. -/
def asciiWord : CharSet := hexSet ["30-39 41-5A 5F 61-7A"]

/-- The set of ASCII characters that goes by a name. -/
def asciiNamed? (name : Text) : Option CharSet :=
  match String.ofList name with
  | "alnum" => some (hexSet ["30-39 41-5A 61-7A"])
  | "alpha" => some (hexSet ["41-5A 61-7A"])
  | "ascii" => some (CharSet.range '\x00' '\x7f')
  | "blank" => some (hexSet ["9 20"])
  | "cntrl" => some (hexSet ["0-1F 7F"])
  | "digit" => some asciiDigit
  | "graph" => some (CharSet.range '!' '~')
  | "lower" => some (CharSet.range 'a' 'z')
  | "print" => some (CharSet.range ' ' '~')
  | "punct" => some (hexSet ["21-2F 3A-40 5B-60 7B-7E"])
  | "space" => some asciiBlank
  | "upper" => some (CharSet.range 'A' 'Z')
  | "word" => some asciiWord
  | "xdigit" => some (hexSet ["30-39 41-46 61-66"])
  | _ => none

end QueryFilter.Pattern.Property
