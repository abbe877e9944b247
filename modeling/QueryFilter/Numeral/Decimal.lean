import QueryFilter.Numeral.Binary64
import QueryFilter.Text.Basic

/-!
# Numerals

The numerals of integers and floats in base ten.  `Decimal.integer?` reads an optional sign and
digits; `Decimal.float?` also reads a decimal point, an exponent, and the names of infinity and
of the value that is not a number, and rounds to the nearest float.
-/

namespace QueryFilter.Decimal

/-- The number that digits spell. -/
def value (digits : Text) : Nat := Nat.ofDigitChars 10 digits 0

/-- The text is one digit or more. -/
def isDigits (t : Text) : Bool := !t.isEmpty && t.all Char.isDigit

/-- Splits an optional sign off; the flag says that it is a minus. -/
def sign : Text → Bool × Text
  | '-' :: rest => (true, rest)
  | '+' :: rest => (false, rest)
  | t => (false, t)

/-- The integer that a text spells as an optional sign and digits. -/
def integer? (t : Text) : Option Int :=
  let (negative, digits) := sign t
  if isDigits digits then
    some (if negative then -(value digits : Int) else value digits)
  else none

/-- A number written with a point and an exponent: its digits without the point, and the power of
ten of the last of them. -/
structure Scientific where
  digits : Nat
  exponent : Int

/-- The digits before and after the point, and the rest. -/
def mantissa (t : Text) : Text × Text × Text :=
  let rest := t.dropWhile Char.isDigit
  match rest with
  | '.' :: tail => (t.takeWhile Char.isDigit, tail.takeWhile Char.isDigit,
      tail.dropWhile Char.isDigit)
  | _ => (t.takeWhile Char.isDigit, [], rest)

/-- Reads a number without its sign. -/
def scientific? (t : Text) : Option Scientific :=
  let (whole, fraction, rest) := mantissa t
  let digits := value (whole ++ fraction)
  if whole.isEmpty && fraction.isEmpty then none
  else match rest with
    | [] => some ⟨digits, -fraction.length⟩
    | e :: tail =>
      if e = 'e' ∨ e = 'E' then
        (integer? tail).map fun n => ⟨digits, n - fraction.length⟩
      else none

/-- The float nearest to a number in scientific notation. Beyond the exponents of all floats the
answer is infinity or zero. -/
def Scientific.toBinary64 (negative : Bool) (s : Scientific) : Binary64 :=
  let magnitude := (Nat.toDigits 10 s.digits).length + s.exponent
  if s.digits = 0 then .zero negative
  else if 310 < magnitude then .infinity negative
  else if magnitude < -330 then .zero negative
  else if 0 ≤ s.exponent then .ofRatio negative (s.digits * Nat.pow 10 s.exponent.toNat) 1
  else .ofRatio negative s.digits (Nat.pow 10 (-s.exponent).toNat)

/-- The float nearest to the number that a text spells. -/
def float? (t : Text) : Option Binary64 :=
  let (negative, rest) := sign t
  let name := Text.foldAscii rest
  if name = "inf".toList ∨ name = "infinity".toList then some (.infinity negative)
  else if name = "nan".toList then some .nan
  else (scientific? rest).map (·.toBinary64 negative)

end QueryFilter.Decimal
