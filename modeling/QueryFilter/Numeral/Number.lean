import QueryFilter.Failure
import QueryFilter.Numeral.Decimal
import QueryFilter.Numeral.Shortest
import QueryFilter.Text.Blank

/-!
# Numbers

A `Number` is a signed or unsigned 64-bit integer or a float, and keeps which of these it is.
`Number.parse` reads the literal of a comparison: an integer if the text is one and fits, else a
finite float.  `Number.compare?` orders numbers of different sorts by their floats, except that
a negative integer is below every unsigned one.
-/

namespace QueryFilter

/-- A number of one of the three sorts. -/
inductive Number where
  | signed (n : Int64)
  | unsigned (n : UInt64)
  | float (x : Binary64)

namespace Number

/-- The float nearest to a number. -/
def toBinary64 : Number → Binary64
  | .signed n => .ofInt n.toInt
  | .unsigned n => .ofInt n.toNat
  | .float x => x

/-- The order of two numbers, if neither is a float that is not a number. -/
def compare? : Number → Number → Option Ordering
  | .signed a, .signed b => some (compare a.toInt b.toInt)
  | .unsigned a, .unsigned b => some (compare a.toNat b.toNat)
  | .float x, .float y => x.compare? y
  | .signed a, .unsigned b =>
    if a.toInt < 0 then some .lt
    else (Number.signed a).toBinary64.compare? (Number.unsigned b).toBinary64
  | .unsigned a, .signed b =>
    if b.toInt < 0 then some .gt
    else (Number.unsigned a).toBinary64.compare? (Number.signed b).toBinary64
  | a, b => a.toBinary64.compare? b.toBinary64

/-- The numbers are of the same sort and equal. -/
def identical : Number → Number → Bool
  | .signed a, .signed b => a == b
  | .unsigned a, .unsigned b => a == b
  | .float x, .float y => x.compare? y == some .eq
  | _, _ => false

/-- The integer as a number: signed if it fits, else unsigned if it fits. -/
def ofInt? (n : Int) : Option Number :=
  if Int64.minValue.toInt ≤ n ∧ n ≤ Int64.maxValue.toInt then some (.signed (.ofInt n))
  else if 0 ≤ n ∧ n < UInt64.size then some (.unsigned (.ofNat n.toNat))
  else none

/-- The float that a text spells, if it is finite. -/
def finite? (t : Text) : Option Binary64 := (Decimal.float? t).filter Binary64.isFinite

/-- Reads the literal of a numeric comparison. -/
def parse (literal : Text) : Except Failure Number :=
  let t := literal.trim
  match (Decimal.integer? t).bind ofInt? with
  | some n => .ok n
  | none =>
    match finite? t with
    | some x => .ok (.float x)
    | none => .error (.invalidNumber t)

/-- The text of a number. -/
def render : Number → Text
  | .signed n => (if n.toInt < 0 then ['-'] else []) ++ Nat.toDigits 10 n.toInt.natAbs
  | .unsigned n => Nat.toDigits 10 n.toNat
  | .float x => x.render

end Number

end QueryFilter
