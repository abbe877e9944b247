import QueryFilter.Numeral.Binary64
import QueryFilter.Text.Basic

/-!
# The shortest text of a float

`Binary64.render` writes a float in positional notation with the fewest significant digits that
identify it: among the decimal numbers with that many digits which lie nearer to the float than
to any other, the nearest one, and the upper one of two that are equally near.
-/

namespace QueryFilter.Binary64

/-- The decimal numbers that round to one magnitude, as exact integers: its value, and the lower
and upper ends of the interval, all in units of `2 ^ -1076 * 10 ^ -400`. -/
structure Interval where
  value : Nat
  low : Nat
  high : Nat
  closed : Bool

/-- The interval of the numbers that round to a finite magnitude. The step to the magnitude below
is half as long as the one above at a power of two; the ends belong to the interval when the
significand is even. -/
def interval (magnitude : Nat) : Interval :=
  let unit := Nat.pow 10 400 <<< exponent magnitude
  let s := significand magnitude
  let below := if s = stride ∧ 0 < exponent magnitude then 1 else 2
  { value := 4 * s * unit
    low := (4 * s - below) * unit
    high := (4 * s + 2) * unit
    closed := s % 2 == 0 }

/-- The number lies in the interval. -/
def Interval.contains (i : Interval) (n : Nat) : Bool :=
  if i.closed then i.low ≤ n && n ≤ i.high else i.low < n && n < i.high

/-- The multiple of `step` in the interval that is nearest to its value, as a factor. -/
def Interval.nearest? (i : Interval) (step : Nat) : Option Nat :=
  let d := i.value / step
  let lower := i.contains (d * step)
  let upper := i.contains ((d + 1) * step)
  if lower && upper then
    some (if 2 * (i.value - d * step) < step then d else d + 1)
  else if lower then some d
  else if upper then some (d + 1)
  else none

/-- The number of decimal digits before the unit of the interval's value. -/
def Interval.length (i : Interval) : Nat := (Nat.toDigits 10 (i.value >>> 1076)).length

/-- The shortest decimal number in the interval with at least `digits` and less than
`digits + fuel` digits: its factor and the power of ten, both counted from `10 ^ -400`. -/
def Interval.shortest (i : Interval) (digits : Nat) : Nat → Nat × Nat
  | 0 => (i.value >>> 1076, 0)
  | fuel + 1 =>
    let power := i.length - digits
    match i.nearest? (Nat.pow 10 power <<< 1076) with
    | some d => (d, power)
    | none => i.shortest (digits + 1) fuel

/-- The number `factor * 10 ^ power / 10 ^ 400` in positional notation without superfluous zeros;
seventeen digits identify every float. -/
def positional (factor power : Nat) : Text :=
  let digits := Nat.toDigits 10 factor ++ List.replicate power '0'
  let padded := List.replicate (401 - digits.length) '0' ++ digits
  let whole := padded.take (padded.length - 400)
  let fraction := ((padded.drop (padded.length - 400)).reverse.dropWhile (· == '0')).reverse
  if fraction.isEmpty then whole else whole ++ '.' :: fraction

/-- The text of a float. -/
def render : Binary64 → Text
  | .nan => "NaN".toList
  | .signed negative m =>
    let sign := if negative then ['-'] else []
    if m.val = infinityBits then sign ++ "inf".toList
    else if m.val = 0 then sign ++ ['0']
    else
      let (factor, power) := (interval m.val).shortest 1 17
      sign ++ positional factor power

end QueryFilter.Binary64
