/-!
# Double-precision floats

A `Binary64` is a double-precision float: not a number, or a sign with a magnitude.  Magnitudes
are the bit patterns of the floats from zero to infinity, which are in the same order as the
floats themselves, so that two floats are compared by the integers `key`.  `Binary64.ofRatio`
rounds an exact quotient to the nearest float, a tie to the even one, and `significand` and
`exponent` give back the exact value `significand * 2 ^ exponent / 2 ^ 1074` of a magnitude.
-/

namespace QueryFilter

/-- The bit pattern of infinity, above those of all finite magnitudes. -/
def Binary64.infinityBits : Nat := 0x7FF0000000000000

/-- A double-precision float. -/
inductive Binary64 where
  | nan
  | signed (negative : Bool) (magnitude : Fin (Binary64.infinityBits + 1))
  deriving DecidableEq

namespace Binary64

/-- The magnitude with the given bit pattern, infinity for all patterns beyond its own. -/
def ofBits (negative : Bool) (bits : Nat) : Binary64 :=
  .signed negative ⟨min bits infinityBits, by omega⟩

/-- Infinity of either sign. -/
def infinity (negative : Bool) : Binary64 := ofBits negative infinityBits

/-- Zero of either sign. -/
def zero (negative : Bool) : Binary64 := ofBits negative 0

/-- The place of a float in the order of the floats; both zeros have the same. -/
def key : Binary64 → Option Int
  | .nan => none
  | .signed true m => some (-m.val)
  | .signed false m => some m.val

/-- The order of two floats, if both are numbers. -/
def compare? (x y : Binary64) : Option Ordering :=
  match x.key, y.key with
  | some a, some b => some (compare a b)
  | _, _ => none

/-- The float is neither infinite nor not a number. -/
def isFinite : Binary64 → Bool
  | .nan => false
  | .signed _ m => m.val < infinityBits

/-- The number of magnitudes with the same exponent, `2 ^ 52`. -/
def stride : Nat := 0x10000000000000

/-! ### Rounding -/

/-- The integer nearest to `num / den`, the even one of two that are equally near. -/
def roundHalfEven (num den : Nat) : Nat :=
  let q := num / den
  let r := num % den
  if 2 * r < den then q
  else if den < 2 * r then q + 1
  else q + q % 2

/-- The bit pattern of the magnitude nearest to `num / den`. In units of the smallest magnitude,
`2 ^ -1074`, the magnitudes around the quotient are the multiples of `2 ^ p` with 53-bit
factors. -/
def roundRatio (num den : Nat) : Nat :=
  let units := num <<< 1074
  let p := (units / den).log2 - 52
  p * stride + roundHalfEven units (den <<< p)

/-- The float nearest to `num / den`, with a sign. -/
def ofRatio (negative : Bool) (num den : Nat) : Binary64 :=
  ofBits negative (roundRatio num den)

/-- The float nearest to an integer. -/
def ofInt (n : Int) : Binary64 := ofRatio (n < 0) n.natAbs 1

/-! ### The value of a magnitude -/

/-- The power of two, in units of `2 ^ -1074`, of which a magnitude is a multiple. -/
def exponent (magnitude : Nat) : Nat := magnitude / stride - 1

/-- The factor of a magnitude before the power of two. -/
def significand (magnitude : Nat) : Nat := magnitude - exponent magnitude * stride

end Binary64

end QueryFilter
