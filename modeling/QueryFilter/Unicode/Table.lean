import QueryFilter.Unicode.CharSet

/-!
# Character tables

The tables of the Unicode Character Database come in three forms: ranges of code points in
hexadecimal digits, such as `30-39 41`, read by `hexSet`; run lengths written as text, such as
`Lu26Ll26`, which `decodeRuns` turns into tags with lengths and `runSet` into sets of
characters; and shifts, which move the characters of a range.
-/

namespace QueryFilter.Unicode

/-- The range of the characters among the code points from `lo` to `hi`, if there are any. -/
def charRange? (lo hi : Nat) : Option CharRange :=
  let lo := if 0xD800 ≤ lo ∧ lo ≤ 0xDFFF then 0xE000 else lo
  let hi := if 0xD800 ≤ hi ∧ hi ≤ 0xDFFF then 0xD7FF else hi
  if lo ≤ hi then some ⟨Char.ofNat lo, Char.ofNat hi⟩ else none

/-! ### Ranges in hexadecimal digits -/

/-- Reads ranges of code points with blanks in between, given the code point before the hyphen, if
there was one, and the digits read so far as a number. -/
def readHexRanges (lo? : Option Nat) (n : Nat) : Text → List (Nat × Nat)
  | [] => [(lo?.getD n, n)]
  | c :: rest =>
    if c = ' ' then (lo?.getD n, n) :: readHexRanges none 0 rest
    else if c = '-' then readHexRanges (some n) 0 rest
    else readHexRanges lo? (16 * n + (Text.hexDigit? c).getD 0) rest

/-- The characters of the ranges that the lines spell, which are in order. -/
def hexSet (lines : List String) : CharSet :=
  ⟨(lines.flatMap fun line => readHexRanges none 0 line.toList).filterMap fun r =>
    charRange? r.1 r.2⟩

/-! ### Run lengths -/

/-- Reads run lengths, given the tag and the length read so far: a run is a tag without digits
and then the digits of its length, which begin with no zero. -/
def readRuns (tag : Text) (length : Nat) : Text → List (Text × Nat)
  | [] => [(tag, length)]
  | c :: rest =>
    if c.isDigit then readRuns tag (10 * length + (c.toNat - '0'.toNat)) rest
    else if length = 0 then readRuns (tag ++ [c]) 0 rest
    else (tag, length) :: readRuns [c] 0 rest

/-- The tags with their lengths that the lines spell when they are read one after the other. -/
def decodeRuns (lines : List String) : List (Text × Nat) :=
  readRuns [] 0 (lines.flatMap String.toList)

/-- The ranges of the code points in runs whose tags are kept, the first run beginning at `n`;
`lo?` is the beginning of the range of kept runs just before `n`, if there is one. -/
def runRanges (keep : Text → Bool) (lo? : Option Nat) (n : Nat) :
    List (Text × Nat) → List (Nat × Nat)
  | [] => (lo?.map (·, n - 1)).toList
  | (tag, length) :: runs =>
    if keep tag then runRanges keep (some (lo?.getD n)) (n + length) runs
    else (lo?.map (·, n - 1)).toList ++ runRanges keep none (n + length) runs

/-- The characters in runs whose tags are kept. -/
def runSet (keep : Text → Bool) (runs : List (Text × Nat)) : CharSet :=
  ⟨(runRanges keep none 0 runs).filterMap fun r => charRange? r.1 r.2⟩

/-! ### Shifts -/

/-- The characters `first`, `first + step`, …, `last`, each moved by `distance`. -/
structure Shift where
  first : Nat
  last : Nat
  step : Nat
  distance : Int

namespace Shift

/-- The code point `n` is one of those that the shift moves. -/
def moves (s : Shift) (n : Nat) : Bool :=
  s.first ≤ n && n ≤ s.last && (n - s.first) % s.step == 0

/-- The code points that the shift moves. -/
def moved (s : Shift) : List Nat :=
  (List.range ((s.last - s.first) / s.step + 1)).map fun i => s.first + s.step * i

/-- The code point to which the shift moves `n`. -/
def target (s : Shift) (n : Nat) : Nat := (n + s.distance).toNat

/-- The code point that the shift moves to `n`, if there is one. -/
def origin? (s : Shift) (n : Nat) : Option Nat :=
  let m := (n - s.distance).toNat
  if s.moves m then some m else none

end Shift

/-- Moves a character by the first shift that applies to it. -/
def shiftChar (shifts : List Shift) (c : Char) : Char :=
  match shifts.find? (·.moves c.toNat) with
  | some s => Char.ofNat (s.target c.toNat)
  | none => c

end QueryFilter.Unicode
