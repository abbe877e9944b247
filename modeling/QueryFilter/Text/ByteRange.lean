import QueryFilter.Unicode.CharSet

/-!
# Ranges of bytes

The encodings of the characters of a range form sequences of bytes.  `ByteRange.sequences`
describes them by sequences of ranges of bytes, in the order of the encodings: each sequence
stands for all the encodings whose bytes lie in its ranges, and no encoding is in two of them.
-/

namespace QueryFilter

/-- The bytes from `lo` to `hi`, both included. -/
structure ByteRange where
  lo : UInt8
  hi : UInt8
  deriving DecidableEq

namespace ByteRange

/-- The ranges between the bytes of two encodings of the same length. -/
def encoded (lo hi : Nat) : List ByteRange :=
  List.zipWith ByteRange.mk (String.utf8EncodeChar (Char.ofNat lo))
    (String.utf8EncodeChar (Char.ofNat hi))

/-- Where a range has to be divided so that the encodings in a part have the same length and
form one sequence of ranges: the last code point of the first part. -/
def division? (lo hi : Nat) : Option Nat :=
  if lo < 0xE000 ∧ 0xD7FF < hi then some 0xD7FF
  else
    let lengths := [0x7F, 0x7FF, 0xFFFF].find? fun m => lo ≤ m && m < hi
    let bytes := [0x3F, 0xFFF, 0x3FFFF].findSome? fun m =>
      if hi ≤ 0x7F ∨ lo / (m + 1) = hi / (m + 1) then none
      else if lo % (m + 1) ≠ 0 then some (lo - lo % (m + 1) + m)
      else if hi % (m + 1) ≠ m then some (hi - hi % (m + 1) - 1)
      else none
    lengths <|> bytes

/-- The sequences for the code points from `lo` to `hi`, surrogates left out; `fuel` bounds how
often the range is divided. -/
def sequencesUpTo : Nat → Nat → Nat → List (List ByteRange)
  | 0, _, _ => []
  | fuel + 1, lo, hi =>
    if hi < lo then []
    else match division? lo hi with
      | some m =>
        sequencesUpTo fuel lo m ++ sequencesUpTo fuel (if m = 0xD7FF then 0xE000 else m + 1) hi
      | none => [encoded lo hi]

/-- The sequences of byte ranges for the encodings of the characters of a set. A range is divided
once at the surrogates, at most three times by length, and at most twice for each later byte. -/
def sequences (set : CharSet) : List (List ByteRange) :=
  set.ranges.flatMap fun r => sequencesUpTo 16 r.lo.toNat r.hi.toNat

end ByteRange

end QueryFilter
