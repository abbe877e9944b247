import QueryFilter.Text.Basic

/-!
# Sets of characters

A `CharSet` is a set of characters, given by ranges in the order of the code points.
`CharSet.ofRanges` makes a set from any ranges, and the set operations work on the ranges
directly.  The code points of the surrogates are no characters, so `succ` and `pred` step across
them, but ranges on their two sides count as apart.
-/

namespace QueryFilter

/-- The characters from `lo` to `hi`, both included. -/
structure CharRange where
  lo : Char
  hi : Char
  deriving DecidableEq

namespace CharRange

/-- The character lies in the range. -/
def contains (r : CharRange) (c : Char) : Bool := r.lo ≤ c && c ≤ r.hi

/-- The first of two characters. -/
def first (a b : Char) : Char := if b < a then b else a

/-- The last of two characters. -/
def last (a b : Char) : Char := if a < b then b else a

/-- The range between two characters, in whichever order they come. -/
def between (a b : Char) : CharRange := ⟨first a b, last a b⟩

/-- The order of ranges by their beginnings, and then by their ends. -/
def precedes (r s : CharRange) : Bool := r.lo < s.lo || (r.lo == s.lo && r.hi ≤ s.hi)

/-- The range `s`, which begins no earlier than `r`, overlaps with `r` or follows it at once. -/
def joins (r s : CharRange) : Bool := s.lo.toNat ≤ r.hi.toNat + 1

/-- The character after `c`. -/
def succ (c : Char) : Char := if c = '\ud7ff' then '\ue000' else Char.ofNat (c.toNat + 1)

/-- The character before `c`. -/
def pred (c : Char) : Char := if c = '\ue000' then '\ud7ff' else Char.ofNat (c.toNat - 1)

/-- Ranges in order, beginning with `r`, with those joined that belong together. -/
def join (r : CharRange) : List CharRange → List CharRange
  | [] => [r]
  | s :: rest =>
    if r.joins s then join ⟨r.lo, last r.hi s.hi⟩ rest else r :: join s rest

/-- The parts of a range outside some ranges, which are in order. -/
def cut (r : CharRange) : List CharRange → List CharRange
  | [] => [r]
  | s :: rest =>
    if s.hi < r.lo then cut r rest
    else if r.hi < s.lo then [r]
    else
      (if r.lo < s.lo then [⟨r.lo, pred s.lo⟩] else [])
        ++ if s.hi < r.hi then cut ⟨succ s.hi, r.hi⟩ rest else []

/-- The common parts of two lists of ranges in order. -/
def common : List CharRange → List CharRange → List CharRange
  | [], _ => []
  | _, [] => []
  | r :: rs, s :: ss =>
    let lo := last r.lo s.lo
    let hi := first r.hi s.hi
    let rest := if r.hi < s.hi then common rs (s :: ss) else common (r :: rs) ss
    if lo ≤ hi then ⟨lo, hi⟩ :: rest else rest
  termination_by rs ss => rs.length + ss.length

/-- The greatest character. -/
def greatest : Char := Char.ofNat 0x10FFFF

/-- The ranges between ranges in order, and the one beyond the last of them; `c` ends the range
before them. -/
def gaps (c : Char) : List CharRange → List CharRange
  | [] => if c < greatest then [⟨succ c, greatest⟩] else []
  | r :: rest => between (succ c) (pred r.lo) :: gaps r.hi rest

end CharRange

/-- A set of characters, as ranges in order. -/
structure CharSet where
  ranges : List CharRange
  deriving DecidableEq

namespace CharSet

open CharRange

/-- The character is in the set. -/
def contains (s : CharSet) (c : Char) : Bool := inRanges s.ranges
where
  /-- The character is in one of the ranges, which are in order. -/
  inRanges : List CharRange → Bool
    | [] => false
    | r :: rest => if c < r.lo then false else c ≤ r.hi || inRanges rest

/-- The characters of the ranges. -/
def ofRanges (ranges : List CharRange) : CharSet :=
  match ranges.mergeSort precedes with
  | [] => ⟨[]⟩
  | r :: rest => ⟨join r rest⟩

/-- The set without characters. -/
def empty : CharSet := ⟨[]⟩

/-- The set of all characters. -/
def full : CharSet := ⟨[⟨'\x00', greatest⟩]⟩

/-- The characters from `lo` to `hi`. -/
def range (lo hi : Char) : CharSet := ⟨[⟨lo, hi⟩]⟩

/-- The set of one character. -/
def single (c : Char) : CharSet := range c c

/-- The set without characters is recognized by its ranges. -/
def isEmpty (s : CharSet) : Bool := s.ranges.isEmpty

/-- The characters of either set. -/
def union (s t : CharSet) : CharSet := ofRanges (s.ranges ++ t.ranges)

/-- The characters of any of the sets. -/
def unions (sets : List CharSet) : CharSet := ofRanges (sets.flatMap (·.ranges))

/-- The set with further characters. -/
def withChars (s : CharSet) (chars : List Char) : CharSet :=
  ofRanges (s.ranges ++ chars.map fun c => ⟨c, c⟩)

/-- The characters of both sets. -/
def inter (s t : CharSet) : CharSet := ⟨common s.ranges t.ranges⟩

/-- The characters of the first set that are not in the second. -/
def diff (s t : CharSet) : CharSet := ⟨s.ranges.flatMap fun r => r.cut t.ranges⟩

/-- The characters of exactly one of the sets. -/
def symmDiff (s t : CharSet) : CharSet := (s.union t).diff (s.inter t)

/-- The characters outside a set. -/
def compl (s : CharSet) : CharSet :=
  match s.ranges with
  | [] => full
  | r :: rest => ⟨(if '\x00' < r.lo then [⟨'\x00', pred r.lo⟩] else []) ++ gaps r.hi rest⟩

/-- The complement of a set, if it is asked for. -/
def complIf (negated : Bool) (s : CharSet) : CharSet := if negated then s.compl else s

/-- The set holds ASCII characters only. -/
def isAscii (s : CharSet) : Bool :=
  match s.ranges.getLast? with
  | some r => r.hi ≤ '\x7f'
  | none => true

/-- The character of a set that has just one. -/
def char? (s : CharSet) : Option Char :=
  match s.ranges with
  | [r] => if r.lo = r.hi then some r.lo else none
  | _ => none

end CharSet

end QueryFilter
