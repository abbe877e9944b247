import QueryFilter.Pattern.Footprint.OfSet
import QueryFilter.Pattern.Footprint.OfWords
import QueryFilter.Pattern.Normal

/-!
# Footprints of patterns

`Regex.fits` says that neither automaton for an expression is too big.  The states of a part come
after those of the parts that are read before it.  A repetition takes the states of its part again
for every turn that it counts.
-/

namespace QueryFilter

namespace Pattern

/-- An automaton for a part of an expression that has just been added; it may end in a state that
lists its successors. -/
structure Fragment where
  size : Footprint
  branches : Bool

namespace Fragment

/-- The automaton for a part that ends in a state without a list. -/
def plain (size : Footprint) : Fragment := ⟨size, false⟩

/-- The automaton after a part that leads on to another state, with further states and bytes in
lists. -/
def next? (x : Fragment) (states listed : Nat) : Option Footprint :=
  x.size.grow? states (listed + if x.branches then Footprint.linkBytes else 0)

/-- Adds a part so many times, each time after further states and bytes in lists. -/
def followedBy? (part : Footprint → Option Fragment) (states listed : Nat) :
    Nat → Fragment → Option Fragment
  | 0, x => some x
  | n + 1, x => do
    let y ← part (← x.next? states listed)
    followedBy? part states listed n y

/-- The automaton for a part repeated a fixed number of times. -/
def copies? (part : Footprint → Option Fragment) (f : Footprint) : Nat → Option Fragment
  | 0 => (f.grow? 1 0).map plain
  | n + 1 => do followedBy? part 0 0 n (← part f)

/-- The automaton for a part that may be left out. -/
def optional? (part : Footprint → Option Fragment) (f : Footprint) : Option Fragment := do
  let x ← part (← f.grow? 1 (2 * Footprint.linkBytes))
  (x.next? 1 0).map plain

/-- The automaton for a part repeated any number of times; `wide` says that the part does not
match the empty text. -/
def unbounded? (part : Footprint → Option Fragment) (wide : Bool) (f : Footprint) :
    Option Fragment := do
  if wide then
    let x ← part (← f.grow? 1 Footprint.linkBytes)
    (x.next? 0 0).map (⟨·, true⟩)
  else
    let x ← part f
    (x.next? 3 (4 * Footprint.linkBytes)).map plain

/-- The automaton for a part repeated a number of times or more. -/
def atLeast? (part : Footprint → Option Fragment) (least : Nat) (f : Footprint) :
    Option Fragment := do
  let x ← copies? part f least
  (x.next? 1 Footprint.linkBytes).map (⟨·, true⟩)

/-- The automaton for a part repeated `least` times, and up to `more` further times. -/
def bounded? (part : Footprint → Option Fragment) (least more : Nat) (f : Footprint) :
    Option Fragment := do
  let x ← copies? part f least
  let x := { x with size := ← x.size.grow? 1 0 }
  let y ← followedBy? part 1 (2 * Footprint.linkBytes) more x
  (y.next? 0 0).map plain

/-- The automaton for a part repeated at least and at most so many times. -/
def times? (part : Footprint → Option Fragment) (wide : Bool) (least : Nat) (most : Option Nat)
    (f : Footprint) : Option Fragment :=
  match most with
  | some n =>
    if least = n then copies? part f n
    else if least = 0 ∧ n = 1 then optional? part f
    else bounded? part least (n - least) f
  | none => if least = 0 then unbounded? part wide f else atLeast? part least f

end Fragment

end Pattern

namespace Regex

open Pattern

/-- The expression matches only at the end of the text where reading begins. -/
def isAnchored (dir : Direction) : Regex → Bool
  | .assertion a _ => a == match dir with
    | .forward => .textStart
    | .backward => .textEnd
  | .group body => body.isAnchored dir
  | .times body least _ => 0 < least && body.isAnchored dir
  | .seq first rest =>
    match dir with
    | .forward => first.isAnchored dir || (first.isWidthless && rest.isAnchored dir)
    | .backward => rest.isAnchored dir || (rest.isWidthless && first.isAnchored dir)
  | .alt first rest => first.isAnchored dir && rest.isAnchored dir
  | _ => false

/-- The bytes of a literal in the order in which they are read. -/
def word? (dir : Direction) : Regex → Option (List UInt8)
  | .literal t =>
    let bytes := t.flatMap String.utf8EncodeChar
    some (if dir = .forward then bytes else bytes.reverse)
  | _ => none

/-- The expression is an alternation. -/
def isAlternation : Regex → Bool
  | .alt _ _ => true
  | _ => false

/-- The automaton after an alternative, which is the given one in its alternation; from the second
one on there are states in which the alternatives begin and end. -/
def branch? (index : Nat) (x : Fragment) : Option Footprint :=
  x.next? (if index = 1 then 2 else 0) Footprint.linkBytes

/-- The automaton with the states of an expression; `index` is the number of alternatives before
it, of which it continues the alternation. -/
def fragment? (dir : Direction) : Regex → Nat → Footprint → Option Fragment
  | .empty, _, f => (f.grow? 1 0).map .plain
  | .literal t, _, f => (f.grow? (t.flatMap String.utf8EncodeChar).length 0).map .plain
  | .chars set, _, f => ((f.addSet dir set).grow? 0 0).map .plain
  | .assertion _ _, _, f => (f.grow? 1 0).map .plain
  | .group body, _, f =>
    match dir with
    | .forward => do
      let x ← body.fragment? dir 0 (← f.grow? 1 0)
      (x.next? 1 0).map .plain
    | .backward => body.fragment? dir 0 f
  | .times body least most, _, f =>
    Fragment.times? (body.fragment? dir 0) body.isWide least most f
  | .seq first rest, _, f =>
    match dir with
    | .forward => do
      let x ← first.fragment? dir 0 f
      rest.fragment? dir 0 (← x.next? 0 0)
    | .backward => do
      let x ← rest.fragment? dir 0 f
      first.fragment? dir 0 (← x.next? 0 0)
  | .alt first rest, index, f =>
    match if index = 0 then (first :: rest.branches).mapM (word? dir) else none with
    | some words => ((f.addWords words).grow? 0 0).map .plain
    | none => do
      let f ← branch? index (← first.fragment? dir 0 f)
      let x ← rest.fragment? dir (index + 1) f
      if rest.isAlternation then some x else (branch? (index + 1) x).map .plain

/-- The automaton for an expression, which reads in one direction, is not too big. Before the
expression it skips the text up to a match, unless a match begins where reading begins. -/
def fitsReading (dir : Direction) (r : Regex) : Bool :=
  let start : Footprint :=
    if r.isAnchored dir then ⟨1, 0⟩ else ⟨3, Footprint.edgeBytes + 2 * Footprint.linkBytes⟩
  match (Regex.group r).fragment? dir 0 start with
  | some x => (x.next? 1 0).isSome
  | none => false

/-- The automata for an expression are not too big. -/
def fits (r : Regex) : Bool := r.fitsReading .forward && r.fitsReading .backward

end Regex

end QueryFilter
