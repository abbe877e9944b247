import QueryFilter.Unicode.CharSet

/-!
# Regular expressions

A `Regex` is a regular expression over characters with assertions about the position.
`Regex.reach` gives the positions of a text that an expression leads to from a list of positions,
and an expression matches a text when it leads anywhere from any position.  Lists of positions
are kept in ascending order.
-/

namespace QueryFilter

/-- An assertion about a position of a text. -/
inductive Assertion where
  | textStart
  | textEnd
  | lineStart
  | lineEnd
  | anyLineStart
  | anyLineEnd
  | wordBoundary
  | noWordBoundary
  | wordStart
  | wordEnd
  | wordStartHalf
  | wordEndHalf
  deriving DecidableEq

/-- A regular expression. A sequence and an alternation have their parts in a row: the first part,
and the rest. -/
inductive Regex where
  | empty
  | literal (t : Text)
  | chars (set : CharSet)
  | assertion (a : Assertion) (word : CharSet)
  | group (body : Regex)
  | times (body : Regex) (least : Nat) (most : Option Nat)
  | seq (first rest : Regex)
  | alt (first rest : Regex)

namespace Assertion

/-- The assertion holds between the character before a position and the one after it; `word` are
the characters of words. Lines end with a line feed, or, for the assertions about any line, with
a carriage return or a line feed or the two together. -/
def holds (a : Assertion) (word : CharSet) (before after : Option Char) : Bool :=
  let inWord := fun c : Option Char => c.any word.contains
  match a with
  | .textStart => before.isNone
  | .textEnd => after.isNone
  | .lineStart => before.isNone || before == some '\n'
  | .lineEnd => after.isNone || after == some '\n'
  | .anyLineStart =>
    before.isNone || before == some '\n' || (before == some '\r' && after != some '\n')
  | .anyLineEnd =>
    after.isNone || after == some '\r' || (after == some '\n' && before != some '\r')
  | .wordBoundary => inWord before != inWord after
  | .noWordBoundary => inWord before == inWord after
  | .wordStart => !inWord before && inWord after
  | .wordEnd => inWord before && !inWord after
  | .wordStartHalf => !inWord before
  | .wordEndHalf => !inWord after

end Assertion

namespace Regex

/-! ### Lists of positions -/

/-- The positions of either list. -/
def merge : List Nat → List Nat → List Nat
  | [], qs => qs
  | ps, [] => ps
  | p :: ps, q :: qs =>
    if p < q then p :: merge ps (q :: qs)
    else if q < p then q :: merge (p :: ps) qs
    else p :: merge ps qs
  termination_by ps qs => ps.length + qs.length

/-- The positions of the first list that are not in the second. -/
def without : List Nat → List Nat → List Nat
  | [], _ => []
  | ps, [] => ps
  | p :: ps, q :: qs =>
    if p < q then p :: without ps (q :: qs)
    else if q < p then without (p :: ps) qs
    else without ps qs
  termination_by ps qs => ps.length + qs.length

/-- Applies a step a fixed number of times, or until it changes nothing. -/
def iterate (step : List Nat → List Nat) : Nat → List Nat → List Nat
  | 0, positions => positions
  | n + 1, positions =>
    let next := step positions
    if next == positions then positions else iterate step n next

/-- The positions reached so far, and those that at most `n` further steps reach from the latest
of them. -/
def gather (step : List Nat → List Nat) : Nat → List Nat → List Nat → List Nat
  | 0, reached, _ => reached
  | n + 1, reached, latest =>
    let new := without (step latest) reached
    if new.isEmpty then reached else gather step n (merge reached new) new

/-! ### Matching -/

/-- The text `t` stands at a position of a text. -/
def standsAt (text : Array Char) : Text → Nat → Bool
  | [], _ => true
  | c :: rest, p => text[p]? == some c && standsAt text rest (p + 1)

/-- The positions to which an expression leads from some of the given ones. A repetition needs no
more turns beyond the required ones than the text has positions, since a turn that consumes
nothing can be left out. -/
def reach (text : Array Char) : Regex → List Nat → List Nat
  | .empty, positions => positions
  | .literal t, positions => (positions.filter (standsAt text t)).map (· + t.length)
  | .chars set, positions =>
    positions.filterMap fun p => if text[p]?.any set.contains then some (p + 1) else none
  | .assertion a word, positions =>
    positions.filter fun p =>
      a.holds word (if p = 0 then none else text[p - 1]?) text[p]?
  | .group body, positions => body.reach text positions
  | .times body least most, positions =>
    let turns := match most with
      | some n => min (n - least) (text.size + 1)
      | none => text.size + 1
    let required := iterate (body.reach text) least positions
    gather (body.reach text) turns required required
  | .seq first rest, positions => rest.reach text (first.reach text positions)
  | .alt first rest, positions => merge (first.reach text positions) (rest.reach text positions)

/-- The expression matches some part of the text. -/
def isMatch (r : Regex) (t : Text) : Bool :=
  !(r.reach t.toArray (List.range (t.length + 1))).isEmpty

end Regex

end QueryFilter
