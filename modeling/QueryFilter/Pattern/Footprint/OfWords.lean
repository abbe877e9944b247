import QueryFilter.Pattern.Footprint.Basic

/-!
# Footprints of alternatives of literals

An automaton for several literals reads them along a tree, in which literals share the states for
the bytes that they begin with.  Literals that end before others begin divide those: the
earlier alternatives of a place in the tree do not share states with the later ones.
-/

namespace QueryFilter.Pattern.Footprint

/-- The parts of a list of words between the empty ones. -/
def groups (current : List (List UInt8)) : List (List UInt8) → List (List (List UInt8))
  | [] => [current.reverse]
  | [] :: rest => current.reverse :: groups [] rest
  | word :: rest => groups (word :: current) rest

/-- The words that begin with a byte, without that byte. -/
def after (b : UInt8) (words : List (List UInt8)) : List (List UInt8) :=
  words.filterMap fun
    | [] => none
    | c :: rest => if b = c then some rest else none

/-- The words without repetitions of the empty word in front. -/
def dropRepeatedEnds : List (List UInt8) → List (List UInt8)
  | [] :: [] :: rest => dropRepeatedEnds ([] :: rest)
  | words => words

/-- The automaton with the states that read on from a place in the tree, where the given words are
left to be read, none of which has `fuel` bytes or more. A place where nothing is left to be read
needs no states of its own. -/
def addTree (f : Footprint) : Nat → List (List UInt8) → Footprint
  | 0, _ => f
  | fuel + 1, words =>
    if words.all List.isEmpty then f
    else
      let words := dropRepeatedEnds words
      let parts := (groups [] words).filter (!·.isEmpty)
      let ends := (words.filter List.isEmpty).length
      parts.foldl
        (fun f part =>
          let bytes := (part.filterMap List.head?).eraseDups
          bytes.foldl (fun f b => addTree f fuel (after b part))
            (f.add 1 (if bytes.length < 2 then 0 else edgeBytes * bytes.length)))
        (f.add 1 (linkBytes * (parts.length + ends)))

/-- The automaton with the states for any of the words. -/
def addWords (f : Footprint) (words : List (List UInt8)) : Footprint :=
  addTree (f.add 1 0) (words.foldl (fun n word => max n word.length) 0 + 1) words

end QueryFilter.Pattern.Footprint
