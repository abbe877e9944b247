import QueryFilter.Pattern.Footprint.Basic
import QueryFilter.Text.ByteRange

/-!
# Footprints of sets of characters

An automaton reads a character of a set byte by byte.  `Footprint.addSet` adds the states that
this takes: two for a set of ASCII characters, and otherwise a network of states for the encodings
of the characters, in which encodings share the states for the bytes at their ends.
-/

namespace QueryFilter.Pattern.Footprint

/-- An edge to a numbered state, which is taken on the bytes of a range. -/
abbrev Edge := ByteRange × Nat

/-- A state that is not finished: its edges, the latest first, and the bytes of one more edge,
the end of which is still open. -/
structure OpenState where
  edges : List Edge
  pending : Option ByteRange

/-- The edges of a state when the end of the open one is known. -/
def OpenState.close (s : OpenState) (next : Nat) : List Edge :=
  match s.pending with
  | some r => (r, next) :: s.edges
  | none => s.edges

/-- An automaton with those of its states that can be used again. -/
structure Network where
  size : Footprint
  known : KnownStates

namespace Network

/-- The number of a state that consists of the given numbers, which is added with the bytes of its
list unless it is known. -/
def state (net : Network) (key : List Nat) (listed : Nat) : Nat × Network :=
  match net.known.get? key with
  | some number => (number, net)
  | none =>
    let number := net.size.states
    (number, ⟨net.size.add 1 listed, net.known.insert key number⟩)

/-! ### Reading forward -/

/-- The number of the state with some edges. -/
def stateWith (net : Network) (edges : List Edge) : Nat × Network :=
  net.state (edges.reverse.flatMap fun (r, next) => [r.lo.toNat, r.hi.toNat, next])
    (edgeBytes * edges.length)

/-- Finishes a chain of open states, of which each leads to the next one and the last one to the
state `target`. -/
def closeAll (net : Network) (target : Nat) : List OpenState → Nat × Network
  | [] => (target, net)
  | s :: rest =>
    let (next, net) := net.closeAll target rest
    net.stateWith (s.close next)

/-- Adds a sequence of ranges of bytes to a chain of open states, whose states it shares as long
as the ranges are the same. -/
def addForward (net : Network) (target : Nat) :
    List OpenState → List ByteRange → List OpenState × Network
  | s :: rest, r :: rs =>
    if s.pending = some r then
      let (rest, net) := net.addForward target rest rs
      (s :: rest, net)
    else
      let (next, net) := net.closeAll target rest
      (⟨s.close next, some r⟩ :: rs.map fun r => ⟨[], some r⟩, net)
  | chain, _ => (chain, net)

/-! ### Reading backward -/

/-- Adds a sequence of ranges of bytes, of which the first leads to the state `target`. -/
def addBackward (net : Network) (target : Nat) : List ByteRange → Network
  | [] => net
  | r :: rs =>
    let (number, net) := net.state [target, r.lo.toNat, r.hi.toNat] 0
    net.addBackward number rs

end Network

/-- The automaton with the states for one character of a set. -/
def addSet (f : Footprint) (dir : Direction) (set : CharSet) : Footprint :=
  if set.isAscii then f.add 2 (edgeBytes * set.ranges.length)
  else
    let sequences := ByteRange.sequences set
    match dir with
    | .forward =>
      let start : List OpenState × Network := ([⟨[], none⟩], ⟨f.add 1 0, .empty 10000⟩)
      let (chain, net) := sequences.foldl
        (fun (chain, net) rs => net.addForward f.states chain rs) start
      (net.closeAll f.states chain).2.size
    | .backward =>
      let start : Network := ⟨f.add 2 (linkBytes * sequences.length), .empty 1000⟩
      (sequences.foldl (fun net rs => net.addBackward (f.states + 1) rs) start).size

end QueryFilter.Pattern.Footprint
