import Std.Data.HashMap
import QueryFilter.Text.Basic

/-!
# Footprints of automata

A pattern is refused when the automaton that searches for its matches would take too much memory,
whether the automaton reads forward or backward.  A `Footprint` counts what makes up the memory:
the states of the automaton, and the bytes of the lists that some of its states keep.  States are
numbered in the order in which they come.
-/

namespace QueryFilter.Pattern

/-- The directions in which an automaton reads a text. -/
inductive Direction where
  | forward
  | backward
  deriving DecidableEq

/-- The number of states of an automaton, and the bytes of the lists in them. -/
structure Footprint where
  states : Nat
  listed : Nat

namespace Footprint

/-- The bytes that every state takes. -/
def stateBytes : Nat := 32

/-- The bytes in the list of a state for each edge with a range of bytes. -/
def edgeBytes : Nat := 8

/-- The bytes in the list of a state for each successor that is reached without reading. -/
def linkBytes : Nat := 4

/-- The most bytes that an automaton may take. -/
def maxBytes : Nat := 10485760

/-- The bytes of an automaton. -/
def bytes (f : Footprint) : Nat := stateBytes * f.states + f.listed

/-- The automaton with further states and bytes in lists. -/
def add (f : Footprint) (states listed : Nat) : Footprint :=
  ⟨f.states + states, f.listed + listed⟩

/-- The automaton with further states and bytes in lists, if it is not too big. -/
def grow? (f : Footprint) (states listed : Nat) : Option Footprint :=
  let g := f.add states listed
  if g.bytes ≤ maxBytes then some g else none

end Footprint

/-! ### Known states -/

/-- The states that an automaton can use again, by what they consist of. There is a fixed number
of slots, and of the states that belong into one slot only the latest is known. -/
structure KnownStates where
  slotCount : Nat
  slots : Std.HashMap Nat (List Nat × Nat)

namespace KnownStates

/-- No known states. -/
def empty (slotCount : Nat) : KnownStates := ⟨slotCount, ∅⟩

/-- The slot of a state that consists of the given numbers. -/
def slot (known : KnownStates) (key : List Nat) : Nat :=
  let mixed := key.foldl (fun h n => (h ^^^ n.toUInt64) * 1099511628211)
    (14695981039346656037 : UInt64)
  mixed.toNat % known.slotCount

/-- The number of a known state by what it consists of. -/
def get? (known : KnownStates) (key : List Nat) : Option Nat :=
  match known.slots[known.slot key]? with
  | some (known, number) => if known = key then some number else none
  | none => none

/-- Makes a state known. -/
def insert (known : KnownStates) (key : List Nat) (number : Nat) : KnownStates :=
  { known with slots := known.slots.insert (known.slot key) (key, number) }

end KnownStates

end QueryFilter.Pattern
