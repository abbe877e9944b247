import QueryFilter.Pattern.Compile

/-!
# Caches of patterns

A `PatternCache` keeps patterns that were read, by their sources, the newest first.  It may drop
any of them at any time: which ones are left at each use is up to its `Retention`.
`PatternCache.find` looks a pattern up and reads it if it is not there.
-/

namespace QueryFilter

/-- Which entries are left in a cache at its uses: given the number of uses before and the place of
an entry. -/
abbrev Retention := Nat → Nat → Bool

/-- The newest entries are left, as many as the capacity allows for. -/
def Retention.newest (capacity : Nat) : Retention := fun _ place => place < capacity

/-- Patterns by their sources. -/
structure PatternCache where
  retention : Retention
  uses : Nat := 0
  entries : List (Text × Regex) := []

namespace PatternCache

/-- The cache at its next use, without the entries dropped since the one before. -/
def next (c : PatternCache) : PatternCache :=
  { c with
    uses := c.uses + 1
    entries := (c.entries.zipIdx.filter fun e => c.retention c.uses e.2).map (·.1) }

/-- The pattern that is kept for a source, or else the one that is read from it, which is kept from
now on.  Nothing is kept for a source that is no pattern. -/
def find (read : Text → Option Regex) (source : Text) : StateM PatternCache (Option Regex) :=
  fun c =>
    match c.next.entries.lookup source with
    | some r => (some r, c.next)
    | none =>
      match read source with
      | some r => (some r, { c.next with entries := (source, r) :: c.next.entries })
      | none => (none, c.next)

end PatternCache

end QueryFilter
