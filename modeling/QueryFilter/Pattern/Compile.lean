import QueryFilter.Pattern.Bracket
import QueryFilter.Pattern.Footprint
import QueryFilter.Unicode.Alphanumeric

/-!
# Patterns

A `Pattern` is a text read as a regular expression.  `Pattern.compile?` reads it from left to
right, keeping the groups that are still open on a stack, and refuses what is no pattern, nests
too deeply, or would need too big an automaton.
-/

namespace QueryFilter

namespace Pattern

/-- The most levels of nesting that a pattern may have. -/
def maxNesting : Nat := 250

/-- A finished piece of a pattern: its expression, the levels of nesting, and whether it may be
repeated. -/
structure Piece where
  regex : Regex
  depth : Nat
  repeatable : Bool := true

/-- A group that is still open: whether its match is captured, the finished alternatives and the
pieces of the current one before the group, both the last one first, and the flags to go back
to. -/
structure OpenGroup where
  captured : Bool
  alternatives : List Piece
  pieces : List Piece
  flags : Flags

/-- How far a pattern has been read. -/
structure Progress where
  stack : List OpenGroup
  alternatives : List Piece
  pieces : List Piece
  flags : Flags
  names : List Text

/-! ### Pieces -/

/-- The piece of a literal character. -/
def literalPiece (flags : Flags) (c : Char) : Piece :=
  ⟨.ofSet (CharSet.empty.withChars (flags.variants c)), 0, true⟩

/-- The piece of an assertion. -/
def assertionPiece (flags : Flags) (a : Assertion) : Piece := ⟨.assertion a flags.word, 0, true⟩

/-- The piece of an element. -/
def elementPiece? (flags : Flags) : Element → Option Piece
  | .literal c byte => (literal? flags c byte).map (literalPiece flags)
  | .assertion a => some (assertionPiece flags a)
  | .set s => some ⟨.ofSet s, 0, true⟩

/-- The depth of pieces in a row, the last one first. -/
def rowDepth : List Piece → Nat
  | [] => 0
  | [p] => p.depth
  | ps => ps.foldl (fun d p => max d p.depth) 0 + 1

/-- Pieces one after the other, the last one first, as one piece. -/
def sequence (ps : List Piece) : Piece :=
  ⟨Regex.sequence (ps.reverse.map (·.regex)), rowDepth ps, true⟩

/-- Pieces as alternatives, the last one first, as one piece. -/
def alternation (ps : List Piece) : Piece :=
  ⟨Regex.alternatives (ps.reverse.map (·.regex)), rowDepth ps, true⟩

/-- A piece repeated at least and at most so many times. -/
def repetition (p : Piece) (least : Nat) (most : Option Nat) : Piece :=
  ⟨p.regex.repeated least most, p.depth + 1, true⟩

/-- A group as a piece of its own. -/
def groupPiece (captured : Bool) (p : Piece) : Piece :=
  ⟨if captured then .group p.regex else p.regex, p.depth + 1, true⟩

/-- A setting of flags as a piece, which matches the empty text. -/
def flagPiece : Piece := ⟨.empty, 0, false⟩

namespace Progress

/-- Adds a piece. -/
def add (s : Progress) (p : Piece) : Progress := { s with pieces := p :: s.pieces }

/-- The pattern or group read so far, as one piece. -/
def finished (s : Progress) : Piece := alternation (sequence s.pieces :: s.alternatives)

/-- Begins the next alternative. -/
def nextAlternative (s : Progress) : Progress :=
  { s with alternatives := sequence s.pieces :: s.alternatives, pieces := [] }

/-- Opens a group with its flags. -/
def openGroup (s : Progress) (captured : Bool) (flags : Flags) : Progress :=
  { s with
    stack := ⟨captured, s.alternatives, s.pieces, s.flags⟩ :: s.stack
    alternatives := []
    pieces := []
    flags := flags }

/-- Closes the innermost group. -/
def closeGroup? (s : Progress) : Option Progress :=
  match s.stack with
  | [] => none
  | g :: stack =>
    some { s with
      stack := stack
      alternatives := g.alternatives
      pieces := groupPiece g.captured s.finished :: g.pieces
      flags := g.flags }

/-- Replaces the last piece by a repetition of it. -/
def repeatLast? (s : Progress) (least : Nat) (most : Option Nat) : Option Progress :=
  match s.pieces with
  | p :: ps =>
    if p.repeatable then some { s with pieces := repetition p least most :: ps } else none
  | [] => none

end Progress

/-! ### Groups -/

/-- Reads the letters of a setting of flags up to a colon or a closing parenthesis: the flags, the
character that ends them, and whether there was no letter. `on` says whether the letters turn
flags on, `seen` are the letters so far, the last one first. -/
def flagLetters? (flags : Flags) (on : Bool) (seen : Text) :
    Text → Option (Flags × Char × Bool × Text)
  | [] => none
  | c :: rest =>
    if c = ':' ∨ c = ')' then
      if seen.head? = some '-' then none else some (flags, c, seen.isEmpty, rest)
    else if seen.contains c then none
    else if c = '-' then flagLetters? flags false (c :: seen) rest
    else do flagLetters? (← flags.set? c on) on (c :: seen) rest

/-- A character of the name of a group. -/
def isNameChar (first : Bool) (c : Char) : Bool :=
  c == '_' || if first then Unicode.isAlphabetic c
    else Unicode.isAlphanumeric c || c == '.' || c == '[' || c == ']'

/-- Reads the name of a group up to the closing angle bracket. -/
def groupName? (t : Text) : Option (Text × Text) :=
  let name := t.takeWhile (· != '>')
  match t.dropWhile (· != '>'), name with
  | _ :: rest, c :: cs =>
    if isNameChar true c && cs.all (isNameChar false) then some (name, rest) else none
  | _, _ => none

/-- Reads what follows an opening parenthesis. -/
def group? (s : Progress) (t : Text) : Option (Progress × Text) :=
  let t := s.flags.skip t
  let named := fun (rest : Text) => do
    let (name, rest) ← groupName? rest
    if s.names.contains name then none
    else some ({ s.openGroup true s.flags with names := name :: s.names }, rest)
  match t with
  | '?' :: '=' :: _ => none
  | '?' :: '!' :: _ => none
  | '?' :: '<' :: '=' :: _ => none
  | '?' :: '<' :: '!' :: _ => none
  | '?' :: 'P' :: '<' :: rest => named rest
  | '?' :: '<' :: rest => named rest
  | '?' :: rest => do
    let (flags, close, noLetters, rest) ← flagLetters? s.flags true [] rest
    if close = ':' then some (s.openGroup false flags, rest)
    else if noLetters then none
    else some ({ s.add flagPiece with flags := flags }, rest)
  | _ => some (s.openGroup true s.flags, t)

/-! ### Repetitions -/

/-- Reads the digits of a count with the blanks around it, within braces; `t` has at most `fuel`
characters. -/
def count? (flags : Flags) (fuel : Nat) (t : Text) : Option Nat × Text :=
  let (digits, rest) := countDigits fuel [] t.trimStart
  let n := Nat.ofDigitChars 10 digits 0
  (if digits.isEmpty ∨ UInt32.size ≤ n then none else some n, afterCount fuel rest)
where
  /-- The digits at the beginning of a text, ignored characters in between. -/
  countDigits : Nat → Text → Text → Text × Text
    | fuel + 1, done, c :: rest =>
      if c.isDigit then countDigits fuel (done ++ [c]) (flags.skip rest) else (done, c :: rest)
    | _, done, t => (done, t)
  /-- What follows the blanks after a count, ignored characters left out. -/
  afterCount : Nat → Text → Text
    | fuel + 1, c :: rest =>
      if Text.isBlankChar c then afterCount fuel (flags.skip rest) else c :: rest
    | _, t => t

/-- Skips the question mark after a repetition, which prefers short matches. -/
def skipLazy : Text → Text
  | '?' :: rest => rest
  | t => t

/-- Reads a count of repetitions after its opening brace: the least and the most; `t` has at most
`fuel` characters. -/
def counts? (flags : Flags) (fuel : Nat) (t : Text) : Option (Nat × Option Nat × Text) :=
  let (least, t) := count? flags fuel (flags.skip t)
  match t with
  | ',' :: rest =>
    match flags.skip rest with
    | '\x7d' :: rest => least.map (·, none, rest)
    | rest =>
      let (most, t) := count? flags fuel rest
      match least, most, t with
      | some least, some most, '\x7d' :: rest =>
        if least ≤ most then some (least, some most, rest) else none
      | _, _, _ => none
  | '\x7d' :: rest => least.map fun n => (n, some n, rest)
  | _ => none

/-! ### The whole -/

/-- Reads the next part of a pattern, which begins with the character `c`; less than `fuel`
characters are left. -/
def step? (s : Progress) (fuel : Nat) (c : Char) (rest : Text) : Option (Progress × Text) :=
  match c with
  | '(' => group? s rest
  | ')' => s.closeGroup?.map (·, rest)
  | '|' => some (s.nextAlternative, rest)
  | '[' => (bracket? s.flags fuel rest).map fun (part, rest) =>
      (s.add ⟨.ofSet part.set, part.depth, true⟩, rest)
  | '?' => (s.repeatLast? 0 (some 1)).map (·, skipLazy rest)
  | '*' => (s.repeatLast? 0 none).map (·, skipLazy rest)
  | '+' => (s.repeatLast? 1 none).map (·, skipLazy rest)
  | '\x7b' => do
    let (least, most, rest) ← counts? s.flags fuel rest
    let s' ← s.repeatLast? least most
    some (s', skipLazy (s.flags.skip rest))
  | '\\' => do
    let (e, rest) ← escape? s.flags fuel rest
    let p ← elementPiece? s.flags e
    some (s.add p, rest)
  | '.' => s.flags.dot?.map fun set => (s.add ⟨.ofSet set, 0, true⟩, rest)
  | '^' => some (s.add (assertionPiece s.flags s.flags.caret), rest)
  | '$' => some (s.add (assertionPiece s.flags s.flags.dollar), rest)
  | c => some (s.add (literalPiece s.flags c), rest)

/-- Reads the rest of a pattern, which has less than `fuel` characters; every part has at least
one. -/
def run? : Nat → Progress → Text → Option Progress
  | 0, _, _ => none
  | fuel + 1, s, t =>
    match s.flags.skip t with
    | [] => some s
    | c :: rest =>
      match step? s fuel c rest with
      | some (s, rest) => run? fuel s rest
      | none => none

/-- The piece does not nest too deeply, and the automata for it are not too big. -/
def withinLimits (p : Piece) : Bool := p.depth ≤ maxNesting && p.regex.fits

/-- Reads a pattern with the given flags in force. -/
def read? (flags : Flags) (source : Text) : Option Regex :=
  match run? (source.length + 1) ⟨[], [], [], flags, []⟩ source with
  | some s => if s.stack.isEmpty && withinLimits s.finished then some s.finished.regex else none
  | none => none

end Pattern

/-- A text with the regular expression that it spells. -/
structure Pattern where
  source : Text
  regex : Regex

namespace Pattern

/-- Reads a text as a pattern. -/
def compile? (source : Text) : Option Pattern := (read? {} source).map (⟨source, ·⟩)

/-- Some part of the text matches the pattern. -/
def isMatch (p : Pattern) (t : Text) : Bool := p.regex.isMatch t

end Pattern

end QueryFilter
