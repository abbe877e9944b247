import QueryFilter.Pattern.Element

/-!
# Bracketed sets

Sets of characters in brackets: single characters, ranges, named sets and nested brackets side
by side, joined by the set operators `&&`, `--` and `~~`.  `bracket?` reads one, keeping the
brackets that are still open on a stack.
-/

namespace QueryFilter.Pattern

/-- A set with the number of brackets, unions and operators that are nested in it. -/
structure Part where
  set : CharSet
  depth : Nat

/-- The part of one character. -/
def Part.single (c : Char) : Part := ⟨CharSet.single c, 0⟩

/-- The operators between sets in brackets. -/
inductive SetOperator where
  | inter
  | diff
  | symmDiff

/-- The value of a set operator. -/
def SetOperator.apply : SetOperator → CharSet → CharSet → CharSet
  | .inter => CharSet.inter
  | .diff => CharSet.diff
  | .symmDiff => CharSet.symmDiff

/-- What is still unfinished around the current parts: a bracket with the parts before it, or an
operator with its left operand. -/
inductive Unfinished where
  | bracket (negated : Bool) (before : List Part)
  | operator (op : SetOperator) (left : Part)

/-- The union of parts that stand side by side, the last one first. -/
def unite : List Part → Part
  | [] => ⟨CharSet.empty, 0⟩
  | [p] => p
  | p :: ps =>
    ⟨CharSet.unions ((p :: ps).map (·.set)), (ps.foldl (max · ·.depth) p.depth) + 1⟩

/-- Applies the operator on top of the stack, if there is one, to its right operand. -/
def applyOperator (flags : Flags) : List Unfinished → Part → List Unfinished × Part
  | .operator op left :: stack, right =>
    (stack, ⟨op.apply (flags.fold left.set) (flags.fold right.set),
      max left.depth right.depth + 1⟩)
  | stack, right => (stack, right)

/-! ### Parts -/

/-- The characters that stand for themselves at the beginning of a bracket, and the rest: any
number of hyphens, or a closing bracket; `t` has at most `fuel` characters. -/
def leading? (flags : Flags) : Nat → List Part → Text → Option (List Part × Text)
  | 0, _, _ => none
  | fuel + 1, parts, t =>
    match t with
    | [] => none
    | c :: rest =>
      if c = '-' then leading? flags fuel (Part.single '-' :: parts) (flags.skip rest)
      else if c = ']' ∧ parts.isEmpty then
        match flags.skip rest with
        | [] => none
        | rest => some ([Part.single ']'], rest)
      else some (parts, t)

/-- Reads what follows an opening bracket: whether the set is a complement, and the leading
parts; `t` has at most `fuel` characters. -/
def openBracket? (flags : Flags) (fuel : Nat) (t : Text) : Option (Bool × List Part × Text) :=
  match flags.skip t with
  | '^' :: rest => (leading? flags fuel [] (flags.skip rest)).map (true, ·)
  | rest => (leading? flags fuel [] rest).map (false, ·)

/-- Reads a named set after its opening bracket, as in `[:^alpha:]`: whether it is a complement,
and the set. -/
def namedSet? (t : Text) : Option (Bool × CharSet × Text) := do
  let t ← Text.after? [':'] t
  let (negated, t) := match t with
    | '^' :: rest => (true, rest)
    | _ => (false, t)
  let name := t.takeWhile (· != ':')
  let rest ← Text.after? ":]".toList (t.dropWhile (· != ':'))
  let set ← Property.asciiNamed? name
  some (negated, set, rest)

/-- Reads one element within brackets, where at most `fuel` characters are left. -/
def setElement? (flags : Flags) (fuel : Nat) : Text → Option (Element × Text)
  | [] => none
  | '\\' :: rest => escape? flags fuel rest
  | c :: rest => some (.literal c false, rest)

/-- The character that an element within brackets means. -/
def setLiteral? (flags : Flags) : Element → Option Char
  | .literal c byte =>
    if !flags.unicode && c.toNat > 0x7F then none else literal? flags c byte
  | _ => none

/-- An element within brackets as a part of its own. -/
def elementPart? (flags : Flags) : Element → Option Part
  | .set s => some ⟨s, 0⟩
  | e => (setLiteral? flags e).map Part.single

/-- The next character that is not ignored, or the next one if there is none; in a comment every
character counts. -/
def peekIgnored (comment : Bool) : Text → Option Char
  | [] => none
  | c :: rest =>
    if Text.isBlankChar c then peekIgnored comment rest
    else if !comment && c == '#' then peekIgnored true rest
    else some c

/-- The character after the current one, ignored characters left out. -/
def peek (flags : Flags) (t : Text) : Option Char :=
  if flags.extended then peekIgnored false t <|> t.head? else t.head?

/-- Reads an element or a range of characters. A hyphen makes a range unless a closing bracket or
another hyphen follows it. There are at most `fuel` characters in `t`. -/
def range? (flags : Flags) (fuel : Nat) (t : Text) : Option (Part × Text) := do
  let (first, t) ← setElement? flags fuel t
  match flags.skip t with
  | [] => none
  | '-' :: rest =>
    if peek flags rest = some ']' ∨ peek flags rest = some '-' then
      (elementPart? flags first).map (·, '-' :: rest)
    else do
      let (last, t) ← setElement? flags fuel (flags.skip rest)
      let lo ← setLiteral? flags first
      let hi ← setLiteral? flags last
      if lo.toNat ≤ hi.toNat then some (⟨CharSet.range lo hi, 0⟩, t) else none
  | t => (elementPart? flags first).map (·, t)

/-! ### Brackets -/

/-- The set of a bracket from the set of its contents. -/
def closeBracket? (flags : Flags) (negated : Bool) (contents : Part) : Option Part :=
  (flags.negate? negated (flags.fold contents.set)).map (⟨·, contents.depth + 1⟩)

/-- Puts an operator on the stack, with the parts so far as its left operand. -/
def pushOperator (flags : Flags) (op : SetOperator) (stack : List Unfinished)
    (parts : List Part) : List Unfinished :=
  let (stack, left) := applyOperator flags stack (unite parts)
  .operator op left :: stack

/-- Reads the contents of a bracket up to its end, given what is unfinished and the parts of the
innermost bracket so far, the last one first; `t` has less than `fuel` characters. -/
def bracketFrom? (flags : Flags) : Nat → List Unfinished → List Part → Text → Option (Part × Text)
  | 0, _, _, _ => none
  | fuel + 1, stack, parts, t =>
    match flags.skip t with
    | [] => none
    | '[' :: rest =>
      match namedSet? rest with
      | some (negated, set, rest) => do
        let set ← flags.negate? negated (flags.fold set)
        bracketFrom? flags fuel stack (⟨set, 0⟩ :: parts) rest
      | none => do
        let (negated, leading, rest) ← openBracket? flags fuel rest
        bracketFrom? flags fuel (.bracket negated parts :: stack) leading rest
    | ']' :: rest =>
      match applyOperator flags stack (unite parts) with
      | (.bracket negated before :: stack, contents) => do
        let part ← closeBracket? flags negated contents
        if stack.isEmpty then some (part, rest)
        else bracketFrom? flags fuel stack (part :: before) rest
      | _ => none
    | '&' :: '&' :: rest =>
      bracketFrom? flags fuel (pushOperator flags .inter stack parts) [] rest
    | '-' :: '-' :: rest =>
      bracketFrom? flags fuel (pushOperator flags .diff stack parts) [] rest
    | '~' :: '~' :: rest =>
      bracketFrom? flags fuel (pushOperator flags .symmDiff stack parts) [] rest
    | t => do
      let (part, rest) ← range? flags fuel t
      bracketFrom? flags fuel stack (part :: parts) rest

/-- Reads a bracketed set after its opening bracket; `t` has less than `fuel` characters. -/
def bracket? (flags : Flags) (fuel : Nat) (t : Text) : Option (Part × Text) := do
  let (negated, leading, rest) ← openBracket? flags fuel t
  bracketFrom? flags fuel [.bracket negated []] leading rest

end QueryFilter.Pattern
