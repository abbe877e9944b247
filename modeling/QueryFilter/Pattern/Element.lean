import QueryFilter.Pattern.Flags
import QueryFilter.Pattern.Property.Named

/-!
# Elements of patterns

The smallest parts of a pattern: a literal character, plain or escaped, an assertion, or the name
of a set of characters.  `escape?` reads what follows a backslash.
-/

namespace QueryFilter.Pattern

/-- An element of a pattern. A literal given by two hexadecimal digits means a byte where the
elements are bytes. -/
inductive Element where
  | literal (c : Char) (byte : Bool)
  | assertion (a : Assertion)
  | set (s : CharSet)

/-- The characters with a meaning of their own, which a backslash takes from them. -/
def isMeta (c : Char) : Bool := "\\.+*?()|[]\x7b\x7d^$#&-~".toList.contains c

/-- The characters before which a backslash may stand and means nothing: what is ASCII and
neither letter nor digit nor an angle bracket. -/
def isEscapable (c : Char) : Bool :=
  isMeta c || (c.toNat < 0x80 && !c.isAlphanum && c != '<' && c != '>')

/-! ### Hexadecimal digits -/

/-- The character with a code point, if there is one. -/
def char? (n : Nat) : Option Char := if n.isValidChar then some (Char.ofNat n) else none

/-- Reads a fixed number of hexadecimal digits, ignored characters in between. -/
def hexFixed? (flags : Flags) : Nat → Nat → Text → Option (Nat × Text)
  | 0, n, t => some (n, t)
  | count + 1, n, t =>
    match t with
    | [] => none
    | c :: rest => do
      let d ← Text.hexDigit? c
      hexFixed? flags count (16 * n + d) (flags.skip rest)

/-- Reads hexadecimal digits, at least one, up to a closing brace, ignored characters in between;
`t` has at most `fuel` characters. -/
def hexBraced? (flags : Flags) : Nat → Option Nat → Text → Option (Nat × Text)
  | 0, _, _ => none
  | fuel + 1, n, t =>
    match t with
    | [] => none
    | c :: rest =>
      if c = '\x7d' then n.map (·, flags.skip rest)
      else do
        let d ← Text.hexDigit? c
        hexBraced? flags fuel (some (16 * n.getD 0 + d)) (flags.skip rest)

/-- Reads the code point after `\x`, `\u` or `\U`: digits in braces, or two, four or eight
digits; `t` has at most `fuel` characters. -/
def hexLiteral? (flags : Flags) (fuel : Nat) (letter : Char) (t : Text) :
    Option (Element × Text) :=
  match flags.skip t with
  | '\x7b' :: rest => do
    let (n, rest) ← hexBraced? flags fuel none (flags.skip rest)
    let c ← char? n
    some (.literal c false, rest)
  | digits => do
    let count := if letter = 'x' then 2 else if letter = 'u' then 4 else 8
    let (n, rest) ← hexFixed? flags count 0 digits
    let c ← char? n
    some (.literal c (letter == 'x'), rest)

/-! ### Properties -/

/-- The characters up to a closing brace, without the ignored ones; `t` has at most `fuel`
characters. -/
def braced? (flags : Flags) : Nat → Text → Text → Option (Text × Text)
  | 0, _, _ => none
  | fuel + 1, done, t =>
    match flags.skip t with
    | [] => none
    | c :: rest =>
      if c = '\x7d' then some (done, rest) else braced? flags fuel (done ++ [c]) rest

/-- The parts of a text before and after the first occurrence of a separator. -/
def cut? (separator : Text) : Text → Option (Text × Text)
  | [] => none
  | c :: rest =>
    match Text.after? separator (c :: rest) with
    | some tail => some ([], tail)
    | none => (cut? separator rest).map fun (head, tail) => (c :: head, tail)

/-- The set of a property by its name, or by its name and value, and whether the complement is
meant: a value follows an equals sign or a colon, or `!=` for the characters with any other. -/
def property? (name : Text) : Option (Bool × CharSet) :=
  match cut? "!=".toList name, cut? [':'] name <|> cut? ['='] name with
  | some (property, value), _ => (Property.valued? property value).map (true, ·)
  | none, some (property, value) => (Property.valued? property value).map (false, ·)
  | none, none => (Property.named? name).map (false, ·)

/-- Reads the property after `\p`, or after `\P` for its complement: one letter, or a name in
braces; `t` has at most `fuel` characters. -/
def propertySet? (flags : Flags) (fuel : Nat) (negated : Bool) (t : Text) :
    Option (Element × Text) := do
  let (name, rest) ← match flags.skip t with
    | [] => none
    | '\\' :: _ => none
    | '\x7b' :: rest => braced? flags fuel [] rest
    | c :: rest => some ([c], flags.skip rest)
  let (otherValue, s) ← property? name
  if flags.unicode then some (.set ((flags.fold s).complIf (negated != otherValue)), rest)
  else none

/-! ### Escapes -/

/-- The assertions about words that go by a name in braces. -/
def wordAssertion? (name : Text) : Option Assertion :=
  match String.ofList name with
  | "start" => some .wordStart
  | "end" => some .wordEnd
  | "start-half" => some .wordStartHalf
  | "end-half" => some .wordEndHalf
  | _ => none

/-- A character of the name of an assertion about words. -/
def isAssertionChar (c : Char) : Bool := c.isAlpha || c == '-'

/-- Reads the name of an assertion about words up to the closing brace; `t` has at most `fuel`
characters. -/
def assertionName? (flags : Flags) : Nat → Text → Text → Option (Text × Text)
  | 0, _, _ => none
  | fuel + 1, done, t =>
    match t with
    | [] => none
    | c :: rest =>
      if c = '\x7d' then some (done, rest)
      else if isAssertionChar c then assertionName? flags fuel (done ++ [c]) (flags.skip rest)
      else none

/-- Reads what follows `\b`: nothing, or the name of an assertion in braces. A brace that no such
name follows is left to be read as a repetition. There are at most `fuel` characters in `t`. -/
def boundary? (flags : Flags) (fuel : Nat) (t : Text) : Option (Element × Text) :=
  match t with
  | '\x7b' :: rest =>
    match flags.skip rest with
    | [] => none
    | c :: name =>
      if isAssertionChar c then do
        let (name, rest) ← assertionName? flags fuel [] (c :: name)
        let a ← wordAssertion? name
        some (.assertion a, rest)
      else some (.assertion .wordBoundary, t)
  | _ => some (.assertion .wordBoundary, t)

/-- The control characters that have an escape of one letter. -/
def controlEscape? (letter : Char) : Option Char :=
  match letter with
  | 'a' => some '\x07'
  | 'f' => some '\x0c'
  | 't' => some '\t'
  | 'n' => some '\n'
  | 'r' => some '\r'
  | 'v' => some '\x0b'
  | _ => none

/-- The assertions that have an escape of one character. -/
def assertionEscape? (letter : Char) : Option Assertion :=
  match letter with
  | 'A' => some .textStart
  | 'z' => some .textEnd
  | 'B' => some .noWordBoundary
  | '<' => some .wordStart
  | '>' => some .wordEnd
  | _ => none

/-- Reads the element after a backslash; `t` has at most `fuel` characters. -/
def escape? (flags : Flags) (fuel : Nat) (t : Text) : Option (Element × Text) :=
  match t with
  | [] => none
  | c :: rest =>
    if c = 'x' ∨ c = 'u' ∨ c = 'U' then hexLiteral? flags fuel c rest
    else if c = 'p' ∨ c = 'P' then propertySet? flags fuel (c == 'P') rest
    else if "dswDSW".toList.contains c then
      (flags.classLetter? c).map fun s => (.set s, rest)
    else if isEscapable c then some (.literal c false, rest)
    else if c = 'b' then boundary? flags fuel rest
    else match controlEscape? c, assertionEscape? c with
      | some control, _ => some (.literal control false, rest)
      | _, some a => some (.assertion a, rest)
      | _, _ => none

/-- The character that a literal means, if it means one: a byte beyond ASCII, where the elements
are bytes, is none. -/
def literal? (flags : Flags) (c : Char) (byte : Bool) : Option Char :=
  if byte && !flags.unicode && c.toNat > 0x7F then none else some c

end QueryFilter.Pattern
