import QueryFilter.Pattern.Property.Ascii
import QueryFilter.Pattern.Property.Derived
import QueryFilter.Pattern.Property.Folding
import QueryFilter.Pattern.Regex
import QueryFilter.Text.Blank

/-!
# Flags of patterns

The flags that a pattern may set for the rest of a group or for a group of its own, such as
`(?i)` for ignoring case, and what they make of the elements of a pattern.
-/

namespace QueryFilter.Pattern

/-- The flags in force at a place of a pattern. -/
structure Flags where
  ignoreCase : Bool := false
  multiLine : Bool := false
  dotAll : Bool := false
  anyLineEnd : Bool := false
  unicode : Bool := true
  extended : Bool := false

namespace Flags

/-- Turns the flag with a letter on or off. The letter `U`, which prefers short matches, has no
influence on whether there is a match. -/
def set? (flags : Flags) (letter : Char) (on : Bool) : Option Flags :=
  match letter with
  | 'i' => some { flags with ignoreCase := on }
  | 'm' => some { flags with multiLine := on }
  | 's' => some { flags with dotAll := on }
  | 'R' => some { flags with anyLineEnd := on }
  | 'u' => some { flags with unicode := on }
  | 'x' => some { flags with extended := on }
  | 'U' => some flags
  | _ => none

/-- The set of characters with their case variants, when case is ignored. -/
def fold (flags : Flags) (s : CharSet) : CharSet :=
  if flags.ignoreCase then
    if flags.unicode then Property.foldCase s else Property.foldAsciiCase s
  else s

/-- The set of characters or its complement. Without Unicode, where the elements are bytes, the
complement of a set holds bytes that are no characters, and is refused. -/
def negate? (flags : Flags) (negated : Bool) (s : CharSet) : Option CharSet :=
  if negated && !flags.unicode then none else some (s.complIf negated)

/-- The characters equal to `c`, or equal to it up to case when case is ignored. -/
def variants (flags : Flags) (c : Char) : List Char :=
  if !flags.ignoreCase then [c]
  else if flags.unicode then Property.caseVariants c
  else if c.isAlpha then [c.toLower, c.toUpper]
  else [c]

/-- The characters matched by a dot. -/
def dot? (flags : Flags) : Option CharSet :=
  if !flags.unicode then none
  else if flags.dotAll then some CharSet.full
  else if flags.anyLineEnd then some ((CharSet.empty.withChars ['\n', '\r']).compl)
  else some (CharSet.single '\n').compl

/-- The assertion made by a caret. -/
def caret (flags : Flags) : Assertion :=
  if !flags.multiLine then .textStart else if flags.anyLineEnd then .anyLineStart else .lineStart

/-- The assertion made by a dollar sign. -/
def dollar (flags : Flags) : Assertion :=
  if !flags.multiLine then .textEnd else if flags.anyLineEnd then .anyLineEnd else .lineEnd

/-- The characters of words. -/
def word (flags : Flags) : CharSet :=
  if flags.unicode then Property.word else Property.asciiWord

/-- The set that a class letter, such as `d`, stands for; a capital stands for the complement. -/
def classLetter? (flags : Flags) (letter : Char) : Option CharSet :=
  let set := match letter.toLower with
    | 'd' => if flags.unicode then Property.digit else Property.asciiDigit
    | 's' => if flags.unicode then Property.whiteSpace else Property.asciiBlank
    | _ => flags.word
  flags.negate? letter.isUpper set

end Flags

/-! ### Blanks and comments -/

/-- What follows the blanks and comments at the beginning of a pattern; a comment goes from `#`
to the end of the line. -/
def skipIgnored (comment : Bool) : Text → Text
  | [] => []
  | c :: rest =>
    if comment then skipIgnored (c != '\n') rest
    else if Text.isBlankChar c then skipIgnored false rest
    else if c = '#' then skipIgnored true rest
    else c :: rest

/-- What follows the blanks and comments at the beginning of a pattern, where they are ignored. -/
def Flags.skip (flags : Flags) (t : Text) : Text :=
  if flags.extended then skipIgnored false t else t

end QueryFilter.Pattern
