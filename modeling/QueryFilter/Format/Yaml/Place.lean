import QueryFilter.Text.Basic

/-!
# Places in YAML documents

A `Place` is what is left of a document, with the line and the column at which it begins.  Lines
end at line breaks, of which there are several; `Place.gap?` reads the blanks and line breaks
between two words of a scalar, and `Gap.folded` says what they amount to.
-/

namespace QueryFilter.Yaml

/-! ### Characters -/

/-- A character that may occur in a document. -/
def isAllowed (c : Char) : Bool :=
  let n := c.toNat
  n == 0x09 || n == 0x0A || n == 0x0D || (0x20 ≤ n && n ≤ 0x7E) || n == 0x85
    || (0xA0 ≤ n && n ≤ 0xFFFD) || 0x10000 ≤ n

/-- A blank. -/
def isBlank (c : Char) : Bool := c == ' ' || c == '\t'

/-- A line break, or the first character of one. -/
def isBreak (c : Char) : Bool :=
  c == '\n' || c == '\r' || c == '\x85' || c == '\u2028' || c == '\u2029'

/-- A blank or a line break. -/
def isSpace (c : Char) : Bool := isBlank c || isBreak c

/-- The text is at its end, or a blank or a line break follows. -/
def atSpace : Text → Bool
  | [] => true
  | c :: _ => isSpace c

/-- The character that a line break stands for within a scalar: a line feed, or one of the
separators of lines and paragraphs. -/
def breakChar (c : Char) : Char := if c == '\u2028' || c == '\u2029' then c else '\n'

/-- A character of the names of anchors, directives and the like. -/
def isNameChar (c : Char) : Bool := c.isAlphanum || c == '_' || c == '-'

/-! ### Places -/

/-- What is left of a document, from a column of a line on. -/
structure Place where
  rest : Text
  line : Nat
  column : Nat

namespace Place

/-- The place `n` characters later on the same line. -/
def skip (p : Place) (n : Nat) : Place := { p with rest := p.rest.drop n, column := p.column + n }

/-- The place on the same line where `rest` is left. -/
def upTo (p : Place) (rest : Text) : Place :=
  ⟨rest, p.line, p.column + (p.rest.length - rest.length)⟩

/-- The place after the characters with a property. -/
def skipWhile (p : Place) (keep : Char → Bool) : Place := p.upTo (p.rest.dropWhile keep)

/-- The place after a line break, if there is one. -/
def newline (p : Place) : Place :=
  match p.rest with
  | '\r' :: '\n' :: rest => ⟨rest, p.line + 1, 0⟩
  | c :: rest => if isBreak c then ⟨rest, p.line + 1, 0⟩ else p
  | [] => p

/-- A line that marks the beginning or the end of a document stands here. -/
def atMark (p : Place) : Bool :=
  p.column == 0 &&
    match p.rest with
    | '-' :: '-' :: '-' :: rest => atSpace rest
    | '.' :: '.' :: '.' :: rest => atSpace rest
    | _ => false

/-- The place after the blanks and a comment on a line, if nothing else stands there. -/
def lineEnd? (p : Place) : Option Place :=
  let p := p.skipWhile isBlank
  let p := if p.rest.head? = some '#' then p.skipWhile (!isBreak ·) else p
  match p.rest with
  | [] => some p
  | c :: _ => if isBreak c then some p.newline else none

end Place

/-! ### Gaps -/

/-- Blanks on a line, or line breaks with blanks that do not count. -/
structure Gap where
  blanks : Text
  breaks : Text

namespace Gap

/-- Nothing between two words. -/
def none : Gap := ⟨[], []⟩

/-- The gap with a further line break. -/
def withBreak (gap : Gap) (c : Char) : Gap := ⟨[], gap.breaks ++ [c]⟩

/-- The text of a gap: the blanks on a line; a blank for a single line break; and for several line
breaks all but the first one, unless that is a separator. -/
def folded (gap : Gap) : Text :=
  match gap.breaks with
  | [] => gap.blanks
  | ['\n'] => [' ']
  | '\n' :: breaks => breaks
  | breaks => breaks

end Gap

/-- Reads the blanks and line breaks from a column of a line on, after some that have been read. At
the beginning of a line, no tab may stand before the column `least`. -/
def gapFrom? (least : Nat) (gap : Gap) (line column : Nat) : Text → Option (Gap × Place)
  | '\r' :: '\n' :: rest => gapFrom? least (gap.withBreak '\n') (line + 1) 0 rest
  | c :: rest =>
    if isBreak c then gapFrom? least (gap.withBreak (breakChar c)) (line + 1) 0 rest
    else if !isBlank c then some (gap, ⟨c :: rest, line, column⟩)
    else if gap.breaks.isEmpty then
      gapFrom? least { gap with blanks := gap.blanks ++ [c] } line (column + 1) rest
    else if c = '\t' ∧ column < least then none
    else gapFrom? least gap line (column + 1) rest
  | [] => some (gap, ⟨[], line, column⟩)

/-- Reads the blanks and line breaks at a place. -/
def Place.gap? (p : Place) (least : Nat) : Option (Gap × Place) :=
  gapFrom? least Gap.none p.line p.column p.rest

end QueryFilter.Yaml
