import QueryFilter.Format.Yaml.Place

/-!
# YAML scalars

The forms of scalars: plain, between single or double quotes, and as a block of lines.  Plain and
quoted scalars may go on over several lines, where a line break between two words counts as a
blank.  `indent` is the least column at which the contents of the innermost block begin.
-/

namespace QueryFilter.Yaml

/-! ### Plain scalars -/

/-- Reads a word of a plain scalar. It ends before a colon that a blank follows, and, within
brackets or braces, before a comma, a bracket or a brace, which must not follow a colon. -/
def plainWord? (inFlow : Bool) : Text → Option (Text × Text)
  | [] => some ([], [])
  | c :: rest =>
    if isSpace c then some ([], c :: rest)
    else if inFlow && c == ':' && (rest.head?.any ",?[]\x7b\x7d".toList.contains) then none
    else if (c == ':' && atSpace rest) || (inFlow && ",[]\x7b\x7d".toList.contains c) then
      some ([], c :: rest)
    else (plainWord? inFlow rest).map fun (word, tail) => (c :: word, tail)

/-- Reads the rest of a plain scalar after a gap, which does not count at the end; also says
whether the scalar ends at the beginning of a line. `done` is the text so far, and less than
`fuel` characters are left. -/
def plainFrom? (inFlow : Bool) (indent : Nat) : Nat → Text → Gap → Place →
    Option (Text × Bool × Place)
  | 0, _, _, _ => none
  | fuel + 1, done, gap, p =>
    let finished := (done, !gap.breaks.isEmpty, p)
    if p.atMark || p.rest.head? == some '#' then some finished
    else do
      let (word, rest) ← plainWord? inFlow p.rest
      if word.isEmpty then some finished
      else
        let done := done ++ gap.folded ++ word
        let p := p.upTo rest
        let (gap, q) ← p.gap? indent
        if rest.isEmpty || !atSpace rest then some (done, false, p)
        else if !inFlow && q.column < indent then some (done, !gap.breaks.isEmpty, q)
        else plainFrom? inFlow indent fuel done gap q

/-- Reads a plain scalar. -/
def plain? (inFlow : Bool) (indent : Nat) (p : Place) : Option (Text × Bool × Place) :=
  plainFrom? inFlow indent (p.rest.length + 1) [] Gap.none p

/-! ### Quoted scalars -/

/-- The character after a backslash that stands for another one. -/
def escaped? (c : Char) : Option Char :=
  match c with
  | '0' => some '\x00'
  | 'a' => some '\x07'
  | 'b' => some '\x08'
  | 't' | '\t' => some '\t'
  | 'n' => some '\n'
  | 'v' => some '\x0b'
  | 'f' => some '\x0c'
  | 'r' => some '\r'
  | 'e' => some '\x1b'
  | ' ' => some ' '
  | '"' => some '"'
  | '/' => some '/'
  | '\\' => some '\\'
  | 'N' => some '\x85'
  | '_' => some '\xa0'
  | 'L' => some '\u2028'
  | 'P' => some '\u2029'
  | _ => none

/-- The number of hexadecimal digits after a backslash and a letter. -/
def digitCount? (c : Char) : Option Nat :=
  match c with
  | 'x' => some 2
  | 'u' => some 4
  | 'U' => some 8
  | _ => none

/-- The character with a code point in hexadecimal digits. -/
def codePoint? (digits : Text) : Option Char := do
  let n ← digits.foldlM (fun n c => (Text.hexDigit? c).map (16 * n + ·)) 0
  if n.isValidChar then some (Char.ofNat n) else none

/-- Reads the character after a backslash. -/
def escape? : Text → Option (Char × Text)
  | [] => none
  | c :: rest =>
    match digitCount? c with
    | some count =>
      if rest.length < count then none
      else (codePoint? (rest.take count)).map (·, rest.drop count)
    | none => (escaped? c).map (·, rest)

/-- Reads a word within quotes, up to the closing quote or a blank or line break; less than `fuel`
characters are left. Between double quotes a backslash at the end of a line ends a word too. -/
def quotedWord? (double : Bool) : Nat → Text → Option (Text × Text)
  | 0, _ => none
  | _ + 1, [] => some ([], [])
  | fuel + 1, c :: rest =>
    if isSpace c then some ([], c :: rest)
    else if c = '\'' ∧ !double ∧ rest.head? = some '\'' then
      (quotedWord? double fuel (rest.drop 1)).map fun (word, tail) => ('\'' :: word, tail)
    else if c = if double then '"' else '\'' then some ([], c :: rest)
    else if c = '\\' ∧ double then
      if rest.head?.any isBreak then some ([], c :: rest)
      else do
        let (e, rest) ← escape? rest
        (quotedWord? double fuel rest).map fun (word, tail) => (e :: word, tail)
    else (quotedWord? double fuel rest).map fun (word, tail) => (c :: word, tail)

/-- Reads the rest of a quoted scalar with its closing quote; `done` is the text so far, and less
than `fuel` characters are left. A mark of the beginning or end of a document may not stand
within quotes. -/
def quotedFrom? (double : Bool) : Nat → Text → Place → Option (Text × Place)
  | 0, _, _ => none
  | fuel + 1, done, p =>
    if p.atMark then none
    else do
      let (word, rest) ← quotedWord? double (p.rest.length + 1) p.rest
      let done := done ++ word
      let p := p.upTo rest
      match rest with
      | [] => none
      | '\\' :: _ =>
        let (gap, p) ← (p.skip 1).newline.gap? 0
        quotedFrom? double fuel (done ++ gap.breaks) p
      | c :: _ =>
        if isSpace c then
          let (gap, p) ← p.gap? 0
          quotedFrom? double fuel (done ++ gap.folded) p
        else some (done, p.skip 1)

/-- Reads a quoted scalar after its opening quote. -/
def quoted? (double : Bool) (p : Place) : Option (Text × Place) :=
  quotedFrom? double (p.rest.length + 1) [] p

/-! ### Blocks of lines -/

/-- What a block of lines does with the line breaks at its end. -/
inductive Chomping where
  | strip
  | clip
  | keep

/-- Reads a sign that says what happens to the line breaks at the end of a block. -/
def chomping (p : Place) : Chomping × Place :=
  match p.rest with
  | '-' :: _ => (.strip, p.skip 1)
  | '+' :: _ => (.keep, p.skip 1)
  | _ => (.clip, p)

/-- Reads a digit that says how far a block is indented; zero stands for no digit. -/
def increment? (p : Place) : Option (Nat × Place) :=
  match p.rest with
  | c :: _ =>
    if c = '0' then none
    else if c.isDigit then some (c.toNat - '0'.toNat, p.skip 1)
    else some (0, p)
  | [] => some (0, p)

/-- Reads the sign and the digit after the opening mark of a block, in either order. -/
def blockHeader? (p : Place) : Option (Chomping × Nat × Place) := do
  let (n, q) ← increment? p
  if n = 0 then
    let (chomp, p) := chomping p
    match chomp with
    | .clip => some (.clip, 0, p)
    | chomp =>
      let (n, p) ← increment? p
      some (chomp, n, p)
  else
    let (chomp, p) := chomping q
    some (chomp, n, p)

/-- Skips empty lines and the blanks at the beginning of the first one that is not empty: the line
breaks, the greatest column that the blanks reach, and the place after them. Blanks count up to
the column `indent`, if it is known, and no tab may stand before it; less than `fuel` characters
are left. -/
def emptyLines? (indent : Option Nat) : Nat → Text → Nat → Place → Option (Text × Nat × Place)
  | 0, _, _, _ => none
  | fuel + 1, breaks, widest, p =>
    let before := fun column => indent.all (column < ·)
    let spaces := (p.rest.takeWhile (· == ' ')).length
    let p := p.skip ((indent.map fun n => min spaces (n - p.column)).getD spaces)
    let widest := max widest p.column
    match p.rest with
    | [] => some (breaks, widest, p)
    | c :: _ =>
      if c = '\t' ∧ before p.column then none
      else if isBreak c then
        emptyLines? indent fuel (breaks ++ [breakChar c]) widest p.newline
      else some (breaks, widest, p)

/-- Reads the lines of a block that are indented to the column `indent`; `done` is the text so
far, `first` and `more` the line breaks after it, of which `first` ends a line, and `spaced` says
that this line begins with a blank. Less than `fuel` characters are left. Between two lines of a
folded block that begin with no blank, a line break counts as a blank. -/
def blockLines? (literal : Bool) (chomp : Chomping) (indent : Nat) :
    Nat → Text → Text → Text → Bool → Place → Option (Text × Place)
  | 0, _, _, _, _, _ => none
  | fuel + 1, done, first, more, spaced, p =>
    if p.column != indent || p.rest.isEmpty then
      let tail := match chomp with
        | .strip => []
        | .clip => first
        | .keep => first ++ more
      some (done ++ tail, p)
    else do
      let blank := p.rest.head?.any isBlank
      let gap :=
        if !literal && first == ['\n'] && !spaced && !blank then
          if more.isEmpty then [' '] else more
        else first ++ more
      let line := p.rest.takeWhile (!isBreak ·)
      let p := p.skip line.length
      let first := (p.rest.head?.map breakChar).toList
      let p := p.newline
      let (more, _, p) ← emptyLines? (some indent) (p.rest.length + 1) [] 0 p
      blockLines? literal chomp indent fuel (done ++ gap ++ line) first more blank p

/-- Reads a block of lines after its opening mark. Without a digit, the block is indented like its
first line that is not empty. -/
def block? (literal : Bool) (indent : Nat) (p : Place) : Option (Text × Place) := do
  let (chomp, digit, p) ← blockHeader? p
  let p ← p.lineEnd?
  let known := if digit = 0 then none else some (indent - 1 + digit)
  let (more, widest, p) ← emptyLines? known (p.rest.length + 1) [] 0 p
  let column := known.getD (max widest (max indent 1))
  blockLines? literal chomp column (p.rest.length + 1) [] [] more false p

end QueryFilter.Yaml
