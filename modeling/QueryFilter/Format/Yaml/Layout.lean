import QueryFilter.Format.Yaml.Token

/-!
# The layout of YAML documents

`tokens?` divides a document into tokens and adds those that begin and end the blocks.  A block
begins with the first token that is indented further than the blocks around it, and ends before
the first line that is indented less.  A key is recognized by the colon after it, so that the
place of a token that may turn out to be one is remembered.
-/

namespace QueryFilter.Yaml

/-- A place where a key may have begun: the number of tokens before it, and its position. It is
required when nothing but a key can stand there. -/
structure KeyStart where
  index : Nat
  place : Place
  required : Bool

/-- How far a document has been read: the tokens so far, the last one first, the least columns at
which the contents of the open blocks begin, the innermost one first, the places where a key may
have begun, one for every open bracket and brace and one for the text around them, and whether a
key may begin here. -/
structure Layout where
  place : Place
  tokens : List Token := []
  indents : List Nat := []
  starts : List (Option KeyStart) := [none]
  keyAllowed : Bool := true

namespace Layout

/-- The least column at which the contents of the innermost block begin. -/
def indent (s : Layout) : Nat := s.indents.headD 0

/-- The place is within brackets or braces. -/
def inFlow (s : Layout) : Bool := 1 < s.starts.length

/-- Adds a token that ends at a place. -/
def push (s : Layout) (token : Token) (place : Place) : Layout :=
  { s with tokens := token :: s.tokens, place := place }

/-- Inserts a token after the first `index` ones. -/
def insert (s : Layout) (token : Token) (index : Nat) : Layout :=
  let after := s.tokens.length - index
  { s with tokens := s.tokens.take after ++ token :: s.tokens.drop after }

/-- Begins a block at a column before the token with an index, unless the innermost block is
already there. -/
def openBlock (s : Layout) (token : Token) (column index : Nat) : Layout :=
  if s.inFlow || column < s.indent then s
  else { s.insert token index with indents := (column + 1) :: s.indents }

/-- Ends the blocks whose contents begin after a column. -/
def closeBlocks (s : Layout) (column : Nat) : Layout :=
  if s.inFlow then s
  else
    let ended := s.indents.takeWhile (column + 1 < ·)
    { s with
      tokens := ended.map (fun _ => Token.blockEnd) ++ s.tokens
      indents := s.indents.drop ended.length }

/-- Ends all blocks. -/
def closeAll (s : Layout) : Layout :=
  { s with tokens := s.indents.map (fun _ => Token.blockEnd) ++ s.tokens, indents := [] }

/-! ### Keys -/

/-- Forgets the places where keys may have begun that are on earlier lines or more than 1024
characters away; none of them may be required. -/
def forgetStale? (s : Layout) : Option Layout := do
  let starts ← s.starts.mapM fun start? =>
    match start? with
    | none => some none
    | some k =>
      if k.place.line < s.place.line || s.place.rest.length + 1024 < k.place.rest.length then
        if k.required then none else some none
      else some (some k)
  some { s with starts := starts }

/-- Forgets where a key may have begun, which must not be required. -/
def forgetStart? (s : Layout) : Option Layout :=
  match s.starts with
  | some k :: starts => if k.required then none else some { s with starts := none :: starts }
  | _ => some s

/-- Remembers that a key may begin here, if it may. -/
def saveStart? (s : Layout) : Option Layout :=
  if s.keyAllowed then do
    let s ← s.forgetStart?
    let required := !s.inFlow && s.indent == s.place.column + 1
    some { s with starts := some ⟨s.tokens.length, s.place, required⟩ :: s.starts.drop 1 }
  else some s

/-! ### Tokens -/

/-- Adds a token after which no key may begin on the same line; it may begin one itself. -/
def pushNode? (s : Layout) (read : Place → Option (Token × Place)) : Option Layout := do
  let s ← s.saveStart?
  let (token, place) ← read s.place
  some { s.push token place with keyAllowed := false }

/-- Adds the mark of the beginning or end of a document, or a directive. -/
def pushOutside? (s : Layout) (read : Place → Option (Token × Place)) : Option Layout := do
  let s ← s.closeAll.forgetStart?
  let (token, place) ← read s.place
  some { s.push token place with keyAllowed := false }

/-- Adds an opening bracket or brace. -/
def pushOpen? (s : Layout) (token : Token) : Option Layout := do
  let s ← s.saveStart?
  some { s.push token (s.place.skip 1) with starts := none :: s.starts, keyAllowed := true }

/-- Adds a closing bracket or brace. -/
def pushClose? (s : Layout) (token : Token) : Option Layout := do
  let s ← s.forgetStart?
  some { s.push token (s.place.skip 1) with
    starts := if s.inFlow then s.starts.drop 1 else s.starts
    keyAllowed := false }

/-- Adds a comma. -/
def pushComma? (s : Layout) : Option Layout := do
  let s ← s.forgetStart?
  some { s.push .comma (s.place.skip 1) with keyAllowed := true }

/-- Adds the hyphen of an item or the question mark of a key, which begins a block where one may
begin. -/
def pushMark? (s : Layout) (start token : Token) (keyAllowed : Bool) : Option Layout :=
  if !s.inFlow && !s.keyAllowed then none
  else do
    let s ← (s.openBlock start s.place.column s.tokens.length).forgetStart?
    some { s.push token (s.place.skip 1) with keyAllowed := keyAllowed }

/-- Adds the colon before a value. If a key may have begun before it, it has. -/
def pushValue? (s : Layout) : Option Layout :=
  match s.starts with
  | some k :: starts =>
    let s := (s.insert .key k.index).openBlock .mappingStart k.place.column k.index
    some { s.push .value (s.place.skip 1) with starts := none :: starts, keyAllowed := false }
  | _ =>
    if !s.inFlow && !s.keyAllowed then none
    else
      let s := s.openBlock .mappingStart s.place.column s.tokens.length
      some { s.push .value (s.place.skip 1) with keyAllowed := !s.inFlow }

/-- Adds a block of lines. -/
def pushLines? (s : Layout) (literal : Bool) : Option Layout := do
  let s ← s.forgetStart?
  let (t, place) ← block? literal s.indent (s.place.skip 1)
  some { s.push (.scalar t (if literal then .literal else .other)) place with keyAllowed := true }

/-- Adds a plain scalar. A key may begin after it if it ends at the beginning of a line. -/
def pushPlain? (s : Layout) : Option Layout := do
  let s ← s.saveStart?
  let (t, atLineStart, place) ← plain? s.inFlow s.indent s.place
  some { s.push (.scalar t .plain) place with keyAllowed := atLineStart }

/-- The readers of the tokens that a character begins. -/
def ofMark (c : Char) (inFlow : Bool) : Option (Place → Option (Token × Place)) :=
  let after := fun (read : Place → Option (Token × Place)) (p : Place) => read (p.skip 1)
  let named := fun (make : Text → Token) (p : Place) =>
    (anchorName? p).map fun (name, p) => (make name, p)
  let quoted := fun (double : Bool) (p : Place) =>
    (quoted? double p).map fun (t, p) => (Token.scalar t .other, p)
  match c with
  | '*' => some (after (named .reference))
  | '&' => some (after (named .anchor))
  | '!' => some (after (tag? inFlow))
  | '\'' => some (after (quoted false))
  | '"' => some (after (quoted true))
  | _ => none

/-- Adds the token that begins with the character `c`, before `rest`. A hyphen, a question mark
or a colon that no blank follows begins a plain scalar. -/
def next? (s : Layout) (c : Char) (rest : Text) : Option Layout :=
  if s.place.column = 0 ∧ c = '%' then
    s.pushOutside? fun p => directive? (p.skip 1)
  else if s.place.atMark then
    s.pushOutside? fun p =>
      some (if c = '-' then .documentStart else .documentEnd, p.skip 3)
  else match ofMark c s.inFlow with
  | some read => s.pushNode? read
  | none =>
    match c with
    | '[' => s.pushOpen? .bracketOpen
    | ']' => s.pushClose? .bracketClose
    | '\x7b' => s.pushOpen? .braceOpen
    | '\x7d' => s.pushClose? .braceClose
    | ',' => s.pushComma?
    | '-' =>
      if atSpace rest then s.pushMark? .sequenceStart .item true
      else s.pushPlain?
    | '?' =>
      if s.inFlow || atSpace rest then s.pushMark? .mappingStart .key (!s.inFlow)
      else s.pushPlain?
    | ':' => if s.inFlow || atSpace rest then s.pushValue? else s.pushPlain?
    | '|' => if s.inFlow then none else s.pushLines? true
    | '>' => if s.inFlow then none else s.pushLines? false
    | c => if isSpace c || "#%@\x60".toList.contains c then none else s.pushPlain?

/-! ### The whole -/

/-- The place of the next token from a column of a line on, and whether a key may begin there. At
the beginning of a line that is not within brackets or braces, tabs are no blanks. -/
def skipFrom (inFlow : Bool) (keyAllowed comment : Bool) (line column : Nat) :
    Text → Place × Bool
  | [] => (⟨[], line, column⟩, keyAllowed)
  | '\r' :: '\n' :: rest => skipFrom inFlow (keyAllowed || !inFlow) false (line + 1) 0 rest
  | c :: rest =>
    if isBreak c then skipFrom inFlow (keyAllowed || !inFlow) false (line + 1) 0 rest
    else if comment || c = '#' then skipFrom inFlow keyAllowed true line (column + 1) rest
    else if c = ' ' || (c = '\t' && (inFlow || !keyAllowed)) then
      skipFrom inFlow keyAllowed false line (column + 1) rest
    else (⟨c :: rest, line, column⟩, keyAllowed)

/-- Goes on to the place of the next token, where blocks may end. -/
def toToken? (s : Layout) : Option Layout :=
  let (place, keyAllowed) :=
    skipFrom s.inFlow s.keyAllowed false s.place.line s.place.column s.place.rest
  let s := { s with place := place, keyAllowed := keyAllowed }
  s.forgetStale?.map (·.closeBlocks place.column)

/-- Reads the rest of a document, which has less than `fuel` characters; every token has at least
one. -/
def run? : Nat → Layout → Option Layout
  | 0, _ => none
  | fuel + 1, s => do
    let s ← s.toToken?
    match s.place.rest with
    | [] => s.closeAll.forgetStart?
    | c :: rest => run? fuel (← s.next? c rest)

end Layout

/-- The tokens of a document. A mark of the byte order may stand before it. -/
def tokens? (t : Text) : Option (List Token) :=
  let t := (Text.after? ['\ufeff'] t).getD t
  if t.all isAllowed then
    (Layout.run? (t.length + 1) { place := ⟨t, 0, 0⟩ }).map fun s => s.tokens.reverse
  else none

end QueryFilter.Yaml
