import QueryFilter.Format.Yaml.Scalar
import QueryFilter.Text.Utf8

/-!
# YAML tokens

The tokens of a YAML document, and readers for those that have a form of their own: anchors, tags
and directives.  The tokens that begin and end blocks are not written; they follow from the
indentation of the lines.
-/

namespace QueryFilter.Yaml

/-- The forms of a scalar that have a bearing on its value: only a plain one may spell something
else than a text, and a literal block if its tag says so. -/
inductive Style where
  | plain
  | literal
  | other
  deriving DecidableEq

/-- A token. A tag has a handle, which stands for the beginning of the tag, and the rest. -/
inductive Token where
  | version (major minor : Nat)
  | handle (name : Text) (stem : Text)
  | documentStart
  | documentEnd
  | sequenceStart
  | mappingStart
  | blockEnd
  | bracketOpen
  | bracketClose
  | braceOpen
  | braceClose
  | item
  | comma
  | key
  | value
  | anchor (name : Text)
  | reference (name : Text)
  | tag (handle : Text) (rest : Text)
  | scalar (t : Text) (style : Style)
  deriving DecidableEq

/-! ### Anchors -/

/-- Reads the name of an anchor after its mark. -/
def anchorName? (p : Place) : Option (Text × Place) :=
  let name := p.rest.takeWhile isNameChar
  let p := p.skip name.length
  if name.isEmpty then none
  else if atSpace p.rest || p.rest.head?.any "?:,]\x7d%@\x60".toList.contains then some (name, p)
  else none

/-! ### Tags -/

/-- A character of a tag, apart from the escapes of bytes. Commas and brackets occur only where
blanks or an angle bracket end the tag. -/
def isTagChar (verbatim : Bool) (c : Char) : Bool :=
  isNameChar c || ";/?:@&=+$.!~*'()".toList.contains c || (verbatim && ",[]".toList.contains c)

/-- Reads the bytes of one character, each of which two hexadecimal digits after `%` spell. -/
def escapedBytes? : Nat → Text → Option (List UInt8 × Text)
  | count + 1, '%' :: a :: b :: rest => do
    let byte := UInt8.ofNat (16 * (← Text.hexDigit? a) + (← Text.hexDigit? b))
    let (bytes, rest) ← escapedBytes? count rest
    some (byte :: bytes, rest)
  | 0, t => some ([], t)
  | _, _ => none

/-- The number of bytes of a character by its first byte. -/
def byteCount? (first : UInt8) : Option Nat :=
  if first < 0x80 then some 1
  else if 0xC0 ≤ first ∧ first < 0xE0 then some 2
  else if 0xE0 ≤ first ∧ first < 0xF0 then some 3
  else if 0xF0 ≤ first ∧ first < 0xF8 then some 4
  else none

/-- Reads one escaped character of a tag. -/
def escapedChar? (t : Text) : Option (Text × Text) := do
  let (first, _) ← escapedBytes? 1 t
  let (bytes, rest) ← escapedBytes? (← byteCount? (first.headD 0)) t
  if (bytes.drop 1).all fun b => 0x80 ≤ b && b < 0xC0 then
    some (Utf8.decode bytes, rest)
  else none

/-- Reads the characters of a tag, which has less than `fuel` of them. -/
def tagText? (verbatim : Bool) : Nat → Text → Option (Text × Text)
  | 0, _ => none
  | _ + 1, [] => some ([], [])
  | fuel + 1, c :: rest =>
    if c = '%' then do
      let (chars, rest) ← escapedChar? (c :: rest)
      (tagText? verbatim fuel rest).map fun (text, rest) => (chars ++ text, rest)
    else if isTagChar verbatim c then
      (tagText? verbatim fuel rest).map fun (text, rest) => (c :: text, rest)
    else some ([], c :: rest)

/-- Reads a handle after its exclamation mark: a name and another exclamation mark. -/
def handle? (t : Text) : Option (Text × Text) :=
  match t.dropWhile isNameChar with
  | '!' :: rest => some (('!' :: t.takeWhile isNameChar) ++ ['!'], rest)
  | _ => none

/-- Reads a tag after its exclamation mark: the whole tag between angle brackets, a handle and the
rest, or the rest alone. -/
def tag? (inFlow : Bool) (p : Place) : Option (Token × Place) := do
  let read := fun (verbatim : Bool) (t : Text) => tagText? verbatim (t.length + 1) t
  let (token, rest) ← match p.rest, handle? p.rest with
    | '<' :: t, _ => do
      let (text, rest) ← read true t
      match text, rest with
      | _ :: _, '>' :: rest => some (Token.tag [] text, rest)
      | _, _ => none
    | _, some (handle, t) => do
      let (text, rest) ← read false t
      if text.isEmpty then none else some (Token.tag handle text, rest)
    | t, none => do
      let (text, rest) ← read false t
      some (if text.isEmpty then Token.tag [] ['!'] else Token.tag ['!'] text, rest)
  if atSpace rest || (inFlow && rest.head? == some ',') then some (token, p.upTo rest) else none

/-! ### Directives -/

/-- Reads a part of a version number, which has at most nine digits. -/
def versionPart? (t : Text) : Option (Nat × Text) :=
  let digits := t.takeWhile Char.isDigit
  if digits.isEmpty || 9 < digits.length then none
  else some (Nat.ofDigitChars 10 digits 0, t.drop digits.length)

/-- Reads a directive after its percent sign up to the end of the line: the version of the format,
or the stem for which a handle stands. -/
def directive? (p : Place) : Option (Token × Place) := do
  let name := p.rest.takeWhile isNameChar
  let rest := p.rest.drop name.length
  let argument := rest.dropWhile isBlank
  let (token, rest) ← match String.ofList name with
    | "YAML" =>
      match versionPart? argument with
      | some (major, '.' :: rest) => do
        let (minor, rest) ← versionPart? rest
        some (Token.version major minor, rest)
      | _ => none
    | "TAG" => do
      let t ← Text.after? ['!'] argument
      let (handle, rest) := (handle? t).getD (['!'], t)
      let stem := rest.dropWhile isBlank
      let (text, tail) ← tagText? true (stem.length + 1) stem
      if stem.length < rest.length && !text.isEmpty && atSpace tail then
        some (Token.handle handle text, tail)
      else none
    | _ => none
  if atSpace (p.rest.drop name.length) then (token, ·) <$> (p.upTo rest).lineEnd? else none

end QueryFilter.Yaml
