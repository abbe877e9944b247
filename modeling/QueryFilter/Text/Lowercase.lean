import QueryFilter.Unicode.Casing

/-!
# Lower case

`Text.lowercase` is the full lowercase form of a text by the Unicode Standard: a letter goes to
its lowercase letter, the dotted capital `İ` to an `i` with a combining dot, and the capital
sigma to the final sigma at the end of a word and to the medial one elsewhere.
-/

namespace QueryFilter.Text

open Unicode

/-- The first character that is not case-ignorable exists and is cased. -/
def meetsCased (t : Text) : Bool :=
  match t.dropWhile isCaseIgnorable with
  | c :: _ => isCased c
  | [] => false

/-- A position ends a word when a cased character precedes it and none follows it, case-ignorable
characters in between set aside; `before` is read backwards from the position. -/
def endsWord (before after : Text) : Bool :=
  meetsCased before && !meetsCased after

/-- The lowercase form of `c` where `before` precedes it, read backwards, and `after` follows. -/
def lowercaseAt (before : Text) (c : Char) (after : Text) : Text :=
  if c = 'Σ' then [if endsWord before after then 'ς' else 'σ']
  else if c = 'İ' then ['i', '\u0307']
  else [lowercaseChar c]

/-- The lowercase form of a text that `before` precedes, read backwards. -/
def lowercaseFrom (before : Text) : Text → Text
  | [] => []
  | c :: rest => lowercaseAt before c rest ++ lowercaseFrom (c :: before) rest

/-- The lowercase form of a text. -/
def lowercase (t : Text) : Text := lowercaseFrom [] t

end QueryFilter.Text
