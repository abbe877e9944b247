import QueryFilter.Unicode.Printable
import QueryFilter.Unicode.GraphemeExtend

/-!
# Quoted texts

`Text.quote` writes a text between double quotes so that it can be read back: the quote and the
backslash are escaped by a backslash, the usual control characters have one-letter escapes, and
every other character that cannot stand alone in print, be it invisible or attached to the
character before it, is written by its code point in braces.
-/

namespace QueryFilter.Text

open Unicode

/-- A code point in braces, in hexadecimal digits without leading zeros. -/
def codePoint (c : Char) : Text :=
  "\\u\x7b".toList ++ Nat.toDigits 16 c.toNat ++ "\x7d".toList

/-- The character is drawn onto the one before it. A halfwidth sound mark, which takes up a place of
its own, is not, although it extends the character before it. -/
def isAttached (c : Char) : Bool := isGraphemeExtend c && !(c == '\uff9e' || c == '\uff9f')

/-- The form of a character within double quotes. -/
def escapeChar (c : Char) : Text :=
  if c = '\x00' then "\\0".toList
  else if c = '\t' then "\\t".toList
  else if c = '\r' then "\\r".toList
  else if c = '\n' then "\\n".toList
  else if c = '"' then "\\\"".toList
  else if c = '\\' then "\\\\".toList
  else if isAttached c || !isPrintable c then codePoint c
  else [c]

/-- The text between double quotes. -/
def quote (t : Text) : Text := '"' :: t.flatMap escapeChar ++ ['"']

end QueryFilter.Text
