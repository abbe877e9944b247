import QueryFilter.Text.Basic

/-!
# Blank characters

`Text.isBlankChar` is the property `White_Space` of the Unicode Character Database, `Text.trim`
removes such characters at both ends of a text, and a text is blank when it holds nothing else.
-/

namespace QueryFilter.Text

/-- The characters with the property `White_Space`. -/
def isBlankChar (c : Char) : Bool :=
  let n := c.toNat
  (9 ≤ n && n ≤ 13) || n == 0x20 || n == 0x85 || n == 0xA0 || n == 0x1680
    || (0x2000 ≤ n && n ≤ 0x200A) || n == 0x2028 || n == 0x2029 || n == 0x202F || n == 0x205F
    || n == 0x3000

/-- The text holds blank characters only. -/
def isBlank (t : Text) : Bool := t.all isBlankChar

/-- The text from its first character on that is not blank. -/
def trimStart (t : Text) : Text := t.dropWhile isBlankChar

/-- The text up to its last character that is not blank. -/
def trimEnd (t : Text) : Text := (trimStart t.reverse).reverse

/-- The text without the blank characters at its ends. -/
def trim (t : Text) : Text := trimEnd (trimStart t)

end QueryFilter.Text
