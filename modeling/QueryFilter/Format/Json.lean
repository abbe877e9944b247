import QueryFilter.Text.Basic

/-!
# JSON

Values of the JSON format with a reader and two writers.  `Json.read?` reads a whole document;
`Json.compact` writes a value without blanks, and `Json.pretty` on several lines.
-/

namespace QueryFilter

/-- A JSON value. An integer is a number without fraction and exponent that fits into 64 bits,
signed or unsigned. The values of no further use are not told apart: all other numbers, and the
strings and names of entries with half of a surrogate pair, which are no texts. -/
inductive Json where
  | null
  | bool (b : Bool)
  | integer (n : Int)
  | string (t : Text)
  | array (items : List Json)
  | object (entries : List (Text × Json))
  | other
deriving Inhabited

namespace Json

/-! ### Reading -/

/-- The text without the blanks at its beginning. -/
def skipBlanks (t : Text) : Text := t.dropWhile " \n\t\r".toList.contains

/-- Reads four hexadecimal digits. -/
def hexUnit? : Text → Option (Nat × Text)
  | a :: b :: c :: d :: rest => do
    let n := 16 * (16 * (16 * (← Text.hexDigit? a) + (← Text.hexDigit? b)) + (← Text.hexDigit? c))
    some (n + (← Text.hexDigit? d), rest)
  | _ => none

/-- The character after a backslash that stands for a single one. -/
def escaped? (c : Char) : Option Char :=
  match c with
  | '"' => some '"'
  | '\\' => some '\\'
  | '/' => some '/'
  | 'b' => some '\x08'
  | 'f' => some '\x0c'
  | 'n' => some '\n'
  | 'r' => some '\r'
  | 't' => some '\t'
  | _ => none

/-- Reads the character after `\u`, which one unit makes, or a pair of surrogates; half of a pair
makes none. -/
def codePoint? (t : Text) : Option (Option Char × Text) := do
  let (unit, rest) ← hexUnit? t
  if 0xD800 ≤ unit ∧ unit < 0xE000 then
    match (Text.after? ['\\', 'u'] rest).bind hexUnit? with
    | some (low, tail) =>
      if unit < 0xDC00 ∧ 0xDC00 ≤ low ∧ low < 0xE000 then
        some (some (Char.ofNat (0x10000 + (unit - 0xD800) * 0x400 + (low - 0xDC00))), tail)
      else some (none, rest)
    | none => some (none, rest)
  else some (some (Char.ofNat unit), rest)

/-- Reads the rest of a string up to its closing quote; `done` are the characters so far, the last
one first, unless the string is no text, and `t` has less than `fuel` characters. -/
def stringFrom? : Nat → Option Text → Text → Option (Option Text × Text)
  | 0, _, _ => none
  | fuel + 1, done, t =>
    match t with
    | '"' :: rest => some (done.map List.reverse, rest)
    | '\\' :: 'u' :: rest =>
      match codePoint? rest with
      | some (c, rest) => stringFrom? fuel (done.bind fun s => c.map (· :: s)) rest
      | none => none
    | '\\' :: e :: rest =>
      match escaped? e with
      | some c => stringFrom? fuel (done.map (c :: ·)) rest
      | none => none
    | c :: rest =>
      if c.toNat < 0x20 || c == '\\' then none else stringFrom? fuel (done.map (c :: ·)) rest
    | [] => none

/-- Reads a string after its opening quote: its text, if it is one. -/
def string? (t : Text) : Option (Option Text × Text) := stringFrom? (t.length + 1) (some []) t

/-- The value of a string. -/
def ofString (t : Option Text) : Json := (t.map .string).getD .other

/-- The value of an object. -/
def ofEntries (entries : List (Option Text × Json)) : Json :=
  match entries.mapM fun (name, value) => name.map (·, value) with
  | some entries => .object entries
  | none => .other

/-- Reads the digits of a number before its fraction; a zero stands alone. -/
def whole? (t : Text) : Option (Nat × Text) :=
  match t with
  | '0' :: rest => if (rest.head?.any Char.isDigit) then none else some (0, rest)
  | _ =>
    let digits := t.takeWhile Char.isDigit
    if digits.isEmpty then none else some (Nat.ofDigitChars 10 digits 0, t.drop digits.length)

/-- What follows at least one digit. -/
def afterDigits? (t : Text) : Option Text :=
  let rest := t.dropWhile Char.isDigit
  if rest.length < t.length then some rest else none

/-- What follows a fraction and an exponent, either of which may be missing. -/
def afterFraction? (t : Text) : Option Text := do
  let t ← match t with
    | '.' :: rest => afterDigits? rest
    | _ => some t
  match t with
  | 'e' :: rest | 'E' :: rest =>
    match rest with
    | '+' :: rest | '-' :: rest => afterDigits? rest
    | _ => afterDigits? rest
  | _ => some t

/-- The number with a sign and digits, if neither a fraction nor an exponent follows. -/
def ofDigits (negative : Bool) (n : Nat) : Json :=
  if negative then
    if n = 0 ∨ -(n : Int) < Int64.minValue.toInt then .other else .integer (-n)
  else if n < UInt64.size then .integer n else .other

/-- Reads a number. -/
def number? (t : Text) : Option (Json × Text) := do
  let (negative, t) := match t with
    | '-' :: rest => (true, rest)
    | _ => (false, t)
  let (n, rest) ← whole? t
  let tail ← afterFraction? rest
  some (if tail.length = rest.length then ofDigits negative n else .other, tail)

mutual

/-- Reads a value after blanks; `t` has less than `fuel` characters. -/
def value? : Nat → Text → Option (Json × Text)
  | 0, _ => none
  | fuel + 1, t =>
    match skipBlanks t with
    | 'n' :: 'u' :: 'l' :: 'l' :: rest => some (.null, rest)
    | 't' :: 'r' :: 'u' :: 'e' :: rest => some (.bool true, rest)
    | 'f' :: 'a' :: 'l' :: 's' :: 'e' :: rest => some (.bool false, rest)
    | '"' :: rest => (string? rest).map fun (s, rest) => (ofString s, rest)
    | '[' :: rest =>
      match skipBlanks rest with
      | ']' :: rest => some (.array [], rest)
      | rest => (items? fuel rest).map fun (items, rest) => (.array items, rest)
    | '\x7b' :: rest =>
      match skipBlanks rest with
      | '\x7d' :: rest => some (.object [], rest)
      | rest => (entries? fuel rest).map fun (entries, rest) => (ofEntries entries, rest)
    | rest => number? rest

/-- Reads the values of an array up to its end, of which there is at least one. -/
def items? : Nat → Text → Option (List Json × Text)
  | 0, _ => none
  | fuel + 1, t => do
    let (item, rest) ← value? fuel t
    match skipBlanks rest with
    | ']' :: rest => some ([item], rest)
    | ',' :: rest => (items? fuel rest).map fun (items, rest) => (item :: items, rest)
    | _ => none

/-- Reads the entries of an object up to its end, of which there is at least one. -/
def entries? : Nat → Text → Option (List (Option Text × Json) × Text)
  | 0, _ => none
  | fuel + 1, t => do
    let (name, rest) ← string? (← Text.after? ['"'] (skipBlanks t))
    let (value, rest) ← value? fuel (← Text.after? [':'] (skipBlanks rest))
    match skipBlanks rest with
    | '\x7d' :: rest => some ([(name, value)], rest)
    | ',' :: rest =>
      (entries? fuel rest).map fun (entries, rest) => ((name, value) :: entries, rest)
    | _ => none

end

/-- Reads a document. -/
def read? (t : Text) : Option Json :=
  match value? (2 * t.length + 1) t with
  | some (value, rest) => if (skipBlanks rest).isEmpty then some value else none
  | none => none

/-! ### Fields of objects -/

/-- The values of the fields with the given names: those of the entries of an object, in which
other entries are allowed, or the items of an array in this order. Fields may be missing, in an
array those at the end. -/
def fields? (names : List Text) : Json → Option (List (Option Json))
  | .object entries => names.mapM (Text.soleValue? · entries)
  | .array items =>
    if items.length ≤ names.length then
      some (items.map some ++ List.replicate (names.length - items.length) none)
    else none
  | _ => none

/-! ### Writing -/

/-- The form of a character within quotes. -/
def escapeChar (c : Char) : Text :=
  match c with
  | '"' => "\\\"".toList
  | '\\' => "\\\\".toList
  | '\x08' => "\\b".toList
  | '\x0c' => "\\f".toList
  | '\n' => "\\n".toList
  | '\r' => "\\r".toList
  | '\t' => "\\t".toList
  | c =>
    if c.toNat < 0x20 then
      "\\u00".toList ++ [Nat.digitChar (c.toNat / 16), Nat.digitChar (c.toNat % 16)]
    else [c]

/-- A text between quotes. -/
def quote (t : Text) : Text := '"' :: t.flatMap escapeChar ++ ['"']

/-- An integer in decimal digits. -/
def renderInt (n : Int) : Text :=
  (if n < 0 then ['-'] else []) ++ Nat.toDigits 10 n.natAbs

/-- Writes a value without blanks; those of no further use are written as `null`. -/
def compact : Json → Text
  | .null => "null".toList
  | .bool true => "true".toList
  | .bool false => "false".toList
  | .integer n => renderInt n
  | .other => "null".toList
  | .string t => quote t
  | .array items => ['['] ++ compactItems true items ++ [']']
  | .object entries => ['\x7b'] ++ compactEntries true entries ++ ['\x7d']
where
  /-- The items with commas between them. -/
  compactItems (first : Bool) : List Json → Text
    | [] => []
    | item :: items =>
      (if first then [] else [',']) ++ compact item ++ compactItems false items
  /-- The entries with commas between them. -/
  compactEntries (first : Bool) : List (Text × Json) → Text
    | [] => []
    | (name, value) :: entries =>
      (if first then [] else [',']) ++ quote name ++ [':'] ++ compact value
        ++ compactEntries false entries

/-- The beginning of a line at a depth: two blanks for each level. -/
def newline (depth : Nat) : Text := '\n' :: List.replicate (2 * depth) ' '

/-- Writes a value with every item and entry on a line of its own. -/
def pretty (depth : Nat) : Json → Text
  | .array [] => "[]".toList
  | .array items => ['['] ++ prettyItems depth true items ++ newline depth ++ [']']
  | .object [] => "\x7b\x7d".toList
  | .object entries => ['\x7b'] ++ prettyEntries depth true entries ++ newline depth ++ ['\x7d']
  | .null => "null".toList
  | .bool true => "true".toList
  | .bool false => "false".toList
  | .integer n => renderInt n
  | .other => "null".toList
  | .string t => quote t
where
  /-- The items, each on a line of its own. -/
  prettyItems (depth : Nat) (first : Bool) : List Json → Text
    | [] => []
    | item :: items =>
      (if first then [] else [',']) ++ newline (depth + 1) ++ pretty (depth + 1) item
        ++ prettyItems depth false items
  /-- The entries, each on a line of its own. -/
  prettyEntries (depth : Nat) (first : Bool) : List (Text × Json) → Text
    | [] => []
    | (name, value) :: entries =>
      (if first then [] else [',']) ++ newline (depth + 1) ++ quote name ++ ": ".toList
        ++ pretty (depth + 1) value ++ prettyEntries depth false entries

end Json

end QueryFilter
