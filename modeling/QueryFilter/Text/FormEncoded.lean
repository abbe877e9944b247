import QueryFilter.Text.Utf8

/-!
# Form-encoded pairs

The `application/x-www-form-urlencoded` format: pairs of a name and a value joined by `&`, name
and value by the first `=`, blanks written `+`, and any byte as a percent sign with two
hexadecimal digits.  `FormEncoded.parse` reads the pairs in order.
-/

namespace QueryFilter.FormEncoded

/-- The parts of a byte sequence between the separators. -/
def split (separator : UInt8) : List UInt8 → List (List UInt8)
  | [] => [[]]
  | b :: rest =>
    if b = separator then [] :: split separator rest
    else match split separator rest with
      | [] => [[b]]
      | part :: parts => (b :: part) :: parts

/-- The value of a hexadecimal digit. -/
def hexDigit? (b : UInt8) : Option Nat :=
  let n := b.toNat
  if 0x30 ≤ n ∧ n ≤ 0x39 then some (n - 0x30)
  else if 0x41 ≤ n ∧ n ≤ 0x46 then some (n - 0x41 + 10)
  else if 0x61 ≤ n ∧ n ≤ 0x66 then some (n - 0x61 + 10)
  else none

/-- The byte `%` followed by two hexadecimal digits means the byte they spell; a `%` without them
stands for itself. -/
def unescape : List UInt8 → List UInt8
  | [] => []
  | b :: rest =>
    if b = 0x25 then
      match rest with
      | x :: y :: tail =>
        match hexDigit? x, hexDigit? y with
        | some h, some l => UInt8.ofNat (16 * h + l) :: unescape tail
        | _, _ => b :: unescape (x :: y :: tail)
      | short => b :: unescape short
    else b :: unescape rest

/-- The text that an encoded name or value stands for. -/
def decode (bytes : List UInt8) : Text :=
  Utf8.decode (unescape (bytes.map fun b => if b = 0x2B then 0x20 else b))

/-- The name and the value of one part. -/
def pair (part : List UInt8) : Text × Text :=
  (decode (part.takeWhile (· != 0x3D)), decode ((part.dropWhile (· != 0x3D)).drop 1))

/-- The pairs of a form-encoded text; empty parts hold none. -/
def parse (t : Text) : List (Text × Text) :=
  ((split 0x26 (Utf8.encode t)).filter (!·.isEmpty)).map pair

end QueryFilter.FormEncoded
