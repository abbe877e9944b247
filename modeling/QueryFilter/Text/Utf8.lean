import QueryFilter.Text.Basic

/-!
# UTF-8

`Utf8.encode` writes a text as bytes, and `Utf8.decode` reads bytes as text.  Reading never
fails: a byte sequence that starts like a character but is not one, up to the first byte that
rules it out, is read as one replacement character, and so is a byte that starts none.
-/

namespace QueryFilter.Utf8

/-- The bytes of a text. -/
def encode (t : Text) : List UInt8 := t.flatMap String.utf8EncodeChar

/-- The character that stands for bytes that are none. -/
def replacement : Char := '\ufffd'

/-- A character of which some bytes have been read: the bits so far, the number of bytes still
missing, and the range in which the next one must lie. -/
structure Pending where
  bits : Nat
  missing : Nat
  low : Nat := 0x80
  high : Nat := 0xBF

/-- What a byte means at the start of a character: a whole character, or its first part. -/
def lead (b : Nat) : Char ⊕ Pending :=
  if b < 0x80 then .inl (Char.ofNat b)
  else if 0xC2 ≤ b ∧ b ≤ 0xDF then .inr { bits := b - 0xC0, missing := 1 }
  else if b = 0xE0 then .inr { bits := 0, missing := 2, low := 0xA0 }
  else if b = 0xED then .inr { bits := 0xD, missing := 2, high := 0x9F }
  else if 0xE1 ≤ b ∧ b ≤ 0xEF then .inr { bits := b - 0xE0, missing := 2 }
  else if b = 0xF0 then .inr { bits := 0, missing := 3, low := 0x90 }
  else if b = 0xF4 then .inr { bits := 4, missing := 3, high := 0x8F }
  else if 0xF1 ≤ b ∧ b ≤ 0xF3 then .inr { bits := b - 0xF0, missing := 3 }
  else .inl replacement

/-- Reads the rest of a text of which `pending` is an unfinished character. -/
def decodeFrom : Option Pending → List UInt8 → Text
  | none, [] => []
  | some _, [] => [replacement]
  | none, b :: bytes => start [] b bytes
  | some p, b :: bytes =>
    if p.low ≤ b.toNat ∧ b.toNat ≤ p.high then
      let bits := 64 * p.bits + (b.toNat - 0x80)
      if p.missing ≤ 1 then Char.ofNat bits :: decodeFrom none bytes
      else decodeFrom (some { bits := bits, missing := p.missing - 1 }) bytes
    else start [replacement] b bytes
where
  /-- Reads on with the byte `b` at the start of a character, `done` being read before it. -/
  start (done : Text) (b : UInt8) (bytes : List UInt8) : Text :=
    match lead b.toNat with
    | .inl c => done ++ c :: decodeFrom none bytes
    | .inr p => done ++ decodeFrom (some p) bytes

/-- The text that the bytes spell. -/
def decode (bytes : List UInt8) : Text := decodeFrom none bytes

end QueryFilter.Utf8
