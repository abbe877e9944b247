/-!
# Texts

A `Text` is the list of its characters, so that its laws are proved by induction on the list.
`Text.after?` undoes prepending, `Text.occursIn` is the test for a contiguous part, and
`Text.foldAscii` puts the letters of the ASCII alphabet in lower case.
-/

namespace QueryFilter

/-- A text is the list of its characters. -/
abbrev Text := List Char

namespace Text

/-- What follows `head` in a text that begins with it. -/
def after? : Text → Text → Option Text
  | [], t => some t
  | _ :: _, [] => none
  | h :: hs, c :: cs => if h = c then after? hs cs else none

/-- A text is what follows `head` exactly if prepending `head` to it gives the whole. -/
theorem after?_eq_some_iff {head t rest : Text} :
  after? head t = some rest ↔ t = head ++ rest
  := by
  induction head generalizing t with
  | nil => simp [after?, eq_comm]
  | cons h hs ih =>
    cases t with
    | nil => simp [after?]
    | cons c cs =>
      by_cases hc : h = c
      · simp [after?, hc, ih]
      · simp [after?, hc, Ne.symm hc]

@[simp]
theorem after?_append (head rest : Text) :
  after? head (head ++ rest) = some rest
  := after?_eq_some_iff.mpr rfl

/-- What precedes the closing character of a text that ends with it. -/
def before? (close : Char) (t : Text) : Option Text :=
  if t.getLast? = some close then some t.dropLast else none

/-- A text is what precedes `close` exactly if appending `close` to it gives the whole. -/
theorem before?_eq_some_iff {close : Char} {t body : Text} :
  before? close t = some body ↔ t = body ++ [close]
  := by
  unfold before?
  constructor
  · intro h
    split at h
    · rename_i hlast
      obtain ⟨ys, rfl⟩ := List.getLast?_eq_some_iff.mp hlast
      simpa using h
    · simp at h
  · rintro rfl
    simp

@[simp]
theorem before?_append (close : Char) (body : Text) :
  before? close (body ++ [close]) = some body
  := before?_eq_some_iff.mpr rfl

/-- The needle is a contiguous part of a text. -/
def occursIn (needle : Text) : Text → Bool
  | [] => needle.isEmpty
  | c :: rest => needle.isPrefixOf (c :: rest) || occursIn needle rest

/-- The text with the ASCII capitals in lower case and all else kept. -/
def foldAscii (t : Text) : Text := t.map Char.toLower

/-- The texts one after the other, `separator` between each two. -/
def join (separator : Text) : List Text → Text
  | [] => []
  | [t] => t
  | t :: ts => t ++ separator ++ join separator ts

/-- The value of a hexadecimal digit. -/
def hexDigit? (c : Char) : Option Nat :=
  if c.isDigit then some (c.toNat - '0'.toNat)
  else if 'a' ≤ c ∧ c ≤ 'f' then some (c.toNat - 'a'.toNat + 10)
  else if 'A' ≤ c ∧ c ≤ 'F' then some (c.toNat - 'A'.toNat + 10)
  else none

/-- The value of the only entry with a key, nothing if there is none; fails if there are several. -/
def soleValue? {α : Type} (key : Text) (entries : List (Text × α)) : Option (Option α) :=
  match entries.filter (·.1 == key) with
  | [] => some none
  | [(_, value)] => some (some value)
  | _ => none

end Text

end QueryFilter
