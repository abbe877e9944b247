import Mathlib.Data.List.Basic
import QueryFilter.Text.Utf8

/-!
# Parts of a text by offsets

An offset counts the bytes of the UTF-8 form of a text.  `Utf8.splitAt?` divides a text at an
offset, if a character begins there or the text ends there, and `Utf8.slice?` is the part of a text
between two such offsets.
-/

namespace QueryFilter.Utf8

/-- The number of bytes of a text. -/
def size (t : Text) : Nat := (encode t).length

/-- The two parts of a text at an offset, which may be neither beyond the end of the text nor within
a character. -/
def splitAt? : Text → Nat → Option (Text × Text)
  | t, 0 => some ([], t)
  | [], _ + 1 => none
  | c :: t, offset + 1 =>
    if c.utf8Size ≤ offset + 1 then
      (splitAt? t (offset + 1 - c.utf8Size)).map fun (front, back) => (c :: front, back)
    else none

/-- The part of a text between two offsets in order, at both of which it can be divided. -/
def slice? (t : Text) (start stop : Nat) : Option Text :=
  (splitAt? t stop).bind fun (front, _) => (splitAt? front start).map Prod.snd

theorem size_cons (c : Char) (t : Text) :
  size (c :: t) = c.utf8Size + size t
  := by simp [size, encode]

theorem size_append (s t : Text) :
  size (s ++ t) = size s + size t
  := by simp [size, encode]

/-! ### Dividing a text -/

theorem splitAt?_zero (t : Text) :
  splitAt? t 0 = some ([], t)
  := by cases t <;> rfl

theorem splitAt?_cons {c : Char} {t : Text} {offset : Nat} (h : 0 < offset) :
  splitAt? (c :: t) offset
    = if c.utf8Size ≤ offset then
        (splitAt? t (offset - c.utf8Size)).map fun (front, back) => (c :: front, back)
      else none
  := by
  obtain ⟨offset, rfl⟩ := Nat.exists_eq_succ_of_ne_zero (Nat.ne_of_gt h)
  rfl

theorem splitAt?_append (front back : Text) :
  splitAt? (front ++ back) (size front) = some (front, back)
  := by
  induction front with
  | nil => apply splitAt?_zero
  | cons c front ih =>
      have hpos : 0 < c.utf8Size + size front := Nat.add_pos_left c.utf8Size_pos _
      rw [List.cons_append, size_cons, splitAt?_cons hpos, if_pos (Nat.le_add_right _ _),
        Nat.add_sub_cancel_left, ih]
      rfl

theorem eq_append_of_splitAt? {t front back : Text} {offset : Nat}
    (h : splitAt? t offset = some (front, back)) :
  t = front ++ back ∧ offset = size front
  := by
  induction t generalizing offset front with
  | nil =>
      cases offset with
      | zero =>
          cases h
          exact ⟨rfl, rfl⟩
      | succ offset => cases h
  | cons c t ih =>
      cases offset with
      | zero =>
          cases h
          exact ⟨rfl, rfl⟩
      | succ offset =>
          rw [splitAt?_cons (Nat.succ_pos offset)] at h
          split at h
          · obtain ⟨⟨front', back'⟩, hrest, heq⟩ := Option.map_eq_some_iff.mp h
            cases heq
            obtain ⟨rfl, hoffset⟩ := ih hrest
            use rfl
            rw [size_cons]
            omega
          · cases h

/-- A text is divided at the offsets where a part of it ends, and at no others. -/
theorem splitAt?_eq_some_iff {t front back : Text} {offset : Nat} :
  splitAt? t offset = some (front, back) ↔ t = front ++ back ∧ offset = size front
  := by
  constructor
  · apply eq_append_of_splitAt?
  · rintro ⟨rfl, rfl⟩
    apply splitAt?_append

/-- What is cut out of a text by two offsets stands between two parts of it that end there. -/
theorem slice?_eq_some_iff {t part : Text} {start stop : Nat} :
  slice? t start stop = some part
    ↔ ∃ front back, t = front ++ part ++ back ∧ start = size front ∧ stop = size (front ++ part)
  := by
  simp only [slice?, Option.bind_eq_some_iff, Option.map_eq_some_iff, Prod.exists,
    splitAt?_eq_some_iff]
  constructor
  · rintro ⟨_, back, ⟨rfl, rfl⟩, front, _, ⟨rfl, rfl⟩, rfl⟩
    use front, back
  · rintro ⟨front, back, rfl, rfl, rfl⟩
    use front ++ part, back, ⟨rfl, rfl⟩, front, part

end QueryFilter.Utf8
