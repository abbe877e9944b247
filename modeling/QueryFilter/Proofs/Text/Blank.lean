import Mathlib.Data.List.DropRight
import QueryFilter.Text.Blank

/-!
# Trimming

`Text.trim` leaves a text alone if neither end of it is blank, and leaves no text with a blank end.
So trimming is idempotent, and the blank texts are those trimmed to nothing.  A bare text, without
blanks and parentheses, is not changed.
-/

namespace QueryFilter.Text

theorem trimEnd_eq_rdropWhile (t : Text) :
  t.trimEnd = t.rdropWhile isBlankChar
  := rfl

/-! ### Blank texts -/

/-- A text is blank exactly if all its characters are. -/
theorem isBlank_iff {t : Text} :
  t.isBlank = true ↔ ∀ c ∈ t, isBlankChar c = true
  := List.all_eq_true

/-- A text with a character that is not blank is not blank. -/
theorem isBlank_eq_false_of_mem {t : Text} {c : Char} (hc : c ∈ t) (h : isBlankChar c = false) :
  t.isBlank = false
  := by
  apply Bool.eq_false_iff.mpr
  intro hblank
  rw [isBlank_iff.mp hblank c hc] at h
  cases h

/-- A text that does not begin with a blank character is blank only if it is empty. -/
theorem isBlank_trimStart (t : Text) :
  t.trimStart.isBlank = true ↔ t.trimStart = []
  := by
  rw [isBlank_iff, ← List.dropWhile_eq_nil_iff, trimStart, List.dropWhile_idempotent]

/-! ### What is removed -/

/-- A text is blank exactly if it is trimmed to nothing. -/
theorem trim_eq_nil_iff {t : Text} :
  t.trim = [] ↔ t.isBlank = true
  := by
  rw [trim, trimEnd_eq_rdropWhile, List.rdropWhile_eq_nil_iff, ← isBlank_iff, isBlank_trimStart,
    trimStart, List.dropWhile_eq_nil_iff, isBlank_iff]

theorem isEmpty_trim (t : Text) :
  t.trim.isEmpty = t.isBlank
  := by
  apply Bool.eq_iff_iff.mpr
  rw [List.isEmpty_iff, trim_eq_nil_iff]

/-! ### What is kept -/

/-- Neither the first nor the last character of a text is blank. -/
def IsTrimmed (t : Text) : Prop :=
  (∀ c ∈ t.head?, isBlankChar c = false) ∧ ∀ c ∈ t.getLast?, isBlankChar c = false

theorem trimStart_eq_self_iff {t : Text} :
  t.trimStart = t ↔ ∀ c ∈ t.head?, isBlankChar c = false
  := by
  cases t with
  | nil => simp [trimStart]
  | cons c cs => simp [trimStart, List.dropWhile_eq_self_iff]

theorem trimEnd_eq_self_iff {t : Text} :
  t.trimEnd = t ↔ ∀ c ∈ t.getLast?, isBlankChar c = false
  := by
  rw [trimEnd, ← List.reverse_eq_iff.symm, trimStart_eq_self_iff, List.head?_reverse]

/-- A text neither end of which is blank is left alone. -/
theorem IsTrimmed.trim_eq {t : Text} (h : t.IsTrimmed) :
  t.trim = t
  := by
  rw [trim, trimStart_eq_self_iff.mpr h.1, trimEnd_eq_self_iff.mpr h.2]

/-- Neither end of a trimmed text is blank. -/
theorem isTrimmed_trim (t : Text) :
  t.trim.IsTrimmed
  := by
  constructor
  · intro c hc
    have hstart : t.trimStart.trimStart = t.trimStart := List.dropWhile_idempotent _ _
    obtain ⟨rest, hrest⟩ := List.rdropWhile_prefix isBlankChar t.trimStart
    apply trimStart_eq_self_iff.mp hstart c
    rw [← hrest]
    apply List.mem_head?_append_of_mem_head? hc
  · apply trimEnd_eq_self_iff.mp
    apply List.rdropWhile_idempotent

@[simp]
theorem trim_trim (t : Text) :
  t.trim.trim = t.trim
  := t.isTrimmed_trim.trim_eq

@[simp]
theorem isBlank_trim (t : Text) :
  t.trim.isBlank = t.isBlank
  := by rw [← isEmpty_trim t.trim, trim_trim, isEmpty_trim]

/-! ### Blanks around a text -/

theorem isBlank_append {s t : Text} :
  isBlank (s ++ t) = (s.isBlank && t.isBlank)
  := List.all_append

theorem trimStart_append_of_isBlank {s : Text} (hs : s.isBlank = true) (t : Text) :
  trimStart (s ++ t) = t.trimStart
  := List.dropWhile_append_of_pos (isBlank_iff.mp hs)

theorem trimEnd_append_of_isBlank (s : Text) {t : Text} (ht : t.isBlank = true) :
  trimEnd (s ++ t) = s.trimEnd
  := by
  have hreverse : isBlank t.reverse = true := by rw [isBlank, List.all_reverse, ← isBlank, ht]
  rw [trimEnd, List.reverse_append, trimStart_append_of_isBlank hreverse]
  rfl

/-- Blanks before and after a text. -/
structure Padding where
  before : Text
  after : Text
  isBlank_before : before.isBlank = true
  isBlank_after : after.isBlank = true

/-- The text with blanks around it. -/
def Padding.around (p : Padding) (t : Text) : Text := p.before ++ t ++ p.after

theorem Padding.isBlank_around (p : Padding) (t : Text) :
  (p.around t).isBlank = t.isBlank
  := by
  rw [around, isBlank_append, isBlank_append, p.isBlank_before, p.isBlank_after, Bool.true_and,
    Bool.and_true]

/-- Blanks around a text are trimmed. -/
theorem Padding.trim_around (p : Padding) (t : Text) :
  (p.around t).trim = t.trim
  := by
  cases ht : t.isBlank with
  | true =>
      rw [trim_eq_nil_iff.mpr ht, trim_eq_nil_iff, p.isBlank_around, ht]
  | false =>
      have hstart : t.trimStart.isEmpty = false := by
        apply Bool.eq_false_iff.mpr
        intro hempty
        rw [← isEmpty_trim, trim, List.isEmpty_iff.mp hempty] at ht
        cases ht
      have hrest : trimStart (t ++ p.after) = t.trimStart ++ p.after := by
        rw [trimStart, List.dropWhile_append, ← trimStart, hstart]
        rfl
      rw [trim, around, List.append_assoc, trimStart_append_of_isBlank p.isBlank_before, hrest,
        trimEnd_append_of_isBlank _ p.isBlank_after, trim]

/-! ### Bare texts -/

/-- The character is neither blank nor a parenthesis. -/
def IsBareChar (c : Char) : Prop := isBlankChar c = false ∧ c ≠ '(' ∧ c ≠ ')'

instance (c : Char) : Decidable (IsBareChar c) := inferInstanceAs (Decidable (_ ∧ _))

theorem isBareChar_of_isDigit {c : Char} (h : c.isDigit = true) :
  IsBareChar c
  := by
  have hbounds : 48 ≤ c.toNat ∧ c.toNat ≤ 57 := by
    simpa [Char.isDigit, UInt32.le_iff_toNat_le] using h
  refine ⟨?_, ?_, ?_⟩
  · simp [isBlankChar]
    omega
  · rintro rfl
    cases h
  · rintro rfl
    cases h

/-- No character of the text is blank or a parenthesis. -/
def IsBare (t : Text) : Prop := ∀ c ∈ t, IsBareChar c

instance (t : Text) : Decidable t.IsBare := List.decidableBAll IsBareChar t

variable {s t : Text}

theorem IsBare.cons {c : Char} (hc : IsBareChar c) (ht : t.IsBare) :
  IsBare (c :: t)
  := List.forall_mem_cons.mpr ⟨hc, ht⟩

theorem IsBare.append (hs : s.IsBare) (ht : t.IsBare) :
  (s ++ t).IsBare
  := by
  intro c hc
  rcases List.mem_append.mp hc with hc | hc
  · apply hs c hc
  · apply ht c hc

/-- Nothing is trimmed from a bare text. -/
theorem IsBare.trim_eq (h : t.IsBare) :
  t.trim = t
  := by
  apply IsTrimmed.trim_eq
  constructor
  · intro c hc
    apply (h c (List.mem_of_mem_head? hc)).1
  · intro c hc
    apply (h c (List.mem_of_getLast? hc)).1

end QueryFilter.Text
