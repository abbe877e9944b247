import Mathlib.Data.List.Basic
import QueryFilter.Text.Basic

/-!
# Texts up to a character

A text is divided in one way at the first place where a character stands.
-/

namespace QueryFilter.Text

variable {s t rest rest' : Text} {c d : Char}

theorem takeWhile_append_cons (hs : c ∉ s) (rest : Text) :
  (s ++ c :: rest).takeWhile (· ≠ c) = s
  := by
  have hpos : ∀ d ∈ s, decide (d ≠ c) = true := by
    intro d hd
    apply decide_eq_true
    rintro rfl
    apply hs hd
  rw [List.takeWhile_append_of_pos hpos]
  simp

/-- A text with a character somewhere is given by what stands before its first occurrence and what
stands behind it. -/
theorem append_cons_inj (hs : c ∉ s) (ht : c ∉ t) :
  s ++ c :: rest = t ++ c :: rest' ↔ s = t ∧ rest = rest'
  := by
  constructor
  · intro h
    obtain rfl : s = t := by
      rw [← takeWhile_append_cons hs rest, h, takeWhile_append_cons ht]
    use rfl
    apply (List.cons.inj (List.append_cancel_left h)).2
  · rintro ⟨rfl, rfl⟩
    rfl

/-- A text without a character, and with another one behind it, does not begin with that
character. -/
theorem append_cons_ne_cons (hs : d ∉ s) (hc : c ≠ d) :
  s ++ c :: rest ≠ d :: rest'
  := by
  intro h
  cases s with
  | nil => apply hc (List.cons.inj h).1
  | cons e s =>
      apply hs
      rw [← (List.cons.inj h).1]
      apply List.mem_cons_self

end QueryFilter.Text
