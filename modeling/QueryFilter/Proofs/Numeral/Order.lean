import Mathlib.Logic.Basic
import QueryFilter.Numeral.Number

/-!
# The order of numbers

`Number.compare?` orders any two numbers but for the float that is not a number, which stands in no
order to any number, itself included.
-/

namespace QueryFilter

namespace Binary64

theorem key_eq_none_iff {x : Binary64} :
  x.key = none ↔ x = .nan
  := by
  cases x with
  | nan => simp [key]
  | signed negative m => cases negative <;> simp [key]

theorem compare?_eq_none_iff {x y : Binary64} :
  x.compare? y = none ↔ x = .nan ∨ y = .nan
  := by
  rw [← key_eq_none_iff, ← key_eq_none_iff, compare?]
  cases x.key with
  | none => simp
  | some a =>
      cases y.key with
      | none => simp
      | some b => simp

end Binary64

namespace Number

/-- The number is the float that is not a number. -/
def IsNaN (n : Number) : Prop := n = .float .nan

/-- Integers are numbers as floats too. -/
theorem toBinary64_eq_nan_iff {n : Number} :
  n.toBinary64 = .nan ↔ n.IsNaN
  := by
  cases n with
  | signed n => simp [toBinary64, IsNaN, Binary64.ofInt, Binary64.ofRatio, Binary64.ofBits]
  | unsigned n => simp [toBinary64, IsNaN, Binary64.ofInt, Binary64.ofRatio, Binary64.ofBits]
  | float x => simp [toBinary64, IsNaN]

/-- Two numbers stand in no order exactly if one of them is not a number. -/
theorem compare?_eq_none_iff {a b : Number} :
  a.compare? b = none ↔ a.IsNaN ∨ b.IsNaN
  := by
  have hfloats : a.toBinary64.compare? b.toBinary64 = none ↔ a.IsNaN ∨ b.IsNaN := by
    rw [Binary64.compare?_eq_none_iff, toBinary64_eq_nan_iff, toBinary64_eq_nan_iff]
  -- Integers of the same sort, or with a negative one among them, are compared as integers.
  cases a with
  | signed n =>
      cases b with
      | signed m => simp [compare?, IsNaN]
      | unsigned m =>
          rw [compare?]
          split
          · simp [IsNaN]
          · apply hfloats
      | float y => apply hfloats
  | unsigned n =>
      cases b with
      | signed m =>
          rw [compare?]
          split
          · simp [IsNaN]
          · apply hfloats
      | unsigned m => simp [compare?, IsNaN]
      | float y => apply hfloats
  | float x =>
      cases b with
      | signed m => apply hfloats
      | unsigned m => apply hfloats
      | float y => apply hfloats

end Number

end QueryFilter
