import QueryFilter.Numeral.Decimal
import QueryFilter.Proofs.Text.Blank

/-!
# Decimal digits

The digits of a number, also after zeros, are read as the number.  A text spells an integer if it
is such digits with or without a sign, and `Decimal.integer?` reads the integer from it.
-/

namespace QueryFilter.Decimal

/-! ### Digits -/

/-- The decimal digits of a number, with zeros in front. -/
def numeral (zeros n : Nat) : Text := List.replicate zeros '0' ++ Nat.toDigits 10 n

variable {zeros n : Nat} {c : Char}

theorem isDigit_of_mem_numeral (h : c ∈ numeral zeros n) :
  c.isDigit = true
  := by
  rcases List.mem_append.mp h with hzero | hdigit
  · rw [List.eq_of_mem_replicate hzero]
    rfl
  · apply Nat.isDigit_of_mem_toDigits (by decide) (by decide) hdigit

/-- Digits begin with a digit. -/
theorem exists_numeral_eq_cons (zeros n : Nat) :
  ∃ c rest, numeral zeros n = c :: rest ∧ c.isDigit = true
  := by
  cases h : numeral zeros n with
  | nil =>
      have hempty := (List.append_eq_nil_iff.mp h).2
      cases Nat.toDigits_ne_nil hempty
  | cons c rest =>
      have hmem : c ∈ numeral zeros n := by
        rw [h]
        apply List.mem_cons_self
      exact ⟨c, rest, rfl, isDigit_of_mem_numeral hmem⟩

theorem isEmpty_numeral (zeros n : Nat) :
  (numeral zeros n).isEmpty = false
  := by
  obtain ⟨c, rest, hcons, -⟩ := exists_numeral_eq_cons zeros n
  rw [hcons]
  rfl

/-- Zeros in front do not matter. -/
theorem value_numeral (zeros n : Nat) :
  value (numeral zeros n) = n
  := by
  rw [value, numeral, Nat.ofDigitChars_append, Nat.ofDigitChars_replicate_zero, Nat.mul_zero,
    Nat.ofDigitChars_ten_toDigits]

theorem isDigits_numeral (zeros n : Nat) :
  isDigits (numeral zeros n) = true
  := by
  have hall : (numeral zeros n).all Char.isDigit = true :=
    List.all_eq_true.mpr fun _ h => isDigit_of_mem_numeral h
  rw [isDigits, isEmpty_numeral, hall]
  rfl

theorem isBare_numeral (zeros n : Nat) :
  (numeral zeros n).IsBare
  := by
  intro c hc
  apply Text.isBareChar_of_isDigit (isDigit_of_mem_numeral hc)

/-! ### Integers -/

/-- A text spells an integer: its digits, after any number of zeros, with or without a sign. -/
inductive Spells : Text → Int → Prop where
  | plain (zeros n : Nat) : Spells (numeral zeros n) n
  | plus (zeros n : Nat) : Spells ('+' :: numeral zeros n) n
  | minus (zeros n : Nat) : Spells ('-' :: numeral zeros n) (-n)

/-- Digits do not begin with a sign. -/
theorem sign_numeral (zeros n : Nat) :
  sign (numeral zeros n) = (false, numeral zeros n)
  := by
  obtain ⟨c, rest, hcons, hc⟩ := exists_numeral_eq_cons zeros n
  rw [hcons]
  unfold sign
  split
  · rename_i heq
    cases heq
    cases hc
  · rename_i heq
    cases heq
    cases hc
  · rfl

variable {t : Text} {k : Int}

theorem Spells.isBare (h : Spells t k) :
  t.IsBare
  := by
  cases h with
  | plain zeros n => apply isBare_numeral
  | plus zeros n => apply Text.IsBare.cons (by decide) (isBare_numeral zeros n)
  | minus zeros n => apply Text.IsBare.cons (by decide) (isBare_numeral zeros n)

theorem integer?_of_spells (h : Spells t k) :
  integer? t = some k
  := by
  cases h with
  | plain zeros n => simp [integer?, sign_numeral, isDigits_numeral, value_numeral]
  | plus zeros n => simp [integer?, sign, isDigits_numeral, value_numeral]
  | minus zeros n => simp [integer?, sign, isDigits_numeral, value_numeral]

end QueryFilter.Decimal
