import QueryFilter.Proofs.Numeral.Integer

/-!
# Written integers

An integer of 64 bits that is written in digits, with or without a sign, after any number of zeros
and between blanks, is read as this integer: as a signed one if it can be and else as an unsigned
one, but never as a float.  The text of a number that is an integer spells this integer, so that it
is read back.
-/

namespace QueryFilter.Number

variable {n : Number} {t : Text} {k : Int}

/-- Blanks around a literal do not matter. -/
theorem parse_around (p : Text.Padding) (t : Text) :
  parse (p.around t) = parse t
  := by simp only [parse, p.trim_around]

/-! ### The sort of what is read -/

theorem exists_signed (hn : n.integer? = some k) (hsigned : n.isSigned = true) :
  ∃ m : Int64, n = .signed m ∧ m.toInt = k
  := by
  rcases integer?_cases hn with ⟨m, rfl, rfl⟩ | ⟨m, rfl, rfl⟩
  · use m
  · cases hsigned

theorem exists_unsigned (hn : n.integer? = some k) (hsigned : n.isSigned = false) :
  ∃ m : UInt64, n = .unsigned m ∧ (m.toNat : Int) = k
  := by
  rcases integer?_cases hn with ⟨m, rfl, rfl⟩ | ⟨m, rfl, rfl⟩
  · cases hsigned
  · use m

/-! ### Written numbers -/

theorem neg_two_pow_le_of_integer? (hn : n.integer? = some k) :
  -2 ^ 63 ≤ k
  := by
  rcases integer?_cases hn with ⟨m, rfl, rfl⟩ | ⟨m, rfl, rfl⟩
  · apply m.le_toInt
  · omega

/-- The text of an integer spells it. -/
theorem spells_render (hn : n.integer? = some k) :
  Decimal.Spells n.render k
  := by
  rcases integer?_cases hn with ⟨m, rfl, rfl⟩ | ⟨m, rfl, rfl⟩
  · rw [render]
    split
    · rename_i hneg
      have habs : m.toInt = -(m.toInt.natAbs : Int) := by omega
      rw [habs, Int.natAbs_neg, Int.natAbs_natCast]
      apply Decimal.Spells.minus 0
    · rename_i hnonneg
      have habs : m.toInt = (m.toInt.natAbs : Int) := by omega
      rw [habs, Int.natAbs_natCast]
      apply Decimal.Spells.plain 0
  · apply Decimal.Spells.plain 0

/-- An integer of 64 bits is read from its digits, whatever sign and zeros stand before them and
whatever blanks around them, as a signed integer if it is one and as an unsigned one otherwise.  The
text of a number that is an integer is read as the same integer. -/
theorem parse_around_integer :
  (∀ (p : Text.Padding) (t : Text) (k : Int), Decimal.Spells t k → -2 ^ 63 ≤ k → k < 2 ^ 64 →
      (k < 2 ^ 63 → ∃ m : Int64, m.toInt = k ∧ parse (p.around t) = .ok (.signed m))
        ∧ (2 ^ 63 ≤ k → ∃ m : UInt64, (m.toNat : Int) = k
          ∧ parse (p.around t) = .ok (.unsigned m)))
    ∧ ∀ (n : Number) (k : Int), n.integer? = some k →
      ∃ n', parse n.render = .ok n' ∧ n'.integer? = some k
  := by
  constructor
  · intro p t k h hlow hhigh
    obtain ⟨n, hparse, hinteger, hsort⟩ := parse_of_spells h hlow hhigh
    rw [parse_around, hparse]
    constructor
    · intro hlt
      obtain ⟨m, rfl, hm⟩ := exists_signed hinteger (hsort.trans (decide_eq_true hlt))
      use m, hm
    · intro hle
      obtain ⟨m, rfl, hm⟩ :=
        exists_unsigned hinteger (hsort.trans (decide_eq_false (Int.not_lt.mpr hle)))
      use m, hm
  · intro n k hn
    obtain ⟨n', hparse, hinteger, -⟩ :=
      parse_of_spells (spells_render hn) (neg_two_pow_le_of_integer? hn) (lt_of_integer? hn)
    use n', hparse

/-- The least integer of 64 bits is read as a signed one after two zeros, and the greatest as an
unsigned one after a plus; a small unsigned integer is written and read as a signed one. -/
theorem parse_around_integer_of_extremes :
  (Decimal.Spells "-009223372036854775808".toList (-9223372036854775808)
      ∧ parse "\u3000-009223372036854775808\n".toList = .ok (.signed Int64.minValue))
    ∧ (Decimal.Spells "+18446744073709551615".toList 18446744073709551615
      ∧ ∃ m : UInt64, (m.toNat : Int) = 18446744073709551615
        ∧ parse " +18446744073709551615".toList = .ok (.unsigned m))
    ∧ ((unsigned 7).integer? = some 7
      ∧ ∃ n, parse (unsigned 7).render = .ok n ∧ n.integer? = some 7)
  := by
  obtain ⟨hread, hwritten⟩ := parse_around_integer
  have hleast : Decimal.Spells "-009223372036854775808".toList (-9223372036854775808) :=
    .minus 2 9223372036854775808
  have hgreatest : Decimal.Spells "+18446744073709551615".toList 18446744073709551615 :=
    .plus 0 18446744073709551615
  refine ⟨⟨hleast, ?_⟩, ⟨hgreatest, ?_⟩, rfl, hwritten (.unsigned 7) 7 rfl⟩
  · let p : Text.Padding := ⟨['\u3000'], ['\n'], by decide, by decide⟩
    obtain ⟨m, hm, hparse⟩ := (hread p _ _ hleast (by decide) (by decide)).1 (by decide)
    obtain rfl : m = Int64.minValue := Int64.toInt_inj.mp hm
    apply hparse
  · let p : Text.Padding := ⟨[' '], [], by decide, by decide⟩
    apply (hread p _ _ hgreatest (by decide) (by decide)).2 (by decide)

end QueryFilter.Number
