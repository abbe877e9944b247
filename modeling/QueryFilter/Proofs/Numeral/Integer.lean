import QueryFilter.Numeral.Number
import QueryFilter.Proofs.Numeral.Decimal
import QueryFilter.Proofs.Numeral.Rounding

/-!
# Numbers that are integers

Two integers of the same sort are compared as integers, and so are two integers one of which is
negative.  Two others are compared by the nearest floats.  The literal of an integer of 64 bits is
read as this integer, and is signed if it can be.
-/

namespace QueryFilter.Number

open Binary64 (nearest)

/-- The integer that a number is, unless it is a float. -/
def integer? : Number → Option Int
  | .signed n => some n.toInt
  | .unsigned n => some n.toNat
  | .float _ => none

/-- The number is a signed integer. -/
def isSigned : Number → Bool
  | .signed _ => true
  | _ => false

variable {x y : Number} {a b : Int}

/-- A number that is an integer is a signed or an unsigned one. -/
theorem integer?_cases (hx : x.integer? = some a) :
  (∃ m : Int64, x = .signed m ∧ a = m.toInt) ∨ ∃ m : UInt64, x = .unsigned m ∧ a = m.toNat
  := by
  cases x with
  | signed m =>
      cases hx
      left
      use m
  | unsigned m =>
      cases hx
      right
      use m
  | float x => cases hx

theorem lt_of_integer? (hx : x.integer? = some a) :
  a < 2 ^ 64
  := by
  rcases integer?_cases hx with ⟨m, rfl, rfl⟩ | ⟨m, rfl, rfl⟩
  · apply Int.lt_trans m.toInt_lt
    decide
  · apply Int.ofNat_lt.mpr m.toNat_lt

theorem toBinary64_of_integer? (hx : x.integer? = some a) :
  x.toBinary64 = .ofInt a
  := by
  rcases integer?_cases hx with ⟨m, rfl, rfl⟩ | ⟨m, rfl, rfl⟩
  · rfl
  · rfl

/-! ### Comparisons -/

/-- Integers of the same sort are in the order of the integers, and so are two integers of which one
is negative. -/
theorem compare?_eq_compare (hx : x.integer? = some a) (hy : y.integer? = some b)
    (h : x.isSigned = y.isSigned ∨ a < 0 ∨ b < 0) :
  x.compare? y = some (compare a b)
  := by
  rcases integer?_cases hx with ⟨m, rfl, rfl⟩ | ⟨m, rfl, rfl⟩
  · rcases integer?_cases hy with ⟨n, rfl, rfl⟩ | ⟨n, rfl, rfl⟩
    · rfl
    · have hneg : m.toInt < 0 := by
        have hn := Int.natCast_nonneg n.toNat
        rcases h with h | h | h
        · cases h
        · apply h
        · omega
      rw [compare?, if_pos hneg, compare_lt_iff_lt.mpr (by omega)]
  · rcases integer?_cases hy with ⟨n, rfl, rfl⟩ | ⟨n, rfl, rfl⟩
    · have hneg : n.toInt < 0 := by
        have hm := Int.natCast_nonneg m.toNat
        rcases h with h | h | h
        · cases h
        · omega
        · apply h
      rw [compare?, if_pos hneg, compare_gt_iff_gt.mpr (by omega)]
    · rw [compare?, Binary64.compare_natCast]

/-- The floats of integers that are not negative are in the order of the nearest ones. -/
theorem compare?_toBinary64 (hx : x.integer? = some a) (hy : y.integer? = some b) (ha : 0 ≤ a)
    (hb : 0 ≤ b) :
  x.toBinary64.compare? y.toBinary64
    = some (compare (nearest a.toNat : Int) (nearest b.toNat))
  := by
  have hsize : ∀ {z : Number} {n : Int}, z.integer? = some n → n.toNat < 2 ^ 64 := by
    intro z n hz
    have hlt := lt_of_integer? hz
    omega
  rw [← Binary64.compare?_ofInt (hsize hx) (hsize hy), Int.toNat_of_nonneg ha,
    Int.toNat_of_nonneg hb, toBinary64_of_integer? hx, toBinary64_of_integer? hy]

/-- Integers of different sorts of which none is negative are in the order of the nearest floats. -/
theorem compare?_eq_compare_nearest (hx : x.integer? = some a) (hy : y.integer? = some b)
    (hsort : x.isSigned ≠ y.isSigned) (ha : 0 ≤ a) (hb : 0 ≤ b) :
  x.compare? y = some (compare (nearest a.toNat : Int) (nearest b.toNat))
  := by
  rw [← compare?_toBinary64 hx hy ha hb]
  rcases integer?_cases hx with ⟨m, rfl, rfl⟩ | ⟨m, rfl, rfl⟩
  · rcases integer?_cases hy with ⟨n, rfl, rfl⟩ | ⟨n, rfl, rfl⟩
    · cases hsort rfl
    · rw [compare?, if_neg (Int.not_lt.mpr ha)]
  · rcases integer?_cases hy with ⟨n, rfl, rfl⟩ | ⟨n, rfl, rfl⟩
    · rw [compare?, if_neg (Int.not_lt.mpr hb)]
    · cases hsort rfl

/-- Two integers are in the order of the integers or, if the sorts are different and neither is
negative, in that of the nearest floats. -/
theorem compare?_cases (hx : x.integer? = some a) (hy : y.integer? = some b) :
  x.compare? y = some (compare a b)
    ∨ x.compare? y = some (compare (nearest a.toNat : Int) (nearest b.toNat))
  := by
  by_cases h : x.isSigned = y.isSigned ∨ a < 0 ∨ b < 0
  · left
    apply compare?_eq_compare hx hy h
  · right
    rw [not_or, not_or, Int.not_lt, Int.not_lt] at h
    apply compare?_eq_compare_nearest hx hy h.1 h.2.1 h.2.2

/-- Integers up to `2 ^ 53` are in the order of the integers, whatever their sorts. -/
theorem compare?_eq_compare_of_le (hx : x.integer? = some a) (hy : y.integer? = some b)
    (ha : a ≤ 2 ^ 53) (hb : b ≤ 2 ^ 53) :
  x.compare? y = some (compare a b)
  := by
  by_cases h : x.isSigned = y.isSigned ∨ a < 0 ∨ b < 0
  · apply compare?_eq_compare hx hy h
  · rw [not_or, not_or, Int.not_lt, Int.not_lt] at h
    obtain ⟨hsort, ha', hb'⟩ := h
    rw [compare?_eq_compare_nearest hx hy hsort ha' hb', Binary64.nearest_of_le (by omega),
      Binary64.nearest_of_le (by omega), Int.toNat_of_nonneg ha', Int.toNat_of_nonneg hb']

/-! ### Literals -/

/-- An integer of 64 bits is a number, signed if it can be. -/
theorem ofInt?_eq_some {k : Int} (hlow : -2 ^ 63 ≤ k) (hhigh : k < 2 ^ 64) :
  ∃ n, ofInt? k = some n ∧ n.integer? = some k ∧ n.isSigned = decide (k < 2 ^ 63)
  := by
  rcases Int.lt_or_le k (2 ^ 63) with h | h
  · use .signed (.ofInt k)
    refine ⟨?_, ?_, (decide_eq_true h).symm⟩
    · have hle : k ≤ 2 ^ 63 - 1 := Int.le_sub_one_of_lt h
      rw [ofInt?, if_pos ⟨hlow, hle⟩]
    · rw [integer?, Int64.toInt_ofInt_of_le hlow h]
  · have hnonneg : 0 ≤ k := by omega
    have hnat : k.toNat < 2 ^ 64 := by omega
    have hle : ¬k ≤ 2 ^ 63 - 1 := by omega
    use .unsigned (.ofNat k.toNat)
    refine ⟨?_, ?_, (decide_eq_false (Int.not_lt.mpr h)).symm⟩
    · rw [ofInt?, if_neg fun hsigned => hle hsigned.2, if_pos ⟨hnonneg, hhigh⟩]
    · rw [integer?, UInt64.toNat_ofNat_of_lt' hnat, Int.toNat_of_nonneg hnonneg]

/-- The literal of an integer of 64 bits is read as this integer. -/
theorem parse_of_spells {t : Text} {k : Int} (h : Decimal.Spells t k) (hlow : -2 ^ 63 ≤ k)
    (hhigh : k < 2 ^ 64) :
  ∃ n, parse t = .ok n ∧ n.integer? = some k ∧ n.isSigned = decide (k < 2 ^ 63)
  := by
  obtain ⟨n, hn, hinteger, hsigned⟩ := ofInt?_eq_some hlow hhigh
  use n
  refine ⟨?_, hinteger, hsigned⟩
  simp only [parse, h.isBare.trim_eq, Decimal.integer?_of_spells h, Option.bind_some, hn]

end QueryFilter.Number
