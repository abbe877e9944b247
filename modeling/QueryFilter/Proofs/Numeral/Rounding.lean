import Mathlib.Algebra.Order.Group.Unbundled.Int
import Mathlib.Algebra.Order.Ring.Nat
import Mathlib.Algebra.Order.Ring.Unbundled.Basic
import Mathlib.Order.Compare
import Mathlib.Order.Monotone.Basic
import QueryFilter.Numeral.Binary64

/-!
# Rounding integers

The float nearest to a natural number has the value `Binary64.nearest` of it, an integer with 53
significant bits at most, and no integer of the same precision is nearer.  Rounding keeps the order
of integers but not all differences between them; it changes none up to `2 ^ 53`.  Magnitudes are in
the order of their values, so that floats that are rounded from integers are compared like their
values.
-/

namespace QueryFilter.Binary64

variable {num num' den n : Nat}

/-! ### Rounding quotients -/

/-- A quotient is rounded down if the remainder is at most half of the divisor, and up if it is at
least half.  Half-way the result is even. -/
theorem roundHalfEven_cases (num den : Nat) :
  (roundHalfEven num den = num / den ∧ 2 * (num % den) ≤ den
      ∧ (2 * (num % den) = den → num / den % 2 = 0))
    ∨ (roundHalfEven num den = num / den + 1 ∧ den ≤ 2 * (num % den)
      ∧ (2 * (num % den) = den → (num / den + 1) % 2 = 0))
  := by
  simp only [roundHalfEven]
  split_ifs <;> omega

theorem div_le_roundHalfEven (num den : Nat) :
  num / den ≤ roundHalfEven num den
  := by
  rcases roundHalfEven_cases num den with ⟨h, -⟩ | ⟨h, -⟩
  · rw [h]
  · rw [h]
    apply Nat.le_succ

theorem roundHalfEven_le (num den : Nat) :
  roundHalfEven num den ≤ num / den + 1
  := by
  rcases roundHalfEven_cases num den with ⟨h, -⟩ | ⟨h, -⟩
  · rw [h]
    apply Nat.le_succ
  · rw [h]

/-- No multiple of the divisor is nearer than the one that a quotient is rounded to. -/
theorem natAbs_sub_roundHalfEven_le (hden : 0 < den) (num k : Nat) :
  ((num : Int) - (roundHalfEven num den * den : Nat)).natAbs
    ≤ ((num : Int) - (k * den : Nat)).natAbs
  := by
  have hnum := Nat.div_add_mod' num den
  have hmod := Nat.mod_lt num hden
  have hsucc := Nat.add_one_mul (num / den) den
  have hmul : k * den ≤ num / den * den ∨ (num / den + 1) * den ≤ k * den := by
    rcases Nat.lt_or_ge (num / den) k with hlt | hge
    · right
      apply Nat.mul_le_mul_right den (Nat.add_one_le_of_lt hlt)
    · left
      apply Nat.mul_le_mul_right den hge
  rcases roundHalfEven_cases num den with ⟨h, hhalf, -⟩ | ⟨h, hhalf, -⟩
  · rw [h]
    omega
  · rw [h]
    omega

/-- Quotients are rounded in their order. -/
theorem roundHalfEven_mono (h : num ≤ num') (den : Nat) :
  roundHalfEven num den ≤ roundHalfEven num' den
  := by
  rcases Nat.lt_or_eq_of_le (Nat.div_le_div_right (c := den) h) with hlt | heq
  · apply Nat.le_trans (roundHalfEven_le num den)
    apply Nat.le_trans hlt (div_le_roundHalfEven num' den)
  · -- Between the same two integers the greater remainder is not rounded down further.
    have hnum := Nat.div_add_mod num den
    have hnum' := Nat.div_add_mod num' den
    rw [← heq] at hnum'
    have hmod : num % den ≤ num' % den := by omega
    have hparity : num / den % 2 < 2 := Nat.mod_lt _ (by decide)
    simp only [roundHalfEven, ← heq]
    split_ifs <;> omega

theorem roundHalfEven_mul_mul_right {c : Nat} (hc : 0 < c) (num den : Nat) :
  roundHalfEven (num * c) (den * c) = roundHalfEven num den
  := by
  have htwice : 2 * (num % den * c) = 2 * (num % den) * c := (Nat.mul_assoc ..).symm
  simp only [roundHalfEven, Nat.mul_div_mul_right _ _ hc, Nat.mul_mod_mul_right, htwice,
    Nat.mul_lt_mul_right hc]

/-- An integer is not changed. -/
theorem roundHalfEven_mul_left (hden : 0 < den) (n : Nat) :
  roundHalfEven (n * den) den = n
  := by
  have hpos : 2 * 0 < den := hden
  rw [roundHalfEven, Nat.mul_mod_left, Nat.mul_div_cancel _ hden, if_pos hpos]

/-! ### Rounding integers -/

/-- The number of bits of an integer beyond the 53 that a float keeps. -/
def excess (n : Nat) : Nat := n.log2 - 52

/-- The nearest integer with 53 significant bits at most, the even one of two that are equally near
where even is counted in the last of these bits. -/
def nearest (n : Nat) : Nat := roundHalfEven n (2 ^ excess n) * 2 ^ excess n

/-- No integer of the same precision is nearer. -/
theorem natAbs_sub_nearest_le (n k : Nat) :
  ((n : Int) - nearest n).natAbs ≤ ((n : Int) - (k * 2 ^ excess n : Nat)).natAbs
  := natAbs_sub_roundHalfEven_le (Nat.two_pow_pos _) n k

theorem nearest_of_excess_eq_zero (h : excess n = 0) :
  nearest n = n
  := by
  have hone := roundHalfEven_mul_left Nat.one_pos n
  rw [Nat.mul_one] at hone
  rw [nearest, h, Nat.pow_zero, hone, Nat.mul_one]

/-- Integers up to `2 ^ 53` are not changed. -/
theorem nearest_of_le (h : n ≤ 2 ^ 53) :
  nearest n = n
  := by
  rcases Nat.lt_or_eq_of_le h with hlt | rfl
  · apply nearest_of_excess_eq_zero
    rcases Nat.eq_zero_or_pos n with rfl | hpos
    · rfl
    · have hlog := (Nat.log2_lt hpos.ne').mpr hlt
      rw [excess]
      omega
  · decide

/-- The significant bits of an integer with more than 53 of them. -/
theorem roundHalfEven_excess_bounds (h : 52 < n.log2) :
  2 ^ 52 ≤ roundHalfEven n (2 ^ excess n) ∧ roundHalfEven n (2 ^ excess n) ≤ 2 ^ 53
  := by
  have hn : n ≠ 0 := by
    rintro rfl
    cases h
  have hlow := Nat.log2_self_le hn
  have hhigh := Nat.lt_log2_self (n := n)
  have hlog : n.log2 = 52 + excess n := by
    rw [excess]
    omega
  rw [hlog] at hlow hhigh
  rw [Nat.pow_add] at hlow
  rw [Nat.add_right_comm, Nat.pow_add] at hhigh
  constructor
  · apply Nat.le_trans _ (div_le_roundHalfEven _ _)
    apply (Nat.le_div_iff_mul_le (Nat.two_pow_pos _)).mpr hlow
  · apply Nat.le_trans (roundHalfEven_le _ _)
    apply (Nat.div_lt_iff_lt_mul (Nat.two_pow_pos _)).mpr hhigh

/-- Rounding does not leave the powers of two around an integer. -/
theorem nearest_bounds (hn : n ≠ 0) :
  2 ^ n.log2 ≤ nearest n ∧ nearest n ≤ 2 ^ (n.log2 + 1)
  := by
  rcases Nat.lt_or_ge 52 n.log2 with h | h
  · have hlog : n.log2 = 52 + excess n := by
      rw [excess]
      omega
    obtain ⟨hlow, hhigh⟩ := roundHalfEven_excess_bounds h
    rw [nearest, hlog, Nat.add_right_comm, Nat.pow_add, Nat.pow_add]
    constructor
    · apply Nat.mul_le_mul_right _ hlow
    · apply Nat.mul_le_mul_right _ hhigh
  · rw [nearest_of_excess_eq_zero (Nat.sub_eq_zero_of_le h)]
    use Nat.log2_self_le hn
    apply Nat.le_of_lt Nat.lt_log2_self

/-- Integers are rounded in their order. -/
theorem nearest_mono :
  Monotone nearest
  := by
  intro a b h
  rcases Nat.eq_zero_or_pos a with rfl | ha
  · apply Nat.zero_le
  · have hb : b ≠ 0 := (Nat.lt_of_lt_of_le ha h).ne'
    rcases Nat.lt_or_ge a.log2 b.log2 with hlt | hge
    · -- A power of two lies between them.
      apply Nat.le_trans (nearest_bounds ha.ne').2
      apply Nat.le_trans _ (nearest_bounds hb).1
      apply Nat.pow_le_pow_right (by decide) hlt
    · have hle : a.log2 ≤ b.log2 := by
        apply (Nat.le_log2 hb).mpr
        apply Nat.le_trans (Nat.log2_self_le ha.ne') h
      have hexcess : excess a = excess b := by rw [excess, excess, Nat.le_antisymm hle hge]
      rw [nearest, nearest, hexcess]
      apply Nat.mul_le_mul_right
      apply roundHalfEven_mono h

/-! ### The values of magnitudes -/

/-- The value of a magnitude in units of `2 ^ -1074`. -/
def value (magnitude : Nat) : Nat := significand magnitude * 2 ^ exponent magnitude

theorem stride_pos :
  0 < stride
  := by decide

/-- The smallest magnitudes are their own values. -/
theorem value_of_lt {m : Nat} (h : m < 2 * stride) :
  value m = m
  := by
  have hdiv : m / stride ≤ 1 := by
    apply Nat.le_of_lt_succ
    apply (Nat.div_lt_iff_lt_mul stride_pos).mpr h
  have hexponent : exponent m = 0 := by
    rw [exponent]
    omega
  rw [value, significand, hexponent, Nat.zero_mul, Nat.sub_zero, Nat.pow_zero, Nat.mul_one]

/-- The magnitude with a significand of 53 bits, or the next one, and an exponent has their
value. -/
theorem value_add {p r : Nat} (hlow : stride ≤ r) (hhigh : r ≤ 2 * stride) :
  value (p * stride + r) = r * 2 ^ p
  := by
  rcases Nat.lt_or_eq_of_le hhigh with hlt | rfl
  · have hexponent : exponent (p * stride + r) = p := by
      have hdiv : (p * stride + r) / stride = p + 1 := by
        rw [Nat.mul_comm, Nat.mul_add_div stride_pos, Nat.div_eq_of_lt_le (k := 1)] <;> omega
      rw [exponent, hdiv, Nat.add_sub_cancel]
    rw [value, significand, hexponent, Nat.add_sub_cancel_left]
  · have hexponent : exponent (p * stride + 2 * stride) = p + 1 := by
      rw [exponent, ← Nat.add_mul, Nat.mul_div_cancel _ stride_pos]
      rfl
    have hsignificand : p * stride + 2 * stride - (p + 1) * stride = stride := by
      rw [← Nat.add_mul, ← Nat.sub_mul]
      simp
    rw [value, significand, hexponent, hsignificand, Nat.pow_succ, Nat.mul_comm 2 stride,
      Nat.mul_assoc, Nat.mul_comm (2 ^ p)]

/-- Magnitudes are in the order of their values. -/
theorem value_strictMono :
  StrictMono value
  := by
  apply strictMono_nat_of_lt_succ
  intro m
  rcases Nat.lt_or_ge m stride with hlt | hge
  · rw [value_of_lt (by omega), value_of_lt (by omega)]
    apply Nat.lt_succ_self
  · -- The next magnitude has the same exponent, or the significand that begins the next one.
    obtain ⟨p, hp⟩ : ∃ p, m / stride = p + 1 :=
      Nat.exists_eq_succ_of_ne_zero (Nat.div_pos hge stride_pos).ne'
    have hmod := Nat.mod_lt m stride_pos
    have hm : m = p * stride + (stride + m % stride) := by
      have hdiv := Nat.div_add_mod m stride
      rw [hp, Nat.mul_succ, Nat.mul_comm stride p, Nat.add_assoc] at hdiv
      apply hdiv.symm
    rw [hm, Nat.add_assoc (p * stride), value_add (by omega) (by omega),
      value_add (by omega) (by omega)]
    apply Nat.mul_lt_mul_of_pos_right (Nat.lt_succ_self _) (Nat.two_pow_pos p)

/-! ### Floats of integers -/

/-- The significand of an integer, when units are fractions of one, has 53 bits, and its value is
the nearest integer. -/
theorem roundHalfEven_units (hn : n ≠ 0) {k : Nat} (hk : 52 ≤ k) :
  stride ≤ roundHalfEven (n * 2 ^ k) (2 ^ (n.log2 + k - 52))
    ∧ roundHalfEven (n * 2 ^ k) (2 ^ (n.log2 + k - 52)) ≤ 2 * stride
    ∧ roundHalfEven (n * 2 ^ k) (2 ^ (n.log2 + k - 52)) * 2 ^ (n.log2 + k - 52)
      = nearest n * 2 ^ k
  := by
  rcases Nat.lt_or_ge 52 n.log2 with h | h
  · have hexponent : n.log2 + k - 52 = excess n + k := by
      rw [excess]
      omega
    obtain ⟨hlow, hhigh⟩ := roundHalfEven_excess_bounds h
    rw [hexponent, Nat.pow_add, roundHalfEven_mul_mul_right (Nat.two_pow_pos k), nearest,
      Nat.mul_assoc]
    use hlow, hhigh
  · have hunits : 2 ^ k = 2 ^ (52 - n.log2) * 2 ^ (n.log2 + k - 52) := by
      rw [← Nat.pow_add]
      apply congrArg (2 ^ ·)
      omega
    have hlow := Nat.log2_self_le hn
    have hhigh := Nat.le_of_lt (Nat.lt_log2_self (n := n))
    have hstride : 2 ^ n.log2 * 2 ^ (52 - n.log2) = stride := by
      rw [← Nat.pow_add, Nat.add_sub_cancel' h]
      rfl
    rw [hunits, ← Nat.mul_assoc, roundHalfEven_mul_left (Nat.two_pow_pos _),
      nearest_of_excess_eq_zero (Nat.sub_eq_zero_of_le h)]
    refine ⟨?_, ?_, Nat.mul_assoc ..⟩
    · rw [← hstride]
      apply Nat.mul_le_mul_right _ hlow
    · rw [← hstride, ← Nat.mul_assoc, ← Nat.pow_succ']
      apply Nat.mul_le_mul_right _ hhigh

theorem log2_mul_two_pow (hn : n ≠ 0) (k : Nat) :
  (n * 2 ^ k).log2 = n.log2 + k
  := by
  have hpos := Nat.two_pow_pos k
  apply (Nat.log2_eq_iff (Nat.mul_ne_zero hn hpos.ne')).mpr
  constructor
  · rw [Nat.pow_add]
    apply Nat.mul_le_mul_right _ (Nat.log2_self_le hn)
  · rw [Nat.add_right_comm, Nat.pow_add]
    apply Nat.mul_lt_mul_of_pos_right Nat.lt_log2_self hpos

/-- The magnitude of an integer, in units of which one is made up of `2 ^ 1074`. -/
theorem roundRatio_one (n : Nat) :
  roundRatio n 1
    = ((n * 2 ^ 1074).log2 - 52) * stride
      + roundHalfEven (n * 2 ^ 1074) (2 ^ ((n * 2 ^ 1074).log2 - 52))
  := by rw [← Nat.shiftLeft_eq, ← Nat.one_shiftLeft, roundRatio, Nat.div_one]

/-- An integer is rounded to the magnitude whose value is the nearest integer. -/
theorem value_roundRatio (n : Nat) :
  value (roundRatio n 1) = nearest n * 2 ^ 1074
  := by
  rw [roundRatio_one]
  generalize hk : 1074 = k
  have hle : 52 ≤ k := by omega
  rcases Nat.eq_zero_or_pos n with rfl | hn
  · rw [Nat.zero_mul, nearest_of_le (Nat.zero_le _), Nat.zero_mul]
    rfl
  · obtain ⟨hlow, hhigh, hvalue⟩ := roundHalfEven_units hn.ne' hle
    rw [log2_mul_two_pow hn.ne', value_add hlow hhigh, hvalue]

/-- No integer of 64 bits is rounded to infinity. -/
theorem roundRatio_lt_infinityBits (h : n < 2 ^ 64) :
  roundRatio n 1 < infinityBits
  := by
  rw [roundRatio_one]
  generalize hk : 1074 = k
  rcases Nat.eq_zero_or_pos n with rfl | hn
  · rw [Nat.zero_mul]
    decide
  · have hlog := (Nat.log2_lt hn.ne').mpr h
    obtain ⟨-, hhigh, -⟩ := roundHalfEven_units hn.ne' (k := k) (by omega)
    rw [log2_mul_two_pow hn.ne']
    have hexponent : (n.log2 + k - 52) * stride ≤ 1085 * stride := by
      apply Nat.mul_le_mul_right
      omega
    apply Nat.lt_of_le_of_lt (Nat.add_le_add hexponent hhigh)
    decide

/-- Integers are rounded to magnitudes in the order of the nearest integers. -/
theorem compare_roundRatio (a b : Nat) :
  compare (roundRatio a 1) (roundRatio b 1) = compare (nearest a) (nearest b)
  := by rw [← cmp_eq_compare, ← cmp_eq_compare, ← value_strictMono.cmp_map_eq, value_roundRatio,
    value_roundRatio, cmp_mul_pos_right (Nat.two_pow_pos _)]

/-! ### Comparing floats of integers -/

theorem compare_natCast (a b : Nat) :
  compare (a : Int) b = compare a b
  := by rw [← cmp_eq_compare, ← cmp_eq_compare, Int.natCast_strictMono.cmp_map_eq]

theorem key_ofInt (h : n < 2 ^ 64) :
  (ofInt n).key = some (roundRatio n 1 : Int)
  := by
  have hmin := Nat.min_eq_left (Nat.le_of_lt (roundRatio_lt_infinityBits h))
  have hsign : decide ((n : Int) < 0) = false := decide_eq_false (Int.natCast_nonneg n).not_gt
  rw [ofInt, ofRatio, hsign, Int.natAbs_natCast, ofBits, key]
  simp only [hmin]

/-- The floats of integers of 64 bits are in the order of the nearest integers. -/
theorem compare?_ofInt {a b : Nat} (ha : a < 2 ^ 64) (hb : b < 2 ^ 64) :
  (ofInt a).compare? (ofInt b) = some (compare (nearest a : Int) (nearest b))
  := by
  rw [compare?, key_ofInt ha, key_ofInt hb]
  apply congrArg some
  rw [compare_natCast, compare_roundRatio, compare_natCast]

end QueryFilter.Binary64
