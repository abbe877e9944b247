import Mathlib.Data.Int.ConditionallyCompleteOrder
import Mathlib.Order.ConditionallyCompleteLattice.Basic
import QueryFilter.Proofs.Numeral.Order
import QueryFilter.Proofs.Numeral.Rounding

/-!
# The strict order of numbers

Two numbers are in the order of their floats.  Where these are equal, integers of the same sort are
in the order of the integers, and other numbers count as equal.  So "below" is a strict partial
order across the three sorts, although "equal" is not transitive: two integers of one sort may both
equal the float between them.
-/

namespace QueryFilter

namespace Binary64

/-! ### The floats of integers -/

/-- The magnitude nearest to a natural number. -/
def magnitude (n : Nat) : Nat := min (roundRatio n 1) infinityBits

theorem magnitude_mono :
  Monotone magnitude
  := by
  intro a b h
  have hvalue : value (roundRatio a 1) ≤ value (roundRatio b 1) := by
    rw [value_roundRatio, value_roundRatio]
    apply Nat.mul_le_mul_right _ (nearest_mono h)
  apply min_le_min_right _ (value_strictMono.le_iff_le.mp hvalue)

theorem magnitude_pos {n : Nat} (h : 0 < n) :
  0 < magnitude n
  := by
  have hone : 0 < magnitude 1 := by decide +kernel
  apply Nat.lt_of_lt_of_le hone (magnitude_mono h)

/-- The place of the float nearest to an integer in the order of the floats. -/
def place (n : Int) : Int := if n < 0 then -magnitude n.natAbs else magnitude n.natAbs

theorem key_ofInt_eq_place (n : Int) :
  (ofInt n).key = some (place n)
  := by
  rw [ofInt, ofRatio, ofBits, place]
  by_cases h : n < 0
  · rw [decide_eq_true h, if_pos h]
    rfl
  · rw [decide_eq_false h, if_neg h]
    rfl

/-- Rounding keeps the order of integers. -/
theorem place_mono :
  Monotone place
  := by
  intro a b h
  rw [place, place]
  split
  · split
    · have hle := magnitude_mono (show b.natAbs ≤ a.natAbs by omega)
      omega
    · omega
  · split
    · omega
    · have hle := magnitude_mono (show a.natAbs ≤ b.natAbs by omega)
      omega

/-- The float of a negative integer is below those of all others. -/
theorem place_lt_natCast {m : Int} (h : m < 0) (n : Nat) :
  place m < place n
  := by
  have hpos := magnitude_pos (Int.natAbs_pos.mpr h.ne)
  rw [place, place, if_pos h, if_neg (Int.natCast_nonneg n).not_gt]
  omega

end Binary64

namespace Number

open Binary64 (place)

variable {a b c : Number}

/-! ### Floats first -/

/-- The order of two numbers with the same float. -/
def tie : Number → Number → Ordering
  | .signed a, .signed b => compare a.toInt b.toInt
  | .unsigned a, .unsigned b => compare a.toNat b.toNat
  | _, _ => .eq

/-- Where the images of two integers under a monotone function decide their order, they decide it
rightly. -/
theorem compare_eq_then_of_monotone {g : Int → Int} (hg : Monotone g) (m n : Int) :
  compare m n = (compare (g m) (g n)).then (compare m n)
  := by
  rcases lt_trichotomy (g m) (g n) with h | h | h
  · rw [compare_lt_iff_lt.mpr h, compare_lt_iff_lt.mpr (hg.reflect_lt h)]
    rfl
  · rw [compare_eq_iff_eq.mpr h]
    rfl
  · rw [compare_gt_iff_gt.mpr h, compare_gt_iff_gt.mpr (hg.reflect_lt h)]
    rfl

/-- Two numbers are in the order of their floats, and in that of a tie where these are equal. -/
theorem compare?_eq_then {j k : Int} (ha : a.toBinary64.key = some j)
    (hb : b.toBinary64.key = some k) :
  a.compare? b = some ((compare j k).then (tie a b))
  := by
  have hfloats : a.toBinary64.compare? b.toBinary64 = some ((compare j k).then .eq) := by
    rw [Ordering.then_eq, Binary64.compare?, ha, hb]
  have hplace : ∀ {n : Int} {j : Int}, (Binary64.ofInt n).key = some j → place n = j := by
    intro n j h
    rw [Binary64.key_ofInt_eq_place] at h
    apply Option.some.inj h
  cases a with
  | signed m =>
      cases b with
      | signed n =>
          rw [compare?, compare_eq_then_of_monotone Binary64.place_mono, hplace ha, hplace hb, tie]
      | unsigned n =>
          rw [compare?]
          split
          · rename_i hneg
            have hlt := Binary64.place_lt_natCast hneg n.toNat
            rw [hplace ha, hplace hb] at hlt
            rw [compare_lt_iff_lt.mpr hlt, Ordering.lt_then]
          · apply hfloats
      | float y => apply hfloats
  | unsigned m =>
      cases b with
      | signed n =>
          rw [compare?]
          split
          · rename_i hneg
            have hlt := Binary64.place_lt_natCast hneg m.toNat
            rw [hplace hb, hplace ha] at hlt
            rw [compare_gt_iff_gt.mpr hlt, Ordering.gt_then]
          · apply hfloats
      | unsigned n =>
          rw [compare?, ← Binary64.compare_natCast,
            compare_eq_then_of_monotone Binary64.place_mono, hplace ha, hplace hb,
            Binary64.compare_natCast, tie]
      | float y => apply hfloats
  | float x =>
      cases b with
      | signed n => apply hfloats
      | unsigned n => apply hfloats
      | float y => apply hfloats

theorem exists_key (h : ¬ a.IsNaN) :
  ∃ k, a.toBinary64.key = some k
  := by
  apply Option.ne_none_iff_exists'.mp
  rw [ne_eq, Binary64.key_eq_none_iff, toBinary64_eq_nan_iff]
  apply h

/-! ### Ties -/

theorem tie_swap (a b : Number) :
  tie b a = (tie a b).swap
  := by
  cases a with
  | signed m =>
      cases b with
      | signed n => apply (Int.compare_swap m.toInt n.toInt).symm
      | _ => rfl
  | unsigned m =>
      cases b with
      | unsigned n => apply (Nat.compare_swap m.toNat n.toNat).symm
      | _ => rfl
  | float x => cases b <;> rfl

/-- Only integers of the same sort are in a strict order if they have the same float. -/
theorem tie_trans (hab : tie a b = .lt) (hbc : tie b c = .lt) :
  tie a c = .lt
  := by
  cases a with
  | signed m =>
      cases b with
      | signed n =>
          cases c with
          | signed o =>
              have hmn := compare_lt_iff_lt.mp hab
              have hno := compare_lt_iff_lt.mp hbc
              apply compare_lt_iff_lt.mpr (hmn.trans hno)
          | _ => cases hbc
      | _ => cases hab
  | unsigned m =>
      cases b with
      | unsigned n =>
          cases c with
          | unsigned o =>
              have hmn := compare_lt_iff_lt.mp hab
              have hno := compare_lt_iff_lt.mp hbc
              apply compare_lt_iff_lt.mpr (hmn.trans hno)
          | _ => cases hbc
      | _ => cases hab
  | float x => cases hab

/-! ### The order -/

theorem compare?_swap (a b : Number) :
  b.compare? a = (a.compare? b).map Ordering.swap
  := by
  by_cases h : a.IsNaN ∨ b.IsNaN
  · rw [compare?_eq_none_iff.mpr h, compare?_eq_none_iff.mpr h.symm]
    rfl
  · obtain ⟨j, ha⟩ := exists_key (mt Or.inl h)
    obtain ⟨k, hb⟩ := exists_key (mt Or.inr h)
    rw [compare?_eq_then hb ha, compare?_eq_then ha hb, Option.map_some, Ordering.swap_then,
      Int.compare_swap, tie_swap]

/-- A number is below another one if its float is, or if the floats are equal and it is by a tie. -/
theorem compare?_eq_lt_iff :
  a.compare? b = some .lt
    ↔ ∃ j k, a.toBinary64.key = some j ∧ b.toBinary64.key = some k
      ∧ (j < k ∨ j = k ∧ tie a b = .lt)
  := by
  constructor
  · intro h
    have hnumbers : ¬ (a.IsNaN ∨ b.IsNaN) := by
      rw [← compare?_eq_none_iff, h]
      apply Option.some_ne_none
    obtain ⟨j, ha⟩ := exists_key (mt Or.inl hnumbers)
    obtain ⟨k, hb⟩ := exists_key (mt Or.inr hnumbers)
    use j, k, ha, hb
    rw [compare?_eq_then ha hb, Option.some_inj, Ordering.then_eq_lt, compare_lt_iff_lt,
      compare_eq_iff_eq] at h
    apply h
  · rintro ⟨j, k, ha, hb, h⟩
    rw [compare?_eq_then ha hb, Option.some_inj, Ordering.then_eq_lt, compare_lt_iff_lt,
      compare_eq_iff_eq]
    apply h

theorem compare?_self_ne_lt (a : Number) :
  a.compare? a ≠ some .lt
  := by
  intro h
  have hswap := compare?_swap a a
  rw [h] at hswap
  cases hswap

theorem compare?_lt_trans (hab : a.compare? b = some .lt) (hbc : b.compare? c = some .lt) :
  a.compare? c = some .lt
  := by
  obtain ⟨i, j, ha, hb, hij⟩ := compare?_eq_lt_iff.mp hab
  obtain ⟨j', k, hb', hc, hjk⟩ := compare?_eq_lt_iff.mp hbc
  obtain rfl : j = j' := Option.some.inj (hb.symm.trans hb')
  apply compare?_eq_lt_iff.mpr
  use i, k, ha, hc
  rcases hij with hlt | ⟨rfl, htie⟩
  · left
    rcases hjk with hlt' | ⟨rfl, -⟩
    · apply hlt.trans hlt'
    · apply hlt
  · rcases hjk with hlt | ⟨rfl, htie'⟩
    · left
      apply hlt
    · right
      use rfl
      apply tie_trans htie htie'

/-- Numbers of all sorts are strictly ordered in part.  The order of two numbers read backwards is
the reverse one; they stand in none exactly if one of them is not a number; no number is below
itself; and a number that is below a second one is below whatever that one is below. -/
theorem compare?_isStrictOrder (a b c : Number) :
  b.compare? a = (a.compare? b).map Ordering.swap
    ∧ (a.compare? b = none ↔ a.IsNaN ∨ b.IsNaN)
    ∧ a.compare? a ≠ some .lt
    ∧ (a.compare? b = some .lt → b.compare? c = some .lt → a.compare? c = some .lt)
  := ⟨compare?_swap a b, compare?_eq_none_iff, compare?_self_ne_lt a, compare?_lt_trans⟩

/-- Of two signed integers with the same float one is below the other, though both equal the float,
and both are below an unsigned integer with the next float. -/
theorem compare?_isStrictOrder_of_tie :
  let a : Number := .signed 9007199254740992
  let b : Number := .signed 9007199254740993
  let c : Number := .unsigned 9007199254740994
  let x : Number := .float (.ofInt 9007199254740992)
  a.compare? b = some .lt ∧ b.compare? c = some .lt ∧ a.compare? c = some .lt
    ∧ a.compare? x = some .eq ∧ x.compare? b = some .eq ∧ b.compare? x = some .eq
  := by
  intro a b c x
  have hab : a.compare? b = some .lt := by decide +kernel
  have hbc : b.compare? c = some .lt := by decide +kernel
  have hax : a.compare? x = some .eq := by decide +kernel
  have hxb : x.compare? b = some .eq := by decide +kernel
  obtain ⟨-, -, -, htrans⟩ := compare?_isStrictOrder a b c
  obtain ⟨hswap, -⟩ := compare?_isStrictOrder x b c
  refine ⟨hab, hbc, htrans hab hbc, hax, hxb, ?_⟩
  rw [hswap, hxb]
  rfl

end Number

end QueryFilter
