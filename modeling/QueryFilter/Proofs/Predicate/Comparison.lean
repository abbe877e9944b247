import Mathlib.Data.Int.ConditionallyCompleteOrder
import Mathlib.Order.ConditionallyCompleteLattice.Basic
import QueryFilter.Proofs.Grammar.Bare
import QueryFilter.Proofs.Numeral.Integer

/-!
# Comparing integers

A number field is compared with the literal of an integer of 64 bits exactly if the integers are of
the same sort, or one is negative, or none is above `2 ^ 53`.  Two others are compared by the
nearest floats, which may be equal for different integers but are never in the opposite order.
-/

namespace QueryFilter

open Binary64 (nearest)

namespace Operator

/-- What a comparison of numbers says of two integers. -/
def Relates : Operator → Int → Int → Prop
  | .eq, a, b => a = b
  | .ne, a, b => a ≠ b
  | .gt, a, b => b < a
  | .gte, a, b => b ≤ a
  | .lt, a, b => a < b
  | .lte, a, b => a ≤ b
  | _, _, _ => False

variable {op : Operator} {g : Int → Int} {a b : Int}

/-- A comparison that excludes equality holds of two integers if it holds of their images under a
monotone function. -/
theorem relates_of_monotone (hg : Monotone g) (hop : op ∈ [ne, gt, lt])
    (h : op.Relates (g a) (g b)) :
  op.Relates a b
  := by
  cases op with
  | ne =>
      rintro rfl
      apply h rfl
  | gt => apply hg.reflect_lt h
  | lt => apply hg.reflect_lt h
  | _ => simp at hop

/-- A comparison that includes equality holds of the images of two integers under a monotone
function if it holds of the integers. -/
theorem relates_map_of_monotone (hg : Monotone g) (hop : op ∈ [eq, gte, lte])
    (h : op.Relates a b) :
  op.Relates (g a) (g b)
  := by
  cases op with
  | eq => apply congrArg g h
  | gte => apply hg h
  | lte => apply hg h
  | _ => simp at hop

theorem monotone_nearest_toNat :
  Monotone fun n : Int => (nearest n.toNat : Int)
  := by
  intro a b h
  apply Int.ofNat_le.mpr
  apply Binary64.nearest_mono (Int.toNat_le_toNat h)

end Operator

theorem Relation.holdsFor_compare_iff {op : Operator} {relation : Relation}
    (h : Dialect.numberRelation? op = some relation) (a b : Int) :
  relation.holdsFor (compare a b) = true ↔ op.Relates a b
  := by
  cases op with
  | eq =>
      cases h
      rw [holdsFor, beq_iff_eq, compare_eq_iff_eq, Operator.Relates]
  | ne =>
      cases h
      rw [holdsFor, bne_iff_ne, ne_eq, compare_eq_iff_eq, Operator.Relates]
  | gt =>
      cases h
      rw [holdsFor, beq_iff_eq, compare_gt_iff_gt, Operator.Relates]
  | gte =>
      cases h
      rw [holdsFor, bne_iff_ne, compare_ge_iff_ge, Operator.Relates]
  | lt =>
      cases h
      rw [holdsFor, beq_iff_eq, compare_lt_iff_lt, Operator.Relates]
  | lte =>
      cases h
      rw [holdsFor, bne_iff_ne, compare_le_iff_le, Operator.Relates]
  | _ => cases h

namespace Dialect

variable {op : Operator} {relation : Relation} {literal : Text} {k : Int}

theorem exists_numberRelation? (hop : op ∈ number.supported) :
  ∃ relation, numberRelation? op = some relation
  := by
  have hsome : ∀ op ∈ number.supported, (numberRelation? op).isSome = true := by decide
  apply Option.isSome_iff_exists.mp (hsome op hop)

/-! ### Clauses -/

/-- A clause that compares with an integer holds of integers by their order. -/
theorem holds_number_iff (hrelation : numberRelation? op = some relation) (f : Field)
    {x y : Number} {a b : Int} (hcompare : x.compare? y = some (Ord.compare a b)) {record : Record}
    (hrecord : record f.name = .number x) :
  (clause f relation (.number y) false).holds record = true ↔ op.Relates a b
  := by
  rw [← Relation.holdsFor_compare_iff hrelation]
  simp only [clause, Expr.holds, hrecord, Clause.holds, hcompare]

/-- The value of a comparison with the literal of an integer of 64 bits is a clause that compares
with this integer, which is signed if it can be. -/
theorem compare_number_of_spells (hrelation : numberRelation? op = some relation) (f : Field)
    (hliteral : Decimal.Spells literal k) (hlow : -2 ^ 63 ≤ k) (hhigh : k < 2 ^ 64) :
  ∃ y, number.compare op f literal false = .ok (clause f relation (.number y) false)
    ∧ y.integer? = some k ∧ y.isSigned = decide (k < 2 ^ 63)
  := by
  obtain ⟨y, hy, hinteger, hsigned⟩ := Number.parse_of_spells hliteral hlow hhigh
  use y
  refine ⟨?_, hinteger, hsigned⟩
  simp only [number, hrelation, hy]
  rfl

/-! ### Values -/

/-- A comparison with the literal of an integer of 64 bits makes an expression.  It holds of an
integer exactly if the integers stand in the relation when they are of the same sort, or one is
negative, or none is above `2 ^ 53`; exactly if the nearest floats do when the sorts are different
and none is negative.  At any rate `ne`, `gt` and `lt` hold of no other integers than they should,
and `eq`, `gte` and `lte` of all that they should. -/
theorem holds_number_wrap (hop : op ∈ number.supported) (hliteral : Decimal.Spells literal k)
    (hlow : -2 ^ 63 ≤ k) (hhigh : k < 2 ^ 64) (f : Field) :
  ∃ e : Expr, number.single f (op.wrap literal) = .ok e
    ∧ Composition.compose number f [op.wrap literal] none = .ok (some e)
    ∧ ∀ (record : Record) (x : Number) (n : Int),
      record f.name = .number x → x.integer? = some n →
        (x.isSigned = decide (k < 2 ^ 63) ∨ n < 0 ∨ k < 0 ∨ (n ≤ 2 ^ 53 ∧ k ≤ 2 ^ 53) →
          (e.holds record = true ↔ op.Relates n k))
        ∧ (x.isSigned ≠ decide (k < 2 ^ 63) → 0 ≤ n → 0 ≤ k →
          (e.holds record = true ↔ op.Relates (nearest n.toNat) (nearest k.toNat)))
        ∧ (op ∈ [.ne, .gt, .lt] → e.holds record = true → op.Relates n k)
        ∧ (op ∈ [.eq, .gte, .lte] → op.Relates n k → e.holds record = true)
  := by
  obtain ⟨relation, hrelation⟩ := exists_numberRelation? hop
  obtain ⟨y, hcompare, hinteger, hsigned⟩ :=
    compare_number_of_spells hrelation f hliteral hlow hhigh
  have hcomparison : op.isComparison = true := by
    have hall : ∀ op ∈ number.supported, op.isComparison = true := by decide
    apply hall op hop
  use clause f relation (.number y) false
  refine ⟨?_, ?_, ?_⟩
  · rw [single_wrap f hcomparison hop hliteral.isBare, hcompare]
  · rw [Composition.compose_wrap f hcomparison hop hliteral.isBare, hcompare]
    rfl
  · intro record x n hrecord hn
    rw [← hsigned]
    refine ⟨?_, ?_, ?_, ?_⟩
    · intro hexact
      apply holds_number_iff hrelation f _ hrecord
      rcases hexact with hsort | hneg | hneg | ⟨hle, hle'⟩
      · apply Number.compare?_eq_compare hn hinteger (.inl hsort)
      · apply Number.compare?_eq_compare hn hinteger (.inr (.inl hneg))
      · apply Number.compare?_eq_compare hn hinteger (.inr (.inr hneg))
      · apply Number.compare?_eq_compare_of_le hn hinteger hle hle'
    · intro hsort hnonneg hnonneg'
      apply holds_number_iff hrelation f _ hrecord
      apply Number.compare?_eq_compare_nearest hn hinteger hsort hnonneg hnonneg'
    · intro hstrict hholds
      rcases Number.compare?_cases hn hinteger with hcompare | hcompare
      · apply (holds_number_iff hrelation f hcompare hrecord).mp hholds
      · apply Operator.relates_of_monotone Operator.monotone_nearest_toNat hstrict
        apply (holds_number_iff hrelation f hcompare hrecord).mp hholds
    · intro hweak hrelates
      rcases Number.compare?_cases hn hinteger with hcompare | hcompare
      · apply (holds_number_iff hrelation f hcompare hrecord).mpr hrelates
      · apply (holds_number_iff hrelation f hcompare hrecord).mpr
        apply Operator.relates_map_of_monotone Operator.monotone_nearest_toNat hweak hrelates

/-- A signed literal above `2 ^ 53` is distinguished from the signed integer below it, but not from
the unsigned one. -/
theorem holds_number_wrap_of_large :
  let age : Field := ⟨"age".toList, .number⟩
  let literal := "9007199254740993".toList
  .gte ∈ number.supported ∧ Decimal.Spells literal 9007199254740993
    ∧ (-2 ^ 63 : Int) ≤ 9007199254740993 ∧ (9007199254740993 : Int) < 2 ^ 64
    ∧ ∃ e : Expr, number.single age (Operator.gte.wrap literal) = .ok e
      ∧ e.holds (fun _ => .number (.signed 9007199254740992)) = false
      ∧ e.holds (fun _ => .number (.unsigned 9007199254740992)) = true
  := by
  intro age literal
  have hop : .gte ∈ number.supported := by decide
  have hliteral : Decimal.Spells literal 9007199254740993 := .plain 0 9007199254740993
  have hlow : (-2 ^ 63 : Int) ≤ 9007199254740993 := by decide
  have hhigh : (9007199254740993 : Int) < 2 ^ 64 := by decide
  use hop, hliteral, hlow, hhigh
  obtain ⟨e, he, -, hholds⟩ := holds_number_wrap hop hliteral hlow hhigh age
  use e, he
  constructor
  · obtain ⟨hexact, -⟩ := hholds (fun _ => .number (.signed 9007199254740992)) _ _ rfl rfl
    apply Bool.eq_false_iff.mpr
    intro h
    have hle : (9007199254740993 : Int) ≤ 9007199254740992 := (hexact (.inl rfl)).mp h
    omega
  · obtain ⟨-, hnearest, -⟩ := hholds (fun _ => .number (.unsigned 9007199254740992)) _ _ rfl rfl
    have hsort : (Number.unsigned 9007199254740992).isSigned
        ≠ decide ((9007199254740993 : Int) < 2 ^ 63) := by decide
    apply (hnearest hsort (by decide) (by decide)).mpr
    have hle : (nearest 9007199254740993 : Int) ≤ nearest 9007199254740992 := by decide
    apply hle

/-- Not all comparisons of integers are exact: `2 ^ 53 + 1` as an unsigned integer is equal to the
literal of `2 ^ 53`. -/
theorem not_forall_holds_number_wrap_iff :
  ¬ ∀ (op : Operator) (literal : Text) (k : Int) (f : Field),
    op ∈ number.supported → Decimal.Spells literal k → -2 ^ 63 ≤ k → k < 2 ^ 64 →
      ∃ e : Expr, number.single f (op.wrap literal) = .ok e
        ∧ ∀ (record : Record) (x : Number) (n : Int),
          record f.name = .number x → x.integer? = some n →
            (e.holds record = true ↔ op.Relates n k)
  := by
  intro h
  let age : Field := ⟨"age".toList, .number⟩
  let x : Number := .unsigned 9007199254740993
  have hrelation : numberRelation? .eq = some .eq := rfl
  have hliteral : Decimal.Spells "9007199254740992".toList 9007199254740992 :=
    .plain 0 9007199254740992
  obtain ⟨e, he, hexact⟩ := h .eq _ _ age (by decide) hliteral (by decide) (by decide)
  obtain ⟨y, hy, hinteger, hsigned⟩ :=
    compare_number_of_spells hrelation age hliteral (by decide) (by decide)
  rw [single_wrap age rfl (by decide) hliteral.isBare, hy] at he
  cases he
  have hcompare := Number.compare?_eq_compare_nearest (x := x) rfl hinteger
    (by rw [hsigned]; decide) (by decide) (by decide)
  have hnearest : (nearest 9007199254740993 : Int) = nearest 9007199254740992 := by decide
  have hholds : (clause age .eq (.number y) false).holds (fun _ => .number x) = true :=
    (holds_number_iff hrelation age hcompare rfl).mpr hnearest
  have heq : (9007199254740993 : Int) = 9007199254740992 :=
    (hexact (fun _ => .number x) x _ rfl rfl).mp hholds
  omega

end Dialect

end QueryFilter
