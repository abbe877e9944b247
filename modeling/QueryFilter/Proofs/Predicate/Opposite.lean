import QueryFilter.Proofs.Numeral.Order
import QueryFilter.Proofs.Predicate.Admitted

/-!
# Opposite comparisons

A missing value, one of another kind and the float that is not a number satisfy no comparison.  So
the opposite of a comparison is not its negation: where the comparison does not hold it holds only
of values that are compared at all.  These are all other values of the kind, since no literal is
read as the float that is not a number.
-/

namespace QueryFilter

open Dialect (clause)

namespace FieldKind

/-- The value is one of the kind, but not the float that is not a number. -/
def Compares : FieldKind → Value → Prop
  | .text, .text _ => True
  | .number, .number n => ¬ n.IsNaN
  | .timestamp, .timestamp _ => True
  | .enumeration _, .member _ => True
  | _, _ => False

/-- The comparisons of a kind with their opposites. -/
def opposites : FieldKind → List (Operator × Operator)
  | .text => [(.eq, .ne)]
  | .number => [(.eq, .ne), (.gt, .lte), (.lt, .gte)]
  | .enumeration _ => [(.eq, .ne)]
  | _ => []

end FieldKind

/-- Exactly one of two expressions holds of a record with a value of the kind in the field, and
neither does of any other record. -/
structure Expr.Opposed (kind : FieldKind) (name : Text) (e e' : Expr) : Prop where
  holds_eq_not (record : Record) (h : kind.Compares (record name)) :
    e'.holds record = !e.holds record
  holds_eq_false (record : Record) (h : ¬ kind.Compares (record name)) :
    e.holds record = false ∧ e'.holds record = false

variable {f : Field} {relation relation' : Relation} {n : Number}

theorem Number.IsFinite.not_isNaN (h : n.IsFinite) :
  ¬ n.IsNaN
  := by
  rintro rfl
  cases h

namespace Dialect

/-! ### Texts and members of enumerations -/

theorem opposed_text (f : Field) (t : Text) (ignoreCase : Bool) :
  Expr.Opposed .text f.name (clause f .eq (.text t) ignoreCase)
    (clause f .ne (.text t) ignoreCase)
  where
  holds_eq_not record h := by
    cases hvalue : record f.name with
    | text value =>
        simp only [clause, Expr.holds, Clause.holds, hvalue, Clause.holdsOfText,
          Relation.holdsOfTexts]
        split
        · rfl
        · rfl
    | _ =>
        rw [hvalue] at h
        cases h
  holds_eq_false record h := by
    cases hvalue : record f.name with
    | text value =>
        rw [hvalue] at h
        cases h trivial
    | _ => simp [clause, Expr.holds, Clause.holds, hvalue]

theorem opposed_member (f : Field) (members : List Text) (name : Text) :
  Expr.Opposed (.enumeration members) f.name (clause f .eq (.member name) false)
    (clause f .ne (.member name) false)
  where
  holds_eq_not record h := by
    cases hvalue : record f.name with
    | member value =>
        simp only [clause, Expr.holds, Clause.holds, hvalue]
        rfl
    | _ =>
        rw [hvalue] at h
        cases h
  holds_eq_false record h := by
    cases hvalue : record f.name with
    | member value =>
        rw [hvalue] at h
        cases h trivial
    | _ => simp [clause, Expr.holds, Clause.holds, hvalue]

/-! ### Numbers -/

/-- A comparison with a number is decided by the order in which the value stands to it, and holds of
no value that stands in none. -/
theorem holds_number (f : Field) (relation : Relation) (n : Number) (record : Record) :
  (clause f relation (.number n) false).holds record
    = ((record f.name).number?.bind (·.compare? n)).any relation.holdsFor
  := by
  cases hvalue : record f.name with
  | number m =>
      simp only [clause, Expr.holds, Clause.holds, hvalue, Value.number?, Option.bind_some]
      cases m.compare? n with
      | none => rfl
      | some o => rfl
  | _ => simp [clause, Expr.holds, Clause.holds, hvalue, Value.number?]

/-- Just those values that numbers are compared with stand in an order to a number. -/
theorem isSome_compare?_iff (hn : ¬ n.IsNaN) {value : Value} :
  (value.number?.bind (·.compare? n)).isSome = true ↔ FieldKind.number.Compares value
  := by
  cases value with
  | number m =>
      rw [Value.number?, Option.bind_some, ← Option.ne_none_iff_isSome, ne_eq,
        Number.compare?_eq_none_iff, FieldKind.Compares]
      simp [hn]
  | _ => simp [Value.number?, FieldKind.Compares]

theorem opposed_number (hn : ¬ n.IsNaN)
    (h : ∀ o, relation'.holdsFor o = !relation.holdsFor o) :
  Expr.Opposed .number f.name (clause f relation (.number n) false)
    (clause f relation' (.number n) false)
  where
  holds_eq_not record hvalue := by
    obtain ⟨o, ho⟩ := Option.isSome_iff_exists.mp ((isSome_compare?_iff hn).mpr hvalue)
    rw [holds_number, holds_number, ho]
    apply h o
  holds_eq_false record hvalue := by
    have hnone := Option.not_isSome_iff_eq_none.mp (mt (isSome_compare?_iff hn).mp hvalue)
    rw [holds_number, holds_number, hnone]
    exact ⟨rfl, rfl⟩

/-- The relations of opposite comparisons of numbers exclude each other and leave nothing out. -/
theorem exists_relations_of_opposites {op op' : Operator}
    (h : (op, op') ∈ FieldKind.number.opposites) :
  ∃ relation relation', numberRelation? op = some relation
    ∧ numberRelation? op' = some relation'
    ∧ ∀ o, relation'.holdsFor o = !relation.holdsFor o
  := by
  simp only [FieldKind.opposites, List.mem_cons, Prod.mk.injEq, List.not_mem_nil, or_false] at h
  rcases h with ⟨rfl, rfl⟩ | ⟨rfl, rfl⟩ | ⟨rfl, rfl⟩
  · use .eq, .ne, rfl, rfl
    intro o
    rfl
  · use .gt, .lte, rfl, rfl
    intro o
    rfl
  · use .lt, .gte, rfl, rfl
    intro o
    rfl

/-- What a comparison of numbers makes of a literal. -/
theorem leaf_number {op : Operator} (hop : numberRelation? op = some relation) (f : Field)
    (literal : Text) (ignoreCase : Bool) :
  number.leaf op f literal ignoreCase
    = (Number.parse literal).map fun n => clause f relation (.number n) false
  := by
  have hcomparison : op.isComparison = true := by
    cases op <;> first | rfl | cases hop
  simp only [leaf, hcomparison, ↓reduceIte, number, hop]

/-- A literal that is compared is a number. -/
theorem exists_number_of_leaf {op : Operator} {literal : Text} {ignoreCase : Bool} {e : Expr}
    (h : number.leaf op f literal ignoreCase = .ok e) :
  ∃ n, Number.parse literal = .ok n
  := by
  simp only [leaf, number] at h
  split at h
  · split at h
    · obtain ⟨n, hn, -⟩ := Except.map_eq_ok_iff.mp h
      use n
    · cases h
  · cases h

/-- A comparison of numbers that includes equality holds just where the strict one or equality
does. -/
theorem holds_number_weak {strict weak : Relation}
    (h : ∀ o, weak.holdsFor o = (strict.holdsFor o || Relation.eq.holdsFor o)) (f : Field)
    (n : Number) (record : Record) :
  (clause f weak (.number n) false).holds record
    = ((clause f strict (.number n) false).holds record
      || (clause f .eq (.number n) false).holds record)
  := by
  rw [holds_number, holds_number, holds_number]
  cases (record f.name).number?.bind (·.compare? n) with
  | none => rfl
  | some o => apply h

/-! ### Dialects -/

/-- A literal that is read in one way has two opposed expressions, or neither. -/
theorem opposed_of_map {α : Type} {kind : FieldKind} {name : Text} {x : Except Failure α}
    {g g' : α → Expr} (h : ∀ a, x = .ok a → Expr.Opposed kind name (g a) (g' a)) :
  ((∃ e, x.map g = .ok e) ↔ ∃ e', x.map g' = .ok e')
    ∧ ∀ e e', x.map g = .ok e → x.map g' = .ok e' → Expr.Opposed kind name e e'
  := by
  cases x with
  | error failure => simp [Except.map]
  | ok a =>
      constructor
      · exact ⟨fun _ => ⟨g' a, rfl⟩, fun _ => ⟨g a, rfl⟩⟩
      · rintro e e' ⟨⟩ ⟨⟩
        apply h a rfl

/-- Of two opposite comparisons with a literal either both make an expression or neither does.  Of a
value of the kind exactly one of the expressions holds, and of any other value neither does, nor of
the float that is not a number.  A comparison of numbers that includes equality holds just where the
strict one or equality does. -/
theorem opposed_of_opposites (loose : Bool) (kind : FieldKind) (d : Dialect)
    (hd : ofKind? loose kind = some d) (f : Field) (literal : Text) (ignoreCase : Bool) :
  (∀ op op' : Operator, (op, op') ∈ kind.opposites →
      ((∃ e, d.leaf op f literal ignoreCase = .ok e)
        ↔ ∃ e', d.leaf op' f literal ignoreCase = .ok e')
      ∧ ∀ e e', d.leaf op f literal ignoreCase = .ok e →
        d.leaf op' f literal ignoreCase = .ok e' → Expr.Opposed kind f.name e e')
    ∧ (kind = .number → ∀ op e, d.leaf op f literal ignoreCase = .ok e →
      ∃ equal greater atLeast less atMost,
        d.leaf .eq f literal ignoreCase = .ok equal
        ∧ d.leaf .gt f literal ignoreCase = .ok greater
        ∧ d.leaf .gte f literal ignoreCase = .ok atLeast
        ∧ d.leaf .lt f literal ignoreCase = .ok less
        ∧ d.leaf .lte f literal ignoreCase = .ok atMost
        ∧ ∀ record, atLeast.holds record = (greater.holds record || equal.holds record)
          ∧ atMost.holds record = (less.holds record || equal.holds record))
  := by
  constructor
  · intro op op' hop
    cases kind with
    | text =>
        cases hd
        obtain ⟨rfl, rfl⟩ := Prod.mk.inj (List.mem_singleton.mp hop)
        apply opposed_of_map (x := .ok literal)
        intro t _
        apply opposed_text
    | number =>
        cases hd
        obtain ⟨relation, relation', hrelation, hrelation', hopposite⟩ :=
          exists_relations_of_opposites hop
        rw [leaf_number hrelation, leaf_number hrelation']
        apply opposed_of_map
        intro n hn
        apply opposed_number (Number.isFinite_of_parse hn).not_isNaN hopposite
    | enumeration members =>
        cases hd
        obtain ⟨rfl, rfl⟩ := Prod.mk.inj (List.mem_singleton.mp hop)
        apply opposed_of_map (x := member f literal)
        intro name _
        apply opposed_member
    | timestamp => cases hop
    | other typeName => cases hop
  · rintro rfl op e he
    cases hd
    obtain ⟨n, hn⟩ := exists_number_of_leaf he
    use clause f .eq (.number n) false, clause f .gt (.number n) false,
      clause f .gte (.number n) false, clause f .lt (.number n) false,
      clause f .lte (.number n) false
    have hleaf : ∀ op relation, numberRelation? op = some relation →
        number.leaf op f literal ignoreCase = .ok (clause f relation (.number n) false) := by
      intro op relation hop
      rw [leaf_number hop, hn]
      rfl
    use hleaf .eq .eq rfl, hleaf .gt .gt rfl, hleaf .gte .gte rfl, hleaf .lt .lt rfl,
      hleaf .lte .lte rfl
    intro record
    constructor
    · apply holds_number_weak
      intro o
      cases o <;> rfl
    · apply holds_number_weak
      intro o
      cases o <;> rfl

/-- A number that is not above 20 is at most 20, unless it is not a number; and one that is at least
20 is above it or equal to it. -/
theorem opposed_of_opposites_of_number :
  let age : Field := ⟨"age".toList, .number⟩
  let literal := " 20".toList
  let is := fun relation => clause age relation (.number (.signed 20)) false
  let record := fun n : Number => fun _ : Text => Value.number n
  ofKind? false .number = some number ∧ (.gt, .lte) ∈ FieldKind.number.opposites
    ∧ number.leaf .gt age literal true = .ok (is .gt)
    ∧ (is .lte).holds (record (.unsigned 7)) = !(is .gt).holds (record (.unsigned 7))
    ∧ (is .gt).holds (record (.float .nan)) = false
    ∧ (is .lte).holds (record (.float .nan)) = false
    ∧ ∃ equal greater atLeast, number.leaf .eq age literal true = .ok equal
      ∧ number.leaf .gt age literal true = .ok greater
      ∧ number.leaf .gte age literal true = .ok atLeast
      ∧ ∀ record, atLeast.holds record = (greater.holds record || equal.holds record)
  := by
  intro age literal is record
  obtain ⟨hopposed, hweak⟩ :=
    opposed_of_opposites false .number number rfl age literal true
  have hop : (.gt, .lte) ∈ FieldKind.number.opposites := by decide
  have hgreater : number.leaf .gt age literal true = .ok (is .gt) := rfl
  have hatMost : number.leaf .lte age literal true = .ok (is .lte) := rfl
  have h := (hopposed .gt .lte hop).2 _ _ hgreater hatMost
  obtain ⟨equal, greater, atLeast, less, atMost, hequal, hgreater', hatLeast, -, -, hholds⟩ :=
    hweak rfl .gt (is .gt) hgreater
  obtain ⟨hnan, hnan'⟩ := h.holds_eq_false (record (.float .nan)) fun hcompares => hcompares rfl
  refine ⟨rfl, hop, hgreater, ?_, hnan, hnan', equal, greater, atLeast, hequal, hgreater', hatLeast,
    fun record => (hholds record).1⟩
  apply h.holds_eq_not
  rintro ⟨⟩

end Dialect

end QueryFilter
