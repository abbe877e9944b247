import QueryFilter.Proofs.Composition.Failure

/-!
# The check of parentheses

`Wrapping.validate` counts the parentheses that are open while it reads a value.  A value is refused
exactly if it begins with an operator and its parentheses are not balanced: some beginning of it
closes more of them than it opens, or the whole does not close as many as it opens.  All values of a
field are checked before anything is made of them, so that the first one that is refused decides how
they fail.
-/

namespace QueryFilter

namespace Wrapping

/-- No beginning of a text closes more parentheses than it opens, and the whole text closes as many
as it opens. -/
structure Balanced (t : Text) : Prop where
  count_close_le (p : Text) (hp : p <+: t) : p.count ')' ≤ p.count '('
  count_eq : t.count '(' = t.count ')'

variable {value t : Text} {depth n : Nat}

/-- The beginnings of a text are the empty one and those that its first character begins. -/
theorem forall_prefix_cons_iff {c : Char} {P : Text → Prop} :
  (∀ p, p <+: c :: t → P p) ↔ P [] ∧ ∀ p, p <+: t → P (c :: p)
  := by
  constructor
  · intro h
    use h [] List.nil_prefix
    intro p hp
    apply h
    apply List.cons_prefix_cons.mpr ⟨rfl, hp⟩
  · rintro ⟨hnil, hcons⟩ p hp
    rcases List.prefix_cons_iff.mp hp with rfl | ⟨p', rfl, hp'⟩
    · apply hnil
    · apply hcons p' hp'

/-- What the counter of open parentheses says of a text: none of its beginnings closes more than are
open, and in the end the counter is right. -/
theorem openAtEnd?_eq_some_iff :
  openAtEnd? depth t = some n
    ↔ (∀ p, p <+: t → p.count ')' ≤ depth + p.count '(')
      ∧ depth + t.count '(' = n + t.count ')'
  := by
  induction t generalizing depth with
  | nil => simp [openAtEnd?]
  | cons c t ih =>
      rw [forall_prefix_cons_iff]
      by_cases hopen : c = '('
      · -- One more is open for the rest.
        subst hopen
        simp [openAtEnd?, ih, Nat.add_assoc, Nat.add_comm 1]
      · by_cases hclose : c = ')'
        · subst hclose
          cases depth with
          | zero =>
              -- The closing parenthesis itself is a beginning that closes too many.
              constructor
              · intro h
                cases h
              · rintro ⟨⟨-, hclosed⟩, -⟩
                exact absurd (hclosed [] List.nil_prefix) (by decide)
          | succ depth => simp [openAtEnd?, ih, Nat.add_right_comm depth 1, ← Nat.add_assoc]
        · simp [openAtEnd?, ih, hopen, hclose]

/-- Balanced texts are those that leave nothing open when they begin with nothing open. -/
theorem balanced_iff_openAtEnd? :
  Balanced t ↔ openAtEnd? 0 t = some 0
  := by
  rw [openAtEnd?_eq_some_iff]
  simp only [Nat.zero_add]
  constructor
  · intro h
    use h.count_close_le, h.count_eq
  · rintro ⟨hclosed, hcount⟩
    use hclosed, hcount

theorem not_balanced_iff :
  ¬ Balanced t ↔ (∃ p, p <+: t ∧ p.count '(' < p.count ')') ∨ t.count '(' ≠ t.count ')'
  := by
  constructor
  · intro h
    by_contra hnone
    rw [not_or, not_not] at hnone
    apply h
    use fun p hp => le_of_not_gt fun hlt => hnone.1 ⟨p, hp, hlt⟩, hnone.2
  · rintro (⟨p, hp, hlt⟩ | hne) h
    · apply not_le_of_gt hlt (h.count_close_le p hp)
    · apply hne h.count_eq

/-! ### Refused values -/

theorem opensOperator_iff :
  opensOperator value = true ↔ ∃ op : Operator, op.opening <+: value.trim
  := by
  rw [opensOperator, List.any_eq_true]
  constructor
  · rintro ⟨op, -, hop⟩
    exact ⟨op, List.isPrefixOf_iff_prefix.mp hop⟩
  · rintro ⟨op, hop⟩
    exact ⟨op, op.mem_all, List.isPrefixOf_iff_prefix.mpr hop⟩

/-- A value passes the check exactly if it does not begin with an operator or is balanced. -/
theorem validate_eq_ok_iff :
  validate value = .ok () ↔ (opensOperator value = true → Balanced value.trim)
  := by
  rw [validate, balanced_iff_openAtEnd?]
  split
  · rename_i hopens
    cases openAtEnd? 0 value.trim with
    | none => simp [hopens]
    | some n =>
        cases n with
        | zero => simp
        | succ n => simp [hopens]
  · rename_i hopens
    simp [hopens]

/-- A value is refused exactly if it begins with an operator and is not balanced. -/
theorem exists_validate_eq_error_iff :
  (∃ failure, validate value = .error failure)
    ↔ (∃ op : Operator, op.opening <+: value.trim) ∧ ¬ Balanced value.trim
  := by
  rw [← opensOperator_iff, ← Classical.not_imp, ← validate_eq_ok_iff]
  cases validate value with
  | error failure => simp
  | ok checked => simp

/-- Blanks around a value do not matter to the check but for its message. -/
theorem mapError_validate_trim (value : Text) :
  (validate value.trim).mapError Failure.kind = (validate value).mapError Failure.kind
  := by
  rw [validate, validate, opensOperator, opensOperator, Text.trim_trim]
  split
  · cases openAtEnd? 0 value.trim with
    | none => rfl
    | some n =>
        cases n with
        | zero => rfl
        | succ n => rfl
  · rfl

end Wrapping

namespace Composition

/-- A value is refused exactly if it begins with an operator and its parentheses are not balanced.
The first value of a field that is refused decides how they fail, whatever the others would fail
for. -/
theorem unbalanced_precedes_composing :
  (∀ value : Text, (∃ failure, Wrapping.validate value = .error failure)
      ↔ (∃ op : Operator, op.opening <+: value.trim)
        ∧ ((∃ p, p <+: value.trim ∧ p.count '(' < p.count ')')
          ∨ value.trim.count '(' ≠ value.trim.count ')'))
    ∧ ∀ (d : Dialect) (f : Field) (values : List Text) (overrides : Option Overrides),
      (∃ v ∈ values, ∃ failure, Wrapping.validate v = .error failure) →
        ∃ before v after failure, values = before ++ v :: after
          ∧ (∀ u ∈ before, Wrapping.validate u = .ok ())
          ∧ Wrapping.validate v = .error failure
          ∧ compose d f values overrides = .error failure
          ∧ failure.kind = .malformedExpression
  := by
  constructor
  · intro value
    rw [Wrapping.exists_validate_eq_error_iff, Wrapping.not_balanced_iff]
  · rintro d f values overrides ⟨v, hv, failure, hfailure⟩
    cases hvalues : validateAll values with
    | error failure =>
        obtain ⟨before, v, after, hsplit, hbefore, hv⟩ := validateAll_eq_error_iff.mp hvalues
        exact ⟨before, v, after, failure, hsplit, hbefore, hv,
          compose_of_validateAll_eq_error hvalues, Wrapping.kind_of_validate_eq_error hv⟩
    | ok checked =>
        have hchecked := validateAll_eq_ok_iff.mp hvalues v hv
        rw [hfailure] at hchecked
        cases hchecked

/-- A closing parenthesis is missing in the last of three values, and that is what the values fail
for, though the first one is a comparison that texts do not support. -/
theorem unbalanced_precedes_composing_of_unsupported :
  let name : Field := ⟨"name".toList, .text⟩
  let v := " and(contains(b)".toList
  let values := ["gt(5)".toList, "a)".toList, v]
  (∃ u ∈ values, ∃ failure, Wrapping.validate u = .error failure)
    ∧ compose .text name ["gt(5)".toList, "a)".toList] none = .error (.unsupported .gt "text")
    ∧ ∃ failure, compose .text name values none = .error failure
      ∧ failure.kind = .malformedExpression
  := by
  intro name v values
  obtain ⟨hexact, hfirst⟩ := unbalanced_precedes_composing
  have hv : ∃ failure, Wrapping.validate v = .error failure := by
    apply (hexact v).mpr
    constructor
    · use .and
      decide
    · right
      decide
  have hvalues : ∃ u ∈ values, ∃ failure, Wrapping.validate u = .error failure := by
    use v
    simp [values, hv]
  use hvalues, rfl
  obtain ⟨-, -, -, failure, -, -, -, hfailure, hkind⟩ := hfirst .text name values none hvalues
  use failure

end Composition

end QueryFilter
