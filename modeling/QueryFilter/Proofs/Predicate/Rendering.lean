import QueryFilter.Predicate.Expr
import QueryFilter.Proofs.Text.Quoted
import QueryFilter.Unicode.Alphanumeric

/-!
# Written expressions

An expression whose clauses compare texts, in fields that are named by letters, digits and
underscores, is known from its text.  The field of a clause ends at the first blank, and so does its
relation; the quoted operand ends where it ends, and only a clause that ignores case goes on with a
blank.  No clause begins like a negation or a parenthesis, so an induction on the expression finds
the same parts in the text again, whatever is written behind them but a blank.
-/

namespace QueryFilter

/-! ### Names of fields -/

/-- The text consists of letters, digits and underscores. -/
def Text.IsName (t : Text) : Prop := ∀ c ∈ t, Unicode.isAlphanumeric c = true ∨ c = '_'

instance (t : Text) : Decidable t.IsName := List.decidableBAll _ t

theorem Text.IsName.notMem {t : Text} {c : Char} (h : t.IsName)
    (hletter : Unicode.isAlphanumeric c = false) (hunderscore : c ≠ '_') :
  c ∉ t
  := by
  intro hc
  rcases h c hc with hc | hc
  · rw [hletter] at hc
    cases hc
  · apply hunderscore hc

theorem Text.IsName.blank_notMem {t : Text} (h : t.IsName) :
  ' ' ∉ t
  := h.notMem (by decide +kernel) (by decide)

theorem Text.IsName.paren_notMem {t : Text} (h : t.IsName) :
  '(' ∉ t
  := h.notMem (by decide +kernel) (by decide)

/-! ### Relations -/

namespace Relation

theorem mem_all (r : Relation) :
  r ∈ all
  := by cases r <;> decide

/-- Different relations have different signs. -/
theorem symbol_injective :
  Function.Injective symbol
  := by
  have h : ∀ r ∈ all, ∀ s ∈ all, r.symbol = s.symbol → r = s := by decide
  intro r s
  apply h r r.mem_all s s.mem_all

theorem blank_notMem_symbol (r : Relation) :
  ' ' ∉ r.symbol
  := by cases r <;> decide

theorem paren_notMem_symbol (r : Relation) :
  '(' ∉ r.symbol
  := by cases r <;> decide

end Relation

/-! ### Clauses -/

namespace Clause

/-- The clause compares a text, in a field with a plain name. -/
def IsTextual (c : Clause) : Prop := c.field.IsName ∧ ∃ t, c.operand = .text t

/-- The text does not begin with a blank. -/
def EndsClause (rest : Text) : Prop := rest.head? ≠ some ' '

theorem endsClause_close (rest : Text) :
  EndsClause (')' :: rest)
  := by simp [EndsClause]

/-- What is written behind the operand of a clause. -/
def suffix (ignoreCase : Bool) : Text := if ignoreCase then " (ci)".toList else []

theorem suffix_append_inj {i j : Bool} {rest rest' : Text} (hrest : EndsClause rest)
    (hrest' : EndsClause rest') (h : suffix i ++ rest = suffix j ++ rest') :
  i = j ∧ rest = rest'
  := by
  cases i with
  | false =>
      cases j with
      | false => exact ⟨rfl, h⟩
      | true =>
          obtain rfl : rest = suffix true ++ rest' := h
          cases hrest rfl
  | true =>
      cases j with
      | false =>
          obtain rfl : suffix true ++ rest = rest' := h
          cases hrest' rfl
      | true => exact ⟨rfl, List.append_cancel_left h⟩

variable {c c' : Clause} {rest rest' : Text}

theorem render_append (hc : c.IsTextual) (rest : Text) :
  ∃ t, c.operand = .text t ∧ c.render ++ rest
    = c.field ++ ' ' :: (c.relation.symbol ++ ' ' :: (t.quote ++ (suffix c.ignoreCase ++ rest)))
  := by
  obtain ⟨-, t, ht⟩ := hc
  use t, ht
  simp only [render, ht, Operand.render, suffix, List.append_assoc, List.cons_append,
    List.nil_append]

theorem render_append_inj (hc : c.IsTextual) (hc' : c'.IsTextual) (hrest : EndsClause rest)
    (hrest' : EndsClause rest') (h : c.render ++ rest = c'.render ++ rest') :
  c = c' ∧ rest = rest'
  := by
  obtain ⟨t, ht, htext⟩ := render_append hc rest
  obtain ⟨t', ht', htext'⟩ := render_append hc' rest'
  rw [htext, htext', Text.append_cons_inj hc.1.blank_notMem hc'.1.blank_notMem,
    Text.append_cons_inj c.relation.blank_notMem_symbol c'.relation.blank_notMem_symbol,
    Text.quote_append_inj] at h
  obtain ⟨hfield, hsymbol, rfl, hsuffix⟩ := h
  obtain ⟨hcase, rfl⟩ := suffix_append_inj hrest hrest' hsuffix
  refine ⟨?_, rfl⟩
  obtain ⟨field, relation, operand, ignoreCase⟩ := c
  obtain ⟨field', relation', operand', ignoreCase'⟩ := c'
  obtain rfl := Relation.symbol_injective hsymbol
  cases hfield
  cases hcase
  cases ht
  cases ht'
  rfl

/-- The text of a clause does not begin with a parenthesis. -/
theorem render_append_ne_paren (hc : c.IsTextual) :
  c.render ++ rest ≠ '(' :: rest'
  := by
  obtain ⟨t, -, htext⟩ := render_append hc rest
  rw [htext]
  apply Text.append_cons_ne_cons hc.1.paren_notMem (by decide)

/-- The text of a clause does not begin like that of a negation, even if the field is named `NOT`:
no relation is written as a parenthesis. -/
theorem render_append_ne_not (hc : c.IsTextual) :
  c.render ++ rest ≠ "NOT (".toList ++ rest'
  := by
  obtain ⟨t, -, htext⟩ := render_append hc rest
  rw [htext]
  intro h
  have hnot : "NOT (".toList ++ rest' = "NOT".toList ++ ' ' :: ('(' :: rest') := rfl
  rw [hnot, Text.append_cons_inj hc.1.blank_notMem (by decide)] at h
  apply Text.append_cons_ne_cons c.relation.paren_notMem_symbol (by decide) h.2

end Clause

/-! ### Expressions -/

namespace Expr

open Clause

/-- All clauses of the expression compare texts, in fields with plain names. -/
def IsTextual (e : Expr) : Prop := ∀ c ∈ e.clauses, c.IsTextual

/-- The expression is known from its text, whatever follows it but a blank, and so is what
follows. -/
def IsLegible (e : Expr) : Prop :=
  ∀ (e' : Expr) (rest rest' : Text), e'.IsTextual → EndsClause rest → EndsClause rest' →
    e.render ++ rest = e'.render ++ rest' → e = e' ∧ rest = rest'

variable {c : Clause} {inner left right : Expr}

theorem isTextual_leaf_iff :
  (leaf c).IsTextual ↔ c.IsTextual
  := List.forall_mem_singleton

theorem isTextual_not_iff :
  (not inner).IsTextual ↔ inner.IsTextual
  := Iff.rfl

theorem isTextual_and_iff :
  (and left right).IsTextual ↔ left.IsTextual ∧ right.IsTextual
  := List.forall_mem_append

theorem isTextual_or_iff :
  (or left right).IsTextual ↔ left.IsTextual ∧ right.IsTextual
  := List.forall_mem_append

theorem render_append_not (inner : Expr) (rest : Text) :
  (not inner).render ++ rest = "NOT (".toList ++ (inner.render ++ ')' :: rest)
  := by simp only [render, List.append_assoc, List.singleton_append]

theorem render_append_and (left right : Expr) (rest : Text) :
  (and left right).render ++ rest
    = '(' :: (left.render ++ ')' :: (" AND (".toList ++ (right.render ++ ')' :: rest)))
  := by
  have hword : ") AND (".toList = [')'] ++ " AND (".toList := rfl
  simp only [render, hword, List.append_assoc, List.cons_append, List.nil_append]

theorem render_append_or (left right : Expr) (rest : Text) :
  (or left right).render ++ rest
    = '(' :: (left.render ++ ')' :: (" OR (".toList ++ (right.render ++ ')' :: rest)))
  := by
  have hword : ") OR (".toList = [')'] ++ " OR (".toList := rfl
  simp only [render, hword, List.append_assoc, List.cons_append, List.nil_append]

theorem isLegible_leaf (hc : c.IsTextual) :
  (leaf c).IsLegible
  := by
  intro e' rest rest' he' hrest hrest' h
  cases e' with
  | leaf c' =>
      obtain ⟨rfl, rfl⟩ :=
        Clause.render_append_inj hc (isTextual_leaf_iff.mp he') hrest hrest' h
      exact ⟨rfl, rfl⟩
  | not inner' =>
      rw [render_append_not] at h
      cases render_append_ne_not hc h
  | and left' right' =>
      rw [render_append_and] at h
      cases render_append_ne_paren hc h
  | or left' right' =>
      rw [render_append_or] at h
      cases render_append_ne_paren hc h

/-- A legible expression in parentheses ends at their closing. -/
theorem IsLegible.close_inj {inner' : Expr} {rest rest' : Text} (hinner : inner.IsLegible)
    (hinner' : inner'.IsTextual) (h : inner.render ++ ')' :: rest = inner'.render ++ ')' :: rest') :
  inner = inner' ∧ rest = rest'
  := by
  obtain ⟨rfl, hclose⟩ :=
    hinner inner' _ _ hinner' (endsClause_close rest) (endsClause_close rest') h
  exact ⟨rfl, (List.cons.inj hclose).2⟩

theorem IsLegible.not (hinner : inner.IsLegible) :
  (not inner).IsLegible
  := by
  intro e' rest rest' he' hrest hrest' h
  rw [render_append_not] at h
  cases e' with
  | leaf c' => cases render_append_ne_not (isTextual_leaf_iff.mp he') h.symm
  | not inner' =>
      rw [render_append_not, List.append_cancel_left_eq] at h
      obtain ⟨rfl, rfl⟩ := hinner.close_inj (isTextual_not_iff.mp he') h
      exact ⟨rfl, rfl⟩
  | and left' right' =>
      rw [render_append_and] at h
      cases h
  | or left' right' =>
      rw [render_append_or] at h
      cases h

theorem IsLegible.and (hleft : left.IsLegible) (hright : right.IsLegible) :
  (and left right).IsLegible
  := by
  intro e' rest rest' he' hrest hrest' h
  rw [render_append_and] at h
  cases e' with
  | leaf c' => cases render_append_ne_paren (isTextual_leaf_iff.mp he') h.symm
  | not inner' =>
      rw [render_append_not] at h
      cases h
  | and left' right' =>
      rw [render_append_and, List.cons_inj_right] at h
      obtain ⟨hleft', hright'⟩ := isTextual_and_iff.mp he'
      obtain ⟨rfl, hbehind⟩ := hleft.close_inj hleft' h
      obtain ⟨rfl, rfl⟩ := hright.close_inj hright' (List.append_cancel_left hbehind)
      exact ⟨rfl, rfl⟩
  | or left' right' =>
      rw [render_append_or, List.cons_inj_right] at h
      obtain ⟨-, hbehind⟩ := hleft.close_inj (isTextual_or_iff.mp he').1 h
      cases hbehind

theorem IsLegible.or (hleft : left.IsLegible) (hright : right.IsLegible) :
  (or left right).IsLegible
  := by
  intro e' rest rest' he' hrest hrest' h
  rw [render_append_or] at h
  cases e' with
  | leaf c' => cases render_append_ne_paren (isTextual_leaf_iff.mp he') h.symm
  | not inner' =>
      rw [render_append_not] at h
      cases h
  | and left' right' =>
      rw [render_append_and, List.cons_inj_right] at h
      obtain ⟨-, hbehind⟩ := hleft.close_inj (isTextual_and_iff.mp he').1 h
      cases hbehind
  | or left' right' =>
      rw [render_append_or, List.cons_inj_right] at h
      obtain ⟨hleft', hright'⟩ := isTextual_or_iff.mp he'
      obtain ⟨rfl, hbehind⟩ := hleft.close_inj hleft' h
      obtain ⟨rfl, rfl⟩ := hright.close_inj hright' (List.append_cancel_left hbehind)
      exact ⟨rfl, rfl⟩

theorem isLegible_of_isTextual {e : Expr} (he : e.IsTextual) :
  e.IsLegible
  := by
  induction e with
  | leaf c => apply isLegible_leaf (isTextual_leaf_iff.mp he)
  | not inner ih => apply (ih (isTextual_not_iff.mp he)).not
  | and left right ihl ihr =>
      obtain ⟨hleft, hright⟩ := isTextual_and_iff.mp he
      apply (ihl hleft).and (ihr hright)
  | or left right ihl ihr =>
      obtain ⟨hleft, hright⟩ := isTextual_or_iff.mp he
      apply (ihl hleft).or (ihr hright)

/-- Two expressions that compare texts, in fields named by letters, digits and underscores, have the
same text only if they are the same. -/
theorem render_eq_iff {e e' : Expr} (he : e.IsTextual) (he' : e'.IsTextual) :
  e.render = e'.render ↔ e = e'
  := by
  constructor
  · intro h
    have hnil : EndsClause [] := by simp [EndsClause]
    apply (isLegible_of_isTextual he e' [] [] he' hnil hnil _).1
    rw [h]
  · rintro rfl
    rfl

/-- A comparison with a literal that spells the rest of a conjunction has another text than the
conjunction. -/
theorem render_eq_iff_of_quoted_and :
  let e : Expr := leaf ⟨"NOT".toList, .eq, .text "a\") AND (NOT == \"b".toList, true⟩
  let e' : Expr := and (leaf ⟨"NOT".toList, .eq, .text "a".toList, false⟩)
    (leaf ⟨"NOT".toList, .eq, .text "b".toList, true⟩)
  e.IsTextual ∧ e'.IsTextual ∧ e.render ≠ e'.render
  := by
  intro e e'
  have hname : Text.IsName "NOT".toList := by decide
  have he : e.IsTextual := isTextual_leaf_iff.mpr ⟨hname, _, rfl⟩
  have he' : e'.IsTextual := isTextual_and_iff.mpr
    ⟨isTextual_leaf_iff.mpr ⟨hname, _, rfl⟩, isTextual_leaf_iff.mpr ⟨hname, _, rfl⟩⟩
  use he, he'
  intro h
  have heq : e = e' := (render_eq_iff he he').mp h
  injection heq

end Expr

end QueryFilter
