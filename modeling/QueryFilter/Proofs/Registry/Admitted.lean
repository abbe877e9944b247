import QueryFilter.Proofs.Composition.LeftFold
import QueryFilter.Proofs.Predicate.Admitted
import QueryFilter.Proofs.Registry

/-!
# Predicates that a field admits

Whatever values are given for a field, and whatever takes their place, the clauses of the predicate
are those of single values, or of dates.  So the field admits all of them, and the verdict on a
record depends on its value in this field alone.
-/

namespace QueryFilter

namespace Composition

variable {d : Dialect} {f : Field} {e : Expr} {P : Clause → Prop}

/-- What the clauses of all single values satisfy is satisfied by the clauses of values that are
joined. -/
theorem forall_clauses_of_joinAll
    (hsingle : ∀ value e, d.single f value = .ok e → ∀ c ∈ e.clauses, P c) {values : List Text}
    (h : joinAll d f values = .ok (some e)) :
  ∀ c ∈ e.clauses, P c
  := by
  rw [joinAll_eq] at h
  obtain ⟨s, hs, hclose⟩ := Except.map_eq_ok_iff.mp h
  obtain ⟨es, hes, hjoined⟩ := (Progress.joined_nil _).foldlM_addTerm hs
  have hclauses : e.clauses = ((terms values).zip es).flatMap (·.2.clauses) := by
    simpa [hclose, List.zip_map_left, List.flatMap_map] using hjoined.clauses_close
  intro c hc
  rw [hclauses] at hc
  obtain ⟨⟨t, e'⟩, hmem, hc⟩ := List.mem_flatMap.mp hc
  apply hsingle _ _ ((List.forall₂_iff_zip.mp hes).2 hmem) c hc

/-- What the clauses of all single values satisfy is satisfied by the clauses of the values of a
field, or of those in their place. -/
theorem forall_clauses_of_compose
    (hsingle : ∀ value e, d.single f value = .ok e → ∀ c ∈ e.clauses, P c) {values : List Text}
    {overrides : Option Overrides} (h : compose d f values overrides = .ok (some e)) :
  ∀ c ∈ e.clauses, P c
  := by
  rw [compose_eq] at h
  obtain ⟨-, -, h⟩ := Except.bind_eq_ok_iff.mp h
  obtain ⟨-, -, h⟩ := Except.bind_eq_ok_iff.mp h
  apply forall_clauses_of_joinAll hsingle h

end Composition

namespace DateFilter

variable {f : Field}

theorem admitsAll_equals (hkind : f.kind = .timestamp) (t : Timestamp) :
  f.AdmitsAll (equals f t)
  := Dialect.admitsAll_clause (.timestamp hkind)

/-- The ends of a range are put in order. -/
theorem admitsAll_within (hkind : f.kind = .timestamp) (a b : Timestamp) :
  f.AdmitsAll (within f a b)
  := by
  rw [within]
  split
  · rename_i horder
    apply Dialect.admitsAll_clause (.range hkind horder)
  · rename_i horder
    apply Dialect.admitsAll_clause (.range hkind _)
    simp only [Timestamp.notAfter, decide_eq_true_eq] at horder ⊢
    omega

theorem admitsAll_of_ofTimestamps (hkind : f.kind = .timestamp) {ts : List Timestamp} {e : Expr}
    (h : ofTimestamps f ts = some e) :
  f.AdmitsAll e
  := by
  match ts, h with
  | [t], h =>
      cases h
      apply admitsAll_equals hkind
  | [a, b], h =>
      cases h
      apply admitsAll_within hkind
  | a :: b :: c :: ts, h =>
      intro clause hclause
      rw [Expr.clauses_balanced (fun _ _ => rfl) h] at hclause
      obtain ⟨e', he', hclause⟩ := List.mem_flatMap.mp hclause
      obtain ⟨t, -, rfl⟩ := List.mem_map.mp he'
      apply admitsAll_equals hkind t clause hclause

end DateFilter

namespace Registry

/-- The field admits every clause of its predicate, and whether a record satisfies the predicate
depends on its value in this field alone. -/
theorem admits_of_predicate {r : Registry} {f : Field} {input : Input} {sent : Option SentValues}
    {e : Expr} (h : r.predicate f input sent = .ok (some e)) :
  (∀ c ∈ e.clauses, f.Admits c)
    ∧ ∀ record record' : Record, record f.name = record' f.name →
      e.holds record = e.holds record'
  := by
  have hadmits : f.AdmitsAll e := by
    cases hd : r.dialect? f with
    | none =>
        rw [predicate_of_dialect?_eq_none hd] at h
        cases h
    | some d =>
        by_cases hkind : f.kind = .timestamp
        · rw [predicate_of_timestamp hkind] at h
          obtain ⟨ts, -, hts⟩ := Except.map_eq_ok_iff.mp h
          apply DateFilter.admitsAll_of_ofTimestamps hkind hts
        · rw [predicate_eq_compose hd hkind] at h
          apply Composition.forall_clauses_of_compose (P := f.Admits) _ h
          intro value e' he'
          apply Dialect.admitsAll_of_single hd he'
  use hadmits
  intro record record' hrecord
  apply Expr.holds_congr
  intro c hc
  rw [(hadmits c hc).field_eq, hrecord]

end Registry

end QueryFilter
