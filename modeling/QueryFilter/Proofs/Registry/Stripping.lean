import QueryFilter.Proofs.Registry

/-!
# Predicates of values without their operators

Where the values of a request are at hand as they were sent, the predicate of what is left of them
without their operators is that of the values, provided that what is left passes the check of
parentheses.  It need not: in `not(eq(a))(b)` all parentheses are balanced, but not in what `not`
wraps, which begins with an operator and is wrapped by none.
-/

namespace QueryFilter

namespace Registry

/-- The predicate of what is left of the values sent under the name of a field without their
operators is that of the values, once what is left has passed the check. -/
theorem predicate_strippedValues_eq {r : Registry} {f : Field} {d : Dialect}
    (hd : r.dialect? f = some d) (hkind : f.kind ≠ .timestamp) {values : List Text}
    (hvalues : values ≠ []) :
  r.predicate f (.many ((Parameters.sending f.name values).strippedValues f.name))
      (some (.ofParameters (.sending f.name values)))
    = (do
      Composition.validateAll (values.map Wrapping.strip)
      r.predicate f (.many values) none)
  := by
  have hsent : (Parameters.sending f.name values).values f.name ≠ [] := by simpa using hvalues
  obtain ⟨hfirst, hall⟩ := Parameters.lookup_of_name rfl hsent (r.alias? f)
  rw [Parameters.values_sending] at hfirst hall
  rw [Parameters.strippedValues, Parameters.values_sending, predicate_eq_compose hd hkind,
    predicate_many_none hd hkind]
  cases hvalid : Composition.validateAll (values.map Wrapping.strip) with
  | error failure => apply Composition.compose_of_validateAll_eq_error hvalid
  | ok checked => apply Composition.compose_strip hvalues hfirst hall hvalid

/-- What is left of the values of a field that does not hold dates has a predicate, when the values
themselves are at hand, exactly if the values have one and all that is left of them passes the
check of parentheses; it is the same predicate then.  The first failure of the check is reported
otherwise. -/
theorem predicate_strippedValues_eq_ok_iff (r : Registry) (f : Field) (d : Dialect)
    (hd : r.dialect? f = some d) (hkind : f.kind ≠ .timestamp) (values : List Text)
    (hvalues : values ≠ []) :
  let sent := Parameters.sending f.name values
  let ofStripped := r.predicate f (.many (sent.strippedValues f.name)) (some (.ofParameters sent))
  (∀ result, ofStripped = .ok result ↔
      r.predicate f (.many values) none = .ok result
        ∧ ∀ v ∈ values, Wrapping.validate (Wrapping.strip v) = .ok ())
    ∧ ∀ failure, Composition.validateAll (values.map Wrapping.strip) = .error failure →
      ofStripped = .error failure
  := by
  intro sent ofStripped
  have heq : ofStripped = _ := predicate_strippedValues_eq hd hkind hvalues
  have hcheck : Composition.validateAll (values.map Wrapping.strip) = .ok ()
      ↔ ∀ v ∈ values, Wrapping.validate (Wrapping.strip v) = .ok () := by
    rw [Composition.validateAll_eq_ok_iff, List.forall_mem_map]
  constructor
  · intro result
    rw [heq, Except.bind_eq_ok_iff, ← hcheck]
    constructor
    · rintro ⟨⟨⟩, hvalid, hresult⟩
      use hresult, hvalid
    · rintro ⟨hresult, hvalid⟩
      use (), hvalid, hresult
  · intro failure hfailure
    rw [heq, hfailure]
    rfl

/-- Two values that are joined have the same predicate when it is made of what is left of them. -/
theorem predicate_strippedValues_eq_ok_iff_of_two :
  let r := Registry.ofSettings {}
  let name : Field := ⟨"name".toList, .text⟩
  let values := ["startsWith(a)".toList, "and(endsWith(z))".toList]
  let sent := Parameters.sending name.name values
  let is := fun relation (t : Text) => Dialect.clause name relation (.text t) false
  r.dialect? name = some .text ∧ name.kind ≠ .timestamp ∧ values ≠ []
    ∧ r.predicate name (.many (sent.strippedValues name.name)) (some (.ofParameters sent))
      = .ok (some (.and (is .startsWith ['a']) (is .endsWith ['z'])))
  := by
  intro r name values sent is
  have hd : r.dialect? name = some .text := rfl
  have hkind : name.kind ≠ .timestamp := by decide
  have hvalues : values ≠ [] := by decide
  have hdirect : r.predicate name (.many values) none
      = .ok (some (.and (is .startsWith ['a']) (is .endsWith ['z']))) := by
    rw [predicate_many_none hd hkind]
    apply Composition.compose_pair rfl rfl rfl rfl rfl
  have ha : Wrapping.strip "startsWith(a)".toList = ['a'] :=
    (Wrapping.strip_wrap .startsWith ['a']).trans (Wrapping.strip_of_eq_none rfl)
  have hz : Wrapping.strip "and(endsWith(z))".toList = ['z'] :=
    ((Wrapping.strip_wrap .and "endsWith(z)".toList).trans
      (Wrapping.strip_wrap .endsWith ['z'])).trans (Wrapping.strip_of_eq_none rfl)
  use hd, hkind, hvalues
  apply ((predicate_strippedValues_eq_ok_iff r name .text hd hkind values hvalues).1 _).mpr
  use hdirect
  simp only [values, List.forall_mem_cons, ha, hz]
  refine ⟨rfl, rfl, ?_⟩
  intro v hv
  cases hv

/-- A value that is read as the negation of a literal has no predicate when the predicate is made
of what is left of it: a parenthesis of the literal is closed before it is opened. -/
theorem predicate_strippedValues_of_two_groups :
  let r := Registry.ofSettings {}
  let name : Field := ⟨"name".toList, .text⟩
  let sent := Parameters.sending name.name ["not(eq(a))(b)".toList]
  r.predicate name (.many ["not(eq(a))(b)".toList]) none
      = .ok (some (.not (Dialect.clause name .eq (.text "eq(a))(b".toList) false)))
    ∧ r.predicate name (.many (sent.strippedValues name.name)) (some (.ofParameters sent))
      = .error (.misplacedClose "eq(a))(b".toList)
  := by
  intro r name sent
  have hd : r.dialect? name = some .text := rfl
  have hkind : name.kind ≠ .timestamp := by decide
  constructor
  · rw [predicate_many_none hd hkind, Composition.compose_singleton, Composition.lone_eq rfl]
    rfl
  · have hstrip : Wrapping.strip "not(eq(a))(b)".toList = "eq(a))(b".toList :=
      (Wrapping.strip_wrap .not "eq(a))(b".toList).trans (Wrapping.strip_of_eq_none rfl)
    rw [predicate_strippedValues_eq hd hkind (List.cons_ne_nil _ _), List.map_singleton, hstrip]
    rfl

/-- Values may have a predicate when what is left of them, with the values at hand, has none. -/
theorem not_forall_predicate_strippedValues_eq_ok_iff :
  ¬ ∀ (r : Registry) (f : Field) (d : Dialect), r.dialect? f = some d → f.kind ≠ .timestamp →
    ∀ values : List Text, values ≠ [] → ∀ result : Option Expr,
      r.predicate f (.many ((Parameters.sending f.name values).strippedValues f.name))
          (some (.ofParameters (.sending f.name values))) = .ok result
        ↔ r.predicate f (.many values) none = .ok result
  := by
  intro h
  have hstripped := (h (.ofSettings {}) ⟨"name".toList, .text⟩ .text rfl (by decide)
    ["not(eq(a))(b)".toList] (by decide) _).mpr predicate_strippedValues_of_two_groups.1
  rw [predicate_strippedValues_of_two_groups.2] at hstripped
  cases hstripped

end Registry

end QueryFilter
