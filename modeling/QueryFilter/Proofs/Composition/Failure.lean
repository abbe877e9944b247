import QueryFilter.Proofs.Composition.Overrides
import QueryFilter.Proofs.Dialect

/-!
# Failures of several values

The values of a field fail for one of them, whose parentheses are not balanced or which makes no
expression, or because their connective changes too often.  They never fail for an operator that
joins nothing, since values are joined by connectives only.
-/

namespace QueryFilter

theorem Wrapping.kind_of_validate_eq_error {value : Text} {failure : Failure}
    (h : validate value = .error failure) :
  failure.kind = .malformedExpression
  := by
  rw [validate] at h
  split at h
  · split at h
    · cases h
      rfl
    · cases h
    · cases h
      rfl
  · cases h

namespace Composition

variable {d : Dialect} {f : Field} {values : List Text} {failure : Failure}

/-- Values fail the check for the first one that does. -/
theorem validateAll_eq_error_iff :
  validateAll values = .error failure
    ↔ ∃ before v after, values = before ++ v :: after
      ∧ (∀ u ∈ before, Wrapping.validate u = .ok ()) ∧ Wrapping.validate v = .error failure
  := by
  induction values with
  | nil =>
      constructor
      · intro h
        cases h
      · rintro ⟨before, v, after, hsplit, -⟩
        cases List.append_ne_nil_of_right_ne_nil before (List.cons_ne_nil v after) hsplit.symm
  | cons v vs ih =>
      rw [validateAll_cons, Except.bind_eq_error_iff]
      constructor
      · rintro (hv | ⟨⟨⟩, hv, hvs⟩)
        · exact ⟨[], v, vs, rfl, by simp, hv⟩
        · obtain ⟨before, u, after, rfl, hbefore, hu⟩ := ih.mp hvs
          exact ⟨v :: before, u, after, rfl, List.forall_mem_cons.mpr ⟨hv, hbefore⟩, hu⟩
      · rintro ⟨before, u, after, hsplit, hbefore, hu⟩
        cases before with
        | nil =>
            cases hsplit
            left
            apply hu
        | cons v' before =>
            cases hsplit
            rw [List.forall_mem_cons] at hbefore
            right
            use (), hbefore.1
            apply ih.mpr ⟨before, u, after, rfl, hbefore.2, hu⟩

/-- Values fail the check because one of them does. -/
theorem exists_of_validateAll_eq_error (h : validateAll values = .error failure) :
  ∃ v ∈ values, Wrapping.validate v = .error failure
  := by
  obtain ⟨before, v, after, rfl, -, hv⟩ := validateAll_eq_error_iff.mp h
  use v, List.mem_append_right before List.mem_cons_self

/-- A term is not joined because it makes no expression, or because the connective changes too
often. -/
theorem Progress.addTerm_eq_error {s : Progress} {t : Term}
    (h : addTerm d f s t = .error failure) :
  d.single f t.operand = .error failure ∨ failure = .tooManySwitches f.name
  := by
  rw [addTerm] at h
  split at h
  · rename_i hsingle
    cases h
    left
    apply hsingle
  · right
    rw [add] at h
    split at h
    · cases h
    · rw [append] at h
      split at h
      · split at h
        · cases h
          rfl
        · cases h
      · cases h

/-- Values are not joined because one of them makes no expression, or because the connective changes
too often. -/
theorem joinAll_eq_error (h : joinAll d f values = .error failure) :
  (∃ t ∈ terms values, d.single f t.operand = .error failure)
    ∨ failure = .tooManySwitches f.name
  := by
  rw [joinAll_eq, Except.map_eq_error_iff] at h
  obtain ⟨t, ht, s, hadd⟩ := Except.exists_of_foldlM_eq_error h
  rcases Progress.addTerm_eq_error hadd with hsingle | hswitches
  · left
    use t, ht
  · right
    apply hswitches

/-- Why the values of a field fail: one that is given or in their place is not balanced, or one that
is joined makes no expression, or the connective changes too often. -/
theorem compose_eq_error {overrides : Option Overrides}
    (h : compose d f values overrides = .error failure) :
  (∃ v ∈ values ++ inEffect f values overrides, Wrapping.validate v = .error failure)
    ∨ (∃ t ∈ terms (joined f values overrides), d.single f t.operand = .error failure)
    ∨ failure = .tooManySwitches f.name
  := by
  rw [compose_eq] at h
  rcases Except.bind_eq_error_iff.mp h with hvalues | ⟨-, -, h⟩
  · obtain ⟨v, hv, hfail⟩ := exists_of_validateAll_eq_error hvalues
    left
    use v, List.mem_append_left _ hv
  · rcases Except.bind_eq_error_iff.mp h with hsent | ⟨-, -, hjoin⟩
    · obtain ⟨v, hv, hfail⟩ := exists_of_validateAll_eq_error hsent
      left
      use v, List.mem_append_right _ hv
    · right
      apply joinAll_eq_error hjoin

/-- Values fail for an operator that joins nothing only if the dialect says so of a comparison. -/
theorem exists_compare_of_compose {overrides : Option Overrides}
    (h : compose d f values overrides = .error failure) (hkind : failure.kind = .illegalOperator) :
  ∃ (op : Operator) (literal : Text) (ignoreCase : Bool),
    (op ∈ d.supported ∨ op = .eq) ∧ d.compare op f literal ignoreCase = .error failure
  := by
  rcases compose_eq_error h with ⟨v, -, hv⟩ | ⟨t, -, ht⟩ | rfl
  · rw [Wrapping.kind_of_validate_eq_error hv] at hkind
    cases hkind
  · rcases Dialect.exists_compare_of_single ht with hgrammar | hcompare
    · cases hgrammar.kind_ne hkind
    · apply hcompare
  · cases hkind

end Composition

/-- The dialects of the kinds of fields, whether in the loose mode or not, reject just the
comparisons that they do not support.  So a value that is read fails for its literal only, and the
values of a field never fail for an operator that joins nothing; with any other dialect they do only
if the dialect itself says so of a comparison. -/
theorem Dialect.supported_iff_implemented :
  (∀ (loose : Bool) (kind : FieldKind) (d : Dialect), ofKind? loose kind = some d →
      (∀ (op : Operator) (f : Field) (literal : Text) (ignoreCase : Bool),
        (∃ failure, d.leaf op f literal ignoreCase = .error failure
            ∧ failure.kind = .unsupportedOperator)
          ↔ op.isComparison = true ∧ op ∉ d.supported)
        ∧ (∀ (f : Field) (value : Text) (n : Node) (failure : Failure), d.parse value = .ok n →
          d.build f n = .error failure → failure.OfLiteral ∧ failure.kind = .invalidInput)
        ∧ ∀ (f : Field) (values : List Text) (overrides : Option Overrides) (failure : Failure),
          Composition.compose d f values overrides = .error failure →
          failure.kind ≠ .illegalOperator)
    ∧ ∀ (d : Dialect) (f : Field) (values : List Text) (overrides : Option Overrides)
        (failure : Failure), Composition.compose d f values overrides = .error failure →
        failure.kind = .illegalOperator →
        ∃ (op : Operator) (literal : Text) (ignoreCase : Bool),
          d.compare op f literal ignoreCase = .error failure
  := by
  constructor
  · intro loose kind d hd
    have hlawful := lawful_of_ofKind? hd
    obtain ⟨heq, -⟩ := supported_of_ofKind? hd
    refine ⟨?_, ?_, ?_⟩
    · intro op f literal ignoreCase
      apply hlawful.leaf_unsupported_iff
    · intro f value n failure hn h
      obtain ⟨op, literal, ignoreCase, hop, hcompare⟩ := exists_compare_of_build hn h
      have hliteral := hlawful.ofLiteral_of_compare heq hop hcompare
      use hliteral, hliteral.kind_eq
    · intro f values overrides failure h hkind
      obtain ⟨op, literal, ignoreCase, hop, hcompare⟩ :=
        Composition.exists_compare_of_compose h hkind
      rw [(hlawful.ofLiteral_of_compare heq hop hcompare).kind_eq] at hkind
      cases hkind
  · intro d f values overrides failure h hkind
    obtain ⟨op, literal, ignoreCase, -, hcompare⟩ := Composition.exists_compare_of_compose h hkind
    use op, literal, ignoreCase

/-- An enumeration does not support `contains` outside the loose mode; a value that is read may name
no member, and several values fail for such a one.  What an idle dialect says of every comparison,
that it joins nothing, is reported as it says. -/
theorem Dialect.supported_iff_implemented_enumeration :
  let status : Field := ⟨"status".toList, .enumeration ["Open".toList, "Closed".toList]⟩
  let n : Node := .not (.leaf .eq "Lost".toList false)
  let failure : Failure := .unknownMember "Lost".toList status.name
  let idle : Dialect :=
    ⟨"idle", [], false, fun op f literal _ => .error (.illegalConnective op f.name literal)⟩
  let idleFailure : Failure := .illegalConnective .eq status.name "Open".toList
  ofKind? false status.kind = some (enumeration false)
    ∧ (∃ failure, (enumeration false).leaf .contains status "pen".toList true = .error failure
      ∧ failure.kind = .unsupportedOperator)
    ∧ (enumeration false).parse "not( Lost)".toList = .ok n
    ∧ (enumeration false).build status n = .error failure
    ∧ failure.kind = .invalidInput
    ∧ Composition.compose (enumeration false) status ["and(Open)".toList, "not(Lost)".toList] none
      = .error failure
    ∧ failure.kind ≠ .illegalOperator
    ∧ Composition.compose idle status ["and(Open)".toList] none = .error idleFailure
    ∧ idleFailure.kind = .illegalOperator
    ∧ ∃ (op : Operator) (literal : Text) (ignoreCase : Bool),
      idle.compare op status literal ignoreCase = .error idleFailure
  := by
  intro status n failure idle idleFailure
  obtain ⟨hleaf, hbuild, hcompose⟩ :=
    supported_iff_implemented.1 false status.kind (enumeration false) rfl
  have hn : (enumeration false).parse "not( Lost)".toList = .ok n := by decide
  have hn' : (enumeration false).build status n = .error failure := by rfl
  have hvalues : Composition.compose (enumeration false) status
      ["and(Open)".toList, "not(Lost)".toList] none = .error failure := by rfl
  have hidle : Composition.compose idle status ["and(Open)".toList] none = .error idleFailure := by
    rw [Composition.compose_singleton, Composition.lone_eq rfl]
    rfl
  refine ⟨rfl, ?_, hn, hn', ?_, hvalues, ?_, hidle, rfl, ?_⟩
  · apply (hleaf .contains status "pen".toList true).mpr
    decide
  · apply (hbuild status _ n failure hn hn').2
  · apply hcompose status _ none failure hvalues
  · apply supported_iff_implemented.2 idle status _ none idleFailure hidle rfl

end QueryFilter
