import QueryFilter.Proofs.Composition.Balance

/-!
# Blanks in the values of a field

Trimmed values are composed like the values themselves, but for the text of a failure of the check.
A blank value among others changes nothing either, with one exception.  A lone value is taken
without all the connectives around it, since there is nothing to join; as soon as another value
stands beside it, be it a blank one, it is one of several, and a second connective under the first
is refused.
-/

namespace QueryFilter

namespace Composition

variable {d : Dialect} {f : Field} {values before after : List Text} {v blank : Text}

/-! ### Blanks around values -/

theorem unwrap_trim (v : Text) :
  unwrap v.trim = unwrap v
  := by rw [unwrap, unwrap, Text.trim_trim]

theorem defaultConnective_map_trim (values : List Text) :
  defaultConnective (values.map Text.trim) = defaultConnective values
  := by
  simp only [defaultConnective, List.find?_map, Option.bind_map, Function.comp_def, unwrap_trim,
    Text.isBlank_trim]

theorem term?_trim (fallback : Operator) (v : Text) :
  term? fallback v.trim = term? fallback v
  := by rw [term?, term?, unwrap_trim, Text.isBlank_trim]

theorem terms_map_trim (values : List Text) :
  terms (values.map Text.trim) = terms values
  := by
  simp only [terms, defaultConnective_map_trim, List.filterMap_map, Function.comp_def, term?_trim]

/-- Several values mean the same as trimmed ones, and fail for the same cause. -/
theorem joinAll_map_trim :
  joinAll d f (values.map Text.trim) = joinAll d f values
  := by rw [joinAll_eq, joinAll_eq, terms_map_trim, defaultConnective_map_trim]

/-- A lone value means the same as a trimmed one, and fails for the same cause. -/
theorem lone_trim (v : Text) :
  lone d f v.trim = lone d f v
  := by
  rw [lone, lone]
  cases hfound : Wrapping.findWrapped Operator.connectives v.trim with
  | none =>
      have htrimmed : Wrapping.findWrapped Operator.connectives v.trim.trim = none := by
        rw [Text.trim_trim, hfound]
      rw [withoutConnectives_of_eq_none hfound, withoutConnectives_of_eq_none htrimmed,
        Text.isBlank_trim, d.single_trim]
  | some found =>
      have htrimmed : Wrapping.findWrapped Operator.connectives v.trim.trim = some found := by
        rw [Text.trim_trim, hfound]
      rw [withoutConnectives_of_eq_some hfound, withoutConnectives_of_eq_some htrimmed]

theorem mapError_validateAll_map_trim (values : List Text) :
  (validateAll (values.map Text.trim)).mapError Failure.kind
    = (validateAll values).mapError Failure.kind
  := by
  induction values with
  | nil => rfl
  | cons v vs ih =>
      rw [List.map_cons, validateAll_cons, validateAll_cons]
      apply Except.mapError_bind_congr (Wrapping.mapError_validate_trim v)
      intro _
      apply ih

/-- The values of a field are composed like trimmed ones. Only the message about parentheses that
are not balanced shows the blanks. -/
theorem mapError_compose_map_trim (values : List Text) :
  (compose d f (values.map Text.trim) none).mapError Failure.kind
    = (compose d f values none).mapError Failure.kind
  := by
  match values with
  | [] => rfl
  | [v] =>
      rw [List.map_singleton, compose_singleton, compose_singleton]
      apply Except.mapError_bind_congr (Wrapping.mapError_validate_trim v)
      intro _
      rw [lone_trim]
  | v :: v' :: vs =>
      rw [compose_of_two_le (by simp), compose_of_two_le (by simp)]
      apply Except.mapError_bind_congr (mapError_validateAll_map_trim _)
      intro _
      rw [joinAll_map_trim]

/-! ### Blank values -/

theorem joinAll_insert_blank (hblank : blank.isBlank = true) :
  joinAll d f (before ++ blank :: after) = joinAll d f (before ++ after)
  := by
  simp only [joinAll, List.foldlM_append, List.foldlM_cons, Progress.step_of_isBlank hblank]
  rfl

theorem validateAll_insert_blank (hblank : blank.isBlank = true) :
  validateAll (before ++ blank :: after) = validateAll (before ++ after)
  := by
  induction before with
  | nil =>
      rw [List.nil_append, validateAll_cons, Wrapping.validate_of_isBlank hblank]
      rfl
  | cons v before ih =>
      rw [List.cons_append, List.cons_append, validateAll_cons, validateAll_cons, ih]

/-- A blank value has others composed as several values are, even a lone one. -/
theorem compose_insert_blank (hblank : blank.isBlank = true) (hvalues : before ++ after ≠ []) :
  compose d f (before ++ blank :: after) none = compose d f (several (before ++ after)) none
  := by
  have hlength : 2 ≤ (before ++ blank :: after).length := by
    have hpos := List.length_pos_iff.mpr hvalues
    simp only [List.length_append, List.length_cons] at hpos ⊢
    omega
  rw [compose_of_two_le hlength, compose_several hvalues, validateAll_insert_blank hblank,
    joinAll_insert_blank hblank]

/-- The value is a connective around another one, blanks between them set aside. -/
def UnderTwoConnectives (value : Text) : Prop :=
  ∃ a ∈ Operator.connectives, ∃ b ∈ Operator.connectives, ∃ inner operand : Text,
    value.trim = a.wrap inner ∧ inner.trim = b.wrap operand

/-- A value is under two connectives exactly if one is left when one is removed. -/
theorem underTwoConnectives_iff :
  UnderTwoConnectives v
    ↔ (Wrapping.findWrapped Operator.connectives (unwrap v).2.trim).isSome = true
  := by
  rw [Option.isSome_iff_exists]
  constructor
  · rintro ⟨a, ha, b, hb, inner, operand, hv, hinner⟩
    use (b, operand)
    rw [unwrap_of_trim_eq_wrap ha hv]
    apply Wrapping.findWrapped_eq_some_iff.mpr ⟨hb, hinner⟩
  · rintro ⟨⟨b, operand⟩, hfound⟩
    obtain ⟨hb, hinner⟩ := Wrapping.findWrapped_eq_some_iff.mp hfound
    rcases unwrap_cases v with ⟨hv, hunwrap⟩ | ⟨a, inner, hv, hunwrap⟩
    · rw [hunwrap, Text.trim_trim, hv] at hfound
      cases hfound
    · obtain ⟨ha, hwhole⟩ := Wrapping.findWrapped_eq_some_iff.mp hv
      rw [hunwrap] at hinner
      exact ⟨a, ha, b, hb, inner, operand, hwhole, hinner⟩

instance (v : Text) : Decidable (UnderTwoConnectives v) :=
  decidable_of_iff _ underTwoConnectives_iff.symm

/-- Of several values, one under two connectives is refused for the second one. -/
theorem joinAll_singleton_of_underTwo (h : UnderTwoConnectives v) :
  ∃ failure : Failure, joinAll d f [v] = .error failure ∧ failure.kind = .illegalComposition
  := by
  obtain ⟨a, ha, b, hb, inner, operand, hv, hinner⟩ := h
  have hunwrap := unwrap_of_trim_eq_wrap ha hv
  have hoperand : (unwrap v).2.isBlank = false := by
    rw [hunwrap, ← Text.isBlank_trim, hinner, b.isBlank_wrap]
  have hsingle : d.single f inner = .error (.nestedConnective b inner.trim) := by
    rw [Dialect.single, Dialect.parse, Node.parse, Node.parseWithin_of_connective hinner hb]
  use .nestedConnective b inner.trim
  rw [joinAll_singleton (isBlank_eq_false_of_unwrap hoperand), hoperand, hunwrap, hsingle]
  exact ⟨rfl, rfl⟩

/-- A value that is not under two connectives means the same with a blank one beside it. -/
theorem compose_insert_blank_of_not_underTwo (hblank : blank.isBlank = true)
    (h : ∀ v, before ++ after = [v] → ¬ UnderTwoConnectives v) :
  compose d f (before ++ blank :: after) none = compose d f (before ++ after) none
  := by
  match hvalues : before ++ after with
  | [] =>
      obtain ⟨rfl, rfl⟩ := List.append_eq_nil_iff.mp hvalues
      rw [List.nil_append, compose_singleton, Wrapping.validate_of_isBlank hblank]
      apply lone_of_isBlank hblank
  | [v] =>
      rw [compose_insert_blank hblank (by simp [hvalues]), hvalues]
      cases hv : v.isBlank with
      | true =>
          rw [compose_several (List.cons_ne_nil v []), compose_singleton, validateAll_singleton,
            joinAll_singleton_of_isBlank hv, lone_of_isBlank hv]
      | false =>
          apply compose_several_singleton hv
          apply Option.not_isSome_iff_eq_none.mp
          rw [← underTwoConnectives_iff]
          apply h v hvalues
  | v :: v' :: vs =>
      rw [compose_insert_blank hblank (by simp [hvalues]), hvalues, several]
      intro v h
      cases h

/-- A value under two connectives fails with a blank one beside it: for its parentheses, if they are
not balanced, and for the second connective otherwise. -/
theorem compose_insert_blank_of_underTwo (hblank : blank.isBlank = true)
    (hvalues : before ++ after = [v]) (h : UnderTwoConnectives v) :
  ∃ failure, compose d f (before ++ blank :: after) none = .error failure
    ∧ (Wrapping.validate v = .ok () → failure.kind = .illegalComposition)
  := by
  rw [compose_insert_blank hblank (by simp [hvalues]), hvalues,
    compose_several (List.cons_ne_nil v []), validateAll_singleton]
  cases hv : Wrapping.validate v with
  | error failure =>
      use failure, rfl
      intro hchecked
      cases hchecked
  | ok checked =>
      obtain ⟨failure, hjoin, hkind⟩ := joinAll_singleton_of_underTwo (d := d) (f := f) h
      use failure, hjoin
      intro _
      apply hkind

end Composition

end QueryFilter
