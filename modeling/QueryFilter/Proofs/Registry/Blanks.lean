import QueryFilter.Proofs.Composition.Blanks
import QueryFilter.Proofs.Predicate.Timestamps
import QueryFilter.Proofs.Session

/-!
# Blanks in the values that are asked about

Whatever a registry has been asked before, blanks around the values of a field do not matter to its
predicate.  Neither do blank values among them, unless a value that would otherwise be alone is
under two connectives: alone it is taken without them, and beside a blank value it is refused.
-/

namespace QueryFilter

namespace DateFilter

variable {f : Field} {values before after : List Text} {blank : Text}

/-- Blanks around dates do not matter. -/
theorem predicate_map_trim :
  predicate f (values.map Text.trim) = predicate f values
  := by
  have hparse : Timestamp.parse ∘ Text.trim = Timestamp.parse := by
    funext v
    rw [Function.comp_apply, Timestamp.parse, Timestamp.parse, Text.trim_trim]
  simp only [predicate, List.filter_map, Function.comp_def, Text.isBlank_trim, List.mapM_map]
  rw [← Function.comp_def, hparse]

/-- Blank values among dates are passed over. -/
theorem predicate_insert_blank (hblank : blank.isBlank = true) :
  predicate f (before ++ blank :: after) = predicate f (before ++ after)
  := by simp [predicate, hblank]

end DateFilter

namespace Registry

variable {r : Registry} {f : Field} {before after : List Text} {blank v : Text}

theorem mapError_predicate_map_trim (r : Registry) (f : Field) (values : List Text) :
  (r.predicate f (.many (values.map Text.trim)) none).mapError Failure.kind
    = (r.predicate f (.many values) none).mapError Failure.kind
  := by
  by_cases hkind : f.kind = .timestamp
  · simp only [predicate_of_timestamp hkind, Input.values, DateFilter.predicate_map_trim]
  · cases hd : r.dialect? f with
    | none => simp only [predicate_of_dialect?_eq_none hd]
    | some d =>
        simp only [predicate_many_none hd hkind, Composition.mapError_compose_map_trim]

/-- Whether the values of a field are composed, and not read as dates or left alone. -/
def Composes (r : Registry) (f : Field) : Prop := f.kind ≠ .timestamp ∧ (r.dialect? f).isSome

theorem predicate_insert_blank (hblank : blank.isBlank = true)
    (h : r.Composes f → ∀ v, before ++ after = [v] → ¬ Composition.UnderTwoConnectives v) :
  r.predicate f (.many (before ++ blank :: after)) none
    = r.predicate f (.many (before ++ after)) none
  := by
  by_cases hkind : f.kind = .timestamp
  · simp only [predicate_of_timestamp hkind, Input.values,
      DateFilter.predicate_insert_blank hblank]
  · cases hd : r.dialect? f with
    | none => simp only [predicate_of_dialect?_eq_none hd]
    | some d =>
        rw [predicate_many_none hd hkind, predicate_many_none hd hkind]
        apply Composition.compose_insert_blank_of_not_underTwo hblank
        apply h
        use hkind
        rw [hd]
        rfl

theorem predicate_insert_blank_of_underTwo (hblank : blank.isBlank = true) (hf : r.Composes f)
    (hvalues : before ++ after = [v]) (h : Composition.UnderTwoConnectives v) :
  ∃ failure, r.predicate f (.many (before ++ blank :: after)) none = .error failure
    ∧ (Wrapping.validate v = .ok () → failure.kind = .illegalComposition)
  := by
  obtain ⟨hkind, hsome⟩ := hf
  obtain ⟨d, hd⟩ := Option.isSome_iff_exists.mp hsome
  rw [predicate_many_none hd hkind]
  apply Composition.compose_insert_blank_of_underTwo hblank hvalues h

end Registry

namespace Session

/-- Whatever was done before, trimmed values of a field have the same predicate as the values, or
none either, or fail for the same kind of cause. -/
theorem ask_map_trim (settings : Settings) (retention : Field → Retention) (actions : List Action)
    (f : Field) (values : List Text) :
  let r := (run (initial settings retention) actions).1
  (r.ask f (.many (values.map Text.trim)) none).2.mapError Failure.kind
    = (r.ask f (.many values) none).2.mapError Failure.kind
  := by
  intro r
  have hr : r.Coherent := (coherent_run (coherent_initial settings retention) actions).1
  rw [(Registry.ask_spec hr _ _ _).1, (Registry.ask_spec hr _ _ _).1]
  apply Registry.mapError_predicate_map_trim

/-- Whatever was done before, a blank value changes nothing in what the values of a field have as
their predicate or fail for, unless they are composed and the only other one is under two
connectives.  That one fails beside a blank value, for its second connective if its parentheses are
balanced. -/
theorem ask_insert_blank (settings : Settings) (retention : Field → Retention)
    (actions : List Action) (f : Field) (before after : List Text) (blank : Text)
    (hblank : blank.isBlank = true) :
  let r := (run (initial settings retention) actions).1
  let withBlank := (r.ask f (.many (before ++ blank :: after)) none).2
  let without := (r.ask f (.many (before ++ after)) none).2
  ((r.Composes f → ∀ v, before ++ after = [v] → ¬ Composition.UnderTwoConnectives v) →
      withBlank = without)
    ∧ (r.Composes f → ∀ v, before ++ after = [v] → Composition.UnderTwoConnectives v →
      ∃ failure, withBlank = .error failure
        ∧ (Wrapping.validate v = .ok () → failure.kind = .illegalComposition))
  := by
  intro r withBlank without
  have hr : r.Coherent := (coherent_run (coherent_initial settings retention) actions).1
  have hwithBlank : withBlank = r.predicate f (.many (before ++ blank :: after)) none :=
    (Registry.ask_spec hr _ _ _).1
  have hwithout : without = r.predicate f (.many (before ++ after)) none :=
    (Registry.ask_spec hr _ _ _).1
  rw [hwithBlank, hwithout]
  constructor
  · apply Registry.predicate_insert_blank hblank
  · intro hf v
    apply Registry.predicate_insert_blank_of_underTwo hblank hf

/-- Under one connective a value means the same beside a blank one; under two it is refused. -/
theorem ask_insert_blank_of_text :
  let name : Field := ⟨"name".toList, .text⟩
  let r := (run (initial {} fun _ _ _ => false) []).1
  let blank : Text := [' ']
  (r.ask name (.many [blank, "and( ci(a))".toList]) none).2
      = .ok (some (Dialect.clause name .eq (.text ['a']) true))
    ∧ ∃ failure, (r.ask name (.many ["and( or(a))".toList, blank]) none).2 = .error failure
      ∧ failure.kind = .illegalComposition
  := by
  intro name r blank
  have hblank : blank.isBlank = true := rfl
  constructor
  · have h := (ask_insert_blank {} (fun _ _ _ => false) [] name [] ["and( ci(a))".toList] blank
      hblank).1
    rw [List.nil_append, List.nil_append] at h
    rw [h]
    · change Composition.compose .text name ["and( ci(a))".toList] none = _
      rw [Composition.compose_singleton, Composition.lone_eq rfl]
      rfl
    · intro _ v hv
      cases hv
      decide
  · obtain ⟨failure, hfailure, hkind⟩ := (ask_insert_blank {} (fun _ _ _ => false) [] name
      ["and( or(a))".toList] [] blank hblank).2 ⟨by decide, rfl⟩ _ rfl (by decide)
    exact ⟨failure, hfailure, hkind rfl⟩

/-- Under two connectives a value has a predicate alone, but none with a blank one beside it. -/
theorem not_forall_ask_insert_blank :
  ¬ ∀ (settings : Settings) (retention : Field → Retention) (actions : List Action) (f : Field)
      (before after : List Text) (blank : Text), blank.isBlank = true →
    let r := (run (initial settings retention) actions).1
    (r.ask f (.many (before ++ blank :: after)) none).2.toOption
      = (r.ask f (.many (before ++ after)) none).2.toOption
  := by
  intro h
  let name : Field := ⟨"name".toList, .text⟩
  have halone : Composition.compose .text name ["and(or(a))".toList] none
      = .ok (some (Dialect.clause name .eq (.text ['a']) false)) := by
    have ha : Composition.withoutConnectives "and(or(a))".toList = ['a'] :=
      calc Composition.withoutConnectives "and(or(a))".toList
        _ = Composition.withoutConnectives "or(a)".toList :=
          Composition.withoutConnectives_wrap .and (by decide) "or(a)".toList
        _ = Composition.withoutConnectives ['a'] :=
          Composition.withoutConnectives_wrap .or (by decide) ['a']
        _ = ['a'] := Composition.withoutConnectives_of_eq_none rfl
    rw [Composition.compose_singleton, Composition.lone, ha]
    rfl
  have heq : none
      = (Composition.compose .text name ["and(or(a))".toList] none).toOption :=
    h {} (fun _ _ _ => false) [] name ["and(or(a))".toList] [] [] rfl
  rw [halone] at heq
  cases heq

end Session

end QueryFilter
