import QueryFilter.Proofs.Composition.Overrides
import QueryFilter.Proofs.Request
import QueryFilter.Registry

/-!
# Predicates of values as they were sent

Unless a field holds dates, the predicate of values that were converted is that of the values as
they were sent: of the first one if a single value was left by the conversion, and of all of them
if several were.  A conversion that removes the operators of each value changes nothing.
-/

namespace QueryFilter

/-- The values of a field as they were sent, dates without their operators. -/
def Input.ofSent (f : Field) (sent : List Text) : Input :=
  .many (if f.kind = .timestamp then sent.map Wrapping.strip else sent)

namespace Registry

variable {r : Registry} {f : Field} {d : Dialect}

theorem predicate_of_dialect?_eq_none (hd : r.dialect? f = none) (input : Input)
    (sent : Option SentValues) :
  r.predicate f input sent = .ok none
  := by rw [predicate, hd]

/-- The predicate of values that are not dates is what they are composed to. -/
theorem predicate_eq_compose (hd : r.dialect? f = some d) (hkind : f.kind ≠ .timestamp)
    (input : Input) (sent : Option SentValues) :
  r.predicate f input sent
    = Composition.compose d f input.values (sent.map (⟨·, r.alias? f⟩))
  := by
  rw [predicate, hd]
  cases hk : f.kind with
  | timestamp => cases hkind hk
  | text => rfl
  | number => rfl
  | enumeration members => rfl
  | other typeName => rfl

theorem predicate_many_none (hd : r.dialect? f = some d) (hkind : f.kind ≠ .timestamp)
    (values : List Text) :
  r.predicate f (.many values) none = Composition.compose d f values none
  := predicate_eq_compose hd hkind (.many values) none

/-- The predicate of dates is made of the values that are given. -/
theorem predicate_of_timestamp (hkind : f.kind = .timestamp) (input : Input)
    (sent : Option SentValues) :
  r.predicate f input sent = DateFilter.predicate f input.values
  := by
  have hd : r.dialect? f = some .date := by rw [dialect?, hkind, Dialect.ofKind?]
  simp only [predicate, hd, hkind]

/-! ### Values without their operators -/

/-- The predicate of what is left of values without their operators, when the values themselves are
at hand as those that were sent, is that of the values. -/
theorem predicate_strip {source : SentValues} {values : List Text} {result : Option Expr}
    (hvalues : values ≠ []) (hfirst : source.first? f (r.alias? f) = values.head?)
    (hall : source.all? f (r.alias? f) = some values)
    (h : r.predicate f (.many (values.map Wrapping.strip)) (some source) = .ok result) :
  r.predicate f (.ofSent f values) none = .ok result
  := by
  by_cases hkind : f.kind = .timestamp
  · rw [predicate_of_timestamp hkind] at h ⊢
    rw [Input.ofSent, if_pos hkind]
    apply h
  · rw [Input.ofSent, if_neg hkind]
    cases hd : r.dialect? f with
    | none =>
        rw [predicate_of_dialect?_eq_none hd] at h ⊢
        apply h
    | some d =>
        rw [predicate_eq_compose hd hkind] at h
        rw [predicate_many_none hd hkind, ← h]
        apply Eq.symm
        apply Composition.compose_strip hvalues hfirst hall
        apply Composition.validateAll_of_compose_eq_ok h

/-! ### Converted values -/

/-- A single value stands for the first one that was sent, and several for all that were, whatever
they are. -/
theorem predicate_sending (hkind : f.kind ≠ .timestamp) {first : Text} {rest converted : List Text}
    (hfirst : first.isBlank = false) (hconverted : converted ≠ [])
    (hvalid : Composition.validateAll converted = .ok ()) :
  r.predicate f (.many converted) (some (.ofParameters (.sending f.name (first :: rest))))
    = if converted.length = 1 then r.predicate f (.many [first]) none
      else r.predicate f (.many (Composition.several (first :: rest))) none
  := by
  cases hd : r.dialect? f with
  | none => simp only [predicate_of_dialect?_eq_none hd, ite_self]
  | some d =>
      have hvalues : (Parameters.sending f.name (first :: rest)).values f.name ≠ [] := by simp
      obtain ⟨hhead, hall⟩ := Parameters.lookup_of_name rfl hvalues (r.alias? f)
      rw [Parameters.values_sending] at hhead hall
      simp only [predicate_eq_compose hd hkind]
      split
      · rename_i hlength
        obtain ⟨v, rfl⟩ := List.length_eq_one_iff.mp hlength
        rw [Composition.validateAll_singleton] at hvalid
        apply Composition.compose_singleton_of_sent hvalid hhead hfirst
      · rename_i hlength
        have hpos := List.length_pos_iff.mpr hconverted
        apply Composition.compose_of_sent _ hvalid hall (List.cons_ne_nil first rest)
        omega

/-- Two conversions of the same values have the same predicate if both or neither leave a single
value.  If one does and the other does not, they have the same predicate exactly if the first value
that was sent stands for all; in particular, if it is the only one and not under two
connectives. -/
theorem predicate_sending_eq_iff (r : Registry) (f : Field) (hkind : f.kind ≠ .timestamp)
    (first : Text) (rest : List Text) (hfirst : first.isBlank = false)
    (converted converted' : List Text) (hconverted : converted ≠ []) (hconverted' : converted' ≠ [])
    (hvalid : ∀ v ∈ converted, Wrapping.validate v = .ok ())
    (hvalid' : ∀ v ∈ converted', Wrapping.validate v = .ok ()) :
  let sent := some (SentValues.ofParameters (.sending f.name (first :: rest)))
  let ofFirst := r.predicate f (.many [first]) none
  let ofAll := r.predicate f (.many (Composition.several (first :: rest))) none
  r.predicate f (.many converted) sent = (if converted.length = 1 then ofFirst else ofAll)
    ∧ (r.predicate f (.many converted) sent = r.predicate f (.many converted') sent
      ↔ (converted.length = 1 ↔ converted'.length = 1) ∨ ofFirst = ofAll)
    ∧ (rest = [] →
      Wrapping.findWrapped Operator.connectives (Composition.unwrap first).2.trim = none →
      ofFirst = ofAll)
  := by
  intro sent ofFirst ofAll
  have hsent : r.predicate f (.many converted) sent
      = if converted.length = 1 then ofFirst else ofAll :=
    predicate_sending hkind hfirst hconverted (Composition.validateAll_eq_ok_iff.mpr hvalid)
  have hsent' : r.predicate f (.many converted') sent
      = if converted'.length = 1 then ofFirst else ofAll :=
    predicate_sending hkind hfirst hconverted' (Composition.validateAll_eq_ok_iff.mpr hvalid')
  refine ⟨hsent, ?_, ?_⟩
  · rw [hsent, hsent']
    by_cases h : converted.length = 1
    · by_cases h' : converted'.length = 1
      · simp [h, h']
      · simp [h, h']
    · by_cases h' : converted'.length = 1
      · simp [h, h', eq_comm]
      · simp [h, h']
  · rintro rfl hwrapped
    cases hd : r.dialect? f with
    | none => simp only [ofFirst, ofAll, predicate_of_dialect?_eq_none hd]
    | some d =>
        simp only [ofFirst, ofAll, predicate_many_none hd hkind]
        apply Eq.symm
        apply Composition.compose_several_singleton hfirst hwrapped

/-- What is left of two values does not matter as long as it is not a single one. -/
theorem predicate_sending_eq_iff_of_two :
  let r := Registry.ofSettings {}
  let name : Field := ⟨"name".toList, .text⟩
  let sent := some (SentValues.ofParameters (.sending name.name ["a".toList, "and(b)".toList]))
  let converted := ["a".toList, "b".toList]
  let converted' := ["x".toList, "y".toList, "z".toList]
  name.kind ≠ .timestamp ∧ Text.isBlank "a".toList = false ∧ converted ≠ [] ∧ converted' ≠ []
    ∧ (∀ v ∈ converted, Wrapping.validate v = .ok ())
    ∧ (∀ v ∈ converted', Wrapping.validate v = .ok ())
    ∧ r.predicate name (.many converted) sent = r.predicate name (.many converted') sent
  := by
  intro r name sent converted converted'
  have hkind : name.kind ≠ .timestamp := by decide
  have hfirst : Text.isBlank "a".toList = false := by decide
  have hconverted : converted ≠ [] := by decide
  have hconverted' : converted' ≠ [] := by decide
  have hvalid : ∀ v ∈ converted, Wrapping.validate v = .ok () :=
    Composition.validateAll_eq_ok_iff.mp rfl
  have hvalid' : ∀ v ∈ converted', Wrapping.validate v = .ok () :=
    Composition.validateAll_eq_ok_iff.mp rfl
  use hkind, hfirst, hconverted, hconverted', hvalid, hvalid'
  apply (predicate_sending_eq_iff r name hkind "a".toList ["and(b)".toList] hfirst converted
    converted' hconverted hconverted' hvalid hvalid').2.1.mpr
  left
  decide

/-- Of two values only the first one is left in the predicate if the conversion leaves a single
one. -/
theorem predicate_sending_two :
  let r := Registry.ofSettings {}
  let name : Field := ⟨"name".toList, .text⟩
  let sent := some (SentValues.ofParameters (.sending name.name ["a".toList, "and(b)".toList]))
  let is := fun t : Text => Dialect.clause name .eq (.text t) false
  r.predicate name (.many ["a".toList]) sent = .ok (some (is ['a']))
    ∧ r.predicate name (.many ["a".toList, "b".toList]) sent
      = .ok (some (.and (is ['a']) (is ['b'])))
  := by
  intro r name sent is
  have hkind : name.kind ≠ .timestamp := by decide
  have hfirst : Text.isBlank "a".toList = false := by decide
  have hd : r.dialect? name = some Dialect.text := rfl
  constructor
  · rw [predicate_sending hkind hfirst (by decide) rfl, if_pos (by decide),
      predicate_many_none hd hkind, Composition.compose_singleton, Composition.lone_eq rfl]
    rfl
  · rw [predicate_sending hkind hfirst (by decide) rfl, if_neg (by decide),
      predicate_many_none hd hkind]
    apply Composition.compose_pair rfl rfl rfl rfl rfl

/-- The predicate does not depend on the values that were sent alone. -/
theorem not_forall_predicate_sending_eq :
  ¬ ∀ (r : Registry) (f : Field) (first : Text) (rest converted converted' : List Text),
    f.kind ≠ .timestamp → first.isBlank = false → converted ≠ [] → converted' ≠ [] →
    (∀ v ∈ converted, Wrapping.validate v = .ok ()) →
    (∀ v ∈ converted', Wrapping.validate v = .ok ()) →
    r.predicate f (.many converted) (some (.ofParameters (.sending f.name (first :: rest))))
      = r.predicate f (.many converted') (some (.ofParameters (.sending f.name (first :: rest))))
  := by
  intro h
  have heq := h (.ofSettings {}) ⟨"name".toList, .text⟩ "a".toList ["and(b)".toList]
    ["a".toList] ["a".toList, "b".toList] (by decide) (by decide) (by decide) (by decide)
    (Composition.validateAll_eq_ok_iff.mp rfl) (Composition.validateAll_eq_ok_iff.mp rfl)
  rw [predicate_sending_two.1, predicate_sending_two.2] at heq
  cases heq

end Registry

end QueryFilter
