import QueryFilter.Composition
import QueryFilter.Proofs.Grammar.Wrapping

/-!
# The terms of a composition

Of the values of a field only some take part in their composition: those that are not blank, and
not blank within the connective around them either.  Each is a `Term`, an operand with the
connective that joins it to the ones before.  `Composition.joinAll` joins the terms of the values
and does nothing else.
-/

namespace QueryFilter

namespace Composition

/-- The connective around a value, if there is one, and the value without it. -/
def unwrap (value : Text) : Option Operator × Text :=
  match Wrapping.findWrapped Operator.connectives value.trim with
  | some (connective, operand) => (some connective, operand)
  | none => (none, value.trim)

/-- The connective of values without one: the one around the first value that is not blank, and
`or` if there is none. -/
def defaultConnective (values : List Text) : Operator :=
  ((values.find? fun v => !v.isBlank).bind fun v => (unwrap v).1).getD .or

/-- An operand with the connective that joins it to the ones before. -/
structure Term where
  connective : Operator
  operand : Text
  deriving DecidableEq

/-- The term of a value, if it is neither blank nor a connective around nothing. -/
def term? (fallback : Operator) (value : Text) : Option Term :=
  if value.isBlank || (unwrap value).2.isBlank then none
  else some ⟨(unwrap value).1.getD fallback, (unwrap value).2⟩

/-- The terms of the values of a field. -/
def terms (values : List Text) : List Term := values.filterMap (term? (defaultConnective values))

/-! ### One value -/

/-- A value is taken out of the connective around it, or trimmed if there is none. -/
theorem unwrap_cases (value : Text) :
  (Wrapping.findWrapped Operator.connectives value.trim = none ∧ unwrap value = (none, value.trim))
    ∨ ∃ connective operand,
      Wrapping.findWrapped Operator.connectives value.trim = some (connective, operand)
        ∧ unwrap value = (some connective, operand)
  := by
  rw [unwrap]
  cases Wrapping.findWrapped Operator.connectives value.trim with
  | none =>
      left
      exact ⟨rfl, rfl⟩
  | some found =>
      right
      exact ⟨found.1, found.2, rfl, rfl⟩

theorem unwrap_of_trim_eq_wrap {value operand : Text} {connective : Operator}
    (hmem : connective ∈ Operator.connectives) (h : value.trim = connective.wrap operand) :
  unwrap value = (some connective, operand)
  := by rw [unwrap, Wrapping.findWrapped_eq_some_iff.mpr ⟨hmem, h⟩]

theorem extract_connectives {value : Text} (hvalue : value.isBlank = false) (fallback : Operator) :
  Wrapping.extract value Operator.connectives fallback
    = .ok ⟨(unwrap value).1.getD fallback, (unwrap value).2, (unwrap value).1.isSome⟩
  := by
  rw [Wrapping.extract_eq hvalue (by decide), unwrap]
  cases Wrapping.findWrapped Operator.connectives value.trim with
  | none => rfl
  | some found => rfl

/-- A value with an operand is not blank. -/
theorem isBlank_eq_false_of_unwrap {value : Text} (h : (unwrap value).2.isBlank = false) :
  value.isBlank = false
  := by
  apply Bool.eq_false_iff.mpr
  intro hblank
  rw [unwrap, Text.trim_eq_nil_iff.mpr hblank] at h
  cases h

/-- The connective around a value, or else one that is given, joins values. -/
theorem isConnective_unwrap_getD (value : Text) {fallback : Operator}
    (h : fallback.isConnective = true) :
  ((unwrap value).1.getD fallback).isConnective = true
  := by
  rcases unwrap_cases value with ⟨-, hunwrap⟩ | ⟨connective, operand, hfound, hunwrap⟩
  · rw [hunwrap]
    apply h
  · obtain ⟨hmem, -⟩ := Wrapping.findWrapped_eq_some_iff.mp hfound
    have hconnectives : ∀ op ∈ Operator.connectives, op.isConnective = true := by decide
    rw [hunwrap]
    apply hconnectives _ hmem

theorem isConnective_defaultConnective (values : List Text) :
  (defaultConnective values).isConnective = true
  := by
  rw [defaultConnective]
  cases values.find? fun v => !v.isBlank with
  | none => rfl
  | some v => apply isConnective_unwrap_getD v rfl

namespace Progress

variable {d : Dialect} {f : Field} {s s' : Progress}

/-- Joins the expression of a term: the first one begins the joined expression. -/
def add (s : Progress) (f : Field) (t : Term) (e : Expr) : Except Failure Progress :=
  if s.finished.isNone then .ok { s with finished := some e } else s.append f t.connective e

/-- Builds the expression of a term and joins it. -/
def addTerm (d : Dialect) (f : Field) (s : Progress) (t : Term) : Except Failure Progress :=
  match d.single f t.operand with
  | .error failure => .error failure
  | .ok e => s.add f t e

theorem step_of_isBlank {value : Text} (h : value.isBlank = true) :
  step d f s value = .ok s
  := by rw [step, if_pos h]

/-- A value that is not blank fixes the connective of values without one, and its term is joined,
if it has one. -/
theorem step_eq {value : Text} {default : Operator} (hvalue : value.isBlank = false)
    (hdefault : s.fallback.getD ((unwrap value).1.getD .or) = default)
    (hconnective : default.isConnective = true) :
  step d f s value
    = match term? default value with
      | none => .ok { s with fallback := some default }
      | some t => addTerm d f { s with fallback := some default } t
  := by
  have hoperator : (unwrap value).1.getD (s.fallback.getD .or) = (unwrap value).1.getD default := by
    rw [← hdefault]
    cases (unwrap value).1 with
    | none => rfl
    | some connective => rfl
  have hfallback : s.fallback.getD ((unwrap value).1.getD (s.fallback.getD .or)) = default := by
    rw [← hdefault]
    cases s.fallback with
    | none => rfl
    | some connective => rfl
  rw [step, extract_connectives hvalue, term?, hvalue]
  simp only [Bool.false_eq_true, ↓reduceIte, Bool.false_or, hfallback]
  cases hoperand : (unwrap value).2.isBlank with
  | true => rfl
  | false =>
      cases hsingle : d.single f (unwrap value).2 with
      | error failure => simp only [Bool.false_eq_true, ↓reduceIte, addTerm, hsingle]
      | ok e =>
          simp only [Bool.false_eq_true, ↓reduceIte, addTerm, add, hsingle, hoperator,
            isConnective_unwrap_getD value hconnective]

/-- What appending an expression does: it lengthens the run, or closes it and begins another one
with a different connective. -/
theorem append_eq_ok {connective : Operator} {e : Expr} (h : s.append f connective e = .ok s') :
  ((s.connective = none ∨ s.connective = some connective)
      ∧ s' = { s with connective := some connective, run := s.run ++ [e] })
    ∨ (s.connective ≠ none ∧ s.connective ≠ some connective ∧ s.switches < maxSwitches
      ∧ s' = { s with
          finished := s.close, connective := some connective, run := [e],
          switches := s.switches + 1 })
  := by
  rw [append] at h
  split at h
  · rename_i hchange
    simp only [Bool.and_eq_true, Option.isSome_iff_ne_none, bne_iff_ne] at hchange
    split at h
    · cases h
    · rename_i hswitches
      cases h
      right
      use hchange.1, hchange.2, Nat.lt_of_not_le hswitches
  · rename_i hkeep
    cases h
    left
    simp only [Bool.and_eq_true, Option.isSome_iff_ne_none, bne_iff_ne, not_and_or, not_not]
      at hkeep
    use hkeep

/-- What adding the expression of a term does: it is the first one, or it is appended. -/
theorem add_eq_ok {t : Term} {e : Expr} (h : s.add f t e = .ok s') :
  (s.finished = none ∧ s' = { s with finished := some e })
    ∨ (s.finished ≠ none ∧ s.append f t.connective e = .ok s')
  := by
  rw [add] at h
  split at h
  · rename_i hfirst
    cases h
    left
    use Option.isNone_iff_eq_none.mp hfirst
  · rename_i hlater
    right
    use fun hnone => hlater (Option.isNone_iff_eq_none.mpr hnone)

theorem addTerm_eq_ok_iff {t : Term} :
  addTerm d f s t = .ok s' ↔ ∃ e, d.single f t.operand = .ok e ∧ s.add f t e = .ok s'
  := by
  rw [addTerm]
  cases d.single f t.operand with
  | error failure => simp
  | ok e => simp

/-- Joining a term leaves the connective of values without one alone. -/
theorem fallback_addTerm {t : Term} (h : addTerm d f s t = .ok s') :
  s'.fallback = s.fallback
  := by
  obtain ⟨e, -, hadd⟩ := addTerm_eq_ok_iff.mp h
  rcases add_eq_ok hadd with ⟨-, rfl⟩ | ⟨-, happend⟩
  · rfl
  · rcases append_eq_ok happend with ⟨-, rfl⟩ | ⟨-, -, -, rfl⟩
    · rfl
    · rfl

/-- Once the connective of values without one is fixed, joining values is joining their terms. -/
theorem foldlM_step {default : Operator} (hconnective : default.isConnective = true)
    (values : List Text) (s : Progress) (hs : s.fallback = some default) :
  values.foldlM (step d f) s = (values.filterMap (term? default)).foldlM (addTerm d f) s
  := by
  induction values generalizing s with
  | nil => rfl
  | cons value values ih =>
      have hsame : { s with fallback := some default } = s := by rw [← hs]
      rw [List.foldlM_cons, List.filterMap_cons]
      cases hvalue : value.isBlank with
      | true =>
          rw [step_of_isBlank hvalue, term?, hvalue]
          apply ih s hs
      | false =>
          rw [step_eq hvalue (by rw [hs]; rfl) hconnective, hsame]
          cases term? default value with
          | none => apply ih s hs
          | some t =>
              simp only [List.foldlM_cons]
              cases hadd : addTerm d f s t with
              | error failure => rfl
              | ok s' => apply ih s' ((fallback_addTerm hadd).trans hs)

/-- The first value that is not blank fixes the connective of values without one, so that it may
as well be fixed from the beginning. -/
theorem map_close_foldlM_step (values : List Text) :
  (values.foldlM (step d f) {}).map close
    = (values.foldlM (step d f) { fallback := some (defaultConnective values) }).map close
  := by
  induction values with
  | nil => rfl
  | cons value values ih =>
      rw [List.foldlM_cons, List.foldlM_cons]
      cases hvalue : value.isBlank with
      | true =>
          have hdefault : defaultConnective (value :: values) = defaultConnective values := by
            simp [defaultConnective, hvalue]
          rw [step_of_isBlank hvalue, step_of_isBlank hvalue, hdefault]
          apply ih
      | false =>
          have hdefault :
              defaultConnective (value :: values) = (unwrap value).1.getD .or := by
            simp [defaultConnective, hvalue]
          have hconnective := isConnective_defaultConnective (value :: values)
          rw [step_eq hvalue hdefault.symm hconnective,
            step_eq (s := { fallback := some (defaultConnective (value :: values)) }) hvalue rfl
              hconnective]
          rfl

end Progress

variable {d : Dialect} {f : Field}

/-- Joining values is joining their terms one after the other. -/
theorem joinAll_eq (values : List Text) :
  joinAll d f values
    = ((terms values).foldlM (Progress.addTerm d f)
        { fallback := some (defaultConnective values) }).map Progress.close
  := by
  rw [joinAll, terms, Progress.map_close_foldlM_step,
    Progress.foldlM_step (isConnective_defaultConnective values) values _ rfl]

end Composition

end QueryFilter
