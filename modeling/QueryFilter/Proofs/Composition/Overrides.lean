import QueryFilter.Proofs.Composition.Terms
import QueryFilter.Proofs.Except
import QueryFilter.Proofs.Grammar.Node
import QueryFilter.Proofs.Predicate.Balanced

/-!
# Values as they were sent

`Composition.compose` replaces a lone value with the first one that was sent, and several values
with all that were sent; both are checked, and `Composition.compose_eq` says that the latter are
joined as several, however many they are.  So once the values that are replaced are checked, only
their number matters; and composing what is left of values without their operators, when the values
themselves are at hand as those that were sent, is composing the values.
-/

namespace QueryFilter

/-- Blanks around a single value do not matter. -/
theorem Dialect.single_trim (d : Dialect) (f : Field) (value : Text) :
  d.single f value.trim = d.single f value
  := by rw [single, single, parse, parse, Node.parse, Node.parse, Node.parseWithin_trim]

namespace Composition

variable {d : Dialect} {f : Field} {values sent : List Text} {o : Overrides} {v v' : Text}

/-! ### Checking values -/

theorem validateAll_cons (v : Text) (vs : List Text) :
  validateAll (v :: vs) = (do Wrapping.validate v; validateAll vs)
  := rfl

theorem validateAll_singleton (v : Text) :
  validateAll [v] = Wrapping.validate v
  := by
  rw [validateAll_cons]
  cases Wrapping.validate v with
  | error failure => rfl
  | ok checked => rfl

/-- All values pass the check exactly if each of them does. -/
theorem validateAll_eq_ok_iff :
  validateAll values = .ok () ↔ ∀ v ∈ values, Wrapping.validate v = .ok ()
  := by
  induction values with
  | nil =>
      constructor
      · intro _ v hv
        cases hv
      · intro _
        rfl
  | cons v vs ih =>
      rw [validateAll_cons, Except.bind_eq_ok_iff, List.forall_mem_cons, ← ih]
      constructor
      · rintro ⟨⟨⟩, hv, hvs⟩
        use hv, hvs
      · rintro ⟨hv, hvs⟩
        use (), hv, hvs

/-- Values that are composed have passed the check. -/
theorem validateAll_of_compose_eq_ok {overrides : Option Overrides} {result : Option Expr}
    (h : compose d f values overrides = .ok result) :
  validateAll values = .ok ()
  := by
  unfold compose at h
  obtain ⟨⟨⟩, hvalid, -⟩ := Except.bind_eq_ok_iff.mp h
  apply hvalid

/-- Values that do not pass the check are not composed, whatever takes their place. -/
theorem compose_of_validateAll_eq_error {overrides : Option Overrides} {failure : Failure}
    (h : validateAll values = .error failure) :
  compose d f values overrides = .error failure
  := by
  simp only [compose, h]
  rfl

/-! ### A lone value -/

theorem withoutConnectives_of_eq_none
    (h : Wrapping.findWrapped Operator.connectives v.trim = none) :
  withoutConnectives v = v
  := by
  rw [withoutConnectives]
  split
  · rename_i hfound
    rw [h] at hfound
    cases hfound
  · rfl

theorem withoutConnectives_of_eq_some {operand : Text} {connective : Operator}
    (h : Wrapping.findWrapped Operator.connectives v.trim = some (connective, operand)) :
  withoutConnectives v = withoutConnectives operand
  := by
  rw [withoutConnectives]
  split
  · rename_i hfound
    rw [h] at hfound
    cases hfound
    rfl
  · rename_i hfound
    rw [h] at hfound
    cases hfound

theorem withoutConnectives_wrap (connective : Operator) (h : connective ∈ Operator.connectives)
    (operand : Text) :
  withoutConnectives (connective.wrap operand) = withoutConnectives operand
  := by
  apply withoutConnectives_of_eq_some
  rw [Operator.trim_wrap]
  apply Wrapping.findWrapped_eq_some_iff.mpr ⟨h, rfl⟩

/-- A lone blank value has no expression. -/
theorem lone_of_isBlank (hv : v.isBlank = true) :
  lone d f v = .ok none
  := by
  have hnone : Wrapping.findWrapped Operator.connectives v.trim = none := by
    rw [Text.trim_eq_nil_iff.mpr hv]
    rfl
  rw [lone, withoutConnectives_of_eq_none hnone, if_pos hv]

/-- A lone value under one connective at most is taken without it. -/
theorem lone_eq (h : Wrapping.findWrapped Operator.connectives (unwrap v).2.trim = none) :
  lone d f v = if (unwrap v).2.isBlank then .ok none else (d.single f (unwrap v).2).map some
  := by
  rw [lone]
  rcases unwrap_cases v with ⟨hv, hunwrap⟩ | ⟨connective, operand, hv, hunwrap⟩
  · rw [withoutConnectives_of_eq_none hv, hunwrap, d.single_trim, Text.isBlank_trim]
  · rw [hunwrap] at h ⊢
    rw [withoutConnectives_of_eq_some hv, withoutConnectives_of_eq_none h]

theorem compose_singleton (v : Text) :
  compose d f [v] none = (do Wrapping.validate v; lone d f v)
  := by
  rw [← validateAll_singleton]
  rfl

/-! ### Several values -/

theorem compose_of_two_le (h : 2 ≤ values.length) :
  compose d f values none = (do validateAll values; joinAll d f values)
  := by
  match values, h with
  | _ :: _ :: _, _ => rfl

/-- A single blank value joined as several has no expression. -/
theorem joinAll_singleton_of_isBlank (hv : v.isBlank = true) :
  joinAll d f [v] = .ok none
  := by
  rw [joinAll, List.foldlM_cons, Progress.step_of_isBlank hv]
  simp [pure, Except.pure, bind, Except.bind, Except.map, Progress.close, Expr.balanced_nil]

/-- A single value joined as several is its only term. -/
theorem joinAll_singleton (hv : v.isBlank = false) :
  joinAll d f [v]
    = if (unwrap v).2.isBlank then .ok none else (d.single f (unwrap v).2).map some
  := by
  rw [joinAll_eq, terms, List.filterMap_cons, term?, hv, Bool.false_or]
  cases (unwrap v).2.isBlank with
  | true =>
      have hclose :
          Progress.close { fallback := some (defaultConnective [v]) } = none := by
        rw [Progress.close, Expr.balanced_nil]
      simp [pure, Except.pure, Except.map, hclose]
  | false =>
      simp only [Bool.false_eq_true, ↓reduceIte, List.filterMap_nil, List.foldlM_cons,
        Progress.addTerm]
      cases d.single f (unwrap v).2 with
      | error failure => rfl
      | ok e =>
          simp [pure, Except.pure, bind, Except.bind, Except.map, Progress.add, Progress.close,
            Expr.balanced_nil]

/-- Of two values with operands, the one around the second, or else that around the first, is the
connective that joins them. -/
theorem compose_pair {a b : Expr} (hvalid : validateAll [v, v'] = .ok ())
    (hv : (unwrap v).2.isBlank = false) (hv' : (unwrap v').2.isBlank = false)
    (ha : d.single f (unwrap v).2 = .ok a) (hb : d.single f (unwrap v').2 = .ok b) :
  compose d f [v, v'] none
    = .ok (some (join (some ((unwrap v').1.getD ((unwrap v).1.getD .or))) a b))
  := by
  have hdefault : defaultConnective [v, v'] = (unwrap v).1.getD .or := by
    simp [defaultConnective, isBlank_eq_false_of_unwrap hv]
  have hterms : terms [v, v'] = [⟨(unwrap v).1.getD ((unwrap v).1.getD .or), (unwrap v).2⟩,
      ⟨(unwrap v').1.getD ((unwrap v).1.getD .or), (unwrap v').2⟩] := by
    simp [terms, term?, hdefault, hv, hv', isBlank_eq_false_of_unwrap]
  rw [compose_of_two_le (by simp), hvalid, joinAll_eq, hterms]
  simp [Progress.addTerm, Progress.add, Progress.append, ha, hb, bind, Except.bind, pure,
    Except.pure, Except.map, Progress.close, Expr.balanced_singleton]

/-- The values by which several are replaced, in such a way that they are joined as several: a
lone one is followed by a blank one, which adds nothing. -/
def several : List Text → List Text
  | [v] => [v, []]
  | values => values

theorem compose_several (hvalues : values ≠ []) :
  compose d f (several values) none = (do validateAll values; joinAll d f values)
  := by
  match values, hvalues with
  | [v], _ =>
      have hjoin : joinAll d f [v, []] = joinAll d f [v] := by
        rw [joinAll, joinAll, List.foldlM_cons, List.foldlM_cons]
        cases Progress.step d f {} v with
        | error failure => rfl
        | ok s => rfl
      rw [several, compose_of_two_le (by simp), validateAll_cons, validateAll_singleton,
        validateAll_singleton, hjoin]
      cases Wrapping.validate v with
      | error failure => rfl
      | ok checked => rfl
  | v :: v' :: vs, _ =>
      rw [several, compose_of_two_le (by simp)]
      simp

/-- A value under one connective at most means the same alone and joined as several. -/
theorem compose_several_singleton (hv : v.isBlank = false)
    (h : Wrapping.findWrapped Operator.connectives (unwrap v).2.trim = none) :
  compose d f (several [v]) none = compose d f [v] none
  := by
  rw [compose_several (List.cons_ne_nil v []), compose_singleton, validateAll_singleton,
    joinAll_singleton hv, lone_eq h]

/-! ### The values that are composed -/

/-- The values that are composed: those that were sent in place of the given ones, or the given
ones where none were. -/
def inEffect (f : Field) (values : List Text) (overrides : Option Overrides) : List Text :=
  match values with
  | [] => []
  | [value] => [(overrides.bind (·.first? f)).getD value]
  | values => (overrides.bind (·.all? f)).getD values

/-- The values that are joined: a lone one without the connectives around it, and several as they
are. -/
def joined (f : Field) (values : List Text) (overrides : Option Overrides) : List Text :=
  match values with
  | [value] => (inEffect f [value] overrides).map withoutConnectives
  | values => inEffect f values overrides

/-- No connective is left around a lone value. -/
theorem findWrapped_withoutConnectives (v : Text) :
  Wrapping.findWrapped Operator.connectives (withoutConnectives v).trim = none
  := by
  induction v using withoutConnectives.induct with
  | case1 v connective operand hfound ih =>
      rw [withoutConnectives_of_eq_some hfound]
      apply ih
  | case2 v hnone =>
      rw [withoutConnectives_of_eq_none hnone]
      apply hnone

/-- A lone value without the connectives around it means the same joined as several. -/
theorem lone_eq_joinAll (v : Text) :
  lone d f v = joinAll d f [withoutConnectives v]
  := by
  have hnone := findWrapped_withoutConnectives v
  have hlone : lone d f v = lone d f (withoutConnectives v) := by
    rw [lone, lone, withoutConnectives_of_eq_none hnone]
  rw [hlone]
  cases hv : (withoutConnectives v).isBlank with
  | true =>
      rw [lone_of_isBlank hv, joinAll_singleton_of_isBlank hv]
  | false =>
      rw [joinAll_singleton hv]
      apply lone_eq
      rw [unwrap, hnone, Text.trim_trim, hnone]

/-- Values are checked, and so are those in their place; these are joined as several, however many
they are. -/
theorem compose_eq (d : Dialect) (f : Field) (values : List Text) (overrides : Option Overrides) :
  compose d f values overrides = (do
    validateAll values
    validateAll (inEffect f values overrides)
    joinAll d f (joined f values overrides))
  := by
  cases hvalues : validateAll values with
  | error failure =>
      simp only [compose, hvalues]
      rfl
  | ok checked =>
      simp only [compose, hvalues]
      cases values with
      | nil =>
          rw [joined, inEffect, joinAll]
          · simp [validateAll, pure, Except.pure, bind, Except.bind, Except.map, Progress.close,
              Expr.balanced_nil]
          · rintro _ ⟨⟩
      | cons v vs =>
          cases vs with
          | nil =>
              simp only [joined, inEffect, List.map_singleton, ← lone_eq_joinAll]
              cases overrides.bind (·.first? f) with
              | none =>
                  rw [Option.getD_none, hvalues]
                  rfl
              | some sent => rw [Option.getD_some, validateAll_singleton]
          | cons v' vs =>
              simp only [joined, inEffect]
              cases overrides.bind (·.all? f) with
              | none =>
                  rw [Option.getD_none, hvalues]
                  rfl
              | some sent => rfl

/-- Values that pass the check are joined as several, however many they are. -/
theorem compose_eq_joinAll {values : List Text} {overrides : Option Overrides}
    (hvalues : validateAll values = .ok ())
    (hsent : validateAll (inEffect f values overrides) = .ok ()) :
  compose d f values overrides = joinAll d f (joined f values overrides)
  := by
  rw [compose_eq, hvalues, hsent]
  rfl

/-! ### Values that are replaced -/

/-- A lone value, once checked, is replaced with the first one that was sent, if that is not
blank. -/
theorem compose_singleton_of_sent (hv : Wrapping.validate v = .ok ())
    (hsent : o.source.first? f o.aliasName = some v') (hv' : v'.isBlank = false) :
  compose d f [v] (some o) = compose d f [v'] none
  := by
  have hvalues : validateAll [v] = .ok () := by rw [validateAll_singleton, hv]
  have hfirst : o.first? f = some v' := by
    apply Option.filter_eq_some_iff.mpr
    rw [hsent, hv']
    use rfl
    rfl
  simp only [compose, hvalues, Option.bind_some, hfirst]
  rw [← validateAll_singleton]
  rfl

/-- A lone value is kept if the first one that was sent is blank. -/
theorem compose_singleton_of_isBlank (hsent : o.source.first? f o.aliasName = some v')
    (hv' : v'.isBlank = true) :
  compose d f [v] (some o) = compose d f [v] none
  := by
  have hfirst : o.first? f = none := by
    rw [Overrides.first?, hsent]
    simp [hv']
  simp only [compose, Option.bind_some, hfirst, Option.bind_none]

/-- Several values, once checked, are replaced with all that were sent. -/
theorem compose_of_sent (h : 2 ≤ values.length) (hvalues : validateAll values = .ok ())
    (hsent : o.source.all? f o.aliasName = some sent) (hne : sent ≠ []) :
  compose d f values (some o) = compose d f (several sent) none
  := by
  have hall : o.all? f = some sent := by
    apply Option.filter_eq_some_iff.mpr
    rw [hsent]
    use rfl
    simp [hne]
  rw [compose_several hne]
  match values, h with
  | v :: v' :: vs, _ =>
      simp only [compose, hvalues, Option.bind_some, hall]
      rfl

/-- Composing what is left of values without their operators, when the values themselves are at
hand as those that were sent, is composing the values. -/
theorem compose_strip (hvalues : values ≠ [])
    (hfirst : o.source.first? f o.aliasName = values.head?)
    (hall : o.source.all? f o.aliasName = some values)
    (hstripped : validateAll (values.map Wrapping.strip) = .ok ()) :
  compose d f (values.map Wrapping.strip) (some o) = compose d f values none
  := by
  match values, hvalues with
  | [v], _ =>
      rw [List.map_singleton] at hstripped ⊢
      rw [validateAll_singleton] at hstripped
      cases hv : v.isBlank with
      | true =>
          -- A blank value replaces nothing, but nothing is left of it either.
          have hstrip : (Wrapping.strip v).isBlank = true := by
            rw [Wrapping.strip_of_isBlank hv]
            rfl
          rw [compose_singleton_of_isBlank hfirst hv, compose_singleton,
            compose_singleton, Wrapping.validate_of_isBlank hstrip,
            Wrapping.validate_of_isBlank hv, lone_of_isBlank hstrip, lone_of_isBlank hv]
      | false => apply compose_singleton_of_sent hstripped hfirst hv
  | v :: v' :: vs, hne =>
      apply compose_of_sent _ hstripped hall hne
      simp

end Composition

end QueryFilter
