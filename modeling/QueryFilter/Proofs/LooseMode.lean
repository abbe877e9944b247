import QueryFilter.Proofs.Composition.Overrides
import QueryFilter.Proofs.Grammar.Supported
import QueryFilter.Proofs.Session

/-!
# The loose mode

The loose mode only adds comparisons.  A dialect extends another one of the same kind if it supports
the comparisons of that one and makes the same expressions of their literals.  Whatever the smaller
dialect makes of a value, and of the values of a field, the larger one makes of them as well; so a
predicate that is made in any mode is made in the loose mode too.
-/

namespace QueryFilter

namespace Dialect

variable {d d' : Dialect} {f : Field} {e : Expr}

/-! ### More comparisons -/

/-- A dialect supports the comparisons of another one and makes the same expressions. -/
structure Extends (d' d : Dialect) : Prop where
  kind_eq : d'.kind = d.kind
  supported_subset : d.supported ⊆ d'.supported
  compare_eq_ok {op : Operator} {f : Field} {literal : Text} {ignoreCase : Bool} {e : Expr}
    (h : d.compare op f literal ignoreCase = .ok e) : d'.compare op f literal ignoreCase = .ok e

theorem Extends.refl (d : Dialect) :
  d.Extends d
  := ⟨rfl, List.Subset.refl _, id⟩

/-- The loose comparisons come in addition to the others. -/
theorem extends_enumeration (loose : Bool) :
  (enumeration true).Extends (enumeration loose)
  := by
  cases loose with
  | true => apply Extends.refl
  | false =>
      constructor
      · rfl
      · decide
      · intro op f literal ignoreCase e h
        cases op
        case eq | ne => apply h
        all_goals cases h

/-- The dialect of a kind of fields in the loose mode extends that in any mode. -/
theorem exists_extends_of_ofKind? {loose : Bool} {kind : FieldKind}
    (h : ofKind? loose kind = some d) :
  ∃ d', ofKind? true kind = some d' ∧ d'.Extends d
  := by
  cases kind with
  | text | number | timestamp =>
      cases h
      exact ⟨_, rfl, Extends.refl _⟩
  | enumeration members =>
      cases h
      exact ⟨_, rfl, extends_enumeration loose⟩
  | other typeName => cases h

/-- Which kinds of fields have a dialect does not depend on the mode. -/
theorem ofKind?_eq_none_of_mode {loose : Bool} {kind : FieldKind} (h : ofKind? loose kind = none)
    (loose' : Bool) :
  ofKind? loose' kind = none
  := by
  cases kind with
  | text | number | timestamp | enumeration => cases h
  | other typeName => rfl

namespace Extends

variable (h : d'.Extends d)

include h

theorem leaf_ok {op : Operator} {literal : Text} {ignoreCase : Bool}
    (he : d.leaf op f literal ignoreCase = .ok e) :
  d'.leaf op f literal ignoreCase = .ok e
  := by
  rw [leaf] at he ⊢
  split at he
  · rename_i hop
    rw [if_pos hop]
    apply h.compare_eq_ok he
  · cases he

theorem build_ok {n : Node} (he : d.build f n = .ok e) :
  d'.build f n = .ok e
  := by
  induction n generalizing e with
  | leaf op literal ignoreCase => apply h.leaf_ok he
  | not inner ih =>
      rw [build] at he ⊢
      obtain ⟨e', he', rfl⟩ := Except.map_eq_ok_iff.mp he
      rw [ih he']
      rfl
  | ignoreCase inner ih => apply ih he

theorem parse_ok {value : Text} {n : Node} (hn : d.parse value = .ok n) :
  d'.parse value = .ok n
  := by
  rw [parse, h.kind_eq]
  apply Node.parseWithin_mono h.supported_subset hn

/-- A single value means the same to both dialects. -/
theorem single_ok {value : Text} (he : d.single f value = .ok e) :
  d'.single f value = .ok e
  := by
  rw [single] at he ⊢
  split at he
  · rename_i n hn
    rw [h.parse_ok hn]
    apply h.build_ok he
  · cases he

end Extends

end Dialect

namespace Composition

variable {d d' : Dialect} {f : Field} {values : List Text} {result : Option Expr}

/-! ### Several values -/

theorem joinAll_eq_ok_of_extends (h : d'.Extends d) (hjoin : joinAll d f values = .ok result) :
  joinAll d' f values = .ok result
  := by
  rw [joinAll_eq] at hjoin ⊢
  obtain ⟨s, hs, hclose⟩ := Except.map_eq_ok_iff.mp hjoin
  apply Except.map_eq_ok_iff.mpr
  use s
  constructor
  · apply Except.foldlM_eq_ok_of_imp _ hs
    intro s t s' hadd
    obtain ⟨e, he, hs'⟩ := Progress.addTerm_eq_ok_iff.mp hadd
    apply Progress.addTerm_eq_ok_iff.mpr
    use e, h.single_ok he
  · apply hclose

/-- The values of a field mean the same to both dialects. -/
theorem compose_eq_ok_of_extends (h : d'.Extends d) {overrides : Option Overrides}
    (hcompose : compose d f values overrides = .ok result) :
  compose d' f values overrides = .ok result
  := by
  rw [compose_eq] at hcompose ⊢
  obtain ⟨checked, hvalues, hcompose⟩ := Except.bind_eq_ok_iff.mp hcompose
  obtain ⟨checked', hsent, hjoin⟩ := Except.bind_eq_ok_iff.mp hcompose
  rw [hvalues, hsent]
  apply joinAll_eq_ok_of_extends h hjoin

end Composition

/-! ### Predicates -/

/-- The predicate of a field in any mode is its predicate in the loose mode, as long as it has the
same alias. -/
theorem Registry.predicate_eq_ok_of_loose {r r' : Registry} {f : Field} {input : Input}
    {sent : Option SentValues} {result : Option Expr} (halias : r.alias? f = r'.alias? f)
    (hloose : r'.loose = true) (h : r.predicate f input sent = .ok result) :
  r'.predicate f input sent = .ok result
  := by
  by_cases hkind : f.kind = .timestamp
  · rw [predicate_of_timestamp hkind] at h ⊢
    apply h
  · cases hd : r.dialect? f with
    | none =>
        have hd' : r'.dialect? f = none := Dialect.ofKind?_eq_none_of_mode hd r'.loose
        rw [predicate_of_dialect?_eq_none hd] at h
        rw [predicate_of_dialect?_eq_none hd', h]
    | some d =>
        obtain ⟨d', hd', hextends⟩ := Dialect.exists_extends_of_ofKind? hd
        rw [← hloose] at hd'
        rw [predicate_eq_compose hd hkind, halias] at h
        rw [predicate_eq_compose hd' hkind]
        apply Composition.compose_eq_ok_of_extends hextends h

namespace Session

/-- A predicate that is answered in any mode, in particular outside the loose mode, is answered in
the loose mode too if the alias of the field is the same, whatever was done before in either. -/
theorem ask_eq_ok_of_loose (settings settings' : Settings)
    (retention retention' : Field → Retention) (actions actions' : List Action) (f : Field)
    (input : Input) (sent : Option SentValues) (result : Option Expr)
    (halias : aliasAfter settings actions f = aliasAfter settings' actions' f)
    (hloose : modeAfter settings' actions' = true)
    (h : ((run (initial settings retention) actions).1.ask f input sent).2 = .ok result) :
  ((run (initial settings' retention') actions').1.ask f input sent).2 = .ok result
  := by
  have hr := coherent_initial settings retention
  have hr' := coherent_initial settings' retention'
  have hreflects := reflects_run hr (reflects_initial settings retention) actions
  have hreflects' := reflects_run hr' (reflects_initial settings' retention') actions'
  rw [(Registry.ask_spec (coherent_run hr actions).1 f input sent).1] at h
  rw [(Registry.ask_spec (coherent_run hr' actions').1 f input sent).1]
  apply Registry.predicate_eq_ok_of_loose _ _ h
  · rw [hreflects.alias_eq, hreflects'.alias_eq, halias]
  · rw [hreflects'.loose_eq, hloose]

/-- Outside the loose mode a loose comparison is refused.  A value that was sent under an alias, in
place of the converted one, is not, and in the loose mode, where the alias stands in the settings,
it has the same predicate. -/
theorem ask_eq_ok_of_loose_enumeration :
  let status : Field := ⟨"status".toList, .enumeration ["Open".toList, "Closed".toList]⟩
  let input : Input := .scalar "closed".toList
  let sent : SentValues := .ofParameters (.sending "state".toList ["and(not(ci( Closed )))".toList])
  let actions : List Action := [
    .registerAlias status "state".toList,
    .setLoose false,
    .predicate status (.scalar "contains(pen)".toList) none]
  let settings : Settings := { looseValues := true, aliases := [(status.name, "state".toList)] }
  let e := Expr.not (Dialect.clause status .eq (.member "Closed".toList) false)
  let strict := (run (initial {} fun _ _ _ => false) actions).1
  let loose := (run (initial settings fun _ _ _ => true) []).1
  aliasAfter {} actions status = aliasAfter settings [] status
    ∧ modeAfter {} actions = false
    ∧ modeAfter settings [] = true
    ∧ (strict.ask status (.scalar "contains(pen)".toList) none).2
      = .error (.unsupported .contains "enum")
    ∧ (strict.ask status input (some sent)).2 = .ok (some e)
    ∧ (loose.ask status input (some sent)).2 = .ok (some e)
  := by
  intro status input sent actions settings e strict loose
  have hstrict : strict.Coherent := (coherent_run (coherent_initial {} _) actions).1
  have hask : (strict.ask status input (some sent)).2 = .ok (some e) := by
    rw [(Registry.ask_spec hstrict status input (some sent)).1,
      Registry.predicate_eq_compose rfl (by decide)]
    apply (Composition.compose_singleton_of_sent rfl rfl rfl).trans
    rw [Composition.compose_singleton, Composition.lone_eq rfl]
    rfl
  have hcontains : (strict.ask status (.scalar "contains(pen)".toList) none).2
      = .error (.unsupported .contains "enum") := by
    rw [(Registry.ask_spec hstrict status _ none).1, Registry.predicate_eq_compose rfl (by decide)]
    apply (Composition.compose_singleton _).trans
    rw [Composition.lone_eq rfl]
    rfl
  use rfl, rfl, rfl, hcontains, hask
  apply ask_eq_ok_of_loose {} settings _ _ actions [] status input (some sent) (some e) rfl rfl hask

end Session

end QueryFilter
