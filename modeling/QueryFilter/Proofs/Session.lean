import Mathlib.Data.List.Induction
import QueryFilter.Proofs.Registry.Admitted
import QueryFilter.Proofs.Registry.Evaluators
import QueryFilter.Session

/-!
# Sessions and unused registries

All that is left of the actions of a session is the mode that was set last and the alias that was
registered last for each field.  Whatever a registry has been asked before, and whatever patterns
its evaluators keep, it answers like an unused registry of the same settings in that mode and with
these aliases, and only equal fields are served by the same evaluator.  The predicates among the
answers consist of clauses that their fields admit.
-/

namespace QueryFilter

/-- The mode that an action sets. -/
def Action.mode? : Action → Option Bool
  | .setLoose mode => some mode
  | _ => none

/-- The alias that an action registers for a field; a blank one is not registered. -/
def Action.aliasOf? (f : Field) : Action → Option Text
  | .registerAlias g name => if g = f ∧ ¬name.isBlank then some name else none
  | _ => none

namespace Session

variable {settings : Settings} {r : Registry} {f g : Field} {i : ℕ} {actions : List Action}

/-- The mode after some actions: the last one that was set, or else that of the settings. -/
def modeAfter (settings : Settings) (actions : List Action) : Bool :=
  (actions.filterMap Action.mode?).getLast?.getD settings.looseValues

/-- The alias of a field after some actions: the last one registered for it, or else that of its
name in the settings. -/
def aliasAfter (settings : Settings) (actions : List Action) (f : Field) : Option Text :=
  (actions.filterMap (Action.aliasOf? f)).getLast? <|> settings.alias? f.name

/-- A registry of these settings is in the mode after some actions, with the aliases after them. -/
structure Reflects (settings : Settings) (actions : List Action) (r : Registry) : Prop where
  settings_eq : r.settings = settings
  loose_eq : r.loose = modeAfter settings actions
  alias_eq (f : Field) : r.alias? f = aliasAfter settings actions f

/-- A registry of these settings before any action, whose evaluators keep the patterns that the
retention says. -/
def initial (settings : Settings) (retention : Field → Retention) : Registry :=
  { Registry.ofSettings settings with retention }

theorem coherent_initial (settings : Settings) (retention : Field → Retention) :
  (initial settings retention).Coherent
  := Registry.coherent_of_evaluators_eq_nil rfl

theorem reflects_initial (settings : Settings) (retention : Field → Retention) :
  Reflects settings [] (initial settings retention)
  := ⟨rfl, rfl, fun _ => rfl⟩

/-! ### One action -/

/-- Each action leaves a coherent registry behind, and evaluators with the serial numbers they
had. -/
theorem coherent_perform (h : r.Coherent) (a : Action) :
  (perform r a).1.Coherent
    ∧ ∀ f s, r.serial? f = some s → (perform r a).1.serial? f = some s
  := by
  cases a with
  | evaluator f =>
      obtain ⟨hcoherent, -, hgrows⟩ := Registry.serve_spec h f
      use hcoherent
      intro g s
      apply hgrows.serial?_eq
  | predicate f input sent =>
      obtain ⟨-, hcoherent, hgrows⟩ := Registry.ask_spec h f input sent
      use hcoherent
      intro g s
      apply hgrows.serial?_eq
  | registerAlias f aliasName =>
      rw [perform, Registry.registerAlias]
      split
      · exact ⟨h, fun _ _ hs => hs⟩
      · exact ⟨⟨h.ofKind?_eq_none, h.serves, h.serial_lt, h.eq_of_serial_eq⟩, fun _ _ hs => hs⟩
  | aliasName f => exact ⟨h, fun _ _ hs => hs⟩
  | setLoose loose =>
      exact ⟨⟨h.ofKind?_eq_none, h.serves, h.serial_lt, h.eq_of_serial_eq⟩, fun _ _ hs => hs⟩
  | loose => exact ⟨h, fun _ _ hs => hs⟩

theorem Reflects.of_grows {r' : Registry} (h : Reflects settings actions r) (hgrows : r.Grows r') :
  Reflects settings actions r'
  := by
  obtain ⟨_, _, rfl⟩ := hgrows.eq_with
  exact ⟨h.settings_eq, h.loose_eq, h.alias_eq⟩

/-- An action that neither sets the mode nor registers an alias need not be remembered. -/
theorem Reflects.concat {a : Action} (h : Reflects settings actions r) (hmode : a.mode? = none)
    (halias : ∀ f, a.aliasOf? f = none) :
  Reflects settings (actions ++ [a]) r
  where
  settings_eq := h.settings_eq
  loose_eq := by simp [h.loose_eq, modeAfter, hmode]
  alias_eq f := by simp [h.alias_eq, aliasAfter, halias]

theorem Reflects.setLoose (h : Reflects settings actions r) (loose : Bool) :
  Reflects settings (actions ++ [.setLoose loose]) (r.setLoose loose)
  where
  settings_eq := h.settings_eq
  loose_eq := by simp [Registry.setLoose, modeAfter, Action.mode?]
  alias_eq f := by
    have halias : (r.setLoose loose).alias? f = r.alias? f := rfl
    simp [halias, h.alias_eq, aliasAfter, Action.aliasOf?]

theorem Reflects.registerAlias (h : Reflects settings actions r) (f : Field) (aliasName : Text) :
  Reflects settings (actions ++ [.registerAlias f aliasName]) (r.registerAlias f aliasName)
  := by
  rw [Registry.registerAlias]
  split
  · rename_i hblank
    apply h.concat rfl
    simp [Action.aliasOf?, hblank]
  · rename_i hblank
    constructor
    · apply h.settings_eq
    · simp [h.loose_eq, modeAfter, Action.mode?]
    · intro g
      by_cases hfg : f = g
      · simp [Registry.alias?, aliasAfter, Action.aliasOf?, hfg, hblank]
      · have halias : ({ r with aliases := (f, aliasName) :: r.aliases } : Registry).alias? g
            = r.alias? g := by
          simp [Registry.alias?, hfg]
        simp [halias, h.alias_eq, aliasAfter, Action.aliasOf?, hfg]

/-- Each action leaves a registry behind that reflects it as well. -/
theorem reflects_perform (h : Reflects settings actions r) (hr : r.Coherent) (a : Action) :
  Reflects settings (actions ++ [a]) (perform r a).1
  := by
  cases a with
  | evaluator f => exact (h.of_grows (Registry.serve_spec hr f).2.2).concat rfl (fun _ => rfl)
  | predicate f input sent =>
      exact (h.of_grows (Registry.ask_spec hr f input sent).2.2).concat rfl (fun _ => rfl)
  | registerAlias f aliasName => apply h.registerAlias
  | aliasName f => exact h.concat rfl (fun _ => rfl)
  | setLoose loose => apply h.setLoose
  | loose => exact h.concat rfl (fun _ => rfl)

/-! ### Runs -/

theorem length_run (r : Registry) (actions : List Action) :
  (run r actions).2.length = actions.length
  := by
  induction actions generalizing r with
  | nil => rfl
  | cons a actions ih => exact congrArg Nat.succ (ih _)

theorem run_append (r : Registry) (before after : List Action) :
  (run r (before ++ after)).1 = (run (run r before).1 after).1
  := by
  induction before generalizing r with
  | nil => rfl
  | cons a before ih => apply ih

/-- The answer to an action is that of the registry which the actions before it leave behind. -/
theorem getElem?_run {a : Action} (r : Registry) (h : actions[i]? = some a) :
  (run r actions).2[i]? = some (perform (run r (actions.take i)).1 a).2
  := by
  induction actions generalizing r i with
  | nil => cases h
  | cons a' actions ih =>
      cases i with
      | zero =>
          cases h
          rfl
      | succ i => exact ih _ h

theorem coherent_run (h : r.Coherent) (actions : List Action) :
  (run r actions).1.Coherent
    ∧ ∀ f s, r.serial? f = some s → (run r actions).1.serial? f = some s
  := by
  induction actions generalizing r with
  | nil => exact ⟨h, fun _ _ hs => hs⟩
  | cons a actions ih =>
      obtain ⟨hcoherent, hserial⟩ := coherent_perform h a
      obtain ⟨hcoherent', hserial'⟩ := ih hcoherent
      use hcoherent'
      intro f s hs
      apply hserial' f s (hserial f s hs)

/-- A run leaves a registry behind that reflects all its actions. -/
theorem reflects_run (h : r.Coherent) (hr : Reflects settings [] r) (actions : List Action) :
  Reflects settings actions (run r actions).1
  := by
  -- The induction is on the last action: what is reflected is said of all actions before it.
  induction actions using List.reverseRecOn with
  | nil => apply hr
  | append_singleton actions a ih =>
      rw [run_append]
      apply reflects_perform ih (coherent_run h actions).1

/-- An evaluator that is answered is the one that the registry holds for the field in the end. -/
theorem serial?_run (h : r.Coherent) (hi : actions[i]? = some (.evaluator f)) :
  ∃ s, (run r actions).2[i]? = some (.evaluator s) ∧ (run r actions).1.serial? f = some s
  := by
  induction actions generalizing r i with
  | nil => cases hi
  | cons a actions ih =>
      obtain ⟨hcoherent, hserial⟩ := coherent_perform h a
      cases i with
      | zero =>
          cases hi
          use (r.serve f).2.map (·.serial), rfl
          -- What was answered is held from now on.
          apply (coherent_run hcoherent actions).2
          obtain ⟨-, hlookup, -⟩ := Registry.serve_spec h f
          change ((r.serve f).1.evaluators.lookup f).map _ = _
          rw [hlookup]
          rfl
      | succ i => exact ih hcoherent hi

/-- Whether this is an answer to an action after others: a predicate is that of any unused registry
that reflects the others, and the mode and the aliases are those after them. -/
def Answers (settings : Settings) (before : List Action) : Action → Answer → Prop
  | .evaluator _, answer => ∃ s, answer = .evaluator s
  | .predicate f input sent, answer =>
      ∀ unused : Registry, unused.evaluators = [] → Reflects settings before unused →
        answer = .predicate (unused.ask f input sent).2
  | .registerAlias _ _, answer => answer = .done
  | .aliasName f, answer => answer = .aliasName (aliasAfter settings before f)
  | .setLoose _, answer => answer = .done
  | .loose, answer => answer = .loose (modeAfter settings before)

/-- The predicate of a field depends on the mode and the alias of the field only. -/
theorem Reflects.predicate_eq {r' : Registry} (h : Reflects settings actions r)
    (h' : Reflects settings actions r') (f : Field) (input : Input) (sent : Option SentValues) :
  r.predicate f input sent = r'.predicate f input sent
  := by
  simp only [Registry.predicate, Registry.dialect?, h.loose_eq, h'.loose_eq, h.alias_eq,
    h'.alias_eq]

/-- A coherent registry answers by what it reflects. -/
theorem Reflects.answers (h : Reflects settings actions r) (hr : r.Coherent) (a : Action) :
  Answers settings actions a (perform r a).2
  := by
  cases a with
  | evaluator f => exact ⟨_, rfl⟩
  | predicate f input sent =>
      intro unused hunused h'
      have hcoherent := Registry.coherent_of_evaluators_eq_nil hunused
      apply congrArg Answer.predicate
      calc (r.ask f input sent).2
        _ = r.predicate f input sent := (Registry.ask_spec hr f input sent).1
        _ = unused.predicate f input sent := h.predicate_eq h' f input sent
        _ = (unused.ask f input sent).2 := (Registry.ask_spec hcoherent f input sent).1.symm
  | registerAlias f aliasName => rfl
  | aliasName f => exact congrArg Answer.aliasName (h.alias_eq f)
  | setLoose loose => rfl
  | loose => exact congrArg Answer.loose h.loose_eq

/-- In a run every action has an answer by the settings, the mode that was set last and the aliases
that were registered last.  This fixes the answer, since for whatever was done there are unused
registries that reflect it. -/
theorem answers_run (settings : Settings) (retention : Field → Retention)
    (actions : List Action) :
  let answers := (run (initial settings retention) actions).2
  answers.length = actions.length
    ∧ (∀ i a, actions[i]? = some a →
        ∃ answer, answers[i]? = some answer ∧ Answers settings (actions.take i) a answer)
    ∧ (∀ before, ∃ unused : Registry, unused.evaluators = [] ∧ Reflects settings before unused)
    ∧ ∀ (i j : ℕ) (f g : Field), actions[i]? = some (.evaluator f) →
        actions[j]? = some (.evaluator g) → f.isEnumeration → g.isEnumeration →
        ∃ s t, answers[i]? = some (.evaluator (some s)) ∧ answers[j]? = some (.evaluator (some t))
          ∧ (s = t ↔ f = g)
  := by
  intro answers
  have hr := coherent_initial settings retention
  have hreflects := reflects_initial settings retention
  constructor
  · apply length_run
  constructor
  · intro i a ha
    refine ⟨_, getElem?_run _ ha, ?_⟩
    apply (reflects_run hr hreflects _).answers (coherent_run hr _).1
  constructor
  · intro before
    use { (run (initial settings retention) before).1 with evaluators := [] }, rfl
    have h := reflects_run hr hreflects before
    exact ⟨h.settings_eq, h.loose_eq, h.alias_eq⟩
  · intro i j f g hi hj hf hg
    have hcoherent := (coherent_run hr actions).1
    obtain ⟨_, hi, hs⟩ := serial?_run hr hi
    obtain ⟨_, hj, ht⟩ := serial?_run hr hj
    obtain ⟨s, rfl⟩ := hcoherent.exists_serial hf hs
    obtain ⟨t, rfl⟩ := hcoherent.exists_serial hg ht
    use s, t, hi, hj
    constructor
    · rintro rfl
      apply hcoherent.eq_of_serial?_eq hs ht
    · rintro rfl
      simpa [hs] using ht

/-- What is no pattern fails as such in the loose mode only, and the evaluator is the one from
before; a field with the same name and other members has another. -/
theorem answers_run_broken_pattern :
  let status : Field := ⟨"status".toList, .enumeration ["Open".toList, "Closed".toList]⟩
  let other : Field := ⟨"status".toList, .enumeration ["Open".toList]⟩
  let broken : Input := .many ["matches([)".toList, " ".toList]
  let actions : List Action := [
    .registerAlias status "state".toList,
    .setLoose true,
    .evaluator status,
    .predicate status broken none,
    .setLoose false,
    .predicate status broken none,
    .evaluator other,
    .evaluator status,
    .aliasName status]
  let answers := (run (initial {} fun _ _ _ => false) actions).2
  answers[3]? = some (.predicate (.error .invalidPattern))
    ∧ answers[5]? = some (.predicate (.error (.unsupported .matches "enum")))
    ∧ answers[8]? = some (.aliasName (some "state".toList))
    ∧ ∃ s t, answers[2]? = some (.evaluator (some s)) ∧ answers[6]? = some (.evaluator (some t))
      ∧ answers[7]? = some (.evaluator (some s)) ∧ s ≠ t
  := by
  intro status other broken actions answers
  obtain ⟨-, hanswers, -, hserials⟩ := answers_run {} (fun _ _ _ => false) actions
  let unused : Registry :=
    ((Registry.ofSettings {}).registerAlias status "state".toList).setLoose true
  have hbefore : Reflects {} (actions.take 3) unused :=
    (((reflects_initial {} _).registerAlias status "state".toList).setLoose true).concat rfl
      (fun _ => rfl)
  have hafter : Reflects {} (actions.take 5) (unused.setLoose false) :=
    (hbefore.concat rfl (fun _ => rfl)).setLoose false
  constructor
  · obtain ⟨answer, hanswer, hpredicate⟩ := hanswers 3 _ rfl
    rw [hpredicate unused rfl hbefore] at hanswer
    apply hanswer
  constructor
  · obtain ⟨answer, hanswer, hpredicate⟩ := hanswers 5 _ rfl
    rw [hpredicate (unused.setLoose false) rfl hafter] at hanswer
    apply hanswer
  constructor
  · obtain ⟨answer, hanswer, halias⟩ := hanswers 8 _ rfl
    rw [halias] at hanswer
    apply hanswer
  · obtain ⟨s, t, h2, h6, hne⟩ := hserials 2 6 status other rfl rfl rfl rfl
    obtain ⟨s', t', h2', h7, heq⟩ := hserials 2 7 status status rfl rfl rfl rfl
    obtain rfl : s = t' := by
      rw [← heq.mpr rfl]
      simpa [h2] using h2'
    use s, t, h2, h6, h7
    intro h
    simpa [status, other] using hne.mp h

/-! ### Predicates in answers -/

/-- Whatever was done before, a field admits every clause of a predicate that is answered for it,
and whether a record satisfies the predicate depends on its value in this field alone. -/
theorem admits_of_answer (settings : Settings) (retention : Field → Retention)
    (actions : List Action) (i : ℕ) (f : Field) (input : Input) (sent : Option SentValues)
    (e : Expr) (hi : actions[i]? = some (.predicate f input sent))
    (h : (run (initial settings retention) actions).2[i]? = some (.predicate (.ok (some e)))) :
  (∀ c ∈ e.clauses, f.Admits c)
    ∧ ∀ record record' : Record, record f.name = record' f.name →
      e.holds record = e.holds record'
  := by
  have hbefore := (coherent_run (coherent_initial settings retention) (actions.take i)).1
  rw [getElem?_run _ hi] at h
  apply Registry.admits_of_predicate
  rw [← (Registry.ask_spec hbefore f input sent).1]
  injection h with h
  injection h

/-- Two dates, the later one first, are a range from the earlier one on, also after something that
is no date. -/
theorem admits_of_answer_dates :
  let hired : Field := ⟨"hired_on".toList, .timestamp⟩
  let dates : Input := .many ["2020-01-10".toList, " ".toList, "2020-01-01".toList]
  let actions : List Action :=
    [.predicate hired (.scalar "January".toList) none, .predicate hired dates none]
  let range := Dialect.clause hired .between
    (.range (.ofDate ⟨2020, 1, 1⟩) (.ofDate ⟨2020, 1, 10⟩)) false
  (run (initial {} fun _ _ _ => false) actions).2[1]?
      = some (.predicate (.ok (some range)))
    ∧ (∀ c ∈ range.clauses, hired.Admits c)
    ∧ ∀ record record' : Record, record hired.name = record' hired.name →
      range.holds record = range.holds record'
  := by
  intro hired dates actions range
  have h : (run (initial {} fun _ _ _ => false) actions).2[1]?
      = some (.predicate (.ok (some range))) := rfl
  use h
  apply admits_of_answer {} (fun _ _ _ => false) actions 1 hired dates none range rfl h

end Session

end QueryFilter
