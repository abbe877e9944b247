import QueryFilter.Proofs.Composition.LeftFold
import QueryFilter.Proofs.Grammar.Canonical
import QueryFilter.Proofs.Grammar.Layers

/-!
# The depth of joined values

However many values a field has, the tree that `Composition.compose` makes of them is deep only as
far as single values nest their operators and the connective changes from value to value, since a
run of values with the same connective is joined in a balanced tree.  The number of changes is
limited, and it is the only thing that is: values that build are joined unless it is exceeded.
-/

namespace QueryFilter

/-! ### Single values -/

namespace Dialect

variable {d : Dialect} {f : Field} {e : Expr}

/-- What the dialect makes of a comparison with a literal is a single clause. -/
def MakesClauses (d : Dialect) : Prop :=
  ∀ (op : Operator) (f : Field) (literal : Text) (ignoreCase : Bool) (e : Expr),
    d.compare op f literal ignoreCase = .ok e → ∃ c, e = .leaf c

theorem makesClauses_text :
  text.MakesClauses
  := by
  intro op f literal ignoreCase e h
  cases op
  case eq | ne | contains | startsWith | endsWith =>
    cases h
    exact ⟨_, rfl⟩
  case «matches» =>
    simp only [text] at h
    split at h
    · cases h
      exact ⟨_, rfl⟩
    · cases h
  case and | or | not | gt | gte | lt | lte | ignoreCase => cases h

theorem makesClauses_number :
  number.MakesClauses
  := by
  intro op f literal ignoreCase e h
  simp only [number] at h
  split at h
  · obtain ⟨n, -, rfl⟩ := Except.map_eq_ok_iff.mp h
    exact ⟨_, rfl⟩
  · cases h

theorem makesClauses_enumeration (loose : Bool) :
  (enumeration loose).MakesClauses
  := by
  intro op f literal ignoreCase e h
  cases op
  case eq | ne =>
    obtain ⟨m, -, rfl⟩ := Except.map_eq_ok_iff.mp h
    exact ⟨_, rfl⟩
  case contains | startsWith | endsWith =>
    cases loose with
    | false => cases h
    | true =>
        cases h
        exact ⟨_, rfl⟩
  case «matches» =>
    cases loose with
    | false => cases h
    | true =>
        simp only [enumeration, ↓reduceIte] at h
        split at h
        · cases h
          exact ⟨_, rfl⟩
        · cases h
  case and | or | not | gt | gte | lt | lte | ignoreCase => cases h

theorem makesClauses_date :
  date.MakesClauses
  := by
  intro op f literal ignoreCase e h
  cases op
  case eq =>
    obtain ⟨t, -, rfl⟩ := Except.map_eq_ok_iff.mp h
    exact ⟨_, rfl⟩
  all_goals cases h

/-- Every dialect of a kind of fields makes clauses of comparisons. -/
theorem makesClauses_of_ofKind? {loose : Bool} {kind : FieldKind}
    (h : ofKind? loose kind = some d) :
  d.MakesClauses
  := by
  rcases eq_of_ofKind? h with rfl | rfl | rfl | rfl
  · apply makesClauses_text
  · apply makesClauses_number
  · apply makesClauses_date
  · apply makesClauses_enumeration

/-- Only the operators `not` of a value deepen its expression. -/
theorem depth_le_of_build (hd : d.MakesClauses) {n : Node} (h : d.build f n = .ok e) :
  e.depth ≤ n.layers + 1
  := by
  induction n generalizing e with
  | leaf op literal ignoreCase =>
      rw [build, leaf] at h
      split at h
      · obtain ⟨c, rfl⟩ := hd op f literal ignoreCase e h
        apply Nat.le_refl
      · cases h
  | not inner ih =>
      obtain ⟨e', he', rfl⟩ := Except.map_eq_ok_iff.mp h
      apply Nat.succ_le_succ (ih he')
  | ignoreCase inner ih => apply Nat.le_succ_of_le (ih h)

/-- The expression of a single value is as deep as values may be nested, and one clause more, at
most. -/
theorem depth_le_of_single (hd : d.MakesClauses) {value : Text} (h : d.single f value = .ok e) :
  e.depth ≤ maxDepth + 1
  := by
  rw [single] at h
  split at h
  · rename_i n hn
    apply Nat.le_trans (depth_le_of_build hd h) (Node.layers_lt_of_parseWithin hn)
  · cases h

end Dialect

namespace Composition

variable {d : Dialect} {f : Field}

/-! ### Changes of the connective -/

/-- The number of neighbours in a list that differ. -/
def changes : List Operator → Nat
  | a :: b :: rest => (if a = b then 0 else 1) + changes (b :: rest)
  | [_] | [] => 0

/-- The number of times that the connective changes among terms.  The connective of the first one
joins nothing. -/
def switches (ts : List Term) : Nat := changes (ts.tail.map Term.connective)

theorem changes_toList (connective : Option Operator) :
  changes connective.toList = 0
  := by cases connective <;> rfl

theorem changes_toList_append_cons (connective : Option Operator) (op : Operator)
    (rest : List Operator) :
  changes (connective.toList ++ op :: rest)
    = changes (connective.toList ++ [op]) + changes (op :: rest)
  := by
  cases connective with
  | none => simp [changes]
  | some before => simp [changes]

namespace Progress

variable {s s' : Progress}

/-- An expression is appended unless the connective changes once too often. -/
theorem map_switches_append (hs : s.switches ≤ maxSwitches) (connective : Operator) (e : Expr) :
  (s.append f connective e).map switches
    = if s.switches + changes (s.connective.toList ++ [connective]) ≤ maxSwitches
      then .ok (s.switches + changes (s.connective.toList ++ [connective]))
      else .error (.tooManySwitches f.name)
  := by
  rw [append]
  cases hconnective : s.connective with
  | none => simp [changes, hs, Except.map]
  | some before =>
      by_cases hsame : before = connective
      · simp [changes, hs, hsame, Except.map]
      · by_cases hlimit : maxSwitches ≤ s.switches
        · have hexceeded : ¬ s.switches + 1 ≤ maxSwitches := by omega
          simp [changes, hsame, hlimit, hexceeded, Except.map]
        · have hwithin : s.switches + 1 ≤ maxSwitches := by omega
          simp [changes, hsame, hlimit, hwithin, Except.map]

/-- Terms that build are joined to a finished expression unless the connective changes too
often. -/
theorem map_switches_foldlM {ts : List Term}
    (hbuild : ∀ t ∈ ts, ∃ e, d.single f t.operand = .ok e) (hfinished : s.finished ≠ none)
    (hs : s.switches ≤ maxSwitches) :
  (ts.foldlM (addTerm d f) s).map switches
    = if s.switches + changes (s.connective.toList ++ ts.map Term.connective) ≤ maxSwitches
      then .ok (s.switches + changes (s.connective.toList ++ ts.map Term.connective))
      else .error (.tooManySwitches f.name)
  := by
  induction ts generalizing s with
  | nil => simp [changes_toList, hs, pure, Except.pure, Except.map]
  | cons t ts ih =>
      obtain ⟨⟨e, he⟩, hrest⟩ := List.forall_mem_cons.mp hbuild
      have hadd : addTerm d f s t = s.append f t.connective e := by
        simp [addTerm, he, add, hfinished]
      have hstep := map_switches_append (f := f) hs t.connective e
      rw [List.foldlM_cons, hadd, List.map_cons, changes_toList_append_cons, ← Nat.add_assoc]
      cases happend : s.append f t.connective e with
      | error failure =>
          rw [happend] at hstep
          split at hstep
          · cases hstep
          · cases hstep
            rw [if_neg (by omega)]
            rfl
      | ok next =>
          rw [happend] at hstep
          split at hstep
          · rename_i hwithin
            have hnext : next.switches = _ := Except.ok.inj hstep
            have hconnective := connective_append happend
            obtain ⟨previous, hprevious⟩ := Option.ne_none_iff_exists'.mp hfinished
            have hmore := ih hrest (finished_append hprevious happend) (hnext ▸ hwithin)
            rw [hconnective, hnext] at hmore
            apply hmore
          · cases hstep

/-- The expressions of some progress, made of `count` ones of depth `k` at most, are shallow. -/
structure Shallow (s : Progress) (k count : Nat) : Prop where
  finished_le : ∀ e ∈ s.finished, e.depth ≤ k + s.switches + Nat.clog 2 count
  run_le : ∀ e ∈ s.run, e.depth ≤ k
  length_le : s.run.length ≤ count

theorem depth_join (connective : Option Operator) (a b : Expr) :
  (join connective a b).depth = max a.depth b.depth + 1
  := by
  rw [join]
  split
  · rfl
  · rfl

/-- Closing a run adds one level. -/
theorem Shallow.close_le {k count : Nat} (h : s.Shallow k count) {e : Expr}
    (he : s.close = some e) :
  e.depth ≤ k + (s.switches + 1) + Nat.clog 2 count
  := by
  have hrun : ∀ b, Expr.balanced (join s.connective) s.run = some b →
      b.depth ≤ k + Nat.clog 2 count := by
    intro b hb
    have hdepth := Expr.depth_balanced_le (depth_join s.connective) h.run_le hb
    have hclog := Nat.clog_mono_right 2 h.length_le
    omega
  rw [close] at he
  split at he
  · rename_i previous b hprevious hb
    cases he
    have hdepth := h.finished_le previous hprevious
    have hdepth' := hrun b hb
    rw [depth_join]
    omega
  · rename_i previous hprevious _
    cases he
    have hdepth := h.finished_le e hprevious
    omega
  · have hdepth := hrun e he
    omega

/-- Adding an expression keeps the expressions shallow. -/
theorem Shallow.add {k count : Nat} (h : s.Shallow k count) {t : Term} {e : Expr}
    (he : e.depth ≤ k) (hadd : s.add f t e = .ok s') :
  s'.Shallow k (count + 1)
  := by
  have hclog : Nat.clog 2 count ≤ Nat.clog 2 (count + 1) :=
    Nat.clog_mono_right 2 (Nat.le_succ count)
  rcases add_eq_ok hadd with ⟨-, rfl⟩ | ⟨-, happend⟩
  · constructor
    · rintro e' ⟨⟩
      apply Nat.le_trans he
      omega
    · apply h.run_le
    · apply Nat.le_succ_of_le h.length_le
  · rcases append_eq_ok happend with ⟨-, rfl⟩ | ⟨-, -, -, rfl⟩
    · constructor
      · intro e' he'
        have hdepth := h.finished_le e' he'
        dsimp only
        omega
      · rw [List.forall_mem_append]
        use h.run_le
        simpa using he
      · simpa using h.length_le
    · constructor
      · intro e' he'
        have hdepth := h.close_le he'
        dsimp only
        omega
      · simpa using he
      · simp

/-- Joining terms keeps the expressions shallow. -/
theorem Shallow.foldlM_addTerm {k count : Nat} (h : s.Shallow k count) {ts : List Term}
    (hts : ∀ t ∈ ts, ∀ e, d.single f t.operand = .ok e → e.depth ≤ k)
    (hfold : ts.foldlM (addTerm d f) s = .ok s') :
  s'.Shallow k (count + ts.length)
  := by
  induction ts generalizing s count with
  | nil =>
      cases hfold
      apply h
  | cons t ts ih =>
      rw [List.forall_mem_cons] at hts
      rw [List.foldlM_cons] at hfold
      obtain ⟨next, hnext, hrest⟩ := Except.bind_eq_ok_iff.mp hfold
      obtain ⟨e, he, hadd⟩ := addTerm_eq_ok_iff.mp hnext
      rw [List.length_cons, Nat.add_comm ts.length, ← Nat.add_assoc]
      apply ih (h.add (hts.1 e he) hadd) hts.2 hrest

end Progress

/-- Terms that build are joined unless the connective changes too often. -/
theorem map_switches_foldlM_terms {ts : List Term}
    (hbuild : ∀ t ∈ ts, ∃ e, d.single f t.operand = .ok e) (fallback : Option Operator) :
  (ts.foldlM (Progress.addTerm d f) { fallback := fallback }).map Progress.switches
    = if switches ts ≤ maxSwitches then .ok (switches ts) else .error (.tooManySwitches f.name)
  := by
  cases ts with
  | nil => rfl
  | cons t ts =>
      obtain ⟨⟨e, he⟩, hrest⟩ := List.forall_mem_cons.mp hbuild
      have hadd : Progress.addTerm d f { fallback := fallback } t
          = .ok { fallback := fallback, finished := some e } := by
        simp [Progress.addTerm, he, Progress.add]
      have hswitches : switches (t :: ts)
          = 0 + changes (Option.toList none ++ ts.map Term.connective) := (Nat.zero_add _).symm
      rw [List.foldlM_cons, hadd, hswitches]
      apply Progress.map_switches_foldlM hrest (by simp) (Nat.zero_le _)

/-! ### Values that build -/

/-- Values that pass the check, those in their place too, and build are composed unless their
connective changes more than 32 times.  They have no expression exactly if they have no terms, and
otherwise one of limited depth, provided that the dialect makes clauses of comparisons, which that
of every kind of fields does. -/
theorem depth_compose_le {values : List Text} {overrides : Option Overrides}
    (hvalues : ∀ v ∈ values, Wrapping.validate v = .ok ())
    (hsent : ∀ v ∈ inEffect f values overrides, Wrapping.validate v = .ok ())
    (hbuild : ∀ t ∈ terms (joined f values overrides), ∃ e, d.single f t.operand = .ok e) :
  let ts := terms (joined f values overrides)
  (32 < switches ts →
      ∃ failure, compose d f values overrides = .error failure ∧ failure.kind = .invalidInput)
    ∧ (switches ts ≤ 32 →
      ∃ result, compose d f values overrides = .ok result ∧ (result = none ↔ ts = [])
        ∧ ∀ e, result = some e → d.MakesClauses →
          e.depth ≤ 33 + (switches ts + 1) + Nat.clog 2 ts.length
            ∧ e.depth ≤ 66 + Nat.clog 2 ts.length)
    ∧ ∀ (loose : Bool) (kind : FieldKind), Dialect.ofKind? loose kind = some d → d.MakesClauses
  := by
  intro ts
  rw [compose_eq_joinAll (validateAll_eq_ok_iff.mpr hvalues) (validateAll_eq_ok_iff.mpr hsent),
    joinAll_eq]
  have hswitches := map_switches_foldlM_terms hbuild
    (some (defaultConnective (joined f values overrides)))
  refine ⟨?_, ?_, fun _ _ => Dialect.makesClauses_of_ofKind?⟩
  · intro hmany
    have hexceeded : ¬ switches ts ≤ maxSwitches := Nat.not_le_of_lt hmany
    rw [if_neg hexceeded] at hswitches
    use .tooManySwitches f.name
    rw [Except.map_eq_error_iff.mp hswitches]
    use rfl
    rfl
  · intro hfew
    have hwithin : switches ts ≤ maxSwitches := hfew
    rw [if_pos hwithin] at hswitches
    obtain ⟨s, hs, hcount⟩ := Except.map_eq_ok_iff.mp hswitches
    use s.close
    refine ⟨by rw [hs]; rfl, Progress.close_eq_none_iff_of_foldlM hs, ?_⟩
    intro e he hd
    have hstart : Progress.Shallow
        { fallback := some (defaultConnective (joined f values overrides)) }
        (maxDepth + 1) 0 := by
      constructor <;> simp
    have hshallow := hstart.foldlM_addTerm (fun _ _ _ he => Dialect.depth_le_of_single hd he) hs
    have hclose := hshallow.close_le he
    rw [hcount, Nat.zero_add] at hclose
    have hdepth : e.depth ≤ 33 + (switches ts + 1) + Nat.clog 2 ts.length := hclose
    use hdepth
    omega

/-- Two values that were converted stand for three that were sent, whose connective changes once. -/
theorem depth_compose_le_of_sent :
  let name : Field := ⟨"name".toList, .text⟩
  let values := ["x".toList, "y".toList]
  let sent := ["a".toList, "and(b)".toList, "or(not(c))".toList]
  let overrides : Option Overrides := some ⟨.fixed none (some sent), none⟩
  (∀ v ∈ values, Wrapping.validate v = .ok ())
    ∧ (∀ v ∈ inEffect name values overrides, Wrapping.validate v = .ok ())
    ∧ (∀ t ∈ terms (joined name values overrides), ∃ e, Dialect.text.single name t.operand = .ok e)
    ∧ switches (terms (joined name values overrides)) = 1
    ∧ ∃ e, compose .text name values overrides = .ok (some e) ∧ e.depth ≤ 37
  := by
  intro name values sent overrides
  have hvalues : ∀ v ∈ values, Wrapping.validate v = .ok () := validateAll_eq_ok_iff.mp rfl
  have hsent : ∀ v ∈ inEffect name values overrides, Wrapping.validate v = .ok () :=
    validateAll_eq_ok_iff.mp rfl
  have hterms : terms (joined name values overrides)
      = [⟨.or, "a".toList⟩, ⟨.and, "b".toList⟩, ⟨.or, "not(c)".toList⟩] := by decide
  have hbuild : ∀ t ∈ terms (joined name values overrides),
      ∃ e, Dialect.text.single name t.operand = .ok e := by
    rw [hterms]
    simp only [List.forall_mem_cons]
    exact ⟨⟨_, rfl⟩, ⟨_, rfl⟩, ⟨_, rfl⟩, by simp⟩
  have hswitches : switches (terms (joined name values overrides)) = 1 := by
    rw [hterms]
    rfl
  use hvalues, hsent, hbuild, hswitches
  obtain ⟨-, hfew, hclauses⟩ := depth_compose_le hvalues hsent hbuild
  obtain ⟨result, hresult, hnone, hdepth⟩ := hfew (by omega)
  obtain ⟨e, rfl⟩ := Option.ne_none_iff_exists'.mp fun h => by
    rw [hterms] at hnone
    cases hnone.mp h
  use e, hresult
  have hbound := (hdepth e rfl (hclauses false .text rfl)).1
  rw [hswitches, hterms] at hbound
  apply hbound

end Composition

end QueryFilter
