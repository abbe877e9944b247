import Mathlib.Data.List.Forall2
import QueryFilter.Proofs.Composition.Overrides
import QueryFilter.Proofs.Predicate.Balanced

/-!
# Joining from left to right

The tree that `Composition.compose` makes of several values groups those with the same connective,
but it means what joining their terms one after the other means, and it holds the clauses of the
terms in order.
-/

namespace QueryFilter

namespace Composition

/-- The verdict on two expressions that a connective joins. -/
def connect (connective : Option Operator) (left right : Bool) : Bool :=
  if connective = some .and then left && right else left || right

/-- The verdict on verdicts joined one after the other, each by its connective to those before it.
The connective of the first one joins nothing. -/
def leftFold : List (Operator × Bool) → Option Bool
  | [] => none
  | (_, first) :: rest =>
    some (rest.foldl (fun verdict p => connect (some p.1) verdict p.2) first)

theorem leftFold_concat (parts : List (Operator × Bool)) (connective : Operator) (verdict : Bool) :
  leftFold (parts ++ [(connective, verdict)])
    = some (match leftFold parts with
      | none => verdict
      | some before => connect (some connective) before verdict)
  := by
  cases parts with
  | nil => rfl
  | cons first rest => simp [leftFold, List.foldl_append]

theorem leftFold_eq_none_iff {parts : List (Operator × Bool)} :
  leftFold parts = none ↔ parts = []
  := by
  cases parts with
  | nil => simp [leftFold]
  | cons first rest => simp [leftFold]

/-! ### Runs -/

theorem holds_join (connective : Option Operator) (a b : Expr) (record : Record) :
  (join connective a b).holds record = connect connective (a.holds record) (b.holds record)
  := by
  rw [join, connect]
  split
  · rfl
  · rfl

theorem clauses_join (connective : Option Operator) (a b : Expr) :
  (join connective a b).clauses = a.clauses ++ b.clauses
  := by
  rw [join]
  split
  · rfl
  · rfl

theorem connect_assoc (connective : Option Operator) (a b c : Bool) :
  connect connective (connect connective a b) c = connect connective a (connect connective b c)
  := by
  unfold connect
  split
  · apply Bool.and_assoc
  · apply Bool.or_assoc

/-- Joining the expressions of a run one after the other is joining their balanced tree. -/
theorem foldl_connect {connective : Option Operator} {run : List Expr} {e : Expr}
    (h : Expr.balanced (join connective) run = some e) (record : Record) :
  ∀ verdict : Bool,
    run.foldl (fun verdict e => connect connective verdict (e.holds record)) verdict
      = connect connective verdict (e.holds record)
  := by
  apply Expr.balanced_induction (motive := fun run e => ∀ verdict : Bool,
    run.foldl (fun verdict e => connect connective verdict (e.holds record)) verdict
      = connect connective verdict (e.holds record)) _ _ h
  · intro e verdict
    rfl
  · intro xs ys a b _ _ _ hxs hys verdict
    rw [List.foldl_append, hxs, hys, holds_join, connect_assoc]

namespace Progress

variable {s s' : Progress} {previous : Expr}

/-- The expression of some progress is that of the finished values joined with those of the run
one after the other. -/
theorem close_eq_some (hs : s.finished = some previous) :
  ∃ e, s.close = some e
    ∧ (∀ record, e.holds record
      = s.run.foldl (fun verdict e => connect s.connective verdict (e.holds record))
          (previous.holds record))
    ∧ e.clauses = previous.clauses ++ s.run.flatMap Expr.clauses
  := by
  cases hrun : s.run with
  | nil =>
      use previous
      simp [close, hs, hrun, Expr.balanced_nil]
  | cons first rest =>
      obtain ⟨b, hb⟩ := Expr.exists_balanced_eq_some (join s.connective)
        (List.cons_ne_nil first rest)
      use join s.connective previous b
      refine ⟨?_, ?_, ?_⟩
      · simp [close, hs, hrun, hb]
      · intro record
        rw [holds_join, foldl_connect hb]
      · rw [clauses_join, Expr.clauses_balanced (clauses_join s.connective) hb]

/-- Appending an expression joins it to what is joined already, whether or not the connective
changes. -/
theorem close_append {f : Field} {connective : Operator} {e : Expr}
    (hs : s.finished = some previous) (hrun : s.connective = none → s.run = [])
    (h : s.append f connective e = .ok s') :
  ∃ a b, s.close = some a ∧ s'.close = some b
    ∧ (∀ record,
      b.holds record = connect (some connective) (a.holds record) (e.holds record))
    ∧ b.clauses = a.clauses ++ e.clauses
  := by
  obtain ⟨a, ha, hholds, hclauses⟩ := close_eq_some hs
  rcases append_eq_ok h with ⟨hsame, rfl⟩ | ⟨-, -, -, rfl⟩
  · have hs' : { s with connective := some connective, run := s.run ++ [e] }.finished
        = some previous := hs
    obtain ⟨b, hb, hholds', hclauses'⟩ := close_eq_some hs'
    use a, b, ha, hb
    constructor
    · intro record
      rw [hholds', hholds, List.foldl_append]
      rcases hsame with hnone | hsome
      · rw [hrun hnone]
        rfl
      · rw [hsome]
        rfl
    · rw [hclauses', hclauses]
      simp
  · have hs' : Progress.finished { s with
        finished := s.close, connective := some connective, run := [e],
        switches := s.switches + 1 } = some a := ha
    obtain ⟨b, hb, hholds', hclauses'⟩ := close_eq_some hs'
    use a, b, ha, hb
    constructor
    · intro record
      rw [hholds']
      rfl
    · rw [hclauses']
      simp

theorem connective_append {f : Field} {connective : Operator} {e : Expr}
    (h : s.append f connective e = .ok s') :
  s'.connective = some connective
  := by
  rcases append_eq_ok h with ⟨-, rfl⟩ | ⟨-, -, -, rfl⟩
  · rfl
  · rfl

theorem finished_append {f : Field} {connective : Operator} {e : Expr}
    (hs : s.finished = some previous) (h : s.append f connective e = .ok s') :
  s'.finished ≠ none
  := by
  rcases append_eq_ok h with ⟨-, rfl⟩ | ⟨-, -, -, rfl⟩
  · simp [hs]
  · obtain ⟨a, ha, -, -⟩ := close_eq_some hs
    simp [ha]

/-- Some progress has joined these expressions, each with its connective. -/
structure Joined (s : Progress) (parts : List (Operator × Expr)) : Prop where
  finished_eq_none : s.finished = none → parts = []
  connective_eq_none : s.finished = none → s.connective = none
  run_eq_nil : s.connective = none → s.run = []
  holds_close : ∀ record, s.close.map (·.holds record)
    = leftFold (parts.map fun p => (p.1, p.2.holds record))
  clauses_close : (s.close.map Expr.clauses).getD [] = parts.flatMap (·.2.clauses)

/-- At the beginning nothing is joined. -/
theorem joined_nil (fallback : Option Operator) :
  Joined { fallback := fallback } []
  where
  finished_eq_none _ := rfl
  connective_eq_none _ := rfl
  run_eq_nil _ := rfl
  holds_close record := by simp [close, Expr.balanced_nil, leftFold]
  clauses_close := by simp [close, Expr.balanced_nil]

/-- Adding an expression joins it to those before. -/
theorem Joined.add {parts : List (Operator × Expr)} (h : Joined s parts) {f : Field} {t : Term}
    {e : Expr} (hadd : s.add f t e = .ok s') :
  Joined s' (parts ++ [(t.connective, e)])
  := by
  rcases add_eq_ok hadd with ⟨hnone, rfl⟩ | ⟨hsome, happend⟩
  · -- The first expression stands alone: no connective is fixed and the run is empty.
    have hconnective := h.connective_eq_none hnone
    have hrun := h.run_eq_nil hconnective
    obtain rfl := h.finished_eq_none hnone
    constructor
    · simp
    · simp
    · intro _
      apply hrun
    · intro record
      simp [close, hrun, Expr.balanced_nil, leftFold]
    · simp [close, hrun, Expr.balanced_nil]
  · obtain ⟨previous, hprevious⟩ := Option.ne_none_iff_exists'.mp hsome
    obtain ⟨a, b, ha, hb, hholds, hclauses⟩ := close_append hprevious h.run_eq_nil happend
    constructor
    · intro hnone
      cases finished_append hprevious happend hnone
    · intro hnone
      cases finished_append hprevious happend hnone
    · intro hnone
      rw [connective_append happend] at hnone
      cases hnone
    · intro record
      have hbefore := h.holds_close record
      rw [ha] at hbefore
      rw [hb, List.map_append, List.map_singleton, leftFold_concat, ← hbefore]
      simp [hholds]
    · have hbefore := h.clauses_close
      rw [ha] at hbefore
      rw [hb, List.flatMap_append, ← hbefore]
      simp [hclauses]

/-- Joining terms builds the expression of each and joins it to those before. -/
theorem Joined.foldlM_addTerm {d : Dialect} {f : Field} {ts : List Term}
    {parts : List (Operator × Expr)} (h : Joined s parts)
    (hts : ts.foldlM (addTerm d f) s = .ok s') :
  ∃ es, List.Forall₂ (fun t e => d.single f t.operand = .ok e) ts es
    ∧ Joined s' (parts ++ (ts.map Term.connective).zip es)
  := by
  induction ts generalizing s parts with
  | nil =>
      cases hts
      use [], .nil
      simpa using h
  | cons t ts ih =>
      rw [List.foldlM_cons] at hts
      obtain ⟨next, hnext, hrest⟩ := Except.bind_eq_ok_iff.mp hts
      obtain ⟨e, he, hadd⟩ := addTerm_eq_ok_iff.mp hnext
      obtain ⟨es, hes, hjoined⟩ := ih (h.add hadd) hrest
      use e :: es, .cons he hes
      simpa using hjoined

/-- Terms that are joined have no expression exactly if there are none. -/
theorem close_eq_none_iff_of_foldlM {d : Dialect} {f : Field} {fallback : Option Operator}
    {ts : List Term} (hts : ts.foldlM (addTerm d f) { fallback := fallback } = .ok s') :
  s'.close = none ↔ ts = []
  := by
  obtain ⟨es, hes, hjoined⟩ := (joined_nil fallback).foldlM_addTerm hts
  have hmissing := hjoined.holds_close fun _ => .missing
  have hlengths := hes.length_eq
  rw [← Option.map_eq_none_iff, hmissing, leftFold_eq_none_iff, List.map_eq_nil_iff,
    List.nil_append, List.zip_eq_nil_iff, List.map_eq_nil_iff]
  constructor
  · rintro (hnil | rfl)
    · apply hnil
    · apply List.length_eq_zero_iff.mp hlengths
  · apply Or.inl

end Progress

variable {d : Dialect} {f : Field}

/-- Several values that are composed stand for no expression exactly if they have no terms.
Otherwise their expression means what the expressions of the terms mean when they are joined from
left to right, and has their clauses in order. -/
theorem compose_eq_leftFold {values : List Text} {result : Option Expr}
    (hlength : 2 ≤ values.length) (h : compose d f values none = .ok result) :
  (result = none ↔ terms values = [])
    ∧ ∀ e, result = some e →
      ∃ es, List.Forall₂ (fun t e => d.single f t.operand = .ok e) (terms values) es
        ∧ (∀ record, some (e.holds record)
          = leftFold (((terms values).map Term.connective).zip (es.map (·.holds record))))
        ∧ e.clauses = es.flatMap Expr.clauses
  := by
  rw [compose_of_two_le hlength] at h
  obtain ⟨-, -, hjoin⟩ := Except.bind_eq_ok_iff.mp h
  rw [joinAll_eq] at hjoin
  obtain ⟨s, hs, rfl⟩ := Except.map_eq_ok_iff.mp hjoin
  obtain ⟨es, hes, hjoined⟩ := (Progress.joined_nil _).foldlM_addTerm hs
  rw [List.nil_append] at hjoined
  have hlengths : ((terms values).map Term.connective).length = es.length := by
    rw [List.length_map, hes.length_eq]
  have hholds : ∀ record, s.close.map (·.holds record)
      = leftFold (((terms values).map Term.connective).zip (es.map (·.holds record))) := by
    intro record
    rw [hjoined.holds_close, List.zip_map_right]
    rfl
  constructor
  · have hnil : es = [] ↔ terms values = [] := by
      rw [← List.length_eq_zero_iff, ← hes.length_eq, List.length_eq_zero_iff]
    have hmissing := hholds fun _ => .missing
    rw [← Option.map_eq_none_iff, hmissing, leftFold_eq_none_iff, List.zip_eq_nil_iff,
      List.map_eq_nil_iff, List.map_eq_nil_iff, hnil, or_self]
  · intro e he
    use es, hes
    constructor
    · intro record
      rw [← hholds, he]
      rfl
    · have hclauses := hjoined.clauses_close
      rw [he, ← List.flatMap_map, List.map_snd_zip (Nat.le_of_eq hlengths.symm)] at hclauses
      apply hclauses

/-- The first value joins nothing, but it fixes the connective of those without one; the blank one
is passed over. -/
theorem compose_eq_leftFold_of_empty_and :
  let name : Field := ⟨"name".toList, .text⟩
  let values :=
    ["and()".toList, "startsWith(a)".toList, " ".toList, "endsWith(z)".toList, "or(b)".toList]
  let is := fun relation (t : Text) => Dialect.clause name relation (.text t) false
  let e := Expr.or (.and (is .startsWith ['a']) (is .endsWith ['z'])) (is .eq ['b'])
  2 ≤ values.length ∧ compose .text name values none = .ok (some e)
    ∧ terms values
      = [⟨.and, "startsWith(a)".toList⟩, ⟨.and, "endsWith(z)".toList⟩, ⟨.or, ['b']⟩]
    ∧ ∃ es, List.Forall₂ (fun t e => Dialect.text.single name t.operand = .ok e) (terms values) es
      ∧ (∀ record, some (e.holds record)
        = leftFold (((terms values).map Term.connective).zip (es.map (·.holds record))))
      ∧ e.clauses = es.flatMap Expr.clauses
  := by
  intro name values is e
  have hlength : 2 ≤ values.length := by decide
  have hvalid : validateAll values = .ok () := rfl
  have hfold : values.foldlM (Progress.step .text name) {} = .ok {
      fallback := some .and
      finished := Progress.close {
        finished := some (is .startsWith ['a'])
        connective := some .and
        run := [is .endsWith ['z']] }
      connective := some .or
      run := [is .eq ['b']]
      switches := 1 } := rfl
  have hcompose : compose .text name values none = .ok (some e) := by
    rw [compose_of_two_le hlength, hvalid, joinAll, hfold]
    simp [e, bind, Except.bind, Except.map, Progress.close, Expr.balanced_singleton, join]
  use hlength, hcompose, by decide
  apply (compose_eq_leftFold hlength hcompose).2 e rfl

end Composition

end QueryFilter
