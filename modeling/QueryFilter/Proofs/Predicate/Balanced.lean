import Mathlib.Data.List.Basic
import Mathlib.Data.Nat.Log
import QueryFilter.Predicate.Expr

/-!
# Balanced trees

`Expr.balanced` joins every non-empty list, each tree being the join of those of two parts that
differ in length by one at most.  So whatever is kept by joining the trees of two such parts holds
of the tree of the whole list: it is true where all or some of the expressions are, its clauses are
theirs in order, and it is deeper than they are by the logarithm of their number at most, and by
just that if they are equally deep.
-/

namespace QueryFilter.Expr

variable {join : Expr → Expr → Expr} {es : List Expr} {e : Expr}

theorem balanced_nil :
  balanced join [] = none
  := by rw [balanced]

theorem balanced_singleton (e : Expr) :
  balanced join [e] = some e
  := by rw [balanced]

/-- A list that is not empty has a tree. -/
theorem exists_balanced_eq_some (join : Expr → Expr → Expr) (hes : es ≠ []) :
  ∃ e, balanced join es = some e
  := by
  induction es using balanced.induct with
  | case1 => cases hes rfl
  | case2 e => use e, balanced_singleton e
  | case3 e₁ e₂ rest half ihl ihr =>
      obtain ⟨a, ha⟩ := ihl (by simp [half])
      obtain ⟨b, hb⟩ := ihr (by simp [half]; omega)
      use join a b
      rw [balanced, ha, hb]
      rfl

/-- What holds of single expressions and is kept by joining the trees of two parts, neither of them
empty and the second longer by one at most, holds of balanced trees. -/
theorem balanced_induction {motive : List Expr → Expr → Prop}
    (single : ∀ e, motive [e] e)
    (halves : ∀ xs ys a b, xs ≠ [] → xs.length ≤ ys.length → ys.length ≤ xs.length + 1 →
      motive xs a → motive ys b → motive (xs ++ ys) (join a b)) :
  ∀ {es e}, balanced join es = some e → motive es e
  := by
  intro es
  induction es using balanced.induct
  case case1 =>
      intro e h
      rw [balanced_nil] at h
      cases h
  case case2 e' =>
      intro e h
      rw [balanced_singleton] at h
      cases h
      apply single
  case case3 e₁ e₂ rest half ihl ihr =>
      intro e h
      rw [balanced] at h
      obtain ⟨a, ha, h⟩ := Option.bind_eq_some_iff.mp h
      obtain ⟨b, hb, h⟩ := Option.bind_eq_some_iff.mp h
      cases h
      rw [← List.take_append_drop half (e₁ :: e₂ :: rest)]
      apply halves _ _ _ _ _ _ _ (ihl ha) (ihr hb)
      · simp [half]
      · simp only [half, List.length_take, List.length_drop, List.length_cons]
        omega
      · simp only [half, List.length_take, List.length_drop, List.length_cons]
        omega

/-- A balanced conjunction holds of a record exactly if all its expressions do. -/
theorem holds_balanced_and (record : Record) (h : balanced .and es = some e) :
  e.holds record = es.all (·.holds record)
  := by
  apply balanced_induction (motive := fun es e => e.holds record = es.all (·.holds record)) _ _ h
  · simp
  · intro xs ys a b _ _ _ hxs hys
    rw [holds, hxs, hys, List.all_append]

/-- A balanced disjunction holds of a record exactly if some of its expressions does. -/
theorem holds_balanced_or (record : Record) (h : balanced .or es = some e) :
  e.holds record = es.any (·.holds record)
  := by
  apply balanced_induction (motive := fun es e => e.holds record = es.any (·.holds record)) _ _ h
  · simp
  · intro xs ys a b _ _ _ hxs hys
    rw [holds, hxs, hys, List.any_append]

/-- The clauses of a balanced tree are those of its expressions in order. -/
theorem clauses_balanced (hjoin : ∀ a b, (join a b).clauses = a.clauses ++ b.clauses)
    (h : balanced join es = some e) :
  e.clauses = es.flatMap clauses
  := by
  apply balanced_induction (motive := fun es e => e.clauses = es.flatMap clauses) _ _ h
  · simp
  · intro xs ys a b _ _ _ hxs hys
    rw [hjoin, hxs, hys, List.flatMap_append]

/-- The logarithm of the length of a list, rounded up, is one more than that of its second half,
which is not the shorter one. -/
theorem clog_add_of_halves {m n : Nat} (hle : m ≤ n) (hge : n ≤ m + 1) (hm : 0 < m) :
  Nat.clog 2 (m + n) = Nat.clog 2 n + 1
  := by
  have hhalf : (m + n + 2 - 1) / 2 = n := by omega
  rw [Nat.clog_of_two_le (by decide) (by omega), hhalf]

/-- If the depths of expressions lie between two bounds, then that of their balanced tree lies
between these bounds raised by the logarithm of the number of expressions. -/
theorem depth_balanced_bounds (hjoin : ∀ a b, (join a b).depth = max a.depth b.depth + 1)
    {j k : Nat} (hes : ∀ e ∈ es, j ≤ e.depth ∧ e.depth ≤ k) (h : balanced join es = some e) :
  j + Nat.clog 2 es.length ≤ e.depth ∧ e.depth ≤ k + Nat.clog 2 es.length
  := by
  revert hes
  apply balanced_induction (motive := fun es e => (∀ e ∈ es, j ≤ e.depth ∧ e.depth ≤ k) →
    j + Nat.clog 2 es.length ≤ e.depth ∧ e.depth ≤ k + Nat.clog 2 es.length) _ _ h
  · simp
  · intro xs ys a b hxs hle hge ha hb hes
    obtain ⟨hesx, hesy⟩ := List.forall_mem_append.mp hes
    -- the second half has the greater logarithm, so its tree alone accounts for the lower bound
    have hclog := Nat.clog_mono_right 2 hle
    rw [List.length_append, clog_add_of_halves hle hge (List.length_pos_iff.mpr hxs), hjoin]
    have hax := ha hesx
    have hby := hb hesy
    omega

/-- A balanced tree is deeper than its expressions by the logarithm of their number at most. -/
theorem depth_balanced_le (hjoin : ∀ a b, (join a b).depth = max a.depth b.depth + 1) {k : Nat}
    (hes : ∀ e ∈ es, e.depth ≤ k) (h : balanced join es = some e) :
  e.depth ≤ k + Nat.clog 2 es.length
  := (depth_balanced_bounds hjoin (fun e he => ⟨Nat.zero_le e.depth, hes e he⟩) h).2

/-! ### Trees over expressions -/

/-- The depth of the deepest of some expressions. -/
def greatestDepth (es : List Expr) : Nat := (es.map depth).max?.getD 0

theorem depth_le_greatestDepth (he : e ∈ es) :
  e.depth ≤ greatestDepth es
  := List.le_max?_getD_of_mem (List.mem_map_of_mem he)

/-- Some expression is the deepest. -/
theorem exists_depth_eq_greatestDepth (hes : es ≠ []) :
  ∃ e ∈ es, e.depth = greatestDepth es
  := by
  have hdepths : es.map depth ≠ [] := mt List.map_eq_nil_iff.mp hes
  rw [greatestDepth, List.max?_eq_some_max hdepths, Option.getD_some]
  apply List.mem_map.mp (List.max_mem hdepths)

/-- The clauses of a tree over some expressions are theirs in order, and it is deeper than the
deepest of them by the logarithm of their number at most, and by just that if they are equally
deep. -/
structure Spans (e : Expr) (es : List Expr) : Prop where
  clauses_eq : e.clauses = es.flatMap clauses
  depth_le : e.depth ≤ greatestDepth es + Nat.clog 2 es.length
  depth_eq : (∀ a ∈ es, ∀ b ∈ es, a.depth = b.depth) →
    e.depth = greatestDepth es + Nat.clog 2 es.length

theorem spans_balanced (hclauses : ∀ a b, (join a b).clauses = a.clauses ++ b.clauses)
    (hdepth : ∀ a b, (join a b).depth = max a.depth b.depth + 1) (hes : es ≠ [])
    (h : balanced join es = some e) :
  e.Spans es
  := by
  constructor
  · apply clauses_balanced hclauses h
  · apply depth_balanced_le hdepth (fun _ => depth_le_greatestDepth) h
  · intro hequal
    obtain ⟨deepest, hmem, hdeepest⟩ := exists_depth_eq_greatestDepth hes
    have hsame : ∀ e ∈ es, greatestDepth es ≤ e.depth ∧ e.depth ≤ greatestDepth es := by
      intro e he
      rw [← hdeepest, hequal e he deepest hmem]
      use Nat.le_refl _
    obtain ⟨hge, hle⟩ := depth_balanced_bounds hdepth hsame h
    apply Nat.le_antisymm hle hge

/-- The empty list has no conjunction and no disjunction.  Every other list has both, as trees over
its expressions: the conjunction holds of the records of which all of these hold, the disjunction of
those of which some does. -/
theorem spans_all_any :
  all [] = none ∧ any [] = none
    ∧ ∀ es : List Expr, es ≠ [] →
      (∃ e, all es = some e ∧ e.Spans es
        ∧ ∀ record, e.holds record = true ↔ ∀ e' ∈ es, e'.holds record = true)
      ∧ ∃ e, any es = some e ∧ e.Spans es
        ∧ ∀ record, e.holds record = true ↔ ∃ e' ∈ es, e'.holds record = true
  := by
  refine ⟨balanced_nil, balanced_nil, fun es hes => ⟨?_, ?_⟩⟩
  · obtain ⟨e, he⟩ := exists_balanced_eq_some .and hes
    use e, he, spans_balanced (fun _ _ => rfl) (fun _ _ => rfl) hes he
    intro record
    rw [holds_balanced_and record he, List.all_eq_true]
  · obtain ⟨e, he⟩ := exists_balanced_eq_some .or hes
    use e, he, spans_balanced (fun _ _ => rfl) (fun _ _ => rfl) hes he
    intro record
    rw [holds_balanced_or record he, List.any_eq_true]

/-- Five negated comparisons, each of depth two, are joined by three levels, of which the shorter
half needs only two. -/
theorem spans_all_any_of_five :
  let es : List Expr := ["a", "b", "c", "d", "e"].map fun t =>
    .not (.leaf ⟨"name".toList, .eq, .text t.toList, false⟩)
  let named (t : String) : Record := fun _ => .text t.toList
  es ≠ [] ∧ (∀ a ∈ es, ∀ b ∈ es, a.depth = b.depth)
    ∧ (∃ e, all es = some e ∧ e.depth = 5 ∧ e.clauses.length = 5
      ∧ e.holds (named "e") = false ∧ e.holds (named "f") = true)
    ∧ ∃ e, any es = some e ∧ e.depth = 5 ∧ e.clauses.length = 5
      ∧ e.holds (named "e") = true
  := by
  intro es named
  have hes : es ≠ [] := by simp [es]
  have hequal : ∀ a ∈ es, ∀ b ∈ es, a.depth = b.depth := by simp [es, depth]
  obtain ⟨-, -, htrees⟩ := spans_all_any
  obtain ⟨⟨a, ha, hspans, hholds⟩, o, ho, hspans', hholds'⟩ := htrees es hes
  have hdepth : greatestDepth es + Nat.clog 2 es.length = 5 := by decide
  have hclauses : (es.flatMap clauses).length = 5 := rfl
  refine ⟨hes, hequal, ⟨a, ha, ?_, ?_, ?_, ?_⟩, o, ho, ?_, ?_, ?_⟩
  · rw [hspans.depth_eq hequal, hdepth]
  · rw [hspans.clauses_eq, hclauses]
  · rw [Bool.eq_false_iff, ne_eq, hholds]
    decide
  · rw [hholds]
    decide
  · rw [hspans'.depth_eq hequal, hdepth]
  · rw [hspans'.clauses_eq, hclauses]
  · rw [hholds']
    decide

end QueryFilter.Expr
