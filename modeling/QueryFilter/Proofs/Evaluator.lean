import Mathlib.Data.List.Basic
import QueryFilter.Evaluator

/-!
# Evaluations through a cache

A cache of patterns is sound when it holds under each source the pattern that is read from it.
`Evaluation.Computes` says that a computation has one and the same result from every sound cache,
whatever is dropped from it, and leaves a sound cache behind, also when it fails.  It is kept by
composing computations, so the values of an enumeration are evaluated to what they are composed to
without a cache.
-/

namespace QueryFilter

namespace PatternCache

variable {read : Text → Option Regex} {c : PatternCache}

/-- The cache holds under each source the pattern that is read from it. -/
def Sound (read : Text → Option Regex) (c : PatternCache) : Prop :=
  ∀ source r, (source, r) ∈ c.entries → read source = some r

/-- Nothing wrong is left by dropping entries. -/
theorem Sound.next (h : c.Sound read) :
  c.next.Sound read
  := by
  intro source r hmem
  obtain ⟨⟨entry, place⟩, hentry, heq⟩ := List.mem_map.mp hmem
  obtain rfl : entry = (source, r) := heq
  apply h
  apply List.fst_mem_of_mem_zipIdx (List.mem_of_mem_filter hentry)

/-- What is found in a sound cache is what is read, and the cache stays sound, whether or not the
source is a pattern. -/
theorem Sound.find (h : c.Sound read) (source : Text) :
  ((find read source).run c).1 = read source ∧ ((find read source).run c).2.Sound read
  := by
  simp only [PatternCache.find, StateT.run]
  -- Only a pattern that was read is added, so a source that is none leaves no trace.
  cases hkept : c.next.entries.lookup source with
  | some r =>
      obtain ⟨before, after, hentries, -⟩ := List.lookup_eq_some_iff.mp hkept
      have hmem : (source, r) ∈ c.next.entries := by simp [hentries]
      use (h.next source r hmem).symm
      apply h.next
  | none =>
      cases hread : read source with
      | none =>
          use rfl
          apply h.next
      | some r =>
          use rfl
          intro source' r' hmem
          rcases List.mem_cons.mp hmem with heq | hmem
          · cases heq
            apply hread
          · apply h.next source' r' hmem

end PatternCache

namespace Evaluation

variable {α β : Type}

/-- From every sound cache the computation has this result, and it leaves a sound cache behind. -/
def Computes (x : Evaluation α) (result : Except Failure α) : Prop :=
  ∀ c : PatternCache, c.Sound Dialect.memberPattern? →
    (x.run.run c).1 = result ∧ (x.run.run c).2.Sound Dialect.memberPattern?

theorem computes_ofExcept (x : Except Failure α) :
  Computes (ofExcept x) x
  := by
  intro c hc
  use rfl
  apply hc

theorem computes_pure (a : α) :
  Computes (pure a) (.ok a)
  := computes_ofExcept (.ok a)

theorem computes_throw (failure : Failure) :
  Computes (throw failure : Evaluation α) (.error failure)
  := computes_ofExcept (.error failure)

/-- Computations are composed by their results: a failure is kept, and a cache that is left behind
by the first one is as good as any other for the second. -/
theorem Computes.bind_of {x : Evaluation α} {first : Except Failure α} {next : α → Evaluation β}
    {result : Except Failure β} (hx : Computes x first)
    (herror : ∀ failure, first = .error failure → result = .error failure)
    (hok : ∀ a, first = .ok a → Computes (next a) result) :
  Computes (x >>= next) result
  := by
  intro c hc
  obtain ⟨hfirst, hsound⟩ := hx c hc
  rw [ExceptT.run_bind, StateT.run_bind]
  cases h : x.run.run c with
  | mk first' c' =>
      rw [h] at hfirst hsound
      obtain rfl : first' = first := hfirst
      cases first' with
      | error failure =>
          use (herror failure rfl).symm
          apply hsound
      | ok a => apply hok a rfl c' hsound

theorem Computes.bind {x : Evaluation α} {result : Except Failure α} {next : α → Evaluation β}
    {k : α → Except Failure β} (hx : Computes x result) (hnext : ∀ a, Computes (next a) (k a)) :
  Computes (x >>= next) (result >>= k)
  := by
  apply hx.bind_of
  · intro failure h
    rw [h]
    rfl
  · intro a h
    rw [h]
    apply hnext

theorem Computes.map {x : Evaluation α} {result : Except Failure α} (hx : Computes x result)
    (f : α → β) :
  Computes (do return f (← x)) (result.map f)
  := by
  have hmap : result.map f = (do return f (← result)) := by
    cases result with
    | error failure => rfl
    | ok a => rfl
  rw [hmap]
  apply hx.bind
  intro a
  apply computes_pure

/-- A walk along a list is computed by its steps. -/
theorem computes_foldlM {step : β → α → Evaluation β} {step' : β → α → Except Failure β}
    (hstep : ∀ b a, Computes (step b a) (step' b a)) (as : List α) (b : β) :
  Computes (as.foldlM step b) (as.foldlM step' b)
  := by
  induction as generalizing b with
  | nil => apply computes_pure
  | cons a as ih =>
      rw [List.foldlM_cons, List.foldlM_cons]
      apply (hstep b a).bind
      intro b'
      apply ih

/-! ### Values of an enumeration -/

variable {loose : Bool} {f : Field}

/-- What is looked up is what is read. -/
theorem computes_find (source : Text) :
  Computes (PatternCache.find Dialect.memberPattern? source : StateM PatternCache _)
    (.ok (Dialect.memberPattern? source))
  := by
  intro c hc
  obtain ⟨hfound, hsound⟩ := hc.find source
  use congrArg Except.ok hfound
  apply hsound

/-- The members that match a pattern are found with the pattern that is read. -/
theorem computes_matching (source : Text) :
  Computes (matching f source) (match Dialect.memberPattern? source with
    | some r => .ok (Dialect.select f r.isMatch)
    | none => .error .invalidPattern)
  := by
  apply (computes_find source).bind
    (k := fun
      | some r => .ok (Dialect.select f r.isMatch)
      | none => .error .invalidPattern)
  intro found
  cases found with
  | some r => apply computes_pure
  | none => apply computes_throw

theorem computes_leaf (op : Operator) (literal : Text) (ignoreCase : Bool) :
  Computes (leaf loose f op literal ignoreCase)
    ((Dialect.enumeration loose).leaf op f literal ignoreCase)
  := by
  rw [leaf]
  split
  · rename_i h
    obtain ⟨rfl, hop⟩ := Bool.and_eq_true_iff.mp h
    obtain rfl := eq_of_beq hop
    apply computes_matching
  · apply computes_ofExcept

theorem computes_build (n : Node) :
  Computes (build loose f n) ((Dialect.enumeration loose).build f n)
  := by
  induction n with
  | leaf op literal ignoreCase => apply computes_leaf
  | not inner ih => apply ih.map
  | ignoreCase inner ih => apply ih

theorem computes_single (value : Text) :
  Computes (single loose f value) ((Dialect.enumeration loose).single f value)
  := by
  rw [Dialect.single]
  apply (computes_ofExcept _).bind_of
  · intro failure h
    rw [h]
  · intro n h
    rw [h]
    apply computes_build

/-! ### Several values -/

theorem computes_step (s : Composition.Progress) (value : Text) :
  Computes (step loose f s value)
    (Composition.Progress.step (Dialect.enumeration loose) f s value)
  := by
  rw [step, Composition.Progress.step]
  split
  · apply computes_pure
  apply (computes_ofExcept _).bind_of
  · intro failure h
    rw [h]
  intro unwrapped h
  simp only [h]
  split
  · apply computes_pure
  apply (computes_single _).bind_of
  · intro failure h
    rw [h]
  intro e h
  simp only [h]
  split
  · apply computes_pure
  split
  · apply computes_ofExcept
  · apply computes_throw

theorem computes_joinAll (values : List Text) :
  Computes (joinAll loose f values)
    (Composition.joinAll (Dialect.enumeration loose) f values)
  := (computes_foldlM computes_step values {}).map Composition.Progress.close

theorem computes_lone (value : Text) :
  Computes (lone loose f value) (Composition.lone (Dialect.enumeration loose) f value)
  := by
  rw [lone, Composition.lone]
  split
  · apply computes_pure
  · apply (computes_single _).map

/-- The values of an enumeration are evaluated to what they are composed to without a cache. -/
theorem computes_compose (values : List Text) (overrides : Option Overrides) :
  Computes (compose loose f values overrides)
    (Composition.compose (Dialect.enumeration loose) f values overrides)
  := by
  rw [compose.eq_def, Composition.compose.eq_def]
  apply (computes_ofExcept _).bind
  intro _
  match values with
  | [] => apply computes_pure
  | [value] =>
      cases overrides.bind (·.first? f) with
      | none => apply computes_lone
      | some sent =>
          apply (computes_ofExcept _).bind
          intro _
          apply computes_lone
  | value :: value' :: values =>
      cases overrides.bind (·.all? f) with
      | none => apply computes_joinAll
      | some sent =>
          apply (computes_ofExcept _).bind
          intro _
          apply computes_joinAll

end Evaluation

/-! ### Methods -/

namespace Method

/-- The method is the one for the values of a kind, and the patterns it keeps are those that are
read from their sources. -/
inductive Serves : Method → FieldKind → Prop where
  | text : Serves .text .text
  | number : Serves .number .number
  | timestamp : Serves .timestamp .timestamp
  | enumeration {patterns : PatternCache} {members : List Text}
      (hsound : patterns.Sound Dialect.memberPattern?) :
      Serves (.enumeration patterns) (.enumeration members)

/-- Before its first use a method keeps no patterns. -/
theorem serves_of_ofKind? {retention : Retention} {kind : FieldKind} {m : Method}
    (h : ofKind? retention kind = some m) :
  m.Serves kind
  := by
  cases kind with
  | text =>
      cases h
      apply Serves.text
  | number =>
      cases h
      apply Serves.number
  | timestamp =>
      cases h
      apply Serves.timestamp
  | enumeration members =>
      cases h
      apply Serves.enumeration
      intro source r hmem
      cases hmem
  | other typeName => cases h

/-- Values without a method cannot be filtered by in either mode. -/
theorem dialect?_eq_none {retention : Retention} {kind : FieldKind}
    (h : ofKind? retention kind = none) (loose : Bool) :
  Dialect.ofKind? loose kind = none
  := by
  cases kind with
  | other typeName => rfl
  | _ => cases h

end Method

end QueryFilter
