import QueryFilter.Proofs.Grammar.Bare
import QueryFilter.Proofs.Grammar.Layers
import QueryFilter.Proofs.Text.Lowercase

/-!
# Comparisons without regard to case

Under `ci` the lowercase forms of a text and of the literal are compared.  So `ci` widens equality
and narrows its negation.  It widens the search for the literal at the beginning, at the end or
anywhere as far as the literal has the lowercase form there that it has alone, which only a capital
sigma can prevent.
-/

namespace QueryFilter

variable {op : Operator} {relation : Relation} {literal t before after : Text}

/-- The relation of a comparison of texts, other than by a pattern. -/
def Operator.textRelation? : Operator → Option Relation
  | .eq => some .eq
  | .ne => some .ne
  | .contains => some .contains
  | .startsWith => some .startsWith
  | .endsWith => some .endsWith
  | _ => none

/-- The comparison finds its literal in a text between `before` and `after`. -/
def Operator.Finds (op : Operator) (literal t before after : Text) : Prop :=
  t = before ++ literal ++ after ∧ (op = .eq ∨ op = .startsWith → before = [])
    ∧ (op = .eq ∨ op = .endsWith → after = [])

namespace Relation

/-- A comparison other than `ne` holds exactly if it finds its literal. -/
theorem holdsOfTexts_iff_finds (hop : op.textRelation? = some relation) (hne : op ≠ .ne) :
  relation.holdsOfTexts t literal = true ↔ ∃ before after, op.Finds literal t before after
  := by
  cases op
  case eq =>
      cases hop
      rw [holdsOfTexts, beq_iff_eq]
      simp [Operator.Finds]
  case contains =>
      cases hop
      rw [holdsOfTexts, Text.occursIn_iff]
      simp [Operator.Finds, List.IsInfix, eq_comm]
  case startsWith =>
      cases hop
      rw [holdsOfTexts, List.isPrefixOf_iff_prefix]
      simp [Operator.Finds, List.IsPrefix, eq_comm]
  case endsWith =>
      cases hop
      rw [holdsOfTexts, List.isSuffixOf_iff_suffix]
      simp [Operator.Finds, List.IsSuffix, eq_comm]
  case ne => cases hne rfl
  all_goals cases hop

/-- Where a literal keeps its sigmas, its lowercase form is found as well. -/
theorem holdsOfTexts_lowercase (hop : op.textRelation? = some relation) (hne : op ≠ .ne)
    (hfinds : op.Finds literal t before after) (hkeeps : Text.KeepsSigmas before literal after) :
  relation.holdsOfTexts t.lowercase literal.lowercase = true
  := by
  obtain ⟨rfl, hbefore, hafter⟩ := hfinds
  cases op
  case eq =>
      cases hop
      obtain rfl := hbefore (.inl rfl)
      obtain rfl := hafter (.inl rfl)
      rw [holdsOfTexts, List.nil_append, List.append_nil, beq_iff_eq]
  case contains =>
      cases hop
      rw [holdsOfTexts, Text.occursIn_iff]
      apply Text.lowercase_infix hkeeps
  case startsWith =>
      cases hop
      obtain rfl := hbefore (.inr rfl)
      rw [holdsOfTexts, List.isPrefixOf_iff_prefix]
      apply Text.lowercase_prefix_iff.mpr hkeeps
  case endsWith =>
      cases hop
      obtain rfl := hafter (.inr rfl)
      rw [holdsOfTexts, List.isSuffixOf_iff_suffix, List.append_nil]
      apply Text.lowercase_suffix_iff.mpr hkeeps
  case ne => cases hne rfl
  all_goals cases hop

/-- At the beginning and at the end of a text, the lowercase form of a literal is found only if the
literal keeps its sigmas there. -/
theorem keepsSigmas_of_holdsOfTexts_lowercase (hop : op.textRelation? = some relation)
    (hne : op ≠ .ne) (hcontains : op ≠ .contains) (hfinds : op.Finds literal t before after)
    (h : relation.holdsOfTexts t.lowercase literal.lowercase = true) :
  Text.KeepsSigmas before literal after
  := by
  obtain ⟨rfl, hbefore, hafter⟩ := hfinds
  cases op
  case eq =>
      obtain rfl := hbefore (.inl rfl)
      obtain rfl := hafter (.inl rfl)
      apply Text.keepsSigmas_nil_nil
  case startsWith =>
      cases hop
      obtain rfl := hbefore (.inr rfl)
      apply Text.lowercase_prefix_iff.mp
      apply List.isPrefixOf_iff_prefix.mp h
  case endsWith =>
      cases hop
      obtain rfl := hafter (.inr rfl)
      rw [holdsOfTexts, List.isSuffixOf_iff_suffix, List.append_nil] at h
      apply Text.lowercase_suffix_iff.mp h
  case ne => cases hne rfl
  case contains => cases hcontains rfl
  all_goals cases hop

end Relation

namespace Dialect

open Wrapping

/-! ### Values -/

theorem compare_text (hop : op.textRelation? = some relation) (f : Field) (literal : Text)
    (ignoreCase : Bool) :
  text.compare op f literal ignoreCase = .ok (clause f relation (.text literal) ignoreCase)
  := by
  cases op
  case eq | ne | contains | startsWith | endsWith =>
      cases hop
      rfl
  all_goals cases hop

theorem supported_of_textRelation? (hop : op.textRelation? = some relation) :
  op ∈ text.supported ∧ op.isComparison = true
  := by
  cases op
  case eq | ne | contains | startsWith | endsWith => decide
  all_goals cases hop

/-- A comparison of texts with a literal makes a clause, and so it does under `ci`. -/
theorem single_text_wrap (hop : op.textRelation? = some relation)
    (hliteral : isWrapped literal.trim = false) (f : Field) :
  text.single f (op.wrap literal) = .ok (clause f relation (.text literal) false)
    ∧ text.single f (Operator.ignoreCase.wrap (op.wrap literal))
      = .ok (clause f relation (.text literal) true)
  := by
  obtain ⟨hsupported, hcomparison⟩ := supported_of_textRelation? hop
  have hparse : text.parse (op.wrap literal) = .ok (.leaf op literal false) :=
    parse_wrap hcomparison hsupported hliteral
  have hfolded := parse_wrap_ignoreCase hparse (Nat.succ_pos _) rfl
  constructor
  · rw [single_eq_build hparse, build, leaf, if_pos hcomparison, compare_text hop]
  · rw [single_eq_build hfolded, build, Node.folding, build, leaf, if_pos hcomparison,
      compare_text hop]

theorem holds_clause_text {f : Field} {record : Record} (hrecord : record f.name = .text t)
    (ignoreCase : Bool) :
  (clause f relation (.text literal) ignoreCase).holds record
    = if ignoreCase then relation.holdsOfTexts t.lowercase literal.lowercase
      else relation.holdsOfTexts t literal
  := by simp only [clause, Expr.holds, hrecord, Clause.holds, Clause.holdsOfText]

/-- A literal that no operator wraps makes an expression under every comparison of texts, with `ci`
and without.  A text that is different from it without regard to case is different from it.  If the
literal is found in a text, it is found without regard to case as well, where all its capital sigmas
end words in the text exactly if they do in the literal alone: always by `eq` and without capital
sigmas.  At the beginning and at the end it is found without regard to case only then. -/
theorem holds_ignoreCase_wrap (hop : op ∈ [.eq, .ne, .contains, .startsWith, .endsWith])
    (hliteral : isWrapped literal.trim = false) (f : Field) :
  ∃ e e' : Expr, text.single f (op.wrap literal) = .ok e
    ∧ text.single f (Operator.ignoreCase.wrap (op.wrap literal)) = .ok e'
    ∧ ∀ (record : Record) (t : Text), record f.name = .text t →
      (op = .ne → e'.holds record = true → e.holds record = true)
        ∧ (op ≠ .ne →
          (e.holds record = true ↔ ∃ before after, op.Finds literal t before after)
            ∧ (op = .eq ∨ 'Σ' ∉ literal → e.holds record = true → e'.holds record = true)
            ∧ ∀ before after, op.Finds literal t before after →
              (Text.KeepsSigmas before literal after → e'.holds record = true)
                ∧ (op ≠ .contains → e'.holds record = true →
                  Text.KeepsSigmas before literal after))
  := by
  obtain ⟨relation, hrelation⟩ : ∃ relation, op.textRelation? = some relation := by
    have hall : ∀ op ∈ [Operator.eq, .ne, .contains, .startsWith, .endsWith],
        op.textRelation?.isSome = true := by decide
    apply Option.isSome_iff_exists.mp (hall op hop)
  obtain ⟨hplain, hfolded⟩ := single_text_wrap hrelation hliteral f
  use clause f relation (.text literal) false, clause f relation (.text literal) true
  refine ⟨hplain, hfolded, ?_⟩
  intro record t hrecord
  simp only [holds_clause_text hrecord, Bool.false_eq_true, ↓reduceIte]
  constructor
  · rintro rfl
    cases hrelation
    simp only [Relation.holdsOfTexts, bne_iff_ne]
    rintro hne rfl
    apply hne rfl
  · intro hne
    have hfinds : relation.holdsOfTexts t literal = true
        ↔ ∃ before after, op.Finds literal t before after :=
      Relation.holdsOfTexts_iff_finds hrelation hne
    refine ⟨hfinds, ?_, ?_⟩
    · intro hfree hholds
      obtain ⟨before, after, h⟩ := hfinds.mp hholds
      apply Relation.holdsOfTexts_lowercase hrelation hne h
      rcases hfree with rfl | hsigma
      · rw [h.2.1 (.inl rfl), h.2.2 (.inl rfl)]
        apply Text.keepsSigmas_nil_nil
      · apply Text.keepsSigmas_of_notMem hsigma
    · intro before after h
      constructor
      · apply Relation.holdsOfTexts_lowercase hrelation hne h
      · intro hcontains
        apply Relation.keepsSigmas_of_holdsOfTexts_lowercase hrelation hne hcontains h

/-- A capital sigma at the end of a text is found there without regard to case if it stands alone,
and not if it ends a word. -/
theorem holds_ignoreCase_wrap_of_sigma :
  let name : Field := ⟨"name".toList, .text⟩
  let sigma : Text := ['Σ']
  .endsWith ∈ [Operator.eq, .ne, .contains, .startsWith, .endsWith]
    ∧ isWrapped sigma.trim = false
    ∧ ∃ e e' : Expr, text.single name (Operator.endsWith.wrap sigma) = .ok e
      ∧ text.single name (Operator.ignoreCase.wrap (Operator.endsWith.wrap sigma)) = .ok e'
      ∧ e.holds (fun _ => .text "1 Σ".toList) = true
      ∧ e'.holds (fun _ => .text "1 Σ".toList) = true
      ∧ e.holds (fun _ => .text "ΟΔΟΣ".toList) = true
      ∧ e'.holds (fun _ => .text "ΟΔΟΣ".toList) = false
  := by
  intro name sigma
  have hop : .endsWith ∈ [Operator.eq, .ne, .contains, .startsWith, .endsWith] := by decide
  have hliteral : isWrapped sigma.trim = false := by decide
  obtain ⟨e, e', he, he', htexts⟩ := holds_ignoreCase_wrap hop hliteral name
  obtain ⟨hfinds, -, hkept⟩ := (htexts (fun _ => .text "1 Σ".toList) _ rfl).2 (by decide)
  obtain ⟨hfinds', -, hkept'⟩ := (htexts (fun _ => .text "ΟΔΟΣ".toList) _ rfl).2 (by decide)
  have hend : Operator.endsWith.Finds sigma "1 Σ".toList "1 ".toList [] :=
    ⟨rfl, by decide, fun _ => rfl⟩
  have hend' : Operator.endsWith.Finds sigma "ΟΔΟΣ".toList "ΟΔΟ".toList [] :=
    ⟨rfl, by decide, fun _ => rfl⟩
  have hkeeps : Text.KeepsSigmas "1 ".toList sigma [] := by decide
  have hloses : ¬ Text.KeepsSigmas "ΟΔΟ".toList sigma [] := by decide
  refine ⟨hop, hliteral, e, e', he, he', hfinds.mpr ⟨_, _, hend⟩, (hkept _ _ hend).1 hkeeps,
    hfinds'.mpr ⟨_, _, hend'⟩, ?_⟩
  apply Bool.eq_false_iff.mpr
  intro h
  apply hloses ((hkept' _ _ hend').2 (by decide) h)

/-- Not every text that ends with a literal does so without regard to case. -/
theorem not_forall_holds_ignoreCase_wrap :
  ¬ ∀ (op : Operator) (literal : Text) (f : Field) (e e' : Expr),
    op ∈ [.eq, .contains, .startsWith, .endsWith] → isWrapped literal.trim = false →
      text.single f (op.wrap literal) = .ok e →
        text.single f (Operator.ignoreCase.wrap (op.wrap literal)) = .ok e' →
          ∀ (record : Record) (t : Text), record f.name = .text t →
            e.holds record = true → e'.holds record = true
  := by
  intro h
  let name : Field := ⟨"name".toList, .text⟩
  let sigma : Text := ['Σ']
  have hliteral : isWrapped sigma.trim = false := by decide
  have hrelation : Operator.endsWith.textRelation? = some .endsWith := rfl
  obtain ⟨hplain, hfolded⟩ := single_text_wrap hrelation hliteral name
  have hholds := h .endsWith sigma name _ _ (by decide) hliteral hplain hfolded
    (fun _ => .text "ΟΔΟΣ".toList) _ rfl (by decide)
  have hloses : ¬ Text.KeepsSigmas "ΟΔΟ".toList sigma [] := by decide
  apply hloses
  apply Text.lowercase_suffix_iff.mp
  apply List.isSuffixOf_iff_suffix.mp hholds

end Dialect

end QueryFilter
