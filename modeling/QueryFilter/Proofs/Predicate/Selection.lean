import QueryFilter.Proofs.Predicate.IgnoreCase

/-!
# Members by text

In the loose mode a comparison of texts selects members.  It selects the declared ones for whose
names the same comparison of texts holds without regard to case, and holds of no other value.
-/

namespace QueryFilter.Dialect

open Wrapping

variable {op : Operator} {literal : Text} {f : Field} {record : Record}

/-- The expression for selected members holds of just the declared members that are kept. -/
theorem holds_select_iff {keep : Text → Bool} :
  (select f keep).holds record = true
    ↔ ∃ m ∈ f.members, record f.name = .member m ∧ keep m.lowercase = true
  := by
  simp only [select, clause, Expr.holds]
  cases hvalue : record f.name with
  | member name => simp [Clause.holds]
  | _ => simp [Clause.holds]

/-- A loose comparison keeps the members whose lowercase names stand in the relation of texts to the
lowercase literal. -/
theorem exists_compare_enumeration_text (hop : op ∈ [.contains, .startsWith, .endsWith]) :
  ∃ relation, op.textRelation? = some relation
    ∧ ∀ (f : Field) (literal : Text) (ignoreCase : Bool),
      (enumeration true).compare op f literal ignoreCase
        = .ok (select f fun name => relation.holdsOfTexts name literal.lowercase)
  := by
  simp only [List.mem_cons, List.not_mem_nil, or_false] at hop
  rcases hop with rfl | rfl | rfl
  · exact ⟨.contains, rfl, fun _ _ _ => rfl⟩
  · exact ⟨.startsWith, rfl, fun _ _ _ => rfl⟩
  · exact ⟨.endsWith, rfl, fun _ _ _ => rfl⟩

/-- A loose comparison makes an expression of any literal, and as a whole value if no operator wraps
the literal.  It holds of a declared member exactly if the comparison of texts with the literal
holds of the name of the member without regard to case, and of no other value. -/
theorem holds_enumeration_text (hop : op ∈ [.contains, .startsWith, .endsWith]) (f g : Field)
    (literal : Text) (ignoreCase : Bool) :
  ∃ e e' : Expr, (enumeration true).compare op f literal ignoreCase = .ok e
    ∧ text.compare op g literal true = .ok e'
    ∧ (isWrapped literal.trim = false →
      (enumeration true).single f (op.wrap literal) = .ok e
        ∧ text.single g (Operator.ignoreCase.wrap (op.wrap literal)) = .ok e')
    ∧ (∀ m ∈ f.members, ∀ record record' : Record, record f.name = .member m →
      record' g.name = .text m → (e.holds record = true ↔ e'.holds record' = true))
    ∧ ∀ record : Record, (∀ m ∈ f.members, record f.name ≠ .member m) → e.holds record = false
  := by
  obtain ⟨relation, hrelation, hcompare⟩ := exists_compare_enumeration_text hop
  use select f fun name => relation.holdsOfTexts name literal.lowercase,
    clause g relation (.text literal) true, hcompare f literal ignoreCase,
    compare_text hrelation g literal true
  refine ⟨?_, ?_, ?_⟩
  · intro hliteral
    obtain ⟨hsupported, hcomparison⟩ := supported_of_textRelation? hrelation
    have hparse : (enumeration true).parse (op.wrap literal) = .ok (.leaf op literal false) :=
      parse_wrap hcomparison hsupported hliteral
    constructor
    · rw [single_eq_build hparse, build, leaf, if_pos hcomparison, hcompare]
    · apply (single_text_wrap hrelation hliteral g).2
  · intro m hm record record' hrecord hrecord'
    rw [holds_select_iff, holds_clause_text hrecord', if_pos rfl]
    constructor
    · rintro ⟨m', -, hm', hholds⟩
      cases hrecord.symm.trans hm'
      apply hholds
    · intro hholds
      use m
  · intro record hrecord
    apply Bool.eq_false_iff.mpr
    intro hholds
    obtain ⟨m, hm, hvalue, -⟩ := holds_select_iff.mp hholds
    apply hrecord m hm hvalue

/-- A name that is declared twice is selected by its end in lower case, and the same name in lower
case is not, since it is not declared. -/
theorem holds_enumeration_text_of_sigma :
  let road : Field := ⟨"road".toList, .enumeration ["ΔΟΣ".toList, "ΔΟΣ".toList, "Weg".toList]⟩
  let name : Field := ⟨"name".toList, .text⟩
  let literal : Text := "οΣ".toList
  .endsWith ∈ [Operator.contains, .startsWith, .endsWith]
    ∧ isWrapped literal.trim = false
    ∧ ∃ e e' : Expr, (enumeration true).single road (Operator.endsWith.wrap literal) = .ok e
      ∧ text.single name (Operator.ignoreCase.wrap (Operator.endsWith.wrap literal)) = .ok e'
      ∧ e'.holds (fun _ => .text "ΔΟΣ".toList) = true
      ∧ e.holds (fun _ => .member "ΔΟΣ".toList) = true
      ∧ e.holds (fun _ => .member "δος".toList) = false
  := by
  intro road name literal
  have hop : .endsWith ∈ [Operator.contains, .startsWith, .endsWith] := by decide
  have hliteral : isWrapped literal.trim = false := by decide
  obtain ⟨e, e', -, he', hsingle, hdeclared, hother⟩ :=
    holds_enumeration_text hop road name literal false
  obtain ⟨hroad, hname⟩ := hsingle hliteral
  have hends : e'.holds (fun _ => .text "ΔΟΣ".toList) = true := by
    cases he'
    decide +kernel
  refine ⟨hop, hliteral, e, e', hroad, hname, hends, ?_, ?_⟩
  · apply (hdeclared "ΔΟΣ".toList (by decide) _ _ rfl rfl).mpr hends
  · apply hother
    rintro m hm ⟨⟩
    revert hm
    decide

end QueryFilter.Dialect
