import QueryFilter.Proofs.Grammar.Canonical

/-!
# Failures of single values

A single value fails because it cannot be read, or because its literal makes no clause:
`Failure.OfGrammar` and `Failure.OfLiteral` tell the two apart.  A dialect is lawful when it rejects
the comparisons that it does not support, and makes of each of the others a clause unless the
literal fails.  Every dialect of a kind of fields is, so a value that is read fails for its literal
only.
-/

namespace QueryFilter

namespace Failure

/-- A value cannot be read as one of a kind. -/
inductive OfGrammar (kind : String) : Failure → Prop where
  | blankValue : OfGrammar kind .blankValue
  | tooDeep (value : Text) : OfGrammar kind (.tooDeep value)
  | nestedConnective (op : Operator) (value : Text) : OfGrammar kind (.nestedConnective op value)
  | misplacedNot (value : Text) : OfGrammar kind (.misplacedNot value)
  | missingOperand (op : Operator) : OfGrammar kind (.missingOperand op)
  | wrappedOperator (op nested : Operator) : OfGrammar kind (.wrappedOperator op nested)
  | unsupported (op : Operator) : OfGrammar kind (.unsupported op kind)

/-- A literal is no number, no date, no pattern or no name of a member. -/
inductive OfLiteral : Failure → Prop where
  | invalidNumber (literal : Text) : OfLiteral (.invalidNumber literal)
  | invalidDate (literal : Text) : OfLiteral (.invalidDate literal)
  | invalidPattern : OfLiteral .invalidPattern
  | unknownMember (literal field : Text) : OfLiteral (.unknownMember literal field)
  | ambiguousMember (literal field : Text) : OfLiteral (.ambiguousMember literal field)

theorem OfGrammar.kind_ne {kind : String} {failure : Failure} (h : failure.OfGrammar kind) :
  failure.kind ≠ .illegalOperator
  := by cases h <;> nofun

theorem OfLiteral.kind_eq {failure : Failure} (h : failure.OfLiteral) :
  failure.kind = .invalidInput
  := by cases h <;> rfl

end Failure

/-- What cannot be read under some wrappers, whatever stands around it, fails for its grammar. -/
theorem Node.ofGrammar_of_parseWithin {kind : String} {supported : List Operator} {levels : Nat}
    {value : Text} {parent : Option Operator} {folded : Bool} {failure : Failure}
    (h : parseWithin kind supported levels value parent folded = .error failure) :
  failure.OfGrammar kind
  := by
  induction levels generalizing value parent folded with
  | zero =>
      cases h
      apply Failure.OfGrammar.tooDeep
  | succ levels ih =>
      cases Wrapping.layer value with
      | blank hvalue =>
          rw [parseWithin_of_isBlank hvalue] at h
          cases h
          apply Failure.OfGrammar.blankValue
      | literal hvalue hliteral =>
          rw [parseWithin_of_not_isWrapped hvalue hliteral] at h
          cases h
      | connective hop hvalue =>
          rw [parseWithin_of_connective hvalue hop] at h
          cases h
          apply Failure.OfGrammar.nestedConnective
      | not hvalue =>
          rw [parseWithin_of_not hvalue] at h
          split at h
          · cases h
            apply Failure.OfGrammar.misplacedNot
          · split at h
            · cases h
              apply Failure.OfGrammar.missingOperand
            · apply ih (Except.map_eq_error_iff.mp h)
      | ignoreCase hvalue =>
          rw [parseWithin_of_ignoreCase hvalue] at h
          split at h
          · cases h
            apply Failure.OfGrammar.missingOperand
          · apply ih (Except.map_eq_error_iff.mp h)
      | @comparison op operand hop hvalue =>
          by_cases hsupported : op ∈ supported
          · rw [parseWithin_of_supported hvalue hop hsupported, parseLeaf] at h
            split at h
            · cases h
              apply Failure.OfGrammar.wrappedOperator
            · cases h
          · rw [parseWithin_of_unsupported hvalue hop hsupported] at h
            cases h
            apply Failure.OfGrammar.unsupported

/-! ### Literals -/

theorem Number.ofLiteral_of_parse {literal : Text} {failure : Failure}
    (h : parse literal = .error failure) :
  failure.OfLiteral
  := by
  simp only [parse] at h
  split at h
  · cases h
  · split at h
    · cases h
    · cases h
      apply Failure.OfLiteral.invalidNumber

theorem Timestamp.ofLiteral_of_parse {literal : Text} {failure : Failure}
    (h : parse literal = .error failure) :
  failure.OfLiteral
  := by
  simp only [parse] at h
  split at h
  · cases h
  · cases h
    apply Failure.OfLiteral.invalidDate

namespace Dialect

variable {d : Dialect} {f : Field} {failure : Failure}

theorem ofLiteral_of_member {literal : Text} (h : member f literal = .error failure) :
  failure.OfLiteral
  := by
  simp only [member] at h
  split at h
  · cases h
  · split at h
    · cases h
    · cases h
      apply Failure.OfLiteral.unknownMember
    · cases h
      apply Failure.OfLiteral.ambiguousMember

/-! ### Lawful dialects -/

/-- The dialect rejects the comparisons that it does not support, and no others: those fail for
their literal only. -/
structure Lawful (d : Dialect) : Prop where
  reject_of_notMem {op : Operator} (hop : op.isComparison = true) (hsupported : op ∉ d.supported)
    (f : Field) (literal : Text) (ignoreCase : Bool) :
    d.compare op f literal ignoreCase = reject d.kind op
  ofLiteral_of_mem {op : Operator} (hsupported : op ∈ d.supported) {f : Field} {literal : Text}
    {ignoreCase : Bool} {failure : Failure}
    (h : d.compare op f literal ignoreCase = .error failure) : failure.OfLiteral

theorem lawful_text :
  text.Lawful
  where
  reject_of_notMem {op} hop hsupported f literal ignoreCase := by
    cases op
    case gt | gte | lt | lte => rfl
    case and | or | not | ignoreCase => cases hop
    all_goals exact absurd (by decide) hsupported
  ofLiteral_of_mem {op} hsupported f literal ignoreCase failure h := by
    cases op
    case eq | ne | contains | startsWith | endsWith => cases h
    case «matches» =>
      simp only [text] at h
      split at h
      · cases h
      · cases h
        apply Failure.OfLiteral.invalidPattern
    all_goals exact absurd hsupported (by decide)

theorem lawful_number :
  number.Lawful
  where
  reject_of_notMem {op} hop hsupported f literal ignoreCase := by
    cases op
    case contains | startsWith | endsWith | «matches» => rfl
    case and | or | not | ignoreCase => cases hop
    all_goals exact absurd (by decide) hsupported
  ofLiteral_of_mem {op} hsupported f literal ignoreCase failure h := by
    cases op
    case eq | ne | gt | gte | lt | lte =>
      apply Number.ofLiteral_of_parse (Except.map_eq_error_iff.mp h)
    all_goals exact absurd hsupported (by decide)

theorem lawful_enumeration (loose : Bool) :
  (enumeration loose).Lawful
  where
  reject_of_notMem {op} hop hsupported f literal ignoreCase := by
    cases op
    case gt | gte | lt | lte => rfl
    case contains | startsWith | endsWith | «matches» =>
      cases loose with
      | false => rfl
      | true => exact absurd (by decide) hsupported
    case eq | ne => cases loose <;> exact absurd (by decide) hsupported
    all_goals cases hop
  ofLiteral_of_mem {op} hsupported f literal ignoreCase failure h := by
    cases op
    case eq | ne => apply ofLiteral_of_member (Except.map_eq_error_iff.mp h)
    case contains | startsWith | endsWith =>
      cases loose with
      | false => exact absurd hsupported (by decide)
      | true => cases h
    case «matches» =>
      cases loose with
      | false => exact absurd hsupported (by decide)
      | true =>
          simp only [enumeration, ↓reduceIte] at h
          split at h
          · cases h
          · cases h
            apply Failure.OfLiteral.invalidPattern
    all_goals cases loose <;> exact absurd hsupported (by decide)

theorem lawful_date :
  date.Lawful
  where
  reject_of_notMem {op} hop hsupported f literal ignoreCase := by
    cases op
    case eq => exact absurd (by decide) hsupported
    case and | or | not | ignoreCase => cases hop
    all_goals rfl
  ofLiteral_of_mem {op} hsupported f literal ignoreCase failure h := by
    obtain rfl := List.eq_of_mem_singleton hsupported
    apply Timestamp.ofLiteral_of_parse (Except.map_eq_error_iff.mp h)

/-- The dialects of the kinds of fields are lawful, whether in the loose mode or not. -/
theorem lawful_of_ofKind? {loose : Bool} {kind : FieldKind} (h : ofKind? loose kind = some d) :
  d.Lawful
  := by
  rcases eq_of_ofKind? h with rfl | rfl | rfl | rfl
  · apply lawful_text
  · apply lawful_number
  · apply lawful_date
  · apply lawful_enumeration

/-! ### Failures of a value -/

/-- Building an expression fails just if it does for the comparison under the `not` and `ci`. -/
theorem build_nest_eq_error_iff {negations folds : Nat} {op : Operator} {literal : Text}
    {folded : Bool} :
  d.build f (Node.nest negations folds op literal folded) = .error failure
    ↔ d.leaf op f literal folded = .error failure
  := by
  induction negations with
  | zero =>
      induction folds with
      | zero => rw [Node.nest_zero_zero, build]
      | succ folds ih => rw [Node.nest_zero_succ, build, ih]
  | succ negations ih => rw [Node.nest_succ, build, Except.map_eq_error_iff, ih]

/-- Once a value has been read, it fails for the comparison under the `not` and `ci`, which is a
supported one or equality. -/
theorem exists_compare_of_build {value : Text} {n : Node} (hn : d.parse value = .ok n)
    (h : d.build f n = .error failure) :
  ∃ (op : Operator) (literal : Text) (ignoreCase : Bool),
    (op ∈ d.supported ∨ op = .eq) ∧ d.compare op f literal ignoreCase = .error failure
  := by
  obtain ⟨a, b, op, literal, -, -, hsupported, hop, -, rfl⟩ := Node.exists_nest_of_parseWithin hn
  rw [build_nest_eq_error_iff, leaf, if_pos hop] at h
  exact ⟨op, literal, _, hsupported, h⟩

/-- A comparison of a lawful dialect that supports equality fails for its literal only, if it is a
supported one or equality. -/
theorem Lawful.ofLiteral_of_compare (hd : d.Lawful) (heq : .eq ∈ d.supported) {op : Operator}
    (hop : op ∈ d.supported ∨ op = .eq) {literal : Text} {ignoreCase : Bool}
    (h : d.compare op f literal ignoreCase = .error failure) :
  failure.OfLiteral
  := by
  rcases hop with hsupported | rfl
  · apply hd.ofLiteral_of_mem hsupported h
  · apply hd.ofLiteral_of_mem heq h

/-- A value cannot be read, or it fails for its comparison. -/
theorem exists_compare_of_single {value : Text} (h : d.single f value = .error failure) :
  failure.OfGrammar d.kind
    ∨ ∃ (op : Operator) (literal : Text) (ignoreCase : Bool),
      (op ∈ d.supported ∨ op = .eq) ∧ d.compare op f literal ignoreCase = .error failure
  := by
  rw [single] at h
  split at h
  · rename_i n hn
    right
    apply exists_compare_of_build hn h
  · rename_i hn
    cases h
    left
    apply Node.ofGrammar_of_parseWithin hn

/-- A lawful dialect reports a comparison as one that is not supported exactly if it does not
support it. -/
theorem Lawful.leaf_unsupported_iff (hd : d.Lawful) {op : Operator} {literal : Text}
    {ignoreCase : Bool} :
  (∃ failure, d.leaf op f literal ignoreCase = .error failure
      ∧ failure.kind = .unsupportedOperator)
    ↔ op.isComparison = true ∧ op ∉ d.supported
  := by
  rw [leaf]
  by_cases hop : op.isComparison = true
  · rw [if_pos hop]
    constructor
    · rintro ⟨failure, h, hkind⟩
      use hop
      intro hsupported
      rw [(hd.ofLiteral_of_mem hsupported h).kind_eq] at hkind
      cases hkind
    · rintro ⟨-, hsupported⟩
      use .unsupported op d.kind, hd.reject_of_notMem hop hsupported f literal ignoreCase
      rfl
  · rw [if_neg hop]
    constructor
    · rintro ⟨failure, ⟨⟩, ⟨⟩⟩
    · rintro ⟨hop', -⟩
      cases hop hop'

end Dialect

end QueryFilter
