import Mathlib.Data.List.Basic
import QueryFilter.Grammar.Wrapping
import QueryFilter.Proofs.Text.Basic
import QueryFilter.Proofs.Text.Blank

/-!
# Wrapped values

A text is wrapped by one operator at most, and in one way: no token holds a parenthesis and no two
tokens are equal, so `op.wrap` is injective in the operator and the operand at once.  Hence the
order in which operators are looked for never matters, and `Wrapping.findWrapped`,
`Wrapping.findWrapper` and `Wrapping.extract` are characterised by what they find.
-/

namespace QueryFilter

namespace Operator

theorem mem_all (op : Operator) :
  op ∈ all
  := by cases op <;> decide

/-- Different operators have different tokens. -/
theorem token_injective :
  Function.Injective token
  := by
  have h : ∀ a ∈ all, ∀ b ∈ all, a.token = b.token → a = b := by decide
  intro a b
  apply h a a.mem_all b b.mem_all

theorem paren_notMem_token (op : Operator) :
  '(' ∉ op.token
  := by cases op <;> decide

/-- A token is not empty, and its first character is not blank. -/
theorem exists_token_eq_cons (op : Operator) :
  ∃ c rest, op.token = c :: rest ∧ Text.isBlankChar c = false
  := by cases op <;> exact ⟨_, _, rfl, by decide⟩

/-- A text is opened by one operator at most: its token stands before the first parenthesis. -/
theorem opening_append_inj {a b : Operator} {s t : Text} (h : a.opening ++ s = b.opening ++ t) :
  a = b ∧ s = t
  := by
  simp only [opening, List.append_assoc, List.singleton_append] at h
  obtain ⟨htoken, hst⟩ := (Text.append_cons_inj a.paren_notMem_token b.paren_notMem_token).mp h
  use token_injective htoken

/-- A text is wrapped by one operator at most, and around one operand. -/
theorem wrap_inj {a b : Operator} {s t : Text} :
  a.wrap s = b.wrap t ↔ a = b ∧ s = t
  := by
  constructor
  · intro h
    simp only [wrap, List.append_assoc] at h
    obtain ⟨rfl, hst⟩ := opening_append_inj h
    use rfl
    apply List.append_cancel_right hst
  · rintro ⟨rfl, rfl⟩
    rfl

/-- An operator wraps a text exactly if the text is the operator applied to an operand. -/
theorem wraps_iff {op : Operator} {t : Text} :
  op.wraps t = true ↔ ∃ operand, t = op.wrap operand
  := by simp only [wraps, Option.isSome_iff_exists, operand?_eq_some_iff]

/-- Neither end of a wrapped text is blank. -/
theorem isTrimmed_wrap (op : Operator) (operand : Text) :
  (op.wrap operand).IsTrimmed
  := by
  obtain ⟨c, rest, htoken, hc⟩ := op.exists_token_eq_cons
  constructor
  · intro c' hc'
    simp only [wrap, opening, htoken, List.cons_append, List.head?_cons, Option.mem_some] at hc'
    rw [← hc', hc]
  · intro c' hc'
    simp only [wrap, List.getLast?_append, List.getLast?_singleton, Option.some_or,
      Option.mem_some] at hc'
    rw [← hc']
    decide

@[simp]
theorem trim_wrap (op : Operator) (operand : Text) :
  (op.wrap operand).trim = op.wrap operand
  := (op.isTrimmed_wrap operand).trim_eq

@[simp]
theorem isBlank_wrap (op : Operator) (operand : Text) :
  (op.wrap operand).isBlank = false
  := by
  apply Text.isBlank_eq_false_of_mem (c := ')')
  · simp [wrap]
  · decide

end Operator

namespace Wrapping

variable {candidates : List Operator} {op : Operator} {t operand : Text}

/-! ### Looking for an operator -/

/-- What is found is a candidate that wraps the text; which one is decided by the text alone. -/
theorem findWrapped_eq_some_iff :
  findWrapped candidates t = some (op, operand) ↔ op ∈ candidates ∧ t = op.wrap operand
  := by
  constructor
  · intro h
    obtain ⟨op', hmem, h'⟩ := List.exists_of_findSome?_eq_some h
    obtain ⟨operand', hoperand, heq⟩ := Option.map_eq_some_iff.mp h'
    cases heq
    use hmem
    apply Operator.operand?_eq_some_iff.mp hoperand
  · rintro ⟨hmem, rfl⟩
    -- Another candidate cannot come first, since it does not wrap the text.
    have hsome : (findWrapped candidates (op.wrap operand)).isSome = true := by
      apply List.findSome?_isSome_iff.mpr
      use op, hmem
      simp
    obtain ⟨⟨op', operand'⟩, hfound⟩ := Option.isSome_iff_exists.mp hsome
    obtain ⟨op'', -, h'⟩ := List.exists_of_findSome?_eq_some hfound
    obtain ⟨operand'', hoperand, heq⟩ := Option.map_eq_some_iff.mp h'
    cases heq
    obtain ⟨rfl, rfl⟩ := Operator.wrap_inj.mp (Operator.operand?_eq_some_iff.mp hoperand)
    apply hfound

theorem findWrapped_eq_none_iff :
  findWrapped candidates t = none ↔ ∀ op ∈ candidates, op.wraps t = false
  := by
  rw [findWrapped, List.findSome?_eq_none_iff]
  simp [Operator.wraps]

theorem findWrapper_eq_map (candidates : List Operator) (t : Text) :
  findWrapper candidates t = (findWrapped candidates t).map Prod.fst
  := by
  induction candidates with
  | nil => rfl
  | cons op rest ih =>
      simp only [findWrapper, findWrapped, Operator.wraps] at ih
      simp only [findWrapper, findWrapped, Operator.wraps, List.find?_cons, List.findSome?_cons, ih]
      cases op.operand? t with
      | none => rfl
      | some operand => rfl

theorem findWrapper_eq_some_iff :
  findWrapper candidates t = some op ↔ op ∈ candidates ∧ ∃ operand, t = op.wrap operand
  := by
  rw [findWrapper_eq_map, Option.map_eq_some_iff]
  constructor
  · rintro ⟨⟨op', operand⟩, hfound, rfl⟩
    obtain ⟨hmem, htext⟩ := findWrapped_eq_some_iff.mp hfound
    use hmem, operand
  · rintro ⟨hmem, operand, htext⟩
    use (op, operand), findWrapped_eq_some_iff.mpr ⟨hmem, htext⟩

theorem findWrapper_eq_none_iff :
  findWrapper candidates t = none ↔ ∀ op ∈ candidates, op.wraps t = false
  := by rw [findWrapper_eq_map, Option.map_eq_none_iff, findWrapped_eq_none_iff]

/-- A wrapped text is found to be wrapped by no operator but its own. -/
theorem findWrapper_wrap_eq_none (h : op ∉ candidates) :
  findWrapper candidates (op.wrap operand) = none
  := by
  apply findWrapper_eq_none_iff.mpr
  intro op' hmem
  apply Bool.eq_false_iff.mpr
  intro hwraps
  obtain ⟨operand', heq⟩ := Operator.wraps_iff.mp hwraps
  obtain ⟨rfl, -⟩ := Operator.wrap_inj.mp heq
  apply h hmem

/-! ### Splitting a value -/

variable {fallback : Operator} {value : Text}

/-- A value that is not blank is split at the operator around it, if that is a candidate, and is
taken whole by the fallback operator otherwise. -/
theorem extract_eq (hvalue : value.isBlank = false) (hcandidates : candidates ≠ []) :
  extract value candidates fallback
    = .ok (match findWrapped candidates value.trim with
      | some (op, operand) => ⟨op, operand, true⟩
      | none => ⟨fallback, value.trim, false⟩)
  := by
  have hempty : candidates.isEmpty = false := List.isEmpty_eq_false_iff.mpr hcandidates
  simp only [extract, Text.isEmpty_trim, hvalue, hempty, Bool.false_eq_true, ↓reduceIte]
  cases findWrapped candidates value.trim with
  | none => rfl
  | some found => rfl

theorem extract_of_isBlank (hvalue : value.isBlank = true) :
  extract value candidates fallback = .error .blankValue
  := by simp only [extract, Text.isEmpty_trim, hvalue, ↓reduceIte]

/-! ### Removing all operators -/

theorem strip_of_eq_some (h : findWrapped Operator.all value.trim = some (op, operand)) :
  strip value = strip operand
  := by
  rw [strip]
  split
  · rename_i hfound
    rw [h] at hfound
    cases hfound
    rfl
  · rename_i hfound
    rw [h] at hfound
    cases hfound

theorem strip_of_eq_none (h : findWrapped Operator.all value.trim = none) :
  strip value = value.trim
  := by
  rw [strip]
  split
  · rename_i hfound
    rw [h] at hfound
    cases hfound
  · rfl

/-- What is left of a wrapped value is what is left of its operand. -/
theorem strip_wrap (op : Operator) (operand : Text) :
  strip (op.wrap operand) = strip operand
  := by
  have hfound : findWrapped Operator.all (op.wrap operand).trim = some (op, operand) := by
    rw [Operator.trim_wrap]
    apply findWrapped_eq_some_iff.mpr
    use op.mem_all
  apply strip_of_eq_some hfound

/-! ### Blank values -/

/-- Nothing is left of a blank value without its operators. -/
theorem strip_of_isBlank (hvalue : value.isBlank = true) :
  strip value = []
  := by
  have htrim := Text.trim_eq_nil_iff.mpr hvalue
  rw [strip_of_eq_none (by rw [htrim]; rfl), htrim]

/-- The parentheses of a blank value are not checked. -/
theorem validate_of_isBlank (hvalue : value.isBlank = true) :
  validate value = .ok ()
  := by
  rw [validate, opensOperator, Text.trim_eq_nil_iff.mpr hvalue]
  rfl

end Wrapping

end QueryFilter
