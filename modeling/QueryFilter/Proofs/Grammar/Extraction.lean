import QueryFilter.Proofs.Grammar.Wrapping
import QueryFilter.Proofs.Text.Slice

/-!
# Splitting wrapped values

`Wrapping.extract` undoes `Operator.wrap`: it takes a candidate off a value exactly if the value,
but for the blanks around it, is that operator applied to an operand.  Since no text is opened by
two operators, neither the order of the candidates nor their repetition matters.  The operand stands
between two offsets that the sizes of the token and of the text give, and no character is divided
there.
-/

namespace QueryFilter

namespace Operator

variable {a b op : Operator} {t operand : Text}

theorem opens_iff :
  op.opens t = true ↔ ∃ rest, t = op.opening ++ rest
  := by
  rw [opens, List.isPrefixOf_iff_prefix]
  simp only [List.IsPrefix, eq_comm]

/-- A text is opened by one operator at most. -/
theorem eq_of_opens (ha : a.opens t = true) (hb : b.opens t = true) :
  a = b
  := by
  obtain ⟨s, rfl⟩ := opens_iff.mp ha
  obtain ⟨s', heq⟩ := opens_iff.mp hb
  apply (opening_append_inj heq).1

/-! ### Offsets -/

theorem size_wrap (op : Operator) (operand : Text) :
  Utf8.size (op.wrap operand)
    = Utf8.size op.token + Utf8.size ['('] + Utf8.size operand + Utf8.size [')']
  := by simp only [wrap, opening, Utf8.size_append]

/-- A text is wrapped if it is opened and ends with a parenthesis, which is another one than that at
its beginning. -/
theorem wraps_iff_size :
  op.wraps t = true
    ↔ op.opens t = true ∧ Utf8.size op.token + Utf8.size ['('] < Utf8.size t
      ∧ t.getLast? = some ')'
  := by
  have hclose : 0 < Utf8.size [')'] := by decide
  constructor
  · intro h
    obtain ⟨operand, rfl⟩ := wraps_iff.mp h
    refine ⟨?_, ?_, ?_⟩
    · apply opens_iff.mpr
      use operand ++ [')']
      rw [wrap, List.append_assoc]
    · rw [size_wrap]
      omega
    · simp [wrap]
  · rintro ⟨hopens, hsize, hlast⟩
    obtain ⟨rest, rfl⟩ := opens_iff.mp hopens
    rw [Utf8.size_append, opening, Utf8.size_append] at hsize
    have hrest : rest ≠ [] := by
      rintro rfl
      apply Nat.lt_irrefl _ hsize
    rw [List.getLast?_append_of_ne_nil _ hrest] at hlast
    obtain ⟨operand, rfl⟩ := List.getLast?_eq_some_iff.mp hlast
    apply wraps_iff.mpr
    use operand
    rw [wrap, List.append_assoc]

/-- The operand stands between the offsets after the first parenthesis and before the last one. -/
theorem slice?_wrap (op : Operator) (operand : Text) :
  Utf8.slice? (op.wrap operand) (Utf8.size op.token + Utf8.size ['('])
      (Utf8.size (op.wrap operand) - Utf8.size [')'])
    = some operand
  := by
  apply Utf8.slice?_eq_some_iff.mpr
  use op.opening, [')'], rfl
  rw [size_wrap, Nat.add_sub_cancel, Utf8.size_append, opening, Utf8.size_append]
  use rfl

end Operator

namespace Wrapping

variable {candidates candidates' : List Operator} {fallback op : Operator} {t value : Text}

/-- Neither the order of the candidates nor their repetition matters. -/
theorem findWrapper_congr (h : ∀ op, op ∈ candidates ↔ op ∈ candidates') :
  findWrapper candidates t = findWrapper candidates' t
  := by
  apply Option.ext
  intro op
  rw [findWrapper_eq_some_iff, findWrapper_eq_some_iff, h]

/-- A value is split unless it is blank or there are no candidates: at a candidate around it, or
else it is taken whole by the fallback operator. -/
theorem extract_eq_ok_iff {u : Unwrapped} :
  extract value candidates fallback = .ok u
    ↔ value.isBlank = false ∧ candidates ≠ []
      ∧ ((u.explicit = true ∧ u.operator ∈ candidates ∧ value.trim = u.operator.wrap u.operand)
        ∨ (u = ⟨fallback, value.trim, false⟩ ∧ ∀ op ∈ candidates, op.wraps value.trim = false))
  := by
  cases hvalue : value.isBlank with
  | true => simp [extract_of_isBlank hvalue]
  | false =>
      by_cases hcandidates : candidates = []
      · simp [extract, Text.isEmpty_trim, hvalue, hcandidates]
      · rw [extract_eq hvalue hcandidates]
        constructor
        · intro h
          use rfl, hcandidates
          split at h
          · rename_i hfound
            cases h
            left
            use rfl
            apply findWrapped_eq_some_iff.mp hfound
          · rename_i hfound
            cases h
            right
            use rfl
            apply findWrapped_eq_none_iff.mp hfound
        · rintro ⟨-, -, ⟨hexplicit, hmem, hwrap⟩ | ⟨rfl, hnone⟩⟩
          · obtain ⟨op, operand, explicit⟩ := u
            obtain rfl : explicit = true := hexplicit
            rw [findWrapped_eq_some_iff.mpr ⟨hmem, hwrap⟩]
          · rw [findWrapped_eq_none_iff.mpr hnone]

/-- An operator is taken off again if it is a candidate, and nothing else is; which one it is does
not depend on how the candidates are listed.  What is left is cut out between two offsets. -/
theorem extract_inverts_wrap :
  (∀ (t : Text) (a b : Operator), a.opens t = true → b.opens t = true → a = b)
    ∧ (∀ (t : Text) (candidates candidates' : List Operator),
        (∀ op, op ∈ candidates ↔ op ∈ candidates') →
        findWrapper candidates t = findWrapper candidates' t)
    ∧ (∀ (candidates : List Operator) (fallback op : Operator) (operand : Text),
        op ∈ candidates →
        extract (op.wrap operand) candidates fallback = .ok ⟨op, operand, true⟩)
    ∧ (∀ (value : Text) (candidates : List Operator) (fallback : Operator) (u : Unwrapped),
        extract value candidates fallback = .ok u ↔ value.isBlank = false ∧ candidates ≠ []
          ∧ ((u.explicit = true ∧ u.operator ∈ candidates
              ∧ value.trim = u.operator.wrap u.operand)
            ∨ (u = ⟨fallback, value.trim, false⟩
              ∧ ∀ op ∈ candidates, op.wraps value.trim = false)))
    ∧ ∀ (t : Text) (op : Operator),
        (op.wraps t = true ↔ op.opens t = true
          ∧ Utf8.size op.token + Utf8.size ['('] < Utf8.size t ∧ t.getLast? = some ')')
        ∧ (op.wraps t = true → Utf8.size [')'] ≤ Utf8.size t
          ∧ ∃ operand, t = op.wrap operand
            ∧ Utf8.slice? t (Utf8.size op.token + Utf8.size ['(']) (Utf8.size t - Utf8.size [')'])
              = some operand)
  := by
  refine ⟨fun _ _ _ => Operator.eq_of_opens, fun _ _ _ => findWrapper_congr, ?_,
    fun _ _ _ _ => extract_eq_ok_iff, ?_⟩
  · intro candidates fallback op operand hop
    apply extract_eq_ok_iff.mpr
    use op.isBlank_wrap operand, List.ne_nil_of_mem hop
    left
    use rfl, hop, op.trim_wrap operand
  · intro t op
    use Operator.wraps_iff_size
    intro h
    obtain ⟨operand, rfl⟩ := Operator.wraps_iff.mp h
    constructor
    · rw [Operator.size_wrap]
      apply Nat.le_add_left
    · use operand, rfl
      apply Operator.slice?_wrap

/-- One token is the beginning of another, and the operand has blanks, parentheses and a letter of
two bytes. -/
theorem extract_inverts_wrap_of_gte :
  let operand := " é(5) ".toList
  let value := "gte( é(5) )".toList
  (∀ op : Operator, op.opens value = true → op = .gte)
    ∧ findWrapper [.gt, .gte] value = findWrapper [.gte, .gt, .gte] value
    ∧ extract value [.gt, .gte] .eq = .ok ⟨.gte, operand, true⟩
    ∧ extract value [.gt] .eq = .ok ⟨.eq, value, false⟩
    ∧ Utf8.slice? value 4 11 = some operand
  := by
  intro operand value
  have hvalue : value = Operator.gte.wrap operand := by decide
  obtain ⟨hopens, hfind, hwrap, hextract, hslice⟩ := extract_inverts_wrap
  refine ⟨?_, ?_, ?_, ?_, ?_⟩
  · intro op hop
    apply hopens value op .gte hop
    decide
  · apply hfind
    simp
  · rw [hvalue]
    apply hwrap
    decide
  · apply (hextract _ _ _ _).mpr
    refine ⟨by decide, by decide, ?_⟩
    right
    exact ⟨rfl, by decide⟩
  · have hwraps : Operator.gte.wraps value = true := by decide
    obtain ⟨-, operand', hoperand, hcut⟩ := (hslice value .gte).2 hwraps
    obtain ⟨-, rfl⟩ := Operator.wrap_inj.mp (hvalue.symm.trans hoperand)
    apply hcut

end Wrapping

end QueryFilter
