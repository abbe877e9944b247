import Mathlib.Data.List.Infix
import QueryFilter.Text.Lowercase

/-!
# Lower case in context

The lowercase form of a part of a text depends on what stands around it in one way only: a capital
sigma goes to the final sigma where it ends a word, and to the medial one elsewhere.  The length of
the form does not depend on it.  So the lowercase form of a text begins with that of its first part,
ends with that of its last part, or contains that of a part between, where all capital sigmas of the
part end words exactly if they do in the part alone.
-/

namespace QueryFilter.Text

variable {before before' after after' needle t : Text}

/-- A needle occurs in a text exactly if it is a contiguous part of it. -/
theorem occursIn_iff :
  needle.occursIn t = true ↔ needle <:+: t
  := by
  induction t with
  | nil => rw [occursIn, List.isEmpty_iff, List.infix_nil]
  | cons c rest ih => rw [occursIn, Bool.or_eq_true, List.isPrefixOf_iff_prefix, ih,
      List.infix_cons_iff]

/-! ### Parts of a text -/

/-- The lowercase form of a part of a text that `before` precedes, read backwards, and `after`
follows. -/
def lowercaseWithin (before : Text) : Text → Text → Text
  | [], _ => []
  | c :: rest, after =>
    lowercaseAt before c (rest ++ after) ++ lowercaseWithin (c :: before) rest after

theorem lowercaseFrom_append (before s t : Text) :
  lowercaseFrom before (s ++ t)
    = lowercaseWithin before s t ++ lowercaseFrom (s.reverse ++ before) t
  := by
  induction s generalizing before with
  | nil => rfl
  | cons c rest ih =>
      rw [List.cons_append, lowercaseFrom, ih, lowercaseWithin, List.append_assoc,
        List.reverse_cons, List.append_assoc]
      rfl

theorem lowercaseFrom_eq (before t : Text) :
  lowercaseFrom before t = lowercaseWithin before t []
  := by
  have happend := lowercaseFrom_append before t []
  rw [List.append_nil] at happend
  rw [happend, lowercaseFrom, List.append_nil]

theorem length_lowercaseAt (before before' : Text) (c : Char) (after after' : Text) :
  (lowercaseAt before c after).length = (lowercaseAt before' c after').length
  := by
  rw [lowercaseAt, lowercaseAt]
  split
  · rfl
  · rfl

/-- The length of a lowercase form does not depend on what stands around it. -/
theorem length_lowercaseWithin (before before' t after after' : Text) :
  (lowercaseWithin before t after).length = (lowercaseWithin before' t after').length
  := by
  induction t generalizing before before' with
  | nil => rfl
  | cons c rest ih =>
      rw [lowercaseWithin, lowercaseWithin, List.length_append, List.length_append,
        length_lowercaseAt before before' c _ (rest ++ after'), ih]

/-! ### Capital sigmas -/

theorem lowercaseAt_eq_iff {c : Char} :
  lowercaseAt before c after = lowercaseAt before' c after'
    ↔ (c = 'Σ' → endsWord before after = endsWord before' after')
  := by
  rw [lowercaseAt, lowercaseAt]
  split
  · rename_i hc
    rw [List.singleton_inj, forall_prop_of_true hc]
    cases endsWord before after with
    | false => cases endsWord before' after' <;> decide
    | true => cases endsWord before' after' <;> decide
  · rename_i hc
    simp [hc]

/-- The lowercase forms of a text in two places are equal exactly if its capital sigmas end words in
both or in none. -/
theorem lowercaseWithin_eq_iff :
  lowercaseWithin before t after = lowercaseWithin before' t after'
    ↔ ∀ s u, t = s ++ 'Σ' :: u →
      endsWord (s.reverse ++ before) (u ++ after) = endsWord (s.reverse ++ before') (u ++ after')
  := by
  induction t generalizing before before' with
  | nil => simp [lowercaseWithin]
  | cons c rest ih =>
      rw [lowercaseWithin, lowercaseWithin]
      constructor
      · intro hform s u h
        obtain ⟨hfirst, hrest⟩ :=
          List.append_inj hform (length_lowercaseAt before before' c _ _)
        cases s with
        | nil =>
            cases h
            apply lowercaseAt_eq_iff.mp hfirst rfl
        | cons d s =>
            cases h
            have hsame := ih.mp hrest s u rfl
            simp only [List.reverse_cons, List.append_assoc]
            apply hsame
      · intro h
        congr 1
        · apply lowercaseAt_eq_iff.mpr
          rintro rfl
          apply h [] rest rfl
        · apply ih.mpr
          rintro s u rfl
          have hsame := h (c :: s) u rfl
          simp only [List.reverse_cons, List.append_assoc] at hsame
          apply hsame

/-- Between `before` and `after`, every capital sigma of the text ends a word exactly if it does in
the text alone. -/
def KeepsSigmas (before t after : Text) : Prop :=
  ∀ s u, t = s ++ 'Σ' :: u →
    endsWord (s.reverse ++ before.reverse) (u ++ after) = endsWord s.reverse u

theorem lowercaseWithin_eq_lowercase_iff :
  lowercaseWithin before.reverse t after = t.lowercase ↔ KeepsSigmas before t after
  := by
  rw [lowercase, lowercaseFrom_eq, lowercaseWithin_eq_iff]
  simp only [List.append_nil]
  rfl

instance (before t after : Text) : Decidable (KeepsSigmas before t after) :=
  decidable_of_iff _ lowercaseWithin_eq_lowercase_iff

theorem keepsSigmas_nil_nil (t : Text) :
  KeepsSigmas [] t []
  := by
  intro s u _
  simp

/-- Only texts with a capital sigma depend on what stands around them. -/
theorem keepsSigmas_of_notMem (h : 'Σ' ∉ t) (before after : Text) :
  KeepsSigmas before t after
  := by
  rintro s u rfl
  cases h (List.mem_append_right s List.mem_cons_self)

/-! ### Beginnings, ends and parts -/

theorem lowercase_prefix_iff :
  t.lowercase <+: lowercase (t ++ after) ↔ KeepsSigmas [] t after
  := by
  rw [← lowercaseWithin_eq_lowercase_iff, lowercase, lowercase, lowercaseFrom_append,
    List.reverse_nil, lowercaseFrom_eq]
  constructor
  · rintro ⟨rest, h⟩
    apply (List.append_inj h (length_lowercaseWithin _ _ _ _ _)).1.symm
  · intro h
    rw [h]
    apply List.prefix_append

theorem lowercase_suffix_iff :
  t.lowercase <:+ lowercase (before ++ t) ↔ KeepsSigmas before t []
  := by
  rw [← lowercaseWithin_eq_lowercase_iff, lowercase, lowercase, lowercaseFrom_append,
    List.append_nil, lowercaseFrom_eq, lowercaseFrom_eq]
  constructor
  · rintro ⟨rest, h⟩
    apply (List.append_inj' h (length_lowercaseWithin _ _ _ _ _)).2.symm
  · intro h
    rw [h]
    apply List.suffix_append

theorem lowercase_infix (h : KeepsSigmas before t after) :
  t.lowercase <:+: lowercase (before ++ t ++ after)
  := by
  have hwhole : lowercase (before ++ t ++ after) = lowercaseWithin [] before (t ++ after)
      ++ (t.lowercase ++ lowercaseFrom (t.reverse ++ before.reverse) after) := by
    rw [List.append_assoc, lowercase, lowercaseFrom_append, List.append_nil, lowercaseFrom_append,
      lowercaseWithin_eq_lowercase_iff.mpr h]
  rw [hwhole]
  apply List.infix_append'

end QueryFilter.Text
