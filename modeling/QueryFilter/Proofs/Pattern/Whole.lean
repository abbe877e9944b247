import QueryFilter.Pattern.Compile

/-!
# Matches of whole texts

An expression between assertions of the beginning and the end of the text matches some part of a
text exactly if the expression itself leads from the beginning of the text to its end.  What
`Regex.sequence` and `Regex.alternatives` do to keep expressions small has no influence on that.
-/

namespace QueryFilter.Regex

/-- The expression matches the text as a whole: it leads from the beginning to the end. -/
def matchesWhole (r : Regex) (t : Text) : Bool := (r.reach t.toArray [0]).contains t.length

section

variable {text : Array Char} {positions : List Nat} {p : Nat}

/-! ### Sequences -/

theorem standsAt_append (s t : Text) :
  standsAt text (s ++ t) p = (standsAt text s p && standsAt text t (p + s.length))
  := by
  induction s generalizing p with
  | nil => rfl
  | cons c s ih =>
      rw [List.cons_append, standsAt, standsAt, ih, Bool.and_assoc, List.length_cons,
        Nat.add_assoc, Nat.add_comm 1]

theorem reach_literal_append (s t : Text) :
  reach text (.literal (s ++ t)) positions =
    reach text (.literal t) (reach text (.literal s) positions)
  := by
  simp only [reach, List.filter_map, List.map_map, List.filter_filter]
  congr 1
  · funext p
    simp [Nat.add_assoc]
  · apply List.filter_congr
    intro p _
    rw [standsAt_append, Bool.and_comm]
    rfl

/-- A part before a sequence is matched before it. -/
theorem reach_before (r rest : Regex) :
  reach text (before r rest) positions = reach text rest (reach text r positions)
  := by
  unfold before
  split
  · apply reach_literal_append
  · exact congrArg _ (reach_literal_append _ _)
  · rfl
  · rfl

/-- The parts of a sequence, one after the other, lead where the sequence does. -/
theorem foldl_reach_parts (r : Regex) :
  r.parts.foldl (fun ps r => reach text r ps) positions = reach text r positions
  := by
  induction r generalizing positions with
  | seq first rest _ ih => exact ih
  | _ => rfl

theorem reach_sequence (rs : List Regex) :
  reach text (sequence rs) positions = rs.foldl (fun ps r => reach text r ps) positions
  := by
  have hfold : ∀ (rs : List Regex) (positions : List Nat),
      reach text (rs.foldr before .empty) positions =
        rs.foldl (fun ps r => reach text r ps) positions := by
    intro rs
    induction rs with
    | nil => intro positions; rfl
    | cons r rs ih =>
        intro positions
        rw [List.foldr_cons, reach_before, ih, List.foldl_cons]
  rw [sequence, hfold]
  induction rs generalizing positions with
  | nil => rfl
  | cons r rs ih =>
      rw [List.flatMap_cons, List.foldl_append, foldl_reach_parts, ih, List.foldl_cons]

/-! ### Alternatives -/

/-- An expression that is no alternation is its only alternative. -/
theorem alternatives_singleton {r : Regex} (h : r.branches = [r]) :
  alternatives [r] = r
  := by
  have hbranches : [r].flatMap branches = [r] := by simp [h]
  rw [alternatives, List.foldl_cons, List.foldl_nil, Nat.add_comm, alternativesUpTo]
  rw [hbranches]

/-- A sequence that begins with an assertion is no alternation. -/
theorem branches_sequence_assertion (a : Assertion) (word : CharSet) (rs : List Regex) :
  (sequence (.assertion a word :: rs)).branches = [sequence (.assertion a word :: rs)]
  := by
  rw [sequence, List.flatMap_cons]
  simp only [parts, List.cons_append, List.nil_append, List.foldr_cons]
  generalize (rs.flatMap parts).foldr before .empty = rest
  unfold before
  split <;> rfl

/-! ### Positions -/

theorem mem_merge {ps qs : List Nat} (h : p ∈ merge ps qs) :
  p ∈ ps ∨ p ∈ qs
  := by
  fun_induction merge ps qs with
  | case1 qs => exact Or.inr h
  | case2 ps => exact Or.inl h
  | case3 a ps b qs hlt ih =>
      rcases List.mem_cons.mp h with rfl | h
      · exact Or.inl List.mem_cons_self
      · exact (ih h).imp_left (List.mem_cons_of_mem a)
  | case4 a ps b qs hge hlt ih =>
      rcases List.mem_cons.mp h with rfl | h
      · exact Or.inr List.mem_cons_self
      · exact (ih h).imp_right (List.mem_cons_of_mem b)
  | case5 a ps b qs hge hle ih =>
      rcases List.mem_cons.mp h with rfl | h
      · exact Or.inl List.mem_cons_self
      · exact (ih h).imp (List.mem_cons_of_mem a) (List.mem_cons_of_mem b)

theorem mem_of_mem_without {ps qs : List Nat} (h : p ∈ without ps qs) :
  p ∈ ps
  := by
  fun_induction without ps qs with
  | case1 qs => exact h
  | case2 ps => exact h
  | case3 a ps b qs hlt ih =>
      rcases List.mem_cons.mp h with rfl | h
      · exact List.mem_cons_self
      · exact List.mem_cons_of_mem a (ih h)
  | case4 a ps b qs hge hlt ih => exact ih h
  | case5 a ps b qs hge hle ih => exact List.mem_cons_of_mem a (ih h)

section

variable {P : Nat → Prop} {step : List Nat → List Nat}
  (hstep : ∀ ps : List Nat, (∀ p ∈ ps, P p) → ∀ p ∈ step ps, P p)

include hstep

/-- What a step preserves, a number of steps preserve. -/
theorem forall_mem_iterate (n : Nat) (h : ∀ p ∈ positions, P p) :
  ∀ p ∈ iterate step n positions, P p
  := by
  induction n generalizing positions with
  | zero => exact h
  | succ n ih =>
      rw [iterate]
      split
      · exact h
      · exact ih (hstep positions h)

theorem forall_mem_gather (n : Nat) {reached latest : List Nat} (hreached : ∀ p ∈ reached, P p)
    (hlatest : ∀ p ∈ latest, P p) :
  ∀ p ∈ gather step n reached latest, P p
  := by
  induction n generalizing reached latest with
  | zero => exact hreached
  | succ n ih =>
      have hnew : ∀ p ∈ without (step latest) reached, P p :=
        fun p hp => hstep latest hlatest p (mem_of_mem_without hp)
      rw [gather]
      split
      · exact hreached
      · apply ih _ hnew
        intro p hp
        rcases mem_merge hp with hp | hp
        · exact hreached p hp
        · exact hnew p hp

end

theorem add_length_le_of_standsAt {t : Text} (hp : p ≤ text.size) (h : standsAt text t p) :
  p + t.length ≤ text.size
  := by
  induction t generalizing p with
  | nil => exact hp
  | cons c t ih =>
      rw [standsAt, Bool.and_eq_true] at h
      have hlt : p < text.size := by
        apply Nat.lt_of_not_le
        intro hle
        simp [Array.getElem?_eq_none hle] at h
      have hrest := ih hlt h.2
      rw [List.length_cons]
      omega

/-- No expression leads beyond the end of the text. -/
theorem le_size_of_mem_reach (r : Regex) (h : ∀ p ∈ positions, p ≤ text.size) :
  ∀ p ∈ reach text r positions, p ≤ text.size
  := by
  induction r generalizing positions with
  | empty => exact h
  | literal t =>
      intro p hp
      obtain ⟨q, hq, rfl⟩ := List.mem_map.mp hp
      obtain ⟨hq, hstands⟩ := List.mem_filter.mp hq
      exact add_length_le_of_standsAt (h q hq) hstands
  | chars set =>
      intro p hp
      obtain ⟨q, hq, heq⟩ := List.mem_filterMap.mp hp
      split at heq
      · rename_i hany
        cases heq
        apply Nat.lt_of_not_le
        intro hle
        simp [Array.getElem?_eq_none hle] at hany
      · cases heq
  | assertion a word => exact fun p hp => h p (List.mem_filter.mp hp).1
  | group body ih => exact ih h
  | times body least most ih =>
      have hrequired := forall_mem_iterate (fun ps hps => ih hps) least h
      exact forall_mem_gather (fun ps hps => ih hps) _ hrequired hrequired
  | seq first rest ihFirst ihRest => exact ihRest (ihFirst h)
  | alt first rest ihFirst ihRest =>
      intro p hp
      rcases mem_merge hp with hp | hp
      · exact ihFirst h p hp
      · exact ihRest h p hp

/-! ### Anchors -/

/-- Only the first position of a text is at its beginning. -/
theorem reach_textStart (t : Text) (word : CharSet) :
  reach t.toArray (.assertion .textStart word) (List.range (t.length + 1)) = [0]
  := by
  have hrest : ((List.range t.length).map Nat.succ).filter (fun p =>
      Assertion.textStart.holds word (if p = 0 then none else t.toArray[p - 1]?) t.toArray[p]?) =
        [] := by
    rw [List.filter_eq_nil_iff]
    intro p hp
    obtain ⟨q, hq, rfl⟩ := List.mem_map.mp hp
    simpa [Assertion.holds] using hq
  rw [reach, List.range_succ_eq_map, List.filter_cons_of_pos rfl, hrest]

/-- Only the last position of a text is at its end. -/
theorem isEmpty_reach_textEnd {t : Text} (word : CharSet) (h : ∀ p ∈ positions, p ≤ t.length) :
  (reach t.toArray (.assertion .textEnd word) positions).isEmpty = !positions.contains t.length
  := by
  have hend : ∀ p ∈ positions, Assertion.textEnd.holds word (if p = 0 then none
      else t.toArray[p - 1]?) t.toArray[p]? = (p == t.length) := by
    intro p hp
    have hle := h p hp
    rw [Bool.eq_iff_iff, beq_iff_eq]
    simp only [Assertion.holds, Option.isNone_iff_eq_none, List.getElem?_toArray,
      List.getElem?_eq_none_iff]
    omega
  rw [reach, List.filter_congr hend, Bool.eq_iff_iff, List.isEmpty_iff, List.filter_eq_nil_iff]
  simp only [beq_iff_eq, Bool.not_eq_true', ← Bool.not_eq_true, List.contains_iff_mem]
  exact ⟨fun hne hmem => hne _ hmem rfl, fun hmem p hp heq => hmem (heq ▸ hp)⟩

/-- An expression between assertions of the beginning and the end matches whole texts. -/
theorem isMatch_anchored (r : Regex) (word : CharSet) (t : Text) :
  (alternatives [sequence [.assertion .textStart word, r, .assertion .textEnd word]]).isMatch t =
    r.matchesWhole t
  := by
  have hbound : ∀ p ∈ reach t.toArray r [0], p ≤ t.toArray.size :=
    le_size_of_mem_reach r (by simp)
  rw [alternatives_singleton (branches_sequence_assertion _ _ _), isMatch, reach_sequence]
  simp only [List.foldl_cons, List.foldl_nil, reach_textStart]
  rw [isEmpty_reach_textEnd word hbound, Bool.not_not, matchesWhole]

end

end QueryFilter.Regex
