import QueryFilter.Proofs.Pattern.Group

/-!
# Patterns read within a group

A pattern that is put between `opening` and `closing` is read in the steps in which it is read by
itself, with one more group open around it: `step?_within` and `step?_follows` say so of one step,
`run?_within` and `stack_ne_nil_of_run?_within` of a run.  So the whole is read as the pattern
between two assertions if the pattern can be read by itself, and is refused if not, unless a
parenthesis of the pattern closes the group around it or a comment takes `closing` in.
-/

namespace QueryFilter.Pattern

/-- Either at most a dollar sign is left, or a brace without a count after it. -/
def AtStop (s : Progress) (r : Text) : Prop :=
  AtDollar s r ∨ ∃ u, r = '\x7b' :: u ∧ s.flags.skip u ⊆ closing

section

variable {n m fuel fuel' : Nat} {t t' : Text}

theorem step?_follows (h : Continues n m t t') (hn : n < fuel) (hm : m < fuel') (s : Progress)
    (c : Char) :
  Follows AtStop n m (step? s fuel c t) (step? s fuel' c t')
  := by
  unfold step?
  split
  · exact (group?_follows h s).weaken fun _ _ => Or.inl
  · exact Follows.option_map _ id h
  · exact Follows.some h
  · exact (bracket?_follows s.flags h hn hm).map (f := fun part =>
      s.add ⟨.ofSet part.set, part.depth, true⟩) fun _ _ => False.elim
  · exact Follows.option_map _ id (skipLazy_follows h)
  · exact Follows.option_map _ id (skipLazy_follows h)
  · exact Follows.option_map _ id (skipLazy_follows h)
  · rcases (counts?_follows s.flags h (Nat.le_of_lt hn) (Nat.le_of_lt hm)).pair_cases with
      ⟨hcounts, hcounts'⟩ | ⟨least, most, r, r', hcounts, hcounts', hr⟩
    · apply Follows.of_eq_none (by simp [hcounts])
      intro s' r hs'
      obtain ⟨⟨least, most, r⟩, hr, -⟩ := Option.bind_eq_some_iff.mp hs'
      cases hcounts' least most r hr
    · simp only [hcounts, hcounts']
      exact Follows.option_bind fun s' => Follows.some (skipLazy_follows (hr.skip s.flags))
  · apply (escape?_follows s.flags h (Nat.le_of_lt hn) (Nat.le_of_lt hm)).bind
    · intro e r r' hr
      exact Follows.option_bind fun p => Follows.some hr
    · intro e r hlate s' r' hs'
      obtain ⟨p, -, heq⟩ := Option.bind_eq_some_iff.mp hs'
      cases heq
      exact hlate.imp id fun hbrace => hbrace.2
  · exact Follows.option_map _ _ h
  · exact Follows.some h
  · exact Follows.some h
  · exact Follows.some h

/-! ### Within a group -/

/-- The progress with some more groups open around it. -/
def Progress.within (s : Progress) (outer : List OpenGroup) : Progress :=
  { s with stack := s.stack ++ outer }

variable (s : Progress) (outer : List OpenGroup)

@[simp]
theorem Progress.flags_within :
  (s.within outer).flags = s.flags
  := rfl

@[simp]
theorem Progress.names_within :
  (s.within outer).names = s.names
  := rfl

@[simp]
theorem Progress.stack_within :
  (s.within outer).stack = s.stack ++ outer
  := rfl

@[simp]
theorem Progress.within_nil :
  s.within [] = s
  := by simp [within]

theorem Progress.repeatLast?_within (least : Nat) (most : Option Nat) :
  (s.within outer).repeatLast? least most = (s.repeatLast? least most).map (·.within outer)
  := by
  cases hs : s.pieces with
  | nil => simp [repeatLast?, within, hs]
  | cons p ps =>
      simp only [repeatLast?, within, hs]
      split_ifs <;> rfl

theorem Progress.closeGroup?_within (h : s.stack ≠ []) :
  (s.within outer).closeGroup? = s.closeGroup?.map (·.within outer)
  := by
  cases hs : s.stack with
  | nil => cases h hs
  | cons g stack => simp [closeGroup?, within, finished, hs]

theorem namedGroup?_within :
  namedGroup? (s.within outer) t = (namedGroup? s t).map fun p => (p.1.within outer, p.2)
  := by
  unfold namedGroup?
  cases groupName? t with
  | none => rfl
  | some p =>
      dsimp only [Option.bind_eq_bind, Option.bind_some]
      rw [s.names_within outer]
      split <;> rfl

theorem flagGroup?_within :
  flagGroup? (s.within outer) t = (flagGroup? s t).map fun p => (p.1.within outer, p.2)
  := by
  unfold flagGroup?
  rw [s.flags_within outer]
  cases flagLetters? s.flags true [] t with
  | none => rfl
  | some p =>
      simp only [Option.bind_eq_bind, Option.bind_some]
      split_ifs <;> rfl

theorem group?_within :
  group? (s.within outer) t = (group? s t).map fun p => (p.1.within outer, p.2)
  := by
  by_cases hmark : ∃ rest, s.flags.skip t = '?' :: rest
  · obtain ⟨rest, ht⟩ := hmark
    rw [group?_marked ht, group?_marked (s := s.within outer) ht]
    split
    · rfl
    · apply namedGroup?_within
    · apply flagGroup?_within
  · have ht := not_exists.mp hmark
    rw [group?_plain ht, group?_plain (s := s.within outer) ht]
    rfl

/-- What is open around a pattern has no influence on a step, unless a group that was opened
outside is closed. -/
theorem step?_within (c : Char) (h : c = ')' → s.stack ≠ []) :
  step? (s.within outer) fuel c t = (step? s fuel c t).map fun p => (p.1.within outer, p.2)
  := by
  unfold step?
  split
  · apply group?_within
  · rw [s.closeGroup?_within outer (h rfl), Option.map_map, Option.map_map]
    rfl
  · rfl
  · rw [Option.map_map]
    rfl
  · rw [s.repeatLast?_within outer, Option.map_map, Option.map_map]
    rfl
  · rw [s.repeatLast?_within outer, Option.map_map, Option.map_map]
    rfl
  · rw [s.repeatLast?_within outer, Option.map_map, Option.map_map]
    rfl
  · rw [s.flags_within outer]
    cases counts? s.flags fuel t with
    | none => rfl
    | some p =>
        simp only [Option.bind_eq_bind, Option.bind_some, s.repeatLast?_within outer]
        cases s.repeatLast? p.1 p.2.1 <;> rfl
  · rw [s.flags_within outer]
    cases escape? s.flags fuel t with
    | none => rfl
    | some p =>
        simp only [Option.bind_eq_bind, Option.bind_some]
        cases elementPiece? s.flags p.1 <;> rfl
  · rw [Option.map_map]
    rfl
  · rfl
  · rfl
  · rfl

/-! ### Runs -/

variable {s outer} {s' : Progress} {c : Char} {r : Text}

theorem run?_of_nil (ht : s.flags.skip t = []) :
  run? (fuel + 1) s t = some s
  := by simp only [run?, ht]

theorem run?_of_cons (ht : s.flags.skip t = c :: r) :
  run? (fuel + 1) s t = (step? s fuel c r).bind fun p => run? fuel p.1 p.2
  := by
  simp only [run?, ht]
  cases step? s fuel c r <;> rfl

theorem run?_of_closing (ht : s.flags.skip t = closing) :
  run? (fuel + 1) s t = run? (fuel + 1) s closing
  := by
  have hclosing : s.flags.skip closing = closing :=
    Flags.skip_of_subset s.flags (List.Subset.refl _)
  rw [run?_of_cons ht, run?_of_cons hclosing]

/-- A step that closes a group needs one that is open. -/
theorem stack_ne_nil_of_step? {p : Progress × Text} (h : step? s fuel ')' r = some p) :
  s.stack ≠ []
  := by
  intro hnil
  simp [step?, Progress.closeGroup?, hnil] at h

/-- A step is taken within other groups as it is taken without them. -/
theorem run?_within_of_step? {u : Text} (ht : s.flags.skip t = c :: r)
    (hstep : step? s fuel c r = some (s', u)) :
  run? (fuel + 1) (s.within outer) t = run? fuel (s'.within outer) u
  := by
  have hopen : c = ')' → s.stack ≠ [] := by
    rintro rfl
    exact stack_ne_nil_of_step? hstep
  rw [run?_of_cons (s := s.within outer) ht, step?_within s outer c hopen, hstep]
  rfl

/-- A run that gets to the end of a pattern alone gets there within other groups as well, and then
`closing` is either left or has been taken in by a comment. -/
theorem run?_within (h : Continues n m t t') (hn : n < fuel) (hm : m < fuel')
    (hrun : run? fuel s t = some s') :
  (∀ outer, run? fuel' (s.within outer) t' = some (s'.within outer))
    ∨ (n + 2 ≤ m ∧ ∃ k > 2, ∀ outer,
      run? fuel' (s.within outer) t' = run? k (s'.within outer) closing)
  := by
  induction n using Nat.strongRecOn generalizing m t t' fuel fuel' s with
  | ind n ih =>
    obtain ⟨fuel, rfl⟩ := Nat.exists_eq_succ_of_ne_zero (Nat.ne_zero_of_lt hn)
    obtain ⟨fuel', rfl⟩ := Nat.exists_eq_succ_of_ne_zero (Nat.ne_zero_of_lt hm)
    have hs := h.skip s.flags
    generalize ht : s.flags.skip t = r, ht' : s.flags.skip t' = r' at hs
    cases hs with
    | nil =>
        cases (run?_of_nil ht).symm.trans hrun
        exact Or.inl fun outer => run?_of_nil ht'
    | closing hnm =>
        cases (run?_of_nil ht).symm.trans hrun
        exact Or.inr ⟨hnm, fuel' + 1, by omega, fun outer => run?_of_closing ht'⟩
    | @cons n m r r' c hr =>
        rw [run?_of_cons ht, Option.bind_eq_some_iff] at hrun
        obtain ⟨⟨s1, u⟩, hstep, hrun⟩ := hrun
        have hnext := step?_follows hr (Nat.lt_of_succ_lt_succ hn) (Nat.lt_of_succ_lt_succ hm) s c
        rw [hstep] at hnext
        obtain ⟨u', hstep', hu⟩ := hnext
        simp only [run?_within_of_step? ht' hstep']
        rcases ih n (Nat.lt_succ_self n) hu (Nat.lt_of_succ_lt_succ hn)
          (Nat.lt_of_succ_lt_succ hm) hrun with hdone | ⟨hnm, hleft⟩
        · exact Or.inl hdone
        · exact Or.inr ⟨by omega, hleft⟩

/-- A run over dollar signs closes no group. -/
theorem stack_of_run?_dollars (ht : t ⊆ ['$']) (hrun : run? fuel s t = some s') :
  s'.stack = s.stack
  := by
  induction fuel generalizing s t with
  | zero => cases hrun
  | succ fuel ih =>
      have hskip : s.flags.skip t = t :=
        Flags.skip_of_subset s.flags (List.Subset.trans ht (by decide))
      cases t with
      | nil => cases (run?_of_nil hskip).symm.trans hrun; rfl
      | cons c r =>
          obtain ⟨hc, hr⟩ := List.cons_subset.mp ht
          cases List.mem_singleton.mp hc
          rw [run?_of_cons hskip] at hrun
          exact ih (s := s.add (assertionPiece s.flags s.flags.dollar)) hr hrun

/-- Where a run can but stop, it closes no group. -/
theorem stack_of_run?_atStop (ht : AtStop s t) (hrun : run? fuel s t = some s') :
  s'.stack = s.stack
  := by
  rcases ht with hdollar | ⟨u, rfl, hu⟩
  · exact stack_of_run?_dollars hdollar hrun
  · cases fuel with
    | zero => cases hrun
    | succ fuel =>
        have hbrace : s.flags.skip ('\x7b' :: u) = '\x7b' :: u :=
          s.flags.skip_cons rfl (by decide)
        have hcounts : step? s fuel '\x7b' u = none := by
          simp [step?, counts?_eq_none s.flags hu]
        rw [run?_of_cons hbrace, hcounts] at hrun
        cases hrun

/-- The reading of a pattern stops at a parenthesis that closes none of its groups. -/
def closesOuter : Nat → Progress → Text → Bool
  | 0, _, _ => false
  | fuel + 1, s, t =>
    match s.flags.skip t with
    | [] => false
    | c :: rest =>
      match step? s fuel c rest with
      | some (s, rest) => closesOuter fuel s rest
      | none => c == ')'

theorem run?_eq_none_of_closesOuter (h : closesOuter fuel s t = true) :
  run? fuel s t = none
  := by
  induction fuel generalizing s t with
  | zero => rfl
  | succ fuel ih =>
      cases ht : s.flags.skip t with
      | nil => simp [closesOuter, ht] at h
      | cons c r =>
          rw [run?_of_cons ht]
          cases hstep : step? s fuel c r with
          | none => rfl
          | some p =>
              simp only [closesOuter, ht, hstep] at h
              exact ih h

/-- A run that gets stuck elsewhere does not close the groups around the pattern. -/
theorem stack_ne_nil_of_run?_within (h : Continues n m t t') (hn : n < fuel) (hm : m < fuel')
    (hstuck : run? fuel s t = none) (hclose : closesOuter fuel s t = false)
    (houter : outer ≠ []) (hrun : run? fuel' (s.within outer) t' = some s') :
  s'.stack ≠ []
  := by
  induction n using Nat.strongRecOn generalizing m t t' fuel fuel' s with
  | ind n ih =>
    obtain ⟨fuel, rfl⟩ := Nat.exists_eq_succ_of_ne_zero (Nat.ne_zero_of_lt hn)
    obtain ⟨fuel', rfl⟩ := Nat.exists_eq_succ_of_ne_zero (Nat.ne_zero_of_lt hm)
    have hs := h.skip s.flags
    generalize ht : s.flags.skip t = r, ht' : s.flags.skip t' = r' at hs
    cases hs with
    | nil => cases (run?_of_nil ht).symm.trans hstuck
    | closing hnm => cases (run?_of_nil ht).symm.trans hstuck
    | @cons n m r r' c hr =>
        rw [run?_of_cons ht] at hstuck
        simp only [closesOuter, ht] at hclose
        have hnext := step?_follows hr (Nat.lt_of_succ_lt_succ hn) (Nat.lt_of_succ_lt_succ hm) s c
        cases hstep : step? s fuel c r with
        | none =>
            rw [hstep] at hclose hnext
            have hparen : c = ')' → s.stack ≠ [] := by
              rintro rfl
              cases hclose
            rw [run?_of_cons (s := s.within outer) ht', step?_within s outer c hparen,
              Option.bind_eq_some_iff] at hrun
            obtain ⟨p, hp, hrun⟩ := hrun
            obtain ⟨⟨s1, u⟩, hstep', rfl⟩ := Option.map_eq_some_iff.mp hp
            have hstop : AtStop (s1.within outer) u := hnext s1 u hstep'
            rw [stack_of_run?_atStop hstop hrun, Progress.stack_within]
            exact List.append_ne_nil_of_right_ne_nil _ houter
        | some p =>
            obtain ⟨s1, u⟩ := p
            rw [hstep] at hstuck hclose hnext
            obtain ⟨u', hstep', hu⟩ := hnext
            rw [run?_within_of_step? ht' hstep'] at hrun
            exact ih n (Nat.lt_succ_self n) hu (Nat.lt_of_succ_lt_succ hn)
              (Nat.lt_of_succ_lt_succ hm) hstuck hclose hrun

/-! ### Whole patterns -/

variable {flags : Flags} {source : Text} {p : Piece}

/-- Before anything of a pattern is read. -/
def Progress.start (flags : Flags) : Progress := ⟨[], [], [], flags, []⟩

/-- Reads a text as a pattern of any size. -/
def piece? (flags : Flags) (source : Text) : Option Piece :=
  match run? (source.length + 1) (.start flags) source with
  | some s => if s.stack.isEmpty then some s.finished else none
  | none => none

theorem read?_eq :
  read? flags source =
    (piece? flags source).bind fun p => if withinLimits p then some p.regex else none
  := by
  unfold read? piece? Progress.start
  cases run? (source.length + 1) ⟨[], [], [], flags, []⟩ source with
  | none => rfl
  | some s => cases hs : s.stack.isEmpty <;> simp [hs]

/-- A parenthesis of the pattern closes a group that the pattern does not open. -/
def closesUnopened (flags : Flags) (source : Text) : Bool :=
  closesOuter (source.length + 1) (.start flags) source

/-- A text that closes a group around it is no pattern by itself. -/
theorem piece?_eq_none_of_closesUnopened (h : closesUnopened flags source = true) :
  piece? flags source = none
  := by
  rw [piece?, run?_eq_none_of_closesOuter h]

/-- The pattern ends in a comment, to which `closing` after the pattern would belong. -/
def endsInComment (flags : Flags) (source : Text) : Bool :=
  (piece? flags (source ++ closing)).isSome

/-- What stands before a pattern that is to match whole texts. -/
def opening : Text := ['^', '(', '?', ':']

/-- A pattern between assertions of the beginning and the end of the text. -/
def anchored (flags : Flags) (p : Piece) : Piece :=
  alternation [sequence [assertionPiece flags flags.dollar, groupPiece false p,
    assertionPiece flags flags.caret]]

/-- The group that `opening` opens. -/
def openingGroup (flags : Flags) : OpenGroup :=
  ⟨false, [], [assertionPiece flags flags.caret], flags⟩

theorem run?_opening :
  run? (fuel + 2) (.start flags) (opening ++ t) =
    run? fuel ((Progress.start flags).within [openingGroup flags]) t
  := by
  have hgroup : ∀ s : Progress,
      group? s ('?' :: ':' :: t) = some (s.openGroup false s.flags, t) := by
    intro s
    rw [group?_marked (s.flags.skip_cons rfl (by decide))]
    simp [groupKind, flagGroup?, flagLetters?]
  have hcaret : flags.skip (opening ++ t) = '^' :: '(' :: '?' :: ':' :: t :=
    flags.skip_cons rfl (by decide)
  have hparen : flags.skip ('(' :: '?' :: ':' :: t) = '(' :: '?' :: ':' :: t :=
    flags.skip_cons rfl (by decide)
  rw [run?_of_cons (s := .start flags) hcaret]
  simp only [step?, Option.bind_some]
  rw [run?_of_cons hparen]
  simp only [step?, hgroup]
  rfl

/-- The parenthesis of `closing` closes a group, and the pattern is at its end. -/
theorem run?_closing {k : Nat} (hk : k > 2) :
  run? k s closing =
    s.closeGroup?.map fun s => s.add (assertionPiece s.flags s.flags.dollar)
  := by
  obtain ⟨k, rfl⟩ := Nat.exists_eq_add_of_le' hk
  have hclosing : s.flags.skip closing = ')' :: ['$'] := s.flags.skip_cons rfl (by decide)
  rw [run?_of_cons hclosing]
  cases hs : s.closeGroup? with
  | none => simp [step?, hs]
  | some s =>
      have hdollar : s.flags.skip ['$'] = ['$'] := s.flags.skip_cons rfl (by decide)
      have hend : s.flags.skip [] = [] := Flags.skip_of_subset s.flags (List.nil_subset _)
      simp only [step?, hs, Option.map_some, Option.bind_some]
      rw [run?_of_cons hdollar]
      exact run?_of_nil hend

/-- A pattern may be read with any number of steps that suffices. -/
theorem run?_fuel (ht : t.length < fuel) (ht' : t.length < fuel') (hrun : run? fuel s t = some s') :
  run? fuel' s t = some s'
  := by
  rcases run?_within (Continues.refl t) ht ht' hrun with hdone | ⟨hlt, -⟩
  · simpa using hdone []
  · omega

theorem piece?_eq_some_iff (hfuel : source.length < fuel) :
  piece? flags source = some p ↔
    ∃ s, run? fuel (.start flags) source = some s ∧ s.stack = [] ∧ s.finished = p
  := by
  have hrun : ∀ s, run? (source.length + 1) (.start flags) source = some s ↔
      run? fuel (.start flags) source = some s := fun s =>
    ⟨run?_fuel (Nat.lt_succ_self _) hfuel, run?_fuel hfuel (Nat.lt_succ_self _)⟩
  simp only [← hrun]
  unfold piece?
  cases run? (source.length + 1) (.start flags) source with
  | none => simp
  | some s => simp

/-- The part of the pattern between `opening` and `closing` is read within a group. -/
theorem piece?_opening (t : Text) :
  piece? flags (opening ++ t) = some p ↔
    ∃ s, run? (t.length + 3) ((Progress.start flags).within [openingGroup flags]) t = some s
      ∧ s.stack = [] ∧ s.finished = p
  := by
  have hfuel : (opening ++ t).length < t.length + 3 + 2 := by simp [opening]
  rw [piece?_eq_some_iff hfuel, run?_opening]

/-- A pattern that is whole by itself is read as the pattern between the two assertions, unless a
comment takes in what closes the group. -/
theorem piece?_opening_closing (h : piece? flags source = some p) :
  piece? flags (opening ++ (source ++ closing)) =
    if endsInComment flags source then none else some (anchored flags p)
  := by
  obtain ⟨s, hrun, hstack, rfl⟩ := (piece?_eq_some_iff (Nat.lt_succ_self _)).mp h
  have hlength : source.length + 2 < (source ++ closing).length + 3 := by simp [closing]
  have hlonger : (source ++ closing).length < (source ++ closing).length + 3 := by omega
  rcases run?_within (Continues.append source) (Nat.lt_succ_self _) hlength hrun with
    hdone | ⟨-, k, hk, hleft⟩
  · have hcomment : piece? flags (source ++ closing) = some s.finished :=
      (piece?_eq_some_iff hlonger).mpr ⟨s, by simpa using hdone [], hstack, rfl⟩
    rw [if_pos (by simp [endsInComment, hcomment]), Option.eq_none_iff_forall_ne_some]
    intro q hq
    obtain ⟨s', hs', hclosed, -⟩ := (piece?_opening _).mp hq
    cases (hdone _).symm.trans hs'
    simp at hclosed
  · have hclose : (s.within []).closeGroup? = none := by
      simp [Progress.closeGroup?, hstack]
    have hcomment : piece? flags (source ++ closing) = none := by
      rw [Option.eq_none_iff_forall_ne_some]
      intro q hq
      obtain ⟨s', hs', -, -⟩ := (piece?_eq_some_iff hlonger).mp hq
      have hstuck := hleft []
      rw [run?_closing hk, hclose, Progress.within_nil, hs'] at hstuck
      cases hstuck
    rw [if_neg (by simp [endsInComment, hcomment]), piece?_opening, hleft, run?_closing hk]
    simp [Progress.closeGroup?, Progress.within, hstack, openingGroup, Progress.add,
      Progress.finished, anchored]

/-- A text that is no pattern, and closes no group that it does not open, makes none of the text
with `opening` and `closing` around it either. -/
theorem piece?_opening_closing_eq_none (h : piece? flags source = none)
    (hclose : closesUnopened flags source = false) :
  piece? flags (opening ++ (source ++ closing)) = none
  := by
  rw [Option.eq_none_iff_forall_ne_some]
  intro q hq
  obtain ⟨s', hs', hclosed, -⟩ := (piece?_opening _).mp hq
  have hlength : source.length + 2 < (source ++ closing).length + 3 := by simp [closing]
  cases hrun : run? (source.length + 1) (.start flags) source with
  | none =>
      exact stack_ne_nil_of_run?_within (Continues.append source) (Nat.lt_succ_self _) hlength hrun
        hclose (List.cons_ne_nil _ _) hs' hclosed
  | some s =>
      have hopen : s.stack ≠ [] := by
        intro hstack
        have hwhole := (piece?_eq_some_iff (Nat.lt_succ_self _)).mpr ⟨s, hrun, hstack, rfl⟩
        cases h.symm.trans hwhole
      rcases run?_within (Continues.append source) (Nat.lt_succ_self _) hlength hrun with
        hdone | ⟨-, k, hk, hleft⟩
      · cases (hdone _).symm.trans hs'
        simp at hclosed
      · rw [hleft, run?_closing hk] at hs'
        obtain ⟨g, stack, hstack⟩ := List.exists_cons_of_ne_nil hopen
        simp [Progress.closeGroup?, Progress.within, hstack, Progress.add] at hs'
        cases hs'
        simp at hclosed

end

end QueryFilter.Pattern
