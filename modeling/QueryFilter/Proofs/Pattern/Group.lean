import QueryFilter.Pattern.Compile
import QueryFilter.Proofs.Pattern.Bracket

/-!
# Groups and repetitions before a closing

What follows an opening parenthesis and the counts of a repetition are read in the same way when
`closing` stands after the pattern.  The parenthesis in `closing` may end a setting of flags,
though, that does not end within the pattern; then the dollar sign is left.
-/

namespace QueryFilter.Pattern

/-- At most the dollar sign of `closing` is left. -/
def AtDollar {α : Type} (_ : α) (r : Text) : Prop := r ⊆ ['$']

section

variable {n m fuel fuel' : Nat} {t t' : Text}

/-! ### Groups -/

/-- The flags, the character that ends them and whether there was no letter, as one value. -/
theorem flagLetters?_follows (h : Continues n m t t') (flags : Flags) (on : Bool) (seen : Text) :
  Follows AtDollar n m
    ((flagLetters? flags on seen t).map fun (flags, c, empty, rest) => ((flags, c, empty), rest))
    ((flagLetters? flags on seen t').map fun (flags, c, empty, rest) => ((flags, c, empty), rest))
  := by
  induction h generalizing flags on seen with
  | nil => exact Follows.none
  | closing =>
      apply Follows.of_eq_none (by rw [flagLetters?, Option.map_none])
      intro p r hp
      simp only [closing, flagLetters?, or_true, if_true] at hp
      split_ifs at hp
      · cases hp
      · cases hp
        exact List.Subset.refl _
  | cons c h ih =>
      simp only [flagLetters?]
      split_ifs
      · exact Follows.none
      · exact Follows.some h.succ
      · exact Follows.none
      · exact (ih _ _ _).succ
      · simp only [Option.bind_eq_bind, Option.map_bind]
        exact Follows.option_bind fun flags => (ih _ _ _).succ

theorem groupName?_follows (h : Continues n m t t') :
  Follows Never n m (groupName? t) (groupName? t')
  := by
  unfold groupName?
  rcases takeWhile_follows (p := (· != '>')) h (by simp [closing]) with
    ⟨ht, ht'⟩ | ⟨htake, hne, hdrop⟩
  · simp only [ht, ht']
    exact Follows.none
  · rw [htake]
    generalize t.dropWhile (· != '>') = s, t'.dropWhile (· != '>') = s' at hne hdrop
    cases hdrop with
    | nil => cases hne rfl
    | closing => cases hne rfl
    | cons c hr =>
        cases t'.takeWhile (· != '>') with
        | nil => exact Follows.none
        | cons d name =>
            dsimp only
            split_ifs
            · exact Follows.some hr.succ
            · exact Follows.none

/-- What follows the question mark of a group: an assertion about what is around, a name or
flags. -/
inductive GroupKind where
  | lookaround
  | named
  | flags

/-- The kind of a group, and what follows its mark. -/
def groupKind : Text → GroupKind × Text
  | [] => (.flags, [])
  | c :: rest =>
    if c = '=' ∨ c = '!' then (.lookaround, rest)
    else if c = '<' then
      (if rest.head? = some '=' ∨ rest.head? = some '!' then .lookaround else .named, rest)
    else if c = 'P' ∧ rest.head? = some '<' then (.named, rest.tail)
    else (.flags, c :: rest)

theorem groupKind_follows (h : Continues n m t t') :
  (groupKind t).1 = (groupKind t').1 ∧ Continues n m (groupKind t).2 (groupKind t').2
  := by
  rcases h with _ | h2 | @⟨n, m, r, r', c, hr⟩
  · exact ⟨rfl, .nil⟩
  · exact ⟨rfl, .closing h2⟩
  · have hequals := head?_follows hr (d := '=') (by decide)
    have hbang := head?_follows hr (d := '!') (by decide)
    have hangle := head?_follows hr (d := '<') (by decide)
    simp only [groupKind, hequals, hbang, hangle]
    split_ifs with h1 h2 h3 h4
    · exact ⟨rfl, hr.succ⟩
    · exact ⟨rfl, hr.succ⟩
    · exact ⟨rfl, hr.succ⟩
    · exact ⟨rfl, (tail_follows hr (hangle.mpr h4.2)).succ⟩
    · exact ⟨rfl, hr.cons c⟩

/-- Opens a group with a name, which no other group has. -/
def namedGroup? (s : Progress) (t : Text) : Option (Progress × Text) := do
  let (name, rest) ← groupName? t
  if s.names.contains name then none
  else some ({ s.openGroup true s.flags with names := name :: s.names }, rest)

/-- Opens a group with flags, or sets the flags for the rest of a group. -/
def flagGroup? (s : Progress) (t : Text) : Option (Progress × Text) := do
  let (flags, close, noLetters, rest) ← flagLetters? s.flags true [] t
  if close = ':' then some (s.openGroup false flags, rest)
  else if noLetters then none
  else some ({ s.add flagPiece with flags := flags }, rest)

variable {s : Progress}

theorem group?_plain (ht : ∀ rest, s.flags.skip t ≠ '?' :: rest) :
  group? s t = some (s.openGroup true s.flags, s.flags.skip t)
  := by
  unfold group?
  dsimp only
  split <;> first | rfl | (rename_i heq; cases ht _ heq)

theorem group?_marked {rest : Text} (ht : s.flags.skip t = '?' :: rest) :
  group? s t =
    match groupKind rest with
    | (.lookaround, _) => none
    | (.named, rest) => namedGroup? s rest
    | (.flags, rest) => flagGroup? s rest
  := by
  unfold group?
  simp only [ht]
  cases rest with
  | nil => rfl
  | cons c rest =>
      simp only [groupKind]
      split
      case h_8 hplain => cases hplain _ rfl
      case h_7 hname hangle heq =>
        cases heq
        have hnamed : ¬(c = 'P' ∧ rest.head? = some '<') := by
          rintro ⟨rfl, hhead⟩
          obtain ⟨name, rfl⟩ := List.head?_eq_some_iff.mp hhead
          exact hname name rfl
        rw [if_neg hnamed]
        simp_all [flagGroup?]
      all_goals
        rename_i heq
        cases heq
        simp_all [namedGroup?, List.head?_eq_some_iff]

theorem namedGroup?_follows (h : Continues n m t t') (s : Progress) :
  Follows Never n m (namedGroup? s t) (namedGroup? s t')
  := by
  apply (groupName?_follows h).bind_of_never
  intro name r r' hr
  dsimp only
  split_ifs
  · exact Follows.none
  · exact Follows.some hr

theorem flagGroup?_follows (h : Continues n m t t') (s : Progress) :
  Follows AtDollar n m (flagGroup? s t) (flagGroup? s t')
  := by
  have hflags := flagLetters?_follows h s.flags true []
  unfold flagGroup?
  cases hx : flagLetters? s.flags true [] t with
  | none =>
      rw [hx] at hflags
      apply Follows.of_eq_none (by simp)
      intro p r hp
      obtain ⟨⟨flags, close, empty, rest⟩, hy, hp⟩ := Option.bind_eq_some_iff.mp hp
      have hdollar : rest ⊆ ['$'] := hflags (flags, close, empty) rest (by rw [hy]; rfl)
      dsimp only at hp
      split_ifs at hp
      · cases hp
        exact hdollar
      · cases hp
        exact hdollar
  | some p =>
      obtain ⟨flags, close, empty, rest⟩ := p
      rw [hx] at hflags
      obtain ⟨rest', hy, hrest⟩ := hflags
      obtain ⟨q, hq, heq⟩ := Option.map_eq_some_iff.mp hy
      cases heq
      simp only [hq, Option.bind_eq_bind, Option.bind_some]
      split_ifs
      · exact Follows.some hrest
      · exact Follows.none
      · exact Follows.some hrest

theorem group?_follows (h : Continues n m t t') (s : Progress) :
  Follows AtDollar n m (group? s t) (group? s t')
  := by
  have hs := h.skip s.flags
  by_cases hmark : ∃ rest, s.flags.skip t = '?' :: rest
  · obtain ⟨rest, ht⟩ := hmark
    generalize ht' : s.flags.skip t' = r' at hs
    rw [ht] at hs
    cases hs with
    | @cons n m _ rest' c hr =>
        rw [group?_marked ht, group?_marked ht']
        obtain ⟨hkind, hrest⟩ := groupKind_follows hr
        generalize groupKind rest = x, groupKind rest' = y at hkind hrest
        obtain ⟨kind, u⟩ := x
        obtain ⟨kind', u'⟩ := y
        cases hkind
        cases kind with
        | lookaround => exact Follows.none
        | named => exact (namedGroup?_follows hrest s).of_never.succ
        | flags => exact (flagGroup?_follows hrest s).succ
  · have ht := not_exists.mp hmark
    have ht' : ∀ rest, s.flags.skip t' ≠ '?' :: rest := by
      intro rest ht'
      rw [ht'] at hs
      generalize ht0 : s.flags.skip t = r at hs
      cases hs with
      | cons c hr => exact ht _ ht0
    rw [group?_plain ht, group?_plain ht']
    exact Follows.some hs

/-! ### Repetitions -/

variable (flags : Flags)

theorem trimStart_follows (h : Continues n m t t') :
  Continues n m t.trimStart t'.trimStart
  := by
  induction h with
  | nil => exact .nil
  | closing hm => exact .closing hm
  | cons c h ih =>
      cases hc : Text.isBlankChar c with
      | true =>
          simp only [Text.trimStart, List.dropWhile_cons_of_pos hc]
          exact ih.succ
      | false =>
          have hneg : ¬ Text.isBlankChar c = true := by simp [hc]
          simp only [Text.trimStart, List.dropWhile_cons_of_neg hneg]
          exact .cons c h

theorem countDigits_eq (h : t ⊆ closing) (done : Text) :
  count?.countDigits flags fuel done t = (done, t)
  := by
  cases fuel with
  | zero => rfl
  | succ fuel =>
      cases t with
      | nil => rfl
      | cons c rest => rcases eq_of_cons_subset h with rfl | rfl <;> rfl

theorem countDigits_follows (h : Continues n m t t') (hn : n ≤ fuel) (hm : m ≤ fuel')
    (done : Text) :
  (count?.countDigits flags fuel done t).1 = (count?.countDigits flags fuel' done t').1
    ∧ Continues n m (count?.countDigits flags fuel done t).2
      (count?.countDigits flags fuel' done t').2
  := by
  induction n using Nat.strongRecOn generalizing m t t' fuel fuel' done with
  | ind n ih =>
      rcases h with _ | h2 | @⟨n, m, r, r', c, hr⟩
      · rw [countDigits_eq flags (List.nil_subset _), countDigits_eq flags (List.nil_subset _)]
        exact ⟨rfl, .nil⟩
      · rw [countDigits_eq flags (List.nil_subset _), countDigits_eq flags (List.Subset.refl _)]
        exact ⟨rfl, .closing h2⟩
      · obtain ⟨fuel, rfl⟩ := Nat.exists_eq_add_of_le' (Nat.le_of_add_left_le hn)
        obtain ⟨fuel', rfl⟩ := Nat.exists_eq_add_of_le' (Nat.le_of_add_left_le hm)
        simp only [count?.countDigits]
        split_ifs
        · have hdigits := ih n (Nat.lt_succ_self n) (hr.skip flags) (Nat.le_of_succ_le_succ hn)
            (Nat.le_of_succ_le_succ hm) (done ++ [c])
          exact ⟨hdigits.1, hdigits.2.succ⟩
        · exact ⟨rfl, .cons c hr⟩

theorem afterCount_eq (h : t ⊆ closing) :
  count?.afterCount flags fuel t = t
  := by
  cases fuel with
  | zero => rfl
  | succ fuel =>
      cases t with
      | nil => rfl
      | cons c rest => rcases eq_of_cons_subset h with rfl | rfl <;> rfl

theorem afterCount_follows (h : Continues n m t t') (hn : n ≤ fuel) (hm : m ≤ fuel') :
  Continues n m (count?.afterCount flags fuel t) (count?.afterCount flags fuel' t')
  := by
  induction n using Nat.strongRecOn generalizing m t t' fuel fuel' with
  | ind n ih =>
      rcases h with _ | h2 | @⟨n, m, r, r', c, hr⟩
      · rw [afterCount_eq flags (List.nil_subset _), afterCount_eq flags (List.nil_subset _)]
        exact .nil
      · rw [afterCount_eq flags (List.nil_subset _), afterCount_eq flags (List.Subset.refl _)]
        exact .closing h2
      · obtain ⟨fuel, rfl⟩ := Nat.exists_eq_add_of_le' (Nat.le_of_add_left_le hn)
        obtain ⟨fuel', rfl⟩ := Nat.exists_eq_add_of_le' (Nat.le_of_add_left_le hm)
        simp only [count?.afterCount]
        split_ifs
        · exact (ih n (Nat.lt_succ_self n) (hr.skip flags) (Nat.le_of_succ_le_succ hn)
            (Nat.le_of_succ_le_succ hm)).succ
        · exact .cons c hr

theorem count?_follows (h : Continues n m t t') (hn : n ≤ fuel) (hm : m ≤ fuel') :
  (count? flags fuel t).1 = (count? flags fuel' t').1
    ∧ Continues n m (count? flags fuel t).2 (count? flags fuel' t').2
  := by
  obtain ⟨hdigits, hrest⟩ := countDigits_follows flags (trimStart_follows h) hn hm []
  simp only [count?, hdigits]
  exact ⟨trivial, afterCount_follows flags hrest hn hm⟩

theorem count?_eq (h : t ⊆ closing) :
  (count? flags fuel t).2 = t
  := by
  have htrim : t.trimStart = t := by
    cases t with
    | nil => rfl
    | cons c rest => rcases eq_of_cons_subset h with rfl | rfl <;> rfl
  simp only [count?, htrim, countDigits_eq flags h, afterCount_eq flags h]

/-- Reads what follows the comma of a count. -/
def mostCount? (flags : Flags) (fuel : Nat) (least : Option Nat) (t : Text) :
    Option (Nat × Option Nat × Text) :=
  match flags.skip t with
  | '\x7d' :: rest => least.map (·, none, rest)
  | rest =>
    let (most, t) := count? flags fuel rest
    match least, most, t with
    | some least, some most, '\x7d' :: rest =>
      if least ≤ most then some (least, some most, rest) else none
    | _, _, _ => none

theorem counts?_eq :
  counts? flags fuel t =
    let (least, rest) := count? flags fuel (flags.skip t)
    if rest.head? = some ',' then mostCount? flags fuel least rest.tail
    else if rest.head? = some '\x7d' then least.map fun n => (n, some n, rest.tail)
    else none
  := by
  unfold counts?
  generalize count? flags fuel (flags.skip t) = x
  obtain ⟨least, rest⟩ := x
  dsimp only
  split
  · rfl
  · rfl
  · rename_i hcomma hbrace
    rw [if_neg, if_neg]
    · simpa only [List.head?_eq_some_iff, not_exists] using hbrace
    · simpa only [List.head?_eq_some_iff, not_exists] using hcomma

theorem mostCount?_eq (least : Option Nat) :
  mostCount? flags fuel least t =
    if (flags.skip t).head? = some '\x7d' then
      least.map fun n => (n, none, (flags.skip t).tail)
    else
      let (most, rest) := count? flags fuel (flags.skip t)
      if rest.head? = some '\x7d' then do
        let a ← least
        let b ← most
        if a ≤ b then some (a, some b, rest.tail) else none
      else none
  := by
  unfold mostCount?
  generalize flags.skip t = s
  split
  · rfl
  · rename_i hbrace
    rw [if_neg]
    · generalize count? flags fuel s = x
      obtain ⟨most, rest⟩ := x
      dsimp only
      split
      · rfl
      · rename_i hnone
        by_cases hclose : rest.head? = some '\x7d'
        · obtain ⟨r, rfl⟩ := List.head?_eq_some_iff.mp hclose
          rw [if_pos hclose]
          cases least with
          | none => rfl
          | some a =>
              cases most with
              | none => rfl
              | some b => cases hnone a b r rfl rfl rfl
        · rw [if_neg hclose]
    · simpa only [List.head?_eq_some_iff, not_exists] using hbrace

/-- The least and the most, as one value. -/
theorem mostCount?_follows (h : Continues n m t t') (hn : n ≤ fuel) (hm : m ≤ fuel')
    (least : Option Nat) :
  Follows Never n m
    ((mostCount? flags fuel least t).map fun (least, most, rest) => ((least, most), rest))
    ((mostCount? flags fuel' least t').map fun (least, most, rest) => ((least, most), rest))
  := by
  have hs := h.skip flags
  obtain ⟨hmost, hr⟩ := count?_follows flags hs hn hm
  rw [mostCount?_eq, mostCount?_eq]
  generalize flags.skip t = s, flags.skip t' = s' at hs hmost hr
  generalize count? flags fuel s = x, count? flags fuel' s' = y at hmost hr
  obtain ⟨most, r⟩ := x
  obtain ⟨most', r'⟩ := y
  cases hmost
  have hbrace := head?_follows hs (d := '\x7d') (by decide)
  have hclose := head?_follows hr (d := '\x7d') (by decide)
  cases least with
  | none =>
      simp only [Option.map_none, Option.bind_eq_bind, Option.bind_none, ite_self]
      exact Follows.none
  | some a =>
      dsimp only at hclose ⊢
      simp only [hbrace, hclose]
      split_ifs with hsbrace hrbrace
      · exact Follows.some (tail_follows hs (hbrace.mpr hsbrace))
      · cases most with
        | none => exact Follows.none
        | some b =>
            simp only [Option.bind_eq_bind, Option.bind_some]
            split_ifs
            · exact Follows.some (tail_follows hr (hclose.mpr hrbrace))
            · exact Follows.none
      · exact Follows.none

theorem counts?_follows (h : Continues n m t t') (hn : n ≤ fuel) (hm : m ≤ fuel') :
  Follows Never n m
    ((counts? flags fuel t).map fun (least, most, rest) => ((least, most), rest))
    ((counts? flags fuel' t').map fun (least, most, rest) => ((least, most), rest))
  := by
  obtain ⟨hleast, hr⟩ := count?_follows flags (h.skip flags) hn hm
  rw [counts?_eq, counts?_eq]
  generalize count? flags fuel (flags.skip t) = x, count? flags fuel' (flags.skip t') = y
    at hleast hr
  obtain ⟨least, r⟩ := x
  obtain ⟨least', r'⟩ := y
  cases hleast
  have hcomma := head?_follows hr (d := ',') (by decide)
  have hbrace := head?_follows hr (d := '\x7d') (by decide)
  dsimp only at hcomma hbrace ⊢
  simp only [hcomma, hbrace]
  split_ifs with hrcomma hrbrace
  · exact mostCount?_follows flags (tail_follows hr (hcomma.mpr hrcomma)) hn hm least
  · cases least with
    | none => exact Follows.none
    | some a => exact Follows.some (tail_follows hr (hbrace.mpr hrbrace))
  · exact Follows.none

/-- Where at most `closing` is left, no count stands in braces. -/
theorem counts?_eq_none (h : flags.skip t ⊆ closing) :
  counts? flags fuel t = none
  := by
  have hrest : (count? flags fuel (flags.skip t)).2 = flags.skip t := count?_eq flags h
  have hhead : ∀ d, d ∉ closing → (flags.skip t).head? ≠ some d :=
    fun d hd hhead => hd (h (List.mem_of_mem_head? hhead))
  rw [counts?_eq]
  generalize count? flags fuel (flags.skip t) = x at hrest
  obtain ⟨least, rest⟩ := x
  dsimp only at hrest ⊢
  rw [hrest, if_neg (hhead _ (by decide)), if_neg (hhead _ (by decide))]

theorem skipLazy_follows (h : Continues n m t t') :
  Continues n m (skipLazy t) (skipLazy t')
  := by
  have hskip : ∀ t : Text, skipLazy t = if t.head? = some '?' then t.tail else t := by
    intro t
    unfold skipLazy
    split
    · rfl
    · rename_i hlazy
      rw [if_neg]
      simpa only [List.head?_eq_some_iff, not_exists] using hlazy
  have hlazy := head?_follows h (d := '?') (by decide)
  rw [hskip, hskip]
  simp only [hlazy]
  split_ifs with ht'
  · exact tail_follows h (hlazy.mpr ht')
  · exact h

end

end QueryFilter.Pattern
