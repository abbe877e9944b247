import Mathlib.Data.List.TakeWhile
import QueryFilter.Pattern.Bracket
import QueryFilter.Proofs.Pattern.Closing

/-!
# Bracketed sets before a closing

A bracketed set that ends within a pattern is read in the same way when `closing` stands after the
pattern.  One that does not end within the pattern does not end in `closing` either, which holds no
bracket.
-/

namespace QueryFilter.Pattern

/-- At most an end of `closing` is left. -/
def AtClosing {α : Type} (_ : α) (r : Text) : Prop := r ⊆ closing

section

variable {n m fuel fuel' : Nat} {t t' : Text} (flags : Flags)

/-! ### Leading parts -/

theorem leading?_atClosing {parts leading : List Part} {r : Text} (h : t ⊆ closing)
    (hr : leading? flags fuel parts t = some (leading, r)) :
  AtClosing leading r
  := by
  cases fuel with
  | zero => cases hr
  | succ fuel =>
      cases t with
      | nil => cases hr
      | cons c rest =>
          have hc : c ≠ '-' ∧ c ≠ ']' := by
            rcases eq_of_cons_subset h with rfl | rfl <;> decide
          simp only [leading?, if_neg hc.1, hc.2, false_and, if_false] at hr
          cases hr
          exact h

theorem leading?_follows (h : Continues n m t t') (hn : n ≤ fuel) (hm : m ≤ fuel')
    (parts : List Part) :
  Follows AtClosing n m (leading? flags fuel parts t) (leading? flags fuel' parts t')
  := by
  induction n using Nat.strongRecOn generalizing m t t' fuel fuel' parts with
  | ind n ih =>
      rcases h.eq_nil_or_cons with ⟨rfl, ht'⟩ | ⟨n, m, c, r, r', rfl, rfl, rfl, rfl, hr⟩
      · apply Follows.of_eq_none
        · cases fuel <;> rfl
        · intro leading r hr
          exact leading?_atClosing flags ht' hr
      · obtain ⟨fuel, rfl⟩ := Nat.exists_eq_add_of_le' (Nat.le_of_add_left_le hn)
        obtain ⟨fuel', rfl⟩ := Nat.exists_eq_add_of_le' (Nat.le_of_add_left_le hm)
        simp only [leading?]
        split_ifs
        · apply (ih n (Nat.lt_succ_self n) (hr.skip flags) _ _ _).succ <;> omega
        · have hs := (hr.skip flags).succ
          generalize flags.skip r = s, flags.skip r' = s' at hs
          cases hs with
          | nil => exact Follows.none
          | closing => exact fun _ _ hr => by cases hr; exact List.Subset.refl _
          | cons c hs => exact Follows.some (.cons c hs)
        · exact Follows.some (.cons c hr)

/-- Whether a text begins with a caret, and what follows the caret or else the text itself. -/
def caret? : Text → Bool × Text
  | '^' :: rest => (true, rest)
  | t => (false, t)

theorem caret?_eq (h : ∀ rest, t ≠ '^' :: rest) :
  caret? t = (false, t)
  := by
  unfold caret?
  split
  · cases h _ rfl
  · rfl

theorem caret?_follows (h : Continues n m t t') :
  (caret? t).1 = (caret? t').1 ∧ Continues n m (caret? t).2 (caret? t').2
  := by
  rcases h with _ | h2 | @⟨n, m, r, r', c, hr⟩
  · exact ⟨rfl, .nil⟩
  · exact ⟨rfl, .closing h2⟩
  · by_cases hc : c = '^'
    · subst hc
      exact ⟨rfl, hr.succ⟩
    · rw [caret?_eq (by simp [hc]), caret?_eq (by simp [hc])]
      exact ⟨rfl, .cons c hr⟩

theorem openBracket?_eq :
  openBracket? flags fuel t =
    (leading? flags fuel []
      (if (caret? (flags.skip t)).1 then flags.skip (caret? (flags.skip t)).2
        else (caret? (flags.skip t)).2)).map ((caret? (flags.skip t)).1, ·)
  := by
  unfold openBracket?
  split
  · rename_i heq
    rw [heq]
    rfl
  · rename_i hne
    rw [caret?_eq hne]
    rfl

/-- The leading parts and whether the set is a complement, as one value. -/
theorem openBracket?_follows (h : Continues n m t t') (hn : n ≤ fuel) (hm : m ≤ fuel') :
  Follows AtClosing n m
    ((openBracket? flags fuel t).map fun (negated, parts, rest) => ((negated, parts), rest))
    ((openBracket? flags fuel' t').map fun (negated, parts, rest) => ((negated, parts), rest))
  := by
  obtain ⟨hcaret, hr⟩ := caret?_follows (h.skip flags)
  rw [openBracket?_eq, openBracket?_eq, ← hcaret, Option.map_map, Option.map_map]
  refine (leading?_follows flags ?_ hn hm []).map fun _ _ => id
  split_ifs
  · exact hr.skip flags
  · exact hr

/-! ### Named sets -/

theorem takeWhile_follows {p : Char → Bool} (h : Continues n m t t') (hp : ∀ c ∈ closing, p c) :
  (t.dropWhile p = [] ∧ t'.dropWhile p = [])
    ∨ t.takeWhile p = t'.takeWhile p ∧ t.dropWhile p ≠ []
      ∧ Continues n m (t.dropWhile p) (t'.dropWhile p)
  := by
  induction h with
  | nil => exact Or.inl ⟨rfl, rfl⟩
  | closing hm => exact Or.inl ⟨rfl, List.dropWhile_eq_nil_iff.mpr hp⟩
  | cons c h ih =>
      cases hc : p c with
      | true =>
          simp only [List.dropWhile_cons_of_pos hc, List.takeWhile_cons_of_pos hc]
          exact ih.imp_right fun ⟨htake, hne, hdrop⟩ => ⟨congrArg _ htake, hne, hdrop.succ⟩
      | false =>
          have hneg : ¬ p c = true := by simp [hc]
          simp only [List.dropWhile_cons_of_neg hneg, List.takeWhile_cons_of_neg hneg]
          exact Or.inr ⟨trivial, List.cons_ne_nil _ _, .cons c h⟩

theorem after?_follows (head : Text) (h : Continues n m t t') (hhead : ∀ c ∈ head, c ∉ closing) :
  (Text.after? head t = none ∧ Text.after? head t' = none)
    ∨ ∃ r r', Text.after? head t = some r ∧ Text.after? head t' = some r' ∧ Continues n m r r'
  := by
  induction head generalizing n m t t' with
  | nil => exact Or.inr ⟨t, t', rfl, rfl, h⟩
  | cons d head ih =>
      obtain ⟨hd, hhead⟩ := List.forall_mem_cons.mp hhead
      cases h with
      | nil => exact Or.inl ⟨rfl, rfl⟩
      | closing => exact Or.inl ⟨rfl, if_neg (ne_of_notMem_closing hd)⟩
      | cons c hr =>
          by_cases hc : d = c
          · simp only [Text.after?, if_pos hc]
            rcases ih hr hhead with hnone | ⟨r, r', hsome, hsome', hrest⟩
            · exact Or.inl hnone
            · exact Or.inr ⟨r, r', hsome, hsome', hrest.succ⟩
          · exact Or.inl ⟨if_neg hc, if_neg hc⟩

/-- Reads the name of a set up to the end of its bracket. -/
def setName? (t : Text) : Option (CharSet × Text) := do
  let rest ← Text.after? ":]".toList (t.dropWhile (· != ':'))
  let set ← Property.asciiNamed? (t.takeWhile (· != ':'))
  some (set, rest)

theorem setName?_follows (h : Continues n m t t') :
  Follows Never n m (setName? t) (setName? t')
  := by
  unfold setName?
  rcases takeWhile_follows (p := (· != ':')) h (by simp [closing]) with
    ⟨ht, ht'⟩ | ⟨htake, -, hdrop⟩
  · rw [ht, ht']
    exact Follows.none
  · rw [htake]
    rcases after?_follows ":]".toList hdrop (by simp [closing]) with
      ⟨hr, hr'⟩ | ⟨r, r', hr, hr', hrest⟩
    · rw [hr, hr']
      exact Follows.none
    · rw [hr, hr']
      exact Follows.option_bind fun set => Follows.some hrest

theorem namedSet?_eq :
  namedSet? t =
    (Text.after? [':'] t).bind fun r => (setName? (caret? r).2).map fun p => ((caret? r).1, p)
  := by
  unfold namedSet?
  apply Option.bind_congr
  intro r _
  simp only [setName?, Option.bind_eq_bind, Option.map_bind, Function.comp_def, Option.map_some]
  split
  · rfl
  · rename_i hne
    rw [caret?_eq hne]

/-- The named set and whether its complement is meant, as one value. -/
theorem namedSet?_follows (h : Continues n m t t') :
  Follows Never n m
    ((namedSet? t).map fun (negated, set, rest) => ((negated, set), rest))
    ((namedSet? t').map fun (negated, set, rest) => ((negated, set), rest))
  := by
  rw [namedSet?_eq, namedSet?_eq]
  rcases after?_follows [':'] h (by simp [closing]) with ⟨hr, hr'⟩ | ⟨r, r', hr, hr', hrest⟩
  · rw [hr, hr']
    exact Follows.none
  · obtain ⟨hcaret, hbody⟩ := caret?_follows hrest
    rw [hr, hr', Option.bind_some, Option.bind_some, ← hcaret, Option.map_map, Option.map_map]
    exact (setName?_follows hbody).map fun _ _ => id

/-! ### Elements and ranges -/

theorem setElement?_cons {c : Char} (hc : c ≠ '\\') (rest : Text) :
  setElement? flags fuel (c :: rest) = some (.literal c false, rest)
  := by
  unfold setElement?
  split <;> simp_all

/-- An element takes at least one character. -/
theorem setElement?_cons_follows (h : Continues n m t t') (hn : n ≤ fuel) (hm : m ≤ fuel')
    (c : Char) :
  Follows (LateEscape flags) n m (setElement? flags fuel (c :: t))
    (setElement? flags fuel' (c :: t'))
  := by
  by_cases hc : c = '\\'
  · subst hc
    exact escape?_follows flags h hn hm
  · rw [setElement?_cons flags hc, setElement?_cons flags hc]
    exact Follows.some h

theorem setElement?_follows (h : Continues n m t t') (hn : n ≤ fuel) (hm : m ≤ fuel') :
  Follows (LateEscape flags) n m (setElement? flags fuel t) (setElement? flags fuel' t')
  := by
  cases h with
  | nil => exact Follows.none
  | closing =>
      intro e r he
      cases he
      exact Or.inl (List.Subset.refl _)
  | cons c hr =>
      exact (setElement?_cons_follows flags hr (Nat.le_of_succ_le hn) (Nat.le_of_succ_le hm) c).succ

theorem peekIgnored_follows (h : Continues n m t t') {d : Char} (hd : d ∉ closing)
    (comment : Bool) :
  peekIgnored comment t = some d ↔ peekIgnored comment t' = some d
  := by
  induction h generalizing comment with
  | nil => rfl
  | closing =>
      have hparen : peekIgnored comment closing = some ')' := by cases comment <;> rfl
      simp [peekIgnored, hparen, (ne_of_notMem_closing hd).symm]
  | cons c h ih =>
      simp only [peekIgnored]
      split_ifs
      · exact ih _
      · exact ih _
      · rfl

/-- Where everything is ignored, the next character is a blank or begins a comment. -/
theorem peekIgnored_or_head?_eq_some {d : Char} (hblank : Text.isBlankChar d = false)
    (hcomment : d ≠ '#') :
  (peekIgnored false t <|> t.head?) = some d ↔ peekIgnored false t = some d
  := by
  cases hpeek : peekIgnored false t with
  | some c => simp
  | none =>
      have hhead : t.head? ≠ some d := by
        intro hhead
        obtain ⟨rest, rfl⟩ := List.head?_eq_some_iff.mp hhead
        simp [peekIgnored, hblank, hcomment] at hpeek
      simp [hhead]

theorem head?_follows (h : Continues n m t t') {d : Char} (hd : d ∉ closing) :
  t.head? = some d ↔ t'.head? = some d
  := by
  cases h with
  | nil => rfl
  | closing => simp [closing, (ne_of_notMem_closing hd).symm]
  | cons c h => rfl

theorem tail_follows (h : Continues n m t t') {d : Char} (ht : t.head? = some d) :
  Continues n m t.tail t'.tail
  := by
  cases h with
  | nil => exact .nil
  | closing => cases ht
  | cons c h => exact h.succ

theorem peek_follows (h : Continues n m t t') {d : Char} (hd : d ∉ closing)
    (hblank : Text.isBlankChar d = false) (hcomment : d ≠ '#') :
  peek flags t = some d ↔ peek flags t' = some d
  := by
  unfold peek
  split_ifs
  · rw [peekIgnored_or_head?_eq_some hblank hcomment,
      peekIgnored_or_head?_eq_some hblank hcomment]
    exact peekIgnored_follows h hd false
  · exact head?_follows h hd

/-- What is read after the first element of a range: nothing, unless a hyphen makes a range. -/
def rangeFrom? (flags : Flags) (fuel : Nat) (first : Element) (t : Text) : Option (Part × Text) :=
  match flags.skip t with
  | [] => none
  | '-' :: rest =>
    if peek flags rest = some ']' ∨ peek flags rest = some '-' then
      (elementPart? flags first).map (·, '-' :: rest)
    else do
      let (last, t) ← setElement? flags fuel (flags.skip rest)
      let lo ← setLiteral? flags first
      let hi ← setLiteral? flags last
      if lo.toNat ≤ hi.toNat then some (⟨CharSet.range lo hi, 0⟩, t) else none
  | t => (elementPart? flags first).map (·, t)

theorem range?_eq :
  range? flags fuel t = setElement? flags fuel t >>= fun p => rangeFrom? flags fuel p.1 p.2
  := rfl

theorem rangeFrom?_eq_map {c : Char} {r : Text} (ht : flags.skip t = c :: r) (hc : c ≠ '-')
    (first : Element) :
  rangeFrom? flags fuel first t = (elementPart? flags first).map (·, c :: r)
  := by
  unfold rangeFrom?
  split
  · rename_i heq
    cases ht.symm.trans heq
  · rename_i heq
    cases ht.symm.trans heq
    cases hc rfl
  · rw [ht]

theorem rangeFrom?_atClosing {first : Element} {p : Part} {r : Text} (h : flags.skip t ⊆ closing)
    (hr : rangeFrom? flags fuel first t = some (p, r)) :
  AtClosing p r
  := by
  cases ht : flags.skip t with
  | nil =>
      simp only [rangeFrom?, ht] at hr
      cases hr
  | cons c rest =>
      have hc : c ≠ '-' := by
        rcases eq_of_cons_subset (ht ▸ h) with rfl | rfl <;> decide
      rw [rangeFrom?_eq_map flags ht hc, Option.map_eq_some_iff] at hr
      obtain ⟨p, -, heq⟩ := hr
      cases heq
      rwa [ht] at h

/-- An assertion neither stands in a bracketed set nor begins a range. -/
theorem rangeFrom?_assertion (a : Assertion) :
  rangeFrom? flags fuel (.assertion a) t = none
  := by
  unfold rangeFrom?
  split
  · rfl
  · split_ifs
    · rfl
    · cases setElement? flags fuel _ <;> rfl
  · rfl

theorem rangeFrom?_follows (h : Continues n m t t') (hn : n ≤ fuel) (hm : m ≤ fuel')
    (first : Element) :
  Follows AtClosing n m (rangeFrom? flags fuel first t) (rangeFrom? flags fuel' first t')
  := by
  rcases (h.skip flags).eq_nil_or_cons with ⟨ht, ht'⟩ | ⟨n, m, c, r, r', rfl, rfl, ht, ht', hr⟩
  · apply Follows.of_eq_none (by simp only [rangeFrom?, ht])
    intro p r hr
    exact rangeFrom?_atClosing flags ht' hr
  by_cases hc : c = '-'
  · subst hc
    simp only [rangeFrom?, ht, ht']
    have hpeek : (peek flags r = some ']' ∨ peek flags r = some '-') ↔
        (peek flags r' = some ']' ∨ peek flags r' = some '-') :=
      or_congr (peek_follows flags hr (by decide) (by decide) (by decide))
        (peek_follows flags hr (by decide) (by decide) (by decide))
    simp only [hpeek]
    split_ifs
    · exact Follows.option_map _ id (.cons _ hr)
    · apply ((setElement?_follows flags (hr.skip flags) (Nat.le_of_succ_le hn)
        (Nat.le_of_succ_le hm)).succ).bind
      · intro last s s' hs
        apply Follows.option_bind
        intro lo
        apply Follows.option_bind
        intro hi
        dsimp only
        split_ifs
        · exact Follows.some hs
        · exact Follows.none
      · intro last s hlate p rest hs
        obtain ⟨lo, -, hs⟩ := Option.bind_eq_some_iff.mp hs
        obtain ⟨hi, hhi, hs⟩ := Option.bind_eq_some_iff.mp hs
        split_ifs at hs
        cases hs
        rcases hlate with hdollar | ⟨⟨a, rfl⟩, -⟩
        · exact List.Subset.trans hdollar (by decide)
        · cases hhi
  · rw [rangeFrom?_eq_map flags ht hc, rangeFrom?_eq_map flags ht' hc]
    exact Follows.option_map _ id (.cons _ hr)

/-- A range takes at least one character. -/
theorem range?_cons_follows (h : Continues n m t t') (hn : n ≤ fuel) (hm : m ≤ fuel') (c : Char) :
  Follows AtClosing n m (range? flags fuel (c :: t)) (range? flags fuel' (c :: t'))
  := by
  rw [range?_eq, range?_eq]
  apply (setElement?_cons_follows flags h hn hm c).bind
  · intro first r r' hr
    exact rangeFrom?_follows flags hr hn hm first
  · rintro first r (hlate | ⟨⟨a, rfl⟩, -⟩) p s hs
    · have hclosing : r ⊆ closing := List.Subset.trans hlate (by decide)
      apply rangeFrom?_atClosing flags _ hs
      rwa [Flags.skip_of_subset flags hclosing]
    · rw [rangeFrom?_assertion] at hs
      cases hs

/-! ### Brackets -/

/-- What is left of `closing` is no element of a range. -/
theorem range?_atClosing {p : Part} {r : Text} (h : t ⊆ closing)
    (hr : range? flags fuel t = some (p, r)) :
  AtClosing p r
  := by
  cases t with
  | nil => cases hr
  | cons c rest =>
      obtain ⟨hc, hrest⟩ := List.cons_subset.mp h
      have hbackslash : c ≠ '\\' := by
        rcases mem_closing hc with rfl | rfl <;> decide
      rw [range?_eq, setElement?_cons flags hbackslash] at hr
      apply rangeFrom?_atClosing flags _ hr
      rwa [Flags.skip_of_subset flags hrest]

/-- What neither opens nor closes a bracket and is no operator is read as a range. -/
theorem bracketFrom?_range {c : Char} {r : Text} (ht : flags.skip t = c :: r) (hopen : c ≠ '[')
    (hclose : c ≠ ']') (hop : ∀ rest, r = c :: rest → c ≠ '&' ∧ c ≠ '-' ∧ c ≠ '~')
    (stack : List Unfinished) (parts : List Part) :
  bracketFrom? flags (fuel + 1) stack parts t =
    range? flags fuel (c :: r) >>= fun p => bracketFrom? flags fuel stack (p.1 :: parts) p.2
  := by
  rw [bracketFrom?, ht]
  split <;> simp_all

/-- No bracket ends in `closing`. -/
theorem bracketFrom?_eq_none (h : flags.skip t ⊆ closing) (stack : List Unfinished)
    (parts : List Part) :
  bracketFrom? flags fuel stack parts t = none
  := by
  induction fuel generalizing t parts with
  | zero => rfl
  | succ fuel ih =>
      cases ht : flags.skip t with
      | nil => simp only [bracketFrom?, ht]
      | cons c rest =>
          rw [ht] at h
          have hc : c ≠ '[' ∧ c ≠ ']' ∧ c ≠ '&' ∧ c ≠ '-' ∧ c ≠ '~' := by
            rcases eq_of_cons_subset h with rfl | rfl <;> decide
          rw [bracketFrom?_range flags ht hc.1 hc.2.1 fun _ _ => hc.2.2]
          cases hp : range? flags fuel (c :: rest) with
          | none => rfl
          | some p =>
              apply ih
              have hlate : p.2 ⊆ closing := range?_atClosing flags h hp
              rwa [Flags.skip_of_subset flags hlate]

/-- So it is when nothing is ignored before it. -/
theorem bracketFrom?_closing {stack : List Unfinished} {parts : List Part} (h : t ⊆ closing) :
  bracketFrom? flags fuel stack parts t = none
  := by
  apply bracketFrom?_eq_none
  rwa [Flags.skip_of_subset flags h]

/-- The contents of a bracket that has just been opened. -/
theorem openBracket?_bind_follows {k l : Nat} (h : Continues n m t t') (hn : n ≤ fuel)
    (hm : m ≤ fuel') (stack : Bool → List Unfinished)
    (hnext : ∀ stack leading r r', Continues n m r r' → Follows Never k l
      (bracketFrom? flags fuel stack leading r) (bracketFrom? flags fuel' stack leading r')) :
  Follows Never k l
    (do
      let (negated, leading, rest) ← openBracket? flags fuel t
      bracketFrom? flags fuel (stack negated) leading rest)
    (do
      let (negated, leading, rest) ← openBracket? flags fuel' t'
      bracketFrom? flags fuel' (stack negated) leading rest)
  := by
  rcases (openBracket?_follows flags h hn hm).pair_cases with
    ⟨hopen, hopen'⟩ | ⟨negated, leading, r, r', hopen, hopen', hr⟩
  · apply Follows.of_eq_none (by simp [hopen])
    intro part rest hpart
    obtain ⟨⟨negated, leading, r⟩, hr, hpart⟩ := Option.bind_eq_some_iff.mp hpart
    have hnone := hpart.symm.trans (bracketFrom?_closing flags (hopen' negated leading r hr))
    cases hnone
  · simp only [hopen, hopen']
    exact hnext _ leading r r' hr

theorem bracketFrom?_follows (h : Continues n m t t') (hn : n < fuel) (hm : m < fuel')
    (stack : List Unfinished) (parts : List Part) :
  Follows Never n m (bracketFrom? flags fuel stack parts t)
    (bracketFrom? flags fuel' stack parts t')
  := by
  induction n using Nat.strongRecOn generalizing m t t' fuel fuel' stack parts with
  | ind n ih =>
    rcases (h.skip flags).eq_nil_or_cons with ⟨ht, ht'⟩ | ⟨n, m, c, r, r', rfl, rfl, ht, ht', hr⟩
    · rw [bracketFrom?_eq_none flags (by simp [ht]), bracketFrom?_eq_none flags ht']
      exact Follows.none
    obtain ⟨fuel, rfl⟩ := Nat.exists_eq_add_of_le' (Nat.zero_lt_of_lt hn)
    obtain ⟨fuel', rfl⟩ := Nat.exists_eq_add_of_le' (Nat.zero_lt_of_lt hm)
    replace hn := Nat.lt_of_succ_lt_succ hn
    replace hm := Nat.lt_of_succ_lt_succ hm
    have hnext : ∀ {s s' : Text} (stack : List Unfinished) (parts : List Part),
        Continues n m s s' → Follows Never (n + 1) (m + 1)
          (bracketFrom? flags fuel stack parts s) (bracketFrom? flags fuel' stack parts s') :=
      fun stack parts hs => (ih n (Nat.lt_succ_self n) hs hn hm stack parts).succ
    -- A named set, or a bracket within the bracket.
    by_cases hopen : c = '['
    · subst hopen
      simp only [bracketFrom?, ht, ht']
      rcases (namedSet?_follows hr).pair_cases with
        ⟨hname, hname'⟩ | ⟨negated, set, s, s', hname, hname', hs⟩
      · have hname' : namedSet? r' = none := by
          rw [Option.eq_none_iff_forall_not_mem]
          rintro ⟨negated, set, s⟩ hs
          exact hname' negated set s hs
        simp only [hname, hname']
        exact openBracket?_bind_follows flags hr (Nat.le_of_lt hn) (Nat.le_of_lt hm)
          (fun negated => .bracket negated parts :: stack)
          fun stack leading _ _ => hnext stack leading
      · simp only [hname, hname']
        exact Follows.option_bind fun set => hnext stack _ hs
    -- The end of the innermost bracket.
    by_cases hclose : c = ']'
    · subst hclose
      simp only [bracketFrom?, ht, ht']
      split
      · apply Follows.option_bind
        intro part
        split_ifs
        · exact Follows.some hr.succ
        · exact hnext _ _ hr
      · exact Follows.none
    -- An operator, or else a range.
    by_cases hop : ∃ rest, r = c :: rest ∧ (c = '&' ∨ c = '-' ∨ c = '~')
    · obtain ⟨rest, rfl, hc⟩ := hop
      cases hr with
      | @cons n m _ rest' c hr =>
        rcases hc with rfl | rfl | rfl
        · simp only [bracketFrom?, ht, ht']
          exact hnext _ _ hr.succ
        · simp only [bracketFrom?, ht, ht']
          exact hnext _ _ hr.succ
        · simp only [bracketFrom?, ht, ht']
          exact hnext _ _ hr.succ
    · have hrange : ∀ rest, r = c :: rest → c ≠ '&' ∧ c ≠ '-' ∧ c ≠ '~' := by
        intro rest hrest
        have hne : ¬ (c = '&' ∨ c = '-' ∨ c = '~') := fun hc => hop ⟨rest, hrest, hc⟩
        simpa only [not_or] using hne
      have hrange' : ∀ rest, r' = c :: rest → c ≠ '&' ∧ c ≠ '-' ∧ c ≠ '~' := by
        rintro rest rfl
        cases hr with
        | closing => decide
        | cons c hr => exact hrange _ rfl
      rw [bracketFrom?_range flags ht hopen hclose hrange,
        bracketFrom?_range flags ht' hopen hclose hrange']
      apply (range?_cons_follows flags hr (Nat.le_of_lt hn) (Nat.le_of_lt hm) c).bind
      · intro p s s' hs
        exact hnext _ _ hs
      · intro p s hlate part rest hpart
        rw [bracketFrom?_closing flags hlate] at hpart
        cases hpart

theorem bracket?_follows (h : Continues n m t t') (hn : n < fuel) (hm : m < fuel') :
  Follows Never n m (bracket? flags fuel t) (bracket? flags fuel' t')
  := openBracket?_bind_follows flags h (Nat.le_of_lt hn) (Nat.le_of_lt hm)
    (fun negated => [.bracket negated []])
    fun stack leading _ _ hr => bracketFrom?_follows flags hr hn hm stack leading

end

end QueryFilter.Pattern
