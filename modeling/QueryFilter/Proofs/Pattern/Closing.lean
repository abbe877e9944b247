import Mathlib.Tactic.SplitIfs
import QueryFilter.Pattern.Element

/-!
# What is written after a pattern

A pattern that is put into a group has `closing` written after it, which closes the group and
asserts the end of the text.  A reader that gets through on the pattern alone gets through on the
longer text as well and leaves the same, with `closing` after it if it was there: no reader looks
beyond what it reads, but a comment at the end of the pattern may take `closing` in.  A reader that
fails on the pattern alone may get through on the longer text, and then it leaves but an end of
`closing`.  `Follows` says this of two answers; this module proves it of the readers of elements.
-/

namespace QueryFilter.Pattern

/-- The text that closes the group around a pattern and asserts the end. -/
def closing : Text := [')', '$']

theorem mem_closing {c : Char} (h : c ∈ closing) :
  c = ')' ∨ c = '$'
  := by simpa [closing] using h

theorem ne_of_notMem_closing {c : Char} (h : c ∉ closing) :
  c ≠ ')'
  := by
  rintro rfl
  exact h (by decide)

/-- What is left at the end of `closing` begins with one of its characters. -/
theorem eq_of_cons_subset {c : Char} {t : Text} (h : c :: t ⊆ closing) :
  c = ')' ∨ c = '$'
  := mem_closing (List.cons_subset.mp h).1

/-- A character that is no blank and begins no comment is never ignored. -/
theorem Flags.skip_cons (flags : Flags) {c : Char} {t : Text}
    (hblank : Text.isBlankChar c = false) (hc : c ≠ '#') :
  flags.skip (c :: t) = c :: t
  := by simp [Flags.skip, skipIgnored, hblank, hc]

/-- No character of `closing` is ever ignored. -/
theorem Flags.skip_of_subset (flags : Flags) {t : Text} (h : t ⊆ closing) :
  flags.skip t = t
  := by
  cases t with
  | nil => simp [Flags.skip, skipIgnored]
  | cons c t =>
      rcases eq_of_cons_subset h with rfl | rfl
      · exact flags.skip_cons rfl (by decide)
      · exact flags.skip_cons rfl (by decide)

/-- The second text is the first one or, where `n` and `m` differ by two, it may be the first one
with `closing` after it. There are at most `n` characters of the first and at most `m` of the
second. -/
inductive Continues : Nat → Nat → Text → Text → Prop
  | nil {n m : Nat} : Continues n m [] []
  | closing {n m : Nat} (hm : n + 2 ≤ m) : Continues n m [] closing
  | cons {n m : Nat} {t t' : Text} (c : Char) (h : Continues n m t t') :
      Continues (n + 1) (m + 1) (c :: t) (c :: t')

namespace Continues

variable {n m : Nat} {t t' : Text}

theorem succ (h : Continues n m t t') :
  Continues (n + 1) (m + 1) t t'
  := by
  induction h with
  | nil => exact nil
  | closing hm => exact closing (by omega)
  | cons c h ih => exact cons c ih

/-- A text and the text with `closing` after it. -/
theorem append (t : Text) :
  Continues t.length (t.length + 2) t (t ++ Pattern.closing)
  := by
  induction t with
  | nil => exact closing (Nat.le_refl _)
  | cons c t ih => exact cons c ih

/-- A text and itself. -/
theorem refl (t : Text) :
  Continues t.length t.length t t
  := by
  induction t with
  | nil => exact nil
  | cons c t ih => exact cons c ih

theorem skipIgnored (h : Continues n m t t') (comment : Bool) :
  Continues n m (skipIgnored comment t) (Pattern.skipIgnored comment t')
  := by
  induction h generalizing comment with
  | nil => exact nil
  | closing hm =>
      cases comment with
      | true => exact nil
      | false => exact closing hm
  | cons c h ih =>
      simp only [Pattern.skipIgnored]
      split_ifs
      · exact (ih _).succ
      · exact (ih _).succ
      · exact (ih _).succ
      · exact cons c h

/-- Blanks and comments end at the same place, unless a comment takes `closing` in. -/
theorem skip (h : Continues n m t t') (flags : Flags) :
  Continues n m (flags.skip t) (flags.skip t')
  := by
  unfold Flags.skip
  split
  · exact h.skipIgnored false
  · exact h

/-- The first text is at its end, and at most `closing` follows in the second one, or the next
character is the same. -/
theorem eq_nil_or_cons (h : Continues n m t t') :
  (t = [] ∧ t' ⊆ Pattern.closing)
    ∨ ∃ k l c r r', n = k + 1 ∧ m = l + 1 ∧ t = c :: r ∧ t' = c :: r' ∧ Continues k l r r'
  := by
  cases h with
  | nil => exact Or.inl ⟨rfl, List.nil_subset _⟩
  | closing => exact Or.inl ⟨rfl, List.Subset.refl _⟩
  | cons c h => exact Or.inr ⟨_, _, c, _, _, rfl, rfl, rfl, rfl, h⟩

end Continues

/-- The answer `y` to a text that `Continues` the one with the answer `x`. If there is a value in
`x`, then `y` has the same and leaves a text that continues the other rest; if there is none, then
what `y` has and leaves is `Late`. -/
def Follows {α : Type} (Late : α → Text → Prop) (n m : Nat) (x y : Option (α × Text)) : Prop :=
  match x with
  | some (a, r) => ∃ r', y = some (a, r') ∧ Continues n m r r'
  | none => ∀ a r, y = some (a, r) → Late a r

/-- There is no answer to the longer text either. -/
def Never {α : Type} (_ : α) (_ : Text) : Prop := False

namespace Follows

variable {α β : Type} {Late : α → Text → Prop} {Late' : β → Text → Prop} {n m k l : Nat}
  {x y : Option (α × Text)}

theorem some {a : α} {r r' : Text} (h : Continues n m r r') :
  Follows Late n m (some (a, r)) (some (a, r'))
  := ⟨r', rfl, h⟩

theorem none :
  Follows Late n m none none
  := by
  intro a r h
  cases h

theorem succ (h : Follows Late n m x y) :
  Follows Late (n + 1) (m + 1) x y
  := by
  cases x with
  | none => exact h
  | some p =>
      obtain ⟨r', hy, hr⟩ := h
      exact ⟨r', hy, hr.succ⟩

/-- What is done with the values of two answers that follow each other. -/
theorem bind {f g : α × Text → Option (β × Text)} (h : Follows Late n m x y)
    (hsome : ∀ a r r', Continues n m r r' → Follows Late' k l (f (a, r)) (g (a, r')))
    (hnone : ∀ a r, Late a r → ∀ b s, g (a, r) = .some (b, s) → Late' b s) :
  Follows Late' k l (x >>= f) (y >>= g)
  := by
  cases x with
  | none =>
      intro b s hs
      obtain ⟨⟨a, r⟩, hy, hg⟩ := Option.bind_eq_some_iff.mp hs
      exact hnone a r (h a r hy) b s hg
  | some p =>
      obtain ⟨r', rfl, hr⟩ := h
      exact hsome p.1 p.2 r' hr

/-- So it is when there is no answer to the longer text where there is none to the other. -/
theorem bind_of_never {f g : α × Text → Option (β × Text)} (h : Follows Never n m x y)
    (hsome : ∀ a r r', Continues n m r r' → Follows Late' k l (f (a, r)) (g (a, r'))) :
  Follows Late' k l (x >>= f) (y >>= g)
  := h.bind hsome fun _ _ hnever => hnever.elim

/-- What is done with a value that does not depend on the text. -/
theorem option_bind {γ : Type} {o : Option γ} {f g : γ → Option (α × Text)}
    (h : ∀ c, Follows Late n m (f c) (g c)) :
  Follows Late n m (o >>= f) (o >>= g)
  := by
  cases o with
  | none => exact Follows.none
  | some c => exact h c

/-- A value that does not depend on the text. -/
theorem option_map {γ : Type} (o : Option γ) (f : γ → α) {r r' : Text} (h : Continues n m r r') :
  Follows Late n m (o.map fun c => (f c, r)) (o.map fun c => (f c, r'))
  := by
  cases o with
  | none => exact Follows.none
  | some c => exact Follows.some h

theorem map {f : α → β} (h : Follows Late n m x y) (hlate : ∀ a r, Late a r → Late' (f a) r) :
  Follows Late' n m (x.map fun p => (f p.1, p.2)) (y.map fun p => (f p.1, p.2))
  := by
  cases x with
  | none =>
      intro b s hs
      obtain ⟨⟨a, r⟩, hy, hp⟩ := Option.map_eq_some_iff.mp hs
      cases hp
      exact hlate a _ (h a _ hy)
  | some p =>
      obtain ⟨r', rfl, hr⟩ := h
      exact ⟨r', rfl, hr⟩

theorem weaken {Late' : α → Text → Prop} (h : Follows Late n m x y)
    (hlate : ∀ a r, Late a r → Late' a r) :
  Follows Late' n m x y
  := by
  cases x with
  | none => exact fun a r hy => hlate a r (h a r hy)
  | some p => exact h

theorem of_never (h : Follows Never n m x y) :
  Follows Late n m x y
  := h.weaken fun _ _ => False.elim

theorem of_eq_none (hx : x = .none) (hy : ∀ a r, y = .some (a, r) → Late a r) :
  Follows Late n m x y
  := by
  subst hx
  exact hy

/-- The answers with two values, taken together as one value in `Follows`. -/
theorem pair_cases {x y : Option (α × β × Text)} {Late : α × β → Text → Prop}
    (h : Follows Late n m (x.map fun (a, b, r) => ((a, b), r))
      (y.map fun (a, b, r) => ((a, b), r))) :
  (x = .none ∧ ∀ a b r, y = .some (a, b, r) → Late (a, b) r)
    ∨ ∃ a b r r', x = .some (a, b, r) ∧ y = .some (a, b, r') ∧ Continues n m r r'
  := by
  cases x with
  | none =>
      refine Or.inl ⟨rfl, fun a b r hy => h (a, b) r ?_⟩
      rw [hy]
      rfl
  | some p =>
      obtain ⟨r', hy, hr⟩ := h
      obtain ⟨⟨a, b, r⟩, rfl, heq⟩ := Option.map_eq_some_iff.mp hy
      cases heq
      exact Or.inr ⟨p.1, p.2.1, p.2.2, r', rfl, rfl, hr⟩

end Follows

section

variable {n m fuel fuel' : Nat} {t t' : Text} (flags : Flags)

/-! ### Hexadecimal digits -/

theorem hexFixed?_follows (h : Continues n m t t') (count value : Nat) :
  Follows Never n m (hexFixed? flags count value t) (hexFixed? flags count value t')
  := by
  induction count generalizing n m t t' value with
  | zero => exact Follows.some h
  | succ count ih =>
      cases h with
      | nil => exact Follows.none
      | closing hm => exact Follows.none
      | cons c h =>
          simp only [hexFixed?]
          cases Text.hexDigit? c with
          | none => exact Follows.none
          | some d => exact (ih (h.skip flags) _).succ

theorem hexBraced?_eq_none (h : t ⊆ closing) (value : Option Nat) :
  hexBraced? flags fuel value t = none
  := by
  cases fuel with
  | zero => rfl
  | succ fuel =>
      cases t with
      | nil => rfl
      | cons c rest => rcases eq_of_cons_subset h with rfl | rfl <;> rfl

theorem hexBraced?_follows (h : Continues n m t t') (hn : n ≤ fuel) (hm : m ≤ fuel')
    (value : Option Nat) :
  Follows Never n m (hexBraced? flags fuel value t) (hexBraced? flags fuel' value t')
  := by
  -- The reader goes on after what is ignored, so the induction is on the bound and not on the text.
  induction n using Nat.strongRecOn generalizing m t t' fuel fuel' value with
  | ind n ih =>
      rcases h.eq_nil_or_cons with ⟨rfl, ht'⟩ | ⟨n, m, c, r, r', rfl, rfl, rfl, rfl, hr⟩
      · rw [hexBraced?_eq_none flags (List.nil_subset _), hexBraced?_eq_none flags ht']
        exact Follows.none
      · obtain ⟨fuel, rfl⟩ := Nat.exists_eq_add_of_le' (Nat.le_of_add_left_le hn)
        obtain ⟨fuel', rfl⟩ := Nat.exists_eq_add_of_le' (Nat.le_of_add_left_le hm)
        simp only [hexBraced?]
        split
        · cases value with
          | none => exact Follows.none
          | some v => exact Follows.some (hr.skip flags).succ
        · apply Follows.option_bind
          intro d
          apply (ih n (Nat.lt_succ_self n) (hr.skip flags) _ _ _).succ <;> omega

/-- A number that is read as the code point of a character. -/
theorem char?_follows {x y : Option (Nat × Text)} (h : Follows Never n m x y) (byte : Bool) :
  Follows Never n m (do let (n, rest) ← x; let c ← char? n; some (Element.literal c byte, rest))
    (do let (n, rest) ← y; let c ← char? n; some (Element.literal c byte, rest))
  := by
  apply h.bind_of_never
  intro value r r' hr
  apply Follows.option_bind
  intro c
  exact Follows.some hr

theorem hexLiteral?_follows (h : Continues n m t t') (hn : n ≤ fuel) (hm : m ≤ fuel')
    (letter : Char) :
  Follows Never n m (hexLiteral? flags fuel letter t) (hexLiteral? flags fuel' letter t')
  := by
  have hs := h.skip flags
  simp only [hexLiteral?]
  generalize flags.skip t = s, flags.skip t' = s' at hs
  generalize (if letter = 'x' then 2 else if letter = 'u' then 4 else 8) = count
  cases hs with
  | nil => exact char?_follows (hexFixed?_follows flags .nil _ _) _
  | closing h2 => exact char?_follows (hexFixed?_follows flags (.closing h2) _ _) _
  | @cons n m r r' c hr =>
      split
      · rename_i heq
        cases heq
        apply char?_follows
        apply (hexBraced?_follows flags (hr.skip flags) _ _ _).succ <;> omega
      · rename_i hc
        split
        · rename_i heq
          cases heq
          cases hc r rfl
        · exact char?_follows (hexFixed?_follows flags (.cons c hr) _ _) _

/-! ### Properties -/

theorem braced?_eq_none (h : flags.skip t ⊆ closing) (done : Text) :
  braced? flags fuel done t = none
  := by
  induction fuel generalizing t done with
  | zero => rfl
  | succ fuel ih =>
      cases ht : flags.skip t with
      | nil => simp only [braced?, ht]
      | cons c rest =>
          obtain ⟨hc, hrest⟩ := List.cons_subset.mp (ht ▸ h)
          have hbrace : c ≠ '\x7d' := by
            rcases mem_closing hc with rfl | rfl <;> decide
          simp only [braced?, ht, if_neg hbrace]
          apply ih
          rwa [Flags.skip_of_subset flags hrest]

theorem braced?_follows (h : Continues n m t t') (hn : n ≤ fuel) (hm : m ≤ fuel') (done : Text) :
  Follows Never n m (braced? flags fuel done t) (braced? flags fuel' done t')
  := by
  induction n using Nat.strongRecOn generalizing m t t' fuel fuel' done with
  | ind n ih =>
      rcases (h.skip flags).eq_nil_or_cons with
        ⟨ht, ht'⟩ | ⟨n, m, c, r, r', rfl, rfl, ht, ht', hr⟩
      · rw [braced?_eq_none flags (by simp [ht]), braced?_eq_none flags ht']
        exact Follows.none
      · obtain ⟨fuel, rfl⟩ := Nat.exists_eq_add_of_le' (Nat.le_of_add_left_le hn)
        obtain ⟨fuel', rfl⟩ := Nat.exists_eq_add_of_le' (Nat.le_of_add_left_le hm)
        simp only [braced?, ht, ht']
        split
        · exact Follows.some hr.succ
        · apply (ih n (Nat.lt_succ_self n) hr _ _ _).succ <;> omega

/-- Reads the name of a property: one letter, or a name in braces. -/
def propertyName? (flags : Flags) (fuel : Nat) (t : Text) : Option (Text × Text) :=
  match flags.skip t with
  | [] => none
  | c :: rest =>
    if c = '\\' then none
    else if c = '\x7b' then braced? flags fuel [] rest
    else some ([c], flags.skip rest)

theorem propertySet?_eq (negated : Bool) :
  propertySet? flags fuel negated t = (do
    let (name, rest) ← propertyName? flags fuel t
    let (otherValue, s) ← property? name
    if flags.unicode then some (.set ((flags.fold s).complIf (negated != otherValue)), rest)
    else none)
  := by
  unfold propertySet? propertyName?
  split <;> split <;> simp_all

/-- No script has a name of a single byte. -/
theorem Property.one_lt_utf8ByteSize_of_mem_scriptNames :
  ∀ entry ∈ scriptNames, ∀ name ∈ entry.2, 1 < name.utf8ByteSize
  := by decide +kernel

theorem Property.scriptNamed?_eq_none {name : Text} (h : (String.ofList name).utf8ByteSize ≤ 1) :
  scriptNamed? name = none
  := by
  rw [scriptNamed?, Option.map_eq_none_iff, List.find?_eq_none]
  intro entry hentry hany
  obtain ⟨n, hn, heq⟩ := List.any_eq_true.mp hany
  have hsize := one_lt_utf8ByteSize_of_mem_scriptNames entry hentry n hn
  rw [← String.ofList_toList (s := n), eq_of_beq heq] at hsize
  exact absurd h (Nat.not_le.mpr hsize)

/-- The characters of `closing` are no names of properties. -/
theorem property?_eq_none {c : Char} (h : c ∈ closing) :
  property? [c] = none
  := by
  have hcut : cut? "!=".toList [c] = none ∧ cut? [':'] [c] = none ∧ cut? ['='] [c] = none := by
    rcases mem_closing h with rfl | rfl <;> decide
  have hloose : Property.looseName [c] = [c] := by
    rcases mem_closing h with rfl | rfl <;> rfl
  have hbinary : Property.binaryNamed? [c] = none := by
    rcases mem_closing h with rfl | rfl <;> rfl
  have hcategory : Property.categoryNamed? [c] = none := by
    rcases mem_closing h with rfl | rfl <;> rfl
  have hscript : Property.scriptNamed? [c] = none := by
    apply Property.scriptNamed?_eq_none
    rcases mem_closing h with rfl | rfl <;> decide
  rw [property?, hcut.1, hcut.2.1, hcut.2.2]
  simp [Property.named?, Property.scriptSet?, hloose, hbinary, hcategory, hscript]

theorem propertySet?_eq_none (h : flags.skip t ⊆ closing) (negated : Bool) :
  propertySet? flags fuel negated t = none
  := by
  rw [propertySet?_eq, propertyName?]
  cases ht : flags.skip t with
  | nil => rfl
  | cons c rest =>
      have hc : c ∈ closing := (List.cons_subset.mp (ht ▸ h)).1
      have hname := property?_eq_none hc
      rcases mem_closing hc with rfl | rfl <;> simp [hname]

theorem propertySet?_follows (h : Continues n m t t') (hn : n ≤ fuel) (hm : m ≤ fuel')
    (negated : Bool) :
  Follows Never n m (propertySet? flags fuel negated t) (propertySet? flags fuel' negated t')
  := by
  rcases (h.skip flags).eq_nil_or_cons with ⟨ht, ht'⟩ | ⟨n, m, c, r, r', rfl, rfl, ht, ht', hr⟩
  · rw [propertySet?_eq_none flags (by simp [ht]), propertySet?_eq_none flags ht']
    exact Follows.none
  · have hname : Follows Never (n + 1) (m + 1) (propertyName? flags fuel t)
        (propertyName? flags fuel' t') := by
      simp only [propertyName?, ht, ht']
      split_ifs
      · exact Follows.none
      · exact (braced?_follows flags hr (Nat.le_of_succ_le hn) (Nat.le_of_succ_le hm) []).succ
      · exact Follows.some (hr.skip flags).succ
    rw [propertySet?_eq, propertySet?_eq]
    apply hname.bind_of_never
    intro name r r' hr
    apply Follows.option_bind
    intro p
    dsimp only
    split_ifs
    · exact Follows.some hr
    · exact Follows.none

/-! ### Escapes -/

theorem assertionName?_eq_none (h : t ⊆ closing) (done : Text) :
  assertionName? flags fuel done t = none
  := by
  cases fuel with
  | zero => rfl
  | succ fuel =>
      cases t with
      | nil => rfl
      | cons c rest => rcases eq_of_cons_subset h with rfl | rfl <;> rfl

theorem assertionName?_follows (h : Continues n m t t') (hn : n ≤ fuel) (hm : m ≤ fuel')
    (done : Text) :
  Follows Never n m (assertionName? flags fuel done t) (assertionName? flags fuel' done t')
  := by
  induction n using Nat.strongRecOn generalizing m t t' fuel fuel' done with
  | ind n ih =>
      rcases h.eq_nil_or_cons with ⟨rfl, ht'⟩ | ⟨n, m, c, r, r', rfl, rfl, rfl, rfl, hr⟩
      · rw [assertionName?_eq_none flags (List.nil_subset _), assertionName?_eq_none flags ht']
        exact Follows.none
      · obtain ⟨fuel, rfl⟩ := Nat.exists_eq_add_of_le' (Nat.le_of_add_left_le hn)
        obtain ⟨fuel', rfl⟩ := Nat.exists_eq_add_of_le' (Nat.le_of_add_left_le hm)
        simp only [assertionName?]
        split_ifs
        · exact Follows.some hr.succ
        · apply (ih n (Nat.lt_succ_self n) (hr.skip flags) _ _ _).succ <;> omega
        · exact Follows.none

/-- A word boundary before a brace, after which at most `closing` is left. -/
def AtBrace (flags : Flags) (e : Element) (r : Text) : Prop :=
  (∃ a, e = .assertion a) ∧ ∃ s, r = '\x7b' :: s ∧ flags.skip s ⊆ closing

theorem boundary?_cons {c : Char} (hc : c ≠ '\x7b') (rest : Text) :
  boundary? flags fuel (c :: rest) = some (.assertion .wordBoundary, c :: rest)
  := by
  unfold boundary?
  split
  · rename_i heq
    cases heq
    cases hc rfl
  · rfl

theorem boundary?_atBrace {e : Element} {r : Text} (h : flags.skip t ⊆ closing)
    (he : boundary? flags fuel ('\x7b' :: t) = some (e, r)) :
  AtBrace flags e r
  := by
  cases ht : flags.skip t with
  | nil =>
      simp only [boundary?, ht] at he
      cases he
  | cons c s =>
      have hc : isAssertionChar c = false := by
        rcases eq_of_cons_subset (ht ▸ h) with rfl | rfl <;> decide
      simp only [boundary?, ht, hc] at he
      cases he
      exact ⟨⟨_, rfl⟩, t, rfl, h⟩

theorem boundary?_follows (h : Continues n m t t') (hn : n ≤ fuel) (hm : m ≤ fuel') :
  Follows (AtBrace flags) n m (boundary? flags fuel t) (boundary? flags fuel' t')
  := by
  rcases h with _ | _ | @⟨n, m, r, r', c, hr⟩
  · exact Follows.some .nil
  · exact Follows.some (.closing ‹_›)
  -- A name in braces may be missing for want of further text only: then the brace is left.
  by_cases hc : c = '\x7b'
  · subst hc
    rcases (hr.skip flags).eq_nil_or_cons with
      ⟨ht, ht'⟩ | ⟨n, m, c, s, s', rfl, rfl, ht, ht', hs⟩
    · apply Follows.of_eq_none (by simp only [boundary?, ht])
      intro e s he
      exact boundary?_atBrace flags ht' he
    · simp only [boundary?, ht, ht']
      split_ifs
      · apply Follows.bind_of_never
        · apply (assertionName?_follows flags (.cons c hs) _ _ []).succ <;> omega
        · intro name r r' hr
          apply Follows.option_bind
          intro a
          exact Follows.some hr
      · exact Follows.some (.cons _ hr)
  · rw [boundary?_cons flags hc, boundary?_cons flags hc]
    exact Follows.some (.cons c hr)

/-- What an escape leaves that is over only where `closing` stands. -/
def LateEscape (flags : Flags) (e : Element) (r : Text) : Prop :=
  r ⊆ ['$'] ∨ AtBrace flags e r

theorem escape?_follows (h : Continues n m t t') (hn : n ≤ fuel) (hm : m ≤ fuel') :
  Follows (LateEscape flags) n m (escape? flags fuel t) (escape? flags fuel' t')
  := by
  rcases h with _ | _ | @⟨n, m, r, r', c, hr⟩
  · exact Follows.none
  · intro e r he
    cases he
    exact Or.inl (List.Subset.refl _)
  have hn' := Nat.le_of_succ_le hn
  have hm' := Nat.le_of_succ_le hm
  simp only [escape?]
  split_ifs
  · exact (hexLiteral?_follows flags hr hn' hm' c).of_never.succ
  · exact (propertySet?_follows flags hr hn' hm' _).of_never.succ
  · cases flags.classLetter? c with
    | none => exact Follows.none
    | some s => exact Follows.some hr.succ
  · exact Follows.some hr.succ
  · exact (boundary?_follows flags hr hn' hm').succ.weaken fun _ _ => Or.inr
  · split
    · exact Follows.some hr.succ
    · exact Follows.some hr.succ
    · exact Follows.none

end

end QueryFilter.Pattern
