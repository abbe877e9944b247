import Mathlib.Data.List.Basic
import QueryFilter.Proofs.Text.Basic
import QueryFilter.Text.Quoted

/-!
# Reading quoted texts

`Text.readChar?` reads one character of a quoted text, whatever follows it: a character on its own,
one after a backslash, or one given by its code point.  So the forms of different characters are
told apart, and as none of them begins with a quote, a quoted text ends where it ends, whatever is
written behind it.
-/

namespace QueryFilter.Text

/-! ### Code points -/

/-- The number that hexadecimal digits spell. -/
def hexValue (digits : Text) : Nat :=
  digits.foldl (fun n c => 16 * n + (hexDigit? c).getD 0) 0

theorem hexDigit?_digitChar {n : Nat} (h : n < 16) :
  hexDigit? n.digitChar = some n
  := by
  have hall : ∀ n < 16, hexDigit? (Nat.digitChar n) = some n := by decide
  apply hall n h

theorem hexValue_toDigits (n : Nat) :
  hexValue (Nat.toDigits 16 n) = n
  := by
  induction n using Nat.strongRecOn with
  | ind n ih =>
      rw [Nat.toDigits_eq_if (by decide)]
      split
      · rename_i hlt
        simp [hexValue, hexDigit?_digitChar hlt]
      · have hdiv := ih (n / 16) (by omega)
        have hmod := hexDigit?_digitChar (Nat.mod_lt n (by decide))
        rw [hexValue] at hdiv ⊢
        rw [List.foldl_append, hdiv, List.foldl_cons, hmod]
        simp [Nat.div_add_mod]

/-- A closing brace is no digit. -/
theorem brace_notMem_toDigits (n : Nat) :
  '\x7d' ∉ Nat.toDigits 16 n
  := by
  induction n using Nat.strongRecOn with
  | ind n ih =>
      rw [Nat.toDigits_eq_if (by decide)]
      split
      · simp [(Nat.digitChar_ne '\x7d' rfl).symm]
      · have hdiv := ih (n / 16) (by omega)
        simp [hdiv, (Nat.digitChar_ne '\x7d' rfl).symm]

/-! ### Characters -/

/-- The character that a letter means after a backslash. -/
def unescape (c : Char) : Char :=
  if c = '0' then '\x00'
  else if c = 't' then '\t'
  else if c = 'r' then '\r'
  else if c = 'n' then '\n'
  else c

/-- Reads the form of a character between quotes. -/
def readChar? : Text → Option (Char × Text)
  | '\\' :: 'u' :: rest =>
    let digits := rest.tail.takeWhile (· ≠ '\x7d')
    some (Char.ofNat (hexValue digits), (rest.tail.drop digits.length).tail)
  | '\\' :: c :: rest => some (unescape c, rest)
  | c :: rest => some (c, rest)
  | [] => none

theorem readChar?_codePoint_append (c : Char) (rest : Text) :
  readChar? (codePoint c ++ rest) = some (c, rest)
  := by
  have htext : codePoint c ++ rest
      = '\\' :: 'u' :: '\x7b' :: (Nat.toDigits 16 c.toNat ++ '\x7d' :: rest) := by
    simp [codePoint]
  have hdigits := takeWhile_append_cons (brace_notMem_toDigits c.toNat) rest
  simp only [htext, readChar?, List.tail_cons, hdigits, hexValue_toDigits, Char.ofNat_toNat,
    List.drop_left]

/-- The form of a character is read as this character, whatever follows. -/
theorem readChar?_escapeChar_append (c : Char) (rest : Text) :
  readChar? (escapeChar c ++ rest) = some (c, rest)
  := by
  unfold escapeChar
  split_ifs with hzero htab hreturn hline hquote hbackslash hcode
  · rw [hzero]
    rfl
  · rw [htab]
    rfl
  · rw [hreturn]
    rfl
  · rw [hline]
    rfl
  · rw [hquote]
    rfl
  · rw [hbackslash]
    rfl
  · apply readChar?_codePoint_append
  · simp [readChar?, hbackslash]

/-- A character is known from its form, and so is what follows. -/
theorem escapeChar_append_inj {c d : Char} {rest rest' : Text} :
  escapeChar c ++ rest = escapeChar d ++ rest' ↔ c = d ∧ rest = rest'
  := by
  constructor
  · intro h
    have hread : some (c, rest) = some (d, rest') := by
      rw [← readChar?_escapeChar_append, h, readChar?_escapeChar_append]
    cases hread
    exact ⟨rfl, rfl⟩
  · rintro ⟨rfl, rfl⟩
    rfl

/-- The form of a character is not empty and does not begin with a quote. -/
theorem exists_escapeChar_eq_cons (c : Char) :
  ∃ d rest, escapeChar c = d :: rest ∧ d ≠ '"'
  := by
  unfold escapeChar
  split_ifs with hzero htab hreturn hline hquote hbackslash hcode
  -- Every form but the last one begins with a backslash.
  iterate 7 exact ⟨'\\', _, rfl, by decide⟩
  · exact ⟨c, [], rfl, hquote⟩

/-! ### Texts -/

theorem quote_append (t rest : Text) :
  t.quote ++ rest = '"' :: (t.flatMap escapeChar ++ '"' :: rest)
  := by simp [quote]

theorem flatMap_escapeChar_append_inj {s t rest rest' : Text} :
  s.flatMap escapeChar ++ '"' :: rest = t.flatMap escapeChar ++ '"' :: rest'
    ↔ s = t ∧ rest = rest'
  := by
  constructor
  · intro h
    induction s generalizing t with
    | nil =>
        cases t with
        | nil =>
            cases h
            exact ⟨rfl, rfl⟩
        | cons d t =>
            obtain ⟨first, form, hform, hfirst⟩ := exists_escapeChar_eq_cons d
            rw [List.flatMap_cons, hform] at h
            cases hfirst (List.cons.inj h).1.symm
    | cons c s ih =>
        cases t with
        | nil =>
            obtain ⟨first, form, hform, hfirst⟩ := exists_escapeChar_eq_cons c
            rw [List.flatMap_cons, hform] at h
            cases hfirst (List.cons.inj h).1
        | cons d t =>
            rw [List.flatMap_cons, List.flatMap_cons, List.append_assoc, List.append_assoc,
              escapeChar_append_inj] at h
            obtain ⟨rfl, hrest⟩ := h
            obtain ⟨rfl, rfl⟩ := ih hrest
            exact ⟨rfl, rfl⟩
  · rintro ⟨rfl, rfl⟩
    rfl

/-- A quoted text is known from its beginning on, and so is what follows. -/
theorem quote_append_inj {s t rest rest' : Text} :
  s.quote ++ rest = t.quote ++ rest' ↔ s = t ∧ rest = rest'
  := by
  rw [quote_append, quote_append, List.cons_inj_right, flatMap_escapeChar_append_inj]

end QueryFilter.Text
