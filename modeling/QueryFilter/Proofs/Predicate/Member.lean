import Mathlib.Data.List.Forall2
import QueryFilter.Proofs.Dialect
import QueryFilter.Proofs.Predicate.Admitted

/-!
# Members by name

A literal names the declared member with that very name, or else the member at the only position
where the names agree up to the case of ASCII letters.  Whether one is named, and which one, does
not depend on the order in which the members are declared.
-/

namespace QueryFilter

/-! ### The case of ASCII letters -/

namespace Text

variable {c d : Char} {s t : Text}

/-- The first character is an ASCII capital, and the second one the same letter in lower case. -/
def IsCapitalOf (c d : Char) : Prop := 'A' ≤ c ∧ c ≤ 'Z' ∧ d.toNat = c.toNat + 32

/-- Two characters are equal up to the case of ASCII letters. -/
def SameLetter (c d : Char) : Prop := c = d ∨ IsCapitalOf c d ∨ IsCapitalOf d c

/-- Two texts are equal up to the case of ASCII letters. -/
def AgreeUpToCase (s t : Text) : Prop := List.Forall₂ SameLetter s t

theorem toNat_toLower (c : Char) :
  c.toLower.toNat = if 'A' ≤ c ∧ c ≤ 'Z' then c.toNat + 32 else c.toNat
  := by
  by_cases h : 'A' ≤ c ∧ c ≤ 'Z'
  · have hlower : c.toLower.toNat = (c.val + 32).toNat := congrArg Char.toNat (dif_pos h)
    have hlast : c.toNat ≤ 90 := h.2
    have hsum : (c.val + 32).toNat = (c.toNat + 32) % 2 ^ 32 := UInt32.toNat_add c.val 32
    rw [if_pos h, hlower, hsum]
    omega
  · have hlower : c.toLower = c := dif_neg h
    rw [if_neg h, hlower]

theorem toLower_eq_iff :
  c.toLower = d.toLower ↔ SameLetter c d
  := by
  have hbounds : ∀ c : Char, ('A' ≤ c ↔ 65 ≤ c.toNat) ∧ (c ≤ 'Z' ↔ c.toNat ≤ 90) :=
    fun c => ⟨Iff.rfl, Iff.rfl⟩
  rw [← Char.toNat_inj, toNat_toLower, toNat_toLower, SameLetter, IsCapitalOf, IsCapitalOf,
    ← Char.toNat_inj]
  simp only [hbounds]
  split_ifs <;> omega

/-- Texts are equal up to case exactly if they are when all ASCII capitals are put in lower case. -/
theorem foldAscii_eq_iff :
  s.foldAscii = t.foldAscii ↔ s.AgreeUpToCase t
  := by
  rw [foldAscii, foldAscii, ← List.forall₂_eq_eq_eq, List.forall₂_map_left_iff,
    List.forall₂_map_right_iff, AgreeUpToCase]
  simp only [toLower_eq_iff]

end Text

/-! ### The only position -/

/-- A list has one element with a property exactly if it has one at exactly one position. -/
theorem exists_filter_eq_singleton_iff {α : Type} {p : α → Bool} {l : List α} :
  (∃ a, l.filter p = [a]) ↔ ∃! i : Nat, ∃ a, l[i]? = some a ∧ p a = true
  := by
  constructor
  · rintro ⟨a, h⟩
    obtain ⟨before, after, rfl, hbefore, ha, hafter⟩ := List.filter_eq_cons_iff.mp h
    use before.length
    constructor
    · use a
      simp [ha]
    · rintro i ⟨b, hb, hpb⟩
      rcases Nat.lt_trichotomy i before.length with hlt | heq | hgt
      · rw [List.getElem?_append_left hlt] at hb
        cases hbefore b (List.mem_of_getElem? hb) hpb
      · apply heq
      · obtain ⟨k, rfl⟩ := Nat.exists_eq_add_of_lt hgt
        rw [Nat.add_assoc, List.getElem?_append_right (Nat.le_add_right _ _),
          Nat.add_sub_cancel_left, List.getElem?_cons_succ] at hb
        cases List.filter_eq_nil_iff.mp hafter b (List.mem_of_getElem? hb) hpb
  · rintro ⟨i, ⟨a, ha, hpa⟩, hunique⟩
    obtain ⟨hi, rfl⟩ := List.getElem?_eq_some_iff.mp ha
    use l[i]
    apply List.filter_eq_cons_iff.mpr
    use l.take i, l.drop (i + 1)
    refine ⟨?_, ?_, hpa, ?_⟩
    · rw [← List.drop_eq_getElem_cons, List.take_append_drop]
    · intro b hb hpb
      obtain ⟨j, hj⟩ := List.getElem?_of_mem hb
      rw [List.getElem?_take] at hj
      split at hj
      · rename_i hlt
        apply hlt.ne (hunique j ⟨b, hj, hpb⟩)
      · cases hj
    · apply List.filter_eq_nil_iff.mpr
      intro b hb hpb
      obtain ⟨j, hj⟩ := List.getElem?_of_mem hb
      rw [List.getElem?_drop] at hj
      have heq := hunique (i + 1 + j) ⟨b, hj, hpb⟩
      omega

namespace Dialect

variable {f f' : Field} {literal name : Text} {op : Operator} {relation : Relation}

/-! ### The named member -/

theorem member_of_mem (h : literal.trim ∈ f.members) :
  member f literal = .ok literal.trim
  := by simp only [member, List.contains_iff_mem.mpr h, if_true]

/-- The members whose names agree with a literal up to case. -/
def namesakes (f : Field) (literal : Text) : List Text :=
  f.members.filter fun m => m.foldAscii == literal.trim.foldAscii

theorem mem_namesakes_iff :
  name ∈ namesakes f literal ↔ name ∈ f.members ∧ name.AgreeUpToCase literal.trim
  := by rw [namesakes, List.mem_filter, beq_iff_eq, Text.foldAscii_eq_iff]

/-- A literal that is no member names the only namesake. -/
theorem member_eq_ok_iff (h : literal.trim ∉ f.members) :
  member f literal = .ok name ↔ namesakes f literal = [name]
  := by
  have hcontains := Bool.eq_false_iff.mpr (mt List.contains_iff_mem.mp h)
  simp only [member, hcontains, Bool.false_eq_true, if_false]
  rw [← namesakes]
  split
  · rename_i m hm
    simp [hm]
  · rename_i hm
    simp [hm]
  · rename_i hsome hnil
    constructor
    · rintro ⟨⟩
    · intro hm
      cases hsome name hm

/-- There is only one namesake exactly if names agree at one position only. -/
theorem exists_namesakes_eq_singleton_iff :
  (∃ m, namesakes f literal = [m])
    ↔ ∃! i : Nat, ∃ m, f.members[i]? = some m ∧ m.AgreeUpToCase literal.trim
  := by
  rw [namesakes, exists_filter_eq_singleton_iff]
  simp only [beq_iff_eq, Text.foldAscii_eq_iff]

theorem agreeUpToCase_of_member (h : member f literal = .ok name) :
  name.AgreeUpToCase literal.trim
  := by
  by_cases hmem : literal.trim ∈ f.members
  · rw [member_of_mem hmem] at h
    cases h
    apply Text.foldAscii_eq_iff.mp rfl
  · have hname : name ∈ namesakes f literal := by
      rw [(member_eq_ok_iff hmem).mp h]
      apply List.mem_singleton_self
    apply (mem_namesakes_iff.mp hname).2

/-- Which member is named does not depend on the order in which they are declared, nor does the
failure if none is. -/
theorem member_perm (hname : f'.name = f.name) (h : f'.members.Perm f.members) (literal : Text) :
  member f' literal = member f literal
  := by
  have hkept : (namesakes f' literal).Perm (namesakes f literal) := h.filter _
  rw [member, member, h.contains_eq, ← namesakes, ← namesakes, hname]
  generalize namesakes f literal = ms, namesakes f' literal = ms' at hkept ⊢
  cases ms with
  | nil => rw [hkept.eq_nil]
  | cons m ms =>
      cases ms with
      | nil => rw [hkept.eq_singleton]
      | cons m₂ ms =>
          cases ms' with
          | nil => cases hkept.length_eq
          | cons m' ms' =>
              cases ms' with
              | nil => cases hkept.length_eq
              | cons m₂' ms' => rfl

/-! ### Comparisons -/

theorem compare_enumeration_member (hop : (op, relation) ∈ [(.eq, .eq), (.ne, .ne)]) (loose : Bool)
    (f : Field) (literal : Text) (ignoreCase : Bool) :
  (enumeration loose).compare op f literal ignoreCase
    = (member f literal).map fun m => clause f relation (.member m) false
  := by
  simp only [List.mem_cons, Prod.mk.injEq, List.not_mem_nil, or_false] at hop
  rcases hop with ⟨rfl, rfl⟩ | ⟨rfl, rfl⟩
  · rfl
  · rfl

/-- Comparing with a literal compares with a declared member that agrees with it up to the case of
ASCII letters: with the literal itself if it is declared, and else with the member at the only
position where the names agree.  Without such a position, or with several, the input is invalid.
The order in which the members are declared does not matter. -/
theorem compare_namedMember (hop : (op, relation) ∈ [(.eq, .eq), (.ne, .ne)]) (loose : Bool)
    (f : Field) (literal : Text) (ignoreCase : Bool) :
  (∀ e, (enumeration loose).compare op f literal ignoreCase = .ok e →
      ∃ m ∈ f.members, m.AgreeUpToCase literal.trim ∧ e = clause f relation (.member m) false)
    ∧ (literal.trim ∈ f.members →
      (enumeration loose).compare op f literal ignoreCase
        = .ok (clause f relation (.member literal.trim) false))
    ∧ (literal.trim ∉ f.members →
      ((∃ e, (enumeration loose).compare op f literal ignoreCase = .ok e)
        ↔ ∃! i : Nat, ∃ m, f.members[i]? = some m ∧ m.AgreeUpToCase literal.trim))
    ∧ (∀ failure, (enumeration loose).compare op f literal ignoreCase = .error failure →
      failure.kind = .invalidInput)
    ∧ ∀ f' : Field, f'.name = f.name → f'.members.Perm f.members →
      (enumeration loose).compare op f' literal ignoreCase
        = (enumeration loose).compare op f literal ignoreCase
  := by
  simp only [compare_enumeration_member hop, Except.map_eq_ok_iff, Except.map_eq_error_iff]
  refine ⟨?_, ?_, ?_, ?_, ?_⟩
  · rintro e ⟨m, hm, rfl⟩
    use m, mem_members_of_member hm, agreeUpToCase_of_member hm
  · intro h
    exact ⟨literal.trim, member_of_mem h, rfl⟩
  · intro h
    rw [← exists_namesakes_eq_singleton_iff]
    simp only [member_eq_ok_iff h]
    constructor
    · rintro ⟨e, m, hm, -⟩
      use m
    · rintro ⟨m, hm⟩
      use clause f relation (.member m) false, m
  · intro failure h
    apply (ofLiteral_of_member h).kind_eq
  · intro f' hname hperm
    rw [member_perm hname hperm]
    simp only [clause, hname]

/-- Of two members with the same name up to case each is named by its own name only, in whatever
order they are declared. -/
theorem compare_namedMember_of_two :
  let mode : Field := ⟨"mode".toList, .enumeration ["on".toList, "ON".toList, "Off".toList]⟩
  let mode' : Field := ⟨"mode".toList, .enumeration ["Off".toList, "ON".toList, "on".toList]⟩
  (.ne, .ne) ∈ [(Operator.eq, Relation.eq), (.ne, .ne)]
    ∧ (enumeration false).compare .ne mode " ON ".toList true
      = .ok (clause mode .ne (.member "ON".toList) false)
    ∧ (∃! i : Nat, ∃ m, mode.members[i]? = some m ∧ m.AgreeUpToCase (Text.trim "OFF".toList))
    ∧ (∃ failure, (enumeration false).compare .ne mode' "oN".toList true = .error failure
      ∧ failure.kind = .invalidInput)
  := by
  intro mode mode'
  have hop : (.ne, .ne) ∈ [(Operator.eq, Relation.eq), (.ne, .ne)] := by decide
  obtain ⟨-, hdeclared, -, -, -⟩ := compare_namedMember hop false mode " ON ".toList true
  obtain ⟨-, -, hunique, -, -⟩ := compare_namedMember hop false mode "OFF".toList true
  obtain ⟨-, -, -, hkind, hperm⟩ := compare_namedMember hop false mode "oN".toList true
  have hfails : (enumeration false).compare .ne mode "oN".toList true
      = .error (.ambiguousMember "oN".toList mode.name) := by rfl
  refine ⟨hop, hdeclared (by decide), (hunique (by decide)).mp ⟨_, rfl⟩, _,
    (hperm mode' rfl (by decide)).trans hfails, hkind _ hfails⟩

end Dialect

end QueryFilter
