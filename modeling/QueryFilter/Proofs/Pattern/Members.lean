import QueryFilter.Dialect
import QueryFilter.Proofs.Pattern.Run
import QueryFilter.Proofs.Pattern.Whole

/-!
# Patterns for the members of enumerations

A pattern for the members of an enumeration is read between `opening` and `closing`, as one text.
If it closes no group that it does not open, it selects the members whose lowercase names it matches
as a whole, and it is refused if it is no pattern by itself.  A pattern that ends in a comment is
refused as well, since `closing` then belongs to the comment.  A text that closes the group around
it is no pattern by itself (`piece?_eq_none_of_closesUnopened`), but may be given a meaning by
`opening` and `closing`: `)|(` selects every member.
-/

namespace QueryFilter

open Pattern

/-- The flags under which the names of members are matched. -/
def Pattern.memberFlags : Flags := { ignoreCase := true }

/-- Matching between the assertions is matching as a whole. -/
theorem Pattern.isMatch_anchored (p : Piece) :
  (anchored memberFlags p).regex.isMatch = p.regex.matchesWhole
  := by
  funext t
  exact Regex.isMatch_anchored p.regex memberFlags.word t

namespace Dialect

variable {source : Text}

theorem compare_matches_eq (f : Field) (ignoreCase : Bool) :
  (enumeration true).compare .matches f source ignoreCase =
    match memberPattern? source with
    | some r => .ok (select f r.isMatch)
    | none => .error .invalidPattern
  := rfl

theorem memberPattern?_eq :
  memberPattern? source =
    (piece? memberFlags (opening ++ (source ++ closing))).bind fun p =>
      if withinLimits p then some p.regex else none
  := by
  rw [← read?_eq, ← List.append_assoc]
  rfl

/-- A pattern that closes no group around it is refused if it is no pattern by itself, ends in a
comment or is too big, and selects the members that it matches as a whole if not. -/
theorem compare_matches_member (f : Field) (ignoreCase : Bool)
    (hclosed : closesUnopened memberFlags source = false) :
  (enumeration true).compare .matches f source ignoreCase =
    match piece? memberFlags source with
    | some p =>
      if endsInComment memberFlags source || !withinLimits (anchored memberFlags p) then
        .error .invalidPattern
      else
        .ok (clause f .oneOf
          (.members (f.members.filter fun m => p.regex.matchesWhole m.lowercase)) false)
    | none => .error .invalidPattern
  := by
  rw [compare_matches_eq, memberPattern?_eq]
  cases hp : piece? memberFlags source with
  | none =>
      rw [piece?_opening_closing_eq_none hp hclosed]
      rfl
  | some p =>
      rw [piece?_opening_closing hp]
      cases hcomment : endsInComment memberFlags source with
      | true => rfl
      | false =>
          cases hfits : withinLimits (anchored memberFlags p) with
          | false => simp [hfits]
          | true => simp [hfits, select, isMatch_anchored]

/-- The name of a member is matched as a whole, and in lower case. -/
theorem compare_matches_member_of_active :
  let status : Field := ⟨"status".toList, .enumeration ["ACTIVE".toList, "INACTIVE".toList]⟩
  let source : Text := "(?-i)active".toList
  closesUnopened memberFlags source = false
    ∧ (enumeration true).compare .matches status source false =
      .ok (clause status .oneOf (.members ["ACTIVE".toList]) false)
  := by
  intro status source
  have hclosed : closesUnopened memberFlags source = false := by decide
  have hcomment : endsInComment memberFlags source = false := by decide
  have hread : (piece? memberFlags source).any (fun p => withinLimits (anchored memberFlags p)
      && status.members.filter (fun m => p.regex.matchesWhole m.lowercase) ==
        ["ACTIVE".toList]) := by
    decide +kernel
  refine ⟨hclosed, ?_⟩
  rw [compare_matches_member status false hclosed]
  cases hp : piece? memberFlags source with
  | none =>
      rw [hp] at hread
      cases hread
  | some p =>
      rw [hp, Option.any_some, Bool.and_eq_true] at hread
      obtain ⟨hfits, hselected⟩ := hread
      simp only [hcomment, hfits, eq_of_beq hselected, Bool.not_true, Bool.or_self,
        Bool.false_eq_true, if_false]

/-- Not every text that is no pattern is refused, and so not every pattern selects the members that
it matches as a whole. -/
theorem not_forall_compare_matches_member :
  ¬ ∀ (f : Field) (ignoreCase : Bool) (source : Text),
    (enumeration true).compare .matches f source ignoreCase =
      match read? memberFlags source with
      | some r =>
        .ok (clause f .oneOf
          (.members (f.members.filter fun m => r.matchesWhole m.lowercase)) false)
      | none => .error .invalidPattern
  := by
  intro h
  let status : Field := ⟨"status".toList, .enumeration ["ACTIVE".toList, "INACTIVE".toList]⟩
  let source : Text := ")|(".toList
  have hnone : read? memberFlags source = none :=
    Option.isNone_iff_eq_none.mp (by decide +kernel)
  obtain ⟨r, hr⟩ : ∃ r, memberPattern? source = some r :=
    Option.isSome_iff_exists.mp (by decide +kernel)
  have hrefused := h status false source
  rw [compare_matches_eq, hr, hnone] at hrefused
  cases hrefused

end Dialect

end QueryFilter
