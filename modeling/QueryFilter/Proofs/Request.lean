import Mathlib.Data.List.Basic
import QueryFilter.Request

/-!
# Looking sent values up

The values of a field are those sent under one name: its name without the root, or else its full
name, or else its alias, whichever is sent at all.  The first value is the head of all values, since
both are looked up under this name.
-/

namespace QueryFilter

namespace Parameters

variable {p : Parameters} {f : Field} {name : Text} {aliasName : Option Text}

/-- The first value sent under a name is the first of all values sent under it. -/
theorem first?_eq_head? (p : Parameters) (name : Text) :
  p.first? name = (p.values name).head?
  := by rw [first?, values, List.head?_map, List.head?_filter]

/-! ### Names -/

/-- The names that are not seen yet are those of the parameters without the seen ones and without
repetitions. -/
theorem namesAfter_eq (seen : List Text) (pairs : List (Text × Text)) :
  namesAfter seen pairs = ((pairs.map Prod.fst).filter fun n => !seen.contains n).eraseDups
  := by
  induction pairs generalizing seen with
  | nil => rfl
  | cons pair rest ih =>
      rw [namesAfter, List.map_cons, List.filter_cons]
      cases hseen : seen.contains pair.1 with
      | true =>
          simp only [Bool.not_true, Bool.false_eq_true, ↓reduceIte]
          apply ih
      | false =>
          simp only [Bool.not_false, Bool.false_eq_true, ↓reduceIte]
          rw [List.eraseDups_cons, ih, List.filter_filter]
          apply congrArg fun names : List Text => pair.1 :: names.eraseDups
          apply List.filter_congr
          intro n _
          rw [List.contains_cons, Bool.not_or]

/-- The names of parameters are named once each, in order of first appearance. -/
theorem names_eq_eraseDups (p : Parameters) :
  p.names = (p.pairs.map Prod.fst).eraseDups
  := by
  rw [names, namesAfter_eq]
  simp

/-- A name is one under which values are sent. -/
theorem mem_names_iff (p : Parameters) (name : Text) :
  name ∈ p.names ↔ p.values name ≠ []
  := by
  rw [names_eq_eraseDups, List.mem_eraseDups, List.mem_map]
  simp [values, List.filter_eq_nil_iff]

/-! ### The name of a field -/

/-- The full name is the relative name after the root and a dot. -/
theorem relativeName?_eq_some_iff {relative : Text} :
  p.relativeName? name = some relative ↔ ∃ root, p.root = some root ∧ name = root ++ '.' :: relative
  := by simp [relativeName?, Option.bind_eq_some_iff, Text.after?_eq_some_iff]

/-- Nothing is sent under the name of the field without the root, if there is such a name. -/
def LacksRelative (p : Parameters) (f : Field) : Prop :=
  ∀ root name, p.root = some root → f.name = root ++ '.' :: name → name ∉ p.names

/-- The name is the first one sent among the names of the field: its name without the root, its full
name, and its alias if that is not blank. -/
inductive IsNameOf (p : Parameters) (f : Field) (aliasName : Option Text) : Text → Prop where
  | byRelative {root name : Text} (hroot : p.root = some root)
      (hname : f.name = root ++ '.' :: name) (hsent : name ∈ p.names) :
      p.IsNameOf f aliasName name
  | byName (hrelative : p.LacksRelative f) (hsent : f.name ∈ p.names) :
      p.IsNameOf f aliasName f.name
  | byAlias {name : Text} (hrelative : p.LacksRelative f) (hfull : f.name ∉ p.names)
      (halias : aliasName = some name) (hblank : name.isBlank = false) (hsent : name ∈ p.names) :
      p.IsNameOf f aliasName name

theorem find?_toList (sent : Text → Bool) (o : Option Text) :
  o.toList.find? sent = o.filter sent
  := by rw [← List.head?_filter, ← Option.toList_filter, Option.head?_toList]

theorem filter_relativeName?_eq_none_iff :
  (p.relativeName? f.name).filter (· ∈ p.names) = none ↔ p.LacksRelative f
  := by
  simp only [Option.filter_eq_none_iff, relativeName?_eq_some_iff, decide_eq_true_eq, LacksRelative]
  constructor
  · intro h root name hroot hname
    apply h name ⟨root, hroot, hname⟩
  · rintro h name ⟨root, hroot, hname⟩
    apply h root name hroot hname

theorem isNameOf_iff :
  p.IsNameOf f aliasName name
    ↔ (p.candidateNames f aliasName).find? (· ∈ p.names) = some name
  := by
  rw [candidateNames, List.append_assoc, List.find?_append, List.find?_append,
    Option.or_eq_some_iff, Option.or_eq_some_iff, find?_toList, find?_toList,
    filter_relativeName?_eq_none_iff]
  simp only [Option.filter_eq_some_iff, relativeName?_eq_some_iff, List.find?_singleton,
    decide_eq_true_eq, Option.ite_none_right_eq_some, ite_eq_right_iff, reduceCtorEq, imp_false,
    Option.some.injEq, Bool.not_eq_true']
  constructor
  · intro h
    cases h with
    | byRelative hroot hname hsent =>
        left
        exact ⟨⟨_, hroot, hname⟩, hsent⟩
    | byName hrelative hsent =>
        right
        use hrelative
        left
        use hsent
    | byAlias hrelative hfull halias hblank hsent =>
        right
        use hrelative
        right
        exact ⟨hfull, ⟨halias, hblank⟩, hsent⟩
  · rintro (⟨⟨root, hroot, hname⟩, hsent⟩ | ⟨hrelative, ⟨hsent, rfl⟩
      | ⟨hfull, ⟨halias, hblank⟩, hsent⟩⟩)
    · apply IsNameOf.byRelative hroot hname hsent
    · apply IsNameOf.byName hrelative hsent
    · apply IsNameOf.byAlias hrelative hfull halias hblank hsent

theorem IsNameOf.mem_names (h : p.IsNameOf f aliasName name) :
  name ∈ p.names
  := by
  cases h with
  | byRelative hroot hname hsent => apply hsent
  | byName hrelative hsent => apply hsent
  | byAlias hrelative hfull halias hblank hsent => apply hsent

/-- Values of two names are never mixed. -/
theorem IsNameOf.unique {name' : Text} (h : p.IsNameOf f aliasName name)
    (h' : p.IsNameOf f aliasName name') :
  name = name'
  := Option.some.inj ((isNameOf_iff.mp h).symm.trans (isNameOf_iff.mp h'))

/-! ### The values of a field -/

/-- All values of a field are those sent under its name. -/
theorem allValues?_eq_some_iff {values : List Text} :
  p.allValues? f aliasName = some values
    ↔ ∃ name, p.IsNameOf f aliasName name ∧ values = p.values name
  := by
  have hsent : (fun values => !values.isEmpty) ∘ p.values
      = fun name => decide (name ∈ p.names) := by
    funext name
    rw [Bool.eq_iff_iff, decide_eq_true_iff, mem_names_iff]
    simp
  rw [allValues?, List.find?_map, hsent, Option.map_eq_some_iff]
  simp only [isNameOf_iff, @eq_comm _ values]

/-- The first value of a field is the head of all its values. -/
theorem firstValue?_eq_bind (p : Parameters) (f : Field) (aliasName : Option Text) :
  p.firstValue? f aliasName = (p.allValues? f aliasName).bind List.head?
  := by
  rw [firstValue?, allValues?]
  induction p.candidateNames f aliasName with
  | nil => rfl
  | cons name names ih =>
      rw [List.findSome?_cons, List.map_cons, List.find?_cons, first?_eq_head?]
      cases hvalues : p.values name with
      | nil => apply ih
      | cons v vs => rfl

/-- Without a value of the field there is no first one, and only then. -/
theorem firstValue?_eq_none_iff :
  p.firstValue? f aliasName = none ↔ p.allValues? f aliasName = none
  := by
  rw [firstValue?_eq_bind]
  cases hall : p.allValues? f aliasName with
  | none => simp
  | some values =>
      obtain ⟨name, hname, rfl⟩ := allValues?_eq_some_iff.mp hall
      obtain ⟨v, vs, hvalues⟩ :=
        List.exists_cons_of_ne_nil ((mem_names_iff p name).mp hname.mem_names)
      simp [hvalues]

theorem lookup_of_isNameOf (h : p.IsNameOf f aliasName name) :
  p.firstValue? f aliasName = (p.values name).head?
    ∧ p.allValues? f aliasName = some (p.values name)
  := by
  have hall := allValues?_eq_some_iff.mpr ⟨name, h, rfl⟩
  rw [firstValue?_eq_bind, hall]
  exact ⟨rfl, rfl⟩

theorem lacksRelative_of_root_eq_none (hroot : p.root = none) (f : Field) :
  p.LacksRelative f
  := by
  intro root name hsome
  rw [hroot] at hsome
  cases hsome

/-- Without a root, values sent under the name of a field are those of the field. -/
theorem lookup_of_name (hroot : p.root = none) (h : p.values f.name ≠ [])
    (aliasName : Option Text) :
  p.firstValue? f aliasName = (p.values f.name).head?
    ∧ p.allValues? f aliasName = some (p.values f.name)
  := by
  apply lookup_of_isNameOf
  apply IsNameOf.byName (lacksRelative_of_root_eq_none hroot f) ((mem_names_iff _ _).mpr h)

/-- Without a root, values sent under the alias of a field are those of the field if none are sent
under its name. -/
theorem lookup_of_alias (hroot : p.root = none) (hname : p.values f.name = [])
    (halias : aliasName = some name) (hblank : name.isBlank = false) (h : p.values name ≠ []) :
  p.firstValue? f aliasName = (p.values name).head?
    ∧ p.allValues? f aliasName = some (p.values name)
  := by
  have hfull : f.name ∉ p.names := mt (mem_names_iff _ _).mp (not_not_intro hname)
  apply lookup_of_isNameOf
  apply IsNameOf.byAlias (lacksRelative_of_root_eq_none hroot f) hfull halias hblank
    ((mem_names_iff _ _).mpr h)

/-! ### Further parameters -/

/-- The parameters after further ones have been sent. -/
def pushAll (p : Parameters) (sent : List (Text × Text)) : Parameters :=
  sent.foldl (fun p pair => p.push pair.1 pair.2) p

theorem pairs_pushAll (p : Parameters) (sent : List (Text × Text)) :
  (p.pushAll sent).pairs = p.pairs ++ sent
  := by
  induction sent generalizing p with
  | nil => rw [pushAll, List.foldl_nil, List.append_nil]
  | cons pair sent ih =>
      rw [pushAll, List.foldl_cons, ← pushAll, ih, push, List.append_assoc, List.singleton_append]

/-- Whatever has been sent, the first value of a field is the head of all its values, and these are
all the values sent under exactly one name, in order: the first one sent among the field's name
without the root, its full name and its alias. -/
theorem lookups_agree (p : Parameters) (sent : List (Text × Text)) (f : Field)
    (aliasName : Option Text) :
  (p.pushAll sent).firstValue? f aliasName
      = ((p.pushAll sent).allValues? f aliasName).bind List.head?
    ∧ ((p.pushAll sent).firstValue? f aliasName = none
      ↔ (p.pushAll sent).allValues? f aliasName = none)
    ∧ ∀ values : List Text, (p.pushAll sent).allValues? f aliasName = some values
      ↔ ∃! name, (p.pushAll sent).IsNameOf f aliasName name
        ∧ values = ((p.pairs ++ sent).filter (·.1 == name)).map Prod.snd
  := by
  refine ⟨firstValue?_eq_bind _ _ _, firstValue?_eq_none_iff, ?_⟩
  intro values
  rw [allValues?_eq_some_iff, ← pairs_pushAll]
  constructor
  · rintro ⟨name, hname, hvalues⟩
    use name, ⟨hname, hvalues⟩
    rintro name' ⟨hname', -⟩
    apply hname'.unique hname
  · rintro ⟨name, ⟨hname, hvalues⟩, -⟩
    use name, hname, hvalues

/-! ### Values of one name -/

/-- The parameters that send values under one name. -/
def sending (name : Text) (values : List Text) : Parameters :=
  { pairs := values.map fun v => (name, v) }

@[simp]
theorem values_sending (name : Text) (values : List Text) :
  (sending name values).values name = values
  := by
  induction values with
  | nil => rfl
  | cons v vs ih =>
      simp only [sending, Parameters.values, List.map_cons, List.filter_cons, beq_self_eq_true,
        ↓reduceIte]
      apply congrArg (List.cons v) ih

theorem names_sending (name v : Text) (vs : List Text) :
  (sending name (v :: vs)).names = [name]
  := by
  have hsame : (vs.map fun v => (name, v)).map Prod.fst = List.replicate vs.length name := by
    rw [List.map_map]
    apply List.map_const'
  rw [names_eq_eraseDups, sending, List.map_cons, List.map_cons, hsame, List.eraseDups_cons]
  simp

end Parameters

end QueryFilter
