import Mathlib.Data.List.Nodup
import Mathlib.Data.Option.Basic
import QueryFilter.Proofs.Registry
import QueryFilter.Search

/-!
# The parts of a search

A search has one part for each name in a request: the field that goes by the name, and what the
values sent under the name, all of them and in order, filter it by.  No two parts are about the
same field, and the search is the conjunction of its parts.
-/

namespace QueryFilter

namespace Search

variable {r : Registry} {catalogue : List Field} {p : Parameters} {f : Field} {name : Text}

/-! ### Fields by name -/

/-- A field goes by its own name or else by its alias. -/
theorem resolve?_eq_some (h : resolve? r catalogue name = some f) :
  f ∈ catalogue ∧ (f.name = name ∨ r.alias? f = some name)
  := by
  rcases (Option.orElse_eq_some _ _ _).mp h with hname | ⟨-, halias⟩
  · use List.mem_of_find?_eq_some hname
    left
    simpa using List.find?_some hname
  · use List.mem_of_find?_eq_some halias
    right
    simpa using List.find?_some halias

/-- The name of a field in the catalogue is that of the field that goes by it. -/
theorem exists_resolve?_name (hf : f ∈ catalogue) :
  ∃ g, resolve? r catalogue f.name = some g ∧ g.name = f.name
  := by
  cases hfound : catalogue.find? (·.name == f.name) with
  | none =>
      have hname := List.find?_eq_none.mp hfound f hf
      simp at hname
  | some g =>
      use g
      constructor
      · rw [resolve?, hfound]
        rfl
      · simpa using List.find?_some hfound

/-! ### Conjunctions -/

/-- The conjunction of expressions, from left to right. -/
def conjunction : List Expr → Option Expr
  | [] => none
  | e :: es => some (es.foldl .and e)

theorem conjunction_eq_none_iff {es : List Expr} :
  conjunction es = none ↔ es = []
  := by
  cases es with
  | nil => simp [conjunction]
  | cons e es => simp [conjunction]

theorem conjoin_conjunction (es : List Expr) (result : Option Expr) :
  conjoin (conjunction es) result = conjunction (es ++ result.toList)
  := by
  cases es with
  | nil =>
      cases result with
      | none => rfl
      | some e => rfl
  | cons first rest =>
      cases result with
      | none => simp [conjunction, conjoin]
      | some e => simp [conjunction, conjoin]

/-! ### Parts -/

/-- What the values sent under a name filter a field by. -/
structure Part where
  name : Text
  field : Field
  result : Option Expr

theorem buildFrom_cons {claimed : List (Text × Text)} {combined result : Option Expr}
    {names : List Text} (hresolve : resolve? r catalogue name = some f)
    (hclaimed : claimed.find? (·.1 == f.name) = none)
    (hpredicate : r.predicate f (.many (p.strippedValues name)) (some (.ofParameters p))
      = .ok result) :
  buildFrom r catalogue p claimed combined (name :: names)
    = buildFrom r catalogue p ((f.name, name) :: claimed) (conjoin combined result) names
  := by simp only [buildFrom, hresolve, hclaimed, hpredicate]

/-- A search takes up a name: the field that goes by it is not claimed yet, and its predicate is
joined to the expressions before. -/
theorem buildFrom_cons_eq_ok {claimed : List (Text × Text)} {combined : Option Expr}
    {names : List Text} {result : Option Expr}
    (h : buildFrom r catalogue p claimed combined (name :: names) = .ok result) :
  ∃ part : Part, part.name = name ∧ resolve? r catalogue name = some part.field
    ∧ part.field.name ∉ claimed.map Prod.fst
    ∧ r.predicate part.field (.many (p.strippedValues name)) (some (.ofParameters p))
      = .ok part.result
    ∧ buildFrom r catalogue p ((part.field.name, name) :: claimed) (conjoin combined part.result)
        names
      = .ok result
  := by
  cases hresolve : resolve? r catalogue name with
  | none => simp [buildFrom, hresolve] at h
  | some f =>
      cases hclaimed : claimed.find? (·.1 == f.name) with
      | some claim => simp [buildFrom, hresolve, hclaimed] at h
      | none =>
          cases hpredicate : r.predicate f (.many (p.strippedValues name)) (some (.ofParameters p))
          with
          | error cause => simp [buildFrom, hresolve, hclaimed, hpredicate] at h
          | ok e =>
              rw [buildFrom_cons hresolve hclaimed hpredicate] at h
              use ⟨name, f, e⟩, rfl, rfl
              refine ⟨?_, hpredicate, h⟩
              intro hin
              obtain ⟨claim, hmem, hname⟩ := List.mem_map.mp hin
              apply List.find?_eq_none.mp hclaimed claim hmem
              apply beq_iff_eq.mpr hname

/-- What a search does with the names that are left: each goes by a field that is not claimed, and
is joined to the expressions before. -/
theorem buildFrom_eq_ok {claimed : List (Text × Text)} {es : List Expr} {names : List Text}
    {result : Option Expr}
    (h : buildFrom r catalogue p claimed (conjunction es) names = .ok result) :
  ∃ parts : List Part, parts.map Part.name = names
    ∧ (∀ part ∈ parts, resolve? r catalogue part.name = some part.field
      ∧ r.predicate part.field (.many (p.strippedValues part.name)) (some (.ofParameters p))
        = .ok part.result)
    ∧ (∀ part ∈ parts, part.field.name ∉ claimed.map Prod.fst)
    ∧ (parts.map (·.field.name)).Nodup
    ∧ result = conjunction (es ++ parts.filterMap Part.result)
  := by
  induction names generalizing claimed es with
  | nil =>
      cases h
      use []
      simp
  | cons name names ih =>
      obtain ⟨part, rfl, hresolve, hclaimed, hpredicate, hrest⟩ := buildFrom_cons_eq_ok h
      rw [conjoin_conjunction] at hrest
      obtain ⟨parts, hnames, hparts, hfresh, hnodup, hresult⟩ := ih hrest
      use part :: parts
      refine ⟨?_, ?_, ?_, ?_, ?_⟩
      · rw [List.map_cons, hnames]
      · rw [List.forall_mem_cons]
        use ⟨hresolve, hpredicate⟩, hparts
      · rw [List.forall_mem_cons]
        use hclaimed
        intro part' hmem hin
        apply hfresh part' hmem
        apply List.mem_cons_of_mem _ hin
      · rw [List.map_cons, List.nodup_cons]
        constructor
        · intro hin
          obtain ⟨part', hmem, hname⟩ := List.mem_map.mp hin
          apply hfresh part' hmem
          rw [hname]
          apply List.mem_cons_self
        · apply hnodup
      · rw [hresult, List.filterMap_cons, List.append_assoc]
        cases part.result with
        | none => rfl
        | some e => rfl

/-! ### Values of a part -/

/-- The values sent under the name of a part are found for its field, unless others are sent under
the field's own name. -/
theorem lookup_eq_values (hroot : p.root = none) (hblank : name.isBlank = false)
    (hsent : p.values name ≠ []) (hname : f.name = name ∨ r.alias? f = some name)
    (hown : f.name ≠ name → p.values f.name = []) :
  p.firstValue? f (r.alias? f) = (p.values name).head?
    ∧ p.allValues? f (r.alias? f) = some (p.values name)
  := by
  by_cases hsame : f.name = name
  · rw [← hsame] at hsent ⊢
    apply Parameters.lookup_of_name hroot hsent
  · have halias : r.alias? f = some name := hname.resolve_left hsame
    apply Parameters.lookup_of_alias hroot (hown hsame) halias hblank hsent

/-- Nothing is sent under the own name of a field that a part names differently: that name would
have a part of its own, which would be about a field of the same name. -/
theorem values_name_eq_nil {parts : List Part} {part : Part}
    (hnames : parts.map Part.name = p.names)
    (hparts : ∀ part ∈ parts, resolve? r catalogue part.name = some part.field)
    (hnodup : (parts.map (·.field.name)).Nodup) (hpart : part ∈ parts)
    (hother : part.field.name ≠ part.name) :
  p.values part.field.name = []
  := by
  by_contra hsent
  have hmem := (p.mem_names_iff part.field.name).mpr hsent
  rw [← hnames] at hmem
  obtain ⟨part', hpart', hname⟩ := List.mem_map.mp hmem
  obtain ⟨hfield, -⟩ := resolve?_eq_some (hparts part hpart)
  obtain ⟨g, hg, hgname⟩ := exists_resolve?_name (r := r) hfield
  rw [← hname, hparts part' hpart'] at hg
  cases hg
  obtain rfl := List.inj_on_of_nodup_map hnodup hpart' hpart hgname
  apply hother hname.symm

/-- A search is the conjunction of its parts: each distinct name, in order of first appearance,
goes by a field that no other name goes by, and the values sent under the name, all of them and in
order, make the predicate of the part. -/
theorem build_eq_ok {pairs : List (Text × Text)} {result : Option Expr}
    (hpairs : ∀ pair ∈ pairs, pair.1.isBlank = false)
    (h : build r catalogue pairs = .ok result) :
  ∃ parts : List Part, parts.map Part.name = (pairs.map Prod.fst).eraseDups
    ∧ (∀ part ∈ parts, resolve? r catalogue part.name = some part.field
      ∧ r.predicate part.field
          (.ofSent part.field (Parameters.values { pairs := pairs } part.name)) none
        = .ok part.result)
    ∧ (parts.map Part.field).Nodup
    ∧ result = conjunction (parts.filterMap Part.result)
    ∧ (result = none ↔ ∀ part ∈ parts, part.result = none)
  := by
  have hbuild : buildFrom r catalogue { pairs := pairs } [] (conjunction [])
      (Parameters.names { pairs := pairs }) = .ok result := h
  obtain ⟨parts, hnames, hparts, -, hnodup, hresult⟩ := buildFrom_eq_ok hbuild
  rw [List.nil_append] at hresult
  use parts
  refine ⟨?_, ?_, ?_, hresult, ?_⟩
  · rw [hnames, Parameters.names_eq_eraseDups]
  · intro part hpart
    obtain ⟨hresolve, hpredicate⟩ := hparts part hpart
    use hresolve
    have hmem : part.name ∈ Parameters.names { pairs := pairs } := by
      rw [← hnames]
      apply List.mem_map_of_mem hpart
    have hsent := (Parameters.mem_names_iff _ _).mp hmem
    have hblank : part.name.isBlank = false := by
      rw [Parameters.names_eq_eraseDups, List.mem_eraseDups] at hmem
      obtain ⟨pair, hpair, hname⟩ := List.mem_map.mp hmem
      rw [← hname]
      apply hpairs pair hpair
    obtain ⟨-, hname⟩ := resolve?_eq_some hresolve
    obtain ⟨hfirst, hall⟩ := lookup_eq_values rfl hblank hsent hname
      (values_name_eq_nil hnames (fun part hpart => (hparts part hpart).1) hnodup hpart)
    apply Registry.predicate_strip hsent hfirst hall hpredicate
  · apply List.Nodup.of_map Field.name
    rw [List.map_map]
    apply hnodup
  · rw [hresult, conjunction_eq_none_iff, List.filterMap_eq_nil_iff]

/-- The values of a field that is named by its alias are joined, although another field is named
between them. -/
theorem build_eq_ok_of_alias :
  let name : Field := ⟨"name".toList, .text⟩
  let title : Field := ⟨"title".toList, .text⟩
  let r := (Registry.ofSettings {}).registerAlias name "who".toList
  let pairs : List (Text × Text) := [("who".toList, "startsWith(a)".toList),
    ("title".toList, "b".toList), ("who".toList, "and(endsWith(z))".toList)]
  let is := fun (f : Field) relation (t : Text) => Dialect.clause f relation (.text t) false
  let ofName := Expr.and (is name .startsWith ['a']) (is name .endsWith ['z'])
  let ofTitle := is title .eq ['b']
  (∀ pair ∈ pairs, pair.1.isBlank = false)
    ∧ build r [name, title] pairs = .ok (some (.and ofName ofTitle))
    ∧ ∃ parts : List Part, parts.map Part.name = (pairs.map Prod.fst).eraseDups
      ∧ (∀ part ∈ parts, resolve? r [name, title] part.name = some part.field
        ∧ r.predicate part.field
            (.ofSent part.field (Parameters.values { pairs := pairs } part.name)) none
          = .ok part.result)
      ∧ (parts.map Part.field).Nodup
      ∧ some (.and ofName ofTitle) = conjunction (parts.filterMap Part.result)
  := by
  intro name title r pairs is ofName ofTitle
  have hpairs : ∀ pair ∈ pairs, pair.1.isBlank = false := by decide
  have hname : name.kind ≠ .timestamp := by decide
  have htitle : title.kind ≠ .timestamp := by decide
  have hofName : r.predicate name
      (.many (Parameters.strippedValues { pairs := pairs } "who".toList))
      (some (.ofParameters { pairs := pairs })) = .ok (some ofName) := by
    have ha : Wrapping.strip "startsWith(a)".toList = ['a'] :=
      (Wrapping.strip_wrap .startsWith ['a']).trans (Wrapping.strip_of_eq_none rfl)
    have hz : Wrapping.strip "and(endsWith(z))".toList = ['z'] :=
      ((Wrapping.strip_wrap .and "endsWith(z)".toList).trans
        (Wrapping.strip_wrap .endsWith ['z'])).trans (Wrapping.strip_of_eq_none rfl)
    have hstripped : Composition.validateAll
        (["startsWith(a)".toList, "and(endsWith(z))".toList].map Wrapping.strip) = .ok () := by
      rw [List.map_cons, List.map_singleton, ha, hz]
      rfl
    rw [Registry.predicate_eq_compose rfl hname]
    apply (Composition.compose_strip (by decide) rfl rfl hstripped).trans
    apply Composition.compose_pair rfl rfl rfl rfl rfl
  have hofTitle : r.predicate title
      (.many (Parameters.strippedValues { pairs := pairs } "title".toList))
      (some (.ofParameters { pairs := pairs })) = .ok (some ofTitle) := by
    have hb : Wrapping.strip "b".toList = ['b'] := Wrapping.strip_of_eq_none rfl
    have hstripped : Composition.validateAll (["b".toList].map Wrapping.strip) = .ok () := by
      rw [List.map_singleton, hb]
      rfl
    rw [Registry.predicate_eq_compose rfl htitle]
    apply (Composition.compose_strip (by decide) rfl rfl hstripped).trans
    apply (Composition.compose_singleton "b".toList).trans
    rw [Composition.lone_eq rfl]
    rfl
  have hbuild : build r [name, title] pairs = .ok (some (.and ofName ofTitle)) := by
    have hnames : Parameters.names { pairs := pairs } = ["who".toList, "title".toList] := by decide
    have hwho : resolve? r [name, title] "who".toList = some name := by decide
    have hown : resolve? r [name, title] "title".toList = some title := by decide
    rw [build, hnames, buildFrom_cons hwho (by rfl) hofName,
      buildFrom_cons hown (by rfl) hofTitle]
    rfl
  use hpairs, hbuild
  obtain ⟨parts, hnames, hparts, hfields, hresult, -⟩ := build_eq_ok hpairs hbuild
  use parts

end Search

end QueryFilter
