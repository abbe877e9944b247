import QueryFilter.CommandLine
import QueryFilter.Proofs.Grammar.Bare
import QueryFilter.Proofs.Predicate.Dates
import QueryFilter.Proofs.Registry

/-!
# Filtering employees by the day of hiring

Of the values sent for the day of hiring only what is left without operators is read, so that an
operator around a date changes nothing.  Written dates keep the employees that were hired on the
days they select.
-/

namespace QueryFilter.Employee

/-- The field of the day of hiring. -/
def hiredOnField : Field := ⟨"hired_on".toList, .timestamp⟩

/-- A parameter with a value for the day of hiring. -/
def hiredOnParameter (value : Text) : Text × Text := ("hired_on".toList, value)

variable (r : Registry)

theorem resolve?_hiredOn :
  Search.resolve? r fields "hired_on".toList = some hiredOnField
  := rfl

/-- A search by the day of hiring is made of what is left of the values without operators. -/
theorem build_hiredOn (values : List Text) :
  Search.build r fields (values.map hiredOnParameter)
    = (DateFilter.predicate hiredOnField (values.map Wrapping.strip)).mapError
      (.invalidValue "hired_on".toList)
  := by
  cases values with
  | nil => rfl
  | cons v vs =>
      let p := Parameters.sending "hired_on".toList (v :: vs)
      have hbuild : Search.build r fields ((v :: vs).map hiredOnParameter)
          = Search.buildFrom r fields p [] none p.names := rfl
      have hpredicate : r.predicate hiredOnField (.many (p.strippedValues "hired_on".toList))
          (some (.ofParameters p))
          = DateFilter.predicate hiredOnField ((v :: vs).map Wrapping.strip) := by
        rw [Registry.predicate_of_timestamp rfl, Input.values, Parameters.strippedValues,
          Parameters.values_sending]
      rw [hbuild, Parameters.names_sending]
      simp only [Search.buildFrom, resolve?_hiredOn, List.find?_nil, hpredicate]
      cases DateFilter.predicate hiredOnField ((v :: vs).map Wrapping.strip) with
      | error cause => rfl
      | ok result =>
          cases result with
          | none => rfl
          | some e => rfl

/-- An operator around a value for the day of hiring has no effect, whatever values are sent before
and after it. -/
theorem build_hiredOn_wrap (op : Operator) (v : Text) (before after : List Text) :
  Search.build r fields ((before ++ op.wrap v :: after).map hiredOnParameter)
    = Search.build r fields ((before ++ v :: after).map hiredOnParameter)
  := by rw [build_hiredOn, build_hiredOn, List.map_append, List.map_append, List.map_cons,
    List.map_cons, Wrapping.strip_wrap]

/-- Not every operator around a date is respected or refused: `not` around a date keeps the
employees that the date keeps. -/
theorem not_forall_build_hiredOn_wrap :
  ¬ ∀ (r : Registry) (v : Text) (e : Expr), Wrapping.isWrapped v.trim = false →
    Search.build r fields [hiredOnParameter v] = .ok (some e) →
      (∀ result, Search.build r fields [hiredOnParameter (Operator.not.wrap v)] = .ok result →
        ∀ es : List Employee, CommandLine.hits result es
          = es.filter fun employee => !e.holds employee.value)
      ∧ ∀ op : Operator, op.isComparison = true → op ≠ .eq →
        ∃ failure, Search.build r fields [hiredOnParameter (op.wrap v)] = .error failure
  := by
  intro h
  let r := Registry.ofSettings CommandLine.defaultSettings
  let v : Text := "2018-03-12".toList
  let e := DateFilter.equals hiredOnField (.ofDate ⟨2018, 3, 12⟩)
  have hbare : v.IsBare := by decide
  have hliteral : Wrapping.isWrapped v.trim = false := by
    rw [hbare.trim_eq]
    apply Wrapping.isWrapped_of_isBare hbare
  have hpredicate : DateFilter.predicate hiredOnField [v] = .ok (some e) := by
    have hday : ∀ d ∈ [(⟨2018, 3, 12⟩ : Date)], d.isValid = true ∧ 0 ≤ d.year ∧ d.year ≤ 9999 := by
      decide
    apply DateFilter.predicate_renderDate hday
  have hbuild : ∀ value, Wrapping.strip value = v →
      Search.build r fields [hiredOnParameter value] = .ok (some e) := by
    intro value hvalue
    have hvalues := build_hiredOn r [value]
    rw [List.map_singleton, List.map_singleton, hvalue, hpredicate] at hvalues
    apply hvalues
  have hwrapped : Wrapping.strip (Operator.not.wrap v) = v := by
    rw [Wrapping.strip_wrap, Wrapping.strip_of_isBare hbare]
  obtain ⟨hnot, -⟩ := h r v e hliteral (hbuild v (Wrapping.strip_of_isBare hbare))
  let employee : Employee :=
    ⟨"jdoe".toList, "John".toList, "Doe".toList, "Engineer".toList, .active, 34, [], ⟨2018, 3, 12⟩⟩
  have hkept := hnot (some e) (hbuild _ hwrapped) [employee]
  cases hholds : e.holds employee.value with
  | false => simp [CommandLine.hits, hholds] at hkept
  | true => simp [CommandLine.hits, hholds] at hkept

/-! ### Directories -/

theorem inRange_of_date? {t : Text} {d : Date} (h : date? t = some d) :
  Timestamp.inRange d = true
  := by
  simp only [date?, Option.bind_eq_bind, Option.bind_eq_some_iff] at h
  obtain ⟨_, -, _, -, _, -, _, -, _, -, h⟩ := h
  split at h
  · rename_i hrange
    cases h
    apply (Bool.and_eq_true_iff.mp hrange).2
  · cases h

theorem inRange_of_ofJson? {j : Json} {employee : Employee} (h : ofJson? j = some employee) :
  Timestamp.inRange employee.hiredOn = true
  := by
  obtain ⟨values, -, h⟩ := Option.bind_eq_some_iff.mp h
  split at h
  · simp only [Option.bind_eq_bind, Option.bind_eq_some_iff] at h
    obtain ⟨_, -, _, -, _, -, _, -, _, -, _, -, _, -, d, hd, h⟩ := h
    obtain ⟨t, -, ht⟩ := hd
    cases h
    apply inRange_of_date? ht
  · cases h

theorem inRange_of_mapM_ofJson? {items : List Json} {es : List Employee}
    (h : items.mapM ofJson? = some es) :
  ∀ employee ∈ es, Timestamp.inRange employee.hiredOn = true
  := by
  induction items generalizing es with
  | nil =>
      cases h
      intro employee hmem
      cases hmem
  | cons j items ih =>
      rw [List.mapM_cons] at h
      obtain ⟨first, hfirst, h⟩ := Option.bind_eq_some_iff.mp h
      obtain ⟨rest, hrest, h⟩ := Option.bind_eq_some_iff.mp h
      cases h
      rw [List.forall_mem_cons]
      use inRange_of_ofJson? hfirst, ih hrest

/-- Every employee of a directory that is read was hired on a date of the range in which dates
have a beginning. -/
theorem inRange_of_readDirectory? {t : Text} {es : List Employee}
    (h : readDirectory? t = some es) :
  ∀ employee ∈ es, Timestamp.inRange employee.hiredOn = true
  := by
  obtain ⟨j, -, hj⟩ := Option.bind_eq_some_iff.mp h
  cases j with
  | array items => apply inRange_of_mapM_ofJson? hj
  | _ => cases hj

/-! ### Written dates -/

/-- The value of an employee in the field of the day of hiring. -/
theorem value_hiredOn (employee : Employee) :
  employee.value hiredOnField.name = .timestamp (.ofDate employee.hiredOn)
  := rfl

/-- Written dates make the expression for their beginnings. -/
theorem build_renderDate {dates : List Date}
    (hdates : ∀ d ∈ dates, d.isValid = true ∧ 0 ≤ d.year ∧ d.year ≤ 9999) :
  Search.build r fields (dates.map fun d => hiredOnParameter (Timestamp.renderDate d))
    = .ok (DateFilter.ofTimestamps hiredOnField (dates.map Timestamp.ofDate))
  := by
  have hstrip : (dates.map Timestamp.renderDate).map Wrapping.strip
      = dates.map Timestamp.renderDate := by
    rw [List.map_map]
    apply List.map_congr_left
    intro d hd
    obtain ⟨-, hlow, hhigh⟩ := hdates d hd
    apply Wrapping.strip_of_isBare (Timestamp.isBare_renderDate hlow hhigh)
  have hbuild := build_hiredOn r (dates.map Timestamp.renderDate)
  rw [List.map_map, hstrip, DateFilter.predicate_renderDate hdates] at hbuild
  apply hbuild

/-- The expression for the beginnings of dates keeps the employees that were hired on the days that
the dates select. -/
theorem mem_hits_ofTimestamps {dates : List Date}
    (hdates : ∀ d ∈ dates, Timestamp.inRange d = true) {es : List Employee} {employee : Employee}
    (hday : Timestamp.inRange employee.hiredOn = true) :
  employee ∈ CommandLine.hits
      (DateFilter.ofTimestamps hiredOnField (dates.map Timestamp.ofDate)) es
    ↔ employee ∈ es ∧ DateFilter.Selects dates employee.hiredOn
  := by
  cases he : DateFilter.ofTimestamps hiredOnField (dates.map Timestamp.ofDate) with
  | none =>
      obtain rfl := List.map_eq_nil_iff.mp (DateFilter.ofTimestamps_eq_none_iff.mp he)
      simp [CommandLine.hits, DateFilter.Selects]
  | some e =>
      rw [CommandLine.hits, List.mem_filter,
        DateFilter.holds_ofTimestamps_ofDate_iff (value_hiredOn employee) hday hdates he]

/-- Dates of the years 0 to 9999 keep the employees that were hired on the days they select, in
particular those of a directory that is read. -/
theorem mem_hits_hiredOn {dates : List Date}
    (hdates : ∀ d ∈ dates, d.isValid = true ∧ 0 ≤ d.year ∧ d.year ≤ 9999) :
  ∃ result, Search.build r fields (dates.map fun d => hiredOnParameter (Timestamp.renderDate d))
      = .ok result
    ∧ (∀ (es : List Employee) (employee : Employee), Timestamp.inRange employee.hiredOn = true →
      (employee ∈ CommandLine.hits result es
        ↔ employee ∈ es ∧ DateFilter.Selects dates employee.hiredOn))
    ∧ ∀ (t : Text) (es : List Employee), readDirectory? t = some es → ∀ employee ∈ es,
      (employee ∈ CommandLine.hits result es ↔ DateFilter.Selects dates employee.hiredOn)
  := by
  have hrange : ∀ d ∈ dates, Timestamp.inRange d = true := by
    intro d hd
    obtain ⟨hvalid, hlow, hhigh⟩ := hdates d hd
    apply Timestamp.inRange_of_isValid hvalid hlow hhigh
  use DateFilter.ofTimestamps hiredOnField (dates.map Timestamp.ofDate), build_renderDate r hdates
  constructor
  · intro es employee hday
    apply mem_hits_ofTimestamps hrange hday
  · intro t es hread employee hmem
    have hday := inRange_of_readDirectory? hread employee hmem
    rw [mem_hits_ofTimestamps hrange hday, and_iff_right hmem]

/-- The 29th of February 2020 and the last day of 1969 keep an employee that was hired in 2012, and
none that was hired in 2021. -/
theorem mem_hits_hiredOn_of_two :
  let r := Registry.ofSettings CommandLine.defaultSettings
  let dates : List Date := [⟨2020, 2, 29⟩, ⟨1969, 12, 31⟩]
  let alice : Employee :=
    ⟨"asmith".toList, "Alice".toList, "Smith".toList, "Manager".toList, .active, 45, [],
      ⟨2012, 7, 1⟩⟩
  let carol : Employee := { alice with hiredOn := ⟨2021, 1, 4⟩ }
  (∀ d ∈ dates, d.isValid = true ∧ 0 ≤ d.year ∧ d.year ≤ 9999)
    ∧ Timestamp.inRange alice.hiredOn = true ∧ Timestamp.inRange carol.hiredOn = true
    ∧ ∃ result, Search.build r fields
        [hiredOnParameter "2020-02-29".toList, hiredOnParameter "1969-12-31".toList] = .ok result
      ∧ alice ∈ CommandLine.hits result [alice, carol]
      ∧ carol ∉ CommandLine.hits result [alice, carol]
  := by
  intro r dates alice carol
  have hdates : ∀ d ∈ dates, d.isValid = true ∧ 0 ≤ d.year ∧ d.year ≤ 9999 := by decide
  have halice : Timestamp.inRange alice.hiredOn = true := by decide
  have hcarol : Timestamp.inRange carol.hiredOn = true := by decide
  use hdates, halice, hcarol
  obtain ⟨result, hbuild, hkept, -⟩ := mem_hits_hiredOn r hdates
  use result, hbuild
  constructor
  · apply (hkept [alice, carol] alice halice).mpr
    use List.mem_cons_self
    have hbetween : min dates[0] dates[1] ≤ alice.hiredOn ∧ alice.hiredOn ≤ max dates[0] dates[1] :=
      by decide
    apply hbetween
  · intro hmem
    obtain ⟨-, hselects⟩ := (hkept [alice, carol] carol hcarol).mp hmem
    have hlate : ¬carol.hiredOn ≤ max dates[0] dates[1] := by decide
    apply hlate hselects.2

end QueryFilter.Employee
