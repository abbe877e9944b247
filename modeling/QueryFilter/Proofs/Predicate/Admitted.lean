import Mathlib.Data.List.Basic
import QueryFilter.Dialect
import QueryFilter.Proofs.Except

/-!
# Clauses that a field admits

A clause is evaluated by cases on its operand and its relation, and does not hold where the two do
not go together or the operand is of another kind than the value.  `Field.Admits` lists the forms
that go together, by the kind of the field, and each dialect makes of a literal clauses of these
forms only, on the field itself.
-/

namespace QueryFilter

/-- The number is an integer or a finite float. -/
def Number.IsFinite : Number → Prop
  | .signed _ | .unsigned _ => True
  | .float x => x.isFinite = true

/-- The literal of a numeric comparison is read as a finite number. -/
theorem Number.isFinite_of_parse {literal : Text} {n : Number} (h : parse literal = .ok n) :
  n.IsFinite
  := by
  simp only [parse] at h
  split at h
  · rename_i k hk
    cases h
    obtain ⟨i, -, hi⟩ := Option.bind_eq_some_iff.mp hk
    unfold ofInt? at hi
    split at hi
    · cases hi
      trivial
    · split at hi
      · cases hi
        trivial
      · cases hi
  · split at h
    · rename_i x hx
      cases h
      apply (Option.filter_eq_some_iff.mp hx).2
    · cases h

/-- The clause compares the field in one of the ways in which values of the field's kind are
compared. -/
inductive Field.Admits (f : Field) : Clause → Prop where
  | text {relation : Relation} {t : Text} {ignoreCase : Bool} (hkind : f.kind = .text)
      (hrelation : relation ∈ [.eq, .ne, .contains, .startsWith, .endsWith]) :
      f.Admits ⟨f.name, relation, .text t, ignoreCase⟩
  | pattern {p : Pattern} (hkind : f.kind = .text) (hp : Pattern.compile? p.source = some p) :
      f.Admits ⟨f.name, .matches, .pattern p, false⟩
  | number {relation : Relation} {n : Number} (hkind : f.kind = .number)
      (hrelation : relation ∈ [.eq, .ne, .gt, .gte, .lt, .lte]) (hn : n.IsFinite) :
      f.Admits ⟨f.name, relation, .number n, false⟩
  | member {relation : Relation} {name : Text} {members : List Text}
      (hkind : f.kind = .enumeration members) (hrelation : relation ∈ [.eq, .ne])
      (hname : name ∈ members) :
      f.Admits ⟨f.name, relation, .member name, false⟩
  | members {names members : List Text} (hkind : f.kind = .enumeration members)
      (hnames : names.Sublist members) :
      f.Admits ⟨f.name, .oneOf, .members names, false⟩
  | timestamp {t : Timestamp} (hkind : f.kind = .timestamp) :
      f.Admits ⟨f.name, .eq, .timestamp t, false⟩
  | range {low high : Timestamp} (hkind : f.kind = .timestamp)
      (horder : low.notAfter high = true) :
      f.Admits ⟨f.name, .between, .range low high, false⟩

/-- A clause that a field admits is on this field. -/
theorem Field.Admits.field_eq {f : Field} {c : Clause} (h : f.Admits c) :
  c.field = f.name
  := by
  cases h with
  | text | pattern | number | member | members | timestamp | range => rfl

/-- The field admits all clauses of the expression. -/
def Field.AdmitsAll (f : Field) (e : Expr) : Prop := ∀ c ∈ e.clauses, f.Admits c

/-- The verdict of an expression depends on the values in the fields of its clauses. -/
theorem Expr.holds_congr {record record' : Record} {e : Expr}
    (h : ∀ c ∈ e.clauses, record c.field = record' c.field) :
  e.holds record = e.holds record'
  := by
  induction e with
  | leaf c => rw [holds, holds, h c (List.mem_singleton_self c)]
  | not inner ih => rw [holds, holds, ih h]
  | and left right ihl ihr =>
      rw [clauses, List.forall_mem_append] at h
      rw [holds, holds, ihl h.1, ihr h.2]
  | or left right ihl ihr =>
      rw [clauses, List.forall_mem_append] at h
      rw [holds, holds, ihl h.1, ihr h.2]

namespace Dialect

variable {f : Field} {op : Operator} {literal : Text} {ignoreCase : Bool} {e : Expr}

theorem admitsAll_clause {relation : Relation} {operand : Operand}
    (h : f.Admits ⟨f.name, relation, operand, ignoreCase⟩) :
  f.AdmitsAll (clause f relation operand ignoreCase)
  := by
  intro c hc
  obtain rfl := List.mem_singleton.mp hc
  apply h

/-! ### Single comparisons -/

theorem admitsAll_of_text (hkind : f.kind = .text)
    (h : text.compare op f literal ignoreCase = .ok e) :
  f.AdmitsAll e
  := by
  cases op
  case eq | ne | contains | startsWith | endsWith =>
    cases h
    apply admitsAll_clause (.text hkind (by decide))
  case «matches» =>
    simp only [text] at h
    split at h
    · rename_i p hp
      cases h
      obtain ⟨r, hr, rfl⟩ := Option.map_eq_some_iff.mp hp
      apply admitsAll_clause (.pattern hkind hp)
    · cases h
  case and | or | not | gt | gte | lt | lte | ignoreCase => cases h

theorem admitsAll_of_number (hkind : f.kind = .number)
    (h : number.compare op f literal ignoreCase = .ok e) :
  f.AdmitsAll e
  := by
  simp only [number] at h
  split at h
  · rename_i relation hrelation
    obtain ⟨n, hn, rfl⟩ := Except.map_eq_ok_iff.mp h
    have hmem : relation ∈ [.eq, .ne, .gt, .gte, .lt, .lte] := by
      cases op <;> cases hrelation <;> decide
    apply admitsAll_clause (.number hkind hmem (Number.isFinite_of_parse hn))
  · cases h

/-- A literal names a member that is declared. -/
theorem mem_members_of_member {name : Text} (h : member f literal = .ok name) :
  name ∈ f.members
  := by
  simp only [member] at h
  split at h
  · rename_i hcontains
    cases h
    apply List.contains_iff_mem.mp hcontains
  · split at h
    · rename_i m hm
      cases h
      have hfiltered : name ∈ f.members.filter
          fun m => Text.foldAscii m == Text.foldAscii literal.trim := by simp [hm]
      apply List.mem_of_mem_filter hfiltered
    · cases h
    · cases h

theorem admitsAll_select {members : List Text} (hkind : f.kind = .enumeration members)
    (keep : Text → Bool) :
  f.AdmitsAll (select f keep)
  := by
  have hmembers : f.members = members := by rw [Field.members, hkind]
  apply admitsAll_clause (.members hkind _)
  rw [hmembers]
  apply List.filter_sublist

theorem admitsAll_of_enumeration {loose : Bool} {members : List Text}
    (hkind : f.kind = .enumeration members)
    (h : (enumeration loose).compare op f literal ignoreCase = .ok e) :
  f.AdmitsAll e
  := by
  have hmembers : f.members = members := by rw [Field.members, hkind]
  cases op
  case eq | ne =>
    obtain ⟨name, hname, rfl⟩ := Except.map_eq_ok_iff.mp h
    have hmem := mem_members_of_member hname
    rw [hmembers] at hmem
    apply admitsAll_clause (.member hkind (by decide) hmem)
  case contains | startsWith | endsWith =>
    cases loose with
    | false => cases h
    | true =>
        cases h
        apply admitsAll_select hkind
  case «matches» =>
    cases loose with
    | false => cases h
    | true =>
        simp only [enumeration, ↓reduceIte] at h
        split at h
        · cases h
          apply admitsAll_select hkind
        · cases h
  case and | or | not | gt | gte | lt | lte | ignoreCase => cases h

theorem admitsAll_of_date (hkind : f.kind = .timestamp)
    (h : date.compare op f literal ignoreCase = .ok e) :
  f.AdmitsAll e
  := by
  cases op
  case eq =>
    obtain ⟨t, -, rfl⟩ := Except.map_eq_ok_iff.mp h
    apply admitsAll_clause (.timestamp hkind)
  all_goals cases h

/-- The field admits what the dialect of its kind makes of an operator and a literal. -/
theorem admitsAll_of_leaf {loose : Bool} {d : Dialect} (hd : ofKind? loose f.kind = some d)
    (h : d.leaf op f literal ignoreCase = .ok e) :
  f.AdmitsAll e
  := by
  rw [leaf] at h
  split at h
  · generalize hkind : f.kind = kind at hd
    cases kind with
    | text =>
        cases hd
        apply admitsAll_of_text hkind h
    | number =>
        cases hd
        apply admitsAll_of_number hkind h
    | timestamp =>
        cases hd
        apply admitsAll_of_date hkind h
    | enumeration members =>
        cases hd
        apply admitsAll_of_enumeration hkind h
    | other typeName => cases hd
  · cases h

/-! ### Single values -/

/-- The field admits the expression for a value taken apart. -/
theorem admitsAll_of_build {loose : Bool} {d : Dialect} (hd : ofKind? loose f.kind = some d)
    {n : Node} (h : d.build f n = .ok e) :
  f.AdmitsAll e
  := by
  induction n generalizing e with
  | leaf op literal ignoreCase => apply admitsAll_of_leaf hd h
  | not inner ih =>
      obtain ⟨e', he', rfl⟩ := Except.map_eq_ok_iff.mp h
      apply ih he'
  | ignoreCase inner ih => apply ih h

/-- The field admits the expression for a single value. -/
theorem admitsAll_of_single {loose : Bool} {d : Dialect} (hd : ofKind? loose f.kind = some d)
    {value : Text} (h : d.single f value = .ok e) :
  f.AdmitsAll e
  := by
  rw [single] at h
  split at h
  · apply admitsAll_of_build hd h
  · cases h

end Dialect

end QueryFilter
