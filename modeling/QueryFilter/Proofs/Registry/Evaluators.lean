import QueryFilter.Proofs.Evaluator
import QueryFilter.Proofs.Registry

/-!
# The evaluators of a registry

A registry is coherent when every evaluator it holds serves the kind of its field, with patterns
that are read from their sources, and no two of them have the same serial number.  Asking for an
evaluator or for a predicate keeps a registry coherent, and it gives a coherent registry nothing to
answer that `Registry.predicate` does not say.
-/

namespace QueryFilter

namespace Registry

variable {r r' : Registry} {f g : Field}

/-- The registry holds evaluators that serve their fields, and holds none only for fields whose
values cannot be filtered by.  Each evaluator has a serial number of its own, given out before. -/
structure Coherent (r : Registry) : Prop where
  ofKind?_eq_none {f : Field} (h : r.evaluators.lookup f = some none) :
    Method.ofKind? (r.retention f) f.kind = none
  serves {f : Field} {e : Evaluator} (h : r.evaluators.lookup f = some (some e)) :
    e.method.Serves f.kind
  serial_lt {f : Field} {e : Evaluator} (h : r.evaluators.lookup f = some (some e)) :
    e.serial < r.made
  eq_of_serial_eq {f g : Field} {e e' : Evaluator} (hf : r.evaluators.lookup f = some (some e))
    (hg : r.evaluators.lookup g = some (some e')) (h : e.serial = e'.serial) :
    f = g

/-- A registry that has not been asked for an evaluator is coherent. -/
theorem coherent_of_evaluators_eq_nil (h : r.evaluators = []) :
  r.Coherent
  := by
  constructor <;> simp [h]

/-- The serial number of the evaluator of a field, if there is one, once it has been asked for. -/
def serial? (r : Registry) (f : Field) : Option (Option Nat) :=
  (r.evaluators.lookup f).map (·.map (·.serial))

/-- Fields whose evaluators have the same serial number are equal. -/
theorem Coherent.eq_of_serial?_eq {s : Nat} (h : r.Coherent) (hf : r.serial? f = some (some s))
    (hg : r.serial? g = some (some s)) :
  f = g
  := by
  simp only [serial?, Option.map_eq_some_iff] at hf hg
  obtain ⟨_, hf, e, rfl, he⟩ := hf
  obtain ⟨_, hg, e', rfl, he'⟩ := hg
  apply h.eq_of_serial_eq hf hg
  rw [he, he']

/-- An enumeration that has been asked for has an evaluator. -/
theorem Coherent.exists_serial {s : Option Nat} (h : r.Coherent) (hf : f.isEnumeration)
    (hs : r.serial? f = some s) :
  ∃ n, s = some n
  := by
  obtain ⟨known, hknown, rfl⟩ := Option.map_eq_some_iff.mp hs
  cases known with
  | some e =>
      use e.serial
      rfl
  | none =>
      have hm := h.ofKind?_eq_none hknown
      rw [Field.isEnumeration] at hf
      split at hf
      · rename_i hkind
        rw [hkind] at hm
        cases hm
      · cases hf

/-- The second registry is the first one except for its evaluators, and an evaluator that was there
has the same serial number. -/
structure Grows (r r' : Registry) : Prop where
  eq_with : ∃ evaluators made, r' = { r with evaluators, made }
  serial?_eq {f : Field} {s : Option Nat} (h : r.serial? f = some s) : r'.serial? f = some s

theorem Grows.refl (r : Registry) :
  r.Grows r
  where
  eq_with := ⟨r.evaluators, r.made, rfl⟩
  serial?_eq h := h

theorem Grows.trans {r'' : Registry} (h : r.Grows r') (h' : r'.Grows r'') :
  r.Grows r''
  where
  eq_with := by
    obtain ⟨_, _, rfl⟩ := h.eq_with
    obtain ⟨evaluators, made, rfl⟩ := h'.eq_with
    use evaluators, made
  serial?_eq hs := h'.serial?_eq (h.serial?_eq hs)

/-! ### What is held for one field -/

/-- The registry holds this for a field, and what another registry holds for all others. -/
def Enters (r r' : Registry) (f : Field) (known : Option Evaluator) : Prop :=
  ∀ g, r'.evaluators.lookup g = if g = f then some known else r.evaluators.lookup g

theorem lookup_cons_eq_ite (known : Option Evaluator)
    (evaluators : List (Field × Option Evaluator)) (g : Field) :
  ((f, known) :: evaluators).lookup g = if g = f then some known else evaluators.lookup g
  := by
  rw [List.lookup_cons]
  split
  · rename_i h
    rw [if_pos (eq_of_beq h)]
  · rename_i h
    rw [if_neg (ne_of_beq_false h)]

theorem lookup_filter_ne (h : g ≠ f) (evaluators : List (Field × Option Evaluator)) :
  (evaluators.filter (·.1 != f)).lookup g = evaluators.lookup g
  := by
  induction evaluators with
  | nil => rfl
  | cons entry evaluators ih =>
      obtain ⟨f', known⟩ := entry
      by_cases hf : f' = f
      · rw [List.filter_cons_of_neg (by simp [hf]), ih, hf, lookup_cons_eq_ite, if_neg h]
      · rw [List.filter_cons_of_pos (by simp [hf]), lookup_cons_eq_ite, lookup_cons_eq_ite, ih]

theorem enters_cons (r : Registry) (f : Field) (known : Option Evaluator) (made : Nat) :
  r.Enters { r with evaluators := (f, known) :: r.evaluators, made } f known
  := lookup_cons_eq_ite known r.evaluators

theorem enters_store (r : Registry) (f : Field) (e : Evaluator) :
  r.Enters (r.store f e) f (some e)
  := by
  intro g
  rw [store, lookup_cons_eq_ite]
  split
  · rfl
  · rename_i h
    rw [lookup_filter_ne h]

/-- A registry grows when it comes to hold something with the same serial number for a field, or
anything for a field that it held nothing for. -/
theorem Enters.grows {evaluators : List (Field × Option Evaluator)} {made : Nat}
    {known : Option Evaluator} (henters : r.Enters { r with evaluators, made } f known)
    (hserial : ∀ s, r.serial? f = some s → known.map (·.serial) = s) :
  r.Grows { r with evaluators, made }
  where
  eq_with := ⟨evaluators, made, rfl⟩
  serial?_eq {g s} hs := by
    rw [serial?, henters]
    split
    · rename_i heq
      rw [heq] at hs
      rw [← hserial s hs]
      rfl
    · apply hs

/-- A coherent registry stays so when it comes to hold something sound for a field, whose serial
number is that of no other. -/
theorem Coherent.enters {evaluators : List (Field × Option Evaluator)} {made : Nat}
    {known : Option Evaluator} (h : r.Coherent) (hmade : r.made ≤ made)
    (henters : r.Enters { r with evaluators, made } f known)
    (hnone : known = none → Method.ofKind? (r.retention f) f.kind = none)
    (hsome : ∀ e, known = some e → e.method.Serves f.kind ∧ e.serial < made
      ∧ ∀ g e', g ≠ f → r.evaluators.lookup g = some (some e') → e'.serial ≠ e.serial) :
  Coherent { r with evaluators, made }
  := by
  constructor
  · intro g hg
    rw [henters] at hg
    split at hg
    · rename_i heq
      rw [heq]
      apply hnone (Option.some.inj hg)
    · apply h.ofKind?_eq_none hg
  · intro g e hg
    rw [henters] at hg
    split at hg
    · rename_i heq
      rw [heq]
      apply (hsome e (Option.some.inj hg)).1
    · apply h.serves hg
  · intro g e hg
    rw [henters] at hg
    split at hg
    · apply (hsome e (Option.some.inj hg)).2.1
    · apply Nat.lt_of_lt_of_le (h.serial_lt hg) hmade
  · intro g g' e e' hg hg' heq
    rw [henters] at hg hg'
    -- Either field may be the one for which something was entered.
    split at hg <;> split at hg'
    · rename_i hgf hgf'
      rw [hgf, hgf']
    · rename_i hgf'
      cases (hsome e (Option.some.inj hg)).2.2 g' e' hgf' hg' heq.symm
    · rename_i hgf _
      cases (hsome e' (Option.some.inj hg')).2.2 g e hgf hg heq
    · apply h.eq_of_serial_eq hg hg' heq

/-! ### Asking -/

/-- An evaluator is asked for: it is there already, or the field has none, or it is made. -/
theorem serve_cases (r : Registry) (f : Field) :
  (∃ known, r.evaluators.lookup f = some known ∧ r.serve f = (r, known))
    ∨ r.evaluators.lookup f = none
      ∧ ((Method.ofKind? (r.retention f) f.kind = none
          ∧ r.serve f = ({ r with evaluators := (f, none) :: r.evaluators }, none))
        ∨ ∃ m, Method.ofKind? (r.retention f) f.kind = some m
          ∧ r.serve f = ({ r with
              evaluators := (f, some ⟨r.made, m⟩) :: r.evaluators
              made := r.made + 1 }, some ⟨r.made, m⟩))
  := by
  rw [serve]
  cases hknown : r.evaluators.lookup f with
  | some known =>
      apply Or.inl
      use known
  | none =>
      apply Or.inr
      use rfl
      cases hm : Method.ofKind? (r.retention f) f.kind with
      | none => apply Or.inl ⟨rfl, rfl⟩
      | some m =>
          apply Or.inr
          use m

/-- Asking for an evaluator changes nothing but what is held for the field, which is the answer. -/
theorem serve_spec (h : r.Coherent) (f : Field) :
  (r.serve f).1.Coherent ∧ (r.serve f).1.evaluators.lookup f = some (r.serve f).2
    ∧ r.Grows (r.serve f).1
  := by
  obtain ⟨known, hknown, heq⟩ | ⟨hlookup, ⟨hm, heq⟩ | ⟨m, hm, heq⟩⟩ := r.serve_cases f
  · rw [heq]
    use h, hknown
    apply Grows.refl
  · rw [heq]
    have henters := r.enters_cons f none r.made
    use h.enters (Nat.le_refl _) henters (fun _ => hm) (fun _ he => by cases he)
    use List.lookup_cons_self
    apply henters.grows
    simp [serial?, hlookup]
  · rw [heq]
    have henters := r.enters_cons f (some ⟨r.made, m⟩) (r.made + 1)
    constructor
    · apply h.enters (Nat.le_succ _) henters
      · intro hnone
        cases hnone
      · intro e he
        cases he
        use Method.serves_of_ofKind? hm, Nat.lt_succ_self _
        intro g e' _ he'
        apply Nat.ne_of_lt (h.serial_lt he')
    · use List.lookup_cons_self
      apply henters.grows
      simp [serial?, hlookup]

/-- The method of an evaluator makes the predicate of a field that it serves, and serves it still
after that. -/
theorem predicate_of_serves {m : Method} (h : m.Serves f.kind) (input : Input)
    (sent : Option SentValues) :
  (m.predicate r.loose f input.values (sent.map (⟨·, r.alias? f⟩))).1 = r.predicate f input sent
    ∧ (m.predicate r.loose f input.values (sent.map (⟨·, r.alias? f⟩))).2.Serves f.kind
  := by
  rw [predicate, dialect?]
  generalize hkind : f.kind = kind at h
  cases h with
  | text => exact ⟨rfl, .text⟩
  | number => exact ⟨rfl, .number⟩
  | timestamp => exact ⟨rfl, .timestamp⟩
  | enumeration hsound =>
      obtain ⟨hresult, hsound'⟩ :=
        Evaluation.computes_compose input.values (sent.map (⟨·, r.alias? f⟩)) _ hsound
      use hresult
      apply Method.Serves.enumeration hsound'

/-- Storing what an evaluator is after its use keeps a registry coherent. -/
theorem store_spec {e : Evaluator} {m : Method} (h : r.Coherent)
    (hlookup : r.evaluators.lookup f = some (some e)) (hserves : m.Serves f.kind) :
  (r.store f { e with method := m }).Coherent ∧ r.Grows (r.store f { e with method := m })
  := by
  have henters := r.enters_store f { e with method := m }
  have hlt := h.serial_lt hlookup
  constructor
  · apply h.enters (Nat.le_refl _) henters
    · intro hnone
      cases hnone
    · intro e' he'
      cases he'
      use hserves, hlt
      intro g e' hne he' heq
      apply hne (h.eq_of_serial_eq he' hlookup heq)
  · apply henters.grows
    intro s hs
    rw [serial?, hlookup] at hs
    apply Option.some.inj hs

/-- A coherent registry answers with the predicate of the field, and stays coherent. -/
theorem ask_spec (h : r.Coherent) (f : Field) (input : Input) (sent : Option SentValues) :
  (r.ask f input sent).2 = r.predicate f input sent ∧ (r.ask f input sent).1.Coherent
    ∧ r.Grows (r.ask f input sent).1
  := by
  obtain ⟨hcoherent, hlookup, hgrows⟩ := serve_spec h f
  have hpredicate : r.predicate f input sent = (r.serve f).1.predicate f input sent := by
    obtain ⟨_, _, heq⟩ := hgrows.eq_with
    rw [heq]
    rfl
  rw [ask, hpredicate]
  generalize r.serve f = served at hcoherent hlookup hgrows
  obtain ⟨r', known⟩ := served
  cases known with
  | none =>
      use (predicate_of_dialect?_eq_none
        (Method.dialect?_eq_none (hcoherent.ofKind?_eq_none hlookup) r'.loose) input sent).symm
  | some e =>
      obtain ⟨hresult, hserves⟩ := predicate_of_serves (hcoherent.serves hlookup) input sent
      obtain ⟨hcoherent', hgrows'⟩ := store_spec hcoherent hlookup hserves
      exact ⟨hresult, hcoherent', hgrows.trans hgrows'⟩

end Registry

end QueryFilter
