/-!
# Computations that may fail

When such a computation succeeds, so does every part of it, and when it fails, so does some part of
it with the same failure; what is done with its result does not keep it from failing.
-/

namespace Except

variable {ε α β σ : Type}

theorem map_eq_ok_iff {x : Except ε α} {f : α → β} {b : β} :
  x.map f = .ok b ↔ ∃ a, x = .ok a ∧ f a = b
  := by
  cases x with
  | error e => simp [Except.map]
  | ok a => simp [Except.map]

theorem map_eq_error_iff {x : Except ε α} {f : α → β} {e : ε} :
  x.map f = .error e ↔ x = .error e
  := by
  cases x with
  | error e' => simp [Except.map]
  | ok a => simp [Except.map]

theorem bind_eq_ok_iff {x : Except ε α} {f : α → Except ε β} {b : β} :
  x >>= f = .ok b ↔ ∃ a, x = .ok a ∧ f a = .ok b
  := by
  cases x with
  | error e => simp [bind, Except.bind]
  | ok a => simp [bind, Except.bind]

theorem bind_eq_error_iff {x : Except ε α} {f : α → Except ε β} {e : ε} :
  x >>= f = .error e ↔ x = .error e ∨ ∃ a, x = .ok a ∧ f a = .error e
  := by
  cases x with
  | error e' => simp [bind, Except.bind]
  | ok a => simp [bind, Except.bind]

/-- Computations that differ in their failures only, and only in what is forgotten of them, still do
when they are continued by such computations. -/
theorem mapError_bind_congr {ε' : Type} {g : ε → ε'} {x x' : Except ε α} {f f' : α → Except ε β}
    (hx : x.mapError g = x'.mapError g) (hf : ∀ a, (f a).mapError g = (f' a).mapError g) :
  (x >>= f).mapError g = (x' >>= f').mapError g
  := by
  cases x with
  | error e =>
      cases x' with
      | error e' => apply congrArg Except.error (error.inj hx)
      | ok a => cases hx
  | ok a =>
      cases x' with
      | error e => cases hx
      | ok a' =>
          cases hx
          apply hf a

/-! ### Many steps -/

/-- Steps that fail do so because one of them fails. -/
theorem exists_of_foldlM_eq_error {step : σ → α → Except ε σ} {xs : List α} {s : σ} {e : ε}
    (h : xs.foldlM step s = .error e) :
  ∃ x ∈ xs, ∃ s', step s' x = .error e
  := by
  induction xs generalizing s with
  | nil => cases h
  | cons x xs ih =>
      rw [List.foldlM_cons] at h
      rcases bind_eq_error_iff.mp h with hx | ⟨s', -, hxs⟩
      · exact ⟨x, List.mem_cons_self, s, hx⟩
      · obtain ⟨y, hy, hstep⟩ := ih hxs
        exact ⟨y, List.mem_cons_of_mem x hy, hstep⟩

/-- Steps that succeed lead to the same result as other steps that succeed wherever they do. -/
theorem foldlM_eq_ok_of_imp {step step' : σ → α → Except ε σ}
    (himp : ∀ s x t, step s x = .ok t → step' s x = .ok t) {xs : List α} {s t : σ}
    (h : xs.foldlM step s = .ok t) :
  xs.foldlM step' s = .ok t
  := by
  induction xs generalizing s with
  | nil => apply h
  | cons x xs ih =>
      rw [List.foldlM_cons] at h ⊢
      obtain ⟨s', hx, hxs⟩ := bind_eq_ok_iff.mp h
      rw [himp s x s' hx]
      apply ih hxs

/-- Values that are computed one by one are there exactly if each is. -/
theorem mapM_eq_ok_iff {f : α → Except ε β} {xs : List α} {ys : List β} :
  xs.mapM f = .ok ys ↔ xs.map f = ys.map .ok
  := by
  induction xs generalizing ys with
  | nil =>
      cases ys with
      | nil => simp [pure, Except.pure]
      | cons y ys => simp [pure, Except.pure]
  | cons x xs ih =>
      rw [List.mapM_cons, bind_eq_ok_iff, List.map_cons]
      simp only [bind_eq_ok_iff, ih]
      constructor
      · rintro ⟨y, hy, ys', hys, h⟩
        cases h
        rw [hy, hys, List.map_cons]
      · intro h
        cases ys with
        | nil => cases h
        | cons y ys =>
            rw [List.map_cons, List.cons_eq_cons] at h
            exact ⟨y, h.1, ys, h.2, rfl⟩

/-- Computing values one by one fails exactly if one of them cannot be computed. -/
theorem exists_mapM_eq_error_iff {f : α → Except ε β} {xs : List α} :
  (∃ e, xs.mapM f = .error e) ↔ ∃ x ∈ xs, ∃ e, f x = .error e
  := by
  induction xs with
  | nil => simp [pure, Except.pure]
  | cons x xs ih =>
      simp only [List.mapM_cons, bind_eq_error_iff, List.mem_cons, exists_eq_or_imp]
      cases hx : f x with
      | error e => simp
      | ok y => simpa [pure, Except.pure] using ih

end Except
