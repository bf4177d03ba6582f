import Mathlib.Data.List.Forall2

/-!
# Computations that may fail

A chain of steps succeeds if all of them do (`bind_eq_ok`), and so does a loop that collects their results
(`mapM_eq_ok`, `mapM_range_eq_ok`).
-/

namespace Outcome

variable {ε α β : Type}

theorem bind_eq_ok {x : Except ε α} {f : α → Except ε β} {b : β} : x >>= f = .ok b ↔ ∃ a, x = .ok a ∧ f a = .ok b := by
  cases x with
  | ok a =>
    constructor
    · exact fun h => ⟨a, rfl, h⟩
    · rintro ⟨_, ha, h⟩
      cases ha
      exact h
  | error e =>
    constructor
    · intro h
      cases h
    · rintro ⟨_, ha, _⟩
      cases ha

theorem mapM_eq_ok {f : α → Except ε β} {xs : List α} {ys : List β} :
    xs.mapM f = .ok ys ↔ List.Forall₂ (fun x y => f x = .ok y) xs ys := by
  induction xs generalizing ys with
  | nil =>
    rw [List.mapM_nil, List.forall₂_nil_left_iff]
    constructor
    · intro h
      cases h
      rfl
    · rintro rfl
      rfl
  | cons x xs ih =>
    rw [List.mapM_cons, bind_eq_ok, List.forall₂_cons_left_iff]
    constructor
    · rintro ⟨y, hy, h⟩
      obtain ⟨rest, hrest, h⟩ := bind_eq_ok.1 h
      cases h
      exact ⟨y, rest, hy, ih.1 hrest, rfl⟩
    · rintro ⟨y, rest, hy, hrest, rfl⟩
      exact ⟨y, hy, bind_eq_ok.2 ⟨rest, ih.2 hrest, rfl⟩⟩

/-- A loop over the numbers below `n`. -/
theorem mapM_range_eq_ok {f : ℕ → Except ε β} {n : ℕ} {ys : List β} :
    (List.range n).mapM f = .ok ys ↔ ys.length = n ∧ ∀ i (h : i < ys.length), f i = .ok ys[i] := by
  rw [mapM_eq_ok, List.forall₂_iff_get]
  constructor
  · rintro ⟨hlength, h⟩
    rw [List.length_range] at hlength
    refine ⟨hlength.symm, fun i hi => ?_⟩
    have hstep := h i (by simpa [hlength] using hi) hi
    simpa using hstep
  · rintro ⟨rfl, h⟩
    refine ⟨List.length_range, fun i hi₁ hi₂ => ?_⟩
    simpa using h i hi₂

end Outcome
