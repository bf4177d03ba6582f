import Mathlib.Order.WithBot

/-!
# Comparisons of floating-point values

Values of a floating-point type with the comparisons of IEEE 754: a NaN is not comparable with anything, not even with
itself; the infinities are the ends of the order.  `pyMax a b` keeps its first argument unless the second one is
greater, as the `max` of a language that compares with `>` does.  A maximum folded from a number on is a number, and it
exceeds a bound if and only if one of the values does (`foldl_pyMax_gt`): the NaNs among them leave no trace.
-/

namespace Ieee

/-- A value over numbers of type `α`. -/
inductive Value (α : Type) : Type
  | nan
  | num (x : WithBot (WithTop α))
  deriving DecidableEq

namespace Value

variable {α : Type}

def of (x : α) : Value α := num ((x : WithTop α) : WithBot (WithTop α))

variable [LinearOrder α]

def lt : Value α → Value α → Bool
  | num x, num y => decide (x < y)
  | _, _ => false

def le : Value α → Value α → Bool
  | num x, num y => decide (x ≤ y)
  | _, _ => false

/-- `max(a, b)`. -/
def pyMax (a b : Value α) : Value α := if lt a b then b else a

/-- `min(a, b)`. -/
def pyMin (a b : Value α) : Value α := if lt b a then b else a

@[simp] theorem lt_num (x y : WithBot (WithTop α)) : lt (num x) (num y) = decide (x < y) := rfl

@[simp] theorem lt_of (x y : α) : lt (of x) (of y) = decide (x < y) := by simp [of]

@[simp] theorem le_of (x y : α) : le (of x) (of y) = decide (x ≤ y) := by simp [of, le]

@[simp] theorem lt_nan (a : Value α) : lt a nan = false := by cases a <;> rfl

@[simp] theorem nan_lt (a : Value α) : lt nan a = false := by cases a <;> rfl

theorem pyMax_ne_nan {a : Value α} (h : a ≠ nan) (b : Value α) : pyMax a b ≠ nan := by
  unfold pyMax
  by_cases hab : lt a b = true
  · rw [if_pos hab]
    rintro rfl
    simp at hab
  · rw [if_neg hab]
    exact h

/-- A maximum exceeds a bound if and only if one of its arguments does; the first must be a number. -/
theorem pyMax_gt {a : Value α} (h : a ≠ nan) (b t : Value α) :
    lt t (pyMax a b) = true ↔ lt t a = true ∨ lt t b = true := by
  cases a with
  | nan => exact absurd rfl h
  | num x =>
    cases t with
    | nan => simp
    | num z =>
      cases b with
      | nan => simp [pyMax]
      | num y =>
        unfold pyMax
        by_cases hxy : x < y
        · have hlt : z < x → z < y := fun hz => lt_trans hz hxy
          simpa [hxy] using hlt
        · have hlt : z < y → z < x := fun hz => lt_of_lt_of_le hz (not_lt.1 hxy)
          simpa [hxy] using hlt

theorem foldl_pyMax_gt {a : Value α} (h : a ≠ nan) (vs : List (Value α)) (t : Value α) :
    lt t (vs.foldl pyMax a) = true ↔ lt t a = true ∨ ∃ v ∈ vs, lt t v = true := by
  induction vs generalizing a with
  | nil => simp
  | cons v vs ih =>
    rw [List.foldl_cons, ih (pyMax_ne_nan h v), pyMax_gt h]
    simp [or_assoc]

end Value

end Ieee
