import Mathlib.Logic.Function.Basic

/-!
# Maximal runs

The maximal runs of elements with a property in a list.  Two of them are equal or one lies before the other, with an
element without the property between them.
-/

namespace Runs

variable {α : Type} {p : α → Bool} {data : List α} {start start' stop stop' : Nat}

/-- No element in front of the position has the property. -/
def Opens (p : α → Bool) (data : List α) (start : Nat) : Prop := ∀ i x, i + 1 = start → data[i]? = some x → p x = false

/-- The elements from `start` up to `stop` have the property, and neither neighbour has it. -/
structure IsRun (p : α → Bool) (data : List α) (start stop : Nat) : Prop where
  lt : start < stop
  le : stop ≤ data.length
  all : ∀ i x, start ≤ i → i < stop → data[i]? = some x → p x = true
  opens : Opens p data start
  closes : ∀ x, data[stop]? = some x → p x = false

theorem IsRun.get (h : IsRun p data start stop) {i : Nat} (hstart : start ≤ i) (hstop : i < stop) :
    ∃ x, data[i]? = some x ∧ p x = true := by
  have hlt : i < data.length := by
    have hle := h.le
    omega
  exact ⟨data[i], List.getElem?_eq_getElem hlt, h.all i _ hstart hstop (List.getElem?_eq_getElem hlt)⟩

/-- A run is behind a position in front of which nothing has the property, or it ends before it. -/
theorem IsRun.apart (h : IsRun p data start stop) {i : Nat} (hopens : Opens p data i) : stop < i ∨ i ≤ start := by
  by_cases hbehind : i ≤ start
  · exact .inr hbehind
  · by_cases hbefore : stop < i
    · exact .inl hbefore
    · obtain ⟨j, rfl⟩ : ∃ j, i = j + 1 := ⟨i - 1, by omega⟩
      obtain ⟨x, hx, hpx⟩ := h.get (show start ≤ j by omega) (show j < stop by omega)
      have hfalse := hopens j x rfl hx
      rw [hpx] at hfalse
      cases hfalse

theorem IsRun.start_unique (h : IsRun p data start stop) (h' : IsRun p data start' stop) : start = start' := by
  have hapart := h.apart h'.opens
  have hapart' := h'.apart h.opens
  have hlt := h.lt
  have hlt' := h'.lt
  omega

/-- An element without the property lies in no run. -/
theorem IsRun.outside (h : IsRun p data start stop) {i : Nat} {x : α} (hx : data[i]? = some x) (hpx : p x = false) :
    i < start ∨ stop ≤ i := by
  by_cases hbefore : i < start
  · exact .inl hbefore
  · by_cases hbehind : stop ≤ i
    · exact .inr hbehind
    · have htrue := h.all i x (by omega) (by omega) hx
      rw [hpx] at htrue
      cases htrue

/-- Runs with different ends lie one behind the other. -/
theorem IsRun.behind (h : IsRun p data start stop) (h' : IsRun p data start' stop') (hlt : stop < stop') :
    stop < start' := by
  have hin : stop < data.length := Nat.lt_of_lt_of_le hlt h'.le
  have hget : data[stop]? = some data[stop] := List.getElem?_eq_getElem hin
  have houtside := h'.outside hget (h.closes _ hget)
  omega

end Runs
