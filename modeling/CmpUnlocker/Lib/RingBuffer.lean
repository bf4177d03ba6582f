import Mathlib.Data.List.Rotate

/-!
# Ring buffers

A buffer whose first `target` slots are written in turn, and then anew from the first one on.  It counts its values up
to `target`.  The values it `Holds` are the last ones that were pushed; a reader that takes as many slots as are
counted, from the first slot on and without regard to the position, gets them in some order (`Holds.perm`).
-/

structure RingBuffer (α : Type) where
  slots : List α
  pos : Nat
  count : Nat

namespace RingBuffer

variable {α : Type} {target : Nat} {history : List α} {b : RingBuffer α}

def push (target : Nat) (b : RingBuffer α) (x : α) : RingBuffer α where
  slots := b.slots.set b.pos x
  pos := (b.pos + 1) % target
  count := if b.count < target then b.count + 1 else b.count

/-- The buffer after the values of a history have been pushed, the newest one last. -/
structure Holds (target : Nat) (history : List α) (b : RingBuffer α) : Prop where
  room : target ≤ b.slots.length
  pos : b.pos = history.length % target
  count : b.count = min history.length target
  recent : ∀ j x, history[j]? = some x → history.length ≤ j + target → b.slots[j % target]? = some x

theorem holds_nil {slots : List α} (h : target ≤ slots.length) : Holds target [] ⟨slots, 0, 0⟩ where
  room := h
  pos := by simp
  count := by simp
  recent := by simp

/-- Values less than a round apart are in different slots. -/
theorem slot_ne {i j : Nat} (hlt : j < i) (hround : i < j + target) : i % target ≠ j % target := by
  intro hsame
  have hzero := Nat.sub_mod_eq_zero_of_mod_eq hsame
  have hsmall : (i - j) % target = i - j := Nat.mod_eq_of_lt (by omega)
  omega

theorem Holds.push (h : b.Holds target history) (htarget : 0 < target) (x : α) :
    (b.push target x).Holds target (history ++ [x]) where
  room := by
    have hroom := h.room
    simpa [RingBuffer.push] using hroom
  pos := by simp [RingBuffer.push, h.pos]
  count := by
    have hcount := h.count
    simp only [RingBuffer.push, List.length_append, List.length_singleton]
    split <;> omega
  recent := by
    intro j y hj hround
    rw [List.length_append, List.length_singleton] at hround
    by_cases hnew : j = history.length
    · subst hnew
      obtain rfl : x = y := by simpa using hj
      have hlt : history.length % target < b.slots.length := by
        have hmod := Nat.mod_lt history.length htarget
        have hroom := h.room
        omega
      rw [RingBuffer.push, h.pos]
      exact List.getElem?_set_self hlt
    · have hold : j < history.length := by
        have hlength := (List.getElem?_eq_some_iff.1 hj).1
        rw [List.length_append, List.length_singleton] at hlength
        omega
      rw [List.getElem?_append_left hold] at hj
      have hapart : history.length % target ≠ j % target := slot_ne hold (by omega)
      rw [RingBuffer.push, h.pos, List.getElem?_set_ne hapart]
      exact h.recent j y hj (by omega)

theorem Holds.pos_lt (h : b.Holds target history) (htarget : 0 < target) : b.pos < target := by
  rw [h.pos]
  exact Nat.mod_lt _ htarget

/-- The counted slots hold the last values. -/
theorem Holds.perm (h : b.Holds target history) :
    (b.slots.take b.count).Perm (history.drop (history.length - b.count)) := by
  have hcount := h.count
  have hroom := h.room
  by_cases hfull : target < history.length
  · -- the slots are the last values, turned by the length of the history
    have hcount' : b.count = target := by omega
    have hlength : (b.slots.take target).length = target := by
      rw [List.length_take]
      omega
    have hrotate : history.drop (history.length - target) = (b.slots.take target).rotate history.length := by
      apply List.ext_getElem?
      intro i
      by_cases hi : i < target
      · have hlt : history.length - target + i < history.length := by omega
        have hslot := h.recent _ _ (List.getElem?_eq_getElem hlt) (by omega)
        have hshift : i + history.length = history.length - target + i + target := by omega
        have hmod : (i + history.length) % target < target := Nat.mod_lt _ (by omega)
        have hsame : (i + history.length) % target = (history.length - target + i) % target := by
          rw [hshift, Nat.add_mod_right]
        rw [List.getElem?_rotate (by omega), hlength, List.getElem?_take_of_lt hmod, hsame, hslot,
          List.getElem?_drop, List.getElem?_eq_getElem hlt]
      · have hleft : (history.drop (history.length - target)).length ≤ i := by
          rw [List.length_drop]
          omega
        have hright : ((b.slots.take target).rotate history.length).length ≤ i := by
          rw [List.length_rotate]
          omega
        rw [List.getElem?_eq_none hleft, List.getElem?_eq_none hright]
    rw [hcount', hrotate]
    exact (List.rotate_perm _ _).symm
  · have hcount' : b.count = history.length := by omega
    have hsame : b.slots.take history.length = history := by
      apply List.ext_getElem?
      intro i
      by_cases hi : i < history.length
      · have hslot := h.recent i _ (List.getElem?_eq_getElem hi) (by omega)
        rw [Nat.mod_eq_of_lt (by omega)] at hslot
        rw [List.getElem?_take_of_lt hi, hslot, List.getElem?_eq_getElem hi]
      · rw [List.getElem?_take_eq_none (by omega), List.getElem?_eq_none (by omega)]
    rw [hcount', hsame, Nat.sub_self, List.drop_zero]

end RingBuffer
