import Mathlib.Data.Nat.Bitwise
import Mathlib.Logic.Function.Iterate

/-!
# Set bits

The set bits of a number from the lowest on.  `below m j` counts those at positions below `j`; `dropLowest` clears the
lowest one as `m & (m - 1)` does.  Clearing it `k` times leaves the set bits with at least `k` set bits below them
(`testBit_dropLowest_iterate`), and `k` fewer of them (`count_dropLowest_iterate`).
-/

namespace Bits

/-- The number of set bits at positions below `j`. -/
def below (m j : Nat) : Nat := (List.range j).countP m.testBit

/-- The number of set bits; those from position `m` on are clear. -/
def count (m : Nat) : Nat := below m m

/-- `m & (m - 1)`. -/
def dropLowest (m : Nat) : Nat := m &&& (m - 1)

@[simp] theorem below_zero (m : Nat) : below m 0 = 0 := rfl

theorem below_succ (m j : Nat) : below m (j + 1) = below m j + if m.testBit j then 1 else 0 := by
  simp [below, List.range_succ, List.countP_append, List.countP_singleton]

theorem below_half (m j : Nat) : below m (j + 1) = m % 2 + below (m / 2) j := by
  induction j with
  | zero =>
    rw [below_succ, below_zero, below_zero, Nat.testBit_zero]
    by_cases hodd : m % 2 = 1
    · simp [hodd]
    · have heven : m % 2 = 0 := by omega
      simp [heven]
  | succ j ih => rw [below_succ, ih, below_succ, Nat.testBit_succ, Nat.add_assoc]

theorem below_eq_count {m j : Nat} (h : m ≤ j) : below m j = count m := by
  induction j with
  | zero =>
    obtain rfl : m = 0 := by omega
    rfl
  | succ j ih =>
    by_cases hm : m = j + 1
    · rw [hm, count]
    · have hclear : m.testBit j = false := by
        refine Nat.testBit_lt_two_pow (lt_of_le_of_lt ?_ Nat.lt_two_pow_self)
        omega
      rw [below_succ, hclear, ih (by omega)]
      simp

/-- A set bit stays set exactly if there is one below it. -/
theorem testBit_dropLowest (m j : Nat) : (dropLowest m).testBit j = (m.testBit j && decide (0 < below m j)) := by
  induction m using Nat.strongRecOn generalizing j with
  | ind m ih =>
    unfold dropLowest at ih ⊢
    rw [Nat.testBit_and]
    cases j with
    | zero =>
      rw [Nat.testBit_zero, Nat.testBit_zero, below_zero]
      by_cases hodd : m % 2 = 1
      · have hpred : (m - 1) % 2 = 0 := by omega
        simp [hodd, hpred]
      · simp [hodd]
    | succ j =>
      rw [Nat.testBit_succ, Nat.testBit_succ, below_half]
      by_cases hodd : m % 2 = 1
      · -- the lowest bit is the one that is cleared
        have hpred : (m - 1) / 2 = m / 2 := by omega
        have hbelow : 0 < m % 2 + below (m / 2) j := by omega
        rw [hpred]
        simp [hbelow]
      · by_cases hzero : m = 0
        · subst hzero
          simp
        · have hpred : (m - 1) / 2 = m / 2 - 1 := by omega
          have heven : m % 2 + below (m / 2) j = below (m / 2) j := by omega
          have hhalf := ih (m / 2) (by omega) j
          rw [Nat.testBit_and] at hhalf
          rw [hpred, heven, hhalf]

theorem below_dropLowest (m j : Nat) : below (dropLowest m) j = below m j - 1 := by
  induction j with
  | zero => rfl
  | succ j ih =>
    rw [below_succ, below_succ, ih, testBit_dropLowest]
    by_cases hset : m.testBit j = true
    · by_cases hbelow : 0 < below m j
      · simp only [hset, hbelow, decide_true, Bool.and_self, if_true]
        omega
      · simp only [hset, hbelow, decide_false, Bool.and_false, Bool.false_eq_true, if_false, if_true]
        omega
    · simp [hset]

theorem dropLowest_le (m : Nat) : dropLowest m ≤ m := Nat.and_le_left

theorem count_dropLowest (m : Nat) : count (dropLowest m) = count m - 1 := by
  rw [← below_eq_count (dropLowest_le m), below_dropLowest, ← count]

theorem below_dropLowest_iterate (k m j : Nat) : below (dropLowest^[k] m) j = below m j - k := by
  induction k with
  | zero => rfl
  | succ k ih =>
    rw [Function.iterate_succ_apply', below_dropLowest, ih]
    omega

theorem count_dropLowest_iterate (k m : Nat) : count (dropLowest^[k] m) = count m - k := by
  induction k with
  | zero => rfl
  | succ k ih =>
    rw [Function.iterate_succ_apply', count_dropLowest, ih]
    omega

/-- The set bits that stay are those with at least `k` set bits below them. -/
theorem testBit_dropLowest_iterate (k m j : Nat) :
    (dropLowest^[k] m).testBit j = (m.testBit j && decide (k ≤ below m j)) := by
  induction k with
  | zero => simp
  | succ k ih =>
    rw [Function.iterate_succ_apply', testBit_dropLowest, ih, below_dropLowest_iterate, Bool.and_assoc]
    congr 1
    rw [← Bool.decide_and]
    exact decide_eq_decide.2 (by omega)

end Bits
