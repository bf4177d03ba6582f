import CmpUnlocker.Lib.Bits
import Mathlib.Algebra.BigOperators.Fin
import Mathlib.Algebra.Order.BigOperators.Group.Finset

/-!
# The TPC request model

`model` of `analyze_v100_tpc_request.py`: the masks of six slots, of which a request clears one bit after the other,
each time the lowest one of the first slot with the most bits left.  A run of the loop is described by its list of
selected slots: it is the greedy one (`Greedy`), each mask has lost its lowest bits, as many as its slot was selected
(`State.Stripped`), and the slots that were selected are level with the others up to one bit (`Greedy.level`).
-/

namespace CmpUnlocker.Analysis

open Bits

/-- What is kept for each of the six slots. -/
abbrev Slots (α : Type) : Type := Fin 6 → α

/-- `max(range(6), key=lambda i: counts[i])`: the first one of the greatest. -/
def firstMax (counts : Slots Int) : Fin 6 :=
  [1, 2, 3, 4, 5].foldl (fun best i => if counts best < counts i then i else best) 0

structure State where
  masks : Slots Nat
  counts : Slots Int
  selected : List (Fin 6)

/-- One round of the loop; a mask of no bits would stay as it is. -/
def State.strip (s : State) : State :=
  let index := firstMax s.counts
  { masks := Function.update s.masks index (s.masks index &&& (s.masks index - 1))
    counts := Function.update s.counts index (s.counts index - 1)
    selected := s.selected ++ [index] }

/-- The masks of the CTRL values, `value & 0x7f`. -/
def masksOf (ctrl : List Int) : Slots Nat := fun i => (ctrl.getD i 0 % 128).toNat

def initial (ctrl : List Int) : State where
  masks := masksOf ctrl
  counts := fun i => count (masksOf ctrl i)
  selected := []

structure Result where
  reason : String
  selectedSlots : Option (List (Fin 6)) := none
  writes : List (String × Nat)

/-- `hex(n)`. -/
def hex (n : Nat) : String := "0x" ++ String.ofList (Nat.toDigits 16 n)

/-- The masks written, by the addresses of the active slots. -/
def writesOf (activeGpcs : Int) (masks : Slots Nat) : List (String × Nat) :=
  ((List.finRange 6).filter fun i => activeGpcs / 2 ^ i.val % 2 = 1).map fun i => (hex (0x21838 + 4 * i.val), masks i)

/-- `model(ctrl, count, guard, active_gpcs)`; the exception of `require` has this text. -/
def model (ctrl : List Int) (count guard activeGpcs : Int) : Except String Result :=
  if ¬(ctrl.length = 6 ∧ 0 ≤ count ∧ count ≤ 255) then .error "Invalid bounded model input"
  else if count = 0 then .ok { reason := "zero request", writes := [] }
  else if count > ∑ i, (initial ctrl).counts i then
    .ok { reason := "request exceeds existing CTRL set bits", writes := [] }
  else
    let s := State.strip^[count.toNat] (initial ctrl)
    if guard % 256 = 0 then
      .ok { reason := "low-byte guard zero", selectedSlots := some s.selected, writes := [] }
    else
      .ok { reason := "conditional CTRL writeback", selectedSlots := some s.selected,
            writes := writesOf activeGpcs s.masks }

/-! ### The selection -/

/-- The lowest-numbered slot among those with the most. -/
def FirstMax (counts : Slots Int) (s : Fin 6) : Prop := (∀ j, counts j ≤ counts s) ∧ ∀ j < s, counts j < counts s

/-- The fold over the slots behind `best`, in their order. -/
theorem foldl_firstMax (counts : Slots Int) {best : Fin 6} {slots : List (Fin 6)}
    (hsorted : (best :: slots).Pairwise (· < ·)) {r : Fin 6}
    (hr : slots.foldl (fun best i => if counts best < counts i then i else best) best = r) :
    r ∈ best :: slots ∧ (∀ j ∈ best :: slots, counts j ≤ counts r) ∧
      ∀ j ∈ best :: slots, j < r → counts j < counts r := by
  induction slots generalizing best with
  | nil =>
    obtain rfl : best = r := hr
    simp
  | cons v slots ih =>
    rw [List.foldl_cons] at hr
    obtain ⟨hbest, hrest⟩ := List.pairwise_cons.1 hsorted
    by_cases hgreater : counts best < counts v
    · rw [if_pos hgreater] at hr
      obtain ⟨hmem, hmax, hfirst⟩ := ih hrest hr
      have hv : counts v ≤ counts r := hmax v List.mem_cons_self
      refine ⟨List.mem_cons_of_mem _ hmem, ?_, ?_⟩
      · intro j hj
        rcases List.mem_cons.1 hj with rfl | hj
        · omega
        · exact hmax j hj
      · intro j hj hlt
        rcases List.mem_cons.1 hj with rfl | hj
        · omega
        · exact hfirst j hj hlt
    · rw [if_neg hgreater] at hr
      have hskip : (best :: slots).Pairwise (· < ·) := by
        refine List.pairwise_cons.2 ⟨fun j hj => hbest j (List.mem_cons_of_mem _ hj), (List.pairwise_cons.1 hrest).2⟩
      obtain ⟨hmem, hmax, hfirst⟩ := ih hskip hr
      have hb : counts best ≤ counts r := hmax best List.mem_cons_self
      have hbv : best < v := hbest v List.mem_cons_self
      refine ⟨?_, ?_, ?_⟩
      · rcases List.mem_cons.1 hmem with rfl | hmem
        · exact List.mem_cons_self
        · exact List.mem_cons_of_mem _ (List.mem_cons_of_mem _ hmem)
      · intro j hj
        rcases List.mem_cons.1 hj with rfl | hj
        · exact hb
        rcases List.mem_cons.1 hj with rfl | hj
        · omega
        · exact hmax j (List.mem_cons_of_mem _ hj)
      · intro j hj hlt
        rcases List.mem_cons.1 hj with rfl | hj
        · exact hfirst j List.mem_cons_self hlt
        rcases List.mem_cons.1 hj with rfl | hj
        · -- a later slot that is no better loses against `best`
          have hstrict := hfirst best List.mem_cons_self (lt_trans hbv hlt)
          omega
        · exact hfirst j (List.mem_cons_of_mem _ hj) hlt

private theorem firstMax_spec (counts : Slots Int) : FirstMax counts (firstMax counts) := by
  have hall : ∀ j : Fin 6, j ∈ (0 : Fin 6) :: [1, 2, 3, 4, 5] := by decide
  obtain ⟨-, hmax, hfirst⟩ := foldl_firstMax counts (by decide) (rfl : _ = firstMax counts)
  exact ⟨fun j => hmax j (hall j), fun j => hfirst j (hall j)⟩

/-! ### The runs of the loop -/

/-- The bits left in each slot behind these selections. -/
def remaining (masks : Slots Nat) (selected : List (Fin 6)) : Slots Int :=
  fun i => count (masks i) - selected.count i

/-- Each selection is the first of the greatest behind the selections before it. -/
def Greedy (masks : Slots Nat) (selected : List (Fin 6)) : Prop :=
  ∀ before s after, selected = before ++ s :: after → FirstMax (remaining masks before) s

/-- The state behind the selections: the lowest bits are cleared, and the counts are those of the bits left. -/
structure State.Stripped (masks : Slots Nat) (s : State) : Prop where
  cleared : ∀ i, s.masks i = dropLowest^[s.selected.count i] (masks i)
  counts : s.counts = remaining masks s.selected
  greedy : Greedy masks s.selected

variable {masks : Slots Nat} {selected : List (Fin 6)} {s : State}

private theorem remaining_append (masks : Slots Nat) (selected : List (Fin 6)) (i : Fin 6) :
    remaining masks (selected ++ [i]) =
      Function.update (remaining masks selected) i (remaining masks selected i - 1) := by
  funext j
  by_cases hj : j = i
  · subst hj
    rw [Function.update_self]
    simp only [remaining, List.count_append, List.count_singleton_self]
    omega
  · rw [Function.update_of_ne hj]
    have hcount : [i].count j = 0 := List.count_eq_zero.2 (by simpa using hj)
    simp [remaining, List.count_append, hcount]

theorem Greedy.append (h : Greedy masks selected) {i : Fin 6} (hi : FirstMax (remaining masks selected) i) :
    Greedy masks (selected ++ [i]) := by
  intro before s after hsplit
  rcases List.eq_nil_or_concat after with rfl | ⟨after, t, rfl⟩
  · obtain ⟨rfl, hlast⟩ := List.append_inj' hsplit rfl
    obtain rfl : i = s := by simpa using hlast
    exact hi
  · have hassoc : selected ++ [i] = (before ++ s :: after) ++ [t] := by simpa using hsplit
    obtain ⟨hselected, -⟩ := List.append_inj' hassoc rfl
    exact h before s after hselected

@[simp] theorem State.selected_strip (s : State) : s.strip.selected = s.selected ++ [firstMax s.counts] := rfl

theorem State.Stripped.strip (h : s.Stripped masks) : s.strip.Stripped masks := by
  have hspec : FirstMax (remaining masks s.selected) (firstMax s.counts) := by
    rw [← h.counts]
    exact firstMax_spec s.counts
  refine ⟨fun i => ?_, ?_, ?_⟩
  · unfold State.strip
    dsimp only
    by_cases hi : i = firstMax s.counts
    · subst hi
      rw [Function.update_self, List.count_append, List.count_singleton_self, Function.iterate_succ_apply',
        ← h.cleared]
      rfl
    · have hcount : [firstMax s.counts].count i = 0 := List.count_eq_zero.2 (by simpa using hi)
      rw [Function.update_of_ne hi, List.count_append, hcount, h.cleared]
      rfl
  · unfold State.strip
    dsimp only
    rw [remaining_append, ← h.counts]
  · exact h.greedy.append hspec

private theorem initial_stripped (ctrl : List Int) : (initial ctrl).Stripped (masksOf ctrl) := by
  refine ⟨fun i => rfl, ?_, ?_⟩
  · funext i
    simp [initial, remaining]
  · intro before s after hsplit
    simp [initial] at hsplit

private theorem iterate_stripped (ctrl : List Int) (n : Nat) :
    (State.strip^[n] (initial ctrl)).Stripped (masksOf ctrl) ∧
      (State.strip^[n] (initial ctrl)).selected.length = n := by
  induction n with
  | zero => exact ⟨initial_stripped ctrl, rfl⟩
  | succ n ih =>
    rw [Function.iterate_succ_apply']
    refine ⟨ih.1.strip, ?_⟩
    rw [State.selected_strip, List.length_append, ih.2, List.length_singleton]

/-! ### Levelling -/

/-- The sum of the bits left. -/
theorem sum_remaining (masks : Slots Nat) (selected : List (Fin 6)) :
    ∑ i, remaining masks selected i = ∑ i, (count (masks i) : Int) - selected.length := by
  induction selected using List.reverseRecOn with
  | nil => simp [remaining]
  | append_singleton selected i ih =>
    rw [remaining_append, Finset.sum_update_of_mem (Finset.mem_univ i)]
    have hsplit := Finset.add_sum_erase Finset.univ (remaining masks selected) (Finset.mem_univ i)
    rw [Finset.sdiff_singleton_eq_erase]
    simp only [List.length_append, List.length_singleton]
    push_cast
    omega

/-- A selected slot has bits left for it, as long as any has. -/
theorem FirstMax.pos {counts : Slots Int} {i : Fin 6} (h : FirstMax counts i) (hsum : 0 < ∑ j, counts j) :
    0 < counts i := by
  by_contra hle
  have hnonpos : ∑ j, counts j ≤ 0 := Finset.sum_nonpos fun j _ => by
    have hj := h.1 j
    omega
  omega

/-- The slots selected are level with every other one but for one bit. -/
theorem Greedy.level (h : Greedy masks selected) :
    ∀ i ∈ selected, ∀ j, remaining masks selected j ≤ remaining masks selected i + 1 := by
  induction selected using List.reverseRecOn with
  | nil => simp
  | append_singleton selected s ih =>
    have hbefore : Greedy masks selected := by
      rintro before t after rfl
      exact h before t (after ++ [s]) (by simp)
    have hs : FirstMax (remaining masks selected) s := h selected s [] rfl
    intro i hi j
    rw [remaining_append]
    have hj : Function.update (remaining masks selected) s (remaining masks selected s - 1) j ≤
        remaining masks selected j := by
      by_cases hjs : j = s
      · subst hjs
        rw [Function.update_self]
        omega
      · rw [Function.update_of_ne hjs]
    by_cases his : i = s
    · subst his
      have hmax := hs.1 j
      rw [Function.update_self]
      omega
    · have hmem : i ∈ selected := by simpa [his] using hi
      have hlevel := ih hbefore i hmem j
      rw [Function.update_of_ne his]
      omega

/-- As long as there are bits for the selections, no slot is selected more often than it has bits. -/
theorem Greedy.remaining_nonneg (h : Greedy masks selected)
    (hlength : (selected.length : Int) ≤ ∑ i, (count (masks i) : Int)) :
    ∀ i, 0 ≤ remaining masks selected i := by
  induction selected using List.reverseRecOn with
  | nil => simp [remaining]
  | append_singleton selected s ih =>
    rw [List.length_append, List.length_singleton] at hlength
    push_cast at hlength
    have hbefore : Greedy masks selected := by
      rintro before t after rfl
      exact h before t (after ++ [s]) (by simp)
    have hpos : 0 < remaining masks selected s := by
      refine FirstMax.pos (h selected s [] rfl) ?_
      rw [sum_remaining]
      omega
    intro i
    rw [remaining_append]
    by_cases his : i = s
    · subst his
      rw [Function.update_self]
      omega
    · rw [Function.update_of_ne his]
      exact ih hbefore (by omega) i

/-! ### The result -/

/-- The set bits of all masks. -/
def total (ctrl : List Int) : Int := ∑ i, (count (masksOf ctrl i) : Int)

private theorem masksOf_lt (ctrl : List Int) (i : Fin 6) : masksOf ctrl i < 128 := by
  unfold masksOf
  omega

private theorem total_le (ctrl : List Int) : total ctrl ≤ 42 := by
  have hseven : ∀ m < 128, count m ≤ 7 := by decide +kernel
  have hle : total ctrl ≤ ∑ _i : Fin 6, 7 := by
    refine Finset.sum_le_sum fun i _ => ?_
    exact_mod_cast hseven _ (masksOf_lt ctrl i)
  simpa using hle

private theorem writesOf_all (new : Slots Nat) :
    writesOf 0x3f new = (List.finRange 6).map fun i => (hex (0x21838 + 4 * i.val), new i) := by
  have hactive : ((List.finRange 6).filter fun i => (0x3f : Int) / 2 ^ i.val % 2 = 1) = List.finRange 6 := by decide
  rw [writesOf, hactive]

/-- What the request writes, where it may: each mask without its lowest bits, as many as its slot was selected; the
selections are greedy and leave the slots level. -/
theorem model_spec {ctrl : List Int} (hlength : ctrl.length = 6) (request guard : Int) :
    (1 ≤ request → request ≤ total ctrl → guard % 256 ≠ 0 → ∃ (selected : List (Fin 6)) (new : Slots Nat),
      model ctrl request guard 0x3f = .ok
        { reason := "conditional CTRL writeback", selectedSlots := some selected,
          writes := (List.finRange 6).map fun i => (hex (0x21838 + 4 * i.val), new i) } ∧
      (selected.length : Int) = request ∧
      (∀ i, new i &&& masksOf ctrl i = new i) ∧
      (∀ i j, (new i).testBit j =
        ((masksOf ctrl i).testBit j && decide (selected.count i ≤ below (masksOf ctrl i) j))) ∧
      (∀ i, count (new i) + selected.count i = count (masksOf ctrl i)) ∧
      (∀ before s after, selected = before ++ s :: after →
        FirstMax (fun j => (count (masksOf ctrl j) : Int) - before.count j) s) ∧
      ∀ i ∈ selected, ∀ j, count (new j) ≤ count (new i) + 1) ∧
    (total ctrl < request ∨ guard % 256 = 0 ∨ request = 0 →
      ∀ activeGpcs result, model ctrl request guard activeGpcs = .ok result → result.writes = []) := by
  have hcounts : ∑ i, (initial ctrl).counts i = total ctrl := rfl
  constructor
  · intro hpos hle hguard
    have hbounds : ctrl.length = 6 ∧ 0 ≤ request ∧ request ≤ 255 := by
      have htotal := total_le ctrl
      omega
    obtain ⟨hstripped, hselected⟩ := iterate_stripped ctrl request.toNat
    generalize hs : State.strip^[request.toNat] (initial ctrl) = s at hstripped hselected
    have hlast : (s.selected.length : Int) = request := by omega
    have hleft := hstripped.greedy.remaining_nonneg (by rw [hlast]; exact hle)
    have hbits : ∀ i, count (s.masks i) + s.selected.count i = count (masksOf ctrl i) := by
      intro i
      have hi := hleft i
      rw [hstripped.cleared, count_dropLowest_iterate]
      unfold remaining at hi
      omega
    refine ⟨s.selected, s.masks, ?_, hlast, ?_, ?_, hbits, hstripped.greedy, ?_⟩
    · unfold model
      rw [if_neg (not_not_intro hbounds), if_neg (by omega), hcounts, if_neg (by omega), hs]
      dsimp only
      rw [if_neg hguard, writesOf_all]
    · intro i
      refine Nat.eq_of_testBit_eq fun j => ?_
      rw [Nat.testBit_and, hstripped.cleared, testBit_dropLowest_iterate]
      cases (masksOf ctrl i).testBit j <;> simp
    · intro i j
      rw [hstripped.cleared, testBit_dropLowest_iterate]
    · intro i hi j
      have hlevel := hstripped.greedy.level i hi j
      have hbitsi := hbits i
      have hbitsj := hbits j
      unfold remaining at hlevel
      omega
  · intro hcases activeGpcs result hresult
    unfold model at hresult
    by_cases hbounds : ctrl.length = 6 ∧ 0 ≤ request ∧ request ≤ 255
    · rw [if_neg (not_not_intro hbounds)] at hresult
      by_cases hzero : request = 0
      · rw [if_pos hzero] at hresult
        cases hresult
        rfl
      rw [if_neg hzero] at hresult
      by_cases hexceeds : request > ∑ i, (initial ctrl).counts i
      · rw [if_pos hexceeds] at hresult
        cases hresult
        rfl
      rw [if_neg hexceeds] at hresult
      rw [hcounts] at hexceeds
      have hguard : guard % 256 = 0 := by omega
      dsimp only at hresult
      rw [if_pos hguard] at hresult
      cases hresult
      rfl
    · rw [if_pos hbounds] at hresult
      cases hresult

/-- The second slot has more bits than the first one, then they are level, and the first one is selected. -/
theorem model_two : ∃ result, model [0x15, 0x0f, 0, 0, 0, 0] 2 1 0x3f = .ok result ∧
    ∃ selected, result.selectedSlots = some selected ∧ selected.length = 2 := by
  obtain ⟨selected, new, hmodel, hlength, -⟩ :=
    (model_spec (rfl : [0x15, 0x0f, 0, 0, 0, (0 : Int)].length = 6) 2 1).1 (by decide) (by decide +kernel) (by decide)
  exact ⟨_, hmodel, selected, rfl, by omega⟩

example : (model [0x15, 0x0f, 0, 0, 0, 0] 2 1 0x3f).toOption.map (fun r => (r.selectedSlots, r.writes.take 2)) =
    some (some [1, 0], [("0x21838", 0x14), ("0x2183c", 0x0e)]) := by decide +kernel

end CmpUnlocker.Analysis
