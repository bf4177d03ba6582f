import Mathlib.Data.List.Nodup

/-!
# Walks along a chain

A chain is given by its first element and the element behind each one, if any; it may run into itself.  A walk visits
its elements until one is a hit, the chain ends, an element comes again or a limit is reached.  It visits no element
twice (`visits_nodup`), and what it finds is the first hit among the elements before the first repetition
(`walk_eq_some_iff`).
-/

namespace Chain

variable {α : Type} (next : α → Option α) (hit : α → Bool)

/-- The element at a position. -/
def nth (start : Option α) : Nat → Option α
  | 0 => start
  | n + 1 => (nth start n).bind next

/-- The hit is at one of the first `limit` positions, with no repetition and no hit before it. -/
def First (start : Option α) (limit : Nat) (x : α) : Prop :=
  ∃ n < limit, nth next start n = some x ∧ hit x = true ∧
    (∀ i j, i < j → j ≤ n → nth next start i ≠ nth next start j) ∧
    ∀ m < n, ∀ y, nth next start m = some y → hit y = false

variable [DecidableEq α]

/-- The elements visited; those of `seen` are not visited again. -/
def visits : Nat → List α → Option α → List α
  | 0, _, _ => []
  | _ + 1, _, none => []
  | limit + 1, seen, some x =>
    if x ∈ seen then [] else if hit x then [x] else x :: visits limit (x :: seen) (next x)

/-- The hit that the walk ends at. -/
def walk : Nat → List α → Option α → Option α
  | 0, _, _ => none
  | _ + 1, _, none => none
  | limit + 1, seen, some x => if x ∈ seen then none else if hit x then some x else walk limit (x :: seen) (next x)

section

variable {next hit} {start : Option α} {seen : List α} {limit : Nat} {x y : α}

omit [DecidableEq α] in
theorem nth_none (n : Nat) : nth next none n = none := by
  induction n with
  | zero => rfl
  | succ n ih => rw [nth, ih, Option.bind_none]

omit [DecidableEq α] in
/-- The chain behind the first element. -/
theorem nth_succ (n : Nat) : nth next (some x) (n + 1) = nth next (next x) n := by
  induction n with
  | zero => rfl
  | succ n ih => rw [nth, ih, nth]

theorem visits_spec : (visits next hit limit seen start).Nodup ∧ ∀ y ∈ visits next hit limit seen start, y ∉ seen := by
  induction limit generalizing seen start with
  | zero => simp [visits]
  | succ limit ih =>
    cases start with
    | none => simp [visits]
    | some x =>
      rw [visits]
      by_cases hx : x ∈ seen
      · simp [hx]
      · obtain ⟨hnodup, hnew⟩ := @ih (next x) (x :: seen)
        by_cases hhit : hit x = true
        · simp [hx, hhit]
        · rw [if_neg hx, if_neg hhit]
          refine ⟨List.nodup_cons.2 ⟨fun hmem => hnew x hmem List.mem_cons_self, hnodup⟩, fun y hy => ?_⟩
          rcases List.mem_cons.1 hy with rfl | hy
          · exact hx
          · exact fun hmem => hnew y hy (List.mem_cons_of_mem _ hmem)

/-- No element is visited twice. -/
theorem visits_nodup : (visits next hit limit seen start).Nodup := visits_spec.1

/-- What a walk finds is the first hit on the part of the chain that it visits. -/
theorem walk_spec : walk next hit limit seen start = some y ↔
    ∃ n < limit, nth next start n = some y ∧ hit y = true ∧
      (∀ m ≤ n, ∀ z, nth next start m = some z → z ∉ seen) ∧
      (∀ i j, i < j → j ≤ n → nth next start i ≠ nth next start j) ∧
      ∀ m < n, ∀ z, nth next start m = some z → hit z = false := by
  induction limit generalizing seen start with
  | zero => simp [walk]
  | succ limit ih =>
    cases start with
    | none => simp [walk, nth_none]
    | some x =>
      rw [walk]
      by_cases hx : x ∈ seen
      · rw [if_pos hx]
        constructor
        · intro h
          cases h
        · rintro ⟨n, -, -, -, hnew, -⟩
          exact absurd hx (hnew 0 (Nat.zero_le n) x rfl)
      rw [if_neg hx]
      by_cases hhit : hit x = true
      · rw [if_pos hhit]
        constructor
        · intro h
          cases h
          refine ⟨0, Nat.succ_pos limit, rfl, hhit, ?_, fun i j hi hj => by omega, fun m hm => by omega⟩
          intro m hm z hz
          obtain rfl : m = 0 := by omega
          cases hz
          exact hx
        · rintro ⟨n, -, hy, -, -, -, hfirst⟩
          cases n with
          | zero => exact hy
          | succ n =>
            have hmiss := hfirst 0 (Nat.succ_pos n) x rfl
            rw [hhit] at hmiss
            cases hmiss
      rw [if_neg hhit, ih]
      constructor
      · rintro ⟨n, hn, hy, hhity, hnew, hdistinct, hfirst⟩
        refine ⟨n + 1, by omega, by rw [nth_succ]; exact hy, hhity, ?_, ?_, ?_⟩
        · intro m hm z hz
          cases m with
          | zero =>
            cases hz
            exact hx
          | succ m =>
            rw [nth_succ] at hz
            exact fun hmem => hnew m (by omega) z hz (List.mem_cons_of_mem _ hmem)
        · intro i j hij hj
          obtain ⟨j, rfl⟩ : ∃ k, j = k + 1 := ⟨j - 1, by omega⟩
          rw [nth_succ]
          cases i with
          | zero =>
            intro heq
            exact hnew j (by omega) x heq.symm List.mem_cons_self
          | succ i =>
            rw [nth_succ]
            exact hdistinct i j (by omega) (by omega)
        · intro m hm z hz
          cases m with
          | zero =>
            cases hz
            simpa using hhit
          | succ m =>
            rw [nth_succ] at hz
            exact hfirst m (by omega) z hz
      · rintro ⟨n, hn, hy, hhity, hnew, hdistinct, hfirst⟩
        cases n with
        | zero =>
          cases hy
          exact absurd hhity hhit
        | succ n =>
          refine ⟨n, by omega, by rw [nth_succ] at hy; exact hy, hhity, ?_, ?_, ?_⟩
          · intro m hm z hz hmem
            rw [← nth_succ] at hz
            rcases List.mem_cons.1 hmem with rfl | hmem
            · exact hdistinct 0 (m + 1) (by omega) (by omega) hz.symm
            · exact hnew (m + 1) (by omega) z hz hmem
          · intro i j hij hj
            have hne := hdistinct (i + 1) (j + 1) (by omega) (by omega)
            rwa [nth_succ, nth_succ] at hne
          · intro m hm z hz
            rw [← nth_succ] at hz
            exact hfirst (m + 1) (by omega) z hz

theorem walk_eq_some_iff : walk next hit limit [] start = some y ↔ First next hit start limit y := by
  rw [walk_spec]
  simp [First]

end

end Chain
