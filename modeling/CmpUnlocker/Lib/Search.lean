import CmpUnlocker.Lib.Bytes

/-!
# Searching in byte strings

`find` is Python's `bytes.find`: the first position from `start` on at which the needle occurs.  `occurrences` are all
such positions, those of overlapping occurrences included; a search that is restarted behind each hit finds them in this
order (`occurrencesFrom_eq`).
-/

namespace Bytes

/-- The needle occurs at the position. -/
def OccursAt (data needle : List UInt8) (i : Nat) : Prop :=
  ∃ front back, data = front ++ (needle ++ back) ∧ front.length = i

/-- The bytes from the position on are those of the needle. -/
def matchesAt (data needle : List UInt8) (i : Nat) : Bool := slice data i needle.length == needle

def find (data needle : List UInt8) (start : Nat) : Option Nat :=
  (List.range' start (data.length + 1 - start)).find? (matchesAt data needle)

/-- The positions from `start` on. -/
def occurrencesFrom (data needle : List UInt8) (start : Nat) : List Nat :=
  (List.range' start (data.length + 1 - start)).filter (matchesAt data needle)

def occurrences (data needle : List UInt8) : List Nat := occurrencesFrom data needle 0

variable {data needle : List UInt8} {start i : Nat}

theorem occursAt_iff : OccursAt data needle i ↔ i ≤ data.length ∧ matchesAt data needle i = true := by
  unfold matchesAt
  rw [beq_iff_eq]
  constructor
  · rintro ⟨front, back, rfl, rfl⟩
    simp [slice]
  · rintro ⟨hle, hslice⟩
    refine ⟨data.take i, data.drop (i + needle.length), ?_, ?_⟩
    · have hdrop : needle ++ data.drop (i + needle.length) = data.drop i := by
        calc needle ++ data.drop (i + needle.length)
            = slice data i needle.length ++ (data.drop i).drop needle.length := by rw [hslice, List.drop_drop]
          _ = data.drop i := List.take_append_drop _ _
      rw [hdrop, List.take_append_drop]
    · rw [List.length_take]
      omega

/-- A needle that occurs fits behind the position. -/
theorem matchesAt_fits (hne : needle ≠ []) (h : matchesAt data needle i = true) : i + needle.length ≤ data.length := by
  have hlength := congrArg List.length (beq_iff_eq.1 h)
  have hpos := List.length_pos_iff.2 hne
  rw [length_slice] at hlength
  omega

theorem find_bounds (h : find data needle start = some i) : start ≤ i ∧ i ≤ data.length := by
  have hmem := List.mem_of_find?_eq_some h
  rw [List.mem_range'_1] at hmem
  omega

theorem mem_occurrences : i ∈ occurrences data needle ↔ OccursAt data needle i := by
  rw [occurrences, occurrencesFrom, List.mem_filter, List.mem_range'_1, occursAt_iff]
  constructor
  · rintro ⟨hbounds, hmatch⟩
    exact ⟨by omega, hmatch⟩
  · rintro ⟨hle, hmatch⟩
    exact ⟨by omega, hmatch⟩

theorem occurrences_ascending : (occurrences data needle).Pairwise (· < ·) := by
  unfold occurrences occurrencesFrom
  apply List.Pairwise.filter
  exact List.pairwise_lt_range'

/-! ### The restarted search -/

/-- No hit, no occurrences. -/
theorem occurrencesFrom_of_none (h : find data needle start = none) : occurrencesFrom data needle start = [] := by
  apply List.filter_eq_nil_iff.2
  exact List.find?_eq_none.1 h

/-- A hit is the first occurrence, and the others are behind it. -/
theorem occurrencesFrom_of_some (h : find data needle start = some i) :
    occurrencesFrom data needle start = i :: occurrencesFrom data needle (i + 1) := by
  obtain ⟨hstart, hle⟩ := find_bounds h
  obtain ⟨hmatch, -, hfirst⟩ := List.find?_range'_eq_some.1 h
  have hsplit : List.range' start (data.length + 1 - start) =
      List.range' start (i - start) ++ i :: List.range' (i + 1) (data.length + 1 - (i + 1)) := by
    have hlength : data.length + 1 - start = (i - start) + ((data.length + 1 - (i + 1)) + 1) := by omega
    have hmiddle : start + (i - start) = i := by omega
    rw [hlength, ← List.range'_append_1, hmiddle, List.range'_succ]
  have hnone : (List.range' start (i - start)).filter (matchesAt data needle) = [] := by
    apply List.filter_eq_nil_iff.2
    intro j hj
    rw [List.mem_range'_1] at hj
    have hmiss := hfirst j (by omega) (by omega)
    simpa using hmiss
  unfold occurrencesFrom
  rw [hsplit, List.filter_append, hnone, List.nil_append, List.filter_cons_of_pos hmatch]

end Bytes
