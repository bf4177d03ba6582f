import Mathlib.Data.List.Sort

/-!
# Lists ordered by a key

Records with a key of a linear order.  A list is strictly ordered when its keys increase; such a list is determined by
its elements (`Strict.ext`), and a stable sort finds it (`sort_eq`).
-/

namespace Keyed

variable {α κ β : Type} [LinearOrder κ] {key : α → κ}

/-- The keys increase along the list. -/
def Strict (key : α → κ) (l : List α) : Prop := l.Pairwise fun a b => key a < key b

/-- The stable sort by a key. -/
def sort (key : α → κ) (l : List α) : List α := l.insertionSort fun a b => key a ≤ key b

theorem Strict.nodup {l : List α} (h : Strict key l) : l.Nodup :=
  h.imp fun hab heq => (heq ▸ hab).false

theorem Strict.filter {l : List α} (h : Strict key l) (p : α → Bool) : Strict key (l.filter p) :=
  List.Pairwise.filter p h

/-- In a strictly ordered list the key determines the element. -/
theorem Strict.inj {l : List α} (h : Strict key l) {a b : α} (ha : a ∈ l) (hb : b ∈ l) (hab : key a = key b) :
    a = b := by
  induction l with
  | nil => exact absurd ha List.not_mem_nil
  | cons c l ih =>
    obtain ⟨hc, hl⟩ := List.pairwise_cons.mp h
    rcases List.mem_cons.mp ha with hac | hal
    · rcases List.mem_cons.mp hb with hbc | hbl
      · rw [hac, hbc]
      · exact absurd (hac ▸ hab) (hc b hbl).ne
    · rcases List.mem_cons.mp hb with hbc | hbl
      · exact absurd (hbc ▸ hab) (hc a hal).ne'
      · exact ih hl hal hbl

theorem strict_append {l r : List α} :
    Strict key (l ++ r) ↔ Strict key l ∧ Strict key r ∧ ∀ a ∈ l, ∀ b ∈ r, key a < key b :=
  List.pairwise_append

/-- Two strictly ordered lists with the same elements are equal. -/
theorem Strict.ext {l r : List α} (hl : Strict key l) (hr : Strict key r) (hmem : ∀ a, a ∈ l ↔ a ∈ r) : l = r := by
  have hperm : l.Perm r := (List.perm_ext_iff_of_nodup hl.nodup hr.nodup).mpr hmem
  apply List.Perm.eq_of_pairwise _ hl hr hperm
  intro a b _ _ hab hba
  exact absurd hba hab.not_gt

theorem mem_sort {l : List α} {a : α} : a ∈ sort key l ↔ a ∈ l := List.mem_insertionSort _

theorem sort_perm (l : List α) : (sort key l).Perm l := List.perm_insertionSort _ l

theorem sort_ordered (l : List α) : (sort key l).Pairwise fun a b => key a ≤ key b := by
  have : Std.Total fun a b : α => key a ≤ key b := ⟨fun a b => le_total (key a) (key b)⟩
  have : IsTrans α fun a b => key a ≤ key b := ⟨fun _ _ _ => le_trans⟩
  exact List.pairwise_insertionSort _ l

/-- Sorting a list whose keys differ gives a strictly ordered one. -/
theorem strict_sort {l : List α} (hl : l.Pairwise fun a b => key a ≠ key b) : Strict key (sort key l) := by
  have hne : (sort key l).Pairwise fun a b => key a ≠ key b :=
    hl.perm (sort_perm l).symm fun h => h.symm
  exact hne.imp₂ (fun _ _ hn hle => lt_of_le_of_ne hle hn) (sort_ordered l)

/-- The stable sort finds the strictly ordered list with the same elements. -/
theorem sort_eq {l r : List α} (hr : Strict key r) (hl : l.Nodup) (hmem : ∀ a, a ∈ l ↔ a ∈ r) : sort key l = r := by
  have hperm : (sort key l).Perm r :=
    (sort_perm l).trans ((List.perm_ext_iff_of_nodup hl hr.nodup).mpr hmem)
  have hs : Strict key (sort key l) := by
    have hne : (sort key l).Pairwise fun a b => key a ≠ key b :=
      (hr.imp fun h => h.ne).perm hperm.symm fun h => h.symm
    exact hne.imp₂ (fun _ _ hn hle => lt_of_le_of_ne hle hn) (sort_ordered l)
  exact hs.ext hr fun a => hperm.mem_iff

/-- Sorting follows a map that keeps the key. -/
theorem sort_map (f : α → β) (keyOf : β → κ) (h : ∀ a, keyOf (f a) = key a) (l : List α) :
    sort keyOf (l.map f) = (sort key l).map f := by
  symm
  apply List.map_insertionSort
  intro a _ b _
  rw [h, h]

end Keyed
