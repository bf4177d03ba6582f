import CmpUnlocker.Top.Derived

/-!
# The order of the register lines

What a snapshot reports depends on its register lines only up to their order: `by_index` and `_single_register` keep the
order of the occurrences, but a result is taken from them only where there is a single one.  Lines without the prefix
are not looked at.
-/

namespace CmpUnlocker.Top

open Stages (Chars Python Line fieldsOf numbered sortedSet)

/-! ### What a snapshot reports -/

/-- The results of a snapshot, without the lines they come from. -/
structure Reading where
  bdf : Option Chars
  devices : List Device
  incompleteRecord : Option Device
  gr : Gr
  postValue : Option Word
  bit1 : Option Nat
  nouveauWouldRunDevinitNow : Option Bool
  pmcValue : Option Word
  valid : Bool
  deriving DecidableEq

/-- The element of a list that has a single one. -/
def sole {α : Type} : List α → Option α
  | [x] => some x
  | _ => none

def Snapshot.reading (s : Snapshot) : Reading where
  bdf := s.bdf
  devices := s.top.decoded.devices
  incompleteRecord := s.top.decoded.incompleteRecord
  gr := s.top.gr
  postValue := s.post.register.value
  bit1 := s.post.bit1
  nouveauWouldRunDevinitNow := s.post.nouveauWouldRunDevinitNow
  pmcValue := s.pmc.value
  valid := s.valid

/-! ### Occurrences in another order -/

/-- An occurrence without its line. -/
def Occurrence.content (item : Occurrence) : Chars × Word × Word := (item.bdf, item.reg, item.value)

/-- The same occurrences in some order, on any lines. -/
def Shuffled (occurrences occurrences' : List Occurrence) : Prop :=
  (occurrences.map Occurrence.content).Perm (occurrences'.map Occurrence.content)

private theorem sortedSet_perm {α : Type} [LinearOrder α] {items items' : List α} (h : items.Perm items') :
    sortedSet items = sortedSet items' := by
  have hstrict : ∀ l : List α, Keyed.Strict id (sortedSet l) :=
    fun l => Keyed.strict_sort (List.nodup_dedup l)
  apply (hstrict items).ext (hstrict items')
  intro a
  unfold sortedSet
  rw [Keyed.mem_sort, Keyed.mem_sort, List.mem_dedup, List.mem_dedup, h.mem_iff]

section

variable {occurrences occurrences' : List Occurrence} (h : Shuffled occurrences occurrences')
include h

theorem Shuffled.observedBdf : observedBdf occurrences = observedBdf occurrences' := by
  have hbdfs : (occurrences.map (·.bdf)).Perm (occurrences'.map (·.bdf)) := by
    have hmap := h.map Prod.fst
    rwa [List.map_map, List.map_map] at hmap
  unfold Top.observedBdf
  rw [sortedSet_perm hbdfs]

theorem Shuffled.values (reg : Nat) :
    ((occurrencesOf occurrences reg).map (·.value)).Perm ((occurrencesOf occurrences' reg).map (·.value)) := by
  have hcontent : ∀ l : List Occurrence, (occurrencesOf l reg).map (·.value) =
      ((l.map Occurrence.content).filter fun c => c.2.1.toNat == reg).map fun c => c.2.2 := by
    intro l
    unfold occurrencesOf
    rw [List.filter_map, List.map_map]
    rfl
  rw [hcontent, hcontent]
  exact (h.filter _).map _

theorem Shuffled.uniqueComplete : uniqueComplete occurrences = uniqueComplete occurrences' := by
  have hone : ∀ (l l' : List Occurrence), Shuffled l l' → Top.uniqueComplete l = true →
    Top.uniqueComplete l' = true := by
    intro l l' hl hunique
    rw [uniqueComplete_iff] at hunique ⊢
    intro index hindex
    obtain ⟨item, hitem⟩ := hunique index hindex
    have hlength := (hl.values (TOP_BASE + 4 * index)).length_eq
    rw [← byIndex_eq l hindex, ← byIndex_eq l' hindex, hitem, List.length_map, List.length_map] at hlength
    exact List.length_eq_one_iff.mp hlength.symm
  rw [Bool.eq_iff_iff]
  exact ⟨hone _ _ h, hone _ _ (List.Perm.symm h)⟩

theorem Shuffled.allOnesIndices : allOnesIndices occurrences = allOnesIndices occurrences' := by
  unfold Top.allOnesIndices
  apply List.filter_congr
  intro index hindex
  rw [byIndex_eq _ (List.mem_range.mp hindex), byIndex_eq _ (List.mem_range.mp hindex)]
  have hvalues := h.values (TOP_BASE + 4 * index)
  have hany : ∀ l : List Occurrence, (l.any fun item => item.value == allOnes) =
      (l.map (·.value)).any fun value => value == allOnes := fun l => by rw [List.any_map]; rfl
  rw [hany, hany]
  exact hvalues.any_eq

/-- Registers that occur once each make up the same words in any order. -/
theorem Shuffled.words {words : List Word} (hwords : Words occurrences words) : Words occurrences' words where
  length := hwords.length
  once := by
    intro index hindex
    obtain ⟨item, hitem, hat, hvalue⟩ := hwords.once index hindex
    have hvalues := h.values (TOP_BASE + 4 * index)
    rw [hitem, List.map_singleton] at hvalues
    obtain ⟨item', hitem', heq⟩ := List.map_eq_singleton_iff.mp (List.perm_singleton.mp hvalues.symm)
    exact ⟨item', hitem', heq ▸ hat, heq ▸ hvalue⟩

theorem Shuffled.topWords (hunique : Top.uniqueComplete occurrences = true)
    (hones : Top.allOnesIndices occurrences = []) : topWords occurrences = topWords occurrences' :=
  (h.words (words_topWords hunique hones)).eq_topWords.2.2

theorem Shuffled.single (reg : Nat) :
    (singleRegister occurrences reg).value = (singleRegister occurrences' reg).value := by
  have hvalue : ∀ l : List Occurrence, (singleRegister l reg).value = sole ((occurrencesOf l reg).map (·.value)) := by
    intro l
    unfold singleRegister
    rcases occurrencesOf l reg with _ | ⟨item, _ | ⟨other, rest⟩⟩ <;> rfl
  rw [hvalue, hvalue]
  have hvalues := h.values reg
  generalize (occurrencesOf occurrences reg).map (·.value) = values at hvalues
  generalize (occurrencesOf occurrences' reg).map (·.value) = values' at hvalues
  rcases values with _ | ⟨value, _ | ⟨other, rest⟩⟩
  · rw [List.nil_perm.mp hvalues]
  · rw [List.perm_singleton.mp hvalues.symm]
  · have hlength := hvalues.length_eq
    rcases values' with _ | ⟨value', _ | ⟨other', rest'⟩⟩
    · exact absurd hlength (by simp)
    · exact absurd hlength (by simp)
    · rfl

end

private theorem valid_value (single : Single) :
    single.valid = (single.value.map fun value => value != allOnes).getD false := by
  cases single <;> rfl

private theorem allOnesSentinel_value (single : Single) :
    single.allOnesSentinel = (single.value.map fun value => value == allOnes).getD false := by
  cases single <;> rfl

private theorem pmcBit_value (selector : Option Nat) {pmc pmc' : Single} (h : pmc.value = pmc'.value) :
    pmcBit selector pmc = pmcBit selector pmc' := by
  unfold pmcBit
  rw [valid_value, valid_value, h]

private theorem postOf_value {post post' : Single} (h : post.value = post'.value) :
    (postOf post).bit1 = (postOf post').bit1 ∧
      (postOf post).nouveauWouldRunDevinitNow = (postOf post').nouveauWouldRunDevinitNow := by
  unfold postOf
  rw [valid_value, valid_value, h]
  cases post'.value with
  | none => exact ⟨rfl, rfl⟩
  | some value => cases hvalid : value != allOnes <;> simp [hvalid]

private theorem register_postOf (post : Single) : (postOf post).register = post := by
  unfold postOf
  split
  · split <;> rfl
  · rfl

/-! ### Two snapshots -/

/-- Snapshots with the same occurrences in some order and the same boundaries report the same. -/
theorem reading_shuffled {current current' : Current} {closing closing' : Option (Nat × Stages.Fields)}
    (h : Shuffled current.occurrences current'.occurrences)
    (hbegin : current.beginFields.get "bdf" = current'.beginFields.get "bdf")
    (hclosing : closing.isSome = closing'.isSome)
    (hend : (closing.bind fun entry => entry.2.get "bdf") = closing'.bind fun entry => entry.2.get "bdf") :
    (finalizeSnapshot current closing).reading = (finalizeSnapshot current' closing').reading := by
  have hvalid : (finalizeSnapshot current closing).top.inputValidForDecode =
      (finalizeSnapshot current' closing').top.inputValidForDecode := by
    rw [Bool.eq_iff_iff, inputValid_iff, inputValid_iff, h.observedBdf, h.uniqueComplete, h.allOnesIndices, hbegin,
      hclosing, hend]
  have hdecoded :
      (finalizeSnapshot current closing).top.decoded = (finalizeSnapshot current' closing').top.decoded := by
    show (if (finalizeSnapshot current closing).top.inputValidForDecode then decodeWords (topWords current.occurrences)
      else {}) = if (finalizeSnapshot current' closing').top.inputValidForDecode then
        decodeWords (topWords current'.occurrences) else {}
    rw [← hvalid]
    split
    · rename_i hin
      obtain ⟨-, -, hunique, hones⟩ := (inputValid_iff current closing).mp hin
      rw [h.topWords hunique hones]
    · rfl
  have hpost := h.single POST_REG
  have hpmc := h.single PMC_ENABLE_REG
  have hgr : (finalizeSnapshot current closing).top.gr = (finalizeSnapshot current' closing').top.gr := by
    have hshape : ∀ (c : Current) (e : Option (Nat × Stages.Fields)), (finalizeSnapshot c e).top.gr =
        (let gr := deriveGr ((finalizeSnapshot c e).top.inputValidForDecode
          && (finalizeSnapshot c e).top.decoded.incompleteRecord.isNone)
          ((finalizeSnapshot c e).top.decoded.devices.filter isGr)
        { completeDevices := (finalizeSnapshot c e).top.decoded.devices.filter isGr
          resetSelector := gr.1
          pmcMask := gr.1.map fun selector => 1 <<< selector
          pmcBitSetCurrent := pmcBit gr.1 (singleRegister c.occurrences PMC_ENABLE_REG)
          derivation := gr.2 }) := fun _ _ => rfl
    rw [hshape, hshape, hvalid, hdecoded]
    simp only [pmcBit_value _ hpmc]
  have hsnapshot : (finalizeSnapshot current closing).valid = (finalizeSnapshot current' closing').valid := by
    have hshape : ∀ (c : Current) (e : Option (Nat × Stages.Fields)), (finalizeSnapshot c e).valid =
        ((finalizeSnapshot c e).top.inputValidForDecode
          && (finalizeSnapshot c e).top.decoded.incompleteRecord.isNone
          && !(singleRegister c.occurrences POST_REG).allOnesSentinel
          && !(singleRegister c.occurrences PMC_ENABLE_REG).allOnesSentinel) := fun _ _ => rfl
    rw [hshape, hshape, hvalid, hdecoded]
    simp only [allOnesSentinel_value, hpost, hpmc]
  have hpostValue : ∀ (c : Current) (e : Option (Nat × Stages.Fields)), (finalizeSnapshot c e).post.register.value =
      (singleRegister c.occurrences POST_REG).value := by
    intro c e
    show (postOf (singleRegister c.occurrences POST_REG)).register.value = _
    rw [register_postOf]
  obtain ⟨hbit1, hdevinit⟩ := postOf_value hpost
  unfold Snapshot.reading
  rw [hdecoded, hgr, hsnapshot, hpostValue, hpostValue, hpost, Reading.mk.injEq]
  exact ⟨h.observedBdf, rfl, rfl, rfl, rfl, hbit1, hdevinit, hpmc, rfl⟩

end CmpUnlocker.Top
