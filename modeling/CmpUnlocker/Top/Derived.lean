import CmpUnlocker.Top.Snapshots
import Mathlib.Data.List.Dedup

/-!
# The derived reset selector

`_finalize_snapshot` derives a reset selector only behind all its checks.  `resetSelector_iff` states them over the
lines of the text: the boundaries and BDFs of the segment, its register occurrences, and the words they make up.
-/

namespace CmpUnlocker.Top

open Stages (Chars Python numbered sortedSet)

/-! ### The TOP registers -/

private theorem topIndex_eq_some (reg index : Nat) :
    topIndex reg = some index ↔ index < TOP_WORDS ∧ reg = TOP_BASE + 4 * index := by
  unfold topIndex TOP_END TOP_WORDS
  constructor
  · intro h
    split at h
    · have hindex := Option.some.inj h
      omega
    · exact absurd h (by simp)
  · rintro ⟨hlt, rfl⟩
    rw [if_pos (by omega)]
    congr 1
    omega

/-- The occurrences of an index are those of its register. -/
theorem byIndex_eq (occurrences : List Occurrence) {index : Nat} (h : index < TOP_WORDS) :
    byIndex occurrences index = occurrencesOf occurrences (TOP_BASE + 4 * index) := by
  unfold byIndex occurrencesOf
  apply List.filter_congr
  intro item _
  rw [Bool.eq_iff_iff, beq_iff_eq, beq_iff_eq, topIndex_eq_some]
  exact ⟨fun hitem => hitem.2, fun hitem => ⟨h, hitem⟩⟩

private theorem missingIndices_eq_nil (occurrences : List Occurrence) :
    missingIndices occurrences = [] ↔ ∀ index < TOP_WORDS, byIndex occurrences index ≠ [] := by
  unfold missingIndices
  simp [List.filter_eq_nil_iff]

private theorem duplicateRegisters_eq_nil (occurrences : List Occurrence) :
    duplicateRegisters occurrences = [] ↔ ∀ index < TOP_WORDS, (byIndex occurrences index).length ≤ 1 := by
  unfold duplicateRegisters
  simp [List.filter_eq_nil_iff]

theorem uniqueComplete_iff (occurrences : List Occurrence) :
    uniqueComplete occurrences = true ↔ ∀ index < TOP_WORDS, ∃ item, byIndex occurrences index = [item] := by
  unfold uniqueComplete
  rw [Bool.and_eq_true, List.isEmpty_iff, List.isEmpty_iff, missingIndices_eq_nil, duplicateRegisters_eq_nil]
  constructor
  · rintro ⟨hsome, hone⟩ index hindex
    apply List.length_eq_one_iff.mp
    have hpos := List.length_pos_iff.mpr (hsome index hindex)
    have hle := hone index hindex
    omega
  · intro hall
    constructor
    · intro index hindex
      obtain ⟨item, hitem⟩ := hall index hindex
      simp [hitem]
    · intro index hindex
      obtain ⟨item, hitem⟩ := hall index hindex
      simp [hitem]

private theorem allOnesIndices_eq_nil (occurrences : List Occurrence) :
    allOnesIndices occurrences = [] ↔
      ∀ index < TOP_WORDS, ∀ item ∈ byIndex occurrences index, item.value ≠ allOnes := by
  unfold allOnesIndices
  simp [List.filter_eq_nil_iff]

/-- The words of registers that occur once each. -/
structure Words (occurrences : List Occurrence) (words : List Word) : Prop where
  length : words.length = TOP_WORDS
  once : ∀ index < TOP_WORDS, ∃ item, occurrencesOf occurrences (TOP_BASE + 4 * index) = [item] ∧
    words[index]? = some item.value ∧ item.value ≠ allOnes

theorem words_topWords {occurrences : List Occurrence} (hunique : uniqueComplete occurrences = true)
    (hones : allOnesIndices occurrences = []) : Words occurrences (topWords occurrences) := by
  rw [uniqueComplete_iff] at hunique
  rw [allOnesIndices_eq_nil] at hones
  have hwords : topWords occurrences = (List.range TOP_WORDS).map fun index =>
      (((byIndex occurrences index).head?.map (·.value)).getD 0) := by
    unfold topWords
    rw [List.filterMap_eq_map_iff_forall_eq_some.mpr]
    intro index hindex
    obtain ⟨item, hitem⟩ := hunique index (List.mem_range.mp hindex)
    simp [hitem]
  constructor
  · rw [hwords, List.length_map, List.length_range]
  · intro index hindex
    obtain ⟨item, hitem⟩ := hunique index hindex
    refine ⟨item, byIndex_eq occurrences hindex ▸ hitem, ?_, hones index hindex item (by simp [hitem])⟩
    rw [hwords, List.getElem?_map, List.getElem?_range hindex]
    simp [hitem]

/-- The words are determined by the occurrences. -/
theorem Words.eq_topWords {occurrences : List Occurrence} {words : List Word} (h : Words occurrences words) :
    uniqueComplete occurrences = true ∧ allOnesIndices occurrences = [] ∧ words = topWords occurrences := by
  have hunique : uniqueComplete occurrences = true := by
    rw [uniqueComplete_iff]
    intro index hindex
    obtain ⟨item, hitem, -, -⟩ := h.once index hindex
    exact ⟨item, byIndex_eq occurrences hindex ▸ hitem⟩
  have hones : allOnesIndices occurrences = [] := by
    rw [allOnesIndices_eq_nil]
    intro index hindex other hother
    obtain ⟨item, hitem, -, hvalue⟩ := h.once index hindex
    rw [byIndex_eq occurrences hindex, hitem, List.mem_singleton] at hother
    exact hother ▸ hvalue
  refine ⟨hunique, hones, ?_⟩
  have htop := words_topWords hunique hones
  apply List.ext_getElem?
  intro index
  by_cases hindex : index < TOP_WORDS
  · obtain ⟨item, hitem, hat, -⟩ := h.once index hindex
    obtain ⟨item', hitem', hat', -⟩ := htop.once index hindex
    rw [hitem, List.singleton_inj] at hitem'
    rw [hat, hat', hitem']
  · rw [List.getElem?_eq_none (by rw [h.length]; omega), List.getElem?_eq_none (by rw [htop.length]; omega)]

/-! ### BDFs -/

private theorem sortedSet_eq_singleton {α : Type} [LinearOrder α] (items : List α) (a : α) :
    sortedSet items = [a] ↔ items ≠ [] ∧ ∀ b ∈ items, b = a := by
  have hmem : ∀ b, b ∈ sortedSet items ↔ b ∈ items := by
    intro b
    unfold sortedSet
    rw [Keyed.mem_sort, List.mem_dedup]
  constructor
  · intro h
    constructor
    · rintro rfl
      exact absurd h (by simp [sortedSet, Keyed.sort])
    · intro b hb
      rw [← hmem, h, List.mem_singleton] at hb
      exact hb
  · rintro ⟨hne, hall⟩
    have hnodup : (sortedSet items).Nodup := by
      unfold sortedSet
      exact ((Keyed.sort_perm _).nodup_iff).mpr (List.nodup_dedup items)
    obtain ⟨b, hb⟩ := List.exists_mem_of_ne_nil items hne
    apply List.perm_singleton.mp
    rw [List.perm_ext_iff_of_nodup hnodup (List.nodup_singleton a)]
    intro c
    rw [hmem, List.mem_singleton]
    constructor
    · exact hall c
    · rintro rfl
      exact hall b hb ▸ hb

/-- The only BDF of some occurrences. -/
def observedBdf (occurrences : List Occurrence) : Option Chars :=
  match sortedSet (occurrences.map (·.bdf)) with
  | [bdf] => some bdf
  | _ => none

private theorem observedBdf_eq_some (occurrences : List Occurrence) (bdf : Chars) :
    observedBdf occurrences = some bdf ↔ occurrences ≠ [] ∧ ∀ item ∈ occurrences, item.bdf = bdf := by
  have hsingle : observedBdf occurrences = some bdf ↔ sortedSet (occurrences.map (·.bdf)) = [bdf] := by
    unfold observedBdf
    split
    · rename_i other hother
      rw [hother]
      simp
    · rename_i hnot
      constructor
      · intro h
        exact absurd h (by simp)
      · exact fun h => absurd h (hnot bdf)
  rw [hsingle, sortedSet_eq_singleton]
  simp

/-! ### A snapshot -/

section

variable (current : Current) (closing : Option (Nat × Stages.Fields))

/-- What is left of `input_valid` when the boundaries' BDFs are compared one by one. -/
theorem inputValid_iff :
    (finalizeSnapshot current closing).top.inputValidForDecode = true ↔
      closing.isSome = true ∧
      (∃ bdf, observedBdf current.occurrences = some bdf ∧ (∀ b, current.beginFields.get "bdf" = some b → b = bdf) ∧
        ∀ b, (closing.bind fun entry => entry.2.get "bdf") = some b → b = bdf) ∧
      uniqueComplete current.occurrences = true ∧ allOnesIndices current.occurrences = [] := by
  have hvalid : (finalizeSnapshot current closing).top.inputValidForDecode =
      (closing.isSome && (observedBdf current.occurrences).isSome
        && (((current.beginFields.get "bdf").toList ++ (closing.bind fun entry => entry.2.get "bdf").toList).all
          fun bdf => some bdf == observedBdf current.occurrences)
        && uniqueComplete current.occurrences && (allOnesIndices current.occurrences).isEmpty) := rfl
  rw [hvalid]
  simp only [Bool.and_eq_true, List.isEmpty_iff, List.all_append, List.all_eq_true, Option.mem_toList, beq_iff_eq]
  constructor
  · rintro ⟨⟨⟨⟨hclosing, hobserved⟩, hbegin, hend⟩, hunique⟩, hones⟩
    obtain ⟨bdf, hbdf⟩ := Option.isSome_iff_exists.mp hobserved
    rw [hbdf] at hbegin hend
    exact ⟨hclosing, ⟨bdf, hbdf, fun b hb => Option.some.inj (hbegin b hb), fun b hb => Option.some.inj (hend b hb)⟩,
      hunique, hones⟩
  · rintro ⟨hclosing, ⟨bdf, hbdf, hbegin, hend⟩, hunique, hones⟩
    rw [hbdf]
    exact ⟨⟨⟨⟨hclosing, rfl⟩, fun b hb => congrArg some (hbegin b hb), fun b hb => congrArg some (hend b hb)⟩,
      hunique⟩, hones⟩

private theorem deriveGr_eq_some (derivedValid : Bool) (grDevices : List Device) (selector : Nat) :
    (deriveGr derivedValid grDevices).1 = some selector ↔
      derivedValid = true ∧ ∃ device, grDevices = [device] ∧ device.resetSelector = some selector := by
  unfold deriveGr
  cases derivedValid with
  | false => simp
  | true =>
    rcases grDevices with _ | ⟨device, _ | ⟨other, rest⟩⟩
    · simp
    · cases hselector : device.resetSelector <;> simp [hselector]
    · simp

private theorem selector_iff (selector : Nat) :
    (finalizeSnapshot current closing).top.gr.resetSelector = some selector ↔
      (finalizeSnapshot current closing).top.inputValidForDecode = true ∧
      (decodeWords (topWords current.occurrences)).incompleteRecord = none ∧
      ∃ device, (decodeWords (topWords current.occurrences)).devices.filter isGr = [device] ∧
        device.resetSelector = some selector := by
  have hgr : (finalizeSnapshot current closing).top.gr.resetSelector =
      (deriveGr ((finalizeSnapshot current closing).top.inputValidForDecode
        && (finalizeSnapshot current closing).top.decoded.incompleteRecord.isNone)
        ((finalizeSnapshot current closing).top.decoded.devices.filter isGr)).1 := rfl
  have hdecoded : (finalizeSnapshot current closing).top.decoded =
      if (finalizeSnapshot current closing).top.inputValidForDecode then decodeWords (topWords current.occurrences)
      else {} := rfl
  rw [hgr, deriveGr_eq_some, Bool.and_eq_true, Option.isNone_iff_eq_none, and_assoc]
  constructor
  · rintro ⟨hvalid, hrest⟩
    rw [hdecoded, if_pos hvalid] at hrest
    exact ⟨hvalid, hrest⟩
  · rintro ⟨hvalid, hrest⟩
    rw [hdecoded, if_pos hvalid]
    exact ⟨hvalid, hrest⟩

/-- The PMC bit is there only for a selector and a single valid PMC register. -/
theorem pmcBit_some {selector : Option Nat} {pmc : Single} (h : pmcBit selector pmc ≠ none) :
    selector ≠ none ∧ ∃ value line, pmc = .found value line ∧ value ≠ allOnes := by
  unfold pmcBit at h
  cases selector with
  | none => exact absurd rfl h
  | some selector =>
    cases pmc with
    | absent lines => exact absurd rfl h
    | found value line =>
      refine ⟨by simp, value, line, rfl, ?_⟩
      rintro rfl
      exact absurd rfl h

private theorem singleRegister_found {occurrences : List Occurrence} {reg line : Nat} {value : Word}
    (h : singleRegister occurrences reg = .found value line) :
    ∃ item, occurrencesOf occurrences reg = [item] ∧ item.value = value := by
  unfold singleRegister at h
  split at h
  · rename_i item hitem
    injection h with hvalue _
    exact ⟨item, hitem, hvalue⟩
  · exact absurd h (by simp)

end

/-! ### All snapshots -/

/-- The condition for a reset selector: the END boundary, one BDF, the 64 registers once each and not all-ones, a
decoded stream without an incomplete record, and one GR device of instance 0 with the selector. -/
structure Segment.Derives (py : Python) (segment : Segment) (words : List Word) (decoded : Decoded) (selector : Nat) :
    Prop where
  ended : segment.closing.isSome = true
  bdf : ∃ bdf, (∀ item ∈ segment.registers py, item.bdf = bdf) ∧ (∀ b, segment.beginBdf py = some b → b = bdf) ∧
    ∀ b, segment.endBdf py = some b → b = bdf
  occurring : Words (segment.registers py) words
  decodes : decodeTopWords (words.map toValue) = .ok decoded
  complete : decoded.incompleteRecord = none
  device : ∃ device, decoded.devices.filter isGr = [device] ∧ device.resetSelector = some selector

private theorem Segment.selector_iff (py : Python) (index : Nat) (segment : Segment) (selector : Nat) :
    (segment.snapshot py index).top.gr.resetSelector = some selector ↔
      ∃ words decoded, segment.Derives py words decoded selector := by
  have hend : (segment.closing.map fun l => (l.1, Stages.fieldsOf py l.2)).bind (fun entry => entry.2.get "bdf") =
      segment.endBdf py := by
    unfold Segment.endBdf
    cases segment.closing <;> rfl
  unfold Segment.snapshot
  rw [Top.selector_iff, inputValid_iff, Option.isSome_map, hend]
  constructor
  · rintro ⟨⟨hended, ⟨bdf, hbdf, hbegin, hclose⟩, hunique, hones⟩, hcomplete, hdevice⟩
    have hwords := words_topWords hunique hones
    refine ⟨topWords (segment.registers py), _, hended, ⟨bdf, ?_, hbegin, hclose⟩, hwords,
      decodeTopWords_eq hwords.length, hcomplete, hdevice⟩
    exact ((observedBdf_eq_some _ bdf).mp hbdf).2
  · rintro ⟨words, decoded, hended, ⟨bdf, hall, hbegin, hclose⟩, hwords, hdecoded, hcomplete, hdevice⟩
    obtain ⟨hunique, hones, rfl⟩ := hwords.eq_topWords
    rw [decodeTopWords_eq hwords.length] at hdecoded
    obtain rfl := Except.ok.inj hdecoded
    refine ⟨⟨hended, ⟨bdf, (observedBdf_eq_some _ bdf).mpr ⟨?_, hall⟩, hbegin, hclose⟩, hunique, hones⟩, hcomplete,
      hdevice⟩
    -- there are 64 register lines at least
    intro (hnil : segment.registers py = [])
    obtain ⟨item, hitem, -, -⟩ := hwords.once 0 (by decide)
    have hmem : item ∈ segment.registers py :=
      (List.mem_filter.mp (hitem ▸ List.mem_singleton_self item : item ∈ occurrencesOf (segment.registers py) _)).1
    rw [hnil] at hmem
    exact absurd hmem List.not_mem_nil

/-- Each snapshot of a capture has a reset selector exactly under the condition on its lines, the mask is 1 shifted by
it, and the PMC bit is there only if the PMC register occurs once and is not all-ones. -/
theorem resetSelector_iff (py : Python) (text : Chars) :
    List.Forall₂ (fun segment snapshot =>
        (∀ selector, snapshot.top.gr.resetSelector = some selector ↔
          ∃ words decoded, segment.Derives py words decoded selector) ∧
        snapshot.top.gr.pmcMask = snapshot.top.gr.resetSelector.map (fun selector => 1 <<< selector) ∧
        (snapshot.top.gr.pmcBitSetCurrent ≠ none → snapshot.top.gr.resetSelector ≠ none ∧
          ∃ item, occurrencesOf (segment.registers py) PMC_ENABLE_REG = [item] ∧ item.value ≠ allOnes))
      (segments py (numbered text)) (parseCapture py text).snapshots := by
  rw [snapshots_eq, List.forall₂_map_right_iff, List.forall₂_iff_get]
  refine ⟨by simp, ?_⟩
  intro i hi hi'
  have hentry : ((segments py (numbered text)).zipIdx.get ⟨i, hi'⟩) =
      ((segments py (numbered text)).get ⟨i, hi⟩, i) := by simp
  rw [hentry]
  generalize (segments py (numbered text)).get ⟨i, hi⟩ = segment
  refine ⟨segment.selector_iff py i, rfl, ?_⟩
  intro hbit
  obtain ⟨hselector, value, line, hfound, hvalue⟩ := pmcBit_some hbit
  obtain ⟨item, hitem, rfl⟩ := singleRegister_found hfound
  exact ⟨hselector, item, hitem, hvalue⟩

end CmpUnlocker.Top
