import CmpUnlocker.Top.Words

/-!
# The segments of a stream

The open record of the loop holds what the words since the last closed record say (`Opened`), and a word that does not
continue makes a device of it.  So the devices are the segments of the valid words, and a field of a device is that of
the last word which sets it.
-/

namespace CmpUnlocker.Top

/-! ### What words set -/

/-- The value a field has after some words: that of the last word that sets it. -/
def lastSet {α : Type} (sets : Word → Option α) (segment : List Indexed) : Option α :=
  segment.reverse.findSome? fun word => sets word.1

@[simp] theorem lastSet_nil {α : Type} (sets : Word → Option α) : lastSet sets [] = none := rfl

@[simp] theorem lastSet_append_singleton {α : Type} (sets : Word → Option α) (segment : List Indexed) (word : Indexed) :
    lastSet sets (segment ++ [word]) = (sets word.1).or (lastSet sets segment) := by
  unfold lastSet
  rw [List.reverse_append, List.reverse_singleton, List.singleton_append, List.findSome?_cons]
  cases sets word.1 <;> rfl

/-- What a DATA word sets. -/
def dataSets {α : Type} (bits : Word → α) (data : Word) : Option α := if kindOf data = 1 then some (bits data) else none

/-- What a DATA word with a flag sets. -/
def flaggedDataSets {α : Type} (flag : Word) (bits : Word → α) (data : Word) : Option α :=
  if kindOf data = 1 ∧ hasFlag data flag = true then some (bits data) else none

/-- What an ENUM word with a flag sets. -/
def enumSets {α : Type} (flag : Word) (bits : Word → α) (data : Word) : Option α :=
  if kindOf data = 2 ∧ hasFlag data flag = true then some (bits data) else none

/-- What an ENGINE_TYPE word sets. -/
def typeSets (data : Word) : Option Nat := if kindOf data = 3 then some (codeBits data) else none

/-- The kinds of the words that are valid. -/
theorem kindOf_cases (data : Word) : kindOf data = 0 ∨ kindOf data = 1 ∨ kindOf data = 2 ∨ kindOf data = 3 := by
  have hmod : (kindOf data).toNat = data.toNat % 4 := by
    unfold kindOf
    rw [BitVec.toNat_and]
    exact Nat.and_two_pow_sub_one_eq_mod _ 2
  have hlt : data.toNat % 4 < 4 := Nat.mod_lt _ (by decide)
  have hcases :
      (kindOf data).toNat = 0 ∨ (kindOf data).toNat = 1 ∨ (kindOf data).toNat = 2 ∨ (kindOf data).toNat = 3 := by
    omega
  rcases hcases with h | h | h | h
  · exact Or.inl (BitVec.eq_of_toNat_eq h)
  · exact Or.inr (Or.inl (BitVec.eq_of_toNat_eq h))
  · exact Or.inr (Or.inr (Or.inl (BitVec.eq_of_toNat_eq h)))
  · exact Or.inr (Or.inr (Or.inr (BitVec.eq_of_toNat_eq h)))

/-! ### What a record holds -/

/-- The words of a record and what they say. -/
structure Record.Holds (record : Record) (segment : List Indexed) : Prop where
  wordIndices : record.wordIndices = segment.map (·.2)
  rawWords : record.rawWords = segment.map (·.1)
  engineTypeCode : record.engineTypeCode = lastSet typeSets segment
  sourceInstance : record.sourceInstance = (lastSet (dataSets instanceBits) segment).getD 0
  address : record.address = (lastSet (dataSets addressBits) segment).getD 0
  fault : record.fault = ((lastSet (flaggedDataSets 0x4 faultBits) segment).map Int.ofNat).getD (-1)
  engine : record.engine = ((lastSet (enumSets 0x20 engineBits) segment).map Int.ofNat).getD (-1)
  runlist : record.runlist = ((lastSet (enumSets 0x10 runlistBits) segment).map Int.ofNat).getD (-1)
  interrupt : record.interrupt = ((lastSet (enumSets 0x8 interruptBits) segment).map Int.ofNat).getD (-1)
  reset : record.reset = ((lastSet (enumSets 0x4 resetBits) segment).map Int.ofNat).getD (-1)

private theorem holds_newRecord (index : Nat) : (newRecord index).Holds [] := by constructor <;> rfl

/-- A word sets the fields of its kind and leaves the others. -/
theorem Record.Holds.take {record : Record} {segment : List Indexed} (h : record.Holds segment) (word : Indexed)
    (hvalid : kindOf word.1 ≠ 0) : (record.take word.2 word.1).Holds (segment ++ [word]) := by
  obtain ⟨data, index⟩ := word
  obtain ⟨hindices, hwords, hcode, hinst, haddress, hfault, hengine, hrunlist, hinterrupt, hreset⟩ := h
  unfold Record.take
  rcases kindOf_cases data with hkind | hkind | hkind | hkind
  · exact absurd hkind hvalid
  · rw [if_pos hkind]
    constructor <;> simp [dataSets, flaggedDataSets, enumSets, typeSets, *]
    -- the fault is set by a flag
    split <;> simp [*]
  · rw [if_neg (by rw [hkind]; decide), if_pos hkind]
    constructor <;> simp [dataSets, flaggedDataSets, enumSets, typeSets, *]
    all_goals split <;> simp [*]
  · rw [if_neg (by rw [hkind]; decide), if_neg (by rw [hkind]; decide)]
    constructor <;> simp [dataSets, flaggedDataSets, enumSets, typeSets, *]

private theorem startIndex_take (record : Record) (index : Nat) (data : Word) :
    (record.take index data).startIndex = record.startIndex := by
  unfold Record.take
  split
  · rfl
  · split <;> rfl

/-! ### What a device says -/

/-- The fields of a device, from the words of its segment. -/
structure Device.Describes (device : Device) (segment : List Indexed) : Prop where
  startIndex : some device.startIndex = segment.head?.map (·.2)
  wordIndices : device.wordIndices = segment.map (·.2)
  rawWords : device.rawWords = segment.map (·.1)
  engineTypeCode : device.engineTypeCode = lastSet typeSets segment
  type : (device.type, device.engineInstance, device.fixedInstanceWarning) =
    typeOf (lastSet typeSets segment) ((lastSet (dataSets instanceBits) segment).getD 0)
  sourceInstance : device.sourceInstance = (lastSet (dataSets instanceBits) segment).getD 0
  address : device.address = (lastSet (dataSets addressBits) segment).getD 0
  fault : device.fault = ((lastSet (flaggedDataSets 0x4 faultBits) segment).map Int.ofNat).getD (-1)
  engine : device.engine = ((lastSet (enumSets 0x20 engineBits) segment).map Int.ofNat).getD (-1)
  runlist : device.runlist = ((lastSet (enumSets 0x10 runlistBits) segment).map Int.ofNat).getD (-1)
  interrupt : device.interrupt = ((lastSet (enumSets 0x8 interruptBits) segment).map Int.ofNat).getD (-1)
  resetSelector : device.resetSelector = lastSet (enumSets 0x4 resetBits) segment

/-- A closed device. -/
def Closes (segment : List Indexed) (device : Device) : Prop :=
  device.Describes segment ∧ device.complete = true ∧ some device.endIndex = segment.getLast?.map (·.2)

/-- The incomplete record. -/
def Trails (segment : List Indexed) (device : Device) : Prop :=
  device.Describes segment ∧ device.complete = false ∧ device.endIndex = TOP_WORDS - 1

theorem Record.Holds.describes {record : Record} {segment : List Indexed} (h : record.Holds segment)
    (hstart : some record.startIndex = segment.head?.map (·.2)) (index : Nat) (complete : Bool) :
    (finishRecord record index complete).Describes segment where
  startIndex := hstart
  wordIndices := h.wordIndices
  rawWords := h.rawWords
  engineTypeCode := h.engineTypeCode
  type := by rw [← h.engineTypeCode, ← h.sourceInstance]; rfl
  sourceInstance := h.sourceInstance
  address := h.address
  fault := h.fault
  engine := h.engine
  runlist := h.runlist
  interrupt := h.interrupt
  resetSelector := by
    show (if record.reset < 0 then none else some record.reset.toNat) = _
    rw [h.reset]
    cases lastSet (enumSets 0x4 resetBits) segment with
    | none => rfl
    | some selector => simp

/-! ### The loop -/

/-- The open record, if there is one, holds the words since the last closed record. -/
def Opened (segment : List Indexed) (current : Option Record) : Prop :=
  (segment = [] ∧ current = none) ∨
    ∃ record, current = some record ∧ record.Holds segment ∧ some record.startIndex = segment.head?.map (·.2)

/-- The record a word is put into. -/
theorem Opened.take {segment : List Indexed} {current : Option Record} (h : Opened segment current) (word : Indexed)
    (hvalid : kindOf word.1 ≠ 0) :
    (((current.getD (newRecord word.2)).take word.2 word.1).Holds (segment ++ [word])) ∧
      some ((current.getD (newRecord word.2)).take word.2 word.1).startIndex = (segment ++ [word]).head?.map (·.2) := by
  rw [startIndex_take]
  rcases h with ⟨rfl, rfl⟩ | ⟨record, rfl, hholds, hstart⟩
  · exact ⟨(holds_newRecord word.2).take word hvalid, rfl⟩
  · refine ⟨hholds.take word hvalid, ?_⟩
    cases segment with
    | nil => exact absurd hstart (by simp)
    | cons first rest => exact hstart

/-- A word that belongs to a record. -/
def isValid (word : Indexed) : Bool := kindOf word.1 != 0

/-- The words that belong to records, split behind each word that does not continue. -/
structure Split (valid : List Indexed) (segments : List (List Indexed)) (tail : List Indexed) : Prop where
  flatten : segments.flatten ++ tail = valid
  closed : ∀ segment ∈ segments, ∃ body last, segment = body ++ [last] ∧
    (∀ word ∈ body, continues word.1 = true) ∧ continues last.1 = false
  tail : ∀ word ∈ tail, continues word.1 = true

/-- The loop over some words, behind the open words `opened`. -/
theorem decoding_splits (words : List Indexed) (s : Decoding) (opened : List Indexed) (hopen : Opened opened s.current)
    (hcontinue : ∀ word ∈ opened, continues word.1 = true) :
    ∃ segments tail found, Split (opened ++ words.filter isValid) segments tail ∧
      (words.foldl Decoding.step s).devices = s.devices ++ found ∧ List.Forall₂ Closes segments found ∧
      Opened tail (words.foldl Decoding.step s).current ∧
      (words.foldl Decoding.step s).invalidIndices =
        s.invalidIndices ++ (words.filter fun word => !isValid word).map (·.2) := by
  induction words generalizing s opened with
  | nil =>
    refine ⟨[], opened, [], ⟨by simp, ?_, hcontinue⟩, by simp, .nil, hopen, by simp⟩
    intro segment hsegment
    exact absurd hsegment List.not_mem_nil
  | cons word words ih =>
    rw [List.foldl_cons]
    by_cases hvalid : kindOf word.1 = 0
    · -- an invalid word leaves the open record alone
      have hstep : s.step word = { s with invalidIndices := s.invalidIndices ++ [word.2] } := if_pos hvalid
      have hnot : isValid word = false := by simp [isValid, hvalid]
      obtain ⟨segments, tail, found, hsplit, hdevices, hcloses, htail, hinvalid⟩ := ih (s.step word) opened
        (hstep ▸ hopen) hcontinue
      refine ⟨segments, tail, found, ?_, ?_, hcloses, htail, ?_⟩
      · rwa [List.filter_cons_of_neg (by simp [hnot])]
      · rw [hdevices, hstep]
      · rw [hinvalid, hstep, List.filter_cons_of_pos (by simp [hnot])]
        simp
    · have hin : isValid word = true := bne_iff_ne.mpr hvalid
      obtain ⟨hholds, hstart⟩ := hopen.take word hvalid
      generalize hrecord : (s.current.getD (newRecord word.2)).take word.2 word.1 = record at hholds hstart
      by_cases hmore : continues word.1 = true
      · -- the word is put into the open record
        have hstep : s.step word = { s with current := some record } := by
          unfold Decoding.step
          rw [if_neg hvalid, hrecord, if_pos hmore]
        obtain ⟨segments, tail, found, hsplit, hdevices, hcloses, htail, hinvalid⟩ :=
          ih (s.step word) (opened ++ [word]) (hstep ▸ Or.inr ⟨record, rfl, hholds, hstart⟩) (by
            intro other hother
            rcases List.mem_append.mp hother with hother | hother
            · exact hcontinue other hother
            · rwa [List.mem_singleton.mp hother])
        refine ⟨segments, tail, found, ?_, ?_, hcloses, htail, ?_⟩
        · rw [List.filter_cons_of_pos hin]
          simpa using hsplit
        · rw [hdevices, hstep]
        · rw [hinvalid, hstep, List.filter_cons_of_neg (by simp [hin])]
      · -- the word closes the record
        rw [Bool.not_eq_true] at hmore
        have hstep : s.step word =
            { s with devices := s.devices ++ [finishRecord record word.2 true], current := none } := by
          unfold Decoding.step
          rw [if_neg hvalid, hrecord, if_neg (by simp [hmore])]
        obtain ⟨segments, tail, found, hsplit, hdevices, hcloses, htail, hinvalid⟩ :=
          ih (s.step word) [] (hstep ▸ Or.inl ⟨rfl, rfl⟩) (by simp)
        refine ⟨(opened ++ [word]) :: segments, tail, finishRecord record word.2 true :: found, ⟨?_, ?_, hsplit.tail⟩,
          ?_, .cons ?_ hcloses, htail, ?_⟩
        · rw [List.filter_cons_of_pos hin, List.flatten_cons, List.append_assoc, List.append_assoc, hsplit.flatten]
          simp
        · intro segment hsegment
          rcases List.mem_cons.mp hsegment with rfl | hsegment
          · exact ⟨opened, word, rfl, hcontinue, hmore⟩
          · exact hsplit.closed segment hsegment
        · rw [hdevices, hstep]
          simp
        · refine ⟨hholds.describes hstart word.2 true, rfl, ?_⟩
          rw [List.getLast?_concat]
          rfl
        · rw [hinvalid, hstep, List.filter_cons_of_neg (by simp [hin])]

/-! ### The stream -/

private theorem indices_of_closes {segments : List (List Indexed)} {devices : List Device}
    (h : List.Forall₂ Closes segments devices) :
    devices.flatMap Device.wordIndices = segments.flatten.map (·.2) := by
  induction h with
  | nil => rfl
  | cons hcloses _ ih => rw [List.flatMap_cons, ih, hcloses.1.wordIndices, List.flatten_cons, List.map_append]

/-- The incomplete record of a tail. -/
def TrailsIf (tail : List Indexed) (incomplete : Option Device) : Prop :=
  (tail = [] ∧ incomplete = none) ∨ (tail ≠ [] ∧ ∃ device, incomplete = some device ∧ Trails tail device)

private theorem Opened.trails {tail : List Indexed} {current : Option Record} (h : Opened tail current) :
    TrailsIf tail (current.map fun record => finishRecord record (TOP_WORDS - 1) false) := by
  rcases h with ⟨rfl, rfl⟩ | ⟨record, rfl, hholds, hstart⟩
  · exact Or.inl ⟨rfl, rfl⟩
  · refine Or.inr ⟨?_, _, rfl, hholds.describes hstart _ _, rfl, rfl⟩
    rintro rfl
    exact absurd hstart (by simp)

theorem TrailsIf.indices {tail : List Indexed} {incomplete : Option Device} (h : TrailsIf tail incomplete) :
    incomplete.toList.flatMap Device.wordIndices = tail.map (·.2) := by
  rcases h with ⟨rfl, rfl⟩ | ⟨-, device, rfl, htrails⟩
  · rfl
  · simpa using htrails.1.wordIndices

private theorem indices_zipIdx (words : List Word) : words.zipIdx.map (·.2) = List.range words.length := by
  rw [List.range_eq_range']
  exact List.zipIdx_map_snd 0 words

/-- The devices of 64 words are the segments of the valid words, the incomplete record is what is left behind the last
one, and every index is invalid, of one device, or of the incomplete record. -/
theorem decodeTopWords_splits (words : List Word) (h : words.length = TOP_WORDS) :
    ∃ decoded segments tail, decodeTopWords (words.map toValue) = .ok decoded ∧
      decoded.invalidWordIndices = (words.zipIdx.filter fun word => kindOf word.1 = 0).map (·.2) ∧
      Split (words.zipIdx.filter fun word => kindOf word.1 ≠ 0) segments tail ∧
      List.Forall₂ Closes segments decoded.devices ∧ TrailsIf tail decoded.incompleteRecord ∧
      (decoded.invalidWordIndices ++ decoded.devices.flatMap Device.wordIndices
        ++ decoded.incompleteRecord.toList.flatMap Device.wordIndices).Perm (List.range TOP_WORDS) := by
  obtain ⟨segments, tail, found, hsplit, hdevices, hcloses, htail, hinvalid⟩ :=
    decoding_splits words.zipIdx {} [] (Or.inl ⟨rfl, rfl⟩) (by simp)
  have hzero : (fun word : Indexed => decide (kindOf word.1 = 0)) = fun word => !isValid word := by
    funext word
    unfold isValid
    by_cases hkind : kindOf word.1 = 0
    · simp [hkind]
    · simp only [hkind, decide_false]
      rw [bne_iff_ne.mpr hkind]
      rfl
  have hnonzero : (fun word : Indexed => decide (kindOf word.1 ≠ 0)) = isValid := by
    funext word
    unfold isValid
    by_cases hkind : kindOf word.1 = 0
    · simp [hkind]
    · simp only [hkind, ne_eq, not_false_eq_true, decide_true]
      rw [bne_iff_ne.mpr hkind]
  have hfound : (decodeWords words).devices = found := hdevices
  rw [← hfound] at hcloses
  refine ⟨decodeWords words, segments, tail, decodeTopWords_eq h, ?_, ?_, hcloses, htail.trails, ?_⟩
  · rw [hzero]
    exact hinvalid
  · rw [hnonzero]
    simpa using hsplit
  · have hdeviceIndices : (decodeWords words).devices.flatMap Device.wordIndices = segments.flatten.map (·.2) :=
      indices_of_closes hcloses
    have hinvalidIndices : (decodeWords words).invalidWordIndices =
        (words.zipIdx.filter fun word => !isValid word).map (·.2) := hinvalid
    have htailIndices : (decodeWords words).incompleteRecord.toList.flatMap Device.wordIndices = tail.map (·.2) :=
      htail.trails.indices
    rw [hdeviceIndices, hinvalidIndices, htailIndices, List.append_assoc, ← List.map_append, hsplit.flatten,
      List.nil_append, ← List.map_append, ← h, ← indices_zipIdx]
    exact (List.perm_append_comm.trans (List.filter_append_perm isValid _)).map _

/-- A device of three words around an invalid one. -/
def sampleWords : List Word := [0x80400001, 0x00000000, 0x80001206, 0x00000003] ++ List.replicate 60 0

theorem decodeTopWords_splits_sample : ∃ decoded, decodeTopWords (sampleWords.map toValue) = .ok decoded ∧
    (decoded.invalidWordIndices ++ decoded.devices.flatMap Device.wordIndices
      ++ decoded.incompleteRecord.toList.flatMap Device.wordIndices).Perm (List.range TOP_WORDS) := by
  obtain ⟨decoded, _, _, hok, -, -, -, -, hindices⟩ := decodeTopWords_splits sampleWords (by decide)
  exact ⟨decoded, hok, hindices⟩

example :
    (decodeWords sampleWords).devices.map (fun d => (d.wordIndices, d.resetSelector)) = [([0, 2, 3], some 9)] := by
  decide +kernel

end CmpUnlocker.Top
