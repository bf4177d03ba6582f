import CmpUnlocker.Stages.Lines

/-!
# Every line in one place

Each line inside a run is found in exactly one place of the run: a stage, a value of a stage, an orphan value, a missed
counter, an unparsed line, or the END boundary.  A VALUE is stored under the only earlier STAGE of its seq.
-/

namespace CmpUnlocker.Stages

/-! ### Records of single lines -/

/-- A parsed record belongs to its line, and what it says does not depend on the line's number. -/
theorem parseStage_eq (py : Python) (n : Nat) (raw : Chars) (fields : Fields) :
    parseStage py n raw fields =
      (fun stage : Stage => { stage with line := n, raw := raw, values := [] }) <$> parseStage py 0 [] fields := by
  unfold parseStage
  simp only [map_bind, apply_ite, map_pure]
  split
  · rfl
  · rfl

theorem parseValue_eq (py : Python) (n : Nat) (raw : Chars) (fields : Fields) :
    parseValue py n raw fields =
      (fun value : Value => { value with line := n, raw := raw }) <$> parseValue py 0 [] fields := by
  unfold parseValue
  simp only [map_bind, apply_ite]
  split
  · rfl
  · congr 1
    funext reg
    congr 1
    funext value
    split
    · simp only [map_bind, map_pure]
    · rfl

theorem parseMissed_eq (py : Python) (n : Nat) (raw : Chars) (fields : Fields) :
    parseMissed py n raw fields =
      (fun item : Missed => { item with line := n, raw := raw }) <$> parseMissed py 0 [] fields := by
  unfold parseMissed
  split
  · rfl
  · simp only [map_bind, apply_ite, map_pure]
    split
    · rfl
    · rfl

/-- The STAGE record of a line. -/
def readStage (py : Python) (l : Line) : Option Stage :=
  if markerOf l.2 = "STAGE".toList then (parseStage py l.1 l.2 (fieldsOf py l.2)).toOption else none

/-- The VALUE record of a line. -/
def readValue (py : Python) (l : Line) : Option Value :=
  if markerOf l.2 = "VALUE".toList then (parseValue py l.1 l.2 (fieldsOf py l.2)).toOption else none

/-- The MISSED record of a line. -/
def readMissed (py : Python) (l : Line) : Option Missed :=
  if markerOf l.2 = "MISSED".toList then (parseMissed py l.1 l.2 (fieldsOf py l.2)).toOption else none

private theorem toOption_map {ε α β : Type} (f : α → β) (x : Except ε α) : (f <$> x).toOption = x.toOption.map f := by
  cases x with
  | error e => rfl
  | ok a => rfl

private theorem readStage_line {py : Python} {l : Line} {stage : Stage} (h : readStage py l = some stage) :
    (stage.line, stage.raw) = l ∧ stage.values = [] := by
  unfold readStage at h
  split at h
  · rw [parseStage_eq, toOption_map, Option.map_eq_some_iff] at h
    obtain ⟨bare, -, rfl⟩ := h
    exact ⟨rfl, rfl⟩
  · exact absurd h (by simp)

private theorem readValue_line {py : Python} {l : Line} {value : Value} (h : readValue py l = some value) :
    (value.line, value.raw) = l := by
  unfold readValue at h
  split at h
  · rw [parseValue_eq, toOption_map, Option.map_eq_some_iff] at h
    obtain ⟨bare, -, rfl⟩ := h
    rfl
  · exact absurd h (by simp)

private theorem readMissed_line {py : Python} {l : Line} {item : Missed} (h : readMissed py l = some item) :
    (item.line, item.raw) = l := by
  unfold readMissed at h
  split at h
  · rw [parseMissed_eq, toOption_map, Option.map_eq_some_iff] at h
    obtain ⟨bare, -, rfl⟩ := h
    rfl
  · exact absurd h (by simp)

/-- A line with a record of its marker. -/
def Readable (py : Python) (l : Line) : Prop :=
  (readStage py l).isSome ∨ (readValue py l).isSome ∨ (readMissed py l).isSome

/-- What a line adds to an open run. -/
inductive Adds (py : Python) (run : Run) (l : Line) : Run → Prop
  | stage {stage : Stage} (h : readStage py l = some stage) (hv : readValue py l = none) :
      Adds py run l (run.addStage stage)
  | value {value : Value} (h : readValue py l = some value) (hs : readStage py l = none) :
      Adds py run l (run.addValue value)
  | missed {item : Missed} (h : readMissed py l = some item) (hs : readStage py l = none)
      (hv : readValue py l = none) : Adds py run l (run.addMissed item)
  | unparsed {kind reason : Chars} (hs : readStage py l = none) (hv : readValue py l = none)
      (hm : readMissed py l = none) : Adds py run l (run.addUnparsed l kind reason)

private theorem STAGE_ne_VALUE : "STAGE".toList ≠ "VALUE".toList := by decide

private theorem STAGE_ne_MISSED : "STAGE".toList ≠ "MISSED".toList := by decide

private theorem VALUE_ne_MISSED : "VALUE".toList ≠ "MISSED".toList := by decide

/-- One case for each path of the loop body. -/
theorem record_adds (py : Python) (run : Run) (l : Line) : Adds py run l (run.record py l) := by
  unfold Run.record
  by_cases hs : markerOf l.2 = "STAGE".toList
  · have hv : readValue py l = none := by
      unfold readValue
      rw [if_neg (by rw [hs]; exact STAGE_ne_VALUE)]
    have hm : readMissed py l = none := by
      unfold readMissed
      rw [if_neg (by rw [hs]; exact STAGE_ne_MISSED)]
    simp only [if_pos hs]
    cases hp : parseStage py l.1 l.2 (fieldsOf py l.2) with
    | ok stage => exact .stage (by unfold readStage; rw [if_pos hs, hp]; rfl) hv
    | error reason => exact .unparsed (by unfold readStage; rw [if_pos hs, hp]; rfl) hv hm
  · have hrs : readStage py l = none := by
      unfold readStage
      rw [if_neg hs]
    simp only [if_neg hs]
    by_cases hv : markerOf l.2 = "VALUE".toList
    · have hm : readMissed py l = none := by
        unfold readMissed
        rw [if_neg (by rw [hv]; exact VALUE_ne_MISSED)]
      simp only [if_pos hv]
      cases hp : parseValue py l.1 l.2 (fieldsOf py l.2) with
      | ok value => exact .value (by unfold readValue; rw [if_pos hv, hp]; rfl) hrs
      | error reason => exact .unparsed hrs (by unfold readValue; rw [if_pos hv, hp]; rfl) hm
    · have hrv : readValue py l = none := by
        unfold readValue
        rw [if_neg hv]
      simp only [if_neg hv]
      by_cases hm : markerOf l.2 = "MISSED".toList
      · simp only [if_pos hm]
        cases hp : parseMissed py l.1 l.2 (fieldsOf py l.2) with
        | ok item => exact .missed (by unfold readMissed; rw [if_pos hm, hp]; rfl) hrs hrv
        | error reason => exact .unparsed hrs hrv (by unfold readMissed; rw [if_pos hm, hp]; rfl)
      · simp only [if_neg hm]
        exact .unparsed hrs hrv (by unfold readMissed; rw [if_neg hm])

/-! ### Places -/

def Stage.place (stage : Stage) : Line := (stage.line, stage.raw)

def Value.place (value : Value) : Line := (value.line, value.raw)

/-- The lines of the records, of the unparsed lines and of the END boundary of a run. -/
def places (run : Run) : List Line :=
  run.stages.map Stage.place ++ run.stages.flatMap (fun stage => stage.values.map Value.place)
    ++ run.orphanValues.map Value.place ++ run.missed.map (fun item => (item.line, item.raw))
    ++ run.unparsedLines.map (fun item => (item.line, item.raw))
    ++ (run.endLine.map fun n => (n, run.rawLines.getLastD [])).toList

/-- A stage as its STAGE line gives it. -/
def Stage.bare (stage : Stage) : Stage := { stage with values := [] }

private theorem storeValue_bare (stages : List Stage) (value : Value) :
    (Run.storeValue stages value).map Stage.bare = stages.map Stage.bare := by
  unfold Run.storeValue
  rw [List.map_map]
  apply List.map_congr_left
  intro stage _
  simp only [Function.comp]
  split
  · rfl
  · rfl

private theorem storeValue_place (stages : List Stage) (value : Value) :
    (Run.storeValue stages value).map Stage.place = stages.map Stage.place := by
  unfold Run.storeValue
  rw [List.map_map]
  apply List.map_congr_left
  intro stage _
  simp only [Function.comp]
  split
  · rfl
  · rfl

/-- Without a stage of the seq nothing is stored. -/
theorem storeValue_none {stages : List Stage} {value : Value}
    (h : (stages.filter fun stage => stage.seq = value.seq) = []) : Run.storeValue stages value = stages := by
  unfold Run.storeValue
  rw [List.filter_eq_nil_iff] at h
  conv_rhs => rw [← List.map_id stages]
  apply List.map_congr_left
  intro stage hstage
  have := h stage hstage
  rw [if_neg (by simpa using this)]
  rfl

/-- With one stage of the seq the value has one place more. -/
theorem storeValue_values {stages : List Stage} {value : Value} {only : Stage}
    (h : (stages.filter fun stage => stage.seq = value.seq) = [only]) :
    ((Run.storeValue stages value).flatMap fun stage => stage.values.map Value.place).Perm
      ((stages.flatMap fun stage => stage.values.map Value.place) ++ [value.place]) := by
  induction stages with
  | nil => exact absurd h (by simp)
  | cons first stages ih =>
    unfold Run.storeValue at *
    rw [List.map_cons, List.flatMap_cons, List.flatMap_cons]
    by_cases hseq : first.seq = value.seq
    · rw [List.filter_cons_of_pos (by simpa using hseq), List.cons.injEq] at h
      have hrest := storeValue_none h.2
      unfold Run.storeValue at hrest
      rw [if_pos hseq, hrest, List.map_append, List.append_assoc, List.append_assoc]
      exact List.perm_append_comm.append_left _
    · rw [List.filter_cons_of_neg (by simpa using hseq)] at h
      rw [if_neg hseq, List.append_assoc]
      exact (ih h).append_left _

/-- Where a value goes. -/
theorem addValue_cases (run : Run) (value : Value) :
    (∃ only, (run.stages.filter fun stage => stage.seq = value.seq) = [only] ∧
      run.addValue value = { run with stages := Run.storeValue run.stages value }) ∨
    ((∀ only, (run.stages.filter fun stage => stage.seq = value.seq) ≠ [only]) ∧
      run.addValue value = { run with orphanValues := run.orphanValues ++ [value] }) := by
  unfold Run.addValue
  split
  · rename_i only honly
    exact Or.inl ⟨only, honly, rfl⟩
  · rename_i hnone
    exact Or.inr ⟨hnone, rfl⟩

/-- Appending a place to one of the lists of places. -/
theorem places_adds (py : Python) (run next : Run) (l : Line) (hopen : run.endLine = none) (h : Adds py run l next) :
    (places next).Perm (places run ++ [l]) := by
  cases h with
  | stage h =>
    have hl := (readStage_line h).1
    have hv := (readStage_line h).2
    unfold places Run.addStage
    simp only [hopen, Option.map_none, Option.toList_none, List.append_nil, List.map_append, List.flatMap_append,
      List.map_cons, List.map_nil, List.flatMap_cons, List.flatMap_nil, hv]
    unfold Stage.place
    rw [hl]
    grind -ring -linarith
  | value h =>
    have hl : Value.place _ = l := readValue_line h
    rcases addValue_cases run _ with ⟨only, honly, heq⟩ | ⟨-, heq⟩
    · rw [heq]
      unfold places
      simp only [hopen, Option.map_none, Option.toList_none, List.append_nil, storeValue_place]
      have hp := storeValue_values honly
      rw [hl] at hp
      grind -ring -linarith
    · rw [heq]
      unfold places
      simp only [hopen, Option.map_none, Option.toList_none, List.append_nil, List.map_append, List.map_cons,
        List.map_nil, hl]
      grind -ring -linarith
  | missed h =>
    have hl := readMissed_line h
    unfold places Run.addMissed
    simp only [hopen, Option.map_none, Option.toList_none, List.append_nil, List.map_append, List.map_cons,
      List.map_nil, hl]
    grind -ring -linarith
  | unparsed =>
    unfold places Run.addUnparsed
    simp only [hopen, Option.map_none, Option.toList_none, List.append_nil, List.map_append, List.map_cons,
      List.map_nil]
    grind -ring -linarith

/-! ### The lines read so far -/

/-- The STAGE records of lines. -/
def readStages (py : Python) (ls : List Line) : List Stage := ls.filterMap (readStage py)

/-- The stages of a seq. -/
def withSeq (seq : Int) (stages : List Stage) : List Stage := stages.filter fun stage => stage.seq = seq

/-- The seq of every VALUE names exactly one earlier STAGE. -/
def Owned (py : Python) (ls : List Line) : Prop :=
  ∀ before l after value, ls = before ++ l :: after → readValue py l = some value →
    ∃ only, withSeq value.seq (readStages py before) = [only]

/-- The values of every stage are those whose seq named it as the only earlier one. -/
def StoredIn (py : Python) (ls : List Line) (stages : List Stage) : Prop :=
  ∀ before l after value, ls = before ++ l :: after → readValue py l = some value →
    ∀ stage ∈ stages, value ∈ stage.values ↔ withSeq value.seq (readStages py before) = [stage.bare]

/-- An open run of the BEGIN line `b`, behind the lines `ls`; `begun` are the places of the BEGIN line itself. -/
structure Represents (py : Python) (b : Line) (begun ls : List Line) (run : Run) : Prop where
  opened : run.endLine = none
  raw : run.rawLines = b.2 :: ls.map (·.2)
  places : (places run).Perm (begun ++ ls)
  stages : run.stages.map Stage.bare = readStages py ls
  stored : StoredIn py ls run.stages
  orphans : run.orphanValues = [] ↔ Owned py ls
  parsed : run.unparsedLines = [] ↔ begun = [] ∧ ∀ l ∈ ls, Readable py l

/-- A place in a list with one more line at its end. -/
theorem snoc_split {α : Type} {ls before after : List α} {l m : α} (h : ls ++ [l] = before ++ m :: after) :
    (before = ls ∧ m = l ∧ after = []) ∨ ∃ rest, after = rest ++ [l] ∧ ls = before ++ m :: rest := by
  rcases List.eq_nil_or_concat after with rfl | ⟨rest, last, rfl⟩
  · obtain ⟨hls, hlast⟩ := List.append_inj' h rfl
    exact Or.inl ⟨hls.symm, (List.cons.inj hlast).1.symm, rfl⟩
  · right
    rw [List.concat_eq_append, ← List.cons_append, ← List.append_assoc] at h
    obtain ⟨hls, hlast⟩ := List.append_inj' h rfl
    exact ⟨rest, by rw [List.concat_eq_append, (List.cons.inj hlast).1], hls⟩

private theorem readStages_snoc (py : Python) (ls : List Line) (l : Line) :
    readStages py (ls ++ [l]) = readStages py ls ++ (readStage py l).toList := by
  unfold readStages
  rw [List.filterMap_append]
  cases h : readStage py l with
  | none => simp [h]
  | some stage => simp [h]

private theorem owned_snoc (py : Python) (ls : List Line) (l : Line) :
    Owned py (ls ++ [l]) ↔
      Owned py ls ∧ ∀ value, readValue py l = some value → ∃ only, withSeq value.seq (readStages py ls) = [only] := by
  constructor
  · intro h
    refine ⟨?_, ?_⟩
    · intro before m after value hls hm
      exact h before m (after ++ [l]) value (by rw [hls]; simp) hm
    · intro value hvalue
      exact h ls l [] value rfl hvalue
  · rintro ⟨hold, hnew⟩ before m after value hls hm
    rcases snoc_split hls with ⟨rfl, rfl, -⟩ | ⟨rest, -, hrest⟩
    · exact hnew value hm
    · exact hold before m rest value hrest hm

/-- The records of a line of a fresh number are not among those read. -/
theorem readStages_fresh {py : Python} {ls : List Line} {stage : Stage} (h : stage ∈ readStages py ls) :
    (stage.line, stage.raw) ∈ ls := by
  unfold readStages at h
  obtain ⟨l, hl, hread⟩ := List.mem_filterMap.mp h
  rw [(readStage_line hread).1]
  exact hl

namespace Represents

variable {py : Python} {b : Line} {begun ls : List Line} {run : Run}

private theorem withSeq_bare (h : Represents py b begun ls run) (seq : Int) :
    (withSeq seq run.stages).map Stage.bare = withSeq seq (readStages py ls) := by
  unfold withSeq
  rw [← h.stages, List.filter_map]
  rfl

private theorem one_of_run (h : Represents py b begun ls run) {seq : Int} {only : Stage}
    (hone : withSeq seq run.stages = [only]) : withSeq seq (readStages py ls) = [only.bare] := by
  rw [← h.withSeq_bare, hone]
  rfl

private theorem one_of_lines (h : Represents py b begun ls run) {seq : Int} {stage : Stage}
    (hone : withSeq seq (readStages py ls) = [stage]) : ∃ only, withSeq seq run.stages = [only] := by
  rw [← h.withSeq_bare, List.map_eq_singleton_iff] at hone
  obtain ⟨only, honly, -⟩ := hone
  exact ⟨only, honly⟩

/-- A value stored in the run comes from one of its lines. -/
theorem value_place (h : Represents py b begun ls run) {stage : Stage} (hstage : stage ∈ run.stages) {value : Value}
    (hvalue : value ∈ stage.values) : value.place ∈ begun ++ ls := by
  apply h.places.mem_iff.mp
  unfold Stages.places
  simp only [List.mem_append, List.mem_flatMap, List.mem_map]
  left; left; left; left; right
  exact ⟨stage, hstage, value, hvalue, rfl⟩

variable {l : Line} (hfresh : ∀ old ∈ begun ++ ls, old.1 ≠ l.1)

include hfresh in
/-- The value of a fresh line is stored nowhere yet. -/
theorem value_fresh (h : Represents py b begun ls run) {value : Value} (hread : readValue py l = some value)
    {stage : Stage} (hstage : stage ∈ run.stages) : value ∉ stage.values := by
  intro hmem
  apply hfresh _ (h.value_place hstage hmem)
  rw [show value.place = l from readValue_line hread]

include hfresh in
/-- A stage of a fresh line owns none of the values read before. -/
theorem stage_fresh {stage : Stage} (hread : readStage py l = some stage) {before after : List Line} {m : Line}
    (hls : ls = before ++ m :: after) (seq : Int) : withSeq seq (readStages py before) ≠ [stage.bare] := by
  intro heq
  have hmem : stage.bare ∈ readStages py before := List.mem_of_mem_filter (heq ▸ List.mem_singleton_self _)
  have hline : (stage.bare.line, stage.bare.raw) ∈ before := readStages_fresh hmem
  apply hfresh _ (List.mem_append.mpr (Or.inr (hls ▸ List.mem_append_left _ hline)))
  exact congrArg Prod.fst (readStage_line hread).1

include hfresh in
/-- A STAGE line adds a stage without values. -/
theorem stored_stage (h : Represents py b begun ls run) {stage : Stage} (hread : readStage py l = some stage)
    (hv : readValue py l = none) : StoredIn py (ls ++ [l]) (run.stages ++ [stage]) := by
  intro before m after value hls hm other hother
  rcases snoc_split hls with ⟨-, rfl, -⟩ | ⟨rest, -, hrest⟩
  · rw [hv] at hm
    exact absurd hm (by simp)
  · rcases List.mem_append.mp hother with hother | hother
    · exact h.stored before m rest value hrest hm other hother
    · rw [List.mem_singleton.mp hother, (readStage_line hread).2]
      constructor
      · intro hnil
        exact absurd hnil List.not_mem_nil
      · intro heq
        exact absurd heq (stage_fresh hfresh hread hrest _)

include hfresh in
/-- A VALUE line is stored under the only stage of its seq. -/
theorem stored_value (h : Represents py b begun ls run) {value : Value} (hread : readValue py l = some value)
    {only : Stage} (hone : withSeq value.seq run.stages = [only]) :
    StoredIn py (ls ++ [l]) (Run.storeValue run.stages value) := by
  intro before m after other hls hm stage hstage
  obtain ⟨old, hold, rfl⟩ := List.mem_map.mp hstage
  rcases snoc_split hls with ⟨rfl, rfl, -⟩ | ⟨rest, -, hrest⟩
  · -- the value of this line
    rw [hread] at hm
    obtain rfl := Option.some.inj hm
    rw [h.one_of_run hone]
    by_cases hseq : old.seq = value.seq
    · have hin : old ∈ withSeq value.seq run.stages := List.mem_filter.mpr ⟨hold, by simpa using hseq⟩
      rw [hone, List.mem_singleton] at hin
      subst hin
      rw [if_pos hseq]
      simp [Stage.bare]
    · rw [if_neg hseq]
      constructor
      · intro hmem
        exact absurd hmem (h.value_fresh hfresh hread hold)
      · intro heq
        have honly : only ∈ withSeq value.seq run.stages := hone ▸ List.mem_singleton_self only
        have honlySeq : only.seq = value.seq := by simpa using (List.mem_filter.mp honly).2
        have hbare : only.bare = old.bare := (List.cons.inj heq).1
        have hseqs : only.bare.seq = old.bare.seq := congrArg Stage.seq hbare
        exact absurd (hseqs.symm.trans honlySeq) hseq
  · -- a value of an earlier line
    have hne : other ≠ value := by
      rintro rfl
      have hmem : m ∈ begun ++ ls := List.mem_append.mpr (Or.inr (hrest ▸ by simp))
      apply hfresh m hmem
      rw [← readValue_line hm, ← readValue_line hread]
    have hold' := h.stored before m rest other hrest hm old hold
    by_cases hseq : old.seq = value.seq
    · rw [if_pos hseq]
      simp only [List.mem_append, List.mem_singleton, hne, or_false]
      exact hold'
    · rw [if_neg hseq]
      exact hold'

include hfresh in
/-- A line that stores nothing. -/
theorem stored_same (h : Represents py b begun ls run)
    (hnew : ∀ value, readValue py l = some value → ∀ only, withSeq value.seq run.stages ≠ [only]) :
    StoredIn py (ls ++ [l]) run.stages := by
  intro before m after value hls hm stage hstage
  rcases snoc_split hls with ⟨rfl, rfl, -⟩ | ⟨rest, -, hrest⟩
  · constructor
    · intro hmem
      exact absurd hmem (h.value_fresh hfresh hm hstage)
    · intro heq
      obtain ⟨only, honly⟩ := h.one_of_lines heq
      exact absurd honly (hnew value hm only)
  · exact h.stored before m rest value hrest hm stage hstage

theorem keep (h : Represents py b begun ls run) (l : Line) : Stages.places (run.keep l) = Stages.places run := by
  unfold Stages.places Run.keep
  simp only [h.opened, Option.map_none]

include hfresh in
/-- One more line. -/
theorem snoc (h : Represents py b begun ls run) {next : Run} (hadds : Adds py (run.keep l) l next) :
    Represents py b begun (ls ++ [l]) next := by
  have hplaces : (Stages.places next).Perm (begun ++ (ls ++ [l])) := by
    rw [← List.append_assoc]
    apply (places_adds py (run.keep l) next l h.opened hadds).trans
    rw [h.keep]
    exact h.places.append_right [l]
  have hraw : run.rawLines ++ [l.2] = b.2 :: (ls ++ [l]).map (·.2) := by
    rw [h.raw]
    simp
  have hreadable : (∀ m ∈ ls ++ [l], Readable py m) ↔ (∀ m ∈ ls, Readable py m) ∧ Readable py l := by
    rw [List.forall_mem_append]
    simp
  cases hadds with
  | @stage stage hread hv =>
    refine ⟨h.opened, hraw, hplaces, ?_, h.stored_stage hfresh hread hv, ?_, ?_⟩
    · show (run.stages ++ [stage]).map Stage.bare = _
      have hbare : stage.bare = stage := by
        unfold Stage.bare
        rw [← (readStage_line hread).2]
      rw [List.map_append, h.stages, readStages_snoc, hread]
      simp [hbare]
    · show run.orphanValues = [] ↔ _
      rw [h.orphans, owned_snoc, hv]
      simp
    · show run.unparsedLines = [] ↔ _
      rw [h.parsed, hreadable]
      have hl : Readable py l := Or.inl (by rw [hread]; rfl)
      simp [hl]
  | @value value hread hs =>
    have hl : Readable py l := Or.inr (Or.inl (by rw [hread]; rfl))
    rcases addValue_cases (run.keep l) value with ⟨only, honly, heq⟩ | ⟨hnone, heq⟩
    · rw [heq]
      refine ⟨h.opened, hraw, heq ▸ hplaces, ?_, h.stored_value hfresh hread honly, ?_, ?_⟩
      · show (Run.storeValue run.stages value).map Stage.bare = _
        rw [storeValue_bare, h.stages, readStages_snoc, hs]
        simp
      · show run.orphanValues = [] ↔ _
        rw [h.orphans, owned_snoc, hread]
        constructor
        · intro howned
          refine ⟨howned, ?_⟩
          intro other hother
          obtain rfl := Option.some.inj hother
          exact ⟨_, h.one_of_run honly⟩
        · exact fun hboth => hboth.1
      · show run.unparsedLines = [] ↔ _
        rw [h.parsed, hreadable]
        simp [hl]
    · rw [heq]
      refine ⟨h.opened, hraw, heq ▸ hplaces, ?_, ?_, ?_, ?_⟩
      · show run.stages.map Stage.bare = _
        rw [h.stages, readStages_snoc, hs]
        simp
      · apply h.stored_same hfresh
        intro other hother
        rw [hread] at hother
        obtain rfl := Option.some.inj hother
        exact hnone
      · show run.orphanValues ++ [value] = [] ↔ _
        rw [owned_snoc]
        constructor
        · intro hnil
          exact absurd hnil (by simp)
        · rintro ⟨-, hnew⟩
          obtain ⟨stage, hstage⟩ := hnew value hread
          obtain ⟨only, honly⟩ := h.one_of_lines hstage
          exact absurd honly (hnone only)
      · show run.unparsedLines = [] ↔ _
        rw [h.parsed, hreadable]
        simp [hl]
  | missed hread hs hv =>
    refine ⟨h.opened, hraw, hplaces, ?_, ?_, ?_, ?_⟩
    · show run.stages.map Stage.bare = _
      rw [h.stages, readStages_snoc, hs]
      simp
    · apply h.stored_same hfresh
      intro value hvalue
      rw [hv] at hvalue
      exact absurd hvalue (by simp)
    · show run.orphanValues = [] ↔ _
      rw [h.orphans, owned_snoc, hv]
      simp
    · show run.unparsedLines = [] ↔ _
      rw [h.parsed, hreadable]
      have hl : Readable py l := Or.inr (Or.inr (by rw [hread]; rfl))
      simp [hl]
  | unparsed hs hv hm =>
    refine ⟨h.opened, hraw, hplaces, ?_, ?_, ?_, ?_⟩
    · show run.stages.map Stage.bare = _
      rw [h.stages, readStages_snoc, hs]
      simp
    · apply h.stored_same hfresh
      intro value hvalue
      rw [hv] at hvalue
      exact absurd hvalue (by simp)
    · show run.orphanValues = [] ↔ _
      rw [h.orphans, owned_snoc, hv]
      simp
    · have hl : ¬Readable py l := by
        unfold Readable
        simp [hs, hv, hm]
      unfold Run.addUnparsed
      rw [hreadable]
      simp [hl]

omit hfresh in
/-- All lines up to an END. -/
theorem foldl_take (h : Represents py b begun ls run) (body : List Line)
    (hstrict : Keyed.Strict (·.1) (b :: (ls ++ body))) (hbegun : ∀ m ∈ begun, m.1 = b.1)
    (hbody : ∀ l ∈ body, isEnd l = false) :
    Represents py b begun (ls ++ body) (body.foldl (Run.take py) run) := by
  induction body generalizing ls run with
  | nil => simpa using h
  | cons l body ih =>
    have hsplit : ls ++ l :: body = (ls ++ [l]) ++ body := by simp
    rw [hsplit] at hstrict ⊢
    rw [List.forall_mem_cons] at hbody
    rw [List.foldl_cons]
    apply ih _ hstrict hbody.2
    have hfresh : ∀ old ∈ begun ++ ls, old.1 ≠ l.1 := by
      obtain ⟨hfirst, hrest⟩ := List.pairwise_cons.mp hstrict
      intro old hold
      rcases List.mem_append.mp hold with hold | hold
      · have : b.1 < l.1 := hfirst l (by simp)
        rw [hbegun old hold]
        omega
      · have hls := (Keyed.strict_append.mp (Keyed.strict_append.mp hrest).1).2.2
        have : old.1 < l.1 := hls old hold l (by simp)
        omega
    apply h.snoc hfresh
    unfold Run.take
    rw [if_neg (by simp [hbody.1])]
    exact record_adds py (run.keep l) l

end Represents

/-! ### Runs -/

/-- The places of a BEGIN line: the counts that cannot be read. -/
def begunPlaces (py : Python) (b : Line) : List Line :=
  (newRun py b.1 b.2 (fieldsOf py b.2)).unparsedLines.map fun item => (item.line, item.raw)

private theorem begunPlaces_eq {py : Python} {b m : Line} (h : m ∈ begunPlaces py b) : m = b := by
  unfold begunPlaces newRun at h
  simp only [List.map_map, List.mem_map] at h
  obtain ⟨reason, -, rfl⟩ := h
  rfl

private theorem opened_represents (py : Python) (armedTypes : List (Chars × Int)) (b : Line) :
    Represents py b (begunPlaces py b) [] (Scan.opened py armedTypes b) := by
  constructor
  · rfl
  · rfl
  · unfold places begunPlaces Scan.opened newRun
    simp
  · rfl
  · intro before l after value hls
    exact absurd hls.symm (by simp)
  · unfold Scan.opened newRun
    simp only [true_iff]
    intro before l after value hls
    exact absurd hls.symm (by simp)
  · unfold begunPlaces Scan.opened
    simp

/-- A run with what its lines say: its raw lines, the place of every line, its stages and their values, and when there
is nothing in `orphan_values` and `unparsed_lines`. -/
structure FromLines (py : Python) (b : Line) (ls : List Line) (run : Run) : Prop where
  raw : run.rawLines = b.2 :: ls.map (·.2)
  places : (places run).Perm (begunPlaces py b ++ ls)
  stages : run.stages.map Stage.bare = readStages py ls
  stored : StoredIn py ls run.stages
  orphans : run.orphanValues = [] ↔ Owned py ls
  parsed : run.unparsedLines = [] ↔ begunPlaces py b = [] ∧ ∀ l ∈ ls, Readable py l ∨ isEnd l = true

/-- An END line has no record. -/
theorem end_no_record (py : Python) {l : Line} (h : isEnd l = true) :
    readStage py l = none ∧ readValue py l = none := by
  have hmarker : markerOf l.2 = "END".toList := beq_iff_eq.mp h
  unfold readStage readValue
  rw [hmarker, if_neg (by decide), if_neg (by decide)]
  exact ⟨rfl, rfl⟩

/-- The END boundary is the place of its line. -/
theorem FromLines.finish {py : Python} {b l : Line} {ls : List Line} {run : Run}
    (h : Represents py b (begunPlaces py b) ls run) (hbody : ∀ m ∈ ls, isEnd m = false) (hend : isEnd l = true) :
    FromLines py b (ls ++ [l]) (run.take py l) := by
  obtain ⟨hs, hv⟩ := end_no_record py hend
  have htake : run.take py l = (run.keep l).finish py l := by
    unfold Run.take
    rw [if_pos hend]
  rw [htake]
  constructor
  · show run.rawLines ++ [l.2] = _
    rw [h.raw]
    simp
  · have hlast : Stages.places ((run.keep l).finish py l) = Stages.places run ++ [l] := by
      unfold Stages.places Run.finish Run.keep
      simp [h.opened]
    rw [hlast, ← List.append_assoc]
    exact h.places.append_right [l]
  · show run.stages.map Stage.bare = _
    rw [h.stages, readStages_snoc, hs]
    simp
  · intro before m after value hls hm stage hstage
    rcases snoc_split hls with ⟨-, rfl, -⟩ | ⟨rest, -, hrest⟩
    · rw [hv] at hm
      exact absurd hm (by simp)
    · exact h.stored before m rest value hrest hm stage hstage
  · show run.orphanValues = [] ↔ _
    rw [h.orphans, owned_snoc, hv]
    simp
  · show run.unparsedLines = [] ↔ _
    rw [h.parsed, List.forall_mem_append]
    constructor
    · rintro ⟨hbegun, hall⟩
      refine ⟨hbegun, fun m hm => Or.inl (hall m hm), ?_⟩
      intro m hm
      rw [List.mem_singleton.mp hm]
      exact Or.inr hend
    · rintro ⟨hbegun, hall, -⟩
      refine ⟨hbegun, ?_⟩
      intro m hm
      exact (hall m hm).resolve_right (by simp [hbody m hm])

/-- A run that is still open at the next BEGIN or at the end of the text. -/
theorem FromLines.unfinished {py : Python} {b : Line} {ls : List Line} {run : Run}
    (h : Represents py b (begunPlaces py b) ls run) (hbody : ∀ m ∈ ls, isEnd m = false) : FromLines py b ls run := by
  refine ⟨h.raw, h.places, h.stages, h.stored, h.orphans, ?_⟩
  rw [h.parsed]
  constructor
  · rintro ⟨hbegun, hall⟩
    exact ⟨hbegun, fun m hm => Or.inl (hall m hm)⟩
  · rintro ⟨hbegun, hall⟩
    exact ⟨hbegun, fun m hm => (hall m hm).resolve_right (by simp [hbody m hm])⟩

/-- Every run is the one its lines say. -/
theorem fromLines_of_read {py : Python} {text : Chars} {segment : Line × List Line} {v : Verdict}
    (hsegment : segment ∈ segments (marked text)) (h : ReadFrom py segment v) :
    FromLines py segment.1 segment.2 v.run := by
  obtain ⟨armedTypes, rfl⟩ := h
  obtain ⟨b, ls⟩ := segment
  have hstrict := segment_strict hsegment
  obtain ⟨-, body, final, hls, hbody, hfinal⟩ := segment_shape hsegment
  simp only at hls hstrict ⊢
  subst hls
  have hbodyStrict : Keyed.Strict (·.1) (b :: ([] ++ body)) := by
    have hsub : (b :: body).Sublist (b :: (body ++ final)) := (List.sublist_append_left body final).cons_cons b
    exact hstrict.sublist hsub
  have hnoEnd : ∀ m ∈ body, isEnd m = false := fun m hm => (hbody m hm).2
  have hrep := (opened_represents py armedTypes b).foldl_take body hbodyStrict
    (fun m hm => congrArg Prod.fst (begunPlaces_eq hm)) hnoEnd
  rw [List.nil_append] at hrep
  unfold validateRun
  simp only
  rcases hfinal with rfl | ⟨l, rfl, hend⟩
  · rw [List.append_nil]
    exact .unfinished hrep hnoEnd
  · rw [List.foldl_append]
    exact .finish hrep hnoEnd hend

/-- What the BEGIN and END lines say of a run. -/
def Run.frame (run : Run) : Run :=
  { run with stages := [], missed := [], orphanValues := [], unparsedLines := [], rawLines := [] }

theorem Adds.frame {py : Python} {run next : Run} {l : Line} (h : Adds py run l next) : next.frame = run.frame := by
  cases h with
  | stage => rfl
  | @value value =>
    rcases addValue_cases run value with ⟨only, -, heq⟩ | ⟨-, heq⟩
    · rw [heq]
      rfl
    · rw [heq]
      rfl
  | missed => rfl
  | unparsed => rfl

private theorem foldl_frame (py : Python) (body : List Line) (run : Run) (hbody : ∀ l ∈ body, isEnd l = false) :
    (body.foldl (Run.take py) run).frame = run.frame := by
  induction body generalizing run with
  | nil => rfl
  | cons l body ih =>
    rw [List.forall_mem_cons] at hbody
    rw [List.foldl_cons, ih _ hbody.2]
    unfold Run.take
    rw [if_neg (by simp [hbody.1])]
    exact (record_adds py (run.keep l) l).frame

/-- The BEGIN and END lines of a run say what its frame does. -/
theorem frame_of_read {py : Python} {ls : List Line} {segment : Line × List Line} {v : Verdict}
    (hsegment : segment ∈ segments ls) (h : ReadFrom py segment v) : ∃ armedTypes,
      v = validateRun v.run ∧
      ((∀ l ∈ segment.2, isEnd l = false) ∧ v.run.frame = (Scan.opened py armedTypes segment.1).frame ∨
        ∃ l ∈ segment.2, isEnd l = true ∧
          v.run.frame = ((Scan.opened py armedTypes segment.1).finish py l).frame) := by
  obtain ⟨armedTypes, rfl⟩ := h
  obtain ⟨b, ls'⟩ := segment
  obtain ⟨-, body, final, hls, hbody, hfinal⟩ := segment_shape hsegment
  simp only at hls ⊢
  subst hls
  have hnoEnd : ∀ m ∈ body, isEnd m = false := fun m hm => (hbody m hm).2
  refine ⟨armedTypes, rfl, ?_⟩
  rcases hfinal with rfl | ⟨l, rfl, hend⟩
  · left
    rw [List.append_nil]
    exact ⟨hnoEnd, foldl_frame py body _ hnoEnd⟩
  · right
    refine ⟨l, by simp, hend, ?_⟩
    have hframe := foldl_frame py body (Scan.opened py armedTypes b) hnoEnd
    unfold validateRun
    rw [List.foldl_append]
    generalize body.foldl (Run.take py) (Scan.opened py armedTypes b) = run at hframe
    show ((run.take py l)).frame = _
    unfold Run.take
    rw [if_pos hend]
    have hfinish : ∀ r : Run, (r.finish py l).frame = r.frame.finish py l := fun r => rfl
    have hkeep : (run.keep l).frame = run.frame := rfl
    rw [hfinish, hfinish, hkeep, hframe]

/-- A line of a run is found in one place. -/
theorem FromLines.one_place {py : Python} {b l : Line} {ls : List Line} {run : Run} (h : FromLines py b ls run)
    (hstrict : Keyed.Strict (·.1) (b :: ls)) (hl : l ∈ ls) :
    ((Stages.places run).filter fun m => m.1 = l.1) = [l] := by
  obtain ⟨hfirst, hls⟩ := List.pairwise_cons.mp hstrict
  have hbegun : ((begunPlaces py b).filter fun m => m.1 = l.1) = [] := by
    rw [List.filter_eq_nil_iff]
    intro m hm
    have : b.1 < l.1 := hfirst l hl
    rw [begunPlaces_eq hm]
    simp only [decide_eq_true_eq]
    omega
  have hone : (ls.filter fun m => m.1 = l.1) = [l] := by
    apply (Keyed.Strict.filter hls _).ext (List.pairwise_singleton _ _)
    intro m
    rw [List.mem_filter, List.mem_singleton, decide_eq_true_eq]
    constructor
    · rintro ⟨hm, hnumber⟩
      exact Keyed.Strict.inj hls hm hl hnumber
    · rintro rfl
      exact ⟨hl, rfl⟩
  have hperm := h.places.filter fun m => decide (m.1 = l.1)
  rw [List.filter_append, hbegun, hone, List.nil_append] at hperm
  exact List.perm_singleton.mp hperm

/-- Every line of a run is kept in its raw lines, in order, and found in exactly one place of the run; a VALUE is
stored under a stage exactly when that is the only earlier STAGE of its seq. -/
theorem lines_in_one_place (py : Python) (text : Chars) :
    List.Forall₂ (fun segment v =>
        v.run.beginLine = segment.1.1 ∧
        v.run.rawLines = segment.1.2 :: segment.2.map (·.2) ∧
        (∀ l ∈ segment.2, ((places v.run).filter fun m => m.1 = l.1) = [l]) ∧
        v.run.stages.map Stage.bare = readStages py segment.2 ∧
        StoredIn py segment.2 v.run.stages)
      (segments (marked text)) (parseCapture py text).runs := by
  have hruns := runs_read py text
  rw [List.forall₂_iff_get] at hruns ⊢
  refine ⟨hruns.1, ?_⟩
  intro i hi hi'
  have hread := hruns.2 i hi hi'
  have hmem : (segments (marked text)).get ⟨i, hi⟩ ∈ segments (marked text) := List.get_mem _ _
  have hlines := fromLines_of_read hmem hread
  refine ⟨?_, hlines.raw, ?_, hlines.stages, hlines.stored⟩
  · obtain ⟨armedTypes, -, ⟨-, hframe⟩ | ⟨l, -, -, hframe⟩⟩ := frame_of_read hmem hread
    · exact congrArg Run.beginLine hframe
    · exact congrArg Run.beginLine hframe
  · intro l hl
    exact hlines.one_place (segment_strict hmem) hl

end CmpUnlocker.Stages
