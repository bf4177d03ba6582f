import CmpUnlocker.Stages.Represented

/-!
# Captures one behind the other

Line numbers are only carried along: reading renumbered lines gives the renumbered capture (`foldl_behind`).  So lines
without the prefix change nothing but numbers, and the runs of two captures one behind the other are those of each,
as long as no run is open between them and no armed type of the first reaches a run of the second.
-/

namespace CmpUnlocker.Stages

/-! ### Line numbers -/

section

variable (f : Nat → Nat)

def Value.relabel (value : Value) : Value := { value with line := f value.line }

def Stage.relabel (stage : Stage) : Stage :=
  { stage with line := f stage.line, values := stage.values.map (Value.relabel f) }

def Missed.relabel (item : Missed) : Missed := { item with line := f item.line }

def Unparsed.relabel (item : Unparsed) : Unparsed := { item with line := f item.line }

def Run.relabel (run : Run) : Run :=
  { run with
    beginLine := f run.beginLine
    endLine := run.endLine.map f
    stages := run.stages.map (Stage.relabel f)
    missed := run.missed.map (Missed.relabel f)
    orphanValues := run.orphanValues.map (Value.relabel f)
    unparsedLines := run.unparsedLines.map (Unparsed.relabel f) }

/-- A verdict names no lines but those of its run. -/
def Verdict.relabel (v : Verdict) : Verdict := { v with run := v.run.relabel f }

def Capture.relabel (c : Capture) : Capture := { c with runs := c.runs.map (Verdict.relabel f) }

def Line.relabel (l : Line) : Line := (f l.1, l.2)

/-! ### Verdicts -/

private theorem valueMap_relabel (stage : Stage) : valueMap (stage.relabel f) = valueMap stage := by
  unfold valueMap Stage.relabel
  simp only [List.foldl_map]
  rfl

private theorem stageFaults_relabel (previousStart : Option Int) (stage : Stage) :
    stageFaults previousStart (stage.relabel f) = stageFaults previousStart stage := by
  have hm := valueMap_relabel f stage
  unfold stageFaults
  rw [hm]
  rfl

private theorem stagesErrors_relabel (previousStart : Option Int) (stages : List Stage) :
    stagesErrors previousStart (stages.map (Stage.relabel f)) = stagesErrors previousStart stages := by
  induction stages generalizing previousStart with
  | nil => rfl
  | cons stage stages ih =>
    rw [List.map_cons]
    unfold stagesErrors
    rw [stageFaults_relabel, ← ih]
    rfl

private theorem topologies_relabel (previousStart : Option Int) (stages : List Stage) :
    topologies previousStart (stages.map (Stage.relabel f)) = topologies previousStart stages := by
  induction stages generalizing previousStart with
  | nil => rfl
  | cons stage stages ih =>
    rw [List.map_cons]
    unfold topologies
    rw [stageFaults_relabel, ← ih]
    rfl

private theorem seqsOf_relabel (stages : List Stage) : seqsOf (stages.map (Stage.relabel f)) = seqsOf stages := by
  unfold seqsOf
  rw [List.map_map]
  rfl

private theorem named_relabel (stages : List Stage) (name : Chars) :
    named (stages.map (Stage.relabel f)) name = (named stages name).map (Stage.relabel f) := by
  unfold named
  rw [List.filter_map]
  rfl

private theorem unique_relabel (stages : List Stage) (name : Chars) :
    unique (stages.map (Stage.relabel f)) name = (unique stages name).map (Stage.relabel f) := by
  unfold unique
  rw [named_relabel]
  cases named stages name with
  | nil => rfl
  | cons first rest =>
    cases rest with
    | nil => rfl
    | cons second rest => rfl

private theorem nameErrors_relabel (stages : List Stage) :
    nameErrors (stages.map (Stage.relabel f)) = nameErrors stages := by
  unfold nameErrors
  apply List.flatMap_congr
  intro name _
  rw [named_relabel]
  cases named stages name with
  | nil => rfl
  | cons first rest =>
    cases rest with
    | nil => rfl
    | cons second rest =>
      simp only [List.map_cons]
      rw [← List.map_cons, ← List.map_cons, seqsOf_relabel]

private theorem within_relabel (low high : Int) (stages : List Stage) :
    within low high (stages.map (Stage.relabel f)) = (within low high stages).map (Stage.relabel f) := by
  unfold within
  rw [List.filter_map]
  rfl

private theorem initialReset_relabel (stages : List Stage) :
    initialReset (stages.map (Stage.relabel f)) = initialReset stages := by
  unfold initialReset
  rw [unique_relabel, unique_relabel, named_relabel, named_relabel]
  cases unique stages "post_return".toList with
  | none => rfl
  | some low =>
    cases unique stages "oneinit_entry".toList with
    | none => rfl
    | some high =>
      have hlow : (low.relabel f).seq = low.seq := rfl
      have hhigh : (high.relabel f).seq = high.seq := rfl
      simp only [Option.map_some, within_relabel, seqsOf_relabel, hlow, hhigh]
      generalize within low.seq high.seq (named stages maskReturn) = masks
      generalize within low.seq high.seq (named stages resetReturn) = resets
      cases masks with
      | nil => rfl
      | cons mask masks =>
        cases masks with
        | cons second masks => rfl
        | nil =>
          cases resets with
          | nil => rfl
          | cons reset resets =>
            cases resets with
            | cons second resets => rfl
            | nil => rfl

private theorem sortBySeq_relabel (stages : List Stage) :
    sortBySeq (stages.map (Stage.relabel f)) = (sortBySeq stages).map (Stage.relabel f) :=
  Keyed.sort_map (Stage.relabel f) (·.seq) (fun _ => rfl) stages

private theorem trailing_relabel (stages : List Stage) :
    trailing (stages.map (Stage.relabel f)) = (trailing stages).map (Stage.relabel f) := by
  unfold trailing
  rw [unique_relabel, named_relabel, named_relabel]
  cases unique stages "ctxctl_return".toList with
  | none => rfl
  | some last =>
    simp only [Option.map_some]
    rw [← List.map_append, List.filter_map, sortBySeq_relabel]
    rfl

private theorem pairTrailing_relabel : (stages : List Stage) →
    pairTrailing (stages.map (Stage.relabel f)) = pairTrailing stages
  | [] => rfl
  | [_] => rfl
  | mask :: reset :: rest => by
    rw [List.map_cons, List.map_cons]
    unfold pairTrailing
    rw [pairTrailing_relabel rest]
    rfl

private theorem classifyResets_relabel (stages : List Stage) :
    classifyResets (stages.map (Stage.relabel f)) = classifyResets stages := by
  unfold classifyResets
  rw [initialReset_relabel, trailing_relabel, pairTrailing_relabel, named_relabel, named_relabel, ← List.map_append,
    seqsOf_relabel]

private theorem resetErrors_relabel (stages : List Stage) :
    resetErrors (stages.map (Stage.relabel f)) = resetErrors stages := by
  unfold resetErrors
  rw [initialReset_relabel, classifyResets_relabel]

private theorem orderErrors_relabel (stages : List Stage) :
    orderErrors (stages.map (Stage.relabel f)) = orderErrors stages := by
  have hcore : actualCore (stages.map (Stage.relabel f)) = actualCore stages := by
    unfold actualCore
    rw [initialReset_relabel]
    congr 1
    apply List.filterMap_congr
    intro name _
    rw [unique_relabel, Option.map_map]
    rfl
  unfold orderErrors
  rw [hcore]

private theorem coreReturnErrors_relabel (stages : List Stage) :
    coreReturnErrors (stages.map (Stage.relabel f)) = coreReturnErrors stages := by
  unfold coreReturnErrors
  apply List.flatMap_congr
  intro name _
  rw [unique_relabel]
  cases unique stages name with
  | none => rfl
  | some stage => rfl

private theorem resetReturnErrors_relabel (stages : List Stage) :
    resetReturnErrors (stages.map (Stage.relabel f)) = resetReturnErrors stages := by
  unfold resetReturnErrors
  rw [named_relabel, named_relabel, List.flatMap_map, List.flatMap_map]
  rfl

private theorem postErrors_relabel (run : Run) : postErrors (run.relabel f) = postErrors run := by
  unfold postErrors
  have hstages : (run.relabel f).stages = run.stages.map (Stage.relabel f) := rfl
  rw [hstages, unique_relabel, unique_relabel]
  cases unique run.stages "post_entry".toList with
  | none => rfl
  | some entry =>
    cases unique run.stages "post_return".toList with
    | none => rfl
    | some returned => rfl

private theorem missedErrors_relabel (missed : List Missed) :
    missedErrors (missed.map (Missed.relabel f)) = missedErrors missed := by
  unfold missedErrors
  rw [List.flatMap_map]
  congr 1
  apply List.flatMap_congr
  intro symbol _
  rw [List.filter_map]
  have hsame : (fun item : Missed => item.symbol == symbol) ∘ Missed.relabel f = fun item => item.symbol == symbol :=
    rfl
  rw [hsame]
  generalize missed.filter (fun item => item.symbol == symbol) = found
  cases found with
  | nil => rfl
  | cons first rest =>
    cases rest with
    | nil => rfl
    | cons second rest => simp

private theorem maskObservations_relabel (stages : List Stage) :
    maskObservations (stages.map (Stage.relabel f)) = maskObservations stages := by
  have hobserve : ∀ stage : Stage, observe (stage.relabel f) = observe stage := by
    intro stage
    unfold observe
    rw [valueMap_relabel]
    rfl
  have hmap : (sortBySeq (stages.map (Stage.relabel f))).map observe = (sortBySeq stages).map observe := by
    rw [sortBySeq_relabel, List.map_map]
    apply List.map_congr_left
    intro stage _
    exact hobserve stage
  unfold maskObservations
  rw [hmap]

private theorem errorsOf_relabel (run : Run) : errorsOf (run.relabel f) = errorsOf run := by
  have hcounts : countErrors (run.relabel f) = countErrors run := by
    unfold countErrors Run.relabel
    simp
  have hseqs : seqErrors (run.relabel f).stages = seqErrors run.stages := by
    unfold seqErrors
    rw [show (run.relabel f).stages = run.stages.map (Stage.relabel f) from rfl, seqsOf_relabel]
  unfold errorsOf
  rw [hcounts, hseqs, postErrors_relabel]
  show boundaryErrors run ++ countErrors run ++ armedErrors run ++ seqErrors run.stages
    ++ stagesErrors none (run.stages.map (Stage.relabel f)) ++ nameErrors (run.stages.map (Stage.relabel f))
    ++ resetErrors (run.stages.map (Stage.relabel f)) ++ orderErrors (run.stages.map (Stage.relabel f))
    ++ coreReturnErrors (run.stages.map (Stage.relabel f)) ++ postErrors run
    ++ resetReturnErrors (run.stages.map (Stage.relabel f)) ++ missedErrors (run.missed.map (Missed.relabel f)) = _
  rw [stagesErrors_relabel, nameErrors_relabel, resetErrors_relabel, orderErrors_relabel, coreReturnErrors_relabel,
    resetReturnErrors_relabel, missedErrors_relabel]

/-- The verdict does not depend on line numbers. -/
theorem validateRun_relabel (run : Run) : validateRun (run.relabel f) = (validateRun run).relabel f := by
  unfold validateRun Verdict.relabel
  rw [errorsOf_relabel]
  have hstages : (run.relabel f).stages = run.stages.map (Stage.relabel f) := rfl
  rw [hstages, topologies_relabel, classifyResets_relabel, maskObservations_relabel]
  rfl

/-! ### Reading -/

private theorem storeValue_relabel (stages : List Stage) (value : Value) :
    Run.storeValue (stages.map (Stage.relabel f)) (value.relabel f) =
      (Run.storeValue stages value).map (Stage.relabel f) := by
  unfold Run.storeValue
  rw [List.map_map, List.map_map]
  apply List.map_congr_left
  intro stage _
  simp only [Function.comp]
  have hseq : (stage.relabel f).seq = (value.relabel f).seq ↔ stage.seq = value.seq := Iff.rfl
  by_cases h : stage.seq = value.seq
  · rw [if_pos h, if_pos (hseq.mpr h)]
    unfold Stage.relabel
    simp
  · rw [if_neg h, if_neg fun h' => h (hseq.mp h')]

private theorem addValue_relabel (run : Run) (value : Value) :
    (run.relabel f).addValue (value.relabel f) = (run.addValue value).relabel f := by
  unfold Run.addValue
  have hfilter : ((run.relabel f).stages.filter fun stage => stage.seq = (value.relabel f).seq) =
      (run.stages.filter fun stage => stage.seq = value.seq).map (Stage.relabel f) := by
    show ((run.stages.map (Stage.relabel f)).filter _) = _
    rw [List.filter_map]
    rfl
  rw [hfilter]
  have horphan : { run.relabel f with orphanValues := (run.relabel f).orphanValues ++ [value.relabel f] } =
      Run.relabel f { run with orphanValues := run.orphanValues ++ [value] } := by
    unfold Run.relabel
    simp
  cases run.stages.filter fun stage => stage.seq = value.seq with
  | nil => exact horphan
  | cons first rest =>
    cases rest with
    | cons second rest => exact horphan
    | nil =>
      show { run.relabel f with stages := Run.storeValue (run.relabel f).stages (value.relabel f) } = _
      have hstore := storeValue_relabel f run.stages value
      show { run.relabel f with stages := Run.storeValue (run.stages.map (Stage.relabel f)) (value.relabel f) } = _
      rw [hstore]
      rfl

private theorem addUnparsed_relabel (run : Run) (l : Line) (kind reason : Chars) :
    (run.relabel f).addUnparsed (Line.relabel f l) kind reason = (run.addUnparsed l kind reason).relabel f := by
  unfold Run.addUnparsed Run.relabel
  simp [Unparsed.relabel, Line.relabel]

private theorem record_relabel (py : Python) (run : Run) (l : Line) :
    (run.relabel f).record py (Line.relabel f l) = (run.record py l).relabel f := by
  have hraw : (Line.relabel f l).2 = l.2 := rfl
  unfold Run.record
  rw [hraw]
  simp only
  split
  · rw [parseStage_eq, parseStage_eq py l.1]
    cases parseStage py 0 [] (fieldsOf py l.2) with
    | ok stage =>
      show (run.relabel f).addStage _ = (run.addStage _).relabel f
      unfold Run.addStage Run.relabel
      simp [Stage.relabel, Line.relabel]
    | error reason => exact addUnparsed_relabel f run l _ _
  · split
    · rw [parseValue_eq, parseValue_eq py l.1]
      cases parseValue py 0 [] (fieldsOf py l.2) with
      | ok value => exact addValue_relabel f run { value with line := l.1, raw := l.2 }
      | error reason => exact addUnparsed_relabel f run l _ _
    · split
      · rw [parseMissed_eq, parseMissed_eq py l.1]
        cases parseMissed py 0 [] (fieldsOf py l.2) with
        | ok item =>
          show (run.relabel f).addMissed _ = (run.addMissed _).relabel f
          unfold Run.addMissed Run.relabel
          simp [Missed.relabel, Line.relabel]
        | error reason => exact addUnparsed_relabel f run l _ _
      · exact addUnparsed_relabel f run l _ _

private theorem opened_relabel (py : Python) (armedTypes : List (Chars × Int)) (l : Line) :
    Scan.opened py armedTypes (Line.relabel f l) = (Scan.opened py armedTypes l).relabel f := by
  unfold Scan.opened newRun Run.relabel
  simp [Unparsed.relabel, Line.relabel, Function.comp_def]

private theorem take_relabel (py : Python) (run : Run) (l : Line) :
    (run.relabel f).take py (Line.relabel f l) = (run.take py l).relabel f := by
  unfold Run.take
  have hend : isEnd (Line.relabel f l) = isEnd l := rfl
  have hkeep : (run.relabel f).keep (Line.relabel f l) = (run.keep l).relabel f := rfl
  rw [hend, hkeep]
  cases isEnd l with
  | true => rfl
  | false => exact record_relabel f py (run.keep l) l

/-! ### Behind another capture -/

/-- The state of the loop behind a capture with the runs `front` and the armed types `older`. -/
def Scan.behind (front : List Verdict) (older : List (Chars × Int)) (s : Scan) : Scan :=
  { runs := front ++ s.runs.map (Verdict.relabel f)
    current := s.current.map (Run.relabel f)
    armedTypes := s.armedTypes ++ older }

private theorem closed_behind (front : List Verdict) (older : List (Chars × Int)) (s : Scan) :
    (s.behind f front older).closed = front ++ s.closed.map (Verdict.relabel f) := by
  unfold Scan.closed Scan.behind
  cases s.current with
  | none => simp
  | some run => simp [validateRun_relabel]

/-- The BDF of a BEGIN line is armed among the newer entries or not at all among the older. -/
def ArmedApart (py : Python) (newer older : List (Chars × Int)) (l : Line) : Prop :=
  isBegin l = true → ∀ bdf, (fieldsOf py l.2).get "bdf" = some bdf →
    (∃ entry ∈ newer, entry.1 = bdf) ∨ ∀ entry ∈ older, entry.1 ≠ bdf

private theorem armedType_append {newer older : List (Chars × Int)} {bdf : Option Chars}
    (h : ∀ b, bdf = some b → (∃ entry ∈ newer, entry.1 = b) ∨ ∀ entry ∈ older, entry.1 ≠ b) :
    Scan.armedType (newer ++ older) bdf = Scan.armedType newer bdf := by
  unfold Scan.armedType
  cases bdf with
  | none => rfl
  | some b =>
    simp only [List.find?_append]
    cases hfind : newer.find? fun entry => entry.1 = b with
    | some entry => rfl
    | none =>
      rw [List.find?_eq_none] at hfind
      rcases h b rfl with ⟨entry, hentry, hb⟩ | hnone
      · exact absurd hb (by simpa using hfind entry hentry)
      · have : older.find? (fun entry => entry.1 = b) = none := by
          rw [List.find?_eq_none]
          intro entry hentry
          simpa using hnone entry hentry
        rw [this]
        rfl

/-- One pass of the loop behind another capture. -/
theorem step_behind (py : Python) (front : List Verdict) (older : List (Chars × Int)) (s : Scan) (l : Line)
    (harmed : looked l = true → ArmedApart py s.armedTypes older l) :
    (s.behind f front older).step py (Line.relabel f l) = (s.step py l).behind f front older := by
  have hraw : (Line.relabel f l).2 = l.2 := rfl
  cases hl : looked l with
  | false =>
    -- no prefix, or an ARMED line
    unfold looked at hl
    unfold Scan.step
    rw [hraw]
    cases hp : Text.contains PREFIX l.2 with
    | false => simp
    | true =>
      rw [hp, Bool.true_and, Bool.not_eq_false', beq_iff_eq] at hl
      simp only [Bool.not_true, Bool.false_eq_true, if_false, if_pos hl]
      unfold Scan.behind
      simp
  | true =>
    rw [Scan.step_looked py s l hl, Scan.step_looked py _ _ (show looked (Line.relabel f l) = true from hl)]
    have hbegin : isBegin (Line.relabel f l) = isBegin l := rfl
    have hend : isEnd (Line.relabel f l) = isEnd l := rfl
    rw [hbegin, hend]
    cases hb : isBegin l with
    | true =>
      rw [if_pos rfl, if_pos rfl, closed_behind]
      have htypes : Scan.opened py (s.armedTypes ++ older) l = Scan.opened py s.armedTypes l := by
        have happend : Scan.armedType (s.armedTypes ++ older) (newRun py l.1 l.2 (fieldsOf py l.2)).beginBdf =
            Scan.armedType s.armedTypes (newRun py l.1 l.2 (fieldsOf py l.2)).beginBdf :=
          armedType_append (harmed hl hb)
        unfold Scan.opened
        simp only
        rw [happend]
      unfold Scan.behind
      rw [opened_relabel, htypes]
      rfl
    | false =>
      rw [if_neg (by simp), if_neg (by simp)]
      cases hc : s.current with
      | none =>
        have hc' : (s.behind f front older).current = none := by
          unfold Scan.behind
          rw [hc]
          rfl
        rw [hc']
      | some run =>
        have hc' : (s.behind f front older).current = some (run.relabel f) := by
          unfold Scan.behind
          rw [hc]
          rfl
        rw [hc']
        simp only [take_relabel, validateRun_relabel]
        unfold Scan.behind
        cases isEnd l with
        | true => simp
        | false => simp

/-- What an ARMED line adds to the armed types. -/
def arms (py : Python) (l : Line) : Option (Chars × Int) :=
  if Text.contains PREFIX l.2 = true ∧ markerOf l.2 = "ARMED".toList then Scan.armedEntry py (fieldsOf py l.2) else none

private theorem step_armedTypes (py : Python) (s : Scan) (l : Line) :
    (s.step py l).armedTypes = (arms py l).toList ++ s.armedTypes := by
  cases hl : looked l with
  | false =>
    unfold looked at hl
    unfold Scan.step arms
    cases hp : Text.contains PREFIX l.2 with
    | false => simp
    | true =>
      rw [hp, Bool.true_and, Bool.not_eq_false', beq_iff_eq] at hl
      rw [if_neg (by simp), if_pos hl, if_pos ⟨rfl, hl⟩]
  | true =>
    have hnone : arms py l = none := by
      unfold arms
      rw [if_neg]
      rintro ⟨-, hmarker⟩
      unfold looked at hl
      simp [hmarker] at hl
    rw [Scan.step_looked py s l hl, hnone]
    cases isBegin l with
    | true => rfl
    | false =>
      cases s.current with
      | none => rfl
      | some run =>
        cases isEnd l with
        | true => rfl
        | false => rfl

private theorem foldl_armedTypes (py : Python) (ls : List Line) (s : Scan) :
    (ls.foldl (Scan.step py) s).armedTypes = (ls.filterMap (arms py)).reverse ++ s.armedTypes := by
  induction ls generalizing s with
  | nil => rfl
  | cons l ls ih =>
    rw [List.foldl_cons, ih, step_armedTypes]
    cases h : arms py l with
    | none => simp [h]
    | some entry => simp [h]

/-- The whole loop behind another capture. -/
theorem foldl_behind (py : Python) (front : List Verdict) (older : List (Chars × Int)) (ls : List Line) (s : Scan)
    (harmed : ∀ before l after, ls = before ++ l :: after → looked l = true →
      ArmedApart py ((before.filterMap (arms py)).reverse ++ s.armedTypes) older l) :
    (ls.map (Line.relabel f)).foldl (Scan.step py) (s.behind f front older) =
      (ls.foldl (Scan.step py) s).behind f front older := by
  induction ls generalizing s with
  | nil => rfl
  | cons l ls ih =>
    rw [List.map_cons, List.foldl_cons, List.foldl_cons]
    rw [step_behind f py front older s l (harmed [] l ls rfl)]
    apply ih
    intro before m after hls hm
    have hold := harmed (l :: before) m after (by rw [hls]; rfl) hm
    rw [step_armedTypes]
    cases h : arms py l with
    | none => simpa [h] using hold
    | some entry => simpa [h] using hold

end

/-! ### Texts -/

/-- Lines numbered from `n`. -/
def numberLines (n : Nat) (lines : List Chars) : List Line := (lines.zipIdx n).map fun entry => (entry.2, entry.1)

private theorem numberLines_append (n : Nat) (front back : List Chars) :
    numberLines n (front ++ back) = numberLines n front ++ numberLines (n + front.length) back := by
  unfold numberLines
  rw [List.zipIdx_append, List.map_append]

private theorem numberLines_shift (n k : Nat) (lines : List Chars) :
    numberLines (n + k) lines = (numberLines n lines).map (Line.relabel (· + k)) := by
  induction lines generalizing n with
  | nil => rfl
  | cons raw lines ih =>
    have hnext : n + k + 1 = n + 1 + k := by omega
    unfold numberLines at *
    rw [List.zipIdx_cons, List.zipIdx_cons, List.map_cons, List.map_cons, List.map_cons, hnext, ih]
    rfl

private theorem mem_numberLines {n : Nat} {lines : List Chars} {l : Line} (h : l ∈ numberLines n lines) :
    n ≤ l.1 ∧ l.1 < n + lines.length ∧ l.2 ∈ lines := by
  unfold numberLines at h
  obtain ⟨entry, hentry, rfl⟩ := List.mem_map.mp h
  obtain ⟨hlow, hhigh, hget⟩ := List.mem_zipIdx hentry
  refine ⟨hlow, by omega, ?_⟩
  show entry.1 ∈ lines
  rw [hget]
  exact List.getElem_mem _

/-- Lines without the prefix change nothing. -/
theorem foldl_skip (py : Python) (s : Scan) (ls : List Line) (h : ∀ l ∈ ls, Text.contains PREFIX l.2 = false) :
    ls.foldl (Scan.step py) s = s := by
  induction ls with
  | nil => rfl
  | cons l ls ih =>
    rw [List.forall_mem_cons] at h
    have hstep : s.step py l = s := by
      unfold Scan.step
      simp [h.1]
    rw [List.foldl_cons, hstep, ih h.2]

private theorem completeIndices_append (front back : List Verdict) :
    completeIndices (front ++ back) = completeIndices front ++ (completeIndices back).map (front.length + ·) := by
  have hshift : back.zipIdx front.length = (back.zipIdx 0).map fun entry => (entry.1, front.length + entry.2) := by
    rw [List.zipIdx_eq_map_add]
  unfold completeIndices
  rw [List.zipIdx_append, List.filter_append, List.map_append, Nat.zero_add, hshift, List.filter_map, List.map_map,
    List.map_map]
  rfl

private theorem completeIndices_relabel (f : Nat → Nat) (runs : List Verdict) :
    completeIndices (runs.map (Verdict.relabel f)) = completeIndices runs := by
  unfold completeIndices
  rw [List.zipIdx_map, List.filter_map, List.map_map]
  rfl

/-- No run of a text is open at its end. -/
def NoneOpen (py : Python) (text : Chars) : Prop := (scan py (numbered text)).current = none

/-- Every BDF of a BEGIN line of `later` is armed before in `later` or is not armed in `earlier`. -/
def BdfsApart (py : Python) (earlier later : Chars) : Prop :=
  ∀ before l after, numbered later = before ++ l :: after → looked l = true → isBegin l = true →
    ∀ bdf, (fieldsOf py l.2).get "bdf" = some bdf →
      (∃ m ∈ before, ∃ live, arms py m = some (bdf, live)) ∨
        ∀ m ∈ numbered earlier, ∀ live, arms py m ≠ some (bdf, live)

/-- The loop over a text behind another. -/
theorem scan_append {py : Python} {earlier later : Chars} (hend : earlier.getLast? = some '\n')
    (hnone : NoneOpen py earlier) (hapart : BdfsApart py earlier later) :
    scan py (numbered (earlier ++ later)) =
      (scan py (numbered later)).behind (· + (Text.splitLines earlier).length) (scan py (numbered earlier)).runs
        (scan py (numbered earlier)).armedTypes := by
  have hsplit : numbered (earlier ++ later) =
      numbered earlier ++ (numbered later).map (Line.relabel (· + (Text.splitLines earlier).length)) := by
    show numberLines 1 (Text.splitLines (earlier ++ later)) = _
    rw [Text.splitLines_append hend, numberLines_append, numberLines_shift]
    rfl
  have htypes : (scan py (numbered earlier)).armedTypes = ((numbered earlier).filterMap (arms py)).reverse := by
    unfold scan
    rw [foldl_armedTypes, List.append_nil]
  -- with no open run the scan stands where a fresh one would, behind the finished runs
  have hstart : scan py (numbered earlier) =
      Scan.behind (· + (Text.splitLines earlier).length) (scan py (numbered earlier)).runs
        (scan py (numbered earlier)).armedTypes {} := by
    unfold Scan.behind
    simp only [List.map_nil, List.append_nil, Option.map_none, List.nil_append]
    rw [← hnone]
  have hloop := foldl_behind (· + (Text.splitLines earlier).length) py (scan py (numbered earlier)).runs
    (scan py (numbered earlier)).armedTypes (numbered later) {} (by
      intro before l after hls hl hb bdf hbdf
      rw [htypes, List.append_nil]
      rcases hapart before l after hls hl hb bdf hbdf with ⟨m, hm, live, harms⟩ | hnot
      · left
        exact ⟨(bdf, live), List.mem_reverse.mpr (List.mem_filterMap.mpr ⟨m, hm, harms⟩), rfl⟩
      · right
        rintro ⟨b, live⟩ hentry rfl
        obtain ⟨m, hm, harms⟩ := List.mem_filterMap.mp (List.mem_reverse.mp hentry)
        exact hnot m hm live harms)
  show (numbered (earlier ++ later)).foldl (Scan.step py) {} = _
  rw [hsplit, List.foldl_append]
  show ((numbered later).map _).foldl (Scan.step py) (scan py (numbered earlier)) = _
  -- only the start state, not the text it was read from
  conv_lhs => rw [hstart]
  exact hloop

/-- The runs of a text without open runs are the finished ones. -/
theorem closed_of_noneOpen {s : Scan} (h : s.current = none) : s.closed = s.runs := by
  unfold Scan.closed
  rw [h]
  simp

/-- A capture behind another keeps its runs, and its latest complete run comes first. -/
theorem parseCapture_append {py : Python} {earlier later : Chars} (hend : earlier.getLast? = some '\n')
    (hnone : NoneOpen py earlier) (hapart : BdfsApart py earlier later) :
    parseCapture py (earlier ++ later) =
      { runCount := (parseCapture py earlier).runCount + (parseCapture py later).runCount
        latestCompleteRunIndex :=
          ((parseCapture py later).latestCompleteRunIndex.map ((parseCapture py earlier).runCount + ·)).or
            (parseCapture py earlier).latestCompleteRunIndex
        runs := (parseCapture py earlier).runs ++
          (parseCapture py later).runs.map (Verdict.relabel (· + (Text.splitLines earlier).length)) } := by
  have hclosed : (scan py (numbered earlier)).runs = (scan py (numbered earlier)).closed :=
    (closed_of_noneOpen hnone).symm
  unfold parseCapture
  rw [scan_append hend hnone hapart, closed_behind, hclosed]
  unfold capture
  simp only [Capture.mk.injEq]
  refine ⟨by simp, ?_, trivial⟩
  rw [completeIndices_append, completeIndices_relabel, List.getLast?_append, List.getLast?_map]

/-- Lines without the prefix only move the numbers of the lines behind them. -/
theorem parseCapture_insert {py : Python} {text other : Chars} {front inserted back : List Chars}
    (htext : Text.splitLines text = front ++ back) (hother : Text.splitLines other = front ++ inserted ++ back)
    (hinserted : ∀ raw ∈ inserted, Text.contains PREFIX raw = false) :
    parseCapture py other =
      (parseCapture py text).relabel fun n => if n ≤ front.length then n else n + inserted.length := by
  generalize hf : (fun n => if n ≤ front.length then n else n + inserted.length) = f
  have hfront : (numberLines 1 front).map (Line.relabel f) = numberLines 1 front := by
    conv_rhs => rw [← List.map_id (numberLines 1 front)]
    apply List.map_congr_left
    intro l hl
    have hle : l.1 ≤ front.length := by
      have := (mem_numberLines hl).2.1
      omega
    unfold Line.relabel
    rw [← hf]
    simp [hle]
  have hback : (numberLines (1 + front.length) back).map (Line.relabel f) =
      numberLines (1 + front.length + inserted.length) back := by
    rw [numberLines_shift (1 + front.length) inserted.length]
    apply List.map_congr_left
    intro l hl
    have hgt : ¬l.1 ≤ front.length := by
      have := (mem_numberLines hl).1
      omega
    unfold Line.relabel
    rw [← hf]
    simp [hgt]
  have hscan : scan py (numbered other) = (scan py (numbered text)).behind f [] [] := by
    have hempty : ({} : Scan) = Scan.behind f [] [] {} := rfl
    have hloop := foldl_behind f py [] [] (numbered text) {} (by
      intro before l after _ _ _ bdf _
      right
      intro entry hentry
      exact absurd hentry List.not_mem_nil)
    unfold scan
    rw [← hloop, ← hempty]
    show (numberLines 1 (Text.splitLines other)).foldl (Scan.step py) {} =
      ((numberLines 1 (Text.splitLines text)).map (Line.relabel f)).foldl (Scan.step py) {}
    rw [hother, htext, numberLines_append, numberLines_append, numberLines_append, List.map_append, hfront, hback,
      List.foldl_append, List.foldl_append, List.foldl_append]
    -- the inserted lines leave the scan as it is
    rw [foldl_skip py _ (numberLines (1 + front.length) inserted)]
    · rw [List.length_append, Nat.add_assoc]
    · intro l hl
      exact hinserted l.2 (mem_numberLines hl).2.2
  unfold parseCapture
  rw [hscan, closed_behind]
  unfold capture Capture.relabel
  simp [completeIndices_relabel]

/-- Two captures one behind the other, and lines without the prefix. -/
theorem capture_append_insert (py : Python) :
    (∀ earlier later : Chars, earlier.getLast? = some '\n' → NoneOpen py earlier → BdfsApart py earlier later →
      parseCapture py (earlier ++ later) =
        { runCount := (parseCapture py earlier).runCount + (parseCapture py later).runCount
          latestCompleteRunIndex :=
            ((parseCapture py later).latestCompleteRunIndex.map ((parseCapture py earlier).runCount + ·)).or
              (parseCapture py earlier).latestCompleteRunIndex
          runs := (parseCapture py earlier).runs ++
            (parseCapture py later).runs.map (Verdict.relabel (· + (Text.splitLines earlier).length)) }) ∧
    ∀ (text other : Chars) (front inserted back : List Chars), Text.splitLines text = front ++ back →
      Text.splitLines other = front ++ inserted ++ back →
      (∀ raw ∈ inserted, Text.contains PREFIX raw = false) →
      parseCapture py other =
        (parseCapture py text).relabel fun n => if n ≤ front.length then n else n + inserted.length := by
  constructor
  · intro earlier later hend hnone hapart
    exact parseCapture_append hend hnone hapart
  · intro text other front inserted back htext hother hinserted
    exact parseCapture_insert htext hother hinserted

/-! ### Armed captures -/

/-- The BDF of this line, if it has one, is armed by the lines before it or not armed in `earlier`. -/
def ApartAt (py : Python) (earlier before : List Line) (l : Line) : Prop :=
  ∀ bdf ∈ (fieldsOf py l.2).get "bdf",
    (∃ m ∈ before, ∃ entry ∈ arms py m, entry.1 = bdf) ∨ ∀ m ∈ earlier, ∀ entry ∈ arms py m, entry.1 ≠ bdf

instance (py : Python) (earlier before : List Line) (l : Line) : Decidable (ApartAt py earlier before l) :=
  inferInstanceAs (Decidable (∀ bdf ∈ (fieldsOf py l.2).get "bdf",
    (∃ m ∈ before, ∃ entry ∈ arms py m, entry.1 = bdf) ∨ ∀ m ∈ earlier, ∀ entry ∈ arms py m, entry.1 ≠ bdf))

/-- `BdfsApart`, line by line. -/
theorem bdfsApart_iff {py : Python} {earlier later : Chars} :
    BdfsApart py earlier later ↔ ∀ i : Fin (numbered later).length,
      looked (numbered later)[i] = true → isBegin (numbered later)[i] = true →
        ApartAt py (numbered earlier) ((numbered later).take i) (numbered later)[i] := by
  constructor
  · intro h i hlooked hbegin bdf hbdf
    -- the line is where the lines before it end
    have hsplit : numbered later = (numbered later).take i ++ (numbered later)[i] :: (numbered later).drop (i + 1) := by
      rw [Fin.getElem_fin, ← List.drop_eq_getElem_cons, List.take_append_drop]
    rcases h _ _ _ hsplit hlooked hbegin bdf hbdf with ⟨m, hm, live, harms⟩ | hnone
    · exact .inl ⟨m, hm, (bdf, live), harms, rfl⟩
    · refine .inr fun m hm entry hentry hsame => hnone m hm entry.2 ?_
      rw [← hsame]
      exact hentry
  · intro h before l after hsplit hlooked hbegin bdf hbdf
    have hlt : before.length < (numbered later).length := by
      rw [hsplit]
      simp
    have hat : (numbered later)[before.length] = l := by simp [hsplit]
    have htake : (numbered later).take before.length = before := by simp [hsplit]
    have hline := h ⟨before.length, hlt⟩
    simp only [Fin.getElem_fin, hat, htake] at hline
    rcases hline hlooked hbegin bdf hbdf with ⟨m, hm, entry, harms, hsame⟩ | hnone
    · refine .inl ⟨m, hm, entry.2, ?_⟩
      rw [← hsame]
      exact harms
    · exact .inr fun m hm live harms => hnone m hm (bdf, live) harms rfl

instance (py : Python) (earlier later : Chars) : Decidable (BdfsApart py earlier later) :=
  decidable_of_iff _ bdfsApart_iff.symm

/-- A line of the collector. -/
def recordLine (words : List String) : Chars :=
  "cmp100_stage_ro".toList ++ words.flatMap (fun w => ' ' :: w.toList) ++ ['\n']

def stageRecord : Chars :=
  recordLine ["STAGE", "seq=0", "name=post_entry", "start_ns=0", "end_ns=0", "pid=1", "post=0", "invalid=0", "rc=0"]

/-- One armed run with a stage and a value. -/
def armedText : Chars :=
  recordLine ["ARMED", "bdf=0", "live_gr_type=34"] ++ (recordLine ["BEGIN", "bdf=0", "dropped=0", "records=1"] ++
    stageRecord ++ recordLine ["VALUE", "seq=0", "reg=512", "value=4096"] ++ recordLine ["END", "bdf=0"])

/-- The same run with a message of the kernel between its first two lines. -/
def probedText : Chars :=
  recordLine ["ARMED", "bdf=0", "live_gr_type=34"] ++ "nouveau: probe\n".toList ++
    (recordLine ["BEGIN", "bdf=0", "dropped=0", "records=1"] ++
      stageRecord ++ recordLine ["VALUE", "seq=0", "reg=512", "value=4096"] ++ recordLine ["END", "bdf=0"])

/-- The same device, armed again with another type, and an open run of a second device. -/
def rearmedText : Chars :=
  recordLine ["ARMED", "bdf=0", "live_gr_type=33"] ++ recordLine ["BEGIN", "bdf=0"] ++ recordLine ["END", "bdf=0"] ++
    recordLine ["BEGIN", "bdf=1"]

/-- Behind each other the two captures have their own types; the message moves the lines behind it. -/
theorem capture_append_insert_armed :
    ((parseCapture asciiPython (armedText ++ rearmedText)).runCount = 3 ∧
      (parseCapture asciiPython (armedText ++ rearmedText)).latestCompleteRunIndex = some 1 ∧
      (parseCapture asciiPython (armedText ++ rearmedText)).runs.map (·.run.armedLiveGrType) =
        [some 34, some 33, none]) ∧
      parseCapture asciiPython probedText =
        (parseCapture asciiPython armedText).relabel fun n => if n ≤ 1 then n else n + 1 := by
  constructor
  · have hnone : NoneOpen asciiPython armedText := by
      unfold NoneOpen
      decide +kernel
    rw [(capture_append_insert asciiPython).1 armedText rearmedText (by decide +kernel) hnone (by decide +kernel)]
    decide +kernel
  · exact
      (capture_append_insert asciiPython).2 armedText probedText ["cmp100_stage_ro ARMED bdf=0 live_gr_type=34".toList]
      ["nouveau: probe".toList] ((Text.splitLines armedText).drop 1) (by decide +kernel) (by decide +kernel)
      (by decide +kernel)

end CmpUnlocker.Stages
