import CmpUnlocker.Stages.Printed
import CmpUnlocker.Stages.Represented
import CmpUnlocker.Stages.Sequence

/-!
# Valid runs

The runs with an empty list of errors.  `valid_iff` characterises them for stages of any names; where all names are of
`CORE_SEQUENCE`, `valid_iff_wellFormed` says the same in terms of the lines of the run.
-/

namespace CmpUnlocker.Stages

open Keyed (Strict)

/-! ### The checks without the stages -/

private theorem boundaryErrors_eq_nil (run : Run) :
    boundaryErrors run = [] ↔
      run.delimiterComplete = true ∧ ∃ bdf, bdf ≠ [] ∧ run.beginBdf = some bdf ∧ run.endBdf = some bdf := by
  unfold boundaryErrors
  simp only [List.append_eq_nil_iff, reportIf_eq_nil, Bool.not_eq_false']
  constructor
  · rintro ⟨⟨hcomplete, hbdf⟩, hsame⟩
    refine ⟨hcomplete, ?_⟩
    rw [hcomplete, Bool.true_and, bne_eq_false_iff_eq] at hsame
    cases hb : run.beginBdf with
    | none => rw [hb] at hbdf; exact absurd hbdf (by simp)
    | some bdf =>
      rw [hb] at hbdf hsame
      exact ⟨bdf, by simpa using hbdf, rfl, hsame.symm⟩
  · rintro ⟨hcomplete, bdf, hne, hb, he⟩
    rw [hcomplete, hb, he]
    simpa using hne

/-- The values of `pmu_present` that are accepted. -/
def PmuPresent (pmu : Option Int) : Prop := pmu = none ∨ pmu = some (-1) ∨ pmu = some 0 ∨ pmu = some 1

private theorem countErrors_eq_nil (run : Run) :
    countErrors run = [] ↔
      run.declaredRecords = some (run.stages.length : Int) ∧ run.dropped = some 0 ∧ PmuPresent run.pmuPresent ∧
        run.unparsedLines = [] ∧ run.orphanValues = [] := by
  unfold countErrors PmuPresent
  simp only [List.append_eq_nil_iff, reportIf_eq_nil, Bool.not_eq_false', List.isEmpty_iff, List.contains_iff_mem]
  cases hrecords : run.declaredRecords with
  | none => simp
  | some declared =>
    cases hdropped : run.dropped with
    | none => simp
    | some dropped => simp [and_assoc]

private theorem armedErrors_eq_nil (run : Run) :
    armedErrors run = [] ↔ run.armedLiveGrType = none ∨ run.armedLiveGrType = some expectedLiveGrType := by
  unfold armedErrors
  cases run.armedLiveGrType with
  | none => simp
  | some observed => simp

/-- The five symbols are counted once each, and nothing was missed. -/
structure CountersClear (missed : List Missed) : Prop where
  once : ∀ symbol ∈ MISSED_SYMBOLS, ∃ item, (missed.filter fun item => item.symbol == symbol) = [item]
  clear : ∀ item ∈ missed, item.nmissed = 0

private theorem missedErrors_eq_nil (missed : List Missed) : missedErrors missed = [] ↔ CountersClear missed := by
  unfold missedErrors
  rw [List.append_eq_nil_iff, List.flatMap_eq_nil_iff, List.flatMap_eq_nil_iff]
  constructor
  · rintro ⟨hclear, honce⟩
    constructor
    · intro symbol hsymbol
      have hnil := honce symbol hsymbol
      cases hfound : missed.filter fun item => item.symbol == symbol with
      | nil => rw [hfound] at hnil; exact absurd hnil (by simp)
      | cons first rest =>
        cases rest with
        | nil => exact ⟨first, rfl⟩
        | cons second rest => rw [hfound] at hnil; exact absurd hnil (by simp)
    · intro item hitem
      simpa using hclear item hitem
  · rintro ⟨honce, hclear⟩
    refine ⟨?_, ?_⟩
    · intro item hitem
      simp [hclear item hitem]
    · intro symbol hsymbol
      obtain ⟨item, hitem⟩ := honce symbol hsymbol
      rw [hitem]

/-! ### Seqs -/

private theorem contiguous_strict (n : Nat) : (contiguous n).Pairwise (· < ·) := by
  unfold contiguous
  rw [List.pairwise_map]
  exact List.pairwise_lt_range.imp fun h => by omega

/-- Contiguous seqs are in order. -/
theorem strict_of_contiguous {stages : List Stage} (h : seqsOf stages = contiguous stages.length) :
    Strict (·.seq) stages := by
  have hpair : (seqsOf stages).Pairwise (· < ·) := h ▸ contiguous_strict _
  exact List.pairwise_map.mp hpair

private theorem seqErrors_eq_nil (stages : List Stage) :
    seqErrors stages = [] ↔ seqsOf stages = contiguous stages.length := by
  unfold seqErrors
  simp only [List.append_eq_nil_iff, reportIf_eq_nil, bne_eq_false_iff_eq]
  have hlength : (seqsOf stages).length = stages.length := List.length_map _
  rw [hlength]
  constructor
  · exact fun h => h.2
  · intro h
    refine ⟨?_, h⟩
    have hnodup : (seqsOf stages).Nodup := by
      rw [h]
      exact (contiguous_strict _).imp fun hlt => hlt.ne
    simpa using hnodup

/-! ### Return codes and POST -/

/-- The return codes of the nine names. -/
structure ReturnCodes (stages : List Stage) : Prop where
  core : ∀ stage ∈ stages, stage.name ∈ NONRESET_SEQUENCE → stage.rc = 0
  mask : ∀ stage ∈ stages, stage.name = maskReturn → stage.rc = 0x1000
  reset : ∀ stage ∈ stages, stage.name = resetReturn → stage.rc = 0

private theorem returnErrors_eq_nil {stages : List Stage} (hn : nameErrors stages = []) :
    coreReturnErrors stages = [] ∧ resetReturnErrors stages = [] ↔ ReturnCodes stages := by
  have hcore : coreReturnErrors stages = [] ↔ ∀ stage ∈ stages, stage.name ∈ NONRESET_SEQUENCE → stage.rc = 0 := by
    unfold coreReturnErrors returnFault
    rw [List.flatMap_eq_nil_iff]
    constructor
    · intro h stage hstage hname
      obtain ⟨only, honly⟩ := (nameErrors_eq_nil stages).mp hn _ hname
      have hnil := h _ hname
      rw [honly, ← (unique_spec honly).2.2 stage hstage rfl] at hnil
      simpa using hnil
    · intro h name hname
      obtain ⟨only, honly⟩ := (nameErrors_eq_nil stages).mp hn _ hname
      obtain ⟨hin, hon, -⟩ := unique_spec honly
      rw [honly]
      simpa using h only hin (hon ▸ hname)
  have hreset : resetReturnErrors stages = [] ↔
      (∀ stage ∈ stages, stage.name = maskReturn → stage.rc = 0x1000) ∧
        ∀ stage ∈ stages, stage.name = resetReturn → stage.rc = 0 := by
    unfold resetReturnErrors returnFault
    rw [List.append_eq_nil_iff, List.flatMap_eq_nil_iff, List.flatMap_eq_nil_iff]
    simp only [mem_named, reportIf_eq_nil, bne_eq_false_iff_eq, and_imp]
  rw [hcore, hreset]
  constructor
  · rintro ⟨hc, hm, hr⟩
    exact ⟨hc, hm, hr⟩
  · rintro ⟨hc, hm, hr⟩
    exact ⟨hc, hm, hr⟩

/-- Both POST values are one boolean, which is 1 only with a PMU. -/
def PostAgrees (run : Run) : Prop :=
  ∃ value : Int, (value = 0 ∨ value = 1) ∧ (value = 1 → run.pmuPresent = some 1) ∧
    ∀ stage ∈ run.stages, stage.name = "post_entry".toList ∨ stage.name = "post_return".toList → stage.post = value

private theorem postErrors_eq_nil {run : Run} (hn : nameErrors run.stages = []) :
    postErrors run = [] ↔ PostAgrees run := by
  obtain ⟨entry, hentry⟩ := (nameErrors_eq_nil run.stages).mp hn "post_entry".toList (by decide)
  obtain ⟨returned, hreturned⟩ := (nameErrors_eq_nil run.stages).mp hn "post_return".toList (by decide)
  obtain ⟨hein, hename, heonly⟩ := unique_spec hentry
  obtain ⟨hrin, hrname, hronly⟩ := unique_spec hreturned
  unfold postErrors postValueErrors
  rw [hentry, hreturned]
  simp only [List.append_eq_nil_iff, reportIf_eq_nil, Bool.not_eq_false', Bool.or_eq_true, beq_iff_eq,
    bne_eq_false_iff_eq, Bool.and_eq_false_iff, Bool.or_eq_false_iff, beq_eq_false_iff_ne]
  constructor
  · rintro ⟨⟨⟨hbool, -⟩, hsame⟩, hpmu⟩
    refine ⟨entry.post, hbool, ?_, ?_⟩
    · intro hone
      rcases hpmu with ⟨hne, -⟩ | hpmu
      · exact absurd hone hne
      · exact hpmu
    · rintro stage hstage (hname | hname)
      · rw [heonly stage hstage hname]
      · rw [hronly stage hstage hname, hsame]
  · rintro ⟨value, hbool, hpmu, hall⟩
    rw [hall entry hein (Or.inl hename), hall returned hrin (Or.inr hrname)]
    refine ⟨⟨⟨hbool, hbool⟩, rfl⟩, ?_⟩
    by_cases hone : value = 1
    · exact Or.inr (hpmu hone)
    · exact Or.inl ⟨hone, hone⟩

/-! ### The whole run -/

/-- The runs `_validate_run` reports valid, whatever the names of their stages. -/
structure Admitted (run : Run) : Prop where
  complete : run.delimiterComplete = true
  bdf : ∃ bdf, bdf ≠ [] ∧ run.beginBdf = some bdf ∧ run.endBdf = some bdf
  records : run.declaredRecords = some (run.stages.length : Int)
  dropped : run.dropped = some 0
  pmu : PmuPresent run.pmuPresent
  parsed : run.unparsedLines = []
  owned : run.orphanValues = []
  armed : run.armedLiveGrType = none ∨ run.armedLiveGrType = some expectedLiveGrType
  seqs : seqsOf run.stages = contiguous run.stages.length
  sound : ∀ stage ∈ run.stages, stage.Sound
  starts : (run.stages.map (·.startNs)).Pairwise (· ≤ ·)
  accepted : Accepted run.stages
  codes : ReturnCodes run.stages
  post : PostAgrees run
  counters : CountersClear run.missed

private theorem startsAscend_none (stages : List Stage) :
    StartsAscend none stages ↔ (stages.map (·.startNs)).Pairwise (· ≤ ·) := by
  rw [startsAscend_iff]
  constructor
  · exact fun h => h.2
  · intro h
    refine ⟨?_, h⟩
    intro stage _ previous hprevious
    exact absurd hprevious (by simp)

/-- The valid runs. -/
theorem valid_iff (run : Run) : (validateRun run).valid = true ↔ Admitted run := by
  unfold Verdict.valid validateRun errorsOf
  simp only [List.isEmpty_iff, List.append_eq_nil_iff, boundaryErrors_eq_nil, countErrors_eq_nil, armedErrors_eq_nil,
    seqErrors_eq_nil, stagesErrors_eq_nil, startsAscend_none, missedErrors_eq_nil]
  constructor
  · rintro ⟨⟨⟨⟨⟨⟨⟨⟨⟨⟨⟨⟨hcomplete, hbdf⟩, hrecords, hdropped, hpmu, hparsed, howned⟩, harmed⟩, hseqs⟩, hsound, hstarts⟩,
      hn⟩, hr⟩, ho⟩, hcodes⟩, hpost⟩, hcodes'⟩, hmissed⟩
    exact ⟨hcomplete, hbdf, hrecords, hdropped, hpmu, hparsed, howned, harmed, hseqs, hsound, hstarts,
      (sequence_noErrors_iff (strict_of_contiguous hseqs)).mp ⟨hn, hr, ho⟩,
      (returnErrors_eq_nil hn).mp ⟨hcodes, hcodes'⟩, (postErrors_eq_nil hn).mp hpost, hmissed⟩
  · intro h
    obtain ⟨hn, hr, ho⟩ := (sequence_noErrors_iff (strict_of_contiguous h.seqs)).mpr h.accepted
    obtain ⟨hcodes, hcodes'⟩ := (returnErrors_eq_nil hn).mpr h.codes
    exact ⟨⟨⟨⟨⟨⟨⟨⟨⟨⟨⟨⟨h.complete, h.bdf⟩, h.records, h.dropped, h.pmu, h.parsed, h.owned⟩, h.armed⟩, h.seqs⟩, h.sound,
      h.starts⟩, hn⟩, hr⟩, ho⟩, hcodes⟩, (postErrors_eq_nil hn).mpr h.post⟩, hcodes'⟩, h.counters⟩

/-! ### Runs of the nine names -/

/-- A run of the lines `ls` behind its BEGIN line `b`, as the decoder's users may expect it. -/
structure WellFormed (py : Python) (b : Line) (ls : List Line) (run : Run) : Prop where
  closed : ∃ bdf, bdf ≠ [] ∧ (fieldsOf py b.2).get "bdf" = some bdf ∧
    ∃ l ∈ ls, isEnd l = true ∧ (fieldsOf py l.2).get "bdf" = some bdf
  records : run.declaredRecords = some ((readStages py ls).length : Int)
  dropped : run.dropped = some 0
  pmu : PmuPresent run.pmuPresent
  readable : begunPlaces py b = [] ∧ ∀ l ∈ ls, Readable py l ∨ isEnd l = true
  owned : Owned py ls
  armed : run.armedLiveGrType = none ∨ run.armedLiveGrType = some expectedLiveGrType
  seqs : seqsOf run.stages = contiguous run.stages.length
  times : ∀ stage ∈ run.stages, stage.startNs ≤ stage.endNs
  starts : (run.stages.map (·.startNs)).Pairwise (· ≤ ·)
  invalid : ∀ stage ∈ run.stages, stage.invalid = 0
  physical : ∀ stage ∈ run.stages, ∀ reg ∈ PHYSICAL_REGS, stage.Has reg
  distinct : ∀ stage ∈ run.stages, stage.Distinct
  notAllOnes : ∀ stage ∈ run.stages, ∀ item ∈ stage.values, item.value ≠ 0xFFFFFFFF
  unsafeStage : ∀ stage ∈ run.stages, stage.name ∉ LOGICAL_STAGES → ∀ item ∈ stage.values, isLogicalReg item.reg = false
  logical : ∀ stage ∈ run.stages, stage.name ∈ LOGICAL_STAGES → ∃ pmc count, stage.Topological pmc count
  names : ∃ k, namesOf run.stages = CORE_SEQUENCE ++ resetPairs k
  codes : ∀ stage ∈ run.stages, stage.rc = if stage.name = maskReturn then 0x1000 else 0
  post : PostAgrees run
  counters : CountersClear run.missed

private theorem resetPairs_next {k i : Nat} (h : (resetPairs k)[i]? = some maskReturn) :
    (resetPairs k)[i + 1]? = some resetReturn := by
  induction k generalizing i with
  | zero => exact absurd h (by simp [resetPairs])
  | succ k ih =>
    have hpairs : resetPairs (k + 1) = maskReturn :: resetReturn :: resetPairs k := rfl
    rw [hpairs] at h ⊢
    match i with
    | 0 => rfl
    | 1 => exact absurd (Option.some.inj h).symm mask_ne_reset
    | i + 2 => exact ih h

private theorem core_mask : ∀ i < 9, CORE_SEQUENCE[i]? = some maskReturn → i = 3 := by decide

/-- In the well-formed names a mask return is directly followed by a reset return. -/
theorem names_next {k i : Nat} (h : (CORE_SEQUENCE ++ resetPairs k)[i]? = some maskReturn) :
    (CORE_SEQUENCE ++ resetPairs k)[i + 1]? = some resetReturn := by
  have hlength : CORE_SEQUENCE.length = 9 := by decide
  by_cases hi : i < 9
  · rw [List.getElem?_append_left (by omega)] at h
    obtain rfl := core_mask i hi h
    rfl
  · rw [List.getElem?_append_right (by omega)] at h ⊢
    have hnext : i + 1 - CORE_SEQUENCE.length = i - CORE_SEQUENCE.length + 1 := by omega
    rw [hnext]
    exact resetPairs_next h

/-- With contiguous seqs the seq of a stage is its position. -/
theorem seq_of_index {stages : List Stage} (hseqs : seqsOf stages = contiguous stages.length) {i : Nat} {stage : Stage}
    (h : stages[i]? = some stage) : stage.seq = i := by
  have hseq : (seqsOf stages)[i]? = some stage.seq := by
    unfold seqsOf
    rw [List.getElem?_map, h]
    rfl
  rw [hseqs] at hseq
  unfold contiguous at hseq
  rw [List.getElem?_map, Option.map_eq_some_iff] at hseq
  obtain ⟨j, hj, hseq⟩ := hseq
  obtain ⟨hi, hij⟩ := List.getElem?_eq_some_iff.mp hj
  rw [List.getElem_range] at hij
  omega

/-- The accepted sequences of the nine names. -/
theorem accepted_iff_names {stages : List Stage} (hseqs : seqsOf stages = contiguous stages.length)
    (hcore : ∀ stage ∈ stages, stage.name ∈ CORE_SEQUENCE) :
    Accepted stages ↔ ∃ k, namesOf stages = CORE_SEQUENCE ++ resetPairs k := by
  have hall : coreStages stages = stages := by
    unfold coreStages
    rw [List.filter_eq_self]
    intro stage hstage
    exact List.contains_iff_mem.mpr (hcore stage hstage)
  constructor
  · intro h
    obtain ⟨k, hk⟩ := h.core
    exact ⟨k, hall ▸ hk⟩
  · rintro ⟨k, hk⟩
    refine ⟨⟨k, by rw [hall, hk]⟩, ?_⟩
    intro mask hmask hname
    obtain ⟨i, hi⟩ := List.mem_iff_getElem?.mp hmask
    have hnames : (namesOf stages)[i]? = some maskReturn := by
      unfold namesOf
      rw [List.getElem?_map, hi, ← hname]
      rfl
    rw [hk] at hnames
    have hnext := names_next hnames
    rw [← hk] at hnext
    unfold namesOf at hnext
    rw [List.getElem?_map, Option.map_eq_some_iff] at hnext
    obtain ⟨reset, hreset, hresetName⟩ := hnext
    refine ⟨reset, List.mem_of_getElem? hreset, hresetName, ?_⟩
    rw [seq_of_index hseqs hreset, seq_of_index hseqs hi]
    omega

/-- Return codes of the nine names. -/
theorem codes_iff {stages : List Stage} (hcore : ∀ stage ∈ stages, stage.name ∈ CORE_SEQUENCE) :
    ReturnCodes stages ↔ ∀ stage ∈ stages, stage.rc = if stage.name = maskReturn then 0x1000 else 0 := by
  constructor
  · intro h stage hstage
    by_cases hm : stage.name = maskReturn
    · rw [if_pos hm, h.mask stage hstage hm]
    · rw [if_neg hm]
      by_cases hr : stage.name = resetReturn
      · exact h.reset stage hstage hr
      · exact h.core stage hstage ((mem_nonreset _).mpr ⟨hcore stage hstage, hm, hr⟩)
  · intro h
    constructor
    · intro stage hstage hname
      rw [h stage hstage, if_neg ((mem_nonreset _).mp hname).2.1]
    · intro stage hstage hname
      rw [h stage hstage, if_pos hname]
    · intro stage hstage hname
      rw [h stage hstage, if_neg (by rw [hname]; exact mask_ne_reset.symm)]

/-- The boundaries of a run, in terms of its BEGIN and END lines. -/
theorem boundaries_of_read {py : Python} {ls : List Line} {segment : Line × List Line} {v : Verdict}
    (hsegment : segment ∈ segments ls) (h : ReadFrom py segment v) :
    (v.run.delimiterComplete = true ∧ ∃ bdf, bdf ≠ [] ∧ v.run.beginBdf = some bdf ∧ v.run.endBdf = some bdf) ↔
      ∃ bdf, bdf ≠ [] ∧ (fieldsOf py segment.1.2).get "bdf" = some bdf ∧
        ∃ l ∈ segment.2, isEnd l = true ∧ (fieldsOf py l.2).get "bdf" = some bdf := by
  have hunique : ∀ l ∈ segment.2, ∀ m ∈ segment.2, isEnd l = true → isEnd m = true → l = m := by
    obtain ⟨-, body, final, hls, hbody, hfinal⟩ := segment_shape hsegment
    rw [hls]
    rcases hfinal with rfl | ⟨last, rfl, -⟩
    · intro l hl m _ hend _
      rw [List.append_nil] at hl
      rw [(hbody l hl).2] at hend
      exact absurd hend (by simp)
    · have hlast : ∀ l ∈ body ++ [last], isEnd l = true → l = last := by
        intro l hl hend
        rcases List.mem_append.mp hl with hl | hl
        · rw [(hbody l hl).2] at hend
          exact absurd hend (by simp)
        · exact List.mem_singleton.mp hl
      intro l hl m hm hl' hm'
      rw [hlast l hl hl', hlast m hm hm']
  obtain ⟨armedTypes, -, ⟨hnone, hframe⟩ | ⟨l, hl, hend, hframe⟩⟩ := frame_of_read hsegment h
  · -- an unfinished run
    have hcomplete : v.run.delimiterComplete = false := congrArg Run.delimiterComplete hframe
    constructor
    · rintro ⟨htrue, -⟩
      rw [hcomplete] at htrue
      exact absurd htrue (by simp)
    · rintro ⟨bdf, -, -, l, hl, hend, -⟩
      rw [hnone l hl] at hend
      exact absurd hend (by simp)
  · have hcomplete : v.run.delimiterComplete = true := congrArg Run.delimiterComplete hframe
    have hbegin : v.run.beginBdf = (fieldsOf py segment.1.2).get "bdf" := congrArg Run.beginBdf hframe
    have hendBdf : v.run.endBdf = (fieldsOf py l.2).get "bdf" := congrArg Run.endBdf hframe
    rw [hcomplete, hbegin, hendBdf]
    constructor
    · rintro ⟨-, bdf, hne, hb, he⟩
      exact ⟨bdf, hne, hb, l, hl, hend, he⟩
    · rintro ⟨bdf, hne, hb, m, hm, hmend, he⟩
      rw [hunique m hm l hl hmend hend] at he
      exact ⟨rfl, bdf, hne, hb, he⟩

/-- A run whose stages have names of `CORE_SEQUENCE` is valid exactly when it is well formed. -/
theorem valid_iff_wellFormed (py : Python) (text : Chars) :
    List.Forall₂ (fun segment v =>
        (∀ stage ∈ v.run.stages, stage.name ∈ CORE_SEQUENCE) →
          (v.valid = true ↔ WellFormed py segment.1 segment.2 v.run))
      (segments (marked text)) (parseCapture py text).runs := by
  have hruns := runs_read py text
  rw [List.forall₂_iff_get] at hruns ⊢
  refine ⟨hruns.1, ?_⟩
  intro i hi hi' hcore
  have hread := hruns.2 i hi hi'
  generalize hv : (parseCapture py text).runs.get ⟨i, hi'⟩ = v at hread hcore
  generalize hsegment : (segments (marked text)).get ⟨i, hi⟩ = segment at hread
  have hmem : segment ∈ segments (marked text) := hsegment ▸ List.get_mem _ _
  have hlines := fromLines_of_read hmem hread
  have hbounds := boundaries_of_read hmem hread
  have hcount : (readStages py segment.2).length = v.run.stages.length := by
    rw [← hlines.stages, List.length_map]
  obtain ⟨-, hverdict, -⟩ := frame_of_read hmem hread
  rw [hverdict, valid_iff]
  show Admitted v.run ↔ WellFormed py segment.1 segment.2 v.run
  constructor
  · intro h
    exact {
      closed := hbounds.mp ⟨h.complete, h.bdf⟩
      records := hcount ▸ h.records
      dropped := h.dropped
      pmu := h.pmu
      readable := hlines.parsed.mp h.parsed
      owned := hlines.orphans.mp h.owned
      armed := h.armed
      seqs := h.seqs
      times := fun stage hstage => (h.sound stage hstage).time
      starts := h.starts
      invalid := fun stage hstage => (h.sound stage hstage).invalid
      physical := fun stage hstage => (h.sound stage hstage).physical
      distinct := fun stage hstage => (h.sound stage hstage).distinct
      notAllOnes := fun stage hstage => (h.sound stage hstage).notAllOnes
      unsafeStage := fun stage hstage => (h.sound stage hstage).unsafeStage
      logical := fun stage hstage => (h.sound stage hstage).logical
      names := (accepted_iff_names h.seqs hcore).mp h.accepted
      codes := (codes_iff hcore).mp h.codes
      post := h.post
      counters := h.counters }
  · intro h
    obtain ⟨hcomplete, hbdf⟩ := hbounds.mpr h.closed
    have hrc : ∀ stage ∈ v.run.stages, 0 ≤ stage.rc := by
      intro stage hstage
      rw [h.codes stage hstage]
      by_cases hm : stage.name = maskReturn
      · rw [if_pos hm]
        decide
      · rw [if_neg hm]
    exact {
      complete := hcomplete
      bdf := hbdf
      records := hcount ▸ h.records
      dropped := h.dropped
      pmu := h.pmu
      parsed := hlines.parsed.mpr h.readable
      owned := hlines.orphans.mpr h.owned
      armed := h.armed
      seqs := h.seqs
      sound := fun stage hstage =>
        ⟨h.times stage hstage, h.invalid stage hstage, hrc stage hstage, h.distinct stage hstage,
          h.notAllOnes stage hstage, h.physical stage hstage, h.unsafeStage stage hstage, h.logical stage hstage⟩
      starts := h.starts
      accepted := (accepted_iff_names h.seqs hcore).mpr h.names
      codes := (codes_iff hcore).mpr h.codes
      post := h.post
      counters := h.counters }

/-! ### A capture of the nine stages -/

/-- The nine stages; a raw mask changes at the fifth. -/
def coreCapture : Chars :=
  captureOf 9 (recordsOf (fun seq reg => if reg = PMC_REG then 0x1000 else if reg = 0x21768 ∧ 4 ≤ seq then 2 else 1)
    CORE_SEQUENCE)

/-- A stage of this seq has this value for the register. -/
def hasValue (run : Run) (seq : Int) (reg value : Nat) : Bool :=
  run.stages.any fun stage => stage.seq == seq && stage.values.any fun item => item.reg == reg && item.value == value

theorem coreCapture_run : ∃ v ∈ (parseCapture asciiPython coreCapture).runs, v.valid = true ∧
    namesOf v.run.stages = CORE_SEQUENCE ∧ hasValue v.run 3 0x21768 1 = true ∧ hasValue v.run 4 0x21768 2 = true := by
  have hwords : ∀ name ∈ CORE_SEQUENCE, IsWord name := by decide +kernel
  have hruns := runs_captureOf 9 (recordsOf_named
    (fun seq reg => if reg = PMC_REG then 0x1000 else if reg = 0x21768 ∧ 4 ≤ seq then 2 else 1) hwords)
  exact ⟨_, hruns ▸ List.mem_singleton_self _, by decide +kernel⟩

/-- The run of the nine stages is valid, so it is well formed. -/
theorem valid_iff_wellFormed_core : ∃ segment ∈ segments (marked coreCapture),
    ∃ v ∈ (parseCapture asciiPython coreCapture).runs, namesOf v.run.stages = CORE_SEQUENCE ∧ v.valid = true ∧
      WellFormed asciiPython segment.1 segment.2 v.run := by
  obtain ⟨v, hv, hvalid, hnames, -⟩ := coreCapture_run
  obtain ⟨segment, hsegment, hiff⟩ := exists_partner (valid_iff_wellFormed asciiPython coreCapture) hv
  have hcore : ∀ stage ∈ v.run.stages, stage.name ∈ CORE_SEQUENCE := by
    intro stage hstage
    rw [← hnames]
    exact List.mem_map_of_mem hstage
  exact ⟨segment, hsegment, v, hv, hnames, hvalid, (hiff hcore).mp hvalid⟩

end CmpUnlocker.Stages
