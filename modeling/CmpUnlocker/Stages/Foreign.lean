import CmpUnlocker.Stages.Valid

/-!
# Stages of other names

No check covers the names outside `CORE_SEQUENCE`: every later check looks up known names.  A further STAGE record in
a valid run is noticed by its own faults, by its place in time, or because it separates a mask return from its reset
return, and by nothing else (`foreign_invalid_iff`).
-/

namespace CmpUnlocker.Stages

open Keyed (Strict)

/-! ### Renumbering -/

/-- A stage and its values with another seq. -/
def Stage.withSeq (stage : Stage) (seq : Int) : Stage :=
  { stage with seq := seq, values := stage.values.map fun item => { item with seq := seq } }

/-- Stages numbered from `n` in their order. -/
def renumber (n : Nat) : List Stage → List Stage
  | [] => []
  | stage :: stages => stage.withSeq n :: renumber (n + 1) stages

/-- A run with other stages, numbered and counted. -/
def Run.restage (run : Run) (stages : List Stage) : Run :=
  { run with stages := renumber 0 stages, declaredRecords := some stages.length }

private theorem renumber_map {β : Type} (f : Stage → β) (h : ∀ stage seq, f (stage.withSeq seq) = f stage) (n : Nat)
    (stages : List Stage) : (renumber n stages).map f = stages.map f := by
  induction stages generalizing n with
  | nil => rfl
  | cons stage stages ih =>
    unfold renumber
    rw [List.map_cons, List.map_cons, h, ih]

private theorem renumber_forall {p : Stage → Prop} (h : ∀ stage seq, p (stage.withSeq seq) ↔ p stage) (n : Nat)
    (stages : List Stage) : (∀ stage ∈ renumber n stages, p stage) ↔ ∀ stage ∈ stages, p stage := by
  induction stages generalizing n with
  | nil => simp [renumber]
  | cons stage stages ih =>
    unfold renumber
    rw [List.forall_mem_cons, List.forall_mem_cons, h, ih]

private theorem renumber_length (n : Nat) (stages : List Stage) : (renumber n stages).length = stages.length := by
  have h := congrArg List.length (renumber_map (fun _ => ()) (fun _ _ => rfl) n stages)
  simpa using h

private theorem renumber_seqs (n : Nat) (stages : List Stage) :
    seqsOf (renumber n stages) = (List.range' n stages.length).map fun i : Nat => (i : Int) := by
  unfold seqsOf
  induction stages generalizing n with
  | nil => rfl
  | cons stage stages ih =>
    unfold renumber
    rw [List.map_cons, ih, List.length_cons, List.range'_succ, List.map_cons]
    rfl

private theorem renumber_contiguous (stages : List Stage) :
    seqsOf (renumber 0 stages) = contiguous (renumber 0 stages).length := by
  rw [renumber_seqs, renumber_length]
  unfold contiguous
  rw [List.range_eq_range']

/-- The seq plays no part in the soundness of a stage. -/
theorem sound_withSeq (stage : Stage) (seq : Int) : (stage.withSeq seq).Sound ↔ stage.Sound := by
  have hreports : ∀ reg value, (stage.withSeq seq).Reports reg value ↔ stage.Reports reg value := by
    intro reg value
    unfold Stage.Reports Stage.withSeq
    simp
  have hhas : ∀ reg, (stage.withSeq seq).Has reg ↔ stage.Has reg := by
    intro reg
    unfold Stage.Has Stage.withSeq
    simp
  have htop : ∀ pmc count, (stage.withSeq seq).Topological pmc count ↔ stage.Topological pmc count := by
    intro pmc count
    constructor
    · rintro ⟨h1, h2, h3, h4, h5, h6, h7, h8⟩
      simp only [hreports, hhas] at *
      exact ⟨h1, h2, h3, h4, h5, h6, h7, h8⟩
    · rintro ⟨h1, h2, h3, h4, h5, h6, h7, h8⟩
      simp only [← hreports, ← hhas] at *
      exact ⟨h1, h2, h3, h4, h5, h6, h7, h8⟩
  have hdistinct : (stage.withSeq seq).Distinct ↔ stage.Distinct := by
    unfold Stage.Distinct Stage.withSeq
    rw [List.map_map]
    rfl
  have hitems : ∀ p : Nat → Nat → Prop, (∀ item ∈ (stage.withSeq seq).values, p item.reg item.value) ↔
      ∀ item ∈ stage.values, p item.reg item.value := by
    intro p
    unfold Stage.withSeq
    rw [List.forall_mem_map]
  constructor
  · rintro ⟨htime, hinvalid, hrc, hd, hones, hphys, hguarded, hlogical⟩
    refine ⟨htime, hinvalid, hrc, hdistinct.mp hd, (hitems fun _ value => value ≠ 0xFFFFFFFF).mp hones, ?_, ?_, ?_⟩
    · intro reg hreg
      exact (hhas reg).mp (hphys reg hreg)
    · intro hname
      exact (hitems fun reg _ => isLogicalReg reg = false).mp (hguarded hname)
    · intro hname
      obtain ⟨pmc, count, ht⟩ := hlogical hname
      exact ⟨pmc, count, (htop pmc count).mp ht⟩
  · rintro ⟨htime, hinvalid, hrc, hd, hones, hphys, hguarded, hlogical⟩
    refine ⟨htime, hinvalid, hrc, hdistinct.mpr hd, (hitems fun _ value => value ≠ 0xFFFFFFFF).mpr hones, ?_, ?_, ?_⟩
    · intro reg hreg
      exact (hhas reg).mpr (hphys reg hreg)
    · intro hname
      exact (hitems fun reg _ => isLogicalReg reg = false).mpr (hguarded hname)
    · intro hname
      obtain ⟨pmc, count, ht⟩ := hlogical hname
      exact ⟨pmc, count, (htop pmc count).mpr ht⟩

/-! ### Positions -/

/-- Every mask return is directly followed by a reset return. -/
def Followed (names : List Chars) : Prop :=
  ∀ before after, names = before ++ maskReturn :: after → after.head? = some resetReturn

/-- With contiguous seqs, adjacency is about positions. -/
theorem adjacent_iff_followed {stages : List Stage} (hseqs : seqsOf stages = contiguous stages.length) :
    (∀ mask ∈ stages, mask.name = maskReturn →
      ∃ reset ∈ stages, reset.name = resetReturn ∧ reset.seq = mask.seq + 1) ↔ Followed (namesOf stages) := by
  constructor
  · intro h before after hsplit
    obtain ⟨front, rest, hstages, hfront, hrest⟩ := List.map_eq_append_iff.mp hsplit
    obtain ⟨mask, tail, rfl, hmask, htail⟩ := List.map_eq_cons_iff.mp hrest
    obtain ⟨reset, hreset, hname, hseq⟩ := h mask (by simp [hstages]) hmask
    obtain ⟨j, hj⟩ := List.mem_iff_getElem?.mp hreset
    have hi : stages[front.length]? = some mask := by
      rw [hstages, List.getElem?_append_right (by omega)]
      simp
    have hseqMask := seq_of_index hseqs hi
    have hseqReset := seq_of_index hseqs hj
    have hjeq : j = front.length + 1 := by omega
    rw [hjeq, hstages, List.getElem?_append_right (by omega)] at hj
    have hhead : tail.head? = some reset := by
      rw [List.head?_eq_getElem?]
      simpa using hj
    rw [← htail, List.head?_map, hhead, Option.map_some, hname]
  · intro h mask hmask hname
    obtain ⟨front, tail, hstages⟩ := List.append_of_mem hmask
    have hsplit : namesOf stages = namesOf front ++ maskReturn :: namesOf tail := by
      unfold namesOf
      rw [hstages, List.map_append, List.map_cons, hname]
    have hhead := h _ _ hsplit
    unfold namesOf at hhead
    rw [List.head?_map, Option.map_eq_some_iff] at hhead
    obtain ⟨reset, hreset, hresetName⟩ := hhead
    obtain ⟨rest, rfl⟩ := List.head?_eq_some_iff.mp hreset
    have hi : stages[front.length]? = some mask := by
      rw [hstages, List.getElem?_append_right (by omega)]
      simp
    have hj : stages[front.length + 1]? = some reset := by
      rw [hstages, List.getElem?_append_right (by omega)]
      simp
    refine ⟨reset, List.mem_of_getElem? hj, hresetName, ?_⟩
    rw [seq_of_index hseqs hi, seq_of_index hseqs hj]
    omega

/-- A foreign name keeps mask returns followed unless it is put directly behind one. -/
theorem followed_insert {before after : List Chars} {name : Chars} (hname : name ∉ CORE_SEQUENCE)
    (h : Followed (before ++ after)) : Followed (before ++ name :: after) ↔ before.getLast? ≠ some maskReturn := by
  have hmask : name ≠ maskReturn := fun heq => hname (heq ▸ by decide)
  have hreset : name ≠ resetReturn := fun heq => hname (heq ▸ by decide)
  constructor
  · intro hnew hlast
    obtain ⟨front, rfl⟩ := List.getLast?_eq_some_iff.mp hlast
    have hhead := hnew front (name :: after) (by simp)
    exact hreset (Option.some.inj hhead)
  · intro hlast front rest hsplit
    rcases List.append_eq_append_iff.mp hsplit with ⟨middle, hfront, hrest⟩ | ⟨middle, hbefore, hrest⟩
    · -- the mask return is behind the foreign name
      cases middle with
      | nil => exact absurd (List.cons.inj hrest).1 hmask
      | cons first middle =>
        obtain ⟨-, hafter⟩ := List.cons.inj hrest
        exact h (before ++ middle) rest (by rw [hafter]; simp)
    · -- the mask return is before it
      cases middle with
      | nil => exact absurd (List.cons.inj hrest).1.symm hmask
      | cons first middle =>
        obtain ⟨hfirst, hafter⟩ := List.cons.inj hrest
        rw [← hfirst] at hbefore
        cases middle with
        | nil => exact absurd (by rw [hbefore]; simp) hlast
        | cons second middle =>
          have hold := h front (second :: middle ++ after) (by rw [hbefore]; simp)
          rw [hafter]
          exact hold

/-- A start fits between its neighbours. -/
theorem starts_insert {before after : List Int} {start : Int} (h : (before ++ after).Pairwise (· ≤ ·)) :
    (before ++ start :: after).Pairwise (· ≤ ·) ↔
      (∀ previous ∈ before.getLast?, previous ≤ start) ∧ ∀ next ∈ after.head?, start ≤ next := by
  obtain ⟨hb, ha, hcross⟩ := List.pairwise_append.mp h
  rw [List.pairwise_append, List.pairwise_cons]
  constructor
  · rintro ⟨-, ⟨hnext, -⟩, hprevious⟩
    constructor
    · intro previous hp
      exact hprevious previous (List.mem_of_getLast? hp) start (by simp)
    · intro next hn
      exact hnext next (List.mem_of_head? hn)
  · rintro ⟨hprevious, hnext⟩
    have hbefore : ∀ a ∈ before, a ≤ start := by
      intro a hmem
      rcases List.eq_nil_or_concat before with rfl | ⟨front, last, rfl⟩
      · exact absurd hmem List.not_mem_nil
      · rw [List.concat_eq_append] at *
        have hlast := hprevious last (by simp)
        rcases List.mem_append.mp hmem with hmem | hmem
        · exact ((List.pairwise_append.mp hb).2.2 a hmem last (by simp)).trans hlast
        · rw [List.mem_singleton.mp hmem]
          exact hlast
    have hafter : ∀ c ∈ after, start ≤ c := by
      intro c hmem
      cases after with
      | nil => exact absurd hmem List.not_mem_nil
      | cons first rest =>
        have hfirst := hnext first (by simp)
        rcases List.mem_cons.mp hmem with rfl | hmem
        · exact hfirst
        · exact hfirst.trans ((List.pairwise_cons.mp ha).1 c hmem)
    refine ⟨hb, ⟨hafter, ha⟩, ?_⟩
    intro a hmem c hc
    rcases List.mem_cons.mp hc with rfl | hc
    · exact hbefore a hmem
    · exact hcross a hmem c hc

/-! ### A further stage -/

/-- The further stage starts no earlier than the stage before it and no later than the one behind it. -/
def FitsInTime (before after : List Stage) (stage : Stage) : Prop :=
  (∀ previous ∈ before.getLast?, previous.startNs ≤ stage.startNs) ∧ ∀ next ∈ after.head?, stage.startNs ≤ next.startNs

section

variable {run : Run} {before after : List Stage} {foreign : Stage} (hvalid : Admitted run)
  (hstages : run.stages = before ++ after) (hname : foreign.name ∉ CORE_SEQUENCE)

include hstages hname in
/-- The names of the nine are the same with a foreign stage. -/
theorem coreStages_insert : namesOf (coreStages (renumber 0 (before ++ foreign :: after))) =
    namesOf (coreStages run.stages) := by
  have hcore : ∀ stages : List Stage, namesOf (coreStages stages) = (namesOf stages).filter isCore := by
    intro stages
    unfold namesOf coreStages
    rw [List.filter_map]
    rfl
  have hforeign : isCore foreign.name = false := by
    unfold isCore
    rw [← Bool.not_eq_true, List.contains_iff_mem]
    exact hname
  rw [hcore, hcore, hstages]
  unfold namesOf
  rw [renumber_map (·.name) (fun _ _ => rfl)]
  simp [List.filter_append, hforeign]

include hvalid hstages hname in
private theorem accepted_insert : Accepted (renumber 0 (before ++ foreign :: after)) ↔
    (namesOf before).getLast? ≠ some maskReturn := by
  have hfollowed : Followed (namesOf before ++ namesOf after) := by
    have := (adjacent_iff_followed hvalid.seqs).mp hvalid.accepted.adjacent
    rw [hstages] at this
    unfold namesOf at *
    rwa [List.map_append] at this
  have hnames :
      namesOf (renumber 0 (before ++ foreign :: after)) = namesOf before ++ foreign.name :: namesOf after := by
    unfold namesOf
    rw [renumber_map (·.name) (fun _ _ => rfl), List.map_append, List.map_cons]
  rw [← followed_insert hname hfollowed, ← hnames, ← adjacent_iff_followed (renumber_contiguous _)]
  constructor
  · exact fun h => h.adjacent
  · intro h
    refine ⟨?_, h⟩
    rw [coreStages_insert hstages hname]
    exact hvalid.accepted.core

include hvalid hstages hname in
/-- A valid run with a foreign stage is valid exactly when the stage is sound, fits in time and stands behind no mask
return. -/
theorem admitted_insert : Admitted (run.restage (before ++ foreign :: after)) ↔
    foreign.Sound ∧ FitsInTime before after foreign ∧ (namesOf before).getLast? ≠ some maskReturn := by
  have hsound : (∀ stage ∈ renumber 0 (before ++ foreign :: after), stage.Sound) ↔ foreign.Sound := by
    rw [renumber_forall sound_withSeq, List.forall_mem_append, List.forall_mem_cons]
    have hall := hvalid.sound
    rw [hstages, List.forall_mem_append] at hall
    constructor
    · exact fun h => h.2.1
    · exact fun h => ⟨hall.1, h, hall.2⟩
  have hstarts : ((renumber 0 (before ++ foreign :: after)).map (·.startNs)).Pairwise (· ≤ ·) ↔
      FitsInTime before after foreign := by
    have hold := hvalid.starts
    rw [hstages, List.map_append] at hold
    rw [renumber_map (·.startNs) (fun _ _ => rfl), List.map_append, List.map_cons, starts_insert hold]
    unfold FitsInTime
    simp
  have hrest : ∀ p : Stage → Prop, (∀ stage seq, p (stage.withSeq seq) ↔ p stage) → p foreign →
      (∀ stage ∈ run.stages, p stage) → ∀ stage ∈ renumber 0 (before ++ foreign :: after), p stage := by
    intro p hp hforeign hall
    rw [hstages, List.forall_mem_append] at hall
    rw [renumber_forall hp, List.forall_mem_append, List.forall_mem_cons]
    exact ⟨hall.1, hforeign, hall.2⟩
  rw [← accepted_insert hvalid hstages hname]
  constructor
  · intro h
    exact ⟨hsound.mp h.sound, hstarts.mp h.starts, h.accepted⟩
  · rintro ⟨hs, ht, ha⟩
    have hne : ∀ name ∈ CORE_SEQUENCE, foreign.name ≠ name := fun name hin heq => hname (heq ▸ hin)
    have hcodes : ReturnCodes (renumber 0 (before ++ foreign :: after)) := by
      constructor
      · apply hrest (fun stage => stage.name ∈ NONRESET_SEQUENCE → stage.rc = 0)
          (fun _ _ => Iff.rfl) _ hvalid.codes.core
        intro hin
        exact absurd ((mem_nonreset _).mp hin).1 hname
      · apply hrest (fun stage => stage.name = maskReturn → stage.rc = 0x1000) (fun _ _ => Iff.rfl) _ hvalid.codes.mask
        intro heq
        exact absurd heq (hne _ (by decide))
      · apply hrest (fun stage => stage.name = resetReturn → stage.rc = 0) (fun _ _ => Iff.rfl) _ hvalid.codes.reset
        intro heq
        exact absurd heq (hne _ (by decide))
    have hpost : PostAgrees (run.restage (before ++ foreign :: after)) := by
      obtain ⟨value, hbool, hpmu, hall⟩ := hvalid.post
      refine ⟨value, hbool, hpmu, ?_⟩
      apply hrest (fun stage => stage.name = "post_entry".toList ∨ stage.name = "post_return".toList →
        stage.post = value) (fun _ _ => Iff.rfl) _ hall
      rintro (heq | heq)
      · exact absurd heq (hne _ (by decide))
      · exact absurd heq (hne _ (by decide))
    exact {
      complete := hvalid.complete
      bdf := hvalid.bdf
      records := by
        show some ((before ++ foreign :: after).length : Int) = some ((renumber 0 _).length : Int)
        rw [renumber_length]
      dropped := hvalid.dropped
      pmu := hvalid.pmu
      parsed := hvalid.parsed
      owned := hvalid.owned
      armed := hvalid.armed
      seqs := renumber_contiguous _
      sound := hsound.mpr hs
      starts := hstarts.mpr ht
      accepted := ha
      codes := hcodes
      post := hpost
      counters := hvalid.counters }

end

/-- What the loop over the stages reports of a stage that has the physical registers and whose name it does not know. -/
def Stage.Faulty (stage : Stage) : Prop :=
  stage.endNs < stage.startNs ∨ stage.invalid ≠ 0 ∨ stage.rc < 0 ∨ ¬stage.Distinct ∨
    (∃ item ∈ stage.values, item.value = 0xFFFFFFFF) ∨ ∃ item ∈ stage.values, isLogicalReg item.reg = true

private theorem logical_core : ∀ name ∈ LOGICAL_STAGES, name ∈ CORE_SEQUENCE := by decide

private theorem sound_iff_not_faulty {stage : Stage} (hname : stage.name ∉ CORE_SEQUENCE)
    (hregs : ∀ reg ∈ PHYSICAL_REGS, stage.Has reg) : stage.Sound ↔ ¬stage.Faulty := by
  have hlogical : stage.name ∉ LOGICAL_STAGES := fun hin => hname (logical_core _ hin)
  unfold Stage.Faulty
  simp only [not_or, not_exists, not_and, not_not, Bool.not_eq_true]
  constructor
  · intro h
    exact
      ⟨by have := h.time; omega, h.invalid, by have := h.rc; omega, h.distinct, h.notAllOnes, h.unsafeStage hlogical⟩
  · rintro ⟨htime, hinvalid, hrc, hdistinct, hones, hregister⟩
    exact ⟨by omega, hinvalid, by omega, hdistinct, hones, hregs, fun _ => hregister, fun hin => absurd hin hlogical⟩

/-- A foreign stage with all physical registers makes a valid run of a capture invalid exactly when it separates a mask
return from its reset return, is faulty by itself, or starts before its predecessor or behind its successor. -/
theorem foreign_invalid_iff (py : Python) (text : Chars) (v : Verdict) (hv : v ∈ (parseCapture py text).runs)
    (hvalid : v.valid = true) (before after : List Stage) (foreign : Stage) (hstages : v.run.stages = before ++ after)
    (hname : foreign.name ∉ CORE_SEQUENCE) (hregs : ∀ reg ∈ PHYSICAL_REGS, foreign.Has reg) :
    (validateRun (v.run.restage (before ++ foreign :: after))).valid = false ↔
      (namesOf before).getLast? = some maskReturn ∨ foreign.Faulty ∨ ¬FitsInTime before after foreign := by
  have hread : v = validateRun v.run := by
    obtain ⟨segment, -, armedTypes, heq⟩ := mem_runs_read hv
    rw [heq]
    rfl
  rw [hread] at hvalid
  have hold := (valid_iff v.run).mp hvalid
  rw [← Bool.not_eq_true, valid_iff, admitted_insert hold hstages hname, sound_iff_not_faulty hname hregs]
  constructor
  · intro h
    by_cases hs : foreign.Faulty
    · exact Or.inr (Or.inl hs)
    · by_cases ht : FitsInTime before after foreign
      · left
        by_contra hm
        exact h ⟨hs, ht, hm⟩
      · exact Or.inr (Or.inr ht)
  · rintro (hm | hs | ht) ⟨hs', ht', hm'⟩
    · exact hm' hm
    · exact hs' hs
    · exact ht ht'

/-! ### A capture with a tenth name -/

def resumeReturn : Chars := "resume_return".toList

/-- The capture of the nine stages and a stage `resume_return` behind them. -/
def foreignCapture : Chars :=
  captureOf 10 (recordsOf (fun _ reg => if reg = PMC_REG then 0x1000 else 1) (CORE_SEQUENCE ++ [resumeReturn]))

private theorem foreignCapture_run : ∃ v ∈ (parseCapture asciiPython foreignCapture).runs,
    v.valid = true ∧ resumeReturn ∈ namesOf v.run.stages := by
  have hwords : ∀ name ∈ CORE_SEQUENCE ++ [resumeReturn], IsWord name := by decide +kernel
  have hruns := runs_captureOf 10 (recordsOf_named (fun _ reg => if reg = PMC_REG then 0x1000 else 1) hwords)
  exact ⟨_, hruns ▸ List.mem_singleton_self _, by decide +kernel⟩

/-- A valid run with a stage of a tenth name. -/
theorem tenth_name_valid : ∃ v ∈ (parseCapture asciiPython foreignCapture).runs,
    v.valid = true ∧ ∃ stage ∈ v.run.stages, stage.name ∉ CORE_SEQUENCE := by
  obtain ⟨v, hv, hvalid, hname⟩ := foreignCapture_run
  obtain ⟨stage, hstage, heq⟩ := List.mem_map.mp hname
  refine ⟨v, hv, hvalid, stage, hstage, ?_⟩
  rw [heq]
  decide

/-- A value 0 for every physical register. -/
def zeroValues : List Value :=
  PHYSICAL_REGS.filterMap fun reg =>
    if h : reg ≤ 0xFFFFFFFF then
      some { line := 0, seq := 0, reg := reg, value := 0, raw := [], reg_lt := h, value_lt := by decide }
    else none

/-- A further stage behind the last one. -/
def furtherStage : Stage :=
  { line := 0, seq := 0, name := resumeReturn, startNs := 1, endNs := 1, pid := 1, rc := 0, post := 0, invalid := 0
    values := zeroValues, raw := [] }

theorem foreign_invalid_iff_further : ∃ v ∈ (parseCapture asciiPython foreignCapture).runs,
    ((validateRun (v.run.restage (v.run.stages ++ [furtherStage]))).valid = false ↔
      (namesOf v.run.stages).getLast? = some maskReturn ∨ furtherStage.Faulty ∨
        ¬FitsInTime v.run.stages [] furtherStage) := by
  obtain ⟨v, hv, hvalid, -⟩ := foreignCapture_run
  refine ⟨v, hv, foreign_invalid_iff asciiPython foreignCapture v hv hvalid v.run.stages [] furtherStage ?_ ?_ ?_⟩
  · rw [List.append_nil]
  · decide
  · decide

end CmpUnlocker.Stages
