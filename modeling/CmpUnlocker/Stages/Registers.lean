import CmpUnlocker.Stages.Validate
import Mathlib.Data.Nat.Bitwise

/-!
# Sound stages

What the loop over the stages accepts, stage by stage: `stageFaults` reports nothing exactly for a `Sound` stage that
does not start before its predecessor.
-/

namespace CmpUnlocker.Stages

@[simp] theorem reportIf_eq_nil {α : Type} (condition : Bool) (error : α) :
    reportIf condition error = [] ↔ condition = false := by
  cases condition <;> simp [reportIf]

/-! ### The value map -/

namespace ValueMap

private theorem has_iff (m : ValueMap) (reg : Nat) : m.has reg = true ↔ reg ∈ m.regs := by
  unfold has
  exact List.contains_iff_mem

/-- A register the map does not have is appended. -/
theorem add_of_not_mem {m : ValueMap} {item : Value} (h : item.reg ∉ m.regs) :
    m.add item = { m with values := m.values ++ [(item.reg, item.value)] } := by
  unfold add
  rw [if_neg]
  rwa [has_iff]

private theorem add_of_mem {m : ValueMap} {item : Value} (h : item.reg ∈ m.regs) :
    m.add item = { m with duplicates := m.duplicates ++ [item.reg] } := by
  unfold add
  rw [if_pos]
  rwa [has_iff]

/-- Distinct new registers are all appended. -/
theorem foldl_add_of_nodup (items : List Value) (m : ValueMap)
    (h : (m.regs ++ items.map (·.reg)).Nodup) :
    items.foldl add m = { m with values := m.values ++ items.map fun item => (item.reg, item.value) } := by
  induction items generalizing m with
  | nil => simp
  | cons item items ih =>
    rw [List.map_cons, List.nodup_append] at h
    have hnew : item.reg ∉ m.regs := fun hmem => h.2.2 _ hmem _ List.mem_cons_self rfl
    rw [List.foldl_cons, add_of_not_mem hnew, ih]
    · simp
    · have hregs : ({ m with values := m.values ++ [(item.reg, item.value)] } : ValueMap).regs
          = m.regs ++ [item.reg] := by simp [regs]
      rw [hregs, List.append_assoc, List.nodup_append]
      exact h

/-- Duplicates are never forgotten. -/
theorem duplicates_foldl_add (items : List Value) (m : ValueMap) :
    ∃ more, (items.foldl add m).duplicates = m.duplicates ++ more := by
  induction items generalizing m with
  | nil => exact ⟨[], by simp⟩
  | cons item items ih =>
    obtain ⟨more, hmore⟩ := ih (m.add item)
    rw [List.foldl_cons, hmore]
    by_cases h : item.reg ∈ m.regs
    · exact ⟨item.reg :: more, by simp [add_of_mem h]⟩
    · exact ⟨more, by simp [add_of_not_mem h]⟩

/-- There is no duplicate exactly when the registers are distinct. -/
theorem duplicates_eq_nil_iff (items : List Value) (m : ValueMap) (hm : m.regs.Nodup) (hd : m.duplicates = []) :
    (items.foldl add m).duplicates = [] ↔ (m.regs ++ items.map (·.reg)).Nodup := by
  constructor
  · intro h
    induction items generalizing m with
    | nil => simpa using hm
    | cons item items ih =>
      rw [List.foldl_cons] at h
      by_cases hmem : item.reg ∈ m.regs
      · obtain ⟨more, hmore⟩ := duplicates_foldl_add items (m.add item)
        rw [hmore, add_of_mem hmem] at h
        simp at h
      · rw [add_of_not_mem hmem] at h
        have hregs : ({ m with values := m.values ++ [(item.reg, item.value)] } : ValueMap).regs
            = m.regs ++ [item.reg] := by simp [regs]
        have hnodup : (m.regs ++ [item.reg]).Nodup := by
          rw [List.nodup_append]
          refine ⟨hm, List.nodup_singleton _, ?_⟩
          intro a ha b hb hab
          rw [List.mem_singleton] at hb
          exact hmem (hb ▸ hab ▸ ha)
        rw [← hregs] at hnodup
        have hall := ih { m with values := m.values ++ [(item.reg, item.value)] } hnodup hd h
        rwa [hregs, List.append_assoc] at hall
  · intro h
    rw [foldl_add_of_nodup items m h]
    exact hd

end ValueMap

/-- The registers of a stage are reported once each. -/
def Stage.Distinct (stage : Stage) : Prop := (stage.values.map (·.reg)).Nodup

private theorem valueMap_duplicates (stage : Stage) : (valueMap stage).duplicates = [] ↔ stage.Distinct := by
  unfold valueMap
  rw [ValueMap.duplicates_eq_nil_iff _ _ (by simp [ValueMap.regs]) rfl]
  simp [ValueMap.regs, Stage.Distinct]

private theorem valueMap_values {stage : Stage} (h : stage.Distinct) :
    (valueMap stage).values = stage.values.map fun item => (item.reg, item.value) := by
  unfold valueMap
  rw [ValueMap.foldl_add_of_nodup _ _ (by simpa [ValueMap.regs, Stage.Distinct] using h)]
  simp

private theorem mem_regs {stage : Stage} (h : stage.Distinct) (reg : Nat) :
    reg ∈ (valueMap stage).regs ↔ ∃ item ∈ stage.values, item.reg = reg := by
  unfold ValueMap.regs
  rw [valueMap_values h]
  simp

/-- A stage reports a value for a register. -/
def Stage.Reports (stage : Stage) (reg value : Nat) : Prop := ∃ item ∈ stage.values, item.reg = reg ∧ item.value = value

/-- A stage has a value for a register. -/
def Stage.Has (stage : Stage) (reg : Nat) : Prop := ∃ item ∈ stage.values, item.reg = reg

instance (stage : Stage) (reg : Nat) : Decidable (stage.Has reg) :=
  inferInstanceAs (Decidable (∃ item ∈ stage.values, item.reg = reg))

private theorem has_valueMap {stage : Stage} (h : stage.Distinct) (reg : Nat) :
    (valueMap stage).has reg = true ↔ stage.Has reg := by
  rw [ValueMap.has_iff, mem_regs h]
  rfl

theorem get_valueMap {stage : Stage} (h : stage.Distinct) (reg value : Nat) :
    (valueMap stage).get reg = some value ↔ stage.Reports reg value := by
  unfold ValueMap.get
  rw [valueMap_values h]
  unfold Stage.Reports
  constructor
  · intro hget
    rw [Option.map_eq_some_iff] at hget
    obtain ⟨entry, hfind, hvalue⟩ := hget
    have hmem := List.mem_of_find?_eq_some hfind
    have hreg := List.find?_some hfind
    obtain ⟨item, hitem, rfl⟩ := List.mem_map.mp hmem
    exact ⟨item, hitem, by simpa using hreg, hvalue⟩
  · rintro ⟨item, hitem, rfl, rfl⟩
    unfold Stage.Distinct at h
    generalize stage.values = items at h hitem
    induction items with
    | nil => exact absurd hitem List.not_mem_nil
    | cons first items ih =>
      rw [List.map_cons, List.nodup_cons] at h
      rcases List.mem_cons.mp hitem with rfl | hitem
      · simp
      · have hne : first.reg ≠ item.reg := fun heq => h.1 (heq ▸ List.mem_map_of_mem hitem)
        rw [List.map_cons, List.find?_cons_of_neg (by simpa using hne)]
        exact ih h.2 hitem

/-! ### Logical registers -/

/-- The logical registers of a stage: the graphics engine is on, the count of GPCs is from 1 to 6, and the pipe
control and the registers of that many GPCs are there. -/
structure Stage.Topological (stage : Stage) (pmc count : Nat) : Prop where
  pmcReported : stage.Reports PMC_REG pmc
  gr : pmc.testBit 12 = true
  countReported : stage.Reports LOGICAL_GPC_COUNT_REG count
  low : 1 ≤ count % 32
  high : count % 32 ≤ MAX_GPCS
  pipe : stage.Has COMPUTE_PIPE_CONTROL_REG
  tpc : ∀ gpc < count % 32, stage.Has (tpcCountReg gpc)
  ppc : ∀ gpc < count % 32, ∀ ppc < PPCS_PER_GPC, stage.Has (ppcMaskReg gpc ppc)

private theorem gpcCount_eq (count : Nat) : count &&& 0x1F = count % 32 := Nat.and_two_pow_sub_one_eq_mod count 5

/-- The test of bit 12. -/
theorem pmc_clear_iff (pmc : Nat) : (pmc &&& 0x1000 == 0) = false ↔ pmc.testBit 12 = true := by
  have h : pmc &&& 0x1000 = (pmc.testBit 12).toNat * 2 ^ 12 := Nat.and_two_pow pmc 12
  rw [h]
  cases pmc.testBit 12 <;> simp

private theorem filter_not_has {stage : Stage} (h : stage.Distinct) (regs : List Nat) :
    (regs.filter fun reg => !(valueMap stage).has reg) = [] ↔ ∀ reg ∈ regs, stage.Has reg := by
  rw [List.filter_eq_nil_iff]
  constructor
  · intro hall reg hreg
    have := hall reg hreg
    rw [← has_valueMap h]
    simpa using this
  · intro hall reg hreg
    have := (has_valueMap h reg).mpr (hall reg hreg)
    simp [this]

private theorem topologyFaults_eq_nil {stage : Stage} (h : stage.Distinct) (n : Nat) :
    (topologyFaults (valueMap stage) n).1 = [] ↔
      stage.Has COMPUTE_PIPE_CONTROL_REG ∧ (∀ gpc < n, stage.Has (tpcCountReg gpc)) ∧
        ∀ gpc < n, ∀ ppc < PPCS_PER_GPC, stage.Has (ppcMaskReg gpc ppc) := by
  unfold topologyFaults
  simp only [List.append_eq_nil_iff, reportIf_eq_nil, Bool.not_eq_false', List.isEmpty_iff, filter_not_has h,
    has_valueMap h, List.mem_map, List.mem_flatMap, List.mem_range]
  constructor
  · rintro ⟨⟨hpipe, htpc⟩, hppc⟩
    refine ⟨hpipe, ?_, ?_⟩
    · intro gpc hgpc
      exact htpc _ ⟨gpc, hgpc, rfl⟩
    · intro gpc hgpc ppc hppc'
      exact hppc _ ⟨gpc, hgpc, ppc, hppc', rfl⟩
  · rintro ⟨hpipe, htpc, hppc⟩
    refine ⟨⟨hpipe, ?_⟩, ?_⟩
    · rintro reg ⟨gpc, hgpc, rfl⟩
      exact htpc gpc hgpc
    · rintro reg ⟨gpc, hgpc, ppc, hppc', rfl⟩
      exact hppc gpc hgpc ppc hppc'

/-- A logical stage that has the PMC register passes its checks exactly when its topology is complete. -/
theorem logicalFaults_eq_nil {stage : Stage} (h : stage.Distinct) (hpmc : stage.Has PMC_REG) :
    (logicalFaults (valueMap stage)).1 = [] ↔ ∃ pmc count, stage.Topological pmc count := by
  obtain ⟨item, hitem, hreg⟩ := hpmc
  have hget : (valueMap stage).get PMC_REG = some item.value := (get_valueMap h _ _).mpr ⟨item, hitem, hreg, rfl⟩
  unfold logicalFaults
  rw [hget]
  cases hcount : (valueMap stage).get LOGICAL_GPC_COUNT_REG with
  | none =>
    constructor
    · intro hnil
      simp at hnil
    · rintro ⟨pmc, count, ht⟩
      rw [(get_valueMap h _ _).mpr ht.countReported] at hcount
      exact absurd hcount (by simp)
  | some count =>
    simp only [gpcCount_eq]
    split
    · rename_i hrange
      rw [List.append_eq_nil_iff, reportIf_eq_nil, pmc_clear_iff, topologyFaults_eq_nil h]
      constructor
      · rintro ⟨hgr, hpipe, htpc, hppc⟩
        exact ⟨item.value, count, ⟨item, hitem, hreg, rfl⟩, hgr, (get_valueMap h _ _).mp hcount, hrange.1, hrange.2,
          hpipe, htpc, hppc⟩
      · rintro ⟨pmc, count', ht⟩
        have hpmc' : item.value = pmc := by
          have := (get_valueMap h _ _).mpr ht.pmcReported
          rw [hget] at this
          exact Option.some.inj this
        have hcount' : count = count' := by
          have := (get_valueMap h _ _).mpr ht.countReported
          rw [hcount] at this
          exact Option.some.inj this
        subst hpmc' hcount'
        exact ⟨ht.gr, ht.pipe, ht.tpc, ht.ppc⟩
    · rename_i hrange
      constructor
      · intro hnil
        simp at hnil
      · rintro ⟨pmc, count', ht⟩
        have hcount' : count = count' := by
          have := (get_valueMap h _ _).mpr ht.countReported
          rw [hcount] at this
          exact Option.some.inj this
        subst hcount'
        exact absurd ⟨ht.low, ht.high⟩ hrange

/-! ### One stage -/

/-- A stage the loop has nothing to say about by itself. -/
structure Stage.Sound (stage : Stage) : Prop where
  time : stage.startNs ≤ stage.endNs
  invalid : stage.invalid = 0
  rc : 0 ≤ stage.rc
  distinct : stage.Distinct
  notAllOnes : ∀ item ∈ stage.values, item.value ≠ 0xFFFFFFFF
  physical : ∀ reg ∈ PHYSICAL_REGS, stage.Has reg
  unsafeStage : stage.name ∉ LOGICAL_STAGES → ∀ item ∈ stage.values, isLogicalReg item.reg = false
  logical : stage.name ∈ LOGICAL_STAGES → ∃ pmc count, stage.Topological pmc count

private theorem registerFaults_eq_nil (stage : Stage) :
    registerFaults stage (valueMap stage) = [] ↔
      stage.Distinct ∧ (∀ item ∈ stage.values, item.value ≠ 0xFFFFFFFF) ∧ (∀ reg ∈ PHYSICAL_REGS, stage.Has reg) ∧
        (stage.name ∉ LOGICAL_STAGES → ∀ item ∈ stage.values, isLogicalReg item.reg = false) := by
  unfold registerFaults
  simp only [List.append_eq_nil_iff, reportIf_eq_nil, Bool.not_eq_false', List.isEmpty_iff, valueMap_duplicates,
    List.map_eq_nil_iff]
  constructor
  · rintro ⟨⟨⟨hd, hones⟩, hphys⟩, hlogical⟩
    refine ⟨hd, ?_, (filter_not_has hd _).mp hphys, ?_⟩
    · rw [valueMap_values hd, List.filter_eq_nil_iff] at hones
      intro item hitem
      simpa using hones _ (List.mem_map_of_mem hitem)
    · intro hname item hitem
      rw [Bool.and_eq_false_iff] at hlogical
      rcases hlogical with hin | hnone
      · rw [Bool.not_eq_false', List.contains_iff_mem] at hin
        exact absurd hin hname
      · rw [List.any_eq_false] at hnone
        have hmem : item.reg ∈ (valueMap stage).regs := (mem_regs hd _).mpr ⟨item, hitem, rfl⟩
        simpa using hnone _ hmem
  · rintro ⟨hd, hones, hphys, hlogical⟩
    refine ⟨⟨⟨hd, ?_⟩, (filter_not_has hd _).mpr hphys⟩, ?_⟩
    · rw [valueMap_values hd, List.filter_eq_nil_iff]
      intro entry hentry
      obtain ⟨item, hitem, rfl⟩ := List.mem_map.mp hentry
      simpa using hones item hitem
    · rw [Bool.and_eq_false_iff]
      by_cases hname : stage.name ∈ LOGICAL_STAGES
      · left
        rw [Bool.not_eq_false', List.contains_iff_mem]
        exact hname
      · right
        rw [List.any_eq_false]
        intro reg hreg
        obtain ⟨item, hitem, rfl⟩ := (mem_regs hd reg).mp hreg
        simpa using hlogical hname item hitem

private theorem collectorFaults_eq_nil (stage : Stage) :
    collectorFaults stage = [] ↔ stage.invalid = 0 ∧ 0 ≤ stage.rc := by
  unfold collectorFaults
  rw [List.append_eq_nil_iff, reportIf_eq_nil, reportIf_eq_nil]
  simp

/-- A stage does not start before its predecessor. -/
def NotBefore (previousStart : Option Int) (stage : Stage) : Prop :=
  ∀ previous ∈ previousStart, previous ≤ stage.startNs

private theorem timeFaults_eq_nil (previousStart : Option Int) (stage : Stage) :
    timeFaults previousStart stage = [] ↔ stage.startNs ≤ stage.endNs ∧ NotBefore previousStart stage := by
  unfold timeFaults NotBefore
  cases previousStart with
  | none => simp
  | some previous => simp

private theorem PMC_REG_physical : PMC_REG ∈ PHYSICAL_REGS := by decide

/-- The loop reports nothing at a stage exactly when it is sound and not before its predecessor. -/
theorem stageFaults_eq_nil (previousStart : Option Int) (stage : Stage) :
    (stageFaults previousStart stage).1 = [] ↔ stage.Sound ∧ NotBefore previousStart stage := by
  unfold stageFaults
  simp only [List.append_eq_nil_iff, timeFaults_eq_nil, collectorFaults_eq_nil, registerFaults_eq_nil]
  constructor
  · rintro ⟨⟨⟨⟨htime, hbefore⟩, hinvalid, hrc⟩, hd, hones, hphys, hguarded⟩, hlogical⟩
    refine ⟨⟨htime, hinvalid, hrc, hd, hones, hphys, hguarded, ?_⟩, hbefore⟩
    intro hname
    rw [if_pos (by rwa [List.contains_iff_mem])] at hlogical
    exact (logicalFaults_eq_nil hd (hphys _ PMC_REG_physical)).mp hlogical
  · rintro ⟨hs, hbefore⟩
    refine ⟨⟨⟨⟨hs.time, hbefore⟩, hs.invalid, hs.rc⟩, hs.distinct, hs.notAllOnes, hs.physical, hs.unsafeStage⟩, ?_⟩
    by_cases hname : stage.name ∈ LOGICAL_STAGES
    · rw [if_pos (by rwa [List.contains_iff_mem])]
      exact (logicalFaults_eq_nil hs.distinct (hs.physical _ PMC_REG_physical)).mpr (hs.logical hname)
    · rw [if_neg (by rwa [List.contains_iff_mem])]

/-! ### All stages -/

/-- The starts do not decrease from a stage to the next. -/
def StartsAscend : Option Int → List Stage → Prop
  | _, [] => True
  | previousStart, stage :: stages => NotBefore previousStart stage ∧ StartsAscend (some stage.startNs) stages

theorem stagesErrors_eq_nil (stages : List Stage) (previousStart : Option Int) :
    stagesErrors previousStart stages = [] ↔ (∀ stage ∈ stages, stage.Sound) ∧ StartsAscend previousStart stages := by
  induction stages generalizing previousStart with
  | nil => simp [stagesErrors, StartsAscend]
  | cons stage stages ih =>
    unfold stagesErrors StartsAscend
    rw [List.append_eq_nil_iff, List.map_eq_nil_iff, stageFaults_eq_nil, ih, List.forall_mem_cons]
    constructor
    · rintro ⟨⟨hs, hb⟩, hall, hasc⟩
      exact ⟨⟨hs, hall⟩, hb, hasc⟩
    · rintro ⟨⟨hs, hall⟩, hb, hasc⟩
      exact ⟨⟨hs, hb⟩, hall, hasc⟩

/-- Starts that ascend from one stage to the next ascend over any distance. -/
theorem startsAscend_iff (stages : List Stage) (previousStart : Option Int) :
    StartsAscend previousStart stages ↔
      (∀ stage ∈ stages, NotBefore previousStart stage) ∧ (stages.map (·.startNs)).Pairwise (· ≤ ·) := by
  induction stages generalizing previousStart with
  | nil => simp [StartsAscend]
  | cons stage stages ih =>
    unfold StartsAscend
    rw [ih, List.map_cons, List.pairwise_cons, List.forall_mem_cons, List.forall_mem_map]
    constructor
    · rintro ⟨hb, hnext, hrest⟩
      have hle : ∀ later ∈ stages, stage.startNs ≤ later.startNs := fun later hlater => hnext later hlater _ rfl
      refine ⟨⟨hb, ?_⟩, hle, hrest⟩
      intro later hlater previous hprevious
      exact (hb previous hprevious).trans (hle later hlater)
    · rintro ⟨⟨hb, -⟩, hle, hrest⟩
      refine ⟨hb, ?_, hrest⟩
      intro later hlater previous hprevious
      cases hprevious
      exact hle later hlater

end CmpUnlocker.Stages
