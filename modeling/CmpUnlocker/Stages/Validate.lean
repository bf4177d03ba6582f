import Mathlib.Algebra.GroupWithZero.Nat
import CmpUnlocker.Lib.Keyed
import CmpUnlocker.Stages.Records

/-!
# The validation of a run

`_value_map`, `_mask_observations` and `_validate_run` of `decode_gv100_stages.py`.  Each check of the source is a
definition of its own that returns the errors it adds, in the order of the source.  Python's `sorted` is stable, as is
`Keyed.sort`.
-/

namespace CmpUnlocker.Stages

/-! ### Registers and stage names -/

def PMC_REG : Nat := 0x000200
def POST_REG : Nat := 0x02240C
def GPC_STATUS_REG : Nat := 0x021C1C
def LOGICAL_GPC_COUNT_REG : Nat := 0x409604
def COMPUTE_PIPE_CONTROL_REG : Nat := 0x409664
def GPC_TPC_COUNT_BASE : Nat := 0x502608
def PPC_TPC_MASK_BASE : Nat := 0x500C30
def GPC_STRIDE : Nat := 0x8000
def MAX_GPCS : Nat := 6
def PPCS_PER_GPC : Nat := 3

def RAW_REGS : List Nat := (List.range MAX_GPCS).map fun slot => 0x21760 + 4 * slot
def CTRL_REGS : List Nat := (List.range MAX_GPCS).map fun slot => 0x21838 + 4 * slot
def STATUS_REGS : List Nat := (List.range MAX_GPCS).map fun slot => 0x21C38 + 4 * slot

def PHYSICAL_REGS : List Nat :=
  [PMC_REG, POST_REG, GPC_STATUS_REG] ++
    (List.range MAX_GPCS).flatMap fun slot => [0x21760 + 4 * slot, 0x21838 + 4 * slot, 0x21C38 + 4 * slot]

def maskReturn : Chars := "gr_reset_mask_return".toList
def resetReturn : Chars := "gr_reset_return".toList

def CORE_SEQUENCE : List Chars :=
  ["nvidia_baseline".toList, "post_entry".toList, "post_return".toList, maskReturn, resetReturn,
    "oneinit_entry".toList, "oneinit_return".toList, "ctxctl_entry".toList, "ctxctl_return".toList]

def NONRESET_SEQUENCE : List Chars :=
  CORE_SEQUENCE.filter fun name => !(name == maskReturn || name == resetReturn)

def LOGICAL_STAGES : List Chars :=
  ["nvidia_baseline".toList, "oneinit_return".toList, "ctxctl_entry".toList, "ctxctl_return".toList]

/-- `sorted(MISSED_SYMBOLS)`. -/
def MISSED_SYMBOLS : List Chars :=
  ["gf100_gr_init_ctxctl_ext".toList, "gf100_gr_oneinit".toList, "nvkm_devinit_post".toList, "nvkm_mc_reset".toList,
    "nvkm_mc_reset_mask".toList]

/-! ### Errors -/

/-- The names of the bits of the collector's `invalid` field. -/
inductive InvalidFlag
  | allOnesValue
  | valueBufferOverflow
  | badGpcCountOrMissingPmcGrBit
  | unknownBits (bits : Int)
  deriving DecidableEq

/-- The errors that name one stage by its seq and its name. -/
inductive Fault
  | invalidStageTime
  | nonmonotonicStageTime
  | collectorInvalid (invalid : Int) (flags : List InvalidFlag)
  | negativeReturn (rc : Int)
  | duplicateRegister (registers : List Nat)
  | allOnesValue (registers : List Nat)
  | missingPhysicalRegisters (registers : List Nat)
  | logicalValuesAtUnsafeStage
  | pmcGrBitClear
  | missingLogicalGpcCount
  | invalidLogicalGpcCount (count : Nat)
  | missingComputePipeControl
  | missingGpcTpcCounts (registers : List Nat)
  | missingPpcMasks (registers : List Nat)
  | unexpectedReturn (expected observed : Int)
  | postValueNotBoolean (observed : Int)
  deriving DecidableEq

inductive Problem
  | missingEnd
  | missingBeginBdf
  | bdfMismatch (beginBdf endBdf : Option Chars)
  | missingDeclaredRecordCount
  | recordCountMismatch (declared : Int) (parsed : Nat)
  | missingDroppedCount
  | recordsDropped (dropped : Int)
  | invalidPmuPresent (observed : Option Int)
  | unparsedCaptureLines (count : Nat)
  | orphanValues (count : Nat)
  | unexpectedLiveGrType (expected observed : Int)
  | duplicateStageSeq (seqs : List Int)
  | noncontiguousStageSeq (observed : List Int)
  | fault (seq : Int) (stage : Chars) (fault : Fault)
  | missingStage (stage : Chars)
  | duplicateStage (stage : Chars) (seqs : List Int)
  | ambiguousInitialReset (maskSeqs resetSeqs : List Int)
  | initialResetWindowUnavailable
  | unclassifiedResetEvents (seqs : List Int)
  | stageOrder (expected observed : List Chars)
  | postValueMismatch (entry returned : Int)
  | forcedPostRequiresPmu (pmuPresent : Option Int)
  | probeMissed (symbol : Chars) (nmissed : Int)
  | missingMissedCounter (symbol : Chars)
  | duplicateMissedCounter (symbol : Chars) (count : Nat)
  deriving DecidableEq

inductive Warning
  | armedLineNotPresent (expected : Int)
  deriving DecidableEq

/-- The errors of a condition that is to be reported. -/
def reportIf {α : Type} (condition : Bool) (error : α) : List α := if condition then [error] else []

/-! ### Values -/

/-- The two results of `_value_map`: the first value of each register, in the order of the lines, and the registers of
the later ones. -/
structure ValueMap where
  values : List (Nat × Nat) := []
  duplicates : List Nat := []

def ValueMap.regs (m : ValueMap) : List Nat := m.values.map (·.1)

/-- `values[reg]`. -/
def ValueMap.get (m : ValueMap) (reg : Nat) : Option Nat := (m.values.find? fun item => item.1 == reg).map (·.2)

def ValueMap.has (m : ValueMap) (reg : Nat) : Bool := m.regs.contains reg

def ValueMap.add (m : ValueMap) (item : Value) : ValueMap :=
  if m.has item.reg then { m with duplicates := m.duplicates ++ [item.reg] }
  else { m with values := m.values ++ [(item.reg, item.value)] }

/-- `_value_map`. -/
def valueMap (stage : Stage) : ValueMap := stage.values.foldl ValueMap.add {}

/-! ### Observed mask changes -/

/-- The registers of a family at a stage, by slot. -/
structure Observation where
  seq : Int
  stage : Chars
  raw : List (Option Nat)
  ctrl : List (Option Nat)
  status : List (Option Nat)
  deriving DecidableEq

structure ChangedSlots where
  raw : List Nat
  ctrl : List Nat
  status : List Nat
  deriving DecidableEq

structure Transition where
  fromSeq : Int
  fromStage : Chars
  toSeq : Int
  toStage : Chars
  changedSlots : ChangedSlots
  changed : Bool
  deriving DecidableEq

structure MaskComparison where
  observations : List Observation
  transitions : List Transition
  anyObservedChange : Bool
  deriving DecidableEq

def observe (stage : Stage) : Observation :=
  let values := valueMap stage
  { seq := stage.seq, stage := stage.name, raw := RAW_REGS.map values.get, ctrl := CTRL_REGS.map values.get
    status := STATUS_REGS.map values.get }

/-- The slots at which both values are there and differ. -/
def changedSlots (before after : List (Option Nat)) : List Nat :=
  ((before.zip after).zipIdx.filter fun entry => entry.1.1.isSome && entry.1.2.isSome && entry.1.1 != entry.1.2).map
    (·.2)

def transition (before after : Observation) : Transition :=
  let changed := { raw := changedSlots before.raw after.raw, ctrl := changedSlots before.ctrl after.ctrl
                   status := changedSlots before.status after.status : ChangedSlots }
  { fromSeq := before.seq, fromStage := before.stage, toSeq := after.seq, toStage := after.stage
    changedSlots := changed
    changed := !changed.raw.isEmpty || !changed.ctrl.isEmpty || !changed.status.isEmpty }

/-- `sorted(items, key=lambda item: item["seq"])`. -/
def sortBySeq (stages : List Stage) : List Stage := Keyed.sort (·.seq) stages

/-- `_mask_observations`. -/
def maskObservations (stages : List Stage) : MaskComparison :=
  let observations := (sortBySeq stages).map observe
  let transitions := (observations.zip observations.tail).map fun pair => transition pair.1 pair.2
  { observations := observations, transitions := transitions, anyObservedChange := transitions.any (·.changed) }

/-! ### Boundaries and counts -/

/-- `sorted(set(seqs))`. -/
def sortedSet {α : Type} [LinearOrder α] (items : List α) : List α := Keyed.sort id items.dedup

def boundaryErrors (run : Run) : List Problem :=
  reportIf (!run.delimiterComplete) Problem.missingEnd
    ++ reportIf (run.beginBdf.getD []).isEmpty Problem.missingBeginBdf
    ++ reportIf (run.delimiterComplete && run.beginBdf != run.endBdf) (Problem.bdfMismatch run.beginBdf run.endBdf)

def countErrors (run : Run) : List Problem :=
  (match run.declaredRecords with
    | none => [Problem.missingDeclaredRecordCount]
    | some declared => reportIf (declared != run.stages.length) (Problem.recordCountMismatch declared run.stages.length))
  ++ (match run.dropped with
    | none => [Problem.missingDroppedCount]
    | some dropped => reportIf (dropped != 0) (Problem.recordsDropped dropped))
  ++ reportIf (!([none, some (-1), some 0, some 1].contains run.pmuPresent)) (Problem.invalidPmuPresent run.pmuPresent)
  ++ reportIf (!run.unparsedLines.isEmpty) (Problem.unparsedCaptureLines run.unparsedLines.length)
  ++ reportIf (!run.orphanValues.isEmpty) (Problem.orphanValues run.orphanValues.length)

def armedErrors (run : Run) : List Problem :=
  match run.armedLiveGrType with
  | some observed => reportIf (observed != expectedLiveGrType) (.unexpectedLiveGrType expectedLiveGrType observed)
  | none => []

def armedWarnings (run : Run) : List Warning :=
  reportIf run.armedLiveGrType.isNone (.armedLineNotPresent expectedLiveGrType)

def seqsOf (stages : List Stage) : List Int := stages.map (·.seq)

/-- `list(range(n))`. -/
def contiguous (n : Nat) : List Int := (List.range n).map fun i : Nat => (i : Int)

def seqErrors (stages : List Stage) : List Problem :=
  let seqs := seqsOf stages
  reportIf (!decide seqs.Nodup) (Problem.duplicateStageSeq (sortedSet (seqs.filter fun seq => 1 < seqs.count seq)))
    ++ reportIf (seqs != contiguous seqs.length) (Problem.noncontiguousStageSeq seqs)

/-! ### The loop over the stages -/

/-- The names of the bits of a nonzero `invalid` field. -/
def invalidFlags (invalid : Int) : List InvalidFlag :=
  reportIf (invalid % 2 != 0) InvalidFlag.allOnesValue
    ++ reportIf (invalid / 2 % 2 != 0) InvalidFlag.valueBufferOverflow
    ++ reportIf (invalid / 4 % 2 != 0) InvalidFlag.badGpcCountOrMissingPmcGrBit
    ++ reportIf (invalid - invalid % 8 != 0) (InvalidFlag.unknownBits (invalid - invalid % 8))

def timeFaults (previousStart : Option Int) (stage : Stage) : List Fault :=
  reportIf (stage.endNs < stage.startNs) Fault.invalidStageTime
    ++ (match previousStart with
      | none => []
      | some previous => reportIf (stage.startNs < previous) Fault.nonmonotonicStageTime)

def collectorFaults (stage : Stage) : List Fault :=
  reportIf (stage.invalid != 0) (Fault.collectorInvalid stage.invalid (invalidFlags stage.invalid))
    ++ reportIf (stage.rc < 0) (Fault.negativeReturn stage.rc)

def isLogicalReg (reg : Nat) : Bool :=
  reg == LOGICAL_GPC_COUNT_REG || reg == COMPUTE_PIPE_CONTROL_REG
    || (PPC_TPC_MASK_BASE ≤ reg && reg < PPC_TPC_MASK_BASE + MAX_GPCS * GPC_STRIDE)
    || (GPC_TPC_COUNT_BASE ≤ reg && reg < GPC_TPC_COUNT_BASE + MAX_GPCS * GPC_STRIDE)

def registerFaults (stage : Stage) (m : ValueMap) : List Fault :=
  let allOnes := (m.values.filter fun item => item.2 == 0xFFFFFFFF).map (·.1)
  let missing := PHYSICAL_REGS.filter fun reg => !m.has reg
  reportIf (!m.duplicates.isEmpty) (Fault.duplicateRegister (sortedSet m.duplicates))
    ++ reportIf (!allOnes.isEmpty) (Fault.allOnesValue allOnes)
    ++ reportIf (!missing.isEmpty) (Fault.missingPhysicalRegisters missing)
    ++ reportIf (!LOGICAL_STAGES.contains stage.name && m.regs.any isLogicalReg) Fault.logicalValuesAtUnsafeStage

def tpcCountReg (gpc : Nat) : Nat := GPC_TPC_COUNT_BASE + GPC_STRIDE * gpc

def ppcMaskReg (gpc ppc : Nat) : Nat := PPC_TPC_MASK_BASE + GPC_STRIDE * gpc + 4 * ppc

/-- `stage["logical_topology"]`. -/
structure Topology where
  gpcCount : Nat
  tpcCountsLowByte : List Nat
  tpcCountSum : Option Nat
  ppcMasksComplete : Bool
  deriving DecidableEq

/-- The checks of the registers behind a readable GPC count. -/
def topologyFaults (m : ValueMap) (gpcCount : Nat) : List Fault × Topology :=
  let countRegs := (List.range gpcCount).map tpcCountReg
  let ppcRegs := (List.range gpcCount).flatMap fun gpc => (List.range PPCS_PER_GPC).map (ppcMaskReg gpc)
  let tpcCounts := (countRegs.filterMap m.get).map (· % 0x100)
  let missingCounts := countRegs.filter fun reg => !m.has reg
  let missingPpc := ppcRegs.filter fun reg => !m.has reg
  (reportIf (!m.has COMPUTE_PIPE_CONTROL_REG) Fault.missingComputePipeControl
    ++ reportIf (!missingCounts.isEmpty) (Fault.missingGpcTpcCounts missingCounts)
    ++ reportIf (!missingPpc.isEmpty) (Fault.missingPpcMasks missingPpc),
   { gpcCount := gpcCount, tpcCountsLowByte := tpcCounts
     tpcCountSum := if missingCounts.isEmpty then some tpcCounts.sum else none
     ppcMasksComplete := missingPpc.isEmpty })

/-- The checks of a logical stage. -/
def logicalFaults (m : ValueMap) : List Fault × Option Topology :=
  let pmc := match m.get PMC_REG with
    | some value => reportIf (value &&& 0x1000 == 0) Fault.pmcGrBitClear
    | none => []
  match m.get LOGICAL_GPC_COUNT_REG with
  | none => (pmc ++ [.missingLogicalGpcCount], none)
  | some value =>
    let gpcCount := value &&& 0x1F
    -- the two `continue`s of the source: nothing behind an unreadable count is checked
    if 1 ≤ gpcCount ∧ gpcCount ≤ MAX_GPCS then
      (pmc ++ (topologyFaults m gpcCount).1, some (topologyFaults m gpcCount).2)
    else (pmc ++ [.invalidLogicalGpcCount gpcCount], none)

/-- One pass of the loop: the errors, and the topology if one is stored. -/
def stageFaults (previousStart : Option Int) (stage : Stage) : List Fault × Option Topology :=
  let m := valueMap stage
  let logical := if LOGICAL_STAGES.contains stage.name then logicalFaults m else ([], none)
  (timeFaults previousStart stage ++ collectorFaults stage ++ registerFaults stage m ++ logical.1, logical.2)

/-- The loop behind a stage that started at `previousStart`. -/
def stagesErrors (previousStart : Option Int) : List Stage → List Problem
  | [] => []
  | stage :: stages =>
    (stageFaults previousStart stage).1.map (.fault stage.seq stage.name) ++ stagesErrors (some stage.startNs) stages

def topologies (previousStart : Option Int) : List Stage → List (Option Topology)
  | [] => []
  | stage :: stages => (stageFaults previousStart stage).2 :: topologies (some stage.startNs) stages

/-! ### The sequence -/

/-- `by_name.get(name, [])`. -/
def named (stages : List Stage) (name : Chars) : List Stage := stages.filter fun stage => stage.name == name

/-- `unique_stages.get(name)`. -/
def unique (stages : List Stage) (name : Chars) : Option Stage :=
  match named stages name with
  | [stage] => some stage
  | _ => none

def nameErrors (stages : List Stage) : List Problem :=
  NONRESET_SEQUENCE.flatMap fun name =>
    match named stages name with
    | [] => [.missingStage name]
    | [_] => []
    | found => [.duplicateStage name (seqsOf found)]

/-- The pairs of a mask return and a reset return, by their seqs. -/
structure ResetPair where
  maskSeq : Int
  resetSeq : Int
  deriving DecidableEq

/-- The events of a name between two seqs. -/
def within (low high : Int) (stages : List Stage) : List Stage :=
  stages.filter fun stage => low < stage.seq && stage.seq < high

/-- The initial pair between the end of POST and the start of `oneinit`, or the error. -/
def initialReset (stages : List Stage) : Except Problem ResetPair :=
  match unique stages "post_return".toList, unique stages "oneinit_entry".toList with
  | some postReturn, some oneinitEntry =>
    let masks := within postReturn.seq oneinitEntry.seq (named stages maskReturn)
    let resets := within postReturn.seq oneinitEntry.seq (named stages resetReturn)
    match masks, resets with
    | [mask], [reset] =>
      if mask.seq + 1 = reset.seq then .ok { maskSeq := mask.seq, resetSeq := reset.seq }
      else .error (.ambiguousInitialReset (seqsOf masks) (seqsOf resets))
    | _, _ => .error (.ambiguousInitialReset (seqsOf masks) (seqsOf resets))
  | _, _ => .error .initialResetWindowUnavailable

/-- The pairing loop: the pairs, and the seqs it leaves. -/
def pairTrailing : List Stage → List ResetPair × List Int
  | [] => ([], [])
  | [stage] => ([], [stage.seq])
  | mask :: reset :: rest =>
    if mask.name = maskReturn ∧ reset.name = resetReturn ∧ mask.seq + 1 = reset.seq then
      ({ maskSeq := mask.seq, resetSeq := reset.seq } :: (pairTrailing rest).1, (pairTrailing rest).2)
    else ((pairTrailing rest).1, mask.seq :: reset.seq :: (pairTrailing rest).2)

/-- The reset events behind the unique `ctxctl_return`, by seq. -/
def trailing (stages : List Stage) : List Stage :=
  match unique stages "ctxctl_return".toList with
  | some ctxctlReturn =>
    sortBySeq ((named stages maskReturn ++ named stages resetReturn).filter fun stage => ctxctlReturn.seq < stage.seq)
  | none => []

structure ResetClassification where
  initialPair : Option ResetPair
  postCtxctlPairs : List ResetPair
  unclassified : List Int
  deriving DecidableEq

def ResetPair.seqs (pair : ResetPair) : List Int := [pair.maskSeq, pair.resetSeq]

def classifyResets (stages : List Stage) : ResetClassification :=
  let initial := (initialReset stages).toOption
  let paired := pairTrailing (trailing stages)
  let classified := initial.toList.flatMap ResetPair.seqs ++ paired.1.flatMap ResetPair.seqs
  let all := seqsOf (named stages maskReturn ++ named stages resetReturn)
  let unclassified := sortedSet (all.filter fun seq => !classified.contains seq)
  { initialPair := initial, postCtxctlPairs := paired.1, unclassified := sortedSet (paired.2 ++ unclassified) }

def resetErrors (stages : List Stage) : List Problem :=
  (match initialReset stages with
    | .ok _ => []
    | .error problem => [problem])
  ++ reportIf (!(classifyResets stages).unclassified.isEmpty)
      (Problem.unclassifiedResetEvents (classifyResets stages).unclassified)

/-- The unique stages and the initial pair, by name and seq. -/
def actualCore (stages : List Stage) : List (Chars × Int) :=
  (NONRESET_SEQUENCE.filterMap fun name => (unique stages name).map fun stage => (name, stage.seq))
    ++ (match (initialReset stages).toOption with
      | some pair => [(maskReturn, pair.maskSeq), (resetReturn, pair.resetSeq)]
      | none => [])

def orderErrors (stages : List Stage) : List Problem :=
  let core := actualCore stages
  let observed := (Keyed.sort (·.2) core).map (·.1)
  reportIf (core.length == CORE_SEQUENCE.length && observed != CORE_SEQUENCE) (.stageOrder CORE_SEQUENCE observed)

/-! ### Results -/

def returnFault (expected : Int) (stage : Stage) : List Problem :=
  reportIf (stage.rc != expected) (.fault stage.seq stage.name (.unexpectedReturn expected stage.rc))

def coreReturnErrors (stages : List Stage) : List Problem :=
  NONRESET_SEQUENCE.flatMap fun name => (unique stages name).toList.flatMap (returnFault 0)

def postValueErrors (stage : Stage) : List Problem :=
  reportIf (!(stage.post == 0 || stage.post == 1)) (.fault stage.seq stage.name (.postValueNotBoolean stage.post))

def postErrors (run : Run) : List Problem :=
  match unique run.stages "post_entry".toList, unique run.stages "post_return".toList with
  | some entry, some returned =>
    postValueErrors entry ++ postValueErrors returned
      ++ reportIf (entry.post != returned.post) (.postValueMismatch entry.post returned.post)
      ++ reportIf ((entry.post == 1 || returned.post == 1) && run.pmuPresent != some 1)
          (.forcedPostRequiresPmu run.pmuPresent)
  | _, _ => []

def resetReturnErrors (stages : List Stage) : List Problem :=
  (named stages maskReturn).flatMap (returnFault 0x1000) ++ (named stages resetReturn).flatMap (returnFault 0)

def missedErrors (missed : List Missed) : List Problem :=
  (missed.flatMap fun item => reportIf (item.nmissed != 0) (Problem.probeMissed item.symbol item.nmissed))
    ++ MISSED_SYMBOLS.flatMap fun symbol =>
      match missed.filter fun item => item.symbol == symbol with
      | [] => [Problem.missingMissedCounter symbol]
      | [_] => []
      | found => [Problem.duplicateMissedCounter symbol found.length]

/-! ### The verdict -/

def errorsOf (run : Run) : List Problem :=
  boundaryErrors run ++ countErrors run ++ armedErrors run ++ seqErrors run.stages ++ stagesErrors none run.stages
    ++ nameErrors run.stages ++ resetErrors run.stages ++ orderErrors run.stages ++ coreReturnErrors run.stages
    ++ postErrors run ++ resetReturnErrors run.stages ++ missedErrors run.missed

/-- A run with what `_validate_run` stores in it. -/
structure Verdict where
  run : Run
  topologies : List (Option Topology)
  resetClassification : ResetClassification
  maskComparison : MaskComparison
  errors : List Problem
  warnings : List Warning
  deriving DecidableEq

/-- `validation["valid"]`. -/
def Verdict.valid (v : Verdict) : Bool := v.errors.isEmpty

/-- `_validate_run`. -/
def validateRun (run : Run) : Verdict :=
  { run := run
    topologies := Stages.topologies none run.stages
    resetClassification := classifyResets run.stages
    maskComparison := maskObservations run.stages
    errors := errorsOf run
    warnings := armedWarnings run }

end CmpUnlocker.Stages
