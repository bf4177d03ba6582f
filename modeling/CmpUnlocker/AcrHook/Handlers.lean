import CmpUnlocker.Lib.Pool
import CmpUnlocker.Lib.Trace

/-!
# The ACR descriptor hook: the return handlers

`load_bld_return` and `falcon_boot_return` of `gv100_nouveau_acr_hook.c` as programs of atomic counter operations and
32-bit register accesses.  Falcon DMEM is reached through two registers shared by all handlers: the control port
selects an address, and the data port reads or writes the word there.  Every return of a probed function is a handler
of its own; any number of them run side by side, and nouveau or the Falcon may move the control port or store in DMEM
at any time.
-/

namespace CmpUnlocker.AcrHook

open Interaction

/-! ### Registers and module parameters -/

abbrev U32 : Type := BitVec 32

abbrev U64 : Type := BitVec 64

def pmuBase : U32 := 0x0010a000#32

def sec2Base : U32 := 0x00840000#32

def flcnMailbox0 : U32 := 0x040#32

def flcnMailbox1 : U32 := 0x044#32

def flcnDmemc : U32 := 0x1c0#32

def flcnDmemd : U32 := 0x1c4#32

def dmemDataSizeOffset : U32 := 0x48#32

/-- `BIT(24)`. -/
def dmemcAutoincrement : U32 := 0x01000000#32

/-- `BIT(25)`. -/
def dmemcRead : U32 := 0x02000000#32

def stockDataSize : U32 := 0x600#32

def testDataSize : U32 := 0x700#32

/-- The parameters the return handlers read.  They are fixed while the module is loaded (mode `0400`). -/
structure Params where
  armed : Bool
  replaceOnReturn : U32

/-! ### Requests -/

/-- The counters the return handlers touch. -/
inductive Counter
  | returnsSeen
  | replacements
  | bootReturnsSeen
  deriving DecidableEq

/-- What a handler prints: the arguments of `pr_notice`. -/
inductive Notice
  | loadReturn (call : U64) (armed : Bool) (before after : U32) (replaced : Bool)
  | bootReturn (call functionRc : U64) (d600 d6fc mailbox0 mailbox1 sec2Mailbox0 sec2Mailbox1 fecsPlm tensor : U32)

/-- The atomic operations of a handler; registers are named by their offsets from `bar0`. -/
inductive Request
  | incReturn (counter : Counter)
  | inc (counter : Counter)
  | iowrite32 (value offset : U32)
  | ioread32 (offset : U32)
  | notice (text : Notice)

abbrev Request.Answer : Request → Type
  | .incReturn _ => U64
  | .inc _ => Unit
  | .iowrite32 _ _ => Unit
  | .ioread32 _ => U32
  | .notice _ => Unit

abbrev Routine (α : Type) : Type := Prog Request Request.Answer Empty α

def incReturn (counter : Counter) : Routine U64 := Prog.request (Request.incReturn counter)

def inc (counter : Counter) : Routine Unit := Prog.request (Request.inc counter)

def iowrite32 (value offset : U32) : Routine Unit := Prog.request (Request.iowrite32 value offset)

def ioread32 (offset : U32) : Routine U32 := Prog.request (Request.ioread32 offset)

def notice (text : Notice) : Routine Unit := Prog.request (Request.notice text)

/-! ### The handlers -/

def flcnDmemRead (base address : U32) : Routine U32 := do
  iowrite32 (dmemcRead ||| (address &&& 0xffff#32)) (base + flcnDmemc)
  ioread32 (base + flcnDmemd)

def flcnDmemWrite (base address value : U32) : Routine Unit := do
  iowrite32 ((address &&& 0xffff#32) ||| dmemcAutoincrement) (base + flcnDmemc)
  iowrite32 value (base + flcnDmemd)

/-- The condition under which the return `call` is the one to change, with `before` read. -/
def Params.due (hook : Params) (call : U64) (before : U32) : Prop :=
  hook.armed = true ∧ call = hook.replaceOnReturn.setWidth 64 ∧ before = stockDataSize

instance (hook : Params) (call : U64) (before : U32) : Decidable (hook.due call before) :=
  inferInstanceAs (Decidable (_ ∧ _ ∧ _))

/-- The part of `load_bld_return` after its first read of the data size. -/
def replaceDataSize (hook : Params) (call : U64) (before : U32) : Routine Unit := do
  let after ← if hook.due call before then do
      flcnDmemWrite pmuBase dmemDataSizeOffset testDataSize
      let after ← flcnDmemRead pmuBase dmemDataSizeOffset
      Prog.when (after = testDataSize) (inc .replacements)
      pure after
    else pure before
  notice (.loadReturn call hook.armed before after (decide (before = stockDataSize ∧ after = testDataSize)))

def loadBldReturn (hook : Params) : Routine Unit := do
  let call ← incReturn .returnsSeen
  let before ← flcnDmemRead pmuBase dmemDataSizeOffset
  replaceDataSize hook call before

/-- The argument is the return value of the probed function. -/
def falconBootReturn (functionRc : U64) : Routine Unit := do
  let call ← incReturn .bootReturnsSeen
  let d600 ← flcnDmemRead pmuBase 0x600#32
  let d6fc ← flcnDmemRead pmuBase 0x6fc#32
  let mailbox0 ← ioread32 (pmuBase + flcnMailbox0)
  let mailbox1 ← ioread32 (pmuBase + flcnMailbox1)
  let sec2Mailbox0 ← ioread32 (sec2Base + flcnMailbox0)
  let sec2Mailbox1 ← ioread32 (sec2Base + flcnMailbox1)
  let fecsPlm ← ioread32 0x00409650#32
  let tensor ← ioread32 0x00409664#32
  notice (.bootReturn call functionRc d600 d6fc mailbox0 mailbox1 sec2Mailbox0 sec2Mailbox1 fecsPlm tensor)

/-- A return of one of the two probed functions. -/
inductive Return
  | loadBld
  | falconBoot (functionRc : U64)

def Return.handler (hook : Params) : Return → Routine Unit
  | .loadBld => loadBldReturn hook
  | .falconBoot functionRc => falconBootReturn functionRc

/-! ### The world -/

/-- A write of the data port by a handler: the word at `offset` goes from `before` to `after`. -/
structure Store where
  offset : U32
  before : U32
  after : U32
  deriving DecidableEq

/-- PMU DMEM by word offset, the control word of its port, and the counters of the module.  The stores made by the
handlers are recorded. -/
structure World where
  dmem : U32 → U32
  dmemc : U32
  returnsSeen : U64
  replacements : U64
  bootReturnsSeen : U64
  stores : List Store

namespace World

/-- The offset the next access of the data port uses. -/
def selected (w : World) : U32 := w.dmemc &&& 0xffff#32

def counter (w : World) : Counter → U64
  | .returnsSeen => w.returnsSeen
  | .replacements => w.replacements
  | .bootReturnsSeen => w.bootReturnsSeen

def bump (w : World) : Counter → World
  | .returnsSeen => { w with returnsSeen := w.returnsSeen + 1 }
  | .replacements => { w with replacements := w.replacements + 1 }
  | .bootReturnsSeen => { w with bootReturnsSeen := w.bootReturnsSeen + 1 }

/-- DMEM after a store of `value` at `offset`. -/
def poke (w : World) (offset value : U32) : U32 → U32 := Function.update w.dmem offset value

end World

/-- What becomes of the control word when the data port is read or written (the address may advance). -/
structure Advance where
  onRead : U32 → U32
  onWrite : U32 → U32

variable (hw : Advance)

/-- The effect of a handler's request.  Registers outside the DMEM port of the PMU read as `registers` says, and
writing one of them does not reach DMEM. -/
def answer (registers : U32 → U32) (w : World) : (o : Request) → o.Answer × World
  | .incReturn counter => (w.counter counter + 1, w.bump counter)
  | .inc counter => ((), w.bump counter)
  | .iowrite32 value offset =>
    if offset = pmuBase + flcnDmemc then ((), { w with dmemc := value })
    else if offset = pmuBase + flcnDmemd then
      ((), { w with
        dmem := w.poke w.selected value
        dmemc := hw.onWrite w.dmemc
        stores := w.stores ++ [⟨w.selected, w.dmem w.selected, value⟩] })
    else ((), w)
  | .ioread32 offset =>
    if offset = pmuBase + flcnDmemc then (w.dmemc, w)
    else if offset = pmuBase + flcnDmemd then (w.dmem w.selected, { w with dmemc := hw.onRead w.dmemc })
    else (registers offset, w)
  | .notice _ => ((), w)

/-- A request may be answered with any contents of the other registers. -/
def env : Env Request Request.Answer World := fun w o r w' => ∃ registers, answer hw registers w o = (r, w')

/-- What others than the handlers do to the DMEM of the PMU and its port. -/
inductive Outside
  | store (offset value : U32)
  | select (control : U32)

def Outside.act : Outside → World → World
  | .store offset value, w => { w with dmem := w.poke offset value }
  | .select control, w => { w with dmemc := control }

def outsiders (a : Outside) (w w' : World) : Prop := w' = a.act w

/-- The module just loaded, with the handlers of the returns still to come. -/
def loaded {ι : Type} (hook : Params) (returns : ι → Return) (dmem : U32 → U32) (dmemc : U32) :
    Pool ι Request Request.Answer Empty Unit World :=
  ⟨fun i => (returns i).handler hook, ⟨dmem, dmemc, 0, 0, 0, []⟩⟩

/-! ### What a request can do to DMEM -/

/-- The request neither counts a return of `gp108_acr_hsfw_load_bld` nor writes the data port. -/
def Request.Quiet : Request → Prop
  | .incReturn counter => counter ≠ .returnsSeen
  | .inc counter => counter ≠ .returnsSeen
  | .iowrite32 _ offset => offset ≠ pmuBase + flcnDmemd
  | .ioread32 _ => True
  | .notice _ => True

section

variable {hw} {w w' : World}

private theorem bump_quiet {counter : Counter} (h : counter ≠ .returnsSeen) :
    (w.bump counter).dmem = w.dmem ∧ (w.bump counter).stores = w.stores ∧
      (w.bump counter).returnsSeen = w.returnsSeen := by
  cases counter with
  | returnsSeen => exact absurd rfl h
  | replacements => exact ⟨rfl, rfl, rfl⟩
  | bootReturnsSeen => exact ⟨rfl, rfl, rfl⟩

theorem env_quiet {o : Request} {r : o.Answer} (h : env hw w o r w') (ho : o.Quiet) :
    w'.dmem = w.dmem ∧ w'.stores = w.stores ∧ w'.returnsSeen = w.returnsSeen := by
  obtain ⟨registers, h⟩ := h
  have hw' : w' = (answer hw registers w o).2 := by rw [h]
  subst hw'
  cases o with
  | incReturn counter => exact bump_quiet ho
  | inc counter => exact bump_quiet ho
  | notice text => exact ⟨rfl, rfl, rfl⟩
  | ioread32 offset =>
    simp only [answer]
    split
    · exact ⟨rfl, rfl, rfl⟩
    · split <;> exact ⟨rfl, rfl, rfl⟩
  | iowrite32 value offset =>
    have hoff : offset ≠ pmuBase + flcnDmemd := ho
    simp only [answer, if_neg hoff]
    split <;> exact ⟨rfl, rfl, rfl⟩

theorem env_incReturn {counter : Counter} {r : U64} (h : env hw w (.incReturn counter) r w') :
    r = w.counter counter + 1 ∧ w' = w.bump counter := by
  obtain ⟨registers, h⟩ := h
  obtain ⟨hr, hw'⟩ := Prod.mk.inj h
  exact ⟨hr.symm, hw'.symm⟩

theorem env_data_write {value : U32} {r : Unit} (h : env hw w (.iowrite32 value (pmuBase + flcnDmemd)) r w') :
    w'.dmem = w.poke w.selected value ∧ w'.stores = w.stores ++ [⟨w.selected, w.dmem w.selected, value⟩] ∧
      w'.returnsSeen = w.returnsSeen := by
  obtain ⟨registers, h⟩ := h
  have hne : pmuBase + flcnDmemd ≠ pmuBase + flcnDmemc := by decide
  simp only [answer, if_neg hne, if_pos] at h
  obtain ⟨-, rfl⟩ := Prod.mk.inj h
  exact ⟨rfl, rfl, rfl⟩

theorem env_data_read {r : U32} (h : env hw w (.ioread32 (pmuBase + flcnDmemd)) r w') : r = w.dmem w.selected := by
  obtain ⟨registers, h⟩ := h
  have hne : pmuBase + flcnDmemd ≠ pmuBase + flcnDmemc := by decide
  simp only [answer, if_neg hne, if_pos] at h
  exact (Prod.mk.inj h).1.symm

/-- A handler changes DMEM only by a write of the data port, and such a write is recorded. -/
theorem env_recorded {o : Request} {r : o.Answer} (h : env hw w o r w') (hne : w'.dmem ≠ w.dmem) :
    ∃ value, w'.dmem = w.poke w.selected value ∧
      w'.stores = w.stores ++ [⟨w.selected, w.dmem w.selected, value⟩] := by
  by_cases ho : o.Quiet
  · exact absurd (env_quiet h ho).1 hne
  cases o with
  | incReturn counter =>
    obtain ⟨-, rfl⟩ := env_incReturn h
    cases counter <;> exact absurd rfl hne
  | inc counter =>
    obtain ⟨registers, h⟩ := h
    obtain ⟨-, rfl⟩ := Prod.mk.inj h
    cases counter <;> exact absurd rfl hne
  | notice text => exact absurd trivial ho
  | ioread32 offset => exact absurd trivial ho
  | iowrite32 value offset =>
    obtain rfl : offset = pmuBase + flcnDmemd := Decidable.of_not_not ho
    obtain ⟨hd, hs, -⟩ := env_data_write h
    exact ⟨value, hd, hs⟩

end

end CmpUnlocker.AcrHook
