import CmpUnlocker.AcrHook.Handlers
import Mathlib.Data.Int.Notation
import Mathlib.Data.Nat.Notation

/-!
# The ACR descriptor hook: loading and unloading

`gv100_nouveau_acr_hook_init` and `gv100_nouveau_acr_hook_exit` as programs of the kernel calls they make, any of which
may fail.  The handler of a registered probe runs at any time and goes through `bar0`.  Over any number of loads, with
any parameters, a probe is registered only while the registers are mapped and the device is referenced, nothing is
released that is not held, and nothing is held while the module is not loaded (`loads_balanced`).
-/

namespace CmpUnlocker.AcrHook

open Interaction

/-! ### Kernel calls -/

/-- The probed functions: `nvkm_falcon_pio_wr`, `gp108_acr_hsfw_load_bld` and `gm200_flcn_fw_boot`. -/
inductive Probe
  | pioWr
  | loadBld
  | falconBoot
  deriving DecidableEq, Repr

structure PciId where
  vendor : BitVec 16
  device : BitVec 16
  deriving DecidableEq, Repr

def targetVendor : BitVec 16 := 0x10de#16

def targetDevice : BitVec 16 := 0x1d84#16

def enomem : ℤ := 12

def enodev : ℤ := 19

def einval : ℤ := 22

/-- The calls of the two functions and their uses of the static variables `gpu` and `bar0`; `statics` is the start of
a freshly loaded image. -/
inductive Call
  | statics
  | pciGetDevice (bus : U32)
  | pciDevPut
  | pciIomap
  | pciIounmap
  | registerProbe (probe : Probe)
  | unregisterProbe (probe : Probe)
  | setGpu (set : Bool)
  | setBar0 (set : Bool)
  | gpu
  | bar0

abbrev Call.Answer : Call → Type
  | .statics => Unit
  | .pciGetDevice _ => Option PciId
  | .pciDevPut => Unit
  | .pciIomap => Bool
  | .pciIounmap => Unit
  | .registerProbe _ => ℤ
  | .unregisterProbe _ => Unit
  | .setGpu _ => Unit
  | .setBar0 _ => Unit
  | .gpu => Bool
  | .bar0 => Bool

abbrev Setup (α : Type) : Type := Prog Call Call.Answer Empty α

def pciGetDevice (bus : U32) : Setup (Option PciId) := Prog.request (Call.pciGetDevice bus)

def pciIomap : Setup Bool := Prog.request Call.pciIomap

def registerProbe (probe : Probe) : Setup ℤ := Prog.request (Call.registerProbe probe)

def perform (o : Call) : Setup Unit := Prog.call o fun _ => Prog.ret ()

/-! ### The two functions -/

/-- The parameters that `gv100_nouveau_acr_hook_init` looks at. -/
structure LoadParams where
  bus : U32
  loadTestSize : U32

def AcceptedSize (size : U32) : Prop := size = 0x1100#32 ∨ size = 0x5c00#32 ∨ size = 0x5d00#32

instance (size : U32) : Decidable (AcceptedSize size) := inferInstanceAs (Decidable (_ ∨ _))

/-- The code behind the label `fail_put`. -/
def failPut (ret : ℤ) : Setup ℤ := do
  perform .pciDevPut
  perform (.setGpu false)
  pure ret

/-- The code behind the label `fail_unmap`. -/
def failUnmap (ret : ℤ) : Setup ℤ := do
  perform .pciIounmap
  perform (.setBar0 false)
  failPut ret

/-- The three registrations. -/
def registerProbes : Setup ℤ := do
  let ret ← registerProbe .pioWr
  if ret ≠ 0 then failUnmap ret
  else do
    let ret ← registerProbe .loadBld
    if ret ≠ 0 then do
      perform (.unregisterProbe .pioWr)
      failUnmap ret
    else do
      let ret ← registerProbe .falconBoot
      if ret ≠ 0 then do
        perform (.unregisterProbe .loadBld)
        perform (.unregisterProbe .pioWr)
        failUnmap ret
      else pure 0

/-- The part of `gv100_nouveau_acr_hook_init` after the device is found. -/
def setupDevice (id : PciId) : Setup ℤ :=
  if id.vendor ≠ targetVendor ∨ id.device ≠ targetDevice then failPut (-enodev)
  else do
    let mapped ← pciIomap
    perform (.setBar0 mapped)
    if mapped = false then failPut (-enomem) else registerProbes

/-- `gv100_nouveau_acr_hook_init` -/
def hookInit (p : LoadParams) : Setup ℤ :=
  if 0xff#32 < p.bus then pure (-einval)
  else if ¬AcceptedSize p.loadTestSize then pure (-einval)
  else do
    let found ← pciGetDevice p.bus
    perform (.setGpu found.isSome)
    match found with
    | none => pure (-enodev)
    | some id => setupDevice id

/-- `gv100_nouveau_acr_hook_exit` -/
def hookExit : Setup Unit := do
  perform (.unregisterProbe .falconBoot)
  perform (.unregisterProbe .loadBld)
  perform (.unregisterProbe .pioWr)
  let bar0 ← (Prog.request Call.bar0 : Setup Bool)
  Prog.when (bar0 = true) (perform .pciIounmap)
  let gpu ← (Prog.request Call.gpu : Setup Bool)
  Prog.when (gpu = true) (perform .pciDevPut)

/-- The module is loaded, and unloaded later if the loading did not fail. -/
def lifetime (p : LoadParams) : Setup Unit := do
  perform .statics
  let ret ← hookInit p
  Prog.when (0 ≤ ret) hookExit

/-! ### What the kernel keeps for the module -/

/-- The references to the device, the mappings of its registers, the registered probes, and the static variables. -/
structure Held where
  references : ℕ := 0
  mappings : ℕ := 0
  probes : List Probe := []
  gpu : Bool := false
  bar0 : Bool := false
  deriving DecidableEq, Repr

/-- The effect of a call that has been answered so. -/
def Held.after (h : Held) : (o : Call) → o.Answer → Held
  | .statics, _ => { h with gpu := false, bar0 := false }
  | .pciGetDevice _, found => if found.isSome then { h with references := h.references + 1 } else h
  | .pciDevPut, _ => { h with references := h.references - 1 }
  | .pciIomap, mapped => if mapped then { h with mappings := h.mappings + 1 } else h
  | .pciIounmap, _ => { h with mappings := h.mappings - 1 }
  | .registerProbe probe, ret => if ret = (0 : ℤ) then { h with probes := probe :: h.probes } else h
  | .unregisterProbe probe, _ => { h with probes := h.probes.erase probe }
  | .setGpu set, _ => { h with gpu := set }
  | .setBar0 set, _ => { h with bar0 := set }
  | .gpu, _ => h
  | .bar0, _ => h

/-- The static variables are read as they are, and a registration returns zero or a negative error; every other call
may be answered in any way. -/
def Call.Possible (h : Held) : (o : Call) → o.Answer → Prop
  | .registerProbe _, ret => ret ≤ (0 : ℤ)
  | .gpu, r => r = h.gpu
  | .bar0, r => r = h.bar0
  | _, _ => True

def kernel : Env Call Call.Answer Held := fun h o r h' => o.Possible h r ∧ h' = h.after o r

/-- What the call releases is held. -/
def Call.Owned (h : Held) : Call → Prop
  | .pciDevPut => 0 < h.references
  | .pciIounmap => 0 < h.mappings
  | .unregisterProbe probe => probe ∈ h.probes
  | .registerProbe probe => probe ∉ h.probes
  | _ => True

/-- A handler finds the registers mapped and the device referenced. -/
def Held.Safe (h : Held) : Prop := h.probes ≠ [] → h.bar0 = true ∧ h.mappings = 1 ∧ h.references = 1

/-- Nothing is kept. -/
def Held.Idle (h : Held) : Prop := h.references = 0 ∧ h.mappings = 0 ∧ h.probes = []

/-- What every call of the module respects. -/
def guarded : Env Call Call.Answer Held := fun h o _ h' => o.Owned h ∧ h'.Safe

/-- What the kernel keeps for a module that is loaded. -/
def Held.loaded : Held := ⟨1, 1, [.falconBoot, .loadBld, .pioWr], true, true⟩

/-! ### One call -/

private theorem Held.Safe.of_no_probes {h : Held} (hp : h.probes = []) : h.Safe := fun hne => absurd hp hne

private theorem Held.Safe.of_mapped {h : Held} (hb : h.bar0 = true) (hm : h.mappings = 1) (hr : h.references = 1) :
    h.Safe :=
  fun _ => ⟨hb, hm, hr⟩

private theorem exists_possible (o : Call) (h : Held) : ∃ r, o.Possible h r := by
  cases o with
  | pciGetDevice bus => exact ⟨none, trivial⟩
  | pciIomap => exact ⟨false, trivial⟩
  | registerProbe probe => exact ⟨(0 : ℤ), Int.le_refl 0⟩
  | gpu => exact ⟨h.gpu, rfl⟩
  | bar0 => exact ⟨h.bar0, rfl⟩
  | _ => exact ⟨(), trivial⟩

section

variable {α : Type} {Q : α → Held → Prop} {X : Empty → Held → Prop}

private theorem meets_kernel {o : Call} {k : o.Answer → Setup α} {h : Held} (hown : o.Owned h)
    (hk : ∀ r, o.Possible h r → (h.after o r).Safe ∧ Prog.Meets kernel guarded Q X (k r) (h.after o r)) :
    Prog.Meets kernel guarded Q X (Prog.call o k) h := by
  rintro r h' ⟨hr, rfl⟩
  obtain ⟨hsafe, hmeets⟩ := hk r hr
  exact ⟨⟨hown, hsafe⟩, hmeets⟩

end

/-- What is left after the start: a module that is loaded, or an error and nothing. -/
def Settled (ret : ℤ) (h : Held) : Prop := ret = 0 ∧ h = Held.loaded ∨ ret < 0 ∧ h.Idle

variable {X : Empty → Held → Prop} {h : Held} {ret : ℤ}

/-! ### The error paths -/

private theorem failPut_meets (hret : ret < 0) (href : h.references = 1) (hmap : h.mappings = 0)
    (hprobes : h.probes = []) :
    Prog.Meets kernel guarded Settled X (failPut ret) h := by
  refine meets_kernel ?_ fun _ _ => ⟨.of_no_probes hprobes, ?_⟩
  · show 0 < h.references
    omega
  refine meets_kernel trivial fun _ _ => ⟨.of_no_probes hprobes, .inr ⟨hret, ?_, hmap, hprobes⟩⟩
  show h.references - 1 = 0
  omega

private theorem failUnmap_meets (hret : ret < 0) (href : h.references = 1) (hmap : h.mappings = 1)
    (hprobes : h.probes = []) :
    Prog.Meets kernel guarded Settled X (failUnmap ret) h := by
  refine meets_kernel ?_ fun _ _ => ⟨.of_no_probes hprobes, ?_⟩
  · show 0 < h.mappings
    omega
  refine meets_kernel trivial fun _ _ => ⟨.of_no_probes hprobes, failPut_meets hret href ?_ hprobes⟩
  show h.mappings - 1 = 0
  omega

/-- The registers are mapped, and no probe is registered yet. -/
def Held.mapped : Held := ⟨1, 1, [], true, true⟩

def Held.probed (probes : List Probe) : Held := { Held.mapped with probes }

private theorem Held.probed_safe (probes : List Probe) : (Held.probed probes).Safe := .of_mapped rfl rfl rfl

/-- A registration that fails keeps nothing, and one that succeeds adds its probe. -/
theorem registerProbe_meets {α : Type} {Q : α → Held → Prop} {probe : Probe} {probes : List Probe} {k : ℤ → Setup α}
    (hnew : probe ∉ probes)
    (hfail : ∀ ret < (0 : ℤ), Prog.Meets kernel guarded Q X (k ret) (Held.probed probes))
    (hok : Prog.Meets kernel guarded Q X (k 0) (Held.probed (probe :: probes))) :
    Prog.Meets kernel guarded Q X (Prog.call (Call.registerProbe probe) k) (Held.probed probes) := by
  refine meets_kernel hnew fun ret hret => ?_
  have hle : ret ≤ (0 : ℤ) := hret
  by_cases h₀ : ret = (0 : ℤ)
  · subst h₀
    exact ⟨Held.probed_safe _, hok⟩
  · have hlt : ret < (0 : ℤ) := Int.lt_iff_le_and_ne.2 ⟨hle, h₀⟩
    have hafter : (Held.probed probes).after (.registerProbe probe) ret = Held.probed probes := if_neg h₀
    rw [hafter]
    exact ⟨Held.probed_safe _, hfail ret hlt⟩

private theorem unregisterProbe_meets {α : Type} {Q : α → Held → Prop} {probe : Probe} {probes : List Probe}
    {k : Unit → Setup α} (hk : Prog.Meets kernel guarded Q X (k ()) (Held.probed probes)) :
    Prog.Meets kernel guarded Q X (Prog.call (Call.unregisterProbe probe) k) (Held.probed (probe :: probes)) := by
  refine meets_kernel List.mem_cons_self fun r _ => ?_
  have hafter : (Held.probed (probe :: probes)).after (.unregisterProbe probe) r = Held.probed probes := by
    simp [Held.after, Held.probed]
  rw [hafter]
  exact ⟨Held.probed_safe _, hk⟩

private theorem failUnmap_probed (hret : ret < 0) :
    Prog.Meets kernel guarded Settled X (failUnmap ret) (Held.probed []) :=
  failUnmap_meets hret rfl rfl rfl

/-- Every registration that fails is followed by the removal of the ones before it. -/
theorem registerProbes_meets : Prog.Meets kernel guarded Settled X registerProbes (Held.probed []) := by
  simp only [registerProbes, registerProbe, perform, Prog.bind_eq, Prog.request_bind, Prog.call_bind, Prog.ret_bind]
  refine registerProbe_meets (by simp) (fun ret hret => ?_) ?_
  · rw [if_pos (by omega)]
    exact failUnmap_probed hret
  rw [if_neg (by simp)]
  refine registerProbe_meets (by simp) (fun ret hret => ?_) ?_
  · rw [if_pos (by omega)]
    exact unregisterProbe_meets (failUnmap_probed hret)
  rw [if_neg (by simp)]
  refine registerProbe_meets (by simp) (fun ret hret => ?_) ?_
  · rw [if_pos (by omega)]
    exact unregisterProbe_meets (unregisterProbe_meets (failUnmap_probed hret))
  rw [if_neg (by simp)]
  exact .inl ⟨rfl, rfl⟩

/-! ### A lifetime -/

private theorem setupDevice_meets (id : PciId) :
    Prog.Meets kernel guarded Settled X (setupDevice id) ⟨1, 0, [], true, false⟩ := by
  have hput : ∀ ret < 0, Prog.Meets kernel guarded Settled X (failPut ret) ⟨1, 0, [], true, false⟩ :=
    fun ret hret => failPut_meets hret rfl rfl rfl
  refine Prog.meets_ite.2 ⟨fun _ => hput _ (by decide), fun _ => ?_⟩
  simp only [pciIomap, perform, Prog.bind_eq, Prog.request_bind, Prog.call_bind, Prog.ret_bind]
  refine meets_kernel trivial fun mapped _ => ⟨?_, meets_kernel trivial fun _ _ => ⟨?_, ?_⟩⟩
  · cases mapped <;> exact .of_no_probes rfl
  · cases mapped <;> exact .of_no_probes rfl
  cases mapped with
  | false => exact hput _ (by decide)
  | true => exact registerProbes_meets

private theorem hookInit_meets (p : LoadParams) : Prog.Meets kernel guarded Settled X (hookInit p) {} := by
  have hidle : (({} : Held)).Idle := ⟨rfl, rfl, rfl⟩
  refine Prog.meets_ite.2 ⟨fun _ => .inr ⟨by decide, hidle⟩, fun _ => ?_⟩
  refine Prog.meets_ite.2 ⟨fun _ => .inr ⟨by decide, hidle⟩, fun _ => ?_⟩
  refine meets_kernel trivial fun found _ => ⟨?_, meets_kernel trivial fun _ _ => ⟨?_, ?_⟩⟩
  · cases found <;> exact .of_no_probes rfl
  · cases found <;> exact .of_no_probes rfl
  cases found with
  | none => exact .inr ⟨by decide, rfl, rfl, rfl⟩
  | some id => exact setupDevice_meets id

/-- The unloading gives everything back. -/
theorem hookExit_meets : Prog.Meets kernel guarded (fun _ h => h.Idle) X hookExit Held.loaded := by
  simp only [hookExit, perform, Prog.bind_eq, Prog.request_bind, Prog.call_bind, Prog.ret_bind]
  refine unregisterProbe_meets (unregisterProbe_meets (unregisterProbe_meets ?_))
  refine meets_kernel trivial fun bar0 hbar0 => ⟨Held.probed_safe [], ?_⟩
  have hset : bar0 = true := hbar0
  subst hset
  refine meets_kernel (by simp [Call.Owned, Held.after, Held.probed, Held.mapped]) fun _ _ => ⟨.of_no_probes rfl, ?_⟩
  refine meets_kernel trivial fun gpu hgpu => ⟨.of_no_probes rfl, ?_⟩
  have hset : gpu = true := hgpu
  subst hset
  exact meets_kernel (by simp [Call.Owned, Held.after, Held.probed, Held.mapped]) fun _ _ =>
    ⟨.of_no_probes rfl, rfl, rfl, rfl⟩

private theorem lifetime_meets (p : LoadParams) {h : Held} (hidle : h.Idle) :
    Prog.Meets kernel guarded (fun _ h' => h'.Idle) X (lifetime p) h := by
  simp only [lifetime, perform, Prog.bind_eq, Prog.call_bind, Prog.ret_bind]
  refine meets_kernel trivial fun _ _ => ⟨.of_no_probes hidle.2.2, ?_⟩
  have hstart : h.after .statics () = {} := by
    obtain ⟨href, hmap, hprobes⟩ := hidle
    simp [Held.after, href, hmap, hprobes]
  rw [hstart]
  refine Prog.meets_bind.2 ((hookInit_meets (X := X) p).imp (fun ret h' hsettled => ?_) fun _ _ he => he)
  refine Prog.meets_when.2 ⟨fun hret => ?_, fun hret => ?_⟩
  · rcases hsettled with ⟨rfl, rfl⟩ | ⟨hlt, -⟩
    · exact hookExit_meets
    · omega
  · rcases hsettled with ⟨rfl, rfl⟩ | ⟨-, hidle'⟩
    · exact absurd (Int.le_refl 0) hret
    · exact hidle'

/-- The module may be loaded any number of times. -/
theorem loads_balanced (loads : List LoadParams) {p : Setup Unit} {h : Held}
    (hrun : Prog.Steps kernel (Prog.forEach lifetime loads, {}) (p, h)) :
    h.Safe ∧ (∀ o k, p = Prog.call o k → o.Owned h) ∧ (p = Prog.ret () → h.Idle) := by
  have hmeets : Prog.Meets kernel guarded (fun _ h' => h'.Idle) (fun _ _ => True) (Prog.forEach lifetime loads) {} :=
    Prog.meets_forEach (I := fun _ h => Held.Idle h) (fun p _ _ hidle => lifetime_meets p hidle) ⟨rfl, rfl, rfl⟩
  have hrest : Prog.Meets kernel guarded (fun _ h' => h'.Idle) (fun _ _ => True) p h := hmeets.steps hrun
  refine ⟨?_, ?_, ?_⟩
  · exact hmeets.invariant (I := Held.Safe) hrun (fun _ _ _ _ _ hguard _ => hguard.2) (.of_no_probes rfl)
  · rintro o k rfl
    obtain ⟨r, hr⟩ := exists_possible o h
    exact (hrest r _ ⟨hr, rfl⟩).1.1
  · rintro rfl
    exact hrest

/-- The card is found and nothing is refused, up to the first removal. -/
def favourable (h : Held) : (o : Call) → Option o.Answer
  | .statics => some ()
  | .pciGetDevice _ => some (some ⟨targetVendor, targetDevice⟩)
  | .pciDevPut => some ()
  | .pciIomap => some true
  | .pciIounmap => some ()
  | .registerProbe _ => some (0 : ℤ)
  | .unregisterProbe _ => none
  | .setGpu _ => some ()
  | .setBar0 _ => some ()
  | .gpu => some h.gpu
  | .bar0 => some h.bar0

private theorem favourable_possible {o : Call} {r : o.Answer} (ha : favourable h o = some r) : o.Possible h r := by
  cases o with
  | registerProbe probe =>
    have hr : (0 : ℤ) = r := Option.some.inj ha
    exact Int.le_of_eq hr.symm
  | gpu => exact (Option.some.inj ha).symm
  | bar0 => exact (Option.some.inj ha).symm
  | _ => trivial

def obliging (h : Held) (o : Call) : Option (o.Answer × Held) := (favourable h o).map fun r => (r, h.after o r)

private theorem obliging_kernel (h : Held) (o : Call) (r : o.Answer) (h' : Held) (ha : obliging h o = some (r, h')) :
    kernel h o r h' := by
  obtain ⟨r', hr', heq⟩ := Option.map_eq_some_iff.1 ha
  cases heq
  exact ⟨favourable_possible hr', rfl⟩

/-- A load that has succeeded. -/
theorem loads_balanced_loaded : ∃ p,
    Prog.Steps kernel (Prog.forEach lifetime [⟨2#32, 0x5d00#32⟩], {}) (p, Held.loaded) ∧
    Held.loaded.Safe ∧ ∀ o k, p = Prog.call o k → o.Owned Held.loaded := by
  have hrun := Prog.steps_run obliging_kernel (Prog.forEach lifetime [⟨2#32, 0x5d00#32⟩]) {}
  have hend : ((Prog.forEach lifetime [⟨2#32, 0x5d00#32⟩]).run obliging {}).2 = Held.loaded := by decide +kernel
  obtain ⟨q, hq⟩ : ∃ q, (Prog.forEach lifetime [⟨2#32, 0x5d00#32⟩]).run obliging {} = (q, Held.loaded) :=
    ⟨_, Prod.ext rfl hend⟩
  rw [hq] at hrun
  obtain ⟨hsafe, howned, -⟩ := loads_balanced _ hrun
  exact ⟨q, hrun, hsafe, howned⟩

end CmpUnlocker.AcrHook
