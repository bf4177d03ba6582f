import Mathlib.Data.List.Forall2
import CmpUnlocker.PcieHost.Run
import CmpUnlocker.Lib.Trace

/-!
# What the reads of the coordinator say

A part of a run that ended without an exception has left its answers in the trace: the configuration it has read, the
checks each device has passed (`Checked`), the links it has read at Gen2 (`GenTwo`) and the AER registers.
-/

namespace CmpUnlocker.PcieHost

open Interaction

/-- The requests of a run and their answers. -/
abbrev Trace : Type := List (Event Op.Answer)

/-! ### Checks -/

/-- A read of configuration space. -/
def ReadAs (device : Pci) (offset size value : Nat) (t : Trace) : Prop :=
  ∃ bytes, ⟨.pciRead device.fd offset size, .ok bytes⟩ ∈ t ∧ List.length bytes = size ∧ fromBytes bytes = value

/-- The address was opened with the descriptor of the device, and the PCI Express capability read at its offset. -/
structure Opened (device : Pci) (t : Trace) : Prop where
  opened : ⟨.pciOpen device.bdf false, .ok device.fd⟩ ∈ t
  capability : ReadAs device device.exp 1 0x10 t

/-- The checks of a configured device, with its upstream port first. -/
structure Checked (assigned : List String) (item : Device) (pair : Pci × Pci) (t : Trace) : Prop where
  assigned : item.host ∈ assigned
  host : pair.2.bdf = item.host
  endpoint : Opened pair.2 t
  vendor : ReadAs pair.2 0 2 0x10de t
  device : ReadAs pair.2 2 2 0x1d84 t
  driver : ⟨.driverName item.host, .ok "vfio-pci"⟩ ∈ t
  parent : ⟨.parentName item.host, .ok pair.1.bdf⟩ ∈ t
  address : matchesBdf pair.1.bdf
  root : Opened pair.1 t
  port : ∃ value, ReadAs pair.1 (pair.1.exp + 2) 2 value t ∧ ((value >>> 4) &&& 15 = 4 ∨ (value >>> 4) &&& 15 = 6)
  speed : ∃ value, ReadAs pair.1 (pair.1.exp + 0xc) 2 value t ∧ 2 ≤ value &&& 15

/-- The devices of the configuration file and the addresses assigned to the VM. -/
structure Configured (P : Platform) (args : Args) (devices : List Device) (assigned : List String) (t : Trace) :
    Prop where
  config : ∃ text data, ⟨.readConfig, .ok text⟩ ∈ t ∧ P.loads text = .ok data ∧
    validateConfig args.vmid data = .ok devices
  vm : ∃ text, ⟨.command ["qm", "config", toString args.vmid, "--current", "1"], .ok text⟩ ∈ t ∧
    assignedAddresses P text = .ok assigned

/-- Every configured device has passed the checks of the device loop. -/
def Inspected (P : Platform) (args : Args) (devices : List Device) (pairs : List (Pci × Pci)) (t : Trace) : Prop :=
  ∃ assigned, Configured P args devices assigned t ∧
    List.Forall₂ (fun item pair => Checked assigned item pair t) devices pairs

/-- The target speed of the port was read as Gen2 or more. -/
def Aimed (port : Pci) (t : Trace) : Prop := ∃ value, ReadAs port (port.exp + 0x30) 2 value t ∧ 2 ≤ value &&& 15

/-- Every configured device has passed its checks, also that of the target speed behind the latch. -/
structure Validated (P : Platform) (args : Args) (devices : List Device) (pairs : List (Pci × Pci)) (t : Trace) :
    Prop where
  inspected : Inspected P args devices pairs t
  aimed : ∀ pair ∈ pairs, Aimed pair.1 t

/-- The link status was read as settled at Gen2. -/
def GenTwo (device : Pci) (t : Trace) : Prop :=
  ∃ value, ReadAs device (device.exp + 0x12) 2 value t ∧ value &&& 15 = 2 ∧ 1 ≤ (value >>> 4) &&& 63 ∧
    value &&& 0x800 = 0

/-- Every uncorrectable bit that is set in the second trace was set in the first one. -/
def NoNewError (device : Pci) (t t' : Trace) : Prop :=
  ∃ before after : Option Aer, Prog.Occurs device.aer (.ret before) t ∧ Prog.Occurs device.aer (.ret after) t' ∧
    ∀ x y, before = some x → after = some y → ∀ i, y.uncorrectable.testBit i = true → x.uncorrectable.testBit i = true

section

variable {t t' : Trace}

theorem ReadAs.mono {device : Pci} {offset size value : Nat} (h : ReadAs device offset size value t) (ht : t ⊆ t') :
    ReadAs device offset size value t' := by
  obtain ⟨bytes, hread, hbytes⟩ := h
  exact ⟨bytes, ht hread, hbytes⟩

theorem Opened.mono {device : Pci} (h : Opened device t) (ht : t ⊆ t') : Opened device t' :=
  ⟨ht h.opened, h.capability.mono ht⟩

theorem Checked.mono {assigned : List String} {item : Device} {pair : Pci × Pci} (h : Checked assigned item pair t)
    (ht : t ⊆ t') : Checked assigned item pair t' := by
  obtain ⟨port, hport, hkind⟩ := h.port
  obtain ⟨speed, hspeed, hfast⟩ := h.speed
  exact { h with
    endpoint := h.endpoint.mono ht
    vendor := h.vendor.mono ht
    device := h.device.mono ht
    driver := ht h.driver
    parent := ht h.parent
    root := h.root.mono ht
    port := ⟨port, hport.mono ht, hkind⟩
    speed := ⟨speed, hspeed.mono ht, hfast⟩ }

theorem Configured.mono {P : Platform} {args : Args} {devices : List Device} {assigned : List String}
    (h : Configured P args devices assigned t) (ht : t ⊆ t') : Configured P args devices assigned t' := by
  obtain ⟨text, data, hread, hdata⟩ := h.config
  obtain ⟨vm, hvm, hassigned⟩ := h.vm
  exact ⟨⟨text, data, ht hread, hdata⟩, ⟨vm, ht hvm, hassigned⟩⟩

theorem Inspected.mono {P : Platform} {args : Args} {devices : List Device} {pairs : List (Pci × Pci)}
    (h : Inspected P args devices pairs t) (ht : t ⊆ t') : Inspected P args devices pairs t' := by
  obtain ⟨assigned, hconfig, hall⟩ := h
  exact ⟨assigned, hconfig.mono ht, hall.imp fun _ _ hchecked => hchecked.mono ht⟩

theorem Aimed.mono {port : Pci} (h : Aimed port t) (ht : t ⊆ t') : Aimed port t' := by
  obtain ⟨value, hread, hvalue⟩ := h
  exact ⟨value, hread.mono ht, hvalue⟩

theorem Validated.mono {P : Platform} {args : Args} {devices : List Device} {pairs : List (Pci × Pci)}
    (h : Validated P args devices pairs t) (ht : t ⊆ t') : Validated P args devices pairs t' where
  inspected := h.inspected.mono ht
  aimed pair hpair := (h.aimed pair hpair).mono ht

theorem GenTwo.mono {device : Pci} (h : GenTwo device t) (ht : t ⊆ t') : GenTwo device t' := by
  obtain ⟨value, hread, hvalue⟩ := h
  exact ⟨value, hread.mono ht, hvalue⟩

/-! ### Parts of runs -/

private theorem raising_plays {α : Type} {r : Except Exn α} {s : Trace} {a : α}
    (h : Prog.Plays (raising r) s (.ret a)) :
    r = .ok a ∧ s = [] := by
  cases r with
  | ok b =>
    obtain ⟨hs, hb⟩ := Prog.plays_ret.1 h
    cases hb
    exact ⟨rfl, hs⟩
  | error e =>
    obtain ⟨-, he⟩ := Prog.plays_throw.1 h
    cases he

/-- A request that has not raised an exception begins with its event. -/
theorem asked_plays {α β : Type} {o : Op} {f : o.Answer → Except Exn α} {g : α → Routine Exn β} {s : Trace} {b : β}
    (h : Prog.Plays (Prog.bind (call o) fun r => Prog.bind (raising (f r)) g) s (.ret b)) :
    ∃ r a s', s = ⟨o, r⟩ :: s' ∧ f r = .ok a ∧ Prog.Plays (g a) s' (.ret b) := by
  obtain ⟨r, s', rfl, hrest⟩ := Prog.plays_call_ret.1 h
  rw [Prog.ret_bind] at hrest
  obtain ⟨s₁, s₂, a, rfl, hraising, hg⟩ := Prog.plays_bind_ret.1 hrest
  obtain ⟨hr, rfl⟩ := raising_plays hraising
  exact ⟨r, a, s₂, rfl, hr, hg⟩

private theorem pciRead_plays {bdf : String} {fd offset size value : Nat} {s : Trace}
    (h : Prog.Plays (pciRead bdf fd offset size) s (.ret value)) :
    ∃ bytes, ⟨.pciRead fd offset size, .ok bytes⟩ ∈ s ∧ List.length bytes = size ∧ fromBytes bytes = value := by
  obtain ⟨r, bytes, s', rfl, hr, hrest⟩ := asked_plays (o := .pciRead fd offset size) (f := id) h
  by_cases hlength : List.length bytes = size
  · rw [if_neg (by simpa using hlength)] at hrest
    obtain ⟨-, hvalue⟩ := Prog.plays_ret.1 hrest
    cases hvalue
    exact ⟨bytes, by rw [← (show r = .ok bytes from hr)]; simp, hlength, rfl⟩
  · rw [if_pos hlength] at hrest
    obtain ⟨-, hthrow⟩ := Prog.plays_throw.1 hrest
    cases hthrow

private theorem read_plays {device : Pci} {offset size value : Nat} {s : Trace}
    (h : Prog.Plays (device.read offset size) s (.ret value)) : ReadAs device offset size value s :=
  pciRead_plays h

private theorem not_plays_throw {ε α : Type} {e : ε} {s : Trace} {a : α} :
    ¬ Prog.Plays (.throw e : Routine ε α) s (.ret a) := by
  intro h
  obtain ⟨-, hthrow⟩ := Prog.plays_throw.1 h
  cases hthrow

/-- A capability walk that ends with an offset has read the PCI Express capability there. -/
theorem findExp_plays {bdf : String} {fd fuel cap exp : Nat} {seen : List Nat} {s : Trace}
    (h : Prog.Plays (findExp bdf fd fuel seen cap) s (.ret exp)) :
    ∃ bytes, ⟨.pciRead fd exp 1, .ok bytes⟩ ∈ s ∧ List.length bytes = 1 ∧ fromBytes bytes = 0x10 := by
  induction fuel generalizing seen cap s with
  | zero =>
    obtain ⟨_, _, _, -, -, hthrow⟩ := Prog.plays_bind_ret.1 h
    exact absurd hthrow not_plays_throw
  | succ fuel ih =>
    unfold findExp at h
    split at h
    · -- the walk has come to an offset it cannot go on from
      obtain ⟨_, _, _, -, -, hthrow⟩ := Prog.plays_bind_ret.1 h
      exact absurd hthrow not_plays_throw
    obtain ⟨s₁, s₂, id, rfl, hread, hrest⟩ := Prog.plays_bind_ret.1 h
    split at hrest
    · next hid =>
      obtain ⟨-, hexp⟩ := Prog.plays_ret.1 hrest
      cases hexp
      -- the identifier read here is the one looked for
      obtain ⟨bytes, hmem, hlength, hbytes⟩ := pciRead_plays hread
      exact ⟨bytes, List.mem_append_left _ hmem, hlength, hbytes.trans hid⟩
    · -- the capability is found further down the list
      obtain ⟨s₃, s₄, next, rfl, -, hagain⟩ := Prog.plays_bind_ret.1 hrest
      obtain ⟨bytes, hmem, hfound⟩ := ih hagain
      exact ⟨bytes, List.mem_append_right _ (List.mem_append_right _ hmem), hfound⟩

private theorem openPci_plays {bdf : String} {device : Pci} {s : Trace}
    (h : Prog.Plays (openPci bdf false) s (.ret device)) :
    device.bdf = bdf ∧ Opened device s := by
  obtain ⟨r, fd, s', rfl, hr, hrest⟩ := asked_plays (o := .pciOpen bdf false) (f := id) h
  obtain ⟨s₁, s₂, cap, rfl, -, hrest⟩ := Prog.plays_bind_ret.1 hrest
  obtain ⟨s₃, s₄, exp, rfl, hfind, hret⟩ := Prog.plays_bind_ret.1 hrest
  obtain ⟨-, hdevice⟩ := Prog.plays_ret.1 hret
  cases hdevice
  obtain ⟨bytes, hmem, hfound⟩ := findExp_plays hfind
  refine ⟨rfl, ?_, bytes, by simp [hmem], hfound⟩
  rw [← (show r = .ok fd from hr)]
  exact List.mem_cons_self

/-- The check of the target speed has read it. -/
theorem checkTarget_plays {pair : Pci × Pci} {s : Trace} (h : Prog.Plays (checkTarget pair) s (.ret ())) :
    Aimed pair.1 s := by
  obtain ⟨s₁, s₂, target, rfl, hread, hrest⟩ := Prog.plays_bind_ret.1 h
  split at hrest
  · exact absurd hrest not_plays_throw
  next hfast =>
  exact ⟨target, (read_plays hread).mono (List.subset_append_left _ _), by omega⟩

theorem checkTargets_plays {pairs : List (Pci × Pci)} {s : Trace}
    (h : Prog.Plays (Prog.forEach checkTarget pairs) s (.ret ())) : ∀ pair ∈ pairs, Aimed pair.1 s := by
  intro pair hpair
  obtain ⟨s₁, s₂, s₃, rfl, hplays⟩ := Prog.plays_forEach h pair hpair
  exact (checkTarget_plays hplays).mono fun e he => by simp [he]

private theorem status_plays {device : Pci} {status : LinkStatus} {s : Trace}
    (h : Prog.Plays device.status s (.ret status))
    (hsettled : settledGen2 status = true) : GenTwo device s := by
  obtain ⟨s₁, s₂, value, rfl, hread, hrest⟩ := Prog.plays_bind_ret.1 h
  by_cases hgone : value = 0xffff
  · rw [if_pos hgone] at hrest
    obtain ⟨-, hthrow⟩ := Prog.plays_throw.1 hrest
    cases hthrow
  · rw [if_neg hgone] at hrest
    obtain ⟨-, hstatus⟩ := Prog.plays_ret.1 hrest
    cases hstatus
    simp only [settledGen2, Bool.and_eq_true, beq_iff_eq, decide_eq_true_eq, Bool.not_eq_true', decide_eq_false_iff_not,
      ne_eq, not_not] at hsettled
    exact ⟨value, (read_plays hread).mono (List.subset_append_left _ _), hsettled.1.1, hsettled.1.2, hsettled.2⟩

theorem collect_plays {α β : Type} {f : α → Routine Exn β} {as : List α} {bs : List β} {s : Trace}
    (h : Prog.Plays (collect f as) s (.ret bs)) : List.Forall₂ (fun a b => Prog.Occurs (f a) (.ret b) s) as bs := by
  induction as generalizing bs s with
  | nil =>
    obtain ⟨-, hbs⟩ := Prog.plays_ret.1 h
    cases hbs
    exact .nil
  | cons a as ih =>
    obtain ⟨s₁, s₂, b, rfl, ha, hrest⟩ := Prog.plays_bind_ret.1 h
    obtain ⟨s₃, s₄, bs', rfl, has, hret⟩ := Prog.plays_bind_ret.1 hrest
    obtain ⟨rfl, hbs⟩ := Prog.plays_ret.1 hret
    cases hbs
    refine .cons (ha.occurs.append_right _) ((ih has).imp fun _ _ hoccurs => ?_)
    exact (hoccurs.append_right []).append_left s₁

/-- All statuses read are settled at Gen2. -/
theorem settled_genTwo {devices : List Pci} {states : List LinkStatus} {s : Trace}
    (h : Prog.Plays (collect Pci.status devices) s (.ret states)) (hall : states.all settledGen2 = true) :
    ∀ device ∈ devices, GenTwo device s := by
  have hread := collect_plays h
  clear h
  induction hread with
  | nil => simp
  | @cons device status devices states hstatus _ ih =>
    simp only [List.all_cons, Bool.and_eq_true] at hall
    intro d hd
    rcases List.mem_cons.1 hd with rfl | hd
    · obtain ⟨s₁, s₂, s₃, rfl, hplays⟩ := hstatus
      exact (status_plays hplays hall.1).mono fun e he => by simp [he]
    · exact ih hall.2 d hd

private theorem newUncorrectable_bits {before after : Aer} (h : newUncorrectable (some before, some after) = false)
    (i : Nat)
    (hi : after.uncorrectable.testBit i = true) : before.uncorrectable.testBit i = true := by
  have heq : after.uncorrectable &&& before.uncorrectable = after.uncorrectable := by
    simpa [newUncorrectable] using h
  rw [← heq, Nat.testBit_and, Bool.and_eq_true] at hi
  exact hi.2

/-- The registers read before and after show no new error. -/
theorem noNewError_of_collect {devices : List Pci} {before after : List (Option Aer)} {s s' : Trace}
    (hbefore : Prog.Plays (collect Pci.aer devices) s (.ret before))
    (hafter : Prog.Plays (collect Pci.aer devices) s' (.ret after))
    (hnone : (before.zip after).any newUncorrectable = false) : ∀ device ∈ devices, NoNewError device s s' := by
  have hread := collect_plays hbefore
  have hread' := collect_plays hafter
  clear hbefore hafter
  induction hread generalizing after with
  | nil => simp
  | @cons device x devices before hx _ ih =>
    cases hread' with
    | @cons _ y _ after hy hrest =>
      simp only [List.zip_cons_cons, List.any_cons, Bool.or_eq_false_iff] at hnone
      intro d hd
      rcases List.mem_cons.1 hd with rfl | hd
      · refine ⟨x, y, hx, hy, fun x' y' hx' hy' => ?_⟩
        subst hx' hy'
        exact newUncorrectable_bits hnone.1
      · exact ih hnone.2 hrest d hd

private theorem isCmp100_plays {endpoint : Pci} {s : Trace} (h : Prog.Plays (isCmp100 endpoint) s (.ret true)) :
    ReadAs endpoint 0 2 0x10de s ∧ ReadAs endpoint 2 2 0x1d84 s := by
  obtain ⟨s₁, s₂, vendor, rfl, hvendor, hrest⟩ := Prog.plays_bind_ret.1 h
  by_cases hne : vendor ≠ 0x10de
  · rw [if_pos hne] at hrest
    obtain ⟨-, hret⟩ := Prog.plays_ret.1 hrest
    cases hret
  · rw [if_neg hne] at hrest
    obtain ⟨s₃, s₄, id, rfl, hid, hret⟩ := Prog.plays_bind_ret.1 hrest
    obtain ⟨-, heq⟩ := Prog.plays_ret.1 hret
    simp only [Prog.ret.injEq, Bool.true_eq, beq_iff_eq] at heq
    rw [not_not] at hne
    subst hne heq
    exact ⟨(read_plays hvendor).mono (by simp), (read_plays hid).mono (by simp)⟩

/-- A pass of the device loop that ended without an exception has made all its checks. -/
theorem openPair_plays {vmid : Nat} {assigned : List String} {item : Device} {pair : Pci × Pci} {s : Trace}
    (h : Prog.Plays (openPair vmid assigned item) s (.ret pair)) : Checked assigned item pair s := by
  unfold openPair at h
  split at h
  · exact absurd h not_plays_throw
  next hassigned =>
  obtain ⟨s₁, s₂, endpoint, rfl, hopen, h₁⟩ := Prog.plays_bind_ret.1 h
  obtain ⟨hhost, hopened⟩ := openPci_plays hopen
  obtain ⟨s₃, s₄, supported, rfl, hcmp, h₂⟩ := Prog.plays_bind_ret.1 h₁
  split at h₂
  · exact absurd h₂ not_plays_throw
  next hsupported =>
  obtain rfl : supported = true := by simpa using hsupported
  obtain ⟨hvendor, hdevice⟩ := isCmp100_plays hcmp
  obtain ⟨r₁, driver, s₅, rfl, hr₁, h₃⟩ := asked_plays (o := .driverName endpoint.bdf) (f := id) h₂
  split at h₃
  · exact absurd h₃ not_plays_throw
  next hdriver =>
  obtain ⟨r₂, rootBdf, s₆, rfl, hr₂, h₄⟩ := asked_plays (o := .parentName endpoint.bdf) (f := id) h₃
  split at h₄
  · exact absurd h₄ not_plays_throw
  next haddress =>
  obtain ⟨s₇, s₈, root, rfl, hroot, h₅⟩ := Prog.plays_bind_ret.1 h₄
  obtain ⟨rfl, hrootOpened⟩ := openPci_plays hroot
  obtain ⟨s₉, s₁₀, kind, rfl, hkind, h₆⟩ := Prog.plays_bind_ret.1 h₅
  split at h₆
  · exact absurd h₆ not_plays_throw
  next hport =>
  obtain ⟨s₁₁, s₁₂, speeds, rfl, hspeeds, h₇⟩ := Prog.plays_bind_ret.1 h₆
  split at h₇
  · exact absurd h₇ not_plays_throw
  next hspeed =>
  obtain ⟨-, hpair⟩ := Prog.plays_ret.1 h₇
  cases hpair
  rw [not_not] at hdriver
  have hdriver' : r₁ = .ok "vfio-pci" := hdriver ▸ hr₁
  have hparent : r₂ = .ok root.bdf := hr₂
  rw [hhost]
  exact {
    assigned := by simpa using hassigned
    host := hhost
    endpoint := hopened.mono (List.subset_append_left _ _)
    vendor := hvendor.mono fun e he => by simp [he]
    device := hdevice.mono fun e he => by simp [he]
    driver := by simp [hdriver']
    parent := by simp [hparent]
    address := by simpa using haddress
    root := hrootOpened.mono fun e he => by simp [he]
    port := by
      refine ⟨kind, (read_plays hkind).mono fun e he => by simp [he], ?_⟩
      by_contra hnone
      rw [not_or] at hnone
      exact hport hnone
    speed := ⟨speeds, (read_plays hspeeds).mono fun e he => by simp [he], by omega⟩ }

theorem prepare_plays {P : Platform} {args : Args} {devices : List Device} {assigned : List String} {s : Trace}
    (h : Prog.Plays (prepare P args) s (.ret (some (devices, assigned)))) : Configured P args devices assigned s := by
  obtain ⟨uid, s₁, rfl, h₁⟩ := Prog.plays_call_ret.1 h
  rw [Prog.ret_bind] at h₁
  split at h₁
  · exact absurd h₁ not_plays_throw
  obtain ⟨r₁, ⟨owner, mode⟩, s₂, rfl, hr₁, h₂⟩ := asked_plays (o := .configStat) (f := id) h₁
  simp only at h₂
  split at h₂
  · exact absurd h₂ not_plays_throw
  obtain ⟨r₂, text, s₃, rfl, hr₂, h₃⟩ := asked_plays (o := .readConfig) (f := id) h₂
  obtain ⟨s₄, s₅, data, rfl, hdata, h₄⟩ := Prog.plays_bind_ret.1 h₃
  obtain ⟨hloads, rfl⟩ := raising_plays hdata
  obtain ⟨s₆, s₇, found, rfl, hfound, h₅⟩ := Prog.plays_bind_ret.1 h₄
  obtain ⟨hvalid, rfl⟩ := raising_plays hfound
  obtain ⟨s₈, s₉, state, rfl, -, h₆⟩ := Prog.plays_bind_ret.1 h₅
  split at h₆
  · obtain ⟨s₁₀, s₁₁, _, rfl, -, hret⟩ := Prog.plays_bind_ret.1 h₆
    obtain ⟨-, hnone⟩ := Prog.plays_ret.1 hret
    cases hnone
  obtain ⟨s₁₀, s₁₁, vmconfig, rfl, hcommand, h₇⟩ := Prog.plays_bind_ret.1 h₆
  obtain ⟨s₁₂, s₁₃, addresses, rfl, haddresses, hret⟩ := Prog.plays_bind_ret.1 h₇
  obtain ⟨hassigned, rfl⟩ := raising_plays haddresses
  obtain ⟨rfl, hsome⟩ := Prog.plays_ret.1 hret
  cases hsome
  obtain ⟨r₃, s₁₄, rfl, hanswer⟩ := Prog.plays_call_ret.1 hcommand
  obtain ⟨hr₃, rfl⟩ := raising_plays hanswer
  have hr₂' : r₂ = .ok text := hr₂
  refine ⟨⟨text, data, by simp [hr₂'], hloads, hvalid⟩, vmconfig, by simp [hr₃], hassigned⟩

end

end CmpUnlocker.PcieHost
