import CmpUnlocker.PcieGen2.Script

/-!
# What the routines of the Gen2 helper ask

Most routines run commands that neither look for a module in `/proc/modules` nor load or remove one (`Harmless`), and
fail with a status other than 0 (`calm_…`).  The modules are handled by `quiesce`, by the signed writes and by
`cleanup`.
-/

namespace CmpUnlocker.PcieGen2

open Interaction Shell Guest

/-! ### Commands -/

/-- The commands that look for modules, or load or remove them; `rmmod` is only run for the hook. -/
def moduleCommands : List String := ["grep", "modprobe", "insmod"]

def Harmless : Tool → Prop
  | .exec (name :: _) => name ∉ moduleCommands
  | _ => True

theorem harmless_exec {name : String} {args : List String} (h : name ∉ moduleCommands) :
    Harmless (.exec (name :: args)) :=
  h

/-- The commands are harmless, and no exit has status 0. -/
abbrev Calm {α : Type} (p : Routine α) : Prop := Prog.Within Harmless (· ≠ 0) p

theorem calm_check (name : String) (args : List String) (h : name ∉ moduleCommands) : Calm (check (name :: args)) :=
  check_within trivial h

private theorem calm_capture (name : String) (args : List String) (h : name ∉ moduleCommands) :
    Calm (capture (name :: args)) :=
  capture_within trivial h

theorem calm_must (name : String) (args : List String) (h : name ∉ moduleCommands) : Calm (must (name :: args)) :=
  must_within trivial h

private theorem calm_output (name : String) (args : List String) (h : name ∉ moduleCommands) :
    Calm (output (name :: args)) :=
  output_within trivial h

theorem calm_writes (path text : String) : Calm (writes path text) := writes_within trivial trivial

private theorem calm_exit {α : Type} {status : Nat} (h : status ≠ 0) : Calm (throw status : Routine α) := h

/-! ### Messages and files -/

theorem calm_say (message : String) : Calm (say message) := calm_must "printf" _ (by decide)

theorem calm_note (message : String) : Calm (note message) :=
  (calm_check "printf" _ (by decide)).bind fun _ => trivial

theorem calm_die {α : Type} (message : String) : Calm (die message : Routine α) :=
  (calm_say _).bind fun _ => calm_exit (by decide)

theorem calm_require (condition : Bool) (message : String) : Calm (require condition message) :=
  .ite (fun _ => trivial) fun _ => calm_die message

theorem calm_shaOf (path : String) : Calm (shaOf path) :=
  (sh_within trivial trivial).bind fun _ => trivial

theorem calm_driverOf (bdf : String) : Calm (driverOf bdf) :=
  (calm_capture "readlink" _ (by decide)).bind fun _ => trivial

private theorem calm_sourced (path : String) : Calm (sourced path) := by
  refine (sh_within trivial trivial).bind fun vars => ?_
  cases vars with
  | none => exact calm_exit (by decide)
  | some vars => trivial

theorem calm_rounds (n : Nat) : Calm (rounds n) :=
  (calm_capture "seq" _ (by decide)).bind fun _ => trivial

theorem calm_busNumber (bdf : String) : Calm (busNumber bdf) := by
  unfold busNumber
  split
  · trivial
  · exact calm_exit (by decide)

theorem calm_bootReturns : Calm bootReturns :=
  (calm_capture "dmesg" _ (by decide)).bind fun _ => trivial

private theorem calm_isPlainFile (path : String) : Calm (isPlainFile path) := by
  refine (sh_within trivial trivial).bind fun file => ?_
  exact .ite (fun _ => (sh_within trivial trivial).bind fun _ => trivial) fun _ => trivial

private theorem calm_assertRootRegular (path : String) : Calm (assertRootRegular path) := by
  refine (calm_isPlainFile path).bind fun plain => ?_
  refine (calm_require _ _).bind fun _ => ?_
  refine (calm_output "stat" _ (by decide)).bind fun mode => ?_
  exact (calm_require _ _).bind fun _ => calm_require _ _

private theorem calm_assertSha (path expected : String) : Calm (assertSha path expected) := by
  refine (calm_assertRootRegular path).bind fun _ => ?_
  exact (calm_shaOf path).bind fun _ => calm_require _ _

theorem calm_resolveFirmware (path : String) : Calm (resolveFirmware path) := by
  refine (sh_within trivial trivial).bind fun resolved => ?_
  cases resolved with
  | none => exact calm_die _
  | some resolved =>
    refine (calm_isPlainFile resolved).bind fun plain => ?_
    exact (calm_require _ _).bind fun _ => trivial

theorem calm_removeHook : Calm removeHook := by
  refine (sh_within trivial trivial).bind fun loaded => ?_
  exact .ite (fun _ => (calm_check "rmmod" _ (by decide)).bind fun _ => trivial) fun _ => trivial

/-! ### Drivers -/

private theorem calm_waitDriverFor (bdf wanted : String) (attempts : List String) :
    Calm (waitDriverFor bdf wanted attempts) := by
  induction attempts with
  | nil => trivial
  | cons attempt attempts ih =>
    refine (calm_driverOf bdf).bind fun current => ?_
    exact .ite (fun _ => trivial) fun _ => (calm_check "sleep" _ (by decide)).bind fun _ => ih

private theorem calm_waitDriver (bdf wanted : String) : Calm (waitDriver bdf wanted) :=
  (calm_rounds 50).bind fun attempts => calm_waitDriverFor bdf wanted attempts

private theorem calm_waitNvidiaBdfFor (bdf : String) (attempts : List String) :
    Calm (waitNvidiaBdfFor bdf attempts) := by
  induction attempts with
  | nil => trivial
  | cons attempt attempts ih =>
    refine (calm_capture "timeout" _ (by decide)).bind fun inventory => ?_
    exact .ite (fun _ => trivial) fun _ => (calm_check "sleep" _ (by decide)).bind fun _ => ih

private theorem calm_waitNvidiaBdf (bdf : String) : Calm (waitNvidiaBdf bdf) :=
  (calm_rounds 20).bind fun attempts => calm_waitNvidiaBdfFor bdf attempts

theorem calm_rebindNvidia (bdf : String) : Calm (rebindNvidia bdf) := by
  have hend : ∀ current : String, Calm (do
      Prog.when (current = "") (do
        let _ ← sh (.writeText (devicePath bdf "driver_override") "nvidia")
        let _ ← sh (.writeText (bindPath "nvidia") bdf))
      let bound ← waitDriver bdf "nvidia"
      if bound then waitNvidiaBdf bdf else return false) := by
    intro current
    refine Prog.Within.bind (.when fun _ => ?_) fun _ => ?_
    · refine (sh_within trivial trivial).bind fun _ => ?_
      exact (sh_within trivial trivial).bind fun _ => trivial
    · refine (calm_waitDriver bdf _).bind fun bound => ?_
      exact .ite (fun _ => calm_waitNvidiaBdf bdf) fun _ => trivial
  refine (calm_driverOf bdf).bind fun current => ?_
  split
  · refine (sh_within trivial trivial).bind fun _ => ?_
    refine (sh_within trivial trivial).bind fun _ => ?_
    exact (calm_driverOf bdf).bind hend
  · exact hend current

theorem calm_restoreServices (v : Vars) : Calm (restoreServices v) := by
  refine Prog.Within.bind (.when fun _ => ?_) fun _ => ?_
  · exact (calm_check "systemctl" _ (by decide)).bind fun _ => trivial
  · exact .forEach fun unit _ => (calm_check "systemctl" _ (by decide)).bind fun _ => trivial

/-! ### Registers and links -/

private theorem calm_mmioRead (address : String) : Calm (mmioRead address) := calm_output "busybox" _ (by decide)

private theorem calm_mmioWrite (address value : String) : Calm (mmioWrite address value) :=
  calm_must "busybox" _ (by decide)

private theorem calm_mmioAt (bdf : String) (offset : Nat) : Calm (mmioAt bdf offset) :=
  (calm_capture "awk" _ (by decide)).bind fun _ => trivial

theorem calm_mmioReadAt (bdf : String) (offset : Nat) : Calm (mmioReadAt bdf offset) :=
  (calm_mmioAt bdf offset).bind fun _ => calm_mmioRead _

private theorem calm_pcieCapSpeed (bdf : String) : Calm (pcieCapSpeed bdf) := by
  refine (calm_capture "setpci" _ (by decide)).bind fun raw => ?_
  split
  · trivial
  · exact calm_exit (by decide)

private theorem calm_parentPort (bdf : String) : Calm (parentPort bdf) := by
  refine (sh_within trivial trivial).bind fun path => ?_
  cases path with
  | none => exact calm_die _
  | some path => exact (calm_capture "dirname" _ (by decide)).bind fun dir => calm_output "basename" _ (by decide)

private theorem calm_nvidiaLinkLine (bdf : String) : Calm (nvidiaLinkLine bdf) :=
  (calm_capture "timeout" _ (by decide)).bind fun _ => trivial

theorem calm_nvidiaMaxGen (bdf : String) : Calm (nvidiaMaxGen bdf) := (calm_nvidiaLinkLine bdf).bind fun _ => trivial

private theorem calm_nvidiaCurrentGen (bdf : String) : Calm (nvidiaCurrentGen bdf) :=
  (calm_nvidiaLinkLine bdf).bind fun _ => trivial

/-! ### Checks -/

theorem calm_openLog (c : Config) : Calm (openLog c) :=
  (calm_must "mkdir" _ (by decide)).bind fun _ => calm_must "exec" _ (by decide)

private theorem calm_settings (c : Config) : Calm (settings c) := by
  refine (calm_check "test" _ (by decide)).bind fun present => ?_
  refine .ite (fun _ => ?_) fun _ => trivial
  refine (calm_assertRootRegular _).bind fun _ => ?_
  exact (calm_sourced _).bind fun _ => trivial

theorem calm_preflight (c : Config) : Calm (preflight c) := by
  refine (calm_require _ _).bind fun _ => ?_
  refine Prog.Within.bind (.forEach fun command _ => ?_) fun _ => ?_
  · exact (calm_check "command" _ (by decide)).bind fun _ => calm_require _ _
  · refine (calm_must "mkdir" _ (by decide)).bind fun _ => ?_
    refine (calm_must "exec" _ (by decide)).bind fun _ => ?_
    refine (calm_check "flock" _ (by decide)).bind fun locked => ?_
    refine (calm_require _ _).bind fun _ => ?_
    refine (calm_settings c).bind fun given => ?_
    refine (calm_capture "systemctl" _ (by decide)).bind fun state => ?_
    exact (calm_require _ _).bind fun _ => trivial

theorem calm_readManifest (c : Config) : Calm (readManifest c) := by
  refine (calm_assertRootRegular _).bind fun _ => ?_
  refine (calm_capture "stat" _ (by decide)).bind fun mode => ?_
  refine (calm_require _ _).bind fun _ => ?_
  refine (calm_sourced _).bind fun vars => ?_
  refine Prog.Within.bind (.forEach fun name _ => calm_require _ _) fun _ => ?_
  refine (calm_require _ _).bind fun _ => ?_
  exact (calm_require _ _).bind fun _ => trivial

theorem calm_verifyFiles (c : Config) (manifest : String → String) : Calm (verifyFiles c manifest) := by
  refine Prog.Within.bind (.forEach fun x _ => calm_assertSha _ _) fun _ => ?_
  refine (calm_assertSha _ _).bind fun _ => ?_
  refine (calm_assertSha _ _).bind fun _ => ?_
  refine (calm_assertSha _ _).bind fun _ => ?_
  refine (calm_assertSha _ _).bind fun _ => ?_
  refine (calm_assertSha _ _).bind fun _ => ?_
  refine (calm_capture "modinfo" _ (by decide)).bind fun vermagic => ?_
  exact (calm_capture "uname" _ (by decide)).bind fun release => calm_require _ _

private theorem calm_checkTarget (bdf : String) : Calm (checkTarget bdf) := by
  have hend : ∀ vendor device : Option String, Calm (do
      require (vendor == some "0x10de" && device == some "0x1d84") (bdf ++ " is not CMP100 10de:1d84")
      let driver ← driverOf bdf
      require (driver == "nvidia") (bdf ++ " must start bound to nvidia")
      let _ ← pcieCapSpeed bdf
      let rootBdf ← parentPort bdf
      let rootDir ← sh (.isDir ("/sys/bus/pci/devices/" ++ rootBdf))
      require rootDir (bdf ++ " has no PCIe parent port")
      let rootCap ← pcieCapSpeed rootBdf
      require (2 ≤ rootCap) (rootBdf ++ " does not support Gen2")) := by
    intro vendor device
    refine (calm_require _ _).bind fun _ => ?_
    refine (calm_driverOf bdf).bind fun driver => ?_
    refine (calm_require _ _).bind fun _ => ?_
    refine (calm_pcieCapSpeed bdf).bind fun _ => ?_
    refine (calm_parentPort bdf).bind fun rootBdf => ?_
    refine (sh_within trivial trivial).bind fun rootDir => ?_
    refine (calm_require _ _).bind fun _ => ?_
    exact (calm_pcieCapSpeed rootBdf).bind fun rootCap => calm_require _ _
  refine (sh_within trivial trivial).bind fun dir => ?_
  refine (calm_require _ _).bind fun _ => ?_
  refine (sh_within trivial trivial).bind fun vendor => ?_
  split
  · exact (sh_within trivial trivial).bind fun device => hend vendor device
  · exact hend vendor none

theorem calm_checkTargets (seen targets : List String) : Calm (checkTargets seen targets) := by
  induction targets generalizing seen with
  | nil => trivial
  | cons bdf rest ih =>
    refine (calm_require _ _).bind fun _ => ?_
    refine (calm_require _ _).bind fun _ => ?_
    exact (calm_checkTarget bdf).bind fun _ => ih _

private theorem calm_isDone (bdf : String) : Calm (isDone bdf) := by
  refine (calm_output "setpci" _ (by decide)).bind fun linkWord => ?_
  refine (calm_nvidiaCurrentGen bdf).bind fun current => ?_
  refine (calm_nvidiaMaxGen bdf).bind fun advertised => ?_
  refine .ite (fun _ => trivial) fun _ => ?_
  split <;> trivial

theorem calm_allDone (targets : List String) : Calm (allDone targets) := by
  induction targets with
  | nil => trivial
  | cons bdf rest ih => exact (calm_isDone bdf).bind fun _ => ih.bind fun _ => trivial

theorem calm_checkClients : Calm checkClients := by
  refine (sh_within trivial ?_).bind fun clients => ?_
  · show "timeout" ∉ moduleCommands
    decide
  · exact (calm_require _ _).bind fun _ => calm_require _ _

theorem calm_hashesMatch (v : Vars) : Calm (hashesMatch v) := by
  refine (calm_shaOf _).bind fun fecs => ?_
  refine .ite (fun _ => trivial) fun _ => ?_
  refine (calm_shaOf _).bind fun bl => ?_
  exact .ite (fun _ => trivial) fun _ => (calm_shaOf _).bind fun _ => trivial

/-! ### The signed writes and the retrain -/

theorem calm_bootNouveau (bdf label : String) (beforeCount : Nat) : Calm (bootNouveau bdf label beforeCount) := by
  refine (calm_must "sync" _ (by decide)).bind fun _ => ?_
  refine (calm_writes _ _).bind fun _ => ?_
  refine (calm_writes _ _).bind fun _ => ?_
  refine (calm_waitDriver bdf _).bind fun bound => ?_
  refine (calm_require _ _).bind fun _ => ?_
  refine calm_bootReturns.bind fun afterCount => ?_
  refine (calm_require _ _).bind fun _ => ?_
  refine (calm_output "dmesg" _ (by decide)).bind fun bootLine => ?_
  exact (calm_say _).bind fun _ => calm_require _ _

theorem calm_handBack (c : Config) (bdf payload label : String) : Calm (handBack c bdf payload label) := by
  refine calm_removeHook.bind fun _ => ?_
  refine (calm_writes _ _).bind fun _ => ?_
  refine (calm_writes _ _).bind fun _ => ?_
  refine (calm_driverOf bdf).bind fun driver => ?_
  refine (calm_require _ _).bind fun _ => ?_
  have hend : Calm (do
      writes (devicePath bdf "driver_override") "nvidia"
      writes (bindPath "nvidia") bdf
      let bound ← waitDriver bdf "nvidia"
      require bound (bdf ++ " did not rebind NVIDIA after " ++ label)
      let listed ← waitNvidiaBdf bdf
      require listed (bdf ++ " absent from nvidia-smi after " ++ label)) := by
    refine (calm_writes _ _).bind fun _ => ?_
    refine (calm_writes _ _).bind fun _ => ?_
    refine (calm_waitDriver bdf _).bind fun bound => ?_
    refine (calm_require _ _).bind fun _ => ?_
    exact (calm_waitNvidiaBdf bdf).bind fun listed => calm_require _ _
  split
  · refine (calm_mmioReadAt bdf _).bind fun actual => ?_
    exact (calm_require _ _).bind fun _ => hend
  · refine (calm_mmioReadAt bdf _).bind fun actual => ?_
    exact (calm_require _ _).bind fun _ => hend

private theorem calm_probeLink (statusAddress : String) (attempts : List String) (status : String) :
    Calm (probeLink statusAddress attempts status) := by
  induction attempts generalizing status with
  | nil => trivial
  | cons attempt attempts ih =>
    refine (calm_mmioRead _).bind fun status => ?_
    exact .ite (fun _ => trivial) fun _ => (calm_must "sleep" _ (by decide)).bind fun _ => ih status

private theorem calm_assignedAddress (bdf : String) (offset : Nat) : Calm (assignedAddress bdf offset) := by
  refine (calm_mmioAt bdf offset).bind fun address => ?_
  cases address with
  | none => exact calm_exit (by decide)
  | some address => trivial

private theorem calm_wordOf (text : String) : Calm (wordOf text) := by
  unfold wordOf
  split
  · trivial
  · exact calm_exit (by decide)

theorem calm_retrainOne (bdf : String) : Calm (retrainOne bdf) := by
  refine (calm_assignedAddress bdf _).bind fun cfgAddress => ?_
  refine (calm_assignedAddress bdf _).bind fun statusAddress => ?_
  refine (calm_say _).bind fun _ => ?_
  refine (calm_writes _ _).bind fun _ => ?_
  refine (calm_writes _ _).bind fun _ => ?_
  refine (calm_driverOf bdf).bind fun driver => ?_
  refine (calm_require _ _).bind fun _ => ?_
  refine (calm_mmioReadAt bdf _).bind fun target => ?_
  refine (calm_mmioReadAt bdf _).bind fun cap => ?_
  refine (calm_require _ _).bind fun _ => ?_
  refine (calm_mmioRead _).bind fun text => ?_
  refine (calm_wordOf text).bind fun before => ?_
  refine (calm_require _ _).bind fun _ => ?_
  refine (calm_mmioWrite _ _).bind fun _ => ?_
  refine (calm_mmioRead _).bind fun after => ?_
  refine (calm_require _ _).bind fun _ => ?_
  refine (calm_mmioWrite _ _).bind fun _ => ?_
  refine (calm_rounds 10).bind fun attempts => ?_
  refine (calm_probeLink _ attempts _).bind fun status => ?_
  refine (calm_require _ _).bind fun _ => ?_
  refine (calm_mmioRead _).bind fun final => ?_
  refine (calm_require _ _).bind fun _ => ?_
  refine (calm_require _ _).bind fun _ => ?_
  refine (calm_say _).bind fun _ => ?_
  refine (calm_writes _ _).bind fun _ => ?_
  refine (calm_writes _ _).bind fun _ => ?_
  refine (calm_waitDriver bdf _).bind fun bound => ?_
  refine (calm_require _ _).bind fun _ => ?_
  refine (calm_waitNvidiaBdf bdf).bind fun listed => ?_
  refine (calm_require _ _).bind fun _ => ?_
  refine (calm_nvidiaCurrentGen bdf).bind fun current => ?_
  exact (calm_nvidiaMaxGen bdf).bind fun advertised => calm_require _ _

theorem calm_inventory : Calm inventory :=
  (calm_say _).bind fun _ => calm_must "nvidia-smi" _ (by decide)

end CmpUnlocker.PcieGen2
