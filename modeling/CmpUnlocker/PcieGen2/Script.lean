import CmpUnlocker.PcieGen2.Basic

/-!
# The Gen2 helper: the script

`cmp100-pcie-gen2` from its first command to its exit.  Under `set -e` a failing command exits with its status, `die`
exits with 1, and INT and TERM exit with 130 and 143 after the command they arrive in.  The trap on exit runs
`cleanup`; while it runs, `exit` ends the script at once, and the traps for INT and TERM are still set.
-/

namespace CmpUnlocker.PcieGen2

open Interaction Shell Guest

/-! ### Firmware -/

/-- `dd`; under `set -e` a failure exits. -/
def copyContent (errexit : Bool) (source target : String) : Script Vars Nat := do
  let status ← copied ["dd", "conv=fsync", "status=none"] source target
  if errexit ∧ status ≠ 0 then throw status else return status

/-- The status of `restore_stock`: that of its last copy. -/
def restoreStock (c : Config) (errexit : Bool) : Script Vars Nat := do
  let v ← vars
  if v.active .fecs = "" ∨ v.active .bl = "" ∨ v.active .ucode = "" then return 0
  else do
    let saved ← if v.backupDir = "" then pure false else sh (.isFile (v.backupDir ++ "/" ++ Firmware.fecs.file))
    let source (x : Firmware) : String := if saved then v.backupDir ++ "/" ++ x.file else c.stock x
    let _ ← copyContent errexit (source .fecs) (v.active .fecs)
    let _ ← copyContent errexit (source .bl) (v.active .bl)
    copyContent errexit (source .ucode) (v.active .ucode)

/-! ### Checks -/

def neededCommands : List String :=
  ["awk", "busybox", "dd", "dmesg", "flock", "grep", "insmod", "modinfo", "modprobe", "nvidia-smi", "python3", "rm",
    "rmmod", "setpci", "sha256sum", "stat", "systemctl", "timeout"]

def manifestVariables : List String :=
  ["STOCK_FECS_SHA", "STOCK_BL_SHA", "STOCK_UCODE_SHA", "CUSTOM_FECS_SHA", "CUSTOM_BL_SHA", "PCIE_POLICY_UCODE_SHA",
    "PCIE_VECTOR_UCODE_SHA", "HOOK_SHA"]

/-- The settings of `/etc/default/cmp100-pcie`: the allow-list and the services to stop. -/
def settings (c : Config) : Routine (String × String) := do
  let present ← check ["test", "-e", defaults]
  if present then do
    assertRootRegular defaults
    let vars ← sourced defaults
    let bdfs := if c.bdfs = "" then (vars "CMP100_PCIE_BDFS").getD c.bdfs else c.bdfs
    return (bdfs, (vars "CMP100_PCIE_STOP_SERVICES").getD c.stopServices)
  else return (c.bdfs, c.stopServices)

/-- The checks before the manifest: user, commands, lock, defaults and the Tensor service. -/
def preflight (c : Config) : Routine (String × String) := do
  require (c.euid == 0) "run as root"
  Prog.forEach (fun command => do
    let found ← check ["command", "-v", command]
    require found ("missing command: " ++ command)) neededCommands
  must ["mkdir", "-p", "/run/lock"]
  must ["exec", "9>", lock]
  let locked ← check ["flock", "-w", "120", "9"]
  require locked ("another CMP100 PCIe operation holds " ++ lock)
  let given ← settings c
  let state ← capture ["systemctl", "show", "cmp100-tensor-unlock.service", "-p", "ActiveState", "--value"]
  require (state != "activating") "Tensor unlock is still starting; serialize PCIe after that service"
  return given

def readManifest (c : Config) : Routine (String → String) := do
  assertRootRegular c.manifest
  let mode ← capture ["stat", "-c", "%a", c.manifest]
  require (mode == "600") ("manifest permissions must be 0600: " ++ c.manifest)
  let vars ← sourced c.manifest
  let manifest (name : String) : String := (vars name).getD ""
  Prog.forEach (fun name => require (manifest name != "") ("manifest lacks " ++ name)) manifestVariables
  require (manifest "PCIE_POLICY_UCODE_SHA" == expectedPolicySha) "unexpected PCIe policy payload hash"
  require (manifest "PCIE_VECTOR_UCODE_SHA" == expectedVectorSha) "unexpected PCIe vector payload hash"
  return manifest

/-- The hashes of the saved copies, the payloads and the hook module. -/
def verifyFiles (c : Config) (manifest : String → String) : Routine Unit := do
  Prog.forEach (fun x : Firmware => assertSha (c.stock x) (manifest x.stockVariable)) Firmware.all
  assertSha c.customFecs (manifest "CUSTOM_FECS_SHA")
  assertSha c.customBl (manifest "CUSTOM_BL_SHA")
  assertSha c.pciePolicy (manifest "PCIE_POLICY_UCODE_SHA")
  assertSha c.pcieVector (manifest "PCIE_VECTOR_UCODE_SHA")
  assertSha c.hook (manifest "HOOK_SHA")
  let vermagic ← capture ["modinfo", "-F", "vermagic", c.hook]
  let release ← capture ["uname", "-r"]
  require (release.toList.isPrefixOf vermagic.toList) "hook vermagic does not match running kernel"

/-- The target loop behind the duplicate check. -/
def checkTarget (bdf : String) : Routine Unit := do
  let dir ← sh (.isDir ("/sys/bus/pci/devices/" ++ bdf))
  require dir ("missing PCI device: " ++ bdf)
  let vendor ← sh (.readText (devicePath bdf "vendor"))
  let device ← if vendor = some "0x10de" then sh (.readText (devicePath bdf "device")) else pure none
  require (vendor == some "0x10de" && device == some "0x1d84") (bdf ++ " is not CMP100 10de:1d84")
  let driver ← driverOf bdf
  require (driver == "nvidia") (bdf ++ " must start bound to nvidia")
  let _ ← pcieCapSpeed bdf
  let rootBdf ← parentPort bdf
  let rootDir ← sh (.isDir ("/sys/bus/pci/devices/" ++ rootBdf))
  require rootDir (bdf ++ " has no PCIe parent port")
  let rootCap ← pcieCapSpeed rootBdf
  require (2 ≤ rootCap) (rootBdf ++ " does not support Gen2")

def checkTargets (seen : List String) : List String → Routine Unit
  | [] => return ()
  | bdf :: rest => do
    require (isTarget bdf) ("unsupported BDF shape: " ++ bdf)
    require (!seen.contains bdf) ("duplicate BDF: " ++ bdf)
    checkTarget bdf
    checkTargets (bdf :: seen) rest

/-- Whether a target needs no change. -/
def isDone (bdf : String) : Routine Bool := do
  let linkWord ← pcieWord bdf "12"
  let current ← nvidiaCurrentGen bdf
  let advertised ← nvidiaMaxGen bdf
  if current != "2" || !isNumber advertised then return false
  else match value advertised, Text.number 16 linkWord.toList with
    | some gen, some word => return !(gen < 2 || word &&& 0xf != 2 || word &&& 0x800 != 0)
    -- An arithmetic error makes the condition false.
    | _, _ => return true

def allDone : List String → Routine Bool
  | [] => return true
  | bdf :: rest => do
    let done ← isDone bdf
    let others ← allDone rest
    return done && others

/-! ### Quiescing the GPUs -/

def stopService (unit : String) : Script Vars Unit := do
  let active ← check ["systemctl", "is-active", "--quiet", unit]
  if active then do
    assign fun v => { v with stoppedServices := v.stoppedServices ++ [unit] }
    say ("Stopping configured workload service " ++ unit)
    let stopped ← check ["timeout", "45", "systemctl", "stop", unit]
    require stopped ("could not stop " ++ unit)
  else return ()

def checkClients : Routine Unit := do
  let clients ← sh (.exec ["timeout", "10", "nvidia-smi", "--query-compute-apps=pid", "--format=csv,noheader"])
  require (clients.status == 0) "could not enumerate GPU clients"
  require (!clients.out.toList.any fun c => '0' ≤ c && c ≤ '9') "GPU compute client remains; stop it before retraining"

def stopPersistenced : Script Vars Unit := do
  let active ← check ["systemctl", "is-active", "--quiet", "nvidia-persistenced.service"]
  Prog.when active (assign fun v => { v with persistencedWasActive := true })
  let _ ← check ["systemctl", "stop", "nvidia-persistenced.service"]
  return ()

def unloadAttempts (module : String) : List String → Routine Unit
  | [] => return ()
  | _ :: attempts => do
    let unloaded ← check ["modprobe", "-r", module]
    if unloaded then return ()
    else do
      must ["sleep", "1"]
      unloadAttempts module attempts

def unloadModule (module : String) : Script Vars Unit := do
  let loaded ← check ["grep", "-q", "^" ++ module ++ " ", "/proc/modules"]
  if loaded then do
    assign fun v => { v with initiallyLoadedModules := v.initiallyLoadedModules ++ [module] }
    let attempts ← rounds 10
    unloadAttempts module attempts
    let remains ← sh (.isDir ("/sys/module/" ++ module))
    Prog.when remains (liftM (do
      must ["python3", "-"]
      die ("cannot unload " ++ module ++ "; stop the reported GPU holders before retrying")))
  else return ()

/-! ### The signed writes -/

/-- `apply_signed_write` up to the swap of the firmware: the BOOT_RETURN count before it. -/
def armHook (c : Config) (bdf label : String) : Routine Nat := do
  let bus ← busNumber bdf
  say (bdf ++ ": signed ACR " ++ label)
  writes (devicePath bdf "driver_override") "test-hold"
  writes (unbindPath "nvidia") bdf
  let driver ← driverOf bdf
  require (driver == "") (bdf ++ " did not unbind from nvidia")
  let tensor ← mmioReadAt bdf 0x409664
  require (value tensor == some 0x888) (bdf ++ " Tensor prerequisite is not unlocked")
  removeHook
  must ["insmod", c.hook, "bus=" ++ toString bus, "armed=1", "replace_on_return=2", "load_test_size=0x5d00"]
  bootReturns

/-- The boot through Nouveau with the swapped firmware. -/
def bootNouveau (bdf label : String) (beforeCount : Nat) : Routine Unit := do
  must ["sync"]
  writes (devicePath bdf "driver_override") "nouveau"
  writes (bindPath "nouveau") bdf
  let bound ← waitDriver bdf "nouveau"
  require bound (bdf ++ " did not bind Nouveau for " ++ label)
  let afterCount ← bootReturns
  require (beforeCount < afterCount) (bdf ++ " produced no BOOT_RETURN for " ++ label)
  let bootLine ← output ["dmesg", "|", "grep", "gv100_nouveau_acr_hook: BOOT_RETURN", "|", "tail", "-n", "1"]
  say (bdf ++ ": " ++ bootLine)
  require (Text.contains "function_rc=0".toList bootLine.toList) (bdf ++ " ACR return failed for " ++ label)

/-- `apply_signed_write` behind the restored firmware. -/
def handBack (c : Config) (bdf payload label : String) : Routine Unit := do
  removeHook
  writes (devicePath bdf "driver_override") "test-hold"
  writes (unbindPath "nouveau") bdf
  let driver ← driverOf bdf
  require (driver == "") (bdf ++ " did not unbind Nouveau after " ++ label)
  if payload = c.pciePolicy then do
    let actual ← mmioReadAt bdf 0x88610
    require (value actual == some 1) (bdf ++ " signed policy readback mismatch")
  else do
    let actual ← mmioReadAt bdf 0x8872c
    require (value actual == some 6) (bdf ++ " signed vector readback mismatch")
  writes (devicePath bdf "driver_override") "nvidia"
  writes (bindPath "nvidia") bdf
  let bound ← waitDriver bdf "nvidia"
  require bound (bdf ++ " did not rebind NVIDIA after " ++ label)
  let listed ← waitNvidiaBdf bdf
  require listed (bdf ++ " absent from nvidia-smi after " ++ label)

/-- The three copies of `apply_signed_write`. -/
def swapFirmware (c : Config) (payload : String) : Script Vars Unit := do
  let v ← vars
  let _ ← copyContent true c.customFecs (v.active .fecs)
  let _ ← copyContent true c.customBl (v.active .bl)
  let _ ← copyContent true payload (v.active .ucode)
  return ()

def applySignedWrite (c : Config) (bdf payload label : String) : Script Vars Unit := do
  let beforeCount ← armHook c bdf label
  swapFirmware c payload
  bootNouveau bdf label beforeCount
  let _ ← restoreStock c true
  handBack c bdf payload label

def writeTarget (c : Config) (bdf : String) : Script Vars Unit := do
  applySignedWrite c bdf c.pciePolicy "policy 0x88610=1"
  applySignedWrite c bdf c.pcieVector "vector 0x8872c=6"
  let advertised ← nvidiaMaxGen bdf
  require (advertisesGen2 advertised) (bdf ++ " NVIDIA policy did not advertise Gen2")

/-! ### The retrain -/

/-- The probes of the link status; the last value read. -/
def probeLink (statusAddress : String) : List String → String → Routine String
  | [], status => return status
  | _ :: attempts, _ => do
    let status ← mmioRead statusAddress
    if (value status).any fun n => (n >>> 16) &&& 0xf == 2 then return status
    else do
      must ["sleep", "0.1"]
      probeLink statusAddress attempts status

def assignedAddress (bdf : String) (offset : Nat) : Routine String := do
  match ← mmioAt bdf offset with
  | some address => return address
  | none => throw 1

/-- The rate request for the value `before` of the configuration register. -/
def rateRequest (before : Nat) : Nat := (before &&& (2 ^ 64 - 1 - 0xc0000)) ||| 0x40000

/-- A value of a register in arithmetic. -/
def wordOf (text : String) : Routine Nat :=
  match value text with
  | some n => return n
  | none => throw 1

def retrainOne (bdf : String) : Routine Unit := do
  let cfgAddress ← assignedAddress bdf 0x8c040
  let statusAddress ← assignedAddress bdf 0x88088
  say (bdf ++ ": unbind NVIDIA for bounded Gen2 retrain")
  writes (devicePath bdf "driver_override") "test-hold"
  writes (unbindPath "nvidia") bdf
  let driver ← driverOf bdf
  require (driver == "") (bdf ++ " did not unbind from NVIDIA before retrain")
  let target ← mmioReadAt bdf 0x880a8
  let cap ← mmioReadAt bdf 0x88084
  require (((value target).any fun n => n &&& 15 == 2) && (value cap).any fun n => 2 ≤ n &&& 15)
    (bdf ++ " Gen2 capability/target prerequisites failed")
  let before ← wordOf (← mmioRead cfgAddress)
  let field := configRateField before
  require (field == 1 || field == 2) (bdf ++ " unexpected 0x8c040 rate field " ++ toString field)
  let request := rateRequest before
  mmioWrite cfgAddress (hexText8 request)
  let after ← mmioRead cfgAddress
  require (value after == some request) (bdf ++ " did not retain corrected 0x8c040 value")
  mmioWrite cfgAddress (hexText8 (request ||| 1))
  let attempts ← rounds 10
  let status ← probeLink statusAddress attempts ""
  require ((value status).any fun n => (n >>> 16) &&& 0xf == 2)
    (bdf ++ " did not reach physical Gen2 within the bounded wait")
  let final ← mmioRead cfgAddress
  require ((value final).any fun n => n &&& 1 == 0) (bdf ++ " CHANGE_SPEED did not self-clear")
  require ((value final).any fun n => configRateField n == 1) (bdf ++ " lost corrected Gen2 rate field")
  say (bdf ++ ": physical BAR0[0x88088]=" ++ status ++ " reports Gen2")
  writes (devicePath bdf "driver_override") "nvidia"
  writes (bindPath "nvidia") bdf
  let bound ← waitDriver bdf "nvidia"
  require bound (bdf ++ " did not rebind NVIDIA after retrain")
  let listed ← waitNvidiaBdf bdf
  require listed (bdf ++ " absent from nvidia-smi after retrain")
  let current ← nvidiaCurrentGen bdf
  let advertised ← nvidiaMaxGen bdf
  require (current == "2" && advertisesGen2 advertised) (bdf ++ " NVIDIA did not retain Gen2")

/-! ### The main path -/

/-- `ACTIVE_…=$(resolve_firmware …)` -/
def resolveActive (x : Firmware) : Script Vars Unit := do
  let resolved ← resolveFirmware x.path
  assign fun v => { v with active := Function.update v.active x resolved }

def assertActive (x : Firmware) : Script Vars Unit := do
  let v ← vars
  let sum ← shaOf (v.active x)
  require (sum == v.stockSha x) ("active " ++ x.name ++ " firmware is not the recorded original")

/-- The checks before anything is changed: the targets and the services to stop. -/
def checks (c : Config) : Script Vars (List String × List String) := do
  let (bdfs, services) ← preflight c
  let manifest ← readManifest c
  assign fun v => { v with stockSha := fun x => manifest x.stockVariable }
  verifyFiles c manifest
  Prog.forEach resolveActive Firmware.all
  Prog.forEach assertActive Firmware.all
  require (bdfs != "") "set explicit CMP100_PCIE_BDFS allow-list before a Gen2 operation"
  let line := (Text.cut ['\n'] bdfs.toList).1
  let targets := (Text.words Text.isBlank line).map String.ofList
  assign fun v => { v with targets := targets }
  require (!targets.isEmpty) "empty CMP100_PCIE_BDFS allow-list"
  checkTargets [] targets
  return (targets, (Text.words Text.isBlank services.toList).map String.ofList)

def quiesce (services : List String) : Script Vars Unit := do
  Prog.forEach stopService services
  checkClients
  stopPersistenced
  Prog.forEach unloadModule ["nvidia_uvm", "nvidia_drm", "nvidia_modeset"]
  must ["modprobe", "nouveau"]

/-- `install` of one active file in the backup directory. -/
def saveActive (x : Firmware) : Script Vars Unit := do
  let v ← vars
  let status ← copied ["install", "-m", "0600"] (v.active x) (v.backupDir ++ "/" ++ x.file)
  ensure status

def backup : Script Vars Unit := do
  match ← sh (.tempDir "/run/cmp100-pcie.XXXXXX") with
  | none => throw 1
  | some dir => do
    assign fun v => { v with backupDir := dir }
    Prog.forEach saveActive Firmware.all
    assign fun v => { v with mutating := true }

def inventory : Routine Unit := do
  say "All selected CMP100s report physical and NVIDIA Gen2:"
  must ["nvidia-smi", "--query-gpu=index,pci.bus_id,name,driver_version,pcie.link.gen.current,pcie.link.gen.max",
    "--format=csv,noheader"]

/-- The signed writes and the retrains. -/
def mutate (c : Config) (targets : List String) : Script Vars Unit := do
  Prog.forEach (writeTarget c) targets
  Prog.forEach (fun bdf => liftM (retrainOne bdf)) targets
  let _ ← restoreStock c true
  removeHook
  assign fun v => { v with success := true }
  inventory

/-- The script behind its traps. -/
def main (c : Config) : Script Vars Unit := do
  let (targets, services) ← checks c
  let done ← allDone targets
  if done then do
    say "All allow-listed CMP100s already report Gen2 with the GV100 field encoding; no changes made."
    assign fun v => { v with success := true }
    throw 0
  else do
    quiesce services
    backup
    mutate c targets

/-! ### Cleanup -/

def hashesMatch (v : Vars) : Routine Bool := do
  let fecs ← shaOf (v.active .fecs)
  if fecs ≠ v.stockSha .fecs then return false
  else do
    let bl ← shaOf (v.active .bl)
    if bl ≠ v.stockSha .bl then return false
    else do
      let ucode ← shaOf (v.active .ucode)
      return ucode == v.stockSha .ucode

/-- Run a check for each item, also after one that failed: whether all succeeded. -/
def allOk {α : Type} (p : α → Routine Bool) : List α → Routine Bool
  | [] => return true
  | a :: as => do
    let ok ← p a
    let others ← allOk p as
    return ok && others

/-- The branch of `cleanup` for a run that may have changed firmware: whether the recovery succeeded. -/
def recover (c : Config) (v : Vars) : Script Vars Bool := do
  let status ← restoreStock c false
  let same ← hashesMatch v
  removeHook
  let loaded ← sh (.isDir hookModule)
  let rebound ← allOk rebindNvidia v.targets
  return status == 0 && same && !loaded && rebound

/-- `cleanup` behind the recovery: modules, services, the backup directory, and the final status. -/
def finish (c : Config) (v : Vars) (rc : Nat) (recovered : Bool) : Script Vars Nat := do
  let reloaded ← allOk (fun module => check ["modprobe", module]) v.initiallyLoadedModules
  restoreServices v
  if !recovered || !reloaded then do
    note ("RECOVERY INCOMPLETE: inspect drivers/firmware; backup retained at " ++ v.backupDir)
    note ("FAILED (rc=1, recovery_failed=1); inspect " ++ c.log)
    return 1
  else do
    Prog.when (v.backupDir ≠ "") (do
      let _ ← removed v.backupDir)
    Prog.when (rc ≠ 0) (liftM (note ("FAILED (rc=" ++ toString rc ++ ", recovery_failed=0); inspect " ++ c.log)))
    Prog.when (rc = 0 ∧ v.success) (liftM (note ("PASS; cleanup completed; log saved to " ++ c.log)))
    return rc

/-- `cleanup` after an exit with status `rc`: the final status. -/
def cleanup (c : Config) (rc : Nat) : Script Vars Nat := do
  assign fun v => { v with exitTrap := false }
  let v ← vars
  if v.mutating then do
    let recovered ← recover c v
    finish c v rc recovered
  else finish c v rc true

/-- The commands before the traps are set. -/
def openLog (c : Config) : Routine Unit := do
  must ["mkdir", "-p", logDir]
  must ["exec", ">", "tee", "-a", c.log]

/-- The script: its exit status. -/
def run (c : Config) : Script Vars Nat := do
  openLog c
  let outcome ← (main c).attempt
  cleanup c (match outcome with
    | .ok () => 0
    | .error rc => rc)

end CmpUnlocker.PcieGen2
