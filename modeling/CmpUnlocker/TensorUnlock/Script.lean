import CmpUnlocker.Guest.Common

/-!
# The Tensor unlock

`cmp100-tensor-unlock` from its first command to its exit.  Under `set -eu` a failing command and an unset variable
exit; the trap on exit runs `cleanup`, which restores the firmware files from the saved copies on every exit, also on
one before the saved copies were checked.
-/

namespace CmpUnlocker.TensorUnlock

open Interaction Shell Guest

/-! ### Paths and variables -/

/-- The user, the directories, the log file of the run, and the environment variables the script starts with. -/
structure Config where
  euid : Nat := 0
  stateDir : String := "/var/lib/cmp100-unlocker"
  libDir : String := "/usr/lib/cmp100-unlocker"
  log : String := "/var/log/cmp100-tensor-unlock/run-19700101T000000Z.log"
  bdfs : String := ""
  stopServices : String := ""
  deriving DecidableEq, Repr

namespace Config

def manifest (c : Config) : String := c.stateDir ++ "/manifest.env"

def stock (c : Config) (x : Firmware) : String := c.stateDir ++ "/stock/" ++ x.file

def custom (c : Config) : Firmware → String
  | .fecs => c.libDir ++ "/payloads/fecs_sig.candidate-c-504.bin"
  | .bl => c.libDir ++ "/payloads/bl.load-candidate-c.bin"
  | .ucode => c.libDir ++ "/payloads/ucode_load.tensor-success-lsb-restore.bin"

def hook (c : Config) : String := c.libDir ++ "/gv100_nouveau_acr_hook.ko"

end Config

def logDir : String := "/var/log/cmp100-tensor-unlock"

/-- The trap on exit: not set yet, set, or running. -/
inductive Trap
  | unset
  | set
  | running
  deriving DecidableEq, Repr

structure Vars where
  targets : List String := []
  persistencedWasActive : Bool := false
  success : Bool := false
  trap : Trap := .unset
  deriving DecidableEq, Repr

/-! ### Firmware -/

/-- `cp -f`; under `set -e` a failure exits. -/
def copyFile (errexit : Bool) (source target : String) : Script Vars Unit := do
  let status ← copied ["cp", "-f"] source target
  if errexit ∧ status ≠ 0 then throw status else return ()

/-- `restore_stock`, under `set -e`, or behind `|| true`. -/
def restoreStock (c : Config) (errexit : Bool) : Script Vars Unit := do
  copyFile errexit (c.stock .fecs) Firmware.fecs.path
  copyFile errexit (c.stock .bl) Firmware.bl.path
  copyFile errexit (c.stock .ucode) Firmware.ucode.path
  let synced ← sh (.exec ["sync"])
  if errexit ∧ synced.status ≠ 0 then throw synced.status else return ()

def installCustom (c : Config) : Script Vars Unit := do
  copyFile true (c.custom .fecs) Firmware.fecs.path
  copyFile true (c.custom .bl) Firmware.bl.path
  copyFile true (c.custom .ucode) Firmware.ucode.path
  must ["sync"]

/-! ### Checks -/

def assertSha (path expected : String) : Routine Unit := do
  let file ← sh (.isFile path)
  require file ("missing " ++ path)
  let sum ← shaOf path
  require (sum == expected) ("SHA mismatch: " ++ path)

/-- A variable under `set -u`. -/
def variableOf (vars : String → Option String) (name : String) : Routine String :=
  match vars name with
  | some value => return value
  | none => throw 1

/-- `assert_sha` with a hash of the manifest. -/
def assertManifest (vars : String → Option String) (path name : String) : Routine Unit := do
  let expected ← variableOf vars name
  assertSha path expected

def readManifest (c : Config) : Routine (String → Option String) := do
  require (c.euid == 0) "run as root"
  let readable ← sh (.isReadable c.manifest)
  require readable ("missing " ++ c.manifest ++ "; run install.sh")
  sourced c.manifest

/-- The devices of PCI domain 0000 that are CMP100s. -/
def findDevices : List String → Routine (List String)
  | [] => return []
  | bdf :: rest => do
    let vendorReadable ← sh (.isReadable (devicePath bdf "vendor"))
    let deviceReadable ← if vendorReadable then sh (.isReadable (devicePath bdf "device")) else pure false
    let vendor ← if deviceReadable then sh (.readText (devicePath bdf "vendor")) else pure none
    let device ← if vendor = some "0x10de" then sh (.readText (devicePath bdf "device")) else pure none
    let others ← findDevices rest
    return if device = some "0x1d84" then bdf :: others else others

/-- The targets of `CMP100_BDFS`, or all devices found. -/
def findTargets (c : Config) : Routine (List String) := do
  if c.bdfs ≠ "" then
    return (Text.words Text.isBlank (Text.cut ['\n'] c.bdfs.toList).1).map String.ofList
  else do
    let names ← capture ["printf", "%s\n", "/sys/bus/pci/devices/0000:*"]
    findDevices ((Text.words Text.isBlank names.toList).map fun name => String.ofList (Text.lastComponent name))

def verifyFiles (c : Config) (vars : String → Option String) : Routine Unit := do
  assertManifest vars (c.stock .fecs) "STOCK_FECS_SHA"
  assertManifest vars (c.stock .bl) "STOCK_BL_SHA"
  assertManifest vars (c.stock .ucode) "STOCK_UCODE_SHA"
  assertManifest vars (c.custom .fecs) "CUSTOM_FECS_SHA"
  assertManifest vars (c.custom .bl) "CUSTOM_BL_SHA"
  assertManifest vars (c.custom .ucode) "CUSTOM_UCODE_SHA"
  assertManifest vars c.hook "HOOK_SHA"

def checkTarget (bdf : String) : Routine Unit := do
  require (isTarget bdf) ("unsupported BDF shape: " ++ bdf)
  let dir ← sh (.isDir ("/sys/bus/pci/devices/" ++ bdf))
  require dir ("missing PCI device " ++ bdf)
  let vendor ← sh (.readText (devicePath bdf "vendor"))
  require (vendor == some "0x10de") (bdf ++ " vendor mismatch")
  let device ← sh (.readText (devicePath bdf "device"))
  require (device == some "0x1d84") (bdf ++ " device mismatch")
  let driver ← driverOf bdf
  require (driver == "nvidia") (bdf ++ " must start bound to nvidia")

/-! ### Quiescing the GPUs -/

def stopServices (c : Config) : Routine Unit :=
  Prog.forEach (fun unit : List Char => do
    say ("Stopping configured workload service " ++ String.ofList unit)
    must ["systemctl", "stop", String.ofList unit]) (Text.words Text.isBlank c.stopServices.toList)

def stopPersistenced : Script Vars Unit := do
  let active ← check ["systemctl", "is-active", "--quiet", "nvidia-persistenced"]
  Prog.when active (assign fun v => { v with persistencedWasActive := true })
  let _ ← check ["systemctl", "stop", "nvidia-persistenced"]
  return ()

def unloadModules : Routine Unit := do
  Prog.forEach (fun module => do
    let loaded ← check ["grep", "-q", "^" ++ module ++ " ", "/proc/modules"]
    Prog.when loaded (do
      let unloaded ← check ["modprobe", "-r", module]
      require unloaded ("cannot unload " ++ module ++ "; stop GPU clients first")))
    ["nvidia_uvm", "nvidia_drm", "nvidia_modeset"]
  must ["modprobe", "nouveau"]

/-! ### One device -/

/-- `remove_hook` under `set -e`. -/
def removeHook : Routine Unit := do
  let loaded ← sh (.isDir hookModule)
  Prog.when loaded (must ["rmmod", "gv100_nouveau_acr_hook"])

def waitNvidiaBdfFor (bdf : String) : List String → Routine Bool
  | [] => return false
  | _ :: attempts => do
    let inventory ← capture ["timeout", "15", "nvidia-smi", "--query-gpu=pci.bus_id,name", "--format=csv,noheader"]
    if grepFqi (shortBdf bdf) inventory then return true
    else do
      let _ ← check ["sleep", "0.5"]
      waitNvidiaBdfFor bdf attempts

def waitNvidiaBdf (bdf : String) : Routine Bool := do
  let attempts ← rounds 20
  waitNvidiaBdfFor bdf attempts

/-- The loop that waits for a driver. -/
def waitDriverFor (bdf wanted : String) : List String → Routine Unit
  | [] => return ()
  | _ :: attempts => do
    let current ← driverOf bdf
    if current == wanted then return ()
    else do
      must ["sleep", "0.1"]
      waitDriverFor bdf wanted attempts

def tensorAddress (bdf : String) : Routine String := do
  let bar0 ← output ["awk", "NR==1 {print $1}", devicePath bdf "resource"]
  match value bar0 with
  | some base => return hexText ((base + 0x409664) % 2 ^ 64)
  | none => throw 1

def bindNvidia (bdf : String) : Routine Unit := do
  writes (devicePath bdf "driver_override") "nvidia"
  writes (bindPath "nvidia") bdf

/-- `unlock_one` up to the swap of the firmware; none if the device is unlocked already. -/
def prepareUnlock (c : Config) (bdf : String) : Routine (Option (String × Nat)) := do
  let bus ← busNumber bdf
  let tensorPhys ← tensorAddress bdf
  say (bdf ++ ": unbind NVIDIA")
  writes (devicePath bdf "driver_override") "test-hold"
  writes (unbindPath "nvidia") bdf
  let baseline ← output ["busybox", "devmem", tensorPhys, "32"]
  say (bdf ++ ": Tensor baseline " ++ baseline)
  if baseline = "0x00000888" then do
    say (bdf ++ ": already unlocked; return directly to NVIDIA")
    bindNvidia bdf
    let listed ← waitNvidiaBdf bdf
    require listed (bdf ++ " absent from nvidia-smi after handoff")
    return none
  else do
    require (baseline == "0x00000999") (bdf ++ " unexpected Tensor baseline " ++ baseline)
    removeHook
    must ["insmod", c.hook, "bus=" ++ toString bus, "armed=1", "replace_on_return=2", "load_test_size=0x5d00"]
    let beforeCount ← bootReturns
    return some (tensorPhys, beforeCount)

/-- The boot through Nouveau with the swapped firmware. -/
def bootNouveau (bdf : String) (beforeCount : Nat) : Routine Unit := do
  say (bdf ++ ": boot signed ACR chain through Nouveau")
  writes (devicePath bdf "driver_override") "nouveau"
  writes (bindPath "nouveau") bdf
  let attempts ← rounds 50
  waitDriverFor bdf "nouveau" attempts
  let driver ← driverOf bdf
  require (driver == "nouveau") (bdf ++ " did not bind to Nouveau")
  let afterCount ← bootReturns
  require (beforeCount < afterCount) (bdf ++ " produced no new BOOT_RETURN")
  let bootLine ← output ["dmesg", "|", "grep", "gv100_nouveau_acr_hook: BOOT_RETURN", "|", "tail", "-n", "1"]
  say (bdf ++ ": " ++ bootLine)
  require (Text.contains "function_rc=0".toList bootLine.toList) (bdf ++ " ACR return was not successful")
  require (Text.contains "tensor_409664=0x00000888".toList bootLine.toList) (bdf ++ " Tensor register was not unlocked")

/-- `unlock_one` behind the restored firmware. -/
def handBack (bdf tensorPhys : String) : Routine Unit := do
  removeHook
  say (bdf ++ ": clean Nouveau unload and NVIDIA handoff")
  writes (devicePath bdf "driver_override") "test-hold"
  writes (unbindPath "nouveau") bdf
  let tensor ← capture ["busybox", "devmem", tensorPhys, "32"]
  require (tensor == "0x00000888") (bdf ++ " lost Tensor value before NVIDIA bind")
  bindNvidia bdf
  let attempts ← rounds 50
  waitDriverFor bdf "nvidia" attempts
  let driver ← driverOf bdf
  require (driver == "nvidia") (bdf ++ " did not return to NVIDIA")
  let listed ← waitNvidiaBdf bdf
  require listed (bdf ++ " absent from nvidia-smi after handoff")
  say (bdf ++ ": unlock and NVIDIA handoff PASS")

def unlockOne (c : Config) (bdf : String) : Script Vars Unit := do
  match ← prepareUnlock c bdf with
  | none => return ()
  | some (tensorPhys, beforeCount) => do
    installCustom c
    bootNouveau bdf beforeCount
    restoreStock c true
    handBack bdf tensorPhys

/-! ### The main path -/

/-- Everything up to the first command that writes a firmware file. -/
def checks (c : Config) : Script Vars (List String) := do
  let vars ← readManifest c
  let targets ← findTargets c
  assign fun v => { v with targets := targets }
  require (!targets.isEmpty) "no CMP100-210 (10de:1d84) found in PCI domain 0000"
  verifyFiles c vars
  return targets

/-- The script behind its trap. -/
def main (c : Config) : Script Vars Unit := do
  let targets ← checks c
  restoreStock c true
  Prog.forEach (fun bdf => liftM (checkTarget bdf)) targets
  stopServices c
  stopPersistenced
  unloadModules
  Prog.forEach (unlockOne c) targets
  must ["modprobe", "nvidia_uvm"]
  restoreStock c true
  removeHook
  assign fun v => { v with success := true }
  say "All selected GPUs unlocked. Final inventory:"
  must ["nvidia-smi", "--query-gpu=index,pci.bus_id,name,driver_version,pcie.link.gen.current,pcie.link.gen.max",
    "--format=csv,noheader"]
  say ("PASS; log saved to " ++ c.log)

/-! ### Cleanup -/

/-- One pass of `best_effort_nvidia_recovery`. -/
def recoverDevice (bdf : String) : Routine Unit := do
  let current ← driverOf bdf
  let current ←
    if current == "nouveau" then do
      let _ ← sh (.writeText (devicePath bdf "driver_override") "test-hold")
      let _ ← sh (.writeText (unbindPath "nouveau") bdf)
      driverOf bdf
    else pure current
  Prog.when (current = "") (do
    let _ ← sh (.writeText (devicePath bdf "driver_override") "nvidia")
    let _ ← sh (.writeText (bindPath "nvidia") bdf))

def bestEffortNvidiaRecovery (targets : List String) : Routine Unit := do
  Prog.forEach recoverDevice targets
  let _ ← check ["modprobe", "nvidia_uvm"]

/-- `remove_hook || true` -/
def tryRemoveHook : Routine Unit := do
  let loaded ← sh (.isDir hookModule)
  Prog.when loaded (do let _ ← check ["rmmod", "gv100_nouveau_acr_hook"])

/-- `cleanup` behind `restore_stock`. -/
def finish (c : Config) (v : Vars) (rc : Nat) : Routine Nat := do
  tryRemoveHook
  Prog.when (!v.success) (bestEffortNvidiaRecovery v.targets)
  Prog.when v.persistencedWasActive (do let _ ← check ["systemctl", "start", "nvidia-persistenced"])
  Prog.when (rc ≠ 0) (say ("FAILED (rc=" ++ toString rc ++ "); stock firmware restored. Inspect " ++ c.log))
  return rc

/-- `cleanup` after an exit with status `rc`: the final status. -/
def cleanup (c : Config) (rc : Nat) : Script Vars Nat := do
  assign fun v => { v with trap := .running }
  restoreStock c false
  let v ← vars
  finish c v rc

/-- The commands before the trap is set. -/
def openLog (c : Config) : Routine Unit := do
  must ["mkdir", "-p", logDir]
  must ["exec", ">", "tee", "-a", c.log]

/-- The script: its exit status. -/
def run (c : Config) : Script Vars Nat := do
  openLog c
  assign fun v => { v with trap := .set }
  let outcome ← (main c).attempt
  cleanup c (match outcome with
    | .ok () => 0
    | .error rc => rc)

end CmpUnlocker.TensorUnlock
