import CmpUnlocker.Lib.Shell
import CmpUnlocker.Payloads.Build

/-!
# The installers

`install.sh` and `install-pcie-guest.sh` under `set -Eeuo pipefail`, with `main` of `build_payloads.py` which both run.
The two scripts have the same order of work and differ in their directories, in the artifacts they keep and in a few
commands.  A command that fails ends the script by `throw`; the trap on exit removes the temporary directory.
-/

namespace CmpUnlocker.Install

open Interaction Guest Payloads
open Shell (Content Result)

/-! ### Places -/

inductive Installer
  | tensor
  | pcieGuest
  deriving DecidableEq

namespace Installer

def stateDir : Installer → String
  | tensor => "/var/lib/cmp100-unlocker"
  | pcieGuest => "/var/lib/cmp100-pcie"

def libDir : Installer → String
  | tensor => "/usr/lib/cmp100-unlocker"
  | pcieGuest => "/usr/lib/cmp100-pcie"

def script : Installer → String
  | tensor => "install.sh"
  | pcieGuest => "install-pcie-guest.sh"

/-- The options that set owner and group. -/
def owner : Installer → List String
  | tensor => []
  | pcieGuest => ["-o", "root", "-g", "root"]

end Installer

/-- The files the installers work with. -/
inductive Place
  | active (x : Firmware)
  | stock (i : Installer) (x : Firmware)
  | temp (dir name : String)
  | lib (i : Installer) (name : String)
  | root (dir name : String)
  | system (path : String)
  deriving DecidableEq

def Place.path : Place → String
  | active x => x.path
  | stock i x => i.stateDir ++ "/stock/" ++ x.file
  | temp dir name => dir ++ "/payloads/" ++ name
  | lib i name => i.libDir ++ "/" ++ name
  | root dir name => dir ++ "/" ++ name
  | system path => path

/-- The lines `NAME=value` of a manifest. -/
abbrev Manifest : Type := List (String × String)

/-! ### Requests -/

inductive Op
  | exec (argv : List String)
  | pipe (argvs : List (List String))
  | isFile (path : Place)
  | isPresent (path : String)
  | makeTemp
  | removeTemp (dir : String)
  | install (options : List String) (source target : Place)
  | digest (path : Place)
  | writeManifest (i : Installer) (lines : Manifest)
  | writeText (path text : String)
  | readBytes (path : Place)
  | mkdir (path : String)
  | writeBytes (path : Place) (blob : Content)
  | print (text : String)

/-- Commands answer their status; the accesses of the Python program succeed or raise `OSError`. -/
@[reducible] def Op.Answer : Op → Type
  | .exec _ => Result
  | .pipe _ | .removeTemp _ | .install _ _ _ | .writeManifest _ _ | .writeText _ _ => Nat
  | .isFile _ | .isPresent _ | .mkdir _ | .writeBytes _ _ | .print _ => Bool
  | .makeTemp => Option String
  | .digest _ => String
  | .readBytes _ => Option Content

abbrev Script (α : Type) : Type := Prog Op Op.Answer Nat α

def ensure (status : Nat) : Script Unit := if status = 0 then return () else throw status

def must (argv : List String) : Script Unit := do
  let r ← Prog.request (Op.exec argv)
  ensure r.status

def echo (text : String) : Script Unit := must ["echo", text]

/-- `command || { echo … >&2; exit 1; }`. -/
def orExit (ok : Bool) (text : String) : Script Unit :=
  if ok then return () else do
    echo text
    throw 1

def test (argv : List String) : Script Bool := do
  let r ← Prog.request (Op.exec argv)
  return r.status == 0

def installFile (options : List String) (source target : Place) : Script Unit := do
  let status ← Prog.request (Op.install options source target)
  ensure status

def digest (path : Place) : Script String := Prog.request (Op.digest path)

/-! ### `build_payloads.py` -/

/-- What ends the Python program early. -/
inductive Failure
  | exn (e : Exn)
  | osError

abbrev Python (α : Type) : Type := Prog Op Op.Answer Failure α

def raise {α : Type} : Except Exn α → Python α
  | .ok a => return a
  | .error e => throw (.exn e)

def accessed (ok : Bool) : Python Unit := if ok then return () else throw .osError

section

variable (sha256 : Content → String)

def checkedRead (path : Place) (expectedHash : String) (expectedSize : Nat) : Python Content := do
  match ← Prog.request (Op.readBytes path) with
  | none => throw .osError
  | some blob =>
    if blob.length ≠ expectedSize then
      throw
        (.exn (.systemExit (path.path ++ ": size " ++ hexText blob.length ++ ", expected " ++ hexText expectedSize)))
    else if sha256 blob ≠ expectedHash then
      throw (.exn (.systemExit (path.path ++ ": SHA-256 " ++ sha256 blob ++ ", expected " ++ expectedHash)))
    else return blob

def writeChecked (path : Place) (name : String) (blob : Content) (expectedHash : String) : Python Unit := do
  if sha256 blob ≠ expectedHash then
    throw
      (.exn (.systemExit ("internal mismatch for " ++ name ++ ": " ++ sha256 blob ++ ", expected " ++ expectedHash)))
  else do
    accessed (← Prog.request (Op.writeBytes path blob))
    accessed (← Prog.request (Op.print (sha256 blob ++ "  " ++ path.path)))

/-- The three stock images by their names. -/
def images (fecs bl ucode : Content) : Firmware → Content
  | .fecs => fecs
  | .bl => bl
  | .ucode => ucode

def writeArtifact (output : String) (stock : Firmware → Content) (a : Artifact) : Python Unit := do
  let blob ← raise (a.build stock)
  writeChecked sha256 (.temp output a.name) a.name blob a.sha

/-- `main`, with `--output` the directory `payloads` in `output`. -/
def buildPayloads (i : Installer) (output : String) : Python Unit := do
  let fecs ← checkedRead sha256 (.stock i .fecs) (stockSha .fecs) (stockSize .fecs)
  let bl ← checkedRead sha256 (.stock i .bl) (stockSha .bl) (stockSize .bl)
  let ucode ← checkedRead sha256 (.stock i .ucode) (stockSha .ucode) (stockSize .ucode)
  accessed (← Prog.request (Op.mkdir (output ++ "/payloads")))
  Prog.forEach (writeArtifact sha256 output (images fecs bl ucode)) artifacts

end

/-! ### The scripts -/

/-- `for command in …` -/
def commands : Installer → List String
  | .tensor => ["python3", "make", "sha256sum", "install", "systemctl"]
  | .pcieGuest => ["python3", "make", "sha256sum", "install", "systemctl", "modinfo", "flock", "busybox"]

def preflight (i : Installer) : Script Unit := do
  orExit (← test ["[[", "$EUID", "-eq", "0", "]]"]) ("Run " ++ i.script ++ " as root.")
  Prog.forEach (fun command => do
    orExit (← test ["command", "-v", command]) ("Missing command: " ++ command)) (commands i)
  let kernel ← Prog.request (Op.exec ["uname", "-r"])
  orExit (← test ["[[", "-d", "/lib/modules/" ++ kernel.out ++ "/build", "]]"])
    ("Missing kernel headers for " ++ kernel.out ++ ".")
  Prog.forEach (fun firmware => do
    orExit (← Prog.request (Op.isFile (.active firmware))) ("Missing firmware: " ++ firmware.path)) Firmware.all
  must (["install", "-d"] ++ i.owner ++ ["-m", "0755", i.stateDir ++ "/stock", i.libDir ++ "/payloads"])

def saveStock (i : Installer) (x : Firmware) : Script Unit :=
  installFile (i.owner ++ ["-m", "0644"]) (.active x) (.stock i x)

/-- The copies of the stock firmware are taken if there is none of `fecs_sig.bin` yet. -/
def captureStock (i : Installer) : Script Unit := do
  let saved ← Prog.request (Op.isFile (.stock i .fecs))
  Prog.when (saved = false) do
    saveStock i .fecs
    saveStock i .bl
    saveStock i .ucode

def buildHook (root : String) : Installer → Script Unit
  | .tensor => do
    must ["make", "-C", root ++ "/src", "clean"]
    must ["make", "-C", root ++ "/src"]
  | .pcieGuest => do
    must ["make", "-C", root ++ "/src"]
    let kernel ← Prog.request (Op.exec ["uname", "-r"])
    let status ← Prog.request
      (Op.pipe [["modinfo", "-F", "vermagic", root ++ "/src/gv100_nouveau_acr_hook.ko"], ["grep", "-Fq", kernel.out]])
    orExit (status == 0) "Built hook vermagic does not match the running kernel."

/-- The artifacts a script keeps, with the variables of the manifest for their hashes. -/
def kept : Installer → List (String × Artifact)
  | .tensor =>
    [("CUSTOM_FECS_SHA", fecsArtifact), ("CUSTOM_BL_SHA", blArtifact), ("CUSTOM_UCODE_SHA", tensorArtifact)]
  | .pcieGuest =>
    [("CUSTOM_FECS_SHA", fecsArtifact), ("CUSTOM_BL_SHA", blArtifact), ("PCIE_POLICY_UCODE_SHA", policyArtifact),
      ("PCIE_VECTOR_UCODE_SHA", vectorArtifact)]

/-- The script in `scripts/` and the unit in `systemd/`. -/
def helper : Installer → String × String
  | .tensor => ("cmp100-tensor-unlock", "cmp100-tensor-unlock.service")
  | .pcieGuest => ("cmp100-pcie-gen2", "cmp100-pcie-gen2.service")

def installFiles (root tmp : String) (i : Installer) : Script Unit := do
  Prog.forEach (fun a =>
    installFile (i.owner ++ ["-m", "0644"]) (.temp tmp a.name) (.lib i ("payloads/" ++ a.name)))
    ((kept i).map Prod.snd)
  installFile (i.owner ++ ["-m", "0644"]) (.root root "src/gv100_nouveau_acr_hook.ko")
    (.lib i "gv100_nouveau_acr_hook.ko")
  installFile (i.owner ++ ["-m", "0755"]) (.root root ("scripts/" ++ (helper i).1))
    (.system ("/usr/local/sbin/" ++ (helper i).1))
  installFile (i.owner ++ ["-m", "0644"]) (.root root ("systemd/" ++ (helper i).2))
    (.system ("/etc/systemd/system/" ++ (helper i).2))

/-- The files whose hashes the manifest records. -/
def recorded (i : Installer) : List (String × Place) :=
  Firmware.all.map (fun x => (x.stockVariable, Place.stock i x)) ++
    (kept i).map (fun a => (a.1, Place.lib i ("payloads/" ++ a.2.name))) ++
    [("HOOK_SHA", Place.lib i "gv100_nouveau_acr_hook.ko")]

/-- The lines of the manifest, in order. -/
def manifestLines : List (String × Place) → Script Manifest
  | [] => return []
  | (name, path) :: rest => do
    let sum ← digest path
    let lines ← manifestLines rest
    return (name, sum) :: lines

def manifestPath (i : Installer) : String := i.stateDir ++ "/manifest.env"

def writeManifest (i : Installer) : Script Unit := do
  let lines ← manifestLines (recorded i)
  ensure (← Prog.request (Op.writeManifest i lines))
  Prog.when (i = .pcieGuest) (must ["chown", "root:root", manifestPath i])
  must ["chmod", "0600", manifestPath i]

def defaultsPath : Installer → String
  | .tensor => "/etc/default/cmp100-unlocker"
  | .pcieGuest => "/etc/default/cmp100-pcie"

def defaultsText : Installer → List String
  | .tensor =>
    ["# Optional space-separated BDF allow-list. Empty means auto-detect 10de:1d84.",
      "# CMP100_BDFS=\"0000:01:00.0 0000:02:00.0\"",
      "",
      "# Optional workload services to stop before driver handoff.",
      "# CMP100_STOP_SERVICES=\"my-inference.service my-monitor.service\""]
  | .pcieGuest =>
    ["# Required explicit space-separated BDF allow-list (or provided by the host).",
      "# CMP100_PCIE_BDFS=\"0000:01:00.0 0000:02:00.0\"",
      "",
      "# Optional workload units to stop before the transient driver handoff.",
      "# They are restarted asynchronously only when they were active before the run.",
      "# CMP100_PCIE_STOP_SERVICES=\"my-inference.service my-monitor.service\""]

def writeDefaults (i : Installer) : Script Unit := do
  let present ← Prog.request (Op.isPresent (defaultsPath i))
  Prog.when (present = false) do
    ensure (← Prog.request (Op.writeText (defaultsPath i) ("\n".intercalate (defaultsText i) ++ "\n")))
    Prog.when (i = .pcieGuest) do
      must ["chown", "root:root", defaultsPath i]
      must ["chmod", "0644", defaultsPath i]

def closingText : Installer → List String
  | .tensor =>
    ["", "Install complete. Stop every process using the CMP100 GPUs, then run:",
      "  sudo systemctl start cmp100-tensor-unlock.service",
      "  sudo journalctl -u cmp100-tensor-unlock.service -b --no-pager", "",
      "For optional boot integration, follow docs/DEBIAN13-BOOT-PROFILE.md", "only after every manual stage passes."]
  | .pcieGuest =>
    ["", "PCIe Gen2 helper installed but not enabled or started.", "After stopping GPU workloads, run:",
      "  sudo systemctl start cmp100-pcie-gen2.service",
      "  sudo journalctl -u cmp100-pcie-gen2.service -b --no-pager", "",
      "For guest boot and Proxmox recovery integration, follow",
      "docs/DEBIAN13-BOOT-PROFILE.md and docs/PCIE-AUTOMATION.md."]

def finish (i : Installer) : Script Unit := do
  must ["systemctl", "daemon-reload"]
  Prog.forEach echo (closingText i)

variable (sha256 : Content → String)

/-- The interpreter is started; an exception ends the Python program with status 1. -/
def python (root tmp : String) (i : Installer) : Script Unit := do
  must ["python3", root ++ "/tools/build_payloads.py", "--fecs", (Place.stock i .fecs).path, "--bl",
    (Place.stock i .bl).path, "--ucode", (Place.stock i .ucode).path, "--output", tmp ++ "/payloads"]
  (buildPayloads sha256 i tmp).handle fun _ => throw 1

/-- What follows `trap cleanup EXIT`. -/
def body (root tmp : String) (i : Installer) : Script Unit := do
  preflight i
  captureStock i
  python sha256 root tmp i
  buildHook root i
  installFiles root tmp i
  writeManifest i
  writeDefaults i
  finish i

def cleanup (tmp : String) : Script Unit := do
  ensure (← Prog.request (Op.removeTemp tmp))

/-- A run of the script in the directory `root`. -/
def install (root : String) (i : Installer) : Script Unit := do
  match ← Prog.request Op.makeTemp with
  | none => throw 1
  | some tmp =>
    let outcome ← (body sha256 root tmp i).attempt
    cleanup tmp
    match outcome with
    | .ok _ => return ()
    | .error status => throw status

end CmpUnlocker.Install
