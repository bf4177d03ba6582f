import CmpUnlocker.Lib.Shell
import CmpUnlocker.Lib.Text

/-!
# The HBM profile at boot

`cmp100-hbm-877-boot` from its first command to its exit.  One function, `cleanup`, is the trap for the exit and for
HUP, INT and TERM; on a signal it runs after the command the signal arrived in, with the status of that command in
`$?`.  It clears all traps first, so a signal in it ends the script at once.
-/

namespace CmpUnlocker.HbmBoot

open Interaction Shell

/-! ### Telemetry -/

/-- What the two Python programs read of one GPU; a value that is printed is given as its text. -/
structure Gpu where
  uuid : Option String
  hbmRaw : Option String
  memory : Option String
  limitW : Option Rat
  deriving DecidableEq

/-- `json.load` and the list under `gpus`, and `float` of a text; none where Python raises an exception. -/
structure Python where
  gpus : String → Option (List Gpu)
  float : String → Option Rat
  format : Rat → String

/-- The program of `read_state`: the status and the output. -/
def pickState (P : Python) (telemetry uuid : String) : Result :=
  match P.gpus telemetry with
  | none => ⟨1, ""⟩
  | some gpus =>
    match gpus.filter fun gpu => gpu.uuid == some uuid with
    | [gpu] =>
      match gpu.hbmRaw, gpu.memory with
      | some offset, some clock => ⟨0, offset ++ " " ++ clock⟩
      | _, _ => ⟨1, ""⟩
    | _ => ⟨2, ""⟩

/-- The program that compares the power limits: the status and the output. -/
def pickLimits (P : Python) (telemetry watts : String) (uuids : List String) : Result :=
  match P.float watts, P.gpus telemetry with
  | some expected, some gpus =>
    let matched := gpus.filter fun gpu => gpu.uuid.any uuids.contains
    if matched.any fun gpu => gpu.limitW.isNone then ⟨1, ""⟩
    else
      -- The last of several entries for one GPU counts.
      let limit (uuid : String) : Option Rat :=
        ((matched.filter fun gpu => gpu.uuid == some uuid).getLast?).bind (·.limitW)
      if uuids.all fun uuid => limit uuid == some expected then
        ⟨0, " ".intercalate (uuids.map fun uuid => uuid ++ "=" ++ P.format ((limit uuid).getD 0) ++ "W")⟩
      else ⟨2, ""⟩
  | _, _ => ⟨1, ""⟩

/-! ### Commands -/

def tool : String := "/usr/local/bin/cmp100-nvml-clock"

def lockDir : String := "/run/lock/cmp100-hbm-877.lock"

structure Config where
  uuids : String := ""
  powerLimitWatts : String := ""
  deriving DecidableEq, Repr

structure Vars where
  applied : List String := []
  success : Bool := false
  deriving DecidableEq, Repr

/-- A signal runs the trap, with the status of the last command. -/
def trapped (status : Nat) : Routine Unit := do
  match ← call .signal with
  | none => return ()
  | some _ => throw status

def command (argv : List String) : Routine Result := do
  let r ← call (.exec argv)
  trapped r.status
  return r

def must (argv : List String) : Routine Unit := do
  let r ← command argv
  ensure r.status

def check (argv : List String) : Routine Bool := do
  let r ← command argv
  return r.status == 0

def output (argv : List String) : Routine String := do
  let r ← command argv
  ensure r.status
  return r.out

def capture (argv : List String) : Routine String := do
  let r ← command argv
  return r.out

def store (f : Vars → Vars) : Script Vars Unit := do
  Prog.request (Op.update f)
  trapped 0

def say (message : String) : Routine Unit := must ["printf", "%s\n", "cmp100-hbm-877: " ++ message]

def die {α : Type} (message : String) : Routine α := do
  say ("ERROR: " ++ message)
  throw 1

def require (condition : Bool) (message : String) : Routine Unit := if condition then return () else die message

/-- A pipe into a Python program that may fail to run. -/
def piped (telemetry : Result) (program : String → Result) (argv : List String) : Routine Result := do
  let ran ← command argv
  return if ran.status = 0 then program telemetry.out else ⟨ran.status, ""⟩

def readState (P : Python) (uuid : String) : Routine Result := do
  let telemetry ← command [tool, "telemetry", "--json"]
  piped telemetry (fun text => pickState P text uuid) ["python3", "-c", uuid]

/-! ### The main path -/

/-- `[ text -eq n ]` -/
def isNat (text : String) (n : Nat) : Bool := Text.number 10 text.toList == some n

/-- `[ -f path ] && [ ! -L path ]` -/
def isRegular (path : String) : Routine Bool := do
  let file ← call (.isFile path)
  trapped (if file then 0 else 1)
  if file then do
    let link ← call (.isLink path)
    trapped (if link then 1 else 0)
    return !link
  else return false

def checkTool : Routine Unit := do
  let uid ← capture ["id", "-u"]
  require (isNat uid 0) "run as root"
  Prog.forEach (fun name => do
    let found ← check ["command", "-v", name]
    require found ("missing command: " ++ name)) ["python3", "stat", "id", "mkdir", "rmdir", "grep"]
  let regular ← isRegular tool
  require regular ("missing regular binary: " ++ tool)
  let owner ← capture ["stat", "-c", "%u", tool]
  require (isNat owner 0) (tool ++ " is not root-owned")
  let mode ← output ["stat", "-c", "%a", tool]
  match Text.number 8 ('0' :: mode.toList) with
  | none => throw 2
  | some bits => require (bits &&& 0o022 == 0) (tool ++ " is group/world writable")

def takeLock : Routine Unit := do
  must ["mkdir", "-p", "/run/lock"]
  let taken ← check ["mkdir", lockDir]
  require taken "another HBM profile operation is active"

/-- The `case` on the power limit. -/
def checkSettings (c : Config) : Routine Unit := do
  require (c.uuids != "") "set CMP100_HBM_UUIDS in /etc/default/cmp100-hbm-877"
  if c.powerLimitWatts.toList.any fun d => !('0' ≤ d && d ≤ '9') then
    die "CMP100_POWER_LIMIT_WATTS must be a positive integer in watts"
  else require (c.powerLimitWatts != "0") "CMP100_POWER_LIMIT_WATTS must be greater than zero"

/-- `^GPU-[[:xdigit:]]{8}-…$` -/
def isUuid (uuid : String) : Bool :=
  match Text.splitOn (· == '-') uuid.toList with
  | [gpu, a, b, c, d, e] =>
    gpu == "GPU".toList && [(a, 8), (b, 4), (c, 4), (d, 4), (e, 12)].all fun part =>
      part.1.length == part.2 && part.1.all fun x => (Text.digit 16 x).isSome
  | _ => false

def checkUuids (seen : String) : List String → Routine Unit
  | [] => return ()
  | uuid :: rest => do
    let matched ← check ["printf", "%s\n", uuid, "|", "grep", "-Eq"]
    require (matched && isUuid uuid) ("invalid GPU UUID: " ++ uuid)
    require (!Text.contains (" " ++ uuid ++ " ").toList seen.toList) ("duplicate GPU UUID: " ++ uuid)
    must [tool, "profile", "--uuid", uuid, "--name", "hbm-877"]
    checkUuids (seen ++ uuid ++ " ") rest

def applyProfile (c : Config) (uuid : String) : Script Vars Unit := do
  must [tool, "profile", "--uuid", uuid, "--name", "hbm-877", "--apply"]
  store fun v => { v with applied := v.applied ++ [uuid] }
  Prog.when (c.powerLimitWatts ≠ "")
    (liftM (must [tool, "tune", "--uuid", uuid, "--watts", c.powerLimitWatts, "--apply"]))

def verifyProfile (P : Python) (uuid : String) : Routine Unit := do
  let state ← readState P uuid
  require (state.status == 0) ("cannot read final state for " ++ uuid)
  let fields := Text.splitOn (· == ' ') state.out.toList
  let offset := String.ofList (fields.headD [])
  let clock := String.ofList (fields.getLast?.getD [])
  require (isNat offset 138 && isNat clock 877)
    (uuid ++ " verification failed: offset=" ++ offset ++ " clock=" ++ clock ++ "MHz")
  say (uuid ++ " verified at offset +138 and 877 MHz")

def verifyLimits (P : Python) (c : Config) (uuids : List String) : Routine Unit :=
  Prog.when (c.powerLimitWatts ≠ "") (do
    let telemetry ← command [tool, "telemetry", "--json"]
    let limits ← piped telemetry
      (fun text => pickLimits P text c.powerLimitWatts uuids) ["python3", "-c", c.powerLimitWatts]
    require (limits.status == 0) ("power-limit verification failed; expected " ++ c.powerLimitWatts ++ " W")
    say ("power limits verified: " ++ limits.out))

/-- The words of `$CMP100_HBM_UUIDS`. -/
def Config.uuidList (c : Config) : List String := (Text.words Text.isBlank c.uuids.toList).map String.ofList

/-- The script behind its traps. -/
def main (P : Python) (c : Config) : Script Vars Unit := do
  checkTool
  takeLock
  checkSettings c
  checkUuids " " c.uuidList
  Prog.forEach (applyProfile c) c.uuidList
  Prog.forEach (fun uuid => liftM (verifyProfile P uuid)) c.uuidList
  verifyLimits P c c.uuidList
  store fun v => { v with success := true }
  say "PASS"

/-! ### Cleanup -/

def resetGpu (c : Config) (uuid : String) : Routine Unit := do
  let _ ←
    if c.powerLimitWatts ≠ "" then Shell.check [tool, "reset", "--uuid", uuid, "--hbm", "--power", "--apply"]
    else Shell.check [tool, "reset", "--uuid", uuid, "--hbm", "--apply"]

/-- `cleanup` behind its first two commands: a signal ends the script. -/
def cleanupWith (c : Config) (rc : Nat) : Script Vars Nat := do
  taken
  let v ← vars
  Prog.when (!v.success ∧ v.applied ≠ []) (do
    Shell.must ["printf", "%s\n", "cmp100-hbm-877: partial apply failed; resetting HBM on GPUs changed by this run"]
    Prog.forEach (fun uuid => liftM (resetGpu c uuid)) v.applied)
  let _ ← Shell.check ["rmdir", lockDir]
  return rc

/-- `cleanup` after `$?` was `rc`.  A signal between `rc=$?` and `trap -` runs it again, after an assignment. -/
def cleanup (c : Config) (rc : Nat) : Script Vars Nat := do
  match ← call .signal with
  | none => cleanupWith c rc
  | some _ => cleanupWith c 0

/-- The script: its exit status. -/
def run (P : Python) (c : Config) : Script Vars Nat := do
  let outcome ← (main P c).attempt
  cleanup c (match outcome with
    | .ok () => 0
    | .error rc => rc)

end CmpUnlocker.HbmBoot
