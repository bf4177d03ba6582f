import CmpUnlocker.PcieHost.Basic

/-!
# One run of the coordinator

`guest_exec`, `atomic_state` and `run`.  The local variable `boot_id` of `run` is read by its exception handler; here
an exception of the guarded block carries its value (`Failure`), and `within` attaches it.
-/

namespace CmpUnlocker.PcieHost

open Interaction

/-! ### Guest commands -/

/-- A field of the dictionary a guest command returned. -/
def field (key : String) : Json → Except Exn (Option Json)
  | .obj fields => .ok (Json.get? key fields)
  | _ => .error (otherError "not a dictionary")

/-- `state.get(key, '')[-n:]`. -/
def tailOf (P : Platform) (key : String) (n : Nat) (state : Json) : Except Exn String := do
  let value ← field key state
  match P.tail (value.getD (.str "")) n with
  | some text => .ok text
  | none => .error (otherError "value cannot be sliced")

/-- `guest_exec` behind `exited`. -/
def guestResult (P : Platform) (state : Json) : Except Exn Json := do
  let exitcode ← field "exitcode" state
  if !(exitcode.any Json.isZero) then do
    let err ← tailOf P "err-data" 2000 state
    let out ← tailOf P "out-data" 3000 state
    throw (runtimeError ("guest exit " ++ P.text (exitcode.getD .null) ++ ": " ++ err ++ " " ++ out))
  else do
    let out ← field "out-data" state
    return out.getD (.str "")

/-- What `guest exec-status` printed: the output of the guest command, if it has ended. -/
def guestReply (P : Platform) (text : String) : Except Exn (Option Json) := do
  let state ← P.loads text
  let exited ← field "exited" state
  if exited.any Json.truthy then do
    let out ← guestResult P state
    return some out
  else return none

/-- The polling loop of `guest_exec`; the clock is read in milliseconds. -/
def pollGuest (P : Platform) (pid : Json) (deadline timeout : Nat) : Nat → Routine Exn Json
  | 0 => halt
  | fuel + 1 => do
    let now ← call .monotonic
    if now < deadline then do
      let text ← raising (← call (.guestExecStatus pid))
      match ← raising (guestReply P text) with
      | some out => return out
      | none => do
        call (.sleep 1000)
        pollGuest P pid deadline timeout fuel
    else throw { kind := .timeoutError, message := "guest command PID " ++ P.text pid ++ " exceeded "
                   ++ toString timeout ++ "s; inspect guest before retrying" }

def guestExec (P : Platform) (fuel : Nat) (args : List String) (timeout : Nat) : Routine Exn Json := do
  let text ← raising (← call (.guestExec args))
  let start ← raising (P.loads text)
  let pid ← raising (field "pid" start)
  match pid with
  | none => throw (otherError "'pid'")
  | some pid => do
    let now ← call .monotonic
    pollGuest P pid (now + 1000 * timeout) timeout fuel

/-! ### The state file -/

def inProgress (bootId : String) : Json := .obj [("failed_boot", .str bootId), ("status", .str "in-progress")]

def failed (bootId error : String) : Json :=
  .obj [("failed_boot", .str bootId), ("status", .str "failed"), ("error", .str error)]

def LinkStatus.json (status : LinkStatus) : Json :=
  .obj [("bdf", .str status.bdf), ("raw", .str status.raw), ("generation", .num status.generation),
    ("width", .num status.width), ("training", .bool status.training)]

def Aer.json : Option Aer → Json
  | none => .null
  | some aer => .obj [("uncorrectable", .num aer.uncorrectable), ("correctable", .num aer.correctable)]

def pass (bootId : String) (links : List LinkStatus) (aer : List (Option Aer)) : Json :=
  .obj [("status", .str "pass"), ("guest_boot", .str bootId), ("links", .arr (links.map LinkStatus.json)),
    ("aer", .arr (aer.map Aer.json))]

/-- Write a temporary file beside the state file, then rename it. -/
def atomicState (data : Json) : Routine Exn Unit := do
  raising (← call (.writeTemp data))
  raising (← call (.chmodTemp 0o600))
  raising (← call .replaceState)

/-- `previous.get("failed_boot")`; a missing state file is the empty dictionary. -/
def failedBoot (previous : Json) : Except Exn (Option Json) := field "failed_boot" previous

/-! ### Host checks -/

structure Args where
  vmid : Nat
  check : Bool := false
  retry : Bool := false
  deriving DecidableEq, Repr

/-- The address of a `hostpciN:` line of the VM configuration. -/
def assignedAddress (P : Platform) (line : List Char) : Except Exn (Option String) :=
  match Text.dropPrefix "hostpci".toList line with
  | none => .ok none
  | some rest =>
    match rest.takeWhile P.isDecimal, rest.dropWhile P.isDecimal with
    | _ :: _, ':' :: _ =>
      match (Text.cut ": ".toList line).2 with
      | none => .error (otherError "list index out of range")
      | some value =>
        let address := String.ofList (Text.cut ",".toList value).1
        .ok (some (if "0000:".toList.isPrefixOf address.toList then address else "0000:" ++ address))
    | _, _ => .ok none

def assignedAddresses (P : Platform) (vmconfig : String) : Except Exn (List String) := do
  let found ← (Text.splitLines vmconfig.toList).mapM (assignedAddress P)
  return found.filterMap id

def isCmp100 (endpoint : Pci) : Routine Exn Bool := do
  let vendor ← endpoint.read 0 2
  if vendor ≠ 0x10de then return false
  else do
    let id ← endpoint.read 2 2
    return id == 0x1d84

/-- One pass of the device loop of `run`: the upstream port and the endpoint. -/
def openPair (vmid : Nat) (assigned : List String) (item : Device) : Routine Exn (Pci × Pci) := do
  if !assigned.contains item.host then
    throw (runtimeError (item.host ++ " is not assigned to VM " ++ toString vmid))
  else do
    let endpoint ← openPci item.host false
    if !(← isCmp100 endpoint) then throw (runtimeError "only 10de:1d84 CMP100 is supported")
    else do
      let driver ← raising (← call (.driverName endpoint.bdf))
      if driver ≠ "vfio-pci" then throw (runtimeError (endpoint.bdf ++ " must belong to vfio-pci"))
      else do
        let rootBdf ← raising (← call (.parentName endpoint.bdf))
        if !matchesBdf rootBdf then throw (runtimeError "endpoint does not have a direct PCI upstream port")
        else do
          let root ← openPci rootBdf false
          let kind ← root.read (root.exp + 2) 2
          if (kind >>> 4) &&& 15 ≠ 4 ∧ (kind >>> 4) &&& 15 ≠ 6 then
            throw (runtimeError "upstream function is not a root/downstream PCIe port")
          else do
            let speeds ← root.read (root.exp + 0xc) 2
            if speeds &&& 15 < 2 then throw (runtimeError "upstream port does not advertise Gen2")
            else return (root, endpoint)

/-- The check of the upstream target speed behind the latch. -/
def checkTarget (pair : Pci × Pci) : Routine Exn Unit := do
  let target ← pair.1.read (pair.1.exp + 0x30) 2
  if target &&& 15 < 2 then
    throw (runtimeError "upstream target is below Gen2; configure the physical port before enabling automation")
  else return ()

/-- `all(settled_gen2(device.status()) for device in pair)`. -/
def settledPair (pair : Pci × Pci) : Routine Exn Bool := do
  let root ← pair.1.status
  if !settledGen2 root then return false
  else do
    let endpoint ← pair.2.status
    return settledGen2 endpoint

/-- The guest devices whose link is not settled at Gen2. -/
def pendingDevices : List (Device × (Pci × Pci)) → Routine Exn (List Device)
  | [] => return []
  | (item, pair) :: rest => do
    let settled ← settledPair pair
    let pending ← pendingDevices rest
    return if settled then pending else item :: pending

/-- An uncorrectable bit that was clear before. -/
def newUncorrectable : Option Aer × Option Aer → Bool
  | (some before, some after) => after.uncorrectable &&& before.uncorrectable ≠ after.uncorrectable
  | _ => false

/-! ### The run -/

/-- An exception of the guarded block, with the value of `boot_id`. -/
structure Failure where
  bootId : Option String
  error : Exn

def within {α : Type} (bootId : Option String) (p : Routine Exn α) : Routine Failure α :=
  p.handle fun error => .throw { bootId := bootId, error := error }

def bootCommand : List String := ["cat", "/proc/sys/kernel/random/boot_id"]

def serviceCommand : List String := ["/bin/systemctl", "start", "cmp100-tensor-unlock.service"]

def helperCommand (targets : List Device) : List String :=
  ["/usr/bin/timeout", "--signal=TERM", "--kill-after=45", "420", "/usr/bin/env",
    "CMP100_PCIE_BDFS=" ++ " ".intercalate (targets.map (·.guest)), "/usr/local/sbin/cmp100-pcie-gen2"]

/-- `.strip()` of what the guest printed. -/
def stripped : Json → Except Exn String
  | .str s => .ok (String.ofList (Text.strip s.toList))
  | _ => .error (otherError "value has no strip")

/-- The full match of `[0-9a-f-]{36}`. -/
def validBootId (bootId : String) : Bool :=
  bootId.toList.length == 36 && bootId.toList.all fun c => c.isDigit || ('a' ≤ c && c ≤ 'f') || c == '-'

/-- The exceptions the readiness loop catches. -/
def Exn.transient (e : Exn) : Bool := e.kind != .other

def readBootOnce (P : Platform) (fuel : Nat) : Routine Exn String := do
  let out ← guestExec P fuel bootCommand 15
  raising (stripped out)

/-- The readiness loop, with the value of `boot_id` so far. -/
def readBootId (P : Platform) (deadline guestFuel : Nat) : Nat → Option String → Routine Failure String
  | 0, _ => halt
  | fuel + 1, bootId => do
    let retry (bootId : Option String) (error : Exn) : Routine Failure String := do
      let now ← call .monotonic
      if deadline ≤ now then throw { bootId := bootId, error := error }
      else do
        call (.sleep 3000)
        readBootId P deadline guestFuel fuel bootId
    match ← (readBootOnce P guestFuel).attempt with
    | .ok text =>
      if validBootId text then return text else retry (some text) (runtimeError "invalid guest boot identifier")
    | .error error => if error.transient then retry bootId error else throw { bootId := bootId, error := error }

/-- The attempt: the latch, the guest commands, the verification and the pass. -/
def attemptGen2 (P : Platform) (fuel : Nat) (bootId : String) (devices : List Device) (pairs : List (Pci × Pci)) :
    Routine Exn Nat := do
  let before ← collectPairs Pci.aer pairs
  atomicState (inProgress bootId)
  Prog.forEach checkTarget pairs
  let _ ← guestExec P fuel serviceCommand 300
  let pending ← pendingDevices (devices.zip pairs)
  let output ← guestExec P fuel (helperCommand (if pending.isEmpty then devices else pending)) 500
  match P.tail output 12000 with
  | none => throw (otherError "value cannot be sliced")
  | some text => do
    log ("Guest helper completed: " ++ text)
    let states ← collectPairs Pci.status pairs
    if !states.all settledGen2 then
      throw (runtimeError "guest completed but physical Gen2 was not verified at both ends")
    else do
      let after ← collectPairs Pci.aer pairs
      if (before.zip after).any newUncorrectable then throw (runtimeError "new uncorrectable PCIe AER status")
      else do
        atomicState (pass bootId states after)
        log "PASS: physical Gen2 verified on all configured roots and endpoints"
        return 0

/-- What `run` does once it knows the boot of the guest. -/
def runInBoot (P : Platform) (fuel : Nat) (args : Args) (previous : Json) (bootId : String) (devices : List Device)
    (pairs : List (Pci × Pci)) : Routine Exn Nat := do
  let latched ← raising (failedBoot previous)
  if latched.any (Json.isStr bootId) && !args.retry then do
    log "Previous attempt failed during this guest boot; explicit --retry required"
    return 1
  else attemptGen2 P fuel bootId devices pairs

/-- The device checks, the link inventory and the state file of the guarded block. -/
def inventory (args : Args) (assigned : List String) (devices : List Device) :
    Routine Exn (List (Pci × Pci) × List LinkStatus × Json) := do
  let pairs ← collect (openPair args.vmid assigned) devices
  let states ← collectPairs Pci.status pairs
  log "Physical link inventory"
  let previous ← raising (← call .readState)
  return (pairs, states, previous.getD (.obj []))

/-- The block of `run` guarded by its exception handler. -/
def guarded (P : Platform) (fuel : Nat) (args : Args) (assigned : List String) (devices : List Device) :
    Routine Failure Nat := do
  let (pairs, states, previous) ← within none (inventory args assigned devices)
  let latched ← within none (if states.all settledGen2 then raising (failedBoot previous) else return none)
  if states.all settledGen2 && !(latched.any Json.truthy) then do
    within none (log "Already Gen2 on both sides of every link; no guest or register mutation")
    return 0
  else if args.check then return 1
  else do
    let now ← call .monotonic
    let bootId ← readBootId P (now + 180000) fuel fuel none
    within (some bootId) (runInBoot P fuel args previous bootId devices pairs)

/-- The exception handler of `run`. -/
def handleFailure (failure : Failure) : Routine Exn Nat := do
  match failure.bootId with
  | some bootId => do
    atomicState (failed bootId failure.error.message)
    throw failure.error
  | none => throw failure.error

/-- `run` before its guarded block: the devices and the addresses assigned to the VM, if it is running. -/
def prepare (P : Platform) (args : Args) : Routine Exn (Option (List Device × List String)) := do
  let uid ← call .geteuid
  if uid ≠ 0 then throw (runtimeError "run as root on the physical Proxmox node")
  else do
    let (owner, mode) ← raising (← call .configStat)
    if owner ≠ 0 ∨ mode &&& 0o022 ≠ 0 then
      throw (runtimeError "configuration must be root-owned and not group/world writable")
    else do
      let text ← raising (← call .readConfig)
      let data ← raising (P.loads text)
      let devices ← raising (validateConfig args.vmid data)
      let state ← command ["qm", "status", toString args.vmid]
      if Text.strip state.toList ≠ "status: running".toList then do
        log "VM is stopped; no action"
        return none
      else do
        let vmconfig ← command ["qm", "config", toString args.vmid, "--current", "1"]
        let assigned ← raising (assignedAddresses P vmconfig)
        return some (devices, assigned)

/-- One run; `fuel` bounds the passes of each loop that waits for the guest. -/
def run (P : Platform) (fuel : Nat) (args : Args) : Routine Exn Nat := do
  match ← prepare P args with
  | none => return 0
  | some (devices, assigned) => do
    let outcome ← ((guarded P fuel args assigned devices).handle handleFailure).attempt
    call .pciCloseAll
    raising outcome

end CmpUnlocker.PcieHost
