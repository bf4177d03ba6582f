import CmpUnlocker.Clock.Arguments
import CmpUnlocker.Clock.Basic

/-!
# The commands of the clock tool

`main` of `cmp100-nvml-clock-v2.rs` with its commands: `tune`, `profile` and `reset`, which may write, and the reports
`list`, `telemetry`, `fields`, `samples` and `processes`, which only read.  A command is a program whose requests are
the calls of NVML, each on a device handle.  Beside `nvmlErrorString` (`es`), the escaping of a name by `{:?}` is a
parameter (`debug`).  The JSON text of the reports is left out.
-/

namespace CmpUnlocker.Clock

open Interaction

/-- A device handle. -/
abbrev D : Type := Nat

/-- The calls that only read; `query` stands for those of the reports, by the name of the function. -/
inductive Getter
  | count
  | driver
  | byIndex (i : Nat)
  | byUuid (u : String)
  | name (d : D)
  | uuid (d : D)
  | vbios (d : D)
  | capability (d : D)
  | range (d : D) (k : K)
  | constraints (d : D)
  | defaultLimit (d : D)
  | query (d : D) (function : String) (arguments : List Int)

@[reducible] def Getter.Value : Getter → Type
  | count => Nat
  | byIndex _ | byUuid _ => D
  | driver | name _ | uuid _ | vbios _ => String
  | capability _ | range _ _ | constraints _ => Int × Int
  | defaultLimit _ => Int
  | query _ _ _ => List Int

inductive Request
  | init
  | shutdown
  | get (g : Getter)
  | setting (d : D) (o : Op)
  | report
  | eprintln (text : String)

@[reducible] def Request.Answer : Request → Type
  | init | shutdown => Int
  | get g => Int × g.Value
  | setting _ o => o.Answer
  | report | eprintln _ => Unit

abbrev Command (α : Type) : Type := Prog Request Request.Answer String α

def CMP_NAME : String := "NVIDIA CMP 100-210"

def HBM_OFFSET : Int := 138

def PROFILE_DRIVER : String := "550.163.01"

def PROFILE_VBIOS : String := "88.00.9D.00.00"

def MAX_ENTRIES : Int := 1000000

def INSUFFICIENT : Int := 7

/-- `?` on a result of the argument functions. -/
def lift {α : Type} : Except String α → Command α
  | .ok a => return a
  | .error e => throw e

/-- A routine on one device. -/
def onDevice {α : Type} (d : D) (p : Routine String α) : Command α := p.interp fun o => Prog.request (.setting d o)

section

variable (es : Int → String)

/-- `ck` on the code of a call. -/
def checked (r : Int) (what : String) : Command Unit :=
  if r = ok then return () else throw (what ++ ": " ++ es r ++ " (" ++ toString r ++ ")")

/-- A getter with its `ck`. -/
def read (g : Getter) (what : String) : Command g.Value := do
  let answer ← Prog.request (Request.get g)
  checked es answer.1 what
  return answer.2

def byU (s : String) : Command D :=
  if '\x00' ∈ s.toList then throw "UUID contains NUL" else read es (.byUuid s) "get GPU by UUID"

def byI (i : Nat) : Command D := read es (.byIndex i) "get GPU handle"

def driver : Command String := read es .driver "read driver version"

end

section

variable (es : Int → String) (debug : String → String)

/-! ### The gates -/

def cmp (d : D) : Command Unit := do
  let n ← read es (.name d) "read GPU name"
  let (ma, mi) ← read es (.capability d) "read CUDA capability"
  if n ≠ CMP_NAME ∨ ma ≠ 7 ∨ mi ≠ 0 then
    throw ("refusing write: need NVML name " ++ debug CMP_NAME ++ " and CUDA capability 7.0; got " ++ debug n ++ ", "
      ++ toString ma ++ "." ++ toString mi)
  else return ()

def profilePlatform (d : D) (untested : Bool) : Command Unit := do
  cmp es debug d
  let dr ← driver es
  let vb ← read es (.vbios d) "read VBIOS"
  if dr = PROFILE_DRIVER ∧ vb = PROFILE_VBIOS then return ()
  else if untested then
    Prog.request
      (Request.eprintln ("warning: untested hbm-877 platform driver=" ++ dr ++ ", vbios=" ++ vb ++ "; tested="
      ++ PROFILE_DRIVER ++ "/" ++ PROFILE_VBIOS))
  else
    throw ("refusing untested hbm-877: driver=" ++ dr ++ ", vbios=" ++ vb ++ "; need " ++ PROFILE_DRIVER ++ "/"
      ++ PROFILE_VBIOS ++ ", or --allow-untested")

/-- `ri` and `ru` with their texts. -/
def current (d : D) : K → Command Int
  | .hbm => onDevice d (readSetting es .hbm "read HBM offset")
  | .core => onDevice d (readSetting es .core "read core offset")
  | .power => onDevice d (readSetting es .power "read power limit")

/-- The change to an offset, within the range reported or with the check bypassed. -/
def po (d : D) (k : K) (new : Int) (bypass : Bool) : Command C := do
  let old ← current es d k
  let (lo, hi) ← read es (.range d k) "read clock-offset constraints"
  if (new < lo ∨ new > hi) ∧ bypass = false then
    throw (k.s ++ " " ++ toString new ++ " outside NVML range " ++ toString lo ++ ".." ++ toString hi
      ++ "; use --allow-out-of-range only after independent validation")
  else return { k, old, new }

/-- `as f64/1000.` of a number of milliwatts, as displayed. -/
def watts (mw : Int) : String :=
  let digits := Nat.toDigits 10 (1000 + mw.toNat % 1000)
  let fraction := (digits.tail.reverse.dropWhile (· == '0')).reverse
  toString (mw / 1000) ++ if fraction.isEmpty then "" else "." ++ String.ofList fraction

def pp (d : D) (new : Int) : Command C := do
  let old ← current es d .power
  let (lo, hi) ← read es (.constraints d) "read power constraints"
  if new < lo ∨ new > hi then
    throw ("power limit " ++ watts new ++ " W outside NVML constraints " ++ watts lo ++ ".." ++ watts hi ++ " W")
  else return { k := .power, old, new }

/-! ### The commands that write -/

/-- `if let Some(x) = x {cs.push(..?)}`. -/
def pushed {α : Type} (x : Option α) (change : α → Command C) : Command (List C) :=
  match x with
  | none => return []
  | some x => do
    let c ← change x
    return [c]

def tuneValues : List String := ["--uuid", "--hbm-offset", "--core-offset", "--watts"]

def tuneBools : List String := ["--apply", "--allow-out-of-range"]

def tune (a : List String) : Command Unit := do
  lift (flags a tuneValues tuneBools)
  let u ← lift (req a)
  let h ← lift (parsed a "--hbm-offset" (pi · "--hbm-offset"))
  let c ← lift (parsed a "--core-offset" (pi · "--core-offset"))
  let w ← lift (parsed a "--watts" pw)
  if h.isNone ∧ c.isNone ∧ w.isNone then throw "tune requires --hbm-offset, --core-offset, or --watts"
  else do
    let d ← byU es u
    cmp es debug d
    let b := flag a "--allow-out-of-range"
    let hbm ← pushed h fun x => po es d .hbm x b
    let core ← pushed c fun x => po es d .core x b
    let power ← pushed w fun x => pp es d x
    onDevice d (exec es u "tune" (hbm ++ core ++ power) (flag a "--apply") false)

def profileValues : List String := ["--uuid", "--name"]

def profileBools : List String := ["--apply", "--allow-untested"]

def profile (a : List String) : Command Unit := do
  lift (flags a profileValues profileBools)
  let u ← lift (req a)
  let n ← lift ((val a "--name").bind (required "missing --name hbm-877"))
  if n ≠ "hbm-877" then throw "supported profile: hbm-877"
  else do
    let d ← byU es u
    profilePlatform es debug d (flag a "--allow-untested")
    let old ← current es d .hbm
    onDevice d (exec es u "profile:hbm-877" [{ k := .hbm, old, new := HBM_OFFSET }] (flag a "--apply") true)

def resetValues : List String := ["--uuid"]

def resetBools : List String := ["--hbm", "--core", "--power", "--apply"]

/-- The change of `reset` to an offset. -/
def cleared (d : D) (k : K) : Command C := do
  let old ← current es d k
  return { k, old, new := 0 }

/-- The change of `reset` to the power limit. -/
def defaulted (d : D) : Command C := do
  let old ← current es d .power
  let default ← read es (.defaultLimit d) "read default power limit"
  let (lo, hi) ← read es (.constraints d) "read power constraints"
  if default < lo ∨ default > hi then
    throw ("default power limit " ++ toString default ++ " mW outside constraints " ++ toString lo ++ ".."
      ++ toString hi)
  else return { k := .power, old, new := default }

def reset (a : List String) : Command Unit := do
  lift (flags a resetValues resetBools)
  let u ← lift (req a)
  let h := flag a "--hbm"
  let c := flag a "--core"
  let p := flag a "--power"
  if h = false ∧ c = false ∧ p = false then throw "reset requires --hbm, --core, or --power"
  else do
    let d ← byU es u
    cmp es debug d
    let hbm ← pushed (if h then some K.hbm else none) fun k => cleared es d k
    let core ← pushed (if c then some K.core else none) fun k => cleared es d k
    let power ← pushed (if p then some () else none) fun _ => defaulted es d
    onDevice d (exec es u "reset" (hbm ++ core ++ power) (flag a "--apply") false)

/-! ### The reports -/

/-- A loop over the devices, and the report on them. -/
def reporting (n : Nat) (body : D → Command Unit) : Command Unit := do
  Prog.forEach (fun i => do let d ← byI es i; body d) (List.range n)
  Prog.request Request.report

def list (n : Nat) : Command Unit := do
  let _ ← driver es
  reporting es n fun d => do
    let _ ← read es (.name d) "read GPU name"
    let _ ← read es (.uuid d) "read GPU UUID"
    let _ ← read es (.vbios d) "read VBIOS"
    let _ ← read es (.capability d) "read CUDA capability"
    return ()

/-- The calls of `telemetry` up to the one that fills the HBM temperature field, with their `ck` texts. -/
def readings : List (String × List Int × String) :=
  [("nvmlDeviceGetMemClkVfOffset", [], "read HBM offset"), ("nvmlDeviceGetGpcClkVfOffset", [], "read core offset"),
    ("nvmlDeviceGetGpcClkMinMaxVfOffset", [], "read core offset constraints"),
    ("nvmlDeviceGetMemClkMinMaxVfOffset", [], "read HBM offset constraints"),
    ("nvmlDeviceGetClockInfo", [0], "read graphics clock"), ("nvmlDeviceGetClockInfo", [1], "read SM clock"),
    ("nvmlDeviceGetClockInfo", [2], "read HBM clock"), ("nvmlDeviceGetClockInfo", [3], "read video clock"),
    ("nvmlDeviceGetMaxClockInfo", [0], "read max graphics clock"),
    ("nvmlDeviceGetMaxClockInfo", [1], "read max SM clock"), ("nvmlDeviceGetMaxClockInfo", [2], "read max HBM clock"),
    ("nvmlDeviceGetMaxClockInfo", [3], "read max video clock"),
    ("nvmlDeviceGetTemperature", [0], "read GPU temperature"),
    ("nvmlDeviceGetTemperatureThreshold", [0], "read GPU shutdown temperature"),
    ("nvmlDeviceGetTemperatureThreshold", [1], "read GPU slowdown temperature"),
    ("nvmlDeviceGetTemperatureThreshold", [2], "read HBM maximum temperature"),
    ("nvmlDeviceGetTemperatureThreshold", [3], "read GPU maximum temperature")]

/-- The calls of `telemetry` behind the HBM temperature field. -/
def furtherReadings : List (String × List Int × String) :=
  [("nvmlDeviceGetPowerUsage", [], "read power usage"),
    ("nvmlDeviceGetPowerManagementLimit", [], "read power limit"),
    ("nvmlDeviceGetPowerManagementDefaultLimit", [], "read default power limit"),
    ("nvmlDeviceGetEnforcedPowerLimit", [], "read enforced power limit"),
    ("nvmlDeviceGetPowerManagementLimitConstraints", [], "read power constraints"),
    ("nvmlDeviceGetTotalEnergyConsumption", [], "read total energy"),
    ("nvmlDeviceGetUtilizationRates", [], "read utilization"), ("nvmlDeviceGetMemoryInfo", [], "read VRAM"),
    ("nvmlDeviceGetBAR1MemoryInfo", [], "read BAR1 memory"),
    ("nvmlDeviceGetPerformanceState", [], "read performance state"),
    ("nvmlDeviceGetCurrentClocksThrottleReasons", [], "read throttle state"),
    ("nvmlDeviceGetSupportedClocksThrottleReasons", [], "read supported throttles"),
    ("nvmlDeviceGetCurrPcieLinkGeneration", [], "read current PCIe generation"),
    ("nvmlDeviceGetCurrPcieLinkWidth", [], "read current PCIe width"),
    ("nvmlDeviceGetMaxPcieLinkGeneration", [], "read maximum PCIe generation"),
    ("nvmlDeviceGetMaxPcieLinkWidth", [], "read maximum PCIe width"),
    ("nvmlDeviceGetPcieThroughput", [0], "read PCIe TX"), ("nvmlDeviceGetPcieThroughput", [1], "read PCIe RX"),
    ("nvmlDeviceGetPcieReplayCounter", [], "read PCIe replay counter"),
    ("nvmlDeviceGetNumGpuCores", [], "read GPU core count"),
    ("nvmlDeviceGetMemoryBusWidth", [], "read memory bus width"),
    ("nvmlDeviceGetCudaComputeCapability", [], "read CUDA capability"),
    ("nvmlDeviceGetArchitecture", [], "read architecture")]

/-- `get!` on each of a list of calls. -/
def readAll (d : D) : List (String × List Int × String) → Command Unit :=
  Prog.forEach fun (function, arguments, what) => do
    let _ ← read es (.query d function arguments) what
    return ()

def telemetry (n : Nat) : Command Unit :=
  reporting es n fun d => do
    readAll es d readings
    let f ← read es (.query d "nvmlDeviceGetFieldValues" [82]) "read HBM temperature field"
    let nvmlReturn := f.headD (-1)
    if nvmlReturn ≠ ok then
      throw ("HBM temperature field: " ++ es nvmlReturn ++ " (" ++ toString nvmlReturn ++ ")")
    else do
      readAll es d furtherReadings
      let _ ← read es (.name d) "read GPU name"
      let _ ← read es (.uuid d) "read GPU UUID"
      return ()

/-- A call of the reports whose code is printed, not checked. -/
def query (d : D) (function : String) (arguments : List Int) : Command (Int × Int) := do
  let answer ← Prog.request (Request.get (.query d function arguments))
  return (answer.1, answer.2.headD 0)

def fields (n : Nat) : Command Unit :=
  reporting es n fun d => do
    let _ ← read es (.uuid d) "read GPU UUID"
    Prog.forEach (fun id : Nat => do let _ ← query d "nvmlDeviceGetFieldValues" [id + 1]; return ()) (List.range 199)

/-- The attempts to read an array, `n` being the length reported last and `capacity` that of the buffer for it. -/
def readArray (d : D) (function : String) (arguments : List Int) (capacity : Int → Option Int) (n : Int) :
    List Nat → Command Unit
  | [] => return ()
  | attempt :: attempts =>
    match capacity n with
    | none => return ()
    | some cap => do
      let (r, got) ← query d function (arguments ++ [cap])
      if r = ok ∧ got ≤ cap then return ()
      else if r = INSUFFICIENT ∧ got > cap ∧ got ≤ MAX_ENTRIES ∧ attempt = 0 then
        readArray d function arguments capacity got attempts
      else return ()

def samples (d : D) (t : Int) : Command Unit := do
  let (probe, n) ← query d "nvmlDeviceGetSamples" [t]
  if probe ≠ ok ∨ n > MAX_ENTRIES then return ()
  else readArray d "nvmlDeviceGetSamples" [t] some n [0, 1]

def procs (d : D) (function : String) : Command Unit := do
  let (probe, n) ← query d function []
  if (probe ≠ ok ∧ probe ≠ INSUFFICIENT) ∨ n > MAX_ENTRIES then return ()
  else readArray d function [] (fun n => if n + 4 ≤ MAX_ENTRIES then some (n + 4) else none) n [0, 1]

def sampleStreams (n : Nat) : Command Unit :=
  reporting es n fun d => do
    Prog.forEach (fun t : Nat => samples d t) (List.range 10)
    let _ ← read es (.uuid d) "read GPU UUID"
    return ()

def processes (n : Nat) : Command Unit :=
  reporting es n fun d => do
    let _ ← read es (.uuid d) "read GPU UUID"
    procs d "nvmlDeviceGetComputeRunningProcesses_v3"
    procs d "nvmlDeviceGetGraphicsRunningProcesses_v3"

/-! ### The program -/

def usage (p : String) : Command Unit :=
  Prog.request
    (Request.eprintln ("Usage:\n  " ++ p ++ " list\n  " ++ p ++ " status [--json]  # alias for telemetry\n  " ++ p
    ++ " telemetry [--json] | fields | samples | processes\n  " ++ p
    ++ " profile --uuid GPU-... --name hbm-877 [--apply] [--allow-untested]\n  " ++ p
    ++ " tune --uuid GPU-... [--hbm-offset N] [--core-offset N] [--watts W] [--apply] [--allow-out-of-range]\n  " ++ p
    ++ " reset --uuid GPU-... [--hbm] [--core] [--power] [--apply]\n"
    ++ "Writes are dry-run unless --apply. PCI ID is deliberately omitted; see source header."))

/-- `run` on the program name and the arguments behind it. -/
def run (program : String) (args : List String) : Command Unit := do
  let a := program :: args
  let n ← read es .count "get GPU count"
  match args.head?.getD "" with
  | "list" => do lift (flags a [] []); list es n
  | "status" | "telemetry" => do lift (flags a [] ["--json"]); telemetry es n
  | "fields" => do lift (flags a [] []); fields es n
  | "samples" => do lift (flags a [] []); sampleStreams es n
  | "processes" => do lift (flags a [] []); processes es n
  | "profile" => profile es debug a
  | "tune" => tune es debug a
  | "reset" => reset es debug a
  | _ => do usage program; throw "missing or unsupported command"

/-- The exit code of the process. -/
def main (program : String) (args : List String) : Command Nat := do
  let init ← Prog.request Request.init
  match ← (checked es init "NVML init").attempt with
  | .error e => do
    Prog.request (Request.eprintln ("error: " ++ e))
    return 1
  | .ok () => do
    let r ← (run es debug program args).attempt
    let shut ← Prog.request Request.shutdown
    match r with
    | .error e => do
      Prog.request (Request.eprintln ("error: " ++ e))
      .when (shut ≠ ok)
        (Prog.request (Request.eprintln ("error: NVML shutdown: " ++ es shut ++ " (" ++ toString shut ++ ")")))
      return 1
    | .ok () =>
      match ← (checked es shut "NVML shutdown").attempt with
      | .ok () => return 0
      | .error e => do
        Prog.request (Request.eprintln ("error: " ++ e))
        return 1

end

end CmpUnlocker.Clock
