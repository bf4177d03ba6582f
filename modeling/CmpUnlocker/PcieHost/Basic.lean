import CmpUnlocker.Lib.Prog
import CmpUnlocker.Lib.Text

/-!
# The PCIe coordinator

`cmp100-pcie-host`: the validation of the configuration, the reads of PCI configuration space, the commands sent to
the guest agent, the state file, and `run`.  Everything outside the process is a request: files, `qm`, the clock, PCI
devices.  A request that can raise an exception is answered by `Except Exn`.  The loops of the source that end by the
clock take a bound on the number of their passes; past it the program makes the request `halt`, which is never
answered, as if the process had been killed there.

The file lock of `main` makes the runs for one VM follow one another, so `run` is the program of one run.
-/

namespace CmpUnlocker.PcieHost

open Interaction

/-! ### Values -/

/-- A decoded JSON value. -/
inductive Json
  | null
  | bool (b : Bool)
  | num (value : Rat)
  | str (s : String)
  | arr (items : List Json)
  | obj (fields : List (String × Json))

namespace Json

/-- `value.get(key)` of a dictionary. -/
def get? (key : String) : List (String × Json) → Option Json
  | [] => none
  | (k, v) :: fields => if k = key then some v else get? key fields

/-- The truth value of `value.get(key)`. -/
def truthy : Json → Bool
  | null => false
  | bool b => b
  | num value => value ≠ 0
  | str s => s ≠ ""
  | arr items => !items.isEmpty
  | obj fields => !fields.isEmpty

/-- `value == 0`. -/
def isZero : Json → Bool
  | num value => value = 0
  | bool b => !b
  | _ => false

def isStr (s : String) : Json → Bool
  | str t => t = s
  | _ => false

def isNum (n : Nat) : Json → Bool
  | num value => value = (n : Rat)
  | _ => false

end Json

/-- The classes of exceptions the program tells apart. -/
inductive ExnKind
  | runtimeError
  | timeoutExpired
  | timeoutError
  | other
  deriving DecidableEq, Repr

structure Exn where
  kind : ExnKind
  message : String
  deriving DecidableEq, Repr

def runtimeError (message : String) : Exn := { kind := .runtimeError, message := message }

def otherError (message : String) : Exn := { kind := .other, message := message }

/-- What Python supplies: decimal digits of Unicode, JSON decoding, the text of a value, and the text of its last
characters (`none` if it cannot be sliced). -/
structure Platform where
  isDecimal : Char → Bool
  loads : String → Except Exn Json
  text : Json → String
  tail : Json → Nat → Option String

/-! ### Requests -/

inductive Op
  | geteuid
  | configStat
  | readConfig
  | command (args : List String)
  | pciOpen (bdf : String) (writable : Bool)
  | pciRead (fd offset size : Nat)
  | pciClose (fd : Nat)
  | pciCloseAll
  | driverName (bdf : String)
  | parentName (bdf : String)
  | readState
  | writeTemp (data : Json)
  | chmodTemp (mode : Nat)
  | replaceState
  | monotonic
  | sleep (ms : Nat)
  | guestExec (args : List String)
  | guestExecStatus (pid : Json)
  | log (message : String)
  | halt

@[reducible] def Op.Answer : Op → Type
  | .geteuid | .monotonic => Nat
  | .configStat => Except Exn (Nat × Nat)
  | .readConfig | .command _ | .guestExec _ | .guestExecStatus _ | .driverName _ | .parentName _ => Except Exn String
  | .pciOpen _ _ => Except Exn Nat
  | .pciRead _ _ _ => Except Exn (List UInt8)
  | .readState => Except Exn (Option Json)
  | .writeTemp _ | .chmodTemp _ | .replaceState | .log _ => Except Exn Unit
  | .pciClose _ | .pciCloseAll | .sleep _ => Unit
  | .halt => Empty

abbrev Routine (ε α : Type) : Type := Prog Op Op.Answer ε α

section

variable {ε α : Type}

def call (o : Op) : Routine ε o.Answer := Prog.request o

def raising : Except Exn α → Routine Exn α
  | .ok a => return a
  | .error e => throw e

def halt : Routine ε α := .call .halt fun r => nomatch r

def log (message : String) : Routine Exn Unit := do raising (← call (.log message))

def command (args : List String) : Routine Exn String := do raising (← call (.command args))

end

/-! ### The configuration -/

/-- A host address with the address of the same device in the guest. -/
structure Device where
  host : String
  guest : String
  deriving DecidableEq, Repr

def isHex (c : Char) : Bool := c.isDigit || ('a' ≤ c && c ≤ 'f') || ('A' ≤ c && c ≤ 'F')

/-- `BDF.fullmatch`. -/
def matchesBdf (s : String) : Bool :=
  match s.toList with
  | ['0', '0', '0', '0', ':', a, b, ':', c, d, '.', e] =>
    isHex a && isHex b && (c == '0' || c == '1') && isHex d && '0' ≤ e && e ≤ '7'
  | _ => false

/-- `GUEST_BDF.fullmatch`. -/
def matchesGuestBdf (s : String) : Bool :=
  match s.toList with
  | ['0', '0', '0', '0', ':', a, b, ':', '0', '0', '.', '0'] => isHex a && isHex b
  | _ => false

def invalidPair : Exn := otherError "invalid host/guest BDF pair"

def notText : Exn := otherError "expected string or bytes-like object"

/-- The loop of `validate_config` over one item. -/
def validateItem : Json → Except Exn Device
  | .obj fields =>
    match Json.get? "host" fields, Json.get? "guest" fields with
    | some host, some guest =>
      if fields.any fun field => field.1 ≠ "host" && field.1 ≠ "guest" then .error invalidPair
      else match host with
        | .str host =>
          if !matchesBdf host then .error invalidPair
          else match guest with
            | .str guest => if matchesGuestBdf guest then .ok { host := host, guest := guest } else .error invalidPair
            | _ => .error notText
        | _ => .error notText
    | _, _ => .error invalidPair
  | _ => .error invalidPair

def hasDuplicates : List String → Bool
  | [] => false
  | s :: rest => rest.contains s || hasDuplicates rest

/-- `s.lower()` of an address. -/
def lower (s : String) : String := String.ofList (s.toList.map Char.toLower)

def validateDevices (items : List Json) : Except Exn (List Device) := do
  if items.length < 1 || 8 < items.length then
    throw (otherError "configure between one and eight explicit CMP100 pairs")
  let devices ← items.mapM validateItem
  let lowered := devices.map fun item => { host := lower item.host, guest := lower item.guest : Device }
  if hasDuplicates (lowered.map (·.host)) then throw (otherError "duplicate device mapping")
  if hasDuplicates (lowered.map (·.guest)) then throw (otherError "duplicate device mapping")
  return lowered

def validateConfig (vmid : Nat) : Json → Except Exn (List Device)
  | .obj fields =>
    if (fields.any fun field => field.1 ≠ "vmid" && field.1 ≠ "devices") ||
      !((Json.get? "vmid" fields).any (Json.isNum vmid))
    then .error (otherError "config vmid mismatch or unknown keys")
    else match Json.get? "devices" fields with
      | some (.arr items) => validateDevices items
      | _ => .error (otherError "configure between one and eight explicit CMP100 pairs")
  | _ => .error (otherError "config vmid mismatch or unknown keys")

/-! ### PCI configuration space -/

/-- An open configuration space, with the offset of the PCIe capability. -/
structure Pci where
  bdf : String
  fd : Nat
  exp : Nat
  deriving DecidableEq, Repr

structure LinkStatus where
  bdf : String
  raw : String
  generation : Nat
  width : Nat
  training : Bool
  deriving DecidableEq, Repr

structure Aer where
  uncorrectable : Nat
  correctable : Nat
  deriving DecidableEq, Repr

/-- `int.from_bytes(value, "little")`. -/
def fromBytes : List UInt8 → Nat
  | [] => 0
  | b :: bs => b.toNat + 256 * fromBytes bs

/-- `f"0x{value:04x}"`. -/
def hex4 (value : Nat) : String :=
  let digits := Nat.toDigits 16 value
  "0x" ++ String.ofList (List.replicate (4 - digits.length) '0' ++ digits)

def pciRead (bdf : String) (fd offset size : Nat) : Routine Exn Nat := do
  let value ← raising (← call (.pciRead fd offset size))
  if value.length ≠ size then throw (runtimeError (bdf ++ ": short config read"))
  else return fromBytes value

/-- The capability walk of `PCI.__init__`: at most 48 entries. -/
def findExp (bdf : String) (fd : Nat) : Nat → List Nat → Nat → Routine Exn Nat
  | 0, _, _ => do
    call (.pciClose fd)
    throw (runtimeError (bdf ++ ": no PCIe capability"))
  | fuel + 1, seen, cap =>
    if cap = 0 || seen.contains cap then do
      call (.pciClose fd)
      throw (runtimeError (bdf ++ ": no PCIe capability"))
    else do
      let id ← pciRead bdf fd cap 1
      if id = 0x10 then return cap
      else do
        let next ← pciRead bdf fd (cap + 1) 1
        findExp bdf fd fuel (cap :: seen) (next &&& 0xfc)

def openPci (bdf : String) (writable : Bool) : Routine Exn Pci := do
  let fd ← raising (← call (.pciOpen bdf writable))
  let cap ← pciRead bdf fd 0x34 1
  let exp ← findExp bdf fd 48 [] (cap &&& 0xfc)
  return { bdf := bdf, fd := fd, exp := exp }

namespace Pci

def read (device : Pci) (offset size : Nat) : Routine Exn Nat := pciRead device.bdf device.fd offset size

def status (device : Pci) : Routine Exn LinkStatus := do
  let value ← device.read (device.exp + 0x12) 2
  if value = 0xffff then throw (runtimeError (device.bdf ++ ": endpoint unavailable"))
  else return { bdf := device.bdf, raw := hex4 value, generation := value &&& 15, width := (value >>> 4) &&& 63,
                training := value &&& 0x800 ≠ 0 }

/-- The extended capability walk of `aer`: at most 256 entries. -/
def aerFrom (device : Pci) : Nat → List Nat → Nat → Routine Exn (Option Aer)
  | 0, _, _ => return none
  | fuel + 1, seen, offset =>
    if offset = 0 || seen.contains offset then return none
    else do
      let header ← device.read offset 4
      if header = 0 || header = 0xffffffff then return none
      else if header &&& 0xffff = 1 then do
        let uncorrectable ← device.read (offset + 4) 4
        let correctable ← device.read (offset + 0x10) 4
        return some { uncorrectable := uncorrectable, correctable := correctable }
      else device.aerFrom fuel (offset :: seen) ((header >>> 20) &&& 0xffc)

def aer (device : Pci) : Routine Exn (Option Aer) := device.aerFrom 256 [] 0x100

end Pci

def settledGen2 (status : LinkStatus) : Bool := status.generation == 2 && 1 ≤ status.width && !status.training

/-- A list comprehension over fallible reads. -/
def collect {α β : Type} (f : α → Routine Exn β) : List α → Routine Exn (List β)
  | [] => return []
  | a :: as => do
    let b ← f a
    let bs ← collect f as
    return b :: bs

/-- `[device.f() for pair in pairs for device in pair]`. -/
def collectPairs {β : Type} (f : Pci → Routine Exn β) (pairs : List (Pci × Pci)) : Routine Exn (List β) :=
  collect f (pairs.flatMap fun pair => [pair.1, pair.2])

end CmpUnlocker.PcieHost
