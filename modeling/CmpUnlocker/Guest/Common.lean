import CmpUnlocker.Lib.Shell
import CmpUnlocker.Lib.Text

/-!
# What the guest scripts share

`cmp100-tensor-unlock` and `cmp100-pcie-gen2` swap the same three firmware files, and define some functions alike:
messages, hashes, the driver of a device, and the search for a device in the inventory of `nvidia-smi`.
-/

namespace CmpUnlocker.Guest

open Interaction Shell

/-! ### Firmware files -/

/-- The firmware files that are swapped. -/
inductive Firmware
  | fecs
  | bl
  | ucode
  deriving DecidableEq, Repr

namespace Firmware

def all : List Firmware := [fecs, bl, ucode]

/-- The name of a saved copy. -/
def file : Firmware → String
  | fecs => "fecs_sig.bin"
  | bl => "bl.bin"
  | ucode => "ucode_load.bin"

/-- The path the driver loads. -/
def path : Firmware → String
  | fecs => "/lib/firmware/nvidia/gv100/gr/fecs_sig.bin"
  | bl => "/lib/firmware/nvidia/gv100/acr/bl.bin"
  | ucode => "/lib/firmware/nvidia/gv100/acr/ucode_load.bin"

/-- The manifest's variable with the hash of the original. -/
def stockVariable : Firmware → String
  | fecs => "STOCK_FECS_SHA"
  | bl => "STOCK_BL_SHA"
  | ucode => "STOCK_UCODE_SHA"

def name : Firmware → String
  | fecs => "fecs"
  | bl => "bl"
  | ucode => "ucode"

end Firmware

/-! ### Messages and files -/

def say (message : String) : Routine Unit := must ["printf", "[%s] %s\\n", message]

/-- `say` behind `set +e`. -/
def note (message : String) : Routine Unit := do
  let _ ← check ["printf", "[%s] %s\\n", message]

def die {α : Type} (message : String) : Routine α := do
  say ("ERROR: " ++ message)
  throw 1

def require (condition : Bool) (message : String) : Routine Unit := if condition then return () else die message

def shaOf (path : String) : Routine String := do
  let sum ← sh (.digest path)
  return sum.getD ""

def devicePath (bdf file : String) : String := "/sys/bus/pci/devices/" ++ bdf ++ "/" ++ file

def driverOf (bdf : String) : Routine String := do
  let link ← capture ["readlink", devicePath bdf "driver"]
  return String.ofList (Text.lastComponent link.toList)

def sourced (path : String) : Routine (String → Option String) := do
  match ← sh (.source path) with
  | some vars => return vars
  | none => throw 1

/-! ### Devices -/

def hookModule : String := "/sys/module/gv100_nouveau_acr_hook"

/-- `=~ ^0000:[0-9a-fA-F]{2}:00\.0$` -/
def isTarget (bdf : String) : Bool :=
  match bdf.toList with
  | ['0', '0', '0', '0', ':', a, b, ':', '0', '0', '.', '0'] => (Text.digit 16 a).isSome && (Text.digit 16 b).isSome
  | _ => false

/-- `${bdf#0000:}`. -/
def shortBdf (bdf : String) : String := String.ofList ((Text.dropPrefix "0000:".toList bdf.toList).getD bdf.toList)

/-- `grep -Fqi` on a text. -/
def grepFqi (pattern text : String) : Bool :=
  (Text.splitOn (· == '\n') text.toList).any fun line =>
    Text.contains (pattern.toList.map Char.toLower) (line.map Char.toLower)

/-- The words of `$(seq 1 n)`. -/
def rounds (n : Nat) : Routine (List String) := do
  let out ← capture ["seq", "1", toString n]
  return (Text.words Text.isBlank out.toList).map String.ofList

def unbindPath (driver : String) : String := "/sys/bus/pci/drivers/" ++ driver ++ "/unbind"

def bindPath (driver : String) : String := "/sys/bus/pci/drivers/" ++ driver ++ "/bind"

def value (text : String) : Option Nat := Text.arith text.toList

/-- `printf '0x%x'`. -/
def hexText (n : Nat) : String := "0x" ++ String.ofList (Nat.toDigits 16 n)

/-- `$((16#$bus_hex))` -/
@[irreducible] def busNumber (bdf : String) : Routine Nat :=
  match Text.number 16 (Text.cut [':'] (shortBdf bdf).toList).1 with
  | some n => return n
  | none => throw 1

def bootReturns : Routine Nat := do
  let count ← capture ["dmesg", "|", "grep", "-c", "gv100_nouveau_acr_hook: BOOT_RETURN"]
  return (value count).getD 0

end CmpUnlocker.Guest
