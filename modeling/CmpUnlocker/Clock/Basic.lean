import Mathlib.Algebra.Group.Int.Defs
import Mathlib.Algebra.Group.Nat.Defs
import CmpUnlocker.Lib.Prog

/-!
# The clock tool: settings and transactions

The write transaction of `cmp100-nvml-clock-v2.rs`: `one` (set, read back, compare), `rollback`, `wait_hbm_clock` and
`exec`, on one device handle.  A `Result` is a program that may fail with a text; `nvmlErrorString` is the parameter
`es`.  The values of a change are of type `i64`, those stored by the driver of the C types `c_int` and `c_uint`.

The device is arbitrary: a setter may return any code and leave any value in its own setting; a getter that returns
`OK` reports the value stored.
-/

namespace CmpUnlocker.Clock

open Interaction

/-- `OK` of `nvmlReturn_t`. -/
def ok : Int := 0

def hbmClock : Int := 877

inductive K
  | hbm
  | core
  | power
  deriving DecidableEq, Repr

namespace K

def s : K → String
  | hbm => "hbmOffset"
  | core => "coreOffset"
  | power => "powerLimitMilliwatts"

/-- `as c_int` for the offsets, `as c_uint` for the power limit. -/
def cast : K → Int → Int
  | hbm, v => v.bmod (2 ^ 32)
  | core, v => v.bmod (2 ^ 32)
  | power, v => v % 2 ^ 32

/-- What `one` reads back after its write. -/
def readback : K → String
  | hbm => "read HBM offset after write"
  | core => "read core offset after write"
  | power => "read power limit after write"

end K

structure C where
  k : K
  old : Int
  new : Int
  deriving DecidableEq, Repr

inductive Op
  | set (k : K) (v : Int)
  | get (k : K)
  | getClockInfo
  | sleep (ms : Nat)
  | println (text : String)

/-- A return code, with the value written through the out-parameter. -/
@[reducible] def Op.Answer : Op → Type
  | .set _ _ => Int
  | .get _ | .getClockInfo => Int × Int
  | .sleep _ | .println _ => Unit

abbrev Routine (ε α : Type) : Type := Prog Op Op.Answer ε α

/-- The value the driver stores for each setting. -/
abbrev Device : Type := K → Int

def device : Env Op Op.Answer Device
  | w, .set k _, _, w' => ∀ k', k' ≠ k → w' k' = w k'
  | w, .get k, r, w' => w' = w ∧ (r.1 = ok → r.2 = w k)
  | w, _, _, w' => w' = w

section

variable {ε : Type} (es : Int → String)

def call (o : Op) : Routine ε o.Answer := Prog.request o

def ck (r : Int) (what : String) : Routine String Unit :=
  if r = ok then return () else throw (what ++ ": " ++ es r ++ " (" ++ toString r ++ ")")

/-- `ri` and `ru`. -/
def readSetting (k : K) (what : String) : Routine String Int := do
  let (r, x) ← call (.get k)
  ck es r what
  return x

def one (c : C) : Routine String Unit := do
  let r ← call (.set c.k (c.k.cast c.new))
  ck es r ("set " ++ c.k.s)
  let got ← readSetting es c.k c.k.readback
  if got ≠ c.new then
    throw (c.k.s ++ " readback mismatch: requested " ++ toString c.new ++ ", got " ++ toString got)
  else return ()

/-- The loop of `rollback`: the texts of the changes that could not be undone. -/
def restore : List C → Routine ε (List String)
  | [] => return []
  | c :: cs => do
    match ← (one es { c with new := c.old }).attempt with
    | .ok () => restore cs
    | .error x => do
      let rest ← restore cs
      return x :: rest

def rollback (cs : List C) : Routine ε String := do
  let e ← restore es cs.reverse
  if e.isEmpty then return "rollback=ok" else return "rollback_failed=" ++ "; ".intercalate e

def change (c : C) : String :=
  "\x7b\"setting\":\"" ++ c.k.s ++ "\",\"previous\":" ++ toString c.old ++ ",\"requested\":" ++ toString c.new ++ "\x7d"

def jcs (cs : List C) : String := ",".intercalate (cs.map change)

/-- The attempts of `wait_hbm_clock`, `mhz` being the clock read last. -/
def waitFrom (mhz : Int) : List Nat → Routine String Unit
  | [] =>
    throw ("effective HBM clock " ++ toString mhz ++ " MHz after 2 seconds, expected " ++ toString hbmClock ++ " MHz")
  | attempt :: attempts => do
    let (r, mhz) ← call .getClockInfo
    ck es r "read effective HBM clock"
    if mhz = hbmClock then return ()
    else do
      .when (attempt < 20) (call (.sleep 100))
      waitFrom mhz attempts

def waitHbmClock : Routine String Unit := waitFrom es 0 (List.range 21)

/-- The write loop of `exec`, with the changes made so far. -/
def applyAll (cmd : String) (done : List C) : List C → Routine String (List C)
  | [] => return done
  | c :: cs => do
    match ← (one es c).attempt with
    | .ok () => applyAll cmd (done ++ [c]) cs
    | .error e => do
      let text ← rollback es (done ++ [c])
      throw (cmd ++ " failed: " ++ e ++ "; " ++ text)

/-- The clock check of `exec` after all writes. -/
def verifyClock (done : List C) : Routine String Unit := do
  match ← (waitHbmClock es).attempt with
  | .ok () => return ()
  | .error e => do
    let text ← rollback es done
    throw ("hbm-877 verification failed: " ++ e ++ "; " ++ text)

def exec (u cmd : String) (cs : List C) (apply clock : Bool) : Routine String Unit := do
  if apply = false then
    call (.println ("\x7b\"command\":\"" ++ cmd ++ "\",\"uuid\":\"" ++ u
      ++ "\",\"dryRun\":true,\"requires\":\"--apply\",\"changes\":[" ++ jcs cs ++ "]\x7d"))
  else do
    let done ← applyAll es cmd [] cs
    .when (clock = true) (verifyClock es done)
    call (.println ("\x7b\"command\":\"" ++ cmd ++ "\",\"uuid\":\"" ++ u
      ++ "\",\"applied\":true,\"changes\":[" ++ jcs cs ++ "]\x7d"))

end

end CmpUnlocker.Clock
