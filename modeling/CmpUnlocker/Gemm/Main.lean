import CmpUnlocker.Gemm.Config
import CmpUnlocker.Gemm.RunAll

/-!
# The program around the devices

What `main` of `gemm_stress.py` does in front of `run_all` (`setup`) and behind it (`conclude`): the selection of the
devices, the shapes, the gate on the ratio of the medians, the output files and the exit status.  The texts printed
are left out, and the output files but for what can go wrong in writing them.
-/

namespace CmpUnlocker.Gemm

/-- How the process ends: with a status, or with an exception that leaves `main`. -/
inductive Exit
  | code (status : Int)
  | escaped (text : String)
  deriving DecidableEq

/-! ### In front of `run_all` -/

def AMD_NAME_HINTS : List String :=
  ["amd", "radeon", "instinct", "firepro", "gfx", "vega", "navi", "polaris", "fiji", "hawaii"]

def isAmdDevice (py : Py) (name : String) : Bool :=
  AMD_NAME_HINTS.any fun hint => Text.contains hint.toList (py.lower name.toList)

/-- `names[idx]`. -/
def nameOf (names : List String) (d : Int) : Option String := if d < 0 then none else names[d.toNat]?

/-- The device is positively identified as an AMD one. -/
def isSkipped (py : Py) (names : List String) (d : Int) : Bool :=
  match nameOf names d with
  | some name => isAmdDevice py name
  | none => false

/-- `sorted(names)` where no devices are requested. -/
def candidates (requested : Option (List Int)) (names : List String) : List Int :=
  match requested with
  | some devices => devices
  | none => (List.range names.length).map fun d => (d : Int)

/-- The devices that `select_devices` keeps. -/
def selectDevices (py : Py) (requested : Option (List Int)) (names : List String) : List Int :=
  (candidates requested names).filter fun d => !isSkipped py names d

/-- One entry of `--shapes`. -/
def parseShape (py : Py) (spec : List Char) : Option (Int × Int × Int) :=
  match Text.splitOn (· == ',') ((py.lower spec).map fun c => if c = 'x' then ',' else c) with
  | [m, n, k] =>
    match py.int m, py.int n, py.int k with
    | some m, some n, some k => if min (min m n) k ≤ 0 then none else some (m, n, k)
    | _, _, _ => none
  | _ => none

/-- The shapes of `--shapes`, or `none` for a bad entry. -/
def parseSpecs (py : Py) : List (List Char) → Option (List (Int × Int × Int))
  | [] => some []
  | spec :: specs =>
    match parseShape py spec with
    | none => none
    | some dims => (parseSpecs py specs).map (dims :: ·)

def parseShapes (py : Py) (sizes : List Int) (shapes : List (List Char)) : Option (List (Int × Int × Int)) :=
  (parseSpecs py shapes).map (sizes.map (fun s => (s, s, s)) ++ ·)

/-- The square sizes, 8192 where neither sizes nor shapes are given. -/
def sizesOf (args : Args) : List Int :=
  let sizes := args.sizes.getD []
  if sizes = [] ∧ args.shapes = [] then [8192] else sizes

/-- The dtypes, with the FP32 baseline of `--tensor-ratio`. -/
def dtypesOf (args : Args) : List Dtype :=
  if Flt.zero.lt args.tensorRatio ∧ Dtype.fp32 ∉ args.dtype then args.dtype ++ [.fp32] else args.dtype

def configsOf (args : Args) (dims : List (Int × Int × Int)) : List Config :=
  dims.flatMap fun dim => (dtypesOf args).map fun dtype => ⟨dim.1, dim.2.1, dim.2.2, dtype, args.layout⟩

/-- `main` up to `run_all`: the devices and the configurations, or the exit status. -/
def setup (py : Py) (args : Args) (available : Bool) (names : List String) :
    Except Int (List Int × List Config) :=
  if available = false then .error 1
  else if args.seconds.lt Flt.zero ∨ args.repeats < 1 ∨ args.warmup < 0 then .error 1
  else if selectDevices py args.devices names = [] then .error 1
  else match parseShapes py (sizesOf args) args.shapes with
    | none => .error 1
    | some dims =>
      if args.maxParallel < 0 then .error 1 else .ok (selectDevices py args.devices names, configsOf args dims)

/-! ### Behind `run_all` -/

/-- What `run_all` returns for each device. -/
abbrev PerDevice : Type := List (Int × String × List ConfigResult)

/-- The shape of a baseline. -/
def shapeOf (c : Config) : Int × Int × Int × Layout := (c.m, c.n, c.k, c.layout)

/-- The FP32 medians of a device, the latest first. -/
def baselines (results : List ConfigResult) : List ((Int × Int × Int × Layout) × Flt) :=
  (results.filter fun res => res.config.dtype = .fp32 ∧ res.status = .PASS ∧ Flt.zero.lt res.medianTflops).reverse.map
    fun res => (shapeOf res.config, res.medianTflops)

/-- The ratio gate on one result, with the baselines of its device. -/
def rated (py : Py) (args : Args) (bases : List ((Int × Int × Int × Layout) × Flt)) (res : ConfigResult) :
    ConfigResult :=
  if res.config.dtype ≠ .fp16 ∨ res.status ≠ .PASS then res
  else match (bases.find? fun base => base.1 = shapeOf res.config).map Prod.snd with
    | none => { res with status := .FAIL, reason := "no FP32 baseline for tensor-ratio check" }
    | some base =>
      if base.le Flt.zero then { res with status := .FAIL, reason := "no FP32 baseline for tensor-ratio check" }
      else
        let ratio := py.quotient res.medianTflops base
        if ratio.lt args.tensorRatio then
          { res with
            status := .FAIL
            reason := "tensor-ratio " ++ py.format ".2f" ratio ++ "x < " ++ py.format "g" args.tensorRatio ++ "x (fp16 "
              ++ py.format ".1f" res.medianTflops ++ " vs fp32 " ++ py.format ".1f" base ++ " TFLOPS)" }
        else res

def applyTensorRatio (py : Py) (args : Args) (perDevice : PerDevice) : PerDevice :=
  if args.tensorRatio.le Flt.zero then perDevice
  else perDevice.map fun e => (e.1, e.2.1, e.2.2.map (rated py args (baselines e.2.2)))

/-- The results of all devices. -/
def allResults (perDevice : PerDevice) : List ConfigResult := perDevice.flatMap fun e => e.2.2

def countOf (status : Status) (perDevice : PerDevice) : Nat :=
  (allResults perDevice).countP fun res => res.status = status

/-- The exit status of `report`. -/
def report (perDevice : PerDevice) : Int :=
  if countOf .FAIL perDevice ≠ 0 ∨ countOf .ERROR perDevice ≠ 0 then 1
  else if countOf .PASS perDevice = 0 then 1
  else 0

/-- An option with a file name; the empty name counts as none. -/
def wanted (file : Option String) : Bool := file.isSome && file != some ""

/-- `write_outputs`, which takes the columns of the CSV file from the first row. -/
def writeOutputs (perDevice : PerDevice) (args : Args) : Except String Unit :=
  if wanted args.csv && (allResults perDevice).isEmpty then .error "list index out of range" else .ok ()

/-- `main` behind `run_all`. -/
def conclude (py : Py) (args : Args) (perDevice : PerDevice) (interrupted : Bool) : Exit :=
  let perDevice := if interrupted then perDevice else applyTensorRatio py args perDevice
  match writeOutputs perDevice args with
  | .error text => .escaped text
  | .ok () => .code (if interrupted then 130 else report perDevice)

/-- How `main` ends where `run_all` has come to an end. -/
def exitOf (py : Py) (args : Args) (s : State Int (String × List ConfigResult)) : Option Exit :=
  match s.pc with
  | .returned interrupted => some (conclude py args s.perDevice interrupted)
  | .raised none => some (.escaped "KeyboardInterrupt")
  | .raised (some text) => some (.escaped text)
  | _ => none

/-! ### The runner -/

open Interaction

/-- What a runner is answered while the other threads have set the stop flag or not: only they and the runner itself
set it. -/
def beside (flag : Bool) : Env Request Request.Answer World := fun w o r w' =>
  torch w o r w' ∧ (w'.stop = true → w.stop = true ∨ flag = true ∨ o = .requestStop)

/-- The runner of a device ends so, with this stop flag, after this many KeyboardInterrupts, where `flag` is the stop
flag of the other threads by then. -/
inductive Called (py : Py) (args : Args) (configs : List Config) (free : Int → Int) (d : Int) (flag : Bool) :
    Finish (String × List ConfigResult) → Bool → Nat → Prop
  | returned {fuel : Nat} {stop : Bool} {w : World} {out : String × List ConfigResult}
      (hstop : stop = true → flag = true)
      (h : Prog.Steps (beside flag) (runDevice py fuel d configs args, { fresh (free d) with stop }) (.ret out, w)) :
      Called py args configs free d flag (.returned out) w.stop w.strikes
  | interrupted {fuel : Nat} {stop : Bool} {w : World} (hstop : stop = true → flag = true)
      (h : Prog.Steps (beside flag) (runDevice py fuel d configs args, { fresh (free d) with stop })
        (.throw .interrupt, w)) : Called py args configs free d flag .interrupted w.stop w.strikes
  | runtime {fuel : Nat} {stop : Bool} {w : World} {text : String} (hstop : stop = true → flag = true)
      (h : Prog.Steps (beside flag) (runDevice py fuel d configs args, { fresh (free d) with stop })
        (.throw (.runtime text), w)) : Called py args configs free d flag (.raised text) w.stop w.strikes
  | other {fuel : Nat} {stop : Bool} {w : World} {text : String} (hstop : stop = true → flag = true)
      (h : Prog.Steps (beside flag) (runDevice py fuel d configs args, { fresh (free d) with stop })
        (.throw (.other text), w)) : Called py args configs free d flag (.raised text) w.stop w.strikes

/-- The KeyboardInterrupts of the main thread in a run of `run_all` with this runner; those of the workers' calls are
none, since Python delivers them to the main thread.  A runner finds the stop flag set only where it is set by the end
of its call. -/
inductive Struck (py : Py) (args : Args) (configs : List Config) (free : Int → Int) :
    List (State Int (String × List ConfigResult) × Event (String × List ConfigResult)) → Nat → Prop
  | nil : Struck py args configs free [] 0
  | main {log : List (State Int (String × List ConfigResult) × Event (String × List ConfigResult))} {n : Nat}
      {s : State Int (String × List ConfigResult)} (h : Struck py args configs free log n) :
      Struck py args configs free (log ++ [(s, .main)]) n
  | start {log : List (State Int (String × List ConfigResult) × Event (String × List ConfigResult))} {n i : Nat}
      {s : State Int (String × List ConfigResult)} (h : Struck py args configs free log n) :
      Struck py args configs free (log ++ [(s, .start i)]) n
  | interrupt {log : List (State Int (String × List ConfigResult) × Event (String × List ConfigResult))} {n : Nat}
      {s : State Int (String × List ConfigResult)} (h : Struck py args configs free log n) :
      Struck py args configs free (log ++ [(s, .interrupt)]) (n + 1)
  | finish {log : List (State Int (String × List ConfigResult) × Event (String × List ConfigResult))} {n k : Nat}
      {s : State Int (String × List ConfigResult)} {d : Int} {rest : List (List Int)} {stop : Bool}
      {o : Finish (String × List ConfigResult)} (h : Struck py args configs free log n) (hpc : s.pc = .calling d rest)
      (ho : Called py args configs free d s.stop o stop k) :
      Struck py args configs free (log ++ [(s, .finish o stop)]) (n + k)
  | done {log : List (State Int (String × List ConfigResult) × Event (String × List ConfigResult))} {n : Nat}
      {s : State Int (String × List ConfigResult)} {before after : List (Int × Work (String × List ConfigResult))}
      {d : Int} {stop : Bool} {o : Finish (String × List ConfigResult)} (h : Struck py args configs free log n)
      (hpool : s.pool = before ++ (d, .running) :: after) (ho : Called py args configs free d s.stop o stop 0) :
      Struck py args configs free (log ++ [(s, .done before.length o stop)]) n

end CmpUnlocker.Gemm
