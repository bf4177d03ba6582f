import CmpUnlocker.Lib.Ieee
import CmpUnlocker.Lib.Prog
import CmpUnlocker.Lib.Text
import Mathlib.Algebra.Order.Ring.Unbundled.Rat

/-!
# One configuration of the GEMM stress test

`run_config` and `run_device` of `gemm_stress.py`.  The calls of PyTorch, of the clock and of the stop flag are the
requests of a program; each of them may raise, and a KeyboardInterrupt may strike at each of them.  What Python's
floating-point arithmetic and formatting compute is a parameter (`Py`); the comparisons are those of IEEE 754.

The timed loop has no bound of its own in sustained mode, or while the timer returns nothing positive.  Here it runs
for at most `fuel` rounds and then raises `unfinished`, which is no exception of the source.  Telemetry is requested but
its readings, which only the report prints, are left out.
-/

namespace CmpUnlocker.Gemm

open Interaction

/-- A Python float. -/
abbrev Flt : Type := Ieee.Value ℚ

def Flt.zero : Flt := .of 0

inductive Dtype
  | fp16
  | bf16
  | fp32
  deriving DecidableEq, Repr

inductive Layout
  | nn
  | nt
  | tn
  | tt
  deriving DecidableEq, Repr

inductive Init
  | randn
  | uniform
  deriving DecidableEq, Repr

inductive Validate
  | auto
  | full
  | block
  | off
  deriving DecidableEq, Repr

inductive Status
  | PASS
  | FAIL
  | ERROR
  | SKIP
  deriving DecidableEq, Repr

def ITEMSIZE : Dtype → Int
  | .fp16 => 2
  | .bf16 => 2
  | .fp32 => 4

structure Config where
  m : Int
  n : Int
  k : Int
  dtype : Dtype
  layout : Layout
  deriving DecidableEq, Repr

structure ConfigResult where
  config : Config
  status : Status := .SKIP
  reason : String := ""
  iters : Nat := 0
  medianTflops : Flt := Flt.zero
  minTflops : Flt := Flt.zero
  maxTflops : Flt := Flt.zero
  driftPct : Option Flt := none
  maxRelErr : Option Flt := none
  validateMode : Validate := .off
  elapsed : Flt := Flt.zero

structure Args where
  devices : Option (List Int)
  sizes : Option (List Int)
  shapes : List (List Char)
  dtype : List Dtype
  layout : Layout
  init : Init
  seed : Int
  warmup : Int
  repeats : Int
  seconds : Flt
  validate : Validate
  validateBlock : Int
  validateEvery : Int
  tol : Flt
  minTflops : Flt
  tensorRatio : Flt
  maxMemGb : Flt
  telemetry : Bool
  parallel : Bool
  maxParallel : Int
  failFast : Bool
  logInterval : Flt
  json : Option String
  csv : Option String

/-- The arithmetic, the parsing and the formatting that the program leaves to Python. -/
structure Py where
  /-- `str.lower()` -/
  lower : List Char → List Char
  /-- `int(text)` -/
  int : List Char → Option Int
  /-- `int(total * 1.1)` -/
  headroom : Int → Int
  /-- `int(min(max_mem_gb * 1e9, free * 0.9))`, which fails for a NaN -/
  budget : Flt → Int → Option Int
  sub : Flt → Flt → Flt
  /-- `2.0 * m * n * k / secs / 1e12` -/
  rate : Config → Flt → Flt
  median : List Flt → Flt
  /-- `100.0 * (second - first) / first if first else 0.0` -/
  drift : Flt → Flt → Flt
  quotient : Flt → Flt → Flt
  gb : Int → String
  format : String → Flt → String

inductive Exn
  | runtime (text : String)
  | interrupt
  | other (text : String)
  | unfinished
  deriving DecidableEq

/-- A result tensor. -/
abbrev Tensor : Type := Nat

inductive Request
  | setDevice (d : Int)
  | makeOperands (d : Int) (cfg : Config) (init : Init)
  | mm
  | synchronize (d : Int)
  | readTelemetry (d : Int)
  | monotonic
  | empty
  | timedMm
  | validateFull (c : Tensor)
  | validateBlock (c : Tensor) (block : Int)
  | isfinite (c : Tensor)
  | stopRequested
  | requestStop
  | progress
  | getDeviceName (d : Int)
  | manualSeed (seed : Int)
  | memGetInfo (d : Int)

@[reducible] def Request.Value : Request → Type
  | timedMm => Tensor × Flt
  | empty => Tensor
  | monotonic | validateFull _ | validateBlock _ _ => Flt
  | isfinite _ | stopRequested => Bool
  | getDeviceName _ => String
  | memGetInfo _ => Int
  | _ => Unit

@[reducible] def Request.Answer (o : Request) : Type := Except Exn o.Value

abbrev Run (ε α : Type) : Type := Prog Request Request.Answer ε α

/-- A request whose exception is not caught here. -/
def ask (o : Request) : Run Exn o.Value := do
  match ← Prog.request o with
  | .ok x => return x
  | .error e => throw e

/-! ### The memory estimate -/

def estimateBytes (py : Py) (cfg : Config) (fullValidate : Bool) (block : Int) : Int :=
  let elems := cfg.m * cfg.k + cfg.k * cfg.n + cfg.m * cfg.n
  let total := elems * ITEMSIZE cfg.dtype
  if fullValidate then py.headroom (total + elems * 4)
  else
    let bb := min (min block cfg.m) cfg.n
    py.headroom (total + (2 * bb * cfg.k + bb * bb) * 4)

/-- The validation mode under the memory budget. -/
def validateMode (py : Py) (cfg : Config) (args : Args) (budget : Int) : Validate :=
  match args.validate with
  | .off => .off
  | .full => .full
  | .block => .block
  | .auto => if estimateBytes py cfg true 2048 ≤ budget then .full else .block

def needBytes (py : Py) (cfg : Config) (args : Args) (budget : Int) : Int :=
  estimateBytes py cfg (validateMode py cfg args budget = .full) args.validateBlock

/-! ### The timed loop -/

/-- What the timed section has so far. -/
structure Timing where
  c : Tensor
  samples : List Flt
  worstErr : Flt
  timedIters : Nat
  now : Flt

/-- A request of the timed section, whose exceptions leave what it has so far. -/
def askIn (s : Timing) (o : Request) : Run (Timing × Exn) o.Value := do
  match ← Prog.request o with
  | .ok x => return x
  | .error e => throw (s, e)

def sustained (args : Args) : Bool := Flt.zero.lt args.seconds

/-- `timed_iters < target`. -/
def belowTarget (args : Args) (timedIters : Nat) : Bool := sustained args || timedIters < args.repeats

/-- The iterations after which the loop checks its result. -/
def checksAt (args : Args) (timedIters : Nat) : Bool :=
  timedIters == 1 || (!sustained args && timedIters == args.repeats)
    || (0 < args.validateEvery && (timedIters : Int) % args.validateEvery == 0)

/-- `worst_err = max(worst_err, check())`. -/
def check (args : Args) (mode : Validate) (s : Timing) : Run (Timing × Exn) Timing := do
  let err ← (if mode = .full then askIn s (.validateFull s.c) else askIn s (.validateBlock s.c args.validateBlock) :
    Run (Timing × Exn) Flt)
  return { s with worstErr := s.worstErr.pyMax err }

/-- A timed iteration is counted. -/
def record (py : Py) (cfg : Config) (secs : Flt) (s : Timing) : Timing :=
  { s with samples := s.samples ++ [py.rate cfg secs], timedIters := s.timedIters + 1 }

/-- The check of an iteration, if it is due. -/
def checkDue (args : Args) (mode : Validate) (s : Timing) : Run (Timing × Exn) Timing :=
  if mode ≠ .off ∧ checksAt args s.timedIters then check args mode s else return s

def timedLoop (py : Py) (cfg : Config) (args : Args) (mode : Validate) (wallStart : Flt) :
    Nat → Timing → Run (Timing × Exn) Timing
  | 0, s => throw (s, .unfinished)
  | fuel + 1, s =>
    if belowTarget args s.timedIters = false then return s
    else do
      let stop ← askIn s .stopRequested
      if stop = true then return s
      else do
        let timing ← askIn s .timedMm
        if timing.2.le Flt.zero then timedLoop py cfg args mode wallStart fuel { s with c := timing.1 }
        else do
          let s ← checkDue args mode (record py cfg timing.2 { s with c := timing.1 })
          let now ← askIn s .monotonic
          if sustained args ∧ args.seconds.le (py.sub now wallStart) then return { s with now }
          else timedLoop py cfg args mode wallStart fuel { s with now }

/-- The timed section: the loop, and in sustained mode the check of the last iteration. -/
def timed (py : Py) (fuel : Nat) (cfg : Config) (args : Args) (mode : Validate) (wallStart : Flt) (c : Tensor) :
    Run (Timing × Exn) Timing := do
  let s ← timedLoop py cfg args mode wallStart fuel
    { c, samples := [], worstErr := Flt.zero, timedIters := 0, now := wallStart }
  if sustained args ∧ mode ≠ .off ∧ s.samples ≠ [] then do
    let s ← check args mode s
    .when (Flt.zero.lt args.logInterval ∧ args.logInterval.le (py.sub s.now wallStart)) (askIn s .progress)
    return s
  else return s

/-! ### One configuration -/

/-- The gates on the samples and on the worst error. -/
def failures (py : Py) (args : Args) (maxRelErr : Option Flt) (median : Flt) : List String :=
  (match maxRelErr with
    | some err =>
      if args.tol.lt err then ["rel_err " ++ py.format ".3e" err ++ " > tol " ++ py.format "g" args.tol] else []
    | none => [])
  ++ if Flt.zero.lt args.minTflops ∧ median.lt args.minTflops then
      ["median " ++ py.format ".3f" median ++ " < " ++ py.format "g" args.minTflops]
    else []

/-- A configuration that ends with the stop flag set, or with a reason, fails. -/
def stopped (again : Bool) (res : ConfigResult) : ConfigResult :=
  if again = true ∧ Text.contains "interrupted".toList res.reason.toList = false then
    { res with
      status := .FAIL
      reason := (if res.reason ≠ "" then res.reason ++ "; " else "") ++ "interrupted; partial results" }
  else { res with status := .FAIL }

/-- `run_config` behind the gates. -/
def settle (res : ConfigResult) : Run Exn ConfigResult := do
  let stop ← (if res.reason ≠ "" then return true else ask .stopRequested : Run Exn Bool)
  if stop = true then do
    let again ← ask .stopRequested
    return stopped again res
  else return { res with status := .PASS }

/-- The figures on the samples, of which there is at least one. -/
def figures (py : Py) (res : ConfigResult) (s : Timing) (sample : Flt) (samples : List Flt) : ConfigResult :=
  let all := sample :: samples
  let half := all.length / 2
  { res with
    iters := s.timedIters
    medianTflops := py.median all
    minTflops := samples.foldl Ieee.Value.pyMin sample
    maxTflops := samples.foldl Ieee.Value.pyMax sample
    driftPct :=
      if 4 ≤ all.length then some (py.drift (py.median (all.take half)) (py.median (all.drop half))) else none
    maxRelErr := if res.validateMode ≠ .off then some s.worstErr else none }

/-- The gates on the figures. -/
def gated (py : Py) (args : Args) (res : ConfigResult) : Run Exn ConfigResult :=
  let gates := failures py args res.maxRelErr res.medianTflops
  if gates ≠ [] then return { res with status := .FAIL, reason := "; ".intercalate gates } else settle res

/-- `run_config` behind the timed section. -/
def evaluate (py : Py) (args : Args) (res : ConfigResult) (s : Timing) : Run Exn ConfigResult :=
  match s.samples with
  | [] => return { res with status := .ERROR, reason := "no timed iterations completed" }
  | sample :: samples => do
    let finite ← (ask (.isfinite s.c)).handle fun
      | .runtime _ => return false
      | e => throw e
    if finite = false then return { res with status := .FAIL, reason := "non-finite result" }
    else gated py args (figures py res s sample samples)

/-- The `finally` of the timed section. -/
def closing (py : Py) (d : Int) (args : Args) (wallStart : Flt) (res : ConfigResult) : Run Exn ConfigResult := do
  let now ← ask .monotonic
  .when (args.telemetry = true) (ask (.readTelemetry d))
  return { res with elapsed := py.sub now wallStart }

/-- `range(args.warmup)` of `torch.mm`, and the synchronization. -/
def warmUp (d : Int) (args : Args) : Run Exn Unit := do
  Prog.forEach (fun _ => ask .mm) (List.range args.warmup.toNat)
  ask (.synchronize d)

/-- `run_config` behind the timed section, which has ended so. -/
def afterTimed (py : Py) (d : Int) (args : Args) (wallStart : Flt) (res : ConfigResult) :
    Except (Timing × Exn) Timing → Run Exn ConfigResult
  | .ok s => do
    let res ← closing py d args wallStart res
    evaluate py args res s
  | .error (s, .interrupt) => do
    match ← (ask .requestStop).attempt with
    | .ok () => do
      let res ← closing py d args wallStart { res with reason := "interrupted; partial results" }
      evaluate py args res s
    | .error e => do
      let _ ← closing py d args wallStart res
      throw e
  | .error (_, .runtime exc) =>
    closing py d args wallStart { res with status := .ERROR, reason := "timed GEMM failed: " ++ exc }
  | .error (_, e) => do
    let _ ← closing py d args wallStart res
    throw e

/-- `run_config` from the clock on. -/
def measure (py : Py) (fuel : Nat) (d : Int) (cfg : Config) (args : Args) (res : ConfigResult) :
    Run Exn ConfigResult := do
  let wallStart ← ask .monotonic
  let c ← ask .empty
  let outcome ← (timed py fuel cfg args res.validateMode wallStart c).attempt
  afterTimed py d args wallStart res outcome

def runConfig (py : Py) (fuel : Nat) (d : Int) (cfg : Config) (args : Args) (budget : Int) :
    Run Exn ConfigResult := do
  ask (.setDevice d)
  let mode := validateMode py cfg args budget
  let need := needBytes py cfg args budget
  let res : ConfigResult := { config := cfg, validateMode := mode }
  if need > budget then
    return { res with
      status := .SKIP
      reason := "estimated " ++ py.gb need ++ " GB exceeds " ++ py.gb budget ++ " GB budget" }
  else do
    match ← (ask (.makeOperands d cfg args.init)).attempt with
    | .error (.runtime exc) => return { res with status := .ERROR, reason := "operand alloc failed: " ++ exc }
    | .error e => throw e
    | .ok () =>
      match ← (warmUp d args).attempt with
      | .error (.runtime exc) =>
        return { res with
          status := .ERROR
          reason := "warmup failed (" ++ exc ++ "); dtype may lack backend support" }
      | .error e => throw e
      | .ok () => do
        .when (args.telemetry = true) (ask (.readTelemetry d))
        measure py fuel d cfg args res

/-! ### One device -/

/-- The loop of `run_device` over the configurations to come. -/
def runConfigs (py : Py) (fuel : Nat) (d : Int) (args : Args) (budget : Int) (results : List ConfigResult) :
    List Config → Run Exn (List ConfigResult)
  | [] => return results
  | cfg :: configs => do
    let stop ← ask .stopRequested
    if stop = true then return results
    else do
      let res ← runConfig py fuel d cfg args budget
      if args.failFast = true ∧ (res.status = .FAIL ∨ res.status = .ERROR) then return results ++ [res]
      else runConfigs py fuel d args budget (results ++ [res]) configs

def runDevice (py : Py) (fuel : Nat) (d : Int) (configs : List Config) (args : Args) :
    Run Exn (String × List ConfigResult) := do
  let name ← ask (.getDeviceName d)
  ask (.manualSeed (args.seed + d))
  let free ← ask (.memGetInfo d)
  match py.budget args.maxMemGb free with
  | none => throw (.other "cannot convert float NaN to integer")
  | some budget => do
    let results ← runConfigs py fuel d args budget [] configs
    return (name, results)

/-! ### What the requests answer -/

/-- The stop flag, the values returned by the correctness checks, how often a KeyboardInterrupt has struck, and the free
memory of the device. -/
structure World where
  stop : Bool
  checks : List Flt
  strikes : Nat
  free : Int

/-- The exceptions of a request.  Those of a tensor operation are RuntimeErrors as a rule, and that of `isfinite` is. -/
def Request.MayRaise : Request → Exn → Prop
  | _, .interrupt => True
  | _, .unfinished => False
  | .monotonic, _ | .stopRequested, _ | .requestStop, _ | .readTelemetry _, _ | .progress, _ => False
  | .isfinite _, .other _ => False
  | _, _ => True

/-- Every request may raise; the stop flag, which other threads may set, is never cleared. -/
def torch : Env Request Request.Answer World
  | w, o, .error e, w' => o.MayRaise e ∧ w' = { w with strikes := w.strikes + if e = .interrupt then 1 else 0 }
  | w, .stopRequested, .ok stop, w' => (w.stop = true → stop = true) ∧ w' = { w with stop }
  | w, .requestStop, .ok _, w' => w' = { w with stop := true }
  | w, .validateFull _, .ok err, w' => w' = { w with checks := w.checks ++ [err] }
  | w, .validateBlock _ _, .ok err, w' => w' = { w with checks := w.checks ++ [err] }
  | w, .memGetInfo _, .ok free, w' => free = w.free ∧ w' = w
  | w, _, .ok _, w' => w' = w

/-- Nothing checked, nothing interrupted. -/
def fresh (free : Int) : World where
  stop := false
  checks := []
  strikes := 0
  free := free

/-- Every request is admissible. -/
def anything : Env Request Request.Answer World := fun _ _ _ _ => True

section

variable {w : World}

theorem ask_meets {o : Request} {Q : o.Value → World → Prop} {X : Exn → World → Prop}
    (hok : ∀ x w', torch w o (.ok x) w' → Q x w') (herror : ∀ e w', torch w o (.error e) w' → X e w') :
    (ask o).Meets torch anything Q X w := by
  intro r w' hr
  refine ⟨trivial, ?_⟩
  cases r with
  | ok x => exact hok x w' hr
  | error e => exact herror e w' hr

theorem askIn_meets {s : Timing} {o : Request} {Q : o.Value → World → Prop} {X : Timing × Exn → World → Prop}
    (hok : ∀ x w', torch w o (.ok x) w' → Q x w') (herror : ∀ e w', torch w o (.error e) w' → X (s, e) w') :
    (askIn s o).Meets torch anything Q X w := by
  intro r w' hr
  refine ⟨trivial, ?_⟩
  cases r with
  | ok x => exact hok x w' hr
  | error e => exact herror e w' hr

end

end CmpUnlocker.Gemm
