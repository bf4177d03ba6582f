import CmpUnlocker.Cupti.Basic

/-!
# The device work of the collector

`prepare_bank`, `enable_bank`, `disable_bank`, `select_first_bank`, `initialize`, `read_bank`, the device loop of
`rotate_at_idle_boundary` and the sampling loop of `run`.  An assignment of the source is one `store` request, a
call of the driver one request of its name.  The objects of type `context_guard` are the pairs of requests
`cuCtxPushCurrent` and `cuCtxPopCurrent`.
-/

namespace CmpUnlocker.Cupti

open Interaction

variable {ε : Type} (P : Platform)

def call (o : Op) : Routine ε o.Answer := Prog.request o

def load : Routine ε Collector := call .load

def store (f : Collector → Collector) : Routine ε Unit := call (.store f)

def loadDevice (d : Nat) : Routine ε DeviceState := do return (← load).device d

def loadBank (d b : Nat) : Routine ε MetricBank := do return (← load).bank d b

def storeDevice (d : Nat) (f : DeviceState → DeviceState) : Routine ε Unit := store (Collector.modifyDevice d f)

def storeBank (d b : Nat) (f : MetricBank → MetricBank) : Routine ε Unit := store (Collector.modifyBank d b f)

/-! ### Banks -/

/-- The ids of the metrics of a bank, or the name of the first one that is not available. -/
def bankIds (state : DeviceState) : List Metric → Except Metric (List Nat)
  | [] => .ok []
  | m :: ms =>
    match state.samples m with
    | none => .error m
    | some sample => if sample.available then (sample.id :: ·) <$> bankIds state ms else .error m

/-- The attribute loop of `prepare_bank`: the first failing result code, or success. -/
def profileAllInstances : List Nat → Routine ε Code
  | [] => return success
  | group :: groups => do
    let rc ← call (.setProfileAllDomainInstances group)
    if rc = success then profileAllInstances groups else return rc

def dropSets (d b : Nat) (error : String) : Routine ε Bool := do
  storeBank d b fun bank => { bank with error := error }
  let _ ← call (.eventGroupSetsDestroy d b)
  storeBank d b fun bank => { bank with sets := none }
  return false

def prepareSets (d b : Nat) (sets : EventGroupSets) : Routine ε Bool := do
  storeBank d b fun bank => { bank with sets := some sets, passCount := sets.numSets }
  if sets.numSets ≠ 1 then
    dropSets d b ("bank requires " ++ toString sets.numSets ++ " passes; expected one persistent pass")
  else do
    let rc ← profileAllInstances sets.eventGroups
    if rc ≠ success then
      dropSets d b ("profile all domain instances: " ++ cuptiError P rc)
    else do
      storeBank d b fun bank => { bank with available := true }
      storeDevice d fun state => (state.bank b).metricNames.foldl
        (fun state m => state.setSample m { state.sample m with passCount := (state.bank b).passCount }) state
      return true

def prepareBank (d b : Nat) : Routine ε Bool := do
  let state ← loadDevice d
  match bankIds state (state.bank b).metricNames with
  | .error m => do
    storeBank d b fun bank => { bank with error := "metric unavailable: " ++ m.name }
    return false
  | .ok ids => do
    let (rc, created) ← call (.metricCreateEventGroupSets d ids)
    match created with
    | some sets =>
      if rc = success then prepareSets P d b sets
      else do
        storeBank d b fun bank =>
          { bank with sets := none, error := "create persistent event groups: " ++ cuptiError P rc }
        return false
    | none => do
      storeBank d b fun bank =>
        { bank with sets := none, error := "create persistent event groups: " ++ cuptiError P rc }
      return false

def enableBank (d b : Nat) : Routine ε Bool := do
  let bank ← loadBank d b
  if !bank.available || bank.disabled || !bank.oneSet then return false
  else do
    let rc ← call (.eventGroupSetEnable d b)
    if rc ≠ success then do
      storeBank d b fun bank => { bank with error := "enable persistent event groups: " ++ cuptiError P rc }
      return false
    else do
      storeBank d b fun bank => { bank with enabled := true }
      let (rc, now) ← call .getTimestamp
      if rc ≠ success then do
        let _ ← call (.eventGroupSetDisable d b)
        storeBank d b fun bank =>
          { bank with enabled := false, error := "initial CUPTI timestamp: " ++ cuptiError P rc }
        return false
      else do
        storeBank d b fun bank => { bank with lastReadTimestampNs := now }
        return true

def disableBank (d b : Nat) : Routine ε Unit := do
  let bank ← loadBank d b
  if !bank.enabled || !bank.oneSet then return ()
  else do
    let rc ← call (.eventGroupSetDisable d b)
    .when (rc ≠ success ∧ bank.error.isEmpty)
      (storeBank d b fun bank => { bank with error := "disable persistent event groups: " ++ cuptiError P rc })
    storeBank d b fun bank => { bank with enabled := false, lastReadTimestampNs := 0 }

/-- The loop of `select_first_bank` over the banks from position `i` on. -/
def selectFrom (d : Nat) : List Nat → Routine ε Bool
  | [] => return false
  | i :: is => do
    if ← enableBank P d i then do
      storeDevice d fun state => { state with activeBankIndex := i }
      return true
    else selectFrom d is

def selectFirstBank (d : Nat) : Routine ε Bool := do
  let pushed ← call (.cuCtxPushCurrent d)
  if pushed ≠ success then do
    storeDevice d fun state =>
      { state with error := "push primary context for initial event set: " ++ cudaError P pushed }
    return false
  else do
    let state ← loadDevice d
    let selected ← selectFrom P d (List.range state.banks.length)
    .when (selected = false)
      (storeDevice d fun state => { state with error := "no requested persistent metric bank could be enabled" })
    let _ ← call .cuCtxPopCurrent
    return selected

end CmpUnlocker.Cupti
