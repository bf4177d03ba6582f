import CmpUnlocker.Cupti.Bank

/-!
# Reading, sampling, rotating, initializing

`read_bank` and what it calls, the device loop of `rotate_at_idle_boundary`, the sampling loop of `run`, and
`initialize`.  A helper that fails with the text of `read_error` is a routine with `ε = String`.
-/

namespace CmpUnlocker.Cupti

open Interaction

variable {ε : Type} (P : Platform)

/-! ### Reading a bank -/

/-- `CUPTI_EVENT_OVERFLOW` and `CUPTI_EVENT_INVALID`. -/
def invalidEventValue (value : Nat) : Bool := value == 0xffffffffffffffff || value == 0xfffffffffffffffe

/-- The total instance count, with the fallbacks for old libraries. -/
def totalInstanceCount (d domain instanceCount : Nat) : Routine ε Nat := do
  let (rc, total) ← call (.eventDomainGetTotalInstanceCount d domain)
  if rc ≠ success || total == 0 then do
    let (rc, total) ← call (.eventDomainGetInstanceCount d domain)
    if rc ≠ success || total == 0 then return instanceCount else return total
  else return total

def normalizedEventValue (d group event : Nat) : Routine String Nat := do
  let (rc, instanceCount) ← call (.eventGroupGetInstanceCount group)
  if rc ≠ success || instanceCount == 0 then throw ("instance count: " ++ cuptiError P rc)
  else do
    let (rc, domain) ← call (.eventGroupGetEventDomainId group)
    if rc ≠ success then throw ("event domain: " ++ cuptiError P rc)
    else do
      let total ← totalInstanceCount d domain instanceCount
      let (rc, values) ← call (.eventGroupReadEvent group event instanceCount)
      if rc ≠ success then throw ("event read: " ++ cuptiError P rc)
      else if values.any invalidEventValue then throw "event counter overflow or invalid value"
      else match P.scaled values total instanceCount with
        | none => throw "normalized event counter overflow"
        | some normalized => return normalized

/-- `deltas_by_id`, the newest entry first, with `any_nonzero`. -/
structure Deltas where
  byId : List (Nat × Nat) := []
  anyNonzero : Bool := false

def Deltas.insert (deltas : Deltas) (event value : Nat) : Deltas :=
  { byId := (event, value) :: deltas.byId, anyNonzero := deltas.anyNonzero || value != 0 }

def readEvents (d group : Nat) : List Nat → Deltas → Routine String Deltas
  | [], deltas => return deltas
  | event :: events, deltas => do
    let value ← normalizedEventValue P d group event
    readEvents d group events (deltas.insert event value)

def readGroups (d : Nat) : List Nat → Deltas → Routine String Deltas
  | [], deltas => return deltas
  | group :: groups, deltas => do
    let (rc, count) ← call (.eventGroupGetNumEvents group)
    if rc ≠ success then throw ("event count: " ++ cuptiError P rc)
    else do
      let (rc, events) ← call (.eventGroupGetEvents group count)
      if rc ≠ success then throw ("event enumeration: " ++ cuptiError P rc)
      else do
        let deltas ← readEvents P d group events deltas
        readGroups d groups deltas

def signed64 (bits : Nat) : Int := if bits < 2 ^ 63 then bits else (bits : Int) - 2 ^ 64

/-- `metric_value_json`, on the 64 bits of the `CUpti_MetricValue`. -/
def metricValueJson (kind : ValueKind) (bits : Nat) : String :=
  match kind with
  | .double | .percent => (P.doubleText bits).getD "null"
  | .uint64 | .throughput => toString bits
  | .int64 => toString (signed64 bits)
  | .utilizationLevel => toString (signed64 (bits % 2 ^ 32))
  | .forceInt => "null"

def missingEvent : String := "required event was not returned by its metric bank"

/-- The event ids a metric needs and their values; a failing result code with the error text set before it. -/
def metricInputs (sample : MetricSample) (deltas : Deltas) : Routine (Code × String) (List Nat × List Nat) := do
  let (rc, required) ← call (.metricGetNumEvents sample.id)
  if rc ≠ success then throw (rc, "")
  else do
    let (rc, events) ← call (.metricEnumEvents sample.id required)
    if rc ≠ success then throw (rc, "")
    else match events.mapM fun event => deltas.byId.lookup event with
      | none => throw (parameterSizeNotSufficient, missingEvent)
      | some values => return (events, values)

def evaluateMetric (d : Nat) (sample : MetricSample) (deltas : Deltas) (durationNs : Nat) :
    Routine (Code × String) MetricSample := do
  let (events, values) ← metricInputs sample deltas
  let (rc, bits) ← call (.metricGetValue d sample.id events values durationNs)
  if rc ≠ success then throw (rc, "")
  else do
    let now ← call .unixTimeMs
    let value := metricValueJson P sample.kind bits
    return { sample with
      value := value, valid := value != "null", windowNs := durationNs, sampledAtUnixMs := now, error := "" }

/-- One pass of the metric loop of `read_bank`: whether the metric was evaluated. -/
def publishMetric (d : Nat) (m : Metric) (deltas : Deltas) (durationNs : Nat) : Routine ε Bool := do
  let state ← loadDevice d
  let sample :=
    { state.sample m with valid := false, value := "null", windowNs := 0, sampledAtUnixMs := 0, error := "" }
  storeDevice d fun state => state.setSample m sample
  match ← (evaluateMetric P d sample deltas durationNs).attempt with
  | .ok sample => do
    storeDevice d fun state => state.setSample m sample
    return true
  | .error (rc, error) => do
    let error := if error.isEmpty then "metric evaluation: " ++ cuptiError P rc else error
    storeDevice d fun state => state.setSample m { sample with error := error }
    return false

def publishMetrics (d : Nat) (deltas : Deltas) (durationNs : Nat) : List Metric → Routine ε Nat
  | [] => return 0
  | m :: ms => do
    let ok ← publishMetric P d m deltas durationNs
    let rest ← publishMetrics d deltas durationNs ms
    return (if ok then rest + 1 else rest)

/-- `read_bank` with the context pushed and the interval known. -/
def readInterval (d b : Nat) (bank : MetricBank) (endedNs : Nat) (publishEmpty : Bool) : Routine ε Nat := do
  let read ← (readGroups P d ((bank.sets.map (·.eventGroups)).getD []) {}).attempt
  storeBank d b fun bank => { bank with lastReadTimestampNs := endedNs }
  match read with
  | .error readError => do
    storeBank d b fun bank => { bank with error := readError }
    storeDevice d fun state => bank.metricNames.foldl
      (fun state m =>
        state.setSample m { state.sample m with valid := false, value := "null", error := readError }) state
    return 0
  | .ok deltas =>
    if !publishEmpty && !deltas.anyNonzero then return 0
    else do
      let successful ← publishMetrics P d deltas (endedNs - bank.lastReadTimestampNs) bank.metricNames
      storeBank d b fun bank => { bank with error := "" }
      return successful

/-- `read_bank` with the context pushed. -/
def readPushed (d b : Nat) (bank : MetricBank) (publishEmpty : Bool) : Routine ε Nat := do
  let (rc, endedNs) ← call .getTimestamp
  if rc ≠ success || endedNs ≤ bank.lastReadTimestampNs then do
    storeBank d b fun bank => { bank with error := "CUPTI timestamp: " ++ cuptiError P rc }
    return 0
  else readInterval P d b bank endedNs publishEmpty

def readBank (d b : Nat) (publishEmpty : Bool) : Routine ε Nat := do
  let bank ← loadBank d b
  if !bank.enabled || !bank.oneSet then do
    storeBank d b fun bank => { bank with error := "metric bank is not enabled" }
    return 0
  else do
    let pushed ← call (.cuCtxPushCurrent d)
    if pushed ≠ success then do
      storeBank d b fun bank => { bank with error := "push context: " ++ cudaError P pushed }
      return 0
    else do
      let successful ← readPushed P d b bank publishEmpty
      let _ ← call .cuCtxPopCurrent
      return successful

/-! ### Rotating at an idle boundary -/

/-- The candidate loop: the positions to try, in order; a candidate that fails to enable is disabled for good. -/
def selectCandidate (d : Nat) : List Nat → Routine ε Bool
  | [] => return false
  | i :: is => do
    let candidate ← loadBank d i
    if !candidate.available || candidate.disabled then selectCandidate d is
    else if ← enableBank P d i then do
      storeDevice d fun state => { state with activeBankIndex := i }
      return true
    else do
      storeBank d i fun bank => { bank with disabled := true }
      selectCandidate d is

/-- `(active_bank_index + offset) % banks.size()` for `offset` from 1 to `banks.size()`. -/
def candidates (active size : Nat) : List Nat := (List.range size).map fun i => (active + (i + 1)) % size

/-- The switch of one device, with its context pushed. -/
def switchBank (d : Nat) : Routine ε Bool := do
  let state ← loadDevice d
  disableBank P d state.activeBankIndex
  let selected ← selectCandidate P d (candidates state.activeBankIndex state.banks.length)
  .when (selected = false)
    (storeDevice d fun state => { state with ready := false, error := "all persistent metric sets are disabled" })
  return selected

/-- The loop body of `rotate_at_idle_boundary`: whether the device was rotated. -/
def rotateDevice (d : Nat) : Routine ε Bool := do
  let state ← loadDevice d
  if !state.ready || state.banks.isEmpty then return false
  else do
    let current := state.bank state.activeBankIndex
    -- one final read accounts for the tail of the request
    .when (current.enabled && !current.disabled) (do let _ ← readBank P d state.activeBankIndex false; return ())
    let pushed ← call (.cuCtxPushCurrent d)
    if pushed ≠ success then do
      storeDevice d fun state => { state with error := "push context for idle rotation: " ++ cudaError P pushed }
      return false
    else do
      let selected ← switchBank P d
      let _ ← call .cuCtxPopCurrent
      return selected

def rotateDevices : List Nat → Routine ε Bool
  | [] => return false
  | d :: ds => do
    let rotated ← rotateDevice P d
    let rest ← rotateDevices ds
    return (rotated || rest)

/-- `rotate_at_idle_boundary` behind its gate, up to the notification. -/
def rotate : Routine ε Unit := do
  let c ← load
  let rotated ← rotateDevices P (List.range c.devices.length)
  let detail :=
    if rotated then "persistent CUPTI metric set rotated at idle request boundary"
    else "no persistent CUPTI metric set remains eligible"
  store fun c => { c with detail := detail }

/-! ### Sampling during a request -/

/-- The failure branch of the sampling loop.  The third failure in a row disables the bank, asks for a rotation and
leaves the group enabled until the request ends. -/
def countFailure (d b : Nat) : Routine ε Unit := do
  storeBank d b fun bank => { bank with consecutiveFailures := bank.consecutiveFailures + 1 }
  let bank ← loadBank d b
  if 3 ≤ bank.consecutiveFailures then do
    storeBank d b fun bank =>
      { bank with disabled := true, error := "disabled after 3 consecutive CUPTI failures: " ++ bank.error }
    call .requestRotate
  else return ()

/-- What the sampling loop does with the count of `read_bank`. -/
def countResult (d b successful : Nat) : Routine ε Unit :=
  if successful ≠ 0 then storeBank d b fun bank => { bank with consecutiveFailures := 0 }
  else countFailure d b

def sampleDevice (d : Nat) : Routine ε Nat := do
  let state ← loadDevice d
  if !state.ready || state.banks.isEmpty then return 0
  else do
    let b := state.activeBankIndex
    let bank := state.bank b
    if !bank.enabled || bank.disabled then return 0
    else do
      let successful ← readBank P d b true
      countResult d b successful
      return successful

def sampleDevices : List Nat → Routine ε Nat
  | [] => return 0
  | d :: ds => do
    let successful ← sampleDevice P d
    let rest ← sampleDevices ds
    return (successful + rest)

/-- The branch of `run` taken while a request is active. -/
def sample : Routine ε Unit := do
  let c ← load
  let successful ← sampleDevices P (List.range c.devices.length)
  let detail :=
    if successful ≠ 0 then "sampling the enabled persistent CUPTI set; no group mutation during active requests"
    else "active request has no successful CUPTI sample in this interval"
  store fun c => { c with detail := detail }

def anyReady (c : Collector) : Bool := c.devices.any (·.ready)

/-- The end of every iteration of `run`. -/
def report : Routine ε Unit := do
  let c ← load
  call (.writeReport (anyReady c))

/-- What `run` writes behind its loop. -/
def lastReport : Routine ε Unit := call (.writeReport false)

/-! ### Initialization -/

def lookupMetric (d : Nat) (m : Metric) : Routine ε Unit := do
  let (rc, id) ← call (.metricGetIdFromName d m)
  if rc ≠ success then
    storeDevice d fun state => state.setSample m { id := id, error := "metric lookup: " ++ cuptiError P rc }
  else do
    let (rc, kind) ← call (.metricGetValueKind id)
    if rc ≠ success then
      storeDevice d
        fun state => state.setSample m { id := id, kind := kind, error := "value kind: " ++ cuptiError P rc }
    else
      storeDevice d fun state => state.setSample m { id := id, kind := kind, available := true }

/-- The block of `initialize` with the context pushed: metrics, then the two banks.  Fails with the device error. -/
def prepareDevice (d : Nat) : Routine String Unit := do
  let pushed ← call (.cuCtxPushCurrent d)
  if pushed ≠ success then throw ("push primary context: " ++ cudaError P pushed)
  else do
    let rc ← call (.setContinuousMode d)
    if rc ≠ success then do
      let _ ← call .cuCtxPopCurrent
      throw ("continuous collection mode: " ++ cuptiError P rc)
    else do
      Prog.forEach (lookupMetric P d) Metric.all
      storeDevice d fun state => { state with banks :=
        [{ name := "core_dram", metricNames := Metric.coreDram }, { name := "tensor", metricNames := Metric.tensor }] }
      let state ← loadDevice d
      Prog.forEach (fun b => do let _ ← prepareBank P d b; return ()) (List.range state.banks.length)
      let _ ← call .cuCtxPopCurrent
      return ()

def storePciBusId (d : Nat) (rc : Code) (pciBusId : String) : Routine ε Unit :=
  if rc = success then storeDevice d fun state => { state with pciBusId := pciBusId }
  else storeDevice d fun state => { state with error := "cuDeviceGetPCIBusId: " ++ cudaError P rc }

/-- The discovery steps of `initialize` before the context is pushed.  Fails with the device error. -/
def discoverDevice (d : Nat) : Routine String Unit := do
  let rc ← call (.cuDeviceGet d)
  if rc ≠ success then throw ("cuDeviceGet: " ++ cudaError P rc)
  else do
    let (rc, name) ← call (.cuDeviceGetName d)
    .when (rc = success) (storeDevice d fun state => { state with name := name })
    let (rc, pciBusId) ← call (.cuDeviceGetPCIBusId d)
    storePciBusId P d rc pciBusId
    let (rc, domains) ← call (.deviceGetNumEventDomains d)
    storeDevice d fun state => { state with eventDomains := domains }
    if rc ≠ success then throw ("event domain discovery: " ++ cuptiError P rc)
    else do
      let (rc, metrics) ← call (.deviceGetNumMetrics d)
      storeDevice d fun state => { state with metricCount := metrics }
      if rc ≠ success then throw ("metric discovery: " ++ cuptiError P rc)
      else do
        let rc ← call (.cuDevicePrimaryCtxRetain d)
        if rc ≠ success then throw ("retain primary context: " ++ cudaError P rc)
        else storeDevice d fun state => { state with contextRetained := true }

/-- One pass of the device loop of `initialize`.  The local `state` is the last element of `devices` from the
start, where the source appends it at each of the exits of the pass. -/
def initializeDevice (d : Nat) : Routine ε Unit := do
  store fun c => { c with devices := c.devices ++ [{ ordinal := d }] }
  match ← (do discoverDevice P d; prepareDevice P d : Routine String Unit).attempt with
  | .error error => storeDevice d fun state => { state with error := error }
  | .ok () => do
    let ready ← selectFirstBank P d
    storeDevice d fun state => { state with ready := ready }

/-- An early exit of `initialize`. -/
def initializeFailed (detail : String) : Routine ε Bool := do
  store fun c => { c with detail := detail }
  call (.writeReport false)
  return false

def initializeImpl : Routine ε Bool := do
  let rc ← call .cuInit
  if rc ≠ success then initializeFailed ("CUDA initialization failed: " ++ cudaError P rc)
  else do
    let (rc, count) ← call .cuDeviceGetCount
    if rc ≠ success then initializeFailed ("CUDA device enumeration failed: " ++ cudaError P rc)
    else if count = 0 then initializeFailed "no CUDA devices"
    else do
      Prog.forEach (initializeDevice P) (List.range count)
      let c ← load
      let detail :=
        if anyReady c then "legacy CUPTI persistent collector ready; event sets rotate only at idle request boundaries"
        else "no CUDA device accepted legacy CUPTI event collection"
      store fun c => { c with detail := detail }
      call (.writeReport (anyReady c))
      return anyReady c

end CmpUnlocker.Cupti
