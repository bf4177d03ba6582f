import Mathlib.Algebra.Group.Int.Defs
import Mathlib.Algebra.Group.Nat.Defs
import CmpUnlocker.Lib.Prog

/-!
# The CUPTI collector: data and requests

The data of `server-cupti.cpp`: metric samples, metric banks, devices, and the requests the collector makes to the
CUDA driver, to CUPTI and to its own memory.  `device_state & state` and `metric_bank & bank` are references into
`devices`; here they are the position `d` of the device and the position `b` of the bank.  A result code is a
number, `0` being `CUDA_SUCCESS` and `CUPTI_SUCCESS`; what a call writes through its out-parameters is the rest of
its answer.

The world of the collector adds to its memory the event-group sets that are enabled in hardware: a set is enabled
by a successful `cuptiEventGroupSetEnable`, disabled by a successful `cuptiEventGroupSetDisable`, and left alone by
a failing call.
-/

namespace CmpUnlocker.Cupti

open Interaction

/-- `CUptiResult` and `CUresult`. -/
abbrev Code : Type := Nat

/-- `CUDA_SUCCESS` and `CUPTI_SUCCESS`. -/
def success : Code := 0

/-- `CUPTI_ERROR_PARAMETER_SIZE_NOT_SUFFICIENT`. -/
def parameterSizeNotSufficient : Code := 10

/-- `k_metric_names`, in the order of the source. -/
inductive Metric
  | smEfficiency
  | achievedOccupancy
  | ipc
  | dramReadThroughput
  | dramWriteThroughput
  | dramUtilization
  | tensorPrecisionFuUtilization
  deriving DecidableEq, Repr

namespace Metric

def name : Metric → String
  | smEfficiency => "sm_efficiency"
  | achievedOccupancy => "achieved_occupancy"
  | ipc => "ipc"
  | dramReadThroughput => "dram_read_throughput"
  | dramWriteThroughput => "dram_write_throughput"
  | dramUtilization => "dram_utilization"
  | tensorPrecisionFuUtilization => "tensor_precision_fu_utilization"

/-- The first six names of `k_metric_names`. -/
def coreDram : List Metric :=
  [smEfficiency, achievedOccupancy, ipc, dramReadThroughput, dramWriteThroughput, dramUtilization]

/-- The seventh name of `k_metric_names`. -/
def tensor : List Metric := [tensorPrecisionFuUtilization]

def all : List Metric := coreDram ++ tensor

end Metric

/-- `CUpti_MetricValueKind`. -/
inductive ValueKind
  | double
  | uint64
  | percent
  | throughput
  | int64
  | utilizationLevel
  | forceInt
  deriving DecidableEq, Repr

structure MetricSample where
  id : Nat := 0
  kind : ValueKind := .forceInt
  available : Bool := false
  valid : Bool := false
  passCount : Nat := 0
  value : String := "null"
  error : String := ""
  sampledAtUnixMs : Int := 0
  windowNs : Nat := 0
  deriving Inhabited

/-- `CUpti_EventGroupSets`: the number of sets and the event groups of the first one. -/
structure EventGroupSets where
  numSets : Nat
  eventGroups : List Nat
  deriving DecidableEq, Repr

structure MetricBank where
  name : String := ""
  metricNames : List Metric := []
  sets : Option EventGroupSets := none
  available : Bool := false
  enabled : Bool := false
  disabled : Bool := false
  consecutiveFailures : Nat := 0
  passCount : Nat := 0
  lastReadTimestampNs : Nat := 0
  error : String := ""
  deriving Inhabited

/-- `bank.sets && bank.sets->numSets == 1`. -/
def MetricBank.oneSet (bank : MetricBank) : Bool :=
  match bank.sets with
  | some sets => sets.numSets == 1
  | none => false

structure DeviceState where
  ordinal : Nat := 0
  contextRetained : Bool := false
  ready : Bool := false
  name : String := ""
  pciBusId : String := ""
  error : String := ""
  eventDomains : Nat := 0
  metricCount : Nat := 0
  activeBankIndex : Nat := 0
  samples : Metric → Option MetricSample := fun _ => none
  banks : List MetricBank := []
  deriving Inhabited

/-- The members of `impl` that only the starting thread and then the worker write. -/
structure Collector where
  devices : List DeviceState := []
  detail : String := "initializing"

namespace DeviceState

def bank (state : DeviceState) (b : Nat) : MetricBank := state.banks.getD b default

def modifyBank (state : DeviceState) (b : Nat) (f : MetricBank → MetricBank) : DeviceState :=
  { state with banks := state.banks.modify b f }

/-- `state.samples[m]`, which default-constructs a missing sample. -/
def sample (state : DeviceState) (m : Metric) : MetricSample := (state.samples m).getD default

def setSample (state : DeviceState) (m : Metric) (sample : MetricSample) : DeviceState :=
  { state with samples := fun m' => if m' = m then some sample else state.samples m' }

end DeviceState

namespace Collector

def device (c : Collector) (d : Nat) : DeviceState := c.devices.getD d default

def bank (c : Collector) (d b : Nat) : MetricBank := (c.device d).bank b

def modifyDevice (d : Nat) (f : DeviceState → DeviceState) (c : Collector) : Collector :=
  { c with devices := c.devices.modify d f }

def modifyBank (d b : Nat) (f : MetricBank → MetricBank) (c : Collector) : Collector :=
  c.modifyDevice d fun state => state.modifyBank b f

end Collector

/-- What the collector takes from outside: the texts of result codes (`none` where the library has none), the
scaling of event counts in `long double` (`none` where the result exceeds 64 bits) and the text of a finite double. -/
structure Platform where
  cuptiText : Code → Option String
  cudaText : Code → Option String
  scaled : List Nat → Nat → Nat → Option Nat
  doubleText : Nat → Option String

def cuptiError (P : Platform) (rc : Code) : String := (P.cuptiText rc).getD s!"CUPTI error {rc}"

def cudaError (P : Platform) (rc : Code) : String := (P.cudaText rc).getD s!"CUDA error {rc}"

/-- The requests of the collector.  `d` is the position of a device in `devices`, `b` that of a bank in `banks`. -/
inductive Op
  | cuInit
  | cuDeviceGetCount
  | cuDeviceGet (d : Nat)
  | cuDeviceGetName (d : Nat)
  | cuDeviceGetPCIBusId (d : Nat)
  | cuDevicePrimaryCtxRetain (d : Nat)
  | cuCtxPushCurrent (d : Nat)
  | cuCtxPopCurrent
  | deviceGetNumEventDomains (d : Nat)
  | deviceGetNumMetrics (d : Nat)
  | setContinuousMode (d : Nat)
  | metricGetIdFromName (d : Nat) (m : Metric)
  | metricGetValueKind (id : Nat)
  | metricCreateEventGroupSets (d : Nat) (ids : List Nat)
  | eventGroupSetsDestroy (d b : Nat)
  | setProfileAllDomainInstances (group : Nat)
  | eventGroupSetEnable (d b : Nat)
  | eventGroupSetDisable (d b : Nat)
  | getTimestamp
  | eventGroupGetNumEvents (group : Nat)
  | eventGroupGetEvents (group count : Nat)
  | eventGroupGetInstanceCount (group : Nat)
  | eventGroupGetEventDomainId (group : Nat)
  | eventDomainGetTotalInstanceCount (d domain : Nat)
  | eventDomainGetInstanceCount (d domain : Nat)
  | eventGroupReadEvent (group event count : Nat)
  | metricGetNumEvents (id : Nat)
  | metricEnumEvents (id count : Nat)
  | metricGetValue (d id : Nat) (events values : List Nat) (durationNs : Nat)
  | unixTimeMs
  | writeReport (ready : Bool)
  | load
  | store (f : Collector → Collector)
  | requestRotate

/-- The answer to a request: a result code with the values of the out-parameters, the memory for `load`. -/
@[reducible] def Op.Answer : Op → Type
  | .cuInit | .cuDeviceGet _ | .cuDevicePrimaryCtxRetain _ | .cuCtxPushCurrent _ | .setContinuousMode _ => Code
  | .eventGroupSetsDestroy _ _ | .setProfileAllDomainInstances _ => Code
  | .eventGroupSetEnable _ _ | .eventGroupSetDisable _ _ => Code
  | .cuDeviceGetCount | .deviceGetNumEventDomains _ | .deviceGetNumMetrics _ | .metricGetIdFromName _ _ => Code × Nat
  | .getTimestamp | .eventGroupGetNumEvents _ | .eventGroupGetInstanceCount _ => Code × Nat
  | .eventGroupGetEventDomainId _ | .eventDomainGetTotalInstanceCount _ _ => Code × Nat
  | .eventDomainGetInstanceCount _ _ | .metricGetNumEvents _ | .metricGetValue _ _ _ _ _ => Code × Nat
  | .cuDeviceGetName _ | .cuDeviceGetPCIBusId _ => Code × String
  | .metricGetValueKind _ => Code × ValueKind
  | .metricCreateEventGroupSets _ _ => Code × Option EventGroupSets
  | .eventGroupGetEvents _ _ | .eventGroupReadEvent _ _ _ | .metricEnumEvents _ _ => Code × List Nat
  | .unixTimeMs => Int
  | .load => Collector
  | .cuCtxPopCurrent | .writeReport _ | .store _ | .requestRotate => Unit

/-- The code of the collector outside the request hooks; `ε` is the type of the failures of a helper. -/
abbrev Routine (ε α : Type) : Type := Prog Op Op.Answer ε α

/-- The memory of the collector and the event-group sets enabled in hardware, by device and bank. -/
structure World where
  mem : Collector := {}
  hw : Nat → Nat → Bool := fun _ _ => false

namespace World

def setHw (w : World) (d b : Nat) (on : Bool) : World :=
  { w with hw := fun d' b' => if d' = d ∧ b' = b then on else w.hw d' b' }

end World

/-- Any result code and any output may be returned; memory and hardware change only as the request says. -/
def env : Env Op Op.Answer World
  | w, .load, c, w' => c = w.mem ∧ w' = w
  | w, .store f, _, w' => w' = { w with mem := f w.mem }
  | w, .eventGroupSetEnable d b, rc, w' => w' = if rc = success then w.setHw d b true else w
  | w, .eventGroupSetDisable d b, rc, w' => w' = if rc = success then w.setHw d b false else w
  | w, _, _, w' => w' = w

end CmpUnlocker.Cupti
