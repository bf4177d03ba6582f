import Mathlib.Data.List.Sort
import Mathlib.Logic.Function.Basic
import CmpUnlocker.Lib.CText
import CmpUnlocker.Lib.Json

/-!
# The CUPTI report in gpumon

`cupti_update` of `gpumon_v3_llama.c` reads the report of the collector and gives the samples of its devices to the GPUs
that NVML lists.  The GPU of a report device is found by its PCI bus ID, by its CUDA ordinal if the CUDA
devices are known to be in the order of their PCI addresses, or by there being only one.
-/

namespace CmpUnlocker.Gpumon

open CText

/-! ### Data -/

/-- The metrics of `CuptiStats`, in the order of `refs`. -/
inductive Slot
  | sm
  | occ
  | ipc
  | dramRead
  | dramWrite
  | dramLevel
  | tensor
  deriving DecidableEq, Repr

namespace Slot

/-- The name in the report. -/
def name : Slot → List Char
  | sm => "sm_efficiency".toList
  | occ => "achieved_occupancy".toList
  | ipc => "ipc".toList
  | dramRead => "dram_read_throughput".toList
  | dramWrite => "dram_write_throughput".toList
  | dramLevel => "dram_utilization".toList
  | tensor => "tensor_precision_fu_utilization".toList

/-- `refs` -/
def all : List Slot := [sm, occ, ipc, dramRead, dramWrite, dramLevel, tensor]

end Slot

structure CuptiMetric (ν : Type) where
  available : Bool := false
  valid : Bool := false
  enabled : Bool := false
  disabled : Bool := false
  simultaneous : Bool := false
  value : ν
  sampledAtUnixMs : ℤ := 0
  windowNs : ℤ := 0
  bank : List Char := []
  valueKind : List Char := []
  unit : List Char := []

structure CuptiStats (ν : Type) where
  present : Bool := false
  valid : Bool := false
  ready : Bool := false
  eventDomains : ℤ := 0
  metricsAvailable : ℤ := 0
  schemaVersion : ℤ := 0
  activeRequests : ℤ := 0
  samplePeriodMs : ℤ := 0
  metrics : Slot → CuptiMetric ν
  mode : List Char := []
  activeBank : List Char := []
  pciBusId : List Char := []
  mappingSource : List Char := []
  detail : List Char := []

/-- What `memset` leaves. -/
def CuptiStats.zero (ν : Type) [Zero ν] : CuptiStats ν := { metrics := fun _ => { value := 0 } }

/-- The part of `GpuStats` that is needed to find a GPU. -/
structure GpuStats where
  pciBusId : List Char

/-- What json-c makes of a value of any type; `getString` is what `%s` prints of it. -/
structure JsonC (ν : Type) where
  getBoolean : Json ν → Bool
  getInt : Json ν → ℤ
  getInt64 : Json ν → ℤ
  getDouble : Json ν → ν
  getString : Json ν → List Char
  getBoolean_bool : ∀ b, getBoolean (.bool b) = b
  getInt_int : ∀ n, -2 ^ 31 ≤ n → n < 2 ^ 31 → getInt (.int n) = n
  getInt64_int : ∀ n, -2 ^ 63 ≤ n → n < 2 ^ 63 → getInt64 (.int n) = n
  getString_string : ∀ text, getString (.string text) = text.takeWhile (· != '\x00')

/-- The environment of gpumon, those of other processes, and the files: `some none` is a file without JSON in it. -/
structure Host (ν : Type) where
  getenv : List Char → Option (List Char)
  environ : ℤ → Option (List (List Char))
  file : List Char → Option (Option (Json ν))

/-- `value && *value` -/
def nonempty (value : Option (List Char)) : Option (List Char) := value.filter fun text => !text.isEmpty

/-! ### PCI addresses -/

structure PciAddress where
  domain : Fin (2 ^ 32)
  bus : Fin 256
  device : Fin 32
  function : Fin 8
  deriving DecidableEq

/-- `parse_pci_bus_id` -/
def parsePciBusId (text : List Char) : Option PciAddress := do
  let (domain, text) ← scanHex text
  let text ← scanChar ':' text
  let (bus, text) ← scanHex text
  let text ← scanChar ':' text
  let (device, text) ← scanHex text
  let text ← scanChar '.' text
  let (function, text) ← scanHex text
  if h : text = [] ∧ bus.val ≤ 0xff ∧ device.val ≤ 0x1f ∧ function.val ≤ 7 then
    some ⟨domain, ⟨bus, by omega⟩, ⟨device, by omega⟩, ⟨function, by omega⟩⟩
  else none

def GpuStats.address (g : GpuStats) : Option PciAddress := parsePciBusId g.pciBusId

/-- The loop of `nvml_index_for_pci_bus_id` from the GPU `i` on. -/
def nvmlIndexFrom (address : PciAddress) (i : ℕ) (found : Option ℕ) : List GpuStats → Option ℕ
  | [] => found
  | g :: gpu =>
    if g.address = some address then (if found.isSome then none else nvmlIndexFrom address (i + 1) (some i) gpu)
    else nvmlIndexFrom address (i + 1) found gpu

def nvmlIndexForPciBusId (gpu : List GpuStats) (pciBusId : List Char) : Option ℕ :=
  (parsePciBusId pciBusId).bind fun address => nvmlIndexFrom address 0 none gpu

/-- `gpu_pci_compare` finds the left address not behind the right one. -/
def PciAddress.le (a b : PciAddress) : Prop :=
  a.domain < b.domain ∨ a.domain = b.domain ∧
    (a.bus < b.bus ∨ a.bus = b.bus ∧ (a.device < b.device ∨ a.device = b.device ∧ a.function ≤ b.function))

instance (a b : PciAddress) : Decidable (a.le b) := inferInstanceAs (Decidable (_ ∨ _))

/-! ### CUDA ordinals -/

/-- `process_env_value` -/
def processEnvValue {ν : Type} (host : Host ν) (pid : ℤ) (name : List Char) (size : ℕ) : Option (List Char) :=
  if pid ≤ 0 ∨ name = [] ∨ size = 0 then none
  else (host.environ pid).bind fun entries =>
    (entries.findSome? (Text.dropPrefix (name ++ ['=']))).map (snprintf size)

/-- The loop over the tokens of the visible devices; `first` is a token that begins the text. -/
def visibleMap (gpuCount capacity : ℕ) (pciOrder : List ℕ) (first : Bool) (map : List ℕ) :
    List (List Char) → List ℕ
  | [] => map
  | token :: tokens =>
    if capacity ≤ map.length then []
    else match strtol token with
      | some physical =>
        if physical < 0 ∨ (gpuCount : ℤ) ≤ physical then []
        else
          let index := pciOrder.getD physical.toNat 0
          -- an index that is there already empties the map
          let map := if index ∈ map then [] else map
          if map = [] ∧ ¬first then [] else visibleMap gpuCount capacity pciOrder false (map ++ [index]) tokens
      | none => []

/-- The order of the GPUs by their addresses. -/
def pciOrder (addresses : List PciAddress) : List ℕ :=
  (addresses.zipIdx.insertionSort fun a b => a.1.le b.1).map Prod.snd

def maxGpus : ℕ := 16

/-- `cuda_visible_ordinal_map`: the GPU of each ordinal, no GPU where the order is not known. -/
def cudaVisibleOrdinalMap {ν : Type} (host : Host ν) (llamaPid : ℤ) (gpu : List GpuStats) (capacity : ℕ) : List ℕ :=
  if gpu = [] ∨ capacity = 0 ∨ maxGpus < gpu.length then []
  else
    let visible := match nonempty (host.getenv "GPUMON_CUDA_VISIBLE_DEVICES".toList) with
      | some override => snprintf 256 override
      | none => (processEnvValue host llamaPid "CUDA_VISIBLE_DEVICES".toList 256).getD []
    let order := match nonempty (host.getenv "GPUMON_CUDA_DEVICE_ORDER".toList) with
      | some override => some (snprintf 64 override)
      | none => processEnvValue host llamaPid "CUDA_DEVICE_ORDER".toList 64
    if order ≠ some "PCI_BUS_ID".toList then []
    else match gpu.mapM GpuStats.address with
      | none => []
      | some addresses =>
        if visible = [] then (if capacity < gpu.length then [] else pciOrder addresses)
        else visibleMap gpu.length capacity (pciOrder addresses) (visible.head? ≠ some ',') [] (strtok ',' visible)

/-! ### Samples -/

variable {ν : Type} (J : JsonC ν)

/-- `json_object_object_get_ex` with the assignment behind it. -/
def whenMember {α : Type} (object : Json ν) (key : String) (assign : Json ν → α → α) (a : α) : α :=
  match object.member key.toList with
  | some v => assign v a
  | none => a

/-- `cupti_metric_update` -/
def cuptiMetricUpdate (sample : Json ν) (metric : CuptiMetric ν) : CuptiMetric ν :=
  if !sample.isObject then metric
  else
    let metric := whenMember sample "available" (fun v m => { m with available := J.getBoolean v }) metric
    let metric := whenMember sample "valid" (fun v m => { m with valid := J.getBoolean v }) metric
    let metric := whenMember sample "enabled" (fun v m => { m with enabled := J.getBoolean v }) metric
    let metric := whenMember sample "disabled" (fun v m => { m with disabled := J.getBoolean v }) metric
    let metric := whenMember sample "simultaneous_with_other_metrics"
      (fun v m => { m with simultaneous := J.getBoolean v }) metric
    let metric := whenMember sample "bank" (fun v m => { m with bank := snprintf 32 (J.getString v) }) metric
    let metric := whenMember sample "value_kind" (fun v m => { m with valueKind := snprintf 32 (J.getString v) }) metric
    let metric := whenMember sample "unit" (fun v m => { m with unit := snprintf 32 (J.getString v) }) metric
    let metric := whenMember sample "sampled_at_unix_ms" (fun v m => { m with sampledAtUnixMs := J.getInt64 v }) metric
    let metric := whenMember sample "window_ns" (fun v m => { m with windowNs := J.getInt64 v }) metric
    if metric.valid then whenMember sample "value" (fun v m => { m with value := J.getDouble v }) metric else metric

def CuptiStats.setMetric (c : CuptiStats ν) (slot : Slot) (metric : CuptiMetric ν) : CuptiStats ν :=
  { c with metrics := Function.update c.metrics slot metric }

/-- `cupti_samples_update` -/
def cuptiSamplesUpdate (samples : Json ν) (c : CuptiStats ν) : CuptiStats ν :=
  if !samples.isObject then c
  else Slot.all.foldl (fun c slot => match samples.member slot.name with
    | some sample => c.setMetric slot (cuptiMetricUpdate J sample (c.metrics slot))
    | none => c) c

/-! ### The report -/

/-- The bus ID of a report device, empty where it is missing or not a string. -/
def busIdText (device : Json ν) : List Char :=
  match device.member "pci_bus_id".toList with
  | some (.string text) => J.getString (.string text)
  | _ => []

/-- The CUDA ordinal of the report device `i`. -/
def ordinalOf (i : ℕ) (device : Json ν) : ℤ :=
  match device.member "ordinal".toList with
  | some v => J.getInt v
  | none => toInt i

/-- The GPU of the report device `i`, and `mapping_source`. -/
def placement (gpu : List GpuStats) (ordinalMap : List ℕ) (count i : ℕ) (device : Json ν) : Option (ℕ × List Char) :=
  let pciBusId := busIdText J device
  let byBusId := (nvmlIndexForPciBusId gpu pciBusId).map fun index => (index, "pci_bus_id".toList)
  let ordinal := ordinalOf J i device
  let byOrdinal :=
    if pciBusId = [] ∧ (ordinalMap.length : ℤ) = toInt count ∧ 0 ≤ ordinal ∧ ordinal < ordinalMap.length then
      ordinalMap[ordinal.toNat]?.map fun index => (index, "cuda_visible_devices".toList)
    else none
  let single := if gpu.length = 1 ∧ count = 1 ∧ pciBusId = [] then some (0, "single_device".toList) else none
  ((byBusId.or byOrdinal).or single).filter fun found => found.1 < gpu.length

/-- What a report device writes to the entry of its GPU. -/
def contribute (g : GpuStats) (mappingSource : List Char) (device : Json ν) (c : CuptiStats ν) : CuptiStats ν :=
  let pciBusId := busIdText J device
  let c := { c with
    valid := true
    pciBusId := snprintf 32 (if pciBusId = [] then g.pciBusId else pciBusId)
    mappingSource := snprintf 32 mappingSource }
  let c := whenMember device "ready" (fun v c => { c with ready := J.getBoolean v }) c
  let c := whenMember device "event_domains" (fun v c => { c with eventDomains := J.getInt v }) c
  let c := whenMember device "metrics" (fun v c => { c with metricsAvailable := J.getInt v }) c
  let c := whenMember device "active_bank" (fun v c => { c with activeBank := snprintf 32 (J.getString v) }) c
  whenMember device "samples" (cuptiSamplesUpdate J) c

/-- One pass of the device loop. -/
def deviceStep (gpu : List GpuStats) (ordinalMap : List ℕ) (count i : ℕ) (device : Json ν)
    (c : List (CuptiStats ν)) : List (CuptiStats ν) :=
  if !device.isObject then c
  else match placement J gpu ordinalMap count i device with
    | some (index, source) => c.modify index (contribute J (gpu.getD index ⟨[]⟩) source device)
    | none => c

/-- The device loop from the device `i` on. -/
def deviceLoop (gpu : List GpuStats) (ordinalMap : List ℕ) (count i : ℕ) :
    List (Json ν) → List (CuptiStats ν) → List (CuptiStats ν)
  | [], c => c
  | device :: devices, c =>
    deviceLoop gpu ordinalMap count (i + 1) devices (deviceStep J gpu ordinalMap count i device c)

def intMember (object : Json ν) (key : String) : ℤ := whenMember object key (fun v _ => J.getInt v) 0

def stringMember (object : Json ν) (key : String) : List Char := whenMember object key (fun v _ => J.getString v) []

/-- What every GPU gets of the report. -/
def header (root : Json ν) (c : CuptiStats ν) : CuptiStats ν :=
  let metrics := intMember J root "metrics_available"
  { c with
    present := true
    schemaVersion := intMember J root "schema_version"
    activeRequests := intMember J root "active_requests"
    samplePeriodMs := whenMember root "rotation" (fun rotation _ => intMember J rotation "sample_period_ms") 0
    ready := whenMember root "ready" (fun v _ => J.getBoolean v) false
    eventDomains := intMember J root "event_domains"
    metricsAvailable := if metrics = 0 then whenMember root "metrics" (fun v _ => J.getInt v) metrics else metrics
    mode := snprintf 48 (stringMember J root "collector_mode")
    detail := snprintf 160 (stringMember J root "detail") }

/-- The devices of a report. -/
def devicesOf (root : Json ν) : List (Json ν) :=
  match root.member "devices".toList with
  | some (.array devices) => devices
  | _ => []

def reportPath (host : Host ν) : List Char :=
  (nonempty (host.getenv "GPUMON_CUPTI_REPORT_PATH".toList)).getD "/run/llama-cupti.json".toList

/-- The host when its report is this one. -/
def Host.withReport (host : Host ν) (root : Json ν) : Host ν :=
  { host with file := fun path => if path = reportPath host then some (some root) else host.file path }

/-- `cupti_update` -/
def cuptiUpdate [Zero ν] (host : Host ν) (gpu : List GpuStats) (llamaPid : ℤ) : List (CuptiStats ν) :=
  let zeroed := gpu.map fun _ => CuptiStats.zero ν
  match host.file (reportPath host) with
  | none => zeroed
  | some none => zeroed.map fun c => { c with present := true }
  | some (some root) =>
    let c := zeroed.map (header J root)
    if intMember J root "schema_version" ≠ 3 then c
    else deviceLoop J gpu (cudaVisibleOrdinalMap host llamaPid gpu maxGpus) (devicesOf root).length 0 (devicesOf root) c

end CmpUnlocker.Gpumon
