import CmpUnlocker.Cupti.Tidy
import CmpUnlocker.Lib.Json

/-!
# Writing the report

`write_samples` and `write_report` of `server-cupti.cpp`, by the JSON value that the text denotes; `json_escape` and the
layout of the text are left out.  The texts of the collector are C strings, in UTF-8.
-/

namespace CmpUnlocker.Cupti

def valueKindName : ValueKind → String
  | .double => "double"
  | .uint64 => "uint64"
  | .percent => "percent"
  | .throughput => "throughput"
  | .int64 => "int64"
  | .utilizationLevel => "utilization_level"
  | .forceInt => "unknown"

def valueUnit : ValueKind → String
  | .percent => "percent"
  | .throughput => "bytes_per_second"
  | .utilizationLevel => "level_0_10"
  | _ => "scalar"

section

variable {ν : Type}

def text (s : String) : Json ν := .string s.toList

/-- An object with these members. -/
def fields (members : List (String × Json ν)) : Json ν := .object (members.map fun m => (m.1.toList, m.2))

/-- The bank that a metric belongs to. -/
def DeviceState.bankOf (state : DeviceState) (m : Metric) : Option MetricBank :=
  state.banks.find? fun bank => m ∈ bank.metricNames

/-- The keys of `samples` in the order of a `std::map`. -/
def Metric.sorted : List Metric :=
  [achievedOccupancy, dramReadThroughput, dramUtilization, dramWriteThroughput, ipc, smEfficiency,
    tensorPrecisionFuUtilization]

/-- One entry of `write_samples`; `number` is what the text of a value denotes. -/
def writeSample (number : String → Json ν) (bank : Option MetricBank) (sample : MetricSample) : Json ν :=
  fields
    [("available", .bool sample.available),
      ("valid", .bool sample.valid),
      ("enabled", .bool (bank.any (·.enabled))),
      ("disabled", .bool (bank.any (·.disabled))),
      ("bank", text ((bank.map (·.name)).getD "")),
      ("consecutive_failures", .int ((bank.map (·.consecutiveFailures)).getD 0)),
      ("value", number sample.value),
      ("value_kind", text (valueKindName sample.kind)),
      ("unit", text (valueUnit sample.kind)),
      ("sampled_at_unix_ms", .int sample.sampledAtUnixMs),
      ("window_ns", .int sample.windowNs),
      ("pass_count", .int sample.passCount),
      ("simultaneous_with_other_metrics", .bool (bank.any fun bank => 1 < bank.metricNames.length)),
      ("error", text sample.error)]

def writeSamples (number : String → Json ν) (state : DeviceState) : Json ν :=
  .object (Metric.sorted.filterMap fun m =>
    (state.samples m).map fun sample => (m.name.toList, writeSample number (state.bankOf m) sample))

def writeBank (bank : MetricBank) : Json ν :=
  fields
    [("name", text bank.name),
      ("available", .bool bank.available),
      ("enabled", .bool bank.enabled),
      ("disabled", .bool bank.disabled),
      ("pass_count", .int bank.passCount),
      ("consecutive_failures", .int bank.consecutiveFailures),
      ("error", text bank.error)]

def writeDevice (number : String → Json ν) (state : DeviceState) : Json ν :=
  fields
    [("ordinal", .int state.ordinal),
      ("name", text state.name),
      ("pci_bus_id", text state.pciBusId),
      ("ready", .bool state.ready),
      ("event_domains", .int state.eventDomains),
      ("metrics", .int state.metricCount),
      ("active_bank", text (if state.banks.isEmpty then "" else (state.bank state.activeBankIndex).name)),
      ("banks", .array (state.banks.map writeBank)),
      ("error", text state.error),
      ("samples", writeSamples number state)]

def rotationPolicy : String :=
  "core_dram has six simultaneous metrics; tensor is a separate bank; switch only at active_requests zero"

def rotationNote : String :=
  "Groups stay enabled; each read returns and implicitly clears that event interval. " ++
    "Compare timestamps before cross-bank correlation."

/-- `write_report` -/
def writeReport (number : String → Json ν) (windowMs : Nat) (ready : Bool) (activeRequests : UInt32) (c : Collector) :
    Json ν :=
  fields
    [("schema_version", .int 3),
      ("collector_mode", text "persistent-bank-boundary-rotation"),
      ("ready", .bool ready),
      ("active_requests", .int activeRequests.toNat),
      ("event_domains", .int ((c.devices.head?.map (·.eventDomains)).getD 0)),
      ("metrics", .int ((c.devices.head?.map (·.metricCount)).getD 0)),
      ("rotation", fields
        [("simultaneous", .bool false),
          ("sample_period_ms", .int windowMs),
          ("requested_metrics", .int Metric.all.length),
          ("device_count", .int c.devices.length),
          ("bank_count", .int 2),
          ("policy", text rotationPolicy),
          ("note", text rotationNote)]),
      ("samples", (c.devices.head?.map (writeSamples number)).getD (.object [])),
      ("devices", .array (c.devices.map (writeDevice number))),
      ("detail", text c.detail)]

/-! ### Reading it back -/

theorem member_fields (members : List (String × Json ν)) (key : String) :
    (fields members).member key.toList = members.lookup key := by
  induction members with
  | nil => rfl
  | cons m members ih =>
    simp only [fields, Json.member, List.map_cons] at ih ⊢
    rw [List.lookup_cons, List.lookup_cons, ih]
    by_cases hkey : key = m.1
    · subst hkey
      simp
    · have hlist : key.toList ≠ m.1.toList := fun h => hkey (String.toList_injective h)
      rw [beq_eq_false_iff_ne.2 hkey, beq_eq_false_iff_ne.2 hlist]

private theorem Metric.mem_sorted (m : Metric) : m ∈ Metric.sorted := by
  cases m <;> decide

private theorem Metric.name_injective {m m' : Metric} (h : m.name.toList = m'.name.toList) : m = m' := by
  have hsorted : ∀ m ∈ Metric.sorted, ∀ m' ∈ Metric.sorted, m.name.toList = m'.name.toList → m = m' := by decide +kernel
  exact hsorted m m.mem_sorted m' m'.mem_sorted h

/-- The entry of a metric. -/
theorem member_writeSamples (number : String → Json ν) (state : DeviceState) (m : Metric) :
    (writeSamples number state).member m.name.toList =
      (state.samples m).map fun sample => writeSample number (state.bankOf m) sample := by
  have hlist : ∀ ms : List Metric, (ms.filterMap fun m =>
      (state.samples m).map fun sample => (m.name.toList, writeSample number (state.bankOf m) sample)).lookup
        m.name.toList =
      if m ∈ ms then (state.samples m).map fun sample => writeSample number (state.bankOf m) sample else none := by
    intro ms
    induction ms with
    | nil => rfl
    | cons m' ms ih =>
      by_cases hm : m = m'
      · subst hm
        cases hs : state.samples m with
        | none => simp [hs, ih]
        | some sample => simp [hs]
      · have hne : (m.name.toList == m'.name.toList) = false :=
          beq_eq_false_iff_ne.2 fun h => hm (Metric.name_injective h)
        cases hs : state.samples m' with
        | none => simp [hs, ih, hm]
        | some sample => simp [hs, List.lookup_cons, hne, ih, hm]
  exact (hlist Metric.sorted).trans (if_pos m.mem_sorted)

/-- The bank of a metric has one of the two names. -/
theorem DeviceState.Tidy.name_bankOf {s : DeviceState} (h : s.Tidy) {m : Metric} {bank : MetricBank}
    (hbank : s.bankOf m = some bank) : bank.name = "core_dram" ∨ bank.name = "tensor" := by
  have hmem : bank ∈ s.banks := List.mem_of_find?_eq_some hbank
  rcases h.cases_banks with hnil | ⟨core, tensor, hbanks, hcore, -, htensor, -⟩
  · rw [hnil] at hmem
    cases hmem
  · rw [hbanks] at hmem
    rcases List.mem_pair.1 hmem with rfl | rfl
    · exact .inl hcore
    · exact .inr htensor

/-- With consistent flags, no metric of the first bank is enabled together with the one of the second. -/
theorem DeviceState.Tidy.not_both_enabled {s : DeviceState} (h : s.Tidy) (hflags : s.Consistent) {m : Metric}
    (hm : m ≠ .tensorPrecisionFuUtilization) :
    ¬((s.bankOf m).any (·.enabled) = true ∧ (s.bankOf .tensorPrecisionFuUtilization).any (·.enabled) = true) := by
  rintro ⟨hcore, htensor⟩
  rcases h.cases_banks with hnil | ⟨core, tensor, hbanks, -, hcoreNames, -, htensorNames⟩
  · simp [bankOf, hnil] at hcore
  · have hfirst : s.bank 0 = core := by simp [bank, hbanks]
    have hsecond : s.bank 1 = tensor := by simp [bank, hbanks]
    have hm' : m ∈ Metric.coreDram := by
      cases m <;> first | exact absurd rfl hm | decide
    have hnot : Metric.tensorPrecisionFuUtilization ∉ Metric.coreDram := by decide
    have hof : s.bankOf m = some core := by simp [bankOf, hbanks, hcoreNames, hm']
    have hof' : s.bankOf .tensorPrecisionFuUtilization = some tensor := by
      simp [bankOf, hbanks, hcoreNames, htensorNames, hnot, Metric.tensor]
    rw [hof, Option.any_some, ← hfirst] at hcore
    rw [hof', Option.any_some, ← hsecond] at htensor
    cases hready : s.ready with
    | true =>
      have honly := (hflags.ready hready).enabled
      have hsame := ((honly 0).1 hcore).trans ((honly 1).1 htensor).symm
      cases hsame
    | false =>
      rw [hflags.unready hready 0] at hcore
      cases hcore

end

end CmpUnlocker.Cupti
