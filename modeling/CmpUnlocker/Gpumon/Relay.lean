import Mathlib.Data.List.TakeWhile
import CmpUnlocker.Cupti.Report
import CmpUnlocker.Gpumon.Mapping

/-!
# From the collector to gpumon

The report that `write_report` writes, read by `cupti_update`.  If the devices have distinct PCI addresses and so do
the GPUs, the entry of a GPU shows the samples of the device with its address, and of no other (`relayed`).
-/

namespace CmpUnlocker.Gpumon

open Cupti (Metric DeviceState MetricSample MetricBank valueKindName valueUnit writeSample writeSamples writeDevice
  writeReport member_fields member_writeSamples)

variable {ν : Type} (J : JsonC ν)

/-! ### The state of a metric -/

inductive MetricState
  | unsupported
  | waiting
  | hold
  | stale
  | live
  deriving DecidableEq, Repr

/-- `cupti_metric_age_ms` at the time `now`. -/
def cuptiMetricAgeMs (now : ℤ) (metric : CuptiMetric ν) : ℤ :=
  if !metric.valid ∨ metric.sampledAtUnixMs ≤ 0 then -1 else max 0 (now - metric.sampledAtUnixMs)

/-- `cupti_metric_state` at the time `now`. -/
def cuptiMetricState (now : ℤ) (stats : CuptiStats ν) (metric : CuptiMetric ν) : MetricState :=
  if !metric.available then .unsupported
  else if !metric.valid then .waiting
  else if stats.activeRequests = 0 ∨ !metric.enabled then .hold
  else
    let age := cuptiMetricAgeMs now metric
    let staleAfter := max 1000 (if 0 < stats.samplePeriodMs then stats.samplePeriodMs * 3 else 1000)
    if age < 0 ∨ staleAfter < age then .stale else .live

private theorem enabled_of_live {now : ℤ} {stats : CuptiStats ν} {metric : CuptiMetric ν}
    (h : cuptiMetricState now stats metric = .live) : metric.enabled = true := by
  unfold cuptiMetricState at h
  cases henabled : metric.enabled with
  | true => rfl
  | false =>
    rw [henabled] at h
    by_cases havailable : metric.available = true <;> by_cases hvalid : metric.valid = true <;>
      simp [havailable, hvalid] at h

/-! ### One metric -/

/-- The metric of the collector that a metric of gpumon is read from. -/
def Slot.metric : Slot → Metric
  | .sm => .smEfficiency
  | .occ => .achievedOccupancy
  | .ipc => .ipc
  | .dramRead => .dramReadThroughput
  | .dramWrite => .dramWriteThroughput
  | .dramLevel => .dramUtilization
  | .tensor => .tensorPrecisionFuUtilization

/-- The reader has the names of the writer. -/
theorem Slot.name_eq (slot : Slot) : slot.name = slot.metric.name.toList := by
  cases slot <;> rfl

/-- gpumon's metric has what the collector knows of it. -/
structure Shows (state : DeviceState) (m : Metric) (sample : MetricSample) (metric : CuptiMetric ν) : Prop where
  available : metric.available = sample.available
  valid : metric.valid = sample.valid
  enabled : metric.enabled = (state.bankOf m).any (·.enabled)
  disabled : metric.disabled = (state.bankOf m).any (·.disabled)
  bank : metric.bank = (((state.bankOf m).map (·.name)).getD "").toList
  valueKind : metric.valueKind = (valueKindName sample.kind).toList
  unit : metric.unit = (valueUnit sample.kind).toList
  sampledAtUnixMs : metric.sampledAtUnixMs = sample.sampledAtUnixMs
  windowNs : metric.windowNs = sample.windowNs

/-- The names that the writer prints fit into the fields of gpumon. -/
theorem snprintf_getString {s : String} (hlength : s.toList.length ≤ 31) (hnul : s.toList.all (· != '\x00') = true) :
    CText.snprintf 32 (J.getString (.string s.toList)) = s.toList := by
  have hall : s.toList.takeWhile (· != '\x00') = s.toList := List.takeWhile_eq_self_iff.2 (List.all_eq_true.1 hnul)
  rw [J.getString_string, hall]
  exact List.take_of_length_le hlength

/-- A sample with every member that the reader looks for. -/
theorem cuptiMetricUpdate_of_members {sample available valid enabled disabled simultaneous bank valueKind unit sampledAt
    windowNs value : Json ν} (hobject : sample.isObject = true)
    (havailable : sample.member "available".toList = some available)
    (hvalid : sample.member "valid".toList = some valid)
    (henabled : sample.member "enabled".toList = some enabled)
    (hdisabled : sample.member "disabled".toList = some disabled)
    (hsimultaneous : sample.member "simultaneous_with_other_metrics".toList = some simultaneous)
    (hbank : sample.member "bank".toList = some bank)
    (hvalueKind : sample.member "value_kind".toList = some valueKind)
    (hunit : sample.member "unit".toList = some unit)
    (hsampledAt : sample.member "sampled_at_unix_ms".toList = some sampledAt)
    (hwindow : sample.member "window_ns".toList = some windowNs)
    (hvalue : sample.member "value".toList = some value) (metric : CuptiMetric ν) :
    cuptiMetricUpdate J sample metric =
      { available := J.getBoolean available
        valid := J.getBoolean valid
        enabled := J.getBoolean enabled
        disabled := J.getBoolean disabled
        simultaneous := J.getBoolean simultaneous
        value := if J.getBoolean valid then J.getDouble value else metric.value
        sampledAtUnixMs := J.getInt64 sampledAt
        windowNs := J.getInt64 windowNs
        bank := CText.snprintf 32 (J.getString bank)
        valueKind := CText.snprintf 32 (J.getString valueKind)
        unit := CText.snprintf 32 (J.getString unit) } := by
  cases metric
  simp only [cuptiMetricUpdate, hobject, whenMember, havailable, hvalid, henabled, hdisabled, hsimultaneous, hbank,
    hvalueKind, hunit, hsampledAt, hwindow, hvalue, Bool.not_true, Bool.false_eq_true, if_false]
  split
  · rfl
  · rfl

private theorem shows_cuptiMetricUpdate (number : String → Json ν) {state : DeviceState} (htidy : state.Tidy)
    (m : Metric)
    {sample : MetricSample} (hfits : sample.Fits) (metric : CuptiMetric ν) :
    Shows state m sample (cuptiMetricUpdate J (writeSample number (state.bankOf m) sample) metric) := by
  have hbank : CText.snprintf 32 (J.getString (.string (((state.bankOf m).map (·.name)).getD "").toList)) =
      (((state.bankOf m).map (·.name)).getD "").toList := by
    cases hof : state.bankOf m with
    | none => exact snprintf_getString J (by decide) (by decide)
    | some bank =>
      rw [Option.map_some, Option.getD_some]
      rcases htidy.name_bankOf hof with hname | hname
      · rw [hname]
        exact snprintf_getString J (by decide) (by decide)
      · rw [hname]
        exact snprintf_getString J (by decide) (by decide)
  have hkind : CText.snprintf 32 (J.getString (.string (valueKindName sample.kind).toList)) =
      (valueKindName sample.kind).toList := by
    cases sample.kind <;> exact snprintf_getString J (by decide) (by decide)
  have hunit : CText.snprintf 32 (J.getString (.string (valueUnit sample.kind).toList)) =
      (valueUnit sample.kind).toList := by
    cases sample.kind <;> exact snprintf_getString J (by decide) (by decide)
  have hsampled : J.getInt64 (.int sample.sampledAtUnixMs) = sample.sampledAtUnixMs :=
    J.getInt64_int _ hfits.sampled.1 hfits.sampled.2
  have hwindow : J.getInt64 (.int sample.windowNs) = sample.windowNs := by
    have hlt := hfits.window
    exact J.getInt64_int _ (by omega) (by omega)
  have hobject : (writeSample number (state.bankOf m) sample).isObject = true := rfl
  rw [cuptiMetricUpdate_of_members J hobject (member_fields _ _)
    (member_fields _ _) (member_fields _ _) (member_fields _ _) (member_fields _ _) (member_fields _ _)
    (member_fields _ _) (member_fields _ _) (member_fields _ _) (member_fields _ _) (member_fields _ _)]
  exact ⟨J.getBoolean_bool _, J.getBoolean_bool _, J.getBoolean_bool _, J.getBoolean_bool _, hbank, hkind, hunit,
    hsampled, hwindow⟩

/-! ### One device -/

/-- The metrics are read independently. -/
theorem metrics_cuptiSamplesUpdate {samples : Json ν} (hobject : samples.isObject = true) (c : CuptiStats ν)
    (slot : Slot) :
    (cuptiSamplesUpdate J samples c).metrics slot = match samples.member slot.name with
      | some sample => cuptiMetricUpdate J sample (c.metrics slot)
      | none => c.metrics slot := by
  have hloop : ∀ (slots : List Slot) (c : CuptiStats ν), slots.Nodup →
      (slots.foldl (fun c slot => match samples.member slot.name with
        | some sample => c.setMetric slot (cuptiMetricUpdate J sample (c.metrics slot))
        | none => c) c).metrics slot =
      if slot ∈ slots then (match samples.member slot.name with
        | some sample => cuptiMetricUpdate J sample (c.metrics slot)
        | none => c.metrics slot) else c.metrics slot := by
    intro slots
    induction slots with
    | nil => intros; rfl
    | cons first slots ih =>
      intro c hnodup
      obtain ⟨hfirst, hrest⟩ := List.nodup_cons.1 hnodup
      rw [List.foldl_cons, ih _ hrest]
      by_cases hslot : slot = first
      · subst hslot
        rw [if_neg hfirst, if_pos List.mem_cons_self]
        cases samples.member slot.name with
        | none => rfl
        | some sample => simp [CuptiStats.setMetric]
      · have hkeep : ∀ metric, (c.setMetric first metric).metrics slot = c.metrics slot :=
          fun metric => Function.update_of_ne hslot _ _
        have hmem : slot ∈ first :: slots ↔ slot ∈ slots := by simp [hslot]
        simp only [hmem]
        cases samples.member first.name with
        | none => rfl
        | some sample => simp only [hkeep]
  have hall : slot ∈ Slot.all := by
    cases slot <;> decide
  have hsamples := hloop Slot.all c (by decide +kernel)
  rw [if_pos hall] at hsamples
  rw [cuptiSamplesUpdate, hobject]
  exact hsamples

private theorem metrics_contribute (number : String → Json ν) (state : DeviceState) (g : GpuStats) (source : List Char)
    (c : CuptiStats ν) (slot : Slot) :
    (contribute J g source (writeDevice number state) c).metrics slot = match state.samples slot.metric with
      | some sample => cuptiMetricUpdate J (writeSample number (state.bankOf slot.metric) sample) (c.metrics slot)
      | none => c.metrics slot := by
  have hsamples : (writeDevice number state).member "samples".toList = some (writeSamples number state) :=
    member_fields _ _
  have hread : ∀ c' : CuptiStats ν, whenMember (writeDevice number state) "samples" (cuptiSamplesUpdate J) c' =
      cuptiSamplesUpdate J (writeSamples number state) c' := by
    intro c'
    rw [whenMember, hsamples]
  unfold contribute
  rw [hread, metrics_cuptiSamplesUpdate J rfl, Slot.name_eq, member_writeSamples]
  iterate 4 rw [whenMember_eq (f := CuptiStats.metrics) (by intros; rfl)]
  cases state.samples slot.metric with
  | none => rfl
  | some sample => rfl

/-- A C string ends at the first NUL. -/
def cString (s : String) : List Char := s.toList.takeWhile (· != '\x00')

/-- The PCI address of a device of the collector. -/
def deviceAddress (state : DeviceState) : Option PciAddress := parsePciBusId (cString state.pciBusId)

private theorem busIdText_writeDevice (number : String → Json ν) (state : DeviceState) :
    busIdText J (writeDevice number state) = cString state.pciBusId := by
  have hmember : (writeDevice number state).member "pci_bus_id".toList = some (.string state.pciBusId.toList) :=
    member_fields _ _
  rw [busIdText, hmember]
  exact J.getString_string _

/-! ### The report -/

/-- The entry of a GPU shows the samples of a device: nothing where there is none. -/
def ShowsDevice [Zero ν] (state : DeviceState) (c : CuptiStats ν) : Prop :=
  c.valid = true ∧ ∀ slot,
    (∀ sample, state.samples (Slot.metric slot) = some sample → Shows state slot.metric sample (c.metrics slot)) ∧
    (state.samples (Slot.metric slot) = none → c.metrics slot = { value := 0 })

/-- Every device has a PCI address, each another one. -/
structure DistinctDevices (devices : List DeviceState) : Prop where
  isSome : ∀ state ∈ devices, (deviceAddress state).isSome = true
  distinct : ∀ (k k' : ℕ) (state state' : DeviceState), devices[k]? = some state → devices[k']? = some state' →
    deviceAddress state = deviceAddress state' → k = k'

/-- No two GPUs have the same PCI address. -/
def DistinctGpus (gpu : List GpuStats) : Prop :=
  ∀ (i j : ℕ) (g g' : GpuStats), gpu[i]? = some g → gpu[j]? = some g' → g.address = g'.address → i = j

section

variable [Zero ν] {number : String → Json ν} {windowMs : ℕ} {ready : Bool} {activeRequests : UInt32}
  {collector : Cupti.Collector} {host : Host ν} {gpu : List GpuStats} {llamaPid : ℤ}

omit [Zero ν] in
private theorem placed_writeDevice (hgpu : DistinctGpus gpu) {state : DeviceState}
    (haddress : (deviceAddress state).isSome = true)
    {ordinalMap : List ℕ} {count k i : ℕ} {g : GpuStats} (hi : gpu[i]? = some g) :
    (∃ source, placement J gpu ordinalMap count k (writeDevice number state) = some (i, source)) ↔
      g.address = deviceAddress state := by
  obtain ⟨address, hparse⟩ := Option.isSome_iff_exists.1 haddress
  have htext := busIdText_writeDevice J number state
  have hne : busIdText J (writeDevice number state) ≠ [] := by
    intro hnil
    rw [deviceAddress, ← htext, hnil] at hparse
    cases hparse
  rw [placed_by_busId hne, nvmlIndexForPciBusId_eq_some, htext, hparse]
  constructor
  · rintro ⟨address', g', hparse', hi', hg', -⟩
    rw [hi] at hi'
    cases hi'
    exact hg'.trans (hparse'.symm.trans hparse)
  · intro hg
    refine ⟨address, g, hparse, hi, hg, fun g₁ h₁ j g' hj hsame => ?_⟩
    rw [hi] at h₁
    cases h₁
    exact hgpu j i g' g hj hi hsame

omit [Zero ν] in
private theorem devicesOf_writeReport :
    devicesOf (writeReport number windowMs ready activeRequests collector) =
      collector.devices.map (writeDevice number) := by
  have hmember : (writeReport number windowMs ready activeRequests collector).member "devices".toList =
      some (.array (collector.devices.map (writeDevice number))) := member_fields _ _
  rw [devicesOf, hmember]

omit [Zero ν] in
private theorem schema_writeReport :
    intMember J (writeReport number windowMs ready activeRequests collector) "schema_version" = 3 := by
  have hmember : (writeReport number windowMs ready activeRequests collector).member "schema_version".toList =
      some (.int 3) := member_fields _ _
  rw [intMember, whenMember, hmember]
  exact J.getInt_int 3 (by decide) (by decide)

/-- The entry of a GPU with the address of a device is that device's. -/
theorem entry_of_device (hgpu : DistinctGpus gpu) (hdevices : DistinctDevices collector.devices)
    (htidy : collector.Tidy) {i k : ℕ} {g : GpuStats} {state : DeviceState} (hi : gpu[i]? = some g)
    (hk : collector.devices[k]? = some state) (hsame : g.address = deviceAddress state) :
    ∃ c, (cuptiUpdate J
      (host.withReport (writeReport number windowMs ready activeRequests collector)) gpu llamaPid)[i]? =
      some c ∧ ShowsDevice state c := by
  have hplaced : ∀ {state' : DeviceState} {ordinalMap : List ℕ} {count k' : ℕ}, state' ∈ collector.devices →
      ((∃ source, placement J gpu ordinalMap count k' (writeDevice number state') = some (i, source)) ↔
        g.address = deviceAddress state') := fun hmem => placed_writeDevice J hgpu (hdevices.isSome _ hmem) hi
  have hdevice : (collector.devices.map (writeDevice number))[k]? = some (writeDevice number state) := by
    rw [List.getElem?_map, hk]
    rfl
  have hstate := List.mem_of_getElem? hk
  rw [cuptiUpdate_getElem? J (schema_writeReport J), devicesOf_writeReport, hi]
  refine ⟨_, rfl, ?_⟩
  -- no other device has the address
  rw [entryLoop_of_one hdevice (fun k' device' hne hdevice' hplace => ?_), Nat.zero_add]
  · obtain ⟨source, hsource⟩ := (hplaced hstate).2 hsame
    have hobject : (writeDevice number state).isObject = true := rfl
    have hmetrics : ∀ slot, (header J (writeReport number windowMs ready activeRequests collector)
        (CuptiStats.zero ν)).metrics slot = { value := 0 } := fun _ => rfl
    rw [entryStep, hsource]
    simp only [hobject, and_self, if_true]
    refine ⟨valid_contribute _ _ _, fun slot => ⟨fun sample hsample => ?_, fun hnone => ?_⟩⟩
    · rw [metrics_contribute, hsample]
      exact shows_cuptiMetricUpdate J number (htidy state hstate) _ ((htidy state hstate).samples _ _ hsample) _
    · rw [metrics_contribute, hnone]
      exact hmetrics slot
  · rw [List.getElem?_map] at hdevice'
    obtain ⟨state', hstate', rfl⟩ := Option.map_eq_some_iff.1 hdevice'
    have hsame' := (hplaced (List.mem_of_getElem? hstate')).1 hplace.2
    exact hne (hdevices.distinct k' k state' state hstate' hk (hsame'.symm.trans hsame))

/-- The entry of a GPU whose address is that of no device stays empty. -/
theorem entry_of_no_device (hgpu : DistinctGpus gpu) (hdevices : DistinctDevices collector.devices) {i : ℕ}
    {g : GpuStats}
    (hi : gpu[i]? = some g) (hother : ∀ state ∈ collector.devices, g.address ≠ deviceAddress state) :
    ∃ c, (cuptiUpdate J
      (host.withReport (writeReport number windowMs ready activeRequests collector)) gpu llamaPid)[i]? =
      some c ∧ c.valid = false ∧ ∀ slot, c.metrics slot = { value := 0 } := by
  rw [cuptiUpdate_getElem? J (schema_writeReport J), devicesOf_writeReport, hi]
  refine ⟨_, rfl, ?_⟩
  rw [entryLoop_of_none (fun k' device' hdevice' hplace => ?_)]
  · exact ⟨rfl, fun _ => rfl⟩
  · rw [List.getElem?_map] at hdevice'
    obtain ⟨state', hstate', rfl⟩ := Option.map_eq_some_iff.1 hdevice'
    have hmem := List.mem_of_getElem? hstate'
    exact hother state' hmem ((placed_writeDevice J hgpu (hdevices.isSome _ hmem) hi).1 hplace.2)

/-- No metric of the first bank is live together with the one of the second. -/
def NotBothLive (c : CuptiStats ν) : Prop :=
  ∀ slot ≠ Slot.tensor, ∀ now now', ¬(cuptiMetricState now c (c.metrics slot) = .live ∧
    cuptiMetricState now' c (c.metrics .tensor) = .live)

theorem ShowsDevice.enabled {state : DeviceState} {c : CuptiStats ν} (h : ShowsDevice state c) {slot : Slot}
    (henabled : (c.metrics slot).enabled = true) : (state.bankOf slot.metric).any (·.enabled) = true := by
  cases hsample : state.samples slot.metric with
  | some sample => exact ((h.2 slot).1 sample hsample).enabled ▸ henabled
  | none =>
    rw [(h.2 slot).2 hsample] at henabled
    cases henabled

private theorem ShowsDevice.notBothLive {state : DeviceState} {c : CuptiStats ν} (h : ShowsDevice state c)
    (htidy : state.Tidy)
    (hflags : state.Consistent) : NotBothLive c := by
  rintro slot hslot now now' ⟨hlive, hlive'⟩
  have hmetric : slot.metric ≠ .tensorPrecisionFuUtilization := by
    cases slot <;> first | exact absurd rfl hslot | decide
  exact htidy.not_both_enabled hflags hmetric ⟨h.enabled (enabled_of_live hlive), h.enabled (enabled_of_live hlive')⟩

private theorem notBothLive_of_empty {c : CuptiStats ν} (h : ∀ slot, c.metrics slot = { value := 0 }) :
    NotBothLive c := by
  rintro slot - now now' ⟨hlive, -⟩
  have henabled := enabled_of_live hlive
  rw [h slot] at henabled
  cases henabled

/-- In every state that the collector reaches, the report gives the GPU with the address of a device what that device
has, and no other GPU anything; and if a report can be written in that state, no two metrics of different banks are live
on one GPU. -/
theorem relayed {P : Cupti.Platform} {n : ℕ} {s : Cupti.State}
    (h : Cupti.Reachable P Cupti.timedEnv (fun _ => True) n s) (hgpu : DistinctGpus gpu)
    (hdevices : DistinctDevices s.world.mem.devices) {i : ℕ} {g : GpuStats} (hi : gpu[i]? = some g) :
    ∃ c, (cuptiUpdate J (host.withReport
        (writeReport number windowMs ready s.shared.activeRequests s.world.mem)) gpu llamaPid)[i]? = some c ∧
      (∀ state ∈ s.world.mem.devices, g.address = deviceAddress state → ShowsDevice state c) ∧
      ((∀ state ∈ s.world.mem.devices, g.address ≠ deviceAddress state) → c.valid = false) ∧
      (s.Settled → NotBothLive c) := by
  have hreports := h.reports
  by_cases hdevice : ∃ state ∈ s.world.mem.devices, g.address = deviceAddress state
  · obtain ⟨state, hmem, hsame⟩ := hdevice
    obtain ⟨k, hk⟩ := List.mem_iff_getElem?.1 hmem
    have hentry : ∃ c, (cuptiUpdate J (host.withReport
        (writeReport number windowMs ready s.shared.activeRequests s.world.mem)) gpu llamaPid)[i]? = some c ∧
        ShowsDevice state c :=
      entry_of_device J hgpu hdevices hreports.tidy hi hk hsame
    obtain ⟨c, hc, hshows⟩ := hentry
    refine ⟨c, hc, fun state' hmem' hsame' => ?_, fun hnone => absurd hsame (hnone state hmem), fun hsettled => ?_⟩
    · obtain ⟨k', hk'⟩ := List.mem_iff_getElem?.1 hmem'
      obtain rfl := hdevices.distinct k k' state state' hk hk' (hsame.symm.trans hsame')
      rw [hk] at hk'
      cases hk'
      exact hshows
    · have hflags := hreports.consistent hsettled k
      rw [Cupti.Collector.device, List.getD_eq_getElem?_getD, hk, Option.getD_some] at hflags
      exact hshows.notBothLive (hreports.tidy state hmem) hflags
  · have hother : ∀ state ∈ s.world.mem.devices, g.address ≠ deviceAddress state :=
      fun state hmem hsame => hdevice ⟨state, hmem, hsame⟩
    obtain ⟨c, hc, hvalid, hempty⟩ := entry_of_no_device J hgpu hdevices hi hother
    exact ⟨c, hc, fun state hmem hsame => absurd hsame (hother state hmem), fun _ => hvalid,
      fun _ => notBothLive_of_empty hempty⟩

end

/-! ### One device and two GPUs -/

/-- The device is at the address of the first GPU. -/
def located (w : Cupti.World) : (o : Cupti.Op) → o.Answer × Cupti.World
  | .cuDeviceGetPCIBusId _ => ((Cupti.success, "0000:01:00.0"), w)
  | o => Cupti.respond Cupti.success w o

/-- What `initialize` leaves on this device. -/
def locatedWork : Cupti.Routine Empty Bool × (Cupti.World × Cupti.Shared) :=
  (Cupti.initializeImpl Cupti.barePlatform).run (Cupti.onShared located) ({}, {})

private theorem locatedWork_eq : locatedWork = (.ret true, locatedWork.2.1, {}) := rfl

private theorem timedEnv_located (w : Cupti.World) (o : Cupti.Op) :
    Cupti.timedEnv w o (located w o).1 (located w o).2 := by
  have henv : ∀ o, Cupti.env w o (Cupti.respond Cupti.success w o).1 (Cupti.respond Cupti.success w o).2 :=
    Cupti.env_respond Cupti.success w
  cases o with
  | getTimestamp =>
    have hlt : 1 < 2 ^ 63 := by decide
    exact ⟨henv .getTimestamp, hlt⟩
  | unixTimeMs =>
    have hrange : -2 ^ 63 ≤ (1 : ℤ) ∧ (1 : ℤ) < 2 ^ 63 := by decide
    exact ⟨henv .unixTimeMs, hrange⟩
  | cuDeviceGetPCIBusId d => exact ⟨rfl, trivial⟩
  | _ => exact ⟨henv _, trivial⟩

private theorem reachable_located : Cupti.Reachable Cupti.barePlatform Cupti.timedEnv (fun _ => True) 0
    { Cupti.initial Cupti.barePlatform 0 with
      worker := .starting (.ret true), world := locatedWork.2.1, shared := {} } :=
  Cupti.Reachable.initial.deviceWork (fun _ _ => .starting) timedEnv_located rfl (fun _ _ => trivial) locatedWork_eq

private theorem distinctGpus_twoGpus : DistinctGpus twoGpus := by
  intro i j g g' hi hj hsame
  have hlti : i < 2 := (List.getElem?_eq_some_iff.1 hi).1
  have hltj : j < 2 := (List.getElem?_eq_some_iff.1 hj).1
  have hsame' : (twoGpus[i]?).map GpuStats.address = (twoGpus[j]?).map GpuStats.address := by
    rw [hi, hj, Option.map_some, Option.map_some, hsame]
  have hall : ∀ i < 2, ∀ j < 2, (twoGpus[i]?).map GpuStats.address = (twoGpus[j]?).map GpuStats.address → i = j := by
    decide
  exact hall i hlti j hltj hsame'

private theorem distinctDevices_located : DistinctDevices locatedWork.2.1.mem.devices := by
  have hone : locatedWork.2.1.mem.devices.length = 1 := rfl
  constructor
  · intro state hmem
    obtain ⟨k, hk⟩ := List.mem_iff_getElem?.1 hmem
    have hlt := (List.getElem?_eq_some_iff.1 hk).1
    obtain rfl : k = 0 := by omega
    have hsome : (locatedWork.2.1.mem.devices[0]?).map (fun state => (deviceAddress state).isSome) = some true := by
      decide
    rw [hk] at hsome
    exact Option.some_injective _ hsome
  · intro k k' state state' hk hk' _
    have hlt := (List.getElem?_eq_some_iff.1 hk).1
    have hlt' := (List.getElem?_eq_some_iff.1 hk').1
    omega

/-- The entry of the first GPU is valid. -/
theorem relayed_located : ∃ c, (cuptiUpdate plainJsonC (orderedHost.withReport
    (writeReport (fun _ => .null) 250 true 0 locatedWork.2.1.mem)) twoGpus 1)[0]? = some c ∧ c.valid = true := by
  obtain ⟨c, hc, hshows, -⟩ := @relayed ℤ plainJsonC _ (fun _ => .null) 250 true orderedHost twoGpus 1 _ 0 _
    reachable_located distinctGpus_twoGpus distinctDevices_located 0 _ rfl
  have hdevice : locatedWork.2.1.mem.devices[0]? = some (locatedWork.2.1.mem.device 0) := rfl
  have hsame : (⟨"00000000:01:00.0".toList⟩ : GpuStats).address = deviceAddress (locatedWork.2.1.mem.device 0) := by
    decide
  exact ⟨c, hc, (hshows _ (List.mem_of_getElem? hdevice) hsame).1⟩

end CmpUnlocker.Gpumon
