import Mathlib.Data.List.Basic
import CmpUnlocker.Cupti.Flags

/-!
# What the report is written from

A device has no banks or the two banks of the source, and its samples fit into 64 signed bits, as long as the clock of
the system and the time stamps of CUPTI do (`Reachable.reports`).  When a report is written, the flags of the devices
are consistent.
-/

namespace CmpUnlocker.Cupti

open Interaction

/-! ### Tidy devices -/

/-- The times of a sample fit into an `int64_t`. -/
structure MetricSample.Fits (v : MetricSample) : Prop where
  sampled : -2 ^ 63 ≤ v.sampledAtUnixMs ∧ v.sampledAtUnixMs < 2 ^ 63
  window : v.windowNs < 2 ^ 63

/-- The names of the banks and their metrics, once there are banks. -/
def bankNames : List (String × List Metric) := [("core_dram", Metric.coreDram), ("tensor", Metric.tensor)]

structure DeviceState.Tidy (s : DeviceState) : Prop where
  banks : s.banks = [] ∨ (s.banks.map fun bank => (bank.name, bank.metricNames)) = bankNames
  samples : ∀ m v, s.samples m = some v → v.Fits

def Collector.Tidy (c : Collector) : Prop := ∀ s ∈ c.devices, s.Tidy

/-- A sample without times. -/
theorem MetricSample.fits_of_zero {v : MetricSample} (hsampled : v.sampledAtUnixMs = 0) (hwindow : v.windowNs = 0) :
    v.Fits := by
  constructor
  · rw [hsampled]
    decide
  · rw [hwindow]
    decide

theorem DeviceState.Tidy.sample {s : DeviceState} (h : s.Tidy) (m : Metric) : (s.sample m).Fits := by
  unfold DeviceState.sample
  cases hv : s.samples m with
  | none => exact MetricSample.fits_of_zero rfl rfl
  | some v => exact h.samples m v hv

theorem DeviceState.Tidy.setSample {s : DeviceState} (h : s.Tidy) (m : Metric) {v : MetricSample} (hv : v.Fits) :
    (s.setSample m v).Tidy := by
  refine ⟨h.banks, fun m' v' hv' => ?_⟩
  simp only [DeviceState.setSample] at hv'
  split at hv'
  · cases hv'
    exact hv
  · exact h.samples m' v' hv'

theorem DeviceState.Tidy.foldl_setSample {s : DeviceState} (h : s.Tidy) {f : DeviceState → MetricSample → MetricSample}
    (hf : ∀ s v, v.Fits → (f s v).Fits) (ms : List Metric) :
    (ms.foldl (fun s m => s.setSample m (f s (s.sample m))) s).Tidy := by
  induction ms generalizing s with
  | nil => exact h
  | cons m ms ih => exact ih (h.setSample m (hf _ _ (h.sample m)))

/-- An assignment to a bank that keeps its name and its metrics. -/
theorem DeviceState.Tidy.modifyBank {s : DeviceState} (h : s.Tidy) (b : Nat) {f : MetricBank → MetricBank}
    (hf : ∀ bank, (f bank).name = bank.name ∧ (f bank).metricNames = bank.metricNames) : (s.modifyBank b f).Tidy := by
  have hnames : ((s.modifyBank b f).banks.map fun bank => (bank.name, bank.metricNames)) =
      s.banks.map fun bank => (bank.name, bank.metricNames) := by
    apply List.ext_getElem?
    intro i
    simp only [DeviceState.modifyBank, List.getElem?_map, List.getElem?_modify]
    cases s.banks[i]? with
    | none => rfl
    | some bank =>
      by_cases hb : b = i
      · simp [hb, hf bank]
      · simp [hb]
  refine ⟨?_, h.samples⟩
  rcases h.banks with hnil | hbanks
  · left
    simp [DeviceState.modifyBank, hnil]
  · right
    rw [hnames, hbanks]

theorem Collector.Tidy.modifyDevice {c : Collector} (h : c.Tidy) (d : Nat) {f : DeviceState → DeviceState}
    (hf : ∀ s : DeviceState, s.Tidy → (f s).Tidy) : (c.modifyDevice d f).Tidy := by
  intro s hs
  obtain ⟨i, hi⟩ := List.mem_iff_getElem?.1 hs
  rw [Collector.modifyDevice, List.getElem?_modify] at hi
  obtain ⟨s₀, hs₀, rfl⟩ := Option.map_eq_some_iff.1 hi
  have htidy := h s₀ (List.mem_of_getElem? hs₀)
  split
  · exact hf s₀ htidy
  · exact htidy

/-! ### Tidy routines -/

/-- The time stamps and the clock are within 63 bits. -/
def Timed : (o : Op) → o.Answer → Prop
  | .getTimestamp, (_, timestamp) => timestamp < 2 ^ 63
  | .unixTimeMs, now => -2 ^ 63 ≤ now ∧ now < 2 ^ 63
  | _, _ => True

/-- Requests that keep the devices tidy and write no report. -/
def TidyRequest : Op → Prop
  | .store f => ∀ c : Collector, c.Tidy → (f c).Tidy
  | .writeReport _ => False
  | _ => True

/-- With such answers, the routine makes tidy requests only, and its result satisfies `Q`. -/
def Tidily {ε α : Type} (p : Routine ε α) (Q : α → Prop) : Prop :=
  p.Meets (fun (_ : Unit) o r _ => Timed o r) (fun _ o _ _ => TidyRequest o) (fun a _ => Q a) (fun _ _ => True) ()

section

variable {ε ε' α β : Type} {p : Routine ε α} {Q : α → Prop}

theorem Tidily.bind {f : α → Routine ε β} {Q' : β → Prop} (h : Tidily p Q) (hf : ∀ a, Q a → Tidily (f a) Q') :
    Tidily (p.bind f) Q' :=
  Prog.meets_bind.2 (h.imp (fun a _ ha => hf a ha) fun _ _ ht => ht)

/-- Nothing need be known of the result. -/
theorem Tidily.andThen {f : α → Routine ε β} {Q' : β → Prop} (h : Tidily p fun _ => True)
    (hf : ∀ a, Tidily (f a) Q') : Tidily (p.bind f) Q' :=
  h.bind fun a _ => hf a

theorem Tidily.attempt {Q' : Except ε α → Prop} (h : Tidily p Q) (hok : ∀ a, Q a → Q' (.ok a))
    (herror : ∀ e, Q' (.error e)) : Tidily (p.attempt : Routine ε' _) Q' :=
  Prog.meets_attempt.2 (h.imp (fun a _ ha => hok a ha) fun e _ _ => herror e)

theorem Tidily.ite {c : Prop} [Decidable c] {q : Routine ε α} (hp : c → Tidily p Q) (hq : ¬c → Tidily q Q) :
    Tidily (if c then p else q) Q :=
  Prog.meets_ite.2 ⟨hp, hq⟩

theorem Tidily.when {c : Prop} [Decidable c] {p : Routine ε Unit} (hp : c → Tidily p fun _ => True) :
    Tidily (Prog.when c p) fun _ => True :=
  Prog.meets_when.2 ⟨hp, fun _ => trivial⟩

theorem Tidily.forEach {f : β → Routine ε Unit} (hf : ∀ x, Tidily (f x) fun _ => True) (xs : List β) :
    Tidily (Prog.forEach f xs) fun _ => True :=
  Prog.meets_forEach (I := fun _ _ => True) (fun x _ _ _ => hf x) trivial

private theorem Tidily.forget (h : Tidily p Q) : Tidily p fun _ => True := h.imp (fun _ _ _ => trivial) fun _ _ ht => ht

private theorem call_tidily {o : Op} (ho : TidyRequest o) : Tidily (call o : Routine ε o.Answer) (Timed o) :=
  fun _ _ hr => ⟨ho, hr⟩

/-- Most answers do not matter. -/
theorem ask_tidily {o : Op} (ho : TidyRequest o) : Tidily (call o : Routine ε o.Answer) fun _ => True :=
  (call_tidily ho).forget

private theorem load_tidily : Tidily (load : Routine ε Collector) fun _ => True := ask_tidily (o := .load) trivial

private theorem loadDevice_tidily (d : Nat) : Tidily (loadDevice d : Routine ε DeviceState) fun _ => True :=
  load_tidily.andThen fun _ => trivial

private theorem loadBank_tidily (d b : Nat) : Tidily (loadBank d b : Routine ε MetricBank) fun _ => True :=
  load_tidily.andThen fun _ => trivial

private theorem storeDevice_tidily (d : Nat) {f : DeviceState → DeviceState}
    (hf : ∀ s : DeviceState, s.Tidy → (f s).Tidy) :
    Tidily (storeDevice d f : Routine ε Unit) fun _ => True :=
  ask_tidily (o := .store _) fun _ hc => Collector.Tidy.modifyDevice hc d hf

/-- Assignments to members of a device that are neither its banks nor its samples. -/
theorem storeOther_tidily (d : Nat) {f : DeviceState → DeviceState}
    (hf : ∀ s, (f s).banks = s.banks ∧ (f s).samples = s.samples) :
    Tidily (storeDevice d f : Routine ε Unit) fun _ => True :=
  storeDevice_tidily d fun s hs => ⟨(hf s).1 ▸ hs.banks, (hf s).2 ▸ hs.samples⟩

private theorem storeBank_tidily (d b : Nat) {f : MetricBank → MetricBank}
    (hf : ∀ bank, (f bank).name = bank.name ∧ (f bank).metricNames = bank.metricNames) :
    Tidily (storeBank d b f : Routine ε Unit) fun _ => True :=
  storeDevice_tidily d fun _ hs => hs.modifyBank b hf

/-! ### Reading -/

variable (P : Platform)

private theorem totalInstanceCount_tidily (d domain n : Nat) :
    Tidily (totalInstanceCount d domain n : Routine ε Nat) fun _ => True := by
  refine .andThen (ask_tidily trivial) fun _ => .ite (fun _ => ?_) fun _ => trivial
  exact .andThen (ask_tidily trivial) fun _ => .ite (fun _ => trivial) fun _ => trivial

private theorem normalizedEventValue_tidily (d group event : Nat) :
    Tidily (normalizedEventValue P d group event) fun _ => True := by
  refine .andThen (ask_tidily trivial) fun _ => .ite (fun _ => trivial) fun _ => ?_
  refine .andThen (ask_tidily trivial) fun _ => .ite (fun _ => trivial) fun _ => ?_
  refine .andThen (totalInstanceCount_tidily _ _ _) fun _ => .andThen (ask_tidily trivial) fun _ => ?_
  refine .ite (fun _ => trivial) fun _ => .ite (fun _ => trivial) fun _ => ?_
  split
  · trivial
  · trivial

private theorem readEvents_tidily (d group : Nat) (events : List Nat) (deltas : Deltas) :
    Tidily (readEvents P d group events deltas) fun _ => True := by
  induction events generalizing deltas with
  | nil => trivial
  | cons event events ih => exact .andThen (normalizedEventValue_tidily P d group event) fun _ => ih _

private theorem readGroups_tidily (d : Nat) (groups : List Nat) (deltas : Deltas) :
    Tidily (readGroups P d groups deltas) fun _ => True := by
  induction groups generalizing deltas with
  | nil => trivial
  | cons group groups ih =>
    refine .andThen (ask_tidily trivial) fun _ => .ite (fun _ => trivial) fun _ => ?_
    refine .andThen (ask_tidily trivial) fun _ => .ite (fun _ => trivial) fun _ => ?_
    exact .andThen (readEvents_tidily P d group _ _) fun _ => ih _

private theorem metricInputs_tidily (v : MetricSample) (deltas : Deltas) :
    Tidily (metricInputs v deltas) fun _ => True := by
  refine .andThen (ask_tidily trivial) fun _ => .ite (fun _ => trivial) fun _ => ?_
  refine .andThen (ask_tidily trivial) fun _ => .ite (fun _ => trivial) fun _ => ?_
  split
  · trivial
  · trivial

/-- The sample of an evaluation has the clock's time and the window of the reading. -/
theorem evaluateMetric_tidily (d : Nat) (v : MetricSample) (deltas : Deltas) {durationNs : Nat}
    (hduration : durationNs < 2 ^ 63) : Tidily (evaluateMetric P d v deltas durationNs) MetricSample.Fits := by
  refine .andThen (metricInputs_tidily v deltas) fun _ => .andThen (ask_tidily trivial) fun _ => ?_
  refine .ite (fun _ => trivial) fun _ => .bind (call_tidily trivial) fun now hnow => ?_
  exact ⟨hnow, hduration⟩

private theorem publishMetric_tidily (d : Nat) (m : Metric) (deltas : Deltas) {durationNs : Nat}
    (hduration : durationNs < 2 ^ 63) :
    Tidily (publishMetric P d m deltas durationNs : Routine ε Bool) fun _ => True := by
  refine .andThen (loadDevice_tidily d) fun state => ?_
  have hcleared : MetricSample.Fits
      { state.sample m with valid := false, value := "null", windowNs := 0, sampledAtUnixMs := 0, error := "" } :=
    MetricSample.fits_of_zero rfl rfl
  refine .andThen (storeDevice_tidily d fun s hs => hs.setSample m hcleared) fun _ => ?_
  refine .bind (Q := fun result => ∀ v, result = .ok v → v.Fits)
    (.attempt (evaluateMetric_tidily P d _ deltas hduration) (fun v hv v' h => ?_) fun e v h => ?_) ?_
  · cases h
    exact hv
  · cases h
  · rintro (⟨rc, error⟩ | v) hv
    · have hfailed : ∀ error : String, MetricSample.Fits { state.sample m with
          valid := false, value := "null", windowNs := 0, sampledAtUnixMs := 0, error := error } :=
        fun _ => MetricSample.fits_of_zero rfl rfl
      exact .andThen (storeDevice_tidily d fun s hs => hs.setSample m (hfailed _)) fun _ => trivial
    · exact .andThen (storeDevice_tidily d fun s hs => hs.setSample m (hv v rfl)) fun _ => trivial

private theorem publishMetrics_tidily (d : Nat) (deltas : Deltas) {durationNs : Nat} (hduration : durationNs < 2 ^ 63)
    (ms : List Metric) : Tidily (publishMetrics P d deltas durationNs ms : Routine ε Nat) fun _ => True := by
  induction ms with
  | nil => trivial
  | cons m ms ih => exact .andThen (publishMetric_tidily P d m deltas hduration) fun _ => .andThen ih fun _ => trivial

private theorem readInterval_tidily (d b : Nat) (bank : MetricBank) {endedNs : Nat} (hended : endedNs < 2 ^ 63)
    (publishEmpty : Bool) : Tidily (readInterval P d b bank endedNs publishEmpty : Routine ε Nat) fun _ => True := by
  refine .bind (Q := fun _ => True)
    (.attempt (readGroups_tidily P d _ _) (fun _ _ => trivial) fun _ => trivial) fun read _ => ?_
  refine .andThen (storeBank_tidily d b (by exact fun _ => ⟨rfl, rfl⟩)) fun _ => ?_
  cases read with
  | error error =>
    refine .andThen (storeBank_tidily d b (by exact fun _ => ⟨rfl, rfl⟩)) fun _ => ?_
    refine .andThen (storeDevice_tidily d fun s hs => ?_) fun _ => trivial
    exact hs.foldl_setSample (f := fun _ v => { v with valid := false, value := "null", error := error })
      (fun _ v hv => ⟨hv.sampled, hv.window⟩) _
  | ok deltas =>
    refine .ite (fun _ => trivial) fun _ => ?_
    have hduration : endedNs - bank.lastReadTimestampNs < 2 ^ 63 := by omega
    refine .andThen (publishMetrics_tidily P d deltas hduration _) fun _ => ?_
    exact .andThen (storeBank_tidily d b (by exact fun _ => ⟨rfl, rfl⟩)) fun _ => trivial

private theorem readPushed_tidily (d b : Nat) (bank : MetricBank) (publishEmpty : Bool) :
    Tidily (readPushed P d b bank publishEmpty : Routine ε Nat) fun _ => True := by
  refine .bind (call_tidily trivial) fun timestamp htime => .ite (fun _ => ?_) fun _ => ?_
  · exact .andThen (storeBank_tidily d b (by exact fun _ => ⟨rfl, rfl⟩)) fun _ => trivial
  · exact readInterval_tidily P d b bank htime publishEmpty

private theorem readBank_tidily (d b : Nat) (publishEmpty : Bool) :
    Tidily (readBank P d b publishEmpty : Routine ε Nat) fun _ => True := by
  refine .andThen (loadBank_tidily d b) fun bank => .ite (fun _ => ?_) fun _ => ?_
  · exact .andThen (storeBank_tidily d b (by exact fun _ => ⟨rfl, rfl⟩)) fun _ => trivial
  · refine .andThen (ask_tidily trivial) fun _ => .ite (fun _ => ?_) fun _ => ?_
    · exact .andThen (storeBank_tidily d b (by exact fun _ => ⟨rfl, rfl⟩)) fun _ => trivial
    · refine .andThen (readPushed_tidily P d b bank publishEmpty) fun _ => ?_
      exact .andThen (ask_tidily trivial) fun _ => trivial

/-! ### Sampling and rotating -/

private theorem countFailure_tidily (d b : Nat) : Tidily (countFailure d b : Routine ε Unit) fun _ => True := by
  refine .andThen (storeBank_tidily d b (by exact fun _ => ⟨rfl, rfl⟩)) fun _ => ?_
  refine .andThen (loadBank_tidily d b) fun bank => .ite (fun _ => ?_) fun _ => trivial
  exact .andThen (storeBank_tidily d b (by exact fun _ => ⟨rfl, rfl⟩)) fun _ => ask_tidily trivial

private theorem sampleDevice_tidily (d : Nat) : Tidily (sampleDevice P d : Routine ε Nat) fun _ => True := by
  refine .andThen (loadDevice_tidily d) fun state => .ite (fun _ => trivial) fun _ => .ite (fun _ => trivial)
    fun _ => ?_
  refine .andThen (readBank_tidily P d _ true) fun successful => .andThen ?_ fun _ => trivial
  refine .ite (fun _ => ?_) fun _ => countFailure_tidily d _
  exact storeBank_tidily d _ (by exact fun _ => ⟨rfl, rfl⟩)

private theorem sampleDevices_tidily (ds : List Nat) : Tidily (sampleDevices P ds : Routine ε Nat) fun _ => True := by
  induction ds with
  | nil => trivial
  | cons d ds ih => exact .andThen (sampleDevice_tidily P d) fun _ => .andThen ih fun _ => trivial

private theorem setDetail_tidily (detail : String) :
    Tidily (store fun c => { c with detail := detail } : Routine ε Unit) fun _ => True :=
  ask_tidily (o := .store _) fun _ hc => hc

private theorem sample_tidily : Tidily (sample P : Routine ε Unit) fun _ => True :=
  .andThen load_tidily fun _ => .andThen (sampleDevices_tidily P _) fun _ => setDetail_tidily _

private theorem enableBank_tidily (d b : Nat) : Tidily (enableBank P d b : Routine ε Bool) fun _ => True := by
  have hstore : ∀ f : MetricBank → MetricBank,
      (∀ bank, (f bank).name = bank.name ∧ (f bank).metricNames = bank.metricNames) →
      Tidily (storeBank d b f : Routine ε Unit) fun _ => True := fun f hf => storeBank_tidily d b hf
  refine .andThen (loadBank_tidily d b) fun bank => .ite (fun _ => trivial) fun _ => ?_
  refine .andThen (ask_tidily trivial) fun _ => .ite (fun _ => ?_) fun _ => ?_
  · exact .andThen (hstore _ fun _ => ⟨rfl, rfl⟩) fun _ => trivial
  · refine .andThen (hstore _ fun _ => ⟨rfl, rfl⟩) fun _ => .andThen (ask_tidily trivial) fun _ => ?_
    refine .ite (fun _ => ?_) fun _ => .andThen (hstore _ fun _ => ⟨rfl, rfl⟩) fun _ => trivial
    refine .andThen (ask_tidily trivial) fun _ => .andThen (hstore _ fun _ => ⟨rfl, rfl⟩) fun _ => trivial

private theorem disableBank_tidily (d b : Nat) : Tidily (disableBank P d b : Routine ε Unit) fun _ => True := by
  refine .andThen (loadBank_tidily d b) fun bank => .ite (fun _ => trivial) fun _ => ?_
  refine .andThen (ask_tidily trivial) fun _ => ?_
  refine .andThen (.when fun _ => storeBank_tidily d b (by exact fun _ => ⟨rfl, rfl⟩)) fun _ => ?_
  exact storeBank_tidily d b (by exact fun _ => ⟨rfl, rfl⟩)

private theorem selectCandidate_tidily (d : Nat) (is : List Nat) :
    Tidily (selectCandidate P d is : Routine ε Bool) fun _ => True := by
  induction is with
  | nil => trivial
  | cons i is ih =>
    refine .andThen (loadBank_tidily d i) fun candidate => .ite (fun _ => ih) fun _ => ?_
    refine .andThen (enableBank_tidily P d i) fun selected => .ite (fun _ => ?_) fun _ => ?_
    · exact .andThen (storeOther_tidily d (by exact fun _ => ⟨rfl, rfl⟩)) fun _ => trivial
    · exact .andThen (storeBank_tidily d i (by exact fun _ => ⟨rfl, rfl⟩)) fun _ => ih

private theorem rotateDevice_tidily (d : Nat) : Tidily (rotateDevice P d : Routine ε Bool) fun _ => True := by
  refine .andThen (loadDevice_tidily d) fun state => .ite (fun _ => trivial) fun _ => ?_
  refine .andThen (.when fun _ => .andThen (readBank_tidily P d _ false) fun _ => trivial) fun _ => ?_
  refine .andThen (ask_tidily trivial) fun _ => .ite (fun _ => ?_) fun _ => ?_
  · exact .andThen (storeOther_tidily d (by exact fun _ => ⟨rfl, rfl⟩)) fun _ => trivial
  · refine .andThen ?_ fun _ => .andThen (ask_tidily trivial) fun _ => trivial
    refine .andThen (loadDevice_tidily d) fun state => .andThen (disableBank_tidily P d _) fun _ => ?_
    refine .andThen (selectCandidate_tidily P d _) fun selected => ?_
    exact .andThen (.when fun _ => storeOther_tidily d (by exact fun _ => ⟨rfl, rfl⟩)) fun _ => trivial

private theorem rotateDevices_tidily (ds : List Nat) : Tidily (rotateDevices P ds : Routine ε Bool) fun _ => True := by
  induction ds with
  | nil => trivial
  | cons d ds ih => exact .andThen (rotateDevice_tidily P d) fun _ => .andThen ih fun _ => trivial

private theorem rotate_tidily : Tidily (rotate P : Routine ε Unit) fun _ => True :=
  .andThen load_tidily fun _ => .andThen (rotateDevices_tidily P _) fun _ => setDetail_tidily _

/-! ### Initializing -/

private theorem profileAllInstances_tidily (groups : List Nat) :
    Tidily (profileAllInstances groups : Routine ε Code) fun _ => True := by
  induction groups with
  | nil => trivial
  | cons group groups ih => exact .andThen (ask_tidily trivial) fun _ => .ite (fun _ => ih) fun _ => trivial

private theorem dropSets_tidily (d b : Nat) (error : String) :
    Tidily (dropSets d b error : Routine ε Bool) fun _ => True := by
  refine .andThen (storeBank_tidily d b (by exact fun _ => ⟨rfl, rfl⟩)) fun _ => .andThen (ask_tidily trivial)
    fun _ => ?_
  exact .andThen (storeBank_tidily d b (by exact fun _ => ⟨rfl, rfl⟩)) fun _ => trivial

private theorem prepareSets_tidily (d b : Nat) (sets : EventGroupSets) :
    Tidily (prepareSets P d b sets : Routine ε Bool) fun _ => True := by
  refine .andThen (storeBank_tidily d b (by exact fun _ => ⟨rfl, rfl⟩)) fun _ => ?_
  refine .ite (fun _ => dropSets_tidily d b _) fun _ => .andThen (profileAllInstances_tidily _) fun _ => ?_
  refine .ite (fun _ => dropSets_tidily d b _) fun _ => ?_
  refine .andThen (storeBank_tidily d b (by exact fun _ => ⟨rfl, rfl⟩)) fun _ => ?_
  refine .andThen (storeDevice_tidily d fun s hs => ?_) fun _ => trivial
  exact hs.foldl_setSample (f := fun s v => { v with passCount := (s.bank b).passCount })
    (fun _ v hv => ⟨hv.sampled, hv.window⟩) _

private theorem prepareBank_tidily (d b : Nat) : Tidily (prepareBank P d b : Routine ε Bool) fun _ => True := by
  refine .andThen (loadDevice_tidily d) fun state => ?_
  split
  · exact .andThen (storeBank_tidily d b (by exact fun _ => ⟨rfl, rfl⟩)) fun _ => trivial
  · refine .andThen (ask_tidily trivial) fun created => ?_
    obtain ⟨rc, sets⟩ := created
    cases sets with
    | none => exact .andThen (storeBank_tidily d b (by exact fun _ => ⟨rfl, rfl⟩)) fun _ => trivial
    | some sets =>
      refine .ite (fun _ => prepareSets_tidily P d b _) fun _ => ?_
      exact .andThen (storeBank_tidily d b (by exact fun _ => ⟨rfl, rfl⟩)) fun _ => trivial

private theorem lookupMetric_tidily (d : Nat) (m : Metric) :
    Tidily (lookupMetric P d m : Routine ε Unit) fun _ => True := by
  have hstore : ∀ v : MetricSample, v.sampledAtUnixMs = 0 → v.windowNs = 0 →
      Tidily (storeDevice d fun state => state.setSample m v : Routine ε Unit) fun _ => True :=
    fun v hsampled hwindow => storeDevice_tidily d
      fun s hs => hs.setSample m (MetricSample.fits_of_zero hsampled hwindow)
  refine .andThen (ask_tidily trivial) fun _ => .ite (fun _ => hstore _ rfl rfl) fun _ => ?_
  refine .andThen (ask_tidily trivial) fun _ => .ite (fun _ => hstore _ rfl rfl) fun _ => hstore _ rfl rfl

/-- The banks get their names and their metrics. -/
theorem prepareDevice_tidily (d : Nat) : Tidily (prepareDevice P d) fun _ => True := by
  refine .andThen (ask_tidily trivial) fun _ => .ite (fun _ => trivial) fun _ => ?_
  refine .andThen (ask_tidily trivial) fun _ => .ite (fun _ => .andThen (ask_tidily trivial) fun _ => trivial)
    fun _ => ?_
  refine .andThen (.forEach (fun m => lookupMetric_tidily P d m) _) fun _ => ?_
  refine .andThen (storeDevice_tidily d fun s hs => ⟨.inr rfl, hs.samples⟩) fun _ => ?_
  refine .andThen (loadDevice_tidily d) fun state => ?_
  refine .andThen (.forEach (fun b => ?_) _) fun _ => ?_
  · exact .andThen (prepareBank_tidily P d b) fun _ => trivial
  · exact .andThen (ask_tidily trivial) fun _ => trivial

private theorem discoverDevice_tidily (d : Nat) : Tidily (discoverDevice P d) fun _ => True := by
  have hstore : ∀ f : DeviceState → DeviceState, (∀ s, (f s).banks = s.banks ∧ (f s).samples = s.samples) →
      Tidily (storeDevice d f : Routine String Unit) fun _ => True := fun f hf => storeOther_tidily d hf
  refine .andThen (ask_tidily trivial) fun _ => .ite (fun _ => trivial) fun _ => ?_
  refine .andThen (ask_tidily trivial) fun _ => .andThen (.when fun _ => hstore _ fun _ => ⟨rfl, rfl⟩) fun _ => ?_
  refine .andThen (ask_tidily trivial) fun _ => .andThen ?_ fun _ => ?_
  · exact .ite (fun _ => hstore _ fun _ => ⟨rfl, rfl⟩) fun _ => hstore _ fun _ => ⟨rfl, rfl⟩
  refine .andThen (ask_tidily trivial) fun _ => .andThen (hstore _ fun _ => ⟨rfl, rfl⟩) fun _ => ?_
  refine .ite (fun _ => trivial) fun _ => .andThen (ask_tidily trivial) fun _ => ?_
  refine .andThen (hstore _ fun _ => ⟨rfl, rfl⟩) fun _ => .ite (fun _ => trivial) fun _ => ?_
  exact .andThen (ask_tidily trivial) fun _ => .ite (fun _ => trivial) fun _ => hstore _ fun _ => ⟨rfl, rfl⟩

private theorem selectFrom_tidily (d : Nat) (is : List Nat) :
    Tidily (selectFrom P d is : Routine ε Bool) fun _ => True := by
  induction is with
  | nil => trivial
  | cons i is ih =>
    refine .andThen (enableBank_tidily P d i) fun selected => .ite (fun _ => ?_) fun _ => ih
    exact .andThen (storeOther_tidily d (by exact fun _ => ⟨rfl, rfl⟩)) fun _ => trivial

private theorem selectFirstBank_tidily (d : Nat) : Tidily (selectFirstBank P d : Routine ε Bool) fun _ => True := by
  refine .andThen (ask_tidily trivial) fun _ => .ite (fun _ => ?_) fun _ => ?_
  · exact .andThen (storeOther_tidily d (by exact fun _ => ⟨rfl, rfl⟩)) fun _ => trivial
  · refine .andThen (loadDevice_tidily d) fun state => .andThen (selectFrom_tidily P d _) fun selected => ?_
    refine .andThen (.when fun _ => storeOther_tidily d (by exact fun _ => ⟨rfl, rfl⟩)) fun _ => ?_
    exact .andThen (ask_tidily trivial) fun _ => trivial

private theorem initializeDevice_tidily (d : Nat) : Tidily (initializeDevice P d : Routine ε Unit) fun _ => True := by
  have hnew : TidyRequest (.store fun c => { c with devices := c.devices ++ [{ ordinal := d }] }) := by
    intro c hc s hs
    rcases List.mem_append.1 hs with hold | hnew
    · exact hc s hold
    · obtain rfl : s = { ordinal := d } := by simpa using hnew
      exact ⟨.inl rfl, fun _ _ hv => nomatch hv⟩
  refine .andThen (ask_tidily hnew) fun _ => ?_
  refine .bind (Q := fun _ => True) (.attempt (Q := fun _ => True) ?_ (fun _ _ => trivial) fun _ => trivial) ?_
  · exact .andThen (discoverDevice_tidily P d) fun _ => prepareDevice_tidily P d
  · rintro (error | ⟨⟩) -
    · exact storeOther_tidily d (by exact fun _ => ⟨rfl, rfl⟩)
    · refine .andThen (selectFirstBank_tidily P d) fun ready => ?_
      exact storeOther_tidily d (by exact fun _ => ⟨rfl, rfl⟩)

end

/-! ### Runs -/

/-- The environment in which time stamps and clock are within 63 bits. -/
def timedEnv : Env Op Op.Answer World := fun w o r w' => env w o r w' ∧ Timed o r

private theorem allowed_timedEnv : Allowed False timedEnv := fun _ _ _ _ hr => ⟨hr.1, fun hf => hf.elim⟩

/-- Assignments keep the devices tidy, and a report is written while their flags are consistent. -/
def Reported : Env Op Op.Answer World := fun w o _ _ =>
  match o with
  | .store f => ∀ c : Collector, c.Tidy → (f c).Tidy
  | .writeReport _ => AllOk False w
  | _ => True

theorem TidyRequest.reported {o : Op} (ho : TidyRequest o) (w w' : World) (r : o.Answer) : Reported w o r w' := by
  cases o <;> first | exact ho | exact ho.elim

section

variable {α : Type} {p : Routine Empty α} {w : World} {X : Empty → World → Prop} (P : Platform)

theorem Tidily.meets {Q : α → Prop} (h : Tidily p Q) : p.Meets timedEnv Reported (fun a _ => Q a) X w :=
  (Prog.Meets.comap (fun _ => ()) (fun _ _ _ _ hr => hr.2) (fun w _ r w' _ ho => ho.reported w w' r) h).imp
    (fun _ _ ha => ha) fun e _ _ => e.elim

/-- A routine that keeps the flags consistent and is tidy. -/
theorem Tidily.meets_and {Q : α → World → Prop} (h : Tidily p fun _ => True)
    (hflags : p.Meets timedEnv (Guarantee False) Q X w) : p.Meets timedEnv Reported Q X w :=
  (hflags.both (Tidily.meets (X := X) h)).mono (fun _ _ _ _ _ hg => hg.2) (fun _ _ hq => hq.1) fun _ _ hx => hx.1

private theorem writeReport_meets (h : AllOk False w) (ready : Bool) :
    (call (.writeReport ready) : Routine Empty Unit).Meets timedEnv Reported (fun _ _ => True) X w :=
  fun _ _ _ => ⟨h, trivial⟩

private theorem report_reported (h : AllOk False w) :
    (report : Routine Empty Unit).Meets timedEnv Reported (fun _ _ => True) X w := by
  refine Prog.meets_bind.2 ?_
  rintro c w' ⟨⟨rfl, rfl⟩, -⟩
  exact ⟨trivial, writeReport_meets h _⟩

private theorem initializeFailed_reported (h : AllOk False w) (detail : String) :
    (initializeFailed detail : Routine Empty Bool).Meets timedEnv Reported (fun _ _ => True) X w := by
  have hstore := allowed_timedEnv.calm_meets (w := w) (X := X) (calm_of_steady (setDetail_steady detail))
    (Q := fun _ w' => AllOk False w') fun _ _ hw => h.retires hw
  refine Prog.meets_bind.2 (((setDetail_tidily detail).meets_and hstore).imp (fun _ w' h' => ?_) fun _ _ hx => hx)
  exact Prog.meets_bind.2 ((writeReport_meets h' false).imp (fun _ _ _ => trivial) fun _ _ hx => hx)

private theorem initializeImpl_reported (h : AllOk False w) (hlen : w.mem.devices.length = 0) :
    (initializeImpl P : Routine Empty Bool).Meets timedEnv Reported (fun _ _ => True) X w := by
  refine Prog.meets_bind.2 ?_
  rintro rc w' ⟨rfl, -⟩
  refine ⟨trivial, Prog.meets_ite.2 ⟨fun _ => initializeFailed_reported h _, fun _ => Prog.meets_bind.2 ?_⟩⟩
  rintro ⟨rc', count⟩ w'' ⟨rfl, -⟩
  refine ⟨trivial, Prog.meets_ite.2 ⟨fun _ => initializeFailed_reported h _, fun _ => ?_⟩⟩
  refine Prog.meets_ite.2 ⟨fun _ => initializeFailed_reported h _, fun _ => Prog.meets_bind.2 ?_⟩
  have hloop : Tidily (Prog.forEach (initializeDevice P) (List.range count) : Routine Empty Unit) fun _ => True :=
    .forEach (fun d => initializeDevice_tidily P d) _
  refine (hloop.meets_and (initializeDevices_allOk P allowed_timedEnv h hlen count)).imp (fun _ w₁ h₁ => ?_)
    fun _ _ hx => hx
  refine Prog.meets_bind.2 ?_
  rintro c w₂ ⟨⟨rfl, rfl⟩, -⟩
  refine ⟨trivial, Prog.meets_bind.2 ?_⟩
  have hstore := fun detail => allowed_timedEnv.calm_meets (w := w₂) (X := X) (calm_of_steady (setDetail_steady detail))
    (Q := fun _ w' => AllOk False w') fun _ _ hw => h₁.retires hw
  refine ((setDetail_tidily _).meets_and (hstore _)).imp (fun _ w₃ h₃ => ?_) fun _ _ hx => hx
  exact Prog.meets_bind.2 ((writeReport_meets h₃ _).imp (fun _ _ _ => trivial) fun _ _ hx => hx)

/-- The device work left writes its reports while the flags are consistent. -/
def WorkerPc.Reports (pc : WorkerPc) (w : World) : Prop :=
  match pc with
  | .starting p => p.Meets timedEnv Reported (fun _ _ => True) (fun _ _ => True) w
  | .sampling p => p.Meets timedEnv Reported (fun _ _ => True) (fun _ _ => True) w
  | .rotating p => p.Meets timedEnv Reported (fun _ _ => True) (fun _ _ => True) w
  | .reporting p => p.Meets timedEnv Reported (fun _ _ => True) (fun _ _ => True) w
  | .closing p => p.Meets timedEnv Reported (fun _ _ => True) (fun _ _ => True) w
  | _ => True

theorem WorkerPc.Reports.next {sh sh' : Shared} {pc pc' : WorkerPc} (h : pc.Fine False timedEnv w)
    (hreports : pc.Reports w) (hnext : workerNext P sh pc = some (pc', sh')) : pc'.Reports w := by
  have hsample : (WorkerPc.sampling (sample P)).Reports w := (sample_tidily P).meets
  have hrotate : (WorkerPc.rotating (rotate P)).Reports w := (rotate_tidily P).meets
  have hreport (h : AllOk False w) : (WorkerPc.reporting report).Reports w := report_reported h
  have hlast (h : AllOk False w) : (WorkerPc.closing lastReport).Reports w :=
    (writeReport_meets h _).imp (fun _ _ _ => trivial) fun _ _ hx => hx
  revert hnext h hreports
  fun_cases workerNext P sh pc <;> grind -ring -linarith [WorkerPc.Fine, WorkerPc.Reports, Prog.Meets]

theorem WorkerPc.Reports.answer {pc : WorkerPc} {o : Op} {k : o.Answer → WorkerPc} {w' : World} {r : o.Answer}
    (h : pc.Reports w) (hask : pc.Asks o k) (hr : timedEnv w o r w') : Reported w o r w' ∧ (k r).Reports w' := by
  cases hask with
  | starting => exact h r w' hr
  | sampling => exact h r w' hr
  | rotating => exact h r w' hr
  | reporting => exact h r w' hr
  | closing => exact h r w' hr

private theorem tidy_answer {o : Op} {r : o.Answer} {w' : World} (h : w.mem.Tidy) (hreported : Reported w o r w')
    (hr : timedEnv w o r w') : w'.mem.Tidy := by
  obtain ⟨henv, -⟩ := hr
  cases o <;> simp only [env] at henv
  case store f =>
    rw [henv]
    exact hreported _ h
  case load => exact henv.2 ▸ h
  case eventGroupSetEnable => split at henv <;> exact henv ▸ h
  case eventGroupSetDisable => split at henv <;> exact henv ▸ h
  all_goals exact henv ▸ h

end

/-- What holds in every state of a run. -/
structure State.Reports (s : State) : Prop where
  tidy : s.world.mem.Tidy
  fine : s.worker.Fine False timedEnv s.world
  reports : s.worker.Reports s.world

theorem Reachable.reports {P : Platform} {C : State → Prop} {n : Nat} {s : State} (h : Reachable P timedEnv C n s) :
    s.Reports := by
  induction h with
  | initial =>
    refine ⟨fun _ hs => absurd hs List.not_mem_nil, ?_, ?_⟩
    · exact initializeImpl_allOk P allowed_timedEnv (allOk_initial False) rfl
    · exact initializeImpl_reported P (allOk_initial False) rfl
  | step hreach hs _ ih =>
    have hfine := (hs.fine allowed_timedEnv ih.fine).2
    cases hs with
    | worker hnext => exact ⟨ih.tidy, hfine, ih.reports.next P ih.fine hnext⟩
    | request hask hanswer =>
      obtain ⟨hreported, hreports⟩ := ih.reports.answer hask hanswer
      exact ⟨tidy_answer ih.tidy hreported hanswer, hfine, hreports⟩
    | gateNotify _ => exact ⟨ih.tidy, hfine, trivial⟩
    | _ => exact ⟨ih.tidy, hfine, ih.reports⟩

/-- The worker, which writes the reports, is between two pieces of device work or about to write one. -/
def State.Settled (s : State) : Prop := s.worker.Between ∨ ∃ ready k, s.worker.Asks (.writeReport ready) k

/-- The flags are consistent where a report can be written. -/
theorem State.Reports.consistent {s : State} (h : s.Reports) (hsettled : s.Settled) (d : Nat) :
    (s.world.mem.device d).Consistent := by
  rcases hsettled with hbetween | ⟨ready, k, hask⟩
  · exact (h.fine.allOk hbetween d).consistent
  · have hok : AllOk False s.world := (h.reports.answer hask (r := ()) ⟨rfl, trivial⟩).1
    exact (hok d).consistent

/-- The banks of a device that has any. -/
theorem DeviceState.Tidy.cases_banks {s : DeviceState} (h : s.Tidy) :
    s.banks = [] ∨ ∃ core tensor, s.banks = [core, tensor] ∧
    core.name = "core_dram" ∧ core.metricNames = Metric.coreDram ∧ tensor.name = "tensor" ∧
    tensor.metricNames = Metric.tensor := by
  refine h.banks.imp id fun hnames => ?_
  have hlength : s.banks.length = 2 := by simpa [bankNames] using congrArg List.length hnames
  obtain ⟨core, tensor, hbanks⟩ := List.length_eq_two.1 hlength
  rw [hbanks] at hnames
  simp only [bankNames, List.map_cons, List.map_nil, List.cons.injEq, Prod.mk.injEq, and_true] at hnames
  exact ⟨core, tensor, hbanks, hnames.1.1, hnames.1.2, hnames.2.1, hnames.2.2⟩

end CmpUnlocker.Cupti
