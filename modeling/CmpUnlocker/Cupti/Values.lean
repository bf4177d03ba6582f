import CmpUnlocker.Cupti.Flags

/-!
# The texts of the values

A value of a sample is inserted into the report as it is.  In every state of a run it is `null` or the text that
`metric_value_json` made of a value of CUPTI.
-/

namespace CmpUnlocker.Cupti

open Interaction

/-- What `value` of a sample can be. -/
def Printed (P : Platform) (value : String) : Prop :=
  value = "null" ∨ ∃ kind bits, value = metricValueJson P kind bits

def DeviceState.Printed (P : Platform) (s : DeviceState) : Prop := ∀ m v, s.samples m = some v → Cupti.Printed P v.value

def Collector.Printed (P : Platform) (c : Collector) : Prop := ∀ s ∈ c.devices, s.Printed P

/-- An assignment that leaves every value one of these. -/
def Prints (P : Platform) : Op → Prop
  | .store f => ∀ c : Collector, c.Printed P → (f c).Printed P
  | _ => True

section

variable {ε α : Type} (P : Platform)

/-! ### Assignments -/

variable {P} in
theorem DeviceState.Printed.sample {s : DeviceState} (h : s.Printed P) (m : Metric) :
    Cupti.Printed P (s.sample m).value := by
  unfold DeviceState.sample
  cases hv : s.samples m with
  | none => exact .inl rfl
  | some v => exact h m v hv

variable {P} in
theorem DeviceState.Printed.setSample {s : DeviceState} (h : s.Printed P) (m : Metric) {v : MetricSample}
    (hv : Cupti.Printed P v.value) : (s.setSample m v).Printed P := by
  intro m' v' hv'
  simp only [DeviceState.setSample] at hv'
  split at hv'
  · cases hv'
    exact hv
  · exact h m' v' hv'

variable {P} in
theorem DeviceState.Printed.foldl_setSample {s : DeviceState} (h : s.Printed P)
    {f : DeviceState → MetricSample → MetricSample}
    (hf : ∀ s v, Cupti.Printed P v.value → Cupti.Printed P (f s v).value) (ms : List Metric) :
    (ms.foldl (fun s m => s.setSample m (f s (s.sample m))) s).Printed P := by
  induction ms generalizing s with
  | nil => exact h
  | cons m ms ih => exact ih (h.setSample m (hf _ _ (h.sample m)))

private theorem call_prints {o : Op} (h : Prints P o) : (call o : Routine ε o.Answer).Uses (Prints P) :=
  Prog.uses_request.2 h

private theorem storeDevice_prints (d : Nat) {f : DeviceState → DeviceState}
    (hf : ∀ s : DeviceState, s.Printed P → (f s).Printed P) :
    (storeDevice d f : Routine ε Unit).Uses (Prints P) := by
  refine call_prints P (o := .store _) fun c hc s hs => ?_
  obtain ⟨i, hi⟩ := List.mem_iff_getElem?.1 hs
  rw [Collector.modifyDevice, List.getElem?_modify] at hi
  obtain ⟨s₀, hs₀, rfl⟩ := Option.map_eq_some_iff.1 hi
  have hprinted := hc s₀ (List.mem_of_getElem? hs₀)
  split
  · exact hf s₀ hprinted
  · exact hprinted

/-- Assignments to other members. -/
theorem storeOther_prints (d : Nat) {f : DeviceState → DeviceState} (hf : ∀ s, (f s).samples = s.samples) :
    (storeDevice d f : Routine ε Unit).Uses (Prints P) :=
  storeDevice_prints P d fun s hs m v hv => hs m v ((congrFun (hf s) m).symm.trans hv)

private theorem storeBank_prints (d b : Nat) (f : MetricBank → MetricBank) :
    (storeBank d b f : Routine ε Unit).Uses (Prints P) :=
  storeDevice_prints P d fun _ hs m v hv => hs m v hv

private theorem storeSample_prints (d : Nat) (m : Metric) {v : MetricSample} (hv : Cupti.Printed P v.value) :
    (storeDevice d fun s => s.setSample m v : Routine ε Unit).Uses (Prints P) :=
  storeDevice_prints P d fun _ hs => hs.setSample m hv

private theorem load_prints : (load : Routine ε Collector).Uses (Prints P) := call_prints P (o := .load) trivial

private theorem loadDevice_prints (d : Nat) : (loadDevice d : Routine ε DeviceState).Uses (Prints P) :=
  (load_prints P).bind fun _ => trivial

private theorem loadBank_prints (d b : Nat) : (loadBank d b : Routine ε MetricBank).Uses (Prints P) :=
  (load_prints P).bind fun _ => trivial

/-! ### Reading -/

private theorem totalInstanceCount_prints (d domain n : Nat) :
    (totalInstanceCount d domain n : Routine ε Nat).Uses (Prints P) := by
  refine .bind (call_prints P trivial) fun _ => Prog.uses_ite.2 ⟨fun _ => ?_, fun _ => trivial⟩
  exact .bind (call_prints P trivial) fun _ => Prog.uses_ite.2 ⟨fun _ => trivial, fun _ => trivial⟩

private theorem normalizedEventValue_prints (d group event : Nat) :
    (normalizedEventValue P d group event).Uses (Prints P) := by
  refine .bind (call_prints P trivial) fun _ => Prog.uses_ite.2 ⟨fun _ => trivial, fun _ => ?_⟩
  refine .bind (call_prints P trivial) fun _ => Prog.uses_ite.2 ⟨fun _ => trivial, fun _ => ?_⟩
  refine .bind (totalInstanceCount_prints P _ _ _) fun _ => .bind (call_prints P trivial) fun _ => ?_
  refine Prog.uses_ite.2 ⟨fun _ => trivial, fun _ => Prog.uses_ite.2 ⟨fun _ => trivial, fun _ => ?_⟩⟩
  split
  · trivial
  · trivial

private theorem readEvents_prints (d group : Nat) (events : List Nat) (deltas : Deltas) :
    (readEvents P d group events deltas).Uses (Prints P) := by
  induction events generalizing deltas with
  | nil => trivial
  | cons event events ih => exact .bind (normalizedEventValue_prints P d group event) fun _ => ih _

private theorem readGroups_prints (d : Nat) (groups : List Nat) (deltas : Deltas) :
    (readGroups P d groups deltas).Uses (Prints P) := by
  induction groups generalizing deltas with
  | nil => trivial
  | cons group groups ih =>
    refine .bind (call_prints P trivial) fun _ => Prog.uses_ite.2 ⟨fun _ => trivial, fun _ => ?_⟩
    refine .bind (call_prints P trivial) fun _ => Prog.uses_ite.2 ⟨fun _ => trivial, fun _ => ?_⟩
    exact .bind (readEvents_prints P d group _ _) fun _ => ih _

private theorem metricInputs_prints (v : MetricSample) (deltas : Deltas) : (metricInputs v deltas).Uses (Prints P) := by
  refine .bind (call_prints P trivial) fun _ => Prog.uses_ite.2 ⟨fun _ => trivial, fun _ => ?_⟩
  refine .bind (call_prints P trivial) fun _ => Prog.uses_ite.2 ⟨fun _ => trivial, fun _ => ?_⟩
  split
  · trivial
  · trivial

private theorem evaluateMetric_prints (d : Nat) (v : MetricSample) (deltas : Deltas) (durationNs : Nat) :
    (evaluateMetric P d v deltas durationNs).Uses (Prints P) := by
  refine .bind (metricInputs_prints P v deltas) fun _ => .bind (call_prints P trivial) fun _ => ?_
  exact Prog.uses_ite.2 ⟨fun _ => trivial, fun _ => .bind (call_prints P trivial) fun _ => trivial⟩

/-- The new value of an evaluation. -/
theorem evaluateMetric_gives (d : Nat) (v : MetricSample) (deltas : Deltas) (durationNs : Nat) :
    (evaluateMetric P d v deltas durationNs).Gives fun v => Printed P v.value := by
  refine .bind _ fun _ => .bind _ fun _ => Prog.Gives.ite (fun _ => trivial) fun _ => .bind _ fun _ => ?_
  exact .inr ⟨_, _, rfl⟩

private theorem publishMetric_prints (d : Nat) (m : Metric) (deltas : Deltas) (durationNs : Nat) :
    (publishMetric P d m deltas durationNs : Routine ε Bool).Uses (Prints P) := by
  refine .bind (loadDevice_prints P d) fun state => .bind (storeSample_prints P d m (.inl rfl)) fun _ => ?_
  refine .bind_attempt (evaluateMetric_prints P d _ deltas durationNs) (evaluateMetric_gives P d _ deltas durationNs)
    (fun v hv => ?_) fun e => ?_
  · exact .bind (storeSample_prints P d m hv) fun _ => trivial
  · exact .bind (storeSample_prints P d m (.inl rfl)) fun _ => trivial

private theorem publishMetrics_prints (d : Nat) (deltas : Deltas) (durationNs : Nat) (ms : List Metric) :
    (publishMetrics P d deltas durationNs ms : Routine ε Nat).Uses (Prints P) := by
  induction ms with
  | nil => trivial
  | cons m ms ih => exact .bind (publishMetric_prints P d m deltas durationNs) fun _ => .bind ih fun _ => trivial

private theorem readInterval_prints (d b : Nat) (bank : MetricBank) (endedNs : Nat) (publishEmpty : Bool) :
    (readInterval P d b bank endedNs publishEmpty : Routine ε Nat).Uses (Prints P) := by
  refine .bind (readGroups_prints P d _ _).attempt fun read => .bind (storeBank_prints P d b _) fun _ => ?_
  cases read with
  | error error =>
    refine .bind (storeBank_prints P d b _) fun _ => .bind (storeDevice_prints P d fun s hs => ?_) fun _ => trivial
    exact hs.foldl_setSample (f := fun _ v => { v with valid := false, value := "null", error := error })
      (fun _ _ _ => .inl rfl) _
  | ok deltas =>
    refine Prog.uses_ite.2 ⟨fun _ => trivial, fun _ => .bind (publishMetrics_prints P d deltas _ _) fun _ => ?_⟩
    exact .bind (storeBank_prints P d b _) fun _ => trivial

private theorem readPushed_prints (d b : Nat) (bank : MetricBank) (publishEmpty : Bool) :
    (readPushed P d b bank publishEmpty : Routine ε Nat).Uses (Prints P) := by
  refine .bind (call_prints P trivial) fun _ => Prog.uses_ite.2 ⟨fun _ => ?_, fun _ => ?_⟩
  · exact .bind (storeBank_prints P d b _) fun _ => trivial
  · exact readInterval_prints P d b bank _ publishEmpty

private theorem readBank_prints (d b : Nat) (publishEmpty : Bool) :
    (readBank P d b publishEmpty : Routine ε Nat).Uses (Prints P) := by
  refine .bind (loadBank_prints P d b) fun bank => Prog.uses_ite.2 ⟨fun _ => ?_, fun _ => ?_⟩
  · exact .bind (storeBank_prints P d b _) fun _ => trivial
  · refine .bind (call_prints P trivial) fun _ => Prog.uses_ite.2 ⟨fun _ => ?_, fun _ => ?_⟩
    · exact .bind (storeBank_prints P d b _) fun _ => trivial
    · exact .bind (readPushed_prints P d b bank publishEmpty) fun _ => .bind (call_prints P trivial) fun _ => trivial

/-! ### Sampling and rotating -/

private theorem countFailure_prints (d b : Nat) : (countFailure d b : Routine ε Unit).Uses (Prints P) := by
  refine .bind (storeBank_prints P d b _) fun _ => .bind (loadBank_prints P d b) fun _ => ?_
  exact Prog.uses_ite.2 ⟨fun _ => .bind (storeBank_prints P d b _) fun _ => call_prints P trivial, fun _ => trivial⟩

private theorem sampleDevice_prints (d : Nat) : (sampleDevice P d : Routine ε Nat).Uses (Prints P) := by
  refine .bind (loadDevice_prints P d) fun _ => Prog.uses_ite.2 ⟨fun _ => trivial, fun _ => ?_⟩
  refine Prog.uses_ite.2 ⟨fun _ => trivial, fun _ => ?_⟩
  refine .bind (readBank_prints P d _ true) fun _ => .bind ?_ fun _ => trivial
  exact Prog.uses_ite.2 ⟨fun _ => storeBank_prints P d _ _, fun _ => countFailure_prints P d _⟩

private theorem sampleDevices_prints (ds : List Nat) : (sampleDevices P ds : Routine ε Nat).Uses (Prints P) := by
  induction ds with
  | nil => trivial
  | cons d ds ih => exact .bind (sampleDevice_prints P d) fun _ => .bind ih fun _ => trivial

private theorem setDetail_prints (detail : String) :
    (store fun c => { c with detail := detail } : Routine ε Unit).Uses (Prints P) :=
  call_prints P (o := .store _) fun _ hc => hc

private theorem sample_prints : (sample P : Routine ε Unit).Uses (Prints P) :=
  .bind (load_prints P) fun _ => .bind (sampleDevices_prints P _) fun _ => setDetail_prints P _

private theorem enableBank_prints (d b : Nat) : (enableBank P d b : Routine ε Bool).Uses (Prints P) := by
  refine .bind (loadBank_prints P d b) fun _ => Prog.uses_ite.2 ⟨fun _ => trivial, fun _ => ?_⟩
  refine .bind (call_prints P trivial) fun _ => Prog.uses_ite.2 ⟨fun _ => ?_, fun _ => ?_⟩
  · exact .bind (storeBank_prints P d b _) fun _ => trivial
  · refine .bind (storeBank_prints P d b _) fun _ => .bind (call_prints P trivial) fun _ => ?_
    refine Prog.uses_ite.2 ⟨fun _ => .bind (call_prints P trivial) fun _ => ?_, fun _ => ?_⟩
    · exact .bind (storeBank_prints P d b _) fun _ => trivial
    · exact .bind (storeBank_prints P d b _) fun _ => trivial

private theorem disableBank_prints (d b : Nat) : (disableBank P d b : Routine ε Unit).Uses (Prints P) := by
  refine .bind (loadBank_prints P d b) fun _ => Prog.uses_ite.2 ⟨fun _ => trivial, fun _ => ?_⟩
  refine .bind (call_prints P trivial) fun _ => .bind (.when fun _ => storeBank_prints P d b _) fun _ => ?_
  exact storeBank_prints P d b _

private theorem selectCandidate_prints (d : Nat) (is : List Nat) :
    (selectCandidate P d is : Routine ε Bool).Uses (Prints P) := by
  induction is with
  | nil => trivial
  | cons i is ih =>
    refine .bind (loadBank_prints P d i) fun _ => Prog.uses_ite.2 ⟨fun _ => ih, fun _ => ?_⟩
    refine .bind (enableBank_prints P d i) fun _ => Prog.uses_ite.2 ⟨fun _ => ?_, fun _ => ?_⟩
    · exact .bind (storeOther_prints P d (by exact fun _ => rfl)) fun _ => trivial
    · exact .bind (storeBank_prints P d i _) fun _ => ih

private theorem switchBank_prints (d : Nat) : (switchBank P d : Routine ε Bool).Uses (Prints P) := by
  refine .bind (loadDevice_prints P d) fun _ => .bind (disableBank_prints P d _) fun _ => ?_
  refine .bind (selectCandidate_prints P d _) fun _ => ?_
  exact .bind (.when fun _ => storeOther_prints P d (by exact fun _ => rfl)) fun _ => trivial

private theorem rotateDevice_prints (d : Nat) : (rotateDevice P d : Routine ε Bool).Uses (Prints P) := by
  refine .bind (loadDevice_prints P d) fun _ => Prog.uses_ite.2 ⟨fun _ => trivial, fun _ => ?_⟩
  refine .bind (.when fun _ => .bind (readBank_prints P d _ false) fun _ => trivial) fun _ => ?_
  refine .bind (call_prints P trivial) fun _ => Prog.uses_ite.2 ⟨fun _ => ?_, fun _ => ?_⟩
  · exact .bind (storeOther_prints P d (by exact fun _ => rfl)) fun _ => trivial
  · exact .bind (switchBank_prints P d) fun _ => .bind (call_prints P trivial) fun _ => trivial

private theorem rotateDevices_prints (ds : List Nat) : (rotateDevices P ds : Routine ε Bool).Uses (Prints P) := by
  induction ds with
  | nil => trivial
  | cons d ds ih => exact .bind (rotateDevice_prints P d) fun _ => .bind ih fun _ => trivial

private theorem rotate_prints : (rotate P : Routine ε Unit).Uses (Prints P) :=
  .bind (load_prints P) fun _ => .bind (rotateDevices_prints P _) fun _ => setDetail_prints P _

private theorem report_prints : (report : Routine ε Unit).Uses (Prints P) :=
  .bind (load_prints P) fun _ => call_prints P trivial

private theorem lastReport_prints : (lastReport : Routine ε Unit).Uses (Prints P) := call_prints P trivial

/-! ### Initializing -/

private theorem profileAllInstances_prints (groups : List Nat) :
    (profileAllInstances groups : Routine ε Code).Uses (Prints P) := by
  induction groups with
  | nil => trivial
  | cons group groups ih => exact .bind (call_prints P trivial) fun _ => Prog.uses_ite.2 ⟨fun _ => ih, fun _ => trivial⟩

private theorem dropSets_prints (d b : Nat) (error : String) :
    (dropSets d b error : Routine ε Bool).Uses (Prints P) := by
  refine .bind (storeBank_prints P d b _) fun _ => .bind (call_prints P trivial) fun _ => ?_
  exact .bind (storeBank_prints P d b _) fun _ => trivial

private theorem prepareSets_prints (d b : Nat) (sets : EventGroupSets) :
    (prepareSets P d b sets : Routine ε Bool).Uses (Prints P) := by
  refine .bind (storeBank_prints P d b _) fun _ => Prog.uses_ite.2 ⟨fun _ => dropSets_prints P d b _, fun _ => ?_⟩
  refine .bind (profileAllInstances_prints P _) fun _ => ?_
  refine Prog.uses_ite.2 ⟨fun _ => dropSets_prints P d b _, fun _ => .bind (storeBank_prints P d b _) fun _ => ?_⟩
  refine .bind (storeDevice_prints P d fun s hs => ?_) fun _ => trivial
  exact hs.foldl_setSample (f := fun s v => { v with passCount := (s.bank b).passCount }) (fun _ _ hv => hv) _

private theorem prepareBank_prints (d b : Nat) : (prepareBank P d b : Routine ε Bool).Uses (Prints P) := by
  refine .bind (loadDevice_prints P d) fun state => ?_
  split
  · exact .bind (storeBank_prints P d b _) fun _ => trivial
  · refine .bind (call_prints P trivial) fun created => ?_
    obtain ⟨rc, sets⟩ := created
    cases sets with
    | none => exact .bind (storeBank_prints P d b _) fun _ => trivial
    | some sets =>
      refine Prog.uses_ite.2 ⟨fun _ => prepareSets_prints P d b _, fun _ => ?_⟩
      exact .bind (storeBank_prints P d b _) fun _ => trivial

private theorem lookupMetric_prints (d : Nat) (m : Metric) : (lookupMetric P d m : Routine ε Unit).Uses (Prints P) := by
  refine .bind (call_prints P trivial) fun _ => Prog.uses_ite.2 ⟨fun _ => ?_, fun _ => ?_⟩
  · exact storeSample_prints P d m (.inl rfl)
  refine .bind (call_prints P trivial) fun _ => Prog.uses_ite.2 ⟨fun _ => ?_, fun _ => ?_⟩
  · exact storeSample_prints P d m (.inl rfl)
  · exact storeSample_prints P d m (.inl rfl)

private theorem prepareDevice_prints (d : Nat) : (prepareDevice P d).Uses (Prints P) := by
  refine .bind (call_prints P trivial) fun _ => Prog.uses_ite.2 ⟨fun _ => trivial, fun _ => ?_⟩
  refine .bind (call_prints P trivial) fun _ => Prog.uses_ite.2 ⟨fun _ => ?_, fun _ => ?_⟩
  · exact .bind (call_prints P trivial) fun _ => trivial
  refine .bind (.forEach (fun m => lookupMetric_prints P d m) _) fun _ => ?_
  refine .bind (storeOther_prints P d (by exact fun _ => rfl)) fun _ => .bind (loadDevice_prints P d) fun _ => ?_
  have hbank : ∀ b, (do let _ ← prepareBank P d b; return () : Routine String Unit).Uses (Prints P) :=
    fun b => .bind (prepareBank_prints P d b) fun _ => trivial
  exact .bind (.forEach hbank _) fun _ => .bind (call_prints P trivial) fun _ => trivial

private theorem storePciBusId_prints (d : Nat) (rc : Code) (pciBusId : String) :
    (storePciBusId P d rc pciBusId : Routine ε Unit).Uses (Prints P) :=
  Prog.uses_ite.2 ⟨fun _ => storeOther_prints P d (by exact fun _ => rfl),
    fun _ => storeOther_prints P d (by exact fun _ => rfl)⟩

private theorem discoverDevice_prints (d : Nat) : (discoverDevice P d).Uses (Prints P) := by
  refine .bind (call_prints P trivial) fun _ => Prog.uses_ite.2 ⟨fun _ => trivial, fun _ => ?_⟩
  refine .bind (call_prints P trivial) fun _ => ?_
  refine .bind (.when fun _ => storeOther_prints P d (by exact fun _ => rfl)) fun _ => ?_
  refine .bind (call_prints P trivial) fun _ => .bind (storePciBusId_prints P d _ _) fun _ => ?_
  refine .bind (call_prints P trivial) fun _ => .bind (storeOther_prints P d (by exact fun _ => rfl)) fun _ => ?_
  refine Prog.uses_ite.2 ⟨fun _ => trivial, fun _ => .bind (call_prints P trivial) fun _ => ?_⟩
  refine .bind (storeOther_prints P d (by exact fun _ => rfl)) fun _ => Prog.uses_ite.2 ⟨fun _ => trivial, fun _ => ?_⟩
  refine .bind (call_prints P trivial) fun _ => Prog.uses_ite.2 ⟨fun _ => trivial, fun _ => ?_⟩
  exact storeOther_prints P d (by exact fun _ => rfl)

private theorem selectFrom_prints (d : Nat) (is : List Nat) : (selectFrom P d is : Routine ε Bool).Uses (Prints P) := by
  induction is with
  | nil => trivial
  | cons i is ih =>
    refine .bind (enableBank_prints P d i) fun _ => Prog.uses_ite.2 ⟨fun _ => ?_, fun _ => ih⟩
    exact .bind (storeOther_prints P d (by exact fun _ => rfl)) fun _ => trivial

private theorem selectFirstBank_prints (d : Nat) : (selectFirstBank P d : Routine ε Bool).Uses (Prints P) := by
  refine .bind (call_prints P trivial) fun _ => Prog.uses_ite.2 ⟨fun _ => ?_, fun _ => ?_⟩
  · exact .bind (storeOther_prints P d (by exact fun _ => rfl)) fun _ => trivial
  · refine .bind (loadDevice_prints P d) fun _ => .bind (selectFrom_prints P d _) fun _ => ?_
    refine .bind (.when fun _ => storeOther_prints P d (by exact fun _ => rfl)) fun _ => ?_
    exact .bind (call_prints P trivial) fun _ => trivial

private theorem initializeDevice_prints (d : Nat) : (initializeDevice P d : Routine ε Unit).Uses (Prints P) := by
  have hnew : Prints P (.store fun c => { c with devices := c.devices ++ [{ ordinal := d }] }) := by
    intro c hc s hs
    rcases List.mem_append.1 hs with hold | hnew
    · exact hc s hold
    · obtain rfl : s = { ordinal := d } := List.mem_singleton.1 hnew
      intro m v hv
      cases hv
  have hdiscover : (do discoverDevice P d; prepareDevice P d : Routine String Unit).Uses (Prints P) :=
    .bind (discoverDevice_prints P d) fun _ => prepareDevice_prints P d
  refine .bind (call_prints P hnew) fun _ => .bind hdiscover.attempt fun prepared => ?_
  cases prepared with
  | error error => exact storeOther_prints P d (by exact fun _ => rfl)
  | ok _ => exact .bind (selectFirstBank_prints P d) fun _ => storeOther_prints P d (by exact fun _ => rfl)

private theorem initializeFailed_prints (detail : String) :
    (initializeFailed detail : Routine ε Bool).Uses (Prints P) :=
  .bind (setDetail_prints P detail) fun _ => .bind (call_prints P trivial) fun _ => trivial

private theorem initializeImpl_prints : (initializeImpl P : Routine ε Bool).Uses (Prints P) := by
  refine .bind (call_prints P trivial) fun _ => Prog.uses_ite.2 ⟨fun _ => initializeFailed_prints P _, fun _ => ?_⟩
  refine .bind (call_prints P trivial) fun _ => Prog.uses_ite.2 ⟨fun _ => initializeFailed_prints P _, fun _ => ?_⟩
  refine Prog.uses_ite.2 ⟨fun _ => initializeFailed_prints P _, fun _ => ?_⟩
  refine .bind (.forEach (fun d => initializeDevice_prints P d) _) fun _ => .bind (load_prints P) fun _ => ?_
  exact .bind (setDetail_prints P _) fun _ => .bind (call_prints P trivial) fun _ => trivial

end

/-! ### Runs -/

/-- The device work left. -/
def WorkerPc.Prints (P : Platform) : WorkerPc → Prop
  | .starting p => p.Uses (Cupti.Prints P)
  | .sampling p => p.Uses (Cupti.Prints P)
  | .rotating p => p.Uses (Cupti.Prints P)
  | .reporting p => p.Uses (Cupti.Prints P)
  | .closing p => p.Uses (Cupti.Prints P)
  | _ => True

private theorem workerNext_prints {P : Platform} {sh sh' : Shared} {pc pc' : WorkerPc}
    (h : workerNext P sh pc = some (pc', sh')) : pc'.Prints P := by
  have hsample : (sample P : Routine Empty Unit).Uses (Prints P) := sample_prints P
  have hrotate : (rotate P : Routine Empty Unit).Uses (Prints P) := rotate_prints P
  have hreport : (report : Routine Empty Unit).Uses (Prints P) := report_prints P
  have hlast : (lastReport : Routine Empty Unit).Uses (Prints P) := lastReport_prints P
  revert h
  fun_cases workerNext P sh pc <;> grind -ring -linarith [WorkerPc.Prints]

theorem WorkerPc.Asks.prints {P : Platform} {pc : WorkerPc} {o : Op} {k : o.Answer → WorkerPc} (hask : pc.Asks o k)
    (h : pc.Prints P) : Cupti.Prints P o ∧ ∀ r, (k r).Prints P := by
  cases hask <;> exact h

/-- The memory changes by assignments only. -/
theorem env_printed {P : Platform} {w w' : World} {o : Op} {r : o.Answer} (h : env w o r w') (ho : Prints P o)
    (hw : w.mem.Printed P) : w'.mem.Printed P := by
  cases o with
  | store f =>
    rw [h]
    exact ho _ hw
  | load =>
    rw [h.2]
    exact hw
  | eventGroupSetEnable d b =>
    simp only [env] at h
    split at h
    · rw [h]
      exact hw
    · rw [h]
      exact hw
  | eventGroupSetDisable d b =>
    simp only [env] at h
    split at h
    · rw [h]
      exact hw
    · rw [h]
      exact hw
  | _ =>
    simp only [env] at h
    rw [h]
    exact hw

/-- In every state of a run the values of the samples are such texts. -/
theorem Reachable.printed {P : Platform} {C : State → Prop} {n : Nat} {s : State} (h : Reachable P env C n s) :
    s.world.mem.Printed P ∧ s.worker.Prints P := by
  induction h with
  | initial =>
    refine ⟨fun s hs => ?_, initializeImpl_prints P⟩
    cases hs
  | step _ hs _ ih =>
    obtain ⟨hmem, hworker⟩ := ih
    cases hs with
    | worker hnext => exact ⟨hmem, workerNext_prints hnext⟩
    | gateNotify hpc => exact ⟨hmem, trivial⟩
    | request hask hanswer =>
      obtain ⟨ho, hrest⟩ := hask.prints hworker
      exact ⟨env_printed hanswer ho hmem, hrest _⟩
    | _ => exact ⟨hmem, hworker⟩

end CmpUnlocker.Cupti
