import CmpUnlocker.Cupti.Machine

/-!
# Device work that switches no event-group set

Reading and sampling change samples, counters, timestamps and texts, and may retire a bank by its `disabled` flag;
they issue no enable and no disable, and leave every `enabled` flag as it is (`sample_calm`).  Reading asks for no
rotation either (`readBank_steady`).
-/

namespace CmpUnlocker.Cupti

open Interaction

/-! ### Devices and banks after an assignment -/

theorem Collector.device_modifyDevice (c : Collector) (d d' : Nat) (f : DeviceState → DeviceState) :
    (c.modifyDevice d f).device d' = if d = d' ∧ d' < c.devices.length then f (c.device d') else c.device d' := by
  simp only [device, modifyDevice, List.getD_eq_getElem?_getD, List.getElem?_modify]
  by_cases hlt : d' < c.devices.length
  · by_cases hd : d = d' <;> simp [hlt, hd]
  · simp [hlt]

theorem DeviceState.bank_modifyBank (s : DeviceState) (b b' : Nat) (f : MetricBank → MetricBank) :
    (s.modifyBank b f).bank b' = if b = b' ∧ b' < s.banks.length then f (s.bank b') else s.bank b' := by
  simp only [bank, modifyBank, List.getD_eq_getElem?_getD, List.getElem?_modify]
  by_cases hlt : b' < s.banks.length
  · by_cases hb : b = b' <;> simp [hlt, hb]
  · simp [hlt]

@[simp] theorem Collector.length_modifyDevice (c : Collector) (d : Nat) (f : DeviceState → DeviceState) :
    (c.modifyDevice d f).devices.length = c.devices.length := by
  simp [modifyDevice]

@[simp] theorem Collector.length_modifyBank (c : Collector) (d b : Nat) (f : MetricBank → MetricBank) :
    (c.modifyBank d b f).devices.length = c.devices.length := by
  simp [modifyBank]

/-! ### Retiring -/

/-- A bank is as enabled as before, and at most its `disabled` flag was raised. -/
structure MetricBank.Retires (k k' : MetricBank) : Prop where
  oneSet : k'.oneSet = k.oneSet
  enabled : k'.enabled = k.enabled
  disabled : k.disabled = true → k'.disabled = true

structure DeviceState.Retires (s s' : DeviceState) : Prop where
  ready : s'.ready = s.ready
  active : s'.activeBankIndex = s.activeBankIndex
  bank : ∀ b, (s.bank b).Retires (s'.bank b)

structure Collector.Retires (c c' : Collector) : Prop where
  length : c'.devices.length = c.devices.length
  device : ∀ d, (c.device d).Retires (c'.device d)

theorem MetricBank.Retires.refl (k : MetricBank) : k.Retires k := ⟨rfl, rfl, id⟩

theorem DeviceState.Retires.refl (s : DeviceState) : s.Retires s := ⟨rfl, rfl, fun _ => .refl _⟩

theorem Collector.Retires.refl (c : Collector) : c.Retires c := ⟨rfl, fun _ => .refl _⟩

theorem MetricBank.Retires.trans {k₁ k₂ k₃ : MetricBank} (h : k₁.Retires k₂) (h' : k₂.Retires k₃) :
    k₁.Retires k₃ :=
  ⟨h'.oneSet.trans h.oneSet, h'.enabled.trans h.enabled, fun hk => h'.disabled (h.disabled hk)⟩

theorem DeviceState.Retires.trans {s₁ s₂ s₃ : DeviceState} (h : s₁.Retires s₂) (h' : s₂.Retires s₃) :
    s₁.Retires s₃ :=
  ⟨h'.ready.trans h.ready, h'.active.trans h.active, fun b => (h.bank b).trans (h'.bank b)⟩

theorem Collector.Retires.trans {c₁ c₂ c₃ : Collector} (h : c₁.Retires c₂) (h' : c₂.Retires c₃) :
    c₁.Retires c₃ :=
  ⟨h'.length.trans h.length, fun d => (h.device d).trans (h'.device d)⟩

private theorem Collector.retires_modifyDevice {f : DeviceState → DeviceState}
    (h : ∀ s : DeviceState, s.Retires (f s)) (d : Nat)
    (c : Collector) : c.Retires (c.modifyDevice d f) := by
  refine ⟨c.length_modifyDevice d f, fun d' => ?_⟩
  rw [device_modifyDevice]
  split
  · exact h _
  · exact .refl _

private theorem DeviceState.retires_modifyBank {f : MetricBank → MetricBank} (h : ∀ k : MetricBank, k.Retires (f k))
    (b : Nat)
    (s : DeviceState) : s.Retires (s.modifyBank b f) := by
  refine ⟨rfl, rfl, fun b' => ?_⟩
  rw [bank_modifyBank]
  split
  · exact h _
  · exact .refl _

private theorem Collector.retires_modifyBank {f : MetricBank → MetricBank} (h : ∀ k : MetricBank, k.Retires (f k))
    (d b : Nat)
    (c : Collector) : c.Retires (c.modifyBank d b f) :=
  retires_modifyDevice (fun s => s.retires_modifyBank h b) d c

private theorem DeviceState.retires_setSample (s : DeviceState) (m : Metric) (v : MetricSample) :
    s.Retires (s.setSample m v) :=
  ⟨rfl, rfl, fun _ => .refl _⟩

private theorem DeviceState.retires_foldl_setSample (f : DeviceState → Metric → MetricSample) (ms : List Metric)
    (s : DeviceState) : s.Retires (ms.foldl (fun s m => s.setSample m (f s m)) s) := by
  induction ms generalizing s with
  | nil => exact .refl s
  | cons m ms ih => exact (s.retires_setSample m _).trans (ih _)

/-! ### Calm routines -/

/-- Requests that switch no event-group set and assign no `enabled` flag. -/
def Calm : Op → Prop
  | .eventGroupSetEnable _ _ => False
  | .eventGroupSetDisable _ _ => False
  | .store f => ∀ c : Collector, c.Retires (f c)
  | _ => True

/-- Calm requests that ask for no rotation. -/
def Steady : Op → Prop
  | .requestRotate => False
  | o => Calm o

theorem Steady.calm {o : Op} (h : Steady o) : Calm o := by
  cases o <;> first | exact h | trivial

theorem Steady.ne_requestRotate {o : Op} (h : Steady o) : o ≠ .requestRotate := by
  rintro rfl
  exact h

theorem calm_of_steady {ε α : Type} {p : Routine ε α} (h : p.Uses Steady) : p.Uses Calm :=
  h.mono fun _ => Steady.calm

section

variable {ε : Type} (P : Platform)

private theorem storeBank_steady {f : MetricBank → MetricBank} (h : ∀ k : MetricBank, k.Retires (f k)) (d b : Nat) :
    (storeBank d b f : Routine ε Unit).Uses Steady :=
  Prog.uses_request.2 (Collector.retires_modifyBank h d b)

private theorem storeDevice_steady {f : DeviceState → DeviceState} (h : ∀ s : DeviceState, s.Retires (f s)) (d : Nat) :
    (storeDevice d f : Routine ε Unit).Uses Steady :=
  Prog.uses_request.2 (Collector.retires_modifyDevice h d)

theorem loadBank_steady (d b : Nat) : (loadBank d b : Routine ε MetricBank).Uses Steady := by
  simp [loadBank, load, call, Steady, Calm]

theorem loadDevice_steady (d : Nat) : (loadDevice d : Routine ε DeviceState).Uses Steady := by
  simp [loadDevice, load, call, Steady, Calm]

theorem call_steady {o : Op} (h : Steady o) : (call o : Routine ε o.Answer).Uses Steady := Prog.uses_request.2 h

private theorem totalInstanceCount_steady (d domain n : Nat) :
    (totalInstanceCount d domain n : Routine ε Nat).Uses Steady := by
  refine .bind (call_steady trivial) fun _ => Prog.uses_ite.2 ⟨fun _ => ?_, fun _ => trivial⟩
  exact .bind (call_steady trivial) fun _ => Prog.uses_ite.2 ⟨fun _ => trivial, fun _ => trivial⟩

private theorem normalizedEventValue_steady (d group event : Nat) :
    (normalizedEventValue P d group event).Uses Steady := by
  refine .bind (call_steady trivial) fun _ => Prog.uses_ite.2 ⟨fun _ => trivial, fun _ => ?_⟩
  refine .bind (call_steady trivial) fun _ => Prog.uses_ite.2 ⟨fun _ => trivial, fun _ => ?_⟩
  refine .bind (totalInstanceCount_steady _ _ _) fun _ => .bind (call_steady trivial) fun _ => ?_
  refine Prog.uses_ite.2 ⟨fun _ => trivial, fun _ => Prog.uses_ite.2 ⟨fun _ => trivial, fun _ => ?_⟩⟩
  split <;> trivial

private theorem readEvents_steady (d group : Nat) (events : List Nat) (deltas : Deltas) :
    (readEvents P d group events deltas).Uses Steady := by
  induction events generalizing deltas with
  | nil => trivial
  | cons event events ih => exact .bind (normalizedEventValue_steady P d group event) fun _ => ih _

private theorem readGroups_steady (d : Nat) (groups : List Nat) (deltas : Deltas) :
    (readGroups P d groups deltas).Uses Steady := by
  induction groups generalizing deltas with
  | nil => trivial
  | cons group groups ih =>
    refine .bind (call_steady trivial) fun _ => Prog.uses_ite.2 ⟨fun _ => trivial, fun _ => ?_⟩
    refine .bind (call_steady trivial) fun _ => Prog.uses_ite.2 ⟨fun _ => trivial, fun _ => ?_⟩
    exact .bind (readEvents_steady P d group _ _) fun _ => ih _

private theorem metricInputs_steady (v : MetricSample) (deltas : Deltas) : (metricInputs v deltas).Uses Steady := by
  refine .bind (call_steady trivial) fun _ => Prog.uses_ite.2 ⟨fun _ => trivial, fun _ => ?_⟩
  refine .bind (call_steady trivial) fun _ => Prog.uses_ite.2 ⟨fun _ => trivial, fun _ => ?_⟩
  split <;> trivial

private theorem evaluateMetric_steady (d : Nat) (v : MetricSample) (deltas : Deltas) (durationNs : Nat) :
    (evaluateMetric P d v deltas durationNs).Uses Steady := by
  refine .bind (metricInputs_steady v deltas) fun _ => .bind (call_steady trivial) fun _ => ?_
  exact Prog.uses_ite.2 ⟨fun _ => trivial, fun _ => .bind (call_steady trivial) fun _ => trivial⟩

private theorem publishMetric_steady (d : Nat) (m : Metric) (deltas : Deltas) (durationNs : Nat) :
    (publishMetric P d m deltas durationNs : Routine ε Bool).Uses Steady := by
  refine .bind (loadDevice_steady d) fun _ => .bind (storeDevice_steady (fun s => s.retires_setSample m _) d)
    fun _ => ?_
  refine .bind (evaluateMetric_steady P d _ deltas durationNs).attempt fun _ => ?_
  split
  · exact .bind (storeDevice_steady (fun s => s.retires_setSample m _) d) fun _ => trivial
  · exact .bind (storeDevice_steady (fun s => s.retires_setSample m _) d) fun _ => trivial

private theorem publishMetrics_steady (d : Nat) (deltas : Deltas) (durationNs : Nat) (ms : List Metric) :
    (publishMetrics P d deltas durationNs ms : Routine ε Nat).Uses Steady := by
  induction ms with
  | nil => trivial
  | cons m ms ih => exact .bind (publishMetric_steady P d m deltas durationNs) fun _ => .bind ih fun _ => trivial

private theorem readInterval_steady (d b : Nat) (k : MetricBank) (endedNs : Nat) (publishEmpty : Bool) :
    (readInterval P d b k endedNs publishEmpty : Routine ε Nat).Uses Steady := by
  refine .bind (readGroups_steady P d _ _).attempt
    fun _ => .bind (storeBank_steady (by exact fun _ => ⟨rfl, rfl, id⟩) d b) fun _ => ?_
  split
  · refine .bind (storeBank_steady (by exact fun _ => ⟨rfl, rfl, id⟩) d b) fun _ => .bind (storeDevice_steady ?_ d)
      fun _ => trivial
    exact fun s => s.retires_foldl_setSample _ _
  · refine Prog.uses_ite.2 ⟨fun _ => trivial, fun _ => .bind (publishMetrics_steady P d _ _ _) fun _ => ?_⟩
    exact .bind (storeBank_steady (by exact fun _ => ⟨rfl, rfl, id⟩) d b) fun _ => trivial

private theorem readPushed_steady (d b : Nat) (k : MetricBank) (publishEmpty : Bool) :
    (readPushed P d b k publishEmpty : Routine ε Nat).Uses Steady := by
  refine .bind (call_steady trivial) fun _ => Prog.uses_ite.2 ⟨fun _ => ?_, fun _ => readInterval_steady P d b k _ _⟩
  exact .bind (storeBank_steady (by exact fun _ => ⟨rfl, rfl, id⟩) d b) fun _ => trivial

theorem readBank_steady (d b : Nat) (publishEmpty : Bool) :
    (readBank P d b publishEmpty : Routine ε Nat).Uses Steady := by
  refine .bind (loadBank_steady d b) fun _ => Prog.uses_ite.2 ⟨fun _ => ?_, fun _ => ?_⟩
  · exact .bind (storeBank_steady (by exact fun _ => ⟨rfl, rfl, id⟩) d b) fun _ => trivial
  · refine .bind (call_steady trivial) fun _ => Prog.uses_ite.2 ⟨fun _ => ?_, fun _ => ?_⟩
    · exact .bind (storeBank_steady (by exact fun _ => ⟨rfl, rfl, id⟩) d b) fun _ => trivial
    · exact .bind (readPushed_steady P d b _ publishEmpty) fun _ => .bind (call_steady trivial) fun _ => trivial

theorem setDetail_steady (detail : String) :
    (store (fun c => { c with detail := detail }) : Routine ε Unit).Uses Steady :=
  Prog.uses_request.2 fun _ => ⟨rfl, fun _ => .refl _⟩

theorem report_steady : (report : Routine ε Unit).Uses Steady :=
  .bind (call_steady trivial) fun _ => call_steady trivial

theorem lastReport_steady : (lastReport : Routine ε Unit).Uses Steady := call_steady trivial

theorem storeBank_calm {f : MetricBank → MetricBank} (h : ∀ k : MetricBank, k.Retires (f k)) (d b : Nat) :
    (storeBank d b f : Routine ε Unit).Uses Calm :=
  calm_of_steady (storeBank_steady h d b)

theorem storeDevice_calm {f : DeviceState → DeviceState} (h : ∀ s : DeviceState, s.Retires (f s)) (d : Nat) :
    (storeDevice d f : Routine ε Unit).Uses Calm :=
  calm_of_steady (storeDevice_steady h d)

theorem call_calm {o : Op} (h : Calm o) : (call o : Routine ε o.Answer).Uses Calm := Prog.uses_request.2 h

private theorem countFailure_calm (d b : Nat) : (countFailure d b : Routine ε Unit).Uses Calm := by
  refine .bind (storeBank_calm (by exact fun _ => ⟨rfl, rfl, id⟩) d b)
    fun _ => .bind (calm_of_steady (loadBank_steady d b)) fun _ => ?_
  refine Prog.uses_ite.2 ⟨fun _ => ?_, fun _ => trivial⟩
  exact .bind (storeBank_calm (by exact fun _ => ⟨rfl, rfl, fun _ => rfl⟩) d b) fun _ => call_calm trivial

private theorem countResult_calm (d b n : Nat) : (countResult d b n : Routine ε Unit).Uses Calm :=
  Prog.uses_ite.2 ⟨fun _ => storeBank_calm (by exact fun _ => ⟨rfl, rfl, id⟩) d b, fun _ => countFailure_calm d b⟩

private theorem sampleDevice_calm (d : Nat) : (sampleDevice P d : Routine ε Nat).Uses Calm := by
  refine .bind (calm_of_steady (loadDevice_steady d)) fun _ => Prog.uses_ite.2 ⟨fun _ => trivial, fun _ => ?_⟩
  refine Prog.uses_ite.2 ⟨fun _ => trivial, fun _ => .bind (calm_of_steady (readBank_steady P d _ true)) fun _ => ?_⟩
  exact .bind (countResult_calm d _ _) fun _ => trivial

private theorem sampleDevices_calm (ds : List Nat) : (sampleDevices P ds : Routine ε Nat).Uses Calm := by
  induction ds with
  | nil => trivial
  | cons d ds ih => exact .bind (sampleDevice_calm P d) fun _ => .bind ih fun _ => trivial

theorem sample_calm : (sample P : Routine ε Unit).Uses Calm :=
  .bind (call_calm trivial) fun _ => .bind (sampleDevices_calm P _) fun _ => calm_of_steady (setDetail_steady _)

end

end CmpUnlocker.Cupti
