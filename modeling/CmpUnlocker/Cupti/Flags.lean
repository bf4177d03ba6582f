import CmpUnlocker.Cupti.Selection
import CmpUnlocker.Cupti.Requests

/-!
# The flags of the banks over whole runs

Rotation, sampling, reporting and initialization take a collector whose devices are all consistent to one whose
devices are all consistent (`rotate_allOk`, `initializeImpl_allOk`), so the flags are as documented whenever the
worker is between two pieces of device work, whatever CUPTI and the driver return.  The hardware follows the flags
as long as no `cuptiEventGroupSetDisable` call fails; the flag is cleared even if the call fails, and then two sets
can be enabled at once (`two_sets_enabled`).
-/

namespace CmpUnlocker.Cupti

open Interaction

/-! ### Rotation -/

section Rotation

variable {strict : Prop} {E : Env Op Op.Answer World} {X : Empty → World → Prop} {w : World}
variable {d n : Nat} {r : Bool} (P : Platform)

private theorem Off.storeUnready (h : Off strict d r n w) (hE : Allowed strict E) {f : DeviceState → DeviceState}
    (hf : ∀ s, (f s).ready = false ∧ (f s).banks = s.banks) :
    (storeDevice d f : Routine Empty Unit).Meets E (Guarantee strict) (fun _ w' => Off strict d false n w') X w := by
  have hbank : ∀ s b, (f s).bank b = s.bank b := by
    intro s b
    unfold DeviceState.bank
    rw [(hf s).2]
  refine hE.store_meets (Collector.keeps_modifyDevice fun b => ?_) ⟨h.toFocus.modifyDevice ?_, ?_, h.hw⟩
  · rw [hbank]
    exact .refl _
  · by_cases hd : d < w.mem.devices.length
    · rw [Collector.device_modifyDevice, if_pos ⟨rfl, hd⟩]
      exact (hf _).1
    · rw [Collector.device_of_le (by rw [Collector.length_modifyDevice]; exact Nat.le_of_not_lt hd)]
      rfl
  · intro b
    show (((w.mem.modifyDevice d f).device d).bank b).enabled = false
    rw [Collector.device_modifyDevice]
    split
    · rw [hbank]
      exact h.flags b
    · exact h.flags b

private theorem switchBank_allOk (hE : Allowed strict E) (h : AllOk strict w) (hready : (w.mem.device d).ready = true) :
    (switchBank P d : Routine Empty Bool).Meets E (Guarantee strict) (fun _ w' => AllOk strict w') X w := by
  unfold switchBank
  refine Prog.meets_bind.2 (hE.loadDevice_meets (Prog.meets_bind.2 ?_))
  refine ((h.on hready).disableBank P hE).imp (fun _ w₁ hoff => ?_) fun _ _ hx => hx
  refine Prog.meets_bind.2 ((hoff.selectCandidate P hE _).imp (fun selected w₂ h₂ => ?_) fun _ _ hx => hx)
  cases selected with
  | true => exact Prog.meets_bind.2 (Prog.meets_when.2 ⟨fun hsel => (nomatch hsel), fun _ => Selected.allOk h₂⟩)
  | false =>
    refine Prog.meets_bind.2 (Prog.meets_when.2 ⟨fun _ => ?_, fun hsel => absurd rfl hsel⟩)
    exact (Off.storeUnready h₂ hE (by exact fun _ => ⟨rfl, rfl⟩)).imp (fun _ _ h₃ => Off.allOk h₃) fun _ _ hx => hx

theorem finalRead_steady (c : Prop) [Decidable c] (d b : Nat) :
    (Prog.when c (do let _ ← readBank P d b false; return ()) : Routine Empty Unit).Uses Steady :=
  .when fun _ => .bind (readBank_steady P d b false) fun _ => trivial

private theorem rotateDevice_allOk (hE : Allowed strict E) (h : AllOk strict w) (d : Nat) :
    (rotateDevice P d : Routine Empty Bool).Meets E (Guarantee strict) (fun _ w' => AllOk strict w') X w := by
  unfold rotateDevice
  refine Prog.meets_bind.2 (hE.loadDevice_meets (Prog.meets_ite.2 ⟨fun _ => h, fun hskip => ?_⟩))
  have hready : (w.mem.device d).ready = true := by
    simp only [Bool.or_eq_true, Bool.not_eq_true', not_or, Bool.not_eq_false] at hskip
    exact hskip.1
  refine Prog.meets_bind.2 (hE.calm_meets (calm_of_steady (finalRead_steady P _ d _)) fun _ w₁ hw₁ => ?_)
  refine Prog.meets_bind.2 (hE.calm_meets (call_calm (o := .cuCtxPushCurrent d) trivial) fun pushed w₂ hw₂ => ?_)
  have hok := (h.retires hw₁).retires hw₂
  refine Prog.meets_ite.2 ⟨fun _ => ?_, fun _ => ?_⟩
  · refine Prog.meets_bind.2 (hE.calm_meets (storeDevice_calm (by exact fun s => ⟨rfl, rfl, fun _ => .refl _⟩) d) ?_)
    exact fun _ w₃ hw₃ => hok.retires hw₃
  · have hready₂ : (w₂.mem.device d).ready = true :=
      (hw₂.mem.device d).ready.trans ((hw₁.mem.device d).ready.trans hready)
    refine Prog.meets_bind.2 ((switchBank_allOk P hE hok hready₂).imp (fun selected w₃ h₃ => ?_) fun _ _ hx => hx)
    refine Prog.meets_bind.2 (hE.calm_meets (call_calm (o := .cuCtxPopCurrent) trivial) fun _ w₄ hw₄ => ?_)
    exact h₃.retires hw₄

private theorem rotateDevices_allOk (hE : Allowed strict E) (h : AllOk strict w) (ds : List Nat) :
    (rotateDevices P ds : Routine Empty Bool).Meets E (Guarantee strict) (fun _ w' => AllOk strict w') X w := by
  induction ds generalizing w with
  | nil => exact h
  | cons d ds ih =>
    refine Prog.meets_bind.2 ((rotateDevice_allOk P hE h d).imp (fun rotated w₁ h₁ => ?_) fun _ _ hx => hx)
    exact Prog.meets_bind.2 ((ih h₁).imp (fun _ _ h₂ => h₂) fun _ _ hx => hx)

theorem rotate_allOk (hE : Allowed strict E) (h : AllOk strict w) :
    (rotate P : Routine Empty Unit).Meets E (Guarantee strict) (fun _ w' => AllOk strict w') X w := by
  unfold rotate
  refine Prog.meets_bind.2 (hE.load_meets (Prog.meets_bind.2 ?_))
  refine (rotateDevices_allOk P hE h _).imp (fun rotated w₁ h₁ => ?_) fun _ _ hx => hx
  exact hE.calm_meets (calm_of_steady (setDetail_steady _)) fun _ w₂ hw₂ => h₁.retires hw₂

end Rotation

/-! ### Initialization -/

/-- A device whose banks were never enabled or disabled. -/
structure DeviceState.Fresh (s : DeviceState) : Prop where
  unready : s.ready = false
  bank : ∀ b, (s.bank b).enabled = false ∧ (s.bank b).disabled = false

structure Prepares (d : Nat) (c c' : Collector) : Prop where
  length : c'.devices.length = c.devices.length
  others : ∀ d', d' ≠ d → c'.device d' = c.device d'
  fresh : (c.device d).Fresh → (c'.device d).Fresh

/-- Requests that switch no event-group set, touch device `d` only, and leave it fresh. -/
def Prepare (d : Nat) : Op → Prop
  | .eventGroupSetEnable _ _ => False
  | .eventGroupSetDisable _ _ => False
  | .store f => ∀ c : Collector, Prepares d c (f c)
  | _ => True

/-- Such requests that ask for no rotation. -/
def Discover (d : Nat) : Op → Prop
  | .requestRotate => False
  | o => Prepare d o

theorem Discover.prepare {d : Nat} {o : Op} (h : Discover d o) : Prepare d o := by
  cases o <;> first | exact h | trivial

theorem Discover.ne_requestRotate {d : Nat} {o : Op} (h : Discover d o) : o ≠ .requestRotate := by
  rintro rfl
  exact h

section Preparation

variable {ε : Type} {d : Nat} (P : Platform)

private theorem call_discover {o : Op} (h : Discover d o) : (call o : Routine ε o.Answer).Uses (Discover d) :=
  Prog.uses_request.2 h

private theorem loadDevice_discover (d' : Nat) : (loadDevice d' : Routine ε DeviceState).Uses (Discover d) := by
  simp [loadDevice, load, call, Discover, Prepare]

private theorem storeDevice_discover {f : DeviceState → DeviceState} (hf : ∀ s : DeviceState, s.Fresh → (f s).Fresh) :
    (storeDevice d f : Routine ε Unit).Uses (Discover d) := by
  refine Prog.uses_request.2 fun c => ⟨c.length_modifyDevice d f, fun d' hd' => c.device_modifyDevice_ne f hd', ?_⟩
  intro h
  rw [Collector.device_modifyDevice]
  split
  · exact hf _ h
  · exact h

private theorem storeBank_discover {b : Nat} {f : MetricBank → MetricBank}
    (hf : ∀ k : MetricBank, (f k).enabled = k.enabled ∧ (f k).disabled = k.disabled) :
    (storeBank d b f : Routine ε Unit).Uses (Discover d) := by
  refine storeDevice_discover fun s hs => ⟨hs.unready, fun b' => ?_⟩
  rw [DeviceState.bank_modifyBank]
  split
  · rw [(hf _).1, (hf _).2]
    exact hs.bank b'
  · exact hs.bank b'

theorem DeviceState.Fresh.setSample {s : DeviceState} (h : s.Fresh) (m : Metric) (v : MetricSample) :
    (s.setSample m v).Fresh :=
  ⟨h.unready, h.bank⟩

theorem DeviceState.Fresh.foldl_setSample {s : DeviceState} (h : s.Fresh) (f : DeviceState → Metric → MetricSample)
    (ms : List Metric) : (ms.foldl (fun s m => s.setSample m (f s m)) s).Fresh := by
  induction ms generalizing s with
  | nil => exact h
  | cons m ms ih => exact ih (h.setSample m _)

private theorem profileAllInstances_discover (groups : List Nat) :
    (profileAllInstances groups : Routine ε Code).Uses (Discover d) := by
  induction groups with
  | nil => trivial
  | cons group groups ih =>
    exact .bind (call_discover trivial) fun _ => Prog.uses_ite.2 ⟨fun _ => ih, fun _ => trivial⟩

private theorem dropSets_discover (b : Nat) (error : String) :
    (dropSets d b error : Routine ε Bool).Uses (Discover d) := by
  refine .bind (storeBank_discover (by exact fun _ => ⟨rfl, rfl⟩)) fun _ => .bind (call_discover trivial) fun _ => ?_
  exact .bind (storeBank_discover (by exact fun _ => ⟨rfl, rfl⟩)) fun _ => trivial

private theorem prepareSets_discover (b : Nat) (sets : EventGroupSets) :
    (prepareSets P d b sets : Routine ε Bool).Uses (Discover d) := by
  refine .bind (storeBank_discover (by exact fun _ => ⟨rfl, rfl⟩)) fun _ => ?_
  refine Prog.uses_ite.2 ⟨fun _ => dropSets_discover b _, fun _ => .bind (profileAllInstances_discover _) fun _ => ?_⟩
  refine Prog.uses_ite.2 ⟨fun _ => dropSets_discover b _, fun _ => ?_⟩
  refine .bind (storeBank_discover (by exact fun _ => ⟨rfl, rfl⟩)) fun _ => .bind (storeDevice_discover ?_)
    fun _ => trivial
  exact fun s hs => hs.foldl_setSample _ _

private theorem prepareBank_discover (b : Nat) : (prepareBank P d b : Routine ε Bool).Uses (Discover d) := by
  refine .bind (loadDevice_discover d) fun _ => ?_
  split
  · exact .bind (storeBank_discover (by exact fun _ => ⟨rfl, rfl⟩)) fun _ => trivial
  · refine .bind (call_discover trivial) fun created => ?_
    obtain ⟨rc, sets⟩ := created
    cases sets with
    | none => exact .bind (storeBank_discover (by exact fun _ => ⟨rfl, rfl⟩)) fun _ => trivial
    | some sets =>
      refine Prog.uses_ite.2 ⟨fun _ => prepareSets_discover P b sets, fun _ => ?_⟩
      exact .bind (storeBank_discover (by exact fun _ => ⟨rfl, rfl⟩)) fun _ => trivial

private theorem lookupMetric_discover (m : Metric) : (lookupMetric P d m : Routine ε Unit).Uses (Discover d) := by
  refine .bind (call_discover trivial) fun _ => Prog.uses_ite.2 ⟨fun _ => ?_, fun _ => ?_⟩
  · exact storeDevice_discover fun s hs => hs.setSample m _
  · refine .bind (call_discover trivial) fun _ => Prog.uses_ite.2 ⟨fun _ => ?_, fun _ => ?_⟩
    · exact storeDevice_discover fun s hs => hs.setSample m _
    · exact storeDevice_discover fun s hs => hs.setSample m _

/-- The two banks of `initialize` start with both flags clear. -/
theorem fresh_banks (s : DeviceState) (h : s.ready = false) (name₁ name₂ : String) (ms₁ ms₂ : List Metric) :
    { s with
      banks := [{ name := name₁, metricNames := ms₁ }, { name := name₂, metricNames := ms₂ }] : DeviceState }.Fresh := by
  refine ⟨h, fun b => ?_⟩
  match b with
  | 0 => exact ⟨rfl, rfl⟩
  | 1 => exact ⟨rfl, rfl⟩
  | b + 2 => exact ⟨rfl, rfl⟩

theorem prepareDevice_discover : (prepareDevice P d).Uses (Discover d) := by
  refine .bind (call_discover trivial) fun _ => Prog.uses_ite.2 ⟨fun _ => trivial, fun _ => ?_⟩
  refine .bind (call_discover trivial) fun _ => Prog.uses_ite.2 ⟨fun _ => ?_, fun _ => ?_⟩
  · exact .bind (call_discover trivial) fun _ => trivial
  · refine .bind (.forEach (fun m => lookupMetric_discover P m) _) fun _ => ?_
    refine .bind (storeDevice_discover fun s hs => fresh_banks s hs.unready _ _ _ _) fun _ => ?_
    refine .bind (loadDevice_discover d) fun _ => .bind (.forEach (fun b => ?_) _) fun _ => ?_
    · exact .bind (prepareBank_discover P b) fun _ => trivial
    · exact .bind (call_discover trivial) fun _ => trivial

private theorem storePciBusId_discover (rc : Code) (pciBusId : String) :
    (storePciBusId P d rc pciBusId : Routine ε Unit).Uses (Discover d) :=
  Prog.uses_ite.2 ⟨fun _ => storeDevice_discover fun _ hs => ⟨hs.unready, hs.bank⟩,
    fun _ => storeDevice_discover fun _ hs => ⟨hs.unready, hs.bank⟩⟩

theorem discoverDevice_discover : (discoverDevice P d).Uses (Discover d) := by
  refine .bind (call_discover trivial) fun _ => Prog.uses_ite.2 ⟨fun _ => trivial, fun _ => ?_⟩
  refine .bind (call_discover trivial) fun _ => .bind (.when fun _ => ?_) fun _ => ?_
  · exact storeDevice_discover fun _ hs => ⟨hs.unready, hs.bank⟩
  refine .bind (call_discover trivial) fun _ => .bind (storePciBusId_discover P _ _) fun _ => ?_
  refine .bind (call_discover trivial) fun _ => .bind (storeDevice_discover fun _ hs => ⟨hs.unready, hs.bank⟩)
    fun _ => ?_
  refine Prog.uses_ite.2 ⟨fun _ => trivial, fun _ => .bind (call_discover trivial) fun _ => ?_⟩
  refine .bind (storeDevice_discover fun _ hs => ⟨hs.unready, hs.bank⟩) fun _ => ?_
  refine Prog.uses_ite.2 ⟨fun _ => trivial, fun _ => .bind (call_discover trivial) fun _ => ?_⟩
  exact Prog.uses_ite.2 ⟨fun _ => trivial, fun _ => storeDevice_discover fun _ hs => ⟨hs.unready, hs.bank⟩⟩

end Preparation

section Initialization

variable {strict : Prop} {E : Env Op Op.Answer World} {X : Empty → World → Prop} {w : World}
variable {d n : Nat} {r : Bool} (P : Platform)

/-- The last device, while it is discovered and prepared. -/
structure Preparing (strict : Prop) (d : Nat) (w : World) : Prop extends Focus strict d false (d + 1) w where
  fresh : (w.mem.device d).Fresh
  hw : strict → ∀ b, w.hw d b = false

theorem Preparing.off (h : Preparing strict d w) : Off strict d false (d + 1) w :=
  ⟨h.toFocus, fun b => (h.fresh.bank b).1, h.hw⟩

theorem Preparing.store (h : Preparing strict d w) {f : Collector → Collector} (hf : Prepares d w.mem (f w.mem)) :
    w.mem.Keeps (f w.mem) ∧ Preparing strict d { w with mem := f w.mem } := by
  have hfresh := hf.fresh h.fresh
  refine ⟨fun d' b => ?_, ⟨fun d' hd' => ?_, hfresh.unready, hf.length.trans h.length⟩, hfresh, h.hw⟩
  · by_cases hd : d' = d
    · subst hd
      exact .of_not_disabled (h.fresh.bank b).2 _
    · unfold Collector.bank
      rw [hf.others d' hd]
      exact .refl _
  · exact (h.others d' hd').of_device_eq (hf.others d' hd') rfl

theorem Preparing.step (hE : Allowed strict E) {o : Op} {a : o.Answer} {w' : World} (ho : Prepare d o)
    (h : Preparing strict d w) (hr : E w o a w') : Guarantee strict w o a w' ∧ Preparing strict d w' := by
  have hstep := (hE w o a w' hr).1
  have hrefl : Guarantee strict w o a w ∧ Preparing strict d w := ⟨⟨fun _ _ => .refl _, fun _ => id⟩, h⟩
  cases o <;> simp only [env] at hstep <;> first | exact hstep ▸ hrefl | exact hstep.2 ▸ hrefl | skip
  case store f =>
    obtain ⟨hkeeps, hprep⟩ := h.store (ho w.mem)
    exact hstep ▸ ⟨⟨hkeeps, fun _ => id⟩, hprep⟩
  all_goals exact ho.elim

/-- `devices.push_back` of a device that is about to be discovered. -/
theorem Collector.device_append (c : Collector) (s : DeviceState) (d' : Nat) :
    ({ c with devices := c.devices ++ [s] } : Collector).device d'
      = if d' = c.devices.length then s else c.device d' := by
  simp only [device, List.getD_eq_getElem?_getD, List.getElem?_append]
  by_cases hlt : d' < c.devices.length
  · simp [hlt, Nat.ne_of_lt hlt]
  · by_cases heq : d' = c.devices.length
    · simp [heq]
    · obtain ⟨j, hj⟩ : ∃ j, d' - c.devices.length = j + 1 := ⟨d' - c.devices.length - 1, by omega⟩
      simp [hlt, heq, hj]

theorem AllOk.append (h : AllOk strict w) (hlen : w.mem.devices.length = d) :
    w.mem.Keeps { w.mem with devices := w.mem.devices ++ [{ ordinal := d }] } ∧
      Preparing strict d { w with mem := { w.mem with devices := w.mem.devices ++ [{ ordinal := d }] } } := by
  have hdefault : w.mem.device d = default := Collector.device_of_le (Nat.le_of_eq hlen)
  have hnew : ∀ d', ({ w.mem with devices := w.mem.devices ++ [{ ordinal := d }] } : Collector).device d'
      = if d' = d then { ordinal := d } else w.mem.device d' := by
    intro d'
    rw [Collector.device_append, hlen]
  have hd := hnew d
  rw [if_pos rfl] at hd
  refine ⟨fun d' b => ?_, ⟨fun d' hd' => ?_, ?_, by simp [hlen]⟩, ⟨?_, fun b => ?_⟩, fun hs b => ?_⟩
  · by_cases hd' : d' = d
    · subst hd'
      refine .of_not_disabled ?_ _
      unfold Collector.bank
      rw [hdefault]
      rfl
    · unfold Collector.bank
      rw [hnew d', if_neg hd']
      exact .refl _
  · exact (h d').of_device_eq ((hnew d').trans (if_neg hd')) rfl
  · rw [hd]
  · rw [hd]
  · show ((Collector.device _ d).bank b).enabled = false ∧ ((Collector.device _ d).bank b).disabled = false
    rw [hd]
    exact ⟨rfl, rfl⟩
  · rw [(h d).agrees hs b]
    unfold Collector.bank
    rw [hdefault]
    rfl

theorem Off.selectFrom (h : Off strict d r n w) (hE : Allowed strict E) (is : List Nat) :
    (selectFrom P d is : Routine Empty Bool).Meets E (Guarantee strict)
      (fun sel w' => if sel = true then Selected strict d r n w' else Off strict d r n w') X w := by
  induction is generalizing w with
  | nil => exact h
  | cons i is ih =>
    refine Prog.meets_bind.2 ((h.enableBank P hE i).imp (fun ok w₁ h₁ => ?_) fun _ _ hx => hx)
    cases ok with
    | true => exact Prog.meets_bind.2 ((On.storeActive h₁ hE).imp (fun _ _ hsel => hsel) fun _ _ hx => hx)
    | false => exact ih h₁

theorem Selected.retires {w' : World} (h : Selected strict d r n w) (hw : w.Retires w') : Selected strict d r n w' := by
  obtain ⟨i, hon, hactive⟩ := h
  exact ⟨i, hon.retires hw, (hw.mem.device d).active.trans hactive⟩

/-- `select_first_bank`: it selects one bank or leaves the device without one. -/
theorem Off.selectFirstBank (h : Off strict d r n w) (hE : Allowed strict E) :
    (selectFirstBank P d : Routine Empty Bool).Meets E (Guarantee strict)
      (fun sel w' => if sel = true then Selected strict d r n w' else Off strict d r n w') X w := by
  unfold Cupti.selectFirstBank
  refine Prog.meets_bind.2 (hE.calm_meets (call_calm (o := .cuCtxPushCurrent d) trivial) fun pushed w₁ hw₁ => ?_)
  have herror : ∀ text, (storeDevice d (fun state => { state with error := text }) : Routine Empty Unit).Uses Calm :=
    fun text => storeDevice_calm (by exact fun s => ⟨rfl, rfl, fun _ => .refl _⟩) d
  refine Prog.meets_ite.2 ⟨fun _ => ?_, fun _ => ?_⟩
  · refine Prog.meets_bind.2 (hE.calm_meets (herror _) fun _ w₂ hw₂ => ?_)
    exact (h.retires hw₁).retires hw₂
  · refine Prog.meets_bind.2 (hE.loadDevice_meets (Prog.meets_bind.2 ?_))
    refine ((h.retires hw₁).selectFrom P hE _).imp (fun sel w₂ h₂ => ?_) fun _ _ hx => hx
    refine Prog.meets_bind.2 (hE.calm_meets (.when fun _ => herror _) fun _ w₃ hw₃ => ?_)
    refine Prog.meets_bind.2 (hE.calm_meets (call_calm (o := .cuCtxPopCurrent) trivial) fun _ w₄ hw₄ => ?_)
    cases sel with
    | true => exact (Selected.retires h₂ hw₃).retires hw₄
    | false => exact (Off.retires h₂ hw₃).retires hw₄

/-- The assignment to `ready` after a bank was selected. -/
theorem Selected.storeReady (h : Selected strict d false n w) (hE : Allowed strict E) :
    (storeDevice d (fun state => { state with ready := true }) : Routine Empty Unit).Meets E (Guarantee strict)
      (fun _ w' => Selected strict d true n w') X w := by
  obtain ⟨i, hon, hactive⟩ := h
  have hdev : (w.mem.modifyDevice d fun state => { state with ready := true }).device d
      = { w.mem.device d with ready := true } := by
    rw [Collector.device_modifyDevice, if_pos ⟨rfl, (Collector.lt_of_bank hon.flags.bank_ne_default).1⟩]
  refine hE.store_meets (Collector.keeps_modifyDevice fun b => .refl _)
    ⟨i, ⟨hon.toFocus.modifyDevice ?_, ?_, hon.hw⟩, ?_⟩
  · rw [hdev]
  · show ((w.mem.modifyDevice d _).device d).EnabledOnly i
    rw [hdev]
    exact ⟨hon.flags.enabled, hon.flags.oneSet⟩
  · show ((w.mem.modifyDevice d _).device d).activeBankIndex = i
    rw [hdev]
    exact hactive

private theorem initializeDevice_allOk (hE : Allowed strict E) (h : AllOk strict w) (hlen : w.mem.devices.length = d) :
    (initializeDevice P d : Routine Empty Unit).Meets E (Guarantee strict)
      (fun _ w' => AllOk strict w' ∧ w'.mem.devices.length = d + 1) X w := by
  unfold initializeDevice
  obtain ⟨hkeeps, hprep⟩ := h.append hlen
  refine Prog.meets_bind.2 (hE.store_meets hkeeps (Prog.meets_bind.2 (Prog.meets_attempt.2 ?_)))
  have huses : (do discoverDevice P d; prepareDevice P d : Routine String Unit).Uses (Discover d) :=
    .bind (discoverDevice_discover P) fun _ => prepareDevice_discover P
  refine (huses.meets (fun _ _ _ _ ho hI hr => hI.step hE ho.prepare hr) hprep).imp (fun _ w₁ h₁ => ?_)
    fun error w₁ h₁ => ?_
  · refine Prog.meets_bind.2 ((h₁.off.selectFirstBank P hE).imp (fun ready w₂ h₂ => ?_) fun _ _ hx => hx)
    cases ready with
    | true =>
      refine (Selected.storeReady h₂ hE).imp (fun _ w₃ h₃ => ⟨h₃.allOk, ?_⟩) fun _ _ hx => hx
      obtain ⟨i, hon, -⟩ := h₃
      exact hon.length
    | false =>
      refine (Off.storeUnready h₂ hE (by exact fun _ => ⟨rfl, rfl⟩)).imp (fun _ w₃ h₃ => ?_) fun _ _ hx => hx
      exact ⟨Off.allOk h₃, h₃.length⟩
  · refine hE.calm_meets (storeDevice_calm (by exact fun s => ⟨rfl, rfl, fun _ => .refl _⟩) d) fun _ w₂ hw₂ => ?_
    have hoff := h₁.off.retires hw₂
    exact ⟨hoff.allOk, hoff.length⟩

theorem initializeDevices_allOk (hE : Allowed strict E) (h : AllOk strict w) (hlen : w.mem.devices.length = 0)
    (count : Nat) : (Prog.forEach (initializeDevice P) (List.range count) : Routine Empty Unit).Meets E
      (Guarantee strict) (fun _ w' => AllOk strict w') X w := by
  -- the devices still to come are those from `devices.size()` on
  have hloop : (Prog.forEach (initializeDevice P) (List.range count) : Routine Empty Unit).Meets E (Guarantee strict)
      (fun _ w' => AllOk strict w' ∧ [] = List.range' w'.mem.devices.length 0) X w := by
    refine Prog.meets_forEach (I := fun ds w' => AllOk strict w' ∧ ds = List.range' w'.mem.devices.length ds.length)
      (fun d ds w₁ h₁ => ?_) ⟨h, ?_⟩
    · obtain ⟨hok, hds⟩ := h₁
      simp only [List.length_cons, List.range'_succ, List.cons.injEq] at hds
      obtain ⟨hd, hds⟩ := hds
      refine (initializeDevice_allOk P hE hok hd.symm).imp (fun _ w₂ h₂ => ⟨h₂.1, ?_⟩) fun _ _ hx => hx
      rw [h₂.2, hd]
      exact hds
    · rw [hlen, List.range_eq_range', List.length_range']
  exact hloop.imp (fun _ _ h₁ => h₁.1) fun _ _ hx => hx

theorem initializeFailed_steady (detail : String) : (initializeFailed detail : Routine Empty Bool).Uses Steady :=
  .bind (setDetail_steady detail) fun _ => .bind (call_steady trivial) fun _ => trivial

/-- `initialize`, whether it succeeds or not, leaves consistent devices. -/
theorem initializeImpl_allOk (hE : Allowed strict E) (h : AllOk strict w) (hlen : w.mem.devices.length = 0) :
    (initializeImpl P : Routine Empty Bool).Meets E (Guarantee strict) (fun _ w' => AllOk strict w') X w := by
  unfold initializeImpl
  refine Prog.meets_bind.2 (hE.calm_meets (call_calm (o := .cuInit) trivial) fun rc w₁ hw₁ => ?_)
  have h₁ := h.retires hw₁
  refine Prog.meets_ite.2
    ⟨fun _ => hE.calm_meets (calm_of_steady (initializeFailed_steady _)) fun _ _ hw => h₁.retires hw, fun _ => ?_⟩
  refine Prog.meets_bind.2 (hE.calm_meets (call_calm (o := .cuDeviceGetCount) trivial) fun count w₂ hw₂ => ?_)
  have h₂ := h₁.retires hw₂
  refine Prog.meets_ite.2
    ⟨fun _ => hE.calm_meets (calm_of_steady (initializeFailed_steady _)) fun _ _ hw => h₂.retires hw, fun _ => ?_⟩
  refine Prog.meets_ite.2 ⟨fun _ => hE.calm_meets (calm_of_steady (initializeFailed_steady _))
    fun _ _ hw => h₂.retires hw, fun _ => Prog.meets_bind.2 ?_⟩
  have hlen₂ : w₂.mem.devices.length = 0 := hw₂.mem.length.trans (hw₁.mem.length.trans hlen)
  refine (initializeDevices_allOk P hE h₂ hlen₂ _).imp (fun _ w₃ h₃ => ?_) fun _ _ hx => hx
  refine Prog.meets_bind.2 (hE.load_meets (Prog.meets_bind.2 ?_))
  refine hE.calm_meets (calm_of_steady (setDetail_steady _)) fun _ w₄ hw₄ => ?_
  refine Prog.meets_bind.2 (hE.calm_meets (call_calm (o := .writeReport _) trivial) fun _ w₅ hw₅ => ?_)
  exact (h₃.retires hw₄).retires hw₅

end Initialization

/-! ### Runs -/

private theorem sample_allOk {strict : Prop} {E : Env Op Op.Answer World} {X : Empty → World → Prop} {w : World}
    (P : Platform)
    (hE : Allowed strict E) (h : AllOk strict w) :
    (sample P : Routine Empty Unit).Meets E (Guarantee strict) (fun _ w' => AllOk strict w') X w :=
  hE.calm_meets (sample_calm P) fun _ _ hw => h.retires hw

private theorem report_allOk {strict : Prop} {E : Env Op Op.Answer World} {X : Empty → World → Prop} {w : World}
    (hE : Allowed strict E) (h : AllOk strict w) :
    (report : Routine Empty Unit).Meets E (Guarantee strict) (fun _ w' => AllOk strict w') X w :=
  hE.calm_meets (calm_of_steady report_steady) fun _ _ hw => h.retires hw

private theorem lastReport_allOk {strict : Prop} {E : Env Op Op.Answer World} {X : Empty → World → Prop} {w : World}
    (hE : Allowed strict E) (h : AllOk strict w) :
    (lastReport : Routine Empty Unit).Meets E (Guarantee strict) (fun _ w' => AllOk strict w') X w :=
  hE.calm_meets (calm_of_steady lastReport_steady) fun _ _ hw => h.retires hw

/-- The devices are consistent now, or once the device work is done. -/
def WorkerPc.Fine (strict : Prop) (E : Env Op Op.Answer World) (pc : WorkerPc) (w : World) : Prop :=
  match pc with
  | .starting p => p.Meets E (Guarantee strict) (fun _ w' => AllOk strict w') (fun e _ => e.elim) w
  | .sampling p => p.Meets E (Guarantee strict) (fun _ w' => AllOk strict w') (fun e _ => e.elim) w
  | .rotating p => p.Meets E (Guarantee strict) (fun _ w' => AllOk strict w') (fun e _ => e.elim) w
  | .reporting p => p.Meets E (Guarantee strict) (fun _ w' => AllOk strict w') (fun e _ => e.elim) w
  | .closing p => p.Meets E (Guarantee strict) (fun _ w' => AllOk strict w') (fun e _ => e.elim) w
  | _ => AllOk strict w

/-- The worker is between two pieces of device work. -/
def WorkerPc.Between : WorkerPc → Prop
  | .starting _ | .sampling _ | .rotating _ | .reporting _ | .closing _ => False
  | _ => True

theorem WorkerPc.Fine.allOk {strict : Prop} {E : Env Op Op.Answer World} {pc : WorkerPc} {w : World}
    (h : pc.Fine strict E w) (hpc : pc.Between) : AllOk strict w := by
  cases pc <;> first | exact h | exact hpc.elim

theorem WorkerPc.Fine.next {strict : Prop} {E : Env Op Op.Answer World} (hE : Allowed strict E) {P : Platform}
    {sh sh' : Shared} {pc pc' : WorkerPc} {w : World} (h : pc.Fine strict E w)
    (hnext : workerNext P sh pc = some (pc', sh')) : pc'.Fine strict E w := by
  have hsample (h : AllOk strict w) : (WorkerPc.sampling (sample P)).Fine strict E w := sample_allOk P hE h
  have hrotate (h : AllOk strict w) : (WorkerPc.rotating (rotate P)).Fine strict E w := rotate_allOk P hE h
  have hreport (h : AllOk strict w) : (WorkerPc.reporting report).Fine strict E w := report_allOk hE h
  have hlast (h : AllOk strict w) : (WorkerPc.closing lastReport).Fine strict E w := lastReport_allOk hE h
  revert hnext h
  fun_cases workerNext P sh pc <;> grind -ring -linarith [WorkerPc.Fine, Prog.Meets]

theorem WorkerPc.Fine.answer {strict : Prop} {E : Env Op Op.Answer World} {pc : WorkerPc} {o : Op}
    {k : o.Answer → WorkerPc} {w w' : World} {r : o.Answer} (h : pc.Fine strict E w) (hask : pc.Asks o k)
    (hr : E w o r w') : Guarantee strict w o r w' ∧ (k r).Fine strict E w' := by
  cases hask with
  | starting => exact h r w' hr
  | sampling => exact h r w' hr
  | rotating => exact h r w' hr
  | reporting => exact h r w' hr
  | closing => exact h r w' hr

theorem Step.fine {strict : Prop} {E : Env Op Op.Answer World} (hE : Allowed strict E) {P : Platform} {s s' : State}
    {l : Option Op} (hs : Step P E s l s') (h : s.worker.Fine strict E s.world) :
    (s.world.mem.Keeps s'.world.mem ∧ (strict → OneSet s.world.hw → OneSet s'.world.hw)) ∧
      s'.worker.Fine strict E s'.world := by
  have hrefl : s.world.mem.Keeps s.world.mem ∧ (strict → OneSet s.world.hw → OneSet s.world.hw) :=
    ⟨fun _ _ => .refl _, fun _ => id⟩
  cases hs with
  | caller _ _ _ => exact ⟨hrefl, h⟩
  | worker hnext => exact ⟨hrefl, h.next hE hnext⟩
  | gateNotify hpc =>
    rw [hpc] at h
    exact ⟨hrefl, h⟩
  | request hask hanswer => exact h.answer hask hanswer
  | callStop _ _ => exact ⟨hrefl, h⟩
  | storeFlag _ => exact ⟨hrefl, h⟩
  | notifyWake _ => exact ⟨hrefl, h⟩
  | notifyBoundary _ => exact ⟨hrefl, h⟩
  | join _ _ => exact ⟨hrefl, h⟩

theorem allOk_initial (strict : Prop) : AllOk strict {} :=
  fun _ => ⟨⟨fun hr => (nomatch hr), fun _ _ => rfl⟩, fun _ _ => rfl⟩

theorem Reachable.fine {strict : Prop} {E : Env Op Op.Answer World} (hE : Allowed strict E) {P : Platform}
    {C : State → Prop} {n : Nat} {s : State} (h : Reachable P E C n s) :
    s.worker.Fine strict E s.world ∧ (strict → OneSet s.world.hw) := by
  induction h with
  | initial => exact ⟨initializeImpl_allOk P hE (allOk_initial strict) rfl, fun _ _ _ _ hb => (nomatch hb)⟩
  | step _ hs _ ih =>
    obtain ⟨⟨-, hone⟩, hfine⟩ := hs.fine hE ih.1
    exact ⟨hfine, fun hstrict => hone hstrict (ih.2 hstrict)⟩

private theorem allowed_env : Allowed False env := fun _ _ _ _ hr => ⟨hr, fun hf => hf.elim⟩

/-- Between two pieces of device work a ready device has exactly its active bank enabled and an unready one none; and
no step clears the `disabled` flag of a bank or enables a disabled one. -/
theorem enabled_flags_and_disabled_flags (P : Platform) (n : Nat) {s : State}
    (h : Reachable P env (fun _ => True) n s) :
    (s.worker.Between → ∀ d,
      ((s.world.mem.device d).ready = true →
        (s.world.mem.device d).activeBankIndex < (s.world.mem.device d).banks.length ∧
          ∀ b, (s.world.mem.bank d b).enabled = true ↔ b = (s.world.mem.device d).activeBankIndex) ∧
      ((s.world.mem.device d).ready = false → ∀ b, (s.world.mem.bank d b).enabled = false)) ∧
    ∀ l s', Step P env s l s' → ∀ d b, (s.world.mem.bank d b).disabled = true →
      (s'.world.mem.bank d b).disabled = true ∧
        ((s.world.mem.bank d b).enabled = false → (s'.world.mem.bank d b).enabled = false) := by
  obtain ⟨hfine, -⟩ := h.fine allowed_env
  constructor
  · intro hpc d
    have hd := (hfine.allOk hpc d).consistent
    refine ⟨fun hr => ⟨?_, (hd.ready hr).enabled⟩, hd.unready⟩
    exact (Collector.lt_of_bank (hd.ready hr).bank_ne_default).2
  · intro l s' hs d b hdis
    obtain ⟨⟨hkeeps, -⟩, -⟩ := hs.fine allowed_env hfine
    refine ⟨(hkeeps d b).disabled hdis, fun hoff => ?_⟩
    rw [Bool.eq_false_iff] at hoff ⊢
    exact fun hon => hoff ((hkeeps d b).enabled hdis hon)

/-- After a start on one device, bank 0 is the enabled one. -/
theorem enabled_flags_and_disabled_flags_started :
    ((serving 1 0).world.mem.bank 0 0).enabled = true ∧ ¬((serving 1 0).world.mem.bank 0 1).enabled = true := by
  have h := enabled_flags_and_disabled_flags barePlatform 1
    (reachable_serving (env_respond success) (fun _ _ => trivial) (Nat.zero_le 1))
  have honly : ∀ b, ((serving 1 0).world.mem.bank 0 b).enabled = true ↔ b = 0 := ((h.1 trivial 0).1 rfl).2
  simp [honly]

/-! ### The hardware -/

/-- The environment in which no `cuptiEventGroupSetDisable` call fails. -/
def disablingEnv : Env Op Op.Answer World := fun w o r w' => env w o r w' ∧ DisableSucceeds o r

private theorem allowed_disablingEnv : Allowed True disablingEnv := fun _ _ _ _ hr => ⟨hr.1, fun _ => hr.2⟩

/-- As long as no disable call fails, at most one event-group set of a device is enabled in hardware, and between two
pieces of device work the flags say which. -/
theorem one_set_enabled_and_flags_agree (P : Platform) (n : Nat) {s : State}
    (h : Reachable P disablingEnv (fun _ => True) n s) :
    (∀ d b b', s.world.hw d b = true → s.world.hw d b' = true → b = b') ∧
      (s.worker.Between → ∀ d b, (s.world.mem.bank d b).enabled = true ↔ s.world.hw d b = true) := by
  obtain ⟨hfine, hone⟩ := h.fine allowed_disablingEnv
  refine ⟨hone trivial, fun hpc d b => ?_⟩
  rw [(hfine.allOk hpc d).agrees trivial b]

private theorem disablingEnv_respond (w : World) (o : Op) :
    disablingEnv w o (respond success w o).1 (respond success w o).2 := by
  refine ⟨env_respond success w o, ?_⟩
  cases o <;> trivial

/-- After a start on one device, the event-group set of bank 0 is the only one enabled in hardware. -/
theorem one_set_enabled_and_flags_agree_started :
    (∀ b b', (serving 1 0).world.hw 0 b = true → (serving 1 0).world.hw 0 b' = true → b = b') ∧
      (serving 1 0).world.hw 0 0 = true := by
  have h := one_set_enabled_and_flags_agree barePlatform 1
    (reachable_serving disablingEnv_respond (fun _ _ => trivial) (Nat.zero_le 1))
  exact ⟨h.1 0, (h.2 trivial 0 0).1 rfl⟩

/-- A rotation after one request, on one device where `cuptiEventGroupSetDisable` fails. -/
def rotateWork : Routine Empty Unit × (World × Shared) :=
  (rotate barePlatform).run (onShared (respond 1)) (startWork.2.1, { boundaryMutex := some .worker })

private theorem rotateWork_eq : rotateWork = (.ret (), rotateWork.2.1, { boundaryMutex := some .worker }) := rfl

/-- One request, then a rotation whose disable call fails: both sets of the device are enabled in hardware. -/
theorem two_sets_enabled :
    ∃ s, Reachable barePlatform env (fun _ => True) 1 s ∧ s.worker = .gateNotify ∧
      s.world.hw 0 0 = true ∧ s.world.hw 0 1 = true ∧ (s.world.mem.bank 0 0).enabled = false := by
  have hserving := reachable_serving (C := fun _ => True) (env_respond success) (fun _ _ => trivial) (Nat.le_refl 1)
  have hend :
      callerRun (.caller 0) 7 (.serving true, { activeRequests := 1 }) = some (.idle, { rotateRequested := true }) :=
    rfl
  have hended := hserving.callerRun (i := 0) trivial (fun _ _ => trivial) rfl hend
  have hgate : workerRun barePlatform 9 (.top, { rotateRequested := true })
      = some (.rotating (rotate barePlatform), { boundaryMutex := some .worker }) := rfl
  have hgated := hended.workerRun (fun _ _ => trivial) hgate
  have hrotated := hgated.deviceWork (fun _ _ => .rotating) (env_respond 1) rfl (fun _ _ => trivial) rotateWork_eq
  exact ⟨_, hrotated.step (.worker rfl) trivial, rfl, rfl, rfl, rfl⟩

end CmpUnlocker.Cupti
