import CmpUnlocker.Cupti.Calm

/-!
# Selecting a bank

What the device work does to the flags of the banks and to the hardware.  Between two pieces of work a device is
`Consistent`: a ready device has its active bank enabled and no other one, an unready device has none enabled.
While a device is switched it has either none of its banks enabled or exactly one (`Focus`).  The results take a
parameter `strict`: if it holds, no disable call fails, and then the flags agree with the hardware at each of these
points, and no step enables a second event-group set of a device (`Guarantee`).
-/

namespace CmpUnlocker.Cupti

open Interaction

/-! ### Assertions -/

namespace DeviceState

def NoneEnabled (s : DeviceState) : Prop := ∀ b, (s.bank b).enabled = false

structure EnabledOnly (s : DeviceState) (i : Nat) : Prop where
  enabled : ∀ b, (s.bank b).enabled = true ↔ b = i
  oneSet : (s.bank i).oneSet = true

structure Consistent (s : DeviceState) : Prop where
  ready : s.ready = true → s.EnabledOnly s.activeBankIndex
  unready : s.ready = false → s.NoneEnabled

end DeviceState

/-- The flags of the banks of a device say which event-group sets are enabled in hardware. -/
def Agrees (strict : Prop) (d : Nat) (w : World) : Prop := strict → ∀ b, w.hw d b = (w.mem.bank d b).enabled

structure DeviceOk (strict : Prop) (d : Nat) (w : World) : Prop where
  consistent : (w.mem.device d).Consistent
  agrees : Agrees strict d w

def AllOk (strict : Prop) (w : World) : Prop := ∀ d, DeviceOk strict d w

/-- Device `d` of `n` devices is being switched, its `ready` flag being `r`. -/
structure Focus (strict : Prop) (d : Nat) (r : Bool) (n : Nat) (w : World) : Prop where
  others : ∀ d', d' ≠ d → DeviceOk strict d' w
  ready : (w.mem.device d).ready = r
  length : w.mem.devices.length = n

structure Off (strict : Prop) (d : Nat) (r : Bool) (n : Nat) (w : World) : Prop extends Focus strict d r n w where
  flags : (w.mem.device d).NoneEnabled
  hw : strict → ∀ b, w.hw d b = false

structure On (strict : Prop) (d i : Nat) (r : Bool) (n : Nat) (w : World) : Prop extends Focus strict d r n w where
  flags : (w.mem.device d).EnabledOnly i
  hw : strict → ∀ b, w.hw d b = true ↔ b = i

/-- At most one event-group set of each device is enabled in hardware. -/
def OneSet (hw : Nat → Nat → Bool) : Prop := ∀ d b b', hw d b = true → hw d b' = true → b = b'

/-- A disabled bank stays disabled and is not enabled again. -/
structure MetricBank.Keeps (k k' : MetricBank) : Prop where
  disabled : k.disabled = true → k'.disabled = true
  enabled : k.disabled = true → k'.enabled = true → k.enabled = true

def Collector.Keeps (c c' : Collector) : Prop := ∀ d b, (c.bank d b).Keeps (c'.bank d b)

/-- What every request of the device work guarantees. -/
def Guarantee (strict : Prop) : Env Op Op.Answer World := fun w _ _ w' =>
  w.mem.Keeps w'.mem ∧ (strict → OneSet w.hw → OneSet w'.hw)

/-- No `cuptiEventGroupSetDisable` call fails. -/
def DisableSucceeds : (o : Op) → o.Answer → Prop
  | .eventGroupSetDisable _ _, rc => rc = success
  | _, _ => True

/-- The environment is the modelled one, and under `strict` no disable call fails. -/
def Allowed (strict : Prop) (E : Env Op Op.Answer World) : Prop :=
  ∀ w o r w', E w o r w' → env w o r w' ∧ (strict → DisableSucceeds o r)

/-! ### Assertions and retiring -/

structure World.Retires (w w' : World) : Prop where
  mem : w.mem.Retires w'.mem
  hw : w'.hw = w.hw

theorem MetricBank.Keeps.refl (k : MetricBank) : k.Keeps k := ⟨id, fun _ => id⟩

theorem MetricBank.Keeps.of_not_disabled {k : MetricBank} (h : k.disabled = false) (k' : MetricBank) : k.Keeps k' := by
  constructor <;> simp [h]

theorem MetricBank.Retires.keeps {k k' : MetricBank} (h : k.Retires k') : k.Keeps k' :=
  ⟨h.disabled, fun _ hk => h.enabled ▸ hk⟩

theorem Collector.Retires.keeps {c c' : Collector} (h : c.Retires c') : c.Keeps c' :=
  fun d b => ((h.device d).bank b).keeps

theorem DeviceState.NoneEnabled.retires {s s' : DeviceState} (h : s.NoneEnabled) (hs : s.Retires s') :
    s'.NoneEnabled := by
  intro b
  rw [(hs.bank b).enabled]
  exact h b

theorem DeviceState.EnabledOnly.retires {s s' : DeviceState} {i : Nat} (h : s.EnabledOnly i) (hs : s.Retires s') :
    s'.EnabledOnly i := by
  refine ⟨fun b => ?_, ?_⟩
  · rw [(hs.bank b).enabled]
    exact h.enabled b
  · rw [(hs.bank i).oneSet]
    exact h.oneSet

theorem Agrees.retires {strict : Prop} {d : Nat} {w w' : World} (h : Agrees strict d w) (hw : w.Retires w') :
    Agrees strict d w' := by
  intro hstrict b
  rw [hw.hw, h hstrict b]
  exact ((hw.mem.device d).bank b).enabled.symm

theorem DeviceOk.retires {strict : Prop} {d : Nat} {w w' : World} (h : DeviceOk strict d w) (hw : w.Retires w') :
    DeviceOk strict d w' := by
  have hd := hw.mem.device d
  refine ⟨⟨fun hr => ?_, fun hr => ?_⟩, h.agrees.retires hw⟩
  · rw [hd.active]
    exact (h.consistent.ready (hd.ready ▸ hr)).retires hd
  · exact (h.consistent.unready (hd.ready ▸ hr)).retires hd

theorem AllOk.retires {strict : Prop} {w w' : World} (h : AllOk strict w) (hw : w.Retires w') : AllOk strict w' :=
  fun d => (h d).retires hw

theorem Focus.retires {strict : Prop} {d n : Nat} {r : Bool} {w w' : World} (h : Focus strict d r n w)
    (hw : w.Retires w') : Focus strict d r n w' :=
  ⟨fun d' hd' => (h.others d' hd').retires hw, (hw.mem.device d).ready.trans h.ready, hw.mem.length.trans h.length⟩

theorem Off.retires {strict : Prop} {d n : Nat} {r : Bool} {w w' : World} (h : Off strict d r n w)
    (hw : w.Retires w') : Off strict d r n w' :=
  ⟨h.toFocus.retires hw, h.flags.retires (hw.mem.device d), hw.hw ▸ h.hw⟩

theorem On.retires {strict : Prop} {d i n : Nat} {r : Bool} {w w' : World} (h : On strict d i r n w)
    (hw : w.Retires w') : On strict d i r n w' :=
  ⟨h.toFocus.retires hw, h.flags.retires (hw.mem.device d), hw.hw ▸ h.hw⟩

theorem env_calm {w w' : World} {o : Op} {r : o.Answer} (ho : Calm o) (h : env w o r w') : w.Retires w' := by
  have hrefl : w.Retires w := ⟨.refl _, rfl⟩
  cases o <;> simp only [env] at h <;> first | exact h ▸ hrefl | exact h.2 ▸ hrefl | skip
  case store f => exact h ▸ ⟨ho w.mem, rfl⟩
  all_goals exact ho.elim

theorem World.Retires.guarantee {strict : Prop} {w w' : World} (h : w.Retires w') {o : Op} {r : o.Answer} :
    Guarantee strict w o r w' :=
  ⟨h.mem.keeps, fun _ hone => h.hw ▸ hone⟩

/-! ### The requests of the device work -/

section Requests

variable {strict : Prop} {E : Env Op Op.Answer World} {ε : Type} {X : ε → World → Prop} {w : World}

theorem Allowed.calm_meets {α : Type} (hE : Allowed strict E) {p : Routine Empty α} (hp : p.Uses Calm)
    {Q : α → World → Prop} {X : Empty → World → Prop} (h : ∀ a w', w.Retires w' → Q a w') :
    p.Meets E (Guarantee strict) Q X w := by
  have hI : p.Meets E (Guarantee strict) (fun _ w' => w.Retires w') (fun _ w' => w.Retires w') w := by
    refine Prog.Uses.meets (fun w₁ o r w₂ ho hw₁ hr => ?_) hp ⟨.refl _, rfl⟩
    have hstep := env_calm ho (hE w₁ o r w₂ hr).1
    exact ⟨hstep.guarantee, hw₁.mem.trans hstep.mem, hstep.hw.trans hw₁.hw⟩
  exact hI.imp h fun e _ _ => e.elim

theorem Allowed.load_meets (hE : Allowed strict E) {Q : Collector → World → Prop} (h : Q w.mem w) :
    (load : Routine ε Collector).Meets E (Guarantee strict) Q X w := by
  intro r w' hr
  obtain ⟨rfl, rfl⟩ := (hE w .load r w' hr).1
  exact ⟨⟨fun _ _ => .refl _, fun _ => id⟩, h⟩

theorem Allowed.loadDevice_meets (hE : Allowed strict E) {d : Nat} {Q : DeviceState → World → Prop}
    (h : Q (w.mem.device d) w) : (loadDevice d : Routine ε DeviceState).Meets E (Guarantee strict) Q X w :=
  Prog.meets_bind.2 (hE.load_meets h)

private theorem Allowed.loadBank_meets (hE : Allowed strict E) {d b : Nat} {Q : MetricBank → World → Prop}
    (h : Q (w.mem.bank d b) w) : (loadBank d b : Routine ε MetricBank).Meets E (Guarantee strict) Q X w :=
  Prog.meets_bind.2 (hE.load_meets h)

theorem Allowed.store_meets (hE : Allowed strict E) {f : Collector → Collector} {Q : Unit → World → Prop}
    (hf : w.mem.Keeps (f w.mem)) (h : Q () { w with mem := f w.mem }) :
    (store f : Routine ε Unit).Meets E (Guarantee strict) Q X w := by
  intro r w' hr
  obtain rfl := (hE w (.store f) r w' hr).1
  exact ⟨⟨hf, fun _ => id⟩, h⟩

private theorem Allowed.enable_meets (hE : Allowed strict E) {d b : Nat} {Q : Code → World → Prop}
    (hone : strict → OneSet (w.setHw d b true).hw) (hok : Q success (w.setHw d b true))
    (hfail : ∀ rc, rc ≠ success → Q rc w) :
    (call (.eventGroupSetEnable d b) : Routine ε Code).Meets E (Guarantee strict) Q X w := by
  intro rc w' hr
  have hw' := (hE w _ rc w' hr).1
  by_cases hrc : rc = success
  · subst hrc
    simp only [env, if_true] at hw'
    subst hw'
    exact ⟨⟨fun _ _ => .refl _, fun hs _ => hone hs⟩, hok⟩
  · simp only [env, if_neg hrc] at hw'
    subst hw'
    exact ⟨⟨fun _ _ => .refl _, fun _ => id⟩, hfail rc hrc⟩

private theorem oneSet_setHw_false {hw : World} (h : OneSet hw.hw) (d b : Nat) : OneSet (hw.setHw d b false).hw := by
  intro d₁ b₁ b₂ h₁ h₂
  simp only [World.setHw] at h₁ h₂
  split at h₁
  · cases h₁
  · split at h₂
    · cases h₂
    · exact h d₁ b₁ b₂ h₁ h₂

private theorem Allowed.disable_meets (hE : Allowed strict E) {d b : Nat} {Q : Code → World → Prop}
    (hok : Q success (w.setHw d b false)) (hfail : ¬ strict → ∀ rc, rc ≠ success → Q rc w) :
    (call (.eventGroupSetDisable d b) : Routine ε Code).Meets E (Guarantee strict) Q X w := by
  intro rc w' hr
  obtain ⟨hw', hsucc⟩ := hE w _ rc w' hr
  by_cases hrc : rc = success
  · subst hrc
    simp only [env, if_true] at hw'
    subst hw'
    exact ⟨⟨fun _ _ => .refl _, fun _ hone => oneSet_setHw_false hone d b⟩, hok⟩
  · simp only [env, if_neg hrc] at hw'
    subst hw'
    exact ⟨⟨fun _ _ => .refl _, fun _ => id⟩, hfail (fun hs => hrc (hsucc hs)) rc hrc⟩

end Requests

/-! ### Switching one bank -/

private theorem DeviceState.bank_of_le {s : DeviceState} {b : Nat} (h : s.banks.length ≤ b) : s.bank b = default := by
  simp [bank, List.getD_eq_getElem?_getD, h]

theorem Collector.device_of_le {c : Collector} {d : Nat} (h : c.devices.length ≤ d) : c.device d = default := by
  simp [device, List.getD_eq_getElem?_getD, h]

theorem Collector.lt_of_bank {c : Collector} {d b : Nat} (h : c.bank d b ≠ default) :
    d < c.devices.length ∧ b < (c.device d).banks.length := by
  have hb : b < (c.device d).banks.length := by
    refine Nat.lt_of_not_le fun hle => ?_
    exact h (DeviceState.bank_of_le hle)
  refine ⟨Nat.lt_of_not_le fun hle => ?_, hb⟩
  rw [device_of_le hle] at hb
  exact absurd hb (Nat.not_lt_zero b)

theorem Collector.device_modifyBank_self {c : Collector} {d b : Nat} (f : MetricBank → MetricBank)
    (h : c.bank d b ≠ default) : (c.modifyBank d b f).device d = (c.device d).modifyBank b f := by
  simp [modifyBank, device_modifyDevice, (lt_of_bank h).1]

theorem Collector.device_modifyDevice_ne (c : Collector) {d d' : Nat} (f : DeviceState → DeviceState) (h : d' ≠ d) :
    (c.modifyDevice d f).device d' = c.device d' := by
  simp [device_modifyDevice, Ne.symm h]

private theorem DeviceState.NoneEnabled.switchOn {s : DeviceState} {i : Nat} {f : MetricBank → MetricBank}
    (h : s.NoneEnabled) (hi : i < s.banks.length) (henabled : (f (s.bank i)).enabled = true)
    (hone : (f (s.bank i)).oneSet = true) : (s.modifyBank i f).EnabledOnly i := by
  constructor
  · intro b
    rw [bank_modifyBank]
    by_cases hb : i = b
    · subst hb
      simp [hi, henabled]
    · simp [hb, h b, Ne.symm hb]
  · rw [bank_modifyBank, if_pos ⟨rfl, hi⟩]
    exact hone

private theorem DeviceState.EnabledOnly.switchOff {s : DeviceState} {i : Nat} {f : MetricBank → MetricBank}
    (h : s.EnabledOnly i) (hf : ∀ k, (f k).enabled = false) : (s.modifyBank i f).NoneEnabled := by
  intro b
  rw [bank_modifyBank]
  by_cases hb : i = b ∧ b < s.banks.length
  · rw [if_pos hb]
    exact hf _
  · rw [if_neg hb, Bool.eq_false_iff]
    intro hen
    obtain rfl := (h.enabled b).1 hen
    have hle : s.banks.length ≤ b := Nat.le_of_not_lt fun hlt => hb ⟨rfl, hlt⟩
    rw [bank_of_le hle] at hen
    cases hen

theorem DeviceOk.of_device_eq {strict : Prop} {d : Nat} {w w' : World} (h : DeviceOk strict d w)
    (hmem : w'.mem.device d = w.mem.device d) (hhw : w'.hw d = w.hw d) : DeviceOk strict d w' := by
  refine ⟨hmem ▸ h.consistent, fun hs b => ?_⟩
  rw [hhw, h.agrees hs b]
  unfold Collector.bank
  rw [hmem]

theorem Focus.setHw {strict : Prop} {d n : Nat} {r : Bool} {w : World} (h : Focus strict d r n w) (b : Nat)
    (on : Bool) : Focus strict d r n (w.setHw d b on) := by
  refine ⟨fun d' hd' => (h.others d' hd').of_device_eq rfl ?_, h.ready, h.length⟩
  funext b'
  simp [World.setHw, hd']

theorem DeviceOk.oneSet {strict : Prop} {d : Nat} {w : World} (h : DeviceOk strict d w) (hs : strict) {b b' : Nat}
    (hb : w.hw d b = true) (hb' : w.hw d b' = true) : b = b' := by
  rw [h.agrees hs] at hb hb'
  cases hr : (w.mem.device d).ready with
  | true =>
    have honly := (h.consistent.ready hr).enabled
    exact ((honly b).1 hb).trans ((honly b').1 hb').symm
  | false =>
    have hnone := h.consistent.unready hr b
    rw [show w.mem.bank d b = (w.mem.device d).bank b from rfl, hnone] at hb
    cases hb

private theorem Focus.oneSet_setHw {strict : Prop} {d i n : Nat} {r : Bool} {w : World} (h : Focus strict d r n w)
    (hs : strict) (hhw : ∀ b, (w.setHw d i true).hw d b = true ↔ b = i) : OneSet (w.setHw d i true).hw := by
  intro d' b b' hb hb'
  by_cases hd : d' = d
  · subst hd
    exact ((hhw b).1 hb).trans ((hhw b').1 hb').symm
  · simp only [World.setHw, hd, false_and, if_false] at hb hb'
    exact (h.others d' hd).oneSet hs hb hb'

theorem Focus.modifyDevice {strict : Prop} {d n : Nat} {r r' : Bool} {w : World} (h : Focus strict d r n w)
    {f : DeviceState → DeviceState} (hf : ((w.mem.modifyDevice d f).device d).ready = r') :
    Focus strict d r' n { w with mem := w.mem.modifyDevice d f } :=
  ⟨fun d' hd' => (h.others d' hd').of_device_eq (w.mem.device_modifyDevice_ne f hd') rfl, hf,
    (w.mem.length_modifyDevice d f).trans h.length⟩

theorem Focus.modifyBank {strict : Prop} {d n : Nat} {r : Bool} {w : World} (h : Focus strict d r n w) (b : Nat)
    (f : MetricBank → MetricBank) : Focus strict d r n { w with mem := w.mem.modifyBank d b f } := by
  refine h.modifyDevice ?_
  rw [Collector.device_modifyDevice]
  split
  · exact h.ready
  · exact h.ready

private theorem Collector.keeps_modifyBank {c : Collector} {d b : Nat} {f : MetricBank → MetricBank}
    (h : (c.bank d b).Keeps (f (c.bank d b))) : c.Keeps (c.modifyBank d b f) := by
  intro d' b'
  unfold bank modifyBank
  rw [device_modifyDevice]
  split
  · next hd =>
    rw [DeviceState.bank_modifyBank]
    split
    · next hb =>
      rw [← hd.1, ← hb.1]
      exact h
    · exact .refl _
  · exact .refl _

section Banks

variable {strict : Prop} {E : Env Op Op.Answer World} {X : Empty → World → Prop} {w : World}
variable {d n : Nat} {r : Bool} (P : Platform)

/-- Hardware: the only set of the device that is enabled is disabled, or the call fails. -/
theorem On.disable_meets {i : Nat} (h : On strict d i r n w) (hE : Allowed strict E) {Q : Code → World → Prop}
    (hQ : ∀ rc w', Focus strict d r n w' → (w'.mem.device d).EnabledOnly i →
      (strict → ∀ b, w'.hw d b = false) → Q rc w') :
    (call (.eventGroupSetDisable d i) : Routine Empty Code).Meets E (Guarantee strict) Q X w := by
  refine hE.disable_meets (hQ _ _ (h.toFocus.setHw i false) h.flags fun hs b => ?_) fun hstrict rc _ => ?_
  · by_cases hb : b = i
    · simp [World.setHw, hb]
    · have hoff : w.hw d b = false := by
        rw [Bool.eq_false_iff]
        exact fun hon => hb ((h.hw hs b).1 hon)
      simp [World.setHw, hb, hoff]
  · exact hQ rc w h.toFocus h.flags fun hs => absurd hs hstrict

theorem DeviceState.EnabledOnly.bank_ne_default {i : Nat} (h : (w.mem.device d).EnabledOnly i) :
    w.mem.bank d i ≠ default := by
  intro hdef
  have henabled := (h.enabled i).2 rfl
  rw [show (w.mem.device d).bank i = default from hdef] at henabled
  cases henabled

/-- Memory: the flag of the only enabled bank is cleared. -/
theorem Focus.storeOff {i : Nat} (h : Focus strict d r n w) (hE : Allowed strict E)
    (hflags : (w.mem.device d).EnabledOnly i) (hhw : strict → ∀ b, w.hw d b = false) {f : MetricBank → MetricBank}
    (hf : ∀ k : MetricBank, (f k).enabled = false ∧ (f k).disabled = k.disabled) :
    (storeBank d i f : Routine Empty Unit).Meets E (Guarantee strict) (fun _ w' => Off strict d r n w') X w := by
  refine hE.store_meets (Collector.keeps_modifyBank ⟨fun hd => (hf _).2.trans hd, fun _ hen => ?_⟩) ?_
  · rw [(hf _).1] at hen
    cases hen
  · refine ⟨h.modifyBank i f, ?_, hhw⟩
    show ((w.mem.modifyBank d i f).device d).NoneEnabled
    rw [Collector.device_modifyBank_self f hflags.bank_ne_default]
    exact hflags.switchOff fun k => (hf k).1

/-- Memory: the flag of an available bank that is not disabled is set. -/
theorem Focus.storeOn {i : Nat} (h : Focus strict d r n w) (hE : Allowed strict E)
    (hflags : (w.mem.device d).NoneEnabled) (hhw : strict → ∀ b, w.hw d b = true ↔ b = i)
    (havail : (w.mem.bank d i).available = true) (hdis : (w.mem.bank d i).disabled = false)
    (hone : (w.mem.bank d i).oneSet = true) {Q : Unit → World → Prop} (hQ : ∀ w', On strict d i r n w' → Q () w') :
    (storeBank d i (fun bank => { bank with enabled := true }) : Routine Empty Unit).Meets E
      (Guarantee strict) Q X w := by
  refine hE.store_meets (Collector.keeps_modifyBank (.of_not_disabled hdis _)) (hQ _ ⟨h.modifyBank i _, ?_, hhw⟩)
  have hin : w.mem.bank d i ≠ default := by
    intro hdef
    rw [hdef] at havail
    cases havail
  show ((w.mem.modifyBank d i _).device d).EnabledOnly i
  rw [Collector.device_modifyBank_self _ hin]
  exact hflags.switchOn (Collector.lt_of_bank hin).2 rfl hone

/-- `enable_bank` on a device with no bank enabled: it enables the bank or none. -/
theorem Off.enableBank (h : Off strict d r n w) (hE : Allowed strict E) (i : Nat) :
    (enableBank P d i : Routine Empty Bool).Meets E (Guarantee strict)
      (fun ok w' => if ok = true then On strict d i r n w' else Off strict d r n w') X w := by
  unfold Cupti.enableBank
  refine Prog.meets_bind.2 (hE.loadBank_meets (Prog.meets_ite.2 ⟨fun _ => h, fun hbank => ?_⟩))
  simp only [Bool.or_eq_true, Bool.not_eq_true', not_or, Bool.not_eq_false, Bool.not_eq_true] at hbank
  obtain ⟨⟨havail, hdis⟩, hset⟩ := hbank
  have hhw : strict → ∀ b, (w.setHw d i true).hw d b = true ↔ b = i := by
    intro hs b
    simp [World.setHw, h.hw hs b]
  refine Prog.meets_bind.2 (hE.enable_meets (fun hs => ?_) ?_ fun rc hrc => ?_)
  · exact h.toFocus.oneSet_setHw hs (hhw hs)
  · refine Prog.meets_ite.2 ⟨fun hne => absurd rfl hne, fun _ => ?_⟩
    refine Prog.meets_bind.2 ((h.toFocus.setHw i true).storeOn hE h.flags hhw havail hdis hset fun w₁ hon => ?_)
    refine Prog.meets_bind.2 (hE.calm_meets (call_calm (o := .getTimestamp) trivial) fun now w₂ hw₂ => ?_)
    have hon₂ := hon.retires hw₂
    refine Prog.meets_ite.2 ⟨fun _ => ?_, fun _ => ?_⟩
    · refine Prog.meets_bind.2 (hon₂.disable_meets hE fun rc w₃ h₃ hflags₃ hhw₃ => ?_)
      exact Prog.meets_bind.2 (h₃.storeOff hE hflags₃ hhw₃ fun _ => ⟨rfl, rfl⟩)
    · refine Prog.meets_bind.2 (hE.calm_meets (storeBank_calm (by exact fun _ => ⟨rfl, rfl, id⟩) d i)
        fun _ w₃ hw₃ => ?_)
      exact hon₂.retires hw₃
  · refine Prog.meets_ite.2 ⟨fun _ => ?_, fun heq => absurd hrc heq⟩
    refine Prog.meets_bind.2 (hE.calm_meets (storeBank_calm (by exact fun _ => ⟨rfl, rfl, id⟩) d i) fun _ w₁ hw₁ => ?_)
    exact h.retires hw₁

/-- `disable_bank` on the only enabled bank of a device. -/
theorem On.disableBank {i : Nat} (h : On strict d i r n w) (hE : Allowed strict E) :
    (disableBank P d i : Routine Empty Unit).Meets E (Guarantee strict) (fun _ w' => Off strict d r n w') X w := by
  unfold Cupti.disableBank
  have henabled : (w.mem.bank d i).enabled = true := (h.flags.enabled i).2 rfl
  have hset : (w.mem.bank d i).oneSet = true := h.flags.oneSet
  refine Prog.meets_bind.2 (hE.loadBank_meets (Prog.meets_ite.2 ⟨fun hbank => ?_, fun _ => ?_⟩))
  · simp [henabled, hset] at hbank
  · refine Prog.meets_bind.2 (h.disable_meets hE fun rc w₁ h₁ hflags₁ hhw₁ => ?_)
    refine Prog.meets_bind.2 (hE.calm_meets (.when fun _ => storeBank_calm (by exact fun _ => ⟨rfl, rfl, id⟩) d i) ?_)
    intro _ w₂ hw₂
    refine (h₁.retires hw₂).storeOff hE (hflags₁.retires (hw₂.mem.device d)) (hw₂.hw ▸ hhw₁) fun _ => ⟨rfl, rfl⟩

/-- A bank of the device is the only enabled one, and it is the active one. -/
def Selected (strict : Prop) (d : Nat) (r : Bool) (n : Nat) (w : World) : Prop :=
  ∃ i, On strict d i r n w ∧ (w.mem.device d).activeBankIndex = i

theorem Collector.keeps_modifyDevice {c : Collector} {d : Nat} {f : DeviceState → DeviceState}
    (h : ∀ b, ((c.device d).bank b).Keeps ((f (c.device d)).bank b)) : c.Keeps (c.modifyDevice d f) := by
  intro d' b
  unfold bank
  rw [device_modifyDevice]
  split
  · next hd =>
    rw [← hd.1]
    exact h b
  · exact .refl _

/-- The assignment to `active_bank_index` after a bank was enabled. -/
theorem On.storeActive {i : Nat} (h : On strict d i r n w) (hE : Allowed strict E) :
    (storeDevice d (fun state => { state with activeBankIndex := i }) : Routine Empty Unit).Meets E (Guarantee strict)
      (fun _ w' => Selected strict d r n w') X w := by
  have hdev : (w.mem.modifyDevice d fun state => { state with activeBankIndex := i }).device d
      = { w.mem.device d with activeBankIndex := i } := by
    rw [Collector.device_modifyDevice, if_pos ⟨rfl, (Collector.lt_of_bank h.flags.bank_ne_default).1⟩]
  refine hE.store_meets (Collector.keeps_modifyDevice fun b => .refl _) ⟨i, ⟨h.toFocus.modifyDevice ?_, ?_, h.hw⟩, ?_⟩
  · rw [hdev]
    exact h.ready
  · show ((w.mem.modifyDevice d _).device d).EnabledOnly i
    rw [hdev]
    exact ⟨h.flags.enabled, h.flags.oneSet⟩
  · show ((w.mem.modifyDevice d _).device d).activeBankIndex = i
    rw [hdev]

/-- The candidate loop of a rotation: it selects one bank or leaves the device without one. -/
theorem Off.selectCandidate (h : Off strict d r n w) (hE : Allowed strict E) (is : List Nat) :
    (selectCandidate P d is : Routine Empty Bool).Meets E (Guarantee strict)
      (fun sel w' => if sel = true then Selected strict d r n w' else Off strict d r n w') X w := by
  induction is generalizing w with
  | nil => exact h
  | cons i is ih =>
    unfold Cupti.selectCandidate
    refine Prog.meets_bind.2 (hE.loadBank_meets (Prog.meets_ite.2 ⟨fun _ => ih h, fun _ => ?_⟩))
    refine Prog.meets_bind.2 ((h.enableBank P hE i).imp (fun ok w₁ h₁ => ?_) fun _ _ hx => hx)
    cases ok with
    | true => exact Prog.meets_bind.2 ((On.storeActive h₁ hE).imp (fun _ _ hsel => hsel) fun _ _ hx => hx)
    | false =>
      refine Prog.meets_bind.2 (hE.calm_meets (storeBank_calm (by exact fun _ => ⟨rfl, rfl, fun _ => rfl⟩) d i) ?_)
      exact fun _ w₂ hw₂ => ih (Off.retires h₁ hw₂)

theorem Off.allOk (h : Off strict d false n w) : AllOk strict w := by
  intro d'
  by_cases hd : d' = d
  · subst hd
    refine ⟨⟨fun hr => ?_, fun _ => h.flags⟩, fun hs b => ?_⟩
    · rw [h.ready] at hr
      cases hr
    · exact (h.hw hs b).trans (h.flags b).symm
  · exact h.others d' hd

theorem Selected.allOk (h : Selected strict d true n w) : AllOk strict w := by
  obtain ⟨i, hon, hactive⟩ := h
  intro d'
  by_cases hd : d' = d
  · subst hd
    refine ⟨⟨fun _ => hactive ▸ hon.flags, fun hr => ?_⟩, fun hs b => ?_⟩
    · rw [hon.ready] at hr
      cases hr
    · rw [Bool.eq_iff_iff]
      exact (hon.hw hs b).trans (hon.flags.enabled b).symm
  · exact hon.others d' hd

theorem AllOk.on (h : AllOk strict w) (hready : (w.mem.device d).ready = true) :
    On strict d (w.mem.device d).activeBankIndex true w.mem.devices.length w := by
  have honly := (h d).consistent.ready hready
  refine ⟨⟨fun d' _ => h d', hready, rfl⟩, honly, fun hs b => ?_⟩
  rw [(h d).agrees hs b]
  exact honly.enabled b

end Banks

end CmpUnlocker.Cupti
