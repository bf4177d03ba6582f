import Mathlib.Data.List.GetD
import Mathlib.Logic.Function.Basic
import CmpUnlocker.Cupti.Machine

/-!
# What the collector holds of the driver

The worker retains primary contexts, pushes and pops them, and creates and destroys event-group sets.  A ledger is kept
of what the driver holds for it; what the driver has refused to pop, to release or to destroy stays in the ledger and is
counted.  Apart from that, each piece of device work leaves no context pushed, and the memory says what is held: a
context for each device that has one, and one event-group set for each bank that points to one (`At`).  Until then a
request about a device is made with its context as the current one.
-/

namespace CmpUnlocker.Cupti

open Interaction

/-! ### The ledger -/

/-- The contexts pushed and not popped, the current one first; for each device the references to its primary context
and its event-group sets.  `stuck` is the part of the stack that pops have left there, `unreleased` and `undestroyed`
count the references and the sets that the driver has not taken back, and `refused` the pushes that failed. -/
structure Held where
  stack : List Nat := []
  retained : Nat → Nat := fun _ => 0
  sets : Nat → Nat := fun _ => 0
  stuck : List Nat := []
  unreleased : Nat → Nat := fun _ => 0
  undestroyed : Nat → Nat := fun _ => 0
  refused : Nat → Nat := fun _ => 0

/-- What an answer says of the ledger.  The code of a pop is not read at all, so that a pop may have failed; a
destruction that does not succeed may have been done or not. -/
def Held.Becomes (h : Held) : (o : Op) → o.Answer → Held → Prop
  | .cuDevicePrimaryCtxRetain d, rc, h' =>
    h' = if rc = success then { h with retained := Function.update h.retained d (h.retained d + 1) } else h
  | .cuCtxPushCurrent d, rc, h' =>
    h' = if rc = success then { h with stack := d :: h.stack }
      else { h with refused := Function.update h.refused d (h.refused d + 1) }
  | .cuCtxPopCurrent, _, h' => h' = { h with stack := h.stack.tail } ∨ h' = { h with stuck := h.stack }
  | .metricCreateEventGroupSets d _, (rc, sets), h' =>
    h' = if rc = success ∧ sets.isSome then { h with sets := Function.update h.sets d (h.sets d + 1) } else h
  | .eventGroupSetsDestroy d _, rc, h' =>
    h' = { h with sets := Function.update h.sets d (h.sets d - 1) } ∨
      rc ≠ success ∧ h' = { h with undestroyed := Function.update h.undestroyed d (h.undestroyed d + 1) }
  | _, _, h' => h' = h

/-- No context is pushed but those that pops have left. -/
def Held.Free (h : Held) : Prop := h.stack = h.stuck

/-- The context of the device is the current one, pushed onto those that pops have left. -/
def Held.Current (h : Held) (d : Nat) : Prop := h.stack = d :: h.stuck

/-- The device has event-group sets, not counting those that were not taken back. -/
def Held.HasSets (h : Held) (d : Nat) : Prop := h.undestroyed d < h.sets d

/-- A context is retained once, and pushed while it is retained and no other one is pushed but those that pops have left;
what concerns a device is asked with its context current, and what concerns event groups while there are sets of this
device. -/
def Held.Allows (h : Held) : Op → Prop
  | .cuDevicePrimaryCtxRetain d => h.Free ∧ h.retained d = h.unreleased d
  | .cuCtxPushCurrent d => h.Free ∧ h.retained d = h.unreleased d + 1
  | .cuCtxPopCurrent => ∃ d, h.Current d
  | .setContinuousMode d | .metricGetIdFromName d _ | .metricCreateEventGroupSets d _ => h.Current d
  | .metricGetValueKind _ => ∃ d, h.Current d
  | .eventGroupSetsDestroy d _ | .eventGroupSetEnable d _ | .eventGroupSetDisable d _ => h.Current d ∧ h.HasSets d
  | .eventDomainGetTotalInstanceCount d _ | .eventDomainGetInstanceCount d _ => h.Current d ∧ h.HasSets d
  | .metricGetValue d _ _ _ _ => h.Current d ∧ h.HasSets d
  | .setProfileAllDomainInstances _ | .eventGroupGetNumEvents _ | .eventGroupGetEvents _ _ =>
    ∃ d, h.Current d ∧ h.HasSets d
  | .eventGroupGetInstanceCount _ | .eventGroupGetEventDomainId _ | .eventGroupReadEvent _ _ _ =>
    ∃ d, h.Current d ∧ h.HasSets d
  | .metricGetNumEvents _ | .metricEnumEvents _ _ => ∃ d, h.Current d ∧ h.HasSets d
  | .writeReport _ => h.Free
  | _ => True

/-- The pointers in a request are not null. -/
def Collector.Points (c : Collector) : Op → Prop
  | .eventGroupSetEnable d b | .eventGroupSetDisable d b => (c.bank d b).oneSet = true
  | .eventGroupSetsDestroy d b => (c.bank d b).sets ≠ none
  | _ => True

/-- The world and the ledger. -/
abbrev Tracked : Type := World × Held

def trackedEnv : Env Op Op.Answer Tracked := fun w o r w' => env w.1 o r w'.1 ∧ w.2.Becomes o r w'.2

def Proper : Env Op Op.Answer Tracked := fun w o _ _ => w.2.Allows o ∧ w.1.mem.Points o

/-! ### What the memory says -/

/-- Whether a device has a context, and the pointers of its banks. -/
structure Owned where
  context : Bool := false
  sets : List (Option EventGroupSets) := []

instance : Inhabited Owned := ⟨{}⟩

def DeviceState.owned (s : DeviceState) : Owned := ⟨s.contextRetained, s.banks.map (·.sets)⟩

def Collector.owned (c : Collector) : List Owned := c.devices.map DeviceState.owned

/-- What one device accounts for. -/
def Owned.count (o : Owned) : Nat := o.sets.countP (·.isSome)

/-- What the memory says and what the ledger says, `stack` being pushed onto what pops have left. -/
structure Accounts (memory ledger : List Owned) (stack : List Nat) (w : Tracked) : Prop where
  memory : w.1.mem.owned = memory
  stack : w.2.stack = stack ++ w.2.stuck
  retained : ∀ d, w.2.retained d = (ledger.getD d {}).context.toNat + w.2.unreleased d
  sets : ∀ d, w.2.sets d = (ledger.getD d {}).count + w.2.undestroyed d

/-- The two agree. -/
abbrev At (owned : List Owned) (stack : List Nat) (w : Tracked) : Prop := Accounts owned owned stack w

/-- Banks are there only with a context. -/
def Backed (owned : List Owned) : Prop := ∀ o ∈ owned, o.sets ≠ [] → o.context = true

variable {L L' : List Owned} {st : List Nat} {w : Tracked} {d b : Nat} {o : Owned}

theorem Backed.getD (h : Backed L) (hsets : (L.getD d {}).sets ≠ []) : (L.getD d {}).context = true := by
  by_cases hd : d < L.length
  · rw [List.getD_eq_getElem _ _ hd] at hsets ⊢
    exact h _ (List.getElem_mem hd) hsets
  · rw [List.getD_eq_default _ _ (by omega)] at hsets
    exact absurd rfl hsets

theorem getD_owned (c : Collector) (d : Nat) : c.owned.getD d {} = (c.device d).owned := by
  rw [Collector.owned, Collector.device]
  exact List.getD_map (f := DeviceState.owned) (d := default) ..

theorem sets_bank (s : DeviceState) (b : Nat) : (s.bank b).sets = (s.owned.sets.getD b none) := by
  rw [DeviceState.bank, DeviceState.owned]
  exact (List.getD_map (f := fun bank : MetricBank => bank.sets) (d := default) ..).symm

private theorem owned_modifyDevice (c : Collector) (d : Nat) {f : DeviceState → DeviceState} {g : Owned → Owned}
    (h : ∀ s : DeviceState, (f s).owned = g s.owned) : (c.modifyDevice d f).owned = c.owned.modify d g := by
  apply List.ext_getElem?
  intro i
  simp only [Collector.owned, Collector.modifyDevice, List.getElem?_map, List.getElem?_modify]
  cases c.devices[i]? with
  | none => rfl
  | some s =>
    by_cases hi : d = i
    · simp [hi, h]
    · simp [hi]

private theorem owned_modifyBank (s : DeviceState) (b : Nat) {f : MetricBank → MetricBank}
    {g : Option EventGroupSets → Option EventGroupSets} (h : ∀ bank : MetricBank, (f bank).sets = g bank.sets) :
    (s.modifyBank b f).owned = ⟨s.contextRetained, s.owned.sets.modify b g⟩ := by
  have hsets : ((s.modifyBank b f).banks.map fun bank => bank.sets) =
      (s.banks.map fun bank => bank.sets).modify b g := by
    apply List.ext_getElem?
    intro i
    simp only [DeviceState.modifyBank, List.getElem?_map, List.getElem?_modify]
    cases s.banks[i]? with
    | none => rfl
    | some bank =>
      by_cases hi : b = i
      · simp [hi, h]
      · simp [hi]
  exact congrArg (Owned.mk s.contextRetained) hsets

/-- Assignments that change neither contexts nor pointers. -/
def Same (f : Collector → Collector) : Prop := ∀ c : Collector, (f c).owned = c.owned

theorem same_modifyDevice (d : Nat) {f : DeviceState → DeviceState} (h : ∀ s : DeviceState, (f s).owned = s.owned) :
    Same (Collector.modifyDevice d f) := by
  intro c
  have hid : c.owned.modify d id = c.owned := List.modify_id ..
  rw [owned_modifyDevice c d (g := id) h, hid]

theorem same_modifyBank (d b : Nat) {f : MetricBank → MetricBank} (h : ∀ bank : MetricBank, (f bank).sets = bank.sets) :
    Same (Collector.modifyBank d b f) := by
  refine same_modifyDevice d fun s => ?_
  have hid : s.owned.sets.modify b id = s.owned.sets := List.modify_id ..
  rw [owned_modifyBank s b (g := id) h, hid]
  rfl

theorem owned_foldl_setSample (s : DeviceState) (f : DeviceState → Metric → MetricSample) (ms : List Metric) :
    (ms.foldl (fun s m => s.setSample m (f s m)) s).owned = s.owned := by
  induction ms generalizing s with
  | nil => rfl
  | cons m ms ih => rw [List.foldl_cons, ih]; rfl

/-! ### Requests that change nothing of it -/

/-- Requests that need no context. -/
def Still : Op → Prop
  | .store f => Same f
  | .load | .getTimestamp | .unixTimeMs | .requestRotate => True
  | _ => False

/-- Requests made with the context of a device current, `sets` being the pointers of its banks. -/
def Inside (d : Nat) (sets : List (Option EventGroupSets)) : Op → Prop
  | .store f => Same f
  | .load | .getTimestamp | .unixTimeMs | .metricGetValueKind _ => True
  | .setContinuousMode d' | .metricGetIdFromName d' _ => d' = d
  | .eventGroupSetEnable d' b | .eventGroupSetDisable d' b => d' = d ∧ ∃ s, sets[b]? = some (some s) ∧ s.numSets = 1
  | .eventDomainGetTotalInstanceCount d' _ | .eventDomainGetInstanceCount d' _ => d' = d ∧ ∃ s, some s ∈ sets
  | .metricGetValue d' _ _ _ _ => d' = d ∧ ∃ s, some s ∈ sets
  | .setProfileAllDomainInstances _ | .eventGroupGetNumEvents _ | .eventGroupGetEvents _ _ => ∃ s, some s ∈ sets
  | .eventGroupGetInstanceCount _ | .eventGroupGetEventDomainId _ | .eventGroupReadEvent _ _ _ => ∃ s, some s ∈ sets
  | .metricGetNumEvents _ | .metricEnumEvents _ _ => ∃ s, some s ∈ sets
  | _ => False

variable {op : Op} {r : op.Answer} {w' : Tracked}

/-- An answer after which the ledger and what the memory says are the same. -/
theorem At.same (h : At L st w) (hmem : w'.1.mem.owned = w.1.mem.owned) (hheld : w'.2 = w.2) : At L st w' :=
  ⟨hmem.trans h.memory, hheld ▸ h.stack, hheld ▸ h.retained, hheld ▸ h.sets⟩

/-- Only an assignment changes the memory. -/
theorem env_mem {u u' : World} (h : env u op r u') (hstore : ∀ f, op ≠ .store f) : u'.mem = u.mem := by
  cases op <;> simp only [env] at h
  case store f => exact absurd rfl (hstore f)
  case load => rw [h.2]
  case eventGroupSetEnable => split at h <;> rw [h] <;> rfl
  case eventGroupSetDisable => split at h <;> rw [h] <;> rfl
  all_goals rw [h]

private theorem count_pos {l : List (Option EventGroupSets)} {s : EventGroupSets} (h : some s ∈ l) :
    0 < l.countP (·.isSome) :=
  List.countP_pos_iff.2 ⟨some s, h, rfl⟩

private theorem At.hasSets (h : At L [d] w) {s : EventGroupSets} (hs : some s ∈ (L.getD d {}).sets) :
    w.2.HasSets d := by
  have hpos : 0 < (L.getD d {}).count := count_pos hs
  have hsets := h.sets d
  unfold Held.HasSets
  omega

theorem At.sets_bank (h : At L st w) (d b : Nat) : (w.1.mem.bank d b).sets = (L.getD d {}).sets.getD b none := by
  rw [Collector.bank, Cupti.sets_bank, ← getD_owned, h.memory]

theorem At.oneSet (h : At L st w) {s : EventGroupSets} (hs : (L.getD d {}).sets[b]? = some (some s))
    (hn : s.numSets = 1) :
    (w.1.mem.bank d b).oneSet = true := by
  have hbank : (w.1.mem.bank d b).sets = some s := by
    rw [h.sets_bank, List.getD_eq_getElem?_getD, hs, Option.getD_some]
  simp [MetricBank.oneSet, hbank, hn]

/-- A bank with one set has a place among the banks. -/
theorem At.of_oneSet (h : At L st w) (hone : (w.1.mem.bank d b).oneSet = true) :
    ∃ s, (L.getD d {}).sets[b]? = some (some s) ∧ s.numSets = 1 := by
  have hbank := h.sets_bank d b
  unfold MetricBank.oneSet at hone
  split at hone
  · next s hs =>
    refine ⟨s, ?_, beq_iff_eq.1 hone⟩
    rw [hs, List.getD_eq_getElem?_getD] at hbank
    cases hget : (L.getD d {}).sets[b]? with
    | none => rw [hget] at hbank; cases hbank
    | some p => rw [hget] at hbank; rw [hbank, Option.getD_some]
  · cases hone

theorem At.still (h : At L st w) (ho : Still op) (hr : trackedEnv w op r w') :
    Proper w op r w' ∧ At L st w' := by
  obtain ⟨henv, hafter⟩ := hr
  cases op <;> simp only [Still] at ho
  case store f =>
    have hmem : w'.1.mem.owned = w.1.mem.owned := by
      rw [show w'.1.mem = f w.1.mem from congrArg World.mem henv]
      exact ho _
    exact ⟨⟨trivial, trivial⟩, h.same hmem hafter⟩
  all_goals exact ⟨⟨trivial, trivial⟩, h.same (by rw [env_mem henv (by simp)]) hafter⟩

theorem At.inside (h : At L [d] w) (ho : Inside d (L.getD d {}).sets op) (hr : trackedEnv w op r w') :
    Proper w op r w' ∧ At L [d] w' := by
  obtain ⟨henv, hafter⟩ := hr
  have hpos : (∃ s, some s ∈ (L.getD d {}).sets) → w.2.HasSets d := fun ⟨s, hs⟩ => h.hasSets hs
  cases op <;> simp only [Inside] at ho
  -- an assignment needs no context
  case store f => exact h.still ho ⟨henv, hafter⟩
  case eventGroupSetEnable d' b =>
    obtain ⟨rfl, s, hs, hn⟩ := ho
    exact ⟨⟨⟨h.stack, h.hasSets (List.mem_of_getElem? hs)⟩, h.oneSet hs hn⟩,
      h.same (by rw [env_mem henv (by simp)]) hafter⟩
  case eventGroupSetDisable d' b =>
    obtain ⟨rfl, s, hs, hn⟩ := ho
    exact ⟨⟨⟨h.stack, h.hasSets (List.mem_of_getElem? hs)⟩, h.oneSet hs hn⟩,
      h.same (by rw [env_mem henv (by simp)]) hafter⟩
  all_goals refine ⟨⟨?_, trivial⟩, h.same (by rw [env_mem henv (by simp)]) hafter⟩
  case setContinuousMode => exact ho ▸ h.stack
  case metricGetIdFromName => exact ho ▸ h.stack
  case metricGetValueKind => exact ⟨d, h.stack⟩
  case eventDomainGetTotalInstanceCount => obtain ⟨rfl, hs⟩ := ho; exact ⟨h.stack, hpos hs⟩
  case eventDomainGetInstanceCount => obtain ⟨rfl, hs⟩ := ho; exact ⟨h.stack, hpos hs⟩
  case metricGetValue => obtain ⟨rfl, hs⟩ := ho; exact ⟨h.stack, hpos hs⟩
  case load => trivial
  case getTimestamp => trivial
  case unixTimeMs => trivial
  all_goals exact ⟨d, h.stack, hpos ho⟩

/-! ### Requests that change something of it -/

theorem getD_set (hd : d < L.length) (d' : Nat) : (L.set d o).getD d' {} = if d' = d then o else L.getD d' {} := by
  simp only [List.getD_eq_getElem?_getD, List.getElem?_set]
  by_cases h : d = d'
  · subst h
    simp [hd]
  · have h' : d' ≠ d := fun heq => h heq.symm
    simp [h, h']

theorem set_getD (L : List Owned) (d : Nat) : L.set d (L.getD d {}) = L := by
  apply List.ext_getElem?
  intro i
  rw [List.getElem?_set]
  by_cases h : d = i
  · subst h
    by_cases hd : d < L.length
    · simp [hd]
    · simp [hd]
  · simp [h]

/-- An assignment after which the memory says what the ledger says. -/
theorem Accounts.store {M : List Owned} (h : Accounts M L st w) {f : Collector → Collector}
    (hf : ∀ c : Collector, c.owned = M → (f c).owned = L) {r : Unit} (hr : trackedEnv w (.store f) r w') :
    Proper w (.store f) r w' ∧ At L st w' := by
  obtain ⟨henv, hheld⟩ := hr
  have hmem : w'.1.mem.owned = L := by
    rw [show w'.1.mem = f w.1.mem from congrArg World.mem henv]
    exact hf _ h.memory
  exact ⟨⟨trivial, trivial⟩, hmem, hheld ▸ h.stack, hheld ▸ h.retained, hheld ▸ h.sets⟩

/-- An assignment to one device. -/
theorem owned_set {M : List Owned} {c : Collector} (hc : c.owned = M) (d : Nat) {f : DeviceState → DeviceState}
    {g : Owned → Owned} (h : ∀ s : DeviceState, (f s).owned = g s.owned) :
    (c.modifyDevice d f).owned = M.set d (g (M.getD d {})) := by
  rw [owned_modifyDevice c d h, hc, List.modify_eq_set, ← List.getD_eq_getElem?_getD]
  rfl

/-- An assignment to the pointer of a bank. -/
theorem owned_setBank {M : List Owned} {c : Collector} (hc : c.owned = M) (d b : Nat) {f : MetricBank → MetricBank}
    {p : Option EventGroupSets} (h : ∀ bank : MetricBank, (f bank).sets = p) :
    (c.modifyBank d b f).owned = M.set d ⟨(M.getD d {}).context, (M.getD d {}).sets.set b p⟩ := by
  refine owned_set (g := fun o => ⟨o.context, o.sets.set b p⟩) hc d fun s => ?_
  rw [owned_modifyBank s b (g := fun _ => p) h, List.modify_eq_set]
  rfl

variable {l : List (Option EventGroupSets)}

/-- The two ledgers say the same of a device. -/
def Held.SameOf (h h' : Held) (d : Nat) : Prop :=
  (h'.retained d = h.retained d ∧ h'.unreleased d = h.unreleased d) ∧
    h'.sets d = h.sets d ∧ h'.undestroyed d = h.undestroyed d

/-- An answer that changes what is held of one device. -/
theorem Accounts.change (h : At L st w) (hd : d < L.length) (hmem : w'.1.mem.owned = L)
    (hstack : w'.2.stack = st ++ w'.2.stuck) (hretained : w'.2.retained d = o.context.toNat + w'.2.unreleased d)
    (hsets : w'.2.sets d = o.count + w'.2.undestroyed d) (hothers : ∀ d', d' ≠ d → w.2.SameOf w'.2 d') :
    Accounts L (L.set d o) st w' := by
  refine ⟨hmem, hstack, fun d' => ?_, fun d' => ?_⟩
  · rw [getD_set hd]
    by_cases hd' : d' = d
    · rw [if_pos hd', hd', hretained]
    · obtain ⟨⟨hsame, hleft⟩, -⟩ := hothers d' hd'
      rw [if_neg hd', hsame, hleft, h.retained d']
  · rw [getD_set hd]
    by_cases hd' : d' = d
    · rw [if_pos hd', hd', hsets]
    · obtain ⟨-, hsame, hleft⟩ := hothers d' hd'
      rw [if_neg hd', hsame, hleft, h.sets d']

/-- The same is held where another entry counts the same. -/
theorem At.relabel (h : At L st w) (hd : d < L.length) (hcontext : o.context = (L.getD d {}).context)
    (hcount : o.count = (L.getD d {}).count) : Accounts L (L.set d o) st w := by
  refine h.change hd h.memory h.stack ?_ ?_ fun _ _ => ⟨⟨rfl, rfl⟩, rfl, rfl⟩
  · rw [hcontext, h.retained d]
  · rw [hcount, h.sets d]

/-- The context of a device that has none is retained, if the driver lets it be. -/
theorem At.retain (h : At L [] w) (hd : d < L.length) (ho : L.getD d {} = ⟨false, l⟩) {rc : Code}
    (hr : trackedEnv w (.cuDevicePrimaryCtxRetain d) rc w') :
    Proper w (.cuDevicePrimaryCtxRetain d) rc w' ∧ Accounts L (L.set d ⟨decide (rc = success), l⟩) [] w' := by
  obtain ⟨henv, hheld⟩ := hr
  -- the references left over are those no release has given back
  have hnone : w.2.retained d = w.2.unreleased d := by
    rw [h.retained d, ho]
    exact Nat.zero_add _
  have hmem : w'.1.mem.owned = L := (congrArg Collector.owned (env_mem henv (by simp))).trans h.memory
  refine ⟨⟨⟨h.stack, hnone⟩, trivial⟩, ?_⟩
  by_cases hrc : rc = success
  · rw [Held.Becomes, if_pos hrc] at hheld
    rw [decide_eq_true hrc]
    refine h.change hd hmem (hheld ▸ h.stack) ?_ ?_ fun d' hd' => ?_
    · rw [hheld]
      simp only [Function.update_self, hnone]
      exact Nat.add_comm _ _
    · have hsets := h.sets d
      rw [ho] at hsets
      exact hheld ▸ hsets
    · rw [hheld]
      exact ⟨⟨Function.update_of_ne hd' _ _, rfl⟩, rfl, rfl⟩
  · rw [Held.Becomes, if_neg hrc] at hheld
    rw [decide_eq_false hrc, ← ho, set_getD]
    exact ⟨hmem, hheld ▸ h.stack, hheld ▸ h.retained, hheld ▸ h.sets⟩

private theorem count_set {p q : Option EventGroupSets} (hb : l[b]? = some p) :
    (l.set b q).countP (·.isSome) + p.isSome.toNat = l.countP (·.isSome) + q.isSome.toNat := by
  obtain ⟨hlt, hget⟩ := List.getElem?_eq_some_iff.1 hb
  rw [List.countP_set hlt, hget]
  cases p with
  | none => cases q <;> simp
  | some s =>
    have hpos := count_pos (List.mem_of_getElem? hb)
    cases q <;> simp only [Option.isSome_none, Option.isSome_some, Bool.toNat_true, Bool.toNat_false, if_true,
      Bool.false_eq_true,
      if_false] <;> omega

/-- Sets are created for a bank that has none. -/
theorem At.create (h : At L [d] w) (hd : d < L.length) (hl : (L.getD d {}).sets = l) (hb : l[b]? = some none)
    {ids : List Nat} {s : EventGroupSets} {rc : Code} (hrc : rc = success)
    (hr : trackedEnv w (.metricCreateEventGroupSets d ids) (rc, some s) w') :
    Accounts L (L.set d ⟨(L.getD d {}).context, l.set b (some s)⟩) [d] w' := by
  obtain ⟨henv, hheld⟩ := hr
  have hmem : w'.1.mem.owned = L := (congrArg Collector.owned (env_mem henv (by simp))).trans h.memory
  rw [Held.Becomes, if_pos ⟨hrc, rfl⟩] at hheld
  refine h.change hd hmem (hheld ▸ h.stack) (hheld ▸ h.retained d) ?_ fun d' hd' => ?_
  · have hcount := count_set (q := some s) hb
    have hsets := h.sets d
    rw [Owned.count, hl] at hsets
    rw [hheld, Owned.count]
    simp only [Function.update_self]
    simp at hcount
    omega
  · rw [hheld]
    exact ⟨⟨rfl, rfl⟩, Function.update_of_ne hd' _ _, rfl⟩

/-- Nothing is created. -/
theorem At.createFailed (h : At L [d] w) {ids : List Nat} {rc : Code} {sets : Option EventGroupSets}
    (hnot : ¬(rc = success ∧ sets.isSome = true))
    (hr : trackedEnv w (.metricCreateEventGroupSets d ids) (rc, sets) w') : At L [d] w' := by
  obtain ⟨henv, hheld⟩ := hr
  rw [Held.Becomes, if_neg hnot] at hheld
  exact h.same (congrArg Collector.owned (env_mem henv (by simp))) hheld

/-- The pointer of a bank is given up, whatever the library answers: the sets are destroyed, or not taken back. -/
theorem At.destroy (h : At L [d] w) (hd : d < L.length) (hl : (L.getD d {}).sets = l) {s : EventGroupSets}
    (hb : l[b]? = some (some s)) {rc : Code} (hr : trackedEnv w (.eventGroupSetsDestroy d b) rc w') :
    Proper w (.eventGroupSetsDestroy d b) rc w' ∧
      Accounts L (L.set d ⟨(L.getD d {}).context, l.set b none⟩) [d] w' := by
  obtain ⟨henv, hheld⟩ := hr
  have hmem : w'.1.mem.owned = L := (congrArg Collector.owned (env_mem henv (by simp))).trans h.memory
  have hbank : (w.1.mem.bank d b).sets = some s := by
    rw [h.sets_bank, hl, List.getD_eq_getElem?_getD, hb, Option.getD_some]
  refine ⟨⟨⟨h.stack, h.hasSets (hl ▸ List.mem_of_getElem? hb)⟩, ?_⟩, ?_⟩
  · show (w.1.mem.bank d b).sets ≠ none
    rw [hbank]
    simp
  · have hcount := count_set (q := none) hb
    have hsets := h.sets d
    rw [Owned.count, hl] at hsets
    simp at hcount
    -- destroyed, or counted among those not taken back: what the device accounts for goes down by one either way
    rcases hheld with hheld | ⟨-, hheld⟩
    · refine h.change hd hmem (hheld ▸ h.stack) (hheld ▸ h.retained d) ?_ fun d' hd' => ?_
      · rw [hheld, Owned.count]
        simp only [Function.update_self]
        omega
      · rw [hheld]
        exact ⟨⟨rfl, rfl⟩, Function.update_of_ne hd' _ _, rfl⟩
    · refine h.change hd hmem (hheld ▸ h.stack) (hheld ▸ h.retained d) ?_ fun d' hd' => ?_
      · rw [hheld, Owned.count]
        simp only [Function.update_self]
        omega
      · rw [hheld]
        exact ⟨⟨rfl, rfl⟩, rfl, Function.update_of_ne hd' _ _⟩

end CmpUnlocker.Cupti
