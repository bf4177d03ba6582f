import CmpUnlocker.Cupti.Custody
import CmpUnlocker.Cupti.Collect

/-!
# The device work and its contexts

Every piece of device work starts and ends with no context pushed but those that pops have left, keeps its requests
within what the ledger allows, and leaves in the memory what it holds.
-/

namespace CmpUnlocker.Cupti

open Interaction

section

variable {ε : Type} (P : Platform) {d : Nat} {l : List (Option EventGroupSets)}

/-! ### Reading -/

private theorem call_inside {o : Op} (h : Inside d l o) : (call o : Routine ε o.Answer).Uses (Inside d l) :=
  Prog.uses_request.2 h

private theorem storeBank_inside (d' b : Nat) {f : MetricBank → MetricBank}
    (h : ∀ bank : MetricBank, (f bank).sets = bank.sets) :
    (storeBank d' b f : Routine ε Unit).Uses (Inside d l) :=
  call_inside (same_modifyBank d' b h)

private theorem storeDevice_inside (d' : Nat) {f : DeviceState → DeviceState}
    (h : ∀ s : DeviceState, (f s).owned = s.owned) :
    (storeDevice d' f : Routine ε Unit).Uses (Inside d l) :=
  call_inside (same_modifyDevice d' h)

private theorem loadDevice_inside (d' : Nat) : (loadDevice d' : Routine ε DeviceState).Uses (Inside d l) :=
  .bind (call_inside trivial) fun _ => trivial

section

variable (hl : ∃ s, some s ∈ l)

include hl

private theorem totalInstanceCount_inside (domain n : Nat) :
    (totalInstanceCount d domain n : Routine ε Nat).Uses (Inside d l) := by
  refine .bind (call_inside ⟨rfl, hl⟩) fun _ => Prog.uses_ite.2 ⟨fun _ => ?_, fun _ => trivial⟩
  exact .bind (call_inside ⟨rfl, hl⟩) fun _ => Prog.uses_ite.2 ⟨fun _ => trivial, fun _ => trivial⟩

private theorem normalizedEventValue_inside (group event : Nat) :
    (normalizedEventValue P d group event).Uses (Inside d l) := by
  refine .bind (call_inside hl) fun _ => Prog.uses_ite.2 ⟨fun _ => trivial, fun _ => ?_⟩
  refine .bind (call_inside hl) fun _ => Prog.uses_ite.2 ⟨fun _ => trivial, fun _ => ?_⟩
  refine .bind (totalInstanceCount_inside hl _ _) fun _ => .bind (call_inside hl) fun _ => ?_
  refine Prog.uses_ite.2 ⟨fun _ => trivial, fun _ => Prog.uses_ite.2 ⟨fun _ => trivial, fun _ => ?_⟩⟩
  split <;> trivial

private theorem readEvents_inside (group : Nat) (events : List Nat) (deltas : Deltas) :
    (readEvents P d group events deltas).Uses (Inside d l) := by
  induction events generalizing deltas with
  | nil => trivial
  | cons event events ih => exact .bind (normalizedEventValue_inside P hl group event) fun _ => ih _

private theorem readGroups_inside (groups : List Nat) (deltas : Deltas) :
    (readGroups P d groups deltas).Uses (Inside d l) := by
  induction groups generalizing deltas with
  | nil => trivial
  | cons group groups ih =>
    refine .bind (call_inside hl) fun _ => Prog.uses_ite.2 ⟨fun _ => trivial, fun _ => ?_⟩
    refine .bind (call_inside hl) fun _ => Prog.uses_ite.2 ⟨fun _ => trivial, fun _ => ?_⟩
    exact .bind (readEvents_inside P hl group _ _) fun _ => ih _

private theorem metricInputs_inside (v : MetricSample) (deltas : Deltas) :
    (metricInputs v deltas).Uses (Inside d l) := by
  refine .bind (call_inside hl) fun _ => Prog.uses_ite.2 ⟨fun _ => trivial, fun _ => ?_⟩
  refine .bind (call_inside hl) fun _ => Prog.uses_ite.2 ⟨fun _ => trivial, fun _ => ?_⟩
  split <;> trivial

private theorem evaluateMetric_inside (v : MetricSample) (deltas : Deltas) (durationNs : Nat) :
    (evaluateMetric P d v deltas durationNs).Uses (Inside d l) := by
  refine .bind (metricInputs_inside hl v deltas) fun _ => .bind (call_inside ⟨rfl, hl⟩) fun _ => ?_
  exact Prog.uses_ite.2 ⟨fun _ => trivial, fun _ => .bind (call_inside trivial) fun _ => trivial⟩

private theorem publishMetric_inside (m : Metric) (deltas : Deltas) (durationNs : Nat) :
    (publishMetric P d m deltas durationNs : Routine ε Bool).Uses (Inside d l) := by
  have hstore : ∀ v : MetricSample, (storeDevice d fun s => s.setSample m v : Routine ε Unit).Uses (Inside d l) :=
    fun v => storeDevice_inside d fun _ => rfl
  refine .bind (loadDevice_inside d) fun _ => .bind (hstore _) fun _ => ?_
  refine .bind (evaluateMetric_inside P hl _ deltas durationNs).attempt fun _ => ?_
  split
  · exact .bind (hstore _) fun _ => trivial
  · exact .bind (hstore _) fun _ => trivial

private theorem publishMetrics_inside (deltas : Deltas) (durationNs : Nat) (ms : List Metric) :
    (publishMetrics P d deltas durationNs ms : Routine ε Nat).Uses (Inside d l) := by
  induction ms with
  | nil => trivial
  | cons m ms ih => exact .bind (publishMetric_inside P hl m deltas durationNs) fun _ => .bind ih fun _ => trivial

private theorem readInterval_inside (b : Nat) (bank : MetricBank) (endedNs : Nat) (publishEmpty : Bool) :
    (readInterval P d b bank endedNs publishEmpty : Routine ε Nat).Uses (Inside d l) := by
  have hstore : ∀ f : MetricBank → MetricBank, (∀ bank, (f bank).sets = bank.sets) →
      (storeBank d b f : Routine ε Unit).Uses (Inside d l) := fun f hf => storeBank_inside d b hf
  refine .bind (readGroups_inside P hl _ _).attempt fun _ => .bind (hstore _ fun _ => rfl) fun _ => ?_
  split
  · refine .bind (hstore _ fun _ => rfl) fun _ => .bind (storeDevice_inside d ?_) fun _ => trivial
    exact fun s => owned_foldl_setSample s _ _
  · refine Prog.uses_ite.2 ⟨fun _ => trivial, fun _ => .bind (publishMetrics_inside P hl _ _ _) fun _ => ?_⟩
    exact .bind (hstore _ fun _ => rfl) fun _ => trivial

private theorem readPushed_inside (b : Nat) (bank : MetricBank) (publishEmpty : Bool) :
    (readPushed P d b bank publishEmpty : Routine ε Nat).Uses (Inside d l) := by
  refine .bind (call_inside trivial) fun _ =>
    Prog.uses_ite.2 ⟨fun _ => ?_, fun _ => readInterval_inside P hl b bank _ _⟩
  exact .bind (storeBank_inside d b (by exact fun _ => rfl)) fun _ => trivial

end

/-! ### Where pieces of work start and end -/

variable {L L' : List Owned} {st : List Nat} {w : Tracked} {α β : Type} {b : Nat} {I J K : Tracked → Prop}

/-- From `I` on, with requests as the ledger allows, the routine ends in `J`; it does not fail. -/
def Works (p : Routine ε α) (I J : Tracked → Prop) : Prop :=
  ∀ w, I w → p.Meets trackedEnv Proper (fun _ w' => J w') (fun _ _ => False) w

theorem Works.bind {p : Routine ε α} {f : α → Routine ε β} (h : Works p I J) (hf : ∀ a, Works (f a) J K) :
    Works (p.bind f) I K :=
  fun w hw => Prog.meets_bind.2 ((h w hw).imp (fun a w' hw' => hf a w' hw') fun _ _ hx => hx)

theorem works_ret (a : α) : Works (.ret a : Routine ε α) I I := fun _ hw => hw

theorem Works.ite {c : Prop} [Decidable c] {p q : Routine ε α} (hp : c → Works p I J) (hq : ¬c → Works q I J) :
    Works (if c then p else q) I J :=
  fun w hw => Prog.meets_ite.2 ⟨fun hc => hp hc w hw, fun hc => hq hc w hw⟩

theorem Works.when {c : Prop} [Decidable c] {p : Routine ε Unit} (hp : c → Works p I I) : Works (Prog.when c p) I I :=
  .ite hp fun _ => works_ret ()

private theorem works_inside {p : Routine Empty α} (h : p.Uses (Inside d (L.getD d {}).sets)) :
    Works p (At L [d]) (At L [d]) :=
  fun _ hw => (Prog.Uses.meets (fun _ _ _ _ ho hI hr => hI.inside ho hr) h hw).imp (fun _ _ hw' => hw')
    fun e _ _ => e.elim

theorem call_works {o : Op} (h : Inside d (L.getD d {}).sets o) :
    Works (call o : Routine ε o.Answer) (At L [d]) (At L [d]) :=
  fun _ hw _ _ hr => hw.inside h hr

/-- Assignments that change neither contexts nor pointers. -/
theorem store_works {f : Collector → Collector} (h : Same f) : Works (store f : Routine ε Unit) (At L st) (At L st) :=
  fun _ hw _ _ hr => hw.still (show Still (.store f) from h) hr

theorem storeBank_works (d b : Nat) {f : MetricBank → MetricBank} (h : ∀ bank : MetricBank, (f bank).sets = bank.sets) :
    Works (storeBank d b f : Routine ε Unit) (At L st) (At L st) :=
  store_works (same_modifyBank d b h)

theorem storeDevice_works (d : Nat) {f : DeviceState → DeviceState} (h : ∀ s : DeviceState, (f s).owned = s.owned) :
    Works (storeDevice d f : Routine ε Unit) (At L st) (At L st) :=
  store_works (same_modifyDevice d h)

theorem setDetail_works (detail : String) :
    Works (store fun c => { c with detail := detail } : Routine ε Unit) (At L st) (At L st) :=
  store_works fun _ => rfl

/-- What is loaded is what is in the memory. -/
theorem load_works {f : Collector → Routine ε α}
    (hf : ∀ w, I w → (f w.1.mem).Meets trackedEnv Proper (fun _ w' => J w') (fun _ _ => False) w) :
    Works (load.bind f) I J := by
  intro w hw
  refine Prog.meets_bind.2 fun c w' hr => ?_
  obtain ⟨⟨rfl, hworld⟩, hheld⟩ := hr
  obtain rfl : w' = w := Prod.ext hworld hheld
  exact ⟨⟨trivial, trivial⟩, hf _ hw⟩

theorem loadDevice_works {f : DeviceState → Routine ε α}
    (hf : ∀ w, I w → (f (w.1.mem.device d)).Meets trackedEnv Proper (fun _ w' => J w') (fun _ _ => False) w) :
    Works ((loadDevice d).bind f) I J :=
  load_works hf

theorem loadBank_works {f : MetricBank → Routine ε α}
    (hf : ∀ w, I w → (f (w.1.mem.bank d b)).Meets trackedEnv Proper (fun _ w' => J w') (fun _ _ => False) w) :
    Works ((loadBank d b).bind f) I J :=
  load_works hf

/-- The answer to a push. -/
theorem At.push (h : At L [] w) (hcontext : (L.getD d {}).context = true) {rc : Code} {w' : Tracked}
    (hr : trackedEnv w (.cuCtxPushCurrent d) rc w') :
    Proper w (.cuCtxPushCurrent d) rc w' ∧ At L (if rc = success then [d] else []) w' := by
  obtain ⟨henv, hheld⟩ := hr
  have hretained : w.2.retained d = w.2.unreleased d + 1 := by
    rw [h.retained d, hcontext]
    exact Nat.add_comm _ _
  have hmem : w'.1.mem.owned = L := (congrArg Collector.owned (env_mem henv (by simp))).trans h.memory
  refine ⟨⟨⟨h.stack, hretained⟩, trivial⟩, ?_⟩
  by_cases hrc : rc = success
  · rw [Held.Becomes, if_pos hrc] at hheld
    have hstack : w'.2.stack = [d] ++ w'.2.stuck := by
      rw [hheld]
      exact congrArg (List.cons d) h.stack
    rw [if_pos hrc]
    exact ⟨hmem, hstack, hheld ▸ h.retained, hheld ▸ h.sets⟩
  · rw [Held.Becomes, if_neg hrc] at hheld
    rw [if_neg hrc]
    exact ⟨hmem, hheld ▸ h.stack, hheld ▸ h.retained, hheld ▸ h.sets⟩

/-- Behind a pop the context is off the stack, or left there by the driver. -/
theorem At.pop (h : At L [d] w) {r : Unit} {w' : Tracked} (hr : trackedEnv w .cuCtxPopCurrent r w') :
    Proper w .cuCtxPopCurrent r w' ∧ At L [] w' := by
  obtain ⟨henv, hheld⟩ := hr
  have hmem : w'.1.mem.owned = L := (congrArg Collector.owned (env_mem henv (by simp))).trans h.memory
  refine ⟨⟨⟨d, h.stack⟩, trivial⟩, ?_⟩
  rcases hheld with hheld | hheld
  · have hstack : w'.2.stack = [] ++ w'.2.stuck := by
      rw [hheld]
      exact congrArg List.tail h.stack
    exact ⟨hmem, hstack, hheld ▸ h.retained, hheld ▸ h.sets⟩
  · have hstack : w'.2.stack = [] ++ w'.2.stuck := by
      rw [hheld]
      rfl
    exact ⟨hmem, hstack, hheld ▸ h.retained, hheld ▸ h.sets⟩

/-- A context guard around a piece of work. -/
theorem push_works (hcontext : (L.getD d {}).context = true) {f : Code → Routine ε α}
    (hok : ∀ rc, rc = success → Works (f rc) (At L [d]) J) (hfail : ∀ rc, rc ≠ success → Works (f rc) (At L []) J) :
    Works ((call (.cuCtxPushCurrent d)).bind f) (At L []) J := by
  intro w hw
  refine Prog.meets_bind.2 fun rc w' hr => ?_
  obtain ⟨hproper, hat⟩ := hw.push hcontext hr
  refine ⟨hproper, ?_⟩
  by_cases hrc : rc = success
  · rw [if_pos hrc] at hat
    exact hok rc hrc w' hat
  · rw [if_neg hrc] at hat
    exact hfail rc hrc w' hat

theorem pop_works : Works (call .cuCtxPopCurrent : Routine ε Unit) (At L [d]) (At L []) :=
  fun _ hw _ _ hr => hw.pop hr

/-! ### Sampling and rotating -/

private theorem readBank_works (hL : Backed L) (d b : Nat) (publishEmpty : Bool) :
    Works (readBank P d b publishEmpty : Routine Empty Nat) (At L []) (At L []) := by
  refine loadBank_works fun w hw => Prog.meets_ite.2 ⟨fun _ => ?_, fun hready => ?_⟩
  · exact Works.bind (storeBank_works d b (by exact fun _ => rfl)) (fun _ => works_ret 0) w hw
  · simp only [Bool.or_eq_true, Bool.not_eq_true', not_or, Bool.not_eq_false] at hready
    obtain ⟨s, hs, -⟩ := hw.of_oneSet hready.2
    have hmem : some s ∈ (L.getD d {}).sets := List.mem_of_getElem? hs
    have hcontext : (L.getD d {}).context = true := hL.getD (List.ne_nil_of_mem hmem)
    refine push_works hcontext (fun rc hrc => ?_) (fun rc hrc => ?_) w hw
    · rw [if_neg (not_not_intro hrc)]
      refine .bind (works_inside (readPushed_inside P ⟨s, hmem⟩ b _ publishEmpty)) fun n => ?_
      exact .bind pop_works fun _ => works_ret n
    · rw [if_pos hrc]
      exact .bind (storeBank_works d b (by exact fun _ => rfl)) fun _ => works_ret 0

private theorem countFailure_works (d b : Nat) : Works (countFailure d b : Routine ε Unit) (At L st) (At L st) := by
  refine .bind (storeBank_works d b (by exact fun _ => rfl)) fun _ => loadBank_works fun w hw => ?_
  refine Prog.meets_ite.2 ⟨fun _ => ?_, fun _ => hw⟩
  refine Works.bind (J := At L st) (storeBank_works d b (by exact fun _ => rfl)) (fun _ => ?_) w hw
  exact fun _ hw' _ _ hr => hw'.still (show Still .requestRotate from trivial) hr

private theorem sampleDevice_works (hL : Backed L) (d : Nat) :
    Works (sampleDevice P d : Routine Empty Nat) (At L []) (At L []) := by
  refine loadDevice_works fun w hw => Prog.meets_ite.2 ⟨fun _ => hw, fun _ => ?_⟩
  refine Prog.meets_ite.2 ⟨fun _ => hw, fun _ => ?_⟩
  refine Works.bind (readBank_works P hL d _ true) (fun n => ?_) w hw
  refine .bind (.ite (fun _ => ?_) fun _ => ?_) fun _ => works_ret n
  · exact storeBank_works d _ (by exact fun _ => rfl)
  · exact countFailure_works d _

private theorem sampleDevices_works (hL : Backed L) (ds : List Nat) :
    Works (sampleDevices P ds : Routine Empty Nat) (At L []) (At L []) := by
  induction ds with
  | nil => exact works_ret 0
  | cons d ds ih => exact .bind (sampleDevice_works P hL d) fun n => .bind ih fun m => works_ret (n + m)

theorem sample_works (hL : Backed L) : Works (sample P : Routine Empty Unit) (At L []) (At L []) :=
  load_works fun w hw => Works.bind (sampleDevices_works P hL _) (fun _ => setDetail_works _) w hw

theorem enableBank_works (d b : Nat) : Works (enableBank P d b : Routine ε Bool) (At L [d]) (At L [d]) := by
  have hstore : ∀ f : MetricBank → MetricBank, (∀ bank, (f bank).sets = bank.sets) →
      Works (storeBank d b f : Routine ε Unit) (At L [d]) (At L [d]) := fun f hf => storeBank_works d b hf
  refine loadBank_works fun w hw => Prog.meets_ite.2 ⟨fun _ => hw, fun hready => ?_⟩
  simp only [Bool.or_eq_true, Bool.not_eq_true', not_or, Bool.not_eq_false] at hready
  have hone := hw.of_oneSet hready.2
  have henable : Works (call (.eventGroupSetEnable d b) : Routine ε Code) (At L [d]) (At L [d]) :=
    call_works (o := .eventGroupSetEnable d b) ⟨rfl, hone⟩
  have hdisable : Works (call (.eventGroupSetDisable d b) : Routine ε Code) (At L [d]) (At L [d]) :=
    call_works (o := .eventGroupSetDisable d b) ⟨rfl, hone⟩
  have htime : Works (call .getTimestamp : Routine ε (Code × Nat)) (At L [d]) (At L [d]) :=
    call_works (o := .getTimestamp) trivial
  refine Works.bind henable (fun rc => .ite (fun _ => ?_) fun _ => ?_) w hw
  · exact .bind (hstore _ fun _ => rfl) fun _ => works_ret false
  · refine .bind (hstore _ fun _ => rfl) fun _ => .bind htime fun _ => .ite (fun _ => ?_) fun _ => ?_
    · exact .bind hdisable fun _ => .bind (hstore _ fun _ => rfl) fun _ => works_ret false
    · exact .bind (hstore _ fun _ => rfl) fun _ => works_ret true

private theorem disableBank_works (d b : Nat) : Works (disableBank P d b : Routine ε Unit) (At L [d]) (At L [d]) := by
  refine loadBank_works fun w hw => Prog.meets_ite.2 ⟨fun _ => hw, fun hready => ?_⟩
  simp only [Bool.or_eq_true, Bool.not_eq_true', not_or, Bool.not_eq_false] at hready
  have hdisable : Works (call (.eventGroupSetDisable d b) : Routine ε Code) (At L [d]) (At L [d]) :=
    call_works (o := .eventGroupSetDisable d b) ⟨rfl, hw.of_oneSet hready.2⟩
  refine Works.bind hdisable (fun rc => ?_) w hw
  refine .bind (.when fun _ => storeBank_works d b (by exact fun _ => rfl)) fun _ => ?_
  exact storeBank_works d b (by exact fun _ => rfl)

private theorem selectCandidate_works (d : Nat) (is : List Nat) :
    Works (selectCandidate P d is : Routine ε Bool) (At L [d]) (At L [d]) := by
  induction is with
  | nil => exact works_ret false
  | cons i is ih =>
    refine loadBank_works fun w hw => Prog.meets_ite.2 ⟨fun _ => ih w hw, fun _ => ?_⟩
    refine Works.bind (enableBank_works P d i) (fun selected => .ite (fun _ => ?_) fun _ => ?_) w hw
    · exact .bind (storeDevice_works d (by exact fun _ => rfl)) fun _ => works_ret true
    · exact .bind (storeBank_works d i (by exact fun _ => rfl)) fun _ => ih

private theorem switchBank_works (d : Nat) : Works (switchBank P d : Routine ε Bool) (At L [d]) (At L [d]) := by
  refine loadDevice_works fun w hw => Works.bind (disableBank_works P d _) (fun _ => ?_) w hw
  refine .bind (selectCandidate_works P d _) fun selected => .bind (.when fun _ => ?_) fun _ => works_ret selected
  exact storeDevice_works d (by exact fun _ => rfl)

private theorem rotateDevice_works (hL : Backed L) (d : Nat) :
    Works (rotateDevice P d : Routine Empty Bool) (At L []) (At L []) := by
  refine loadDevice_works fun w hw => Prog.meets_ite.2 ⟨fun _ => hw, fun hready => ?_⟩
  simp only [Bool.or_eq_true, Bool.not_eq_true', not_or, Bool.not_eq_false] at hready
  have hsets : (L.getD d {}).sets ≠ [] := by
    rw [← hw.memory, getD_owned]
    intro hnil
    have hbanks : (w.1.mem.device d).banks = [] := List.map_eq_nil_iff.1 hnil
    exact hready.2 (by rw [hbanks]; rfl)
  refine Works.bind (J := At L []) (.when fun _ => ?_) (fun _ => ?_) w hw
  · exact .bind (readBank_works P hL d _ false) fun _ => works_ret ()
  refine push_works (hL.getD hsets) (fun rc hrc => ?_) fun rc hrc => ?_
  · rw [if_neg (not_not_intro hrc)]
    exact .bind (switchBank_works P d) fun selected => .bind pop_works fun _ => works_ret selected
  · rw [if_pos hrc]
    exact .bind (storeDevice_works d (by exact fun _ => rfl)) fun _ => works_ret false

private theorem rotateDevices_works (hL : Backed L) (ds : List Nat) :
    Works (rotateDevices P ds : Routine Empty Bool) (At L []) (At L []) := by
  induction ds with
  | nil => exact works_ret false
  | cons d ds ih => exact .bind (rotateDevice_works P hL d) fun x => .bind ih fun y => works_ret (x || y)

theorem rotate_works (hL : Backed L) : Works (rotate P : Routine Empty Unit) (At L []) (At L []) :=
  load_works fun w hw => Works.bind (rotateDevices_works P hL _) (fun _ => setDetail_works _) w hw

theorem writeReport_works (ready : Bool) :
    Works (call (.writeReport ready) : Routine ε Unit) (At L []) (At L []) := by
  rintro w hw r w' ⟨henv, hheld⟩
  exact ⟨⟨hw.stack, trivial⟩, hw.same (congrArg Collector.owned (env_mem henv (by simp))) hheld⟩

theorem report_works : Works (report : Routine ε Unit) (At L []) (At L []) :=
  load_works fun w hw => writeReport_works _ w hw

end

end CmpUnlocker.Cupti
