import CmpUnlocker.Cupti.Setup
import CmpUnlocker.Cupti.Requests

/-!
# The life of a collector

A run of the collector is followed with its ledger, and then with the destructor, which asks the driver to destroy the
event-group sets and to release the contexts.  Whatever the driver answers, every request is one that the ledger allows;
what is held behind the destructor is what the driver has not taken back, and the sets of devices whose context was not
to be pushed any more (`custody_over_life`).
-/

namespace CmpUnlocker.Cupti

open Interaction

/-! ### The destructor -/

/-- The requests of the destructor. -/
inductive LifeOp
  | base (o : Op)
  | cuDevicePrimaryCtxRelease (d : Nat)

@[reducible] def LifeOp.Answer : LifeOp → Type
  | .base o => o.Answer
  | .cuDevicePrimaryCtxRelease _ => Code

/-- A routine as a part of the destructor. -/
def base {ε α : Type} (p : Routine ε α) : Prog LifeOp LifeOp.Answer ε α := p.interp fun o => Prog.request (.base o)

section

variable {ε : Type}

/-- The loop body of `destroy_event_groups` over the banks. -/
def destroyBank (d b : Nat) : Routine ε Unit := do
  let bank ← loadBank d b
  .when (bank.enabled && bank.oneSet) (do
    let _ ← call (.eventGroupSetDisable d b)
    storeBank d b fun bank => { bank with enabled := false })
  .when bank.sets.isSome (do
    let _ ← call (.eventGroupSetsDestroy d b)
    storeBank d b fun bank => { bank with sets := none })

/-- The loop body over the devices; a context is there once it has been retained. -/
def destroyDevice (d : Nat) : Routine ε Unit := do
  let state ← loadDevice d
  if !state.contextRetained then return ()
  else do
    let pushed ← call (.cuCtxPushCurrent d)
    if pushed ≠ success then return ()
    else do
      Prog.forEach (destroyBank d) (List.range state.banks.length)
      call .cuCtxPopCurrent

def destroyEventGroups : Routine ε Unit := do
  let c ← load
  Prog.forEach destroyDevice (List.range c.devices.length)

/-- The loop body of `release_contexts`. -/
def releaseContext (d : Nat) : Prog LifeOp LifeOp.Answer ε Unit := do
  let state ← base (loadDevice d)
  .when state.contextRetained (do
    let _ ← Prog.request (.cuDevicePrimaryCtxRelease d)
    base (storeDevice d fun state => { state with contextRetained := false }))

def releaseContexts : Prog LifeOp LifeOp.Answer ε Unit := do
  let c ← base load
  Prog.forEach releaseContext (List.range c.devices.length)

/-- `~impl` behind `stop`. -/
def teardown : Prog LifeOp LifeOp.Answer ε Unit := do
  base destroyEventGroups
  releaseContexts

end

/-- A release that does not succeed may have been done or not. -/
def lifeEnv : Env LifeOp LifeOp.Answer Tracked
  | w, .base o, r, w' => trackedEnv w o r w'
  | w, .cuDevicePrimaryCtxRelease d, rc, w' =>
    w' = (w.1, { w.2 with retained := Function.update w.2.retained d (w.2.retained d - 1) }) ∨
      rc ≠ success ∧ w' = (w.1, { w.2 with unreleased := Function.update w.2.unreleased d (w.2.unreleased d + 1) })

/-- A context is released while it is retained and none is pushed but those that pops have left. -/
def LifeProper : Env LifeOp LifeOp.Answer Tracked
  | w, .base o, r, w' => Proper w o r w'
  | w, .cuDevicePrimaryCtxRelease d, _, _ => w.2.Free ∧ w.2.retained d = w.2.unreleased d + 1

section

variable {ε α β : Type} {L : List Owned} {l : List (Option EventGroupSets)} {d b : Nat} {w : Tracked}
  {I J K : Tracked → Prop}

/-! ### Event-group sets -/

/-- Refusals are counted. -/
theorem refused_le {o : Op} {r : o.Answer} {w' : Tracked} (hr : trackedEnv w o r w') (d : Nat) :
    w.2.refused d ≤ w'.2.refused d := by
  -- only a push that is refused touches the count
  have hheld := hr.2
  cases o
  case cuDevicePrimaryCtxRetain =>
    rw [show w'.2 = _ from hheld]
    split <;> exact Nat.le_refl _
  case metricCreateEventGroupSets =>
    rw [show w'.2 = _ from hheld]
    split <;> exact Nat.le_refl _
  case cuCtxPushCurrent d' =>
    rw [show w'.2 = _ from hheld]
    split
    · exact Nat.le_refl _
    · simp only [Function.update_apply]
      split
      · next hd => subst hd; omega
      · exact Nat.le_refl _
  case cuCtxPopCurrent =>
    rcases hheld with hheld | hheld
    all_goals exact Nat.le_of_eq (congrArg (fun h : Held => h.refused d) hheld).symm
  case eventGroupSetsDestroy =>
    rcases hheld with hheld | ⟨-, hheld⟩
    all_goals exact Nat.le_of_eq (congrArg (fun h : Held => h.refused d) hheld).symm
  all_goals exact Nat.le_of_eq (congrArg (fun h : Held => h.refused d) (show w'.2 = w.2 from hheld)).symm

private theorem destroyBank_works (hd : d < L.length) (hl : L.getD d {} = ⟨true, l⟩) (hb : b < l.length) :
    Works (destroyBank d b : Routine ε Unit) (At L [d]) (At (L.set d ⟨true, l.set b none⟩) [d]) := by
  have hsets : (L.getD d {}).sets = l := by rw [hl]
  refine loadBank_works fun w hw => ?_
  have hbank := hw.sets_bank d b
  rw [hsets, List.getD_eq_getElem?_getD, List.getElem?_eq_getElem hb, Option.getD_some] at hbank
  refine Works.bind (J := At L [d]) (.when fun hon => ?_) (fun _ => ?_) w hw
  · simp only [Bool.and_eq_true] at hon
    have hdisable : Works (call (.eventGroupSetDisable d b) : Routine ε Code) (At L [d]) (At L [d]) :=
      call_works (o := .eventGroupSetDisable d b) ⟨rfl, hw.of_oneSet hon.2⟩
    exact .bind hdisable fun _ => storeBank_works d b (by exact fun _ => rfl)
  · -- the pointer is null from here on, whether the driver has destroyed the sets or not
    intro w₁ hw₁
    refine Prog.meets_when.2 ⟨fun hsome => ?_, fun hnone => ?_⟩
    · obtain ⟨s, hs⟩ := Option.isSome_iff_exists.1 hsome
      have hget : l[b]? = some (some s) := by rw [List.getElem?_eq_getElem hb, ← hbank, hs]
      refine Prog.meets_bind.2 fun rc w₂ hr => ?_
      obtain ⟨hproper, hafter⟩ := hw₁.destroy hd hsets hget hr
      rw [hl] at hafter
      refine ⟨hproper, fun _ w₃ hr' => ?_⟩
      exact hafter.store (fun c hc => (owned_setBank hc d b (by exact fun _ => rfl)).trans (by rw [hl])) hr'
    · have hset : l.set b none = l := by
        have hget : l[b] = none := by rw [← hbank]; simpa using hnone
        rw [← hget, List.set_getElem_self]
      rw [hset, ← hl, set_getD]
      exact hw₁

/-- The pointers of a device are null from here on. -/
def Cleared (L : List Owned) (d n : Nat) (bs : List Nat) (w : Tracked) : Prop :=
  ∃ l : List (Option EventGroupSets), l.length = n ∧ (∀ b < n, b ∈ bs ∨ l[b]? = some none) ∧
    (∀ b ∈ bs, b < n) ∧ At (L.set d ⟨true, l⟩) [d] w

private theorem destroyBanks_works (hd : d < L.length) (hl : L.getD d {} = ⟨true, l⟩) :
    Works (Prog.forEach (destroyBank d) (List.range l.length) : Routine ε Unit) (At L [d])
      (fun w => ∃ l', Owned.count ⟨true, l'⟩ = 0 ∧ At (L.set d ⟨true, l'⟩) [d] w) := by
  intro w hw
  have hstart : Cleared L d l.length (List.range l.length) w :=
    ⟨l, rfl, fun b hb => .inl (List.mem_range.2 hb), fun b hb => List.mem_range.1 hb, by rwa [← hl, set_getD]⟩
  refine (Prog.meets_forEach (I := Cleared L d l.length) ?_ hstart).imp (fun _ w' h => ?_) fun _ _ hx => hx
  · -- the bank leaves the rest with a null pointer
    rintro b bs w ⟨l', hlength, hnone, hlt, hat⟩
    have hb : b < l'.length := hlength ▸ hlt b List.mem_cons_self
    have hself : (L.set d ⟨true, l'⟩).getD d {} = ⟨true, l'⟩ := by rw [getD_set hd, if_pos rfl]
    have hworks := destroyBank_works (ε := ε) (by rwa [List.length_set]) hself hb w hat
    refine hworks.imp (fun _ w' hat' => ?_) fun _ _ hx => hx
    rw [List.set_set] at hat'
    refine ⟨l'.set b none, by rw [List.length_set, hlength], fun b' hb' => ?_, fun b' hb' => ?_, hat'⟩
    · by_cases heq : b = b'
      · right
        rw [← heq, List.getElem?_set_self hb]
      · rw [List.getElem?_set_ne heq]
        refine (hnone b' hb').imp_left fun hmem => ?_
        exact (List.mem_cons.1 hmem).resolve_left fun h => heq h.symm
    · exact hlt b' (List.mem_cons_of_mem _ hb')
  · obtain ⟨l', hlength, hnone, -, hat⟩ := h
    refine ⟨l', List.countP_eq_zero.2 fun p hp => ?_, hat⟩
    obtain ⟨b, hb⟩ := List.mem_iff_getElem?.1 hp
    have hlt : b < l.length := hlength ▸ (List.getElem?_eq_some_iff.1 hb).1
    have hget := (hnone b hlt).resolve_left List.not_mem_nil
    rw [hb] at hget
    cases hget
    simp

/-- Refusals counted before a routine are still counted behind it. -/
theorem meets_refused {w₀ : Tracked} (p : Routine ε α) (h : ∀ d, w₀.2.refused d ≤ w.2.refused d) :
    p.Meets trackedEnv (fun _ _ _ _ => True) (fun _ w' => ∀ d, w₀.2.refused d ≤ w'.2.refused d)
      (fun _ w' => ∀ d, w₀.2.refused d ≤ w'.2.refused d) w := by
  induction p generalizing w with
  | ret a => exact h
  | throw e => exact h
  | call o k ih => exact fun r w' hr => ⟨trivial, ih r fun d => Nat.le_trans (h d) (refused_le hr d)⟩

/-- The sets of a device are destroyed, unless its context is not to be pushed. -/
theorem destroyDevice_meets (hL : Backed L) (hd : d < L.length) (hw : At L [] w) :
    (destroyDevice d : Routine ε Unit).Meets trackedEnv Proper
      (fun _ w' => ∃ o : Owned, o.context = (L.getD d {}).context ∧ (o.sets ≠ [] → o.context = true) ∧
        At (L.set d o) [] w' ∧ (o.count = 0 ∨ w.2.refused d < w'.2.refused d)) (fun _ _ => False) w := by
  have hsame : L.set d (L.getD d {}) = L := set_getD L d
  have hback : (L.getD d {}).sets ≠ [] → (L.getD d {}).context = true := hL.getD
  refine Prog.meets_bind.2 (Prog.meets_bind.2 fun c w₁ hr => ?_)
  obtain ⟨⟨rfl, hworld⟩, hheld⟩ := hr
  obtain rfl : w₁ = w := Prod.ext hworld hheld
  refine ⟨⟨trivial, trivial⟩, ?_⟩
  have howned := getD_owned w₁.1.mem d
  rw [hw.memory] at howned
  have hretained : (w₁.1.mem.device d).contextRetained = (L.getD d {}).context := congrArg Owned.context howned.symm
  refine Prog.meets_ite.2 ⟨fun hnot => ?_, fun hcontext => ?_⟩
  · -- without a context there are no sets
    have hcontext : (L.getD d {}).context = false := by simpa [hretained] using hnot
    have hsets : (L.getD d {}).sets = [] := by
      by_contra hne
      rw [hback hne] at hcontext
      cases hcontext
    refine ⟨L.getD d {}, rfl, hback, by rwa [hsame], .inl ?_⟩
    rw [Owned.count, hsets]
    rfl
  · have htrue : (L.getD d {}).context = true := by simpa [hretained] using hcontext
    refine Prog.meets_bind.2 fun pushed w₂ hr => ?_
    obtain ⟨hproper, hat⟩ := hw.push htrue hr
    refine ⟨hproper, Prog.meets_ite.2 ⟨fun hfail => ?_, fun hok => ?_⟩⟩
    · -- the device keeps its sets, and the refusal is counted
      rw [if_neg hfail] at hat
      refine ⟨L.getD d {}, rfl, hback, by rwa [hsame], .inr ?_⟩
      rw [show w₂.2 = _ from hr.2, if_neg hfail]
      simp
    · -- the banks are destroyed in the context that was pushed, which is asked back behind them
      rw [if_pos (not_not.1 hok)] at hat
      have hlength : (w₁.1.mem.device d).banks.length = (L.getD d {}).sets.length := by
        rw [howned, DeviceState.owned, List.length_map]
      rw [hlength]
      have hself : L.getD d {} = ⟨true, (L.getD d {}).sets⟩ := by rw [← htrue]
      refine Works.bind (K := fun w' => ∃ l', Owned.count ⟨true, l'⟩ = 0 ∧ At (L.set d ⟨true, l'⟩) [] w')
        (destroyBanks_works hd hself) (fun _ => ?_) w₂ hat |>.imp ?_ fun _ _ hx => hx
      · rintro w₃ ⟨l', hcount, hat₃⟩
        exact (pop_works (ε := ε) w₃ hat₃).imp (fun _ w₄ hat₄ => ⟨l', hcount, hat₄⟩) fun _ _ hx => hx
      · rintro _ w₃ ⟨l', hcount, hat₃⟩
        exact ⟨⟨true, l'⟩, htrue.symm, fun _ => rfl, hat₃, .inl hcount⟩

/-- The devices before the rest have no sets, unless their context was refused. -/
def Destroyed (w₀ : Tracked) (L : List Owned) (ds : List Nat) (w : Tracked) : Prop :=
  ∃ L', Backed L' ∧ L'.length = L.length ∧ At L' [] w ∧ (∀ d ∈ ds, d < L.length) ∧
    (∀ d, w₀.2.refused d ≤ w.2.refused d) ∧
    ∀ d < L.length, d ∈ ds ∨ (L'.getD d {}).count = 0 ∨ w₀.2.refused d < w.2.refused d

theorem Backed.set (hL : Backed L) {o : Owned} (ho : o.sets ≠ [] → o.context = true) : Backed (L.set d o) := by
  intro o' ho'
  rcases List.mem_or_eq_of_mem_set ho' with hold | rfl
  · exact hL o' hold
  · exact ho

private theorem destroyEventGroups_meets (hL : Backed L) (hw : At L [] w) :
    (destroyEventGroups : Routine ε Unit).Meets trackedEnv Proper (fun _ w' => Destroyed w L [] w')
      (fun _ _ => False) w := by
  refine Prog.meets_bind.2 fun c w₁ hr => ?_
  obtain ⟨⟨rfl, hworld⟩, hheld⟩ := hr
  obtain rfl : w₁ = w := Prod.ext hworld hheld
  refine ⟨⟨trivial, trivial⟩, ?_⟩
  have hlength : w₁.1.mem.devices.length = L.length := by rw [← hw.memory, Collector.owned, List.length_map]
  rw [Prog.meets_ret, hlength]
  refine Prog.meets_forEach (I := Destroyed w₁ L) ?_ ?_
  · rintro d ds w ⟨L', hL', hlen, hat, hlt, hrefused, hdone⟩
    have hd : d < L'.length := hlen ▸ hlt d List.mem_cons_self
    have hmore : ∀ d, w.2.refused d ≤ w.2.refused d := fun _ => Nat.le_refl _
    have hboth := (destroyDevice_meets (ε := ε) hL' hd hat).both (meets_refused _ hmore)
    refine hboth.mono (fun _ _ _ _ _ hg => hg.1) ?_ fun _ _ hx => hx.1
    rintro _ w' ⟨⟨o, -, ho, hat', hcount⟩, hrefused'⟩
    refine ⟨L'.set d o, hL'.set ho, by rw [List.length_set, hlen], hat',
      fun d' hd' => hlt d' (List.mem_cons_of_mem _ hd'),
      fun d' => Nat.le_trans (hrefused d') (hrefused' d'), fun d' hd' => ?_⟩
    rw [getD_set hd]
    by_cases heq : d' = d
    · subst heq
      right
      rw [if_pos rfl]
      exact hcount.imp_right fun hless => Nat.lt_of_le_of_lt (hrefused d') hless
    · rw [if_neg heq]
      rcases hdone d' hd' with hmem | hzero | hless
      · exact .inl ((List.mem_cons.1 hmem).resolve_left heq)
      · exact .inr (.inl hzero)
      · exact .inr (.inr (Nat.lt_of_lt_of_le hless (hrefused' d')))
  · exact ⟨L, hL, rfl, hw, fun d hd => List.mem_range.1 hd, fun _ => Nat.le_refl _,
      fun d hd => .inl (List.mem_range.2 hd)⟩

/-! ### Contexts -/

private theorem base_meets {Q : α → Tracked → Prop} {X : ε → Tracked → Prop} {p : Routine ε α}
    (h : p.Meets trackedEnv Proper Q X w) : (base p).Meets lifeEnv LifeProper Q X w := by
  induction p generalizing w with
  | ret a => exact h
  | throw e => exact h
  | call o k ih =>
    intro r w' hr
    obtain ⟨hproper, hrest⟩ := h r w' hr
    exact ⟨hproper, ih r hrest⟩

/-- The devices before the rest have no context; their sets are as they were. -/
def Released (w₀ : Tracked) (L : List Owned) (ds : List Nat) (w : Tracked) : Prop :=
  ∃ L', L'.length = L.length ∧ At L' [] w ∧ w.2.refused = w₀.2.refused ∧ (∀ d ∈ ds, d < L.length) ∧
    (∀ d, (L'.getD d {}).count = (L.getD d {}).count) ∧ ∀ d < L.length, d ∈ ds ∨ (L'.getD d {}).context = false

private theorem base_load_meets {f : Collector → Prog LifeOp LifeOp.Answer ε α} {Q : α → Tracked → Prop}
    {X : ε → Tracked → Prop}
    (hf : (f w.1.mem).Meets lifeEnv LifeProper Q X w) : ((base load).bind f).Meets lifeEnv LifeProper Q X w := by
  intro c w' hr
  obtain ⟨⟨rfl, hworld⟩, hheld⟩ := hr
  obtain rfl : w' = w := Prod.ext hworld hheld
  exact ⟨⟨trivial, trivial⟩, hf⟩

private theorem releaseContext_meets (hd : d < L.length) (hw : At L [] w) :
    (releaseContext d : Prog LifeOp LifeOp.Answer ε Unit).Meets lifeEnv LifeProper
      (fun _ w' => At (L.set d ⟨false, (L.getD d {}).sets⟩) [] w' ∧ w'.2.refused = w.2.refused)
      (fun _ _ => False) w := by
  have howned := getD_owned w.1.mem d
  rw [hw.memory] at howned
  have hretained : (w.1.mem.device d).contextRetained = (L.getD d {}).context := congrArg Owned.context howned.symm
  refine base_load_meets (f := fun c => Prog.when (c.device d).contextRetained _) ?_
  refine Prog.meets_when.2 ⟨fun h => ?_, fun h => ?_⟩
  · intro rc w' hrelease
    have hone : w.2.retained d = w.2.unreleased d + 1 := by
      rw [hw.retained d, ← hretained, h]
      exact Nat.add_comm _ _
    have hafter : Accounts L (L.set d ⟨false, (L.getD d {}).sets⟩) [] w' ∧ w'.2.refused = w.2.refused := by
      -- released or not, the collector gives the context up
      rcases hrelease with rfl | ⟨-, rfl⟩
      · refine ⟨hw.change hd hw.memory hw.stack ?_ (hw.sets d) fun d' hd' => ?_, rfl⟩
        · simp only [Function.update_self, hone]
          exact (Nat.zero_add _).symm
        · exact ⟨⟨Function.update_of_ne hd' _ _, rfl⟩, rfl, rfl⟩
      · refine ⟨hw.change hd hw.memory hw.stack ?_ (hw.sets d) fun d' hd' => ?_, rfl⟩
        · simp only [Function.update_self, hone]
          exact (Nat.zero_add _).symm
        · exact ⟨⟨rfl, Function.update_of_ne hd' _ _⟩, rfl, rfl⟩
    refine ⟨⟨hw.stack, hone⟩, base_meets fun _ w'' hr => ?_⟩
    obtain ⟨hproper, hat⟩ :=
      hafter.1.store (fun c hc => owned_set (g := fun o => ⟨false, o.sets⟩) hc d (by exact fun _ => rfl)) hr
    have hrefused : w''.2.refused = w'.2.refused := congrArg Held.refused (show w''.2 = w'.2 from hr.2)
    exact ⟨hproper, hat, hrefused.trans hafter.2⟩
  · have hfalse : (L.getD d {}).context = false := by simpa [hretained] using h
    have hself : ∀ o : Owned, o.context = false → (⟨false, o.sets⟩ : Owned) = o := fun o ho => by rw [← ho]
    rw [hself _ hfalse, set_getD]
    exact ⟨hw, rfl⟩

private theorem releaseContexts_meets (hw : At L [] w) :
    (releaseContexts : Prog LifeOp LifeOp.Answer ε Unit).Meets lifeEnv LifeProper (fun _ w' => Released w L [] w')
      (fun _ _ => False) w := by
  have hlength : w.1.mem.devices.length = L.length := by rw [← hw.memory, Collector.owned, List.length_map]
  refine base_load_meets (f := fun c => Prog.forEach releaseContext (List.range c.devices.length)) ?_
  rw [hlength]
  refine Prog.meets_forEach (I := Released w L) ?_ ?_
  · rintro d ds w₁ ⟨L', hlen, hat, hrefused, hlt, hcount, hdone⟩
    have hd : d < L'.length := hlen ▸ hlt d List.mem_cons_self
    refine (releaseContext_meets hd hat).imp ?_ fun _ _ hx => hx
    rintro _ w₂ ⟨hat', hrefused'⟩
    refine ⟨_, by rw [List.length_set, hlen], hat', hrefused'.trans hrefused,
      fun d' hd' => hlt d' (List.mem_cons_of_mem _ hd'), fun d' => ?_,
      fun d' hd' => ?_⟩
    · rw [getD_set hd]
      split
      · next heq => rw [heq, ← hcount]; rfl
      · exact hcount d'
    · rw [getD_set hd]
      by_cases heq : d' = d
      · right
        rw [if_pos heq]
      · rw [if_neg heq]
        exact (hdone d' hd').imp_left fun hmem => (List.mem_cons.1 hmem).resolve_left heq
  · exact ⟨L, rfl, hw, rfl, fun d hd => List.mem_range.1 hd, fun _ => rfl, fun d hd => .inl (List.mem_range.2 hd)⟩

/-- What is held behind the destructor: what the driver has not taken back, and sets where a push was refused. -/
def Left (w₀ w : Tracked) : Prop :=
  w.2.Free ∧
    ∀ d, w.2.retained d = w.2.unreleased d ∧ (w.2.sets d = w.2.undestroyed d ∨ w₀.2.refused d < w.2.refused d)

private theorem teardown_meets (hL : Backed L) (hw : At L [] w) :
    (teardown : Prog LifeOp LifeOp.Answer ε Unit).Meets lifeEnv LifeProper
      (fun _ w' => Left w w') (fun _ _ => False) w := by
  refine Prog.meets_bind.2 ((base_meets (destroyEventGroups_meets hL hw)).imp ?_ fun _ _ hx => hx)
  rintro _ w₁ ⟨L₁, -, hlen₁, hat₁, -, -, hdone₁⟩
  refine (releaseContexts_meets hat₁).imp ?_ fun _ _ hx => hx
  rintro _ w₂ ⟨L₂, hlen₂, hat₂, hrefused, -, hcount, hdone₂⟩
  refine ⟨hat₂.stack, fun d => ?_⟩
  by_cases hd : d < L.length
  · have hcontext := (hdone₂ d (hlen₁ ▸ hd)).resolve_left List.not_mem_nil
    have hsets := (hdone₁ d hd).resolve_left List.not_mem_nil
    rw [hat₂.retained, hat₂.sets, hcontext, hcount, hrefused]
    refine ⟨Nat.zero_add _, hsets.imp_left fun hzero => ?_⟩
    rw [hzero]
    exact Nat.zero_add _
  · have hnone : L₂.getD d {} = {} := List.getD_eq_default _ _ (by omega)
    rw [hat₂.retained, hat₂.sets, hnone]
    exact ⟨Nat.zero_add _, .inl (Nat.zero_add _)⟩

/-! ### Runs with their ledger -/

end

variable {P : Platform} {n : Nat} {s : State} {held : Held}

/-- The runs with `n` callers, and a ledger that the answers to their requests allow. -/
inductive Kept (P : Platform) (n : Nat) : State → Held → Prop
  | initial : Kept P n (initial P n) {}
  | quiet {s s' : State} {held : Held} (h : Kept P n s held) (hs : Step P env s none s') : Kept P n s' held
  | request {s : State} {held held' : Held} {o : Op} {k : o.Answer → WorkerPc} {r : o.Answer} {w : World}
      (h : Kept P n s held) (hask : s.worker.Asks o k) (hanswer : env s.world o r w)
      (hheld : held.Becomes o r held') :
      Kept P n { s with worker := k r, world := w, shared := s.shared.request o } held'

/-- The driver has taken back everything. -/
structure Held.Clean (h : Held) : Prop where
  stuck : h.stuck = []
  unreleased : ∀ d, h.unreleased d = 0
  undestroyed : ∀ d, h.undestroyed d = 0

/-- Whatever the answer, it may be that everything has been done. -/
theorem Held.Clean.exists_becomes {h : Held} (hclean : h.Clean) (o : Op) (r : o.Answer) :
    ∃ h', h.Becomes o r h' ∧ h'.Clean := by
  obtain ⟨hstuck, hunreleased, hundestroyed⟩ := hclean
  cases o
  case cuCtxPopCurrent => exact ⟨_, .inl rfl, hstuck, hunreleased, hundestroyed⟩
  case eventGroupSetsDestroy => exact ⟨_, .inl rfl, hstuck, hunreleased, hundestroyed⟩
  case cuDevicePrimaryCtxRetain =>
    refine ⟨_, rfl, ?_⟩
    split <;> exact ⟨hstuck, hunreleased, hundestroyed⟩
  case cuCtxPushCurrent =>
    refine ⟨_, rfl, ?_⟩
    split <;> exact ⟨hstuck, hunreleased, hundestroyed⟩
  case metricCreateEventGroupSets =>
    refine ⟨_, rfl, ?_⟩
    split <;> exact ⟨hstuck, hunreleased, hundestroyed⟩
  all_goals exact ⟨h, rfl, hstuck, hunreleased, hundestroyed⟩

/-- Every run has a ledger of a driver that has taken back everything. -/
theorem Reachable.kept (h : Reachable P env (fun _ => True) n s) : ∃ held, Kept P n s held ∧ held.Clean := by
  induction h with
  | initial => exact ⟨_, .initial, rfl, fun _ => rfl, fun _ => rfl⟩
  | step _ hs _ ih =>
    obtain ⟨held, hkept, hclean⟩ := ih
    cases hs with
    | request hask hanswer =>
      obtain ⟨held', hheld, hclean'⟩ := hclean.exists_becomes _ _
      exact ⟨held', hkept.request hask hanswer hheld, hclean'⟩
    | caller h₁ h₂ h₃ => exact ⟨_, hkept.quiet (.caller h₁ h₂ h₃), hclean⟩
    | worker h₁ => exact ⟨_, hkept.quiet (.worker h₁), hclean⟩
    | gateNotify h₁ => exact ⟨_, hkept.quiet (.gateNotify h₁), hclean⟩
    | callStop h₁ h₂ => exact ⟨_, hkept.quiet (.callStop h₁ h₂), hclean⟩
    | storeFlag h₁ => exact ⟨_, hkept.quiet (.storeFlag h₁), hclean⟩
    | notifyWake h₁ => exact ⟨_, hkept.quiet (.notifyWake h₁), hclean⟩
    | notifyBoundary h₁ => exact ⟨_, hkept.quiet (.notifyBoundary h₁), hclean⟩
    | join h₁ h₂ => exact ⟨_, hkept.quiet (.join h₁ h₂), hclean⟩

theorem Kept.reachable (h : Kept P n s held) : Reachable P env (fun _ => True) n s := by
  induction h with
  | initial => exact .initial
  | quiet _ hs ih => exact ih.step hs trivial
  | request _ hask hanswer _ ih => exact ih.step (.request hask hanswer) trivial

/-- The device work left is within what the ledger allows and leaves nothing pushed. -/
def WorkerPc.Custodial (pc : WorkerPc) (w : Tracked) : Prop :=
  match pc with
  | .starting p => p.Meets trackedEnv Proper (fun _ w' => Settles w') (fun _ _ => False) w
  | .sampling p => p.Meets trackedEnv Proper (fun _ w' => Settles w') (fun _ _ => False) w
  | .rotating p => p.Meets trackedEnv Proper (fun _ w' => Settles w') (fun _ _ => False) w
  | .reporting p => p.Meets trackedEnv Proper (fun _ w' => Settles w') (fun _ _ => False) w
  | .closing p => p.Meets trackedEnv Proper (fun _ w' => Settles w') (fun _ _ => False) w
  | _ => Settles w

theorem WorkerPc.Custodial.next {sh sh' : Shared} {pc pc' : WorkerPc} {w : Tracked} (h : pc.Custodial w)
    (hnext : workerNext P sh pc = some (pc', sh')) : pc'.Custodial w := by
  have hsample : Settles w → (WorkerPc.sampling (sample P)).Custodial w := settles_of (fun _ hL => sample_works P hL) w
  have hrotate : Settles w → (WorkerPc.rotating (rotate P)).Custodial w := settles_of (fun _ hL => rotate_works P hL) w
  have hreport : Settles w → (WorkerPc.reporting report).Custodial w := settles_of (fun _ _ => report_works) w
  have hlast : Settles w → (WorkerPc.closing lastReport).Custodial w :=
    settles_of (fun _ _ => writeReport_works false) w
  revert hnext h
  fun_cases workerNext P sh pc <;> grind -ring -linarith [WorkerPc.Custodial, Prog.Meets]

theorem WorkerPc.Custodial.answer {pc : WorkerPc} {o : Op} {k : o.Answer → WorkerPc} {w w' : Tracked} {r : o.Answer}
    (h : pc.Custodial w) (hask : pc.Asks o k) (hr : trackedEnv w o r w') : Proper w o r w' ∧ (k r).Custodial w' := by
  cases hask with
  | starting => exact h r w' hr
  | sampling => exact h r w' hr
  | rotating => exact h r w' hr
  | reporting => exact h r w' hr
  | closing => exact h r w' hr

private theorem Kept.custodial (h : Kept P n s held) : s.worker.Custodial (s.world, held) := by
  induction h with
  | initial => exact initializeImpl_works P _ ⟨rfl, rfl, fun _ => rfl, fun _ => rfl⟩
  | quiet _ hs ih =>
    cases hs with
    | worker hnext => exact ih.next hnext
    | gateNotify hpc =>
      rw [hpc] at ih
      exact ih
    | _ => exact ih
  | request _ hask hanswer hheld ih => exact (ih.answer hask ⟨hanswer, hheld⟩).2

/-- Every request can be answered. -/
theorem exists_answer (w : Tracked) (o : Op) : ∃ r w', trackedEnv w o r w' := by
  have hheld : ∃ h', w.2.Becomes o (respond success w.1 o).1 h' := by
    cases o
    case cuCtxPopCurrent => exact ⟨_, .inl rfl⟩
    case eventGroupSetsDestroy => exact ⟨_, .inl rfl⟩
    all_goals exact ⟨_, rfl⟩
  obtain ⟨h', hh'⟩ := hheld
  exact ⟨_, (_, h'), env_respond success w.1 o, hh'⟩

private theorem exists_life_answer (w : Tracked) : ∀ o : LifeOp, ∃ r w', lifeEnv w o r w'
  | .base o => exists_answer w o
  | .cuDevicePrimaryCtxRelease _ => ⟨success, _, .inl rfl⟩

/-- After `start` on one device, `stop` lets the worker exit. -/
def stopped : State :=
  { serving 1 0 with
    stopper := .notifyWake, shared := { (serving 1 0).shared with stopRequested := true }, worker := .exited }

private theorem reachable_stopped : Reachable barePlatform env (fun _ => True) 1 stopped := by
  have hserving : Reachable barePlatform env (fun _ => True) 1 (serving 1 0) :=
    reachable_serving (env_respond success) (fun _ _ => trivial) (Nat.zero_le 1)
  have hcalled := hserving.step (.callStop trivial rfl) trivial
  have hraised := hcalled.step (.storeFlag rfl) trivial
  have hclosing :=
    hraised.step (.worker (show workerNext barePlatform _ .top = some (.closing lastReport, _) from rfl)) trivial
  have hwritten := hclosing.deviceWork (fun _ _ => .closing) (env_respond success) rfl (fun _ _ => trivial) rfl
  exact hwritten.step (.worker rfl) trivial

end CmpUnlocker.Cupti
