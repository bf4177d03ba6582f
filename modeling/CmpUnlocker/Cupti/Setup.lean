import CmpUnlocker.Cupti.Pieces

/-!
# Initializing, with its contexts

`initialize` appends a device at a time; what it holds of the device is the last entry of the ledger.
-/

namespace CmpUnlocker.Cupti

open Interaction

section

variable {ε : Type} (P : Platform) {L : List Owned} {l : List (Option EventGroupSets)} {d b : Nat} {α β : Type}
  {I J X K : Tracked → Prop}

/-- From `I` on, with requests as the ledger allows, the routine ends in `J` or fails in `X`. -/
def Tries (p : Routine ε α) (I J X : Tracked → Prop) : Prop :=
  ∀ w, I w → p.Meets trackedEnv Proper (fun _ w' => J w') (fun _ w' => X w') w

theorem Works.tries {p : Routine ε α} {f : α → Routine ε β} (h : Works p I J) (hf : ∀ a, Tries (f a) J K X) :
    Tries (p.bind f) I K X :=
  fun w hw => Prog.meets_bind.2 ((h w hw).imp (fun a w' hw' => hf a w' hw') fun _ _ hx => hx.elim)

theorem Tries.bind {p : Routine ε α} {f : α → Routine ε β} (h : Tries p I J X) (hf : ∀ a, Tries (f a) J K X) :
    Tries (p.bind f) I K X :=
  fun w hw => Prog.meets_bind.2 ((h w hw).imp (fun a w' hw' => hf a w' hw') fun _ _ hx => hx)

theorem Tries.ite {c : Prop} [Decidable c] {p q : Routine ε α} (hp : c → Tries p I J X) (hq : ¬c → Tries q I J X) :
    Tries (if c then p else q) I J X :=
  fun w hw => Prog.meets_ite.2 ⟨fun hc => hp hc w hw, fun hc => hq hc w hw⟩

private theorem loadDevice_tries {f : DeviceState → Routine ε α}
    (hf : ∀ w, I w → (f (w.1.mem.device d)).Meets trackedEnv Proper (fun _ w' => J w') (fun _ w' => X w') w) :
    Tries ((loadDevice d).bind f) I J X := by
  intro w hw
  refine Prog.meets_bind.2 (Prog.meets_bind.2 fun c w' hr => ?_)
  obtain ⟨⟨rfl, hworld⟩, hheld⟩ := hr
  obtain rfl : w' = w := Prod.ext hworld hheld
  exact ⟨⟨trivial, trivial⟩, hf _ hw⟩

/-! ### Preparing a bank -/

/-- The pointer of one bank of device `d` may be another one. -/
def BankAt (L : List Owned) (d : Nat) (l : List (Option EventGroupSets)) (b : Nat) (w : Tracked) : Prop :=
  ∃ p, At (L.set d ⟨true, l.set b p⟩) [d] w

private theorem dropSets_works (hd : d < L.length) (hl : L.getD d {} = ⟨true, l⟩) {s : EventGroupSets}
    (hb : l[b]? = some (some s)) (error : String) :
    Works (dropSets d b error : Routine ε Bool) (At L [d]) (At (L.set d ⟨true, l.set b none⟩) [d]) := by
  have hsets : (L.getD d {}).sets = l := by rw [hl]
  refine .bind (storeBank_works d b (by exact fun _ => rfl)) fun _ => ?_
  intro w hw
  refine Prog.meets_bind.2 fun rc w' hr => ?_
  obtain ⟨hproper, hafter⟩ := hw.destroy hd hsets hb hr
  refine ⟨hproper, Prog.meets_bind.2 fun _ w'' hr' => ?_⟩
  refine Accounts.store (by rwa [hl] at hafter) (fun c hc => ?_) hr'
  exact (owned_setBank hc d b (by exact fun _ => rfl)).trans (by rw [hl])

private theorem profileAllInstances_works {s : EventGroupSets} (hs : some s ∈ (L.getD d {}).sets) (groups : List Nat) :
    Works (profileAllInstances groups : Routine ε Code) (At L [d]) (At L [d]) := by
  induction groups with
  | nil => exact works_ret _
  | cons group groups ih =>
    have hcall : Works (call (.setProfileAllDomainInstances group) : Routine ε Code) (At L [d]) (At L [d]) :=
      call_works (o := .setProfileAllDomainInstances group) ⟨s, hs⟩
    exact .bind hcall fun rc => .ite (fun _ => ih) fun _ => works_ret rc

/-- The sets created for a bank are stored, and destroyed again where they are of no use. -/
theorem prepareSets_meets (hd : d < L.length) (hl : L.getD d {} = ⟨true, l⟩) (hb : l[b]? = some none)
    (s : EventGroupSets) {w : Tracked} (hw : Accounts L (L.set d ⟨true, l.set b (some s)⟩) [d] w) :
    (prepareSets P d b s : Routine ε Bool).Meets trackedEnv Proper
      (fun _ w' => BankAt L d l b w') (fun _ _ => False) w := by
  have hlt : b < l.length := (List.getElem?_eq_some_iff.1 hb).1
  have hd' : d < (L.set d ⟨true, l.set b (some s)⟩).length := by rwa [List.length_set]
  have hl' : (L.set d ⟨true, l.set b (some s)⟩).getD d {} = ⟨true, l.set b (some s)⟩ := by rw [getD_set hd, if_pos rfl]
  have hb' : (l.set b (some s))[b]? = some (some s) := List.getElem?_set_self hlt
  have hmem : some s ∈ ((L.set d ⟨true, l.set b (some s)⟩).getD d {}).sets := by
    rw [hl']
    exact List.mem_of_getElem? hb'
  have hdrop : ∀ error, Works (dropSets d b error : Routine ε Bool) (At (L.set d ⟨true, l.set b (some s)⟩) [d])
      (BankAt L d l b) := by
    intro error w hw
    have hworks := dropSets_works (ε := ε) hd' hl' hb' error w hw
    refine hworks.imp (fun _ w' hw' => ⟨none, ?_⟩) fun _ _ hx => hx
    rwa [List.set_set, List.set_set] at hw'
  refine Prog.meets_bind.2 fun _ w' hr => ?_
  obtain ⟨hproper, hat⟩ := hw.store (fun c hc => (owned_setBank hc d b (by exact fun _ => rfl)).trans (by rw [hl])) hr
  refine ⟨hproper, Prog.meets_ite.2 ⟨fun _ => hdrop _ w' hat, fun _ => ?_⟩⟩
  refine Works.bind (profileAllInstances_works hmem _) (fun rc => .ite (fun _ => hdrop _) fun _ => ?_) w' hat
  refine .bind (storeBank_works d b (by exact fun _ => rfl)) fun _ => ?_
  refine .bind (storeDevice_works d fun state => ?_) fun _ => ?_
  · exact owned_foldl_setSample state _ _
  · exact fun w hw => ⟨some s, hw⟩

private theorem prepareBank_works (hd : d < L.length) (hl : L.getD d {} = ⟨true, l⟩) (hb : l[b]? = some none) :
    Works (prepareBank P d b : Routine ε Bool) (At L [d]) (BankAt L d l b) := by
  have hlt : b < l.length := (List.getElem?_eq_some_iff.1 hb).1
  have hnone : L.set d ⟨true, l.set b none⟩ = L := by
    have hset : l.set b none = l := by
      rw [← (List.getElem?_eq_some_iff.1 hb).2, List.set_getElem_self]
    rw [hset, ← hl, set_getD]
  have hkeep : ∀ w, At L [d] w → BankAt L d l b w := fun w hw => ⟨none, by rwa [hnone]⟩
  have hfail : ∀ f : MetricBank → MetricBank, (∀ bank, (f bank).sets = none) → ∀ w, At L [d] w →
      (do storeBank d b f; return false : Routine ε Bool).Meets trackedEnv Proper (fun _ w' => BankAt L d l b w')
        (fun _ _ => False) w := by
    intro f hf w hw
    refine Prog.meets_bind.2 fun _ w' hr => ?_
    obtain ⟨hproper, hat⟩ := hw.store (fun c hc => by rw [owned_setBank hc d b hf, hl, hnone]) hr
    exact ⟨hproper, hkeep w' hat⟩
  refine loadDevice_works fun w hw => ?_
  split
  · refine Works.bind (storeBank_works d b (by exact fun _ => rfl)) (fun _ => ?_) w hw
    exact fun w' hw' => hkeep w' hw'
  · refine Prog.meets_bind.2 ?_
    rintro ⟨rc, created⟩ w' hr
    refine ⟨⟨hw.stack, trivial⟩, ?_⟩
    cases created with
    | none => exact hfail _ (by exact fun _ => rfl) w' (hw.createFailed (by simp) hr)
    | some s =>
      refine Prog.meets_ite.2 ⟨fun hrc => ?_, fun hrc => ?_⟩
      · have hcreated := hw.create hd (by rw [hl]) hb hrc hr
        rw [hl] at hcreated
        exact prepareSets_meets P hd hl hb s hcreated
      · exact hfail _ (by exact fun _ => rfl) w' (hw.createFailed (fun h => hrc h.1) hr)

/-! ### Preparing a device -/

/-- Nothing is pushed, and device `d` has its context and some pointers. -/
def Prepared (L : List Owned) (d : Nat) (w : Tracked) : Prop := ∃ l, At (L.set d ⟨true, l⟩) [] w

private theorem lookupMetric_works (m : Metric) :
    Works (lookupMetric P d m : Routine ε Unit) (At L [d]) (At L [d]) := by
  have hstore : ∀ v : MetricSample,
      Works (storeDevice d fun s => s.setSample m v : Routine ε Unit) (At L [d]) (At L [d]) :=
    fun v => storeDevice_works d fun _ => rfl
  have hid : Works (call (.metricGetIdFromName d m) : Routine ε (Code × Nat)) (At L [d]) (At L [d]) :=
    call_works (o := .metricGetIdFromName d m) rfl
  have hkind : ∀ id, Works (call (.metricGetValueKind id) : Routine ε (Code × ValueKind)) (At L [d]) (At L [d]) :=
    fun id => call_works (o := .metricGetValueKind id) trivial
  refine .bind hid fun _ => .ite (fun _ => hstore _) fun _ => ?_
  exact .bind (hkind _) fun _ => .ite (fun _ => hstore _) fun _ => hstore _

private theorem works_forEach {body : β → Routine ε Unit} (h : ∀ x, Works (body x) I I) (xs : List β) :
    Works (Prog.forEach body xs) I I :=
  fun _ hw => Prog.meets_forEach (I := fun _ w => I w) (fun x _ _ hx => h x _ hx) hw

/-- The banks still to come have no sets. -/
def Coming (L : List Owned) (d : Nat) (bs : List Nat) (w : Tracked) : Prop :=
  bs.Nodup ∧ ∃ l : List (Option EventGroupSets), (∀ b ∈ bs, l[b]? = some none) ∧ At (L.set d ⟨true, l⟩) [d] w

private theorem prepareBanks_works (hd : d < L.length) :
    Works (Prog.forEach (fun b => do let _ ← prepareBank P d b; return ()) (List.range 2) : Routine ε Unit)
      (At (L.set d ⟨true, [none, none]⟩) [d]) (fun w => ∃ l, At (L.set d ⟨true, l⟩) [d] w) := by
  intro w hw
  have hstart : Coming L d (List.range 2) w := ⟨by decide, [none, none], by decide, hw⟩
  refine (Prog.meets_forEach (I := Coming L d) ?_ hstart).imp (fun _ w' h => ?_) fun _ _ hx => hx
  · rintro b bs w ⟨hnodup, l, hl, hat⟩
    have hd' : d < (L.set d ⟨true, l⟩).length := by rwa [List.length_set]
    have hself : (L.set d ⟨true, l⟩).getD d {} = ⟨true, l⟩ := by rw [getD_set hd, if_pos rfl]
    have hworks := prepareBank_works (ε := ε) P hd' hself (hl b List.mem_cons_self) w hat
    refine Prog.meets_bind.2 (hworks.imp ?_ fun _ _ hx => hx)
    rintro _ w' ⟨p, hat'⟩
    rw [List.set_set] at hat'
    refine ⟨hnodup.of_cons, l.set b p, fun b' hb' => ?_, hat'⟩
    have hne : b ≠ b' := by
      rintro rfl
      exact (List.nodup_cons.1 hnodup).1 hb'
    rw [List.getElem?_set_ne hne]
    exact hl b' (List.mem_cons_of_mem _ hb')
  · obtain ⟨-, l, -, hat⟩ := h
    exact ⟨l, hat⟩

private theorem prepareDevice_tries (hd : d < L.length) (ho : L.getD d {} = ⟨true, []⟩) :
    Tries (prepareDevice P d) (At L []) (Prepared L d) (Prepared L d) := by
  have hsame : L.set d ⟨true, []⟩ = L := by rw [← ho, set_getD]
  have hkeep : ∀ w, At L [] w → Prepared L d w := fun w hw => ⟨[], by rwa [hsame]⟩
  have hmode : Works (call (.setContinuousMode d) : Routine String Code) (At L [d]) (At L [d]) :=
    call_works (o := .setContinuousMode d) rfl
  intro w hw
  refine Prog.meets_bind.2 fun pushed w₁ hr => ?_
  obtain ⟨hproper, hat⟩ := hw.push (d := d) (by rw [ho]) hr
  refine ⟨hproper, Prog.meets_ite.2 ⟨fun hfail => ?_, fun hok => ?_⟩⟩
  · rw [if_neg hfail] at hat
    exact hkeep w₁ hat
  · rw [if_pos (not_not.1 hok)] at hat
    refine hmode.tries (X := Prepared L d) (fun rc => .ite (fun _ => ?_) fun _ => ?_) w₁ hat
    · exact pop_works.tries fun _ w₂ hw₂ => hkeep w₂ hw₂
    · refine (works_forEach (fun m => lookupMetric_works P m) Metric.all).tries fun _ => ?_
      refine Works.tries (J := At (L.set d ⟨true, [none, none]⟩) [d]) (fun w₂ hw₂ _ w₃ hr₃ => ?_) fun _ => ?_
      · have hempty : Accounts L (L.set d ⟨true, [none, none]⟩) [d] w₂ := hw₂.relabel hd (by rw [ho]) (by rw [ho]; rfl)
        refine hempty.store (fun c hc => (owned_set (g := fun o => ⟨o.context, [none, none]⟩) hc d ?_).trans ?_) hr₃
        · exact fun _ => rfl
        · rw [ho]
      · refine loadDevice_tries fun w₂ hw₂ => ?_
        have htwo : (w₂.1.mem.device d).banks.length = 2 := by
          have howned := getD_owned w₂.1.mem d
          rw [hw₂.memory, getD_set hd, if_pos rfl] at howned
          have hlength := congrArg (fun o => o.sets.length) howned
          simpa [DeviceState.owned] using hlength.symm
        rw [htwo]
        refine (prepareBanks_works P hd).tries (fun _ => ?_) w₂ hw₂
        rintro w₃ ⟨l, hat₃⟩
        have hprepared :
            Tries (.ret () : Routine String Unit) (At (L.set d ⟨true, l⟩) []) (Prepared L d) (Prepared L d) :=
          fun w₄ hw₄ => ⟨l, hw₄⟩
        exact pop_works.tries (fun _ => hprepared) w₃ hat₃

/-! ### Discovering a device -/

private theorem storePciBusId_works (d : Nat) (rc : Code) (pciBusId : String) :
    Works (storePciBusId P d rc pciBusId : Routine ε Unit) (At L []) (At L []) :=
  .ite (fun _ => storeDevice_works d (by exact fun _ => rfl)) fun _ => storeDevice_works d (by exact fun _ => rfl)

/-- Requests about devices that have no context yet. -/
def Discovers : Op → Prop
  | .cuInit | .cuDeviceGetCount | .cuDeviceGet _ | .cuDeviceGetName _ | .cuDeviceGetPCIBusId _ => True
  | .deviceGetNumEventDomains _ | .deviceGetNumMetrics _ => True
  | _ => False

private theorem discovers_works {o : Op} (ho : Discovers o) :
    Works (call o : Routine ε o.Answer) (At L []) (At L []) := by
  rintro w hw r w' ⟨henv, hheld⟩
  cases o <;> simp only [Discovers] at ho
  all_goals exact ⟨⟨trivial, trivial⟩, hw.same (congrArg Collector.owned (env_mem henv (by simp))) hheld⟩

private theorem discoverDevice_tries (hd : d < L.length) (ho : L.getD d {} = ⟨false, []⟩) :
    Tries (discoverDevice P d) (At L []) (At (L.set d ⟨true, []⟩) []) (At L []) := by
  have hstore : ∀ f : DeviceState → DeviceState, (∀ s, (f s).owned = s.owned) →
      Works (storeDevice d f : Routine String Unit) (At L []) (At L []) := fun f hf => storeDevice_works d hf
  have hget : ∀ {o : Op}, Discovers o → Works (call o : Routine String o.Answer) (At L []) (At L []) :=
    fun hop => discovers_works hop
  refine (hget (o := .cuDeviceGet d) trivial).tries fun _ => .ite (fun _ _ hw => hw) fun _ => ?_
  refine (hget (o := .cuDeviceGetName d) trivial).tries fun _ => ?_
  refine Works.tries (.when fun _ => hstore _ fun _ => rfl) fun _ => ?_
  refine (hget (o := .cuDeviceGetPCIBusId d) trivial).tries fun _ => (storePciBusId_works P d _ _).tries fun _ => ?_
  refine (hget (o := .deviceGetNumEventDomains d) trivial).tries fun _ => ?_
  refine Works.tries (hstore _ fun _ => rfl) fun _ => .ite (fun _ _ hw => hw) fun _ => ?_
  refine (hget (o := .deviceGetNumMetrics d) trivial).tries fun _ => ?_
  refine Works.tries (hstore _ fun _ => rfl) fun _ => .ite (fun _ _ hw => hw) fun _ => ?_
  intro w hw
  refine Prog.meets_bind.2 fun rc w' hr => ?_
  obtain ⟨hproper, hat⟩ := hw.retain hd ho hr
  refine ⟨hproper, Prog.meets_ite.2 ⟨fun hfail => ?_, fun hok => ?_⟩⟩
  · rw [decide_eq_false hfail, ← ho, set_getD] at hat
    exact hat
  · rw [decide_eq_true (not_not.1 hok)] at hat
    intro _ w'' hr'
    refine hat.store (fun c hc => (owned_set (g := fun o => ⟨true, o.sets⟩) hc d ?_).trans ?_) hr'
    · exact fun _ => rfl
    · rw [ho]

/-! ### All devices -/

private theorem selectFrom_works (d : Nat) (is : List Nat) :
    Works (selectFrom P d is : Routine ε Bool) (At L [d]) (At L [d]) := by
  induction is with
  | nil => exact works_ret false
  | cons i is ih =>
    refine .bind (enableBank_works P d i) fun selected => .ite (fun _ => ?_) fun _ => ih
    exact .bind (storeDevice_works d (by exact fun _ => rfl)) fun _ => works_ret true

private theorem selectFirstBank_works (hcontext : (L.getD d {}).context = true) :
    Works (selectFirstBank P d : Routine ε Bool) (At L []) (At L []) := by
  refine push_works hcontext (fun rc hrc => ?_) fun rc hrc => ?_
  · rw [if_neg (not_not_intro hrc)]
    refine loadDevice_works fun w hw => Works.bind (selectFrom_works P d _) (fun selected => ?_) w hw
    refine .bind (.when fun _ => storeDevice_works d (by exact fun _ => rfl)) fun _ => ?_
    exact .bind pop_works fun _ => works_ret selected
  · rw [if_pos hrc]
    exact .bind (storeDevice_works d (by exact fun _ => rfl)) fun _ => works_ret false

/-- Nothing is pushed, and there are this many devices. -/
def Grown (n : Nat) (w : Tracked) : Prop := ∃ L, Backed L ∧ L.length = n ∧ At L [] w

theorem Backed.append (hL : Backed L) {o : Owned} (ho : o.sets ≠ [] → o.context = true) : Backed (L ++ [o]) := by
  intro o' ho'
  rcases List.mem_append.1 ho' with hold | hnew
  · exact hL o' hold
  · obtain rfl := List.mem_singleton.1 hnew
    exact ho

private theorem set_append_last (L : List Owned) (o o' : Owned) : (L ++ [o]).set L.length o' = L ++ [o'] := by
  rw [List.set_append_right _ _ (Nat.le_refl _), Nat.sub_self]
  rfl

private theorem getD_last (L : List Owned) (o : Owned) : (L ++ [o]).getD L.length {} = o := by simp

private theorem length_lt_append (L : List Owned) (o : Owned) : L.length < (L ++ [o]).length := by simp

/-- A device of which nothing is held. -/
theorem getD_append_nothing (L : List Owned) (d : Nat) : (L ++ [({} : Owned)]).getD d {} = L.getD d {} := by
  simp only [List.getD_eq_getElem?_getD, List.getElem?_append]
  split
  · rfl
  · next hd =>
    rw [List.getElem?_eq_none (Nat.le_of_not_lt hd)]
    cases hi : d - L.length <;> rfl

private theorem initializeDevice_works (d : Nat) :
    Works (initializeDevice P d : Routine ε Unit) (Grown d) (Grown (d + 1)) := by
  rintro w ⟨L, hL, rfl, hat⟩
  have hgrown : ∀ o : Owned, (o.sets ≠ [] → o.context = true) → ∀ w, At (L ++ [o]) [] w → Grown (L.length + 1) w :=
    fun o ho w hw => ⟨_, hL.append ho, by simp, hw⟩
  have hnew : Accounts L (L ++ [({} : Owned)]) [] w := by
    refine ⟨hat.memory, hat.stack, fun d => ?_, fun d => ?_⟩
    · rw [getD_append_nothing, hat.retained]
    · rw [getD_append_nothing, hat.sets]
  have herror : ∀ (o : Owned) error, (o.sets ≠ [] → o.context = true) →
      Works (storeDevice L.length fun state => { state with error := error } : Routine ε Unit) (At (L ++ [o]) [])
        (Grown (L.length + 1)) := by
    intro o error ho w hw
    exact (storeDevice_works (ε := ε) L.length (by exact fun _ => rfl) w hw).imp (fun _ w' hw' => hgrown o ho w' hw')
      fun _ _ hx => hx
  have happend : ∀ c : Collector, c.owned = L →
      Collector.owned { c with devices := c.devices ++ [{ ordinal := L.length }] } = L ++ [({} : Owned)] := by
    intro c hc
    rw [Collector.owned, List.map_append, ← hc]
    rfl
  refine Prog.meets_bind.2 fun _ w₁ hr => ?_
  obtain ⟨hproper, hat₁⟩ := hnew.store happend hr
  refine ⟨hproper, Prog.meets_bind.2 (Prog.meets_attempt.2 (Prog.meets_bind.2 ?_))⟩
  have hdiscover := discoverDevice_tries P (length_lt_append L _) (getD_last L _) w₁ hat₁
  refine hdiscover.imp (fun _ w₂ hat₂ => ?_) fun error w₂ hat₂ => ?_
  · rw [set_append_last] at hat₂
    refine (prepareDevice_tries P (length_lt_append L _) (getD_last L _) w₂ hat₂).imp ?_ ?_
    · rintro _ w₃ ⟨l, hat₃⟩
      rw [set_append_last] at hat₃
      have hcontext := congrArg Owned.context (getD_last L ⟨true, l⟩)
      refine Works.bind (selectFirstBank_works P hcontext) (fun ready => ?_) w₃ hat₃
      intro w hw
      exact (storeDevice_works (ε := ε) L.length (by exact fun _ => rfl) w hw).imp
        (fun _ w' hw' => hgrown _ (fun _ => rfl) w' hw') fun _ _ hx => hx
    · rintro error w₃ ⟨l, hat₃⟩
      rw [set_append_last] at hat₃
      exact herror _ error (fun _ => rfl) w₃ hat₃
  · exact herror _ error (fun h => absurd rfl h) w₂ hat₂

private theorem initializeFailed_works (detail : String) :
    Works (initializeFailed detail : Routine ε Bool) (At L []) (At L []) :=
  .bind (setDetail_works detail) fun _ => .bind (writeReport_works false) fun _ => works_ret false

/-- Nothing is pushed, and the memory says what is held. -/
def Settles (w : Tracked) : Prop := ∃ L, Backed L ∧ At L [] w

theorem settles_of {p : Routine ε α} (h : ∀ L, Backed L → Works p (At L []) (At L [])) : Works p Settles Settles := by
  rintro w ⟨L, hL, hat⟩
  exact (h L hL w hat).imp (fun _ w' hw' => ⟨L, hL, hw'⟩) fun _ _ hx => hx

private theorem initializeDevices_works (n count : Nat) :
    Works (Prog.forEach (initializeDevice P) (List.range' n count) : Routine ε Unit) (Grown n) Settles := by
  induction count generalizing n with
  | zero =>
    rintro w ⟨L, hL, -, hat⟩
    exact ⟨L, hL, hat⟩
  | succ count ih =>
    rw [List.range'_succ]
    exact .bind (initializeDevice_works P n) fun _ => ih (n + 1)

theorem initializeImpl_works : Works (initializeImpl P : Routine ε Bool) (At [] []) Settles := by
  have hfailed : ∀ detail, Works (initializeFailed detail : Routine ε Bool) (At [] []) Settles := by
    intro detail w hw
    exact (initializeFailed_works detail w hw).imp (fun _ w' hw' => ⟨[], fun _ ho => absurd ho List.not_mem_nil, hw'⟩)
      fun _ _ hx => hx
  refine Works.bind (discovers_works (o := .cuInit) trivial) fun rc => .ite (fun _ => hfailed _) fun _ => ?_
  refine Works.bind (discovers_works (o := .cuDeviceGetCount) trivial) fun count => ?_
  refine .ite (fun _ => hfailed _) fun _ => ?_
  refine .ite (fun _ => hfailed _) fun _ => .bind (J := Settles) ?_ fun _ => ?_
  · rw [List.range_eq_range']
    intro w hw
    exact initializeDevices_works P 0 _ w ⟨[], fun _ ho => absurd ho List.not_mem_nil, rfl, hw⟩
  · refine load_works fun w hw => ?_
    refine Works.bind (settles_of fun L _ => setDetail_works _) (fun _ => ?_) w hw
    exact .bind (settles_of fun L _ => writeReport_works _) fun _ => works_ret _

end

end CmpUnlocker.Cupti
