import CmpUnlocker.Cupti.Calm

/-!
# Requests and rotations

The mutex discipline of `boundary_mutex` (`Locked`), and what it protects: behind the gate of
`rotate_at_idle_boundary` no request is active (`Gated.idle`), so the event-group sets are switched only while
`active_requests` is zero.  Until `stop` is called, `active_requests` counts the requests that have begun and not
ended, as long as the 32-bit counter does not wrap (`Counted`); with 2³² requests it does (`wrapped_counter`).
-/

namespace CmpUnlocker.Cupti

open Interaction

/-! ### Who holds the mutex -/

def CallerPc.holds : CallerPc → Bool
  | .idle | .beginLock | .waitBlocked | .waitWoken | .serving _ | .endLock _ => false
  | _ => true

def WorkerPc.holds : WorkerPc → Bool
  | .gateActive | .gateRotate | .gateClear | .rotating _ | .gateNotify | .gateUnlock => true
  | _ => false

/-- A thread is inside its critical section exactly if it owns the mutex. -/
structure Locked (s : State) : Prop where
  caller : ∀ i pc, s.callers[i]? = some pc → (pc.holds = true ↔ s.shared.boundaryMutex = some (.caller i))
  worker : s.worker.holds = true ↔ s.shared.boundaryMutex = some .worker

@[simp] theorem CallerPc.holds_wake (pc : CallerPc) : pc.wake.holds = pc.holds := by
  cases pc <;> rfl

/-- A caller keeps the mutex as it is, takes it while it is free, or gives it back. -/
theorem callerNext_mutex {me : Owner} {sh sh' : Shared} {pc pc' : CallerPc}
    (h : callerNext me sh pc = some (pc', sh')) :
    (pc'.holds = pc.holds ∧ sh'.boundaryMutex = sh.boundaryMutex) ∨
      (pc.holds = false ∧ pc'.holds = true ∧ sh.boundaryMutex = none ∧ sh'.boundaryMutex = some me) ∨
      (pc.holds = true ∧ pc'.holds = false ∧ sh'.boundaryMutex = none) := by
  cases pc <;> grind -ring -linarith [callerNext, CallerPc.holds, Shared.lock, Shared.unlock]

private theorem workerNext_mutex {P : Platform} {sh sh' : Shared} {pc pc' : WorkerPc}
    (h : workerNext P sh pc = some (pc', sh')) :
    (pc'.holds = pc.holds ∧ sh'.boundaryMutex = sh.boundaryMutex) ∨
      (pc.holds = false ∧ pc'.holds = true ∧ sh.boundaryMutex = none ∧ sh'.boundaryMutex = some .worker) ∨
      (pc.holds = true ∧ pc'.holds = false ∧ sh'.boundaryMutex = none) := by
  revert h
  fun_cases workerNext P sh pc <;> grind -ring -linarith [WorkerPc.holds, Shared.lock, Shared.unlock]

theorem WorkerPc.Asks.holds {pc : WorkerPc} {o : Op} {k : o.Answer → WorkerPc} (h : pc.Asks o k) (r : o.Answer) :
    (k r).holds = pc.holds := by
  cases h <;> rfl

@[simp] theorem Shared.boundaryMutex_request (sh : Shared) (o : Op) :
    (sh.request o).boundaryMutex = sh.boundaryMutex := by
  cases o <;> rfl

@[simp] theorem Shared.activeRequests_request (sh : Shared) (o : Op) :
    (sh.request o).activeRequests = sh.activeRequests := by
  cases o <;> rfl

@[simp] theorem Shared.stopRequested_request (sh : Shared) (o : Op) :
    (sh.request o).stopRequested = sh.stopRequested := by
  cases o <;> rfl

theorem State.wakeAll_getElem {s : State} {i : Nat} {pc : CallerPc} (h : s.wakeAll[i]? = some pc) :
    ∃ pc₀, s.callers[i]? = some pc₀ ∧ pc₀.wake = pc := by
  simpa [State.wakeAll] using h

theorem getElem?_set_cases {α : Type} {l : List α} {i j : Nat} {x y : α} (h : (l.set i x)[j]? = some y) :
    (j = i ∧ y = x) ∨ (j ≠ i ∧ l[j]? = some y) := by
  by_cases hij : i = j
  · subst hij
    rw [List.getElem?_set_self'] at h
    obtain ⟨-, -, rfl⟩ := Option.map_eq_some_iff.1 h
    exact .inl ⟨rfl, rfl⟩
  · rw [List.getElem?_set_ne hij] at h
    exact .inr ⟨Ne.symm hij, h⟩

namespace Locked

theorem wake {s : State} (h : Locked s) {i : Nat} {pc : CallerPc} (hpc : s.wakeAll[i]? = some pc) :
    pc.holds = true ↔ s.shared.boundaryMutex = some (.caller i) := by
  obtain ⟨pc₀, hpc₀, rfl⟩ := State.wakeAll_getElem hpc
  rw [CallerPc.holds_wake]
  exact h.caller i pc₀ hpc₀

theorem callerStep {s : State} (h : Locked s) {i : Nat} {pc pc' : CallerPc} {sh : Shared}
    (hpc : s.callers[i]? = some pc) (hnext : callerNext (.caller i) s.shared pc = some (pc', sh)) :
    Locked { s with shared := sh, callers := s.callers.set i pc' } := by
  have hi := h.caller i pc hpc
  constructor
  · intro j pc₁ hj
    rcases getElem?_set_cases hj with ⟨rfl, rfl⟩ | ⟨hij, hj⟩
    · rcases callerNext_mutex hnext with ⟨hh, hm⟩ | ⟨-, hh, -, hm⟩ | ⟨-, hh, hm⟩
      · rw [hh, hm]
        exact hi
      · simp [hh, hm]
      · simp [hh, hm]
    · have hj' := h.caller j pc₁ hj
      rcases callerNext_mutex hnext with ⟨-, hm⟩ | ⟨-, -, hfree, hm⟩ | ⟨hh, -, hm⟩
      · rw [hm]
        exact hj'
      · rw [hfree] at hj'
        simpa [hm, Ne.symm hij] using hj'
      · rw [hi.1 hh] at hj'
        simpa [hm, Ne.symm hij] using hj'
  · have hw := h.worker
    rcases callerNext_mutex hnext with ⟨-, hm⟩ | ⟨-, -, hfree, hm⟩ | ⟨hh, -, hm⟩
    · rw [hm]
      exact hw
    · rw [hfree] at hw
      simpa [hm] using hw
    · rw [hi.1 hh] at hw
      simpa [hm] using hw

theorem workerStep {P : Platform} {s : State} (h : Locked s) {pc : WorkerPc} {sh : Shared}
    (hnext : workerNext P s.shared s.worker = some (pc, sh)) : Locked { s with shared := sh, worker := pc } := by
  have hw := h.worker
  constructor
  · intro i pc₁ hi
    have hi' := h.caller i pc₁ hi
    rcases workerNext_mutex hnext with ⟨-, hm⟩ | ⟨-, -, hfree, hm⟩ | ⟨hh, -, hm⟩
    · rw [hm]
      exact hi'
    · rw [hfree] at hi'
      simpa [hm] using hi'
    · rw [hw.1 hh] at hi'
      simpa [hm] using hi'
  · rcases workerNext_mutex hnext with ⟨hh, hm⟩ | ⟨-, hh, -, hm⟩ | ⟨-, hh, hm⟩
    · rw [hh, hm]
      exact hw
    · simp [hh, hm]
    · simp [hh, hm]

theorem step {P : Platform} {E : Env Op Op.Answer World} {s s' : State} {l : Option Op} (h : Locked s)
    (hs : Step P E s l s') : Locked s' := by
  cases hs with
  | caller _ hpc hnext => exact h.callerStep hpc hnext
  | worker hnext => exact h.workerStep hnext
  | gateNotify hpc =>
    have hw := h.worker
    rw [hpc] at hw
    exact ⟨fun i pc hi => h.wake hi, hw⟩
  | request hask _ =>
    refine ⟨fun i pc hi => ?_, ?_⟩
    · rw [Shared.boundaryMutex_request]
      exact h.caller i pc hi
    · rw [Shared.boundaryMutex_request, hask.holds]
      exact h.worker
  | callStop _ _ => exact ⟨h.caller, h.worker⟩
  | storeFlag _ => exact ⟨h.caller, h.worker⟩
  | notifyWake _ => exact ⟨h.caller, h.worker⟩
  | notifyBoundary _ => exact ⟨fun i pc hi => h.wake hi, h.worker⟩
  | join _ _ => exact ⟨h.caller, h.worker⟩

theorem initial (P : Platform) (n : Nat) : Locked (initial P n) := by
  constructor
  · intro i pc hi
    obtain ⟨-, rfl⟩ := List.mem_replicate.1 (List.mem_of_getElem? hi)
    simp [CallerPc.holds, Cupti.initial]
  · simp [WorkerPc.holds, Cupti.initial]

theorem reachable {P : Platform} {E : Env Op Op.Answer World} {C : State → Prop} {n : Nat} {s : State}
    (h : Reachable P E C n s) : Locked s := by
  induction h with
  | initial => exact initial P n
  | step _ hs _ ih => exact ih.step hs

/-- Two callers do not hold the mutex at once. -/
theorem caller_unique {s : State} (h : Locked s) {i j : Nat} {pc pc' : CallerPc} (hi : s.callers[i]? = some pc)
    (hj : s.callers[j]? = some pc') (hpc : pc.holds = true) (hpc' : pc'.holds = true) : i = j := by
  have howner := (h.caller i pc hi).1 hpc
  rw [(h.caller j pc' hj).1 hpc'] at howner
  exact (Owner.caller.inj (Option.some.inj howner)).symm

/-- A caller and the worker do not hold the mutex at once. -/
theorem caller_not_worker {s : State} (h : Locked s) {i : Nat} {pc : CallerPc} (hi : s.callers[i]? = some pc)
    (hpc : pc.holds = true) : s.worker.holds = false := by
  rw [Bool.eq_false_iff]
  intro hworker
  have howner := (h.caller i pc hi).1 hpc
  rw [h.worker.1 hworker] at howner
  cases howner

end Locked

/-! ### Behind the gate -/

/-- The worker has seen `active_requests == 0` and still owns the mutex. -/
def WorkerPc.pastGate : WorkerPc → Bool
  | .gateRotate | .gateClear | .rotating _ => true
  | _ => false

/-- The device work of an iteration outside the gate switches no event-group set. -/
def WorkerPc.CalmWork : WorkerPc → Prop
  | .sampling p => p.Uses Calm
  | .reporting p => p.Uses Calm
  | .closing p => p.Uses Calm
  | _ => True

structure Gated (s : State) : Prop where
  idle : s.worker.pastGate = true → s.shared.activeRequests = 0
  calm : s.worker.CalmWork

private theorem WorkerPc.holds_of_pastGate {pc : WorkerPc} (h : pc.pastGate = true) : pc.holds = true := by
  cases pc <;> simp_all [pastGate, holds]

/-- A caller that does not own the mutex leaves `active_requests` alone. -/
theorem callerNext_active {me : Owner} {sh sh' : Shared} {pc pc' : CallerPc}
    (h : callerNext me sh pc = some (pc', sh')) (hpc : pc.holds = false) :
    sh'.activeRequests = sh.activeRequests := by
  cases pc <;> grind -ring -linarith [callerNext, CallerPc.holds, Shared.lock, Shared.unlock]

theorem workerNext_active {P : Platform} {sh sh' : Shared} {pc pc' : WorkerPc}
    (h : workerNext P sh pc = some (pc', sh')) :
    sh'.activeRequests = sh.activeRequests ∧ (pc'.pastGate = true → pc.pastGate = false → sh.activeRequests = 0) := by
  revert h
  fun_cases workerNext P sh pc <;> grind -ring -linarith [WorkerPc.pastGate, Shared.lock, Shared.unlock]

private theorem workerNext_calmWork {P : Platform} {sh sh' : Shared} {pc pc' : WorkerPc}
    (h : workerNext P sh pc = some (pc', sh')) : pc'.CalmWork := by
  have hs : (sample P : Routine Empty Unit).Uses Calm := sample_calm P
  have hr : (report : Routine Empty Unit).Uses Calm := calm_of_steady report_steady
  have hl : (lastReport : Routine Empty Unit).Uses Calm := calm_of_steady lastReport_steady
  revert h
  fun_cases workerNext P sh pc <;> grind -ring -linarith [WorkerPc.CalmWork]

private theorem WorkerPc.Asks.calmWork {pc : WorkerPc} {o : Op} {k : o.Answer → WorkerPc} (h : pc.Asks o k)
    (hpc : pc.CalmWork) (r : o.Answer) : (k r).CalmWork := by
  cases h with
  | starting => trivial
  | sampling => exact hpc.2 r
  | rotating => trivial
  | reporting => exact hpc.2 r
  | closing => exact hpc.2 r

theorem WorkerPc.Asks.pastGate {pc : WorkerPc} {o : Op} {k : o.Answer → WorkerPc} (h : pc.Asks o k) (r : o.Answer) :
    (k r).pastGate = pc.pastGate := by
  cases h <;> rfl

theorem Gated.step {P : Platform} {E : Env Op Op.Answer World} {s s' : State} {l : Option Op} (h : Gated s)
    (hlock : Locked s) (hs : Step P E s l s') : Gated s' := by
  cases hs with
  | @caller i pc pc' sh _ hpc hnext =>
    refine ⟨fun hw => ?_, h.calm⟩
    have howner := hlock.worker.1 (WorkerPc.holds_of_pastGate hw)
    have hpc' : pc.holds = false := by
      rw [Bool.eq_false_iff]
      intro hh
      have := (hlock.caller i pc hpc).1 hh
      rw [howner] at this
      cases this
    show sh.activeRequests = 0
    rw [callerNext_active hnext hpc']
    exact h.idle hw
  | @worker pc sh hnext =>
    obtain ⟨hactive, hgate⟩ := workerNext_active hnext
    refine ⟨fun hw => ?_, workerNext_calmWork hnext⟩
    show sh.activeRequests = 0
    rw [hactive]
    cases hpast : s.worker.pastGate with
    | false => exact hgate hw hpast
    | true => exact h.idle hpast
  | gateNotify hpc => exact ⟨fun hw => (nomatch hw), trivial⟩
  | request hask _ =>
    refine ⟨fun hw => ?_, hask.calmWork h.calm _⟩
    rw [Shared.activeRequests_request]
    exact h.idle (by rwa [hask.pastGate] at hw)
  | callStop _ _ => exact ⟨h.idle, h.calm⟩
  | storeFlag _ => exact ⟨h.idle, h.calm⟩
  | notifyWake _ => exact ⟨h.idle, h.calm⟩
  | notifyBoundary _ => exact ⟨h.idle, h.calm⟩
  | join _ _ => exact ⟨h.idle, h.calm⟩

theorem Gated.reachable {P : Platform} {E : Env Op Op.Answer World} {C : State → Prop} {n : Nat} {s : State}
    (h : Reachable P E C n s) : Gated s := by
  induction h with
  | initial => exact ⟨fun hw => (nomatch hw), trivial⟩
  | step hr hs _ ih => exact ih.step (Locked.reachable hr) hs

/-- A request that switches an event-group set. -/
def Switches : Op → Prop
  | .eventGroupSetEnable _ _ | .eventGroupSetDisable _ _ => True
  | _ => False

private theorem Calm.not_switches {o : Op} (h : Calm o) : ¬ Switches o := by
  cases o <;> simp_all [Calm, Switches]

/-- After `start`, only the device loop of the rotation switches event-group sets. -/
theorem Gated.pastGate_of_switches {s : State} (h : Gated s) (hstart : s.worker.Started) {o : Op}
    {k : o.Answer → WorkerPc} (hask : s.worker.Asks o k) (ho : Switches o) : s.worker.pastGate = true := by
  have hcalm := h.calm
  generalize s.worker = pc at hask hcalm hstart
  cases hask with
  | starting => exact hstart.elim
  | sampling => exact absurd ho hcalm.1.not_switches
  | rotating => rfl
  | reporting => exact absurd ho hcalm.1.not_switches
  | closing => exact absurd ho hcalm.1.not_switches

/-! ### Counting requests -/

theorem Step.notCalled {P : Platform} {E : Env Op Op.Answer World} {s s' : State} {l : Option Op}
    (hs : Step P E s l s') (h : s'.stopper = .notCalled) : s.stopper = .notCalled := by
  cases hs <;> first | exact h | assumption | cases h

/-- The request of the caller has begun and not ended: from its increment of `active_requests` to its decrement. -/
def CallerPc.outstanding : CallerPc → Bool
  | .beginNotify | .beginUnlock => true
  | .serving begun | .endLock begun | .endLoad begun | .endStore begun _ => begun
  | _ => false

/-- The begin of the request was refused because of a stop. -/
def CallerPc.refused : CallerPc → Bool
  | .beginRefuse => true
  | .serving begun | .endLock begun | .endLoad begun | .endStore begun _ => !begun
  | _ => false

def State.outstanding (s : State) : Nat := s.callers.countP CallerPc.outstanding

/-- The 32-bit counter can hold the number of outstanding requests. -/
def FewOutstanding (s : State) : Prop := s.outstanding < 2 ^ 32

/-- The value a caller is about to decrement is the value of the counter. -/
def CallerPc.Current (sh : Shared) : CallerPc → Prop
  | .endStore _ current => current = sh.activeRequests ∧ current ≠ 0
  | _ => True

structure Counted (s : State) : Prop where
  running : s.shared.stopRequested = false
  accepted : ∀ (i : Nat) (pc : CallerPc), s.callers[i]? = some pc → pc.refused = false
  current : ∀ (i : Nat) (pc : CallerPc), s.callers[i]? = some pc → pc.Current s.shared
  count : s.shared.activeRequests.toNat = s.outstanding

@[simp] theorem CallerPc.outstanding_wake (pc : CallerPc) : pc.wake.outstanding = pc.outstanding := by
  cases pc <;> rfl

@[simp] theorem CallerPc.refused_wake (pc : CallerPc) : pc.wake.refused = pc.refused := by
  cases pc <;> rfl

private theorem CallerPc.current_wake {sh : Shared} {pc : CallerPc} (h : pc.Current sh) : pc.wake.Current sh := by
  cases pc <;> exact h

/-- Without the mutex in hand no caller is about to decrement. -/
theorem CallerPc.current_of_not_holds {sh : Shared} {pc : CallerPc} (h : pc.holds = false) : pc.Current sh := by
  cases pc <;> simp_all [holds, Current]

private theorem CallerPc.current_congr {sh sh' : Shared} (h : sh'.activeRequests = sh.activeRequests) (pc : CallerPc) :
    pc.Current sh' ↔ pc.Current sh := by
  cases pc <;> simp [Current, h]

private theorem callerNext_running {me : Owner} {sh sh' : Shared} {pc pc' : CallerPc}
    (h : callerNext me sh pc = some (pc', sh')) (hrun : sh.stopRequested = false) (hpc : pc.refused = false) :
    sh'.stopRequested = false ∧ pc'.refused = false := by
  cases pc <;> grind -ring -linarith [callerNext, CallerPc.refused, Shared.lock, Shared.unlock]

/-- What a step does to the counter, as long as an outstanding request finds it positive. -/
theorem callerNext_count {me : Owner} {sh sh' : Shared} {pc pc' : CallerPc}
    (h : callerNext me sh pc = some (pc', sh')) (hpc : pc.refused = false)
    (hcur : pc.Current sh) (hpos : pc.outstanding = true → sh.activeRequests ≠ 0) :
    pc'.Current sh' ∧
      ((pc'.outstanding = pc.outstanding ∧ sh'.activeRequests = sh.activeRequests) ∨
        (pc.outstanding = false ∧ pc'.outstanding = true ∧ sh'.activeRequests = sh.activeRequests + 1) ∨
        (pc.outstanding = true ∧ pc'.outstanding = false ∧ sh'.activeRequests = sh.activeRequests - 1)) := by
  cases pc <;>
    grind -ring -linarith [callerNext, CallerPc.outstanding, CallerPc.refused, CallerPc.Current, Shared.lock,
      Shared.unlock]

private theorem workerNext_running {P : Platform} {sh sh' : Shared} {pc pc' : WorkerPc}
    (h : workerNext P sh pc = some (pc', sh')) (hrun : sh.stopRequested = false) : sh'.stopRequested = false := by
  revert h
  fun_cases workerNext P sh pc <;> grind -ring -linarith [Shared.lock, Shared.unlock]

private theorem State.outstanding_wakeAll (s : State) : s.wakeAll.countP CallerPc.outstanding = s.outstanding := by
  simp [State.wakeAll, State.outstanding, Function.comp_def]

namespace Counted

theorem wakeAll {s : State} (h : Counted s) {pc : WorkerPc} {stopper : StopPc} :
    Counted { s with worker := pc, stopper := stopper, callers := s.wakeAll } := by
  refine ⟨h.running, fun i pc hi => ?_, fun i pc hi => ?_, ?_⟩
  · obtain ⟨pc₀, hpc₀, rfl⟩ := State.wakeAll_getElem hi
    rw [CallerPc.refused_wake]
    exact h.accepted i pc₀ hpc₀
  · obtain ⟨pc₀, hpc₀, rfl⟩ := State.wakeAll_getElem hi
    exact CallerPc.current_wake (h.current i pc₀ hpc₀)
  · show s.shared.activeRequests.toNat = s.wakeAll.countP CallerPc.outstanding
    rw [State.outstanding_wakeAll]
    exact h.count

theorem pos {s : State} (h : Counted s) {i : Nat} {pc : CallerPc} (hpc : s.callers[i]? = some pc)
    (hout : pc.outstanding = true) : 1 ≤ s.shared.activeRequests.toNat := by
  rw [h.count]
  exact List.one_le_countP_iff.2 ⟨pc, List.mem_of_getElem? hpc, hout⟩

theorem callerStep {s : State} (h : Counted s) (hlock : Locked s) {i : Nat} {pc pc' : CallerPc} {sh : Shared}
    (hpc : s.callers[i]? = some pc) (hnext : callerNext (.caller i) s.shared pc = some (pc', sh))
    (hfew : FewOutstanding { s with shared := sh, callers := s.callers.set i pc' }) :
    Counted { s with shared := sh, callers := s.callers.set i pc' } := by
  obtain ⟨hlt, hget⟩ := List.getElem?_eq_some_iff.1 hpc
  have hpos : pc.outstanding = true → s.shared.activeRequests ≠ 0 := by
    intro hout hzero
    have := h.pos hpc hout
    rw [hzero] at this
    exact absurd this (by decide)
  obtain ⟨hrun, hacc⟩ := callerNext_running hnext h.running (h.accepted i pc hpc)
  obtain ⟨hcur, hcount⟩ := callerNext_count hnext (h.accepted i pc hpc) (h.current i pc hpc) hpos
  have houtstanding : State.outstanding { s with shared := sh, callers := s.callers.set i pc' }
      = s.outstanding - (if pc.outstanding then 1 else 0) + (if pc'.outstanding then 1 else 0) := by
    unfold State.outstanding
    rw [List.countP_set hlt, hget]
  refine ⟨hrun, fun j pc₁ hj => ?_, fun j pc₁ hj => ?_, ?_⟩
  · rcases getElem?_set_cases hj with ⟨-, rfl⟩ | ⟨-, hj⟩
    · exact hacc
    · exact h.accepted j pc₁ hj
  · rcases getElem?_set_cases hj with ⟨-, rfl⟩ | ⟨hij, hj⟩
    · exact hcur
    · cases hh : pc₁.holds with
      | false => exact CallerPc.current_of_not_holds hh
      | true =>
        -- the other caller owns the mutex, so this one left the counter alone
        have hne : pc.holds = false := by
          rw [Bool.eq_false_iff]
          intro hi
          have := (hlock.caller i pc hpc).1 hi
          rw [(hlock.caller j pc₁ hj).1 hh] at this
          exact hij (Owner.caller.inj (Option.some.inj this))
        exact (CallerPc.current_congr (callerNext_active hnext hne) pc₁).2 (h.current j pc₁ hj)
  · have hc := h.count
    show sh.activeRequests.toNat = _
    unfold FewOutstanding at hfew
    rw [houtstanding] at hfew ⊢
    rcases hcount with ⟨hout, hact⟩ | ⟨hout, hout', hact⟩ | ⟨hout, hout', hact⟩
    · have hp := h.pos hpc
      rw [hact, hc, hout]
      cases ho : pc.outstanding with
      | false => simp
      | true =>
        have := hp ho
        simp only [if_true]
        omega
    · simp only [hout, hout', if_true, Bool.false_eq_true, if_false] at hfew ⊢
      rw [hact, UInt32.toNat_add, hc]
      exact Nat.mod_eq_of_lt hfew
    · have hp := h.pos hpc hout
      simp only [hout, hout', if_true, Bool.false_eq_true, if_false]
      rw [hact, UInt32.toNat_sub_of_le _ _ hp, hc]
      rfl

theorem step {P : Platform} {E : Env Op Op.Answer World} {s s' : State} {l : Option Op} (h : Counted s)
    (hlock : Locked s) (hs : Step P E s l s') (hfew : FewOutstanding s') (hstop : s'.stopper = .notCalled) :
    Counted s' := by
  cases hs with
  | caller _ hpc hnext => exact h.callerStep hlock hpc hnext hfew
  | @worker pc sh hnext =>
    have hact := (workerNext_active hnext).1
    refine ⟨workerNext_running hnext h.running, h.accepted, fun i pc₁ hi => ?_, ?_⟩
    · exact (CallerPc.current_congr hact pc₁).2 (h.current i pc₁ hi)
    · show sh.activeRequests.toNat = s.outstanding
      rw [hact]
      exact h.count
  | gateNotify _ => exact h.wakeAll
  | @request o k r w hask _ =>
    refine ⟨?_, h.accepted, fun i pc₁ hi => ?_, ?_⟩
    · exact (Shared.stopRequested_request s.shared o).trans h.running
    · exact (CallerPc.current_congr (Shared.activeRequests_request s.shared o) pc₁).2 (h.current i pc₁ hi)
    · show (s.shared.request o).activeRequests.toNat = s.outstanding
      rw [Shared.activeRequests_request]
      exact h.count
  | callStop _ _ => cases hstop
  | storeFlag _ => cases hstop
  | notifyWake _ => cases hstop
  | notifyBoundary _ => cases hstop
  | join _ _ => cases hstop

theorem initial (P : Platform) (n : Nat) : Counted (initial P n) := by
  have hidle : ∀ (i : Nat) (pc : CallerPc), (Cupti.initial P n).callers[i]? = some pc → pc = .idle := by
    intro i pc hi
    exact (List.mem_replicate.1 (List.mem_of_getElem? hi)).2
  refine ⟨rfl, fun i pc hi => ?_, fun i pc hi => ?_, ?_⟩
  · rw [hidle i pc hi]
    rfl
  · rw [hidle i pc hi]
    trivial
  · simp [Cupti.initial, State.outstanding, CallerPc.outstanding, List.countP_replicate]

theorem reachable {P : Platform} {E : Env Op Op.Answer World} {n : Nat} {s : State}
    (h : Reachable P E FewOutstanding n s) (hstop : s.stopper = .notCalled) : Counted s := by
  induction h with
  | initial => exact initial P n
  | step hr hs hfew ih => exact (ih (hs.notCalled hstop)).step (Locked.reachable hr) hs hfew hstop

end Counted

/-- Between `start` and `stop` no event-group set is switched while `active_requests` is positive.  While fewer than
2³² requests are outstanding, no begin is refused, and `active_requests` is the number of outstanding requests. -/
theorem switching_idle_and_requests_counted (P : Platform) (n : Nat) {s : State}
    (h : Reachable P env (fun _ => True) n s) (hstart : s.worker.Started) (hstop : s.stopper = .notCalled) :
    (∀ o s', Step P env s (some o) s' → Switches o → s.shared.activeRequests = 0) ∧
      (Reachable P env FewOutstanding n s →
        s.shared.activeRequests.toNat = s.outstanding ∧
          ∀ (i : Nat) (begun : Bool), s.callers[i]? = some (.serving begun) →
            begun = true ∧ 1 ≤ s.shared.activeRequests) := by
  have hgate := Gated.reachable h
  refine ⟨fun o s' hs ho => ?_, fun hfew => ?_⟩
  · cases hs with
    | request hask _ => exact hgate.idle (hgate.pastGate_of_switches hstart hask ho)
  · have hcount := Counted.reachable hfew hstop
    refine ⟨hcount.count, fun i begun hi => ?_⟩
    have hbegun : begun = true := by simpa [CallerPc.refused] using hcount.accepted i _ hi
    exact ⟨hbegun, hcount.pos hi hbegun⟩

/-! ### A run with every request being served -/

/-- What `initialize` leaves on one device where everything succeeds. -/
def startWork : Routine Empty Bool × (World × Shared) :=
  (initializeImpl barePlatform).run (onShared (respond success)) ({}, {})

private theorem startWork_eq : startWork = (.ret true, startWork.2.1, {}) := rfl

/-- After `start`, the first `k` of `n` callers have begun a request. -/
def serving (n k : Nat) : State where
  shared := { activeRequests := UInt32.ofNat k }
  callers := List.replicate k (.serving true) ++ List.replicate (n - k) .idle
  worker := .top
  stopper := .notCalled
  world := startWork.2.1

/-- A begin that finds no rotation requested and the mutex free. -/
theorem callerRun_begin (me : Owner) (a : UInt32) :
    ∃ m, callerRun me m (.idle, { activeRequests := a }) = some (.serving true, { activeRequests := a + 1 }) := by
  by_cases ha : a = 0
  · exact ⟨8, by simp [callerRun, callerNext, Shared.lock, Shared.unlock, ha]⟩
  · exact ⟨7, by simp [callerRun, callerNext, Shared.lock, Shared.unlock, ha]⟩

private theorem replicate_set_next {α : Type} (x y : α) {k n : Nat} (h : k < n) :
    (List.replicate k x ++ List.replicate (n - k) y).set k x
      = List.replicate (k + 1) x ++ List.replicate (n - (k + 1)) y := by
  obtain ⟨j, rfl⟩ : ∃ j, n = k + 1 + j := ⟨n - (k + 1), by omega⟩
  have hleft : k + 1 + j - k = j + 1 := by omega
  have hright : k + 1 + j - (k + 1) = j := by omega
  rw [hleft, hright, List.set_append_right k x (by simp), List.length_replicate, Nat.sub_self, List.replicate_succ,
    List.set_cons_zero, List.replicate_succ', List.append_assoc, List.singleton_append]

theorem length_serving {n k : Nat} (h : k ≤ n) : (serving n k).callers.length = n := by
  simp only [serving, List.length_append, List.length_replicate]
  omega

/-- The next caller to begin is idle. -/
theorem serving_idle {n k : Nat} (h : k < n) : (serving n k).callers[k]? = some .idle := by
  have hpos : 0 < n - k := by omega
  simp [serving, hpos]

theorem serving_set {n k : Nat} (h : k < n) :
    (serving n k).callers.set k (.serving true) = (serving n (k + 1)).callers :=
  replicate_set_next _ _ h

theorem reachable_serving {E : Env Op Op.Answer World}
    (hE : ∀ w o, E w o (respond success w o).1 (respond success w o).2) {C : State → Prop} {n : Nat}
    (hC : ∀ s : State, s.callers.length = n → C s) {k : Nat} (hk : k ≤ n) :
    Reachable barePlatform E C n (serving n k) := by
  induction k with
  | zero =>
    have hlen : (initial barePlatform n).callers.length = n := List.length_replicate
    have hC' : ∀ s : State, s.callers = (initial barePlatform n).callers → C s := by
      intro s hs
      exact hC s (by rw [hs]; exact hlen)
    have hwork := Reachable.initial.deviceWork (fun _ _ => .starting) hE rfl hC' startWork_eq
    exact hwork.step (.worker rfl) (hC _ hlen)
  | succ k ih =>
    obtain ⟨m, hm⟩ := callerRun_begin (.caller k) (UInt32.ofNat k)
    have hbegin :=
      (ih (by omega)).callerRun trivial (fun s hs => hC s (hs.trans (length_serving (by omega)))) (serving_idle hk) hm
    have hnext : UInt32.ofNat k + 1 = UInt32.ofNat (k + 1) := (UInt32.ofNat_add k 1).symm
    rw [serving_set hk, hnext] at hbegin
    exact hbegin

/-- With 2³² callers, all of them being served, the counter is back at zero. -/
theorem wrapped_counter :
    ∃ s, Reachable barePlatform env (fun _ => True) (2 ^ 32) s ∧ s.worker.Started ∧ s.stopper = .notCalled ∧
      s.callers = List.replicate (2 ^ 32) (.serving true) ∧ s.shared.activeRequests = 0 := by
  refine ⟨serving (2 ^ 32) (2 ^ 32), reachable_serving (env_respond success) (fun _ _ => trivial) (Nat.le_refl _),
    trivial, rfl, ?_, ?_⟩
  · show List.replicate (2 ^ 32) (CallerPc.serving true) ++ List.replicate (2 ^ 32 - 2 ^ 32) .idle = _
    rw [Nat.sub_self, List.replicate_zero, List.append_nil]
  · show UInt32.ofNat (2 ^ 32) = 0
    decide

/-- A single caller has few requests outstanding. -/
theorem few_of_single {s : State} (h : s.callers.length = 1) : FewOutstanding s := by
  have hle : s.outstanding ≤ s.callers.length := List.countP_le_length
  unfold FewOutstanding
  omega

/-- The one request of a caller is over, and the worker is behind the gate of the rotation it has asked for. -/
def requestOver : State where
  shared := { boundaryMutex := some .worker }
  callers := [.idle]
  worker := .rotating (rotate barePlatform)
  stopper := .notCalled
  world := startWork.2.1

private theorem reachable_requestOver {E : Env Op Op.Answer World}
    (hE : ∀ w o, E w o (respond success w o).1 (respond success w o).2) {C : State → Prop}
    (hC : ∀ s : State, s.callers.length = 1 → C s) : Reachable barePlatform E C 1 requestOver := by
  have hend :
      callerRun (.caller 0) 7 (.serving true, { activeRequests := 1 }) = some (.idle, { rotateRequested := true }) :=
    rfl
  have hgate : workerRun barePlatform 9 (.top, { rotateRequested := true })
      = some (.rotating (rotate barePlatform), { boundaryMutex := some .worker }) := rfl
  have hended := (reachable_serving hE hC (Nat.le_refl 1)).callerRun (i := 0) trivial hC rfl hend
  -- the last end has asked for a rotation, and the worker takes it up
  have hgated := hended.workerRun (fun s hs => hC s (by rw [hs]; rfl)) hgate
  exact hgated

/-- Everything succeeds, and the worker stops in front of its first switch. -/
def upToSwitch (w : World × Shared) : (o : Op) → Option (o.Answer × (World × Shared))
  | .eventGroupSetEnable _ _ | .eventGroupSetDisable _ _ => none
  | o => onShared (respond success) w o

private theorem sharedEnv_upToSwitch (c : World × Shared) (o : Op) (r : o.Answer) (c' : World × Shared)
    (h : upToSwitch c o = some (r, c')) : sharedEnv env c o r c' := by
  cases o <;> first | cases h; done | exact sharedEnv_onShared (env_respond success) c _ r c' h

/-- One caller is served; behind the gate of the rotation after it the first set is switched off. -/
theorem switching_idle_and_requests_counted_one :
    ((serving 1 1).shared.activeRequests.toNat = (serving 1 1).outstanding ∧ (serving 1 1).outstanding = 1) ∧
      ∃ s s', Reachable barePlatform env (fun _ => True) 1 s ∧
        Step barePlatform env s (some (.eventGroupSetDisable 0 0)) s' ∧ s.shared.activeRequests = 0 := by
  have hserved := switching_idle_and_requests_counted barePlatform 1
    (reachable_serving (env_respond success) (fun _ _ => trivial) (Nat.le_refl 1)) trivial rfl
  refine ⟨⟨(hserved.2 (reachable_serving (env_respond success) (fun _ => few_of_single) (Nat.le_refl 1))).1, rfl⟩, ?_⟩
  have hsteps := Prog.steps_run sharedEnv_upToSwitch (rotate barePlatform : Routine Empty Unit)
    (startWork.2.1, requestOver.shared)
  obtain ⟨k, c, hrun⟩ : ∃ k c, (rotate barePlatform : Routine Empty Unit).run upToSwitch
      (startWork.2.1, requestOver.shared) = (.call (.eventGroupSetDisable 0 0) k, c) := ⟨_, _, rfl⟩
  rw [hrun] at hsteps
  -- the rotation itself, up to the request that switches
  have hover := reachable_requestOver (C := fun _ => True) (env_respond success) fun _ _ => trivial
  have hreach := hover.deviceSteps (fun _ _ => .rotating) rfl (fun _ _ => trivial) hsteps
  have hstep : Step barePlatform env
      { requestOver with worker := .rotating (.call (.eventGroupSetDisable 0 0) k), world := c.1, shared := c.2 }
      (some (.eventGroupSetDisable 0 0)) _ := .request .rotating (env_respond success c.1 (.eventGroupSetDisable 0 0))
  have hidle := (switching_idle_and_requests_counted barePlatform 1 hreach trivial rfl).1 _ _ hstep trivial
  exact ⟨_, _, hreach, hstep, hidle⟩

end CmpUnlocker.Cupti
