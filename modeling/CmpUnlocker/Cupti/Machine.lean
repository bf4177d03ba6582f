import CmpUnlocker.Cupti.Collect

/-!
# The interleaving of the collector

The threads around the collector: the thread that runs `start`, the worker thread that runs `run`, any number of
callers of `request_begin` and `request_end`, and the thread that calls `stop`.  One step is one load or store of a
shared flag, one acquisition or release of `boundary_mutex`, one evaluation of a wait predicate, one notification,
or one request of the device work; the steps of the threads interleave freely, and memory is sequentially
consistent.

The wait of `run` on `wake` has a time limit, so it may end at any moment, and `wake.notify_all` need not be
tracked.  The wait of `request_begin` on `boundary_changed` ends by a notification or spuriously, then takes
the mutex again and tests its predicate.
-/

namespace CmpUnlocker.Cupti

open Interaction

inductive Owner
  | caller (i : Nat)
  | worker
  deriving DecidableEq, Repr

/-- The members of `impl` that several threads touch. -/
structure Shared where
  activeRequests : UInt32 := 0
  rotateRequested : Bool := false
  stopRequested : Bool := false
  boundaryMutex : Option Owner := none
  deriving DecidableEq, Repr

/-- Where a caller is.  `begun` says whether its `request_begin` counted the request. -/
inductive CallerPc
  | idle
  | beginLock
  | beginLoadActive
  | beginLoadRotate
  | beginNotifyWake
  | waitTest
  | waitBlock
  | waitBlocked
  | waitWoken
  | beginLoadStop
  | beginAdd
  | beginNotify
  | beginUnlock
  | beginRefuse
  | serving (begun : Bool)
  | endLock (begun : Bool)
  | endLoad (begun : Bool)
  | endStore (begun : Bool) (current : UInt32)
  | endRotate
  | endNotify
  | endUnlock
  deriving DecidableEq, Repr

def Shared.lock (sh : Shared) (me : Owner) : Shared := { sh with boundaryMutex := some me }

def Shared.unlock (sh : Shared) : Shared := { sh with boundaryMutex := none }

/-- What a request of the device work does to the shared flags. -/
def Shared.request (sh : Shared) : Op → Shared
  | .requestRotate => { sh with rotateRequested := true }
  | _ => sh

/-- The next step of a caller, `none` while the mutex it needs is taken. -/
def callerNext (me : Owner) (sh : Shared) : CallerPc → Option (CallerPc × Shared)
  | .idle => some (.beginLock, sh)
  | .beginLock => if sh.boundaryMutex = none then some (.beginLoadActive, sh.lock me) else none
  | .beginLoadActive => some (if sh.activeRequests = 0 then .beginLoadRotate else .beginLoadStop, sh)
  | .beginLoadRotate => some (if sh.rotateRequested then .beginNotifyWake else .beginLoadStop, sh)
  | .beginNotifyWake => some (.waitTest, sh)
  | .waitTest => some (if sh.stopRequested || !sh.rotateRequested then .beginLoadStop else .waitBlock, sh)
  | .waitBlock => some (.waitBlocked, sh.unlock)
  | .waitBlocked => some (.waitWoken, sh)
  | .waitWoken => if sh.boundaryMutex = none then some (.waitTest, sh.lock me) else none
  | .beginLoadStop => some (if sh.stopRequested then .beginRefuse else .beginAdd, sh)
  | .beginAdd => some (.beginNotify, { sh with activeRequests := sh.activeRequests + 1 })
  | .beginNotify => some (.beginUnlock, sh)
  | .beginUnlock => some (.serving true, sh.unlock)
  | .beginRefuse => some (.serving false, sh.unlock)
  | .serving begun => some (.endLock begun, sh)
  | .endLock begun => if sh.boundaryMutex = none then some (.endLoad begun, sh.lock me) else none
  | .endLoad begun => some (if sh.activeRequests = 0 then .endUnlock else .endStore begun sh.activeRequests, sh)
  | .endStore _ current =>
    some (if current = 1 then .endRotate else .endNotify, { sh with activeRequests := current - 1 })
  | .endRotate => some (.endNotify, { sh with rotateRequested := true })
  | .endNotify => some (.endUnlock, sh)
  | .endUnlock => some (.idle, sh.unlock)

/-- `boundary_changed.notify_all`. -/
def CallerPc.wake : CallerPc → CallerPc
  | .waitBlocked => .waitWoken
  | pc => pc

/-- Where the starting thread and then the worker are; the device work is what is left of its routine. -/
inductive WorkerPc
  | starting (p : Routine Empty Bool)
  | startFailed
  | top
  | waiting
  | checkStop
  | loadActive
  | sampling (p : Routine Empty Unit)
  | loadRotate
  | gateLock
  | gateActive
  | gateRotate
  | gateClear
  | rotating (p : Routine Empty Unit)
  | gateNotify
  | gateUnlock
  | reporting (p : Routine Empty Unit)
  | closing (p : Routine Empty Unit)
  | exited

/-- The next step of the worker outside its device work and its notification. -/
def workerNext (P : Platform) (sh : Shared) : WorkerPc → Option (WorkerPc × Shared)
  | .starting (.ret true) => some (.top, { sh with stopRequested := false })
  | .starting (.ret false) => some (.startFailed, sh)
  | .top => some (if sh.stopRequested then .closing lastReport else .waiting, sh)
  | .waiting => some (.checkStop, sh)
  | .checkStop => some (if sh.stopRequested then .closing lastReport else .loadActive, sh)
  | .loadActive => some (if sh.activeRequests ≠ 0 then .sampling (sample P) else .loadRotate, sh)
  | .sampling (.ret ()) => some (.reporting report, sh)
  | .loadRotate => some (if sh.rotateRequested then .gateLock else .reporting report, sh)
  | .gateLock => if sh.boundaryMutex = none then some (.gateActive, sh.lock .worker) else none
  | .gateActive => some (if sh.activeRequests ≠ 0 then .gateUnlock else .gateRotate, sh)
  | .gateRotate => some (if !sh.rotateRequested then .gateUnlock else .gateClear, sh)
  | .gateClear => some (.rotating (rotate P), { sh with rotateRequested := false })
  | .rotating (.ret ()) => some (.gateNotify, sh)
  | .gateUnlock => some (.reporting report, sh.unlock)
  | .reporting (.ret ()) => some (.top, sh)
  | .closing (.ret ()) => some (.exited, sh)
  | _ => none

/-- The device work left, one request away: the request, and the worker for each answer. -/
inductive WorkerPc.Asks : WorkerPc → (o : Op) → (o.Answer → WorkerPc) → Prop
  | starting {o : Op} {k : o.Answer → Routine Empty Bool} :
      Asks (.starting (.call o k)) o fun r => .starting (k r)
  | sampling {o : Op} {k : o.Answer → Routine Empty Unit} :
      Asks (.sampling (.call o k)) o fun r => .sampling (k r)
  | rotating {o : Op} {k : o.Answer → Routine Empty Unit} :
      Asks (.rotating (.call o k)) o fun r => .rotating (k r)
  | reporting {o : Op} {k : o.Answer → Routine Empty Unit} :
      Asks (.reporting (.call o k)) o fun r => .reporting (k r)
  | closing {o : Op} {k : o.Answer → Routine Empty Unit} :
      Asks (.closing (.call o k)) o fun r => .closing (k r)

/-- Where the thread that calls `stop` is. -/
inductive StopPc
  | notCalled
  | storeFlag
  | notifyWake
  | notifyBoundary
  | join
  | done
  deriving DecidableEq, Repr

structure State where
  shared : Shared
  callers : List CallerPc
  worker : WorkerPc
  stopper : StopPc
  world : World

/-- `start` has returned true. -/
def WorkerPc.Started : WorkerPc → Prop
  | .starting _ => False
  | .startFailed => False
  | _ => True

def State.wakeAll (s : State) : List CallerPc := s.callers.map CallerPc.wake

/-- One step of one thread, labelled with the request of the device work if it is one. -/
inductive Step (P : Platform) (E : Env Op Op.Answer World) : State → Option Op → State → Prop
  | caller {s : State} {i : Nat} {pc pc' : CallerPc} {sh : Shared} (hstart : s.worker.Started)
      (hpc : s.callers[i]? = some pc) (hnext : callerNext (.caller i) s.shared pc = some (pc', sh)) :
      Step P E s none { s with shared := sh, callers := s.callers.set i pc' }
  | worker {s : State} {pc : WorkerPc} {sh : Shared} (hnext : workerNext P s.shared s.worker = some (pc, sh)) :
      Step P E s none { s with shared := sh, worker := pc }
  | gateNotify {s : State} (hpc : s.worker = .gateNotify) :
      Step P E s none { s with worker := .gateUnlock, callers := s.wakeAll }
  | request {s : State} {o : Op} {k : o.Answer → WorkerPc} {r : o.Answer} {w : World}
      (hask : s.worker.Asks o k) (hanswer : E s.world o r w) :
      Step P E s (some o) { s with worker := k r, world := w, shared := s.shared.request o }
  | callStop {s : State} (hstart : s.worker.Started) (hpc : s.stopper = .notCalled) :
      Step P E s none { s with stopper := .storeFlag }
  | storeFlag {s : State} (hpc : s.stopper = .storeFlag) :
      Step P E s none { s with stopper := .notifyWake, shared := { s.shared with stopRequested := true } }
  | notifyWake {s : State} (hpc : s.stopper = .notifyWake) :
      Step P E s none { s with stopper := .notifyBoundary }
  | notifyBoundary {s : State} (hpc : s.stopper = .notifyBoundary) :
      Step P E s none { s with stopper := .join, callers := s.wakeAll }
  | join {s : State} (hpc : s.stopper = .join) (hworker : s.worker = .exited) :
      Step P E s none { s with stopper := .done }

/-- `n` callers, and `start` about to run `initialize`. -/
def initial (P : Platform) (n : Nat) : State where
  shared := {}
  callers := List.replicate n .idle
  worker := .starting (initializeImpl P)
  stopper := .notCalled
  world := {}

/-- The states of the runs with `n` callers, answers allowed by `E`, and every state after a step in `C`. -/
inductive Reachable (P : Platform) (E : Env Op Op.Answer World) (C : State → Prop) (n : Nat) : State → Prop
  | initial : Reachable P E C n (initial P n)
  | step {s s' : State} {l : Option Op} (h : Reachable P E C n s) (hs : Step P E s l s') (hC : C s') :
      Reachable P E C n s'

theorem Step.mono {P : Platform} {E E' : Env Op Op.Answer World} {s s' : State} {l : Option Op}
    (hE : ∀ w o r w', E w o r w' → E' w o r w') (h : Step P E s l s') : Step P E' s l s' := by
  cases h with
  | caller h₁ h₂ h₃ => exact .caller h₁ h₂ h₃
  | worker h₁ => exact .worker h₁
  | gateNotify h₁ => exact .gateNotify h₁
  | request h₁ h₂ => exact .request h₁ (hE _ _ _ _ h₂)
  | callStop h₁ h₂ => exact .callStop h₁ h₂
  | storeFlag h₁ => exact .storeFlag h₁
  | notifyWake h₁ => exact .notifyWake h₁
  | notifyBoundary h₁ => exact .notifyBoundary h₁
  | join h₁ h₂ => exact .join h₁ h₂

theorem Reachable.mono {P : Platform} {E E' : Env Op Op.Answer World} {C C' : State → Prop} {n : Nat} {s : State}
    (hE : ∀ w o r w', E w o r w' → E' w o r w') (hC : ∀ s, C s → C' s) (h : Reachable P E C n s) :
    Reachable P E' C' n s := by
  induction h with
  | initial => exact .initial
  | step _ hs hc ih => exact ih.step (hs.mono hE) (hC _ hc)

/-! ### Letting one thread run -/

/-- `m` steps of a caller, nobody else moving. -/
def callerRun (me : Owner) : Nat → CallerPc × Shared → Option (CallerPc × Shared)
  | 0, c => some c
  | m + 1, (pc, sh) => (callerNext me sh pc).bind (callerRun me m)

theorem Reachable.callerRun {P : Platform} {E : Env Op Op.Answer World} {C : State → Prop} {n : Nat} {s : State}
    {i m : Nat} {pc pc' : CallerPc} {sh : Shared} (h : Reachable P E C n s) (hstart : s.worker.Started)
    (hC : ∀ s' : State, s'.callers.length = s.callers.length → C s') (hpc : s.callers[i]? = some pc)
    (hrun : callerRun (.caller i) m (pc, s.shared) = some (pc', sh)) :
    Reachable P E C n { s with shared := sh, callers := s.callers.set i pc' } := by
  induction m generalizing s pc with
  | zero =>
    obtain ⟨hlt, rfl⟩ := List.getElem?_eq_some_iff.1 hpc
    cases hrun
    rw [List.set_getElem_self]
    exact h
  | succ m ih =>
    obtain ⟨⟨pc₁, sh₁⟩, hnext, hrest⟩ := Option.bind_eq_some_iff.1 hrun
    obtain ⟨hlt, -⟩ := List.getElem?_eq_some_iff.1 hpc
    have hstep := h.step (.caller hstart hpc hnext) (hC _ (List.length_set ..))
    have hC' : ∀ s' : State, s'.callers.length = (s.callers.set i pc₁).length → C s' := by
      intro s' hs'
      exact hC s' (hs'.trans (List.length_set ..))
    have hlast := ih hstep hstart hC' (List.getElem?_set_self hlt) hrest
    simpa only [List.set_set] using hlast

/-- `m` steps of the worker outside its device work, nobody else moving. -/
def workerRun (P : Platform) : Nat → WorkerPc × Shared → Option (WorkerPc × Shared)
  | 0, c => some c
  | m + 1, (pc, sh) => (workerNext P sh pc).bind (workerRun P m)

theorem Reachable.workerRun {P : Platform} {E : Env Op Op.Answer World} {C : State → Prop} {n m : Nat} {s : State}
    {pc : WorkerPc} {sh : Shared} (h : Reachable P E C n s) (hC : ∀ s' : State, s'.callers = s.callers → C s')
    (hrun : workerRun P m (s.worker, s.shared) = some (pc, sh)) :
    Reachable P E C n { s with shared := sh, worker := pc } := by
  induction m generalizing s with
  | zero =>
    cases hrun
    exact h
  | succ m ih =>
    obtain ⟨⟨pc₁, sh₁⟩, hnext, hrest⟩ := Option.bind_eq_some_iff.1 hrun
    have hstep := h.step (.worker hnext) (hC _ rfl)
    have hlast := ih hstep hC hrest
    exact hlast

/-- The requests of the device work, with what they do to the shared flags. -/
def sharedEnv (E : Env Op Op.Answer World) : Env Op Op.Answer (World × Shared) := fun c o r c' =>
  E c.1 o r c'.1 ∧ c'.2 = c.2.request o

/-- The worker makes requests of its device work, nobody else moving. -/
theorem Reachable.deviceSteps {P : Platform} {E : Env Op Op.Answer World} {C : State → Prop} {n : Nat} {s : State}
    {α : Type} {at_ : Routine Empty α → WorkerPc} (hask : ∀ o k, (at_ (.call o k)).Asks o fun r => at_ (k r))
    {p : Routine Empty α} (h : Reachable P E C n s) (hw : s.worker = at_ p)
    (hC : ∀ s' : State, s'.callers = s.callers → C s') {c : Routine Empty α × (World × Shared)}
    (hrun : Prog.Steps (sharedEnv E) (p, (s.world, s.shared)) c) :
    Reachable P E C n { s with worker := at_ c.1, world := c.2.1, shared := c.2.2 } := by
  induction hrun with
  | refl =>
    rw [← hw]
    exact h
  | tail _ hstep ih =>
    obtain ⟨hanswer, hshared⟩ := hstep
    have hnext := ih.step (.request (hask _ _) hanswer) (hC _ rfl)
    rw [hshared]
    exact hnext

/-- Answers to the requests, with what a request does to the shared flags. -/
def onShared (answer : World → (o : Op) → o.Answer × World) (w : World × Shared) (o : Op) :
    Option (o.Answer × (World × Shared)) :=
  some ((answer w.1 o).1, (answer w.1 o).2, w.2.request o)

theorem sharedEnv_onShared {E : Env Op Op.Answer World} {answer : World → (o : Op) → o.Answer × World}
    (hanswer : ∀ w o, E w o (answer w o).1 (answer w o).2) (c : World × Shared) (o : Op) (r : o.Answer)
    (c' : World × Shared) (h : onShared answer c o = some (r, c')) : sharedEnv E c o r c' := by
  cases h
  exact ⟨hanswer c.1 o, rfl⟩

/-- The worker makes all the requests left of its device work, nobody else moving. -/
theorem Reachable.deviceWork {P : Platform} {E : Env Op Op.Answer World} {C : State → Prop} {n : Nat} {s : State}
    {α : Type} {at_ : Routine Empty α → WorkerPc} (hask : ∀ o k, (at_ (.call o k)).Asks o fun r => at_ (k r))
    {answer : World → (o : Op) → o.Answer × World} (hanswer : ∀ w o, E w o (answer w o).1 (answer w o).2)
    {p p' : Routine Empty α} {w : World} {sh : Shared} (h : Reachable P E C n s) (hw : s.worker = at_ p)
    (hC : ∀ s' : State, s'.callers = s.callers → C s')
    (hrun : p.run (onShared answer) (s.world, s.shared) = (p', w, sh)) :
    Reachable P E C n { s with worker := at_ p', world := w, shared := sh } := by
  have hsteps := Prog.steps_run (sharedEnv_onShared hanswer) p (s.world, s.shared)
  rw [hrun] at hsteps
  have hwork := h.deviceSteps hask hw hC hsteps
  exact hwork

/-- No text and no scaling beyond those of the result codes: a platform to run the collector on. -/
def barePlatform : Platform where
  cuptiText _ := none
  cudaText _ := none
  scaled values _ _ := values.head?
  doubleText _ := none

/-- One device on which everything succeeds, except that `cuptiEventGroupSetDisable` returns `disable`. -/
def respond (disable : Code) (w : World) : (o : Op) → o.Answer × World
  | .cuInit | .cuDeviceGet _ | .cuDevicePrimaryCtxRetain _ | .cuCtxPushCurrent _ | .setContinuousMode _ => (success, w)
  | .eventGroupSetsDestroy _ _ | .setProfileAllDomainInstances _ => (success, w)
  | .eventGroupSetEnable d b => (success, w.setHw d b true)
  | .eventGroupSetDisable d b => (disable, if disable = success then w.setHw d b false else w)
  | .cuDeviceGetCount | .deviceGetNumEventDomains _ | .deviceGetNumMetrics _ | .metricGetIdFromName _ _ =>
    ((success, 1), w)
  | .getTimestamp | .eventGroupGetNumEvents _ | .eventGroupGetInstanceCount _ => ((success, 1), w)
  | .eventGroupGetEventDomainId _ | .eventDomainGetTotalInstanceCount _ _ => ((success, 1), w)
  | .eventDomainGetInstanceCount _ _ | .metricGetNumEvents _ | .metricGetValue _ _ _ _ _ => ((success, 1), w)
  | .cuDeviceGetName _ | .cuDeviceGetPCIBusId _ => ((success, ""), w)
  | .metricGetValueKind _ => ((success, .percent), w)
  | .metricCreateEventGroupSets _ _ => ((success, some { numSets := 1, eventGroups := [] }), w)
  | .eventGroupGetEvents _ _ | .eventGroupReadEvent _ _ _ | .metricEnumEvents _ _ => ((success, [1]), w)
  | .unixTimeMs => (1, w)
  | .load => (w.mem, w)
  | .store f => ((), { w with mem := f w.mem })
  | .cuCtxPopCurrent | .writeReport _ | .requestRotate => ((), w)

theorem env_respond (disable : Code) (w : World) (o : Op) :
    env w o (respond disable w o).1 (respond disable w o).2 := by
  cases o <;> simp only [env, respond, and_self, if_true] <;> rfl

end CmpUnlocker.Cupti
