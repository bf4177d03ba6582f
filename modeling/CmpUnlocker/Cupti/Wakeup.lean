import CmpUnlocker.Cupti.Requests

/-!
# The wait of `request_begin` and `stop`

`stop` raises its flag and notifies without taking `boundary_mutex`.  A caller that has tested its predicate before the
flag and blocks after the notification sleeps on when the worker has exited (`lost_wakeup`).  No caller does as long as,
whenever a caller is between the two after the last notification, the worker is on its way to a rotation, whose own
notification wakes it (`not_stranded`).
-/

namespace CmpUnlocker.Cupti

open Interaction

/-- `stop` has done its last notification. -/
def StopPc.notified : StopPc → Bool
  | .join | .done => true
  | _ => false

/-- A caller is blocked, and nothing is left to wake it. -/
structure Stranded (s : State) : Prop where
  blocked : ∃ i : Nat, s.callers[i]? = some .waitBlocked
  exited : s.worker = .exited
  notified : s.stopper.notified = true

/-- Behind the check of `stop_requested`, and before the gate has let the worker pass. -/
def WorkerPc.approaches : WorkerPc → Bool
  | .loadActive | .loadRotate | .gateLock | .gateActive | .gateRotate => true
  | _ => false

/-- Past the gate, up to the notification of the rotation. -/
def WorkerPc.rotates : WorkerPc → Bool
  | .gateClear | .rotating _ | .gateNotify => true
  | _ => false

/-- After the last notification of `stop`, a caller is only about to block while the worker approaches the gate and no
request is active. -/
def Attended (s : State) : Prop :=
  s.stopper.notified = true → (∃ i : Nat, s.callers[i]? = some .waitBlock) →
    s.shared.activeRequests = 0 ∧ s.worker.approaches = true

/-! ### The flags of a stop -/

/-- `stop` has raised its flag. -/
def StopPc.raised : StopPc → Bool
  | .notCalled | .storeFlag => false
  | _ => true

structure Raised (s : State) : Prop where
  started : s.stopper ≠ .notCalled → s.worker.Started
  flag : s.stopper.raised = true → s.shared.stopRequested = true

private theorem callerNext_stop {me : Owner} {sh sh' : Shared} {pc pc' : CallerPc}
    (h : callerNext me sh pc = some (pc', sh')) : sh'.stopRequested = sh.stopRequested := by
  cases pc <;> grind -ring -linarith [callerNext, Shared.lock, Shared.unlock]

/-- The worker lowers the flag only at the end of `start`. -/
theorem workerNext_stop {P : Platform} {sh sh' : Shared} {pc pc' : WorkerPc}
    (h : workerNext P sh pc = some (pc', sh')) (hstart : pc.Started) :
    pc'.Started ∧ sh'.stopRequested = sh.stopRequested := by
  revert h
  fun_cases workerNext P sh pc <;> grind -ring -linarith [WorkerPc.Started, Shared.lock, Shared.unlock]

theorem WorkerPc.Asks.started {pc : WorkerPc} {o : Op} {k : o.Answer → WorkerPc} (h : pc.Asks o k)
    (hstart : pc.Started) (r : o.Answer) : (k r).Started := by
  cases h with
  | starting => exact hstart.elim
  | _ => trivial

theorem Raised.step {P : Platform} {E : Env Op Op.Answer World} {s s' : State} {l : Option Op} (h : Raised s)
    (hs : Step P E s l s') : Raised s' := by
  cases hs with
  | caller _ _ hnext => exact ⟨h.started, fun hr => (callerNext_stop hnext).trans (h.flag hr)⟩
  | worker hnext =>
    refine ⟨fun hcalled => (workerNext_stop hnext (h.started hcalled)).1, fun hr => ?_⟩
    have hcalled : s.stopper ≠ .notCalled := by
      intro hnot
      rw [hnot] at hr
      cases hr
    exact (workerNext_stop hnext (h.started hcalled)).2.trans (h.flag hr)
  | gateNotify hpc => exact ⟨fun _ => trivial, h.flag⟩
  | request hask _ =>
    refine ⟨fun hcalled => hask.started (h.started hcalled) _, fun hr => ?_⟩
    exact (Shared.stopRequested_request _ _).trans (h.flag hr)
  | callStop hstart _ => exact ⟨fun _ => hstart, fun hr => nomatch hr⟩
  | storeFlag hpc => exact ⟨fun _ => h.started (by rw [hpc]; decide), fun _ => rfl⟩
  | notifyWake hpc => exact ⟨fun _ => h.started (by rw [hpc]; decide), fun _ => h.flag (by rw [hpc]; rfl)⟩
  | notifyBoundary hpc => exact ⟨fun _ => h.started (by rw [hpc]; decide), fun _ => h.flag (by rw [hpc]; rfl)⟩
  | join hpc _ => exact ⟨fun _ => h.started (by rw [hpc]; decide), fun _ => h.flag (by rw [hpc]; rfl)⟩

theorem Raised.reachable {P : Platform} {E : Env Op Op.Answer World} {C : State → Prop} {n : Nat} {s : State}
    (h : Reachable P E C n s) : Raised s := by
  induction h with
  | initial => exact ⟨fun hcalled => absurd rfl hcalled, fun hr => nomatch hr⟩
  | step _ hs _ ih => exact ih.step hs

/-! ### The flag of a rotation -/

/-- A caller that is about to block has found a rotation requested. -/
def Asked (s : State) : Prop := ∀ i : Nat, s.callers[i]? = some .waitBlock → s.shared.rotateRequested = true

/-- Only the worker past the gate lowers the flag. -/
theorem callerNext_rotate {me : Owner} {sh sh' : Shared} {pc pc' : CallerPc}
    (h : callerNext me sh pc = some (pc', sh')) :
    (sh.rotateRequested = true → sh'.rotateRequested = true) ∧ (pc' = .waitBlock → sh'.rotateRequested = true) := by
  cases pc <;> grind -ring -linarith [callerNext, Shared.lock, Shared.unlock]

private theorem workerNext_rotate {P : Platform} {sh sh' : Shared} {pc pc' : WorkerPc}
    (h : workerNext P sh pc = some (pc', sh')) :
    sh'.rotateRequested = sh.rotateRequested ∨ pc = .gateClear := by
  revert h
  fun_cases workerNext P sh pc <;> grind -ring -linarith [Shared.lock, Shared.unlock]

private theorem Shared.rotateRequested_request {sh : Shared} (h : sh.rotateRequested = true) (o : Op) :
    (sh.request o).rotateRequested = true := by
  cases o <;> first | exact h | rfl

theorem Asked.step {P : Platform} {E : Env Op Op.Answer World} {s s' : State} {l : Option Op} (h : Asked s)
    (hlock : Locked s) (hs : Step P E s l s') : Asked s' := by
  intro j hj
  cases hs with
  | caller _ hpc hnext =>
    rcases getElem?_set_cases hj with ⟨-, heq⟩ | ⟨-, hj⟩
    · exact (callerNext_rotate hnext).2 heq.symm
    · exact (callerNext_rotate hnext).1 (h j hj)
  | worker hnext =>
    rcases workerNext_rotate hnext with hsame | hclear
    · exact hsame.trans (h j hj)
    · -- the caller owns the mutex
      have hworker := hlock.worker.1 (by rw [hclear]; rfl)
      have hcaller := (hlock.caller j _ hj).1 rfl
      rw [hworker] at hcaller
      cases hcaller
  | gateNotify _ =>
    obtain ⟨pc, hpc, hwake⟩ := State.wakeAll_getElem hj
    cases pc <;> first | exact h j hpc | cases hwake
  | request _ _ => exact Shared.rotateRequested_request (h j hj) _
  | notifyBoundary _ =>
    obtain ⟨pc, hpc, hwake⟩ := State.wakeAll_getElem hj
    cases pc <;> first | exact h j hpc | cases hwake
  | _ => exact h j hj

theorem Asked.reachable {P : Platform} {E : Env Op Op.Answer World} {C : State → Prop} {n : Nat} {s : State}
    (h : Reachable P E C n s) : Asked s := by
  induction h with
  | initial =>
    intro j hj
    have := (List.mem_replicate.1 (List.mem_of_getElem? hj)).2
    cases this
  | step hr hs _ ih => exact ih.step (Locked.reachable hr) hs

/-! ### The rotation that wakes a caller -/

/-- The caller is about to assign `active_requests`. -/
def CallerPc.commits : CallerPc → Bool
  | .beginAdd | .endStore _ _ => true
  | _ => false

/-- The worker is on its way to a rotation, and nobody can stop it. -/
structure Rescued (s : State) : Prop where
  idle : s.shared.activeRequests = 0
  uncommitted : ∀ (i : Nat) (pc : CallerPc), s.callers[i]? = some pc → pc.commits = false
  coming : s.worker.approaches = true ∧ s.shared.rotateRequested = true ∨ s.worker.rotates = true

/-- After the last notification of `stop`, a blocked caller is going to be woken by a rotation. -/
def Watched (s : State) : Prop :=
  s.stopper.notified = true → (∃ i : Nat, s.callers[i]? = some .waitBlocked) → Rescued s

private theorem CallerPc.holds_of_commits {pc : CallerPc} (h : pc.commits = true) : pc.holds = true := by
  cases pc <;> simp_all [commits, holds]

private theorem StopPc.raised_of_notified {pc : StopPc} (h : pc.notified = true) : pc.raised = true := by
  cases pc <;> simp_all [notified, raised]

/-- With the flag of `stop` raised no caller begins a request, and with no active request none is ended. -/
theorem callerNext_idle {me : Owner} {sh sh' : Shared} {pc pc' : CallerPc}
    (h : callerNext me sh pc = some (pc', sh')) (hstop : sh.stopRequested = true) (hidle : sh.activeRequests = 0)
    (hpc : pc.commits = false) : sh'.activeRequests = 0 ∧ pc'.commits = false := by
  cases pc <;> grind -ring -linarith [callerNext, CallerPc.commits, Shared.lock, Shared.unlock]

private theorem callerNext_blocked {me : Owner} {sh sh' : Shared} {pc : CallerPc}
    (h : callerNext me sh pc = some (.waitBlocked, sh')) : pc = .waitBlock ∧ sh' = sh.unlock := by
  cases pc <;> grind -ring -linarith [callerNext]

private theorem workerNext_coming {P : Platform} {sh sh' : Shared} {pc pc' : WorkerPc}
    (h : workerNext P sh pc = some (pc', sh')) (hidle : sh.activeRequests = 0)
    (hcoming : pc.approaches = true ∧ sh.rotateRequested = true ∨ pc.rotates = true) :
    (pc'.approaches = true ∧ sh'.rotateRequested = true ∨ pc'.rotates = true) ∨ pc = .gateNotify := by
  revert h
  fun_cases workerNext P sh pc <;>
    grind -ring -linarith [WorkerPc.approaches, WorkerPc.rotates, Shared.lock, Shared.unlock]

private theorem State.not_blocked_wakeAll {s : State} {i : Nat} : s.wakeAll[i]? ≠ some .waitBlocked := by
  intro h
  obtain ⟨pc, -, hwake⟩ := State.wakeAll_getElem h
  cases pc <;> cases hwake

theorem Rescued.callerStep {s : State} (h : Rescued s) (hstop : s.shared.stopRequested = true) {i : Nat}
    {pc pc' : CallerPc} {sh : Shared} (hpc : s.callers[i]? = some pc)
    (hnext : callerNext (.caller i) s.shared pc = some (pc', sh)) :
    Rescued { s with shared := sh, callers := s.callers.set i pc' } := by
  obtain ⟨hidle, hcommits⟩ := callerNext_idle hnext hstop h.idle (h.uncommitted i pc hpc)
  refine ⟨hidle, fun j pc₁ hj => ?_, h.coming.imp_left fun hw => ⟨hw.1, (callerNext_rotate hnext).1 hw.2⟩⟩
  rcases getElem?_set_cases hj with ⟨-, rfl⟩ | ⟨-, hj⟩
  · exact hcommits
  · exact h.uncommitted j pc₁ hj

/-- A caller that blocks gives the mutex to a worker that approaches the gate. -/
theorem Rescued.of_block {s : State} (hlock : Locked s) (hasked : Asked s) (hattended : Attended s)
    (hnotified : s.stopper.notified = true) {i : Nat} (hpc : s.callers[i]? = some .waitBlock) :
    Rescued { s with shared := s.shared.unlock, callers := s.callers.set i .waitBlocked } := by
  obtain ⟨hidle, hworker⟩ := hattended hnotified ⟨i, hpc⟩
  refine ⟨hidle, fun j pc hj => ?_, .inl ⟨hworker, hasked i hpc⟩⟩
  rcases getElem?_set_cases hj with ⟨-, rfl⟩ | ⟨hij, hj⟩
  · rfl
  · cases hcommits : pc.commits with
    | false => rfl
    | true =>
      have hother := (hlock.caller j pc hj).1 (CallerPc.holds_of_commits hcommits)
      rw [(hlock.caller i _ hpc).1 rfl] at hother
      exact absurd (Owner.caller.inj (Option.some.inj hother)) (Ne.symm hij)

theorem Watched.step {P : Platform} {E : Env Op Op.Answer World} {s s' : State} {l : Option Op} (h : Watched s)
    (hlock : Locked s) (hraised : Raised s) (hasked : Asked s) (hattended : Attended s) (hs : Step P E s l s') :
    Watched s' := by
  intro hnotified hblocked
  cases hs with
  | @caller i pc pc' sh _ hpc hnext =>
    by_cases hbefore : ∃ j : Nat, s.callers[j]? = some .waitBlocked
    · exact (h hnotified hbefore).callerStep (hraised.flag (StopPc.raised_of_notified hnotified)) hpc hnext
    · obtain ⟨j, hj⟩ := hblocked
      rcases getElem?_set_cases hj with ⟨-, rfl⟩ | ⟨-, hj⟩
      · obtain ⟨rfl, rfl⟩ := callerNext_blocked hnext
        exact .of_block hlock hasked hattended hnotified hpc
      · exact absurd ⟨j, hj⟩ hbefore
  | worker hnext =>
    have hrescued := h hnotified hblocked
    refine ⟨(workerNext_active hnext).1.trans hrescued.idle, hrescued.uncommitted, ?_⟩
    rcases workerNext_coming hnext hrescued.idle hrescued.coming with hcoming | hnotify
    · exact hcoming
    · rw [hnotify] at hnext
      cases hnext
  | gateNotify _ =>
    obtain ⟨j, hj⟩ := hblocked
    exact absurd hj State.not_blocked_wakeAll
  | @request o k r w hask _ =>
    have hrescued := h hnotified hblocked
    refine ⟨(Shared.activeRequests_request _ _).trans hrescued.idle, hrescued.uncommitted, ?_⟩
    have hcoming := hrescued.coming
    generalize s.worker = pc at hask hcoming
    cases hask <;> simp_all [WorkerPc.approaches, WorkerPc.rotates]
  | callStop _ _ => cases hnotified
  | storeFlag _ => cases hnotified
  | notifyWake _ => cases hnotified
  | notifyBoundary _ =>
    obtain ⟨j, hj⟩ := hblocked
    exact absurd hj State.not_blocked_wakeAll
  | join hpc _ =>
    obtain ⟨hidle, huncommitted, hcoming⟩ := h (by rw [hpc]; rfl) hblocked
    exact ⟨hidle, huncommitted, hcoming⟩

theorem Attended.reachable {P : Platform} {E : Env Op Op.Answer World} {n : Nat} {s : State}
    (h : Reachable P E Attended n s) : Attended s := by
  cases h with
  | initial => exact fun hnotified => nomatch hnotified
  | step _ _ hC => exact hC

theorem Watched.reachable {P : Platform} {E : Env Op Op.Answer World} {n : Nat} {s : State}
    (h : Reachable P E Attended n s) : Watched s := by
  induction h with
  | initial => exact fun hnotified => nomatch hnotified
  | step hr hs _ ih =>
    exact ih.step (Locked.reachable hr) (Raised.reachable hr) (Asked.reachable hr) (Attended.reachable hr) hs

/-- As long as no caller is left between its test and its block by the last notification of `stop`, except for a worker
that is going to rotate, no caller is ever blocked with nothing left to wake it. -/
theorem not_stranded {P : Platform} {n : Nat} {s : State} (h : Reachable P env Attended n s) : ¬ Stranded s := by
  rintro ⟨hblocked, hexited, hnotified⟩
  have hcoming := (Watched.reachable h hnotified hblocked).coming
  rw [hexited] at hcoming
  rcases hcoming with ⟨happroaches, -⟩ | hrotates
  · cases happroaches
  · cases hrotates

/-! ### Without the rotation -/

/-- Device work comes to its end, whatever it is answered. -/
theorem run_onShared {α : Type} (answer : World → (o : Op) → o.Answer × World) (p : Routine Empty α) (w : World)
    (sh : Shared) : ∃ a w' sh', p.run (onShared answer) (w, sh) = (.ret a, w', sh') ∧
      sh'.stopRequested = sh.stopRequested := by
  induction p generalizing w sh with
  | ret a => exact ⟨a, w, sh, rfl, rfl⟩
  | throw e => exact e.elim
  | call o k ih =>
    obtain ⟨a, w', sh', hrun, hstop⟩ := ih (answer w o).1 (answer w o).2 (sh.request o)
    exact ⟨a, w', sh', hrun, hstop.trans (Shared.stopRequested_request sh o)⟩

/-- The worker can come to its exit while the other threads are where they are. -/
def Exits (P : Platform) (n : Nat) (callers : List CallerPc) (stopper : StopPc) : Prop :=
  ∃ s, Reachable P env (fun _ => True) n s ∧ s.worker = .exited ∧ s.callers = callers ∧ s.stopper = stopper

section

variable {P : Platform} {n : Nat} {s : State}

private theorem exits_of_run {m : Nat} {sh : Shared} (h : Reachable P env (fun _ => True) n s)
    (hrun : workerRun P m (s.worker, s.shared) = some (.exited, sh)) : Exits P n s.callers s.stopper :=
  ⟨_, h.workerRun (fun _ _ => trivial) hrun, rfl, rfl, rfl⟩

private theorem exits_of_closing {p : Routine Empty Unit} (h : Reachable P env (fun _ => True) n s)
    (hpc : s.worker = .closing p) : Exits P n s.callers s.stopper := by
  obtain ⟨a, w, sh, hrun, -⟩ := run_onShared (respond success) p s.world s.shared
  have hask : ∀ (o : Op) (k : o.Answer → Routine Empty Unit),
      (WorkerPc.closing (.call o k)).Asks o fun r => .closing (k r) := fun _ _ => .closing
  have hwork := h.deviceWork hask (env_respond success) hpc (fun _ _ => trivial) hrun
  have hrest : workerRun P 1 (.closing (.ret a), sh) = some (.exited, sh) := rfl
  have hexit := exits_of_run hwork hrest
  exact hexit

private theorem exits_of_reporting {p : Routine Empty Unit} (h : Reachable P env (fun _ => True) n s)
    (hpc : s.worker = .reporting p) (hstop : s.shared.stopRequested = true) : Exits P n s.callers s.stopper := by
  obtain ⟨a, w, sh, hrun, hsh⟩ := run_onShared (respond success) p s.world s.shared
  have hask : ∀ (o : Op) (k : o.Answer → Routine Empty Unit),
      (WorkerPc.reporting (.call o k)).Asks o fun r => .reporting (k r) := fun _ _ => .reporting
  have hwork := h.deviceWork hask (env_respond success) hpc (fun _ _ => trivial) hrun
  have hrest : workerRun P 2 (.reporting (.ret a), sh) = some (.closing lastReport, sh) := by
    simp [workerRun, workerNext, hsh, hstop]
  have hclosing := hwork.workerRun (fun _ _ => trivial) hrest
  have hexit := exits_of_closing hclosing rfl
  exact hexit

private theorem exits_of_sampling {p : Routine Empty Unit} (h : Reachable P env (fun _ => True) n s)
    (hpc : s.worker = .sampling p) (hstop : s.shared.stopRequested = true) : Exits P n s.callers s.stopper := by
  obtain ⟨a, w, sh, hrun, hsh⟩ := run_onShared (respond success) p s.world s.shared
  have hask : ∀ (o : Op) (k : o.Answer → Routine Empty Unit),
      (WorkerPc.sampling (.call o k)).Asks o fun r => .sampling (k r) := fun _ _ => .sampling
  have hwork := h.deviceWork hask (env_respond success) hpc (fun _ _ => trivial) hrun
  have hnext : workerNext P sh (.sampling (.ret a)) = some (.reporting report, sh) := rfl
  have hreport := hwork.step (.worker hnext) trivial
  have hexit := exits_of_reporting hreport rfl (hsh.trans hstop)
  exact hexit

/-- With a request active the worker samples, or turns back at the gate. -/
theorem exits_of_approaches (h : Reachable P env (fun _ => True) n s) (hpc : s.worker.approaches = true)
    (hholds : s.worker.holds = false) (hmutex : s.shared.boundaryMutex = none)
    (hstop : s.shared.stopRequested = true) (hactive : s.shared.activeRequests ≠ 0) :
    Exits P n s.callers s.stopper := by
  have hgate : ∀ {s : State}, Reachable P env (fun _ => True) n s → s.worker = .gateLock →
      s.shared.boundaryMutex = none → s.shared.stopRequested = true → s.shared.activeRequests ≠ 0 →
        Exits P n s.callers s.stopper := by
    intro s h hpc hmutex hstop hactive
    have hturn : workerRun P 3 (s.worker, s.shared) = some (.reporting report, (s.shared.lock .worker).unlock) := by
      simp [hpc, workerRun, workerNext, hmutex, hactive, Shared.lock]
    have hexit := exits_of_reporting (h.workerRun (fun _ _ => trivial) hturn) rfl hstop
    exact hexit
  generalize hw : s.worker = pc at hpc hholds
  cases pc with
  | loadActive =>
    have hsample : workerRun P 1 (s.worker, s.shared) = some (.sampling (sample P), s.shared) := by
      simp [hw, workerRun, workerNext, hactive]
    have hexit := exits_of_sampling (h.workerRun (fun _ _ => trivial) hsample) rfl hstop
    exact hexit
  | loadRotate =>
    -- a rotation that is requested leads to the gate, which the active request keeps shut
    cases hrotate : s.shared.rotateRequested with
    | true =>
      have hload : workerRun P 1 (s.worker, s.shared) = some (.gateLock, s.shared) := by
        simp [hw, workerRun, workerNext, hrotate]
      have hexit := hgate (h.workerRun (fun _ _ => trivial) hload) rfl hmutex hstop hactive
      exact hexit
    | false =>
      have hload : workerRun P 1 (s.worker, s.shared) = some (.reporting report, s.shared) := by
        simp [hw, workerRun, workerNext, hrotate]
      have hexit := exits_of_reporting (h.workerRun (fun _ _ => trivial) hload) rfl hstop
      exact hexit
  | gateLock => exact hgate h hw hmutex hstop hactive
  -- behind the lock of the gate the worker has the mutex
  | gateActive => cases hholds
  | gateRotate => cases hholds
  | _ => cases hpc

/-- With the flag of `stop` raised and the mutex free, a worker that is not going to rotate exits. -/
theorem exits (h : Reachable P env (fun _ => True) n s) (hstart : s.worker.Started) (hholds : s.worker.holds = false)
    (hmutex : s.shared.boundaryMutex = none) (hstop : s.shared.stopRequested = true)
    (hcoming : ¬ (s.shared.activeRequests = 0 ∧ s.worker.approaches = true)) : Exits P n s.callers s.stopper := by
  cases happroaches : s.worker.approaches with
  | true => exact exits_of_approaches h happroaches hholds hmutex hstop fun hidle => hcoming ⟨hidle, happroaches⟩
  | false =>
    generalize hw : s.worker = pc at hstart hholds happroaches
    cases pc with
    | starting p => exact hstart.elim
    | startFailed => exact hstart.elim
    | top =>
      have hrun : workerRun P 1 (s.worker, s.shared) = some (.closing lastReport, s.shared) := by
        simp [hw, workerRun, workerNext, hstop]
      have hexit := exits_of_closing (h.workerRun (fun _ _ => trivial) hrun) rfl
      exact hexit
    | waiting =>
      have hrun : workerRun P 2 (s.worker, s.shared) = some (.closing lastReport, s.shared) := by
        simp [hw, workerRun, workerNext, hstop]
      have hexit := exits_of_closing (h.workerRun (fun _ _ => trivial) hrun) rfl
      exact hexit
    | checkStop =>
      have hrun : workerRun P 1 (s.worker, s.shared) = some (.closing lastReport, s.shared) := by
        simp [hw, workerRun, workerNext, hstop]
      have hexit := exits_of_closing (h.workerRun (fun _ _ => trivial) hrun) rfl
      exact hexit
    | sampling p => exact exits_of_sampling h hw hstop
    | reporting p => exact exits_of_reporting h hw hstop
    | closing p => exact exits_of_closing h hw
    | exited => exact ⟨s, h, hw, rfl, rfl⟩
    | loadActive => cases happroaches
    | loadRotate => cases happroaches
    | gateLock => cases happroaches
    | _ => cases hholds

/-- The condition is exact: where a run leaves it, the caller blocks, the worker exits, and nobody is left to wake
it. -/
theorem stranded_of_not_attended (h : Reachable P env (fun _ => True) n s) (hattended : ¬ Attended s) :
    ∃ s', Reachable P env (fun _ => True) n s' ∧ Stranded s' := by
  simp only [Attended, Classical.not_imp] at hattended
  obtain ⟨hnotified, ⟨i, hi⟩, hcoming⟩ := hattended
  have hraised := Raised.reachable h
  have hlock := Locked.reachable h
  have hstart : s.worker.Started := by
    refine hraised.started fun hnot => ?_
    rw [hnot] at hnotified
    cases hnotified
  -- the caller has the mutex, so the worker does not
  have hholds : s.worker.holds = false := by
    rw [Bool.eq_false_iff]
    intro hworker
    have howner := (hlock.caller i _ hi).1 rfl
    rw [hlock.worker.1 hworker] at howner
    cases howner
  have hblocked := h.step (.caller hstart hi rfl) trivial
  obtain ⟨s', hreach, hexited, hcallers, hstopper⟩ := exits hblocked hstart hholds rfl
    (hraised.flag (StopPc.raised_of_notified hnotified)) hcoming
  obtain ⟨hlt, -⟩ := List.getElem?_eq_some_iff.1 hi
  refine ⟨s', hreach, ⟨i, ?_⟩, hexited, ?_⟩
  · rw [hcallers]
    exact List.getElem?_set_self hlt
  · rw [hstopper]
    exact hnotified

end

/-! ### The lost wakeup -/

/-- The first caller has ended a request and begins the next one: it has found the rotation requested, and no stop. -/
def testing : State :=
  { serving 1 1 with
    shared := { rotateRequested := true, boundaryMutex := some (.caller 0) }
    callers := [.waitBlock] }

private theorem callerRun_testing :
    callerRun (.caller 0) 13 (.serving true, { activeRequests := 1 })
      = some (.waitBlock, { rotateRequested := true, boundaryMutex := some (.caller 0) }) := by
  decide

private theorem reachable_testing {C : State → Prop} (hC : ∀ s : State, s.callers.length = 1 → C s) :
    Reachable barePlatform env C 1 testing :=
  (reachable_serving (env_respond success) hC (Nat.le_refl 1)).callerRun trivial (fun s hs => hC s hs) rfl
    callerRun_testing

private theorem attended_of_notCalled {P : Platform} {E : Env Op Op.Answer World} {n : Nat} {s : State}
    (h : Reachable P E (fun _ => True) n s) (hstop : s.stopper = .notCalled) : Reachable P E Attended n s := by
  induction h with
  | initial => exact .initial
  | step _ hs _ ih =>
    refine (ih (hs.notCalled hstop)).step hs fun hnotified => ?_
    rw [hstop] at hnotified
    cases hnotified

/-- The caller blocks before the flag is raised, and the notification of `stop` wakes it. -/
theorem not_stranded_woken : ∃ s : State, s.callers = [.waitWoken] ∧ s.stopper = .join ∧ ¬ Stranded s := by
  have htesting := attended_of_notCalled (reachable_testing fun _ _ => trivial) rfl
  have hblocked := htesting.step (.caller (i := 0) trivial rfl rfl) fun hnotified => nomatch hnotified
  have hflag := (hblocked.step (.callStop trivial rfl) fun hn => nomatch hn).step (.storeFlag rfl) fun hn => nomatch hn
  have hwake := hflag.step (.notifyWake rfl) fun hn => nomatch hn
  have hnotified := hwake.step (.notifyBoundary rfl) (by
    rintro - ⟨i, hi⟩
    have hmem : CallerPc.waitBlock ∈ [CallerPc.waitWoken] := List.mem_of_getElem? hi
    simp at hmem)
  exact ⟨_, rfl, rfl, not_stranded hnotified⟩

/-- `stop` raises its flag and notifies while the caller is about to block; the worker exits, and the caller blocks. -/
theorem lost_wakeup : ∃ s, Reachable barePlatform env (fun _ => True) 1 s ∧ Stranded s := by
  have hflag :=
    ((reachable_testing fun _ _ => trivial).step (.callStop trivial rfl) trivial).step (.storeFlag rfl) trivial
  have hnotified := (hflag.step (.notifyWake rfl) trivial).step (.notifyBoundary rfl) trivial
  have hclosing := hnotified.workerRun (m := 1) (fun _ _ => trivial) rfl
  have hwritten := hclosing.deviceWork (fun _ _ => .closing) (env_respond success) rfl (fun _ _ => trivial) rfl
  have hexited := hwritten.step (.worker rfl) trivial
  -- only now does the caller block
  have hblocked := hexited.step (.caller (i := 0) trivial rfl rfl) trivial
  exact ⟨_, hblocked, ⟨0, rfl⟩, rfl, rfl⟩

end CmpUnlocker.Cupti
