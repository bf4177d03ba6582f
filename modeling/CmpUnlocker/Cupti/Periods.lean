import CmpUnlocker.Cupti.Flags
import CmpUnlocker.Cupti.Wakeup
import Mathlib.Data.List.Chain

/-!
# Busy periods and rotations

A busy period is a maximal interval with `active_requests > 0`.  A run is read as the list of its marks: a busy period
begins or ends, a rotation passes its gate or is complete.  As long as fewer than 2³² requests are outstanding, the
marks follow each other in a fixed cycle (`Logged.fits`), so that between two busy periods there is exactly one
rotation (`one_rotation_between_periods`).
-/

namespace CmpUnlocker.Cupti

open Interaction

/-! ### Who asks for a rotation -/

/-- Requests other than the one for a rotation. -/
def Unasked : Op → Prop
  | .requestRotate => False
  | _ => True

section

variable {ε α : Type} (P : Platform)

private theorem unasked_of_ne {o : Op} (h : o ≠ .requestRotate) : Unasked o := by
  cases o <;> trivial

private theorem call_unasked {o : Op} (h : Unasked o) : (call o : Routine ε o.Answer).Uses Unasked :=
  Prog.uses_request.2 h

private theorem unasked_of_steady {p : Routine ε α} (h : p.Uses Steady) : p.Uses Unasked :=
  h.mono fun _ ho => unasked_of_ne ho.ne_requestRotate

private theorem loadBank_unasked (d b : Nat) : (loadBank d b : Routine ε MetricBank).Uses Unasked :=
  unasked_of_steady (loadBank_steady d b)

private theorem loadDevice_unasked (d : Nat) : (loadDevice d : Routine ε DeviceState).Uses Unasked :=
  unasked_of_steady (loadDevice_steady d)

private theorem storeBank_unasked (d b : Nat) (f : MetricBank → MetricBank) :
    (storeBank d b f : Routine ε Unit).Uses Unasked :=
  call_unasked trivial

private theorem storeDevice_unasked (d : Nat) (f : DeviceState → DeviceState) :
    (storeDevice d f : Routine ε Unit).Uses Unasked :=
  call_unasked trivial

private theorem enableBank_unasked (d b : Nat) : (enableBank P d b : Routine ε Bool).Uses Unasked := by
  refine .bind (loadBank_unasked d b) fun _ => Prog.uses_ite.2 ⟨fun _ => trivial, fun _ => ?_⟩
  refine .bind (call_unasked trivial) fun _ => Prog.uses_ite.2 ⟨fun _ => ?_, fun _ => ?_⟩
  · exact .bind (storeBank_unasked d b _) fun _ => trivial
  · refine .bind (storeBank_unasked d b _) fun _ => .bind (call_unasked trivial) fun _ => ?_
    refine Prog.uses_ite.2 ⟨fun _ => .bind (call_unasked trivial) fun _ => ?_, fun _ => ?_⟩
    · exact .bind (storeBank_unasked d b _) fun _ => trivial
    · exact .bind (storeBank_unasked d b _) fun _ => trivial

private theorem disableBank_unasked (d b : Nat) : (disableBank P d b : Routine ε Unit).Uses Unasked := by
  refine .bind (loadBank_unasked d b) fun _ => Prog.uses_ite.2 ⟨fun _ => trivial, fun _ => ?_⟩
  refine .bind (call_unasked trivial) fun _ => .bind (.when fun _ => storeBank_unasked d b _) fun _ => ?_
  exact storeBank_unasked d b _

private theorem selectFrom_unasked (d : Nat) (is : List Nat) : (selectFrom P d is : Routine ε Bool).Uses Unasked := by
  induction is with
  | nil => trivial
  | cons i is ih =>
    refine .bind (enableBank_unasked P d i) fun _ => Prog.uses_ite.2 ⟨fun _ => ?_, fun _ => ih⟩
    exact .bind (storeDevice_unasked d _) fun _ => trivial

private theorem selectFirstBank_unasked (d : Nat) : (selectFirstBank P d : Routine ε Bool).Uses Unasked := by
  refine .bind (call_unasked trivial) fun _ => Prog.uses_ite.2 ⟨fun _ => ?_, fun _ => ?_⟩
  · exact .bind (storeDevice_unasked d _) fun _ => trivial
  · refine .bind (loadDevice_unasked d) fun _ => .bind (selectFrom_unasked P d _) fun _ => ?_
    refine .bind (.when fun _ => storeDevice_unasked d _) fun _ => .bind (call_unasked trivial) fun _ => trivial

private theorem initializeDevice_unasked (d : Nat) : (initializeDevice P d : Routine ε Unit).Uses Unasked := by
  have hdiscover : (do discoverDevice P d; prepareDevice P d : Routine String Unit).Uses (Discover d) :=
    .bind (discoverDevice_discover P) fun _ => prepareDevice_discover P
  have hunasked := hdiscover.mono fun _ ho => unasked_of_ne ho.ne_requestRotate
  refine .bind (call_unasked trivial) fun _ => .bind hunasked.attempt fun _ => ?_
  split
  · exact storeDevice_unasked d _
  · exact .bind (selectFirstBank_unasked P d) fun _ => storeDevice_unasked d _

private theorem initializeImpl_unasked : (initializeImpl P : Routine Empty Bool).Uses Unasked := by
  refine .bind (call_unasked trivial) fun _ => Prog.uses_ite.2 ⟨fun _ => ?_, fun _ => ?_⟩
  · exact unasked_of_steady (initializeFailed_steady _)
  refine .bind (call_unasked trivial) fun _ => Prog.uses_ite.2 ⟨fun _ => ?_, fun _ => ?_⟩
  · exact unasked_of_steady (initializeFailed_steady _)
  refine Prog.uses_ite.2 ⟨fun _ => unasked_of_steady (initializeFailed_steady _), fun _ => ?_⟩
  refine .bind (.forEach (fun d => initializeDevice_unasked P d) _) fun _ => .bind (call_unasked trivial) fun _ => ?_
  exact .bind (call_unasked trivial) fun _ => .bind (call_unasked trivial) fun _ => trivial

private theorem selectCandidate_unasked (d : Nat) (is : List Nat) :
    (selectCandidate P d is : Routine ε Bool).Uses Unasked := by
  induction is with
  | nil => trivial
  | cons i is ih =>
    refine .bind (loadBank_unasked d i) fun _ => Prog.uses_ite.2 ⟨fun _ => ih, fun _ => ?_⟩
    refine .bind (enableBank_unasked P d i) fun _ => Prog.uses_ite.2 ⟨fun _ => ?_, fun _ => ?_⟩
    · exact .bind (storeDevice_unasked d _) fun _ => trivial
    · exact .bind (storeBank_unasked d i _) fun _ => ih

private theorem switchBank_unasked (d : Nat) : (switchBank P d : Routine ε Bool).Uses Unasked := by
  refine .bind (loadDevice_unasked d) fun _ => .bind (disableBank_unasked P d _) fun _ => ?_
  refine .bind (selectCandidate_unasked P d _) fun _ => ?_
  exact .bind (.when fun _ => storeDevice_unasked d _) fun _ => trivial

private theorem rotateDevice_unasked (d : Nat) : (rotateDevice P d : Routine Empty Bool).Uses Unasked := by
  refine .bind (loadDevice_unasked d) fun _ => Prog.uses_ite.2 ⟨fun _ => trivial, fun _ => ?_⟩
  refine .bind (unasked_of_steady (finalRead_steady P _ d _)) fun _ => .bind (call_unasked trivial) fun _ => ?_
  refine Prog.uses_ite.2 ⟨fun _ => .bind (storeDevice_unasked d _) fun _ => trivial, fun _ => ?_⟩
  exact .bind (switchBank_unasked P d) fun _ => .bind (call_unasked trivial) fun _ => trivial

private theorem rotateDevices_unasked (ds : List Nat) : (rotateDevices P ds : Routine Empty Bool).Uses Unasked := by
  induction ds with
  | nil => trivial
  | cons d ds ih => exact .bind (rotateDevice_unasked P d) fun _ => .bind ih fun _ => trivial

private theorem rotate_unasked : (rotate P : Routine Empty Unit).Uses Unasked :=
  .bind (call_unasked trivial) fun _ => .bind (rotateDevices_unasked P _) fun _ => call_unasked trivial

end

/-- Only a sampling iteration can ask for a rotation. -/
def WorkerPc.Quiet : WorkerPc → Prop
  | .starting p => p.Uses Unasked
  | .rotating p => p.Uses Unasked
  | .reporting p => p.Uses Unasked
  | .closing p => p.Uses Unasked
  | _ => True

private theorem workerNext_quiet {P : Platform} {sh sh' : Shared} {pc pc' : WorkerPc}
    (h : workerNext P sh pc = some (pc', sh')) : pc'.Quiet := by
  have hrotate : (rotate P : Routine Empty Unit).Uses Unasked := rotate_unasked P
  have hreport : (report : Routine Empty Unit).Uses Unasked := unasked_of_steady report_steady
  have hlast : (lastReport : Routine Empty Unit).Uses Unasked := unasked_of_steady lastReport_steady
  revert h
  fun_cases workerNext P sh pc <;> grind -ring -linarith [WorkerPc.Quiet]

theorem WorkerPc.Asks.quiet {pc : WorkerPc} {o : Op} {k : o.Answer → WorkerPc} (h : pc.Asks o k) (hpc : pc.Quiet)
    (r : o.Answer) : (k r).Quiet := by
  cases h with
  | starting => exact hpc.2 r
  | sampling => trivial
  | rotating => exact hpc.2 r
  | reporting => exact hpc.2 r
  | closing => exact hpc.2 r

/-! ### The marks of a run -/

inductive Mark
  | begins
  | ends
  | passes
  | completes
  deriving DecidableEq, Repr

/-- The mark that follows. -/
def Mark.next : Mark → Mark
  | .begins => .ends
  | .ends => .passes
  | .passes => .completes
  | .completes => .begins

/-- A busy period begins or ends with a change of `active_requests`. -/
def activeMark (sh sh' : Shared) : Option Mark :=
  if sh.activeRequests = 0 ∧ sh'.activeRequests ≠ 0 then some .begins
  else if sh.activeRequests ≠ 0 ∧ sh'.activeRequests = 0 then some .ends
  else none

/-- The worker has the two tests of the gate behind it, and is about to lower the flag. -/
def WorkerPc.clears : WorkerPc → Bool
  | .gateClear => true
  | _ => false

/-- The worker is about to notify of the rotation. -/
def WorkerPc.notifies : WorkerPc → Bool
  | .gateNotify => true
  | _ => false

/-- The mark of a step, if it has one. -/
def mark (s s' : State) : Option Mark :=
  if s.worker.clears && !s'.worker.clears then some .passes
  else if s.worker.notifies && !s'.worker.notifies then some .completes
  else activeMark s.shared s'.shared

/-- The runs with their marks, in order. -/
inductive Logged (P : Platform) (E : Env Op Op.Answer World) (C : State → Prop) (n : Nat) : List Mark → State → Prop
  | initial : Logged P E C n [] (initial P n)
  | step {log : List Mark} {s s' : State} {l : Option Op} (h : Logged P E C n log s) (hs : Step P E s l s')
      (hC : C s') : Logged P E C n (log ++ (mark s s').toList) s'

theorem Logged.reachable {P : Platform} {E : Env Op Op.Answer World} {C : State → Prop} {n : Nat} {log : List Mark}
    {s : State} (h : Logged P E C n log s) : Reachable P E C n s := by
  induction h with
  | initial => exact .initial
  | step _ hs hC ih => exact ih.step hs hC

private theorem Logged.of_reachable {P : Platform} {E : Env Op Op.Answer World} {C : State → Prop} {n : Nat} {s : State}
    (h : Reachable P E C n s) : ∃ log, Logged P E C n log s := by
  induction h with
  | initial => exact ⟨[], .initial⟩
  | step _ hs hC ih =>
    obtain ⟨log, hlog⟩ := ih
    exact ⟨_, hlog.step hs hC⟩

/-- In a log that keeps to the cycle there is exactly one rotation between two busy periods. -/
theorem between_periods {pre mid post : List Mark}
    (h : List.IsChain (fun m m' => m' = Mark.next m) (pre ++ .ends :: (mid ++ .begins :: post)))
    (hbegins : .begins ∉ mid) : mid = [.passes, .completes] := by
  have hmid := h.right_of_append
  match mid with
  | [] =>
    have hnext := (List.isChain_cons_cons.1 hmid).1
    cases hnext
  | [m] =>
    simp only [List.cons_append, List.nil_append, List.isChain_cons_cons] at hmid
    rw [hmid.1] at hmid
    cases hmid.2.1
  | [m₁, m₂] =>
    simp only [List.cons_append, List.nil_append, List.isChain_cons_cons] at hmid
    rw [hmid.2.1, hmid.1]
    rfl
  | m₁ :: m₂ :: m₃ :: mid =>
    simp only [List.cons_append, List.isChain_cons_cons] at hmid
    rw [hmid.2.2.1, hmid.2.1, hmid.1] at hbegins
    exact absurd (by simp [Mark.next]) hbegins

/-! ### Where a run is in the cycle -/

/-- The caller is going to begin a request without another look at the flag of a rotation. -/
def CallerPc.admitted : CallerPc → Bool
  | .beginLoadStop | .beginAdd => true
  | _ => false

/-- The worker is between the store of the gate and its notification. -/
def WorkerPc.switches : WorkerPc → Bool
  | .rotating _ | .gateNotify => true
  | _ => false

def WorkerPc.samples : WorkerPc → Bool
  | .sampling _ => true
  | _ => false

/-- What holds after the mark `m`, up to the next one. -/
structure Fits (m : Mark) (s : State) : Prop where
  active : s.shared.activeRequests ≠ 0 ↔ m = .begins
  switching : s.worker.switches = true ↔ m = .passes
  served : m = .passes ∨ m = .completes → s.shared.rotateRequested = false
  asked : m = .ends → s.shared.rotateRequested = true ∨ ∃ i : Nat, s.callers[i]? = some .endRotate
  closed : m = .ends → ∀ (i : Nat) (pc : CallerPc), s.callers[i]? = some pc → pc.admitted = false
  ender : ∀ i : Nat, s.callers[i]? = some .endRotate → m = .ends
  settled : m = .completes → s.worker.samples = false

/-- What holds of the worker alone. -/
structure Steered (s : State) : Prop where
  quiet : s.worker.Quiet
  clears : s.worker.clears = true → s.shared.rotateRequested = true
  idle : ¬ s.worker.Started → s.shared.activeRequests = 0

/-- A step keeps its place in the cycle, or moves on by its mark. -/
def Fits.After (m : Mark) (s s' : State) : Prop :=
  match mark s s' with
  | none => Fits m s'
  | some m' => m' = m.next ∧ Fits m' s'

private theorem Fits.after_none {m : Mark} {s s' : State} (hmark : mark s s' = none) (h : Fits m s') :
    Fits.After m s s' := by
  rw [Fits.After, hmark]
  exact h

private theorem Fits.after_some {m k : Mark} {s s' : State} (hmark : mark s s' = some k) (hk : k = m.next)
    (h : Fits k s') : Fits.After m s s' := by
  rw [Fits.After, hmark]
  exact ⟨hk, h⟩

private theorem CallerPc.holds_of_admitted {pc : CallerPc} (h : pc.admitted = true) : pc.holds = true := by
  cases pc <;> simp_all [admitted, holds]

private theorem WorkerPc.holds_of_switches {pc : WorkerPc} (h : pc.switches = true) : pc.holds = true := by
  cases pc <;> simp_all [switches, holds]

/-- The four kinds of steps of a caller that nobody has asked to stop. -/
theorem callerNext_kinds {me : Owner} {sh sh' : Shared} {pc pc' : CallerPc}
    (h : callerNext me sh pc = some (pc', sh')) (hstop : sh.stopRequested = false) :
    (sh'.activeRequests = sh.activeRequests ∧ sh'.rotateRequested = sh.rotateRequested ∧ pc ≠ .endRotate ∧
        pc' ≠ .endRotate ∧
        (pc'.admitted = true → pc.holds = true ∧
          (pc.admitted = true ∨ sh.activeRequests ≠ 0 ∨ sh.rotateRequested = false))) ∨
      (pc = .beginAdd ∧ pc' = .beginNotify ∧ sh' = { sh with activeRequests := sh.activeRequests + 1 }) ∨
      (∃ begun current, pc = .endStore begun current ∧ pc' = (if current = 1 then .endRotate else .endNotify) ∧
        sh' = { sh with activeRequests := current - 1 }) ∨
      (pc = .endRotate ∧ pc' = .endNotify ∧ sh' = { sh with rotateRequested := true }) := by
  cases pc <;> grind -ring -linarith [callerNext, CallerPc.admitted, CallerPc.holds, Shared.lock, Shared.unlock]

/-- The worker passes the gate, or leaves both counter and flag as they are. -/
theorem workerNext_kinds {P : Platform} {sh sh' : Shared} {pc pc' : WorkerPc}
    (h : workerNext P sh pc = some (pc', sh')) :
    (pc.clears = true ∧ pc'.switches = true ∧ pc'.clears = false ∧
        sh' = { sh with rotateRequested := false }) ∨
      (pc.clears = false ∧ pc.notifies = false ∧ pc'.switches = pc.switches ∧
        sh'.activeRequests = sh.activeRequests ∧ sh'.rotateRequested = sh.rotateRequested ∧
        (pc'.samples = true → sh.activeRequests ≠ 0) ∧ (pc'.clears = true → sh.rotateRequested = true) ∧
        (pc.Started → pc'.Started)) := by
  revert h
  fun_cases workerNext P sh pc <;>
    grind -ring -linarith [WorkerPc.clears, WorkerPc.notifies, WorkerPc.switches, WorkerPc.samples, WorkerPc.Started,
      Shared.lock, Shared.unlock]

private theorem mark_caller {s : State} {sh : Shared} {callers : List CallerPc} :
    mark s { s with shared := sh, callers := callers } = activeMark s.shared sh := by
  simp [mark]

private theorem activeMark_same {sh sh' : Shared} (h : sh'.activeRequests = sh.activeRequests) :
    activeMark sh sh' = none := by
  rw [activeMark, h]
  simp

namespace Fits

variable {m : Mark} {s : State}

private theorem mark_of_active (h : Fits m s) {m' : Mark} (hm : m' ≠ .begins) (hm' : m = m') :
    s.shared.activeRequests = 0 := by
  by_contra hactive
  exact hm (hm'.symm.trans (h.active.1 hactive))

/-- A step of a caller that changes neither the counter nor the flag. -/
theorem caller_still (h : Fits m s) (hlock : Locked s) {i : Nat} {pc pc' : CallerPc} {sh : Shared}
    (hpc : s.callers[i]? = some pc) (hactive : sh.activeRequests = s.shared.activeRequests)
    (hrotate : sh.rotateRequested = s.shared.rotateRequested) (hne : pc ≠ .endRotate) (hne' : pc' ≠ .endRotate)
    (hopen : pc'.admitted = true → pc.holds = true ∧
      (pc.admitted = true ∨ s.shared.activeRequests ≠ 0 ∨ s.shared.rotateRequested = false)) :
    Fits m { s with shared := sh, callers := s.callers.set i pc' } := by
  obtain ⟨hlt, -⟩ := List.getElem?_eq_some_iff.1 hpc
  refine ⟨?_, h.switching, ?_, fun hm => ?_, fun hm j pc₁ hj => ?_, fun j hj => ?_, h.settled⟩
  · show sh.activeRequests ≠ 0 ↔ m = .begins
    rw [hactive]
    exact h.active
  · show m = .passes ∨ m = .completes → sh.rotateRequested = false
    rw [hrotate]
    exact h.served
  · show sh.rotateRequested = true ∨ _
    rw [hrotate]
    refine (h.asked hm).imp_right ?_
    rintro ⟨j, hj⟩
    have hij : i ≠ j := by
      rintro rfl
      rw [hpc] at hj
      exact hne (Option.some.inj hj)
    exact ⟨j, (List.getElem?_set_ne hij).trans hj⟩
  · rcases getElem?_set_cases hj with ⟨-, rfl⟩ | ⟨-, hj⟩
    · rw [Bool.eq_false_iff]
      intro htaken
      obtain ⟨hholds, hbefore⟩ := hopen htaken
      have hidle : s.shared.activeRequests = 0 := by
        by_contra hbusy
        rw [h.active.1 hbusy] at hm
        cases hm
      rcases hbefore with hbefore | hbusy | hlowered
      · rw [h.closed hm i pc hpc] at hbefore
        cases hbefore
      · exact hbusy hidle
      · -- the flag is about to be raised, by a caller that has the mutex
        rcases h.asked hm with hraised | ⟨k, hk⟩
        · rw [hlowered] at hraised
          cases hraised
        · have hik := hlock.caller_unique hpc hk hholds rfl
          rw [hik, hk] at hpc
          exact hne (Option.some.inj hpc).symm
    · exact h.closed hm j pc₁ hj
  · rcases getElem?_set_cases hj with ⟨-, heq⟩ | ⟨-, hj⟩
    · exact absurd heq.symm hne'
    · exact h.ender j hj

/-- A request begins: the counter is counted up. -/
theorem caller_begins (h : Fits m s) (hlock : Locked s) {i : Nat} (hpc : s.callers[i]? = some .beginAdd)
    (hpos : s.shared.activeRequests + 1 ≠ 0) :
    Fits.After m s { s with
      shared := { s.shared with activeRequests := s.shared.activeRequests + 1 }
      callers := s.callers.set i .beginNotify } := by
  have hworker := hlock.caller_not_worker hpc rfl
  have hswitches : s.worker.switches = false := by
    rw [Bool.eq_false_iff]
    intro hswitches
    rw [WorkerPc.holds_of_switches hswitches] at hworker
    cases hworker
  have hnotEnds : m ≠ .ends := by
    intro hm
    have := h.closed hm i _ hpc
    cases this
  have hnotPasses : m ≠ .passes := by
    intro hm
    rw [h.switching.2 hm] at hswitches
    cases hswitches
  have hfits : Fits .begins { s with
      shared := { s.shared with activeRequests := s.shared.activeRequests + 1 }
      callers := s.callers.set i .beginNotify } := by
    refine ⟨⟨fun _ => rfl, fun _ => hpos⟩, ⟨fun hs => ?_, fun hm => (nomatch hm)⟩, fun hm => ?_, fun hm => (nomatch hm),
      fun hm => (nomatch hm), fun j hj => ?_, fun hm => (nomatch hm)⟩
    · exact absurd hs (by rw [hswitches]; decide)
    · rcases hm with hm | hm <;> cases hm
    · rcases getElem?_set_cases hj with ⟨-, heq⟩ | ⟨-, hj⟩
      · cases heq
      · exact absurd (h.ender j hj) hnotEnds
  cases m with
  | begins =>
    refine after_none ?_ hfits
    rw [mark_caller, activeMark]
    simp [h.active.2 rfl, hpos]
  | ends => exact absurd rfl hnotEnds
  | passes => exact absurd rfl hnotPasses
  | completes =>
    refine after_some ?_ (by rfl) hfits
    rw [mark_caller, activeMark, if_pos ⟨h.mark_of_active (by decide) rfl, hpos⟩]

/-- A request ends: the counter is counted down, and with the last request the busy period ends. -/
theorem caller_ends (h : Fits m s) (hlock : Locked s) {i : Nat} {begun : Bool} {current : UInt32}
    (hpc : s.callers[i]? = some (.endStore begun current))
    (hcurrent : current = s.shared.activeRequests ∧ current ≠ 0) :
    Fits.After m s { s with
      shared := { s.shared with activeRequests := current - 1 }
      callers := s.callers.set i (if current = 1 then .endRotate else .endNotify) } := by
  obtain ⟨hlt, -⟩ := List.getElem?_eq_some_iff.1 hpc
  have hbusy : s.shared.activeRequests ≠ 0 := hcurrent.1 ▸ hcurrent.2
  obtain rfl := h.active.1 hbusy
  have hnotSwitching : ¬ s.worker.switches = true := fun hs => nomatch h.switching.1 hs
  by_cases hlast : current = 1
  · subst hlast
    have hidle : (1 : UInt32) - 1 = 0 := by decide
    rw [if_pos rfl, hidle]
    refine after_some ?_ (by rfl) (k := .ends) ⟨⟨fun hne => absurd rfl hne, fun hm => (nomatch hm)⟩,
      ⟨fun hs => absurd hs hnotSwitching, fun hm => (nomatch hm)⟩, fun hm => ?_,
      fun _ => .inr ⟨i, List.getElem?_set_self hlt⟩, fun _ j pc hj => ?_, fun _ _ => rfl, fun hm => (nomatch hm)⟩
    · rw [mark_caller, activeMark, if_neg fun hzero => hbusy hzero.1, if_pos ⟨hbusy, rfl⟩]
    · rcases hm with hm | hm <;> cases hm
    · rcases getElem?_set_cases hj with ⟨-, rfl⟩ | ⟨hij, hj⟩
      · rfl
      · rw [Bool.eq_false_iff]
        intro htaken
        exact hij (hlock.caller_unique hj hpc (CallerPc.holds_of_admitted htaken) rfl)
  · have hmore : current - 1 ≠ 0 := by
      intro hzero
      have hsum := UInt32.sub_add_cancel current 1
      rw [hzero] at hsum
      exact hlast hsum.symm
    rw [if_neg hlast]
    refine after_none ?_ ⟨⟨fun _ => rfl, fun _ => hmore⟩, h.switching, fun hm => ?_, fun hm => (nomatch hm),
      fun hm => (nomatch hm), fun j hj => ?_, fun hm => (nomatch hm)⟩
    · rw [mark_caller, activeMark, if_neg fun hzero => hbusy hzero.1, if_neg fun hzero => hmore hzero.2]
    · rcases hm with hm | hm <;> cases hm
    · rcases getElem?_set_cases hj with ⟨-, heq⟩ | ⟨-, hj⟩
      · cases heq
      · exact h.ender j hj

/-- The last request of the busy period asks for a rotation. -/
theorem caller_asks (h : Fits m s) {i : Nat} (hpc : s.callers[i]? = some .endRotate) :
    Fits.After m s { s with
      shared := { s.shared with rotateRequested := true }
      callers := s.callers.set i .endNotify } := by
  obtain rfl := h.ender i hpc
  refine after_none ?_ ⟨h.active, h.switching, fun hm => ?_, fun _ => .inl rfl, fun hm j pc hj => ?_, fun j hj => rfl,
    fun hm => (nomatch hm)⟩
  · rw [mark_caller]
    exact activeMark_same rfl
  · rcases hm with hm | hm <;> cases hm
  · rcases getElem?_set_cases hj with ⟨-, rfl⟩ | ⟨-, hj⟩
    · rfl
    · exact h.closed hm j pc hj

theorem callerStep (h : Fits m s) (hlock : Locked s) (hcount : Counted s) {i : Nat} {pc pc' : CallerPc} {sh : Shared}
    (hpc : s.callers[i]? = some pc) (hnext : callerNext (.caller i) s.shared pc = some (pc', sh))
    (hcount' : Counted { s with shared := sh, callers := s.callers.set i pc' }) :
    Fits.After m s { s with shared := sh, callers := s.callers.set i pc' } := by
  obtain ⟨hlt, -⟩ := List.getElem?_eq_some_iff.1 hpc
  rcases callerNext_kinds hnext hcount.running with
    ⟨hactive, hrotate, hne, hne', hopen⟩ | ⟨rfl, rfl, rfl⟩ | ⟨begun, current, rfl, rfl, rfl⟩ | ⟨rfl, rfl, rfl⟩
  · refine after_none ?_ (h.caller_still hlock hpc hactive hrotate hne hne' hopen)
    rw [mark_caller]
    exact activeMark_same hactive
  · refine h.caller_begins hlock hpc fun hzero => ?_
    have hpos := hcount'.pos (List.getElem?_set_self hlt) rfl
    rw [hzero] at hpos
    exact Nat.not_succ_le_zero 0 hpos
  · exact h.caller_ends hlock hpc (hcount.current i _ hpc)
  · exact h.caller_asks hpc

/-- The worker lowers the flag behind the gate: a rotation passes. -/
theorem worker_passes (h : Fits m s) (hlock : Locked s) (hgate : Gated s) (hsteer : Steered s) {pc : WorkerPc}
    (hclears : s.worker.clears = true) (hswitches : pc.switches = true) (hcleared : pc.clears = false) :
    Fits.After m s { s with shared := { s.shared with rotateRequested := false }, worker := pc } := by
  have hpast : s.worker.pastGate = true ∧ s.worker.switches = false ∧ s.worker.holds = true := by
    revert hclears
    cases s.worker <;> simp [WorkerPc.clears, WorkerPc.pastGate, WorkerPc.switches, WorkerPc.holds]
  have hidle := hgate.idle hpast.1
  have hpasses : Fits .passes { s with shared := { s.shared with rotateRequested := false }, worker := pc } := by
    refine ⟨⟨fun hne => absurd hidle hne, by simp⟩, ⟨fun _ => rfl, fun _ => hswitches⟩, fun _ => rfl, by simp, by simp,
      fun i hi => ?_, by simp⟩
    have hfree := hlock.caller_not_worker hi rfl
    rw [hpast.2.2] at hfree
    cases hfree
  refine after_some ?_ ?_ hpasses
  · simp [mark, hclears, hcleared]
  · cases m with
    | begins => exact absurd hidle (h.active.2 rfl)
    | ends => rfl
    | passes =>
      have hs := h.switching.2 rfl
      rw [hpast.2.1] at hs
      cases hs
    | completes =>
      have hraised := hsteer.clears hclears
      rw [h.served (.inr rfl)] at hraised
      cases hraised

private theorem worker_still (h : Fits m s) {pc : WorkerPc} {sh : Shared} (hclears : s.worker.clears = false)
    (hnotifies : s.worker.notifies = false) (hswitches : pc.switches = s.worker.switches)
    (hactive : sh.activeRequests = s.shared.activeRequests) (hrotate : sh.rotateRequested = s.shared.rotateRequested)
    (hsamples : pc.samples = true → s.shared.activeRequests ≠ 0) :
    Fits.After m s { s with shared := sh, worker := pc } := by
  refine after_none ?_ ⟨?_, ?_, ?_, ?_, h.closed, h.ender, fun hm => ?_⟩
  · simp [mark, hclears, hnotifies, activeMark_same hactive]
  · show sh.activeRequests ≠ 0 ↔ m = .begins
    rw [hactive]
    exact h.active
  · show pc.switches = true ↔ m = .passes
    rw [hswitches]
    exact h.switching
  · show m = .passes ∨ m = .completes → sh.rotateRequested = false
    rw [hrotate]
    exact h.served
  · show m = .ends → sh.rotateRequested = true ∨ _
    rw [hrotate]
    exact h.asked
  · rw [Bool.eq_false_iff]
    intro hpc
    have hm' := h.active.1 (hsamples hpc)
    rw [hm] at hm'
    cases hm'

theorem workerStep {P : Platform} (h : Fits m s) (hlock : Locked s) (hgate : Gated s) (hsteer : Steered s)
    {pc : WorkerPc} {sh : Shared} (hnext : workerNext P s.shared s.worker = some (pc, sh)) :
    Fits.After m s { s with shared := sh, worker := pc } := by
  rcases workerNext_kinds hnext with
    ⟨hclears, hswitches, hcleared, rfl⟩ | ⟨hclears, hnotifies, hswitches, hactive, hrotate, hsamples, -, -⟩
  · exact h.worker_passes hlock hgate hsteer hclears hswitches hcleared
  · exact h.worker_still hclears hnotifies hswitches hactive hrotate hsamples

/-- The notification of the rotation completes it. -/
theorem worker_completes (h : Fits m s) (hlock : Locked s) (hpc : s.worker = .gateNotify) :
    Fits.After m s { s with worker := .gateUnlock, callers := s.wakeAll } := by
  obtain rfl : m = .passes := h.switching.1 (by rw [hpc]; rfl)
  refine after_some ?_ (by rfl) (k := .completes) ⟨⟨fun hne => ?_, fun hm => (nomatch hm)⟩,
    ⟨fun hs => (nomatch hs), fun hm => (nomatch hm)⟩, fun _ => h.served (.inl rfl), fun hm => (nomatch hm),
    fun hm => (nomatch hm), fun i hi => ?_, fun _ => rfl⟩
  · simp [mark, hpc, WorkerPc.clears, WorkerPc.notifies]
  · have := h.active.1 hne
    cases this
  · obtain ⟨pc, hget, hwake⟩ := State.wakeAll_getElem hi
    have hholds : pc.holds = true := by
      rw [← CallerPc.holds_wake, hwake]
      rfl
    have hfree := hlock.caller_not_worker hget hholds
    rw [hpc] at hfree
    cases hfree

/-- A request of the device work; only a sampling iteration raises the flag. -/
theorem deviceStep (h : Fits m s) (hsteer : Steered s) {o : Op} {k : o.Answer → WorkerPc} {r : o.Answer} {w : World}
    (hask : s.worker.Asks o k) :
    Fits.After m s { s with worker := k r, world := w, shared := s.shared.request o } := by
  have hworker : s.worker.clears = false ∧ s.worker.notifies = false ∧ (k r).switches = s.worker.switches ∧
      (k r).samples = s.worker.samples := by
    generalize s.worker = pc at hask
    cases hask <;> exact ⟨rfl, rfl, rfl, rfl⟩
  obtain ⟨hclears, hnotifies, hswitches, hsamples⟩ := hworker
  have hunasked : m = .passes ∨ m = .completes → Unasked o := by
    intro hm
    have hquiet := hsteer.quiet
    have hnotSampling : s.worker.samples = false := by
      rcases hm with hm | hm
      · have hs := h.switching.2 hm
        cases hpc : s.worker <;> simp_all [WorkerPc.samples, WorkerPc.switches]
      · exact h.settled hm
    generalize s.worker = pc at hask hquiet hnotSampling
    cases hask with
    | starting => exact hquiet.1
    | sampling => cases hnotSampling
    | rotating => exact hquiet.1
    | reporting => exact hquiet.1
    | closing => exact hquiet.1
  refine after_none ?_ ⟨?_, ?_, fun hm => ?_, fun hm => ?_, h.closed, h.ender, fun hm => ?_⟩
  · simp [mark, hclears, hnotifies, activeMark_same]
  · show (s.shared.request o).activeRequests ≠ 0 ↔ m = .begins
    rw [Shared.activeRequests_request]
    exact h.active
  · show (k r).switches = true ↔ m = .passes
    rw [hswitches]
    exact h.switching
  · have ho := hunasked hm
    cases o <;> first | exact h.served hm | exact ho.elim
  · refine (h.asked hm).imp_left fun hraised => ?_
    cases o <;> first | exact hraised | rfl
  · exact hsamples.trans (h.settled hm)

end Fits

theorem Steered.step {P : Platform} {E : Env Op Op.Answer World} {s s' : State} {l : Option Op} (h : Steered s)
    (hs : Step P E s l s') : Steered s' := by
  cases hs with
  | @caller i pc pc' sh hstart hpc hnext =>
    refine ⟨h.quiet, fun hclears => ?_, fun hnot => absurd hstart hnot⟩
    exact (callerNext_rotate hnext).1 (h.clears hclears)
  | @worker pc sh hnext =>
    refine ⟨workerNext_quiet hnext, fun hclears => ?_, fun hnot => ?_⟩
    · rcases workerNext_kinds hnext with ⟨-, -, hcleared, -⟩ | ⟨-, -, -, -, hrotate, -, hraised, -⟩
      · rw [hcleared] at hclears
        cases hclears
      · exact hrotate.trans (hraised hclears)
    · rcases workerNext_kinds hnext with ⟨hcleared, -, -, rfl⟩ | ⟨-, -, -, hactive, -, -, -, hstarted⟩
      · refine h.idle fun hstart => hnot ?_
        exact (workerNext_stop hnext hstart).1
      · exact hactive.trans (h.idle fun hstart => hnot (hstarted hstart))
  | gateNotify hpc => exact ⟨trivial, fun hclears => (nomatch hclears), fun hnot => absurd trivial hnot⟩
  | @request o k r w hask _ =>
    refine ⟨hask.quiet h.quiet _, fun hclears => ?_, fun hnot => ?_⟩
    · generalize s.worker = pc at hask
      cases hask <;> cases hclears
    · rw [Shared.activeRequests_request]
      exact h.idle fun hstart => hnot (hask.started hstart _)
  | callStop _ _ => exact ⟨h.quiet, h.clears, h.idle⟩
  | storeFlag _ => exact ⟨h.quiet, h.clears, h.idle⟩
  | notifyWake _ => exact ⟨h.quiet, h.clears, h.idle⟩
  | notifyBoundary _ => exact ⟨h.quiet, h.clears, h.idle⟩
  | join _ _ => exact ⟨h.quiet, h.clears, h.idle⟩

theorem Steered.reachable {P : Platform} {E : Env Op Op.Answer World} {C : State → Prop} {n : Nat} {s : State}
    (h : Reachable P E C n s) : Steered s := by
  induction h with
  | initial => exact ⟨initializeImpl_unasked P, fun hclears => (nomatch hclears), fun _ => rfl⟩
  | step _ hs _ ih => exact ih.step hs

theorem Fits.step {P : Platform} {E : Env Op Op.Answer World} {m : Mark} {s s' : State} {l : Option Op} (h : Fits m s)
    (hlock : Locked s) (hgate : Gated s) (hsteer : Steered s) (hcount : Counted s) (hs : Step P E s l s')
    (hcount' : Counted s') (hstop : s'.stopper = .notCalled) : Fits.After m s s' := by
  cases hs with
  | caller _ hpc hnext => exact h.callerStep hlock hcount hpc hnext hcount'
  | worker hnext => exact h.workerStep hlock hgate hsteer hnext
  | gateNotify hpc => exact h.worker_completes hlock hpc
  | request hask _ => exact h.deviceStep hsteer hask
  | callStop _ _ => cases hstop
  | storeFlag _ => cases hstop
  | notifyWake _ => cases hstop
  | notifyBoundary _ => cases hstop
  | join _ _ => cases hstop

/-! ### Runs -/

/-- The last mark of a log; a run starts as if a rotation had just been completed. -/
def lastMark (log : List Mark) : Mark := log.getLast?.getD .completes

/-- The marks of a run follow each other in the cycle. -/
def Cyclic (log : List Mark) : Prop := List.IsChain (fun m m' => m' = Mark.next m) log

@[simp] theorem lastMark_append_singleton (log : List Mark) (m : Mark) : lastMark (log ++ [m]) = m := by
  simp [lastMark]

theorem Cyclic.append {log : List Mark} (h : Cyclic log) {m : Mark} (hm : m = (lastMark log).next) :
    Cyclic (log ++ [m]) := by
  refine List.IsChain.append h (List.isChain_singleton m) fun m₁ hlast m₂ hfirst => ?_
  obtain rfl : m = m₂ := by simpa using hfirst
  rw [hm, lastMark, Option.mem_def.1 hlast]
  rfl

theorem Logged.fits {P : Platform} {E : Env Op Op.Answer World} {n : Nat} {log : List Mark} {s : State}
    (h : Logged P E FewOutstanding n log s) (hstop : s.stopper = .notCalled) : Cyclic log ∧ Fits (lastMark log) s := by
  induction h with
  | initial =>
    refine ⟨List.isChain_nil, ⟨fun hne => absurd rfl hne, fun hm => (nomatch hm)⟩,
      ⟨fun hs => (nomatch hs), fun hm => (nomatch hm)⟩,
      fun _ => rfl, fun hm => (nomatch hm), fun hm => (nomatch hm), fun i hi => ?_, fun _ => rfl⟩
    have hidle := (List.mem_replicate.1 (List.mem_of_getElem? hi)).2
    cases hidle
  | @step log s s' l hlog hs hfew ih =>
    have hbefore := hs.notCalled hstop
    have hr := hlog.reachable
    obtain ⟨hcyclic, hfits⟩ := ih hbefore
    have hafter := hfits.step (Locked.reachable hr) (Gated.reachable hr) (Steered.reachable hr)
      (Counted.reachable hr hbefore) hs (Counted.reachable (hr.step hs hfew) hstop) hstop
    unfold Fits.After at hafter
    cases hmark : mark s s' with
    | none =>
      rw [hmark] at hafter
      rw [Option.toList_none, List.append_nil]
      exact ⟨hcyclic, hafter⟩
    | some m =>
      rw [hmark] at hafter
      rw [Option.toList_some, lastMark_append_singleton]
      exact ⟨hcyclic.append hafter.1, hafter.2⟩

/-- A step inside a busy period. -/
def BusyStep (P : Platform) (E : Env Op Op.Answer World) (s s' : State) : Prop :=
  s.shared.activeRequests ≠ 0 ∧ s'.shared.activeRequests ≠ 0 ∧ ∃ l, Step P E s l s'

/-- Inside a busy period nothing but calm device work touches the devices. -/
theorem BusyStep.active {P : Platform} {s s' : State} (h : BusyStep P env s s') (hgate : Gated s) (hsteer : Steered s)
    (d : Nat) : (s'.world.mem.device d).activeBankIndex = (s.world.mem.device d).activeBankIndex := by
  obtain ⟨hbusy, -, l, hs⟩ := h
  cases hs with
  | @request o k r w hask hanswer =>
    have hcalm : Calm o := by
      have hstart : s.worker.Started := by
        by_contra hnot
        exact hbusy (hsteer.idle hnot)
      -- the gate lets only an idle collector through
      have hpast : s.worker.pastGate = false := by
        rw [Bool.eq_false_iff]
        exact fun hpast => hbusy (hgate.idle hpast)
      have hwork := hgate.calm
      generalize s.worker = pc at hask hstart hpast hwork
      cases hask with
      | starting => exact hstart.elim
      | sampling => exact hwork.1
      | rotating => cases hpast
      | reporting => exact hwork.1
      | closing => exact hwork.1
    exact ((env_calm hcalm hanswer).mem.device d).active
  | _ => rfl

private theorem busy_active {P : Platform} {n : Nat} {s s' : State} (h : Reachable P env (fun _ => True) n s)
    (hbusy : Relation.ReflTransGen (BusyStep P env) s s') (d : Nat) :
    (s'.world.mem.device d).activeBankIndex = (s.world.mem.device d).activeBankIndex := by
  have hrun : Reachable P env (fun _ => True) n s' ∧
      (s'.world.mem.device d).activeBankIndex = (s.world.mem.device d).activeBankIndex := by
    induction hbusy with
    | refl => exact ⟨h, rfl⟩
    | tail _ hstep ih =>
      obtain ⟨hr, hactive⟩ := ih
      -- the state before the step is itself reached by a run, so its gate and its phase are those of the invariants
      have hsame := hstep.active (Gated.reachable hr) (Steered.reachable hr) d
      obtain ⟨-, -, l, hs⟩ := hstep
      exact ⟨hr.step hs trivial, hsame.trans hactive⟩
  exact hrun.2

/-- Between two busy periods exactly one rotation passes the gate, and it is complete before the second one begins; a
busy period begins with the worker outside of a sampling iteration, and never changes the active bank of a device. -/
theorem one_rotation_between_periods (P : Platform) (n : Nat) {log : List Mark} {s : State}
    (h : Logged P env FewOutstanding n log s) (hstop : s.stopper = .notCalled) :
    (∀ pre mid post, log = pre ++ .ends :: (mid ++ .begins :: post) → .begins ∉ mid → mid = [.passes, .completes]) ∧
      (∀ l s', Step P env s l s' → FewOutstanding s' → s'.stopper = .notCalled → mark s s' = some .begins →
        s.worker.samples = false) ∧
      ∀ s', Relation.ReflTransGen (BusyStep P env) s s' →
        ∀ d, (s'.world.mem.device d).activeBankIndex = (s.world.mem.device d).activeBankIndex := by
  refine ⟨fun pre mid post hlog hmid => ?_, fun l s' hs hfew hstop' hmark => ?_, fun s' hbusy d => ?_⟩
  · have hcyclic := (h.fits hstop).1
    rw [hlog] at hcyclic
    exact between_periods hcyclic hmid
  · have hfits := (h.fits hstop).2
    have hr := h.reachable
    have hafter := hfits.step (Locked.reachable hr) (Gated.reachable hr) (Steered.reachable hr)
      (Counted.reachable hr hstop) hs (Counted.reachable (hr.step hs hfew) hstop') hstop'
    rw [Fits.After, hmark] at hafter
    refine hfits.settled ?_
    cases hm : lastMark log with
    | completes => rfl
    | _ =>
      rw [hm] at hafter
      cases hafter.1
  · exact busy_active (h.reachable.mono (fun _ _ _ _ hE => hE) fun _ _ => trivial) hbusy d

/-! ### A counter that wraps around -/

/-- The marks of `m` steps of a caller. -/
def callerLog (me : Owner) : Nat → CallerPc × Shared → List Mark
  | 0, _ => []
  | m + 1, (pc, sh) =>
    match callerNext me sh pc with
    | some (pc', sh') => (activeMark sh sh').toList ++ callerLog me m (pc', sh')
    | none => []

private theorem logged_callerRun {P : Platform} {E : Env Op Op.Answer World} {C : State → Prop} {n : Nat}
    {log : List Mark}
    {s : State} {i m : Nat} {pc pc' : CallerPc} {sh : Shared} (h : Logged P E C n log s) (hstart : s.worker.Started)
    (hC : ∀ s' : State, s'.callers.length = s.callers.length → C s') (hpc : s.callers[i]? = some pc)
    (hrun : callerRun (.caller i) m (pc, s.shared) = some (pc', sh)) :
    Logged P E C n (log ++ callerLog (.caller i) m (pc, s.shared))
      { s with shared := sh, callers := s.callers.set i pc' } := by
  induction m generalizing s pc log with
  | zero =>
    obtain ⟨hlt, rfl⟩ := List.getElem?_eq_some_iff.1 hpc
    cases hrun
    rw [List.set_getElem_self, callerLog, List.append_nil]
    exact h
  | succ m ih =>
    obtain ⟨⟨pc₁, sh₁⟩, hnext, hrest⟩ := Option.bind_eq_some_iff.1 hrun
    obtain ⟨hlt, -⟩ := List.getElem?_eq_some_iff.1 hpc
    have hstep := h.step (.caller hstart hpc hnext) (hC _ (List.length_set ..))
    have hC' : ∀ s' : State, s'.callers.length = (s.callers.set i pc₁).length → C s' := by
      intro s' hs'
      exact hC s' (hs'.trans (List.length_set ..))
    have hlast := ih hstep hstart hC' (List.getElem?_set_self hlt) hrest
    rw [mark_caller, List.append_assoc] at hlast
    rw [callerLog, hnext]
    simpa only [List.set_set] using hlast

/-- One more caller begins a request. -/
theorem logged_serving {E : Env Op Op.Answer World} {C : State → Prop} {n k : Nat} {log : List Mark}
    (h : Logged barePlatform E C n log (serving n k)) (hC : ∀ s : State, s.callers.length = n → C s) (hk : k < n) :
    Logged barePlatform E C n
      (log ++ (activeMark { activeRequests := UInt32.ofNat k } { activeRequests := UInt32.ofNat (k + 1) }).toList)
      (serving n (k + 1)) := by
  obtain ⟨m, hm, hlog⟩ : ∃ m, callerRun (.caller k) m (.idle, { activeRequests := UInt32.ofNat k })
        = some (.serving true, { activeRequests := UInt32.ofNat k + 1 }) ∧
      callerLog (.caller k) m (.idle, { activeRequests := UInt32.ofNat k })
        = (activeMark { activeRequests := UInt32.ofNat k } { activeRequests := UInt32.ofNat k + 1 }).toList := by
    by_cases hzero : UInt32.ofNat k = 0
    · exact ⟨8, by simp [callerRun, callerLog, callerNext, Shared.lock, Shared.unlock, activeMark, hzero]⟩
    · exact ⟨7, by simp [callerRun, callerLog, callerNext, Shared.lock, Shared.unlock, activeMark, hzero]⟩
  have hrun :=
    logged_callerRun h trivial (fun s hs => hC s (hs.trans (length_serving (Nat.le_of_lt hk)))) (serving_idle hk) hm
  have hnext : UInt32.ofNat k + 1 = UInt32.ofNat (k + 1) := (UInt32.ofNat_add k 1).symm
  have hshared : (serving n k).shared = { activeRequests := UInt32.ofNat k } := rfl
  rw [serving_set hk, hshared, hlog, hnext] at hrun
  exact hrun

/-- With 2³² + 1 callers the request before the last ends the busy period, and the last one begins another. -/
theorem no_rotation_between_periods :
    ∃ pre mid post s,
      Logged barePlatform env (fun _ => True) (2 ^ 32 + 1) (pre ++ .ends :: (mid ++ .begins :: post)) s ∧
      s.worker.Started ∧ s.stopper = .notCalled ∧ .begins ∉ mid ∧ .passes ∉ mid := by
  -- the counter stands at its largest value; the next begin takes it to zero, the one behind that to one
  have hmost : Reachable barePlatform env (fun _ => True) (2 ^ 32 + 1) (serving (2 ^ 32 + 1) (2 ^ 32 - 1)) :=
    reachable_serving (env_respond success) (fun _ _ => trivial) (by decide)
  obtain ⟨log, hlog⟩ := Logged.of_reachable hmost
  have hwrapped := logged_serving hlog (fun _ _ => trivial) (by decide)
  have hagain := logged_serving hwrapped (fun _ _ => trivial) (by decide)
  have hends : (activeMark { activeRequests := UInt32.ofNat (2 ^ 32 - 1) }
      { activeRequests := UInt32.ofNat (2 ^ 32 - 1 + 1) }).toList = [.ends] := by decide
  have hbegins : (activeMark { activeRequests := UInt32.ofNat (2 ^ 32 - 1 + 1) }
      { activeRequests := UInt32.ofNat (2 ^ 32 - 1 + 1 + 1) }).toList = [.begins] := by decide
  rw [hends, hbegins, List.append_assoc] at hagain
  exact ⟨log, [], [], _, hagain, trivial, rfl, List.not_mem_nil, List.not_mem_nil⟩

/-! ### Two busy periods -/

/-- The marks of `m` steps of the worker outside its device work. -/
def workerLog (P : Platform) : Nat → WorkerPc × Shared → List Mark
  | 0, _ => []
  | m + 1, (pc, sh) =>
    match workerNext P sh pc with
    | some (pc', sh') =>
      (if pc.clears && !pc'.clears then some .passes else if pc.notifies && !pc'.notifies then some .completes
        else activeMark sh sh').toList ++ workerLog P m (pc', sh')
    | none => []

private theorem logged_workerRun {P : Platform} {E : Env Op Op.Answer World} {C : State → Prop} {n m : Nat}
    {log : List Mark}
    {s : State} {pc : WorkerPc} {sh : Shared} (h : Logged P E C n log s)
    (hC : ∀ s' : State, s'.callers = s.callers → C s')
    (hrun : workerRun P m (s.worker, s.shared) = some (pc, sh)) :
    Logged P E C n (log ++ workerLog P m (s.worker, s.shared)) { s with shared := sh, worker := pc } := by
  induction m generalizing s log with
  | zero =>
    cases hrun
    rw [workerLog, List.append_nil]
    exact h
  | succ m ih =>
    obtain ⟨⟨pc₁, sh₁⟩, hnext, hrest⟩ := Option.bind_eq_some_iff.1 hrun
    have hstep := h.step (.worker hnext) (hC _ rfl)
    have hlast := ih hstep hC hrest
    rw [List.append_assoc] at hlast
    rw [workerLog, hnext]
    exact hlast

/-- Device work has no mark. -/
theorem logged_deviceWork {P : Platform} {E : Env Op Op.Answer World} {C : State → Prop} {n : Nat} {log : List Mark}
    {s : State} {α : Type} {at_ : Routine Empty α → WorkerPc}
    (hask : ∀ o k, (at_ (.call o k)).Asks o fun r => at_ (k r))
    (hat : ∀ p, (at_ p).clears = false ∧ (at_ p).notifies = false)
    {answer : World → (o : Op) → o.Answer × World} (hanswer : ∀ w o, E w o (answer w o).1 (answer w o).2)
    {p p' : Routine Empty α} {w : World} {sh : Shared} (h : Logged P E C n log s) (hw : s.worker = at_ p)
    (hC : ∀ s' : State, s'.callers = s.callers → C s')
    (hrun : p.run (onShared answer) (s.world, s.shared) = (p', w, sh)) :
    Logged P E C n log { s with worker := at_ p', world := w, shared := sh } := by
  induction p generalizing s with
  | ret a =>
    cases hrun
    rw [← hw]
    exact h
  | throw e => exact e.elim
  | call o k ih =>
    have hask' : s.worker.Asks o fun r => at_ (k r) := hw ▸ hask o k
    have hstep := h.step (.request hask' (hanswer s.world o)) (hC _ rfl)
    have hmark : mark s { s with
        worker := at_ (k (answer s.world o).1), world := (answer s.world o).2, shared := s.shared.request o } =
          none := by
      simp [mark, hw, hat, activeMark_same]
    rw [hmark, Option.toList_none, List.append_nil] at hstep
    have hlast := ih (answer s.world o).1 hstep rfl hC hrun
    exact hlast

/-- The rotation of `requestOver` succeeds. -/
def rotationWork : Routine Empty Unit × (World × Shared) :=
  (rotate barePlatform).run (onShared (respond success)) (startWork.2.1, requestOver.shared)

private theorem rotationWork_eq : rotationWork = (.ret (), rotationWork.2.1, requestOver.shared) := rfl

/-- The second request of the caller is served, with the other bank of the device. -/
def secondPeriod : State where
  shared := { activeRequests := 1 }
  callers := [.serving true]
  worker := .top
  stopper := .notCalled
  world := rotationWork.2.1

private theorem logged_secondPeriod : ∃ pre, Logged barePlatform env FewOutstanding 1
    (pre ++ .ends :: ([.passes, .completes] ++ [.begins])) secondPeriod := by
  have hfew : ∀ s : State, s.callers.length = 1 → FewOutstanding s := fun _ => few_of_single
  obtain ⟨pre, hserving⟩ := Logged.of_reachable (reachable_serving (env_respond success) hfew (Nat.le_refl 1))
  have hended := logged_callerRun (m := 7) (i := 0) hserving trivial (fun s hs => hfew s hs) rfl rfl
  -- from the end of the request to the rotation behind the gate
  have hgated := logged_workerRun (m := 9) hended (fun s hs => hfew s (congrArg List.length hs)) rfl
  have hrotated := logged_deviceWork (fun _ _ => .rotating) (fun _ => ⟨rfl, rfl⟩) (env_respond success) hgated rfl
    (fun s hs => hfew s (congrArg List.length hs)) rotationWork_eq
  have hnotifying := logged_workerRun (m := 1) hrotated (fun s hs => hfew s (congrArg List.length hs)) rfl
  have hnotified := hnotifying.step (.gateNotify rfl) (hfew _ rfl)
  have hunlocked := logged_workerRun (m := 1) hnotified (fun s hs => hfew s (congrArg List.length hs)) rfl
  -- the report, and back to the top of the loop
  have hreported := logged_deviceWork (fun _ _ => .reporting) (fun _ => ⟨rfl, rfl⟩) (env_respond success) hunlocked rfl
    (fun s hs => hfew s (congrArg List.length hs)) rfl
  have htop := logged_workerRun (m := 1) hreported (fun s hs => hfew s (congrArg List.length hs)) rfl
  have hbegun := logged_callerRun (m := 8) (i := 0) htop trivial (fun s hs => hfew s hs) rfl rfl
  refine ⟨pre, ?_⟩
  simp only [List.append_assoc] at hbegun
  exact hbegun

/-- One caller is served twice; in the second busy period the other bank is the active one. -/
theorem one_rotation_between_periods_one : ∃ pre mid post, .begins ∉ mid ∧
    Logged barePlatform env FewOutstanding 1 (pre ++ .ends :: (mid ++ .begins :: post)) secondPeriod ∧
    mid = [.passes, .completes] ∧
    ∀ s', Relation.ReflTransGen (BusyStep barePlatform env) secondPeriod s' →
      (s'.world.mem.device 0).activeBankIndex = 1 := by
  obtain ⟨pre, hlog⟩ := logged_secondPeriod
  obtain ⟨hmid, -, hactive⟩ := one_rotation_between_periods barePlatform 1 hlog rfl
  have hnot : Mark.begins ∉ [Mark.passes, .completes] := by decide
  exact ⟨pre, _, [], hnot, hlog, hmid pre _ [] rfl hnot, fun s' hs' => hactive s' hs' 0⟩

end CmpUnlocker.Cupti
