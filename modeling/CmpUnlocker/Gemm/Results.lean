import CmpUnlocker.Gemm.RunAll
import Mathlib.Data.List.Nodup

/-!
# The results that `run_all` keeps

Counting calls, returns and results (`Sound`) shows that no device is called twice and that a result on its way to the
dictionary is not in it yet.  So a result that is dropped stays out: a run that returns has the results of all normal
returns if and only if none of its steps loses one (`results_kept_iff`).
-/

namespace CmpUnlocker.Gemm

variable {ι ρ : Type}

/-! ### What is on its way -/

namespace Pc

/-- The main thread has left the batches behind. -/
def Past : Pc ι ρ → Prop
  | draining _ _ | handler | leaving | returned _ | raised _ => True
  | _ => False

/-- There is no pool. -/
def Idle : Pc ι ρ → Prop
  | entry | loop _ | calling _ _ | assigning _ _ _ | closing _ => True
  | _ => False

/-- The result in front of its assignment. -/
def pending : Pc ι ρ → List (ι × ρ)
  | assigning d out _ | storing d out _ => [(d, out)]
  | _ => []

/-- The device whose runner the main thread is in. -/
def active : Pc ι ρ → List ι
  | calling d _ => [d]
  | _ => []

/-- The devices still to be called, but for those in the pool. -/
def todo (devices : List ι) : Pc ι ρ → List ι
  | entry => devices
  | loop rest | calling _ rest | assigning _ _ rest | collecting rest | storing _ _ rest | closing rest => rest.flatten
  | submitting todo rest => todo ++ rest.flatten
  | _ => []

end Pc

def Work.isQueued : Work ρ → Bool
  | queued => true
  | _ => false

def Work.isRunning : Work ρ → Bool
  | running => true
  | _ => false

/-- The result of a future whose call returned normally. -/
def Work.result (d : ι) : Work ρ → List (ι × ρ)
  | finished o => o.result d
  | _ => []

def queuedIn (pool : List (ι × Work ρ)) : List ι := (pool.filter fun e => e.2.isQueued).map Prod.fst

def runningIn (pool : List (ι × Work ρ)) : List ι := (pool.filter fun e => e.2.isRunning).map Prod.fst

/-- The results in the pool. -/
def returnedIn (pool : List (ι × Work ρ)) : List (ι × ρ) := pool.flatMap fun e => e.2.result e.1

@[simp] theorem queuedIn_nil : queuedIn ([] : List (ι × Work ρ)) = [] := rfl

@[simp] theorem runningIn_nil : runningIn ([] : List (ι × Work ρ)) = [] := rfl

@[simp] theorem returnedIn_nil : returnedIn ([] : List (ι × Work ρ)) = [] := rfl

@[simp] theorem queuedIn_append (p q : List (ι × Work ρ)) : queuedIn (p ++ q) = queuedIn p ++ queuedIn q := by
  simp [queuedIn]

@[simp] theorem runningIn_append (p q : List (ι × Work ρ)) : runningIn (p ++ q) = runningIn p ++ runningIn q := by
  simp [runningIn]

@[simp] theorem returnedIn_append (p q : List (ι × Work ρ)) : returnedIn (p ++ q) = returnedIn p ++ returnedIn q := by
  simp [returnedIn]

@[simp] theorem queuedIn_cons (d : ι) (w : Work ρ) (p : List (ι × Work ρ)) :
    queuedIn ((d, w) :: p) = (if w.isQueued then [d] else []) ++ queuedIn p := by
  cases w <;> simp [queuedIn, Work.isQueued]

@[simp] theorem runningIn_cons (d : ι) (w : Work ρ) (p : List (ι × Work ρ)) :
    runningIn ((d, w) :: p) = (if w.isRunning then [d] else []) ++ runningIn p := by
  cases w <;> simp [runningIn, Work.isRunning]

@[simp] theorem returnedIn_cons (d : ι) (w : Work ρ) (p : List (ι × Work ρ)) :
    returnedIn ((d, w) :: p) = w.result d ++ returnedIn p := by
  simp [returnedIn]

private theorem queuedIn_cancel (pool : List (ι × Work ρ)) : queuedIn (pool.map fun e => (e.1, e.2.cancel)) = [] := by
  induction pool with
  | nil => rfl
  | cons e pool ih =>
    obtain ⟨d, w⟩ := e
    cases w <;> simpa [Work.cancel, Work.isQueued] using ih

private theorem runningIn_cancel (pool : List (ι × Work ρ)) :
    runningIn (pool.map fun e => (e.1, e.2.cancel)) = runningIn pool := by
  induction pool with
  | nil => rfl
  | cons e pool ih =>
    obtain ⟨d, w⟩ := e
    cases w <;> simpa [Work.cancel, Work.isRunning] using ih

private theorem returnedIn_cancel (pool : List (ι × Work ρ)) :
    returnedIn (pool.map fun e => (e.1, e.2.cancel)) = returnedIn pool := by
  induction pool with
  | nil => rfl
  | cons e pool ih =>
    obtain ⟨d, w⟩ := e
    cases w <;> simpa [Work.cancel, Work.result] using ih

private theorem slices_flatten {size : Nat} (hsize : 0 < size) (fuel : Nat) (ds : List ι) (hfuel : ds.length ≤ fuel) :
    (slices size fuel ds).flatten = ds := by
  induction fuel generalizing ds with
  | zero =>
    have hnil : ds = [] := List.length_eq_zero_iff.1 (by omega)
    subst hnil
    rfl
  | succ fuel ih =>
    cases ds with
    | nil => rfl
    | cons d ds =>
      have hshort : ((d :: ds).drop size).length ≤ fuel := by
        simp only [List.length_drop, List.length_cons] at hfuel ⊢
        omega
      rw [slices, List.flatten_cons, ih _ hshort, List.take_append_drop]

theorem batchDevices_flatten {devices : List ι} {size : Int} {batches : List (List ι)}
    (h : batchDevices devices size = .ok batches) : batches.flatten = devices := by
  unfold batchDevices at h
  by_cases hsize : size < 1
  · rw [if_pos hsize] at h
    cases h
  · rw [if_neg hsize] at h
    cases h
    have hpos : 0 < size.toNat := by omega
    exact slices_flatten hpos _ _ (Nat.le_refl _)

section

variable [DecidableEq ι]

private theorem put_fresh {d : ι} {out : ρ} {m : List (ι × ρ)} (h : d ∉ m.map Prod.fst) :
    put d out m = m ++ [(d, out)] :=
  if_neg h

/-! ### The count -/

/-- Calls, returns and results, counted for each device. -/
structure Sound (devices : List ι) (s : State ι ρ) : Prop where
  fresh : ∀ a, s.calls.count a + (s.pc.todo devices).count a + (queuedIn s.pool).count a ≤ 1
  called : ∀ a, (s.ends.map Prod.fst).count a + s.pc.active.count a + (runningIn s.pool).count a ≤ s.calls.count a
  kept : ∀ a, (s.perDevice.map Prod.fst).count a + (s.pc.pending.map Prod.fst).count a +
    ((returnedIn s.pool).map Prod.fst).count a ≤ (s.ends.map Prod.fst).count a
  idle : s.pc.Idle → s.pool = []
  stored : ∀ x ∈ s.perDevice, x ∈ s.ends
  pending : ∀ x ∈ s.pc.pending, x ∈ s.ends
  returned : ∀ x ∈ returnedIn s.pool, x ∈ s.ends

namespace Sound

variable {devices : List ι} {size : Int} {s s' : State ι ρ} {e : Event ρ}

/-- The main thread goes elsewhere, with nothing new to do. -/
theorem goto (h : Sound devices s) {pc : Pc ι ρ} {stop : Bool}
    (htodo : ∀ a, (pc.todo devices).count a ≤ (s.pc.todo devices).count a) (hactive : pc.active = [])
    (hpending : pc.pending = []) (hidle : pc.Idle → s.pool = []) : Sound devices { s with pc, stop } where
  fresh a := by
    have hfresh := h.fresh a
    have hle := htodo a
    simp only
    omega
  called a := by
    have hcalled := h.called a
    simp only [hactive, List.count_nil]
    omega
  kept a := by
    have hkept := h.kept a
    simp only [hpending, List.map_nil, List.count_nil]
    omega
  idle := hidle
  stored := h.stored
  pending := by simp [hpending]
  returned := h.returned

/-- A result in front of its assignment is not in the dictionary. -/
theorem pending_fresh (h : Sound devices s) {d : ι} {out : ρ} (hpending : s.pc.pending = [(d, out)]) :
    d ∉ s.perDevice.map Prod.fst := by
  have hfresh := h.fresh d
  have hcalled := h.called d
  have hkept := h.kept d
  simp only [hpending, List.map_cons, List.map_nil, List.count_cons_self, List.count_nil] at hkept
  have hzero : (s.perDevice.map Prod.fst).count d = 0 := by omega
  exact List.count_eq_zero.1 hzero

/-- A result in the pool is not in the dictionary. -/
theorem returned_fresh (h : Sound devices s) {x : ι × ρ} (hx : x ∈ returnedIn s.pool) : x ∉ s.perDevice := by
  intro hmem
  have hfresh := h.fresh x.1
  have hcalled := h.called x.1
  have hkept := h.kept x.1
  have hpool : 0 < ((returnedIn s.pool).map Prod.fst).count x.1 := List.count_pos_iff.2 (List.mem_map_of_mem hx)
  have hdict : 0 < (s.perDevice.map Prod.fst).count x.1 := List.count_pos_iff.2 (List.mem_map_of_mem hmem)
  omega

theorem call (h : Sound devices s) {d : ι} {rest : List (List ι)} (hpc : s.pc = .loop ([d] :: rest)) :
    Sound devices { s with pc := .calling d rest, calls := s.calls ++ [d] } where
  fresh a := by
    have hfresh := h.fresh a
    simp only [hpc, Pc.todo, List.flatten_cons, List.count_append] at hfresh ⊢
    omega
  called a := by
    have hcalled := h.called a
    simp only [hpc, Pc.active, List.count_nil, List.count_append] at hcalled ⊢
    omega
  kept a := by simpa [hpc, Pc.pending] using h.kept a
  idle _ := h.idle (by rw [hpc]; trivial)
  stored := h.stored
  pending := by simp [Pc.pending]
  returned := h.returned

/-- The call of the main thread returns. -/
theorem finished (h : Sound devices s) {d : ι} {out : ρ} {stop : Bool} {rest : List (List ι)}
    (hpc : s.pc = .calling d rest) :
    Sound devices { s with pc := .assigning d out rest, stop, ends := s.ends ++ [(d, out)] } where
  fresh a := by simpa [hpc, Pc.todo] using h.fresh a
  called a := by
    have hcalled := h.called a
    simp only [hpc, Pc.active, List.map_append, List.map_cons, List.map_nil, List.count_append, List.count_nil]
      at hcalled ⊢
    omega
  kept a := by
    have hkept := h.kept a
    simp only [hpc, Pc.pending, List.map_append, List.map_cons, List.map_nil, List.count_append, List.count_nil]
      at hkept ⊢
    omega
  idle _ := h.idle (by rw [hpc]; trivial)
  stored x hx := List.mem_append_left _ (h.stored x hx)
  pending x hx := List.mem_append_right _ hx
  returned x hx := List.mem_append_left _ (h.returned x hx)

/-- The result on its way is assigned. -/
theorem assigned (h : Sound devices s) {d : ι} {out : ρ} {pc : Pc ι ρ} (hpending : s.pc.pending = [(d, out)])
    (htodo : pc.todo devices = s.pc.todo devices) (hactive : pc.active = []) (hnone : pc.pending = [])
    (hidle : pc.Idle → s.pool = []) : Sound devices { s with pc, perDevice := put d out s.perDevice } := by
  have hput : put d out s.perDevice = s.perDevice ++ [(d, out)] := put_fresh (h.pending_fresh hpending)
  refine ⟨fun a => ?_, fun a => ?_, fun a => ?_, hidle, fun x hx => ?_, by simp [hnone], h.returned⟩
  · simpa [htodo] using h.fresh a
  · have hcalled := h.called a
    simp only [hactive, List.count_nil]
    omega
  · have hkept := h.kept a
    simp only [hpending, hput, hnone, List.map_append, List.map_cons, List.map_nil, List.count_append, List.count_nil]
      at hkept ⊢
    omega
  · simp only [hput, List.mem_append] at hx
    rcases hx with hx | hx
    · exact h.stored x hx
    · exact h.pending x (hpending ▸ hx)

theorem submit (h : Sound devices s) {d : ι} {todo : List ι} {rest : List (List ι)}
    (hpc : s.pc = .submitting (d :: todo) rest) :
    Sound devices { s with pc := .submitting todo rest, pool := s.pool ++ [(d, .queued)] } where
  fresh a := by
    have hfresh := h.fresh a
    simp only [hpc, Pc.todo, queuedIn_append, queuedIn_cons, queuedIn_nil, Work.isQueued, if_true, List.append_nil,
      List.cons_append, List.count_append, List.count_cons, List.count_nil] at hfresh ⊢
    omega
  called a := by simpa [hpc, Pc.active, Work.isRunning] using h.called a
  kept a := by simpa [hpc, Pc.pending, Work.result] using h.kept a
  idle hidle := hidle.elim
  stored := h.stored
  pending := by simp [Pc.pending]
  returned := by simpa [Work.result] using h.returned

/-- The first future of the pool is taken off it, and its result if it has one is on its way. -/
theorem collect (h : Sound devices s) {d : ι} {o : Finish ρ} {pool : List (ι × Work ρ)} {pc : Pc ι ρ} {stop : Bool}
    (hpool : s.pool = (d, .finished o) :: pool) (htodo : ∀ a, (pc.todo devices).count a ≤ (s.pc.todo devices).count a)
    (hactive : pc.active = []) (hnone : s.pc.pending = [])
    (hpending : pc.pending = o.result d ∨ pc.pending = []) (hidle : ¬ pc.Idle) :
    Sound devices { s with pc, stop, pool } := by
  have hresult : ∀ x ∈ o.result d, x ∈ s.ends := by
    intro x hx
    exact h.returned x (by rw [hpool]; simp [Work.result, hx])
  refine ⟨fun a => ?_, fun a => ?_, fun a => ?_, fun hi => absurd hi hidle, h.stored, fun x hx => ?_, fun x hx => ?_⟩
  · have hfresh := h.fresh a
    have hle := htodo a
    simp only [hpool, queuedIn_cons, Work.isQueued, Bool.false_eq_true, if_false, List.nil_append] at hfresh
    simp only
    omega
  · have hcalled := h.called a
    simp only [hpool, runningIn_cons, Work.isRunning, Bool.false_eq_true, if_false, List.nil_append] at hcalled
    simp only [hactive, List.count_nil]
    omega
  · have hkept := h.kept a
    simp only [hpool, hnone, returnedIn_cons, Work.result, List.map_append, List.map_nil, List.count_append,
      List.count_nil] at hkept
    rcases hpending with hpending | hpending
    · simp only [hpending]
      omega
    · simp only [hpending, List.map_nil, List.count_nil]
      omega
  · rcases hpending with hpending | hpending
    · exact hresult x (hpending ▸ hx)
    · have hx' : x ∈ pc.pending := hx
      rw [hpending] at hx'
      cases hx'
  · exact h.returned x (by rw [hpool]; simp [Work.result, hx])

theorem cancel (h : Sound devices s) (hpc : ¬ s.pc.Idle) :
    Sound devices { s with pool := s.pool.map fun e => (e.1, e.2.cancel) } where
  fresh a := by
    have hfresh := h.fresh a
    simp only [queuedIn_cancel, List.count_nil]
    omega
  called a := by
    simp only [runningIn_cancel]
    exact h.called a
  kept a := by
    simp only [returnedIn_cancel]
    exact h.kept a
  idle hidle := absurd hidle hpc
  stored := h.stored
  pending := h.pending
  returned := by
    simp only [returnedIn_cancel]
    exact h.returned

theorem taken (h : Sound devices s) {before after : List (ι × Work ρ)} {d : ι}
    (hpool : s.pool = before ++ (d, .queued) :: after) :
    Sound devices { s with pool := before ++ (d, .running) :: after, calls := s.calls ++ [d] } where
  fresh a := by
    have hfresh := h.fresh a
    simp only [hpool, queuedIn_append, queuedIn_cons, Work.isQueued, if_true, Bool.false_eq_true, if_false,
      List.nil_append, List.cons_append, List.count_append, List.count_cons, List.count_nil] at hfresh ⊢
    omega
  called a := by
    have hcalled := h.called a
    simp only [hpool, runningIn_append, runningIn_cons, Work.isRunning, if_true, Bool.false_eq_true, if_false,
      List.nil_append, List.cons_append, List.count_append, List.count_cons, List.count_nil] at hcalled ⊢
    omega
  kept a := by simpa [hpool, Work.result] using h.kept a
  idle hidle := by
    have hnil := h.idle hidle
    rw [hpool] at hnil
    simp at hnil
  stored := h.stored
  pending := h.pending
  returned := by simpa [hpool, Work.result] using h.returned

private theorem map_result (d : ι) (o : Finish ρ) (a : ι) : ((o.result d).map Prod.fst).count a ≤ [d].count a := by
  cases o <;> simp [Finish.result]

theorem ended (h : Sound devices s) {before after : List (ι × Work ρ)} {d : ι} {o : Finish ρ} {stop : Bool}
    (hpool : s.pool = before ++ (d, .running) :: after) :
    Sound devices
      { s with pool := before ++ (d, .finished o) :: after, stop, ends := s.ends ++ o.result d } where
  fresh a := by simpa [hpool, Work.isQueued] using h.fresh a
  called a := by
    have hcalled := h.called a
    have hle := map_result d o a
    simp only [hpool, runningIn_append, runningIn_cons, Work.isRunning, if_true, Bool.false_eq_true, if_false,
      List.nil_append, List.map_append, List.cons_append, List.count_append, List.count_cons, List.count_nil]
      at hcalled hle ⊢
    omega
  kept a := by
    have hkept := h.kept a
    simp only [hpool, returnedIn_append, returnedIn_cons, Work.result, List.nil_append, List.map_append,
      List.count_append] at hkept ⊢
    omega
  idle hidle := by
    have hnil := h.idle hidle
    rw [hpool] at hnil
    simp at hnil
  stored x hx := List.mem_append_left _ (h.stored x hx)
  pending x hx := List.mem_append_left _ (h.pending x hx)
  returned x hx := by
    have hreturned := h.returned x
    simp only [hpool, returnedIn_append, returnedIn_cons, Work.result, List.mem_append, List.nil_append]
      at hx hreturned ⊢
    rcases hx with hx | hx | hx
    · exact .inl (hreturned (.inl hx))
    · exact .inr hx
    · exact .inl (hreturned (.inr hx))

theorem step (h : Sound devices s) (hs : Step devices size s e s') : Sound devices s' := by
  have hsome : ∀ {d : ι} {out : ρ}, (Finish.returned out).result d = [(d, out)] := rfl
  cases hs with
  | enter hpc hbatches =>
    have hflatten := batchDevices_flatten hbatches
    exact h.goto (by simp [hpc, Pc.todo, hflatten]) rfl rfl fun _ => h.idle (by rw [hpc]; trivial)
  | refuse hpc _ => exact h.goto (by simp [Pc.todo]) rfl rfl False.elim
  | halt hpc _ => exact h.goto (by simp [Pc.todo]) rfl rfl False.elim
  | exhausted hpc => exact h.goto (by simp [Pc.todo]) rfl rfl False.elim
  | call hpc _ => exact h.call hpc
  | noDevice hpc _ => exact h.goto (by simp [Pc.todo]) rfl rfl False.elim
  | finished hpc => exact h.finished hpc
  | finishInterrupted hpc => exact h.goto (by simp [Pc.todo]) rfl rfl False.elim
  | finishRaised hpc => exact h.goto (by simp [Pc.todo]) rfl rfl False.elim
  | assign hpc =>
    exact h.assigned (by rw [hpc]; rfl) (by rw [hpc]; rfl) rfl rfl fun _ => h.idle (by rw [hpc]; trivial)
  | pooled hpc _ => exact h.goto (by simp [hpc, Pc.todo]) rfl rfl False.elim
  | submit hpc => exact h.submit hpc
  | submitted hpc => exact h.goto (by simp [hpc, Pc.todo]) rfl rfl False.elim
  | collect hpc hpool =>
    exact h.collect hpool (by simp [hpc, Pc.todo]) rfl (by rw [hpc]; rfl) (.inl rfl) id
  | collectInterrupted hpc hpool =>
    exact h.collect hpool (by simp [Pc.todo]) rfl (by rw [hpc]; rfl) (.inr rfl) id
  | collectRaised hpc hpool =>
    exact h.collect hpool (by simp [Pc.todo]) rfl (by rw [hpc]; rfl) (.inr rfl) id
  | store hpc => exact h.assigned (by rw [hpc]; rfl) (by rw [hpc]; rfl) rfl rfl False.elim
  | collected hpc hpool => exact h.goto (by simp [hpc, Pc.todo]) rfl rfl fun _ => hpool
  | close hpc => exact h.goto (by simp [hpc, Pc.todo]) rfl rfl fun _ => h.idle (by rw [hpc]; trivial)
  | cancel hpc _ => exact h.cancel (by rw [hpc]; exact id)
  | drained hpc _ => exact h.goto (by simp [Pc.todo]) rfl rfl False.elim
  | drainedRaised hpc _ => exact h.goto (by simp [Pc.todo]) rfl rfl False.elim
  | handle hpc => exact h.goto (by simp [Pc.todo]) rfl rfl False.elim
  | leave hpc => exact h.goto (by simp [Pc.todo]) rfl rfl False.elim
  | escape hpc => exact h.goto (by simp [Pc.todo]) rfl rfl False.elim
  | interrupt hpc => exact h.goto (by simp [Pc.todo]) rfl rfl False.elim
  | interruptAssigning hpc => exact h.goto (by simp [Pc.todo]) rfl rfl False.elim
  | interruptCollection hpc => exact h.goto (by simp [Pc.todo]) rfl rfl False.elim
  | interruptStoring hpc => exact h.goto (by simp [Pc.todo]) rfl rfl False.elim
  | interruptDraining hpc => exact h.goto (by simp [Pc.todo]) rfl rfl False.elim
  | interruptClosing hpc => exact h.goto (by simp [Pc.todo]) rfl rfl False.elim
  | taken hpool => exact h.taken hpool
  | ended hpool => exact h.ended hpool

theorem initial (hdevices : devices.Nodup) (stop : Bool) : Sound devices (initial (ρ := ρ) stop) where
  fresh a := by simpa [Gemm.initial, Pc.todo] using List.nodup_iff_count_le_one.1 hdevices a
  called a := by simp [Gemm.initial, Pc.active]
  kept a := by simp [Gemm.initial, Pc.pending]
  idle _ := rfl
  stored := by simp [Gemm.initial]
  pending := by simp [Gemm.initial, Pc.pending]
  returned := by simp [Gemm.initial]

theorem runs (hdevices : devices.Nodup) {log : List (State ι ρ × Event ρ)} (hrun : Runs devices size log s) :
    Sound devices s := by
  induction hrun with
  | initial stop => exact initial hdevices stop
  | step _ hs ih => exact ih.step hs

private theorem calls_nodup (h : Sound devices s) : s.calls.Nodup := by
  rw [List.nodup_iff_count_le_one]
  intro a
  have hfresh := h.fresh a
  omega

end Sound

/-! ### The steps that lose a result -/

/-- The step drops a result of a normal return, or it is such a return after the results have been collected. -/
def Loses (s : State ι ρ) : Event ρ → Prop
  | .main => ∃ rest d o pool, s.pc = .collecting rest ∧ s.pool = (d, .finished o) :: pool ∧ o.result d = [] ∧
      returnedIn pool ≠ []
  | .interrupt => s.pc.pending ≠ [] ∨ ¬ s.pc.Past ∧ returnedIn s.pool ≠ []
  | .done _ o _ => s.pc.Past ∧ ∃ out, o = .returned out
  | _ => False

variable {devices : List ι} {size : Int} {log : List (State ι ρ × Event ρ)} {s s' : State ι ρ} {e : Event ρ}

/-- As long as no step has lost a result, every normal return is in the dictionary or on its way to it; once one has,
the main thread has left the batches and some return is in the dictionary never. -/
structure Followed (log : List (State ι ρ × Event ρ)) (s : State ι ρ) : Prop where
  complete : (∀ p ∈ log, ¬ Loses p.1 p.2) →
    ∀ x ∈ s.ends, x ∈ s.perDevice ∨ x ∈ s.pc.pending ∨ (¬ s.pc.Past ∧ x ∈ returnedIn s.pool)
  lost : (∃ p ∈ log, Loses p.1 p.2) → s.pc.Past ∧ ∃ x ∈ s.ends, x ∉ s.perDevice

namespace Followed

omit [DecidableEq ι] in
/-- A step that loses nothing and hands on what is on its way. -/
theorem of_keeps (hf : Followed log s) (hkeeps : ¬ Loses s e) (hpast : s.pc.Past → s'.pc.Past)
    (hends : s'.ends = s.ends)
    (hon : ∀ x, x ∈ s.perDevice ∨ x ∈ s.pc.pending ∨ (¬ s.pc.Past ∧ x ∈ returnedIn s.pool) →
      x ∈ s'.perDevice ∨ x ∈ s'.pc.pending ∨ (¬ s'.pc.Past ∧ x ∈ returnedIn s'.pool))
    (hback : s.pc.Past → ∀ x ∈ s'.perDevice, x ∈ s.perDevice) : Followed (log ++ [(s, e)]) s' where
  complete hnone x hx := by
    rw [hends] at hx
    exact hon x (hf.complete (fun p hp => hnone p (List.mem_append_left _ hp)) x hx)
  lost hlost := by
    obtain ⟨p, hp, hloses⟩ := hlost
    rcases List.mem_append.1 hp with hp | hp
    · obtain ⟨hpast', x, hx, hmissing⟩ := hf.lost ⟨p, hp, hloses⟩
      exact ⟨hpast hpast', x, hends ▸ hx, fun hmem => hmissing (hback hpast' x hmem)⟩
    · rw [List.mem_singleton.1 hp] at hloses
      exact absurd hloses hkeeps

omit [DecidableEq ι] in
private theorem pending_of_past (h : s.pc.Past) : s.pc.pending = [] := by
  cases hpc : s.pc <;> simp_all [Pc.Past, Pc.pending]

omit [DecidableEq ι] in
/-- Behind the batches nothing is on its way. -/
theorem stays (hf : Followed log s) (hkeeps : ¬ Loses s e) (hpast : s.pc.Past) (hpast' : s'.pc.Past)
    (hends : s'.ends = s.ends) (hdict : s'.perDevice = s.perDevice) : Followed (log ++ [(s, e)]) s' := by
  refine hf.of_keeps hkeeps (fun _ => hpast') hends (fun x hx => ?_) fun _ x hx => hdict ▸ hx
  rcases hx with hx | hx | ⟨hnot, -⟩
  · exact .inl (hdict ▸ hx)
  · rw [pending_of_past hpast] at hx
    cases hx
  · exact absurd hpast hnot

/-- The main thread leaves the batches behind: what is on its way is lost. -/
theorem leaves (h : Sound devices s) (hf : Followed log s) (hpast' : s'.pc.Past)
    (hends : s'.ends = s.ends) (hdict : s'.perDevice = s.perDevice)
    (hloses : Loses s e ↔ s.pc.pending ≠ [] ∨ returnedIn s.pool ≠ []) : Followed (log ++ [(s, e)]) s' := by
  by_cases hway : s.pc.pending ≠ [] ∨ returnedIn s.pool ≠ []
  · have hmissing : ∃ x ∈ s.ends, x ∉ s.perDevice := by
      rcases hway with hpending | hpool
      · cases hpc : s.pc with
        | assigning d out rest =>
          have hp : s.pc.pending = [(d, out)] := by rw [hpc]; rfl
          refine ⟨(d, out), h.pending _ (by simp [hp]), fun hmem => ?_⟩
          exact h.pending_fresh hp (List.mem_map_of_mem hmem)
        | storing d out rest =>
          have hp : s.pc.pending = [(d, out)] := by rw [hpc]; rfl
          refine ⟨(d, out), h.pending _ (by simp [hp]), fun hmem => ?_⟩
          exact h.pending_fresh hp (List.mem_map_of_mem hmem)
        | _ =>
          rw [hpc] at hpending
          exact absurd rfl hpending
      · obtain ⟨x, hx⟩ := List.exists_mem_of_ne_nil _ hpool
        exact ⟨x, h.returned x hx, h.returned_fresh hx⟩
    refine ⟨fun hnone => ?_, fun _ => ⟨hpast', ?_⟩⟩
    · exact absurd (hloses.2 hway) (hnone (s, e) (by simp))
    · rw [hends, hdict]
      exact hmissing
  · have hnone : s.pc.pending = [] ∧ returnedIn s.pool = [] := by simpa using hway
    refine hf.of_keeps (fun hl => hway (hloses.1 hl)) (fun _ => hpast') hends (fun x hx => ?_) fun _ x hx => hdict ▸ hx
    rcases hx with hx | hx | ⟨-, hx⟩
    · exact .inl (hdict ▸ hx)
    · rw [hnone.1] at hx
      cases hx
    · rw [hnone.2] at hx
      cases hx

/-- Leaving where there is no pool loses nothing. -/
theorem leaves_idle (h : Sound devices s) (hf : Followed log s) (hkeeps : ¬ Loses s e) (hidle : s.pc.Idle)
    (hpending : s.pc.pending = []) (hpast' : s'.pc.Past) (hends : s'.ends = s.ends)
    (hdict : s'.perDevice = s.perDevice) : Followed (log ++ [(s, e)]) s' := by
  have hpool := h.idle hidle
  refine hf.leaves h hpast' hends hdict ⟨fun hl => absurd hl hkeeps, fun hway => ?_⟩
  rw [hpending, hpool] at hway
  simp at hway

omit [DecidableEq ι] in
/-- A step of the main thread outside of the collection loses nothing. -/
theorem keeps_main (h : ∀ rest, s.pc ≠ .collecting rest) : ¬ Loses s .main := by
  rintro ⟨rest, d, o, pool, hpc, -⟩
  exact h rest hpc

omit [DecidableEq ι] in
/-- The main thread goes on with the same things on their way. -/
theorem goes (hf : Followed log s) (hkeeps : ¬ Loses s e) (hnot : ¬ s.pc.Past) (hnot' : ¬ s'.pc.Past)
    (hends : s'.ends = s.ends) (hdict : s'.perDevice = s.perDevice) (hpending : s'.pc.pending = s.pc.pending)
    (hpool : returnedIn s'.pool = returnedIn s.pool) : Followed (log ++ [(s, e)]) s' := by
  refine hf.of_keeps hkeeps (fun hpast => absurd hpast hnot) hends (fun x hx => ?_) fun hpast => absurd hpast hnot
  rw [hdict, hpending, hpool]
  rcases hx with hx | hx | ⟨-, hx⟩
  · exact .inl hx
  · exact .inr (.inl hx)
  · exact .inr (.inr ⟨hnot', hx⟩)

/-- A result is assigned. -/
theorem assigns (h : Sound devices s) (hf : Followed log s) {d : ι} {out : ρ} {pc : Pc ι ρ}
    (hkeeps : ¬ Loses s e) (hnot : ¬ s.pc.Past) (hnot' : ¬ pc.Past) (hpending : s.pc.pending = [(d, out)]) :
    Followed (log ++ [(s, e)]) { s with pc, perDevice := put d out s.perDevice } := by
  have hput : put d out s.perDevice = s.perDevice ++ [(d, out)] := put_fresh (h.pending_fresh hpending)
  refine hf.of_keeps hkeeps (fun hpast => absurd hpast hnot) rfl (fun x hx => ?_) fun hpast => absurd hpast hnot
  simp only [hput, List.mem_append]
  rcases hx with hx | hx | ⟨-, hx⟩
  · exact .inl (.inl hx)
  · exact .inl (.inr (hpending ▸ hx))
  · exact .inr (.inr ⟨hnot', hx⟩)

/-- The first future of the pool is collected with the exception of its call. -/
theorem collects (h : Sound devices s) (hf : Followed log s) {rest : List (List ι)} {d : ι} {o : Finish ρ}
    {pool : List (ι × Work ρ)} {pc : Pc ι ρ} {stop : Bool} (hpc : s.pc = .collecting rest)
    (hpool : s.pool = (d, .finished o) :: pool) (ho : o.result d = []) (hpast' : pc.Past) :
    Followed (log ++ [(s, .main)]) { s with pc, stop, pool } := by
  have hreturned : returnedIn s.pool = returnedIn pool := by
    rw [hpool, returnedIn_cons, Work.result, ho, List.nil_append]
  have hpending : s.pc.pending = [] := by
    rw [hpc]
    rfl
  refine hf.leaves h hpast' rfl rfl ⟨?_, fun hway => ⟨rest, d, o, pool, hpc, hpool, ho, ?_⟩⟩
  · rintro ⟨_, _, _, pool', _, hpool', _, hsome⟩
    rw [hpool] at hpool'
    cases hpool'
    exact .inr (hreturned ▸ hsome)
  · rw [hpending, hreturned] at hway
    simpa using hway

/-- The call of the main thread returns. -/
theorem returns (h : Sound devices s) (hf : Followed log s) {d : ι} {out : ρ} {asked stop : Bool}
    {rest : List (List ι)} (hpc : s.pc = .calling d rest) :
    Followed (log ++ [(s, .finish (.returned out) asked)])
      { s with pc := .assigning d out rest, stop, ends := s.ends ++ [(d, out)] } where
  complete hnone x hx := by
    have hpool := h.idle (by rw [hpc]; trivial)
    rcases List.mem_append.1 hx with hx | hx
    · rcases hf.complete (fun p hp => hnone p (List.mem_append_left _ hp)) x hx with hx | hx | ⟨-, hx⟩
      · exact .inl hx
      · rw [hpc] at hx
        cases hx
      · rw [hpool] at hx
        cases hx
    · exact .inr (.inl hx)
  lost hlost := by
    obtain ⟨p, hp, hloses⟩ := hlost
    rcases List.mem_append.1 hp with hp | hp
    · have hpast := (hf.lost ⟨p, hp, hloses⟩).1
      rw [hpc] at hpast
      exact hpast.elim
    · rw [List.mem_singleton.1 hp] at hloses
      exact hloses.elim

/-- A call of a worker ends: behind the batches its result is lost. -/
theorem ends (h : Sound devices s) (hf : Followed log s) {before after : List (ι × Work ρ)} {d : ι} {o : Finish ρ}
    {asked stop : Bool} (hpool : s.pool = before ++ (d, .running) :: after) :
    Followed (log ++ [(s, .done before.length o asked)])
      { s with pool := before ++ (d, .finished o) :: after, stop, ends := s.ends ++ o.result d } where
  complete hnone x hx := by
    have hkeeps := hnone (s, .done before.length o asked) (by simp)
    rcases List.mem_append.1 hx with hx | hx
    · rcases hf.complete (fun p hp => hnone p (List.mem_append_left _ hp)) x hx with hx | hx | ⟨hnot, hx⟩
      · exact .inl hx
      · exact .inr (.inl hx)
      · refine .inr (.inr ⟨hnot, ?_⟩)
        simp only [hpool, returnedIn_append, returnedIn_cons, Work.result, List.nil_append, List.mem_append] at hx ⊢
        rcases hx with hx | hx
        · exact .inl hx
        · exact .inr (.inr hx)
    · refine .inr (.inr ⟨fun hpast => ?_, ?_⟩)
      · cases o with
        | returned out => exact hkeeps ⟨hpast, out, rfl⟩
        | _ => cases hx
      · simp only [returnedIn_append, returnedIn_cons, Work.result, List.mem_append]
        exact .inr (.inl hx)
  lost hlost := by
    obtain ⟨p, hp, hloses⟩ := hlost
    rcases List.mem_append.1 hp with hp | hp
    · obtain ⟨hpast, x, hx, hmissing⟩ := hf.lost ⟨p, hp, hloses⟩
      exact ⟨hpast, x, List.mem_append_left _ hx, hmissing⟩
    · rw [List.mem_singleton.1 hp] at hloses
      obtain ⟨hpast, out, rfl⟩ := hloses
      refine ⟨hpast, (d, out), by simp [Finish.result], fun hmem => ?_⟩
      -- the device is still counted as running, so it has not returned before
      have hfresh := h.fresh d
      have hcalled := h.called d
      have hbefore : 0 < (s.ends.map Prod.fst).count d :=
        List.count_pos_iff.2 (List.mem_map_of_mem (h.stored _ hmem))
      have hrunning : 0 < (runningIn s.pool).count d := by
        rw [hpool]
        exact List.count_pos_iff.2 (by simp [Work.isRunning])
      omega

theorem step (h : Sound devices s) (hf : Followed log s) (hs : Step devices size s e s') :
    Followed (log ++ [(s, e)]) s' := by
  have hidle : ∀ {pc : Pc ι ρ}, s.pc = pc → pc.Idle → s.pc.Idle := fun hpc hi => hpc ▸ hi
  have hnone : ∀ {pc : Pc ι ρ}, s.pc = pc → pc.pending = [] → s.pc.pending = [] := fun hpc hp => hpc ▸ hp
  have hhere : ∀ {pc : Pc ι ρ}, s.pc = pc → ¬ pc.Past → ¬ s.pc.Past := fun hpc hp => hpc ▸ hp
  have hmain : ∀ {pc : Pc ι ρ}, s.pc = pc → (∀ rest, pc ≠ .collecting rest) → ¬ Loses s .main :=
    fun hpc hp => keeps_main (hpc ▸ hp)
  have hstruck : s.pc.Past → ¬ Loses s .interrupt := by
    rintro hpast (hpending | ⟨hnot, -⟩)
    · exact hpending (pending_of_past hpast)
    · exact hnot hpast
  have hstruck' : ¬ s.pc.Past → (Loses s .interrupt ↔ s.pc.pending ≠ [] ∨ returnedIn s.pool ≠ []) := by
    intro hnot
    simp [Loses, hnot]
  cases hs with
  | enter hpc hbatches =>
    exact hf.goes (hmain hpc (by simp)) (hhere hpc id) id rfl rfl (hnone hpc rfl).symm rfl
  | refuse hpc _ => exact hf.leaves_idle h (hmain hpc (by simp)) (hidle hpc trivial) (hnone hpc rfl) trivial rfl rfl
  | halt hpc _ => exact hf.leaves_idle h (hmain hpc (by simp)) (hidle hpc trivial) (hnone hpc rfl) trivial rfl rfl
  | exhausted hpc => exact hf.leaves_idle h (hmain hpc (by simp)) (hidle hpc trivial) (hnone hpc rfl) trivial rfl rfl
  | call hpc _ => exact hf.goes (hmain hpc (by simp)) (hhere hpc id) id rfl rfl (hnone hpc rfl).symm rfl
  | noDevice hpc _ =>
    exact hf.leaves_idle h (hmain hpc (by simp)) (hidle hpc trivial) (hnone hpc rfl) trivial rfl rfl
  | finished hpc => exact hf.returns h hpc
  | finishInterrupted hpc => exact hf.leaves_idle h id (hidle hpc trivial) (hnone hpc rfl) trivial rfl rfl
  | finishRaised hpc => exact hf.leaves_idle h id (hidle hpc trivial) (hnone hpc rfl) trivial rfl rfl
  | assign hpc => exact hf.assigns h (hmain hpc (by simp)) (hhere hpc id) id (by rw [hpc]; rfl)
  | pooled hpc _ => exact hf.goes (hmain hpc (by simp)) (hhere hpc id) id rfl rfl (hnone hpc rfl).symm rfl
  | submit hpc =>
    refine hf.goes (hmain hpc (by simp)) (hhere hpc id) id rfl rfl (hnone hpc rfl).symm ?_
    simp [Work.result]
  | submitted hpc => exact hf.goes (hmain hpc (by simp)) (hhere hpc id) id rfl rfl (hnone hpc rfl).symm rfl
  | @collect d out pool rest hpc hpool =>
    have hkeeps : ¬ Loses s .main := by
      rintro ⟨_, _, _, _, _, hpool', ho, _⟩
      rw [hpool] at hpool'
      cases hpool'
      cases ho
    refine hf.of_keeps hkeeps (fun hpast => absurd hpast (hhere hpc id)) rfl (fun x hx => ?_)
      fun hpast => absurd hpast (hhere hpc id)
    rw [hpool] at hx
    rcases hx with hx | hx | ⟨-, hx⟩
    · exact .inl hx
    · rw [hpc] at hx
      cases hx
    · rcases List.mem_append.1 (returnedIn_cons d _ pool ▸ hx) with hx | hx
      · exact .inr (.inl hx)
      · exact .inr (.inr ⟨id, hx⟩)
  | collectInterrupted hpc hpool => exact hf.collects h hpc hpool rfl trivial
  | collectRaised hpc hpool => exact hf.collects h hpc hpool rfl trivial
  | store hpc => exact hf.assigns h (hmain hpc (by simp)) (hhere hpc id) id (by rw [hpc]; rfl)
  | collected hpc hpool =>
    have hkeeps : ¬ Loses s .main := by
      rintro ⟨_, _, _, _, _, hpool', _⟩
      rw [hpool] at hpool'
      cases hpool'
    exact hf.goes hkeeps (hhere hpc id) id rfl rfl (hnone hpc rfl).symm rfl
  | close hpc => exact hf.goes (hmain hpc (by simp)) (hhere hpc id) id rfl rfl (hnone hpc rfl).symm rfl
  | cancel hpc _ =>
    have hpast : s.pc.Past := by
      rw [hpc]
      trivial
    exact hf.stays (hmain hpc (by simp)) hpast hpast rfl rfl
  | drained hpc _ => exact hf.stays (hmain hpc (by simp)) (by rw [hpc]; trivial) trivial rfl rfl
  | drainedRaised hpc _ => exact hf.stays (hmain hpc (by simp)) (by rw [hpc]; trivial) trivial rfl rfl
  | handle hpc => exact hf.stays (hmain hpc (by simp)) (by rw [hpc]; trivial) trivial rfl rfl
  | leave hpc => exact hf.stays (hmain hpc (by simp)) (by rw [hpc]; trivial) trivial rfl rfl
  | escape hpc =>
    rcases hpc with hpc | hpc | hpc
    · exact hf.leaves h trivial rfl rfl (hstruck' (hhere hpc id))
    · have hpast : s.pc.Past := by
        rw [hpc]
        trivial
      exact hf.stays (hstruck hpast) hpast trivial rfl rfl
    · have hpast : s.pc.Past := by
        rw [hpc]
        trivial
      exact hf.stays (hstruck hpast) hpast trivial rfl rfl
  | interrupt hpc =>
    have hnot : ¬ s.pc.Past := by
      rcases hpc with hpc | hpc <;> exact hhere hpc id
    exact hf.leaves h trivial rfl rfl (hstruck' hnot)
  | interruptAssigning hpc => exact hf.leaves h trivial rfl rfl (hstruck' (hhere hpc id))
  | interruptCollection hpc =>
    have hnot : ¬ s.pc.Past := by
      rcases hpc with hpc | hpc <;> exact hhere hpc id
    exact hf.leaves h trivial rfl rfl (hstruck' hnot)
  | interruptStoring hpc => exact hf.leaves h trivial rfl rfl (hstruck' (hhere hpc id))
  | interruptDraining hpc =>
    have hpast : s.pc.Past := by
      rw [hpc]
      trivial
    exact hf.stays (hstruck hpast) hpast trivial rfl rfl
  | interruptClosing hpc =>
    have hpast : s.pc.Past := by
      rw [hpc]
      trivial
    exact hf.stays (hstruck hpast) hpast trivial rfl rfl
  | taken hpool =>
    refine hf.of_keeps id id rfl (fun x hx => ?_) fun _ x hx => hx
    simpa [hpool, Work.result] using hx
  | ended hpool => exact hf.ends h hpool

theorem runs (hdevices : devices.Nodup) (hrun : Runs devices size log s) : Followed log s := by
  induction hrun with
  | initial stop => exact ⟨fun _ x hx => (nomatch hx), fun ⟨p, hp, _⟩ => (nomatch hp)⟩
  | step h hs ih => exact ih.step (Sound.runs hdevices h) hs

end Followed

/-- A run of `run_all` that returns has kept the result of every call that returned normally, without calling the
runner twice for a device, if and only if none of its steps loses a result. -/
theorem results_kept_iff (hdevices : devices.Nodup) {interrupted : Bool} (hrun : Runs devices size log s)
    (hend : s.pc = .returned interrupted) :
    ((∀ x ∈ s.ends, x ∈ s.perDevice) ∧ s.calls.Nodup) ↔ ∀ p ∈ log, ¬ Loses p.1 p.2 := by
  have hf := Followed.runs hdevices hrun
  have hpast : s.pc.Past := by
    rw [hend]
    trivial
  constructor
  · rintro ⟨hkept, -⟩ p hp hloses
    obtain ⟨-, x, hx, hmissing⟩ := hf.lost ⟨p, hp, hloses⟩
    exact hmissing (hkept x hx)
  · intro hnone
    refine ⟨fun x hx => ?_, (Sound.runs hdevices hrun).calls_nodup⟩
    rcases hf.complete hnone x hx with hx | hx | ⟨hnot, -⟩
    · exact hx
    · rw [Followed.pending_of_past hpast] at hx
      cases hx
    · exact absurd hpast hnot

end

/-! ### Two devices at once -/

/-- Two of three devices run at once and both results are stored; the KeyboardInterrupt that arrives then loses none. -/
theorem results_kept_iff_pooled : ∃ log, ∃ s : State Nat String, Runs [1, 2, 3] (batchSize 2 false 3) log s ∧
    s.pc = .returned true ∧ s.perDevice = [(1, "passed"), (2, "failed")] ∧
    (∀ x ∈ s.ends, x ∈ s.perDevice) ∧ s.calls.Nodup := by
  have h₀ : Runs [1, 2, 3] (batchSize 2 false 3) [] (initial false : State Nat String) := .initial false
  have h₁ := h₀.step (.enter rfl rfl)
  have h₂ := h₁.step (.pooled rfl rfl)
  have h₃ := (h₂.step (.submit rfl)).step (.submit rfl)
  have h₄ := h₃.step (.submitted rfl)
  have h₅ := h₄.step (@Step.taken _ _ _ _ _ _ [] [(2, .queued)] 1 rfl)
  have h₆ := h₅.step (@Step.taken _ _ _ _ _ _ [(1, .running)] [] 2 rfl)
  -- the second runner is the first to return
  have h₇ := h₆.step (@Step.ended _ _ _ _ _ _ [(1, .running)] [] 2 (.returned "failed") false rfl)
  have h₈ := h₇.step
    (@Step.ended _ _ _ _ _ _ [] [(2, .finished (.returned "failed"))] 1 (.returned "passed") false rfl)
  have h₉ := (h₈.step (.collect rfl rfl)).step (.store rfl)
  have h₁₀ := (h₉.step (.collect rfl rfl)).step (.store rfl)
  have h₁₁ := h₁₀.step (@Step.interruptCollection _ _ _ _ _ _ [] [[3]] (.inr rfl))
  have h₁₂ := h₁₁.step (@Step.drained _ _ _ _ _ _ true rfl (by simp))
  have h₁₃ := (h₁₂.step (.handle rfl)).step (.leave rfl)
  refine ⟨_, _, h₁₃, rfl, rfl, (results_kept_iff (by decide) h₁₃ rfl).2 ?_⟩
  simp [Loses, initial, Pc.pending, Pc.Past, Work.result, Finish.result]

/-- Both runners return; the KeyboardInterrupt arrives before the results are collected, and none is kept. -/
theorem results_lost : ∃ log, ∃ s : State Nat String, Runs [1, 2] (batchSize 0 true 2) log s ∧
    s.pc = .returned true ∧ s.ends = [(1, "passed"), (2, "passed")] ∧ s.perDevice = [] := by
  have h₀ : Runs [1, 2] (batchSize 0 true 2) [] (initial false : State Nat String) := .initial false
  have h₁ := h₀.step (.enter rfl rfl)
  have h₂ := h₁.step (.pooled rfl rfl)
  have h₃ := (h₂.step (.submit rfl)).step (.submit rfl)
  have h₄ := h₃.step (.submitted rfl)
  have h₅ := h₄.step (@Step.taken _ _ _ _ _ _ [] [(2, .queued)] 1 rfl)
  have h₆ := h₅.step (@Step.taken _ _ _ _ _ _ [(1, .running)] [] 2 rfl)
  have h₇ := h₆.step (@Step.ended _ _ _ _ _ _ [] [(2, .running)] 1 (.returned "passed") false rfl)
  have h₈ := h₇.step
    (@Step.ended _ _ _ _ _ _ [(1, .finished (.returned "passed"))] [] 2 (.returned "passed") false rfl)
  have h₉ := h₈.step (@Step.interruptCollection _ _ _ _ _ _ [] [] (.inr rfl))
  have h₁₀ := h₉.step (@Step.drained _ _ _ _ _ _ true rfl (by simp [Work.ended]))
  have h₁₁ := h₁₀.step (.handle rfl)
  have h₁₂ := h₁₁.step (.leave rfl)
  exact ⟨_, _, h₁₂, rfl, rfl, rfl⟩

end CmpUnlocker.Gemm
