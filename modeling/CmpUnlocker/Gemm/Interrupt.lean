import Mathlib.Algebra.GroupWithZero.Nat
import CmpUnlocker.Gemm.Checks
import CmpUnlocker.Gemm.Results
import CmpUnlocker.Gemm.Strikes

/-!
# Ctrl+C during `run_all`

A run of `run_all` takes a bounded number of steps, and it does not stand still unless a runner is at work
(`Step.rank_lt`, `Runs.goes_on`).  Up to the KeyboardInterrupt a run is `Calm`; behind it the main thread unwinds to a
return with the stop flag set, and the exit status is 130 unless the CSV file has no row (`interrupted_exit_iff`).
-/

namespace CmpUnlocker.Gemm

open Interaction

/-! ### Every run ends as its runners do -/

section

variable {ι ρ : Type}

/-- A bound for the steps around a future, its collection included. -/
def Work.rank : Work ρ → Nat
  | queued => 6
  | running => 5
  | _ => 4

def poolRank (pool : List (ι × Work ρ)) : Nat := (pool.map fun e => e.2.rank).sum

/-- A bound for the steps on the batches to come. -/
def batchesRank (batches : List (List ι)) : Nat := (batches.map fun batch => 10 * batch.length + 5).sum

/-- A bound for the steps of `run_all`. -/
def runRank (devices : List ι) (size : Int) : Nat :=
  match batchDevices devices size with
  | .ok batches => batchesRank batches + 5
  | .error _ => 1

def Pc.rank (devices : List ι) (size : Int) : Pc ι ρ → Nat
  | entry => runRank devices size
  | loop rest => batchesRank rest + 4
  | calling _ rest => batchesRank rest + 9
  | assigning _ _ rest => batchesRank rest + 8
  | submitting todo rest => 8 * todo.length + batchesRank rest + 8
  | collecting rest => batchesRank rest + 7
  | storing _ _ rest => batchesRank rest + 10
  | closing rest => batchesRank rest + 6
  | draining _ guarded => if guarded then 5 else 4
  | handler => 2
  | leaving => 1
  | returned _ => 0
  | raised _ => 0

def State.rank (devices : List ι) (size : Int) (s : State ι ρ) : Nat := s.pc.rank devices size + poolRank s.pool

@[simp] theorem batchesRank_cons (batch : List ι) (rest : List (List ι)) :
    batchesRank (batch :: rest) = 10 * batch.length + 5 + batchesRank rest := by
  simp [batchesRank]

@[simp] theorem poolRank_cons (e : ι × Work ρ) (pool : List (ι × Work ρ)) :
    poolRank (e :: pool) = e.2.rank + poolRank pool := by
  simp [poolRank]

@[simp] theorem poolRank_append (p q : List (ι × Work ρ)) : poolRank (p ++ q) = poolRank p + poolRank q := by
  simp [poolRank]

@[simp] theorem poolRank_nil : poolRank ([] : List (ι × Work ρ)) = 0 := rfl

private theorem Work.rank_cancel_le (w : Work ρ) : w.cancel.rank ≤ w.rank := by
  cases w <;> simp [Work.cancel, Work.rank]

private theorem poolRank_cancel_le (pool : List (ι × Work ρ)) :
    poolRank (pool.map fun e => (e.1, e.2.cancel)) ≤ poolRank pool := by
  induction pool with
  | nil => exact Nat.le_refl _
  | cons e pool ih =>
    have hle := e.2.rank_cancel_le
    simp only [List.map_cons, poolRank_cons]
    omega

private theorem poolRank_cancel_lt {pool : List (ι × Work ρ)} (h : ∃ e ∈ pool, e.2 = .queued) :
    poolRank (pool.map fun e => (e.1, e.2.cancel)) < poolRank pool := by
  obtain ⟨e, he, hqueued⟩ := h
  obtain ⟨before, after, rfl⟩ := List.append_of_mem he
  have hbefore := poolRank_cancel_le before
  have hafter := poolRank_cancel_le after
  have hlt : e.2.cancel.rank < e.2.rank := by simp [hqueued, Work.cancel, Work.rank]
  simp only [List.map_append, List.map_cons, poolRank_append, poolRank_cons]
  omega

private theorem runRank_pos (devices : List ι) (size : Int) : 0 < runRank devices size := by
  unfold runRank
  split <;> omega

variable [DecidableEq ι] {devices : List ι} {size : Int} {s s' : State ι ρ} {e : Event ρ}
  {log : List (State ι ρ × Event ρ)}

theorem Step.rank_lt (hs : Step devices size s e s') : s'.rank devices size < s.rank devices size := by
  have hpos := runRank_pos devices size
  cases hs with
  | enter hpc hbatches => simp [State.rank, Pc.rank, hpc, runRank, hbatches]
  | refuse hpc hbatches => simp [State.rank, Pc.rank, hpc, runRank, hbatches]
  | halt hpc _ => simp only [State.rank, Pc.rank, hpc]; omega
  | exhausted hpc => simp only [State.rank, Pc.rank, hpc]; omega
  | call hpc _ => simp only [State.rank, Pc.rank, hpc, batchesRank_cons, List.length_cons, List.length_nil]; omega
  | noDevice hpc _ => simp only [State.rank, Pc.rank, hpc]; omega
  | finished hpc => simp only [State.rank, Pc.rank, hpc]; omega
  | finishInterrupted hpc => simp only [State.rank, Pc.rank, hpc]; omega
  | finishRaised hpc => simp only [State.rank, Pc.rank, hpc]; omega
  | assign hpc => simp only [State.rank, Pc.rank, hpc]; omega
  | pooled hpc _ => simp only [State.rank, Pc.rank, hpc, batchesRank_cons, List.length_cons]; omega
  | submit hpc =>
    simp only [State.rank, Pc.rank, hpc, poolRank_append, poolRank_cons, poolRank_nil, Work.rank, List.length_cons]
    omega
  | submitted hpc => simp only [State.rank, Pc.rank, hpc, List.length_nil]; omega
  | collect hpc hpool => simp only [State.rank, Pc.rank, hpc, hpool, poolRank_cons, Work.rank]; omega
  | collectInterrupted hpc hpool =>
    simp only [State.rank, Pc.rank, hpc, hpool, poolRank_cons, Work.rank, if_true]
    omega
  | collectRaised hpc hpool =>
    simp only [State.rank, Pc.rank, hpc, hpool, poolRank_cons, Work.rank, Bool.false_eq_true, if_false]
    omega
  | store hpc => simp only [State.rank, Pc.rank, hpc]; omega
  | collected hpc _ => simp only [State.rank, Pc.rank, hpc]; omega
  | close hpc => simp only [State.rank, Pc.rank, hpc]; omega
  | cancel hpc hpool =>
    have hlt := poolRank_cancel_lt hpool
    simp only [State.rank]
    omega
  | drained hpc _ => simp only [State.rank, Pc.rank, hpc]; split <;> omega
  | drainedRaised hpc _ => simp only [State.rank, Pc.rank, hpc]; split <;> omega
  | handle hpc => simp only [State.rank, Pc.rank, hpc]; omega
  | leave hpc => simp only [State.rank, Pc.rank, hpc]; omega
  | escape hpc => rcases hpc with hpc | hpc | hpc <;> simp only [State.rank, Pc.rank, hpc] <;> omega
  | interrupt hpc => rcases hpc with hpc | hpc <;> simp only [State.rank, Pc.rank, hpc] <;> omega
  | interruptAssigning hpc => simp only [State.rank, Pc.rank, hpc]; omega
  | interruptCollection hpc =>
    rcases hpc with hpc | hpc <;> simp only [State.rank, Pc.rank, hpc, if_true] <;> omega
  | interruptStoring hpc => simp only [State.rank, Pc.rank, hpc, if_true]; omega
  | interruptDraining hpc => simp [State.rank, Pc.rank, hpc]
  | interruptClosing hpc => simp [State.rank, Pc.rank, hpc]
  | taken hpool => simp only [State.rank, hpool, poolRank_append, poolRank_cons, Work.rank]; omega
  | ended hpool => simp only [State.rank, hpool, poolRank_append, poolRank_cons, Work.rank]; omega

theorem Runs.length_le (hrun : Runs devices size log s) : log.length + s.rank devices size ≤ runRank devices size := by
  induction hrun with
  | initial stop =>
    show 0 + (runRank devices size + 0) ≤ runRank devices size
    omega
  | step h hs ih =>
    have hlt := hs.rank_lt
    simp only [List.length_append, List.length_cons, List.length_nil]
    omega

/-- `run_all` has come to its end. -/
def Pc.Over : Pc ι ρ → Prop
  | returned _ | raised _ => True
  | _ => False

/-- A runner is at work. -/
def Busy (s : State ι ρ) : Prop := (∃ d rest, s.pc = .calling d rest) ∨ ∃ e ∈ s.pool, e.2 = .running

theorem Step.past (hs : Step devices size s e s') (h : s.pc.Past) : s'.pc.Past := by
  cases hs with
  | escape hpc => trivial
  | interrupt hpc => trivial
  | taken hpool => exact h
  | ended hpool => exact h
  | _ => simp_all [Pc.Past]

/-- No future is cancelled as long as the main thread has batches. -/
theorem Runs.not_cancelled (hrun : Runs devices size log s) : s.pc.Past ∨ ∀ e ∈ s.pool, e.2 ≠ .cancelled := by
  induction hrun with
  | initial stop => exact .inr fun e he => (nomatch he)
  | step h hs ih =>
    rcases ih with hpast | hpool
    · exact .inl (hs.past hpast)
    · cases hs with
      | cancel hpc _ => exact .inl (by simp [hpc, Pc.Past])
      | submit hpc =>
        refine .inr fun x hx => ?_
        rcases List.mem_append.1 hx with hx | hx
        · exact hpool x hx
        · simp [List.mem_singleton.1 hx]
      | collect hpc hhead => exact .inr fun x hx => hpool x (by simp [hhead, show x ∈ _ from hx])
      | collectInterrupted hpc _ => exact .inl trivial
      | collectRaised hpc _ => exact .inl trivial
      | taken htaken =>
        refine .inr fun x hx => ?_
        have hmem := fun hx' => hpool x (htaken ▸ hx')
        simp only [List.mem_append, List.mem_cons] at hx hmem
        rcases hx with hx | rfl | hx
        · exact hmem (.inl hx)
        · simp
        · exact hmem (.inr (.inr hx))
      | ended hended =>
        refine .inr fun x hx => ?_
        have hmem := fun hx' => hpool x (hended ▸ hx')
        simp only [List.mem_append, List.mem_cons] at hx hmem
        rcases hx with hx | rfl | hx
        · exact hmem (.inl hx)
        · simp
        · exact hmem (.inr (.inr hx))
      | _ => exact .inr hpool

/-- The main thread goes on, or a worker takes up a future. -/
def GoesOn (devices : List ι) (size : Int) (s : State ι ρ) : Prop :=
  (∃ s', Step devices size s .main s') ∨ ∃ i s', Step devices size s (.start i) s'

private theorem goesOn_main (hs : Step devices size s .main s') : GoesOn devices size s := .inl ⟨s', hs⟩

private theorem goesOn_queued {x : ι × Work ρ} (hx : x ∈ s.pool) (hqueued : x.2 = .queued) : GoesOn devices size s := by
  obtain ⟨before, after, hpool⟩ := List.append_of_mem hx
  obtain ⟨d, w⟩ := x
  subst hqueued
  exact .inr ⟨_, _, .taken hpool⟩

/-- As long as `run_all` is not over and no runner is at work, something goes on. -/
theorem Runs.goes_on (hrun : Runs devices size log s) (hover : ¬ s.pc.Over) (hbusy : ¬ Busy s) :
    GoesOn devices size s := by
  have hrunning : ∀ x ∈ s.pool, x.2 ≠ .running := fun x hx hw => hbusy (.inr ⟨x, hx, hw⟩)
  have hcancelled := hrun.not_cancelled
  cases hpc : s.pc with
  | entry =>
    cases hbatches : batchDevices devices size with
    | ok batches => exact goesOn_main (.enter hpc hbatches)
    | error text => exact goesOn_main (.refuse hpc hbatches)
  | loop batches =>
    cases batches with
    | nil => exact goesOn_main (.exhausted hpc)
    | cons batch rest =>
      cases hstop : s.stop with
      | true => exact goesOn_main (.halt hpc hstop)
      | false =>
        match batch, hpc with
        | [], hpc => exact goesOn_main (.noDevice hpc hstop)
        | [d], hpc => exact goesOn_main (.call hpc hstop)
        | d :: d' :: batch, hpc => exact goesOn_main (.pooled hpc hstop)
  | calling d rest => exact absurd (.inl ⟨d, rest, hpc⟩) hbusy
  | assigning d out rest => exact goesOn_main (.assign hpc)
  | submitting todo rest =>
    cases todo with
    | nil => exact goesOn_main (.submitted hpc)
    | cons d todo => exact goesOn_main (.submit hpc)
  | collecting rest =>
    cases hpool : s.pool with
    | nil => exact goesOn_main (.collected hpc hpool)
    | cons x pool =>
      obtain ⟨d, w⟩ := x
      have hx : (d, w) ∈ s.pool := by simp [hpool]
      cases w with
      | queued => exact goesOn_queued hx rfl
      | running => exact absurd rfl (hrunning _ hx)
      | cancelled =>
        rcases hcancelled with hpast | hnone
        · simp [hpc, Pc.Past] at hpast
        · exact absurd rfl (hnone _ hx)
      | finished o =>
        cases o with
        | returned out => exact goesOn_main (.collect hpc hpool)
        | interrupted => exact goesOn_main (.collectInterrupted hpc hpool)
        | raised text => exact goesOn_main (.collectRaised hpc hpool)
  | storing d out rest => exact goesOn_main (.store hpc)
  | closing rest => exact goesOn_main (.close hpc)
  | draining exn guarded =>
    by_cases hqueued : ∃ x ∈ s.pool, x.2 = .queued
    · exact goesOn_main (.cancel hpc hqueued)
    · have hended : ∀ x ∈ s.pool, x.2.ended = true := by
        intro x hx
        have hnot : x.2 ≠ .queued := fun hw => hqueued ⟨x, hx, hw⟩
        have hnot' := hrunning x hx
        cases hw : x.2 <;> simp_all [Work.ended]
      cases exn with
      | none => exact goesOn_main (.drained hpc hended)
      | some text => exact goesOn_main (.drainedRaised hpc hended)
  | handler => exact goesOn_main (.handle hpc)
  | leaving => exact goesOn_main (.leave hpc)
  | returned interrupted => exact absurd (by simp [hpc, Pc.Over]) hover
  | raised exn => exact absurd (by simp [hpc, Pc.Over]) hover

/-! ### Up to the KeyboardInterrupt -/

/-- No KeyboardInterrupt is in the step. -/
def Event.Quiet : Event ρ → Prop
  | interrupt | finish .interrupted _ | done _ .interrupted _ => False
  | _ => True

/-- Where the main thread is without a KeyboardInterrupt. -/
def Pc.Calm : Pc ι ρ → Prop
  | draining none _ | draining _ true | handler | raised none => False
  | _ => True

/-- No KeyboardInterrupt is on its way. -/
structure Calm (s : State ι ρ) : Prop where
  pc : s.pc.Calm
  futures : ∀ x ∈ s.pool, x.2 ≠ .finished .interrupted

namespace Calm

omit [DecidableEq ι] in
theorem initial (stop : Bool) : Calm (initial stop : State ι ρ) := ⟨trivial, fun _ hx => (nomatch hx)⟩

omit [DecidableEq ι] in
/-- A future in the middle of the pool is replaced. -/
theorem replaces (h : Calm s) {before after : List (ι × Work ρ)} {d : ι} {w w' : Work ρ}
    (hpool : s.pool = before ++ (d, w) :: after) (hw : w' ≠ .finished .interrupted) :
    ∀ x ∈ before ++ (d, w') :: after, x.2 ≠ .finished .interrupted := by
  intro x hx
  have hmem := fun hx' => h.futures x (hpool ▸ hx')
  simp only [List.mem_append, List.mem_cons] at hx hmem
  rcases hx with hx | rfl | hx
  · exact hmem (.inl hx)
  · exact hw
  · exact hmem (.inr (.inr hx))

theorem step (h : Calm s) (hs : Step devices size s e s') (he : e.Quiet) : Calm s' := by
  have hpc := h.pc
  cases hs with
  | submit _ =>
    refine ⟨trivial, fun x hx => ?_⟩
    rcases List.mem_append.1 hx with hx | hx
    · exact h.futures x hx
    · simp [List.mem_singleton.1 hx]
  | collect _ hpool => exact ⟨trivial, fun x hx => h.futures x (by simp [hpool, show x ∈ _ from hx])⟩
  | @collectInterrupted d pool _ _ hpool =>
    exact absurd rfl (h.futures (d, .finished .interrupted) (by simp [hpool]))
  | collectRaised _ hpool => exact ⟨trivial, fun x hx => h.futures x (by simp [hpool, show x ∈ _ from hx])⟩
  | cancel _ _ =>
    refine ⟨hpc, fun x hx => ?_⟩
    obtain ⟨y, hy, rfl⟩ := List.mem_map.1 hx
    have hfuture := h.futures y hy
    cases hw : y.2 <;> simp_all [Work.cancel]
  | drained hdraining _ =>
    rw [hdraining] at hpc
    exact hpc.elim
  | handle hhandler =>
    rw [hhandler] at hpc
    exact hpc.elim
  | taken hpool => exact ⟨hpc, h.replaces hpool (by simp)⟩
  | @ended before after d o stop hpool =>
    refine ⟨hpc, h.replaces hpool ?_⟩
    rintro ⟨⟩
    exact he
  | finishInterrupted _ => exact he.elim
  | escape _ => exact he.elim
  | interrupt _ => exact he.elim
  | interruptAssigning _ => exact he.elim
  | interruptCollection _ => exact he.elim
  | interruptStoring _ => exact he.elim
  | interruptDraining _ => exact he.elim
  | interruptClosing _ => exact he.elim
  | _ => exact ⟨trivial, h.futures⟩

end Calm

/-! ### Behind it -/

/-- The main thread is on its way to a return with the stop flag set. -/
def Pc.Unwinds (stop : Bool) : Pc ι ρ → Prop
  | draining none true | handler => True
  | leaving => stop = true
  | returned interrupted => interrupted = true
  | _ => False

omit [DecidableEq ι] in
theorem Pc.Unwinds.or {pc : Pc ι ρ} {stop : Bool} (h : pc.Unwinds stop) (stop' : Bool) :
    pc.Unwinds (stop || stop') := by
  cases pc with
  | draining exn guarded => cases exn <;> cases guarded <;> exact h
  | leaving => simp [Pc.Unwinds, show stop = true from h]
  | _ => exact h

private theorem Step.unwinds (hs : Step devices size s e s') (h : s.pc.Unwinds s.stop) (he : e ≠ .interrupt) :
    s'.pc.Unwinds s'.stop ∧ s'.perDevice = s.perDevice := by
  cases hs with
  | cancel _ _ => exact ⟨h, rfl⟩
  | drained _ _ => exact ⟨trivial, rfl⟩
  | handle _ => exact ⟨rfl, rfl⟩
  | leave hpc =>
    rw [hpc] at h
    exact ⟨h, rfl⟩
  | taken _ => exact ⟨h, rfl⟩
  | ended _ => exact ⟨h.or _, rfl⟩
  | escape _ => exact absurd rfl he
  | interrupt _ => exact absurd rfl he
  | interruptAssigning _ => exact absurd rfl he
  | interruptCollection _ => exact absurd rfl he
  | interruptStoring _ => exact absurd rfl he
  | interruptDraining _ => exact absurd rfl he
  | interruptClosing _ => exact absurd rfl he
  | _ => simp_all [Pc.Unwinds]

theorem Step.raised (hs : Step devices size s e s') {exn : Option String} (h : s.pc = .raised exn) :
    s'.pc = .raised exn := by
  cases hs with
  | taken _ => exact h
  | ended _ => exact h
  | _ => simp_all

/-- In front of the `try` statement and behind it, a KeyboardInterrupt escapes. -/
theorem Step.escapes (hs : Step devices size s .interrupt s') (hpc : s.pc = .entry ∨ s.pc = .leaving) :
    s'.pc = .raised none := by
  cases hs with
  | escape _ => rfl
  | _ => rcases hpc with hpc | hpc <;> simp_all

/-- A KeyboardInterrupt in the `try` statement is unwound, with the results that are stored by then. -/
theorem Step.struck (hs : Step devices size s .interrupt s') (hcalm : Calm s) (hentry : s.pc ≠ .entry)
    (hleaving : s.pc ≠ .leaving) : s'.pc.Unwinds s'.stop ∧ s'.perDevice = s.perDevice := by
  have hpc' := hcalm.pc
  cases hs with
  | escape hpc => simp_all [Pc.Calm]
  | @interruptDraining exn hpc =>
    rw [hpc] at hpc'
    cases exn <;> exact hpc'.elim
  | _ => exact ⟨trivial, rfl⟩

end

/-! ### One KeyboardInterrupt -/

/-- What a runner returns. -/
abbrev Out : Type := String × List ConfigResult

section

variable {py : Py} {args : Args} {configs : List Config} {free : Int → Int} {devices : List Int} {size : Int}
  {s s' : State Int Out} {e : Event Out} {log : List (State Int Out × Event Out)}

/-- So many KeyboardInterrupts are in the step. -/
def Hits (py : Py) (args : Args) (configs : List Config) (free : Int → Int) (s : State Int Out) (k : Nat) :
    Event Out → Prop
  | .main | .start _ => k = 0
  | .interrupt => k = 1
  | .finish o stop => ∃ d rest, s.pc = .calling d rest ∧ Called py args configs free d s.stop o stop k
  | .done i o stop => k = 0 ∧ ∃ before after d, s.pool = before ++ (d, .running) :: after ∧ i = before.length ∧
      Called py args configs free d s.stop o stop 0

theorem Struck.last {n : Nat} (h : Struck py args configs free (log ++ [(s, e)]) n) :
    ∃ m k, n = m + k ∧ Struck py args configs free log m ∧ Hits py args configs free s k e := by
  generalize hlog : log ++ [(s, e)] = log' at h
  cases h with
  | nil => simp at hlog
  | main h =>
    obtain ⟨rfl, hlast⟩ := List.append_inj' hlog rfl
    cases hlast
    exact ⟨_, 0, rfl, h, rfl⟩
  | start h =>
    obtain ⟨rfl, hlast⟩ := List.append_inj' hlog rfl
    cases hlast
    exact ⟨_, 0, rfl, h, rfl⟩
  | interrupt h =>
    obtain ⟨rfl, hlast⟩ := List.append_inj' hlog rfl
    cases hlast
    exact ⟨_, 1, rfl, h, rfl⟩
  | finish h hpc ho =>
    obtain ⟨rfl, hlast⟩ := List.append_inj' hlog rfl
    cases hlast
    exact ⟨_, _, rfl, h, _, _, hpc, ho⟩
  | done h hpool ho =>
    obtain ⟨rfl, hlast⟩ := List.append_inj' hlog rfl
    cases hlast
    exact ⟨_, 0, rfl, h, rfl, _, _, _, hpool, rfl, ho⟩

/-- The stop flag is set by the main thread alone: a worker that has found it set was told so by the main thread. -/
theorem Hits.stop_of_done {i : Nat} {o : Finish Out} {stop : Bool}
    (h : Hits py args configs free s 0 (.done i o stop)) : (s.stop || stop) = s.stop := by
  obtain ⟨-, before, after, d, -, -, ho⟩ := h
  cases stop with
  | false => exact Bool.or_false s.stop
  | true => rw [ho.stop_le rfl, Bool.or_true]

theorem Hits.quiet (h : Hits py args configs free s 0 e) : e.Quiet := by
  cases e with
  | interrupt => cases h
  | finish o stop =>
    obtain ⟨d, rest, -, ho⟩ := h
    cases o with
    | interrupted => exact ho.not_interrupted rfl
    | _ => trivial
  | done i o stop =>
    obtain ⟨-, before, after, d, -, -, ho⟩ := h
    cases o with
    | interrupted => exact ho.not_interrupted rfl
    | _ => trivial
  | _ => trivial

private theorem mem_put (d : Int) (out : Out) (m : PerDevice) : (d, out) ∈ put d out m := by
  unfold put
  by_cases h : d ∈ m.map Prod.fst
  · rw [if_pos h]
    obtain ⟨x, hx, rfl⟩ := List.mem_map.1 h
    exact List.mem_map.2 ⟨x, hx, by simp⟩
  · simp [h]

private theorem allResults_ne_nil {m : PerDevice} {x : Int × Out} (hx : x ∈ m) (hne : x.2.2 ≠ []) :
    allResults m ≠ [] := by
  intro hnil
  exact hne (List.flatMap_eq_nil_iff.1 hnil x hx)

/-- The KeyboardInterrupt of the step, if there is one, strikes in the `try` statement, and what it leaves behind has
a row for the CSV file.  A call that is struck in the timed section is no exception to that: it returns normally
(`Called.of_struck_timed`), with a row of its own. -/
def Handled (args : Args) (p : State Int Out × Event Out) : Prop :=
  match p.2 with
  | .interrupt => p.1.pc ≠ .entry ∧ p.1.pc ≠ .leaving ∧ (wanted args.csv = true → allResults p.1.perDevice ≠ [])
  | .finish .interrupted _ => wanted args.csv = true → allResults p.1.perDevice ≠ []
  | _ => True

theorem Event.Quiet.handled (h : e.Quiet) : Handled args (s, e) := by
  cases e with
  | interrupt => exact h.elim
  | finish o stop =>
    cases o with
    | interrupted => exact h.elim
    | _ => trivial
  | _ => trivial

/-- The KeyboardInterrupt ends in the status 130: it is being unwound, or a runner has caught it. -/
def Saved (args : Args) (s : State Int Out) : Prop :=
  (s.pc.Unwinds s.stop ∧ (wanted args.csv = true → allResults s.perDevice ≠ [])) ∨
    s.stop = true ∧ ((∃ d out rest, s.pc = .assigning d out rest ∧ out.2 ≠ []) ∨
      ∃ rest, s.pc = .loop rest ∧ allResults s.perDevice ≠ [])

/-- It ends in an exception. -/
def Doomed (args : Args) (s : State Int Out) : Prop :=
  s.pc = .raised none ∨ (s.pc.Unwinds s.stop ∧ wanted args.csv = true ∧ allResults s.perDevice = [])

theorem Saved.step (h : Saved args s) (hs : Step devices size s e s') (he : e ≠ .interrupt) : Saved args s' := by
  rcases h with ⟨hunwinds, hrows⟩ | ⟨hstop, hcaught⟩
  · obtain ⟨hunwinds', hsame⟩ := hs.unwinds hunwinds he
    exact .inl ⟨hunwinds', hsame ▸ hrows⟩
  · cases hs with
    | assign hpc =>
      rcases hcaught with ⟨d, out, rest, hpc', hne⟩ | ⟨rest, hpc', -⟩
      · rw [hpc] at hpc'
        cases hpc'
        exact .inr ⟨hstop, .inr ⟨_, rfl, allResults_ne_nil (mem_put _ _ _) hne⟩⟩
      · simp [hpc] at hpc'
    | halt hpc _ =>
      rcases hcaught with ⟨d, out, rest, hpc', -⟩ | ⟨rest, hpc', hrows⟩
      · simp [hpc] at hpc'
      · exact .inl ⟨hstop, fun _ => hrows⟩
    | exhausted hpc =>
      rcases hcaught with ⟨d, out, rest, hpc', -⟩ | ⟨rest, hpc', hrows⟩
      · simp [hpc] at hpc'
      · exact .inl ⟨hstop, fun _ => hrows⟩
    -- other runners go on beside the one that has caught it
    | taken _ => exact .inr ⟨hstop, hcaught⟩
    | ended _ => exact .inr ⟨by simp [hstop], hcaught⟩
    | escape _ => exact absurd rfl he
    | interrupt _ => exact absurd rfl he
    | interruptAssigning _ => exact absurd rfl he
    | interruptCollection _ => exact absurd rfl he
    | interruptStoring _ => exact absurd rfl he
    | interruptDraining _ => exact absurd rfl he
    | interruptClosing _ => exact absurd rfl he
    | _ => simp_all

theorem Doomed.step (h : Doomed args s) (hs : Step devices size s e s') (he : e ≠ .interrupt) : Doomed args s' := by
  rcases h with hraised | ⟨hunwinds, hcsv, hnone⟩
  · exact .inl (hs.raised hraised)
  · obtain ⟨hunwinds', hsame⟩ := hs.unwinds hunwinds he
    exact .inr ⟨hunwinds', hcsv, hsame ▸ hnone⟩

/-- What the KeyboardInterrupt of a step does. -/
theorem Hits.strikes (h : Hits py args configs free s 1 e) (hs : Step devices size s e s') (hcalm : Calm s) :
    (Handled args (s, e) ∧ Saved args s') ∨ (¬ Handled args (s, e) ∧ Doomed args s') := by
  cases e with
  | main => cases h
  | start i => cases h
  | done i o stop => cases h.1
  | interrupt =>
    by_cases hpc : s.pc = .entry ∨ s.pc = .leaving
    · refine .inr ⟨fun hhandled => ?_, .inl (hs.escapes hpc)⟩
      rcases hpc with hpc | hpc
      · exact hhandled.1 hpc
      · exact hhandled.2.1 hpc
    · obtain ⟨hentry, hleaving⟩ := not_or.1 hpc
      obtain ⟨hunwinds, hsame⟩ := hs.struck hcalm hentry hleaving
      by_cases hrows : wanted args.csv = true → allResults s.perDevice ≠ []
      · exact .inl ⟨⟨hentry, hleaving, hrows⟩, .inl ⟨hunwinds, hsame ▸ hrows⟩⟩
      · refine .inr ⟨fun hhandled => hrows hhandled.2.2, .inr ⟨hunwinds, ?_⟩⟩
        rw [hsame]
        simpa using hrows
  | finish o stop =>
    obtain ⟨d, rest, hpc, ho⟩ := h
    -- the call lets it through, or has been struck in its timed section and returns with a row
    rcases ho.of_strike with rfl | ⟨out, rfl, hne, rfl⟩
    · cases hs with
      | finishInterrupted _ =>
        by_cases hrows : wanted args.csv = true → allResults s.perDevice ≠ []
        · exact .inl ⟨hrows, .inl ⟨trivial, hrows⟩⟩
        · exact .inr ⟨hrows, .inr ⟨trivial, by simpa using hrows⟩⟩
    · cases hs with
      | finished _ => exact .inl ⟨trivial, .inr ⟨by simp, .inl ⟨_, _, _, rfl, hne⟩⟩⟩

/-- Up to the KeyboardInterrupt, and behind it. -/
theorem Runs.struck_once (hrun : Runs devices size log s) {n : Nat} (hstruck : Struck py args configs free log n) :
    (n = 0 → Calm s ∧ ∀ p ∈ log, Handled args p) ∧
      (n = 1 → ((∀ p ∈ log, Handled args p) ∧ Saved args s) ∨ ((¬ ∀ p ∈ log, Handled args p) ∧ Doomed args s)) := by
  induction hrun generalizing n with
  | initial stop =>
    generalize hlog : ([] : List (State Int Out × Event Out)) = log at hstruck
    cases hstruck with
    | nil => exact ⟨fun _ => ⟨Calm.initial stop, fun p hp => (nomatch hp)⟩, fun h => (nomatch h)⟩
    | _ => simp at hlog
  | @step log s s' e hrun hs ih =>
    obtain ⟨m, k, rfl, hbefore, hhits⟩ := hstruck.last
    obtain ⟨hcalm, hone⟩ := ih hbefore
    have hlast : (∀ p ∈ log ++ [(s, e)], Handled args p) ↔ (∀ p ∈ log, Handled args p) ∧ Handled args (s, e) := by
      simp [or_imp, forall_and]
    rw [hlast]
    refine ⟨fun hzero => ?_, fun hsum => ?_⟩
    · obtain ⟨rfl, rfl⟩ : m = 0 ∧ k = 0 := by omega
      obtain ⟨hcalm, hhandled⟩ := hcalm rfl
      exact ⟨hcalm.step hs hhits.quiet, hhandled, hhits.quiet.handled⟩
    · -- it struck in an earlier step, or strikes in this one
      obtain ⟨rfl, rfl⟩ | ⟨rfl, rfl⟩ : (m = 1 ∧ k = 0) ∨ (m = 0 ∧ k = 1) := by omega
      · have hquiet := hhits.quiet
        have hne : e ≠ .interrupt := by
          rintro rfl
          exact hquiet
        rcases hone rfl with ⟨hhandled, hsaved⟩ | ⟨hnot, hdoomed⟩
        · exact .inl ⟨⟨hhandled, hquiet.handled⟩, hsaved.step hs hne⟩
        · exact .inr ⟨fun h => hnot h.1, hdoomed.step hs hne⟩
      · obtain ⟨hcalm, hhandled⟩ := hcalm rfl
        rcases hhits.strikes hs hcalm with ⟨hlast, hsaved⟩ | ⟨hlast, hdoomed⟩
        · exact .inl ⟨⟨hhandled, hlast⟩, hsaved⟩
        · exact .inr ⟨fun h => hlast h.2, hdoomed⟩

private theorem conclude_interrupted (perDevice : PerDevice) :
    conclude py args perDevice true = .code 130 ↔ (wanted args.csv = true → allResults perDevice ≠ []) := by
  simp only [conclude, writeOutputs, if_true]
  by_cases hlost : (wanted args.csv && (allResults perDevice).isEmpty) = true
  · rw [if_pos hlost]
    simpa using hlost
  · rw [if_neg hlost]
    simpa using hlost

theorem Saved.exitOf (h : Saved args s) (hend : exitOf py args s ≠ none) : exitOf py args s = some (.code 130) := by
  unfold Gemm.exitOf at hend ⊢
  rcases h with ⟨hunwinds, hrows⟩ | ⟨-, ⟨d, out, rest, hpc, -⟩ | ⟨rest, hpc, -⟩⟩
  · cases hpc : s.pc with
    | returned interrupted =>
      rw [hpc] at hunwinds
      have hinterrupted : interrupted = true := hunwinds
      subst hinterrupted
      exact congrArg some ((conclude_interrupted _).2 hrows)
    | raised exn =>
      rw [hpc] at hunwinds
      exact hunwinds.elim
    | _ => simp [hpc] at hend
  · simp [hpc] at hend
  · simp [hpc] at hend

theorem Doomed.exitOf (h : Doomed args s) : exitOf py args s ≠ some (.code 130) := by
  unfold Gemm.exitOf
  rcases h with hraised | ⟨hunwinds, hcsv, hnone⟩
  · simp [hraised]
  · cases hpc : s.pc with
    | returned interrupted =>
      rw [hpc] at hunwinds
      have hinterrupted : interrupted = true := hunwinds
      subst hinterrupted
      intro hcode
      exact (conclude_interrupted _).1 (Option.some.inj hcode) hcsv hnone
    | raised exn =>
      rw [hpc] at hunwinds
      exact hunwinds.elim
    | _ => simp

private theorem exitOf_over (hend : exitOf py args s = none) : ¬ s.pc.Over := by
  unfold exitOf at hend
  cases hpc : s.pc with
  | returned interrupted => simp [hpc] at hend
  | raised exn => cases exn <;> simp [hpc] at hend
  | _ => exact id

/-- A run of `run_all` with one KeyboardInterrupt has a bounded number of steps, stands still only while a runner is at
work, and makes `main` return 130 if and only if the KeyboardInterrupt strikes in the `try` statement and leaves, with
`--csv`, a result behind. -/
theorem interrupted_exit_iff
    (hrun : Runs devices (batchSize args.maxParallel args.parallel devices.length) log s)
    (hstruck : Struck py args configs free log 1) :
    log.length ≤ runRank devices (batchSize args.maxParallel args.parallel devices.length) ∧
      (exitOf py args s = none →
        Busy s ∨ GoesOn devices (batchSize args.maxParallel args.parallel devices.length) s) ∧
      (exitOf py args s ≠ none → (exitOf py args s = some (.code 130) ↔ ∀ p ∈ log, Handled args p)) := by
  have hlength := hrun.length_le
  refine ⟨by omega, fun hend => ?_, fun hend => ?_⟩
  · by_cases hbusy : Busy s
    · exact .inl hbusy
    · exact .inr (hrun.goes_on (exitOf_over hend) hbusy)
  · rcases (hrun.struck_once hstruck).2 rfl with ⟨hhandled, hsaved⟩ | ⟨hnot, hdoomed⟩
    · exact ⟨fun _ => hhandled, fun _ => hsaved.exitOf hend⟩
    · exact ⟨fun hcode => absurd hcode hdoomed.exitOf, fun hhandled => absurd hhandled hnot⟩

end

/-! ### Struck in the allocation of the operands -/

/-- A device whose operands are being allocated as the KeyboardInterrupt strikes. -/
def allocating (w : World) : (o : Request) → Option (o.Answer × World)
  | .setDevice _ => some (.ok (), w)
  | .stopRequested => some (.ok w.stop, w)
  | .getDeviceName _ => some (.ok "", w)
  | .manualSeed _ => some (.ok (), w)
  | .memGetInfo _ => some (.ok w.free, w)
  | .makeOperands _ _ _ => some (.error .interrupt, { w with strikes := w.strikes + 1 })
  | _ => none

private theorem beside_allocating (w : World) (o : Request) (r : o.Answer) (w' : World)
    (h : allocating w o = some (r, w')) :
    beside false w o r w' := by
  cases o with
  | stopRequested =>
    cases h
    exact ⟨⟨id, rfl⟩, .inl⟩
  | memGetInfo d =>
    cases h
    exact ⟨⟨rfl, rfl⟩, .inl⟩
  | makeOperands d cfg init =>
    cases h
    exact ⟨⟨trivial, by simp⟩, .inl⟩
  | setDevice d =>
    cases h
    exact ⟨rfl, .inl⟩
  | getDeviceName d =>
    cases h
    exact ⟨rfl, .inl⟩
  | manualSeed seed =>
    cases h
    exact ⟨rfl, .inl⟩
  | _ => cases h

/-- One device, one configuration, and a CSV file. -/
def withCsv (csv : Option String) : Args := { checking (.of 1) 1 with devices := some [0], sizes := some [8], csv }

private theorem called_allocating (csv : Option String) :
    Called plain (withCsv csv) [⟨8, 8, 8, .fp16, .nn⟩] (fun _ => 1000000) 0 false .interrupted false 1 := by
  have hsteps := Prog.steps_run beside_allocating (runDevice plain 1 0 [⟨8, 8, 8, .fp16, .nn⟩] (withCsv csv))
    (fresh 1000000)
  have hrun : (runDevice plain 1 0 [⟨8, 8, 8, .fp16, .nn⟩] (withCsv csv)).run allocating (fresh 1000000) =
      (.throw .interrupt, ⟨false, [], 1, 1000000⟩) := rfl
  rw [hrun] at hsteps
  exact @Called.interrupted plain (withCsv csv) _ (fun _ => 1000000) 0 false 1 false _ id hsteps

/-- The run that is struck there. -/
theorem run_allocating (csv : Option String) : ∃ log, ∃ s : State Int Out, Runs [0] (batchSize 0 false 1) log s ∧
    Struck plain (withCsv csv) [⟨8, 8, 8, .fp16, .nn⟩] (fun _ => 1000000) log 1 ∧ s.pc = .returned true ∧
    s.perDevice = [] ∧ ∀ p ∈ log, p.2 ≠ .interrupt := by
  have h₀ : Runs [0] (batchSize 0 false 1) [] (initial false : State Int Out) := .initial false
  have h₁ := h₀.step (.enter rfl rfl)
  have h₂ := h₁.step (.call rfl rfl)
  have h₃ := h₂.step (@Step.finishInterrupted _ _ _ _ _ _ 0 false [] rfl)
  have h₄ := h₃.step (.handle rfl)
  have h₅ := h₄.step (.leave rfl)
  refine ⟨_, _, h₅, ?_, rfl, rfl, by simp⟩
  exact (Struck.finish (s := { initial false with pc := .calling 0 [], calls := [0] }) Struck.nil.main.main rfl
    (called_allocating csv)).main.main

theorem interrupted_exit_iff_plain : ∃ log, ∃ s : State Int Out, Runs [0] (batchSize 0 false 1) log s ∧
    Struck plain (withCsv none) [⟨8, 8, 8, .fp16, .nn⟩] (fun _ => 1000000) log 1 ∧
    exitOf plain (withCsv none) s = some (.code 130) := by
  obtain ⟨log, s, hrun, hstruck, hpc, -, hnone⟩ := run_allocating none
  refine ⟨log, s, hrun, hstruck, ((interrupted_exit_iff hrun hstruck).2.2 (by simp [exitOf, hpc])).2 fun p hp => ?_⟩
  obtain ⟨s, e⟩ := p
  cases e with
  | interrupt => exact absurd rfl (hnone _ hp)
  | finish o stop =>
    cases o with
    | interrupted => exact fun hcsv => absurd hcsv (by decide)
    | _ => trivial
  | _ => trivial

/-- With a CSV file, which has no row, `main` ends in an IndexError. -/
theorem csv_escapes :
    setup plain (withCsv (some "results.csv")) true ["CMP 100-210"] = .ok ([0], [⟨8, 8, 8, .fp16, .nn⟩]) ∧
      ∃ log, ∃ s : State Int Out, Runs [0] (batchSize 0 false 1) log s ∧
        Struck plain (withCsv (some "results.csv")) [⟨8, 8, 8, .fp16, .nn⟩] (fun _ => 1000000) log 1 ∧
        exitOf plain (withCsv (some "results.csv")) s = some (.escaped "list index out of range") := by
  refine ⟨rfl, ?_⟩
  obtain ⟨log, s, hrun, hstruck, hpc, hempty, -⟩ := run_allocating (some "results.csv")
  refine ⟨log, s, hrun, hstruck, ?_⟩
  rw [exitOf, hpc, hempty]
  rfl

end CmpUnlocker.Gemm
