import Mathlib.Data.List.Basic
import Mathlib.Data.List.Perm.Basic
import Mathlib.Data.List.Perm.Subperm

/-!
# Running every device

`run_all` of `gemm_stress.py` as a machine: the main thread, the futures of the thread pool in the order in which they
are collected, the stop flag, and the dictionary of results.  The `runner` that is called for a device may end in any
way and may set the stop flag; the workers of the pool run at their own pace.  A KeyboardInterrupt may strike the main
thread at every one of its steps; one that strikes a runner is a way in which its call ends.

`calls` and `ends` are a history: the calls of the runner, and those that returned normally.
-/

namespace CmpUnlocker.Gemm

/-- How a call of the runner ends; `interrupted` is a KeyboardInterrupt. -/
inductive Finish (ρ : Type) : Type
  | returned (out : ρ)
  | interrupted
  | raised (text : String)

/-- A future of the pool. -/
inductive Work (ρ : Type) : Type
  | queued
  | running
  | finished (o : Finish ρ)
  | cancelled

/-- Where the main thread is in `run_all`.  An exception on its way out is a KeyboardInterrupt or a text. -/
inductive Pc (ι ρ : Type) : Type
  /-- in front of the `try` -/
  | entry
  /-- at the head of the `for`, with the batches to come -/
  | loop (batches : List (List ι))
  /-- in the runner, called for a batch of one device -/
  | calling (d : ι) (rest : List (List ι))
  /-- behind its return, in front of the assignment -/
  | assigning (d : ι) (out : ρ) (rest : List (List ι))
  /-- in `pool.map`, with the devices not yet submitted -/
  | submitting (todo : List ι) (rest : List (List ι))
  /-- waiting for the first future of the pool that is not collected -/
  | collecting (rest : List (List ι))
  /-- with a collected result, in front of the assignment -/
  | storing (d : ι) (out : ρ) (rest : List (List ι))
  /-- at the end of the `with`, everything being collected -/
  | closing (rest : List (List ι))
  /-- waiting for the workers with an exception; `guarded` inside the `except` of the pool -/
  | draining (exn : Option String) (guarded : Bool)
  /-- in the outer `except KeyboardInterrupt` -/
  | handler
  /-- behind the `try` statement -/
  | leaving
  | returned (interrupted : Bool)
  | raised (exn : Option String)

structure State (ι ρ : Type) where
  pc : Pc ι ρ
  stop : Bool
  perDevice : List (ι × ρ)
  pool : List (ι × Work ρ)
  calls : List ι
  ends : List (ι × ρ)

inductive Event (ρ : Type) : Type
  /-- the main thread goes on -/
  | main
  /-- a KeyboardInterrupt strikes the main thread -/
  | interrupt
  /-- the runner called by the main thread ends, having set the stop flag or not -/
  | finish (o : Finish ρ) (stop : Bool)
  /-- a worker takes up the future at this place of the pool -/
  | start (i : Nat)
  /-- the runner called by a worker ends -/
  | done (i : Nat) (o : Finish ρ) (stop : Bool)

/-- The size of the batches. -/
def batchSize (maxParallel : Int) (parallel : Bool) (n : Nat) : Int :=
  if maxParallel > 0 then maxParallel else if parallel then n else 1

section

variable {ι ρ : Type}

/-- The slices of `batch_devices`, of which there are at most as many as devices. -/
def slices (size : Nat) : Nat → List ι → List (List ι)
  | 0, _ => []
  | _ + 1, [] => []
  | fuel + 1, d :: ds => (d :: ds).take size :: slices size fuel ((d :: ds).drop size)

def batchDevices (devices : List ι) (size : Int) : Except String (List (List ι)) :=
  if size < 1 then .error "--max-parallel must be >= 1" else .ok (slices size.toNat devices.length devices)

/-- `cancel()` of a future. -/
def Work.cancel : Work ρ → Work ρ
  | queued => cancelled
  | w => w

/-- The future is not going to change any more. -/
def Work.ended : Work ρ → Bool
  | finished _ => true
  | cancelled => true
  | _ => false

/-- The result of a normal return. -/
def Finish.result (d : ι) : Finish ρ → List (ι × ρ)
  | returned out => [(d, out)]
  | _ => []

variable [DecidableEq ι]

/-- `per_device[d] = out`. -/
def put (d : ι) (out : ρ) (m : List (ι × ρ)) : List (ι × ρ) :=
  if d ∈ m.map Prod.fst then m.map fun e => if e.1 = d then (d, out) else e else m ++ [(d, out)]

/-- One step of `run_all` on these devices, with batches of this size. -/
inductive Step (devices : List ι) (size : Int) : State ι ρ → Event ρ → State ι ρ → Prop
  | enter {s : State ι ρ} {batches : List (List ι)} (hpc : s.pc = .entry)
    (h : batchDevices devices size = .ok batches) :
      Step devices size s .main { s with pc := .loop batches }
  | refuse {s : State ι ρ} {text : String} (hpc : s.pc = .entry) (h : batchDevices devices size = .error text) :
      Step devices size s .main { s with pc := .raised (some text) }
  | halt {s : State ι ρ} {batch : List ι} {rest : List (List ι)} (hpc : s.pc = .loop (batch :: rest))
      (hstop : s.stop = true) : Step devices size s .main { s with pc := .leaving }
  | exhausted {s : State ι ρ} (hpc : s.pc = .loop []) : Step devices size s .main { s with pc := .leaving }
  | call {s : State ι ρ} {d : ι} {rest : List (List ι)} (hpc : s.pc = .loop ([d] :: rest)) (hstop : s.stop = false) :
      Step devices size s .main { s with pc := .calling d rest, calls := s.calls ++ [d] }
  | noDevice {s : State ι ρ} {rest : List (List ι)} (hpc : s.pc = .loop ([] :: rest)) (hstop : s.stop = false) :
      Step devices size s .main { s with pc := .raised (some "list index out of range") }
  | finished {s : State ι ρ} {d : ι} {out : ρ} {stop : Bool} {rest : List (List ι)} (hpc : s.pc = .calling d rest) :
      Step devices size s (.finish (.returned out) stop)
        { s with pc := .assigning d out rest, stop := s.stop || stop, ends := s.ends ++ [(d, out)] }
  | finishInterrupted {s : State ι ρ} {d : ι} {stop : Bool} {rest : List (List ι)} (hpc : s.pc = .calling d rest) :
      Step devices size s (.finish .interrupted stop) { s with pc := .handler, stop := s.stop || stop }
  | finishRaised {s : State ι ρ} {d : ι} {text : String} {stop : Bool} {rest : List (List ι)}
      (hpc : s.pc = .calling d rest) :
      Step devices size s (.finish (.raised text) stop) { s with pc := .raised (some text), stop := s.stop || stop }
  | assign {s : State ι ρ} {d : ι} {out : ρ} {rest : List (List ι)} (hpc : s.pc = .assigning d out rest) :
      Step devices size s .main { s with pc := .loop rest, perDevice := put d out s.perDevice }
  | pooled {s : State ι ρ} {d d' : ι} {batch : List ι} {rest : List (List ι)}
      (hpc : s.pc = .loop ((d :: d' :: batch) :: rest)) (hstop : s.stop = false) :
      Step devices size s .main { s with pc := .submitting (d :: d' :: batch) rest }
  | submit {s : State ι ρ} {d : ι} {todo : List ι} {rest : List (List ι)} (hpc : s.pc = .submitting (d :: todo) rest) :
      Step devices size s .main { s with pc := .submitting todo rest, pool := s.pool ++ [(d, .queued)] }
  | submitted {s : State ι ρ} {rest : List (List ι)} (hpc : s.pc = .submitting [] rest) :
      Step devices size s .main { s with pc := .collecting rest }
  | collect {s : State ι ρ} {d : ι} {out : ρ} {pool : List (ι × Work ρ)} {rest : List (List ι)}
      (hpc : s.pc = .collecting rest) (hpool : s.pool = (d, .finished (.returned out)) :: pool) :
      Step devices size s .main { s with pc := .storing d out rest, pool }
  | collectInterrupted {s : State ι ρ} {d : ι} {pool : List (ι × Work ρ)} {rest : List (List ι)}
      (hpc : s.pc = .collecting rest) (hpool : s.pool = (d, .finished .interrupted) :: pool) :
      Step devices size s .main { s with pc := .draining none true, stop := true, pool }
  | collectRaised {s : State ι ρ} {d : ι} {text : String} {pool : List (ι × Work ρ)} {rest : List (List ι)}
      (hpc : s.pc = .collecting rest) (hpool : s.pool = (d, .finished (.raised text)) :: pool) :
      Step devices size s .main { s with pc := .draining (some text) false, pool }
  | store {s : State ι ρ} {d : ι} {out : ρ} {rest : List (List ι)} (hpc : s.pc = .storing d out rest) :
      Step devices size s .main { s with pc := .collecting rest, perDevice := put d out s.perDevice }
  | collected {s : State ι ρ} {rest : List (List ι)} (hpc : s.pc = .collecting rest) (hpool : s.pool = []) :
      Step devices size s .main { s with pc := .closing rest }
  | close {s : State ι ρ} {rest : List (List ι)} (hpc : s.pc = .closing rest) :
      Step devices size s .main { s with pc := .loop rest }
  | cancel {s : State ι ρ} {exn : Option String} {guarded : Bool} (hpc : s.pc = .draining exn guarded)
      (hpool : ∃ e ∈ s.pool, e.2 = .queued) :
      Step devices size s .main { s with pool := s.pool.map fun e => (e.1, e.2.cancel) }
  | drained {s : State ι ρ} {guarded : Bool} (hpc : s.pc = .draining none guarded)
      (hpool : ∀ e ∈ s.pool, e.2.ended = true) : Step devices size s .main { s with pc := .handler }
  | drainedRaised {s : State ι ρ} {text : String} {guarded : Bool} (hpc : s.pc = .draining (some text) guarded)
      (hpool : ∀ e ∈ s.pool, e.2.ended = true) : Step devices size s .main { s with pc := .raised (some text) }
  | handle {s : State ι ρ} (hpc : s.pc = .handler) :
      Step devices size s .main { s with pc := .leaving, stop := true }
  | leave {s : State ι ρ} (hpc : s.pc = .leaving) : Step devices size s .main { s with pc := .returned s.stop }
  /-- outside the `try` the KeyboardInterrupt leaves `run_all` -/
  | escape {s : State ι ρ} (hpc : s.pc = .entry ∨ s.pc = .handler ∨ s.pc = .leaving) :
      Step devices size s .interrupt { s with pc := .raised none }
  | interrupt {s : State ι ρ} {rest : List (List ι)} (hpc : s.pc = .loop rest ∨ s.pc = .closing rest) :
      Step devices size s .interrupt { s with pc := .handler }
  | interruptAssigning {s : State ι ρ} {d : ι} {out : ρ} {rest : List (List ι)} (hpc : s.pc = .assigning d out rest) :
      Step devices size s .interrupt { s with pc := .handler }
  | interruptCollection {s : State ι ρ} {todo : List ι} {rest : List (List ι)}
      (hpc : s.pc = .submitting todo rest ∨ s.pc = .collecting rest) :
      Step devices size s .interrupt { s with pc := .draining none true, stop := true }
  | interruptStoring {s : State ι ρ} {d : ι} {out : ρ} {rest : List (List ι)} (hpc : s.pc = .storing d out rest) :
      Step devices size s .interrupt { s with pc := .draining none true, stop := true }
  /-- the wait of the `except` is repeated at the end of the `with`; that one is left at once -/
  | interruptDraining {s : State ι ρ} {exn : Option String} (hpc : s.pc = .draining exn true) :
      Step devices size s .interrupt { s with pc := .draining none false }
  | interruptClosing {s : State ι ρ} {exn : Option String} (hpc : s.pc = .draining exn false) :
      Step devices size s .interrupt { s with pc := .handler }
  | taken {s : State ι ρ} {before after : List (ι × Work ρ)} {d : ι}
    (hpool : s.pool = before ++ (d, .queued) :: after) :
      Step devices size s (.start before.length)
        { s with pool := before ++ (d, .running) :: after, calls := s.calls ++ [d] }
  | ended {s : State ι ρ} {before after : List (ι × Work ρ)} {d : ι} {o : Finish ρ} {stop : Bool}
      (hpool : s.pool = before ++ (d, .running) :: after) :
      Step devices size s (.done before.length o stop)
        { s with
          pool := before ++ (d, .finished o) :: after
          stop := s.stop || stop
          ends := s.ends ++ o.result d }

def initial (stop : Bool) : State ι ρ where
  pc := .entry
  stop := stop
  perDevice := []
  pool := []
  calls := []
  ends := []

/-- A run, with its steps: the state before each of them, and the event. -/
inductive Runs (devices : List ι) (size : Int) : List (State ι ρ × Event ρ) → State ι ρ → Prop
  | initial (stop : Bool) : Runs devices size [] (initial stop)
  | step {log : List (State ι ρ × Event ρ)} {s s' : State ι ρ} {e : Event ρ} (h : Runs devices size log s)
      (hs : Step devices size s e s') : Runs devices size (log ++ [(s, e)]) s'

end

end CmpUnlocker.Gemm
