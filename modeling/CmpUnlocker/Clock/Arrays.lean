import CmpUnlocker.Clock.Commands
import CmpUnlocker.Lib.Trace
import Mathlib.Data.List.Chain

/-!
# The arrays of the reports

`samples` and `procs` of `cmp100-nvml-clock-v2.rs` with the counts and the buffers they pass to NVML: a probe without a
buffer, then at most two reads into a buffer of the length reported last.  What a call returns is arbitrary, the count
and the contents of the buffer included.  No run panics, asks for more entries than its buffer holds, or exposes more of
them than it holds and than were reported (`samples_bounded`, `procs_bounded`).  The commands `samples` and `procs` of
the tool ask the same calls (`samples_covered`, `procs_covered`).
-/

namespace CmpUnlocker.Clock

open Interaction

namespace Arrays

/-- A union `V`, by its bits. -/
abbrev V : Type := UInt64

structure Sample where
  timestamp : UInt64
  value : V

structure Proc where
  pid : UInt32
  usedGpuMemory : UInt64
  gpuInstanceId : UInt32
  computeInstanceId : UInt32

/-- The functions that fill an array: `nvmlDeviceGetSamples`, and the two behind `pcall`. -/
inductive Stream
  | samples (d : D) (t : Int)
  | processes (d : D) (graphics : Bool)

namespace Stream

@[reducible] def Row : Stream → Type
  | samples _ _ => Sample
  | processes _ _ => Proc

/-- What is passed in and out beside the count: the value type of the samples. -/
@[reducible] def Extra : Stream → Type
  | samples _ _ => Int
  | processes _ _ => Unit

end Stream

/-- A call, with the count it passes and the capacity of its buffer, if that is not the null pointer. -/
structure Call where
  stream : Stream
  extra : stream.Extra
  count : UInt32
  buffer : Option Nat

def Call.capacity (c : Call) : Nat := c.buffer.getD 0

/-- What a call leaves behind; `memory` is the contents of the buffer. -/
structure Reading (s : Stream) where
  code : Int
  extra : s.Extra
  count : UInt32
  memory : Nat → s.Row

@[reducible] def Call.Answer (c : Call) : Type := Reading c.stream

/-- The panic of the source. -/
inductive Panic
  | unreachable

/-- What is printed of an array. -/
inductive Report (s : Stream)
  | failed (probe : Int)
  | countCap (probe : Option Int)
  | unread (probe read : Int) (returnedCount : UInt32)
  | entries (probe read : Int) (extra : s.Extra) (rows : List s.Row)

abbrev Fetch (α : Type) : Type := Prog Call Call.Answer Panic α

def MAX_ENTRIES : UInt32 := 1000000

def checkedAdd (n k : UInt32) : Option UInt32 := if n.toNat + k.toNat < UInt32.size then some (n + k) else none

/-- The loop over the attempts, `n` being the count reported last and `capacity` the one of the next buffer. -/
def attempts (s : Stream) (probe : Int) (capped : Option Int) (capacity : UInt32 → Option UInt32) (x : s.Extra)
    (n : UInt32) : List Nat → Fetch (Report s)
  | [] => throw .unreachable
  | attempt :: rest =>
    match capacity n with
    | none => return .countCap capped
    | some cap => do
      let r : Reading s ← Prog.request (Call.mk s x cap (some cap.toNat))
      if r.code = ok ∧ r.count ≤ cap then
        return .entries probe r.code r.extra ((List.range r.count.toNat).map r.memory)
      else if r.code = INSUFFICIENT ∧ r.count > cap ∧ r.count ≤ MAX_ENTRIES ∧ attempt = 0 then
        attempts s probe capped capacity r.extra r.count rest
      else return .unread probe r.code r.count

def samples (d : D) (t : Int) : Fetch (Report (.samples d t)) := do
  let probe : Reading (.samples d t) ← Prog.request (Call.mk (.samples d t) (6 : Int) 0 none)
  if probe.code ≠ ok then return .failed probe.code
  else if probe.count > MAX_ENTRIES then return .countCap (some probe.code)
  else attempts _ probe.code none some probe.extra probe.count (List.range 2)

/-- `n.checked_add(4)`, unless it exceeds `MAX_ENTRIES`. -/
def padded (n : UInt32) : Option UInt32 := (checkedAdd n 4).filter fun x => x ≤ MAX_ENTRIES

def procs (d : D) (g : Bool) : Fetch (Report (.processes d g)) := do
  let probe : Reading (.processes d g) ← Prog.request (Call.mk (.processes d g) () 0 none)
  if probe.code ≠ ok ∧ probe.code ≠ INSUFFICIENT then return .failed probe.code
  else if probe.count > MAX_ENTRIES then return .countCap none
  else attempts _ probe.code none padded () probe.count (List.range 2)

/-! ### What the loop asks for -/

open Prog (Plays plays_ret ret_bind pure_eq)

/-- The capacity of a call and the count it reports. -/
def sizes (e : Event Call.Answer) : Nat × Nat := (e.1.capacity, e.2.count.toNat)

/-- Each buffer has room for the entries reported last, and for `slack` more. -/
def Fitting (slack : Nat) (sizes : List (Nat × Nat)) : Prop := sizes.IsChain fun a b => b.1 = a.2 + slack

/-- The entries exposed are in the buffer of the last call and among those it reported. -/
def Exposes {s : Stream} (t : List (Event Call.Answer)) (q : Fetch (Report s)) : Prop :=
  ∀ probe read extra rows, q = .ret (.entries probe read extra rows) → ∃ e, t.getLast? = some e ∧
    rows.length ≤ e.1.capacity ∧ rows.length ≤ e.2.count.toNat

/-- A read: its count is the capacity of its buffer, which is at most `MAX_ENTRIES`. -/
def Read (e : Event Call.Answer) : Prop := e.1.buffer = some e.1.count.toNat ∧ e.1.count.toNat ≤ 1000000

@[simp] theorem toNat_MAX_ENTRIES : MAX_ENTRIES.toNat = 1000000 := rfl

theorem Read.capacity {e : Event Call.Answer} (h : Read e) : e.1.capacity = e.1.count.toNat := by
  simp [Call.capacity, h.1]

private theorem checkedAdd_toNat {n k x : UInt32} (h : checkedAdd n k = some x) : x.toNat = n.toNat + k.toNat := by
  unfold checkedAdd at h
  by_cases hsum : n.toNat + k.toNat < UInt32.size
  · rw [if_pos hsum] at h
    cases h
    have hlt : n.toNat + k.toNat < 2 ^ 32 := hsum
    rw [UInt32.toNat_add, Nat.mod_eq_of_lt hlt]
  · rw [if_neg hsum] at h
    cases h

variable {s : Stream} {probe : Int} {capped : Option Int} {capacity : UInt32 → Option UInt32} {x : s.Extra}
  {n : UInt32} {slack : Nat} {t : List (Event Call.Answer)} {q : Fetch (Report s)}

/-- The loop, where the last attempt is not the first one: it does not come to its end. -/
theorem attempts_bounded (hcapacity : ∀ n cap : UInt32, n ≤ MAX_ENTRIES → capacity n = some cap →
      cap.toNat = n.toNat + slack ∧ cap ≤ MAX_ENTRIES)
    {tries : List Nat} (hne : tries ≠ []) (hlast : tries.getLast? ≠ some 0) (hn : n ≤ MAX_ENTRIES)
    (h : Plays (attempts s probe capped capacity x n tries) t q) (before : Nat) :
    (∀ e, q ≠ .throw e) ∧ t.length ≤ tries.length ∧ (∀ e ∈ t, Read e) ∧
      Fitting slack ((before, n.toNat) :: t.map sizes) ∧ Exposes t q := by
  induction tries generalizing x n t before with
  | nil => exact absurd rfl hne
  | cons attempt rest ih =>
    unfold attempts at h
    cases hcap : capacity n with
    | none =>
      simp only [hcap, pure_eq, plays_ret] at h
      obtain ⟨rfl, rfl⟩ := h
      refine ⟨by simp, by simp, by simp, by simp [Fitting], ?_⟩
      intro probe read extra rows hq
      cases hq
    | some cap =>
      obtain ⟨hsize, hmax⟩ := hcapacity n cap hn hcap
      have hmax' : cap.toNat ≤ 1000000 := UInt32.le_iff_toNat_le.1 hmax
      simp only [hcap] at h
      cases h with
      | done =>
        refine ⟨by simp, by simp, by simp, by simp [Fitting], ?_⟩
        intro probe read extra rows hq
        cases hq
      | @answer _ _ r t _ h =>
        have hread : Read ⟨Call.mk s x cap (some cap.toNat), r⟩ := ⟨rfl, hmax'⟩
        have hfits : (sizes ⟨Call.mk s x cap (some cap.toNat), r⟩).1 = n.toNat + slack := hsize
        simp only [ret_bind] at h
        by_cases hfull : r.code = ok ∧ r.count ≤ cap
        · rw [if_pos hfull] at h
          obtain ⟨rfl, rfl⟩ := plays_ret.1 h
          refine ⟨by simp, by simp, by simpa using hread, by simpa [Fitting] using hfits, ?_⟩
          intro probe read extra rows hq
          cases hq
          have hlength : r.count.toNat ≤ cap.toNat := UInt32.le_iff_toNat_le.1 hfull.2
          exact ⟨_, rfl, by simpa [Call.capacity] using hlength, by simp⟩
        · rw [if_neg hfull] at h
          by_cases hgrown : r.code = INSUFFICIENT ∧ r.count > cap ∧ r.count ≤ MAX_ENTRIES ∧ attempt = 0
          · rw [if_pos hgrown] at h
            -- the first attempt is not the last one
            have hrest : rest ≠ [] := by
              rintro rfl
              exact hlast (by simp [hgrown.2.2.2])
            have hlast' : rest.getLast? ≠ some 0 := by
              rwa [List.getLast?_cons_of_ne_nil hrest] at hlast
            obtain ⟨hthrow, hlen, hreads, hchain, hexposes⟩ := ih hrest hlast' hgrown.2.2.1 h
              (Call.mk s x cap (some cap.toNat)).capacity
            refine ⟨hthrow, by simpa using hlen, ?_, ?_, ?_⟩
            · simpa using ⟨hread, hreads⟩
            · exact List.isChain_cons_cons.2 ⟨hfits, hchain⟩
            · intro probe read extra rows hq
              obtain ⟨e, he, hrows⟩ := hexposes probe read extra rows hq
              have hne : t ≠ [] := by
                rintro rfl
                cases he
              exact ⟨e, by rw [List.getLast?_cons_of_ne_nil hne, he], hrows⟩
          · rw [if_neg hgrown] at h
            obtain ⟨rfl, rfl⟩ := plays_ret.1 h
            refine ⟨by simp, by simp, by simpa using hread, by simpa [Fitting] using hfits, ?_⟩
            intro probe read extra rows hq
            cases hq

/-- A run has kept the bounds: at most one probe and two reads, none of which passes a greater count than its buffer
holds or than `MAX_ENTRIES`; the capacities are the counts reported before, as natural numbers, and `slack` more; the
run has not panicked, and what it exposes is in the buffer and was reported. -/
structure Bounded (slack : Nat) (t : List (Event Call.Answer)) (q : Fetch (Report s)) : Prop where
  calls : ∃ probes reads, t = probes ++ reads ∧ probes.length ≤ 1 ∧ reads.length ≤ 2 ∧
    (∀ e ∈ probes, e.1.buffer = none) ∧ ∀ e ∈ reads, e.1.buffer.isSome
  room : ∀ e ∈ t, e.1.count.toNat ≤ e.1.capacity ∧ e.1.count.toNat ≤ 1000000
  fitting : Fitting slack (t.map sizes)
  safe : ∀ e, q ≠ .throw e
  exposes : Exposes t q

/-- The run behind the probe, which has the null pointer for its buffer. -/
theorem Bounded.probed {probing : Event Call.Answer} (hbuffer : probing.1.buffer = none) (hcount : probing.1.count = 0)
    (hthrow : ∀ e, q ≠ .throw e) (hlength : t.length ≤ 2) (hreads : ∀ e ∈ t, Read e)
    (hfitting : Fitting slack (sizes probing :: t.map sizes)) (hexposes : Exposes t q) :
    Bounded slack (probing :: t) q where
  calls := by
    refine ⟨[probing], t, rfl, by simp, hlength, by simpa using hbuffer, fun e he => ?_⟩
    rw [(hreads e he).1]
    rfl
  room := by
    intro e he
    rcases List.mem_cons.1 he with rfl | he
    · simp [hcount]
    · exact ⟨(hreads e he).capacity.ge, (hreads e he).2⟩
  fitting := hfitting
  safe := hthrow
  exposes := by
    intro probe read extra rows hq
    obtain ⟨e, he, hrows⟩ := hexposes probe read extra rows hq
    have hne : t ≠ [] := by
      rintro rfl
      cases he
    exact ⟨e, by rw [List.getLast?_cons_of_ne_nil hne, he], hrows⟩

private theorem Bounded.unasked {c : Call} {k : c.Answer → Fetch (Report s)} : Bounded slack [] (.call c k) where
  calls := ⟨[], [], by simp⟩
  room := by simp
  fitting := by simp [Fitting]
  safe := fun e he => (nomatch he)
  exposes := fun _ _ _ _ hq => (nomatch hq)

/-- The runs that end with the probe. -/
theorem Bounded.ended {probing : Event Call.Answer} (hbuffer : probing.1.buffer = none) (hcount : probing.1.count = 0)
    {report : Report s} (hreport : ∀ probe read extra rows, report ≠ .entries probe read extra rows) :
    Bounded slack [probing] (.ret report) := by
  refine Bounded.probed hbuffer hcount (by simp) (by simp) (by simp) (by simp [Fitting]) ?_
  intro probe read extra rows hq
  cases hq
  exact absurd rfl (hreport probe read extra rows)

theorem samples_bounded {d : D} {v : Int} {q : Fetch (Report (.samples d v))} (h : Plays (samples d v) t q) :
    Bounded 0 t q := by
  unfold samples at h
  cases h with
  | done => exact Bounded.unasked
  | @answer _ _ r t _ h =>
    simp only [ret_bind] at h
    by_cases hprobe : r.code ≠ ok
    · rw [if_pos hprobe] at h
      obtain ⟨rfl, rfl⟩ := plays_ret.1 h
      exact Bounded.ended rfl rfl (by simp)
    · rw [if_neg hprobe] at h
      by_cases hcap : r.count > MAX_ENTRIES
      · rw [if_pos hcap] at h
        obtain ⟨rfl, rfl⟩ := plays_ret.1 h
        exact Bounded.ended rfl rfl (by simp)
      · rw [if_neg hcap] at h
        have hn : r.count ≤ MAX_ENTRIES := UInt32.not_lt.1 hcap
        have hcapacity : ∀ n cap : UInt32, n ≤ MAX_ENTRIES → some n = some cap →
            cap.toNat = n.toNat + 0 ∧ cap ≤ MAX_ENTRIES := by
          rintro n cap hn ⟨⟩
          exact ⟨rfl, hn⟩
        obtain ⟨hthrow, hlength, hreads, hfitting, hexposes⟩ :=
          attempts_bounded hcapacity (by decide) (by decide) hn h 0
        exact Bounded.probed rfl rfl hthrow hlength hreads hfitting hexposes

theorem procs_bounded {d : D} {g : Bool} {q : Fetch (Report (.processes d g))} (h : Plays (procs d g) t q) :
    Bounded 4 t q := by
  unfold procs at h
  cases h with
  | done => exact Bounded.unasked
  | @answer _ _ r t _ h =>
    simp only [ret_bind] at h
    by_cases hprobe : r.code ≠ ok ∧ r.code ≠ INSUFFICIENT
    · rw [if_pos hprobe] at h
      obtain ⟨rfl, rfl⟩ := plays_ret.1 h
      exact Bounded.ended rfl rfl (by simp)
    · rw [if_neg hprobe] at h
      by_cases hcap : r.count > MAX_ENTRIES
      · rw [if_pos hcap] at h
        obtain ⟨rfl, rfl⟩ := plays_ret.1 h
        exact Bounded.ended rfl rfl (by simp)
      · rw [if_neg hcap] at h
        have hn : r.count ≤ MAX_ENTRIES := UInt32.not_lt.1 hcap
        have hcapacity : ∀ n cap : UInt32, n ≤ MAX_ENTRIES → padded n = some cap →
            cap.toNat = n.toNat + 4 ∧ cap ≤ MAX_ENTRIES := by
          intro n cap hn hpadded
          obtain ⟨hsum, hmax⟩ := Option.filter_eq_some_iff.1 hpadded
          exact ⟨checkedAdd_toNat hsum, by simpa using hmax⟩
        obtain ⟨hthrow, hlength, hreads, hfitting, hexposes⟩ :=
          attempts_bounded hcapacity (by decide) (by decide) hn h 0
        exact Bounded.probed rfl rfl hthrow hlength hreads hfitting hexposes

theorem arrays_bounded (d : D) (t : List (Event Call.Answer)) :
    (∀ v (q : Fetch (Report (.samples d v))), Plays (samples d v) t q → Bounded 0 t q) ∧
      ∀ g (q : Fetch (Report (.processes d g))), Plays (procs d g) t q → Bounded 4 t q :=
  ⟨fun _ _ h => samples_bounded h, fun _ _ h => procs_bounded h⟩

/-- A call for the processes, answered with this code and this count. -/
def answered (count : UInt32) (buffer : Option Nat) (code : Int) (returned : UInt32) : Event Call.Answer :=
  ⟨⟨.processes 0 true, (), count, buffer⟩, ⟨code, (), returned, fun _ => ⟨1, 0, 0, 0⟩⟩⟩

/-- The list of processes grows behind the probe and behind the first read. -/
theorem growing_bounded : ∃ rows, rows.length = 13 ∧
    Bounded 4 [answered 0 none 7 2, answered 6 (some 6) 7 9, answered 13 (some 13) 0 13]
      (.ret (.entries 7 0 () rows) : Fetch (Report (.processes 0 true))) :=
  ⟨_, by decide, (arrays_bounded 0 _).2 true _ (.answer (.answer (.answer (.done _))))⟩

/-! ### The commands of the tool -/

def Stream.device : Stream → D
  | .samples d _ | .processes d _ => d

/-- `pcall` for the processes. -/
def Stream.function : Stream → String
  | .samples _ _ => "nvmlDeviceGetSamples"
  | .processes _ true => "nvmlDeviceGetGraphicsRunningProcesses_v3"
  | .processes _ false => "nvmlDeviceGetComputeRunningProcesses_v3"

def Stream.arguments : Stream → List Int
  | .samples _ t => [t]
  | .processes _ _ => []

/-- A call as a request of the commands, which know neither the contents of the buffers nor the value type. -/
def asQuery (e : Event Call.Answer) : Event Request.Answer :=
  ⟨.get (.query e.1.stream.device e.1.stream.function
    (e.1.stream.arguments ++ (e.1.buffer.map fun cap => (cap : Int)).toList)), (e.2.code, [(e.2.count.toNat : Int)])⟩

private theorem attempts_covered (capacity' : Int → Option Int)
    (hcapacity : ∀ n : UInt32, capacity' n.toNat = (capacity n).map fun cap => (cap.toNat : Int))
    {tries : List Nat} {report : Report s} (h : Plays (attempts s probe capped capacity x n tries) t (.ret report)) :
    Plays (readArray s.device s.function s.arguments capacity' n.toNat tries) (t.map asQuery) (.ret ()) := by
  induction tries generalizing x n t with
  | nil =>
    cases h
  | cons attempt rest ih =>
    unfold attempts at h
    unfold readArray
    rw [hcapacity]
    cases hcap : capacity n with
    | none =>
      simp only [hcap, pure_eq, plays_ret] at h
      simp [h.1]
    | some cap =>
      simp only [hcap] at h
      cases h with
      | @answer _ _ r t _ h =>
        simp only [ret_bind] at h
        refine .answer ?_
        simp only [ret_bind, List.headD_cons, pure_eq]
        have hfull : (r.code = ok ∧ (r.count.toNat : Int) ≤ cap.toNat) ↔ r.code = ok ∧ r.count ≤ cap := by
          rw [UInt32.le_iff_toNat_le, Int.ofNat_le]
        have hgrown : (r.code = INSUFFICIENT ∧ (r.count.toNat : Int) > cap.toNat ∧
            (r.count.toNat : Int) ≤ Clock.MAX_ENTRIES ∧ attempt = 0) ↔
            r.code = INSUFFICIENT ∧ r.count > cap ∧ r.count ≤ MAX_ENTRIES ∧ attempt = 0 := by
          have hmax : ((r.count.toNat : Int) ≤ Clock.MAX_ENTRIES) ↔ r.count ≤ MAX_ENTRIES := by
            rw [UInt32.le_iff_toNat_le, toNat_MAX_ENTRIES]
            unfold Clock.MAX_ENTRIES
            omega
          have hlt : ((r.count.toNat : Int) > cap.toNat) ↔ r.count > cap := by
            rw [gt_iff_lt, gt_iff_lt, UInt32.lt_iff_toNat_lt, Int.ofNat_lt]
          rw [hmax, hlt]
        by_cases hfilled : r.code = ok ∧ r.count ≤ cap
        · rw [if_pos hfilled] at h
          rw [if_pos (hfull.2 hfilled)]
          obtain ⟨rfl, -⟩ := plays_ret.1 h
          exact .done _
        · rw [if_neg hfilled] at h
          rw [if_neg (mt hfull.1 hfilled)]
          by_cases hagain : r.code = INSUFFICIENT ∧ r.count > cap ∧ r.count ≤ MAX_ENTRIES ∧ attempt = 0
          · rw [if_pos hagain] at h
            rw [if_pos (hgrown.2 hagain)]
            exact ih h
          · rw [if_neg hagain] at h
            rw [if_neg (mt hgrown.1 hagain)]
            obtain ⟨rfl, -⟩ := plays_ret.1 h
            exact .done _

private theorem capped_covered (n : UInt32) : ((n.toNat : Int) > Clock.MAX_ENTRIES) ↔ n > MAX_ENTRIES := by
  rw [gt_iff_lt, gt_iff_lt, UInt32.lt_iff_toNat_lt, toNat_MAX_ENTRIES]
  unfold Clock.MAX_ENTRIES
  omega

/-- What the report on the samples asks, the command `samples` asks. -/
theorem samples_covered {d : D} {v : Int} {report : Report (.samples d v)}
    (h : Plays (samples d v) t (.ret report)) : Plays (Clock.samples d v) (t.map asQuery) (.ret ()) := by
  unfold samples at h
  unfold Clock.samples
  cases h with
  | @answer _ _ r t _ h =>
    simp only [ret_bind] at h
    refine .answer ?_
    simp only [ret_bind, List.headD_cons, pure_eq, capped_covered]
    by_cases hprobe : r.code ≠ ok
    · rw [if_pos hprobe] at h
      rw [if_pos (.inl hprobe)]
      obtain ⟨rfl, -⟩ := plays_ret.1 h
      exact .done _
    · rw [if_neg hprobe] at h
      by_cases hcap : r.count > MAX_ENTRIES
      · rw [if_pos hcap] at h
        rw [if_pos (.inr hcap)]
        obtain ⟨rfl, -⟩ := plays_ret.1 h
        exact .done _
      · rw [if_neg hcap] at h
        rw [if_neg (by tauto)]
        exact attempts_covered some (fun _ => rfl) h

private theorem padded_some {n : UInt32} (h : n.toNat + 4 ≤ 1000000) :
    padded n = some (n + 4) ∧ (n + 4).toNat = n.toNat + 4 := by
  have hfour : (4 : UInt32).toNat = 4 := rfl
  have hsize : UInt32.size = 2 ^ 32 := rfl
  have hsum : (n + 4).toNat = n.toNat + 4 := by
    rw [UInt32.toNat_add, hfour, Nat.mod_eq_of_lt (by omega)]
  have hmax : n + 4 ≤ MAX_ENTRIES := by
    rw [UInt32.le_iff_toNat_le, hsum]
    exact h
  have hfits : n.toNat + 4 < UInt32.size := by omega
  exact ⟨by simpa [padded, checkedAdd, hmax] using hfits, hsum⟩

private theorem padded_none {n : UInt32} (h : ¬n.toNat + 4 ≤ 1000000) : padded n = none := by
  cases hpadded : padded n with
  | none => rfl
  | some cap =>
    obtain ⟨hsum, hmax⟩ := Option.filter_eq_some_iff.1 hpadded
    have hcap : cap.toNat = n.toNat + 4 := checkedAdd_toNat hsum
    have hle : cap.toNat ≤ 1000000 := UInt32.le_iff_toNat_le.1 (by simpa using hmax)
    omega

/-- What the report on the processes asks, the command `procs` asks. -/
theorem procs_covered {d : D} {g : Bool} {report : Report (.processes d g)}
    (h : Plays (procs d g) t (.ret report)) :
    Plays (Clock.procs d (Stream.processes d g).function) (t.map asQuery) (.ret ()) := by
  unfold procs at h
  unfold Clock.procs
  cases h with
  | @answer _ _ r t _ h =>
    simp only [ret_bind] at h
    refine .answer ?_
    simp only [ret_bind, List.headD_cons, pure_eq, capped_covered]
    by_cases hprobe : r.code ≠ ok ∧ r.code ≠ INSUFFICIENT
    · rw [if_pos hprobe] at h
      rw [if_pos (.inl hprobe)]
      obtain ⟨rfl, -⟩ := plays_ret.1 h
      exact .done _
    · rw [if_neg hprobe] at h
      by_cases hcap : r.count > MAX_ENTRIES
      · rw [if_pos hcap] at h
        rw [if_pos (.inr hcap)]
        obtain ⟨rfl, -⟩ := plays_ret.1 h
        exact .done _
      · rw [if_neg hcap] at h
        rw [if_neg (by tauto)]
        have hcovered := fun capacity' hcapacity => attempts_covered capacity' hcapacity h
        refine hcovered _ fun n => ?_
        by_cases hfits : n.toNat + 4 ≤ 1000000
        · rw [if_pos (by unfold Clock.MAX_ENTRIES; omega), (padded_some hfits).1]
          simp [(padded_some hfits).2]
        · rw [if_neg (by unfold Clock.MAX_ENTRIES; omega), padded_none hfits]
          rfl

end Arrays

end CmpUnlocker.Clock
