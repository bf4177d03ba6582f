import Mathlib.Data.List.Forall2
import CmpUnlocker.Cupti.Selection

/-!
# The intervals of the event values

Continuous-mode counters as the comment of `read_bank` describes them: a read returns what the event has accumulated
since it was last read, or since its set was enabled, and zeroes it.  `Meter` adds to the world of the collector the
time from which each counter accumulates, the reads of the call in progress and of the one before, and the evaluations
of metrics.  All reads of a call are taken at the time stamp with which it gets past its check.

An evaluation `Spans` its window if and only if its events are `Covered` by the reads of the call before
(`windows_exact_iff`).
-/

namespace CmpUnlocker.Cupti

open Interaction

/-- A successful read of an event: the counts, and since when they accumulated. -/
structure Read where
  group : Nat
  event : Nat
  counts : List Nat
  start : Nat
  deriving DecidableEq, Repr

/-- A successful `cuptiMetricGetValue` and its result, with the reads of its call, the newest first, and those of the
call before. -/
structure Evaluation where
  id : Nat
  events : List Nat
  values : List Nat
  durationNs : Nat
  bits : Nat
  stop : Nat
  before : Option (List Read)
  reads : List Read
  deriving DecidableEq, Repr

/-- The world with its counters.  `now` is the time of the last call that got past its check, or of the enabling, and
`reads` are the reads of that call, `none` for the enabling. -/
structure Meter where
  world : World
  since : Nat → Nat → Nat
  now : Nat
  before : Option (List Read)
  reads : Option (List Read)
  evaluations : List Evaluation

namespace Meter

/-- The counter of an event is read and zeroed. -/
def read (w : Meter) (group event : Nat) (counts : List Nat) : Meter :=
  { w with
    since := fun g e => if g = group ∧ e = event then w.now else w.since g e
    reads := w.reads.map (⟨group, event, counts, w.since group event⟩ :: ·) }

/-- A call gets past its check at this time. -/
def advance (w : Meter) (endedNs : Nat) : Meter :=
  { w with now := endedNs, before := w.reads, reads := some [] }

def evaluate (w : Meter) (id : Nat) (events values : List Nat) (durationNs bits : Nat) : Meter :=
  { w with
    evaluations := ⟨id, events, values, durationNs, bits, w.now, w.before, w.reads.getD []⟩ :: w.evaluations }

/-- What an answer to the reader of bank `b` of device `d` says of the counters. -/
def observe (d b : Nat) (w : Meter) : (o : Op) → o.Answer → Meter
  | .getTimestamp, (rc, endedNs) =>
    if rc = success ∧ (w.world.mem.bank d b).lastReadTimestampNs < endedNs then w.advance endedNs else w
  | .eventGroupReadEvent group event _, (rc, counts) => if rc = success then w.read group event counts else w
  | .metricGetValue _ id events values durationNs, (rc, bits) =>
    if rc = success then w.evaluate id events values durationNs bits else w
  | _, _ => w

end Meter

/-- The environment of the reader of a bank. -/
def metered (d b : Nat) : Env Op Op.Answer Meter := fun w o r w' =>
  ∃ world, env w.world o r world ∧ w' = { w.observe d b o r with world }

/-- Nothing is asked of the requests. -/
def unrestricted : Env Op Op.Answer Meter := fun _ _ _ _ => True

/-- Calls of `read_bank`, one after the other, each with its `publish_empty`. -/
inductive Calls (P : Platform) (d b : Nat) : Meter → Meter → Prop
  | nil (w : Meter) : Calls P d b w w
  | call {w w₁ w₂ : Meter} {publishEmpty : Bool} {successful : Nat} (h : Calls P d b w w₁)
      (hread : Prog.Steps (metered d b) ((readBank P d b publishEmpty : Routine Empty Nat), w₁) (.ret successful, w₂)) :
      Calls P d b w w₂

/-- So often a counter is read. -/
def timesRead (group event : Nat) (reads : List Read) : Nat :=
  reads.countP fun r => r.group = group ∧ r.event = event

/-- The newest read of an event. -/
def newest (event : Nat) (reads : List Read) : Option Read := reads.find? fun r => r.event = event

namespace Evaluation

/-- The values are those of the newest reads of the events. -/
def Measured (P : Platform) (ev : Evaluation) : Prop :=
  ev.events.length = ev.values.length ∧ ∀ p ∈ ev.events.zip ev.values, ∃ r total instances,
    newest p.1 ev.reads = some r ∧ P.scaled r.counts total instances = some p.2

/-- Every value has accumulated over exactly the window. -/
def Spans (ev : Evaluation) : Prop :=
  ∀ event ∈ ev.events, ∀ r, newest event ev.reads = some r → r.start + ev.durationNs = ev.stop

/-- Every event is read once in the call, and in the call before, if there is one since the enabling. -/
def Covered (ev : Evaluation) : Prop :=
  ∀ event ∈ ev.events, ∀ r, newest event ev.reads = some r →
    timesRead r.group r.event ev.reads = 1 ∧
      ∀ reads, ev.before = some reads → timesRead r.group r.event reads ≠ 0

/-- The sample has the id and the window of the evaluation, and its value is the text of the result. -/
def Behind (P : Platform) (ev : Evaluation) (sample : MetricSample) : Prop :=
  ev.id = sample.id ∧ ev.durationNs = sample.windowNs ∧ sample.value = metricValueJson P sample.kind ev.bits

end Evaluation

/-- The bank has just been enabled. -/
structure JustEnabled (d b : Nat) (w : Meter) : Prop where
  zeroed : ∀ group event, w.since group event = w.now
  last : (w.world.mem.bank d b).lastReadTimestampNs = w.now
  reads : w.reads = none
  evaluations : w.evaluations = []

/-! ### The reads of a call -/

/-- A counter that has been read before in the call accumulates since then, the others as the call found them. -/
def Started (since : Nat → Nat → Nat) (now : Nat) : List Read → Prop
  | [] => True
  | r :: reads =>
    r.start = (if timesRead r.group r.event reads = 0 then since r.group r.event else now) ∧ Started since now reads

/-- The newest read of an event is the only one of its counter, or begins where the one before it ended. -/
theorem start_of_newest {since : Nat → Nat → Nat} {now event : Nat} {reads : List Read} {r : Read}
    (hstarted : Started since now reads) (hr : newest event reads = some r) :
    timesRead r.group r.event reads ≠ 0 ∧
      r.start = if timesRead r.group r.event reads = 1 then since r.group r.event else now := by
  induction reads with
  | nil => cases hr
  | cons q reads ih =>
    obtain ⟨hstart, hrest⟩ := hstarted
    by_cases hq : q.event = event
    · have hfirst : newest event (q :: reads) = some q := List.find?_cons_of_pos (by simpa using hq)
      rw [hfirst] at hr
      cases hr
      have htimes : timesRead r.group r.event (r :: reads) = timesRead r.group r.event reads + 1 := by
        simp [timesRead]
      rw [htimes, hstart]
      constructor
      · omega
      · by_cases hzero : timesRead r.group r.event reads = 0
        · rw [if_pos hzero, if_pos (by omega)]
        · rw [if_neg hzero, if_neg (by omega)]
    · have hskip : newest event (q :: reads) = newest event reads := List.find?_cons_of_neg (by simpa using hq)
      rw [hskip] at hr
      have hevent : r.event = event := by simpa using List.find?_some hr
      have htimes : timesRead r.group r.event (q :: reads) = timesRead r.group r.event reads := by
        have hne : ¬(q.group = r.group ∧ q.event = r.event) := by
          rintro ⟨-, hsame⟩
          exact hq (hsame.trans hevent)
        simp [timesRead, hne]
      rw [htimes]
      exact ih hrest hr

/-- The values delivered are those of the reads. -/
def Delivered (P : Platform) (byId : List (Nat × Nat)) (reads : List Read) : Prop :=
  List.Forall₂ (fun p r => p.1 = r.event ∧ ∃ total instances, P.scaled r.counts total instances = some p.2) byId reads

/-- The value of an event is the one of its newest read. -/
theorem Delivered.newest {P : Platform} {byId : List (Nat × Nat)} {reads : List Read} (h : Delivered P byId reads)
    {event value : Nat} (hvalue : byId.lookup event = some value) :
    ∃ r total instances, Cupti.newest event reads = some r ∧ P.scaled r.counts total instances = some value := by
  induction h with
  | nil => cases hvalue
  | @cons p r byId reads hp _ ih =>
    obtain ⟨key, first⟩ := p
    obtain ⟨rfl, total, instances, hscaled⟩ := hp
    by_cases hr : event = r.event
    · have hlookup : ((r.event, first) :: byId).lookup event = some first := by
        rw [List.lookup_cons, beq_iff_eq.2 hr]
      rw [hlookup] at hvalue
      cases hvalue
      exact ⟨r, total, instances, List.find?_cons_of_pos (by simpa using hr.symm), hscaled⟩
    · have hlookup : ((r.event, first) :: byId).lookup event = byId.lookup event := by
        rw [List.lookup_cons, beq_eq_false_iff_ne.2 hr]
      rw [hlookup] at hvalue
      obtain ⟨r', total', instances', hr', hscaled'⟩ := ih hvalue
      have hne : ¬r.event = event := fun h => hr h.symm
      exact ⟨r', total', instances', (List.find?_cons_of_neg (by simpa using hne)).trans hr', hscaled'⟩

/-- What has happened in a call, from its check on, when it has made these reads. -/
structure Reading (w₀ w : Meter) (reads : List Read) : Prop where
  world : w.world = w₀.world
  now : w.now = w₀.now
  before : w.before = w₀.before
  evaluations : w.evaluations = w₀.evaluations
  made : w.reads = some reads
  started : Started w₀.since w₀.now reads
  since : ∀ group event, w.since group event = if timesRead group event reads = 0 then w₀.since group event else w₀.now

theorem Reading.read {w₀ w : Meter} {reads : List Read} (h : Reading w₀ w reads) (group event : Nat)
    (counts : List Nat) :
    Reading w₀ (w.read group event counts) (⟨group, event, counts, w.since group event⟩ :: reads) where
  world := h.world
  now := h.now
  before := h.before
  evaluations := h.evaluations
  made := by simp [Meter.read, h.made]
  started := ⟨h.since group event, h.started⟩
  since := by
    intro g e
    by_cases hsame : g = group ∧ e = event
    · obtain ⟨rfl, rfl⟩ := hsame
      simp [Meter.read, timesRead, h.now]
    · have hother : ¬(group = g ∧ event = e) := by
        rintro ⟨rfl, rfl⟩
        exact hsame ⟨rfl, rfl⟩
      have htimes : timesRead g e (⟨group, event, counts, w.since group event⟩ :: reads) = timesRead g e reads := by
        simp [timesRead, hother]
      rw [htimes, ← h.since g e]
      exact if_neg hsame

section

variable {d b : Nat} {P : Platform} {ε : Type} {w : Meter}

/-- Requests that neither read a counter, nor evaluate a metric, nor change the memory. -/
def Silent : Op → Prop
  | .getTimestamp | .eventGroupReadEvent _ _ _ | .metricGetValue _ _ _ _ _ => False
  | .eventGroupSetEnable _ _ | .eventGroupSetDisable _ _ | .store _ => False
  | _ => True

private theorem metered_silent {o : Op} (ho : Silent o) {r : o.Answer} {w' : Meter} (h : metered d b w o r w') :
    w' = w := by
  obtain ⟨world, henv, rfl⟩ := h
  cases o <;> first
    | exact absurd ho id
    | (obtain rfl : world = w.world := henv
       rfl)
    | (obtain ⟨-, rfl⟩ := henv
       rfl)

theorem ask_meets (o : Op) (ho : Silent o) {Q : o.Answer → Meter → Prop} {X : ε → Meter → Prop} (hQ : ∀ r, Q r w) :
    (call o : Routine ε o.Answer).Meets (metered d b) unrestricted Q X w := by
  intro r w' hr
  obtain rfl := metered_silent ho hr
  exact ⟨trivial, hQ r⟩

private theorem totalInstanceCount_meets (domain instanceCount : Nat) {Q : Nat → Meter → Prop} {X : ε → Meter → Prop}
    (hQ : ∀ total, Q total w) :
    (totalInstanceCount d domain instanceCount : Routine ε Nat).Meets (metered d b) unrestricted Q X w := by
  refine Prog.meets_bind.2 (ask_meets (.eventDomainGetTotalInstanceCount d domain) trivial fun _ => ?_)
  refine Prog.meets_ite.2 ⟨fun _ => ?_, fun _ => hQ _⟩
  refine Prog.meets_bind.2 (ask_meets (.eventDomainGetInstanceCount d domain) trivial fun _ => ?_)
  exact Prog.meets_ite.2 ⟨fun _ => hQ _, fun _ => hQ _⟩

/-- The value of an event comes from one read; a failure may come before it or behind it. -/
theorem normalizedEventValue_meets (group event : Nat) :
    (normalizedEventValue P d group event).Meets (metered d b) unrestricted
      (fun value w' => ∃ counts total instances, w' = w.read group event counts ∧
        P.scaled counts total instances = some value)
      (fun _ w' => w' = w ∨ ∃ counts, w' = w.read group event counts) w := by
  refine Prog.meets_bind.2 (ask_meets (.eventGroupGetInstanceCount group) trivial fun count => ?_)
  refine Prog.meets_ite.2 ⟨fun _ => .inl rfl, fun _ => ?_⟩
  refine Prog.meets_bind.2 (ask_meets (.eventGroupGetEventDomainId group) trivial fun domain => ?_)
  refine Prog.meets_ite.2 ⟨fun _ => .inl rfl, fun _ => ?_⟩
  refine Prog.meets_bind.2 (totalInstanceCount_meets _ _ fun total => Prog.meets_bind.2 ?_)
  rintro ⟨rc, counts⟩ w' ⟨world, henv, rfl⟩
  obtain rfl : world = w.world := henv
  refine ⟨trivial, Prog.meets_ite.2 ⟨fun hfailed => ?_, fun hread => ?_⟩⟩
  · have hkept : w.observe d b (.eventGroupReadEvent group event count.2) (rc, counts) = w := if_neg hfailed
    rw [hkept]
    exact .inl rfl
  · have hdone : w.observe d b (.eventGroupReadEvent group event count.2) (rc, counts) = w.read group event counts :=
      if_pos (not_not.1 hread)
    rw [hdone]
    refine Prog.meets_ite.2 ⟨fun _ => .inr ⟨counts, rfl⟩, fun _ => ?_⟩
    cases hscaled : P.scaled counts total count.2 with
    | none => exact .inr ⟨counts, rfl⟩
    | some value => exact ⟨counts, total, count.2, rfl, hscaled⟩

/-- The event loop of one group. -/
theorem readEvents_meets {w₀ : Meter} (group : Nat) (events : List Nat) {deltas : Deltas} {reads : List Read}
    (h : Reading w₀ w reads) (hdelivered : Delivered P deltas.byId reads) :
    (readEvents P d group events deltas).Meets (metered d b) unrestricted
      (fun deltas' w' => ∃ reads', Reading w₀ w' reads' ∧ Delivered P deltas'.byId reads')
      (fun _ w' => ∃ reads', Reading w₀ w' reads') w := by
  induction events generalizing w deltas reads with
  | nil => exact ⟨reads, h, hdelivered⟩
  | cons event events ih =>
    refine Prog.meets_bind.2 ((normalizedEventValue_meets group event).imp ?_ ?_)
    · rintro value w' ⟨counts, total, instances, rfl, hscaled⟩
      exact ih (h.read group event counts) (.cons ⟨rfl, total, instances, hscaled⟩ hdelivered)
    · rintro error w' (rfl | ⟨counts, rfl⟩)
      · exact ⟨reads, h⟩
      · exact ⟨_, h.read group event counts⟩

private theorem readGroups_meets {w₀ : Meter} (groups : List Nat) {deltas : Deltas} {reads : List Read}
    (h : Reading w₀ w reads) (hdelivered : Delivered P deltas.byId reads) :
    (readGroups P d groups deltas).Meets (metered d b) unrestricted
      (fun deltas' w' => ∃ reads', Reading w₀ w' reads' ∧ Delivered P deltas'.byId reads')
      (fun _ w' => ∃ reads', Reading w₀ w' reads') w := by
  induction groups generalizing w deltas reads with
  | nil => exact ⟨reads, h, hdelivered⟩
  | cons group groups ih =>
    refine Prog.meets_bind.2 (ask_meets (.eventGroupGetNumEvents group) trivial fun count => ?_)
    refine Prog.meets_ite.2 ⟨fun _ => ⟨reads, h⟩, fun _ => ?_⟩
    refine Prog.meets_bind.2 (ask_meets (.eventGroupGetEvents group count.2) trivial fun events => ?_)
    refine Prog.meets_ite.2 ⟨fun _ => ⟨reads, h⟩, fun _ => ?_⟩
    refine Prog.meets_bind.2 ((readEvents_meets group events.2 h hdelivered).imp ?_ fun _ _ hfailed => hfailed)
    rintro deltas' w' ⟨reads', h', hdelivered'⟩
    exact ih h' hdelivered'

end

/-! ### Between the calls -/

/-- A valid sample is an old one, or it has its evaluation. -/
def Published (P : Platform) (w : Meter) (old sample : MetricSample) : Prop :=
  sample.valid = true → sample = old ∨ ∃ ev ∈ w.evaluations, ev.Behind P sample

/-- The counters that the last call has read accumulate since its time, the others since longer. -/
structure Idle (P : Platform) (d b : Nat) (names : List Metric) (old : Metric → MetricSample) (w : Meter) : Prop where
  named : (w.world.mem.bank d b).metricNames = names
  last : (w.world.mem.bank d b).lastReadTimestampNs = w.now
  since_le : ∀ group event, w.since group event ≤ w.now
  since : ∀ group event, w.since group event = w.now ↔ ∀ reads, w.reads = some reads → timesRead group event reads ≠ 0
  evaluations : ∀ ev ∈ w.evaluations, ev.Measured P ∧ (ev.Spans ↔ ev.Covered)
  samples : ∀ m ∈ names, Published P w (old m) ((w.world.mem.device d).sample m)

theorem JustEnabled.idle {P : Platform} {d b : Nat} {w : Meter} (h : JustEnabled d b w) :
    Idle P d b (w.world.mem.bank d b).metricNames (w.world.mem.device d).sample w where
  named := rfl
  last := h.last
  since_le group event := Nat.le_of_eq (h.zeroed group event)
  since := by
    intro group event
    simp [h.zeroed group event, h.reads]
  evaluations := by simp [h.evaluations]
  samples _ _ _ := .inl rfl

/-- The memory of the collector, changed. -/
def Meter.stored (w : Meter) (f : Collector → Collector) : Meter :=
  { w with world := { w.world with mem := f w.world.mem } }

section

variable {P : Platform} {d b : Nat} {names : List Metric} {old : Metric → MetricSample} {w : Meter} {ε : Type}

theorem store_meets (f : Collector → Collector) {Q : Unit → Meter → Prop} {X : ε → Meter → Prop}
    (hQ : Q () (w.stored f)) : (store f : Routine ε Unit).Meets (metered d b) unrestricted Q X w := by
  rintro r w' ⟨world, henv, rfl⟩
  obtain rfl : world = { w.world with mem := f w.world.mem } := henv
  exact ⟨trivial, hQ⟩

theorem Idle.stored (h : Idle P d b names old w) {f : Collector → Collector}
    (hbank : ((f w.world.mem).bank d b).metricNames = names ∧ ((f w.world.mem).bank d b).lastReadTimestampNs = w.now)
    (hsamples : ∀ m ∈ names, Published P w (old m) (((f w.world.mem).device d).sample m)) :
    Idle P d b names old (w.stored f) where
  named := hbank.1
  last := hbank.2
  since_le := h.since_le
  since := h.since
  evaluations := h.evaluations
  samples := hsamples

/-- A change of the texts of the bank. -/
theorem Idle.storedBank (h : Idle P d b names old w) {f : MetricBank → MetricBank}
    (hf : ∀ k : MetricBank, (f k).metricNames = k.metricNames ∧ (f k).lastReadTimestampNs = k.lastReadTimestampNs) :
    Idle P d b names old (w.stored (Collector.modifyBank d b f)) := by
  have hdevice := w.world.mem.device_modifyDevice d d fun state => state.modifyBank b f
  refine h.stored ?_ ?_
  · rw [← h.named, ← h.last]
    unfold Collector.bank Collector.modifyBank
    rw [hdevice]
    split
    · rw [DeviceState.bank_modifyBank]
      split
      · exact hf _
      · exact ⟨rfl, rfl⟩
    · exact ⟨rfl, rfl⟩
  · intro m hm
    unfold Collector.modifyBank
    rw [hdevice]
    split
    · exact h.samples m hm
    · exact h.samples m hm

/-- A sample is set. -/
theorem Idle.setSample (h : Idle P d b names old w) (m : Metric) {v : MetricSample} (hv : Published P w (old m) v) :
    Idle P d b names old (w.stored (Collector.modifyDevice d fun state => state.setSample m v)) := by
  have hdevice := w.world.mem.device_modifyDevice d d fun state => state.setSample m v
  refine h.stored ?_ ?_
  · rw [← h.named, ← h.last]
    unfold Collector.bank
    rw [hdevice]
    split <;> exact ⟨rfl, rfl⟩
  · intro m' hm'
    rw [hdevice]
    split
    · by_cases hsame : m' = m
      · subst hsame
        have hsample : ((w.world.mem.device d).setSample m' v).sample m' = v := by
          simp [DeviceState.setSample, DeviceState.sample]
        rw [hsample]
        exact hv
      · have hsample : ((w.world.mem.device d).setSample m v).sample m' = (w.world.mem.device d).sample m' := by
          simp [DeviceState.setSample, DeviceState.sample, hsame]
        rw [hsample]
        exact h.samples m' hm'
    · exact h.samples m' hm'

/-- A metric is evaluated. -/
theorem Idle.evaluate (h : Idle P d b names old w) {id durationNs bits : Nat} {events values : List Nat}
    (hev : ∀ ev : Evaluation, ev = ⟨id, events, values, durationNs, bits, w.now, w.before, w.reads.getD []⟩ →
      ev.Measured P ∧ (ev.Spans ↔ ev.Covered)) :
    Idle P d b names old (w.evaluate id events values durationNs bits) where
  named := h.named
  last := h.last
  since_le := h.since_le
  since := h.since
  evaluations := by
    intro ev hmem
    rcases List.mem_cons.1 hmem with hnew | hmem
    · exact hev ev hnew
    · exact h.evaluations ev hmem
  samples := by
    intro m hm hvalid
    rcases h.samples m hm hvalid with hold | ⟨ev, hmem, hbehind⟩
    · exact .inl hold
    · exact .inr ⟨ev, List.mem_cons_of_mem _ hmem, hbehind⟩

/-! ### One call -/

private theorem mapM_lookup {f : Nat → Option Nat} {events values : List Nat} (h : events.mapM f = some values) :
    events.length = values.length ∧ ∀ p ∈ events.zip values, f p.1 = some p.2 := by
  induction events generalizing values with
  | nil =>
    cases h
    exact ⟨rfl, by simp⟩
  | cons event events ih =>
    rw [List.mapM_cons] at h
    obtain ⟨value, hvalue, h⟩ := Option.bind_eq_some_iff.1 h
    obtain ⟨rest, hrest, h⟩ := Option.bind_eq_some_iff.1 h
    cases h
    obtain ⟨hlength, hall⟩ := ih hrest
    refine ⟨by simp [hlength], fun p hp => ?_⟩
    rw [List.zip_cons_cons] at hp
    rcases List.mem_cons.1 hp with rfl | hp
    · exact hvalue
    · exact hall p hp

/-- Behind its reads a call can evaluate a metric: the values are those of the events, and they have accumulated over
the window if and only if the events are covered. -/
def Ready (P : Platform) (deltas : Deltas) (durationNs : Nat) (w : Meter) : Prop :=
  ∀ ev : Evaluation, ev.events.mapM (fun event => deltas.byId.lookup event) = some ev.values →
    ev.durationNs = durationNs → ev.stop = w.now → ev.before = w.before → ev.reads = w.reads.getD [] →
    ev.Measured P ∧ (ev.Spans ↔ ev.Covered)

/-- A call that has read its events leaves the counters as a call does. -/
theorem Idle.ready (h : Idle P d b names old w) {endedNs : Nat} (hended : w.now < endedNs) {w' : Meter}
    {reads : List Read} (hreading : Reading (w.advance endedNs) w' reads) {deltas : Deltas}
    (hdelivered : Delivered P deltas.byId reads) : Ready P deltas (endedNs - w.now) w' := by
  rintro ⟨id, events, values, durationNs, bits, stop, before, evReads⟩ hvalues hduration hstop hbefore hreads
  obtain rfl : durationNs = endedNs - w.now := hduration
  obtain rfl : stop = endedNs := hstop.trans hreading.now
  obtain rfl : before = w.reads := hbefore.trans hreading.before
  obtain rfl : evReads = reads := by
    have hmade := hreading.made
    have hreads' : evReads = w'.reads.getD [] := hreads
    rw [hreads', hmade, Option.getD_some]
  constructor
  · obtain ⟨hlength, hall⟩ := mapM_lookup hvalues
    exact ⟨hlength, fun p hp => hdelivered.newest (hall p hp)⟩
  · -- event by event: a read accumulates over the window where it begins at the previous call
    have hevent : ∀ event r, newest event evReads = some r → (r.start + (stop - w.now) = stop ↔
        timesRead r.group r.event evReads = 1 ∧
          ∀ reads, w.reads = some reads → timesRead r.group r.event reads ≠ 0) := by
      intro event r hr
      obtain ⟨-, hstart⟩ := start_of_newest hreading.started hr
      have hsince : (w.advance stop).since r.group r.event = w.since r.group r.event := rfl
      have hnow : (w.advance stop).now = stop := rfl
      rw [hsince, hnow] at hstart
      rw [← h.since]
      by_cases honce : timesRead r.group r.event evReads = 1
      · rw [if_pos honce] at hstart
        rw [hstart]
        omega
      · rw [if_neg honce] at hstart
        rw [hstart]
        omega
    constructor
    · intro hspans event hmem r hr
      exact (hevent event r hr).1 (hspans event hmem r hr)
    · intro hcovered event hmem r hr
      exact (hevent event r hr).2 (hcovered event hmem r hr)

/-- The assignment of the new time stamp. -/
theorem Idle.storedTime (h : Idle P d b names old w) (hexists : w.world.mem.bank d b ≠ default) {endedNs : Nat}
    (hended : w.now < endedNs) {w' : Meter} {reads : List Read} (hreading : Reading (w.advance endedNs) w' reads) :
    Idle P d b names old
      (w'.stored (Collector.modifyBank d b fun bank => { bank with lastReadTimestampNs := endedNs })) := by
  have hworld : w'.world = w.world := hreading.world
  have hevaluations : w'.evaluations = w.evaluations := hreading.evaluations
  have hnow : w'.now = endedNs := hreading.now
  have hsince : ∀ g e, w'.since g e = if timesRead g e reads = 0 then w.since g e else endedNs := hreading.since
  have hlt := Collector.lt_of_bank hexists
  have hdevice := Collector.device_modifyBank_self (fun bank => { bank with lastReadTimestampNs := endedNs }) hexists
  have hbank : (w.world.mem.modifyBank d b fun bank => { bank with lastReadTimestampNs := endedNs }).bank d b =
      { w.world.mem.bank d b with lastReadTimestampNs := endedNs } := by
    unfold Collector.bank
    rw [hdevice, DeviceState.bank_modifyBank, if_pos ⟨rfl, hlt.2⟩]
  have hmem : (w'.stored
      (Collector.modifyBank d b fun bank => { bank with lastReadTimestampNs := endedNs })).world.mem =
      w.world.mem.modifyBank d b fun bank => { bank with lastReadTimestampNs := endedNs } := by
    rw [Meter.stored, hworld]
  constructor
  · rw [hmem, hbank]
    exact h.named
  · rw [hmem, hbank]
    exact hnow.symm
  · intro g e
    have hle := h.since_le g e
    show w'.since g e ≤ w'.now
    rw [hsince, hnow]
    split <;> omega
  · intro g e
    have hle := h.since_le g e
    show w'.since g e = w'.now ↔ ∀ reads, w'.reads = some reads → timesRead g e reads ≠ 0
    rw [hsince, hnow, hreading.made]
    by_cases hzero : timesRead g e reads = 0
    · rw [if_pos hzero]
      constructor
      · intro hsame
        omega
      · intro hread
        exact absurd hzero (hread reads rfl)
    · rw [if_neg hzero]
      simp [hzero]
  · intro ev hev
    exact h.evaluations ev (hevaluations ▸ hev)
  · intro m hm hvalid
    rw [hmem, hdevice] at hvalid ⊢
    rcases h.samples m hm hvalid with hold | ⟨ev, hev, hbehind⟩
    · exact .inl hold
    · exact .inr ⟨ev, hevaluations.symm ▸ hev, hbehind⟩

/-- The invariant of the metric loop. -/
structure Publishing (P : Platform) (d b : Nat) (names : List Metric) (old : Metric → MetricSample) (deltas : Deltas)
    (durationNs : Nat) (w : Meter) : Prop where
  idle : Idle P d b names old w
  ready : Ready P deltas durationNs w

theorem Publishing.setSample {deltas : Deltas} {durationNs : Nat} (h : Publishing P d b names old deltas durationNs w)
    (m : Metric) {v : MetricSample} (hv : Published P w (old m) v) :
    Publishing P d b names old deltas durationNs
      (w.stored (Collector.modifyDevice d fun state => state.setSample m v)) :=
  ⟨h.idle.setSample m hv, h.ready⟩

theorem Publishing.evaluate {deltas : Deltas} {durationNs : Nat} (h : Publishing P d b names old deltas durationNs w)
    (id bits : Nat) {events values : List Nat}
    (hvalues : events.mapM (fun event => deltas.byId.lookup event) = some values) :
    Publishing P d b names old deltas durationNs (w.evaluate id events values durationNs bits) := by
  refine ⟨h.idle.evaluate ?_, h.ready⟩
  rintro ev rfl
  exact h.ready ⟨id, events, values, durationNs, bits, w.now, w.before, w.reads.getD []⟩ hvalues rfl rfl rfl rfl

/-- A metric that is evaluated has the window and the result of its evaluation. -/
theorem evaluateMetric_meets (sample : MetricSample) (deltas : Deltas) (durationNs : Nat) :
    (evaluateMetric P d sample deltas durationNs).Meets (metered d b) unrestricted
      (fun sample' w' => ∃ events values bits, w' = w.evaluate sample.id events values durationNs bits ∧
        events.mapM (fun event => deltas.byId.lookup event) = some values ∧ sample'.id = sample.id ∧
        sample'.windowNs = durationNs ∧ sample'.value = metricValueJson P sample'.kind bits)
      (fun _ w' => w' = w) w := by
  refine Prog.meets_bind.2 (Prog.meets_bind.2 (ask_meets (.metricGetNumEvents sample.id) trivial fun required => ?_))
  refine Prog.meets_ite.2 ⟨fun _ => rfl, fun _ => ?_⟩
  refine Prog.meets_bind.2 (ask_meets (.metricEnumEvents sample.id required.2) trivial fun events => ?_)
  refine Prog.meets_ite.2 ⟨fun _ => rfl, fun _ => ?_⟩
  cases hvalues : events.2.mapM fun event => deltas.byId.lookup event with
  | none => exact rfl
  | some values =>
    refine Prog.meets_bind.2 ?_
    rintro ⟨rc, bits⟩ w' ⟨world, henv, rfl⟩
    obtain rfl : world = w.world := henv
    refine ⟨trivial, Prog.meets_ite.2 ⟨fun hfailed => ?_, fun hdone => ?_⟩⟩
    · have hkept : w.observe d b (.metricGetValue d sample.id events.2 values durationNs) (rc, bits) = w :=
        if_neg hfailed
      rw [hkept]
      exact rfl
    · have hevaluated : w.observe d b (.metricGetValue d sample.id events.2 values durationNs) (rc, bits) =
          w.evaluate sample.id events.2 values durationNs bits := if_pos (not_not.1 hdone)
      rw [hevaluated]
      refine Prog.meets_bind.2 (ask_meets .unixTimeMs trivial fun now => ?_)
      exact ⟨events.2, values, bits, rfl, hvalues, rfl, rfl, rfl⟩

private theorem publishMetric_meets {deltas : Deltas} {durationNs : Nat} (m : Metric)
    (h : Publishing P d b names old deltas durationNs w) :
    (publishMetric P d m deltas durationNs : Routine ε Bool).Meets (metered d b) unrestricted
      (fun _ w' => Publishing P d b names old deltas durationNs w') (fun _ _ => True) w := by
  refine Prog.meets_bind.2 (Prog.meets_bind.2 (ask_meets .load trivial fun c => ?_))
  have hinvalid : ∀ v : MetricSample, v.valid = false → Published P w (old m) v := by
    intro v hv hvalid
    rw [hv] at hvalid
    cases hvalid
  refine Prog.meets_bind.2 (store_meets _ (Prog.meets_bind.2 (Prog.meets_attempt.2 ?_)))
  -- until then the sample is invalid, so nothing is said of it
  have hcleared := h.setSample m (hinvalid { (c.device d).sample m with
    valid := false, value := "null", windowNs := 0, sampledAtUnixMs := 0, error := "" } rfl)
  refine (evaluateMetric_meets _ deltas durationNs).imp ?_ ?_
  · rintro sample' w' ⟨events, values, bits, rfl, hvalues, hid, hwindow, hvalue⟩
    refine Prog.meets_bind.2 (store_meets _ ?_)
    -- the sample is stored behind its evaluation, which is the newest of the call
    have hevaluated := hcleared.evaluate ((c.device d).sample m).id bits hvalues
    exact hevaluated.setSample m fun _ => .inr ⟨_, List.mem_cons_self, hid.symm, hwindow.symm, hvalue⟩
  · rintro ⟨rc, error⟩ w' rfl
    exact Prog.meets_bind.2 (store_meets _ (hcleared.setSample m (hinvalid _ rfl)))

private theorem publishMetrics_meets {deltas : Deltas} {durationNs : Nat} (ms : List Metric)
    (h : Publishing P d b names old deltas durationNs w) :
    (publishMetrics P d deltas durationNs ms : Routine ε Nat).Meets (metered d b) unrestricted
      (fun _ w' => Publishing P d b names old deltas durationNs w') (fun _ _ => True) w := by
  induction ms generalizing w with
  | nil => exact h
  | cons m ms ih =>
    refine Prog.meets_bind.2 ((publishMetric_meets m h).imp (fun ok w' h' => ?_) fun _ _ htrue => htrue)
    exact Prog.meets_bind.2 ((ih h').imp (fun rest w'' h'' => h'') fun _ _ htrue => htrue)

omit b names old w in
theorem foldl_setSample {f : MetricSample → MetricSample} (hf : ∀ v, (f v).valid = false) (ms : List Metric)
    (state : DeviceState) :
    (ms.foldl (fun state m => state.setSample m (f (state.sample m))) state).banks = state.banks ∧
    ∀ m, ((ms.foldl (fun state m => state.setSample m (f (state.sample m))) state).sample m).valid = true →
      (ms.foldl (fun state m => state.setSample m (f (state.sample m))) state).sample m = state.sample m := by
  induction ms generalizing state with
  | nil => exact ⟨rfl, fun _ _ => rfl⟩
  | cons m ms ih =>
    obtain ⟨hbanks, hsample⟩ := ih (state.setSample m (f (state.sample m)))
    refine ⟨hbanks, fun m' hvalid => ?_⟩
    have hsame := hsample m' hvalid
    rw [List.foldl_cons] at hvalid ⊢
    by_cases hm : m' = m
    · have hset : (state.setSample m (f (state.sample m))).sample m' = f (state.sample m) := by
        simp [DeviceState.setSample, DeviceState.sample, hm]
      rw [hsame, hset, hf] at hvalid
      cases hvalid
    · have hset : (state.setSample m (f (state.sample m))).sample m' = state.sample m' := by
        simp [DeviceState.setSample, DeviceState.sample, hm]
      rw [hsame, hset]

/-- The samples of the bank are invalidated. -/
theorem Idle.invalidated (h : Idle P d b names old w) {f : MetricSample → MetricSample} (hf : ∀ v, (f v).valid = false)
    (ms : List Metric) :
    Idle P d b names old (w.stored (Collector.modifyDevice d fun state =>
      ms.foldl (fun state m => state.setSample m (f (state.sample m))) state)) := by
  obtain ⟨hbanks, hsample⟩ := foldl_setSample hf ms (w.world.mem.device d)
  refine h.stored ?_ ?_
  · rw [← h.named, ← h.last]
    unfold Collector.bank
    rw [Collector.device_modifyDevice]
    split
    · unfold DeviceState.bank
      rw [hbanks]
      exact ⟨rfl, rfl⟩
    · exact ⟨rfl, rfl⟩
  · intro m hm
    rw [Collector.device_modifyDevice]
    split
    · intro hvalid
      have hsame := hsample m hvalid
      rw [hsame] at hvalid ⊢
      exact h.samples m hm hvalid
    · exact h.samples m hm

private theorem readInterval_meets (h : Idle P d b names old w) (hexists : w.world.mem.bank d b ≠ default)
    {endedNs : Nat}
    (hended : w.now < endedNs) (publishEmpty : Bool) :
    (readInterval P d b (w.world.mem.bank d b) endedNs publishEmpty : Routine ε Nat).Meets (metered d b) unrestricted
      (fun _ w' => Idle P d b names old w') (fun _ _ => True) (w.advance endedNs) := by
  have hbegun : Reading (w.advance endedNs) (w.advance endedNs) [] :=
    ⟨rfl, rfl, rfl, rfl, rfl, trivial, fun _ _ => rfl⟩
  have hnothing : Delivered P ({} : Deltas).byId [] := .nil
  refine Prog.meets_bind.2 (Prog.meets_attempt.2 ((readGroups_meets _ hbegun hnothing).imp ?_ ?_))
  · rintro deltas w' ⟨reads, hreading, hdelivered⟩
    refine Prog.meets_bind.2 (store_meets _ ?_)
    have hidle := h.storedTime hexists hended hreading
    refine Prog.meets_ite.2 ⟨fun _ => hidle, fun _ => ?_⟩
    rw [h.last]
    have hready := h.ready hended hreading hdelivered
    have hpublishing : Publishing P d b names old deltas (endedNs - w.now) _ := ⟨hidle, hready⟩
    refine Prog.meets_bind.2 ((publishMetrics_meets _ hpublishing).imp (fun successful w'' h'' => ?_) fun _ _ ht => ht)
    exact Prog.meets_bind.2 (store_meets _ (h''.idle.storedBank fun _ => ⟨rfl, rfl⟩))
  · rintro error w' ⟨reads, hreading⟩
    refine Prog.meets_bind.2 (store_meets _ ?_)
    have hidle := h.storedTime hexists hended hreading
    refine Prog.meets_bind.2 (store_meets _ (Prog.meets_bind.2 (store_meets _ ?_)))
    -- the time is stored also behind a failed read
    have hfailed := hidle.storedBank (f := fun bank => { bank with error := error }) fun _ => ⟨rfl, rfl⟩
    exact hfailed.invalidated
      (f := fun sample => { sample with valid := false, value := "null", error := error }) (fun _ => rfl) _

private theorem readPushed_meets (h : Idle P d b names old w) (hexists : w.world.mem.bank d b ≠ default)
    (publishEmpty : Bool) :
    (readPushed P d b (w.world.mem.bank d b) publishEmpty : Routine ε Nat).Meets (metered d b) unrestricted
      (fun _ w' => Idle P d b names old w') (fun _ _ => True) w := by
  refine Prog.meets_bind.2 ?_
  rintro ⟨rc, endedNs⟩ w' ⟨world, henv, rfl⟩
  obtain rfl : world = w.world := henv
  refine ⟨trivial, Prog.meets_ite.2 ⟨fun hfailed => ?_, fun hpassed => ?_⟩⟩
  · -- no time has passed for the bank: it keeps the time of the last read
    have hkept : w.observe d b .getTimestamp (rc, endedNs) = w := by
      refine if_neg ?_
      rintro ⟨hsuccess, hlater⟩
      simp only [Bool.or_eq_true, decide_eq_true_eq, ne_eq] at hfailed
      rcases hfailed with hrc | hle
      · exact hrc hsuccess
      · omega
    rw [hkept]
    exact Prog.meets_bind.2 (store_meets _ (h.storedBank fun _ => ⟨rfl, rfl⟩))
  · simp only [Bool.or_eq_true, decide_eq_true_eq, not_or, ne_eq, not_not, Nat.not_le] at hpassed
    have hadvanced : w.observe d b .getTimestamp (rc, endedNs) = w.advance endedNs := if_pos hpassed
    rw [hadvanced]
    exact readInterval_meets h hexists (h.last ▸ hpassed.2) publishEmpty

/-- A call of `read_bank` keeps what holds between the calls. -/
theorem readBank_meets (h : Idle P d b names old w) (publishEmpty : Bool) :
    (readBank P d b publishEmpty : Routine ε Nat).Meets (metered d b) unrestricted
      (fun _ w' => Idle P d b names old w') (fun _ _ => True) w := by
  refine Prog.meets_bind.2 (Prog.meets_bind.2 ?_)
  rintro c w' ⟨world, ⟨hc, hworld⟩, rfl⟩
  subst hc hworld
  refine ⟨trivial, Prog.meets_ite.2 ⟨fun _ => ?_, fun henabled => ?_⟩⟩
  · exact Prog.meets_bind.2 (store_meets _ (h.storedBank fun _ => ⟨rfl, rfl⟩))
  · have hexists : w.world.mem.bank d b ≠ default := by
      intro hdefault
      rw [hdefault] at henabled
      exact henabled rfl
    refine Prog.meets_bind.2 (ask_meets (.cuCtxPushCurrent d) trivial fun pushed => ?_)
    refine Prog.meets_ite.2 ⟨fun _ => ?_, fun _ => ?_⟩
    · exact Prog.meets_bind.2 (store_meets _ (h.storedBank fun _ => ⟨rfl, rfl⟩))
    · have hpushed := @readPushed_meets P d b names old w ε h hexists publishEmpty
      refine Prog.meets_bind.2 (hpushed.imp (fun successful w'' h'' => ?_) fun _ _ htrue => htrue)
      exact Prog.meets_bind.2 (ask_meets .cuCtxPopCurrent trivial fun _ => h'')

theorem Calls.idle {w' : Meter} (hcalls : Calls P d b w w') (h : Idle P d b names old w) : Idle P d b names old w' := by
  induction hcalls with
  | nil => exact h
  | call _ hread ih => exact (readBank_meets ih _).of_ret hread

/-- In every sequence of calls on a bank that has just been enabled, the values of a metric have accumulated over the
window of its evaluation if and only if its events were read once in the call and were read in the call before; and a
valid sample that the calls have published shows the result of such an evaluation. -/
theorem windows_exact_iff {w' : Meter} (hstart : JustEnabled d b w) (hcalls : Calls P d b w w') :
    (∀ ev ∈ w'.evaluations, ev.Measured P ∧ (ev.Spans ↔ ev.Covered)) ∧
    ∀ m ∈ (w.world.mem.bank d b).metricNames, ((w'.world.mem.device d).sample m).valid = true →
      (w'.world.mem.device d).sample m = (w.world.mem.device d).sample m ∨
      ∃ ev ∈ w'.evaluations, ev.Behind P ((w'.world.mem.device d).sample m) := by
  have hidle := hcalls.idle hstart.idle
  exact ⟨hidle.evaluations, hidle.samples⟩

end

/-! ### A failing read -/

/-- A bank with one metric, which needs two events. -/
def ipcBank : MetricBank where
  metricNames := [.ipc]
  sets := some ⟨1, [7]⟩
  available := true
  enabled := true
  lastReadTimestampNs := 100

def ipcDevice : DeviceState where
  ready := true
  samples m := if m = .ipc then some { id := 5, kind := .uint64, available := true } else none
  banks := [ipcBank]

/-- The bank has been enabled at the time 100. -/
def enabledMeter : Meter where
  world := { mem := { devices := [ipcDevice] } }
  since := fun _ _ => 100
  now := 100
  before := none
  reads := none
  evaluations := []

/-- The calls are made at the times 200, 300 and so on; the read of the second event fails in the first one. -/
def secondReadFails (w : Meter) : (o : Op) → o.Answer × World
  | .getTimestamp => ((success, w.now + 100), w.world)
  | .eventGroupGetNumEvents _ | .metricGetNumEvents _ => ((success, 2), w.world)
  | .eventGroupGetEvents _ _ | .metricEnumEvents _ _ => ((success, [1, 2]), w.world)
  | .eventGroupReadEvent _ event _ => (if event = 2 ∧ w.now = 200 then (1, []) else (success, [1]), w.world)
  | o => respond success w.world o

def answered (w : Meter) (o : Op) : Option (o.Answer × Meter) :=
  some ((secondReadFails w o).1, { w.observe 0 0 o (secondReadFails w o).1 with world := (secondReadFails w o).2 })

private theorem metered_answered (w : Meter) (o : Op) (r : o.Answer) (w' : Meter) (h : answered w o = some (r, w')) :
    metered 0 0 w o r w' := by
  cases h
  refine ⟨_, ?_, rfl⟩
  cases o <;> first | exact rfl | exact env_respond success w.world _

def firstCall : Meter := (Prog.run answered (readBank barePlatform 0 0 true : Routine Empty Nat) enabledMeter).2

def secondCall : Meter := (Prog.run answered (readBank barePlatform 0 0 true : Routine Empty Nat) firstCall).2

private theorem calls_secondCall : Calls barePlatform 0 0 enabledMeter secondCall := by
  have hfirst : (Prog.run answered (readBank barePlatform 0 0 true : Routine Empty Nat) enabledMeter).1 = .ret 0 := rfl
  have hsecond : (Prog.run answered (readBank barePlatform 0 0 true : Routine Empty Nat) firstCall).1 = .ret 1 := rfl
  have hsteps := fun w => Prog.steps_run metered_answered (readBank barePlatform 0 0 true : Routine Empty Nat) w
  have hcall : Calls barePlatform 0 0 enabledMeter firstCall := by
    refine @Calls.call _ _ _ _ _ _ true 0 (.nil _) ?_
    rw [← hfirst]
    exact hsteps enabledMeter
  refine @Calls.call _ _ _ _ _ _ true 1 hcall ?_
  rw [← hsecond]
  exact hsteps firstCall

private theorem justEnabled_enabledMeter : JustEnabled 0 0 enabledMeter where
  zeroed _ _ := rfl
  last := rfl
  reads := rfl
  evaluations := rfl

/-- The sample of the second call is valid, but one of its values has accumulated over both intervals. -/
theorem window_not_spanned : ∃ w w', JustEnabled 0 0 w ∧ Calls barePlatform 0 0 w w' ∧
    ((w'.world.mem.device 0).sample .ipc).valid = true ∧ ((w'.world.mem.device 0).sample .ipc).windowNs = 100 ∧
    ∃ ev ∈ w'.evaluations, ev.Behind barePlatform ((w'.world.mem.device 0).sample .ipc) ∧ ev.durationNs = 100 ∧
      ¬ev.Spans := by
  refine ⟨enabledMeter, secondCall, justEnabled_enabledMeter, calls_secondCall, rfl, rfl, ?_⟩
  refine ⟨_, List.mem_cons_self, ⟨rfl, rfl, rfl⟩, rfl, ?_⟩
  intro hspans
  have hsecond := hspans 2 (by decide) ⟨7, 2, [1], 100⟩ (by decide)
  exact absurd hsecond (by decide)

theorem windows_exact_iff_secondCall :
    ∃ ev ∈ secondCall.evaluations, ev.Measured barePlatform ∧ (ev.Spans ↔ ev.Covered) := by
  have hexact := (windows_exact_iff justEnabled_enabledMeter calls_secondCall).1
  exact ⟨_, List.mem_cons_self, hexact _ List.mem_cons_self⟩

end CmpUnlocker.Cupti
