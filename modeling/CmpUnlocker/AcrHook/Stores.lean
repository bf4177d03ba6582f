import CmpUnlocker.AcrHook.Handlers
import Mathlib.Data.Nat.Notation

/-!
# What the hook stores in DMEM

With `replace_on_return` set, one return is to be changed, at `0x48` and from `0x600` to `0x700`.  The test of the word
and the store go through the control port, which every other handler moves too, and nothing locks it.  So the stores of
a run are narrow as long as the port still selects `0x48` when the handler that is to store reads and writes, nobody
replaces the tested word in between, and the counter of returns does not wrap.
-/

namespace CmpUnlocker.AcrHook

open Interaction

/-- The stores the module may make while it is loaded: none or one, of the test size over the stock size. -/
def Narrow (hook : Params) (stores : List Store) : Prop :=
  (∀ s ∈ stores, s = ⟨dmemDataSizeOffset, stockDataSize, testDataSize⟩ ∧ hook.armed = true) ∧ stores.length ≤ 1

/-- The next access of the data port by this handler is a write. -/
def writesNext : Routine Unit → Bool
  | .call (.iowrite32 _ offset) k => offset = pmuBase + flcnDmemd || writesNext (k ())
  | _ => false

/-- What the next request of a handler needs: the counter of returns can be raised, and the control port selects the
data size when the handler stores, or reads a word it is going to store after. -/
def Steady (w : World) : Routine Unit → Prop
  | .call (.incReturn .returnsSeen) _ => w.returnsSeen ≠ BitVec.allOnes 64
  | .call (.ioread32 offset) k =>
    offset = pmuBase + flcnDmemd → writesNext (k (w.dmem w.selected)) = true → w.selected = dmemDataSizeOffset
  | .call (.iowrite32 _ offset) _ => offset = pmuBase + flcnDmemd → w.selected = dmemDataSizeOffset
  | _ => True

instance (w : World) : (p : Routine Unit) → Decidable (Steady w p)
  | .ret _ => isTrue trivial
  | .throw _ => isTrue trivial
  | .call (.incReturn .returnsSeen) _ => inferInstanceAs (Decidable (_ ≠ _))
  | .call (.incReturn .replacements) _ => isTrue trivial
  | .call (.incReturn .bootReturnsSeen) _ => isTrue trivial
  | .call (.inc _) _ => isTrue trivial
  | .call (.iowrite32 _ _) _ => inferInstanceAs (Decidable (_ → _))
  | .call (.ioread32 _) _ => inferInstanceAs (Decidable (_ → _ → _))
  | .call (.notice _) _ => isTrue trivial

/-- A turn that does not come between the two halves of an access, nor between the test and the store. -/
def Undisturbed {ι : Type} (c : Pool ι Request Request.Answer Empty Unit World) : Turn ι Outside → Prop
  | .program i => Steady c.world (c.programs i)
  | .outside (.store offset value) =>
    offset = dmemDataSizeOffset → value ≠ stockDataSize → ∀ i, writesNext (c.programs i) = false
  | .outside (.select _) => True

/-! ### Where a handler stands -/

variable {hook : Params} {hw : Advance} {w w' : World} {p : Routine Unit} {m : Option ℕ}

/-- The rest of `load_bld_return` after its store. -/
def checkReplaced (hook : Params) (call : U64) (before : U32) : Routine Unit := do
  let after ← flcnDmemRead pmuBase dmemDataSizeOffset
  Prog.when (after = testDataSize) (inc .replacements)
  notice (.loadReturn call hook.armed before after (decide (before = stockDataSize ∧ after = testDataSize)))

private theorem replaceDataSize_due {call : U64} {before : U32} (h : hook.due call before) :
    replaceDataSize hook call before =
      .call (Request.iowrite32 ((dmemDataSizeOffset &&& 0xffff#32) ||| dmemcAutoincrement) (pmuBase + flcnDmemc))
        fun _ =>
        .call (Request.iowrite32 testDataSize (pmuBase + flcnDmemd)) fun _ => checkReplaced hook call before := by
  unfold replaceDataSize checkReplaced
  simp only [if_pos h, Prog.bind_eq, Prog.pure_eq, Prog.ret_bind]
  rfl

private theorem replaceDataSize_not_due {call : U64} {before : U32} (h : ¬hook.due call before) :
    ∃ text, replaceDataSize hook call before = notice text := by
  unfold replaceDataSize
  simp only [if_neg h, Prog.bind_eq, Prog.pure_eq, Prog.ret_bind]
  exact ⟨_, rfl⟩

/-- No request of `p` counts a return or writes the data port. -/
def Silent (p : Routine Unit) : Prop := p.Within Request.Quiet fun _ => True

private theorem silent_notice (text : Notice) : Silent (notice text) := ⟨trivial, fun _ => trivial⟩

private theorem ioread32_quiet (offset : U32) : (ioread32 offset).Within Request.Quiet fun _ => True :=
  ⟨trivial, fun _ => trivial⟩

/-- A read through the port writes the control register only. -/
theorem flcnDmemRead_quiet (address : U32) : (flcnDmemRead pmuBase address).Within Request.Quiet fun _ => True := by
  have hc : pmuBase + flcnDmemc ≠ pmuBase + flcnDmemd := by decide
  exact ⟨hc, fun _ => ioread32_quiet _⟩

private theorem silent_checkReplaced (call : U64) (before : U32) : Silent (checkReplaced hook call before) := by
  apply Prog.Within.bind (flcnDmemRead_quiet _)
  intro after
  apply Prog.Within.bind
  · apply Prog.Within.when
    intro _
    exact ⟨(fun h => nomatch h), fun _ => trivial⟩
  · exact fun _ => silent_notice _

private theorem silent_falconBootReturn (functionRc : U64) : Silent (falconBootReturn functionRc) := by
  have hcount : (incReturn .bootReturnsSeen).Within Request.Quiet fun _ => True :=
    ⟨(fun h => nomatch h), fun _ => trivial⟩
  apply Prog.Within.bind hcount; intro call
  apply Prog.Within.bind (flcnDmemRead_quiet _); intro d600
  apply Prog.Within.bind (flcnDmemRead_quiet _); intro d6fc
  apply Prog.Within.bind (ioread32_quiet _); intro mailbox0
  apply Prog.Within.bind (ioread32_quiet _); intro mailbox1
  apply Prog.Within.bind (ioread32_quiet _); intro sec2Mailbox0
  apply Prog.Within.bind (ioread32_quiet _); intro sec2Mailbox1
  apply Prog.Within.bind (ioread32_quiet _); intro fecsPlm
  apply Prog.Within.bind (ioread32_quiet _); intro tensor
  exact silent_notice _

private theorem writesNext_silent (h : Silent p) : writesNext p = false := by
  induction p with
  | ret a => rfl
  | throw e => rfl
  | call o k ih =>
    cases o with
    | iowrite32 value offset =>
      have ho : offset ≠ pmuBase + flcnDmemd := h.1
      simp only [writesNext, Bool.or_eq_false_iff]
      exact ⟨decide_eq_false ho, ih () (h.2 ())⟩
    | incReturn counter => rfl
    | inc counter => rfl
    | ioread32 offset => rfl
    | notice text => rfl

/-- Where a handler stands, and the number its call was given: before the count, at the two halves of the first read,
at the two halves of the store, or past all that. -/
inductive Stands (hook : Params) (w : World) : Routine Unit → Option ℕ → Prop
  | entered : Stands hook w (loadBldReturn hook) none
  | counted (call : U64) :
      Stands hook w (flcnDmemRead pmuBase dmemDataSizeOffset >>= replaceDataSize hook call) (some call.toNat)
  | reading (call : U64) :
      Stands hook w (.call (Request.ioread32 (pmuBase + flcnDmemd)) (replaceDataSize hook call)) (some call.toNat)
  | passed (call : U64) (h : hook.due call (w.dmem dmemDataSizeOffset)) :
      Stands hook w (replaceDataSize hook call stockDataSize) (some call.toNat)
  | storing (call : U64) (h : hook.due call (w.dmem dmemDataSizeOffset)) :
      Stands hook w (.call (Request.iowrite32 testDataSize (pmuBase + flcnDmemd)) fun _ =>
        checkReplaced hook call stockDataSize) (some call.toNat)
  | silent {p : Routine Unit} {m : Option ℕ} (h : Silent p) : Stands hook w p m

private theorem stands_handler (r : Return) : Stands hook w (r.handler hook) none := by
  cases r with
  | loadBld => exact .entered
  | falconBoot functionRc => exact .silent (silent_falconBootReturn functionRc)

private theorem due_toNat {call : U64} {before : U32} (h : hook.due call before) :
    call.toNat = hook.replaceOnReturn.toNat := by
  rw [h.2.1, BitVec.toNat_setWidth_of_le (by decide)]

private theorem due_before {call : U64} {before : U32} (h : hook.due call before) : before = stockDataSize := h.2.2

/-- Only the handler of the return to change can be on its way to a store. -/
theorem Stands.number (h : Stands hook w p m) (hp : writesNext p = true) : m = some hook.replaceOnReturn.toNat := by
  cases h with
  | entered => cases hp
  | counted call =>
    have hne : flcnDmemc ≠ flcnDmemd := by decide
    simp [flcnDmemRead, iowrite32, ioread32, writesNext, hne] at hp
  | reading call => cases hp
  | passed call hdue => rw [due_toNat hdue]
  | storing call hdue => rw [due_toNat hdue]
  | silent hs => rw [writesNext_silent hs] at hp; cases hp

/-- A handler stands where it stood in a world that has the stock size where it is about to store. -/
theorem Stands.world (h : Stands hook w p m)
    (hd : writesNext p = true → w.dmem dmemDataSizeOffset = stockDataSize →
      w'.dmem dmemDataSizeOffset = stockDataSize) :
    Stands hook w' p m := by
  cases h with
  | entered => exact .entered
  | counted call => exact .counted call
  | reading call => exact .reading call
  | passed call hdue =>
    have hnext : writesNext (replaceDataSize hook call stockDataSize) = true := by
      rw [replaceDataSize_due (due_before hdue ▸ hdue)]
      simp [writesNext]
    have hstock := hd hnext (due_before hdue)
    exact .passed call (by rw [hstock, ← due_before hdue]; exact hdue)
  | storing call hdue =>
    have hnext : writesNext (.call (Request.iowrite32 testDataSize (pmuBase + flcnDmemd)) fun _ =>
        checkReplaced hook call stockDataSize) = true := by
      simp [writesNext]
    have hstock := hd hnext (due_before hdue)
    exact .storing call (by rw [hstock, ← due_before hdue]; exact hdue)
  | silent hs => exact .silent hs

/-! ### One request of a handler -/

private theorem toNat_succ {x : U64} (h : x ≠ BitVec.allOnes 64) : (x + 1).toNat = x.toNat + 1 := by
  have hones : (BitVec.allOnes 64).toNat = 2 ^ 64 - 1 := BitVec.toNat_allOnes
  bv_omega

/-- A handler does nothing to DMEM and the counter of returns, or counts itself, or stores. -/
theorem Stands.request {o : Request} {k : o.Answer → Routine Unit} {r : o.Answer} (h : Stands hook w (.call o k) m)
    (hC : Steady w (.call o k)) (he : env hw w o r w') :
    o.Quiet ∧ Stands hook w' (k r) m ∨
      m = none ∧ w' = w.bump .returnsSeen ∧ Stands hook w' (k r) (some (w.returnsSeen.toNat + 1)) ∧
        w.returnsSeen ≠ BitVec.allOnes 64 ∨
      m = some hook.replaceOnReturn.toNat ∧ o = .iowrite32 testDataSize (pmuBase + flcnDmemd) ∧
        w.selected = dmemDataSizeOffset ∧ w.dmem dmemDataSizeOffset = stockDataSize ∧ hook.armed = true ∧
        Silent (k r) := by
  generalize hp : Prog.call o k = p at h
  cases h with
  | entered =>
    cases hp
    obtain ⟨hr, rfl⟩ := env_incReturn he
    have hwrap : w.returnsSeen ≠ BitVec.allOnes 64 := hC
    have hn : w.returnsSeen.toNat + 1 = BitVec.toNat r := by
      subst hr
      exact (toNat_succ hwrap).symm
    rw [hn]
    exact .inr (.inl ⟨rfl, rfl, .counted r, hwrap⟩)
  | counted call =>
    cases hp
    have hq : (Request.iowrite32 (dmemcRead ||| (dmemDataSizeOffset &&& 0xffff#32)) (pmuBase + flcnDmemc)).Quiet := by
      show pmuBase + flcnDmemc ≠ pmuBase + flcnDmemd
      decide
    exact .inl ⟨hq, .reading call⟩
  | reading call =>
    cases hp
    have hr := env_data_read he
    refine .inl ⟨trivial, ?_⟩
    by_cases hdue : hook.due call r
    · have hsel : w.selected = dmemDataSizeOffset := by
        apply hC rfl
        rw [← hr, replaceDataSize_due hdue]
        simp [writesNext]
      have hdmem : w'.dmem = w.dmem := (env_quiet he trivial).1
      rw [due_before hdue]
      apply Stands.passed
      rw [hdmem, ← hsel, ← hr]
      exact hdue
    · obtain ⟨text, ht⟩ := replaceDataSize_not_due hdue
      rw [ht]
      exact .silent (silent_notice text)
  | passed call hdue =>
    rw [replaceDataSize_due (due_before hdue ▸ hdue)] at hp
    cases hp
    have hq : (Request.iowrite32 ((dmemDataSizeOffset &&& 0xffff#32) ||| dmemcAutoincrement)
        (pmuBase + flcnDmemc)).Quiet := by
      show pmuBase + flcnDmemc ≠ pmuBase + flcnDmemd
      decide
    have hdmem : w'.dmem = w.dmem := (env_quiet he hq).1
    exact .inl ⟨hq, .storing call (by rw [hdmem]; exact hdue)⟩
  | storing call hdue =>
    cases hp
    exact .inr (.inr ⟨by rw [due_toNat hdue], rfl, hC rfl, due_before hdue, hdue.1, silent_checkReplaced ..⟩)
  | silent hs =>
    cases hp
    exact .inl ⟨hs.1, .silent (hs.2 r)⟩

/-! ### The pool of handlers -/

section

variable {ι : Type} {c c' : Pool ι Request Request.Answer Empty Unit World} {number : ι → Option ℕ}

/-- With `number` the numbers given to the calls so far: every handler stands somewhere, no number is given twice, and
the handler that has stored is past its store. -/
structure Kept (hook : Params) (number : ι → Option ℕ) (c : Pool ι Request Request.Answer Empty Unit World) : Prop where
  stands : ∀ i, Stands hook c.world (c.programs i) (number i)
  given : ∀ i n, number i = some n → n ≤ c.world.returnsSeen.toNat
  distinct : ∀ i j n, number i = some n → number j = some n → i = j
  narrow : Narrow hook c.world.stores
  spent : c.world.stores ≠ [] → ∃ i, number i = some hook.replaceOnReturn.toNat ∧ Silent (c.programs i)

private theorem kept_loaded (hook : Params) (returns : ι → Return) (dmem : U32 → U32) (dmemc : U32) :
    Kept hook (fun _ => none) (loaded hook returns dmem dmemc) where
  stands i := stands_handler (returns i)
  given _ _ h := nomatch h
  distinct _ _ _ h := nomatch h
  narrow := ⟨(fun _ hs => nomatch hs), Nat.zero_le _⟩
  spent h := absurd rfl h

theorem Kept.outside (h : Kept hook number c) {a : Outside} (hC : Undisturbed c (.outside a)) :
    Kept hook number ⟨c.programs, a.act c.world⟩ := by
  cases a with
  | select control => exact { h with stands := fun i => (h.stands i).world fun _ hd => hd }
  | store offset value =>
    refine { h with stands := fun i => (h.stands i).world ?_ }
    intro hnext hd
    show Function.update c.world.dmem offset value dmemDataSizeOffset = stockDataSize
    by_cases hoff : offset = dmemDataSizeOffset
    · subst hoff
      rw [Function.update_self]
      by_contra hv
      rw [hC rfl hv i] at hnext
      cases hnext
    · rw [Function.update_of_ne (Ne.symm hoff)]
      exact hd

variable [DecidableEq ι] {i : ι} {q : Routine Unit} {w : World}

/-- The handler `i` goes on as `q` and leaves DMEM, the stores and the counter of returns alone. -/
theorem Kept.quiet (h : Kept hook number c) (hq : Stands hook w q (number i)) (hs : Silent (c.programs i) → Silent q)
    (hw : w.dmem = c.world.dmem ∧ w.stores = c.world.stores ∧ w.returnsSeen = c.world.returnsSeen) :
    Kept hook number ⟨Function.update c.programs i q, w⟩ where
  stands j := by
    show Stands hook w (Function.update c.programs i q j) (number j)
    by_cases hj : j = i
    · subst hj
      rw [Function.update_self]
      exact hq
    · rw [Function.update_of_ne hj]
      apply (h.stands j).world
      intro _ hd
      rw [hw.1, hd]
  given := by rw [hw.2.2]; exact h.given
  distinct := h.distinct
  narrow := by rw [hw.2.1]; exact h.narrow
  spent hne := by
    obtain ⟨j, hj, hsilent⟩ := h.spent (by rw [← hw.2.1]; exact hne)
    refine ⟨j, hj, ?_⟩
    show Silent (Function.update c.programs i q j)
    by_cases hji : j = i
    · subst hji
      rw [Function.update_self]
      exact hs hsilent
    · rw [Function.update_of_ne hji]
      exact hsilent

/-- The handler `i` counts itself and gets the next number. -/
theorem Kept.count (h : Kept hook number c) (hi : number i = none)
    (hwrap : c.world.returnsSeen ≠ BitVec.allOnes 64)
    (hq : Stands hook (c.world.bump .returnsSeen) q (some (c.world.returnsSeen.toNat + 1))) :
    Kept hook (Function.update number i (some (c.world.returnsSeen.toNat + 1)))
      ⟨Function.update c.programs i q, c.world.bump .returnsSeen⟩ := by
  have hold : ∀ j n, j ≠ i → Function.update number i (some (c.world.returnsSeen.toNat + 1)) j = some n →
      number j = some n := by
    intro j n hj hnum
    rwa [Function.update_of_ne hj] at hnum
  have hnew : ∀ n, Function.update number i (some (c.world.returnsSeen.toNat + 1)) i = some n →
      n = c.world.returnsSeen.toNat + 1 := by
    intro n hnum
    rw [Function.update_self] at hnum
    exact (Option.some.inj hnum).symm
  constructor
  case stands =>
    intro j
    show Stands hook (c.world.bump .returnsSeen) (Function.update c.programs i q j)
      (Function.update number i (some (c.world.returnsSeen.toNat + 1)) j)
    by_cases hj : j = i
    · subst hj
      rw [Function.update_self, Function.update_self]
      exact hq
    · rw [Function.update_of_ne hj, Function.update_of_ne hj]
      exact (h.stands j).world fun _ hd => hd
  case given =>
    intro j n hnum
    show n ≤ (c.world.returnsSeen + 1).toNat
    rw [toNat_succ hwrap]
    by_cases hj : j = i
    · subst hj
      exact Nat.le_of_eq (hnew n hnum)
    · have := h.given j n (hold j n hj hnum)
      omega
  case distinct =>
    -- a number given before is at most the counter, the new one exceeds it
    intro j j' n hnum hnum'
    by_cases hj : j = i <;> by_cases hj' : j' = i
    · rw [hj, hj']
    · subst hj
      have := hnew n hnum
      have := h.given j' n (hold j' n hj' hnum')
      omega
    · subst hj'
      have := hnew n hnum'
      have := h.given j n (hold j n hj hnum)
      omega
    · exact h.distinct j j' n (hold j n hj hnum) (hold j' n hj' hnum')
  case narrow => exact h.narrow
  case spent =>
    intro hne
    obtain ⟨j, hj, hsilent⟩ := h.spent hne
    have hji : j ≠ i := by
      intro hji
      rw [hji, hi] at hj
      cases hj
    refine ⟨j, ?_, ?_⟩
    · rw [Function.update_of_ne hji]
      exact hj
    · show Silent (Function.update c.programs i q j)
      rw [Function.update_of_ne hji]
      exact hsilent

/-- The handler `i` of the return to change stores the test size over the stock size. -/
theorem Kept.store (h : Kept hook number c) (hi : number i = some hook.replaceOnReturn.toNat)
    (harmed : hook.armed = true) (hnot : ¬Silent (c.programs i)) (hq : Silent q)
    (hs : w.stores = c.world.stores ++ [⟨dmemDataSizeOffset, stockDataSize, testDataSize⟩])
    (hcount : w.returnsSeen = c.world.returnsSeen) :
    Kept hook number ⟨Function.update c.programs i q, w⟩ := by
  have hfirst : c.world.stores = [] := by
    by_contra hne
    obtain ⟨j, hj, hsilent⟩ := h.spent hne
    rw [h.distinct j i _ hj hi] at hsilent
    exact hnot hsilent
  rw [hfirst, List.nil_append] at hs
  constructor
  case stands =>
    intro j
    show Stands hook w (Function.update c.programs i q j) (number j)
    by_cases hj : j = i
    · subst hj
      rw [Function.update_self]
      exact .silent hq
    · rw [Function.update_of_ne hj]
      apply (h.stands j).world
      intro hnext
      exact absurd (h.distinct j i _ ((h.stands j).number hnext) hi) hj
  case given => rw [hcount]; exact h.given
  case distinct => exact h.distinct
  case narrow =>
    show Narrow hook w.stores
    rw [hs]
    refine ⟨?_, Nat.le_refl 1⟩
    intro s hmem
    rw [List.mem_singleton] at hmem
    exact ⟨hmem, harmed⟩
  case spent =>
    intro _
    refine ⟨i, hi, ?_⟩
    show Silent (Function.update c.programs i q i)
    rw [Function.update_self]
    exact hq

theorem Kept.step (h : Kept hook number c) {t : Turn ι Outside} (hC : Undisturbed c t)
    (hs : Pool.Step (env hw) outsiders c t c') : ∃ number', Kept hook number' c' := by
  cases hs with
  | outside hact =>
    subst hact
    exact ⟨number, h.outside hC⟩
  | program hi he =>
    rename_i i o k r w'
    have hst := h.stands i
    rw [hi] at hst
    have hsteady : Steady c.world (c.programs i) := hC
    rw [hi] at hsteady
    obtain ⟨ho, hk⟩ | ⟨hnone, rfl, hk, hwrap⟩ | ⟨hnum, ho, hsel, hstock, harmed, hk⟩ := hst.request hsteady he
    · refine ⟨number, h.quiet hk ?_ (env_quiet he ho)⟩
      rw [hi]
      exact fun hsilent => hsilent.2 r
    · exact ⟨_, h.count hnone hwrap hk⟩
    · subst ho
      obtain ⟨-, hstores, hcount⟩ := env_data_write he
      refine ⟨number, h.store hnum harmed ?_ hk ?_ hcount⟩
      · rw [hi]
        exact fun hsilent => hsilent.1 rfl
      · rw [hstores, hsel, hstock]

end

/-! ### Two schedules -/

/-- The address advances by one word after a write with auto-increment. -/
def falcon : Advance where
  onRead := id
  onWrite control := if control &&& dmemcAutoincrement = 0 then control else control + 4

/-- The stock data size in place, and nothing else. -/
def stockDmem (offset : U32) : U32 := if offset = dmemDataSizeOffset then stockDataSize else 0

/-- The second handler returns from the start of the Falcon, all others from the load. -/
def oneBoot (i : ℕ) : Return := if i = 1 then .falconBoot 0 else .loadBld

/-- Handlers only; a turn passes if the handler is steady, or always. -/
def scheduled (every : Bool) (c : Pool ℕ Request Request.Answer Empty Unit World) : Turn ℕ Outside → Bool
  | .program i => every || decide (Steady c.world (c.programs i))
  | .outside _ => false

def playHandlers (every : Bool) (turns : List ℕ) : Option (Pool ℕ Request Request.Answer Empty Unit World) :=
  Pool.play (scheduled every) (fun w o => some (answer falcon (fun _ => 0) w o)) Outside.act (turns.map .program)
    (loaded ⟨true, 2⟩ oneBoot stockDmem 0)

private theorem playHandlers_run (every : Bool)
    {C : Pool ℕ Request Request.Answer Empty Unit World → Turn ℕ Outside → Prop}
    (hC : ∀ c t, scheduled every c t = true → C c t) {turns : List ℕ}
    {c : Pool ℕ Request Request.Answer Empty Unit World} (h : playHandlers every turns = some c) :
    Pool.Run (env falcon) outsiders C (loaded ⟨true, 2⟩ oneBoot stockDmem 0) c := by
  refine Pool.play_run hC ?_ (fun _ _ => rfl) h
  intro w o r w' ha
  exact ⟨fun _ => 0, Option.some.inj ha⟩

/-! ### Every run -/

/-- The hook stores nothing but the test size over the stock size at `0x48`, armed, and once at most, in every run of
its handlers in which no turn disturbs the access of another. -/
theorem undisturbed_narrow {ι : Type} [DecidableEq ι] {c : Pool ι Request Request.Answer Empty Unit World}
    (hook : Params) (hw : Advance) (returns : ι → Return) (dmem : U32 → U32) (dmemc : U32)
    (h : Pool.Run (env hw) outsiders Undisturbed (loaded hook returns dmem dmemc) c) :
    Narrow hook c.world.stores := by
  obtain ⟨number, hk⟩ : ∃ number, Kept hook number c := by
    apply h.invariant ⟨_, kept_loaded hook returns dmem dmemc⟩
    rintro c₁ t c₂ hC ⟨number, hk⟩ hs
    exact hk.step hC hs
  exact hk.narrow

theorem undisturbed_narrow_second : ∃ c, Pool.Run (env falcon) outsiders Undisturbed
    (loaded ⟨true, 2⟩ oneBoot stockDmem 0) c ∧
    c.world.stores = [⟨dmemDataSizeOffset, stockDataSize, testDataSize⟩] ∧ Narrow ⟨true, 2⟩ c.world.stores := by
  have hplay :
      (playHandlers false [0, 1, 1, 0, 0, 2, 0, 1, 2, 2, 2, 2, 1, 1, 2, 2, 2, 2]).map (fun c => c.world.stores) =
      some [⟨dmemDataSizeOffset, stockDataSize, testDataSize⟩] := by
    decide +kernel
  obtain ⟨c, hc, hstores⟩ := Option.map_eq_some_iff.1 hplay
  have hsteady : ∀ c t, scheduled false c t = true → Undisturbed c t := by
    intro c t ht
    cases t with
    | program i =>
      have : Steady c.world (c.programs i) := of_decide_eq_true ht
      exact this
    | outside a => cases ht
  have hrun := playHandlers_run false hsteady hc
  exact ⟨c, hrun, hstores, undisturbed_narrow _ _ oneBoot stockDmem 0 hrun⟩

/-- The boot handler selects `0x600` between the selection of `0x48` and the store. -/
theorem store_at_600 : ¬∀ (hook : Params) (returns : ℕ → Return) (dmem : U32 → U32) (dmemc : U32)
    (c : Pool ℕ Request Request.Answer Empty Unit World),
    Pool.Run (env falcon) outsiders (fun _ t => ∃ i, t = .program i)
      (loaded hook returns dmem dmemc) c → Narrow hook c.world.stores := by
  intro h
  have hplay : (playHandlers true [0, 0, 0, 0, 2, 2, 2, 2, 1, 1, 2]).map (fun c => c.world.stores) =
      some [⟨0x600, 0, testDataSize⟩] := by
    decide +kernel
  obtain ⟨c, hc, hstores⟩ := Option.map_eq_some_iff.1 hplay
  have hhandlers : ∀ c t, scheduled true c t = true → ∃ i, t = .program i := by
    intro c t ht
    cases t with
    | program i => exact ⟨i, rfl⟩
    | outside a => cases ht
  have hrun := playHandlers_run true hhandlers hc
  have hnarrow := h ⟨true, 2⟩ oneBoot stockDmem 0 c hrun
  rw [hstores] at hnarrow
  have := (hnarrow.1 _ (List.mem_singleton_self _)).1
  revert this
  decide

end CmpUnlocker.AcrHook
