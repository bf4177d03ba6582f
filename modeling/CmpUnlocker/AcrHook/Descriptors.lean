import CmpUnlocker.AcrHook.Loading
import CmpUnlocker.Lib.Interference

/-!
# The ACR descriptor hook: descriptors in host memory

`pio_wr_pre` runs before every transfer into a Falcon, on the processor that starts the transfer; any number of them run
side by side.  Each copies the 21 words of the descriptor, and changes its data size from `0x1000` to `load_test_size`
if the copy looks like the load descriptor.  Two transfers may have the same descriptor, or descriptors that share
words.  In whatever order the accesses fall, the memory ends as if every descriptor had been changed once
(`descriptors_patched`).
-/

namespace CmpUnlocker.AcrHook

open Interaction

/-! ### The handler -/

def loadStockDataSize : U32 := 0x1000#32

/-- The parameters `pio_wr_pre` reads; `gv100_nouveau_acr_hook_init` refuses any other size before it registers the
probe. -/
structure PioParams where
  armed : Bool
  loadTestSize : U32
  accepted : AcceptedSize loadTestSize

/-- The arguments of `nvkm_falcon_pio_wr` that the handler looks at; `src` is a pointer to words of 32 bits. -/
structure Transfer where
  src : U64
  srcBase : U64
  srcSize : U64
  memType : U64
  memBase : U64
  deriving DecidableEq

/-- The arguments of `pr_notice`. -/
structure PioNotice where
  seen : U64
  ctx : U32
  nsOff : U32
  nsSize : U32
  hsOff : U32
  hsSize : U32
  entry : U32
  dataSizeBefore : U32
  after : U32
  replaced : Bool
  deriving DecidableEq

/-- The atomic operations of the handler. -/
inductive PioRequest
  | load (address : U64)
  | store (address : U64) (value : U32)
  | incReturnDescriptorsSeen
  | incReplacements
  | notice (text : PioNotice)

abbrev PioRequest.Answer : PioRequest → Type
  | .load _ => U32
  | .store _ _ => Unit
  | .incReturnDescriptorsSeen => U64
  | .incReplacements => Unit
  | .notice _ => Unit

abbrev PioRoutine (α : Type) : Type := Prog PioRequest PioRequest.Answer Empty α

/-- `src + i` in the arithmetic of pointers. -/
def wordAt (src : U64) (i : ℕ) : U64 := src + BitVec.ofNat 64 (4 * i)

/-- `memcpy` of the `n` words from `src + i` on. -/
def copyWords (src : U64) : ℕ → ℕ → PioRoutine (List U32)
  | _, 0 => pure []
  | i, n + 1 => do
    let word ← Prog.request (PioRequest.load (wordAt src i))
    let words ← copyWords src (i + 1) n
    pure (word :: words)

/-- The test of `src` and of the other arguments. -/
def Transfer.Looked (t : Transfer) : Prop :=
  t.src ≠ 0 ∧ t.srcBase = 0 ∧ t.srcSize = 0 ∧ t.memType = 1 ∧ t.memBase = 0

instance (t : Transfer) : Decidable t.Looked := inferInstanceAs (Decidable (_ ∧ _))

/-- The test of the copy. -/
def Recognised (d : List U32) : Prop :=
  d.getD 8 0 = 1 ∧ d.getD 12 0 = 0x100 ∧ d.getD 15 0 = 0 ∧
    (d.getD 18 0 = stockDataSize ∨ d.getD 18 0 = loadStockDataSize)

instance (d : List U32) : Decidable (Recognised d) := inferInstanceAs (Decidable (_ ∧ _))

/-- The change of the data size; the result is the value of `after`. -/
def replaceLoadSize (hook : PioParams) (src : U64) (before : U32) : PioRoutine U32 :=
  if hook.armed = true ∧ before = loadStockDataSize then do
    Prog.request (PioRequest.store (wordAt src 18) hook.loadTestSize)
    let after ← Prog.request (PioRequest.load (wordAt src 18))
    Prog.when (after = hook.loadTestSize) (Prog.request PioRequest.incReplacements)
    pure after
  else pure before

def pioWrPre (hook : PioParams) (t : Transfer) : PioRoutine Unit :=
  Prog.when t.Looked do
    let d ← copyWords t.src 0 21
    Prog.when (Recognised d) do
      let seen ← Prog.request PioRequest.incReturnDescriptorsSeen
      let before := d.getD 18 0
      let after ← replaceLoadSize hook t.src before
      Prog.request (PioRequest.notice ⟨seen, d.getD 8 0, d.getD 11 0, d.getD 12 0, d.getD 13 0, d.getD 14 0,
        d.getD 15 0, before, after, decide (before = loadStockDataSize ∧ after = hook.loadTestSize)⟩)

/-! ### Host memory -/

/-- Host memory by the addresses of its words, the two counters, the stores of the handlers and what they printed. -/
structure Host where
  mem : U64 → U32
  descriptorsSeen : U64
  replacements : U64
  stores : List (U64 × U32)
  log : List PioNotice

/-- The effect of a request. -/
def Host.answer (w : Host) : (o : PioRequest) → o.Answer × Host
  | .load address => (w.mem address, w)
  | .store address value =>
    ((), { w with mem := Function.update w.mem address value, stores := w.stores ++ [(address, value)] })
  | .incReturnDescriptorsSeen => (w.descriptorsSeen + 1, { w with descriptorsSeen := w.descriptorsSeen + 1 })
  | .incReplacements => ((), { w with replacements := w.replacements + 1 })
  | .notice text => ((), { w with log := w.log ++ [text] })

def hostEnv : Env PioRequest PioRequest.Answer Host := fun w o r w' => w.answer o = (r, w')

/-- Somebody else stores a word. -/
def Host.poke (a : U64 × U32) (w : Host) : Host := { w with mem := Function.update w.mem a.1 a.2 }

def elsewhere (a : U64 × U32) (w w' : Host) : Prop := w' = Host.poke a w

/-- The memory before the first transfer, with the handlers of the transfers still to come. -/
def transfersStart {ι : Type} (hook : PioParams) (transfers : ι → Transfer) (mem : U64 → U32) :
    Pool ι PioRequest PioRequest.Answer Empty Unit Host :=
  ⟨fun i => pioWrPre hook (transfers i), ⟨mem, 0, 0, [], []⟩⟩

/-! ### What is changed -/

variable {ι : Type} (hook : PioParams) (transfers : ι → Transfer) (mem : U64 → U32)

/-- The addresses of the words of the descriptors that are looked at. -/
def Watched (a : U64) : Prop := ∃ i, (transfers i).Looked ∧ ∃ j < 21, a = wordAt (transfers i).src j

/-- The 21 words at `src`. -/
def descriptorAt (src : U64) : List U32 := (List.range 21).map fun j => mem (wordAt src j)

/-- The addresses of the data sizes to be changed. -/
def Due (a : U64) : Prop :=
  hook.armed = true ∧ mem a = loadStockDataSize ∧
    ∃ i, (transfers i).Looked ∧ Recognised (descriptorAt mem (transfers i).src) ∧ a = wordAt (transfers i).src 18

/-- Nobody but the handlers stores in the descriptors while they are transferred. -/
def Apart : Pool ι PioRequest PioRequest.Answer Empty Unit Host → Turn ι (U64 × U32) → Prop
  | _, .program _ => True
  | _, .outside a => ¬Watched transfers a.1

/-- The words of the descriptor that are printed, with their places. -/
def PioNotice.words (text : PioNotice) : List (ℕ × U32) :=
  [(8, text.ctx), (11, text.nsOff), (12, text.nsSize), (13, text.hsOff), (14, text.hsSize), (15, text.entry),
    (18, text.dataSizeBefore)]

/-- The text is about the descriptor at `src`, with its first data size, and says whether that was changed.  A printed
word is the first one there, or that of a data size of another descriptor which was changed before the copy. -/
structure PioNotice.About (src : U64) (text : PioNotice) : Prop where
  words : ∀ p ∈ text.words, p.2 = mem (wordAt src p.1) ∨
    Due hook transfers mem (wordAt src p.1) ∧ p.2 = hook.loadTestSize
  before : text.dataSizeBefore = mem (wordAt src 18)
  replaced : text.replaced = true ↔ hook.armed = true ∧ text.dataSizeBefore = loadStockDataSize
  after : text.after = if text.replaced then hook.loadTestSize else text.dataSizeBefore

/-- The text is about the load or stock descriptor of a transfer. -/
def PioNotice.Truthful (text : PioNotice) : Prop :=
  ∃ i, (transfers i).Looked ∧ Recognised (descriptorAt mem (transfers i).src) ∧
    text.About hook transfers mem (transfers i).src

/-! ### What a handler may do to the others -/

/-- Of the watched words only the data sizes that are due change, each to the test size; what is stored and printed
stays right. -/
structure Allowed (w w' : Host) : Prop where
  words : ∀ a, Watched transfers a →
    w'.mem a = w.mem a ∨ Due hook transfers mem a ∧ w.mem a = loadStockDataSize ∧ w'.mem a = hook.loadTestSize
  stores : (∀ s ∈ w.stores, Due hook transfers mem s.1 ∧ s.2 = hook.loadTestSize) →
    ∀ s ∈ w'.stores, Due hook transfers mem s.1 ∧ s.2 = hook.loadTestSize
  log : (∀ text ∈ w.log, text.Truthful hook transfers mem) → ∀ text ∈ w'.log, text.Truthful hook transfers mem

private theorem PioParams.size_ne (hook : PioParams) {v : U32}
    (hv : v = 0 ∨ v = 1 ∨ v = 0x100 ∨ v = 0x600 ∨ v = 0x1000) :
    hook.loadTestSize ≠ v := by
  rcases hook.accepted with h | h | h <;> rcases hv with rfl | rfl | rfl | rfl | rfl <;> rw [h] <;> decide

private theorem PioParams.size_ne_stock (hook : PioParams) : hook.loadTestSize ≠ loadStockDataSize :=
  hook.size_ne (by decide)

instance : IsPreorder Host (Allowed hook transfers mem) where
  refl w := ⟨fun _ _ => .inl rfl, fun h => h, fun h => h⟩
  trans w₁ w₂ w₃ h₁₂ h₂₃ := by
    refine ⟨fun a ha => ?_, fun h => h₂₃.stores (h₁₂.stores h), fun h => h₂₃.log (h₁₂.log h)⟩
    rcases h₂₃.words a ha with heq | ⟨hdue, hbefore, hafter⟩
    · rw [heq]
      exact h₁₂.words a ha
    · refine .inr ⟨hdue, ?_, hafter⟩
      -- a size changed in the first part is not the stock size the second would change
      rcases h₁₂.words a ha with heq | ⟨-, -, hsize⟩
      · rw [← heq, hbefore]
      · exact absurd (hsize.symm.trans hbefore) hook.size_ne_stock

variable {hook transfers mem} {w w' : Host} {a : U64} {v : U32}

private theorem Due.watched (h : Due hook transfers mem a) : Watched transfers a := by
  obtain ⟨-, -, i, hlooked, -, ha⟩ := h
  exact ⟨i, hlooked, 18, by decide, ha⟩

/-- A data size that has been changed stays changed. -/
theorem Allowed.size (h : Allowed hook transfers mem w w') (ha : Watched transfers a)
    (hsize : w.mem a = hook.loadTestSize) : w'.mem a = hook.loadTestSize := by
  rcases h.words a ha with heq | ⟨-, -, hafter⟩
  · rw [heq, hsize]
  · exact hafter

/-! ### The copy -/

/-- What a handler may have read at `a`: the word as it was at first, or the size that is there now. -/
def Copied (hook : PioParams) (transfers : ι → Transfer) (mem : U64 → U32) (w : Host) (a : U64) (v : U32) : Prop :=
  v = mem a ∨ Due hook transfers mem a ∧ v = hook.loadTestSize ∧ w.mem a = hook.loadTestSize

theorem Copied.after (h : Copied hook transfers mem w a v) (hw : Allowed hook transfers mem w w') :
    Copied hook transfers mem w' a v := by
  rcases h with h | ⟨hdue, hv, hsize⟩
  · exact .inl h
  · exact .inr ⟨hdue, hv, hw.size hdue.watched hsize⟩

private theorem Copied.of_ne (h : Copied hook transfers mem w a v) (hv : v ≠ hook.loadTestSize) : v = mem a := by
  rcases h with h | ⟨-, hsize, -⟩
  · exact h
  · exact absurd hsize hv

/-- The word was neither the stock nor the test size of a load descriptor, so no handler has changed it. -/
theorem Copied.of_mem_ne (h : Copied hook transfers mem w a v) (hm : mem a ≠ loadStockDataSize) : v = mem a := by
  rcases h with h | ⟨hdue, -, -⟩
  · exact h
  · exact absurd hdue.2.1 hm

/-- The world has come from one with the memory `mem`. -/
def Since (hook : PioParams) (transfers : ι → Transfer) (mem : U64 → U32) (w : Host) : Prop :=
  ∃ w₀ : Host, w₀.mem = mem ∧ Allowed hook transfers mem w₀ w

theorem Since.after (h : Since hook transfers mem w) (hw : Allowed hook transfers mem w w') :
    Since hook transfers mem w' := by
  obtain ⟨w₀, hmem, h₀⟩ := h
  exact ⟨w₀, hmem, trans_of (Allowed hook transfers mem) h₀ hw⟩

theorem Since.copied (h : Since hook transfers mem w) (ha : Watched transfers a) :
    Copied hook transfers mem w a (w.mem a) := by
  obtain ⟨w₀, rfl, h₀⟩ := h
  rcases h₀.words a ha with heq | ⟨hdue, -, hsize⟩
  · exact .inl heq
  · exact .inr ⟨hdue, hsize, hsize⟩

section

variable {α : Type} {Q : α → Host → Prop} {X : Empty → Host → Prop}

private theorem bears_load {k : U32 → PioRoutine α}
    (hk : ∀ w₁, Allowed hook transfers mem w w₁ → (k (w₁.mem a)).Bears hostEnv (Allowed hook transfers mem) Q X w₁) :
    (Prog.call (PioRequest.load a) k).Bears hostEnv (Allowed hook transfers mem) Q X w := by
  intro w₁ hw₁ r w₂ hr
  obtain ⟨rfl, rfl⟩ := Prod.mk.inj hr
  exact ⟨refl_of _ _, hk _ hw₁⟩

/-- A request that leaves the memory as it is, and prints only what is right. -/
theorem bears_quiet {o : PioRequest} {k : o.Answer → PioRoutine α}
    (hmem : ∀ w : Host, (w.answer o).2.mem = w.mem ∧ (w.answer o).2.stores = w.stores)
    (hlog : ∀ w : Host, ∀ text ∈ (w.answer o).2.log, text ∈ w.log ∨ text.Truthful hook transfers mem)
    (hk : ∀ r w₂, Allowed hook transfers mem w w₂ → (k r).Bears hostEnv (Allowed hook transfers mem) Q X w₂) :
    (Prog.call o k).Bears hostEnv (Allowed hook transfers mem) Q X w := by
  intro w₁ hw₁ r w₂ hr
  have hw₂ : w₂ = (w₁.answer o).2 := by rw [hr]
  have hstep : Allowed hook transfers mem w₁ w₂ := by
    subst hw₂
    refine ⟨fun a _ => .inl (by rw [(hmem w₁).1]), fun h => by rwa [(hmem w₁).2], fun h text htext => ?_⟩
    rcases hlog w₁ text htext with hold | hnew
    · exact h text hold
    · exact hnew
  exact ⟨hstep, hk r w₂ (trans_of _ hw₁ hstep)⟩

/-- The store of the test size over a data size that is due. -/
theorem bears_store {k : Unit → PioRoutine α} (hsince : Since hook transfers mem w) (hdue : Due hook transfers mem a)
    (hk : ∀ w₂, Allowed hook transfers mem w w₂ → w₂.mem a = hook.loadTestSize →
      (k ()).Bears hostEnv (Allowed hook transfers mem) Q X w₂) :
    (Prog.call (PioRequest.store a hook.loadTestSize) k).Bears hostEnv (Allowed hook transfers mem) Q X w := by
  intro w₁ hw₁ r w₂ hr
  obtain ⟨-, rfl⟩ := Prod.mk.inj hr
  -- another handler may have stored first, and the same size
  have hold : w₁.mem a = loadStockDataSize ∨ w₁.mem a = hook.loadTestSize := by
    rcases (hsince.after hw₁).copied hdue.watched with h | ⟨-, h, -⟩
    · exact .inl (h.trans hdue.2.1)
    · exact .inr h
  have hstep : Allowed hook transfers mem w₁ (w₁.answer (.store a hook.loadTestSize)).2 := by
    refine ⟨fun b _ => ?_, fun h s hs => ?_, fun h => h⟩
    · by_cases hb : b = a
      · subst hb
        simp only [Host.answer, Function.update_self]
        rcases hold with h | h
        · exact .inr ⟨hdue, h, trivial⟩
        · exact .inl h.symm
      · exact .inl (Function.update_of_ne hb _ _)
    · rcases List.mem_append.1 hs with hs | hs
      · exact h s hs
      · rw [List.mem_singleton.1 hs]
        exact ⟨hdue, rfl⟩
  exact ⟨hstep, hk _ (trans_of _ hw₁ hstep) (Function.update_self ..)⟩

end

/-- The words of the descriptor are read, each at a moment of its own. -/
theorem copyWords_bears {X : Empty → Host → Prop} {t : Transfer} (ht : ∀ j < 21, Watched transfers (wordAt t.src j))
    {n : ℕ} : ∀ {i : ℕ} {w : Host}, i + n ≤ 21 → Since hook transfers mem w →
      (copyWords t.src i n).Bears hostEnv (Allowed hook transfers mem)
        (fun d w' => Allowed hook transfers mem w w' ∧
          ∀ j < n, Copied hook transfers mem w' (wordAt t.src (i + j)) (d.getD j 0)) X w := by
  induction n with
  | zero => exact fun _ _ w' hw' => ⟨hw', by simp⟩
  | succ n ih =>
    intro i w hi hsince
    simp only [copyWords, Prog.bind_eq, Prog.request_bind, Prog.pure_eq]
    refine bears_load fun w₁ hw₁ => Prog.bears_bind.2 ?_
    refine (ih (i := i + 1) (by omega) (hsince.after hw₁)).imp fun d w₂ hd => ?_
    intro w₃ hw₃
    obtain ⟨hw₂, hwords⟩ := hd
    have hlater : Allowed hook transfers mem w₁ w₃ := trans_of _ hw₂ hw₃
    refine ⟨trans_of _ hw₁ hlater, fun j hj => ?_⟩
    cases j with
    | zero =>
      have hread := (hsince.after hw₁).copied (ht i (by omega))
      exact hread.after hlater
    | succ j =>
      have hword := (hwords j (by omega)).after hw₃
      rw [Nat.add_assoc, Nat.add_comm 1 j] at hword
      simpa using hword

/-! ### One handler -/

private theorem descriptorAt_getD (mem : U64 → U32) (src : U64) {j : ℕ} (hj : j < 21) :
    (descriptorAt mem src).getD j 0 = mem (wordAt src j) := by
  simp [descriptorAt, hj]

/-- The data size of the descriptor of the transfer is to be changed. -/
def Transfer.Meant (hook : PioParams) (mem : U64 → U32) (t : Transfer) : Prop :=
  hook.armed = true ∧ mem (wordAt t.src 18) = loadStockDataSize ∧ t.Looked ∧ Recognised (descriptorAt mem t.src)

/-- What is recognised in the copy was there before the first transfer. -/
theorem Recognised.of_copied {src : U64} {d : List U32} (hd : Recognised d)
    (hcopy : ∀ j < 21, Copied hook transfers mem w (wordAt src j) (d.getD j 0)) :
    Recognised (descriptorAt mem src) ∧ d.getD 18 0 = mem (wordAt src 18) := by
  obtain ⟨h8, h12, h15, h18⟩ := hd
  have hsame : ∀ j < 21, ∀ v, d.getD j 0 = v → (v = 0 ∨ v = 1 ∨ v = 0x100 ∨ v = 0x600 ∨ v = 0x1000) →
      (descriptorAt mem src).getD j 0 = v := by
    intro j hj v hv hsmall
    rw [descriptorAt_getD mem src hj, ← hv]
    exact ((hcopy j hj).of_ne (hv ▸ (hook.size_ne hsmall).symm)).symm
  have hsize : (descriptorAt mem src).getD 18 0 = d.getD 18 0 := by
    rcases h18 with h18 | h18
    · rw [h18]
      exact hsame 18 (by decide) _ h18 (by decide)
    · rw [h18]
      exact hsame 18 (by decide) _ h18 (by decide)
  refine ⟨⟨?_, ?_, ?_, ?_⟩, ?_⟩
  · exact hsame 8 (by decide) _ h8 (by decide)
  · exact hsame 12 (by decide) _ h12 (by decide)
  · exact hsame 15 (by decide) _ h15 (by decide)
  · rwa [hsize]
  · rw [← hsize, descriptorAt_getD mem src (by decide)]

/-- A descriptor that is meant, and was not recognised in the copy, has been changed already. -/
theorem Copied.changed {t : Transfer} {d : List U32} (hmeant : t.Meant hook mem) (hd : ¬Recognised d)
    (hcopy : ∀ j < 21, Copied hook transfers mem w (wordAt t.src j) (d.getD j 0)) :
    Watched transfers (wordAt t.src 18) ∧ w.mem (wordAt t.src 18) = hook.loadTestSize := by
  obtain ⟨-, hstock, -, h8, h12, h15, -⟩ := hmeant
  have hsame : ∀ j < 21, ∀ v, (descriptorAt mem t.src).getD j 0 = v → v ≠ loadStockDataSize → d.getD j 0 = v := by
    intro j hj v hv hne
    rw [descriptorAt_getD mem t.src hj] at hv
    exact ((hcopy j hj).of_mem_ne (hv ▸ hne)).trans hv
  rcases hcopy 18 (by decide) with h18 | ⟨hdue, -, hsize⟩
  · refine absurd ⟨?_, ?_, ?_, .inr (h18.trans hstock)⟩ hd
    · exact hsame 8 (by decide) _ h8 (by decide)
    · exact hsame 12 (by decide) _ h12 (by decide)
    · exact hsame 15 (by decide) _ h15 (by decide)
  · exact ⟨hdue.watched, hsize⟩

/-- At its end a handler has seen to the descriptor of its transfer. -/
def SeenTo (hook : PioParams) (mem : U64 → U32) (t : Transfer) (w : Host) : Prop :=
  t.Meant hook mem → w.mem (wordAt t.src 18) = hook.loadTestSize

theorem SeenTo.after {t : Transfer} (ht : Watched transfers (wordAt t.src 18)) (h : SeenTo hook mem t w)
    (hw : Allowed hook transfers mem w w') : SeenTo hook mem t w' :=
  fun hmeant => hw.size ht (h hmeant)

/-- The text is printed as the last request. -/
theorem bears_notice {X : Empty → Host → Prop} {t : Transfer} {text : PioNotice}
    (htext : text.Truthful hook transfers mem)
    (ht : Watched transfers (wordAt t.src 18)) (hseen : SeenTo hook mem t w) :
    (Prog.request (PioRequest.notice text) : PioRoutine Unit).Bears hostEnv (Allowed hook transfers mem)
      (fun _ w' => SeenTo hook mem t w') X w := by
  refine bears_quiet (fun w => ⟨rfl, rfl⟩) (fun w text' htext' => ?_) fun _ w₂ hw₂ w₃ hw₃ => ?_
  · rcases List.mem_append.1 htext' with hold | hnew
    · exact .inl hold
    · rw [List.mem_singleton.1 hnew]
      exact .inr htext
  · exact (hseen.after ht hw₂).after ht hw₃

/-- The part of the handler that changes the data size: `after` is what is there from then on. -/
theorem replaceLoadSize_bears {X : Empty → Host → Prop} {t : Transfer} {before : U32}
    (hsince : Since hook transfers mem w) (ht : Watched transfers (wordAt t.src 18))
    (hbefore : before = mem (wordAt t.src 18))
    (hdue : hook.armed = true → before = loadStockDataSize → Due hook transfers mem (wordAt t.src 18)) :
    (replaceLoadSize hook t.src before).Bears hostEnv (Allowed hook transfers mem)
      (fun after w' => SeenTo hook mem t w' ∧
        after = if hook.armed = true ∧ before = loadStockDataSize then hook.loadTestSize else before) X w := by
  unfold replaceLoadSize
  by_cases hc : hook.armed = true ∧ before = loadStockDataSize
  · simp only [if_pos hc, Prog.bind_eq, Prog.request_bind, Prog.pure_eq]
    refine bears_store hsince (hdue hc.1 hc.2) fun w₂ _ hsize => bears_load fun w₃ hw₃ => ?_
    have hread : w₃.mem (wordAt t.src 18) = hook.loadTestSize := hw₃.size ht hsize
    simp only [hread, Prog.when, if_pos, Prog.request, Prog.call_bind, Prog.ret_bind]
    refine bears_quiet (fun w => ⟨rfl, rfl⟩) (fun w text htext => .inl htext) fun _ w₄ hw₄ w₅ hw₅ => ⟨fun _ => ?_, rfl⟩
    exact hw₅.size ht (hw₄.size ht hread)
  · simp only [if_neg hc]
    refine fun w' hw' => ⟨fun hmeant => ?_, rfl⟩
    exact absurd ⟨hmeant.1, hbefore.trans hmeant.2.1⟩ hc

/-- What the handler prints about `replaced` and `after` is so. -/
theorem truthful_of_after {before after : U32}
    (h : after = if hook.armed = true ∧ before = loadStockDataSize then hook.loadTestSize else before) :
    (decide (before = loadStockDataSize ∧ after = hook.loadTestSize) = true ↔
      hook.armed = true ∧ before = loadStockDataSize) ∧
      after =
        if decide (before = loadStockDataSize ∧ after = hook.loadTestSize) then hook.loadTestSize else before := by
  by_cases hc : hook.armed = true ∧ before = loadStockDataSize
  · rw [if_pos hc] at h
    exact ⟨iff_of_true (decide_eq_true ⟨hc.2, h⟩) hc, by simp [h, hc.2]⟩
  · rw [if_neg hc] at h
    have hne : ¬(before = loadStockDataSize ∧ after = hook.loadTestSize) := by
      rintro ⟨hstock, hsize⟩
      exact hook.size_ne_stock (hsize.symm.trans (h.trans hstock))
    exact ⟨iff_of_false (by simpa using hne) hc, by simp [h]⟩

private theorem pioWrPre_bears {X : Empty → Host → Prop} (i : ι) (hsince : Since hook transfers mem w) :
    (pioWrPre hook (transfers i)).Bears hostEnv (Allowed hook transfers mem)
      (fun _ w' => SeenTo hook mem (transfers i) w') X w := by
  unfold pioWrPre Prog.when
  by_cases hlooked : (transfers i).Looked
  case neg =>
    simp only [if_neg hlooked]
    exact fun w' _ hmeant => absurd hmeant.2.2.1 hlooked
  have hwatched : ∀ j < 21, Watched transfers (wordAt (transfers i).src j) := fun j hj => ⟨i, hlooked, j, hj, rfl⟩
  have ht : Watched transfers (wordAt (transfers i).src 18) := hwatched 18 (by decide)
  simp only [if_pos hlooked, Prog.bind_eq, Prog.request_bind]
  refine Prog.bears_bind.2 ((copyWords_bears hwatched (by decide) hsince).imp fun d w₁ hd => ?_)
  obtain ⟨hw₁, hwords⟩ := hd
  have hcopy : ∀ j < 21, Copied hook transfers mem w₁ (wordAt (transfers i).src j) (d.getD j 0) := by
    simpa only [Nat.zero_add] using hwords
  by_cases hrec : Recognised d
  case neg =>
    simp only [if_neg hrec]
    intro w' hw' hmeant
    obtain ⟨-, hsize⟩ := Copied.changed hmeant hrec hcopy
    exact hw'.size ht hsize
  obtain ⟨hrec₀, hbefore⟩ := hrec.of_copied hcopy
  simp only [if_pos hrec]
  refine bears_quiet (fun w => ⟨rfl, rfl⟩) (fun w text htext => .inl htext) fun seen w₂ hw₂ => ?_
  have hsince₂ : Since hook transfers mem w₂ := (hsince.after hw₁).after hw₂
  have hdue : hook.armed = true → d.getD 18 0 = loadStockDataSize →
      Due hook transfers mem (wordAt (transfers i).src 18) :=
    fun harmed hstock => ⟨harmed, hbefore.symm.trans hstock, i, hlooked, hrec₀, rfl⟩
  refine Prog.bears_bind.2 ((replaceLoadSize_bears hsince₂ ht hbefore hdue).imp fun after w₃ hafter => ?_)
  obtain ⟨hseen, hafter⟩ := hafter
  -- the printed words are those of the copy, taken before the store
  have habout : PioNotice.About hook transfers mem (transfers i).src ⟨seen, d.getD 8 0, d.getD 11 0, d.getD 12 0,
      d.getD 13 0, d.getD 14 0, d.getD 15 0, d.getD 18 0, after,
      decide (d.getD 18 0 = loadStockDataSize ∧ after = hook.loadTestSize)⟩ := by
    refine ⟨fun p hp => ?_, hbefore, (truthful_of_after hafter).1, (truthful_of_after hafter).2⟩
    have hcopied : p.1 < 21 ∧ p.2 = d.getD p.1 0 := by
      simp only [PioNotice.words, List.mem_cons, List.not_mem_nil, or_false] at hp
      rcases hp with rfl | rfl | rfl | rfl | rfl | rfl | rfl <;> exact ⟨by simp, rfl⟩
    obtain ⟨hlt, hword⟩ := hcopied
    rw [hword]
    rcases hcopy p.1 hlt with hfirst | ⟨hdue, hsize, -⟩
    · exact .inl hfirst
    · exact .inr ⟨hdue, hsize⟩
  exact bears_notice ⟨i, hlooked, hrec₀, habout⟩ ht hseen

/-! ### All transfers -/

/-- The memory with every data size that is due changed, as far as it is watched. -/
structure Patched (hook : PioParams) (transfers : ι → Transfer) (mem mem' : U64 → U32) : Prop where
  due : ∀ a, Due hook transfers mem a → mem' a = hook.loadTestSize
  others : ∀ a, Watched transfers a → ¬Due hook transfers mem a → mem' a = mem a

/-- The handlers store nothing but the test size over data sizes that are due, and say truly what they did; when all of
them have returned, the descriptors are changed where they are due and nowhere else. -/
theorem descriptors_patched [DecidableEq ι] (hook : PioParams) (transfers : ι → Transfer) (mem : U64 → U32)
    {c : Pool ι PioRequest PioRequest.Answer Empty Unit Host}
    (hrun : Pool.Run hostEnv elsewhere (Apart transfers) (transfersStart hook transfers mem) c) :
    (∀ s ∈ c.world.stores, Due hook transfers mem s.1 ∧ s.2 = hook.loadTestSize) ∧
      (∀ text ∈ c.world.log, text.Truthful hook transfers mem) ∧
        ((∀ i, c.programs i = Prog.ret ()) → Patched hook transfers mem c.world.mem) := by
  have hsince : Since hook transfers mem ⟨mem, 0, 0, [], []⟩ := ⟨_, rfl, refl_of _ _⟩
  have houtside : ∀ (c : Pool ι PioRequest PioRequest.Answer Empty Unit Host) (a : U64 × U32) (w : Host),
      Apart transfers c (.outside a) → elsewhere a c.world w → Allowed hook transfers mem c.world w := by
    rintro c ⟨b, v⟩ w hapart rfl
    refine ⟨fun a ha => .inl (Function.update_of_ne ?_ _ _), fun h => h, fun h => h⟩
    rintro rfl
    exact hapart ha
  obtain ⟨hworld, hends⟩ := hrun.bears (X := fun _ _ _ => True) houtside fun i => pioWrPre_bears i hsince
  refine ⟨hworld.stores (by simp [transfersStart]), hworld.log (by simp [transfersStart]), fun hdone => ⟨?_, ?_⟩⟩
  · rintro a ⟨harmed, hstock, i, hlooked, hrec, rfl⟩
    have hseen := hends i
    rw [hdone i] at hseen
    exact hseen.of_ret ⟨harmed, hstock, hlooked, hrec⟩
  · intro a hwatched hdue
    rcases hworld.words a hwatched with heq | ⟨hdue', -, -⟩
    · exact heq
    · exact absurd hdue' hdue

/-- A load descriptor at `0x1000`. -/
def loadDescriptor (address : U64) : U32 :=
  if address = wordAt 0x1000 8 then 1
  else if address = wordAt 0x1000 12 then 0x100
  else if address = wordAt 0x1000 18 then loadStockDataSize
  else 0

/-- The second handler copies the descriptor before the first one stores, and stores after it. -/
def overlapping : List (Turn Bool (U64 × U32)) :=
  (List.replicate 22 (.program false) ++ List.replicate 22 (.program true)) ++
    (List.replicate 3 (.program false) ++ List.replicate 4 (.program true) ++ [.program false])

def handlersOnly (_ : Pool Bool PioRequest PioRequest.Answer Empty Unit Host) : Turn Bool (U64 × U32) → Bool
  | .program _ => true
  | .outside _ => false

theorem descriptors_patched_overlapping : ∃ c : Pool Bool PioRequest PioRequest.Answer Empty Unit Host,
    Pool.Run hostEnv elsewhere (Apart fun _ => ⟨0x1000, 0, 0, 1, 0⟩)
      (transfersStart ⟨true, 0x5d00, by decide⟩ (fun _ => ⟨0x1000, 0, 0, 1, 0⟩) loadDescriptor) c ∧
    c.world.replacements = 2 ∧
    Patched ⟨true, 0x5d00, by decide⟩ (fun _ : Bool => ⟨0x1000, 0, 0, 1, 0⟩) loadDescriptor c.world.mem := by
  have hplay : (Pool.play handlersOnly (fun w o => some (Host.answer w o)) Host.poke overlapping
      (transfersStart ⟨true, 0x5d00, by decide⟩ (fun _ => ⟨0x1000, 0, 0, 1, 0⟩) loadDescriptor)).map (fun c =>
        (c.world.replacements, (c.programs false).ended, (c.programs true).ended)) =
      some (2, some (.inr ()), some (.inr ())) := by
    decide +kernel
  obtain ⟨c, hc, hend⟩ := Option.map_eq_some_iff.1 hplay
  obtain ⟨hcount, hfirst, hsecond⟩ : _ ∧ _ ∧ _ := by simpa only [Prod.mk.injEq] using hend
  have hrun : Pool.Run hostEnv elsewhere (Apart fun _ => ⟨0x1000, 0, 0, 1, 0⟩)
      (transfersStart ⟨true, 0x5d00, by decide⟩ (fun _ => ⟨0x1000, 0, 0, 1, 0⟩) loadDescriptor) c := by
    refine Pool.play_run (fun c t ht => ?_) (fun w o r w' h => Option.some.inj h) (fun _ _ => rfl) hc
    cases t with
    | program i => trivial
    | outside a => cases ht
  refine ⟨c, hrun, hcount, (descriptors_patched _ _ _ hrun).2.2 fun i => ?_⟩
  cases i with
  | false => exact Prog.ended_eq_ret.1 hfirst
  | true => exact Prog.ended_eq_ret.1 hsecond

end CmpUnlocker.AcrHook
