import CmpUnlocker.Stages.Capture
import CmpUnlocker.Stages.Sequence
import Mathlib.Algebra.Group.Nat.Even
import Mathlib.Data.List.Perm.Basic

/-!
# The classification of the reset events

The initial pair and the pairs behind `ctxctl_return` are found independently of each other, and the pairing loop goes
on two events behind a mismatch, so that it only sees the pairs at even positions.  `classified_iff` says for which runs
every reset event is counted once and every adjacent pair is found.
-/

namespace CmpUnlocker.Stages

open Keyed (Strict)

/-! ### What the classification is for -/

def ctxctlReturn : Chars := "ctxctl_return".toList

/-- The stage is the only one of its name. -/
def OnlyNamed (stages : List Stage) (name : Chars) (stage : Stage) : Prop :=
  stage ∈ stages ∧ stage.name = name ∧ ∀ other ∈ stages, other.name = name → other = stage

instance (stages : List Stage) (name : Chars) (stage : Stage) : Decidable (OnlyNamed stages name stage) :=
  inferInstanceAs (Decidable (_ ∧ _ ∧ ∀ other ∈ stages, other.name = name → other = stage))

/-- A mask event behind a stage, with a reset event at the next seq. -/
def AdjacentBehind (last mask reset : Stage) : Prop :=
  mask.name = maskReturn ∧ reset.name = resetReturn ∧ reset.seq = mask.seq + 1 ∧ last.seq < mask.seq

instance (last mask reset : Stage) : Decidable (AdjacentBehind last mask reset) :=
  inferInstanceAs (Decidable (_ ∧ _ ∧ _ ∧ _))

/-- The seqs the classification names, once for each place at which it names one. -/
def ResetClassification.places (c : ResetClassification) : List Int :=
  c.initialPair.toList.flatMap ResetPair.seqs ++ c.postCtxctlPairs.flatMap ResetPair.seqs ++ c.unclassified

/-- Every reset event is named at one place, and the adjacent pairs behind the only `ctxctl_return` are reported. -/
structure ResetClassification.Complete (c : ResetClassification) (stages : List Stage) : Prop where
  once : ∀ event ∈ resetEvents stages, c.places.count event.seq = 1
  paired : ∀ last ∈ stages, OnlyNamed stages ctxctlReturn last → ∀ mask ∈ stages, ∀ reset ∈ stages,
    AdjacentBehind last mask reset → { maskSeq := mask.seq, resetSeq := reset.seq } ∈ c.postCtxctlPairs

instance (c : ResetClassification) (stages : List Stage) : Decidable (c.Complete stages) :=
  decidable_of_iff (_ ∧ _) ⟨fun h => ⟨h.1, h.2⟩, fun h => ⟨h.once, h.paired⟩⟩

/-! ### The condition -/

/-- The stage is the only one of its name between two stages. -/
def OnlyBetween (stages : List Stage) (low high : Stage) (name : Chars) (stage : Stage) : Prop :=
  (stage ∈ stages ∧ stage.name = name ∧ low.seq < stage.seq ∧ stage.seq < high.seq) ∧
    ∀ other ∈ stages, other.name = name → low.seq < other.seq → other.seq < high.seq → other = stage

/-- An adjacent pair, alone between the only `post_return` and the only `oneinit_entry`. -/
def InitialPair (stages : List Stage) (mask reset : Stage) : Prop :=
  ∃ low high, OnlyNamed stages "post_return".toList low ∧ OnlyNamed stages "oneinit_entry".toList high ∧
    OnlyBetween stages low high maskReturn mask ∧ OnlyBetween stages low high resetReturn reset ∧
    mask.seq + 1 = reset.seq

/-- The number of reset events between two seqs. -/
def eventsBetween (stages : List Stage) (low high : Int) : Nat := (within low high (resetEvents stages)).length

/-- The initial pair is not behind `ctxctl_return`, and an even number of reset events lies between `ctxctl_return` and
each adjacent pair behind it. -/
structure Separated (stages : List Stage) : Prop where
  ahead : ∀ last, OnlyNamed stages ctxctlReturn last → ∀ mask reset, InitialPair stages mask reset →
    mask.seq < last.seq
  even : ∀ last, OnlyNamed stages ctxctlReturn last → ∀ mask ∈ stages, ∀ reset ∈ stages,
    AdjacentBehind last mask reset → Even (eventsBetween stages last.seq mask.seq)

/-! ### Runs of distinct seqs -/

/-- No two stages have the same seq. -/
def Distinguished (stages : List Stage) : Prop := (seqsOf stages).Nodup

instance (stages : List Stage) : Decidable (Distinguished stages) := inferInstanceAs (Decidable (seqsOf stages).Nodup)

theorem Distinguished.inj {stages : List Stage} (h : Distinguished stages) {a b : Stage} (ha : a ∈ stages)
    (hb : b ∈ stages) (hab : a.seq = b.seq) : a = b :=
  List.inj_on_of_nodup_map h ha hb hab

theorem Distinguished.nodup {stages : List Stage} (h : Distinguished stages) : stages.Nodup := List.Nodup.of_map _ h

/-- A filter finds one element exactly when one element satisfies its condition. -/
theorem filter_eq_singleton {α : Type} {l : List α} (h : l.Nodup) (p : α → Bool) (a : α) :
    l.filter p = [a] ↔ (a ∈ l ∧ p a = true) ∧ ∀ b ∈ l, p b = true → b = a := by
  constructor
  · intro heq
    have hmem : ∀ b, b ∈ l ∧ p b = true ↔ b = a := by
      intro b
      rw [← List.mem_filter, heq, List.mem_singleton]
    exact ⟨(hmem a).mpr rfl, fun b hb hpb => (hmem b).mp ⟨hb, hpb⟩⟩
  · rintro ⟨⟨ha, hpa⟩, honly⟩
    apply List.perm_singleton.mp
    rw [List.perm_ext_iff_of_nodup (h.filter p) (List.nodup_singleton a)]
    intro b
    rw [List.mem_filter, List.mem_singleton]
    constructor
    · rintro ⟨hb, hpb⟩
      exact honly b hb hpb
    · rintro rfl
      exact ⟨ha, hpa⟩

private theorem unique_iff {stages : List Stage} (h : Distinguished stages) (name : Chars) (stage : Stage) :
    unique stages name = some stage ↔ OnlyNamed stages name stage := by
  rw [unique_eq_some]
  unfold named OnlyNamed
  rw [filter_eq_singleton h.nodup]
  simp only [beq_iff_eq, and_assoc]

private theorem within_named_iff {stages : List Stage} (h : Distinguished stages) (low high : Stage) (name : Chars)
    (stage : Stage) :
    within low.seq high.seq (named stages name) = [stage] ↔ OnlyBetween stages low high name stage := by
  have hnodup : (named stages name).Nodup := h.nodup.filter _
  unfold within OnlyBetween
  rw [filter_eq_singleton hnodup]
  simp only [Bool.and_eq_true, decide_eq_true_eq, and_imp]
  constructor
  · rintro ⟨⟨hin, hlow, hhigh⟩, honly⟩
    obtain ⟨hstage, hname⟩ := mem_named.mp hin
    exact ⟨⟨hstage, hname, hlow, hhigh⟩, fun other ho hon => honly other (mem_named.mpr ⟨ho, hon⟩)⟩
  · rintro ⟨⟨hstage, hname, hlow, hhigh⟩, honly⟩
    refine ⟨⟨mem_named.mpr ⟨hstage, hname⟩, hlow, hhigh⟩, ?_⟩
    intro other ho
    obtain ⟨hother, hon⟩ := mem_named.mp ho
    exact honly other hother hon

/-- The initial pair is the pair alone in its window. -/
theorem initialReset_iff {stages : List Stage} (h : Distinguished stages) (pair : ResetPair) :
    initialReset stages = .ok pair ↔
      ∃ mask reset, InitialPair stages mask reset ∧ pair = { maskSeq := mask.seq, resetSeq := reset.seq } := by
  constructor
  · intro hok
    obtain ⟨low, high, mask, reset, hlow, hhigh, hmask, hreset, hseq, hpair⟩ := initialReset_ok hok
    rw [unique_iff h] at hlow hhigh
    rw [within_named_iff h] at hmask hreset
    exact ⟨mask, reset, ⟨low, high, hlow, hhigh, hmask, hreset, hseq⟩, hpair⟩
  · rintro ⟨mask, reset, ⟨low, high, hlow, hhigh, hmask, hreset, hseq⟩, rfl⟩
    rw [← unique_iff h] at hlow hhigh
    rw [← within_named_iff h] at hmask hreset
    unfold initialReset
    simp only [hlow, hhigh, hmask, hreset, if_pos hseq]

/-! ### The pairing loop -/

/-- A mask event and a reset event at the next seq. -/
def IsPair (mask reset : Stage) : Prop := mask.name = maskReturn ∧ reset.name = resetReturn ∧ mask.seq + 1 = reset.seq

instance (mask reset : Stage) : Decidable (IsPair mask reset) := inferInstanceAs (Decidable (_ ∧ _ ∧ _))

private theorem pairTrailing_cons (first second : Stage) (rest : List Stage) :
    pairTrailing (first :: second :: rest) =
      if IsPair first second then
        ({ maskSeq := first.seq, resetSeq := second.seq } :: (pairTrailing rest).1, (pairTrailing rest).2)
      else ((pairTrailing rest).1, first.seq :: second.seq :: (pairTrailing rest).2) := rfl

/-- The pairs are those at even positions. -/
theorem mem_pairTrailing (pair : ResetPair) : (stages : List Stage) →
    (pair ∈ (pairTrailing stages).1 ↔ ∃ k mask reset, stages[2 * k]? = some mask ∧ stages[2 * k + 1]? = some reset ∧
      IsPair mask reset ∧ pair = { maskSeq := mask.seq, resetSeq := reset.seq })
  | [] => by simp [pairTrailing]
  | [stage] => by simp [pairTrailing]
  | first :: second :: rest => by
    have ih := mem_pairTrailing pair rest
    -- the pair at position 0, or one of the rest two positions earlier
    have hsplit : (∃ k mask reset, (first :: second :: rest)[2 * k]? = some mask ∧
          (first :: second :: rest)[2 * k + 1]? = some reset ∧
          IsPair mask reset ∧ pair = { maskSeq := mask.seq, resetSeq := reset.seq }) ↔
        (IsPair first second ∧ pair = { maskSeq := first.seq, resetSeq := second.seq }) ∨
          pair ∈ (pairTrailing rest).1 := by
      rw [ih]
      constructor
      · rintro ⟨k, mask, reset, hmask, hreset, hpair⟩
        cases k with
        | zero =>
          simp only [Nat.mul_zero, List.getElem?_cons_zero, Option.some.injEq, Nat.zero_add,
            List.getElem?_cons_succ] at hmask hreset
          subst hmask hreset
          exact Or.inl hpair
        | succ k =>
          rw [show 2 * (k + 1) = 2 * k + 1 + 1 by omega, List.getElem?_cons_succ, List.getElem?_cons_succ]
            at hmask hreset
          exact Or.inr ⟨k, mask, reset, hmask, hreset, hpair⟩
      · rintro (hpair | ⟨k, mask, reset, hmask, hreset, hpair⟩)
        · exact ⟨0, first, second, rfl, rfl, hpair⟩
        · refine ⟨k + 1, mask, reset, ?_, ?_, hpair⟩
          · rw [show 2 * (k + 1) = 2 * k + 1 + 1 by omega, List.getElem?_cons_succ, List.getElem?_cons_succ, hmask]
          · rw [show 2 * (k + 1) = 2 * k + 1 + 1 by omega, List.getElem?_cons_succ, List.getElem?_cons_succ, hreset]
    rw [hsplit, pairTrailing_cons]
    by_cases hp : IsPair first second
    · rw [if_pos hp, List.mem_cons]
      simp [hp]
    · rw [if_neg hp]
      simp [hp]

/-- The loop puts every event into a pair or leaves it. -/
theorem pairTrailing_perm : (stages : List Stage) →
    ((pairTrailing stages).1.flatMap ResetPair.seqs ++ (pairTrailing stages).2).Perm (seqsOf stages)
  | [] => .nil
  | [stage] => .refl _
  | mask :: reset :: rest => by
    have ih := pairTrailing_perm rest
    rw [pairTrailing_cons]
    split
    · exact (ih.cons reset.seq).cons mask.seq
    · have hleft : ((pairTrailing rest).1.flatMap ResetPair.seqs ++ mask.seq :: reset.seq :: (pairTrailing rest).2).Perm
          (mask.seq :: reset.seq :: ((pairTrailing rest).1.flatMap ResetPair.seqs ++ (pairTrailing rest).2)) :=
        List.perm_middle.trans (List.perm_middle.cons _)
      exact hleft.trans ((ih.cons reset.seq).cons mask.seq)

/-! ### The events behind `ctxctl_return` -/

private theorem mask_ne_ctxctl : maskReturn ≠ ctxctlReturn := by decide

section

variable {stages : List Stage} (h : Distinguished stages)
include h

private theorem mem_trailing_iff (event : Stage) :
    event ∈ trailing stages ↔
      event ∈ resetEvents stages ∧ ∃ last, OnlyNamed stages ctxctlReturn last ∧ last.seq < event.seq := by
  constructor
  · intro hevent
    cases hlast : unique stages ctxctlReturn with
    | none =>
      unfold trailing at hevent
      rw [show unique stages "ctxctl_return".toList = none from hlast] at hevent
      exact absurd hevent List.not_mem_nil
    | some last =>
      obtain ⟨hin, hname, hlt⟩ := (mem_trailing hlast).mp hevent
      exact ⟨mem_resetEvents.mpr ⟨hin, hname⟩, last, (unique_iff h _ _).mp hlast, hlt⟩
  · rintro ⟨hevent, last, hlast, hlt⟩
    obtain ⟨hin, hname⟩ := mem_resetEvents.mp hevent
    exact (mem_trailing ((unique_iff h _ _).mpr hlast)).mpr ⟨hin, hname, hlt⟩

private theorem strict_trailing : Strict (·.seq) (trailing stages) := by
  have hdiffer : (resetEvents stages).Pairwise fun a b => a.seq ≠ b.seq := by
    apply (resetEvents_nodup h.nodup).imp_of_mem
    intro a b ha hb hne hseq
    exact hne (h.inj (mem_resetEvents.mp ha).1 (mem_resetEvents.mp hb).1 hseq)
  cases hlast : unique stages "ctxctl_return".toList with
  | none =>
    unfold trailing
    rw [hlast]
    exact List.Pairwise.nil
  | some last =>
    rw [trailing_of_unique hlast]
    exact Keyed.strict_sort (hdiffer.filter _)

private theorem mem_seqsOf_trailing {event : Stage} (hevent : event ∈ resetEvents stages) :
    event.seq ∈ seqsOf (trailing stages) ↔ event ∈ trailing stages := by
  constructor
  · intro hseq
    obtain ⟨other, hother, heq⟩ := List.mem_map.mp hseq
    have hother' := (mem_resetEvents.mp ((mem_trailing_iff h other).mp hother).1).1
    rwa [← h.inj hother' (mem_resetEvents.mp hevent).1 heq]
  · exact fun hin => List.mem_map_of_mem hin

/-! ### Every event once -/

omit h in
private theorem count_sortedSet {α : Type} [LinearOrder α] (items : List α) (x : α) :
    (sortedSet items).count x = if x ∈ items then 1 else 0 := by
  unfold sortedSet
  rw [(Keyed.sort_perm _).count_eq, List.count_dedup]

/-- The initial pair names no seq twice. -/
theorem count_initial (seq : Int) :
    ((initialReset stages).toOption.toList.flatMap ResetPair.seqs).count seq ≤ 1 := by
  cases hpair : initialReset stages with
  | error problem => simp [Except.toOption]
  | ok pair =>
    obtain ⟨mask, reset, ⟨-, -, -, -, -, -, hseq⟩, rfl⟩ := (initialReset_iff h pair).mp hpair
    have hnodup : (ResetPair.seqs { maskSeq := mask.seq, resetSeq := reset.seq }).Nodup := by
      simp only [ResetPair.seqs, List.nodup_cons, List.mem_singleton, List.not_mem_nil, not_false_iff,
        List.nodup_nil, and_true]
      omega
    simpa [Except.toOption] using List.nodup_iff_count_le_one.mp hnodup seq

/-- An event is named at one place unless it is of the initial pair and behind `ctxctl_return` at once. -/
theorem once_iff {event : Stage} (hevent : event ∈ resetEvents stages) :
    (classifyResets stages).places.count event.seq = 1 ↔
      ¬(event.seq ∈ (initialReset stages).toOption.toList.flatMap ResetPair.seqs ∧ event ∈ trailing stages) := by
  have hinitial := count_initial h event.seq
  have hpaired := (pairTrailing_perm (trailing stages)).count_eq event.seq
  have hbehind := mem_seqsOf_trailing h hevent
  have htrailing : (seqsOf (trailing stages)).Nodup := by
    have hstrict := strict_trailing h
    exact (List.pairwise_map.mpr hstrict : (seqsOf (trailing stages)).Pairwise (· < ·)).imp fun hlt => hlt.ne
  have hall : event.seq ∈ seqsOf (named stages maskReturn ++ named stages resetReturn) := List.mem_map_of_mem hevent
  unfold ResetClassification.places classifyResets
  simp only [List.count_append, count_sortedSet]
  rw [List.count_append] at hpaired
  generalize (initialReset stages).toOption.toList.flatMap ResetPair.seqs = initial at hinitial ⊢
  generalize (pairTrailing (trailing stages)).1.flatMap ResetPair.seqs = paired at hpaired ⊢
  generalize (pairTrailing (trailing stages)).2 = left at hpaired ⊢
  -- an event is unclassified when the loop left it, or when no pair names it
  have hunclassified : event.seq ∈ left ++ sortedSet
        ((seqsOf (named stages maskReturn ++ named stages resetReturn)).filter
          fun seq => !(initial ++ paired).contains seq) ↔
      event.seq ∈ left ∨ event.seq ∉ initial ∧ event.seq ∉ paired := by
    unfold sortedSet
    rw [List.mem_append, Keyed.mem_sort, List.mem_dedup, List.mem_filter]
    simp [hall]
  simp only [hunclassified]
  rw [← hbehind]
  have hcount := List.nodup_iff_count_le_one.mp htrailing event.seq
  simp only [← List.count_pos_iff] at hcount ⊢
  rw [← hpaired] at hcount ⊢
  split <;> omega

/-- A seq of the initial pair is that of its mask event or of its reset event. -/
theorem mem_initial (seq : Int) :
    seq ∈ (initialReset stages).toOption.toList.flatMap ResetPair.seqs ↔
      ∃ mask reset, InitialPair stages mask reset ∧ (seq = mask.seq ∨ seq = reset.seq) := by
  constructor
  · intro hseq
    cases hpair : initialReset stages with
    | error problem => simp [hpair, Except.toOption] at hseq
    | ok pair =>
      obtain ⟨mask, reset, hinitial, rfl⟩ := (initialReset_iff h pair).mp hpair
      exact ⟨mask, reset, hinitial, by simpa [hpair, Except.toOption, ResetPair.seqs] using hseq⟩
  · rintro ⟨mask, reset, hinitial, hseq⟩
    rw [(initialReset_iff h _).mpr ⟨mask, reset, hinitial, rfl⟩]
    simpa [Except.toOption, ResetPair.seqs] using hseq

private theorem once_iff_ahead :
    (∀ event ∈ resetEvents stages, (classifyResets stages).places.count event.seq = 1) ↔
      ∀ last, OnlyNamed stages ctxctlReturn last → ∀ mask reset, InitialPair stages mask reset →
        mask.seq < last.seq := by
  constructor
  · intro honce last hlast mask reset hinitial
    obtain ⟨_, _, -, -, ⟨⟨hmask, hname, -, -⟩, -⟩, -, -⟩ := id hinitial
    have hevent : mask ∈ resetEvents stages := mem_resetEvents.mpr ⟨hmask, Or.inl hname⟩
    have hnot := (once_iff h hevent).mp (honce mask hevent)
    have hdiffer : last.seq ≠ mask.seq := by
      intro heq
      have hsame := h.inj hlast.1 hmask heq
      exact mask_ne_ctxctl (by rw [← hname, ← hsame, hlast.2.1])
    by_contra hbehind
    have hlt : last.seq < mask.seq := by omega
    exact hnot ⟨(mem_initial h _).mpr ⟨mask, reset, hinitial, Or.inl rfl⟩,
      (mem_trailing_iff h mask).mpr ⟨hevent, last, hlast, hlt⟩⟩
  · intro hahead event hevent
    rw [once_iff h hevent]
    rintro ⟨hin, hbehind⟩
    obtain ⟨mask, reset, hinitial, hseq⟩ := (mem_initial h _).mp hin
    obtain ⟨-, last, hlast, hlt⟩ := (mem_trailing_iff h event).mp hbehind
    have hmask := hahead last hlast mask reset hinitial
    obtain ⟨_, _, -, -, -, -, hnext⟩ := hinitial
    -- no seq lies between those of the mask event and the reset event
    omega

/-! ### Adjacent pairs -/

omit h in
/-- In a strictly ordered list the position of an element is the number of the elements before it. -/
theorem length_before {l : List Stage} (hl : Strict (·.seq) l) {i : Nat} (hi : i < l.length) :
    (l.filter fun stage => stage.seq < l[i].seq).length = i := by
  have hsplit : l = l.take i ++ l.drop i := (List.take_append_drop i l).symm
  have hbefore : (l.take i).filter (fun stage => stage.seq < l[i].seq) = l.take i := by
    rw [List.filter_eq_self]
    intro stage hstage
    obtain ⟨k, hk, rfl⟩ := List.mem_take_iff_getElem.mp hstage
    simpa using List.pairwise_iff_getElem.mp hl k i (by omega) hi (by omega)
  have hbehind : (l.drop i).filter (fun stage => stage.seq < l[i].seq) = [] := by
    rw [List.filter_eq_nil_iff]
    intro stage hstage
    obtain ⟨k, hk, rfl⟩ := List.mem_drop_iff_getElem.mp hstage
    rw [decide_eq_true_eq, not_lt]
    rcases Nat.eq_zero_or_pos k with rfl | hpos
    · exact le_rfl
    · exact (List.pairwise_iff_getElem.mp hl i (i + k) hi (by omega) (by omega)).le
  have hlength : (l.filter fun stage => stage.seq < l[i].seq).length =
      ((l.take i ++ l.drop i).filter fun stage => stage.seq < l[i].seq).length := by rw [← hsplit]
  rw [hlength, List.filter_append, hbefore, hbehind, List.append_nil, List.length_take]
  omega

/-- The events behind `ctxctl_return` and before a seq. -/
theorem eventsBetween_eq {last : Stage} (hlast : OnlyNamed stages ctxctlReturn last) (seq : Int) :
    eventsBetween stages last.seq seq = ((trailing stages).filter fun stage => stage.seq < seq).length := by
  rw [trailing_of_unique ((unique_iff h _ _).mpr hlast)]
  unfold eventsBetween within sortBySeq
  rw [((Keyed.sort_perm _).filter _).length_eq, List.filter_filter]
  congr 2
  funext stage
  rw [Bool.and_comm]

/-- An adjacent pair is reported exactly when an even number of events lies before it. -/
theorem reported_iff {last mask reset : Stage} (hlast : OnlyNamed stages ctxctlReturn last) (hmask : mask ∈ stages)
    (hreset : reset ∈ stages) (hadjacent : AdjacentBehind last mask reset) :
    { maskSeq := mask.seq, resetSeq := reset.seq } ∈ (classifyResets stages).postCtxctlPairs ↔
      Even (eventsBetween stages last.seq mask.seq) := by
  obtain ⟨hmaskName, hresetName, hnext, hbehind⟩ := hadjacent
  have hstrict := strict_trailing h
  have hmaskIn : mask ∈ trailing stages :=
    (mem_trailing_iff h mask).mpr ⟨mem_resetEvents.mpr ⟨hmask, Or.inl hmaskName⟩, last, hlast, hbehind⟩
  have hresetIn : reset ∈ trailing stages :=
    (mem_trailing_iff h reset).mpr ⟨mem_resetEvents.mpr ⟨hreset, Or.inr hresetName⟩, last, hlast, by omega⟩
  obtain ⟨i, hi, hati⟩ := List.mem_iff_getElem.mp hmaskIn
  obtain ⟨j, hj, hatj⟩ := List.mem_iff_getElem.mp hresetIn
  have hless : ∀ {k l : Nat} (hk : k < (trailing stages).length) (hl : l < (trailing stages).length), k < l →
      (trailing stages)[k].seq < (trailing stages)[l].seq :=
    fun hk hl hkl => List.pairwise_iff_getElem.mp hstrict _ _ hk hl hkl
  -- the reset event has the next seq, so it is at the next position
  have hij : j = i + 1 := by
    rcases Nat.lt_trichotomy j (i + 1) with hlt | heq | hgt
    · rcases Nat.lt_or_eq_of_le (Nat.lt_succ_iff.mp hlt) with hji | rfl
      · have := hless hj hi hji
        rw [hati, hatj] at this
        omega
      · rw [hati] at hatj
        rw [hatj] at hnext
        omega
    · exact heq
    · have h₁ := hless hi (by omega : i + 1 < _) (Nat.lt_succ_self i)
      have h₂ := hless (by omega : i + 1 < _) hj hgt
      rw [hati] at h₁
      rw [hatj] at h₂
      omega
  subst hij
  have hcount : eventsBetween stages last.seq mask.seq = i := by
    rw [eventsBetween_eq h hlast, ← hati]
    exact length_before hstrict hi
  have hpairs : (classifyResets stages).postCtxctlPairs = (pairTrailing (trailing stages)).1 := rfl
  rw [hcount, hpairs, mem_pairTrailing]
  constructor
  · rintro ⟨k, first, second, hfirst, -, -, hpair⟩
    have hseq : mask.seq = first.seq := (ResetPair.mk.injEq .. ▸ hpair).1
    obtain ⟨hk, hatk⟩ := List.getElem?_eq_some_iff.mp hfirst
    have hsame : (trailing stages)[2 * k] = (trailing stages)[i] := by
      rw [hatk, hati]
      exact hstrict.inj (hatk ▸ List.getElem_mem hk) hmaskIn hseq.symm
    have hik : 2 * k = i := (hstrict.nodup.getElem_inj_iff).mp hsame
    exact ⟨k, by omega⟩
  · rintro ⟨k, hk⟩
    refine ⟨k, mask, reset, ?_, ?_, ⟨hmaskName, hresetName, hnext.symm⟩, rfl⟩
    · rw [show 2 * k = i by omega, List.getElem?_eq_getElem hi, hati]
    · rw [show 2 * k = i by omega, List.getElem?_eq_getElem hj, hatj]

end

/-! ### All runs -/

/-- In a run of distinct seqs the classification is complete exactly when the initial pair is not behind
`ctxctl_return` and an even number of reset events precedes each adjacent pair behind it. -/
theorem resets_complete_iff (run : Run) (h : Distinguished run.stages) :
    (validateRun run).resetClassification.Complete run.stages ↔ Separated run.stages := by
  have hclassification : (validateRun run).resetClassification = classifyResets run.stages := rfl
  rw [hclassification]
  constructor
  · intro hcomplete
    refine ⟨(once_iff_ahead h).mp hcomplete.once, ?_⟩
    intro last hlast mask hmask reset hreset hadjacent
    exact (reported_iff h hlast hmask hreset hadjacent).mp
      (hcomplete.paired last hlast.1 hlast mask hmask reset hreset hadjacent)
  · intro hseparated
    refine ⟨(once_iff_ahead h).mpr hseparated.ahead, ?_⟩
    intro last _ hlast mask hmask reset hreset hadjacent
    exact (reported_iff h hlast hmask hreset hadjacent).mpr
      (hseparated.even last hlast mask hmask reset hreset hadjacent)

/-! ### Two captures -/

/-- A capture with one stage for each name, without values. -/
def stagesText (names : List String) : Chars :=
  ("cmp100_stage_ro BEGIN bdf=0 dropped=0 records=0\n".toList
    ++ names.zipIdx.flatMap fun entry =>
      "cmp100_stage_ro STAGE start_ns=0 end_ns=0 pid=1 rc=0 post=0 invalid=0 seq=".toList ++ Nat.toDigits 10 entry.2
        ++ " name=".toList ++ entry.1.toList ++ ['\n'])
    ++ "cmp100_stage_ro END bdf=0\n".toList

/-- A pair directly behind `ctxctl_return`. -/
def pairText : Chars := stagesText ["ctxctl_return", "gr_reset_mask_return", "gr_reset_return"]

/-- A stray reset event before the pair. -/
def strayText : Chars := stagesText ["ctxctl_return", "gr_reset_return", "gr_reset_mask_return", "gr_reset_return"]

/-- The initial pair behind `ctxctl_return`. -/
def lateText : Chars :=
  stagesText ["ctxctl_return", "post_return", "gr_reset_mask_return", "gr_reset_return", "oneinit_entry"]

theorem resets_complete_iff_pair :
    ∃ v ∈ (parseCapture asciiPython pairText).runs, v.run.stages.length = 3 ∧ Separated v.run.stages := by
  have hrun : ∃ v ∈ (parseCapture asciiPython pairText).runs, v.run.stages.length = 3 ∧
      Distinguished v.run.stages ∧ (validateRun v.run).resetClassification.Complete v.run.stages := by decide +kernel
  obtain ⟨v, hv, hlength, hdistinct, hcomplete⟩ := hrun
  exact ⟨v, hv, hlength, (resets_complete_iff v.run hdistinct).mp hcomplete⟩

/-- The pair behind a stray event is not reported, and the events of a late initial pair are named twice. -/
theorem stray_event_hides_pair :
    (∃ v ∈ (parseCapture asciiPython strayText).runs, Distinguished v.run.stages ∧
      ¬(validateRun v.run).resetClassification.Complete v.run.stages ∧
      (validateRun v.run).resetClassification.postCtxctlPairs = []) ∧
    ∃ v ∈ (parseCapture asciiPython lateText).runs, Distinguished v.run.stages ∧
      ¬(validateRun v.run).resetClassification.Complete v.run.stages ∧
      (validateRun v.run).resetClassification.places = [2, 3, 2, 3] := by
  constructor
  · decide +kernel
  · decide +kernel

end CmpUnlocker.Stages
