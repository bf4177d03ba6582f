import CmpUnlocker.Stages.Registers
import Mathlib.Data.List.Dedup

/-!
# The accepted sequences

The by-name uniqueness pass, the window of the initial reset, the pairing of the later resets, the set difference and
the order check together accept a language that the source never writes down: without the stages of other names, the
names are `CORE_SEQUENCE` followed by reset pairs, and every mask return is directly followed by a reset return.
-/

namespace CmpUnlocker.Stages

open Keyed (Strict)

def namesOf (stages : List Stage) : List Chars := stages.map (·.name)

def isCore (name : Chars) : Bool := CORE_SEQUENCE.contains name

/-- The stages with a name of `CORE_SEQUENCE`. -/
def coreStages (stages : List Stage) : List Stage := stages.filter fun stage => isCore stage.name

/-- The names of `k` reset pairs. -/
def resetPairs : Nat → List Chars
  | 0 => []
  | k + 1 => maskReturn :: resetReturn :: resetPairs k

/-- The accepted sequences. -/
structure Accepted (stages : List Stage) : Prop where
  core : ∃ k, namesOf (coreStages stages) = CORE_SEQUENCE ++ resetPairs k
  adjacent : ∀ mask ∈ stages, mask.name = maskReturn →
    ∃ reset ∈ stages, reset.name = resetReturn ∧ reset.seq = mask.seq + 1

/-! ### Names -/

private theorem core_nodup : CORE_SEQUENCE.Nodup := by decide

theorem mask_ne_reset : maskReturn ≠ resetReturn := by decide

theorem mem_nonreset (name : Chars) :
    name ∈ NONRESET_SEQUENCE ↔ name ∈ CORE_SEQUENCE ∧ name ≠ maskReturn ∧ name ≠ resetReturn := by
  unfold NONRESET_SEQUENCE
  rw [List.mem_filter]
  simp

theorem mem_named {stages : List Stage} {name : Chars} {stage : Stage} :
    stage ∈ named stages name ↔ stage ∈ stages ∧ stage.name = name := by
  unfold named
  rw [List.mem_filter, beq_iff_eq]

theorem unique_eq_some {stages : List Stage} {name : Chars} {stage : Stage} :
    unique stages name = some stage ↔ named stages name = [stage] := by
  unfold unique
  split
  · rename_i found hfound
    rw [hfound]
    simp
  · rename_i hnot
    constructor
    · intro h
      exact absurd h (by simp)
    · intro h
      exact absurd h (hnot stage)

theorem unique_spec {stages : List Stage} {name : Chars} {stage : Stage} (h : unique stages name = some stage) :
    stage ∈ stages ∧ stage.name = name ∧ ∀ other ∈ stages, other.name = name → other = stage := by
  have hnamed := unique_eq_some.mp h
  have hmem : stage ∈ named stages name := hnamed ▸ List.mem_singleton_self stage
  obtain ⟨hin, hname⟩ := mem_named.mp hmem
  refine ⟨hin, hname, ?_⟩
  intro other hother hon
  have := mem_named.mpr ⟨hother, hon⟩
  rw [hnamed] at this
  exact List.mem_singleton.mp this

theorem nameErrors_eq_nil (stages : List Stage) :
    nameErrors stages = [] ↔ ∀ name ∈ NONRESET_SEQUENCE, ∃ stage, unique stages name = some stage := by
  unfold nameErrors
  rw [List.flatMap_eq_nil_iff]
  constructor
  · intro h name hname
    have hnil := h name hname
    cases hfound : named stages name with
    | nil => rw [hfound] at hnil; exact absurd hnil (by simp)
    | cons first rest =>
      cases rest with
      | nil => exact ⟨first, unique_eq_some.mpr hfound⟩
      | cons second rest => rw [hfound] at hnil; exact absurd hnil (by simp)
  · intro h name hname
    obtain ⟨stage, hstage⟩ := h name hname
    rw [unique_eq_some.mp hstage]

/-! ### Pairing -/

/-- Adjacent pairs of a mask return and a reset return. -/
inductive Paired : List Stage → Prop
  | nil : Paired []
  | cons {mask reset : Stage} {rest : List Stage} : mask.name = maskReturn → reset.name = resetReturn →
      mask.seq + 1 = reset.seq → Paired rest → Paired (mask :: reset :: rest)

/-- The pairing loop leaves nothing exactly when everything is in pairs. -/
theorem pairTrailing_leaves_nil : (stages : List Stage) → ((pairTrailing stages).2 = [] ↔ Paired stages)
  | [] => ⟨fun _ => .nil, fun _ => rfl⟩
  | [stage] => ⟨fun h => absurd h (by simp [pairTrailing]), fun h => nomatch h⟩
  | mask :: reset :: rest => by
    have ih := pairTrailing_leaves_nil rest
    unfold pairTrailing
    split
    · rename_i hpair
      rw [ih]
      constructor
      · intro h
        exact .cons hpair.1 hpair.2.1 hpair.2.2 h
      · intro h
        cases h with
        | cons _ _ _ hrest => exact hrest
    · rename_i hpair
      constructor
      · intro h
        exact absurd h (by simp)
      · intro h
        cases h with
        | cons hm hr hs _ => exact absurd ⟨hm, hr, hs⟩ hpair

theorem Paired.seqs {stages : List Stage} (h : Paired stages) :
    (pairTrailing stages).1.flatMap ResetPair.seqs = seqsOf stages := by
  induction h with
  | nil => rfl
  | cons hm hr hs _ ih =>
    unfold pairTrailing
    rw [if_pos ⟨hm, hr, hs⟩, List.flatMap_cons, ih]
    rfl

theorem Paired.names {stages : List Stage} (h : Paired stages) : ∃ k, namesOf stages = resetPairs k := by
  induction h with
  | nil => exact ⟨0, rfl⟩
  | cons hm hr _ _ ih =>
    obtain ⟨k, hk⟩ := ih
    refine ⟨k + 1, ?_⟩
    unfold namesOf at *
    rw [List.map_cons, List.map_cons, hk, hm, hr]
    rfl

theorem Paired.adjacent {stages : List Stage} (h : Paired stages) {mask : Stage} (hmask : mask ∈ stages)
    (hname : mask.name = maskReturn) : ∃ reset ∈ stages, reset.name = resetReturn ∧ reset.seq = mask.seq + 1 := by
  induction h with
  | nil => exact absurd hmask List.not_mem_nil
  | @cons first second rest _ hr hs _ ih =>
    rcases List.mem_cons.mp hmask with heq | hmask
    · subst heq
      exact ⟨second, by simp, hr, hs.symm⟩
    · rcases List.mem_cons.mp hmask with heq | hmask
      · subst heq
        rw [hr] at hname
        exact absurd hname.symm mask_ne_reset
      · obtain ⟨reset, hreset, hprop⟩ := ih hmask
        exact ⟨reset, by simp [hreset], hprop⟩

private theorem resetPairs_mem {k : Nat} {name : Chars} (h : name ∈ resetPairs k) :
    name = maskReturn ∨ name = resetReturn := by
  induction k with
  | zero => exact absurd h List.not_mem_nil
  | succ k ih =>
    unfold resetPairs at h
    rw [List.mem_cons, List.mem_cons] at h
    rcases h with h | h | h
    · exact Or.inl h
    · exact Or.inr h
    · exact ih h

/-- In a strictly ordered list an element of the next seq is the next element. -/
theorem next_of_succ {before after : List Stage} {a b c : Stage}
    (hs : Strict (·.seq) (before ++ a :: b :: after)) (hc : c ∈ before ++ a :: b :: after) (hseq : c.seq = a.seq + 1) :
    c = b := by
  obtain ⟨-, hrest, hcross⟩ := Keyed.strict_append.mp hs
  obtain ⟨ha, hrest⟩ := List.pairwise_cons.mp hrest
  obtain ⟨hb, -⟩ := List.pairwise_cons.mp hrest
  have hab : a.seq < b.seq := ha b List.mem_cons_self
  rcases List.mem_append.mp hc with hc | hc
  · have : c.seq < a.seq := hcross c hc a List.mem_cons_self
    omega
  · rcases List.mem_cons.mp hc with rfl | hc
    · omega
    · rcases List.mem_cons.mp hc with rfl | hc
      · rfl
      · have : b.seq < c.seq := hb c hc
        omega

/-- Where every mask return is directly followed by a reset return, a tail of pair names is paired. -/
theorem paired_of_names (all : List Stage) (hs : Strict (·.seq) all)
    (hadj : ∀ mask ∈ all, mask.name = maskReturn → ∃ reset ∈ all, reset.name = resetReturn ∧ reset.seq = mask.seq + 1)
    (k : Nat) (before tail : List Stage) (hall : all = before ++ tail) (htail : namesOf tail = resetPairs k) :
    Paired tail := by
  induction k generalizing before tail with
  | zero =>
    have hnil : tail = [] := List.map_eq_nil_iff.mp htail
    rw [hnil]
    exact .nil
  | succ k ih =>
    unfold namesOf resetPairs at htail
    rw [List.map_eq_cons_iff] at htail
    obtain ⟨mask, tail, rfl, hmask, htail⟩ := htail
    rw [List.map_eq_cons_iff] at htail
    obtain ⟨reset, tail, rfl, hreset, htail⟩ := htail
    have hin : mask ∈ all := by simp [hall]
    obtain ⟨other, hother, -, hseq⟩ := hadj mask hin hmask
    have hnext : other = reset := next_of_succ (hall ▸ hs) (hall ▸ hother) hseq
    refine .cons hmask hreset (by rw [← hnext, hseq]) ?_
    apply ih (before ++ [mask, reset]) tail _ htail
    rw [hall]
    simp

/-! ### Resets -/

/-- What a found initial pair says. -/
theorem initialReset_ok {stages : List Stage} {pair : ResetPair} (h : initialReset stages = .ok pair) :
    ∃ low high mask reset, unique stages "post_return".toList = some low ∧
      unique stages "oneinit_entry".toList = some high ∧
      within low.seq high.seq (named stages maskReturn) = [mask] ∧
      within low.seq high.seq (named stages resetReturn) = [reset] ∧
      mask.seq + 1 = reset.seq ∧ pair = { maskSeq := mask.seq, resetSeq := reset.seq } := by
  unfold initialReset at h
  split at h
  · rename_i low high hlow hhigh
    simp only at h
    split at h
    · rename_i mask reset hmask hreset
      by_cases hseq : mask.seq + 1 = reset.seq
      · rw [if_pos hseq] at h
        exact ⟨low, high, mask, reset, hlow, hhigh, hmask, hreset, hseq, (Except.ok.inj h).symm⟩
      · rw [if_neg hseq] at h
        exact absurd h (by simp)
    · exact absurd h (by simp)
  · exact absurd h (by simp)

private theorem mem_within {low high : Int} {stages : List Stage} {stage : Stage} :
    stage ∈ within low high stages ↔ stage ∈ stages ∧ low < stage.seq ∧ stage.seq < high := by
  unfold within
  rw [List.mem_filter]
  simp

/-- The mask returns and reset returns. -/
def resetEvents (stages : List Stage) : List Stage := named stages maskReturn ++ named stages resetReturn

theorem mem_resetEvents {stages : List Stage} {stage : Stage} :
    stage ∈ resetEvents stages ↔ stage ∈ stages ∧ (stage.name = maskReturn ∨ stage.name = resetReturn) := by
  unfold resetEvents
  rw [List.mem_append, mem_named, mem_named, ← and_or_left]

theorem resetEvents_nodup {stages : List Stage} (h : stages.Nodup) : (resetEvents stages).Nodup := by
  unfold resetEvents
  rw [List.nodup_append]
  refine ⟨h.filter _, h.filter _, ?_⟩
  intro a ha b hb hab
  have hma := (mem_named.mp ha).2
  have hrb := (mem_named.mp hb).2
  rw [hab, hrb] at hma
  exact mask_ne_reset hma.symm

theorem trailing_of_unique {stages : List Stage} {last : Stage} (h : unique stages "ctxctl_return".toList = some last) :
    trailing stages = sortBySeq ((resetEvents stages).filter fun stage => last.seq < stage.seq) := by
  unfold trailing
  rw [h]
  rfl

theorem mem_trailing {stages : List Stage} {last : Stage} (h : unique stages "ctxctl_return".toList = some last)
    {stage : Stage} : stage ∈ trailing stages ↔
      stage ∈ stages ∧ (stage.name = maskReturn ∨ stage.name = resetReturn) ∧ last.seq < stage.seq := by
  rw [trailing_of_unique h]
  unfold sortBySeq
  rw [Keyed.mem_sort, List.mem_filter, mem_resetEvents]
  simp [and_assoc]

private theorem trailing_strict {stages : List Stage} (hs : Strict (·.seq) stages) :
    Strict (·.seq) (trailing stages) := by
  have hdiffer : (resetEvents stages).Pairwise fun a b => a.seq ≠ b.seq := by
    apply (resetEvents_nodup hs.nodup).imp_of_mem
    intro a b ha hb hne hseq
    exact hne (hs.inj (mem_resetEvents.mp ha).1 (mem_resetEvents.mp hb).1 hseq)
  cases h : unique stages "ctxctl_return".toList with
  | none =>
    unfold trailing
    rw [h]
    exact List.Pairwise.nil
  | some last =>
    rw [trailing_of_unique h]
    exact Keyed.strict_sort (hdiffer.filter _)

private theorem sortedSet_eq_nil {α : Type} [LinearOrder α] (items : List α) : sortedSet items = [] ↔ items = [] := by
  unfold sortedSet
  rw [← List.length_eq_zero_iff, (Keyed.sort_perm _).length_eq, List.length_eq_zero_iff, List.dedup_eq_nil]

/-- Nothing is left unclassified exactly when the trailing events are in pairs and every other reset event belongs to
the initial pair. -/
theorem unclassified_eq_nil (stages : List Stage) :
    (classifyResets stages).unclassified = [] ↔
      Paired (trailing stages) ∧ ∀ stage ∈ resetEvents stages,
        stage.seq ∈ (initialReset stages).toOption.toList.flatMap ResetPair.seqs ∨
          stage.seq ∈ seqsOf (trailing stages) := by
  unfold classifyResets
  simp only [sortedSet_eq_nil, List.append_eq_nil_iff, pairTrailing_leaves_nil]
  constructor
  · rintro ⟨hpaired, hleft⟩
    refine ⟨hpaired, ?_⟩
    intro stage hstage
    rw [List.filter_eq_nil_iff] at hleft
    have h := hleft stage.seq (List.mem_map_of_mem hstage)
    rw [hpaired.seqs, Bool.not_eq_true, Bool.not_eq_false', List.contains_iff_mem, List.mem_append] at h
    exact h
  · rintro ⟨hpaired, hall⟩
    refine ⟨hpaired, ?_⟩
    rw [List.filter_eq_nil_iff]
    intro seq hseq
    obtain ⟨stage, hstage, rfl⟩ := List.mem_map.mp hseq
    rw [hpaired.seqs, Bool.not_eq_true, Bool.not_eq_false', List.contains_iff_mem, List.mem_append]
    exact hall stage hstage

private theorem resetErrors_eq_nil (stages : List Stage) :
    resetErrors stages = [] ↔
      (∃ pair, initialReset stages = .ok pair) ∧ (classifyResets stages).unclassified = [] := by
  unfold resetErrors
  rw [List.append_eq_nil_iff, reportIf_eq_nil, Bool.not_eq_false', List.isEmpty_iff]
  cases h : initialReset stages with
  | ok pair => simp
  | error problem => simp

/-! ### From no error to an accepted sequence -/

/-- The stages of `actual_core`. -/
def coreFound (stages : List Stage) (mask reset : Stage) : List Stage :=
  NONRESET_SEQUENCE.filterMap (unique stages) ++ [mask, reset]

private theorem uniques_labelled (stages : List Stage) (names : List Chars) :
    (names.filterMap fun name => (unique stages name).map fun stage => (name, stage.seq)) =
      (names.filterMap (unique stages)).map fun stage => (stage.name, stage.seq) := by
  induction names with
  | nil => rfl
  | cons name names ih =>
    cases h : unique stages name with
    | none => simp [h, ih]
    | some stage => simp [h, ih, (unique_spec h).2.1]

private theorem actualCore_eq {stages : List Stage} {mask reset : Stage} (hm : mask.name = maskReturn)
    (hr : reset.name = resetReturn)
    (h : initialReset stages = .ok { maskSeq := mask.seq, resetSeq := reset.seq }) :
    actualCore stages = (coreFound stages mask reset).map fun stage => (stage.name, stage.seq) := by
  unfold actualCore coreFound
  rw [uniques_labelled, h, List.map_append]
  simp [Except.toOption, hm, hr]

private theorem uniques_names {stages : List Stage} (h : nameErrors stages = []) :
    (NONRESET_SEQUENCE.filterMap (unique stages)).map (·.name) = NONRESET_SEQUENCE := by
  have hall := (nameErrors_eq_nil stages).mp h
  generalize NONRESET_SEQUENCE = names at hall
  induction names with
  | nil => rfl
  | cons name names ih =>
    rw [List.forall_mem_cons] at hall
    obtain ⟨⟨stage, hstage⟩, hrest⟩ := hall
    rw [List.filterMap_cons_some hstage, List.map_cons, ih hrest, (unique_spec hstage).2.1]

/-- The sorted names and seqs of stages are those of the sorted stages. -/
theorem names_labelled (stages : List Stage) :
    (Keyed.sort (·.2) (stages.map fun stage => (stage.name, stage.seq))).map (·.1) = namesOf (sortBySeq stages) := by
  have hsort := Keyed.sort_map (fun stage : Stage => (stage.name, stage.seq)) (·.2)
    (fun stage => (rfl : stage.seq = stage.seq)) stages
  rw [hsort, List.map_map]
  rfl

/-- The order check, on the stages it looks at. -/
theorem names_sorted_coreFound {stages : List Stage} {mask reset : Stage} (hn : nameErrors stages = [])
    (ho : orderErrors stages = []) (hm : mask.name = maskReturn) (hr : reset.name = resetReturn)
    (h : initialReset stages = .ok { maskSeq := mask.seq, resetSeq := reset.seq }) :
    namesOf (sortBySeq (coreFound stages mask reset)) = CORE_SEQUENCE := by
  unfold orderErrors at ho
  simp only [actualCore_eq hm hr h, reportIf_eq_nil] at ho
  have hlen : ((coreFound stages mask reset).map fun stage => (stage.name, stage.seq)).length
      = CORE_SEQUENCE.length := by
    have hlength := congrArg List.length (uniques_names hn)
    rw [List.length_map] at hlength
    have hcount : NONRESET_SEQUENCE.length + 2 = CORE_SEQUENCE.length := by decide +kernel
    unfold coreFound
    rw [List.length_map, List.length_append, hlength]
    exact hcount
  rw [Bool.and_eq_false_iff] at ho
  rcases ho with ho | ho
  · exact absurd hlen (by simpa using ho)
  · rwa [bne_eq_false_iff_eq, names_labelled] at ho

private theorem mem_coreFound {stages : List Stage} {mask reset stage : Stage}
    (h : stage ∈ coreFound stages mask reset) :
    unique stages stage.name = some stage ∧ stage.name ∈ NONRESET_SEQUENCE ∨ stage = mask ∨ stage = reset := by
  unfold coreFound at h
  rw [List.mem_append, List.mem_filterMap] at h
  rcases h with ⟨name, hname, hfound⟩ | h
  · left
    have hn := (unique_spec hfound).2.1
    rw [hn]
    exact ⟨hfound, hname⟩
  · right
    simpa using h

private theorem event_core {name : Chars} (h : name = maskReturn ∨ name = resetReturn) : name ∈ CORE_SEQUENCE := by
  rcases h with h | h
  · rw [h]; decide
  · rw [h]; decide

/-- The last of the nine is `ctxctl_return`. -/
theorem last_of_core {nine : List Stage} (hs : Strict (·.seq) nine) (hnine : namesOf nine = CORE_SEQUENCE) :
    ∃ last ∈ nine, last.name = "ctxctl_return".toList ∧ ∀ stage ∈ nine, stage.seq ≤ last.seq := by
  have hsplit : nine.map (·.name) = CORE_SEQUENCE.dropLast ++ ["ctxctl_return".toList] := hnine
  obtain ⟨front, back, rfl, -, hback⟩ := List.map_eq_append_iff.mp hsplit
  obtain ⟨last, nothing, rfl, hlast, hnothing⟩ := List.map_eq_cons_iff.mp hback
  rw [List.map_eq_nil_iff] at hnothing
  subst hnothing
  refine ⟨last, by simp, hlast, ?_⟩
  intro stage hstage
  rcases List.mem_append.mp hstage with hstage | hstage
  · have : stage.seq < last.seq := (Keyed.strict_append.mp hs).2.2 stage hstage last (by simp)
    omega
  · rw [List.mem_singleton.mp hstage]

/-- A sequence without an error is accepted. -/
theorem accepted_of_noErrors {stages : List Stage} (hs : Strict (·.seq) stages) (hn : nameErrors stages = [])
    (hr : resetErrors stages = []) (ho : orderErrors stages = []) : Accepted stages := by
  obtain ⟨⟨pair, hpair⟩, hclass⟩ := (resetErrors_eq_nil stages).mp hr
  obtain ⟨hpaired, hcovered⟩ := (unclassified_eq_nil stages).mp hclass
  obtain ⟨low, high, mask, reset, hlow, hhigh, hmasks, hresets, hnext, rfl⟩ := initialReset_ok hpair
  have hmask : mask ∈ named stages maskReturn :=
    (mem_within.mp (hmasks ▸ List.mem_singleton_self mask)).1
  have hreset : reset ∈ named stages resetReturn :=
    (mem_within.mp (hresets ▸ List.mem_singleton_self reset)).1
  obtain ⟨hmask, hmaskName⟩ := mem_named.mp hmask
  obtain ⟨hreset, hresetName⟩ := mem_named.mp hreset
  obtain ⟨last, hlast⟩ := (nameErrors_eq_nil stages).mp hn "ctxctl_return".toList (by decide)
  -- the nine stages the order check looks at, in the order of their seqs
  have hnames := names_sorted_coreFound hn ho hmaskName hresetName hpair
  have hfound : ∀ stage ∈ sortBySeq (coreFound stages mask reset), stage ∈ stages := by
    intro stage hstage
    rcases mem_coreFound (Keyed.mem_sort.mp hstage) with ⟨hu, -⟩ | rfl | rfl
    · exact (unique_spec hu).1
    · exact hmask
    · exact hreset
  have hstrict : Strict (·.seq) (sortBySeq (coreFound stages mask reset)) := by
    have hnodup : (namesOf (sortBySeq (coreFound stages mask reset))).Nodup := hnames ▸ core_nodup
    have hne : (sortBySeq (coreFound stages mask reset)).Pairwise fun a b => a.name ≠ b.name :=
      List.pairwise_map.mp hnodup
    have hle : (sortBySeq (coreFound stages mask reset)).Pairwise fun a b => a.seq ≤ b.seq := Keyed.sort_ordered _
    apply (hne.and hle).imp_of_mem
    intro a b ha hb hab
    apply lt_of_le_of_ne hab.2
    intro hseq
    exact hab.1 (congrArg Stage.name (hs.inj (hfound a ha) (hfound b hb) hseq))
  -- the last of them is `ctxctl_return`
  have hlastMax : ∀ stage ∈ sortBySeq (coreFound stages mask reset), stage.seq ≤ last.seq := by
    obtain ⟨final, hfinal, hfinalName, hmax⟩ := last_of_core hstrict hnames
    rwa [(unique_spec hlast).2.2 final (hfound final hfinal) hfinalName] at hmax
  -- so the nine and the trailing events are the core stages
  have hcore : coreStages stages = sortBySeq (coreFound stages mask reset) ++ trailing stages := by
    apply (hs.filter _).ext
    · rw [Keyed.strict_append]
      refine ⟨hstrict, trailing_strict hs, ?_⟩
      intro a ha b hb
      exact (hlastMax a ha).trans_lt ((mem_trailing hlast).mp hb).2.2
    · intro stage
      rw [List.mem_filter, List.mem_append]
      constructor
      · rintro ⟨hin, hcoreName⟩
        have hcoreName : stage.name ∈ CORE_SEQUENCE := List.contains_iff_mem.mp hcoreName
        by_cases hevent : stage.name = maskReturn ∨ stage.name = resetReturn
        · rcases hcovered stage (mem_resetEvents.mpr ⟨hin, hevent⟩) with hseq | hseq
          · left
            rw [hpair] at hseq
            have hseq : stage.seq = mask.seq ∨ stage.seq = reset.seq := by
              simpa [Except.toOption, ResetPair.seqs] using hseq
            apply Keyed.mem_sort.mpr
            unfold coreFound
            rcases hseq with hseq | hseq
            · rw [hs.inj hin hmask hseq]
              simp
            · rw [hs.inj hin hreset hseq]
              simp
          · right
            obtain ⟨other, hother, hseq⟩ := List.mem_map.mp hseq
            have hin' := ((mem_trailing hlast).mp hother).1
            rw [← hs.inj hin' hin hseq]
            exact hother
        · left
          rw [not_or] at hevent
          have hnon : stage.name ∈ NONRESET_SEQUENCE := (mem_nonreset _).mpr ⟨hcoreName, hevent⟩
          obtain ⟨only, honly⟩ := (nameErrors_eq_nil stages).mp hn _ hnon
          apply Keyed.mem_sort.mpr
          unfold coreFound
          rw [List.mem_append, List.mem_filterMap]
          left
          refine ⟨stage.name, hnon, ?_⟩
          rw [honly, (unique_spec honly).2.2 stage hin rfl]
      · rintro (hstage | hstage)
        · refine ⟨hfound stage hstage, ?_⟩
          have : stage.name ∈ namesOf (sortBySeq (coreFound stages mask reset)) := List.mem_map_of_mem hstage
          rw [hnames] at this
          exact List.contains_iff_mem.mpr this
        · obtain ⟨hin, hevent, -⟩ := (mem_trailing hlast).mp hstage
          exact ⟨hin, List.contains_iff_mem.mpr (event_core hevent)⟩
  obtain ⟨k, hk⟩ := hpaired.names
  refine ⟨⟨k, ?_⟩, ?_⟩
  · rw [hcore]
    unfold namesOf at *
    rw [List.map_append, hnames, hk]
  · intro other hother hname
    rcases hcovered other (mem_resetEvents.mpr ⟨hother, Or.inl hname⟩) with hseq | hseq
    · rw [hpair] at hseq
      have hseq : other.seq = mask.seq ∨ other.seq = reset.seq := by
        simpa [Except.toOption, ResetPair.seqs] using hseq
      rcases hseq with hseq | hseq
      · exact ⟨reset, hreset, hresetName, by omega⟩
      · rw [hs.inj hother hreset hseq, hresetName] at hname
        exact absurd hname.symm mask_ne_reset
    · obtain ⟨twin, htwin, hseq⟩ := List.mem_map.mp hseq
      have hin := ((mem_trailing hlast).mp htwin).1
      have heq := hs.inj hin hother hseq
      subst heq
      obtain ⟨next, hnext', hprop⟩ := hpaired.adjacent htwin hname
      exact ⟨next, ((mem_trailing hlast).mp hnext').1, hprop⟩

/-! ### From an accepted sequence to no error -/

section

variable {stages nine tail : List Stage} {k : Nat} (hs : Strict (·.seq) stages)
  (hcore : coreStages stages = nine ++ tail) (hnine : namesOf nine = CORE_SEQUENCE)
    (htail : namesOf tail = resetPairs k)

include hcore in
private theorem mem_split {stage : Stage} (hin : stage ∈ stages) (hname : stage.name ∈ CORE_SEQUENCE) :
    stage ∈ nine ∨ stage ∈ tail := by
  have : stage ∈ coreStages stages := List.mem_filter.mpr ⟨hin, List.contains_iff_mem.mpr hname⟩
  rw [hcore] at this
  exact List.mem_append.mp this

include hcore in
private theorem mem_of_split {stage : Stage} (h : stage ∈ nine ∨ stage ∈ tail) : stage ∈ stages := by
  have : stage ∈ coreStages stages := hcore ▸ List.mem_append.mpr h
  exact List.mem_of_mem_filter this

include htail in
private theorem tail_name {stage : Stage} (h : stage ∈ tail) : stage.name = maskReturn ∨ stage.name = resetReturn := by
  apply resetPairs_mem (k := k)
  rw [← htail]
  exact List.mem_map_of_mem h

include hnine in
/-- Among the nine the name determines the stage. -/
theorem nine_inj {a b : Stage} (ha : a ∈ nine) (hb : b ∈ nine) (h : a.name = b.name) : a = b := by
  have hnodup : (nine.map (·.name)).Nodup := by
    have := core_nodup
    rwa [← hnine] at this
  exact List.inj_on_of_nodup_map hnodup ha hb h

include hs hcore hnine htail in
/-- Each of the seven other stages is the only one of its name. -/
theorem unique_of_nine {stage : Stage} (h : stage ∈ nine) (hm : stage.name ≠ maskReturn)
    (hr : stage.name ≠ resetReturn) : unique stages stage.name = some stage := by
  rw [unique_eq_some]
  apply (hs.filter _).ext (List.pairwise_singleton _ _)
  intro other
  rw [List.mem_singleton]
  constructor
  · intro hother
    obtain ⟨hin, hname⟩ := mem_named.mp hother
    have hcoreName : other.name ∈ CORE_SEQUENCE := by
      rw [hname, ← hnine]
      exact List.mem_map_of_mem h
    rcases mem_split hcore hin hcoreName with hmem | hmem
    · exact nine_inj hnine hmem h hname
    · rcases tail_name htail hmem with hevent | hevent
      · exact absurd (hname ▸ hevent) hm
      · exact absurd (hname ▸ hevent) hr
  · rintro rfl
    exact mem_named.mpr ⟨mem_of_split hcore (Or.inl h), rfl⟩

include hs hcore hnine htail in
private theorem nameErrors_of_accepted : nameErrors stages = [] := by
  rw [nameErrors_eq_nil]
  intro name hname
  obtain ⟨hin, hm, hr⟩ := (mem_nonreset name).mp hname
  rw [← hnine] at hin
  obtain ⟨stage, hstage, rfl⟩ := List.mem_map.mp hin
  exact ⟨stage, unique_of_nine hs hcore hnine htail hstage hm hr⟩

include hs hcore hnine in
/-- The events of one name in the initial window are the one among the nine. -/
theorem within_of_accepted {low high event : Stage} (hevent : event ∈ nine) (hlow : low.seq < event.seq)
    (hhigh : event.seq < high.seq) (hbehind : ∀ stage ∈ tail, high.seq < stage.seq) :
    within low.seq high.seq (named stages event.name) = [event] := by
  apply ((hs.filter _).filter _).ext (List.pairwise_singleton _ _)
  intro other
  rw [List.mem_singleton]
  constructor
  · intro hother
    obtain ⟨hother, -, hbelow⟩ := mem_within.mp hother
    obtain ⟨hin, hname⟩ := mem_named.mp hother
    have hcoreName : other.name ∈ CORE_SEQUENCE := by
      rw [hname, ← hnine]
      exact List.mem_map_of_mem hevent
    rcases mem_split hcore hin hcoreName with hmem | hmem
    · exact nine_inj hnine hmem hevent hname
    · have := hbehind other hmem
      omega
  · rintro rfl
    exact mem_within.mpr ⟨mem_named.mpr ⟨mem_of_split hcore (Or.inl hevent), rfl⟩, hlow, hhigh⟩

end

/-- The nine around the initial reset. -/
theorem nine_split {nine : List Stage} (hnine : namesOf nine = CORE_SEQUENCE) :
    ∃ before low mask reset high after, nine = before ++ low :: mask :: reset :: high :: after ∧
      low.name = "post_return".toList ∧ mask.name = maskReturn ∧ reset.name = resetReturn ∧
      high.name = "oneinit_entry".toList := by
  have hsplit : nine.map (·.name) = ["nvidia_baseline".toList, "post_entry".toList] ++
      "post_return".toList :: maskReturn :: resetReturn :: "oneinit_entry".toList ::
        ["oneinit_return".toList, "ctxctl_entry".toList, "ctxctl_return".toList] := hnine
  obtain ⟨before, rest, rfl, -, hrest⟩ := List.map_eq_append_iff.mp hsplit
  obtain ⟨low, rest, rfl, hlow, hrest⟩ := List.map_eq_cons_iff.mp hrest
  obtain ⟨mask, rest, rfl, hmask, hrest⟩ := List.map_eq_cons_iff.mp hrest
  obtain ⟨reset, rest, rfl, hreset, hrest⟩ := List.map_eq_cons_iff.mp hrest
  obtain ⟨high, rest, rfl, hhigh, -⟩ := List.map_eq_cons_iff.mp hrest
  exact ⟨before, low, mask, reset, high, rest, rfl, hlow, hmask, hreset, hhigh⟩

section

variable {stages nine tail : List Stage} {k : Nat} (hs : Strict (·.seq) stages)
  (hcore : coreStages stages = nine ++ tail) (hnine : namesOf nine = CORE_SEQUENCE)
    (htail : namesOf tail = resetPairs k)
  (hadj : ∀ mask ∈ stages, mask.name = maskReturn →
    ∃ reset ∈ stages, reset.name = resetReturn ∧ reset.seq = mask.seq + 1)

include hadj in
/-- The core stages keep the reset return behind a mask return. -/
theorem coreStages_adjacent : ∀ mask ∈ coreStages stages, mask.name = maskReturn →
    ∃ reset ∈ coreStages stages, reset.name = resetReturn ∧ reset.seq = mask.seq + 1 := by
  intro mask hmask hname
  obtain ⟨reset, hreset, hresetName, hseq⟩ := hadj mask (List.mem_of_mem_filter hmask) hname
  refine ⟨reset, List.mem_filter.mpr ⟨hreset, List.contains_iff_mem.mpr ?_⟩, hresetName, hseq⟩
  rw [hresetName]
  decide

include hs hcore hnine htail hadj in
/-- The initial reset is found. -/
theorem initialReset_of_accepted : ∃ mask ∈ nine, ∃ reset ∈ nine, mask.name = maskReturn ∧ reset.name = resetReturn ∧
    initialReset stages = .ok { maskSeq := mask.seq, resetSeq := reset.seq } := by
  have hordered : Strict (·.seq) (nine ++ tail) := hcore ▸ hs.filter _
  obtain ⟨hstrict, -, hcross⟩ := Keyed.strict_append.mp hordered
  obtain ⟨before, low, mask, reset, high, after, hsplit, hlowName, hmaskName, hresetName, hhighName⟩ := nine_split hnine
  have hmem : low ∈ nine ∧ mask ∈ nine ∧ reset ∈ nine ∧ high ∈ nine := by simp [hsplit]
  obtain ⟨hlowIn, hmaskIn, hresetIn, hhighIn⟩ := hmem
  have hlow := unique_of_nine hs hcore hnine htail hlowIn (by rw [hlowName]; decide) (by rw [hlowName]; decide)
  have hhigh := unique_of_nine hs hcore hnine htail hhighIn (by rw [hhighName]; decide) (by rw [hhighName]; decide)
  rw [hlowName] at hlow
  rw [hhighName] at hhigh
  -- the window holds the mask return and the reset return of the nine, in this order
  have horder : low.seq < mask.seq ∧ mask.seq < reset.seq ∧ reset.seq < high.seq := by
    rw [hsplit] at hstrict
    obtain ⟨-, hrest, -⟩ := Keyed.strict_append.mp hstrict
    obtain ⟨hl, hrest⟩ := List.pairwise_cons.mp hrest
    obtain ⟨hm, hrest⟩ := List.pairwise_cons.mp hrest
    obtain ⟨hr, -⟩ := List.pairwise_cons.mp hrest
    exact ⟨hl mask (by simp), hm reset (by simp), hr high (by simp)⟩
  obtain ⟨h1, h2, h3⟩ := horder
  have hmasks := within_of_accepted hs hcore hnine hmaskIn h1 (h2.trans h3) (hcross high hhighIn)
  have hresets := within_of_accepted hs hcore hnine hresetIn (h1.trans h2) h3 (hcross high hhighIn)
  rw [hmaskName] at hmasks
  rw [hresetName] at hresets
  have hnext : mask.seq + 1 = reset.seq := by
    have hmaskCore : mask ∈ coreStages stages := hcore ▸ List.mem_append.mpr (Or.inl hmaskIn)
    obtain ⟨next, hnext, -, hseq⟩ := coreStages_adjacent hadj mask hmaskCore hmaskName
    have hall : nine ++ tail = (before ++ [low]) ++ mask :: reset :: (high :: after ++ tail) := by simp [hsplit]
    rw [hcore, hall] at hnext
    rw [hall] at hordered
    rw [← next_of_succ hordered hnext hseq, hseq]
  refine ⟨mask, hmaskIn, reset, hresetIn, hmaskName, hresetName, ?_⟩
  unfold initialReset
  rw [hlow, hhigh]
  simp only [hmasks, hresets]
  rw [if_pos hnext]

include hs hcore hnine htail in
/-- The trailing events are the stages behind the nine. -/
theorem trailing_of_accepted : trailing stages = tail := by
  have hordered : Strict (·.seq) (nine ++ tail) := hcore ▸ hs.filter _
  obtain ⟨hstrict, htailStrict, hcross⟩ := Keyed.strict_append.mp hordered
  obtain ⟨last, hlastIn, hlastName, hmax⟩ := last_of_core hstrict hnine
  have hlast := unique_of_nine hs hcore hnine htail hlastIn (by rw [hlastName]; decide) (by rw [hlastName]; decide)
  rw [hlastName] at hlast
  apply (trailing_strict hs).ext htailStrict
  intro stage
  rw [mem_trailing hlast]
  constructor
  · rintro ⟨hin, hevent, hseq⟩
    rcases mem_split hcore hin (event_core hevent) with hmem | hmem
    · have := hmax stage hmem
      omega
    · exact hmem
  · intro hmem
    exact ⟨mem_of_split hcore (Or.inr hmem), tail_name htail hmem, hcross last hlastIn stage hmem⟩

include hs hcore hnine htail in
/-- The order check looks at the nine. -/
theorem coreFound_of_accepted {mask reset : Stage} (hmask : mask ∈ nine) (hreset : reset ∈ nine)
    (hm : mask.name = maskReturn) (hr : reset.name = resetReturn) :
    sortBySeq (coreFound stages mask reset) = nine := by
  have hstrict : Strict (·.seq) nine := (Keyed.strict_append.mp (hcore ▸ hs.filter _ : Strict (·.seq) (nine ++ tail))).1
  apply Keyed.sort_eq hstrict
  · have hnames : namesOf (coreFound stages mask reset) = NONRESET_SEQUENCE ++ [maskReturn, resetReturn] := by
      unfold namesOf coreFound
      rw [List.map_append, uniques_names (nameErrors_of_accepted hs hcore hnine htail)]
      simp [hm, hr]
    apply List.Nodup.of_map (·.name)
    show (namesOf (coreFound stages mask reset)).Nodup
    rw [hnames]
    decide
  · intro stage
    constructor
    · intro hstage
      rcases mem_coreFound hstage with ⟨hu, hnon⟩ | rfl | rfl
      · obtain ⟨hcoreName, hnm, hnr⟩ := (mem_nonreset _).mp hnon
        rcases mem_split hcore (unique_spec hu).1 hcoreName with hmem | hmem
        · exact hmem
        · rcases tail_name htail hmem with hname | hname
          · exact absurd hname hnm
          · exact absurd hname hnr
      · exact hmask
      · exact hreset
    · intro hstage
      unfold coreFound
      rw [List.mem_append]
      by_cases hnm : stage.name = maskReturn
      · rw [nine_inj hnine hstage hmask (hnm.trans hm.symm)]
        simp
      · by_cases hnr : stage.name = resetReturn
        · rw [nine_inj hnine hstage hreset (hnr.trans hr.symm)]
          simp
        · left
          have hcoreName : stage.name ∈ CORE_SEQUENCE := hnine ▸ List.mem_map_of_mem hstage
          rw [List.mem_filterMap]
          exact ⟨stage.name, (mem_nonreset _).mpr ⟨hcoreName, hnm, hnr⟩,
            unique_of_nine hs hcore hnine htail hstage hnm hnr⟩

end

/-- An accepted sequence has no error. -/
theorem noErrors_of_accepted {stages : List Stage} (hs : Strict (·.seq) stages) (h : Accepted stages) :
    nameErrors stages = [] ∧ resetErrors stages = [] ∧ orderErrors stages = [] := by
  obtain ⟨⟨k, hk⟩, hadj⟩ := h
  unfold namesOf at hk
  obtain ⟨nine, tail, hcore, hnine, htail⟩ := List.map_eq_append_iff.mp hk
  have hn := nameErrors_of_accepted hs hcore hnine htail
  obtain ⟨mask, hmask, reset, hreset, hm, hr, hinitial⟩ := initialReset_of_accepted hs hcore hnine htail hadj
  have htrailing := trailing_of_accepted hs hcore hnine htail
  have hpaired : Paired tail :=
    paired_of_names (coreStages stages) (hs.filter _) (coreStages_adjacent hadj) k nine tail hcore htail
  refine ⟨hn, ?_, ?_⟩
  · rw [resetErrors_eq_nil, unclassified_eq_nil]
    refine ⟨⟨_, hinitial⟩, by rw [htrailing]; exact hpaired, ?_⟩
    intro stage hstage
    obtain ⟨hin, hevent⟩ := mem_resetEvents.mp hstage
    rw [hinitial, htrailing]
    rcases mem_split hcore hin (event_core hevent) with hmem | hmem
    · left
      rcases hevent with hevent | hevent
      · rw [nine_inj hnine hmem hmask (hevent.trans hm.symm)]
        simp [Except.toOption, ResetPair.seqs]
      · rw [nine_inj hnine hmem hreset (hevent.trans hr.symm)]
        simp [Except.toOption, ResetPair.seqs]
    · right
      exact List.mem_map_of_mem hmem
  · unfold orderErrors
    rw [actualCore_eq hm hr hinitial, reportIf_eq_nil, Bool.and_eq_false_iff]
    right
    rw [names_labelled, coreFound_of_accepted hs hcore hnine htail hmask hreset hm hr, bne_eq_false_iff_eq]
    exact hnine

/-- The checks of the sequence report nothing exactly for the accepted sequences. -/
theorem sequence_noErrors_iff {stages : List Stage} (hs : Strict (·.seq) stages) :
    (nameErrors stages = [] ∧ resetErrors stages = [] ∧ orderErrors stages = []) ↔ Accepted stages := by
  constructor
  · rintro ⟨hn, hr, ho⟩
    exact accepted_of_noErrors hs hn hr ho
  · exact noErrors_of_accepted hs

end CmpUnlocker.Stages
