import CmpUnlocker.Stages.Foreign

/-!
# Observed changes of the masks

`_mask_observations` compares neighbours and skips what is missing.  In a valid run every stage reports every mask
register once, so the comparison of neighbours finds every change between any two stages.
-/

namespace CmpUnlocker.Stages

open Keyed (Strict)

/-! ### Neighbours in a list -/

/-- A function with different values at two positions of a list has different values at two neighbours in between. -/
theorem exists_change {α β : Type} (f : α → β) (l : List α) {i : Nat} :
    ∀ {j : Nat} (hij : i ≤ j) (hj : j < l.length), f l[i] ≠ f l[j] →
      ∃ k, ∃ hk : k + 1 < l.length, i ≤ k ∧ k + 1 ≤ j ∧ f l[k] ≠ f l[k + 1] := by
  intro j
  induction j with
  | zero =>
    intro hij hj h
    have hi : i = 0 := by omega
    subst hi
    exact absurd rfl h
  | succ j ih =>
    intro hij hj h
    by_cases hlast : i = j + 1
    · subst hlast
      exact absurd rfl h
    · by_cases hne : f l[i] = f l[j]
      · rw [hne] at h
        exact ⟨j, hj, by omega, le_rfl, h⟩
      · obtain ⟨k, hk, hik, hkj, hchange⟩ := ih (by omega) (by omega) hne
        exact ⟨k, hk, hik, by omega, hchange⟩

private theorem mem_zip_tail {α : Type} {l : List α} {a b : α} :
    (a, b) ∈ l.zip l.tail ↔ ∃ k, ∃ hk : k + 1 < l.length, l[k] = a ∧ l[k + 1] = b := by
  rw [List.mem_iff_getElem]
  constructor
  · rintro ⟨k, hk, h⟩
    rw [List.length_zip, List.length_tail] at hk
    rw [List.getElem_zip, Prod.mk.injEq, List.getElem_tail] at h
    exact ⟨k, by omega, h.1, h.2⟩
  · rintro ⟨k, hk, rfl, rfl⟩
    refine ⟨k, ?_, ?_⟩
    · rw [List.length_zip, List.length_tail]
      omega
    · rw [List.getElem_zip, List.getElem_tail]

/-! ### Families -/

/-- The families of mask registers. -/
inductive Family
  | raw
  | ctrl
  | status
  deriving DecidableEq

namespace Family

/-- The registers of a family, by slot. -/
def regs : Family → List Nat
  | raw => RAW_REGS
  | ctrl => CTRL_REGS
  | status => STATUS_REGS

/-- What an observation has for a family. -/
def observed (o : Observation) : Family → List (Option Nat)
  | raw => o.raw
  | ctrl => o.ctrl
  | status => o.status

/-- The slots a transition lists for a family. -/
def changed (c : ChangedSlots) : Family → List Nat
  | raw => c.raw
  | ctrl => c.ctrl
  | status => c.status

theorem physical (family : Family) : ∀ reg ∈ family.regs, reg ∈ PHYSICAL_REGS := by
  cases family
  · decide
  · decide
  · decide

private theorem observed_observe (family : Family) (stage : Stage) :
    family.observed (observe stage) = family.regs.map (valueMap stage).get := by
  cases family <;> rfl

private theorem changed_transition (family : Family) (before after : Observation) :
    family.changed (transition before after).changedSlots =
      Stages.changedSlots (family.observed before) (family.observed after) := by
  cases family <;> rfl

end Family

/-- A stage without a second value for a register reports one value for each. -/
theorem value_unique {stage : Stage} (h : stage.Distinct) {reg x y : Nat} (hx : stage.Reports reg x)
    (hy : stage.Reports reg y) : x = y := by
  have hget := (get_valueMap h reg x).mpr hx
  rw [(get_valueMap h reg y).mpr hy, Option.some.injEq] at hget
  exact hget.symm

/-- A transition is marked as changed when it lists a slot under some family. -/
theorem changed_iff (before after : Observation) :
    (transition before after).changed = true ↔
      ∃ family : Family, ∃ slot, slot ∈ family.changed (transition before after).changedSlots := by
  have hlists : (transition before after).changed = true ↔
      ∃ family : Family, family.changed (transition before after).changedSlots ≠ [] := by
    constructor
    · intro h
      simp only [transition, Bool.or_eq_true, Bool.not_eq_true', List.isEmpty_eq_false_iff] at h
      rcases h with (h | h) | h
      · exact ⟨.raw, h⟩
      · exact ⟨.ctrl, h⟩
      · exact ⟨.status, h⟩
    · rintro ⟨family, h⟩
      simp only [transition, Bool.or_eq_true, Bool.not_eq_true', List.isEmpty_eq_false_iff]
      cases family with
      | raw => exact .inl (.inl h)
      | ctrl => exact .inl (.inr h)
      | status => exact .inr h
  rw [hlists]
  constructor
  · rintro ⟨family, h⟩
    exact ⟨family, List.exists_mem_of_ne_nil _ h⟩
  · rintro ⟨family, slot, h⟩
    exact ⟨family, List.ne_nil_of_mem h⟩

/-- A slot is listed when both values are there and differ. -/
theorem mem_changedSlots {before after : List (Option Nat)} {slot : Nat} :
    slot ∈ changedSlots before after ↔
      ∃ x y, before[slot]? = some (some x) ∧ after[slot]? = some (some y) ∧ x ≠ y := by
  unfold changedSlots
  simp only [List.mem_map, List.mem_filter, List.mem_zipIdx_iff_getElem?, Prod.exists]
  constructor
  · rintro ⟨x, y, _, ⟨hget, hdiffer⟩, rfl⟩
    rw [List.getElem?_zip_eq_some] at hget
    cases x with
    | none => simp at hdiffer
    | some x =>
      cases y with
      | none => simp at hdiffer
      | some y => exact ⟨x, y, hget.1, hget.2, by simpa using hdiffer⟩
  · rintro ⟨x, y, hx, hy, hne⟩
    exact ⟨some x, some y, slot, ⟨List.getElem?_zip_eq_some.mpr ⟨hx, hy⟩, by simpa using hne⟩, rfl⟩

/-! ### Two neighbours -/

/-- Between two sound stages a slot is listed exactly when its register differs. -/
theorem listed_iff {before after : Stage} (hb : before.Distinct) (ha : after.Distinct) (family : Family) (slot : Nat) :
    slot ∈ family.changed (transition (observe before) (observe after)).changedSlots ↔
      ∃ reg x y, family.regs[slot]? = some reg ∧ before.Reports reg x ∧ after.Reports reg y ∧ x ≠ y := by
  rw [family.changed_transition, mem_changedSlots, family.observed_observe, family.observed_observe]
  simp only [List.getElem?_map, Option.map_eq_some_iff]
  constructor
  · rintro ⟨x, y, ⟨reg, hreg, hx⟩, ⟨reg', hreg', hy⟩, hne⟩
    rw [hreg, Option.some.injEq] at hreg'
    subst hreg'
    exact ⟨reg, x, y, hreg, (get_valueMap hb reg x).mp hx, (get_valueMap ha reg y).mp hy, hne⟩
  · rintro ⟨reg, x, y, hreg, hx, hy, hne⟩
    exact ⟨x, y, ⟨reg, hreg, (get_valueMap hb reg x).mpr hx⟩, ⟨reg, hreg, (get_valueMap ha reg y).mpr hy⟩, hne⟩

/-! ### All stages -/

section

variable {stages : List Stage} (hs : Strict (·.seq) stages)
include hs

/-- In order, the transitions are those between the neighbours. -/
theorem mem_transitions {t : Transition} :
    t ∈ (maskObservations stages).transitions ↔
      ∃ k, ∃ hk : k + 1 < stages.length, t = transition (observe stages[k]) (observe stages[k + 1]) := by
  have hsort : sortBySeq stages = stages := Keyed.sort_eq hs hs.nodup fun _ => Iff.rfl
  unfold maskObservations
  simp only [hsort, List.mem_map, Prod.exists, mem_zip_tail]
  constructor
  · rintro ⟨before, after, ⟨k, hk, rfl, rfl⟩, rfl⟩
    rw [List.length_map] at hk
    exact ⟨k, hk, by simp⟩
  · rintro ⟨k, hk, rfl⟩
    exact ⟨_, _, ⟨k, by simpa using hk, rfl, rfl⟩, by simp⟩

variable (hsound : ∀ stage ∈ stages, stage.Sound)
include hsound

/-- A register of a family that differs in two stages changes between two neighbours in between. -/
theorem change_listed {family : Family} {slot reg : Nat} (hreg : family.regs[slot]? = some reg) {a b : Stage}
    (ha : a ∈ stages) (hb : b ∈ stages) (hab : a.seq < b.seq) {x y : Nat} (hx : a.Reports reg x)
    (hy : b.Reports reg y) (hne : x ≠ y) :
    ∃ t ∈ (maskObservations stages).transitions,
      a.seq ≤ t.fromSeq ∧ t.toSeq ≤ b.seq ∧ slot ∈ family.changed t.changedSlots := by
  obtain ⟨i, hi, rfl⟩ := List.mem_iff_getElem.mp ha
  obtain ⟨j, hj, rfl⟩ := List.mem_iff_getElem.mp hb
  have hmono : ∀ {k l : Nat} (hkl : k ≤ l) (hl : l < stages.length), stages[k].seq ≤ stages[l].seq := by
    intro k l hkl hl
    rcases Nat.lt_or_eq_of_le hkl with hlt | rfl
    · exact (List.pairwise_iff_getElem.mp hs k l (by omega) hl hlt).le
    · exact le_rfl
  have hij : i ≤ j := by
    by_contra hji
    have := hmono (Nat.le_of_lt (not_le.mp hji)) hi
    omega
  have hvalues : (valueMap stages[i]).get reg ≠ (valueMap stages[j]).get reg := by
    rw [(get_valueMap (hsound _ ha).distinct reg x).mpr hx, (get_valueMap (hsound _ hb).distinct reg y).mpr hy]
    simpa using hne
  -- the first neighbours with different values; both report the register, as all stages do
  obtain ⟨k, hk, hik, hkj, hchange⟩ :=
    exists_change (fun stage : Stage => (valueMap stage).get reg) stages hij hj hvalues
  have hsk := hsound stages[k] (List.getElem_mem _)
  have hsk' := hsound stages[k + 1] (List.getElem_mem _)
  have hphysical := family.physical reg (List.mem_of_getElem? hreg)
  obtain ⟨before, hbefore, hbreg⟩ := hsk.physical reg hphysical
  obtain ⟨after, hafter, hareg⟩ := hsk'.physical reg hphysical
  have hx' : stages[k].Reports reg before.value := ⟨before, hbefore, hbreg, rfl⟩
  have hy' : stages[k + 1].Reports reg after.value := ⟨after, hafter, hareg, rfl⟩
  refine ⟨_, (mem_transitions hs).mpr ⟨k, hk, rfl⟩, hmono hik (by omega), hmono hkj hj, ?_⟩
  refine (listed_iff hsk.distinct hsk'.distinct family slot).mpr ⟨reg, _, _, hreg, hx', hy', ?_⟩
  rw [(get_valueMap hsk.distinct reg _).mpr hx', (get_valueMap hsk'.distinct reg _).mpr hy'] at hchange
  simpa using hchange

/-- There is no observed change exactly when every register of the families has one value. -/
theorem anyObservedChange_eq_false (hne : stages ≠ []) :
    (maskObservations stages).anyObservedChange = false ↔
      ∀ family : Family, ∀ reg ∈ family.regs, ∃ value, ∀ stage ∈ stages, stage.Reports reg value := by
  have hany : (maskObservations stages).anyObservedChange =
      (maskObservations stages).transitions.any (·.changed) := rfl
  rw [hany, List.any_eq_false]
  constructor
  · intro hnone family reg hreg
    obtain ⟨slot, hslot⟩ := List.mem_iff_getElem?.mp hreg
    obtain ⟨first, hfirst⟩ := List.exists_mem_of_ne_nil stages hne
    obtain ⟨item, hitem, hitemReg⟩ := (hsound first hfirst).physical reg (family.physical reg hreg)
    have hvalue : first.Reports reg item.value := ⟨item, hitem, hitemReg, rfl⟩
    refine ⟨item.value, fun stage hstage => ?_⟩
    obtain ⟨other, hother, hotherReg⟩ := (hsound stage hstage).physical reg (family.physical reg hreg)
    have hvalue' : stage.Reports reg other.value := ⟨other, hother, hotherReg, rfl⟩
    by_cases hsame : item.value = other.value
    · rw [hsame]
      exact hvalue'
    · have hlisted : ∃ t ∈ (maskObservations stages).transitions, slot ∈ family.changed t.changedSlots := by
        -- which of the two stages comes first is not said
        rcases lt_trichotomy first.seq stage.seq with hlt | heq | hgt
        · obtain ⟨t, ht, -, -, hin⟩ := change_listed hs hsound hslot hfirst hstage hlt hvalue hvalue' hsame
          exact ⟨t, ht, hin⟩
        · obtain rfl := hs.inj hfirst hstage heq
          exact absurd (value_unique (hsound first hfirst).distinct hvalue hvalue') hsame
        · obtain ⟨t, ht, -, -, hin⟩ :=
            change_listed hs hsound hslot hstage hfirst hgt hvalue' hvalue (Ne.symm hsame)
          exact ⟨t, ht, hin⟩
      obtain ⟨t, ht, hin⟩ := hlisted
      obtain ⟨k, hk, rfl⟩ := (mem_transitions hs).mp ht
      exact absurd ((changed_iff _ _).mpr ⟨family, slot, hin⟩) (hnone _ ht)
  · intro hsame t ht hchanged
    obtain ⟨k, hk, rfl⟩ := (mem_transitions hs).mp ht
    obtain ⟨family, slot, hin⟩ := (changed_iff _ _).mp hchanged
    have hd := (hsound stages[k] (List.getElem_mem _)).distinct
    have hd' := (hsound stages[k + 1] (List.getElem_mem _)).distinct
    obtain ⟨reg, x, y, hreg, hx, hy, hne'⟩ := (listed_iff hd hd' family slot).mp hin
    obtain ⟨value, hall⟩ := hsame family reg (List.mem_of_getElem? hreg)
    have hxv := value_unique hd hx (hall _ (List.getElem_mem _))
    have hyv := value_unique hd' hy (hall _ (List.getElem_mem _))
    exact hne' (hxv.trans hyv.symm)

end

/-! ### Valid runs -/

theorem Admitted.nonempty {run : Run} (h : Admitted run) : run.stages ≠ [] := by
  obtain ⟨k, hk⟩ := h.accepted.core
  intro hnil
  rw [hnil] at hk
  exact absurd hk (by simp [namesOf, coreStages, CORE_SEQUENCE])

/-- In a valid run `any_observed_change` is false exactly when each mask register has the same value in all stages, and
between two stages with different values of a slot some transition lists the slot. -/
theorem changes_all_observed (py : Python) (text : Chars) {v : Verdict} (hv : v ∈ (parseCapture py text).runs)
    (hvalid : v.valid = true) :
    (v.maskComparison.anyObservedChange = false ↔
      ∀ family : Family, ∀ reg ∈ family.regs, ∃ value, ∀ stage ∈ v.run.stages, stage.Reports reg value) ∧
    ∀ (family : Family) (slot reg : Nat), family.regs[slot]? = some reg →
      ∀ a ∈ v.run.stages, ∀ b ∈ v.run.stages, a.seq < b.seq →
        ∀ x y, a.Reports reg x → b.Reports reg y → x ≠ y →
          ∃ t ∈ v.maskComparison.transitions,
            a.seq ≤ t.fromSeq ∧ t.toSeq ≤ b.seq ∧ slot ∈ family.changed t.changedSlots := by
  obtain ⟨segment, hsegment, hread⟩ := mem_runs_read hv
  obtain ⟨-, hverdict, -⟩ := frame_of_read hsegment hread
  rw [hverdict, valid_iff] at hvalid
  have hcomparison : v.maskComparison = maskObservations v.run.stages := by
    rw [hverdict]
    rfl
  have hs := strict_of_contiguous hvalid.seqs
  rw [hcomparison]
  refine ⟨anyObservedChange_eq_false hs hvalid.sound hvalid.nonempty, ?_⟩
  intro family slot reg hreg a ha b hb hab x y hx hy hne
  exact change_listed hs hvalid.sound hreg ha hb hab hx hy hne

private theorem exists_of_hasValue {run : Run} {seq : Int} {reg value : Nat} (h : hasValue run seq reg value = true) :
    ∃ stage ∈ run.stages, stage.seq = seq ∧ stage.Reports reg value := by
  simp only [hasValue, List.any_eq_true, Bool.and_eq_true, beq_iff_eq] at h
  obtain ⟨stage, hstage, hseq, item, hitem, hreg, hvalue⟩ := h
  exact ⟨stage, hstage, hseq, item, hitem, hreg, hvalue⟩

/-- In the capture of the nine stages a transition from the fourth to the fifth lists the raw mask of slot 2. -/
theorem changes_all_observed_coreCapture : ∃ v ∈ (parseCapture asciiPython coreCapture).runs,
    v.maskComparison.anyObservedChange = true ∧
      ∃ t ∈ v.maskComparison.transitions, 3 ≤ t.fromSeq ∧ t.toSeq ≤ 4 ∧ 2 ∈ t.changedSlots.raw := by
  obtain ⟨v, hv, hvalid, -, hfourth, hfifth⟩ := coreCapture_run
  obtain ⟨a, ha, haseq, hx⟩ := exists_of_hasValue hfourth
  obtain ⟨b, hb, hbseq, hy⟩ := exists_of_hasValue hfifth
  obtain ⟨hiff, hlisted⟩ := changes_all_observed asciiPython coreCapture hv hvalid
  obtain ⟨t, ht, hfrom, hto, hslot⟩ :=
    hlisted .raw 2 0x21768 rfl a ha b hb (by omega) 1 2 hx hy (by decide)
  rw [haseq] at hfrom
  rw [hbseq] at hto
  refine ⟨v, hv, ?_, t, ht, hfrom, hto, hslot⟩
  rw [← Bool.not_eq_false, hiff]
  intro hsame
  obtain ⟨value, hall⟩ := hsame .raw 0x21768 (by decide)
  have hdistinct : ∀ stage ∈ v.run.stages, stage.Distinct := by
    obtain ⟨segment, hsegment, hread⟩ := mem_runs_read hv
    obtain ⟨-, hverdict, -⟩ := frame_of_read hsegment hread
    rw [hverdict, valid_iff] at hvalid
    exact fun stage hstage => (hvalid.sound stage hstage).distinct
  -- one value in all stages would be 1 and 2
  have hone := value_unique (hdistinct a ha) hx (hall a ha)
  have htwo := value_unique (hdistinct b hb) hy (hall b hb)
  omega

end CmpUnlocker.Stages
