import CmpUnlocker.Gpumon.Report

/-!
# Which GPU a report device is given to

The report device `k` is `Named` after the GPU `i` if it carries its PCI address and no other GPU has it, and it is
`Numbered` for it if it has no bus ID and its CUDA ordinal stands for it.  On a host with several GPUs these are the two
ways to get an entry (`valid_iff`).
-/

namespace CmpUnlocker.Gpumon

variable {ν : Type} (J : JsonC ν)

/-! ### Places -/

/-- The address that a report device carries. -/
def addressOf (device : Json ν) : Option PciAddress :=
  if device.isObject then parsePciBusId (busIdText J device) else none

/-- The report device `k` carries the address of the GPU `i`. -/
def Carries (gpu : List GpuStats) (devices : List (Json ν)) (k i : ℕ) : Prop :=
  ∃ device g address, devices[k]? = some device ∧ gpu[i]? = some g ∧ addressOf J device = some address ∧
    g.address = some address

/-- No other GPU has the address of the GPU `i`. -/
def Unique (gpu : List GpuStats) (i : ℕ) : Prop :=
  ∀ g, gpu[i]? = some g → ∀ j g', gpu[j]? = some g' → g'.address = g.address → j = i

def Named (gpu : List GpuStats) (devices : List (Json ν)) (k i : ℕ) : Prop :=
  Carries J gpu devices k i ∧ Unique gpu i

/-- The report device `k` has no bus ID, all ordinals are known, and its ordinal is that of the GPU `i`. -/
def Numbered (gpu : List GpuStats) (ordinalMap : List ℕ) (devices : List (Json ν)) (k i : ℕ) : Prop :=
  ∃ device, devices[k]? = some device ∧ device.isObject ∧ busIdText J device = [] ∧
    (ordinalMap.length : ℤ) = CText.toInt devices.length ∧ i < gpu.length ∧ 0 ≤ ordinalOf J k device ∧
    ordinalMap[(ordinalOf J k device).toNat]? = some i

/-! ### Finding a GPU -/

private theorem nvmlIndexFrom_some {address : PciAddress} {i k m : ℕ} {gpu : List GpuStats} :
    nvmlIndexFrom address i (some k) gpu = some m ↔ m = k ∧ ∀ g ∈ gpu, g.address ≠ some address := by
  induction gpu generalizing i with
  | nil => simp [nvmlIndexFrom, eq_comm]
  | cons g gpu ih =>
    by_cases hg : g.address = some address
    · simp [nvmlIndexFrom, hg]
    · simp [nvmlIndexFrom, hg, ih]

private theorem nvmlIndexFrom_none {address : PciAddress} {i m : ℕ} {gpu : List GpuStats} :
    nvmlIndexFrom address i none gpu = some m ↔ ∃ k g, m = i + k ∧ gpu[k]? = some g ∧ g.address = some address ∧
      ∀ j g', gpu[j]? = some g' → g'.address = some address → j = k := by
  induction gpu generalizing i with
  | nil => simp [nvmlIndexFrom]
  | cons g gpu ih =>
    by_cases hg : g.address = some address
    · have hstep : nvmlIndexFrom address i none (g :: gpu) = nvmlIndexFrom address (i + 1) (some i) gpu := by
        simp [nvmlIndexFrom, hg]
      rw [hstep, nvmlIndexFrom_some]
      constructor
      · rintro ⟨rfl, hnone⟩
        refine ⟨0, g, rfl, rfl, hg, ?_⟩
        intro j g' hj hg'
        cases j with
        | zero => rfl
        | succ j => exact absurd hg' (hnone g' (List.mem_of_getElem? hj))
      · rintro ⟨k, g', rfl, -, -, honly⟩
        have hk : 0 = k := honly 0 g rfl hg
        subst hk
        refine ⟨rfl, fun g' hmem hg' => ?_⟩
        obtain ⟨j, hj⟩ := List.mem_iff_getElem?.1 hmem
        have hzero := honly (j + 1) g' hj hg'
        omega
    · have hstep : nvmlIndexFrom address i none (g :: gpu) = nvmlIndexFrom address (i + 1) none gpu := by
        simp [nvmlIndexFrom, hg]
      rw [hstep, ih]
      constructor
      · rintro ⟨k, g', rfl, hk, hg', honly⟩
        refine ⟨k + 1, g', by omega, hk, hg', ?_⟩
        intro j g'' hj hg''
        cases j with
        | zero =>
          obtain rfl : g = g'' := by simpa using hj
          exact absurd hg'' hg
        | succ j => rw [honly j g'' hj hg'']
      · rintro ⟨k, g', rfl, hk, hg', honly⟩
        cases k with
        | zero =>
          obtain rfl : g = g' := by simpa using hk
          exact absurd hg' hg
        | succ k =>
          refine ⟨k, g', by omega, hk, hg', ?_⟩
          intro j g'' hj hg''
          have hsucc := honly (j + 1) g'' hj hg''
          omega

/-- The GPU found is the only one with the address. -/
theorem nvmlIndexForPciBusId_eq_some {gpu : List GpuStats} {text : List Char} {i : ℕ} :
    nvmlIndexForPciBusId gpu text = some i ↔
      ∃ address g, parsePciBusId text = some address ∧ gpu[i]? = some g ∧ g.address = some address ∧ Unique gpu i := by
  unfold nvmlIndexForPciBusId
  rw [Option.bind_eq_some_iff]
  constructor
  · rintro ⟨address, hparse, hfound⟩
    obtain ⟨k, g, hik, hk, hg, honly⟩ := nvmlIndexFrom_none.1 hfound
    obtain rfl : i = k := by omega
    refine ⟨address, g, hparse, hk, hg, ?_⟩
    intro g₁ h₁ j g' hj hsame
    rw [hk] at h₁
    cases h₁
    exact honly j g' hj (hsame.trans hg)
  · rintro ⟨address, g, hparse, hi, hg, hunique⟩
    refine ⟨address, hparse, nvmlIndexFrom_none.2 ⟨i, g, by omega, hi, hg, ?_⟩⟩
    exact fun j g' hj hg' => hunique g hi j g' hj (hg'.trans hg.symm)

/-! ### Placements -/

section

variable {J : JsonC ν} {gpu : List GpuStats} {ordinalMap : List ℕ} {devices : List (Json ν)} {k i : ℕ} {device : Json ν}

private theorem named_iff (hdevice : devices[k]? = some device) (hobject : device.isObject = true) :
    Named J gpu devices k i ↔ nvmlIndexForPciBusId gpu (busIdText J device) = some i := by
  rw [nvmlIndexForPciBusId_eq_some]
  constructor
  · rintro ⟨⟨device', g, address, hdevice', hi, haddress, hg⟩, hunique⟩
    obtain rfl : device = device' := Option.some_injective _ (hdevice.symm.trans hdevice')
    rw [addressOf, if_pos hobject] at haddress
    exact ⟨address, g, haddress, hi, hg, hunique⟩
  · rintro ⟨address, g, haddress, hi, hg, hunique⟩
    exact ⟨⟨device, g, address, hdevice, hi, by rw [addressOf, if_pos hobject, haddress], hg⟩, hunique⟩

private theorem numbered_iff (hdevice : devices[k]? = some device) (hobject : device.isObject = true) :
    Numbered J gpu ordinalMap devices k i ↔ busIdText J device = [] ∧
      (ordinalMap.length : ℤ) = CText.toInt devices.length ∧ i < gpu.length ∧ 0 ≤ ordinalOf J k device ∧
      ordinalMap[(ordinalOf J k device).toNat]? = some i := by
  constructor
  · rintro ⟨device', hdevice', -, hrest⟩
    obtain rfl : device = device' := Option.some_injective _ (hdevice.symm.trans hdevice')
    exact hrest
  · exact fun hrest => ⟨device, hdevice, hobject, hrest⟩

/-- A bus ID is the only way to be placed for a report device that has one. -/
theorem placed_by_busId {count : ℕ} (hne : busIdText J device ≠ []) :
    (∃ source, placement J gpu ordinalMap count k device = some (i, source)) ↔
      nvmlIndexForPciBusId gpu (busIdText J device) = some i := by
  have hordinal : ¬(busIdText J device = [] ∧ (ordinalMap.length : ℤ) = CText.toInt count ∧
      0 ≤ ordinalOf J k device ∧ ordinalOf J k device < ordinalMap.length) := fun h => hne h.1
  have hsingle : ¬(gpu.length = 1 ∧ count = 1 ∧ busIdText J device = []) := fun h => hne h.2.2
  simp only [placement, if_neg hsingle, if_neg hordinal, Option.or_none, Option.filter_eq_some_iff,
    Option.map_eq_some_iff, decide_eq_true_eq]
  constructor
  · rintro ⟨source, ⟨index, hindex, hpair⟩, -⟩
    cases hpair
    exact hindex
  · intro hfound
    obtain ⟨-, g, -, hi, -⟩ := nvmlIndexForPciBusId_eq_some.1 hfound
    exact ⟨_, ⟨i, hfound, rfl⟩, (List.getElem?_eq_some_iff.1 hi).1⟩

/-- A report device is given to a GPU by its bus ID or by its ordinal. -/
theorem placed_iff (hmany : 2 ≤ gpu.length) (hdevice : devices[k]? = some device) (hobject : device.isObject = true) :
    (∃ source, placement J gpu ordinalMap devices.length k device = some (i, source)) ↔
      Named J gpu devices k i ∨ Numbered J gpu ordinalMap devices k i := by
  have hsingle : ¬(gpu.length = 1 ∧ devices.length = 1 ∧ busIdText J device = []) := by omega
  rw [named_iff hdevice hobject, numbered_iff hdevice hobject]
  simp only [placement, if_neg hsingle, Option.or_none, Option.filter_eq_some_iff, Option.or_eq_some_iff,
    Option.map_eq_some_iff, Option.map_eq_none_iff, decide_eq_true_eq]
  constructor
  · rintro ⟨source, hfound | ⟨-, hfound⟩, hlt⟩
    · obtain ⟨index, hindex, hpair⟩ := hfound
      cases hpair
      exact .inl hindex
    · by_cases hcount : busIdText J device = [] ∧ (ordinalMap.length : ℤ) = CText.toInt devices.length ∧
          0 ≤ ordinalOf J k device ∧ ordinalOf J k device < ordinalMap.length
      · rw [if_pos hcount] at hfound
        obtain ⟨index, hindex, hpair⟩ := Option.map_eq_some_iff.1 hfound
        cases hpair
        exact .inr ⟨hcount.1, hcount.2.1, hlt, hcount.2.2.1, hindex⟩
      · rw [if_neg hcount] at hfound
        cases hfound
  · rintro (hfound | ⟨hnil, hlength, hlt, hpos, hindex⟩)
    · obtain ⟨-, g, -, hi, -⟩ := nvmlIndexForPciBusId_eq_some.1 hfound
      exact ⟨_, .inl ⟨i, hfound, rfl⟩, (List.getElem?_eq_some_iff.1 hi).1⟩
    · have hmap := (List.getElem?_eq_some_iff.1 hindex).1
      have hcount : ordinalOf J k device < ordinalMap.length := by omega
      have hnone : nvmlIndexForPciBusId gpu (busIdText J device) = none := by
        rw [hnil]
        rfl
      rw [if_pos ⟨hnil, hlength, hpos, hcount⟩]
      exact ⟨_, .inr ⟨hnone, Option.map_eq_some_iff.2 ⟨i, hindex, rfl⟩⟩, hlt⟩

/-! ### The entry of one GPU -/

variable {count g : ℕ}

/-- What a pass of the device loop does to the entry of the GPU `g`. -/
def entryStep (J : JsonC ν) (gpu : List GpuStats) (ordinalMap : List ℕ) (count g i : ℕ) (device : Json ν)
    (c : CuptiStats ν) : CuptiStats ν :=
  match placement J gpu ordinalMap count i device with
  | some (index, source) =>
    if device.isObject ∧ index = g then contribute J (gpu.getD index ⟨[]⟩) source device c else c
  | none => c

def entryLoop (J : JsonC ν) (gpu : List GpuStats) (ordinalMap : List ℕ) (count g i : ℕ) :
    List (Json ν) → CuptiStats ν → CuptiStats ν
  | [], c => c
  | device :: devices, c =>
    entryLoop J gpu ordinalMap count g (i + 1) devices (entryStep J gpu ordinalMap count g i device c)

private theorem deviceStep_getElem? (entries : List (CuptiStats ν)) :
    (deviceStep J gpu ordinalMap count i device entries)[g]? =
      entries[g]?.map (entryStep J gpu ordinalMap count g i device) := by
  unfold deviceStep entryStep
  by_cases hobject : device.isObject = true
  · cases placement J gpu ordinalMap count i device with
    | none => simp
    | some found =>
      by_cases hg : found.1 = g
      · simp [hobject, hg]
      · simp [hobject, hg]
  · cases placement J gpu ordinalMap count i device with
    | none => simp
    | some found => simp [hobject]

/-- The entries are computed independently. -/
theorem deviceLoop_getElem? (entries : List (CuptiStats ν)) :
    (deviceLoop J gpu ordinalMap count i devices entries)[g]? =
      entries[g]?.map (entryLoop J gpu ordinalMap count g i devices) := by
  induction devices generalizing i entries with
  | nil => simp [deviceLoop, entryLoop]
  | cons device devices ih =>
    rw [deviceLoop, ih, deviceStep_getElem?, Option.map_map]
    rfl

private theorem entryStep_of_not (h : ¬(device.isObject = true ∧ ∃ source,
    placement J gpu ordinalMap count i device = some (g, source))) (c : CuptiStats ν) :
    entryStep J gpu ordinalMap count g i device c = c := by
  unfold entryStep
  cases hplace : placement J gpu ordinalMap count i device with
  | none => rfl
  | some found =>
    refine if_neg ?_
    rintro ⟨hobject, rfl⟩
    exact h ⟨hobject, found.2, hplace⟩

/-- A report device that is not placed on a GPU makes no difference to its entry. -/
theorem entryLoop_set (hdevice : devices[k]? = some device) (h : ¬(device.isObject = true ∧ ∃ source,
    placement J gpu ordinalMap count (i + k) device = some (g, source))) (c : CuptiStats ν) :
    entryLoop J gpu ordinalMap count g i (devices.set k .null) c =
      entryLoop J gpu ordinalMap count g i devices c := by
  induction devices generalizing i k c with
  | nil => rfl
  | cons first devices ih =>
    cases k with
    | zero =>
      obtain rfl : first = device := by simpa using hdevice
      have hnull : ¬((Json.null : Json ν).isObject = true ∧ ∃ source,
          placement J gpu ordinalMap count i .null = some (g, source)) := by
        rintro ⟨hobject, -⟩
        cases hobject
      rw [Nat.add_zero] at h
      simp only [List.set_cons_zero, entryLoop]
      rw [entryStep_of_not hnull, entryStep_of_not h]
    | succ k =>
      have hshift : i + (k + 1) = i + 1 + k := by omega
      rw [hshift] at h
      exact ih hdevice h _

/-- The entry of a GPU that no report device is placed on. -/
theorem entryLoop_of_none (h : ∀ k device, devices[k]? = some device → ¬(device.isObject = true ∧ ∃ source,
    placement J gpu ordinalMap count (i + k) device = some (g, source))) (c : CuptiStats ν) :
    entryLoop J gpu ordinalMap count g i devices c = c := by
  induction devices generalizing i c with
  | nil => rfl
  | cons first devices ih =>
    have hfirst := h 0 first rfl
    rw [Nat.add_zero] at hfirst
    rw [entryLoop, entryStep_of_not hfirst]
    refine ih (fun k device hdevice => ?_) c
    have hshift : i + 1 + k = i + (k + 1) := by omega
    rw [hshift]
    exact h (k + 1) device hdevice

/-- The entry of a GPU that only the report device `k` is placed on. -/
theorem entryLoop_of_one (hdevice : devices[k]? = some device)
    (h : ∀ k' device', k' ≠ k → devices[k']? = some device' → ¬(device'.isObject = true ∧ ∃ source,
      placement J gpu ordinalMap count (i + k') device' = some (g, source))) (c : CuptiStats ν) :
    entryLoop J gpu ordinalMap count g i devices c = entryStep J gpu ordinalMap count g (i + k) device c := by
  induction devices generalizing i k c with
  | nil => cases hdevice
  | cons first devices ih =>
    rw [entryLoop]
    cases k with
    | zero =>
      obtain rfl : first = device := by simpa using hdevice
      refine entryLoop_of_none (fun k' device' hdevice' => ?_) _
      have hshift : i + 1 + k' = i + (k' + 1) := by omega
      rw [hshift]
      exact h (k' + 1) device' (by omega) hdevice'
    | succ k =>
      have hfirst := h 0 first (by omega) rfl
      rw [Nat.add_zero] at hfirst
      rw [entryStep_of_not hfirst]
      have hshift : i + (k + 1) = i + 1 + k := by omega
      rw [hshift]
      refine ih hdevice (fun k' device' hk' hdevice' => ?_) c
      have hshift' : i + 1 + k' = i + (k' + 1) := by omega
      rw [hshift']
      exact h (k' + 1) device' (by omega) hdevice'

/-! ### Valid entries -/

omit gpu ordinalMap devices k i count g in
theorem whenMember_eq {α β : Type} {f : α → β} {assign : Json ν → α → α} (h : ∀ v a, f (assign v a) = f a)
    (key : String) (a : α) : f (whenMember device key assign a) = f a := by
  unfold whenMember
  split
  · exact h _ a
  · rfl

omit gpu ordinalMap devices k i device count g in
private theorem valid_cuptiSamplesUpdate (samples : Json ν) (c : CuptiStats ν) :
    (cuptiSamplesUpdate J samples c).valid = c.valid := by
  have hloop : ∀ (step : CuptiStats ν → Slot → CuptiStats ν) (slots : List Slot),
      (∀ c slot, (step c slot).valid = c.valid) → (slots.foldl step c).valid = c.valid := by
    intro step slots hstep
    induction slots generalizing c with
    | nil => rfl
    | cons slot slots ih => rw [List.foldl_cons, ih, hstep]
  unfold cuptiSamplesUpdate
  split
  · rfl
  · apply hloop
    intro c slot
    split <;> rfl

omit gpu ordinalMap devices k i count g in
theorem valid_contribute (g : GpuStats) (source : List Char) (c : CuptiStats ν) :
    (contribute J g source device c).valid = true := by
  have hsamples := fun samples c => valid_cuptiSamplesUpdate (J := J) samples c
  unfold contribute
  rw [whenMember_eq (f := CuptiStats.valid) hsamples]
  iterate 4 rw [whenMember_eq (f := CuptiStats.valid) (by intros; rfl)]

private theorem valid_entryStep (c : CuptiStats ν) :
    (entryStep J gpu ordinalMap count g i device c).valid = true ↔
      c.valid = true ∨ device.isObject = true ∧
        ∃ source, placement J gpu ordinalMap count i device = some (g, source) := by
  by_cases h : device.isObject = true ∧ ∃ source, placement J gpu ordinalMap count i device = some (g, source)
  · obtain ⟨hobject, source, hplace⟩ := h
    simp [entryStep, hplace, hobject, valid_contribute]
  · rw [entryStep_of_not h]
    simp only [h, or_false]

/-- An entry is valid if a report device has been placed on it. -/
theorem valid_entryLoop (c : CuptiStats ν) :
    (entryLoop J gpu ordinalMap count g i devices c).valid = true ↔
      c.valid = true ∨ ∃ k device, devices[k]? = some device ∧ device.isObject = true ∧
        ∃ source, placement J gpu ordinalMap count (i + k) device = some (g, source) := by
  induction devices generalizing i c with
  | nil => simp [entryLoop]
  | cons first devices ih =>
    rw [entryLoop, ih, valid_entryStep, or_assoc]
    refine or_congr_right ?_
    constructor
    · rintro (⟨hobject, hplace⟩ | ⟨k, device, hdevice, hobject, hplace⟩)
      · exact ⟨0, first, rfl, hobject, hplace⟩
      · refine ⟨k + 1, device, hdevice, hobject, ?_⟩
        have hshift : i + (k + 1) = i + 1 + k := by omega
        rwa [hshift]
    · rintro ⟨k, device, hdevice, hobject, hplace⟩
      cases k with
      | zero =>
        obtain rfl : first = device := by simpa using hdevice
        exact .inl ⟨hobject, hplace⟩
      | succ k =>
        have hshift : i + (k + 1) = i + 1 + k := by omega
        rw [hshift] at hplace
        exact .inr ⟨k, device, hdevice, hobject, hplace⟩

end

/-! ### The report -/

section

variable [Zero ν] {host : Host ν} {gpu : List GpuStats} {llamaPid : ℤ} {root : Json ν}

theorem cuptiUpdate_getElem? (hschema : intMember J root "schema_version" = 3) (i : ℕ) :
    (cuptiUpdate J (host.withReport root) gpu llamaPid)[i]? = gpu[i]?.map fun _ =>
      entryLoop J gpu (cudaVisibleOrdinalMap host llamaPid gpu maxGpus) (devicesOf root).length i 0 (devicesOf root)
        (header J root (CuptiStats.zero ν)) := by
  have hfile : (host.withReport root).file (reportPath (host.withReport root)) = some (some root) := if_pos rfl
  have hmap : cudaVisibleOrdinalMap (host.withReport root) llamaPid gpu maxGpus =
      cudaVisibleOrdinalMap host llamaPid gpu maxGpus := rfl
  simp only [cuptiUpdate, hfile, hschema, hmap, ne_eq, not_true_eq_false, if_false, deviceLoop_getElem?,
    List.getElem?_map, Option.map_map]
  rfl

omit [Zero ν] in
private theorem whenMember_setMember {α : Type} {key : String} (hkey : key.toList ≠ "devices".toList) (devices : Json ν)
    (assign : Json ν → α → α) (a : α) :
    whenMember (root.setMember "devices".toList devices) key assign a = whenMember root key assign a := by
  unfold whenMember
  rw [Json.member_setMember, if_neg hkey]

omit [Zero ν] in
/-- The header of a report does not depend on its devices. -/
theorem header_setMember (devices : Json ν) :
    header J (root.setMember "devices".toList devices) = header J root := by
  have hkeep : ∀ {α : Type} {key : String}, key.toList ≠ "devices".toList → ∀ assign (a : α),
      whenMember (root.setMember "devices".toList devices) key assign a = whenMember root key assign a :=
    fun hkey assign a => whenMember_setMember hkey devices assign a
  funext c
  unfold header intMember stringMember
  dsimp only
  iterate 9 rw [hkeep (by decide +kernel)]

omit [Zero ν] in
private theorem devicesOf_setMember (k : ℕ) :
    devicesOf (root.setMember "devices".toList (.array ((devicesOf root).set k .null))) =
      (devicesOf root).set k .null := by
  unfold devicesOf
  rw [Json.member_setMember, if_pos rfl]
  cases root.member "devices".toList with
  | none => rfl
  | some v => rfl

/-- An entry is valid exactly if a report device is placed on its GPU. -/
theorem valid_iff (hschema : intMember J root "schema_version" = 3) (hmany : 2 ≤ gpu.length) (i : ℕ) :
    (∃ c, (cuptiUpdate J (host.withReport root) gpu llamaPid)[i]? = some c ∧ c.valid = true) ↔
      ∃ k, Named J gpu (devicesOf root) k i ∨
        Numbered J gpu (cudaVisibleOrdinalMap host llamaPid gpu maxGpus) (devicesOf root) k i := by
  have hplaced := fun k device hdevice hobject => @placed_iff _ J gpu
    (cudaVisibleOrdinalMap host llamaPid gpu maxGpus) (devicesOf root) k i device hmany hdevice hobject
  have hlt : ∀ k, Named J gpu (devicesOf root) k i ∨
      Numbered J gpu (cudaVisibleOrdinalMap host llamaPid gpu maxGpus) (devicesOf root) k i →
        ∃ g, gpu[i]? = some g := by
    rintro k (⟨⟨-, g, -, -, hi, -⟩, -⟩ | ⟨-, -, -, -, -, hi, -⟩)
    · exact ⟨g, hi⟩
    · exact ⟨gpu[i], List.getElem?_eq_getElem hi⟩
  rw [cuptiUpdate_getElem? J hschema]
  constructor
  · rintro ⟨c, hc, hvalid⟩
    obtain ⟨g, -, rfl⟩ := Option.map_eq_some_iff.1 hc
    rcases (valid_entryLoop _).1 hvalid with hzero | ⟨k, device, hdevice, hobject, hplace⟩
    · cases hzero
    · rw [Nat.zero_add] at hplace
      exact ⟨k, (hplaced k device hdevice hobject).1 hplace⟩
  · rintro ⟨k, hk⟩
    obtain ⟨g, hg⟩ := hlt k hk
    obtain ⟨device, hdevice, hobject⟩ : ∃ device, (devicesOf root)[k]? = some device ∧ device.isObject = true := by
      rcases hk with ⟨⟨device, -, address, hdevice, -, haddress, -⟩, -⟩ | ⟨device, hdevice, hobject, -⟩
      · refine ⟨device, hdevice, ?_⟩
        by_contra hno
        rw [addressOf, if_neg hno] at haddress
        cases haddress
      · exact ⟨device, hdevice, hobject⟩
    have hplace := (hplaced k device hdevice hobject).2 hk
    rw [hg]
    refine ⟨_, rfl, (valid_entryLoop _).2 (.inr ⟨k, device, hdevice, hobject, ?_⟩)⟩
    rwa [Nat.zero_add]

/-- A report device makes a difference only to the entries of the GPUs that it is placed on. -/
theorem entry_eq_of_not_placed (hschema : intMember J root "schema_version" = 3) (hmany : 2 ≤ gpu.length) {k i : ℕ}
    (hnamed : ¬Named J gpu (devicesOf root) k i)
    (hnumbered : ¬Numbered J gpu (cudaVisibleOrdinalMap host llamaPid gpu maxGpus) (devicesOf root) k i) :
    (cuptiUpdate J (host.withReport
      (root.setMember "devices".toList (.array ((devicesOf root).set k .null)))) gpu llamaPid)[i]? =
      (cuptiUpdate J (host.withReport root) gpu llamaPid)[i]? := by
  have hschema' : intMember J (root.setMember "devices".toList (.array ((devicesOf root).set k .null)))
      "schema_version" = 3 := by
    rw [← hschema]
    exact whenMember_setMember (by decide +kernel) _ _ _
  rw [cuptiUpdate_getElem? J hschema', cuptiUpdate_getElem? J hschema, header_setMember, devicesOf_setMember,
    List.length_set]
  congr 1
  funext _
  cases hdevice : (devicesOf root)[k]? with
  | none => rw [List.set_eq_of_length_le (List.getElem?_eq_none_iff.1 hdevice)]
  | some device =>
    refine entryLoop_set hdevice ?_ _
    rintro ⟨hobject, hplace⟩
    rw [Nat.zero_add] at hplace
    rcases (placed_iff hmany hdevice hobject).1 hplace with h | h
    · exact hnamed h
    · exact hnumbered h

/-- On a host with several GPUs, an entry whose GPU is not named twice is valid exactly if one report device is named
after its GPU or one without a bus ID is numbered for it; and a report device makes no difference to other entries. -/
theorem valid_iff_named_or_numbered (hschema : intMember J root "schema_version" = 3) (hmany : 2 ≤ gpu.length) :
    (∀ i, (∀ k k', Named J gpu (devicesOf root) k i → Named J gpu (devicesOf root) k' i → k = k') →
      ((∃ c, (cuptiUpdate J (host.withReport root) gpu llamaPid)[i]? = some c ∧ c.valid = true) ↔
        (∃! k, Named J gpu (devicesOf root) k i) ∨
          ∃ k, Numbered J gpu (cudaVisibleOrdinalMap host llamaPid gpu maxGpus) (devicesOf root) k i)) ∧
    ∀ k i, ¬Named J gpu (devicesOf root) k i →
      ¬Numbered J gpu (cudaVisibleOrdinalMap host llamaPid gpu maxGpus) (devicesOf root) k i →
      (cuptiUpdate J (host.withReport
        (root.setMember "devices".toList (.array ((devicesOf root).set k .null)))) gpu llamaPid)[i]? =
        (cuptiUpdate J (host.withReport root) gpu llamaPid)[i]? := by
  constructor
  · intro i honce
    rw [valid_iff J hschema hmany, exists_or]
    refine or_congr_left ?_
    constructor
    · rintro ⟨k, hk⟩
      exact ⟨k, hk, fun k' hk' => honce k' k hk' hk⟩
    · rintro ⟨k, hk, -⟩
      exact ⟨k, hk⟩
  · intro k i hnamed hnumbered
    exact entry_eq_of_not_placed J hschema hmany hnamed hnumbered

end

/-! ### Two GPUs -/

/-- json-c on values that hold what is asked for, with integers for doubles. -/
def plainJsonC : JsonC ℤ where
  getBoolean
    | .bool b => b
    | .int n | .double n => n ≠ 0
    | .string text => text ≠ []
    | _ => false
  getInt
    | .bool b => if b then 1 else 0
    | .int n | .double n => max (-2 ^ 31) (min n (2 ^ 31 - 1))
    | _ => 0
  getInt64
    | .bool b => if b then 1 else 0
    | .int n | .double n => max (-2 ^ 63) (min n (2 ^ 63 - 1))
    | _ => 0
  getDouble
    | .bool b => if b then 1 else 0
    | .int n | .double n => n
    | _ => 0
  getString
    | .string text => text.takeWhile (· != '\x00')
    | .bool b => (if b then "true" else "false").toList
    | .int n => (toString n).toList
    | _ => "(null)".toList
  getBoolean_bool _ := rfl
  getInt_int n hlow hhigh := by
    show max (-2 ^ 31) (min n (2 ^ 31 - 1)) = n
    omega
  getInt64_int n hlow hhigh := by
    show max (-2 ^ 63) (min n (2 ^ 63 - 1)) = n
    omega
  getString_string _ := rfl

def twoGpus : List GpuStats := [⟨"00000000:01:00.0".toList⟩, ⟨"00000000:02:00.0".toList⟩]

/-- No file, no other process, and CUDA's devices in the order of their PCI addresses. -/
def orderedHost : Host ℤ where
  getenv name := if name = "GPUMON_CUDA_DEVICE_ORDER".toList then some "PCI_BUS_ID".toList else none
  environ _ := none
  file _ := none

def reportOf (devices : List (Json ℤ)) : Json ℤ :=
  .object [("schema_version".toList, .int 3), ("devices".toList, .array devices)]

def withBusId (text : String) : Json ℤ := .object [("pci_bus_id".toList, .string text.toList)]

private theorem unique_twoGpus : Unique twoGpus 0 := by
  intro g hg j g' hj hsame
  obtain rfl : (⟨"00000000:01:00.0".toList⟩ : GpuStats) = g := by simpa [twoGpus] using hg
  have hlt : j < 2 := (List.getElem?_eq_some_iff.1 hj).1
  by_contra hne
  obtain rfl : j = 1 := by omega
  obtain rfl : (⟨"00000000:02:00.0".toList⟩ : GpuStats) = g' := by simpa [twoGpus] using hj
  revert hsame
  decide

private theorem not_named_unnamed (k : ℕ) : ¬Named plainJsonC twoGpus [.object [], .object []] k 0 := by
  rintro ⟨⟨device, -, address, hdevice, -, haddress, -⟩, -⟩
  have hmem := List.mem_of_getElem? hdevice
  obtain rfl : device = .object [] := by simpa using hmem
  cases haddress

private theorem named_repeated : ∀ k < 2,
    Named plainJsonC twoGpus [withBusId "0000:01:00.0", withBusId "0000:01:00.0"] k 0 := by
  intro k hk
  have hdevice : [withBusId "0000:01:00.0", withBusId "0000:01:00.0"][k]? = some (withBusId "0000:01:00.0") := by
    obtain rfl | rfl : k = 0 ∨ k = 1 := by omega
    · rfl
    · rfl
  exact ⟨⟨_, _, ⟨0, 1, 0, 0⟩, hdevice, rfl, by decide +kernel, by decide +kernel⟩, unique_twoGpus⟩

/-- Two report devices without a bus ID make both entries valid, and two with the same one make its entry valid. -/
theorem valid_without_one_named :
    (∃ root, intMember plainJsonC root "schema_version" = 3 ∧ 2 ≤ twoGpus.length ∧
      (∃ c, (cuptiUpdate plainJsonC (orderedHost.withReport root) twoGpus 1)[0]? = some c ∧ c.valid = true) ∧
      ¬∃! k, Named plainJsonC twoGpus (devicesOf root) k 0) ∧
    ∃ root, intMember plainJsonC root "schema_version" = 3 ∧ 2 ≤ twoGpus.length ∧
      (∃ c, (cuptiUpdate plainJsonC (orderedHost.withReport root) twoGpus 1)[0]? = some c ∧ c.valid = true) ∧
      ¬∃! k, Named plainJsonC twoGpus (devicesOf root) k 0 := by
  constructor
  · refine ⟨reportOf [.object [], .object []], by decide +kernel, by decide +kernel, ?_, ?_⟩
    · have hvalid : ((cuptiUpdate plainJsonC (orderedHost.withReport (reportOf [.object [], .object []]))
          twoGpus 1)[0]?).map CuptiStats.valid = some true := by decide +kernel
      exact Option.map_eq_some_iff.1 hvalid
    · rintro ⟨k, hk, -⟩
      exact not_named_unnamed k hk
  · refine ⟨reportOf [withBusId "0000:01:00.0", withBusId "0000:01:00.0"], by decide +kernel, by decide +kernel, ?_, ?_⟩
    · have hvalid : ((cuptiUpdate plainJsonC (orderedHost.withReport (reportOf
          [withBusId "0000:01:00.0", withBusId "0000:01:00.0"])) twoGpus 1)[0]?).map CuptiStats.valid = some true := by
        decide
      exact Option.map_eq_some_iff.1 hvalid
    · rintro ⟨k, -, honly⟩
      have h₀ := honly 0 (named_repeated 0 (by decide +kernel))
      have h₁ := honly 1 (named_repeated 1 (by decide +kernel))
      omega

/-- With two bus IDs, each entry is valid on account of one of them. -/
theorem valid_iff_named_or_numbered_twoGpus :
    (∃ c, (cuptiUpdate plainJsonC (orderedHost.withReport (reportOf
        [withBusId "0000:02:00.0", withBusId "0000:01:00.0"])) twoGpus 1)[0]? = some c ∧ c.valid = true) ↔
      (∃! k, Named plainJsonC twoGpus [withBusId "0000:02:00.0", withBusId "0000:01:00.0"] k 0) ∨
        ∃ k, Numbered plainJsonC twoGpus (cudaVisibleOrdinalMap orderedHost 1 twoGpus maxGpus)
          [withBusId "0000:02:00.0", withBusId "0000:01:00.0"] k 0 := by
  have hone : ∀ k, Named plainJsonC twoGpus [withBusId "0000:02:00.0", withBusId "0000:01:00.0"] k 0 → k = 1 := by
    rintro k ⟨⟨device, g, address, hdevice, hg, haddress, hsame⟩, -⟩
    have hlt : k < 2 := (List.getElem?_eq_some_iff.1 hdevice).1
    by_contra hne
    obtain rfl : k = 0 := by omega
    obtain rfl : withBusId "0000:02:00.0" = device := by simpa using hdevice
    obtain rfl : (⟨"00000000:01:00.0".toList⟩ : GpuStats) = g := by simpa [twoGpus] using hg
    rw [← hsame] at haddress
    revert haddress
    decide
  exact (valid_iff_named_or_numbered plainJsonC (by decide +kernel) (by decide +kernel)).1 0 fun k k' hk hk' =>
    (hone k hk).trans (hone k' hk').symm

end CmpUnlocker.Gpumon
