import CmpUnlocker.Gpumon.Mapping

/-!
# CUDA ordinals

The visible devices of a process are a list of numbers, each one the rank of a GPU in the order of the PCI addresses.
`cuda_visible_ordinal_map` gives the GPU of each ordinal, or nothing if the list is not `Accepted`
(`cudaVisibleOrdinalMap_ranks`).
-/

namespace CmpUnlocker.Gpumon

open CText

/-! ### The order of the addresses -/

theorem PciAddress.le_total (a b : PciAddress) : a.le b ∨ b.le a := by
  unfold PciAddress.le
  omega

theorem PciAddress.le_trans {a b c : PciAddress} (hab : a.le b) (hbc : b.le c) : a.le c := by
  unfold PciAddress.le at *
  omega

private theorem PciAddress.le_antisymm {a b : PciAddress} (hab : a.le b) (hba : b.le a) : a = b := by
  obtain ⟨domain, bus, device, function⟩ := a
  obtain ⟨domain', bus', device', function'⟩ := b
  unfold PciAddress.le at hab hba
  dsimp only at hab hba
  simp only [PciAddress.mk.injEq, Fin.ext_iff]
  omega

/-- The number of GPUs with a lower address. -/
def rankOf (addresses : List PciAddress) (a : PciAddress) : ℕ := addresses.countP fun b => b.le a ∧ b ≠ a

/-- The GPU with the rank `r`. -/
def HasRank (addresses : List PciAddress) (r i : ℕ) : Prop := ∃ a, addresses[i]? = some a ∧ rankOf addresses a = r

theorem HasRank.lt {addresses : List PciAddress} {r i : ℕ} (h : HasRank addresses r i) : i < addresses.length := by
  obtain ⟨a, ha, -⟩ := h
  exact (List.getElem?_eq_some_iff.1 ha).1

/-- A lower address. -/
def PciAddress.Below (b a : PciAddress) : Prop := b.le a ∧ b ≠ a

/-- In an ascending list the rank of an address is its position. -/
theorem countP_ascending {sorted : List PciAddress} (h : sorted.Pairwise PciAddress.Below) {r : ℕ} {a : PciAddress}
    (ha : sorted[r]? = some a) : sorted.countP (fun b => b.le a ∧ b ≠ a) = r := by
  induction sorted generalizing r with
  | nil => cases ha
  | cons b sorted ih =>
    obtain ⟨hb, hsorted⟩ := List.pairwise_cons.1 h
    rw [List.countP_cons]
    cases r with
    | zero =>
      obtain rfl : b = a := by simpa using ha
      have hnone : sorted.countP (fun c => c.le b ∧ c ≠ b) = 0 := by
        rw [List.countP_eq_zero]
        intro c hc
        simp only [decide_eq_true_eq, not_and, not_not]
        exact fun hle => PciAddress.le_antisymm hle (hb c hc).1
      have hself : ¬(decide (b.le b ∧ b ≠ b) = true) := by simp
      rw [hnone, if_neg hself]
    | succ r =>
      have hrest : sorted[r]? = some a := by simpa using ha
      have hbelow := hb a (List.mem_of_getElem? hrest)
      have hcounted : decide (b.le a ∧ b ≠ a) = true := decide_eq_true hbelow
      rw [ih hsorted hrest, if_pos hcounted]

/-- The addresses with their indices, in ascending order. -/
def sortedPairs (addresses : List PciAddress) : List (PciAddress × ℕ) :=
  addresses.zipIdx.insertionSort fun a b => a.1.le b.1

private theorem mem_sortedPairs {addresses : List PciAddress} {a : PciAddress} {i : ℕ} :
    (a, i) ∈ sortedPairs addresses ↔ addresses[i]? = some a := by
  rw [sortedPairs, List.mem_insertionSort, List.mem_zipIdx_iff_getElem?]

private theorem perm_sortedPairs (addresses : List PciAddress) :
    ((sortedPairs addresses).map Prod.fst).Perm addresses := by
  have hperm := (List.perm_insertionSort (fun a b : PciAddress × ℕ => a.1.le b.1) addresses.zipIdx).map Prod.fst
  rwa [List.zipIdx_map_fst] at hperm

private theorem ascending_sortedPairs {addresses : List PciAddress} (hdistinct : addresses.Nodup) :
    ((sortedPairs addresses).map Prod.fst).Pairwise PciAddress.Below := by
  have htotal : Std.Total fun a b : PciAddress × ℕ => a.1.le b.1 := ⟨fun a b => PciAddress.le_total a.1 b.1⟩
  have htrans : IsTrans (PciAddress × ℕ) fun a b => a.1.le b.1 := ⟨fun a b c => PciAddress.le_trans⟩
  have hsorted := List.pairwise_insertionSort (fun a b : PciAddress × ℕ => a.1.le b.1) addresses.zipIdx
  have hle : ((sortedPairs addresses).map Prod.fst).Pairwise PciAddress.le := List.pairwise_map.2 hsorted
  have hne : ((sortedPairs addresses).map Prod.fst).Nodup := (perm_sortedPairs addresses).nodup_iff.2 hdistinct
  exact hle.and hne

private theorem rankOf_sortedPairs {addresses : List PciAddress} (hdistinct : addresses.Nodup) {r i : ℕ}
    {a : PciAddress}
    (h : (sortedPairs addresses)[r]? = some (a, i)) : rankOf addresses a = r := by
  have ha : ((sortedPairs addresses).map Prod.fst)[r]? = some a := by
    rw [List.getElem?_map, h]
    rfl
  rw [rankOf, ← (perm_sortedPairs addresses).countP_eq]
  exact countP_ascending (ascending_sortedPairs hdistinct) ha

/-- The order of the GPUs gives the GPU of each rank. -/
theorem pciOrder_getElem? {addresses : List PciAddress} (hdistinct : addresses.Nodup) {r i : ℕ} :
    (pciOrder addresses)[r]? = some i ↔ HasRank addresses r i := by
  have horder : pciOrder addresses = (sortedPairs addresses).map Prod.snd := rfl
  rw [horder, List.getElem?_map, Option.map_eq_some_iff]
  constructor
  · rintro ⟨⟨a, j⟩, hr, rfl⟩
    exact ⟨a, mem_sortedPairs.1 (List.mem_of_getElem? hr), rankOf_sortedPairs hdistinct hr⟩
  · rintro ⟨a, ha, rfl⟩
    obtain ⟨r, hr⟩ := List.mem_iff_getElem?.1 (mem_sortedPairs.2 ha)
    rw [rankOf_sortedPairs hdistinct hr]
    exact ⟨(a, i), hr, rfl⟩

private theorem length_pciOrder (addresses : List PciAddress) : (pciOrder addresses).length = addresses.length := by
  simp [pciOrder]

private theorem nodup_pciOrder (addresses : List PciAddress) : (pciOrder addresses).Nodup := by
  have hperm := (List.perm_insertionSort (fun a b : PciAddress × ℕ => a.1.le b.1) addresses.zipIdx).map Prod.snd
  rw [List.zipIdx_map_snd] at hperm
  exact hperm.nodup_iff.2 List.nodup_range'

/-! ### The tokens -/

/-- The number that a token writes, if it is that of a GPU. -/
def physicalOf (gpuCount : ℕ) (token : List Char) : Option ℕ :=
  match strtol token with
  | some physical => if physical < 0 ∨ (gpuCount : ℤ) ≤ physical then none else some physical.toNat
  | none => none

/-- What the loop makes of tokens behind the ordinals in `map`. -/
def mapOf (gpuCount capacity : ℕ) (order map : List ℕ) (tokens : List (List Char)) : List ℕ :=
  match tokens.mapM (physicalOf gpuCount) with
  | some ranks =>
    let map := map ++ ranks.map fun r => order.getD r 0
    if map.Nodup ∧ map.length ≤ capacity then map else []
  | none => []

section

variable {gpuCount capacity : ℕ} {order map : List ℕ} {tokens : List (List Char)}

/-- A text that begins with a comma gives no ordinals. -/
theorem visibleMap_comma : visibleMap gpuCount capacity order false [] tokens = [] := by
  cases tokens with
  | nil => rfl
  | cons token tokens =>
    unfold visibleMap
    split
    · rfl
    · split
      · split
        · rfl
        · simp
      · rfl

/-- A token that is one more ordinal. -/
theorem visibleMap_cons {first : Bool} (hmap : first = true ∧ map = [] ∨ first = false ∧ map ≠ []) (token : List Char) :
    visibleMap gpuCount capacity order first map (token :: tokens) =
      match physicalOf gpuCount token with
      | some r =>
        let index := order.getD r 0
        if capacity ≤ map.length ∨ index ∈ map then []
        else visibleMap gpuCount capacity order false (map ++ [index]) tokens
      | none => [] := by
  rw [visibleMap]
  unfold physicalOf
  cases strtol token with
  | none => simp
  | some physical =>
    by_cases hrange : physical < 0 ∨ (gpuCount : ℤ) ≤ physical
    · simp [hrange]
    · simp only [if_neg hrange]
      generalize order.getD physical.toNat 0 = index
      by_cases hmem : index ∈ map
      · -- only the first token may find the map empty
        have hfirst : first = false := by
          rcases hmap with ⟨-, rfl⟩ | ⟨hfirst, -⟩
          · cases hmem
          · exact hfirst
        simp [hmem, hfirst]
      · have hkept : ¬(map = [] ∧ first = false) := by
          rintro ⟨rfl, rfl⟩
          simp at hmap
        simp [hmem, hkept]

private theorem mapOf_cons (token : List Char) : mapOf gpuCount capacity order map (token :: tokens) =
    match physicalOf gpuCount token with
    | some r => mapOf gpuCount capacity order (map ++ [order.getD r 0]) tokens
    | none => [] := by
  unfold mapOf
  cases hphysical : physicalOf gpuCount token with
  | none => simp [hphysical]
  | some r => cases hranks : tokens.mapM (physicalOf gpuCount) <;> simp [hphysical, hranks]

/-- Ordinals that are too many or not distinct stay so. -/
theorem mapOf_of_not (h : ¬(map.Nodup ∧ map.length ≤ capacity)) : mapOf gpuCount capacity order map tokens = [] := by
  unfold mapOf
  cases tokens.mapM (physicalOf gpuCount) with
  | none => rfl
  | some ranks =>
    apply if_neg
    rintro ⟨hnodup, hlength⟩
    rw [List.length_append] at hlength
    exact h ⟨(List.nodup_append.1 hnodup).1, by omega⟩

private theorem visibleMap_eq {first : Bool} (hmap : first = true ∧ map = [] ∨ first = false ∧ map ≠ [])
    (hnodup : map.Nodup) (hcapacity : map.length ≤ capacity) :
    visibleMap gpuCount capacity order first map tokens = mapOf gpuCount capacity order map tokens := by
  induction tokens generalizing first map with
  | nil => simp [visibleMap, mapOf, hnodup, hcapacity]
  | cons token tokens ih =>
    rw [visibleMap_cons hmap, mapOf_cons]
    cases physicalOf gpuCount token with
    | none => rfl
    | some r =>
      by_cases hfails : capacity ≤ map.length ∨ order.getD r 0 ∈ map
      · have hnot : ¬((map ++ [order.getD r 0]).Nodup ∧ (map ++ [order.getD r 0]).length ≤ capacity) := by
          rintro ⟨hnodup', hlength⟩
          rw [List.length_append, List.length_singleton] at hlength
          rcases hfails with hfull | hmem
          · omega
          · exact (List.nodup_append.1 hnodup').2.2 _ hmem _ (by simp) rfl
        simp only [if_pos hfails, mapOf_of_not hnot]
      · rw [not_or] at hfails
        have hnodup' : (map ++ [order.getD r 0]).Nodup := by
          rw [List.nodup_append]
          refine ⟨hnodup, by simp, fun a ha b hb => ?_⟩
          rintro rfl
          rw [List.mem_singleton] at hb
          exact hfails.2 (hb ▸ ha)
        have hlength : (map ++ [order.getD r 0]).length ≤ capacity := by
          rw [List.length_append, List.length_singleton]
          omega
        simp only [hfails, or_self, if_false]
        exact ih (.inr ⟨rfl, by simp⟩) hnodup' hlength

end

/-! ### The map -/

/-- `visible` of `cuda_visible_ordinal_map`. -/
def visibleDevices {ν : Type} (host : Host ν) (llamaPid : ℤ) : List Char :=
  match nonempty (host.getenv "GPUMON_CUDA_VISIBLE_DEVICES".toList) with
  | some override => snprintf 256 override
  | none => (processEnvValue host llamaPid "CUDA_VISIBLE_DEVICES".toList 256).getD []

/-- `order` of `cuda_visible_ordinal_map`. -/
def deviceOrder {ν : Type} (host : Host ν) (llamaPid : ℤ) : Option (List Char) :=
  match nonempty (host.getenv "GPUMON_CUDA_DEVICE_ORDER".toList) with
  | some override => some (snprintf 64 override)
  | none => processEnvValue host llamaPid "CUDA_DEVICE_ORDER".toList 64

private theorem cudaVisibleOrdinalMap_eq {ν : Type} (host : Host ν) (llamaPid : ℤ) (gpu : List GpuStats)
    (capacity : ℕ) :
    cudaVisibleOrdinalMap host llamaPid gpu capacity =
      if gpu = [] ∨ capacity = 0 ∨ maxGpus < gpu.length then []
      else if deviceOrder host llamaPid ≠ some "PCI_BUS_ID".toList then []
      else match gpu.mapM GpuStats.address with
        | none => []
        | some addresses =>
          if visibleDevices host llamaPid = [] then (if capacity < gpu.length then [] else pciOrder addresses)
          else visibleMap gpu.length capacity (pciOrder addresses) ((visibleDevices host llamaPid).head? ≠ some ',') []
            (strtok ',' (visibleDevices host llamaPid)) := rfl

/-- The number of ordinals that a text stands for. -/
def wanted (gpuCount : ℕ) (visible : List Char) : ℕ :=
  if visible = [] then gpuCount else (strtok ',' visible).length

/-- The tokens are distinct numbers of GPUs, and not more than there is room for. -/
structure Accepted (gpuCount capacity : ℕ) (visible : List Char) : Prop where
  numbers : ∀ token ∈ strtok ',' visible, ∃ r, strtol token = some r ∧ 0 ≤ r ∧ r < gpuCount
  distinct : ((strtok ',' visible).map strtol).Nodup
  fits : wanted gpuCount visible ≤ capacity

/-- The map gives each ordinal a GPU of its own, the one with the rank that the text has for it. -/
structure IsOrdinalMap (addresses : List PciAddress) (visible : List Char) (map : List ℕ) : Prop where
  length : map.length = wanted addresses.length visible
  nodup : map.Nodup
  valid : ∀ i ∈ map, i < addresses.length
  ranks : ∀ k i, map[k]? = some i → ∃ r, HasRank addresses r i ∧
    if visible = [] then r = k else ∃ token, (strtok ',' visible)[k]? = some token ∧ strtol token = some (r : ℤ)

private theorem physicalOf_eq_some {gpuCount r : ℕ} {token : List Char} :
    physicalOf gpuCount token = some r ↔ strtol token = some (r : ℤ) ∧ r < gpuCount := by
  unfold physicalOf
  cases strtol token with
  | none => simp
  | some physical =>
    by_cases hrange : physical < 0 ∨ (gpuCount : ℤ) ≤ physical
    · simp only [if_pos hrange, Option.some.injEq]
      constructor
      · intro h
        cases h
      · rintro ⟨rfl, hlt⟩
        omega
    · simp only [if_neg hrange, Option.some.injEq]
      omega

private theorem mapM_eq_some_iff {α β : Type} {f : α → Option β} {xs : List α} {ys : List β} :
    xs.mapM f = some ys ↔ xs.map f = ys.map some := by
  induction xs generalizing ys with
  | nil =>
    cases ys with
    | nil => simp
    | cons y ys => simp
  | cons x xs ih =>
    rw [List.mapM_cons, List.map_cons]
    cases hx : f x with
    | none => cases ys <;> simp
    | some z =>
      cases ys with
      | nil => cases hxs : xs.mapM f <;> simp
      | cons y ys =>
        simp only [Option.bind_eq_bind, Option.bind_some, Option.pure_def, Option.bind_eq_some_iff, List.map_cons,
          List.cons.injEq, Option.some.injEq]
        constructor
        · rintro ⟨zs, hzs, rfl, rfl⟩
          exact ⟨rfl, ih.1 hzs⟩
        · rintro ⟨rfl, hmap⟩
          exact ⟨ys, ih.2 hmap, rfl, rfl⟩

section

variable {addresses : List PciAddress} {capacity : ℕ} {visible : List Char}

/-- The GPUs of distinct ranks are distinct. -/
theorem nodup_gpus {ranks : List ℕ} (h : ∀ r ∈ ranks, r < addresses.length) :
    (ranks.map fun r => (pciOrder addresses).getD r 0).Nodup ↔ ranks.Nodup := by
  constructor
  · exact List.Nodup.of_map _
  · intro hnodup
    apply hnodup.map_on
    intro r hr r' hr' hsame
    have hlt : r < (pciOrder addresses).length := by
      rw [length_pciOrder]
      exact h r hr
    have hlt' : r' < (pciOrder addresses).length := by
      rw [length_pciOrder]
      exact h r' hr'
    simp only [List.getD_eq_getElem?_getD, List.getElem?_eq_getElem hlt, List.getElem?_eq_getElem hlt',
      Option.getD_some] at hsame
    exact (List.Nodup.getElem_inj_iff (nodup_pciOrder addresses)).1 hsame

/-- The numbers that the tokens write. -/
theorem map_strtol {tokens : List (List Char)} {gpuCount : ℕ} {ranks : List ℕ}
    (h : tokens.mapM (physicalOf gpuCount) = some ranks) :
    tokens.map strtol = ranks.map fun r : ℕ => some (r : ℤ) := by
  rw [mapM_eq_some_iff] at h
  have hall : ∀ token ∈ tokens, strtol token = (physicalOf gpuCount token).map fun r : ℕ => (r : ℤ) := by
    intro token htoken
    have hmem : physicalOf gpuCount token ∈ ranks.map some := h ▸ List.mem_map_of_mem htoken
    obtain ⟨r, -, hr⟩ := List.mem_map.1 hmem
    rw [← hr, (physicalOf_eq_some.1 hr.symm).1]
    rfl
  calc tokens.map strtol
      = (tokens.map (physicalOf gpuCount)).map (Option.map fun r : ℕ => (r : ℤ)) := by
        rw [List.map_map]
        exact List.map_congr_left hall
    _ = ranks.map fun r : ℕ => some (r : ℤ) := by
        rw [h, List.map_map]
        rfl

private theorem lt_of_mapM {tokens : List (List Char)} {gpuCount : ℕ} {ranks : List ℕ}
    (h : tokens.mapM (physicalOf gpuCount) = some ranks) : ∀ r ∈ ranks, r < gpuCount := by
  intro r hr
  rw [mapM_eq_some_iff] at h
  have hmem : some r ∈ tokens.map (physicalOf gpuCount) := h ▸ List.mem_map_of_mem hr
  obtain ⟨token, -, htoken⟩ := List.mem_map.1 hmem
  exact (physicalOf_eq_some.1 htoken).2

private theorem some_intCast_injective : Function.Injective fun r : ℕ => some (r : ℤ) := by
  intro r r' h
  exact Int.ofNat.inj (Option.some.inj h)

private theorem accepted_iff (hne : visible ≠ []) : Accepted addresses.length capacity visible ↔
    ∃ ranks, (strtok ',' visible).mapM (physicalOf addresses.length) = some ranks ∧
      (ranks.map fun r => (pciOrder addresses).getD r 0).Nodup ∧ ranks.length ≤ capacity := by
  have hwanted : wanted addresses.length visible = (strtok ',' visible).length := if_neg hne
  constructor
  · rintro ⟨hnumbers, hdistinct, hfits⟩
    have hranks : (strtok ',' visible).mapM (physicalOf addresses.length) =
        some ((strtok ',' visible).map fun token => ((strtol token).getD 0).toNat) := by
      rw [mapM_eq_some_iff, List.map_map]
      apply List.map_congr_left
      intro token htoken
      obtain ⟨r, hr, hpos, hlt⟩ := hnumbers token htoken
      rw [Function.comp_apply, hr, Option.getD_some, physicalOf_eq_some, hr]
      refine ⟨?_, by omega⟩
      rw [Int.toNat_of_nonneg hpos]
    rw [map_strtol hranks] at hdistinct
    refine ⟨_, hranks, (nodup_gpus (lt_of_mapM hranks)).2 (List.Nodup.of_map _ hdistinct), ?_⟩
    rw [List.length_map]
    omega
  · rintro ⟨ranks, hranks, hnodup, hlength⟩
    have hstrtol := map_strtol hranks
    have hsame : (strtok ',' visible).length = ranks.length := by
      have hlengths := congrArg List.length hstrtol
      simpa using hlengths
    refine ⟨fun token htoken => ?_, ?_, by omega⟩
    · have hmem : strtol token ∈ ranks.map fun r : ℕ => some (r : ℤ) := hstrtol ▸ List.mem_map_of_mem htoken
      obtain ⟨r, hr, hnumber⟩ := List.mem_map.1 hmem
      have hlt := lt_of_mapM hranks r hr
      exact ⟨r, hnumber.symm, by omega, by omega⟩
    · rw [hstrtol]
      exact ((nodup_gpus (lt_of_mapM hranks)).1 hnodup).map some_intCast_injective

/-- The GPUs of the ranks are an ordinal map. -/
theorem isOrdinalMap_ranks (hdistinct : addresses.Nodup) (hne : visible ≠ []) {ranks : List ℕ}
    (hranks : (strtok ',' visible).mapM (physicalOf addresses.length) = some ranks)
    (hnodup : (ranks.map fun r => (pciOrder addresses).getD r 0).Nodup) :
    IsOrdinalMap addresses visible (ranks.map fun r => (pciOrder addresses).getD r 0) := by
  have hstrtol := map_strtol hranks
  have hrank : ∀ r ∈ ranks, HasRank addresses r ((pciOrder addresses).getD r 0) := by
    intro r hr
    have hlt : r < (pciOrder addresses).length := by
      rw [length_pciOrder]
      exact lt_of_mapM hranks r hr
    rw [← pciOrder_getElem? hdistinct, List.getD_eq_getElem?_getD, List.getElem?_eq_getElem hlt, Option.getD_some]
  constructor
  · have hlengths := congrArg List.length hstrtol
    simp only [List.length_map] at hlengths
    rw [List.length_map, wanted, if_neg hne, hlengths]
  · exact hnodup
  · intro i hi
    obtain ⟨r, hr, rfl⟩ := List.mem_map.1 hi
    exact (hrank r hr).lt
  · intro k i hk
    rw [List.getElem?_map, Option.map_eq_some_iff] at hk
    obtain ⟨r, hr, rfl⟩ := hk
    refine ⟨r, hrank r (List.mem_of_getElem? hr), ?_⟩
    rw [if_neg hne]
    have hk : ((strtok ',' visible).map strtol)[k]? = some (some (r : ℤ)) := by
      rw [hstrtol, List.getElem?_map, hr]
      rfl
    rw [List.getElem?_map, Option.map_eq_some_iff] at hk
    exact hk

/-- Without a restriction the ordinals are the ranks. -/
theorem isOrdinalMap_all (hdistinct : addresses.Nodup) : IsOrdinalMap addresses [] (pciOrder addresses) where
  length := length_pciOrder addresses
  nodup := nodup_pciOrder addresses
  valid := by
    intro i hi
    obtain ⟨r, hr⟩ := List.mem_iff_getElem?.1 hi
    exact ((pciOrder_getElem? hdistinct).1 hr).lt
  ranks := fun k _ hk => ⟨k, (pciOrder_getElem? hdistinct).1 hk, rfl⟩

private theorem isOrdinalMap_nil (h : wanted addresses.length visible = 0) : IsOrdinalMap addresses visible [] where
  length := h.symm
  nodup := List.nodup_nil
  valid := by simp
  ranks := by simp

/-- The ordinals of a text that does not begin with a comma. -/
theorem visibleMap_ranks (hdistinct : addresses.Nodup) (hne : visible ≠ []) :
    let map := visibleMap addresses.length capacity (pciOrder addresses) true [] (strtok ',' visible)
    (Accepted addresses.length capacity visible → IsOrdinalMap addresses visible map) ∧
      (¬Accepted addresses.length capacity visible → map = []) := by
  intro map
  have hmap : map = mapOf addresses.length capacity (pciOrder addresses) [] (strtok ',' visible) :=
    visibleMap_eq (.inl ⟨rfl, rfl⟩) List.nodup_nil (Nat.zero_le _)
  rw [accepted_iff hne, hmap, mapOf]
  cases hranks : (strtok ',' visible).mapM (physicalOf addresses.length) with
  | none =>
    refine ⟨?_, fun _ => rfl⟩
    rintro ⟨ranks, hsome, -⟩
    cases hsome
  | some ranks =>
    simp only [List.nil_append, List.length_map]
    constructor
    · rintro ⟨ranks', hsome, hnodup, hlength⟩
      cases hsome
      rw [if_pos ⟨hnodup, hlength⟩]
      exact isOrdinalMap_ranks hdistinct hne hranks hnodup
    · intro hnot
      apply if_neg
      rintro ⟨hnodup, hlength⟩
      exact hnot ⟨ranks, rfl, hnodup, hlength⟩

/-- The numbers of no GPUs. -/
theorem Accepted.wanted_eq_zero (h : Accepted addresses.length capacity visible)
    (hnothing : addresses = [] ∨ capacity = 0) : wanted addresses.length visible = 0 := by
  rcases hnothing with rfl | rfl
  · unfold wanted
    by_cases hempty : visible = []
    · rw [if_pos hempty]
      rfl
    · rw [if_neg hempty]
      cases htokens : strtok ',' visible with
      | nil => rfl
      | cons token tokens =>
        obtain ⟨r, -, hpos, hlt⟩ := h.numbers token (htokens ▸ List.mem_cons_self)
        simp only [List.length_nil] at hlt
        omega
  · have hfits := h.fits
    omega

private theorem mapM_address {gpu : List GpuStats} (haddresses : gpu.map GpuStats.address = addresses.map some) :
    gpu.mapM GpuStats.address = some addresses := mapM_eq_some_iff.2 haddresses

end

/-- With the devices in the order of their PCI addresses the map is empty or gives every ordinal its GPU; it is empty if
the text is not accepted, and if it is, only a comma in front makes it empty. -/
theorem cudaVisibleOrdinalMap_ranks {ν : Type} {host : Host ν} {llamaPid : ℤ} {gpu : List GpuStats}
    {addresses : List PciAddress} (hcount : gpu.length ≤ maxGpus)
    (haddresses : gpu.map GpuStats.address = addresses.map some)
    (hdistinct : addresses.Nodup) (horder : deviceOrder host llamaPid = some "PCI_BUS_ID".toList) (capacity : ℕ) :
    let visible := visibleDevices host llamaPid
    let map := cudaVisibleOrdinalMap host llamaPid gpu capacity
    (map = [] ∨ IsOrdinalMap addresses visible map) ∧
      (¬Accepted gpu.length capacity visible → map = []) ∧
      (Accepted gpu.length capacity visible → visible.head? ≠ some ',' → IsOrdinalMap addresses visible map) := by
  intro visible map
  have hlength : gpu.length = addresses.length := by
    have hlengths := congrArg List.length haddresses
    simpa using hlengths
  by_cases hnothing : gpu = [] ∨ capacity = 0
  · have hmap : map = [] := if_pos (by tauto)
    have hnothing' : addresses = [] ∨ capacity = 0 := by
      rcases hnothing with rfl | hzero
      · exact .inl (List.length_eq_zero_iff.1 hlength.symm)
      · exact .inr hzero
    rw [hmap, hlength]
    exact ⟨.inl rfl, fun _ => rfl, fun haccepted _ => isOrdinalMap_nil (haccepted.wanted_eq_zero hnothing')⟩
  · have hmap : map = if visible = [] then (if capacity < gpu.length then [] else pciOrder addresses)
        else visibleMap gpu.length capacity (pciOrder addresses) (visible.head? ≠ some ',') []
          (strtok ',' visible) := by
      have hstart : ¬(gpu = [] ∨ capacity = 0 ∨ maxGpus < gpu.length) := by
        rintro (hnil | hzero | hmany)
        · exact hnothing (.inl hnil)
        · exact hnothing (.inr hzero)
        · omega
      have hordered : ¬deviceOrder host llamaPid ≠ some "PCI_BUS_ID".toList := not_not.2 horder
      show cudaVisibleOrdinalMap host llamaPid gpu capacity = _
      rw [cudaVisibleOrdinalMap_eq, if_neg hstart, if_neg hordered, mapM_address haddresses]
    rw [hmap, hlength]
    by_cases hempty : visible = []
    · have htokens : strtok ',' [] = [] := rfl
      rw [if_pos hempty, hempty]
      by_cases hfull : capacity < addresses.length
      · have hnot : ¬Accepted addresses.length capacity [] := by
          intro haccepted
          have hfits : addresses.length ≤ capacity := haccepted.fits
          omega
        rw [if_pos hfull]
        exact ⟨.inl rfl, fun _ => rfl, fun haccepted => absurd haccepted hnot⟩
      · have haccepted : Accepted addresses.length capacity [] :=
          ⟨by simp [htokens], by simp [htokens], by simpa [wanted] using hfull⟩
        rw [if_neg hfull]
        exact ⟨.inr (isOrdinalMap_all hdistinct), fun hnot => absurd haccepted hnot,
          fun _ _ => isOrdinalMap_all hdistinct⟩
    · rw [if_neg hempty]
      by_cases hcomma : visible.head? = some ','
      · have hfirst : decide (visible.head? ≠ some ',') = false := by simp [hcomma]
        rw [hfirst, visibleMap_comma]
        exact ⟨.inl rfl, fun _ => rfl, fun _ hhead => absurd hcomma hhead⟩
      · have hfirst : decide (visible.head? ≠ some ',') = true := by simp [hcomma]
        rw [hfirst]
        obtain ⟨haccepted, hrejected⟩ := @visibleMap_ranks addresses capacity visible hdistinct hempty
        refine ⟨?_, hrejected, fun h _ => haccepted h⟩
        by_cases h : Accepted addresses.length capacity visible
        · exact .inr (haccepted h)
        · exact .inl (hrejected h)

/-- A host on which the first visible device is the GPU with the higher address. -/
def turnedHost : Host Unit where
  getenv := fun name =>
    if name = "GPUMON_CUDA_VISIBLE_DEVICES".toList then some "1,0".toList
    else if name = "GPUMON_CUDA_DEVICE_ORDER".toList then some "PCI_BUS_ID".toList
    else none
  environ := fun _ => none
  file := fun _ => none

theorem cudaVisibleOrdinalMap_ranks_turned :
    IsOrdinalMap [⟨0, 1, 0, 0⟩, ⟨0, 2, 0, 0⟩] "1,0".toList
      (cudaVisibleOrdinalMap turnedHost 0 [⟨"0000:01:00.0".toList⟩, ⟨"0000:02:00.0".toList⟩] maxGpus) := by
  have hvisible : visibleDevices turnedHost 0 = "1,0".toList := by decide
  have haccepted : Accepted 2 maxGpus "1,0".toList := by
    have htokens : strtok ',' "1,0".toList = [['1'], ['0']] := by decide
    refine ⟨fun token htoken => ?_, by decide, by decide⟩
    rw [htokens] at htoken
    simp only [List.mem_cons, List.not_mem_nil, or_false] at htoken
    rcases htoken with rfl | rfl
    · exact ⟨1, by decide, by decide, by decide⟩
    · exact ⟨0, by decide, by decide, by decide⟩
  have hmap := (@cudaVisibleOrdinalMap_ranks Unit turnedHost 0 [⟨"0000:01:00.0".toList⟩, ⟨"0000:02:00.0".toList⟩]
    [⟨0, 1, 0, 0⟩, ⟨0, 2, 0, 0⟩] (by decide) (by decide) (by decide) (by decide) maxGpus).2.2
  rw [hvisible] at hmap
  exact hmap haccepted (by decide)

end CmpUnlocker.Gpumon
