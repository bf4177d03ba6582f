import CmpUnlocker.Lib.Search

/-!
# Searching for register addresses

`analyze_gr_register_packs.py` looks for addresses in firmware images with a `find` that is restarted behind each hit,
and `analyze_devinit_gpc_copy.py` by comparing at every offset.  Both report the same offsets (`searches_agree`).
-/

namespace CmpUnlocker.Analysis

open Bytes

/-- `struct.pack("<I", value)` -/
def packU32 (value : UInt32) : List UInt8 := digits 4 value.toNat

/-! ### The register packs -/

/-- An entry of `raw_little_endian_target_occurrences`. -/
structure RawMatch where
  fileOffset : Nat
  littleEndianU32 : UInt32
  alignedU32 : Bool
  deriving DecidableEq, Repr

/-- The loop of `raw_occurrences` from a start on. -/
def rawMatchesFrom (data : List UInt8) (value : UInt32) (start : Nat) : List RawMatch :=
  match h : find data (packU32 value) start with
  | none => []
  | some offset => ⟨offset, value, offset % 4 == 0⟩ :: rawMatchesFrom data value (offset + 1)
termination_by data.length + 1 - start
decreasing_by
  have hbounds := find_bounds h
  omega

def rawMatches (data : List UInt8) (value : UInt32) : List RawMatch := rawMatchesFrom data value 0

def gpcBase : UInt32 := 0x500000

def gpcStride : UInt32 := 0x8000

def gpcCount : Nat := 6

/-- The addresses of a register of each GPC. -/
def perGpc (base stride offset : UInt32) : List UInt32 :=
  (List.range gpcCount).map fun i => base + UInt32.ofNat i * stride + offset

/-- `target_sets` -/
def targetSets : List (String × List UInt32) :=
  [("gpc_tpc_count_0x2608", perGpc gpcBase gpcStride 0x2608),
    ("gpc_ppc0_tpc_mask_0x0c30", perGpc gpcBase gpcStride 0x0c30),
    ("gpc_ppc1_tpc_mask_0x0c34", perGpc gpcBase gpcStride 0x0c34),
    ("gpc_ppc2_tpc_mask_0x0c38", perGpc gpcBase gpcStride 0x0c38),
    ("gr_gpc_count_0x409604", [0x409604]),
    ("physical_raw_0x021760_stride4_slots0_to5", perGpc 0x021760 4 0),
    ("physical_status_0x021c38_stride4_slots0_to5", perGpc 0x021c38 4 0),
    ("physical_ctrl_0x021838_stride4_slots0_to5", perGpc 0x021838 4 0)]

/-- `raw_occurrences` -/
def rawOccurrences (data : List UInt8) : List (String × List RawMatch) :=
  targetSets.map fun target => (target.1, target.2.flatMap (rawMatches data))

/-! ### The DEVINIT block -/

/-- `all_u32_offsets` -/
def allU32Offsets (data : List UInt8) (value : UInt32) : List Nat :=
  (List.range (data.length - 3)).filter fun i => slice data i 4 == packU32 value

/-! ### The offsets -/

variable {data : List UInt8} {value : UInt32} {start i : Nat}

private theorem length_packU32 (value : UInt32) : (packU32 value).length = 4 := length_digits 4 _

private theorem rawMatchesFrom_offsets (data : List UInt8) (value : UInt32) (start : Nat) :
    (rawMatchesFrom data value start).map (·.fileOffset) = occurrencesFrom data (packU32 value) start := by
  fun_induction rawMatchesFrom data value start with
  | case1 start h => rw [List.map_nil, occurrencesFrom_of_none h]
  | case2 start offset h ih => rw [List.map_cons, ih, occurrencesFrom_of_some h]

/-- A word is compared at every offset at which it fits. -/
theorem allU32Offsets_eq (data : List UInt8) (value : UInt32) :
    allU32Offsets data value = occurrences data (packU32 value) := by
  have hlength := length_packU32 value
  have hne : packU32 value ≠ [] := by
    intro hnil
    rw [hnil] at hlength
    cases hlength
  have hsame : (fun i => slice data i 4 == packU32 value) = matchesAt data (packU32 value) := by
    funext i
    rw [matchesAt, hlength]
  have hsplit : List.range' 0 (data.length + 1 - 0) =
      List.range (data.length - 3) ++ List.range' (data.length - 3) (data.length + 1 - (data.length - 3)) := by
    have hcut : data.length + 1 - 0 = (data.length - 3) + (data.length + 1 - (data.length - 3)) := by omega
    rw [hcut, List.range_eq_range', ← List.range'_append_1, Nat.zero_add]
  have hnone : (List.range' (data.length - 3) (data.length + 1 - (data.length - 3))).filter
      (matchesAt data (packU32 value)) = [] := by
    apply List.filter_eq_nil_iff.2
    intro i hi hmatch
    have hfits := matchesAt_fits hne hmatch
    rw [List.mem_range'_1] at hi
    omega
  rw [allU32Offsets, hsame, occurrences, occurrencesFrom, hsplit, List.filter_append, hnone, List.append_nil]

/-- Both tools report the offsets at which the word occurs, in ascending order. -/
theorem searches_agree (data : List UInt8) (value : UInt32) :
    (rawMatches data value).map (·.fileOffset) = allU32Offsets data value ∧
      (allU32Offsets data value).Pairwise (· < ·) ∧
      ∀ i, i ∈ allU32Offsets data value ↔ OccursAt data (packU32 value) i := by
  rw [rawMatches, rawMatchesFrom_offsets, allU32Offsets_eq]
  exact ⟨rfl, occurrences_ascending, fun i => mem_occurrences⟩

end CmpUnlocker.Analysis
