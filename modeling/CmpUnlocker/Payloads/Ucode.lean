import Mathlib.Algebra.Group.Int.Defs
import CmpUnlocker.Lib.Bytes

/-!
# The microcode payload

`build_ucode_write` of `build_payloads.py`: the checks of the stock header, the extension of the image and the words of
the live frame, written table by table.  Two of these words are the arguments.  The second table overwrites a word of
the first one, but neither of these two (`ucode_isolated`).
-/

namespace CmpUnlocker.Payloads

open Bytes

inductive Exn
  | systemExit (text : String)
  | structError
  | valueError
  deriving DecidableEq

/-- `struct.unpack_from("<I", blob, offset)[0]`. -/
def unpackU32 (blob : List UInt8) (offset : Nat) : Except Exn Nat :=
  if offset + 4 ≤ blob.length then .ok (value (slice blob offset 4)) else .error .structError

/-- `value & 0xFFFFFFFF` as the four bytes of `<I`. -/
def packed (value : Int) : List UInt8 := digits 4 (value % 2 ^ 32).toNat

def putU32 (blob : List UInt8) (offset : Nat) (value : Int) : Except Exn (List UInt8) :=
  if offset + 4 ≤ blob.length then .ok (put blob offset (packed value)) else .error .structError

/-- `for offset, value in words.items(): put_u32(out, offset, value)`. -/
def putWords (words : List (Nat × Int)) (out : List UInt8) : Except Exn (List UInt8) :=
  words.foldlM (fun out w => putU32 out w.1 w.2) out

/-- `out.extend(bytes(length - len(out)))`. -/
def extend (out : List UInt8) (length : Nat) : Except Exn (List UInt8) :=
  if length < out.length then .error .valueError else .ok (out ++ List.replicate (length - out.length) 0)

def initialWords (value target : Int) : List (Nat × Int) :=
  [(0x8C70, 0x00000002), (0x8C74, 0x00000300), (0x8C78, 0x00000001), (0x8C84, 0x00000002), (0x8C88, 0x00000400),
    (0x8C8C, value), (0x8C90, target), (0x8C94, 0x000033C8), (0x8C98, 0x00001000), (0x8C9C, 0x00000002),
    (0x8CA0, 0x000033C8), (0x8CA4, 0x00000C00), (0x8CB8, 0x00002DF0), (0x8CC4, 0x00000176)]

def restoreWords : List (Nat × Int) :=
  [(0x8CBC, 0x00005BB8), (0x8CC0, 0x00000A09), (0x8CC4, 0x00001FF9), (0x8CC8, 0x00005B8C), (0x8CCC, 0x000033C8),
    (0x8CD0, 0x00000000), (0x8CD4, 0x00000000), (0x8CD8, 0x00001FF9), (0x8CDC, 0x00000000), (0x8CE0, 0x00005BE4),
    (0x8CE4, 0x00000000), (0x8CE8, 0x00000000), (0x8CEC, 0x00000573), (0x8CF0, 0x00000000), (0x8CF4, 0x00000000),
    (0x8CF8, 0x00005C38), (0x8CFC, 0x00000B2A), (0x8D00, 0xFFFFFFB4), (0x8D04, 0x000008E6)]

/-- A header word that has to be as expected. -/
def expect (stock : List UInt8) (offset expected : Nat) (text : String) : Except Exn Unit := do
  let word ← unpackU32 stock offset
  if word ≠ expected then .error (.systemExit text) else return ()

def buildUcodeWrite (stock : List UInt8) (value target : Int) : Except Exn (List UInt8) := do
  expect stock 0x08 0x4900 "ucode_load.bin: unexpected bin_size"
  expect stock 0x10 0x200 "ucode_load.bin: unexpected data_offset"
  expect stock 0x14 0x4700 "ucode_load.bin: unexpected data_size"
  let out ← extend stock 0x8E00
  let out ← putU32 out 0x08 0x8E00
  let out ← putU32 out 0x14 0x8C00
  let out ← putWords (initialWords value target) out
  putWords restoreWords out

def buildUcode (stock : List UInt8) : Except Exn (List UInt8) := buildUcodeWrite stock 0x00000888 0x00409664

/-! ### The words written -/

/-- The pieces written for these words. -/
def pieces (words : List (Nat × Int)) : List (Nat × List UInt8) := words.map fun w => (w.1, packed w.2)

@[simp] theorem length_packed (x : Int) : (packed x).length = 4 := by simp [packed]

private theorem value_packed {x : Int} (h : 0 ≤ x) (hlt : x < 2 ^ 32) : value (packed x) = x.toNat := by
  have hmod : x % 2 ^ 32 = x := Int.emod_eq_of_lt h hlt
  have hsize : x.toNat < 256 ^ 4 := by omega
  rw [packed, value_digits, hmod, Nat.mod_eq_of_lt hsize]

private theorem within_pieces {words : List (Nat × Int)} {length : Nat} (h : ∀ w ∈ words, w.1 + 4 ≤ length) :
    Within length (pieces words) := by
  intro w hw
  obtain ⟨word, hword, rfl⟩ := List.mem_map.1 hw
  simpa using h word hword

private theorem spared_pieces {words : List (Nat × Int)} {offset stop : Nat}
    (h : ∀ w ∈ words, stop ≤ w.1 ∨ w.1 + 4 ≤ offset) : Spared offset stop (pieces words) := by
  intro w hw
  obtain ⟨word, hword, rfl⟩ := List.mem_map.1 hw
  simpa using h word hword

/-- The words of a table that fits are all written. -/
theorem putWords_ok {words : List (Nat × Int)} {out : List UInt8} (h : ∀ w ∈ words, w.1 + 4 ≤ out.length) :
    putWords words out = .ok (putAll (pieces words) out) := by
  induction words generalizing out with
  | nil => rfl
  | cons w words ih =>
    have hfits := h w List.mem_cons_self
    have hput : (put out w.1 (packed w.2)).length = out.length := length_put (by simpa using hfits)
    have hrest :
        putWords words (put out w.1 (packed w.2)) = .ok (putAll (pieces words) (put out w.1 (packed w.2))) := by
      refine ih fun w' hw' => ?_
      rw [hput]
      exact h w' (List.mem_cons_of_mem _ hw')
    unfold putWords at hrest ⊢
    rw [List.foldlM_cons, putU32, if_pos hfits]
    exact hrest

/-- All words, in the order in which they are written: those of the header, then the two tables. -/
def allWords (value target : Int) : List (Nat × Int) :=
  [(0x08, 0x8E00), (0x14, 0x8C00)] ++ (initialWords value target ++ restoreWords)

/-- The words before the two variable ones. -/
def leading : List (Nat × Int) :=
  [(0x08, 0x8E00), (0x14, 0x8C00), (0x8C70, 0x00000002), (0x8C74, 0x00000300), (0x8C78, 0x00000001),
    (0x8C84, 0x00000002), (0x8C88, 0x00000400)]

/-- The words behind the two variable ones. -/
def trailing : List (Nat × Int) := (allWords 0 0).drop 9

private theorem allWords_eq (value target : Int) :
    allWords value target = leading ++ (0x8C8C, value) :: (0x8C90, target) :: trailing := rfl

private theorem allWords_within (value target : Int) : ∀ w ∈ allWords value target, w.1 + 4 ≤ 0x8E00 := by
  have hoffsets : ∀ offset ∈ (allWords value target).map Prod.fst, offset + 4 ≤ 0x8E00 := by
    have hsame : (allWords value target).map Prod.fst = (allWords 0 0).map Prod.fst := rfl
    rw [hsame]
    decide
  exact fun w hw => hoffsets w.1 (List.mem_map_of_mem hw)

/-- A stock image has its size and passes the checks of its header. -/
structure Stock (stock : List UInt8) : Prop where
  length : stock.length = 0x4900
  binSize : expect stock 0x08 0x4900 "ucode_load.bin: unexpected bin_size" = .ok ()
  dataOffset : expect stock 0x10 0x200 "ucode_load.bin: unexpected data_offset" = .ok ()
  dataSize : expect stock 0x14 0x4700 "ucode_load.bin: unexpected data_size" = .ok ()

variable {stock : List UInt8}

/-- The image before the words are written. -/
def extended (stock : List UInt8) : List UInt8 := stock ++ List.replicate (0x8E00 - stock.length) 0

private theorem Stock.length_extended (h : Stock stock) : (extended stock).length = 0x8E00 := by
  rw [extended, List.length_append, List.length_replicate, h.length]

/-- The header words and the two tables are written one after the other. -/
theorem putWords_allWords (value target : Int) (out : List UInt8) :
    putWords (allWords value target) out = (do
      let out ← putU32 out 0x08 0x8E00
      let out ← putU32 out 0x14 0x8C00
      let out ← putWords (initialWords value target) out
      putWords restoreWords out) := by
  unfold allWords putWords
  rw [List.cons_append, List.cons_append, List.nil_append, List.foldlM_cons]
  simp only [List.foldlM_cons, List.foldlM_append]

private theorem buildUcodeWrite_ok (h : Stock stock) (value target : Int) :
    buildUcodeWrite stock value target = .ok (putAll (pieces (allWords value target)) (extended stock)) := by
  have hwithin := allWords_within value target
  rw [← h.length_extended] at hwithin
  have hall : putWords (allWords value target) (extended stock) = _ := putWords_ok hwithin
  have hextend : extend stock 0x8E00 = .ok (extended stock) := by
    unfold extend
    rw [if_neg (by rw [h.length]; decide)]
    rfl
  rw [← hall, putWords_allWords]
  unfold buildUcodeWrite
  rw [h.binSize, h.dataOffset, h.dataSize, hextend]
  rfl

/-! ### The two variable words -/

private theorem initial_slice (h : Stock stock) (value target : Int) :
    slice (putAll (pieces (allWords value target)) (extended stock)) 0x8C8C 4 = packed value := by
  have hwithin : Within (extended stock).length (pieces (allWords value target)) := by
    rw [h.length_extended]
    exact within_pieces (allWords_within value target)
  have hspared : Spared 0x8C8C (0x8C8C + (packed value).length) (pieces ((0x8C90, target) :: trailing)) := by
    rw [length_packed]
    refine spared_pieces ?_
    rw [List.forall_mem_cons]
    exact ⟨.inl (Nat.le_refl _), by decide⟩
  rw [allWords_eq] at hwithin ⊢
  simp only [pieces, List.map_append, List.map_cons] at hwithin hspared ⊢
  have hslice := slice_putAll hwithin hspared
  rwa [length_packed] at hslice

private theorem target_slice (h : Stock stock) (value target : Int) :
    slice (putAll (pieces (allWords value target)) (extended stock)) 0x8C90 4 = packed target := by
  have hwithin : Within (extended stock).length (pieces (allWords value target)) := by
    rw [h.length_extended]
    exact within_pieces (allWords_within value target)
  have hspared : Spared 0x8C90 (0x8C90 + (packed target).length) (pieces trailing) := by
    rw [length_packed]
    exact spared_pieces (by decide)
  have hsplit : allWords value target = (leading ++ [(0x8C8C, value)]) ++ (0x8C90, target) :: trailing := rfl
  rw [hsplit] at hwithin ⊢
  simp only [pieces, List.map_append, List.map_cons] at hwithin hspared ⊢
  have hslice := slice_putAll hwithin hspared
  rwa [length_packed] at hslice

/-- The region of the two variable words. -/
def Variable (i : Nat) : Prop := 0x8C8C ≤ i ∧ i < 0x8C94

/-- The words for two pairs of arguments differ in the variable ones alone. -/
theorem alike_pieces (value target value' target' : Int) :
    List.Forall₂ (Alike Variable) (pieces (allWords value target)) (pieces (allWords value' target')) := by
  have hsame : ∀ words, List.Forall₂ (Alike Variable) (pieces words) (pieces words) :=
    fun words => List.forall₂_same.2 fun w _ => Alike.refl Variable w
  have hvariable : ∀ (offset : Nat) (v v' : Int), 0x8C8C ≤ offset → offset + 4 ≤ 0x8C94 →
      Alike Variable (offset, packed v) (offset, packed v') := by
    intro offset v v' hlow hhigh
    refine ⟨rfl, by simp, .inr fun i hi hlt => ?_⟩
    simp only [length_packed] at hi hlt
    exact ⟨by omega, by omega⟩
  rw [allWords_eq, allWords_eq]
  unfold pieces
  rw [List.map_append, List.map_append, List.map_cons, List.map_cons, List.map_cons, List.map_cons]
  refine List.rel_append (hsame leading) (.cons ?_ (.cons ?_ (hsame trailing)))
  · exact hvariable 0x8C8C value value' (by decide) (by decide)
  · exact hvariable 0x8C90 target target' (by decide) (by decide)

/-- The words at 0x08 and 0x14 and those of the live frame are all there is. -/
theorem spared_stock {i : Nat} (hi : i < 0x4900) (hsize : ¬(0x08 ≤ i ∧ i < 0x0C)) (hdata : ¬(0x14 ≤ i ∧ i < 0x18))
    (value target : Int) : Spared i (i + 1) (pieces (allWords value target)) := by
  have hoffsets : ∀ offset ∈ (allWords value target).map Prod.fst, offset = 0x08 ∨ offset = 0x14 ∨ 0x4900 ≤ offset := by
    have hsame : (allWords value target).map Prod.fst = (allWords 0 0).map Prod.fst := rfl
    rw [hsame]
    decide
  refine spared_pieces fun w hw => ?_
  have hoffset := hoffsets w.1 (List.mem_map_of_mem hw)
  omega

/-- The payload has its size and its two words, and is the stock image below it but for two header words; payloads of
one stock image differ in the two variable words alone. -/
theorem ucode_isolated (h : Stock stock) {value target : Int} (hvalue : 0 ≤ value ∧ value < 2 ^ 32)
    (htarget : 0 ≤ target ∧ target < 2 ^ 32) :
    ∃ out, buildUcodeWrite stock value target = .ok out ∧ out.length = 0x8E00 ∧
      Bytes.value (slice out 0x8C8C 4) = value ∧ Bytes.value (slice out 0x8C90 4) = target ∧
      (∀ i < 0x4900, ¬(0x08 ≤ i ∧ i < 0x0C) → ¬(0x14 ≤ i ∧ i < 0x18) → out[i]? = stock[i]?) ∧
      ∀ value' target' out', 0 ≤ value' ∧ value' < 2 ^ 32 → 0 ≤ target' ∧ target' < 2 ^ 32 →
        buildUcodeWrite stock value' target' = .ok out' →
        out'.length = out.length ∧ ∀ i, out[i]? ≠ out'[i]? → 0x8C8C ≤ i ∧ i ≤ 0x8C93 := by
  have hwithin : Within (extended stock).length (pieces (allWords value target)) := by
    rw [h.length_extended]
    exact within_pieces (allWords_within value target)
  refine ⟨_, buildUcodeWrite_ok h value target, (length_putAll hwithin).trans h.length_extended, ?_, ?_, ?_, ?_⟩
  · rw [initial_slice h, value_packed hvalue.1 hvalue.2, Int.toNat_of_nonneg hvalue.1]
  · rw [target_slice h, value_packed htarget.1 htarget.2, Int.toNat_of_nonneg htarget.1]
  · intro i hi hsize hdata
    rw [getElem?_putAll hwithin (spared_stock hi hsize hdata value target), extended,
      List.getElem?_append_left (by rw [h.length]; exact hi)]
  · intro value' target' out' _ _ hout
    rw [buildUcodeWrite_ok h value' target'] at hout
    rw [← Except.ok.inj hout]
    have hagree := (Agree.refl Variable (extended stock)).putAll (alike_pieces value target value' target') hwithin
    refine ⟨hagree.1.symm, fun i hdiffer => ?_⟩
    have hregion : Variable i := by
      by_contra hsame
      exact hdiffer (hagree.2 i hsame)
    unfold Variable at hregion
    omega

private theorem expect_ok {offset expected : Nat} (hfits : offset + 4 ≤ stock.length)
    (hword : value (slice stock offset 4) = expected) (text : String) : expect stock offset expected text = .ok () := by
  unfold expect unpackU32
  rw [if_pos hfits, hword]
  exact if_neg (by simp)

/-- An image of zeros but for the header words. -/
def blank : List UInt8 :=
  putAll [(0x08, digits 4 0x4900), (0x10, digits 4 0x200), (0x14, digits 4 0x4700)] (List.replicate 0x4900 0)

theorem blank_stock : Stock blank := by
  have hwithin : Within (List.replicate 0x4900 (0 : UInt8)).length
      [(0x08, digits 4 0x4900), (0x10, digits 4 0x200), (0x14, digits 4 0x4700)] := by
    rw [List.length_replicate]
    decide
  have hlength : blank.length = 0x4900 := (length_putAll hwithin).trans List.length_replicate
  have hword : ∀ (pre : List (Nat × List UInt8)) {post offset x}, offset ≤ 0x14 → x < 2 ^ 32 →
      [(0x08, digits 4 0x4900), (0x10, digits 4 0x200), (0x14, digits 4 0x4700)] = pre ++ (offset, digits 4 x) :: post →
      Spared offset (offset + 4) post → ∀ text, expect blank offset x text = .ok () := by
    intro pre post offset x hoffset hx hsplit hspared text
    have hfits : offset + 4 ≤ blank.length := by omega
    refine expect_ok hfits ?_ text
    have hslice := slice_putAll (hsplit ▸ hwithin) (by rwa [length_digits])
    rw [length_digits] at hslice
    have hmod : x % 256 ^ 4 = x := Nat.mod_eq_of_lt (by omega)
    rw [blank, hsplit, hslice, value_digits, hmod]
  refine ⟨hlength, ?_, ?_, ?_⟩
  · exact hword [] (by decide) (by decide) rfl (by decide) _
  · exact hword [(0x08, digits 4 0x4900)] (by decide) (by decide) rfl (by decide) _
  · exact hword [(0x08, digits 4 0x4900), (0x10, digits 4 0x200)] (by decide) (by decide) rfl (by decide) _

/-- The words of the Tensor payload. -/
theorem tensor_isolated :
    ∃ out, buildUcode blank = .ok out ∧ out.length = 0x8E00 ∧
      (Bytes.value (slice out 0x8C8C 4) : Int) = 0x00000888 ∧
        (Bytes.value (slice out 0x8C90 4) : Int) = 0x00409664 := by
  have hvalue : (0 : Int) ≤ 0x00000888 ∧ (0x00000888 : Int) < 2 ^ 32 := by decide
  have htarget : (0 : Int) ≤ 0x00409664 ∧ (0x00409664 : Int) < 2 ^ 32 := by decide
  obtain ⟨out, hout, hlength, hvalue, htarget, -⟩ := ucode_isolated blank_stock hvalue htarget
  exact ⟨out, hout, hlength, hvalue, htarget⟩

end CmpUnlocker.Payloads
