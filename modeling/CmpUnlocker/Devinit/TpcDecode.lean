import CmpUnlocker.Devinit.TpcPath

/-!
# The views of the TPC path

`decode` of `analyze_devinit_tpc_path.py` reads the subscript at a known offset three times: as a direct condition, as a
sequence of six values behind it, and as one of the blocks of the guarded family.  The three agree
(`decode_views_agree`): the block has the reported guard, and its only write is the reported sequence.
-/

namespace CmpUnlocker.Devinit

open Bytes Outcome

structure TpcSequence where
  fileOffset : ℕ
  base : ℕ
  values : List ℕ
  deriving DecidableEq, Repr

/-- `sequence` -/
def tpcSequence (data : List UInt8) (offset : ℕ) : Except Fault TpcSequence := do
  let op ← byteAt data offset
  require (op = 0x58) "Expected ZM_REG_SEQUENCE"
  let base ← unpackFrom data (offset + 1) 4 1
  let count ← unpackFrom data (offset + 5) 1 1
  require (base.getD 0 0 = 0x21838 ∧ count.getD 0 0 = 6) "Unexpected TPC sequence shape"
  let values ← unpackFrom data (offset + 6) 4 6
  return ⟨offset, base.getD 0 0, values⟩

/-- `condition_skip`: a match keeps the state, and only `RESUME` clears it. -/
def conditionSkip (incomingSkip : Bool) (registerValue mask compare : ℕ) : Bool :=
  incomingSkip || registerValue &&& mask != compare

/-- The digest of `ROMS`. -/
def Rom.digest : Rom → String
  | .cmp => "e77a5ca44212927a06004fd9910d5456302750e11a773c84817e8fef5ee8e46b"
  | .v100 => "c45cf4cca3531de82b7b1a587b81f9f31d58e5589fafad0bb431bb95d89d61d8"

def Rom.first : Rom → ℕ
  | .cmp => 0x80D2
  | .v100 => 0x807D

def Rom.second : Rom → ℕ
  | .cmp => 0x8CD0
  | .v100 => 0x8C5C

def Rom.label : Rom → String
  | .cmp => "CMP"
  | .v100 => "V100"

structure Decoded where
  conditionOffset : ℕ
  tableBase : ℕ
  index : ℕ
  predicate : List ℕ
  precedingWrite : List ℕ
  tpcSequences : List TpcSequence
  directCondition : Guard
  guardedFamily : Family
  skipWithIncomingAllow : List Bool

/-- `decode`, with the function for SHA-256 as a parameter. -/
def decode (sha256 : List UInt8 → String) (label : Rom) (data : List UInt8) : Except Fault Decoded := do
  require (sha256 data = label.digest) (label.label ++ ": SHA-256 mismatch")
  let op ← byteAt data label.first
  require (op = 0x75) "Expected CONDITION"
  let index ← byteAt data (label.first + 1)
  let pointer ← unpackFrom data (0xC83 + 6) 2 1
  let conditionBase := 0xA00 + pointer.getD 0 0
  let predicate ← unpackFrom data (conditionBase + 12 * index.toNat) 4 3
  let op ← byteAt data (label.first + 2)
  require (op = 0x7A) "Expected ZM_REG"
  let preceding ← unpackFrom data (label.first + 3) 4 2
  require (preceding = [0x2181C, 0]) "Unexpected preceding register write"
  let op ← byteAt data label.second
  require (op = 0xAC) "Expected direct register condition"
  require (slice data (label.second + 1) 12 = [0x70, 0x24, 0x02, 0x00, 0x01, 0x00, 0x00, 0x00, 0x00, 0x00, 0x00, 0x00])
    "Unexpected 0xac payload"
  require (slice data (label.second + 43) 2 = [0x72, 0x71]) "Expected RESUME/DONE boundary"
  let sequence₁ ← tpcSequence data (label.first + 11)
  let sequence₂ ← tpcSequence data (label.second + 13)
  let direct ← directCondition data label.second
  let family ← guardedFamily data label.second label
  return ⟨label.first, conditionBase, index.toNat, predicate, preceding, [sequence₁, sequence₂], direct, family,
    [0x23, 1].map fun x => conditionSkip false x 1 0⟩

/-! ### The sequence as a write -/

variable {data : List UInt8} {pos : ℕ}

def TpcSequence.write (s : TpcSequence) : Write := .zmRegSequence s.base s.values

/-- A sequence is read where its write stands. -/
theorem tpcSequence_sound {s : TpcSequence} (h : tpcSequence data pos = .ok s) :
    s.fileOffset = pos ∧ s.base = 0x21838 ∧ s.values.length = 6 ∧ Has data pos s.write.bytes ∧ s.write.Fits := by
  unfold tpcSequence at h
  simp only [bind_eq_ok, require_eq_ok, byteAt_eq_ok] at h
  obtain ⟨op, hop, -, rfl, base, hbase, count, hcount, -, ⟨hshape, hsix⟩, values, hvalues, hs⟩ := h
  cases hs
  have hlength : values.length = 6 := by
    obtain ⟨-, hrow⟩ := unpackFrom_eq_ok.1 hvalues
    rw [← hrow, length_row]
  have hwrite : readWrite data 0x58 pos = .ok (.zmRegSequence (base.getD 0 0) values) := by
    rw [readWrite, if_neg (by decide), if_neg (by decide), if_pos rfl]
    refine bind_eq_ok.2 ⟨base, hbase, bind_eq_ok.2 ⟨count, hcount, bind_eq_ok.2 ⟨values, ?_, rfl⟩⟩⟩
    rw [hsix]
    exact hvalues
  exact ⟨rfl, hshape, hlength, readWrite_sound hop hwrite⟩

private theorem tpcSequence_complete {values : List ℕ} (hsix : values.length = 6)
    (hhas : Has data pos (Write.zmRegSequence 0x21838 values).bytes)
    (hfits : (Write.zmRegSequence 0x21838 values).Fits) : tpcSequence data pos = .ok ⟨pos, 0x21838, values⟩ := by
  obtain ⟨hop, -⟩ := has_cons.1 hhas
  obtain ⟨hbase, hcount, hwords⟩ := unpackFrom_sequence hhas hfits
  rw [hsix] at hcount hwords
  unfold tpcSequence
  simp only [bind_eq_ok, require_eq_ok, byteAt_eq_ok]
  exact ⟨_, hop, (), rfl, _, hbase, _, hcount, (), ⟨rfl, rfl⟩, _, hwords, rfl⟩

/-! ### The views -/

/-- The three views of the subscript at the second offset. -/
def Decoded.Agree (label : Rom) (r : Decoded) : Prop :=
  r.directCondition = ⟨label.second, 0x22470, 1, 0⟩ ∧
    ∃ s₁ s₂, r.tpcSequences = [s₁, s₂] ∧ s₂.fileOffset = label.second + 13 ∧ s₂.base = 0x21838 ∧ s₂.values.length = 6 ∧
      ∃ b ∈ r.guardedFamily.blocks, b.guard = r.directCondition ∧ b.writes = [s₂.write] ∧
        b.endExclusive = label.second + 45

/-- The guard of a block is the direct condition at its start. -/
theorem Block.Stands.guard {call : ℕ} {b : Block} (h : b.Stands data call) {g : Guard}
    (hg : directCondition data b.guard.fileOffset = .ok g) : b.guard = g := by
  obtain ⟨hguard, -⟩ := has_append.1 h.script
  have hread : directCondition data b.guard.fileOffset = .ok b.guard :=
    directCondition_iff.2 ⟨rfl, hguard, h.guardFits⟩
  rw [hread] at hg
  exact Except.ok.inj hg

/-- The writes of a block are what the loop reads. -/
theorem Block.Stands.read {call : ℕ} {b : Block} (h : b.Stands data call) :
    readWrites data b.guard.fileOffset (b.guard.fileOffset + 13) =
      .ok (b.writes, b.guard.fileOffset + 13 + b.writeBytes.length) := by
  obtain ⟨-, hrest⟩ := has_append.1 h.script
  obtain ⟨hwrites, hend⟩ := has_append.1 hrest
  have hbounded := h.bounded
  refine readWrites_iff.2 ⟨hwrites, rfl, .inl (has_cons.1 hend).1, h.fits, fun _ => ?_⟩
  omega

/-- What `decode` reports of the subscript at the second offset is one and the same. -/
theorem decode_views_agree (sha256 : List UInt8 → String) (label : Rom) (data : List UInt8) {r : Decoded}
    (h : decode sha256 label data = .ok r) : r.Agree label := by
  unfold decode at h
  simp only [bind_eq_ok, require_eq_ok, byteAt_eq_ok] at h
  obtain ⟨-, -, _, -, -, -, index, -, pointer, -, predicate, -, _, -, -, -, preceding, -, -, -, op, hop, -, rfl, -,
    hpayload, -, hend, s₁, -, s₂, hs₂, direct, hdirect, family, hfamily, hr⟩ := h
  cases hr
  obtain ⟨hoffset, hbase, hsix, hhas, hfits⟩ := tpcSequence_sound hs₂
  obtain ⟨b, hb, htarget⟩ := ((guardedFamily_iff data label.second label family).1 hfamily).target
  obtain ⟨i, hi, rfl⟩ := List.mem_iff_getElem.1 hb
  have hstands := ((guardedFamily_iff data label.second label family).1 hfamily).blocks i hi
  have hknown : directCondition data label.second = .ok ⟨label.second, 0x22470, 1, 0⟩ := by
    have hwords : words [0x22470, 1, 0] =
        [0x70, 0x24, 0x02, 0x00, 0x01, 0x00, 0x00, 0x00, 0x00, 0x00, 0x00, 0x00] := by decide
    refine directCondition_iff.2 ⟨rfl, has_cons.2 ⟨hop, ?_⟩, by simp [Guard.Fits]⟩
    rw [hwords]
    exact hpayload
  have hguard : direct = ⟨label.second, 0x22470, 1, 0⟩ := Except.ok.inj (hdirect.symm.trans hknown)
  have hread : readWrites data label.second (label.second + 13) = .ok ([s₂.write], label.second + 43) := by
    have hlength : ([s₂.write].flatMap Write.bytes).length = 30 := by
      rw [List.flatMap_singleton, Write.length_bytes]
      simp [TpcSequence.write, Write.size, hsix]
    have hboundary : Has data (label.second + 43) [0x72, 0x71] := hend
    refine readWrites_iff.2 ⟨?_, ?_, .inl (has_cons.1 hboundary).1, by simpa using hfits, fun _ => ?_⟩
    · rwa [List.flatMap_singleton]
    · rw [hlength]
    · omega
  have hsame := hstands.read
  rw [htarget, hread] at hsame
  obtain ⟨hwrites, hstop⟩ := Prod.mk.inj (Except.ok.inj hsame)
  refine ⟨hguard, s₁, s₂, rfl, hoffset, hbase, hsix, _, hb, ?_, hwrites.symm, ?_⟩
  · exact hstands.guard (by rw [htarget]; exact hdirect)
  · rw [hstands.endExclusive, Block.length_bytes, htarget]
    omega

/-! ### A ROM -/

def sixWrites : Write := .zmRegSequence 0x21838 [1, 2, 3, 4, 5, 6]

/-- The pointer to the table of conditions; the condition, the write and the sequence at the first offset; the parent,
which calls one subscript five times; and this subscript at the second offset. -/
def romPieces : List (ℕ × List UInt8) :=
  [(0xC89, [0, 0]), (0x80D2, [0x75, 0, 0x7A] ++ (words [0x2181C, 0] ++ sixWrites.bytes)),
    (0x8C87, [0x75, 0, 0x5B, 0xD0, 0x82, 0x5B, 0xD0, 0x82, 0x5B, 0xD0, 0x82, 0x5B, 0xD0, 0x82, 0x5B, 0xD0, 0x82, 0x72,
      0x71]),
    (0x8CD0, 0xAC :: (words [0x22470, 1, 0] ++ (sixWrites.bytes ++ [0x72, 0x71])))]

def rom : List UInt8 := putAll romPieces (List.replicate 0x8D00 0)

private theorem within_rom : Within (List.replicate 0x8D00 (0 : UInt8)).length romPieces := by
  rw [List.length_replicate]
  decide

private theorem length_rom : rom.length = 0x8D00 := by
  rw [rom, length_putAll within_rom, List.length_replicate]

/-- A piece is where it was put, unless a later one was put over it. -/
theorem has_rom (i : ℕ) {offset : ℕ} {bytes : List UInt8} (hpiece : romPieces[i]? = some (offset, bytes))
    (hspared : Spared offset (offset + bytes.length) (romPieces.drop (i + 1))) : Has rom offset bytes := by
  obtain ⟨hlt, hget⟩ := List.getElem?_eq_some_iff.1 hpiece
  have hpieces : romPieces = romPieces.take i ++ (offset, bytes) :: romPieces.drop (i + 1) := by
    rw [← hget, ← List.drop_eq_getElem_cons hlt, List.take_append_drop]
  have hwithin := within_rom
  rw [hpieces] at hwithin
  have hslice := slice_putAll hwithin hspared
  rw [← hpieces] at hslice
  exact hslice

def romBlock (i : ℕ) : Block := ⟨0x8C89 + 3 * i, ⟨0x8CD0, 0x22470, 1, 0⟩, [sixWrites], 0x8CFD⟩

private theorem has_subscript : Has rom 0x8CD0 (romBlock 0).bytes := has_rom 3 rfl (by decide)

private theorem call_romBlock (i : ℕ) : (romBlock i).call = [0x5B, 0xD0, 0x82] := by
  have hpointer : digits 2 (0x8CD0 - 0xA00) = [0xD0, 0x82] := by decide +kernel
  exact congrArg (0x5B :: ·) hpointer

private theorem romBlock_stands (i : ℕ) (hcall : Has rom (0x8C89 + 3 * i) [0x5B, 0xD0, 0x82]) :
    (romBlock i).Stands rom (0x8C89 + 3 * i) := by
  have hlength : (romBlock i).writeBytes.length = 30 := rfl
  refine ⟨rfl, (call_romBlock i).symm ▸ hcall, has_subscript, ?_, ?_, ?_, ?_, ?_, ?_⟩
  · simp [romBlock]
  · simp [romBlock]
  · simp [romBlock, Guard.Fits]
  · simp [romBlock, sixWrites, Write.Fits]
  · rw [hlength]
    decide
  · rw [Block.length_bytes, hlength]
    simp [romBlock]

private theorem romFamily_stands : (Family.mk 0x8C87 0 [] ((List.range 5).map romBlock)).Stands rom 0x8CD0 .cmp := by
  have hcalls : ((List.range 5).map romBlock).flatMap Block.call =
      [0x5B, 0xD0, 0x82, 0x5B, 0xD0, 0x82, 0x5B, 0xD0, 0x82, 0x5B, 0xD0, 0x82, 0x5B, 0xD0, 0x82] := by
    simp only [List.flatMap_map, call_romBlock]
    rfl
  have hscript : Has rom 0x8C87
      (0x75 :: 0 :: ([] ++ (((List.range 5).map romBlock).flatMap Block.call ++ [0x72, 0x71]))) := by
    rw [hcalls]
    exact has_rom 2 rfl (by decide)
  have heach : ∀ i (h : i < ((List.range 5).map romBlock).length),
      Has rom (0x8C89 + 3 * i) ((List.range 5).map romBlock)[i].call := by
    obtain ⟨-, hrest⟩ := has_cons.1 hscript
    obtain ⟨-, hrest⟩ := has_cons.1 hrest
    obtain ⟨-, hrest⟩ := has_append.1 hrest
    obtain ⟨hblocks, -⟩ := has_append.1 hrest
    have hpos : 0x8C87 + 1 + 1 + ([] : List UInt8).length = 0x8C89 := by simp
    rw [hpos] at hblocks
    exact (has_flatMap Block.length_call).1 hblocks
  have hmem : romBlock 0 ∈ (List.range 5).map romBlock := List.mem_map_of_mem (by simp)
  refine ⟨rfl, hscript, rfl, rfl, by simp, fun i hi => ?_, ⟨romBlock 0, hmem, rfl⟩⟩
  have hcall := heach i hi
  simp only [List.getElem_map, List.getElem_range, call_romBlock] at hcall ⊢
  exact romBlock_stands i hcall

private theorem unpackFrom_rom {pos n count : ℕ} (h : pos + n * count ≤ 0x8D00) :
    unpackFrom rom pos n count = .ok (row rom pos n count) := by
  refine unpackFrom_eq_ok.2 ⟨?_, rfl⟩
  rwa [length_rom]

theorem decode_views_agree_rom : ∃ r, decode (fun _ => Rom.cmp.digest) .cmp rom = .ok r ∧ r.Agree .cmp := by
  have hfirst : Has rom 0x80D2 ([0x75, 0, 0x7A] ++ (words [0x2181C, 0] ++ sixWrites.bytes)) :=
    has_rom 1 rfl (by decide)
  have hpointer : Has rom (0xC83 + 6) [0, 0] := has_rom 0 rfl (by decide)
  obtain ⟨hhead, hrest⟩ := has_append.1 hfirst
  obtain ⟨hop₁, hhead⟩ := has_cons.1 hhead
  obtain ⟨hindex, hop₂⟩ := has_cons.1 hhead
  obtain ⟨hpreceding, hsequence₁⟩ := has_append.1 hrest
  obtain ⟨hguard, hscript⟩ := has_append.1 has_subscript
  obtain ⟨hsequence₂, hend⟩ := has_append.1 hscript
  obtain ⟨hop₃, hpayload⟩ := has_cons.1 hguard
  have hread : unpackFrom rom (0xC83 + 6) 2 1 = .ok [0] := (unpackFrom_pointer (by decide)).2 hpointer
  have hwords : unpackFrom rom (Rom.cmp.first + 3) 4 2 = .ok [0x2181C, 0] :=
    (unpackFrom_words (by rw [length_rom]; decide)).2 ⟨hpreceding, by simp, rfl⟩
  have hfits : sixWrites.Fits := by simp [sixWrites, Write.Fits]
  have hdirect : directCondition rom 0x8CD0 = .ok ⟨0x8CD0, 0x22470, 1, 0⟩ :=
    directCondition_iff.2 ⟨rfl, hguard, by simp [Guard.Fits]⟩
  have hdecode : ∃ r, decode (fun _ => Rom.cmp.digest) .cmp rom = .ok r := by
    unfold decode
    simp only [bind_eq_ok, require_eq_ok, byteAt_eq_ok]
    exact ⟨_, (), trivial, _, hop₁, (), rfl, _, hindex, _, hread, _, unpackFrom_rom (by decide), _,
      has_singleton.1 hop₂, (), rfl, _, hwords, (), rfl, _, hop₃, (), rfl, (), hpayload, (), hend, _,
      tpcSequence_complete rfl hsequence₁ hfits, _, tpcSequence_complete rfl hsequence₂ hfits, _, hdirect, _,
      (guardedFamily_iff _ _ _ _).2 romFamily_stands, rfl⟩
  obtain ⟨r, hr⟩ := hdecode
  exact ⟨r, hr, decode_views_agree _ _ _ hr⟩

end CmpUnlocker.Devinit
