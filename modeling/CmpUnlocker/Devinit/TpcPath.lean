import CmpUnlocker.Lib.Layout
import CmpUnlocker.Lib.Outcome
import Mathlib.Data.Nat.Notation

/-!
# Decoding the TPC path of DEVINIT

`analyze_devinit_tpc_path.py` reads a parent script and the subscripts it calls, opcode by opcode, out of a ROM.  A
subscript is a guard and writes of three kinds; a loop follows the writes up to the first `RESUME` or `DONE`, which must
stand less than 128 bytes behind the start.  What it reports is what stands there: the bytes of the scripts are the
encoding of the report, and every ROM with these bytes gives this report (`guardedFamily_iff`).
-/

namespace CmpUnlocker.Devinit

open Bytes Outcome

/-! ### Reading -/

inductive Fault
  | valueError (text : String)
  | structError
  | indexError
  deriving DecidableEq, Repr

def require (condition : Prop) [Decidable condition] (text : String) : Except Fault Unit :=
  if condition then .ok () else .error (.valueError text)

/-- `data[pos]` -/
def byteAt (data : List UInt8) (pos : ℕ) : Except Fault UInt8 :=
  match data[pos]? with
  | some byte => .ok byte
  | none => .error .indexError

/-- `struct.unpack_from` with `count` numbers of `n` bytes. -/
def unpackFrom (data : List UInt8) (pos n count : ℕ) : Except Fault (List ℕ) :=
  if pos + n * count ≤ data.length then .ok (row data pos n count) else .error .structError

/-- `hex` -/
def hexText (n : ℕ) : String := "0x" ++ String.ofList (Nat.toDigits 16 n)

section

theorem require_eq_ok {c : Prop} [Decidable c] {text : String} {u : Unit} : require c text = .ok u ↔ c := by
  unfold require
  split
  · simpa
  · simpa

theorem byteAt_eq_ok {data : List UInt8} {pos : ℕ} {byte : UInt8} :
    byteAt data pos = .ok byte ↔ data[pos]? = some byte := by
  unfold byteAt
  split
  · next b h => simp [h]
  · next h => simp [h]

theorem unpackFrom_eq_ok {data : List UInt8} {pos n count : ℕ} {values : List ℕ} :
    unpackFrom data pos n count = .ok values ↔ pos + n * count ≤ data.length ∧ row data pos n count = values := by
  unfold unpackFrom
  split
  · next h => simp [h]
  · next h => simp [h]

end

/-! ### Scripts -/

/-- What the source reports of a write. -/
inductive Write
  | nvReg (register andMask orMask : ℕ)
  | zmReg (register value : ℕ)
  | zmRegSequence (base : ℕ) (values : List ℕ)
  deriving DecidableEq, Repr

/-- The numbers of 32 bits as they stand in a script. -/
def words (values : List ℕ) : List UInt8 := values.flatMap (digits 4)

namespace Write

def bytes : Write → List UInt8
  | nvReg register andMask orMask => 0x6E :: words [register, andMask, orMask]
  | zmReg register value => 0x7A :: words [register, value]
  | zmRegSequence base values => 0x58 :: (digits 4 base ++ (UInt8.ofNat values.length :: words values))

/-- The numbers fit into their fields. -/
def Fits : Write → Prop
  | nvReg register andMask orMask => register < 2 ^ 32 ∧ andMask < 2 ^ 32 ∧ orMask < 2 ^ 32
  | zmReg register value => register < 2 ^ 32 ∧ value < 2 ^ 32
  | zmRegSequence base values => base < 2 ^ 32 ∧ values.length < 256 ∧ ∀ value ∈ values, value < 2 ^ 32

/-- By how much `pos` advances. -/
def size : Write → ℕ
  | nvReg _ _ _ => 13
  | zmReg _ _ => 9
  | zmRegSequence _ values => 6 + values.length * 4

end Write

/-- The branch of the loop for the opcode at `pos`. -/
def readWrite (data : List UInt8) (op : UInt8) (pos : ℕ) : Except Fault Write :=
  if op = 0x6E then do
    let fields ← unpackFrom data (pos + 1) 4 3
    return .nvReg (fields.getD 0 0) (fields.getD 1 0) (fields.getD 2 0)
  else if op = 0x7A then do
    let fields ← unpackFrom data (pos + 1) 4 2
    return .zmReg (fields.getD 0 0) (fields.getD 1 0)
  else if op = 0x58 then do
    let base ← unpackFrom data (pos + 1) 4 1
    let count ← unpackFrom data (pos + 5) 1 1
    let values ← unpackFrom data (pos + 6) 4 (count.getD 0 0)
    return .zmRegSequence (base.getD 0 0) values
  else .error (.valueError ("Unexpected opcode " ++ hexText op.toNat ++ " at " ++ hexText pos))

private theorem Write.size_pos (w : Write) : 0 < w.size := by
  cases w <;> simp only [size] <;> omega

/-- The loop over the writes of a subscript: the writes, and where they end. -/
def readWrites (data : List UInt8) (start pos : ℕ) : Except Fault (List Write × ℕ) :=
  match data[pos]? with
  | none => .error .indexError
  | some op =>
    if op = 0x72 ∨ op = 0x71 then .ok ([], pos)
    else
      match readWrite data op pos with
      | .error e => .error e
      | .ok w =>
        if pos + w.size - start < 128 then (readWrites data start (pos + w.size)).map fun rest => (w :: rest.1, rest.2)
        else .error (.valueError "Subscript exceeded bounded scope")
termination_by start + 128 - pos
decreasing_by
  have hsize := w.size_pos
  omega

structure Guard where
  fileOffset : ℕ
  register : ℕ
  mask : ℕ
  value : ℕ
  deriving DecidableEq, Repr

/-- `direct_condition` -/
def directCondition (data : List UInt8) (offset : ℕ) : Except Fault Guard := do
  require (offset + 13 ≤ data.length) "Truncated direct condition"
  let op ← byteAt data offset
  require (op = 0xAC) "Expected NV_REG_CONDITION_DIRECT"
  let fields ← unpackFrom data (offset + 1) 4 3
  return ⟨offset, fields.getD 0 0, fields.getD 1 0, fields.getD 2 0⟩

structure Block where
  callOffset : ℕ
  guard : Guard
  writes : List Write
  endExclusive : ℕ
  deriving DecidableEq, Repr

/-- The call at `call` and the subscript it names. -/
def readBlock (data : List UInt8) (call : ℕ) : Except Fault Block := do
  let op ← byteAt data call
  require (op = 0x5B) "Expected direct CALL"
  let pointer ← unpackFrom data (call + 1) 2 1
  let start := 0xA00 + pointer.getD 0 0
  let guard ← directCondition data start
  let (writes, pos) ← readWrites data start (start + 13)
  require (slice data pos 2 = [0x72, 0x71]) "Expected child RESUME/DONE"
  return ⟨call, guard, writes, pos + 2⟩

structure Inline where
  register : ℕ
  andMask : ℕ
  orMask : ℕ
  deriving DecidableEq, Repr

/-- The loop over the writes of the parent in front of its calls. -/
def readInline (data : List UInt8) (callStart pos : ℕ) : Except Fault (List Inline × ℕ) :=
  if pos < callStart then
    match data[pos]? with
    | none => .error .indexError
    | some op =>
      if op = 0x6E then
        match unpackFrom data (pos + 1) 4 3 with
        | .error e => .error e
        | .ok fields => (readInline data callStart (pos + 13)).map fun rest =>
          (⟨fields.getD 0 0, fields.getD 1 0, fields.getD 2 0⟩ :: rest.1, rest.2)
      else .error (.valueError "Expected parent NV_REG")
  else .ok ([], pos)
termination_by callStart - pos

inductive Rom
  | cmp
  | v100
  deriving DecidableEq, Repr

def Rom.parent : Rom → ℕ
  | cmp => 0x8C87
  | v100 => 0x8C25

def Rom.callStart : Rom → ℕ
  | cmp => 0x8C89
  | v100 => 0x8C4E

/-- The number of calls. -/
def Rom.count : Rom → ℕ
  | cmp => 5
  | v100 => 4

structure Family where
  parentOffset : ℕ
  conditionIndex : UInt8
  inline : List Inline
  blocks : List Block
  deriving DecidableEq, Repr

/-- `guarded_family` -/
def guardedFamily (data : List UInt8) (second : ℕ) (label : Rom) : Except Fault Family := do
  let op ← byteAt data label.parent
  require (op = 0x75) "Expected parent CONDITION"
  require (slice data (label.callStart + 3 * label.count) 2 = [0x72, 0x71]) "Bad parent boundary"
  let (inline, pos) ← readInline data label.callStart (label.parent + 2)
  require (pos = label.callStart) "Misaligned parent call boundary"
  let blocks ← (List.range label.count).mapM fun i => readBlock data (label.callStart + 3 * i)
  require (∃ b ∈ blocks, b.guard.fileOffset = second) "Missing TPC call"
  let index ← byteAt data (label.parent + 1)
  return ⟨label.parent, index, inline, blocks⟩

/-! ### What stands in the ROM -/

def Guard.bytes (g : Guard) : List UInt8 := 0xAC :: words [g.register, g.mask, g.value]

def Block.writeBytes (b : Block) : List UInt8 := b.writes.flatMap Write.bytes

/-- The subscript of a block. -/
def Block.bytes (b : Block) : List UInt8 := b.guard.bytes ++ (b.writeBytes ++ [0x72, 0x71])

/-- The call of the subscript. -/
def Block.call (b : Block) : List UInt8 := 0x5B :: digits 2 (b.guard.fileOffset - 0xA00)

def Inline.bytes (i : Inline) : List UInt8 := 0x6E :: words [i.register, i.andMask, i.orMask]

/-! ### One write -/

variable {data : List UInt8} {pos start : ℕ}

private theorem row_lt {n count : ℕ} : ∀ x ∈ row data pos n count, x < 256 ^ n := by
  intro x hx
  obtain ⟨i, -, rfl⟩ := List.mem_map.1 hx
  exact number_lt _ _ _

/-- Words are read where they stand. -/
theorem unpackFrom_words {values : List ℕ} {count : ℕ} (hpos : pos ≤ data.length) :
    unpackFrom data pos 4 count = .ok values ↔
      Has data pos (words values) ∧ (∀ x ∈ values, x < 2 ^ 32) ∧ values.length = count := by
  rw [unpackFrom_eq_ok]
  constructor
  · rintro ⟨hle, rfl⟩
    have hlength := length_row data pos 4 count
    refine ⟨(has_row (by decide) row_lt hpos).2 ⟨?_, ?_⟩, row_lt, hlength⟩
    · rwa [hlength]
    · rw [hlength]
  · rintro ⟨hhas, hlt, rfl⟩
    exact (has_row (by decide) hlt hpos).1 hhas

private theorem pos_le_of_getElem? {op : UInt8} (h : data[pos]? = some op) : pos + 1 ≤ data.length :=
  (List.getElem?_eq_some_iff.1 h).1

/-- What is read is what stands there. -/
theorem readWrite_sound {op : UInt8} {w : Write} (hop : data[pos]? = some op) (h : readWrite data op pos = .ok w) :
    Has data pos w.bytes ∧ w.Fits := by
  have hle := pos_le_of_getElem? hop
  unfold readWrite at h
  split at h
  · next hnv =>
    obtain ⟨fields, hfields, hw⟩ := bind_eq_ok.1 h
    obtain ⟨hhas, hlt, hlength⟩ := (unpackFrom_words hle).1 hfields
    obtain ⟨a, b, c, rfl⟩ := List.length_eq_three.1 hlength
    cases hw
    exact ⟨has_cons.2 ⟨hnv ▸ hop, hhas⟩, hlt a (by simp), hlt b (by simp), hlt c (by simp)⟩
  split at h
  · next hzm =>
    obtain ⟨fields, hfields, hw⟩ := bind_eq_ok.1 h
    obtain ⟨hhas, hlt, hlength⟩ := (unpackFrom_words hle).1 hfields
    obtain ⟨a, b, rfl⟩ := List.length_eq_two.1 hlength
    cases hw
    exact ⟨has_cons.2 ⟨hzm ▸ hop, hhas⟩, hlt a (by simp), hlt b (by simp)⟩
  split at h
  · next hseq =>
    obtain ⟨base, hbase, h⟩ := bind_eq_ok.1 h
    obtain ⟨count, hcount, h⟩ := bind_eq_ok.1 h
    obtain ⟨values, hvalues, hw⟩ := bind_eq_ok.1 h
    obtain ⟨hhas, hlt, hlength⟩ := (unpackFrom_words hle).1 hbase
    obtain ⟨a, rfl⟩ := List.length_eq_one_iff.1 hlength
    obtain ⟨hcle, hcrow⟩ := unpackFrom_eq_ok.1 hcount
    obtain ⟨n, rfl⟩ := List.length_eq_one_iff.1 (hcrow ▸ length_row data (pos + 5) 1 1)
    have hn : number data (pos + 5) 1 = n := (List.cons.inj hcrow).1
    obtain ⟨hvhas, hvlt, hvlength⟩ := (unpackFrom_words (by omega)).1 hvalues
    have hvn : values.length = n := hvlength
    cases hw
    have hsmall : n < 256 := hn ▸ number_lt data (pos + 5) 1
    refine ⟨has_cons.2 ⟨hseq ▸ hop, has_append.2 ⟨?_, ?_⟩⟩, hlt a (by simp), by omega, hvlt⟩
    · simpa [words] using hhas
    · rw [length_digits, ← List.singleton_append, has_append]
      have hdigit : Has data (pos + 5) (digits 1 n) := (has_digits (by decide) (by omega)).2 ⟨by omega, hn⟩
      refine ⟨?_, hvhas⟩
      rw [hvn]
      exact hdigit
  · cases h

/-- The fields of a sequence. -/
theorem unpackFrom_sequence {base : ℕ} {values : List ℕ} (hhas : Has data pos (Write.zmRegSequence base values).bytes)
    (hfits : (Write.zmRegSequence base values).Fits) :
    unpackFrom data (pos + 1) 4 1 = .ok [base] ∧ unpackFrom data (pos + 5) 1 1 = .ok [values.length] ∧
      unpackFrom data (pos + 6) 4 values.length = .ok values := by
  obtain ⟨hop, hrest⟩ := has_cons.1 hhas
  obtain ⟨hlt, hlength, hvalues⟩ := hfits
  rw [has_append, has_cons, length_digits] at hrest
  obtain ⟨hbase, hcount, hwords⟩ := hrest
  have hle := pos_le_of_getElem? hcount
  have hdigit : Has data (pos + 5) (digits 1 values.length) := has_singleton.2 hcount
  have hn : number data (pos + 5) 1 = values.length := ((has_digits (by decide) (by omega)).1 hdigit).2
  refine ⟨?_, unpackFrom_eq_ok.2 ⟨by omega, ?_⟩, ?_⟩
  · exact (unpackFrom_words (pos_le_of_getElem? hop)).2 ⟨by simpa [words] using hbase, by simpa using hlt, rfl⟩
  · rw [row_succ, hn]
    rfl
  · exact (unpackFrom_words (by omega)).2 ⟨hwords, hvalues, rfl⟩

private theorem readWrite_complete {w : Write} (hhas : Has data pos w.bytes) (hfits : w.Fits) :
    ∃ op, data[pos]? = some op ∧ ¬(op = 0x72 ∨ op = 0x71) ∧ readWrite data op pos = .ok w := by
  cases w with
  | nvReg a b c =>
    obtain ⟨hop, hwords⟩ := has_cons.1 hhas
    obtain ⟨ha, hb, hc⟩ := hfits
    have hfields : unpackFrom data (pos + 1) 4 3 = .ok [a, b, c] :=
      (unpackFrom_words (pos_le_of_getElem? hop)).2 ⟨hwords, by simp; omega, rfl⟩
    refine ⟨_, hop, by decide, ?_⟩
    simp [readWrite, hfields]
  | zmReg a b =>
    obtain ⟨hop, hwords⟩ := has_cons.1 hhas
    obtain ⟨ha, hb⟩ := hfits
    have hfields : unpackFrom data (pos + 1) 4 2 = .ok [a, b] :=
      (unpackFrom_words (pos_le_of_getElem? hop)).2 ⟨hwords, by simp; omega, rfl⟩
    refine ⟨_, hop, by decide, ?_⟩
    simp [readWrite, hfields]
  | zmRegSequence a values =>
    obtain ⟨hop, -⟩ := has_cons.1 hhas
    obtain ⟨hbase, hcount, hwords⟩ := unpackFrom_sequence hhas hfits
    refine ⟨_, hop, by decide, ?_⟩
    rw [readWrite, if_neg (by decide), if_neg (by decide), if_pos rfl]
    exact bind_eq_ok.2 ⟨_, hbase, bind_eq_ok.2 ⟨_, hcount, bind_eq_ok.2 ⟨_, hwords, rfl⟩⟩⟩

theorem Write.length_bytes (w : Write) : w.bytes.length = w.size := by
  cases w with
  | nvReg a b c => rfl
  | zmReg a b => rfl
  | zmRegSequence a values =>
    simp only [bytes, words, List.length_cons, List.length_append, length_digits, length_flatMap_digits, size]
    omega

/-! ### The loops -/

/-- One turn of the loop. -/
theorem readWrites_eq_ok {writes : List Write} {stop : ℕ} :
    readWrites data start pos = .ok (writes, stop) ↔ ∃ op, data[pos]? = some op ∧
      ((op = 0x72 ∨ op = 0x71) ∧ writes = [] ∧ stop = pos ∨
        ¬(op = 0x72 ∨ op = 0x71) ∧ ∃ w rest, readWrite data op pos = .ok w ∧ pos + w.size - start < 128 ∧
          readWrites data start (pos + w.size) = .ok (rest, stop) ∧ writes = w :: rest) := by
  rw [readWrites]
  constructor
  · intro h
    split at h
    · cases h
    next op hop =>
    refine ⟨op, hop, ?_⟩
    split at h
    · next hend =>
      cases h
      exact .inl ⟨hend, rfl, rfl⟩
    next hend =>
    split at h
    · cases h
    next w hw =>
    split at h
    · next hbound =>
      cases hrest : readWrites data start (pos + w.size) with
      | error e =>
        rw [hrest] at h
        cases h
      | ok rest =>
        rw [hrest] at h
        cases h
        exact .inr ⟨hend, w, rest.1, hw, hbound, hrest, rfl⟩
    · cases h
  · rintro ⟨op, hop, ⟨hend, rfl, rfl⟩ | ⟨hend, w, rest, hw, hbound, hrest, rfl⟩⟩
    · simp only [hop, if_pos hend]
    · simp only [hop, if_neg hend, hw, if_pos hbound, hrest]
      rfl

/-- The loop reads the writes up to the first `RESUME` or `DONE`, and no further than 128 bytes. -/
theorem readWrites_iff {writes : List Write} {stop : ℕ} :
    readWrites data start pos = .ok (writes, stop) ↔
      Has data pos (writes.flatMap Write.bytes) ∧ stop = pos + (writes.flatMap Write.bytes).length ∧
        (data[stop]? = some 0x72 ∨ data[stop]? = some 0x71) ∧ (∀ w ∈ writes, w.Fits) ∧
          (writes ≠ [] → stop - start < 128) := by
  induction writes generalizing pos with
  | nil =>
    rw [readWrites_eq_ok]
    constructor
    · rintro ⟨op, hop, ⟨hend, -, rfl⟩ | ⟨-, w, rest, -, -, -, hnil⟩⟩
      · refine ⟨has_nil, rfl, ?_, by simp, by simp⟩
        rw [hop]
        simpa using hend
      · cases hnil
    · rintro ⟨-, rfl, hend, -, -⟩
      rcases hend with hop | hop
      · exact ⟨_, hop, .inl ⟨.inl rfl, rfl, rfl⟩⟩
      · exact ⟨_, hop, .inl ⟨.inr rfl, rfl, rfl⟩⟩
  | cons w writes ih =>
    rw [readWrites_eq_ok, List.flatMap_cons, has_append, List.length_append, w.length_bytes]
    constructor
    · rintro ⟨op, hop, ⟨-, hnil, -⟩ | ⟨-, w', rest, hw, hbound, hrest, hcons⟩⟩
      · cases hnil
      · cases hcons
        obtain ⟨hhas, hstop, hend, hfits, hscope⟩ := ih.1 hrest
        obtain ⟨hbytes, hfit⟩ := readWrite_sound hop hw
        refine ⟨⟨hbytes, hhas⟩, by omega, hend, ?_, fun _ => ?_⟩
        · simpa using ⟨hfit, hfits⟩
        · -- The last check of the loop is the one that counts.
          cases writes with
          | nil =>
            rw [hstop]
            exact hbound
          | cons w' writes => exact hscope (by simp)
    · rintro ⟨⟨hbytes, hhas⟩, hstop, hend, hfits, hscope⟩
      obtain ⟨op, hop, hne, hw⟩ := readWrite_complete hbytes (hfits w List.mem_cons_self)
      have hlimit := hscope (by simp)
      have hrest : readWrites data start (pos + w.size) = .ok (writes, stop) :=
        ih.2 ⟨hhas, by omega, hend, fun w' hw' => hfits w' (List.mem_cons_of_mem _ hw'), fun _ => hlimit⟩
      exact ⟨op, hop, .inr ⟨hne, w, writes, hw, by omega, hrest, rfl⟩⟩

def Inline.Fits (i : Inline) : Prop := i.register < 2 ^ 32 ∧ i.andMask < 2 ^ 32 ∧ i.orMask < 2 ^ 32

theorem Inline.length_bytes (i : Inline) : i.bytes.length = 13 := rfl

private theorem forall_mem_three {P : ℕ → Prop} {a b c : ℕ} : (∀ x ∈ [a, b, c], P x) ↔ P a ∧ P b ∧ P c := by simp

/-- The writes of the parent fill the room in front of its calls. -/
theorem readInline_iff {inline : List Inline} {callStart : ℕ} :
    readInline data callStart pos = .ok (inline, callStart) ↔
      Has data pos (inline.flatMap Inline.bytes) ∧ pos + 13 * inline.length = callStart ∧ ∀ i ∈ inline, i.Fits := by
  induction inline generalizing pos with
  | nil =>
    rw [readInline]
    constructor
    · intro h
      split at h
      · split at h
        · cases h
        split at h
        · split at h
          · cases h
          next fields hfields =>
            cases hrest : readInline data callStart (pos + 13) <;> rw [hrest] at h <;> cases h
        · cases h
      · cases h
        exact ⟨has_nil, rfl, by simp⟩
    · rintro ⟨-, rfl, -⟩
      simp
  | cons w inline ih =>
    rw [readInline]
    constructor
    · intro h
      split at h
      · next hlt =>
        split at h
        · cases h
        next op hop =>
        split at h
        · next hnv =>
          split at h
          · cases h
          next fields hfields =>
          cases hrest : readInline data callStart (pos + 13) with
          | error e =>
            rw [hrest] at h
            cases h
          | ok rest =>
            rw [hrest] at h
            cases h
            obtain ⟨hhas, hlength, hfits⟩ := ih.1 hrest
            obtain ⟨hwords, hwlt, hthree⟩ := (unpackFrom_words (pos_le_of_getElem? hop)).1 hfields
            obtain ⟨a, b, c, rfl⟩ := List.length_eq_three.1 hthree
            refine ⟨?_, ?_, ?_⟩
            · exact has_append.2 ⟨has_cons.2 ⟨hnv ▸ hop, hwords⟩, hhas⟩
            · rw [List.length_cons]
              omega
            · simpa using ⟨forall_mem_three.1 hwlt, hfits⟩
        · cases h
      · cases h
    · rintro ⟨hhas, hlength, hfits⟩
      rw [List.flatMap_cons, has_append, Inline.length_bytes] at hhas
      rw [List.length_cons] at hlength
      obtain ⟨hop, hwords⟩ := has_cons.1 hhas.1
      have hfields : unpackFrom data (pos + 1) 4 3 = .ok [w.register, w.andMask, w.orMask] :=
        (unpackFrom_words (pos_le_of_getElem? hop)).2
          ⟨hwords, forall_mem_three.2 (hfits w List.mem_cons_self), rfl⟩
      have hrest : readInline data callStart (pos + 13) = .ok (inline, callStart) :=
        ih.2 ⟨hhas.2, by omega, fun i hi => hfits i (List.mem_cons_of_mem _ hi)⟩
      rw [if_pos (by omega)]
      simp only [hop, if_true, hfields, hrest]
      rfl

/-! ### A subscript -/

def Guard.Fits (g : Guard) : Prop := g.register < 2 ^ 32 ∧ g.mask < 2 ^ 32 ∧ g.value < 2 ^ 32

theorem directCondition_iff {g : Guard} :
    directCondition data start = .ok g ↔ g.fileOffset = start ∧ Has data start g.bytes ∧ g.Fits := by
  unfold directCondition
  simp only [bind_eq_ok, require_eq_ok, byteAt_eq_ok]
  constructor
  · rintro ⟨-, -, op, hop, -, rfl, fields, hfields, hg⟩
    obtain ⟨hwords, hlt, hthree⟩ := (unpackFrom_words (pos_le_of_getElem? hop)).1 hfields
    obtain ⟨a, b, c, rfl⟩ := List.length_eq_three.1 hthree
    cases hg
    exact ⟨rfl, has_cons.2 ⟨hop, hwords⟩, forall_mem_three.1 hlt⟩
  · rintro ⟨rfl, hhas, hfits⟩
    obtain ⟨hop, hwords⟩ := has_cons.1 hhas
    have hle := hhas.le (by simp [Guard.bytes])
    have hfields : unpackFrom data (g.fileOffset + 1) 4 3 = .ok [g.register, g.mask, g.value] :=
      (unpackFrom_words (pos_le_of_getElem? hop)).2 ⟨hwords, forall_mem_three.2 hfits, rfl⟩
    exact ⟨(), hle, _, hop, (), rfl, _, hfields, rfl⟩

/-- What stands in the ROM for a block: its call and its subscript, which is behind the header of the image, and whose
guard and writes take less than 128 bytes. -/
structure Block.Stands (data : List UInt8) (call : ℕ) (b : Block) : Prop where
  callOffset : b.callOffset = call
  called : Has data call b.call
  script : Has data b.guard.fileOffset b.bytes
  behind : 0xA00 ≤ b.guard.fileOffset
  near : b.guard.fileOffset < 0xA00 + 2 ^ 16
  guardFits : b.guard.Fits
  fits : ∀ w ∈ b.writes, w.Fits
  bounded : 13 + b.writeBytes.length < 128
  endExclusive : b.endExclusive = b.guard.fileOffset + b.bytes.length

/-- The pointer of a call. -/
theorem unpackFrom_pointer {p : ℕ} (hp : p < 2 ^ 16) :
    unpackFrom data pos 2 1 = .ok [p] ↔ Has data pos (digits 2 p) := by
  rw [unpackFrom_eq_ok, has_digits (by decide) (by omega), row_succ]
  simp [row]

theorem Block.length_bytes (b : Block) : b.bytes.length = 15 + b.writeBytes.length := by
  have hguard : b.guard.bytes.length = 13 := rfl
  have hend : [(0x72 : UInt8), 0x71].length = 2 := rfl
  rw [Block.bytes, List.length_append, List.length_append, hguard, hend]
  omega

private theorem readBlock_iff {call : ℕ} {b : Block} : readBlock data call = .ok b ↔ b.Stands data call := by
  unfold readBlock
  simp only [bind_eq_ok, require_eq_ok, byteAt_eq_ok, directCondition_iff]
  constructor
  · rintro ⟨op, hop, -, rfl, pointer, hpointer, g, ⟨hoffset, hguard, hgfits⟩, ⟨writes, stop⟩, hwrites, -, hend, hb⟩
    cases hb
    obtain ⟨-, hrow⟩ := unpackFrom_eq_ok.1 hpointer
    obtain ⟨p, rfl⟩ := List.length_eq_one_iff.1 (hrow ▸ length_row data (call + 1) 2 1)
    have hp : number data (call + 1) 2 = p := (List.cons.inj hrow).1
    have hlt : p < 2 ^ 16 := hp ▸ number_lt data (call + 1) 2
    have hstart : g.fileOffset = 0xA00 + p := hoffset
    rw [List.getD_cons_zero] at hguard hwrites
    obtain ⟨hhas, hstop, -, hfits, hscope⟩ := readWrites_iff.1 hwrites
    have hgap : g.fileOffset - 0xA00 = p := by omega
    have hboundary : Has data stop [0x72, 0x71] := hend
    have hshort : 13 + (writes.flatMap Write.bytes).length < 128 := by
      cases writes with
      | nil => decide
      | cons w writes =>
        have hlimit := hscope (by simp)
        omega
    refine ⟨rfl, ?_, ?_, ?_, ?_, hgfits, hfits, hshort, ?_⟩
    · show Has data call (0x5B :: digits 2 (g.fileOffset - 0xA00))
      rw [hgap]
      exact has_cons.2 ⟨hop, (unpackFrom_pointer hlt).1 hpointer⟩
    · show Has data g.fileOffset (g.bytes ++ (writes.flatMap Write.bytes ++ [0x72, 0x71]))
      rw [hstart]
      refine has_append.2 ⟨hguard, has_append.2 ⟨hhas, ?_⟩⟩
      rw [hstop] at hboundary
      exact hboundary
    · show 0xA00 ≤ g.fileOffset
      omega
    · show g.fileOffset < 0xA00 + 2 ^ 16
      omega
    · rw [Block.length_bytes]
      show stop + 2 = g.fileOffset + (15 + (writes.flatMap Write.bytes).length)
      omega
  · rintro ⟨rfl, hcalled, hscript, hbehind, hnear, hgfits, hfits, hbounded, hend⟩
    obtain ⟨hop, hpointer⟩ := has_cons.1 hcalled
    have hlt : b.guard.fileOffset - 0xA00 < 2 ^ 16 := by omega
    have hread := (unpackFrom_pointer hlt).2 hpointer
    have hstart : 0xA00 + [b.guard.fileOffset - 0xA00].getD 0 0 = b.guard.fileOffset := by
      rw [List.getD_cons_zero]
      omega
    obtain ⟨hguard, hrest⟩ := has_append.1 hscript
    obtain ⟨hhas, hboundary⟩ := has_append.1 hrest
    have hglength : b.guard.bytes.length = 13 := rfl
    rw [hglength] at hhas hboundary
    have hwrites : readWrites data b.guard.fileOffset (b.guard.fileOffset + 13) =
        .ok (b.writes, b.guard.fileOffset + 13 + b.writeBytes.length) := by
      refine readWrites_iff.2 ⟨hhas, rfl, .inl (has_cons.1 hboundary).1, hfits, fun _ => ?_⟩
      omega
    refine ⟨_, hop, (), rfl, _, hread, b.guard, ?_, (b.writes, b.guard.fileOffset + 13 + b.writeBytes.length), ?_, (),
      hboundary, ?_⟩
    · rw [hstart]
      exact ⟨rfl, hguard, hgfits⟩
    · rw [hstart]
      exact hwrites
    · rw [Block.length_bytes] at hend
      obtain ⟨callOffset, guard, writes, endExclusive⟩ := b
      have hlast : endExclusive = guard.fileOffset + 13 + (writes.flatMap Write.bytes).length + 2 := by
        have hend' : endExclusive = guard.fileOffset + (15 + (writes.flatMap Write.bytes).length) := hend
        omega
      rw [hlast]
      rfl

/-! ### The parent -/

/-- What stands in the ROM for a family: the parent script with its own writes and its calls, and the subscripts. -/
structure Family.Stands (data : List UInt8) (second : ℕ) (label : Rom) (f : Family) : Prop where
  parentOffset : f.parentOffset = label.parent
  script : Has data label.parent
    (0x75 :: f.conditionIndex :: (f.inline.flatMap Inline.bytes ++ (f.blocks.flatMap Block.call ++ [0x72, 0x71])))
  fills : label.parent + 2 + 13 * f.inline.length = label.callStart
  calls : f.blocks.length = label.count
  inlineFits : ∀ i ∈ f.inline, i.Fits
  blocks : ∀ i (h : i < f.blocks.length), f.blocks[i].Stands data (label.callStart + 3 * i)
  target : ∃ b ∈ f.blocks, b.guard.fileOffset = second

theorem Block.length_call (b : Block) : b.call.length = 3 := by simp [Block.call]

private theorem length_flatMap_inline (inline : List Inline) :
    (inline.flatMap Inline.bytes).length = 13 * inline.length := by
  induction inline with
  | nil => rfl
  | cons i inline ih =>
    rw [List.flatMap_cons, List.length_append, ih, Inline.length_bytes, List.length_cons]
    omega

private theorem length_flatMap_call (blocks : List Block) : (blocks.flatMap Block.call).length = 3 * blocks.length := by
  induction blocks with
  | nil => rfl
  | cons b blocks ih =>
    rw [List.flatMap_cons, List.length_append, ih, Block.length_call, List.length_cons]
    omega

/-- A report is given if and only if it is what stands in the ROM. -/
theorem guardedFamily_iff (data : List UInt8) (second : ℕ) (label : Rom) (f : Family) :
    guardedFamily data second label = .ok f ↔ f.Stands data second label := by
  unfold guardedFamily
  simp only [bind_eq_ok, require_eq_ok, byteAt_eq_ok, mapM_range_eq_ok, readBlock_iff]
  constructor
  · rintro ⟨op, hop, -, rfl, -, hend, ⟨inline, pos⟩, hinline, -, hpos, blocks, ⟨hcount, hblocks⟩, -, htarget, index,
      hindex, hf⟩
    obtain rfl : pos = label.callStart := hpos
    obtain ⟨hhas, hfills, hfits⟩ := readInline_iff.1 hinline
    cases hf
    refine ⟨rfl, ?_, hfills, hcount, hfits, hblocks, htarget⟩
    have hroom : label.parent + 1 + 1 + (inline.flatMap Inline.bytes).length = label.callStart := by
      rw [length_flatMap_inline]
      omega
    refine has_cons.2 ⟨hop, has_cons.2 ⟨hindex, has_append.2 ⟨hhas, has_append.2 ⟨?_, ?_⟩⟩⟩⟩
    · rw [hroom, has_flatMap Block.length_call]
      exact fun i hi => (hblocks i hi).called
    · rw [hroom, length_flatMap_call, hcount]
      exact hend
  · rintro ⟨hparent, hscript, hfills, hcount, hfits, hblocks, htarget⟩
    obtain ⟨hop, hrest⟩ := has_cons.1 hscript
    obtain ⟨hindex, hrest⟩ := has_cons.1 hrest
    obtain ⟨hhas, hrest⟩ := has_append.1 hrest
    obtain ⟨-, hend⟩ := has_append.1 hrest
    have hroom : label.parent + 1 + 1 + (f.inline.flatMap Inline.bytes).length = label.callStart := by
      rw [length_flatMap_inline]
      omega
    rw [hroom, length_flatMap_call, hcount] at hend
    refine ⟨_, hop, (), rfl, (), hend, (f.inline, label.callStart), readInline_iff.2 ⟨hhas, hfills, hfits⟩, (), rfl,
      f.blocks, ⟨hcount, hblocks⟩, (), htarget, _, hindex, ?_⟩
    rw [← hparent]
    rfl

end CmpUnlocker.Devinit
