import CmpUnlocker.Stages.Capture
import CmpUnlocker.Top.Words
import Mathlib.Data.Char
import Mathlib.Data.List.Lex

/-!
# Reading a TOP capture

`_parse_hex32`, `_single_register`, `_finalize_snapshot` and `parse_capture` of `decode_gv100_top.py`.  The fields of a
line, its hexadecimal numbers and the numbered lines of a text are those of the stage decoder.  The dictionary
`by_index` is the function that gives the occurrences of an index.
-/

namespace CmpUnlocker.Top

open Stages (Chars Python Fields Line fieldsOf hexadecimal numbered reportIf sortedSet)

def TOP_BASE : Nat := 0x022700
def TOP_END : Nat := TOP_BASE + TOP_WORDS * 4
def POST_REG : Nat := 0x02240C
def PMC_ENABLE_REG : Nat := 0x000200

/-! ### Words of a line -/

/-- `re.IGNORECASE` for the letters of the three patterns; the two dotted and dotless letters fold to `i`. -/
def foldCase (c : Char) : Char := if c.toNat = 0x130 ∨ c.toNat = 0x131 then 'i' else c.toLower

def isWordAt (py : Python) (c : Option Char) : Bool := (c.map py.isWord).getD false

/-- The pattern of a word at one place, behind a word character if `afterWord`. -/
def matchWord (py : Python) (word : Chars) (afterWord : Bool) (cs : Chars) : Bool :=
  let found := cs.take word.length
  found.map foldCase == word && afterWord != isWordAt py found.head?
    && isWordAt py found.getLast? != isWordAt py (cs.drop word.length).head?

def searchFrom (py : Python) (word : Chars) (afterWord : Bool) : Chars → Bool
  | [] => false
  | c :: cs => matchWord py word afterWord (c :: cs) || searchFrom py word (py.isWord c) cs

/-- `re.compile(r"\bword\b", re.IGNORECASE).search(raw)`. -/
def search (py : Python) (word : String) (raw : Chars) : Bool := searchFrom py word.toList false raw

def hasPrefix (py : Python) (raw : Chars) : Bool := search py "cmp100_boot_ro" raw
def isBegin (py : Python) (raw : Chars) : Bool := search py "begin" raw
def isEnd (py : Python) (raw : Chars) : Bool := search py "end" raw

/-! ### Register lines -/

/-- `_parse_hex32`. -/
def parseHex32 (text : Chars) : Except Chars Word :=
  match hexadecimal text with
  | none => .error ("not a hexadecimal integer: ".toList ++ text)
  | some value =>
    if 0xFFFFFFFF < value then .error ("value exceeds 32 bits: ".toList ++ text) else .ok (BitVec.ofNat 32 value)

structure Occurrence where
  line : Nat
  bdf : Chars
  reg : Word
  value : Word
  deriving DecidableEq

/-- The fields of a register line, if it has all three. -/
def registerFields (fields : Fields) : Option (Chars × Chars × Chars) :=
  match fields.get "bdf", fields.get "reg", fields.get "value" with
  | some bdf, some reg, some value => some (bdf, reg, value)
  | _, _, _ => none

/-- The occurrence of a register line, or why it cannot be read. -/
def readRegister (lineNo : Nat) (fields : Chars × Chars × Chars) : Except Chars Occurrence := do
  let reg ← parseHex32 fields.2.1
  let value ← parseHex32 fields.2.2
  return { line := lineNo, bdf := fields.1, reg := reg, value := value }

/-! ### One register -/

def allOnes : Word := 0xFFFFFFFF#32

/-- `_single_register`: the only occurrence of a register, or the lines of its occurrences. -/
inductive Single
  | found (value : Word) (line : Nat)
  | absent (lines : List Nat)
  deriving DecidableEq

namespace Single

def value : Single → Option Word
  | found value _ => some value
  | absent _ => none

def occurrenceCount : Single → Nat
  | found _ _ => 1
  | absent lines => lines.length

/-- `valid`, which only a single occurrence has. -/
def valid : Single → Bool
  | found value _ => value != allOnes
  | absent _ => false

/-- `invalid_reason` is `all_ones_sentinel`. -/
def allOnesSentinel : Single → Bool
  | found value _ => value == allOnes
  | absent _ => false

end Single

def occurrencesOf (occurrences : List Occurrence) (reg : Nat) : List Occurrence :=
  occurrences.filter fun item => item.reg.toNat == reg

def singleRegister (occurrences : List Occurrence) (reg : Nat) : Single :=
  match occurrencesOf occurrences reg with
  | [item] => .found item.value item.line
  | items => .absent (items.map (·.line))

/-! ### The TOP registers -/

/-- The index of a TOP register. -/
def topIndex (reg : Nat) : Option Nat :=
  if TOP_BASE ≤ reg ∧ reg < TOP_END ∧ (reg - TOP_BASE) % 4 = 0 then some ((reg - TOP_BASE) / 4) else none

/-- `by_index.get(index, [])`. -/
def byIndex (occurrences : List Occurrence) (index : Nat) : List Occurrence :=
  occurrences.filter fun item => topIndex item.reg.toNat == some index

structure Duplicate where
  index : Nat
  lines : List Nat
  values : List Word
  deriving DecidableEq

def missingIndices (occurrences : List Occurrence) : List Nat :=
  (List.range TOP_WORDS).filter fun index => (byIndex occurrences index).isEmpty

def duplicateRegisters (occurrences : List Occurrence) : List Duplicate :=
  ((List.range TOP_WORDS).filter fun index => 1 < (byIndex occurrences index).length).map fun index =>
    { index := index, lines := (byIndex occurrences index).map (·.line)
      values := (byIndex occurrences index).map (·.value) }

def allOnesIndices (occurrences : List Occurrence) : List Nat :=
  (List.range TOP_WORDS).filter fun index => (byIndex occurrences index).any fun item => item.value == allOnes

def uniqueComplete (occurrences : List Occurrence) : Bool :=
  (missingIndices occurrences).isEmpty && (duplicateRegisters occurrences).isEmpty

/-- `words`. -/
def topWords (occurrences : List Occurrence) : List Word :=
  (List.range TOP_WORDS).filterMap fun index => (byIndex occurrences index).head?.map (·.value)

/-! ### Snapshots -/

/-- `derivation`. -/
inductive Derivation
  | noCompleteGrDevice
  | completeGrDeviceHasNoResetSelector
  | singleCompleteGrDevice
  | multipleCompleteGrDevices
  | suppressedBySnapshotValidation
  deriving DecidableEq

structure Gr where
  completeDevices : List Device
  resetSelector : Option Nat
  pmcMask : Option Nat
  pmcBitSetCurrent : Option Bool
  derivation : Derivation
  deriving DecidableEq

/-- `post_0x2240c`: the bit and what it says are there for a valid value. -/
structure Post where
  register : Single
  bit1 : Option Nat
  nouveauWouldRunDevinitNow : Option Bool
  deriving DecidableEq

structure TopReport where
  uniqueWords : Nat
  missingIndices : List Nat
  duplicateRegisters : List Duplicate
  allOnesIndices : List Nat
  inputValidForDecode : Bool
  decoded : Decoded
  gr : Gr
  deriving DecidableEq

structure Snapshot where
  snapshotIndex : Nat
  beginLine : Nat
  endLine : Option Nat
  bdf : Option Chars
  bdfsSeen : List Chars
  beginBdf : Option Chars
  endBdf : Option Chars
  boundaryBdfMatch : Bool
  occurrences : List Occurrence
  post : Post
  pmc : Single
  top : TopReport
  valid : Bool
  messages : List String
  deriving DecidableEq

/-- What the loop keeps of an open snapshot. -/
structure Current where
  snapshotIndex : Nat
  beginLine : Nat
  beginFields : Fields
  occurrences : List Occurrence := []

def isGr (device : Device) : Bool := device.type == "GR" && device.engineInstance == 0

/-- The selector, and where it comes from. -/
def deriveGr (derivedValid : Bool) (grDevices : List Device) : Option Nat × Derivation :=
  if derivedValid then
    match grDevices with
    | [] => (none, .noCompleteGrDevice)
    | [device] =>
      match device.resetSelector with
      | none => (none, .completeGrDeviceHasNoResetSelector)
      | some selector => (some selector, .singleCompleteGrDevice)
    | _ => (none, .multipleCompleteGrDevices)
  else (none, .suppressedBySnapshotValidation)

/-- The POST register, with its bit 1 if the value is valid. -/
def postOf (register : Single) : Post :=
  match register.value with
  | some value =>
    if register.valid then
      let bit1 := ((value >>> 1) &&& 1#32).toNat
      { register := register, bit1 := some bit1, nouveauWouldRunDevinitNow := some (bit1 == 0) }
    else { register := register, bit1 := none, nouveauWouldRunDevinitNow := none }
  | none => { register := register, bit1 := none, nouveauWouldRunDevinitNow := none }

/-- Whether the bit of the selector is set in the PMC register. -/
def pmcBit (selector : Option Nat) (pmc : Single) : Option Bool :=
  match selector, pmc.value with
  | some selector, some value => if pmc.valid then some (value &&& (1#32 <<< selector) != 0#32) else none
  | _, _ => none

/-- `_finalize_snapshot`, with the number and the fields of the END line if there is one. -/
def finalizeSnapshot (current : Current) (closing : Option (Nat × Fields)) : Snapshot :=
  let occurrences := current.occurrences
  let missing := missingIndices occurrences
  let duplicates := duplicateRegisters occurrences
  let allOnesAt := allOnesIndices occurrences
  let boundaryComplete := closing.isSome
  let bdfs := sortedSet (occurrences.map (·.bdf))
  let observedBdf := match bdfs with
    | [bdf] => some bdf
    | _ => none
  let beginBdf := current.beginFields.get "bdf"
  let endBdf := closing.bind fun entry => entry.2.get "bdf"
  let boundaryBdfMatch := (beginBdf.toList ++ endBdf.toList).all fun bdf => some bdf == observedBdf
  let inputValid := boundaryComplete && observedBdf.isSome && boundaryBdfMatch && uniqueComplete occurrences
    && allOnesAt.isEmpty
  -- `decode_top_words` accepts the words here: they are 64, and of 32 bits by their type
  let decoded := if inputValid then decodeWords (topWords occurrences) else {}
  let derivedValid := inputValid && decoded.incompleteRecord.isNone
  let grDevices := decoded.devices.filter isGr
  let gr := deriveGr derivedValid grDevices
  let post := singleRegister occurrences POST_REG
  let pmc := singleRegister occurrences PMC_ENABLE_REG
  { snapshotIndex := current.snapshotIndex
    beginLine := current.beginLine
    endLine := closing.map (·.1)
    bdf := observedBdf
    bdfsSeen := bdfs
    beginBdf := beginBdf
    endBdf := endBdf
    boundaryBdfMatch := boundaryBdfMatch
    occurrences := occurrences
    post := postOf post
    pmc := pmc
    top := {
      uniqueWords := TOP_WORDS - missing.length
      missingIndices := missing
      duplicateRegisters := duplicates
      allOnesIndices := allOnesAt
      inputValidForDecode := inputValid
      decoded := decoded
      gr := {
        completeDevices := grDevices
        resetSelector := gr.1
        pmcMask := gr.1.map fun selector => 1 <<< selector
        pmcBitSetCurrent := pmcBit gr.1 pmc
        derivation := gr.2 } }
    valid := derivedValid && !post.allOnesSentinel && !pmc.allOnesSentinel
    messages :=
      reportIf (!boundaryComplete) "snapshot has no END boundary"
        ++ reportIf (bdfs.length != 1) ("expected one BDF, found " ++ toString bdfs.length)
        ++ reportIf (!boundaryBdfMatch) "BEGIN/END BDF does not match observed register BDF"
        ++ reportIf (!missing.isEmpty) ("missing " ++ toString missing.length ++ " TOP words")
        ++ reportIf (!duplicates.isEmpty) ("duplicate TOP registers: " ++ toString duplicates.length)
        ++ reportIf (!allOnesAt.isEmpty) ("TOP contains 0xffffffff at " ++ toString allOnesAt.length ++ " indices")
        ++ reportIf post.allOnesSentinel "POST register is 0xffffffff"
        ++ reportIf pmc.allOnesSentinel "PMC enable register is 0xffffffff"
        ++ reportIf decoded.incompleteRecord.isSome "TOP stream ends with an incomplete continued record" }

/-! ### The loop over the lines -/

structure Scan where
  snapshots : List Snapshot := []
  messages : List Chars := []
  current : Option Current := none

namespace Scan

def atLine (lineNo : Nat) (text : Chars) : Chars := "line ".toList ++ (toString lineNo).toList ++ ": ".toList ++ text

def say (s : Scan) (l : Line) (text : Chars) : Scan := { s with messages := s.messages ++ [atLine l.1 text] }

/-- A BEGIN line. -/
def begin_ (py : Python) (s : Scan) (l : Line) : Scan :=
  let s := match s.current with
    | some current =>
      { s.say l "BEGIN before previous END".toList with snapshots := s.snapshots ++ [finalizeSnapshot current none] }
    | none => s
  { s with current := some {
      snapshotIndex := s.snapshots.length, beginLine := l.1, beginFields := fieldsOf py l.2 } }

/-- An END line. -/
def end_ (py : Python) (s : Scan) (l : Line) : Scan :=
  match s.current with
  | none => s.say l "END without BEGIN".toList
  | some current =>
    { s with snapshots := s.snapshots ++ [finalizeSnapshot current (some (l.1, fieldsOf py l.2))], current := none }

/-- Another line with the prefix. -/
def register (py : Python) (s : Scan) (l : Line) : Scan :=
  match registerFields (fieldsOf py l.2) with
  | none => s
  | some fields =>
    match s.current with
    | none => s.say l "register outside BEGIN/END".toList
    | some current =>
      match readRegister l.1 fields with
      | .error error => s.say l error
      | .ok item => { s with current := some { current with occurrences := current.occurrences ++ [item] } }

/-- One pass of the loop; a line with both words is a register line. -/
def step (py : Python) (s : Scan) (l : Line) : Scan :=
  if !hasPrefix py l.2 then s
  else if isBegin py l.2 && !isEnd py l.2 then s.begin_ py l
  else if isEnd py l.2 && !isBegin py l.2 then s.end_ py l
  else s.register py l

end Scan

structure Capture where
  snapshots : List Snapshot
  valid : Bool
  messages : List Chars

/-- The end of the input. -/
def Scan.finish (s : Scan) : Capture :=
  let snapshots := s.snapshots ++ (s.current.map fun current => finalizeSnapshot current none).toList
  let messages := s.messages ++ reportIf s.current.isSome "end of input before END".toList
    ++ reportIf snapshots.isEmpty "no snapshots found".toList
  { snapshots := snapshots, valid := messages.isEmpty && snapshots.all (·.valid), messages := messages }

/-- `parse_capture`. -/
def parseCapture (py : Python) (text : Chars) : Capture := ((numbered text).foldl (Scan.step py) {}).finish

end CmpUnlocker.Top
