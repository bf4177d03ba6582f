import CmpUnlocker.Lib.Text

/-!
# Records of a stage capture

`decode_gv100_stages.py` up to `_parse_missed`: the fields of a kernel log line, the integers in them, and the records
of a run.  Texts are lists of characters.  The two numbers of a VALUE record are kept as numbers; the source stores
them as hexadecimal texts and reads them back with `int(text, 16)`.
-/

namespace CmpUnlocker.Stages

/-- A text. -/
abbrev Chars := List Char

/-- What Python supplies: the word characters and the decimal digits of Unicode, the number of digits past which `int`
refuses a decimal number (0 for no limit), and `repr` of a text. -/
structure Python where
  isWord : Char → Bool
  decimal : Char → Option Nat
  maxDigits : Nat
  repr : Chars → Chars

/-! ### Constants -/

def PREFIX : Chars := "cmp100_stage_ro".toList

def expectedLiveGrType : Int := 34

/-! ### Fields -/

def isKeyStart (c : Char) : Bool := ('a' ≤ c && c ≤ 'z') || ('A' ≤ c && c ≤ 'Z') || c == '_'

def isKeyChar (c : Char) : Bool := isKeyStart c || ('0' ≤ c && c ≤ '9')

/-- `FIELD_RE` at one place behind a character that is a word character if `afterWord`. -/
def matchField (py : Python) (afterWord : Bool) : Chars → Option (Chars × Chars)
  | [] => none
  | c :: cs =>
    -- neither class overlaps the character behind it, so the greedy match is the only one
    if isKeyStart c && (afterWord != py.isWord c) then
      match cs.dropWhile isKeyChar with
      | '=' :: rest =>
        let value := rest.takeWhile fun d => !Text.isSpace d
        if value.isEmpty then none else some (c :: cs.takeWhile isKeyChar, value)
      | _ => none
    else none

/-- `FIELD_RE.findall`, with `skip` characters left of the last match. -/
def findFields (py : Python) (afterWord : Bool) (skip : Nat) : Chars → List (Chars × Chars)
  | [] => []
  | c :: cs =>
    match skip with
    | k + 1 => findFields py (py.isWord c) k cs
    | 0 =>
      match matchField py afterWord (c :: cs) with
      | some (key, value) => (key, value) :: findFields py (py.isWord c) (key.length + value.length) cs
      | none => findFields py (py.isWord c) 0 cs

/-- A dictionary of fields, the latest last. -/
abbrev Fields := List (Chars × Chars)

/-- `fields.get(key)`. -/
def Fields.get (fields : Fields) (key : String) : Option Chars :=
  (fields.reverse.find? fun field => field.1 = key.toList).map (·.2)

/-- `_fields`. -/
def fieldsOf (py : Python) (line : Chars) : Fields :=
  (findFields py false 0 line).map fun field => (field.1.map Char.toLower, field.2)

/-- The first word behind the prefix. -/
def markerOf (raw : Chars) : Chars :=
  (Text.strip ((Text.cut PREFIX raw).2.getD [])).takeWhile fun c => !Text.isSpace c

/-! ### Integers -/

/-- `HEX_RE`, and the number. -/
def hexadecimal : Chars → Option Nat
  | '0' :: x :: digits => if x == 'x' || x == 'X' then Text.number 16 digits else none
  | _ => none

/-- The digits of a decimal number; single underscores may stand between them. -/
def decimalDigits (py : Python) (afterDigit : Bool) (acc : Nat) : Chars → Option Nat
  | [] => if afterDigit then some acc else none
  | c :: cs =>
    if c == '_' then (if afterDigit then decimalDigits py false acc cs else none)
    else match py.decimal c with
      | some d => decimalDigits py true (10 * acc + d) cs
      | none => none

/-- `int(value, 10)`. -/
def decimalInt (py : Python) (value : Chars) : Option Int :=
  if 0 < py.maxDigits && py.maxDigits < value.countP fun c => (py.decimal c).isSome then none
  else match value with
    | '-' :: digits => (decimalDigits py false 0 digits).map fun n => -(n : Int)
    | '+' :: digits => (decimalDigits py false 0 digits).map fun n => (n : Int)
    | digits => (decimalDigits py false 0 digits).map fun n => (n : Int)

/-- `_integer`. -/
def integer (py : Python) (value : Chars) (field : String) : Except Chars Int :=
  match hexadecimal value with
  | some n => .ok n
  | none =>
    match decimalInt py value with
    | some i => .ok i
    | none => .error ("invalid ".toList ++ field.toList ++ " value ".toList ++ py.repr value)

/-! ### Records -/

structure Value where
  line : Nat
  seq : Int
  reg : Nat
  value : Nat
  raw : Chars
  reg_lt : reg ≤ 0xFFFFFFFF
  value_lt : value ≤ 0xFFFFFFFF
  deriving DecidableEq

structure Stage where
  line : Nat
  seq : Int
  name : Chars
  startNs : Int
  endNs : Int
  pid : Int
  rc : Int
  post : Int
  invalid : Int
  values : List Value
  raw : Chars
  deriving DecidableEq

structure Missed where
  line : Nat
  symbol : Chars
  nmissed : Int
  raw : Chars
  deriving DecidableEq

/-- A line that could not be read, with the kind of its record and the reason. -/
structure Unparsed where
  line : Nat
  kind : Chars
  reason : Chars
  raw : Chars
  deriving DecidableEq

structure Run where
  beginLine : Nat
  endLine : Option Nat := none
  beginBdf : Option Chars
  endBdf : Option Chars := none
  declaredRecords : Option Int := none
  dropped : Option Int := none
  pmuPresent : Option Int := none
  stages : List Stage := []
  missed : List Missed := []
  orphanValues : List Value := []
  unparsedLines : List Unparsed := []
  rawLines : List Chars
  delimiterComplete : Bool := false
  armedLiveGrType : Option Int := none
  deriving DecidableEq

/-! ### Reading records -/

/-- `_integer(fields[key], key)`; a missing key is a `KeyError`, whose text is the key's `repr`. -/
def integerField (py : Python) (fields : Fields) (key : String) : Except Chars Int :=
  match fields.get key with
  | some value => integer py value key
  | none => .error (py.repr key.toList)

/-- The text of the required names that are missing. -/
def missingFields (fields : Fields) (required : List String) : List String :=
  required.filter fun name => (fields.get name).isNone

/-- `", ".join(names)`. -/
def joinNames (names : List String) : Chars := ", ".toList.intercalate (names.map String.toList)

/-- The counts of a BEGIN line: those read, and the reason of the first that is not. -/
def declaredCounts (py : Python) (fields : Fields) : Option Int × Option Int × Option Chars :=
  match integerField py fields "records" with
  | .error reason => (none, none, some reason)
  | .ok records =>
    match integerField py fields "dropped" with
    | .error reason => (some records, none, some reason)
    | .ok dropped => (some records, some dropped, none)

/-- `pmu_present` of a BEGIN line, which is optional, and the reason if it cannot be read. -/
def declaredPmu (py : Python) (fields : Fields) : Option Int × Option Chars :=
  match fields.get "pmu_present" with
  | none => (none, none)
  | some value =>
    match integer py value "pmu_present" with
    | .ok pmu => (some pmu, none)
    | .error reason => (none, some reason)

/-- `_new_run`. -/
def newRun (py : Python) (lineNo : Nat) (line : Chars) (fields : Fields) : Run :=
  let counts := declaredCounts py fields
  let pmu := declaredPmu py fields
  let reasons := counts.2.2.toList ++ pmu.2.toList
  { beginLine := lineNo
    beginBdf := fields.get "bdf"
    declaredRecords := counts.1
    dropped := counts.2.1
    pmuPresent := pmu.1
    unparsedLines := reasons.map fun reason => { line := lineNo, kind := "BEGIN".toList, reason := reason, raw := line }
    rawLines := [line] }

/-- `_parse_stage`. -/
def parseStage (py : Python) (lineNo : Nat) (line : Chars) (fields : Fields) : Except Chars Stage := do
  let missing := missingFields fields ["seq", "name", "start_ns", "end_ns", "pid", "rc", "post", "invalid"]
  if !missing.isEmpty then throw ("missing STAGE fields: ".toList ++ joinNames missing)
  let seq ← integerField py fields "seq"
  let startNs ← integerField py fields "start_ns"
  let endNs ← integerField py fields "end_ns"
  let pid ← integerField py fields "pid"
  let rc ← integerField py fields "rc"
  let post ← integerField py fields "post"
  let invalid ← integerField py fields "invalid"
  return { line := lineNo, seq := seq, name := (fields.get "name").getD [], startNs := startNs, endNs := endNs
           pid := pid, rc := rc, post := post, invalid := invalid, values := [], raw := line }

/-- `_parse_value`. -/
def parseValue (py : Python) (lineNo : Nat) (line : Chars) (fields : Fields) : Except Chars Value := do
  let missing := missingFields fields ["seq", "reg", "value"]
  if !missing.isEmpty then throw ("missing VALUE fields: ".toList ++ joinNames missing)
  let reg ← integerField py fields "reg"
  let value ← integerField py fields "value"
  if h : (0 ≤ reg ∧ reg ≤ 0xFFFFFFFF) ∧ 0 ≤ value ∧ value ≤ 0xFFFFFFFF then
    let seq ← integerField py fields "seq"
    return { line := lineNo, seq := seq, reg := reg.toNat, value := value.toNat, raw := line
             reg_lt := Int.toNat_le.mpr h.1.2, value_lt := Int.toNat_le.mpr h.2.2 }
  else throw "VALUE reg/value exceeds 32 bits".toList

/-- `_parse_missed`. -/
def parseMissed (py : Python) (lineNo : Nat) (line : Chars) (fields : Fields) : Except Chars Missed := do
  match fields.get "symbol" with
  | none => throw "missing MISSED symbol or nmissed".toList
  | some symbol =>
    if (fields.get "nmissed").isNone then throw "missing MISSED symbol or nmissed".toList
    let nmissed ← integerField py fields "nmissed"
    return { line := lineNo, symbol := symbol, nmissed := nmissed, raw := line }

/-- Python on ASCII texts. -/
def asciiPython : Python where
  isWord c := isKeyChar c
  decimal c := if '0' ≤ c ∧ c ≤ '9' then some (c.toNat - 48) else none
  maxDigits := 4300
  repr cs := '\'' :: cs ++ ['\'']

end CmpUnlocker.Stages
