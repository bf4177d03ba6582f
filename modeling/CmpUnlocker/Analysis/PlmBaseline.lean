import Mathlib.Data.Int.Notation
import Mathlib.Data.List.FinRange
import CmpUnlocker.Lib.Text

/-!
# Captures of the PLM baseline

`analyze` of `analyze_gv100_plm_baseline.py` folds the lines of a capture of two cards into tables and checks at the end
that they are complete.  A capture with a result has exactly one line for each entry of the tables
(`analyze_complete`), wherever it stands: the fold does not know whether a card has begun or ended.

The decoding of UTF-8, `int()` and SHA-256 are parameters.
-/

namespace CmpUnlocker.Analysis.Plm

abbrev Chars : Type := List Char

structure Python where
  decode : List UInt8 → Option Chars
  int : Chars → Option ℤ
  sha256 : List UInt8 → String

/-! ### Lines -/

/-- `BDFS` -/
inductive Card
  | first
  | second
  deriving DecidableEq, Repr

def Card.all : List Card := [.first, .second]

def Card.bdf : Card → Chars
  | first => "0000:01:00.0".toList
  | second => "0000:02:00.0".toList

/-- A `dict` of texts; the last entry of a key counts. -/
structure Item where
  entries : List (Chars × Chars) := []

def Item.get (item : Item) (key : String) : Option Chars :=
  (item.entries.reverse.find? fun entry => entry.1 == key.toList).map (·.2)

inductive Failure
  | undecodable
  | missingKey (key : String)
  | notAnInt (text : Chars)
  | unexpectedBdf (line : Chars)
  | duplicateBegin (card : Card)
  | identityFailed (card : Card)
  | invalidPassSlot (card : Card) (passage slot : ℤ)
  | duplicateTrap (card : Card) (passage slot : ℤ)
  | invalidExtra (card : Card) (passage : ℤ)
  | bootFailed (card : Card) (passage : ℤ)
  | duplicateEnd (card : Card)
  | markersRequired
  | passesRequired (card : Card)
  | slotsRequired (card : Card) (passage : Fin 2)
  | incomplete (card : Card)
  deriving DecidableEq

/-- `item[key]` -/
def Item.require (item : Item) (key : String) : Except Failure Chars :=
  match item.get key with
  | some value => .ok value
  | none => .error (.missingKey key)

/-- `int(item[key])` -/
def Item.requireInt (py : Python) (item : Item) (key : String) : Except Failure ℤ :=
  match item.get key with
  | some value => match py.int value with
    | some n => .ok n
    | none => .error (.notAnInt value)
  | none => .error (.missingKey key)

/-- `fields` -/
def fields (line : Chars) : Item where
  entries := (Text.words Text.isSpace line).filterMap fun part =>
    match Text.cut ['='] part with
    | (key, some value) => some (key, value)
    | (_, none) => none

/-- The kind and the fields of a record, if the line has one. -/
def recordOf (line : Chars) : Option (Chars × Item) :=
  match (Text.cut "cmp100_plm_ro ".toList line).2 with
  | some payload =>
    let (kind, tail) := Text.cut [' '] payload
    some (kind, fields (tail.getD []))
  | none => none

def Item.card (item : Item) : Option Card := Card.all.find? fun card => item.get "bdf" == some card.bdf

def passOf (passage : ℤ) : Option (Fin 2) :=
  if h : 0 ≤ passage ∧ passage < 2 then some ⟨passage.toNat, by omega⟩ else none

def slotOf (slot : ℤ) : Option (Fin 22) :=
  if h : 0 ≤ slot ∧ slot < 22 then some ⟨slot.toNat, by omega⟩ else none

/-! ### The fold -/

/-- `FIELDS` -/
def valueFields : List String := ["match", "mask", "data1", "data2", "action", "plm"]

structure State where
  traps : Card → Fin 2 → Fin 22 → Option (List Chars) := fun _ _ _ => none
  extra : Card → Fin 2 → Option Item := fun _ _ => none
  begun : Card → Bool := fun _ => false
  ended : Card → Option Item := fun _ => none

def State.setTrap (st : State) (card : Card) (passage : Fin 2) (slot : Fin 22) (values : List Chars) : State :=
  { st with traps := fun c p s => if c = card ∧ p = passage ∧ s = slot then some values else st.traps c p s }

def State.setExtra (st : State) (card : Card) (passage : Fin 2) (item : Item) : State :=
  { st with extra := fun c p => if c = card ∧ p = passage then some item else st.extra c p }

def beginStep (st : State) (card : Card) (item : Item) : Except Failure State :=
  if st.begun card then .error (.duplicateBegin card)
  else if item.get "pci" ≠ some "10de:1d84".toList ∨ item.get "driver" ≠ some "nvidia".toList then
    .error (.identityFailed card)
  else .ok { st with begun := fun c => if c = card then true else st.begun c }

def trapStep (py : Python) (st : State) (card : Card) (item : Item) : Except Failure State := do
  let passage ← item.requireInt py "pass"
  let slot ← item.requireInt py "slot"
  match passOf passage, slotOf slot with
  | some p, some s =>
    let values ← valueFields.mapM item.require
    if (st.traps card p s).isSome then .error (.duplicateTrap card passage slot)
    else .ok (st.setTrap card p s values)
  | _, _ => .error (.invalidPassSlot card passage slot)

def extraStep (py : Python) (st : State) (card : Card) (item : Item) : Except Failure State := do
  let passage ← item.requireInt py "pass"
  match passOf passage with
  | some p =>
    if (st.extra card p).isSome then .error (.invalidExtra card passage)
    else do
      let before ← item.require "boot_before"
      if before ≠ "0x140000a1".toList then .error (.bootFailed card passage)
      else do
        let after ← item.require "boot_after"
        if after ≠ "0x140000a1".toList then .error (.bootFailed card passage)
        else .ok (st.setExtra card p item)
  | none => .error (.invalidExtra card passage)

def endStep (st : State) (card : Card) (item : Item) : Except Failure State :=
  if (st.ended card).isSome then .error (.duplicateEnd card)
  else .ok { st with ended := fun c => if c = card then some item else st.ended c }

/-- One pass of the loop over the lines. -/
def step (py : Python) (st : State) (line : Chars) : Except Failure State :=
  match recordOf line with
  | none => .ok st
  | some (kind, item) => match item.card with
    | none => .error (.unexpectedBdf line)
    | some card =>
      if kind = "BEGIN".toList then beginStep st card item
      else if kind = "TRAP".toList then trapStep py st card item
      else if kind = "EXTRA".toList then extraStep py st card item
      else if kind = "END".toList then endStep st card item
      else .ok st

/-! ### The checks at the end -/

def State.hasPass (st : State) (card : Card) (passage : Fin 2) : Bool :=
  (List.finRange 22).any fun slot => (st.traps card passage slot).isSome

def State.hasSlots (st : State) (card : Card) (passage : Fin 2) : Bool :=
  (List.finRange 22).all fun slot => (st.traps card passage slot).isSome

def ensure (ok : Bool) (failure : Failure) : Except Failure Unit := if ok then .ok () else .error failure

/-- The checks of one card. -/
def checkCard (st : State) (card : Card) : Except Failure Unit := do
  ensure (st.hasPass card 0 || st.hasPass card 1) (.missingKey (String.ofList card.bdf))
  ensure (st.hasPass card 0 && st.hasPass card 1) (.passesRequired card)
  ensure ((st.extra card 0).isSome || (st.extra card 1).isSome) (.missingKey (String.ofList card.bdf))
  ensure ((st.extra card 0).isSome && (st.extra card 1).isSome) (.passesRequired card)
  ensure (st.hasSlots card 0) (.slotsRequired card 0)
  ensure (st.hasSlots card 1) (.slotsRequired card 1)
  let item := (st.ended card).getD {}
  ensure (item.get "passes" == some "2".toList && item.get "traps" == some "22".toList &&
    item.get "hardware_writes" == some "0".toList) (.incomplete card)

def check (st : State) : Except Failure Unit := do
  ensure (Card.all.all fun card => st.begun card && (st.ended card).isSome) .markersRequired
  checkCard st .first
  checkCard st .second

/-! ### The result -/

def State.trapOf (st : State) (card : Card) (passage : Fin 2) (slot : Fin 22) : List Chars :=
  (st.traps card passage slot).getD []

def State.extraOf (st : State) (card : Card) (passage : Fin 2) : Item := (st.extra card passage).getD {}

/-- `all(a[k] == b[k] for k in keys)` -/
def agree (a b : Item) : List String → Except Failure Bool
  | [] => .ok true
  | key :: keys => do
    let x ← a.require key
    let y ← b.require key
    if x = y then agree a b keys else .ok false

def stable (st : State) (card : Card) : Except Failure Bool :=
  if (List.finRange 22).all fun slot => st.trapOf card 0 slot == st.trapOf card 1 slot then
    agree (st.extraOf card 0) (st.extraOf card 1)
      ["fecs_plm_409650", "tensor_409664", "scratch30_15f8", "scratch31_15fc"]
  else .ok false

/-- The rows of the result with a value for each card are lists in the order of `BDFS`. -/
structure Result where
  captureSha256 : String
  stableBothPasses : List Bool
  crossCardTrapDifferences : List (Fin 22 × List (List Chars))
  trap20 : List (List Chars)
  fecsPlm : List Chars
  tensor : List Chars
  scratch : List (Chars × Chars)
  allTrapsPass0 : List (List (List Chars))
  deriving DecidableEq

def report (py : Python) (data : List UInt8) (st : State) : Except Failure Result := do
  let stability ← Card.all.mapM (stable st)
  let differing := (List.finRange 22).filter fun slot => st.trapOf .first 0 slot ≠ st.trapOf .second 0 slot
  let fecsPlm ← Card.all.mapM fun card => (st.extraOf card 0).require "fecs_plm_409650"
  let tensor ← Card.all.mapM fun card => (st.extraOf card 0).require "tensor_409664"
  let scratch ← Card.all.mapM fun card => do
    let scratch30 ← (st.extraOf card 0).require "scratch30_15f8"
    let scratch31 ← (st.extraOf card 0).require "scratch31_15fc"
    .ok (scratch30, scratch31)
  .ok {
    captureSha256 := py.sha256 data
    stableBothPasses := stability
    crossCardTrapDifferences := differing.map fun slot => (slot, Card.all.map fun card => st.trapOf card 0 slot)
    trap20 := Card.all.map fun card => st.trapOf card 0 20
    fecsPlm := fecsPlm
    tensor := tensor
    scratch := scratch
    allTrapsPass0 := Card.all.map fun card => (List.finRange 22).map fun slot => st.trapOf card 0 slot }

/-- `analyze` -/
def analyze (py : Python) (data : List UInt8) : Except Failure Result :=
  match py.decode data with
  | none => .error .undecodable
  | some text => do
    let st ← (Text.splitLines text).foldlM (step py) {}
    check st
    report py data st

/-! ### Entries of the tables -/

inductive Entry
  | begin (card : Card)
  | trap (card : Card) (passage : Fin 2) (slot : Fin 22)
  | extra (card : Card) (passage : Fin 2)
  | done (card : Card)
  deriving DecidableEq

/-- A number that a record gives. -/
def Item.number (py : Python) (item : Item) (key : String) : Option ℤ := (item.get key).bind py.int

/-- The entry that a record is for. -/
def entryOfRecord (py : Python) (kind : Chars) (card : Card) (item : Item) : Option Entry :=
  if kind = "BEGIN".toList then some (.begin card)
  else if kind = "TRAP".toList then do
    let p ← (item.number py "pass").bind passOf
    let s ← (item.number py "slot").bind slotOf
    return .trap card p s
  else if kind = "EXTRA".toList then do
    let p ← (item.number py "pass").bind passOf
    return .extra card p
  else if kind = "END".toList then some (.done card)
  else none

/-- The entry that a line is for. -/
def entryOf (py : Python) (line : Chars) : Option Entry := do
  let (kind, item) ← recordOf line
  let card ← item.card
  entryOfRecord py kind card item

/-- The entry is in the tables. -/
def State.has (st : State) : Entry → Bool
  | .begin card => st.begun card
  | .trap card passage slot => (st.traps card passage slot).isSome
  | .extra card passage => (st.extra card passage).isSome
  | .done card => (st.ended card).isSome

/-- The state with one more entry. -/
def Adds (st st' : State) (e : Entry) : Prop := st.has e = false ∧ ∀ e', st'.has e' = (decide (e' = e) || st.has e')

theorem bind_eq_ok {α β : Type} {x : Except Failure α} {f : α → Except Failure β} {r : β} :
    x >>= f = .ok r ↔ ∃ a, x = .ok a ∧ f a = .ok r := by
  cases x with
  | error e =>
    constructor
    · intro h
      cases h
    · rintro ⟨a, ha, -⟩
      cases ha
  | ok a =>
    constructor
    · exact fun h => ⟨a, rfl, h⟩
    · rintro ⟨a', ha, h⟩
      cases ha
      exact h

private theorem requireInt_eq_ok {py : Python} {item : Item} {key : String} {n : ℤ} :
    item.requireInt py key = .ok n ↔ item.number py key = some n := by
  unfold Item.requireInt Item.number
  cases item.get key with
  | none => simp
  | some value => cases hint : py.int value <;> simp [hint]

variable {py : Python} {st st' : State} {card : Card} {item : Item}

private theorem beginStep_adds (h : beginStep st card item = .ok st') : Adds st st' (.begin card) := by
  unfold beginStep at h
  split at h
  · cases h
  · rename_i hbegun
    split at h
    · cases h
    · cases h
      refine ⟨by simpa [State.has] using hbegun, fun e' => ?_⟩
      cases e' with
      | begin c => by_cases hc : c = card <;> simp [State.has, hc]
      | _ => simp [State.has]

private theorem endStep_adds (h : endStep st card item = .ok st') : Adds st st' (.done card) := by
  unfold endStep at h
  split at h
  · cases h
  · rename_i hended
    cases h
    refine ⟨by simpa [State.has] using hended, fun e' => ?_⟩
    cases e' with
    | done c => by_cases hc : c = card <;> simp [State.has, hc]
    | _ => simp [State.has]

private theorem trapStep_adds (h : trapStep py st card item = .ok st') :
    ∃ p s, (item.number py "pass").bind passOf = some p ∧ (item.number py "slot").bind slotOf = some s ∧
      Adds st st' (.trap card p s) := by
  obtain ⟨passage, hpassage, h⟩ := bind_eq_ok.1 h
  obtain ⟨slot, hslot, h⟩ := bind_eq_ok.1 h
  rw [requireInt_eq_ok] at hpassage hslot
  split at h
  · rename_i p s hp hs
    obtain ⟨values, -, h⟩ := bind_eq_ok.1 h
    split at h
    · cases h
    · rename_i hnew
      cases h
      refine ⟨p, s, by rw [hpassage, Option.bind_some, hp], by rw [hslot, Option.bind_some, hs],
        by simpa [State.has] using hnew, fun e' => ?_⟩
      cases e' with
      | trap c p' s' =>
        by_cases hc : c = card ∧ p' = p ∧ s' = s
        · simp [State.has, State.setTrap, hc]
        · simp [State.has, State.setTrap, hc]
      | _ => simp [State.has, State.setTrap]
  · cases h

private theorem extraStep_adds (h : extraStep py st card item = .ok st') :
    ∃ p, (item.number py "pass").bind passOf = some p ∧ Adds st st' (.extra card p) := by
  obtain ⟨passage, hpassage, h⟩ := bind_eq_ok.1 h
  rw [requireInt_eq_ok] at hpassage
  split at h
  · rename_i p hp
    split at h
    · cases h
    · rename_i hnew
      obtain ⟨before, -, h⟩ := bind_eq_ok.1 h
      split at h
      · cases h
      · obtain ⟨after, -, h⟩ := bind_eq_ok.1 h
        split at h
        · cases h
        · cases h
          refine ⟨p, by rw [hpassage, Option.bind_some, hp], by simpa [State.has] using hnew, fun e' => ?_⟩
          cases e' with
          | extra c p' =>
            by_cases hc : c = card ∧ p' = p
            · simp [State.has, State.setExtra, hc]
            · simp [State.has, State.setExtra, hc]
          | _ => simp [State.has, State.setExtra]
  · cases h

/-- A line adds the entry that it is for, and this is a new one. -/
theorem step_adds {line : Chars} (h : step py st line = .ok st') :
    match entryOf py line with
    | some e => Adds st st' e
    | none => ∀ e, st'.has e = st.has e := by
  unfold step at h
  unfold entryOf
  cases hrecord : recordOf line with
  | none =>
    rw [hrecord] at h
    cases h
    exact fun _ => rfl
  | some record =>
    obtain ⟨kind, item⟩ := record
    rw [hrecord] at h
    simp only [Option.bind_eq_bind, Option.bind_some] at h ⊢
    cases hcard : item.card with
    | none =>
      rw [hcard] at h
      cases h
    | some card =>
      rw [hcard] at h
      simp only [Option.bind_some, entryOfRecord] at h ⊢
      by_cases hbegin : kind = "BEGIN".toList
      · rw [if_pos hbegin] at h ⊢
        exact beginStep_adds h
      · rw [if_neg hbegin] at h ⊢
        by_cases htrap : kind = "TRAP".toList
        · rw [if_pos htrap] at h ⊢
          obtain ⟨p, s, hp, hs, hadds⟩ := trapStep_adds h
          simp only [hp, hs, Option.bind_eq_bind, Option.bind_some]
          exact hadds
        · rw [if_neg htrap] at h ⊢
          by_cases hextra : kind = "EXTRA".toList
          · rw [if_pos hextra] at h ⊢
            obtain ⟨p, hp, hadds⟩ := extraStep_adds h
            simp only [hp, Option.bind_eq_bind, Option.bind_some]
            exact hadds
          · rw [if_neg hextra] at h ⊢
            by_cases hend : kind = "END".toList
            · rw [if_pos hend] at h ⊢
              exact endStep_adds h
            · rw [if_neg hend] at h ⊢
              cases h
              exact fun _ => rfl

/-- The lines of a capture that are for an entry. -/
def countOf (py : Python) (lines : List Chars) (e : Entry) : ℕ := lines.countP fun line => entryOf py line == some e

/-- The tables count the lines for each entry. -/
theorem fold_counts {lines : List Chars} (h : lines.foldlM (step py) st = .ok st') (e : Entry) :
    countOf py lines e + (st.has e).toNat = (st'.has e).toNat := by
  induction lines generalizing st with
  | nil =>
    cases h
    simp [countOf]
  | cons line lines ih =>
    rw [List.foldlM_cons] at h
    obtain ⟨st₁, hstep, hrest⟩ := bind_eq_ok.1 h
    have hcount := ih hrest
    have hadds := step_adds hstep
    unfold countOf at hcount ⊢
    rw [List.countP_cons]
    cases hentry : entryOf py line with
    | none =>
      rw [hentry] at hadds
      simp only [hadds e] at hcount
      simpa [hentry] using hcount
    | some e' =>
      rw [hentry] at hadds
      obtain ⟨hnew, hall⟩ := hadds
      rw [hall e] at hcount
      by_cases he : e = e'
      · subst he
        rw [hnew]
        simpa using hcount
      · have hne : e' ≠ e := Ne.symm he
        simpa [he, hne] using hcount

/-! ### Complete captures -/

private theorem ensure_eq_ok {ok : Bool} {failure : Failure} {r : Unit} : ensure ok failure = .ok r ↔ ok = true := by
  cases ok <;> simp [ensure]

/-- A card that passes the checks has all entries of its tables. -/
theorem checkCard_has (h : checkCard st card = .ok ()) :
    (∀ passage slot, (st.traps card passage slot).isSome = true) ∧
      ∀ passage, (st.extra card passage).isSome = true := by
  unfold checkCard at h
  simp only [bind_eq_ok, ensure_eq_ok] at h
  obtain ⟨-, -, -, -, -, -, -, hextra, -, hzero, -, hone, -⟩ := h
  rw [Bool.and_eq_true] at hextra
  simp only [State.hasSlots, List.all_eq_true, List.mem_finRange, forall_const] at hzero hone
  constructor
  · intro passage slot
    match passage with
    | 0 => exact hzero slot
    | 1 => exact hone slot
  · intro passage
    match passage with
    | 0 => exact hextra.1
    | 1 => exact hextra.2

private theorem check_has (h : check st = .ok ()) (e : Entry) : st.has e = true := by
  unfold check at h
  simp only [bind_eq_ok, ensure_eq_ok] at h
  obtain ⟨-, hmarkers, ⟨⟩, hfirst, hsecond⟩ := h
  have hmarkers' : ∀ card, st.begun card = true ∧ (st.ended card).isSome = true := by
    intro card
    simp only [Card.all, List.all_cons, List.all_nil, Bool.and_true, Bool.and_eq_true] at hmarkers
    cases card with
    | first => exact hmarkers.1
    | second => exact hmarkers.2
  have hcard : ∀ card, checkCard st card = .ok () := by
    intro card
    cases card with
    | first => exact hfirst
    | second => exact hsecond
  cases e with
  | begin card => exact (hmarkers' card).1
  | trap card passage slot => exact (checkCard_has (hcard card)).1 passage slot
  | extra card passage => exact (checkCard_has (hcard card)).2 passage
  | done card => exact (hmarkers' card).2

/-- In a capture with a result every entry has exactly one line. -/
theorem analyze_complete {data : List UInt8} {result : Result} (h : analyze py data = .ok result) :
    ∃ text, py.decode data = some text ∧ ∀ e, countOf py (Text.splitLines text) e = 1 := by
  unfold analyze at h
  cases htext : py.decode data with
  | none =>
    rw [htext] at h
    cases h
  | some text =>
    rw [htext] at h
    obtain ⟨st, hfold, hrest⟩ := bind_eq_ok.1 h
    obtain ⟨⟨⟩, hcheck, -⟩ := bind_eq_ok.1 hrest
    refine ⟨text, rfl, fun e => ?_⟩
    have hcount := fold_counts hfold e
    have hempty : ({} : State).has e = false := by cases e <;> rfl
    rw [hempty, check_has hcheck e] at hcount
    simpa using hcount

/-! ### Records of other captures -/

/-- Python on texts of ASCII characters. -/
def asciiPython : Python where
  decode := fun data => some (data.map fun b => Char.ofNat b.toNat)
  int := fun text => (Text.number 10 text).map fun n => (n : ℤ)
  sha256 := fun _ => ""

def plmLine (kind : String) (card : Card) (tail : Chars) : Chars :=
  "cmp100_plm_ro ".toList ++ kind.toList ++ " bdf=".toList ++ card.bdf ++ tail

def digitsOf (n : ℕ) : Chars := (if n < 10 then [] else [Char.ofNat (48 + n / 10)]) ++ [Char.ofNat (48 + n % 10)]

def trapLine (card : Card) (passage slot : ℕ) : Chars :=
  plmLine "TRAP" card (" pass=".toList ++ digitsOf passage ++ " slot=".toList ++ digitsOf slot ++
    " match=0 mask=0 data1=0 data2=0 action=0 plm=0".toList)

def extraLine (card : Card) (passage : ℕ) : Chars :=
  plmLine "EXTRA" card (" pass=".toList ++ digitsOf passage ++
    " boot_before=0x140000a1 boot_after=0x140000a1 fecs_plm_409650=0 tensor_409664=0 scratch30_15f8=0 scratch31_15fc=0".toList)

/-- The first record of each card stands before its BEGIN line, and the last one behind its END line. -/
def leftoverLines (card : Card) : List Chars :=
  extraLine card 0 :: plmLine "BEGIN" card " pci=10de:1d84 driver=nvidia".toList ::
    ((List.range 22).flatMap fun slot => [trapLine card 0 slot, trapLine card 1 slot]) ++
    [plmLine "END" card " passes=2 traps=22 hardware_writes=0".toList, extraLine card 1]

def leftoverText : Chars := (leftoverLines .first ++ leftoverLines .second).flatMap fun line => line ++ ['\n']

def leftoverData : List UInt8 := leftoverText.map fun c => UInt8.ofNat c.toNat

private theorem leftover_accepted : (analyze asciiPython leftoverData).toBool = true ∧
    let lines := Text.splitLines (leftoverData.map fun b => Char.ofNat b.toNat)
    lines[0]?.bind (entryOf asciiPython) = some (.extra .first 0) ∧
      lines[95]?.bind (entryOf asciiPython) = some (.extra .second 1) ∧ lines.length = 96 := by decide +kernel

private theorem leftover_result : ∃ result, analyze asciiPython leftoverData = .ok result := by
  have haccepted := leftover_accepted.1
  cases hresult : analyze asciiPython leftoverData with
  | error failure =>
    rw [hresult] at haccepted
    cases haccepted
  | ok result => exact ⟨result, rfl⟩

theorem analyze_complete_leftover : ∃ text, asciiPython.decode leftoverData = some text ∧
    ∀ e, countOf asciiPython (Text.splitLines text) e = 1 := by
  obtain ⟨result, hresult⟩ := leftover_result
  exact analyze_complete hresult

/-- A record of a card may stand before the BEGIN line of the card, and behind its END line. -/
theorem record_before_begin :
    (¬∀ (py : Python) (data : List UInt8) (result : Result) (text : Chars), analyze py data = .ok result →
      py.decode data = some text →
      ∀ card passage (i : ℕ) line, (Text.splitLines text)[i]? = some line →
        entryOf py line = some (.extra card passage) → ∃ (j : ℕ) (line' : Chars), j < i ∧
          (Text.splitLines text)[j]? = some line' ∧ entryOf py line' = some (.begin card)) ∧
    ¬∀ (py : Python) (data : List UInt8) (result : Result) (text : Chars), analyze py data = .ok result →
      py.decode data = some text →
      ∀ card passage (i : ℕ) line, (Text.splitLines text)[i]? = some line →
        entryOf py line = some (.extra card passage) → ∃ (j : ℕ) (line' : Chars), i < j ∧
          (Text.splitLines text)[j]? = some line' ∧ entryOf py line' = some (.done card) := by
  obtain ⟨result, hresult⟩ := leftover_result
  obtain ⟨-, hfirst, hlast, hlength⟩ := leftover_accepted
  constructor
  · intro h
    obtain ⟨line, hline, hextra⟩ := Option.bind_eq_some_iff.1 hfirst
    obtain ⟨j, -, hj, -⟩ := h asciiPython leftoverData result _ hresult rfl .first 0 0 line hline hextra
    omega
  · intro h
    obtain ⟨line, hline, hextra⟩ := Option.bind_eq_some_iff.1 hlast
    obtain ⟨j, line', hj, hline', -⟩ := h asciiPython leftoverData result _ hresult rfl .second 1 95 line hline hextra
    obtain ⟨hlt, -⟩ := List.getElem?_eq_some_iff.1 hline'
    omega

end CmpUnlocker.Analysis.Plm
