import CmpUnlocker.Lib.Bytes
import CmpUnlocker.Lib.Runs

/-!
# Printable strings of an InfoROM image

`ascii_runs` of `analyze_inforom.py` walks over an image with a zero byte behind it and remembers where the current run
of printable bytes began.  It yields the maximal runs of the wanted length in ascending order
(`asciiRuns_sound_complete`).
-/

namespace CmpUnlocker.Analysis

open Runs

/-- `string.printable` -/
def stringPrintable : List UInt8 :=
  ("0123456789abcdefghijklmnopqrstuvwxyzABCDEFGHIJKLMNOPQRSTUVWXYZ!\"#$%&'()*+,-./:;<=>?@[\\]^_`\x7b|\x7d~ \t\n\r".toList.map
    fun c => UInt8.ofNat c.toNat) ++ [0x0b, 0x0c]

/-- `PRINTABLE` -/
def printable (b : UInt8) : Bool :=
  stringPrintable.contains b && !([0x0d, 0x0a, 0x09, 0x0b, 0x0c] : List UInt8).contains b

/-- `bytes.decode("ascii")` of bytes below 128. -/
def decodeAscii (bytes : List UInt8) : List Char := bytes.map fun b => Char.ofNat b.toNat

/-- The loop of `ascii_runs` from an index on. -/
def asciiRunsFrom (data : List UInt8) (minimum index : Nat) (start : Option Nat) :
    List UInt8 → List (Nat × List Char)
  | [] => []
  | value :: rest =>
    if printable value then asciiRunsFrom data minimum (index + 1) (some (start.getD index)) rest
    else match start with
      | some start =>
        let later := asciiRunsFrom data minimum (index + 1) none rest
        if minimum ≤ index - start then (start, decodeAscii (Bytes.slice data start (index - start))) :: later
        else later
      | none => asciiRunsFrom data minimum (index + 1) none rest

/-- `ascii_runs` -/
def asciiRuns (data : List UInt8) (minimum : Nat) : List (Nat × List Char) :=
  asciiRunsFrom data minimum 0 none (data ++ [0])

/-! ### Printable bytes -/

private theorem stringPrintable_ranges : stringPrintable.map UInt8.toNat =
    List.range' 0x30 10 ++ List.range' 0x61 26 ++ List.range' 0x41 26 ++ List.range' 0x21 15 ++ List.range' 0x3a 7 ++
      List.range' 0x5b 6 ++ List.range' 0x7b 4 ++ [0x20, 0x09, 0x0a, 0x0d, 0x0b, 0x0c] := by
  decide +kernel

private theorem mem_stringPrintable (b : UInt8) :
    b ∈ stringPrintable ↔ 0x20 ≤ b.toNat ∧ b.toNat ≤ 0x7e ∨ 0x09 ≤ b.toNat ∧ b.toNat ≤ 0x0d := by
  have hmap : b ∈ stringPrintable ↔ b.toNat ∈ stringPrintable.map UInt8.toNat := by
    simp only [List.mem_map, UInt8.toNat_inj, exists_eq_right]
  rw [hmap, stringPrintable_ranges]
  simp only [List.mem_append, List.mem_range'_1, List.mem_cons, List.not_mem_nil, or_false]
  omega

private theorem printable_iff (b : UInt8) : printable b = true ↔ 0x20 ≤ b ∧ b ≤ 0x7e := by
  unfold printable
  rw [Bool.and_eq_true, List.contains_iff_mem, mem_stringPrintable, Bool.not_eq_true', ← Bool.not_eq_true,
    List.contains_iff_mem]
  -- the five control characters of the string are exactly the ones taken out
  simp only [List.mem_cons, List.not_mem_nil, or_false, ← UInt8.toNat_inj, UInt8.le_iff_toNat_le, UInt8.reduceToNat]
  omega

private theorem not_printable_zero : printable 0 = false := by
  rw [← Bool.not_eq_true, printable_iff]
  decide

/-! ### The loop -/

variable {data : List UInt8} {minimum index : Nat} {start : Option Nat} {rest : List UInt8}

/-- What the loop knows at an index: no printable byte is in front of the open run, and only such ones are in it. -/
def Open (data : List UInt8) (index : Nat) (start : Option Nat) : Prop :=
  Opens printable data (start.getD index) ∧ ∀ s, start = some s →
    s < index ∧ ∀ i b, s ≤ i → i < index → data[i]? = some b → printable b = true

theorem Open.next {value : UInt8} (h : Open data index start) (hget : data[index]? = some value)
    (hprintable : printable value = true) : Open data (index + 1) (some (start.getD index)) := by
  refine ⟨h.1, fun s hs => ?_⟩
  obtain rfl : start.getD index = s := by simpa using hs
  have hbefore : start.getD index ≤ index := by
    cases start with
    | none => exact Nat.le_refl _
    | some s => exact Nat.le_of_lt (h.2 s rfl).1
  refine ⟨by omega, fun i b hi hlt hb => ?_⟩
  by_cases hlast : i = index
  · subst hlast
    rw [hget] at hb
    cases hb
    exact hprintable
  · cases start with
    | none =>
      simp only [Option.getD_none] at hi
      omega
    | some s => exact (h.2 s rfl).2 i b hi (by omega) hb

/-- Behind a byte that is not printable no run is open. -/
theorem open_none {value : UInt8} (hget : ∀ b, data[index]? = some b → b = value)
    (hprintable : printable value = false) :
    Open data (index + 1) none := by
  refine ⟨fun i b hi hb => ?_, fun s hs => by cases hs⟩
  obtain rfl : i = index := by
    simp only [Option.getD_none] at hi
    omega
  rw [hget b hb, hprintable]

/-- An open run that a byte ends is a maximal one. -/
theorem Open.isRun {s : Nat} (h : Open data index (some s)) (hle : index ≤ data.length)
    (hcloses : ∀ b, data[index]? = some b → printable b = false) : IsRun printable data s index :=
  ⟨(h.2 s rfl).1, hle, (h.2 s rfl).2, h.1, hcloses⟩

/-- The yield of a maximal run. -/
def yieldOf (data : List UInt8) (s stop : Nat) : Nat × List Char := (s, decodeAscii (Bytes.slice data s (stop - s)))

/-- The byte at an index of the image with its sentinel. -/
theorem byte_at {value : UInt8} (hrest : (data ++ [0]).drop index = value :: rest) :
    (data ++ [0]).drop (index + 1) = rest ∧ index < data.length + 1 ∧ (∀ b, data[index]? = some b → b = value) ∧
      (printable value = true → data[index]? = some value) := by
  have hget : (data ++ [0])[index]? = some value := by
    rw [← List.head?_drop, hrest]
    rfl
  have hlt : index < data.length + 1 := by
    have hbound := (List.getElem?_eq_some_iff.1 hget).1
    simpa using hbound
  refine ⟨by rw [← List.drop_drop, hrest, List.drop_one, List.tail_cons], hlt, fun b hb => ?_, fun hprintable => ?_⟩
  · have hin := (List.getElem?_eq_some_iff.1 hb).1
    rw [List.getElem?_append_left hin, hb] at hget
    exact Option.some.inj hget
  · by_cases hin : index < data.length
    · rw [List.getElem?_append_left hin] at hget
      exact hget
    · -- the sentinel is not printable
      rw [List.getElem?_append_right (by omega)] at hget
      obtain rfl : index = data.length := by omega
      obtain rfl : 0 = value := by simpa using hget
      rw [not_printable_zero] at hprintable
      cases hprintable

/-- From an index on the loop yields the maximal runs that end there or behind. -/
theorem mem_asciiRunsFrom (hopen : Open data index start) (hrest : (data ++ [0]).drop index = rest)
    (hindex : index ≤ data.length + 1) (y : Nat × List Char) :
    y ∈ asciiRunsFrom data minimum index start rest ↔ ∃ s stop, IsRun printable data s stop ∧ index ≤ stop ∧
      minimum ≤ stop - s ∧ y = yieldOf data s stop := by
  induction rest generalizing index start with
  | nil =>
    have hend : index = data.length + 1 := by
      have hlength := congrArg List.length hrest
      simp only [List.length_drop, List.length_append, List.length_singleton, List.length_nil] at hlength
      omega
    simp only [asciiRunsFrom, List.not_mem_nil, false_iff]
    rintro ⟨s, stop, hrun, hstop, -⟩
    have hle := hrun.le
    omega
  | cons value rest ih =>
    obtain ⟨hnext, hlt, hdata, hbyte⟩ := byte_at hrest
    unfold asciiRunsFrom
    by_cases hprintable : printable value = true
    · have hget := hbyte hprintable
      rw [if_pos hprintable, ih (hopen.next hget hprintable) hnext (by omega)]
      constructor
      · rintro ⟨s, stop, hrun, hstop, hrest⟩
        exact ⟨s, stop, hrun, by omega, hrest⟩
      · rintro ⟨s, stop, hrun, hstop, hrest⟩
        have hne : index ≠ stop := by
          rintro rfl
          have hfalse := hrun.closes value hget
          rw [hprintable] at hfalse
          cases hfalse
        exact ⟨s, stop, hrun, by omega, hrest⟩
    · have hfalse : printable value = false := by simpa using hprintable
      have hlater := ih (open_none hdata hfalse) hnext (by omega)
      rw [if_neg hprintable]
      cases start with
      | none =>
        show y ∈ asciiRunsFrom data minimum (index + 1) none rest ↔ _
        rw [hlater]
        constructor
        · rintro ⟨s, stop, hrun, hstop, hrest⟩
          exact ⟨s, stop, hrun, by omega, hrest⟩
        · rintro ⟨s, stop, hrun, hstop, hrest⟩
          have hapart := hrun.apart hopen.1
          have hlt := hrun.lt
          simp only [Option.getD_none] at hapart
          refine ⟨s, stop, hrun, ?_, hrest⟩
          by_cases hne : index = stop
          · omega
          · omega
      | some s =>
        have hrun : IsRun printable data s index :=
          hopen.isRun (by omega) fun b hb => by rw [hdata b hb, hfalse]
        by_cases hlong : minimum ≤ index - s
        · simp only [if_pos hlong, List.mem_cons, hlater]
          constructor
          · rintro (rfl | ⟨s', stop, hrun', hstop, hrest⟩)
            · exact ⟨s, index, hrun, by omega, hlong, rfl⟩
            · exact ⟨s', stop, hrun', by omega, hrest⟩
          · rintro ⟨s', stop, hrun', hstop, hlong', rfl⟩
            by_cases hend : stop = index
            · subst hend
              obtain rfl := hrun.start_unique hrun'
              exact .inl rfl
            · exact .inr ⟨s', stop, hrun', by omega, hlong', rfl⟩
        · simp only [if_neg hlong, hlater]
          constructor
          · rintro ⟨s', stop, hrun', hstop, hrest⟩
            exact ⟨s', stop, hrun', by omega, hrest⟩
          · rintro ⟨s', stop, hrun', hstop, hlong', rfl⟩
            have hend : stop ≠ index := by
              rintro rfl
              obtain rfl := hrun.start_unique hrun'
              exact hlong hlong'
            exact ⟨s', stop, hrun', by omega, hlong', rfl⟩

private theorem asciiRunsFrom_ascending (hopen : Open data index start) (hrest : (data ++ [0]).drop index = rest)
    (hindex : index ≤ data.length + 1) :
    (asciiRunsFrom data minimum index start rest).Pairwise fun a b => a.1 < b.1 := by
  induction rest generalizing index start with
  | nil => exact List.Pairwise.nil
  | cons value rest ih =>
    obtain ⟨hnext, hlt, hdata, hbyte⟩ := byte_at hrest
    unfold asciiRunsFrom
    by_cases hprintable : printable value = true
    · rw [if_pos hprintable]
      exact ih (hopen.next (hbyte hprintable) hprintable) hnext (by omega)
    · have hfalse : printable value = false := by simpa using hprintable
      have hnone := open_none hdata hfalse
      have hlater := ih hnone hnext (by omega)
      rw [if_neg hprintable]
      cases start with
      | none => exact hlater
      | some s =>
        by_cases hlong : minimum ≤ index - s
        · simp only [if_pos hlong, List.pairwise_cons]
          refine ⟨fun y hy => ?_, hlater⟩
          obtain ⟨s', stop, hrun', hstop, -, rfl⟩ := (mem_asciiRunsFrom hnone hnext (by omega) y).1 hy
          have hrun : IsRun printable data s index :=
            hopen.isRun (by omega) fun b hb => by rw [hdata b hb, hfalse]
          have hbehind := hrun.behind hrun' (by omega)
          have hbefore := hrun.lt
          show s < s'
          omega
        · simp only [if_neg hlong]
          exact hlater

private theorem open_zero (data : List UInt8) : Open data 0 none :=
  ⟨fun i b hi hb => by simp at hi, fun s hs => by cases hs⟩

/-- The strings of an image: the maximal runs of printable bytes of the wanted length, in ascending order. -/
theorem asciiRuns_sound_complete (data : List UInt8) (minimum : Nat) :
    (asciiRuns data minimum).Pairwise (fun a b => a.1 < b.1) ∧
      ∀ start text, (start, text) ∈ asciiRuns data minimum ↔ ∃ stop, IsRun printable data start stop ∧
        minimum ≤ stop - start ∧ text = decodeAscii (Bytes.slice data start (stop - start)) := by
  have hopen := open_zero data
  have hdrop : (data ++ [0]).drop 0 = data ++ [0] := List.drop_zero
  refine ⟨asciiRunsFrom_ascending hopen hdrop (by omega), fun start text => ?_⟩
  rw [asciiRuns, mem_asciiRunsFrom hopen hdrop (by omega)]
  constructor
  · rintro ⟨s, stop, hrun, -, hlong, hy⟩
    obtain ⟨rfl, rfl⟩ := Prod.mk.inj hy
    exact ⟨stop, hrun, hlong, rfl⟩
  · rintro ⟨stop, hrun, hlong, rfl⟩
    exact ⟨start, stop, hrun, by omega, hlong, rfl⟩

example : asciiRuns [0x41, 0x42, 0x00, 0x43, 0x0a, 0x44, 0x45] 2 = [(0, ['A', 'B']), (5, ['D', 'E'])] := by
  decide +kernel

end CmpUnlocker.Analysis
