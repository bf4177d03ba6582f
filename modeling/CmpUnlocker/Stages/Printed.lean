import CmpUnlocker.Stages.Lines

/-!
# Printed captures

A line is printed as its marker and its fields, in the form of the kernel log.  It is read back as them
(`markerOf_printed`, `fieldsOf_printed`), and a capture is read back as the run of the records it was printed from
(`runs_captureOf`).
-/

namespace CmpUnlocker.Stages

/-! ### Lines -/

/-- A field behind others. -/
def fieldText (field : Chars × Chars) : Chars := ' ' :: field.1 ++ '=' :: field.2

/-- A line with its marker and its fields. -/
def printed (marker : Chars) (fields : Fields) : Chars := PREFIX ++ ' ' :: marker ++ fields.flatMap fieldText

/-- A text that is one word. -/
def IsWord (text : Chars) : Prop := text ≠ [] ∧ text.any Text.isSpace = false

instance (text : Chars) : Decidable (IsWord text) := inferInstanceAs (Decidable (_ ∧ _))

/-- A key that is found whole and kept as it is. -/
structure IsKey (key : Chars) : Prop where
  start : key.head?.any isKeyStart = true
  chars : key.all isKeyChar = true
  lower : key.map Char.toLower = key

instance (key : Chars) : Decidable (IsKey key) :=
  decidable_of_iff (key.head?.any isKeyStart = true ∧ key.all isKeyChar = true ∧ key.map Char.toLower = key)
    ⟨fun ⟨h₁, h₂, h₃⟩ => ⟨h₁, h₂, h₃⟩, fun h => ⟨h.start, h.chars, h.lower⟩⟩

/-- Fields that are read back as they are printed. -/
def Printable (fields : Fields) : Prop := ∀ field ∈ fields, IsKey field.1 ∧ IsWord field.2

section

variable {afterWord : Bool} {fields : Fields} {marker : Chars}

private theorem IsWord.isSpace {text : Chars} (h : IsWord text) : ∀ c ∈ text, Text.isSpace c = false := by
  simpa using h.2

private theorem isSpace_of_isKeyChar {c : Char} (h : isKeyChar c = true) : Text.isSpace c = false := by
  have hle : 48 ≤ c.toNat ∧ c.toNat ≤ 122 := by
    simp only [isKeyChar, isKeyStart, Bool.or_eq_true, Bool.and_eq_true, decide_eq_true_eq, beq_iff_eq, Char.le_def,
      UInt32.le_iff_toNat_le] at h
    rcases h with ((⟨hlow, hhigh⟩ | ⟨hlow, hhigh⟩) | rfl) | ⟨hlow, hhigh⟩
    · exact ⟨Nat.le_trans (by decide) hlow, hhigh⟩
    · exact ⟨Nat.le_trans (by decide) hlow, Nat.le_trans hhigh (by decide)⟩
    · decide
    · exact ⟨hlow, Nat.le_trans hhigh (by decide)⟩
  simp only [Text.isSpace, Bool.or_eq_false_iff, Bool.and_eq_false_iff, decide_eq_false_iff_not, beq_eq_false_iff_ne]
  omega

/-- A word without a value behind it is passed over. -/
private theorem findFields_word {word : Chars} (h : word.all isKeyChar = true) (rest : Chars) :
    findFields asciiPython afterWord 0 (word ++ ' ' :: rest) = findFields asciiPython false 0 rest := by
  induction word generalizing afterWord with
  | nil => rfl
  | cons c word ih =>
    rw [List.all_cons, Bool.and_eq_true] at h
    have hnone : matchField asciiPython afterWord (c :: (word ++ ' ' :: rest)) = none := by
      have hdrop : (word ++ ' ' :: rest).dropWhile isKeyChar = ' ' :: rest := by
        rw [List.dropWhile_append_of_pos (List.all_eq_true.1 h.2)]
        rfl
      rw [matchField, hdrop]
      simp
    rw [List.cons_append, findFields, hnone]
    exact ih h.2

/-- The characters of a match are not looked at again. -/
private theorem findFields_skip (afterWord : Bool) (text rest : Chars) :
    ∃ b, findFields asciiPython afterWord text.length (text ++ rest) = findFields asciiPython b 0 rest := by
  induction text generalizing afterWord with
  | nil => exact ⟨afterWord, rfl⟩
  | cons c text ih => exact ih _

private theorem takeWhile_flatMap : (fields.flatMap fieldText).takeWhile (fun c => !Text.isSpace c) = [] := by
  cases fields with
  | nil => rfl
  | cons field fields => rfl

/-- Printed fields are found again. -/
private theorem findFields_fields (h : Printable fields) :
    findFields asciiPython afterWord 0 (fields.flatMap fieldText) = fields := by
  induction fields generalizing afterWord with
  | nil => rfl
  | cons field fields ih =>
    obtain ⟨key, value⟩ := field
    obtain ⟨⟨hkey, hvalue⟩, hfields⟩ := List.forall_mem_cons.1 h
    cases key with
    | nil => exact absurd hkey.start (by simp)
    | cons k key =>
      have hk : isKeyStart k = true := by simpa using hkey.start
      obtain ⟨hword, hchars⟩ : asciiPython.isWord k = true ∧ ∀ c ∈ key, isKeyChar c = true := by
        have hall := hkey.chars
        rw [List.all_cons, Bool.and_eq_true] at hall
        exact ⟨hall.1, List.all_eq_true.1 hall.2⟩
      -- the key ends at the equals sign, the value at the blank of the next field
      have hmatch : matchField asciiPython false (k :: (key ++ '=' :: (value ++ fields.flatMap fieldText))) =
          some (k :: key, value) := by
        have hdrop : (key ++ '=' :: (value ++ fields.flatMap fieldText)).dropWhile isKeyChar =
            '=' :: (value ++ fields.flatMap fieldText) := by
          rw [List.dropWhile_append_of_pos hchars]
          rfl
        have htake : (key ++ '=' :: (value ++ fields.flatMap fieldText)).takeWhile isKeyChar = key := by
          rw [List.takeWhile_append_of_pos hchars]
          simp [show isKeyChar '=' = false by decide]
        have hread : (value ++ fields.flatMap fieldText).takeWhile (fun d => !Text.isSpace d) = value := by
          rw [List.takeWhile_append_of_pos (by simpa using hvalue.isSpace), takeWhile_flatMap, List.append_nil]
        rw [matchField, hdrop, htake, hk, hword]
        simp only [hread]
        simp [hvalue.1]
      have hlength : (k :: key).length + value.length = (key ++ '=' :: value).length := by
        simp only [List.length_cons, List.length_append]
        omega
      obtain ⟨b, hskip⟩ := findFields_skip true (key ++ '=' :: value) (fields.flatMap fieldText)
      -- the blank in front ends a word, so the key begins one
      calc findFields asciiPython afterWord 0 ((((k :: key), value) :: fields).flatMap fieldText)
          = findFields asciiPython false 0 (k :: (key ++ '=' :: (value ++ fields.flatMap fieldText))) := by
            rw [List.flatMap_cons, fieldText]
            simp only [List.cons_append, List.append_assoc]
            rfl
        _ = (k :: key, value) :: findFields asciiPython true ((k :: key).length + value.length)
              ((key ++ '=' :: value) ++ fields.flatMap fieldText) := by
            rw [findFields, hmatch, hword]
            simp only [List.append_assoc, List.cons_append]
        _ = (k :: key, value) :: fields := by rw [hlength, hskip, ih hfields]

/-- A printed line is read back as its fields. -/
theorem fieldsOf_printed (hmarker : marker.all isKeyChar = true) (hne : fields ≠ []) (h : Printable fields) :
    fieldsOf asciiPython (printed marker fields) = fields := by
  obtain ⟨field, others, rfl⟩ := List.exists_cons_of_ne_nil hne
  have hfields : findFields asciiPython false 0 ((field :: others).flatMap fieldText) = field :: others :=
    findFields_fields h
  have hprefix : PREFIX.all isKeyChar = true := by decide +kernel
  have hline : findFields asciiPython false 0 (printed marker (field :: others)) = field :: others := by
    rw [List.flatMap_cons, fieldText, List.cons_append, List.cons_append] at hfields
    rw [printed, List.append_assoc, List.cons_append, findFields_word hprefix, List.flatMap_cons, fieldText,
      List.cons_append, List.cons_append, findFields_word hmarker]
    exact hfields
  have hlower : ∀ f ∈ field :: others, (f.1.map Char.toLower, f.2) = f := fun f hf => Prod.ext (h f hf).1.lower rfl
  rw [fieldsOf, hline]
  exact (List.map_congr_left hlower).trans (List.map_id _)

/-- The first word of a text is not stripped. -/
private theorem takeWhile_strip {word tail : Chars} (hword : IsWord word)
    (htail : tail.takeWhile (fun c => !Text.isSpace c) = []) :
    (Text.strip (' ' :: word ++ tail)).takeWhile (fun c => !Text.isSpace c) = word := by
  have hne := hword.1
  have hchars := hword.isSpace
  have hkept : ∀ c ∈ word, (!Text.isSpace c) = true := by simpa using hchars
  have hleft : (' ' :: word ++ tail).dropWhile Text.isSpace = word ++ tail := by
    obtain ⟨c, cs, rfl⟩ := List.exists_cons_of_ne_nil hne
    have hc := hchars c List.mem_cons_self
    simp [hc, show Text.isSpace ' ' = true by decide]
  have hright : word.reverse.dropWhile Text.isSpace = word.reverse := by
    obtain ⟨c, cs, hcs⟩ := List.exists_cons_of_ne_nil (mt List.reverse_eq_nil_iff.1 hne)
    have hc := hchars c (List.mem_reverse.1 (hcs ▸ List.mem_cons_self))
    rw [hcs, List.dropWhile_cons, if_neg (by simp [hc])]
  rw [Text.strip, hleft, List.reverse_append, List.dropWhile_append]
  split
  · rw [hright, List.reverse_reverse]
    have hall : (word ++ []).takeWhile (fun c => !Text.isSpace c) = word ++ [] := List.takeWhile_append_of_pos hkept
    rwa [List.append_nil] at hall
  · -- what is left of the tail still begins with its white space
    have hfront : (tail.reverse.dropWhile Text.isSpace).reverse <+: tail := by
      have := List.reverse_prefix.2 (List.dropWhile_suffix (l := tail.reverse) Text.isSpace)
      rwa [List.reverse_reverse] at this
    have hstays : ((tail.reverse.dropWhile Text.isSpace).reverse).takeWhile (fun c => !Text.isSpace c) = [] := by
      obtain ⟨rest, hrest⟩ := hfront
      cases hstart : (tail.reverse.dropWhile Text.isSpace).reverse with
      | nil => rfl
      | cons c cs =>
        rw [← hrest, hstart, List.cons_append, List.takeWhile_cons] at htail
        rw [List.takeWhile_cons]
        split at htail
        · cases htail
        · next hspace => rw [if_neg hspace]
    rw [List.reverse_append, List.reverse_reverse, List.takeWhile_append_of_pos hkept, hstays, List.append_nil]

/-- It is read back as its marker. -/
theorem markerOf_printed (hmarker : IsWord marker) : markerOf (printed marker fields) = marker := by
  have hcut : Text.cut PREFIX (printed marker fields) = ([], some (' ' :: marker ++ fields.flatMap fieldText)) := by
    rw [printed, List.append_assoc]
    exact Text.cut_prefix (by decide) _
  rw [markerOf, hcut]
  exact takeWhile_strip hmarker takeWhile_flatMap

theorem contains_printed : Text.contains PREFIX (printed marker fields) = true := by
  rw [Text.contains, printed, List.append_assoc, Text.cut_prefix (by decide)]
  rfl

/-- It is one line. -/
theorem printed_line (hmarker : marker.all isKeyChar = true) (h : Printable fields) :
    ∀ c ∈ printed marker fields, Text.isLineEnd c = false := by
  have hkeyed {word : Chars} (hword : word.all isKeyChar = true) : ∀ c ∈ word, Text.isLineEnd c = false :=
    fun c hc => Text.isLineEnd_of_not_isSpace (isSpace_of_isKeyChar (List.all_eq_true.1 hword c hc))
  have hprefix : PREFIX.all isKeyChar = true := by decide +kernel
  intro c hc
  simp only [printed, List.mem_append, List.mem_cons, List.mem_flatMap] at hc
  rcases hc with (hc | rfl | hc) | ⟨field, hfield, hc⟩
  · exact hkeyed hprefix c hc
  · decide
  · exact hkeyed hmarker c hc
  · simp only [fieldText, List.cons_append, List.mem_append, List.mem_cons] at hc
    obtain ⟨hkey, hvalue⟩ := h field hfield
    rcases hc with rfl | hc | rfl | hc
    · decide
    · exact hkeyed hkey.chars c hc
    · decide
    · exact Text.isLineEnd_of_not_isSpace (hvalue.isSpace c hc)

/-! ### Numbers -/

def decimalText (n : Nat) : Chars := Nat.toDigits 10 n

private theorem isWord_decimalText (n : Nat) : IsWord (decimalText n) := by
  refine ⟨Nat.toDigits_ne_nil, List.any_eq_false.2 fun c hc => ?_⟩
  rw [Bool.not_eq_true]
  have hdigit : c.isDigit = true := Nat.isDigit_of_mem_toDigits (by simp) (by simp) hc
  refine isSpace_of_isKeyChar ?_
  have hrange : '0' ≤ c ∧ c ≤ '9' := by simpa [Char.isDigit, Char.le_def] using hdigit
  simp [isKeyChar, hrange]

private theorem decimalDigits_eq {cs : Chars} (h : ∀ c ∈ cs, c.isDigit = true) (afterDigit : Bool) (acc : Nat) :
    decimalDigits asciiPython afterDigit acc cs =
      if cs = [] ∧ afterDigit = false then none else some (Nat.ofDigitChars 10 cs acc) := by
  induction cs generalizing afterDigit acc with
  | nil => cases afterDigit <;> rfl
  | cons c cs ih =>
    obtain ⟨hc, hcs⟩ := List.forall_mem_cons.1 h
    have hrange : '0' ≤ c ∧ c ≤ '9' := by
      simpa [Char.isDigit, Char.le_def] using hc
    have hunderscore : (c == '_') = false := by
      rw [beq_eq_false_iff_ne]
      rintro rfl
      exact absurd hrange.2 (by decide)
    have hvalue : asciiPython.decimal c = some (c.toNat - '0'.toNat) := if_pos hrange
    have hrest := ih hcs true (10 * acc + (c.toNat - '0'.toNat))
    simp only [decimalDigits, hunderscore, hvalue, hrest, Nat.ofDigitChars_cons]
    simp

/-- A number is read back. -/
theorem integer_decimalText {n : Nat} (h : n < 10 ^ 20) (field : String) :
    integer asciiPython (decimalText n) field = .ok (n : Int) := by
  have hdigits : ∀ c ∈ decimalText n, c.isDigit = true := fun c hc => Nat.isDigit_of_mem_toDigits (by simp) (by simp) hc
  have hlength : (decimalText n).length ≤ 20 := (Nat.length_toDigits_le_iff (by simp) (by simp)).2 h
  have hread : decimalDigits asciiPython false 0 (decimalText n) = some n := by
    have hne : decimalText n ≠ [] := Nat.toDigits_ne_nil
    rw [decimalDigits_eq hdigits, if_neg (by simp [hne])]
    exact congrArg some Nat.ofDigitChars_ten_toDigits
  have hcount : (decimalText n).countP (fun c => (asciiPython.decimal c).isSome) ≤ 20 :=
    List.countP_le_length.trans hlength
  generalize decimalText n = cs at hdigits hread hcount
  -- no digit is the x of a hexadecimal number
  have hx : hexadecimal cs = none := by
    unfold hexadecimal
    split
    · next x digits =>
      have hx : x.isDigit = true := hdigits x (by simp)
      have hx' : ¬(x == 'x' || x == 'X') = true := by
        simp only [Bool.or_eq_true, beq_iff_eq, not_or]
        constructor
        · rintro rfl
          exact absurd hx (by decide)
        · rintro rfl
          exact absurd hx (by decide)
      rw [if_neg hx']
    · rfl
  have hint : decimalInt asciiPython cs = some (n : Int) := by
    have hfew : ¬(0 < asciiPython.maxDigits && asciiPython.maxDigits <
        cs.countP fun c => (asciiPython.decimal c).isSome) = true := by
      have hmax : asciiPython.maxDigits = 4300 := rfl
      simp only [hmax, Bool.and_eq_true, decide_eq_true_eq]
      omega
    unfold decimalInt
    rw [if_neg hfew]
    split
    · next digits => exact absurd (hdigits '-' (by simp)) (by decide)
    · next digits => exact absurd (hdigits '+' (by simp)) (by decide)
    · rw [hread]
      rfl
  rw [integer, hx, hint]

/-- The last of the fields with a key that occurs once. -/
theorem Fields.get_of_mem {key : String} {value : Chars} (hnodup : (fields.map (·.1)).Nodup)
    (h : (key.toList, value) ∈ fields) : fields.get key = some value := by
  -- the reader takes the last field of the name, which is the only one
  have hfind : fields.reverse.find? (fun field => field.1 = key.toList) = some (key.toList, value) := by
    cases hfound : fields.reverse.find? (fun field => field.1 = key.toList) with
    | none =>
      have hnot := List.find?_eq_none.1 hfound (key.toList, value) (List.mem_reverse.2 h)
      exact absurd (decide_eq_true rfl) hnot
    | some field =>
      have hkey : field.1 = key.toList := by simpa using List.find?_some hfound
      have hmem : field ∈ fields := List.mem_reverse.1 (List.mem_of_find?_eq_some hfound)
      exact congrArg some (List.inj_on_of_nodup_map hnodup hmem h hkey)
  rw [Fields.get, hfind]
  rfl

private theorem integerField_of_mem (hnodup : (fields.map (·.1)).Nodup) (key : String) (n : UInt32)
    (h : (key.toList, decimalText n.toNat) ∈ fields) : integerField asciiPython fields key = .ok (n.toNat : Int) := by
  rw [integerField, Fields.get_of_mem hnodup h]
  exact integer_decimalText (Nat.lt_trans n.toNat_lt (by simp)) key

private theorem missingFields_eq_nil (hnodup : (fields.map (·.1)).Nodup) (required : List String)
    (h : ∀ key ∈ required, key.toList ∈ fields.map (·.1)) : missingFields fields required = [] := by
  rw [missingFields, List.filter_eq_nil_iff]
  intro key hkey
  obtain ⟨field, hfield, heq⟩ := List.mem_map.1 (h key hkey)
  have hget : fields.get key = some field.2 := Fields.get_of_mem hnodup (heq ▸ hfield)
  simp [hget]

end

/-! ### Records -/

/-- A record of a run: no time passes in a stage, POST is not forced, and no probe has missed anything. -/
inductive Record
  | stage (seq : UInt32) (name : Chars) (rc : UInt32)
  | value (seq reg content : UInt32)
  | missed (symbol : Chars)

namespace Record

def marker : Record → String
  | stage _ _ _ => "STAGE"
  | value _ _ _ => "VALUE"
  | missed _ => "MISSED"

def fields : Record → Fields
  | stage seq name rc =>
    [("seq".toList, decimalText seq.toNat), ("name".toList, name), ("start_ns".toList, decimalText (0 : UInt32).toNat),
      ("end_ns".toList, decimalText (0 : UInt32).toNat), ("pid".toList, decimalText (1 : UInt32).toNat),
      ("rc".toList, decimalText rc.toNat), ("post".toList, decimalText (0 : UInt32).toNat),
      ("invalid".toList, decimalText (0 : UInt32).toNat)]
  | value seq reg content =>
    [("seq".toList, decimalText seq.toNat), ("reg".toList, decimalText reg.toNat),
      ("value".toList, decimalText content.toNat)]
  | missed symbol => [("symbol".toList, symbol), ("nmissed".toList, decimalText (0 : UInt32).toNat)]

def text (r : Record) : Chars := printed r.marker.toList r.fields

/-- The text of a record is one word. -/
def Named : Record → Prop
  | stage _ name _ => IsWord name
  | value _ _ _ => True
  | missed symbol => IsWord symbol

/-- What the record adds to the run. -/
def store (run : Run) (l : Line) : Record → Run
  | stage seq name rc =>
    run.addStage { line := l.1, seq := seq.toNat, name := name, startNs := 0, endNs := 0, pid := 1, rc := rc.toNat
                   post := 0, invalid := 0, values := [], raw := l.2 }
  | value seq reg content =>
    run.addValue { line := l.1, seq := seq.toNat, reg := reg.toNat, value := content.toNat, raw := l.2
                   reg_lt := Nat.le_of_lt_succ reg.toNat_lt, value_lt := Nat.le_of_lt_succ content.toNat_lt }
  | missed symbol => run.addMissed { line := l.1, symbol := symbol, nmissed := 0, raw := l.2 }

theorem nodup_keys (r : Record) : (r.fields.map (·.1)).Nodup := by
  cases r with
  | stage seq name rc =>
    show ["seq".toList, "name".toList, "start_ns".toList, "end_ns".toList, "pid".toList, "rc".toList, "post".toList,
      "invalid".toList].Nodup
    decide +kernel
  | value seq reg content =>
    show ["seq".toList, "reg".toList, "value".toList].Nodup
    decide +kernel
  | missed symbol =>
    show ["symbol".toList, "nmissed".toList].Nodup
    decide +kernel

theorem printable {r : Record} (h : r.Named) : Printable r.fields := by
  have hkeys : ∀ key ∈ ["seq".toList, "name".toList, "start_ns".toList, "end_ns".toList, "pid".toList, "rc".toList,
      "post".toList, "invalid".toList, "reg".toList, "value".toList, "symbol".toList, "nmissed".toList], IsKey key := by
    decide +kernel
  have hkey : ∀ field ∈ r.fields, IsKey field.1 := by
    intro field hfield
    refine hkeys _ ?_
    cases r with
    | stage seq name rc =>
      simp only [fields, List.mem_cons, List.not_mem_nil, or_false] at hfield
      rcases hfield with rfl | rfl | rfl | rfl | rfl | rfl | rfl | rfl <;> simp
    | value seq reg content =>
      simp only [fields, List.mem_cons, List.not_mem_nil, or_false] at hfield
      rcases hfield with rfl | rfl | rfl <;> simp
    | missed symbol =>
      simp only [fields, List.mem_cons, List.not_mem_nil, or_false] at hfield
      rcases hfield with rfl | rfl <;> simp
  have hword : ∀ field ∈ r.fields, IsWord field.2 := by
    cases r with
    | stage seq name rc => simp [fields, isWord_decimalText, show IsWord name from h]
    | value seq reg content => simp [fields, isWord_decimalText]
    | missed symbol => simp [fields, isWord_decimalText, show IsWord symbol from h]
  exact fun field hfield => ⟨hkey field hfield, hword field hfield⟩

theorem marker_chars (r : Record) : r.marker.toList.all isKeyChar = true := by
  have hmarkers : ∀ marker ∈ ["STAGE", "VALUE", "MISSED"], marker.toList.all isKeyChar = true := by decide +kernel
  exact hmarkers r.marker (by cases r <;> simp [marker])

theorem isWord_marker (r : Record) : IsWord r.marker.toList := by
  have hmarkers : ∀ marker ∈ ["STAGE", "VALUE", "MISSED"], IsWord marker.toList := by decide +kernel
  exact hmarkers r.marker (by cases r <;> simp [marker])

theorem fieldsOf_text {r : Record} (h : r.Named) : fieldsOf asciiPython r.text = r.fields :=
  fieldsOf_printed r.marker_chars (by cases r <;> simp [fields]) (printable h)

theorem markerOf_text (r : Record) : markerOf r.text = r.marker.toList :=
  markerOf_printed r.isWord_marker

/-- A printed record is read back. -/
theorem record_text {r : Record} (h : r.Named) (run : Run) (n : Nat) :
    run.record asciiPython (n, r.text) = r.store run (n, r.text) := by
  have hint := integerField_of_mem r.nodup_keys
  have hmissing := missingFields_eq_nil r.nodup_keys
  unfold Run.record
  rw [fieldsOf_text h, markerOf_text]
  cases r with
  | stage seq name rc =>
    have hread : parseStage asciiPython n (stage seq name rc).text (stage seq name rc).fields =
        .ok { line := n, seq := seq.toNat, name := name, startNs := 0, endNs := 0, pid := 1, rc := rc.toNat
              post := 0, invalid := 0, values := [], raw := (stage seq name rc).text } := by
      have hname : (stage seq name rc).fields.get "name" = some name :=
        Fields.get_of_mem (nodup_keys _) (by simp [fields])
      rw [parseStage, hmissing _ (by simp [fields]), hint "seq" seq (by simp [fields]),
        hint "start_ns" 0 (by simp [fields]), hint "end_ns" 0 (by simp [fields]), hint "pid" 1 (by simp [fields]),
        hint "rc" rc (by simp [fields]), hint "post" 0 (by simp [fields]), hint "invalid" 0 (by simp [fields]), hname]
      rfl
    simp only [hread]
    exact if_pos rfl
  | value seq reg content =>
    have hread : parseValue asciiPython n (value seq reg content).text (value seq reg content).fields =
        .ok { line := n, seq := seq.toNat, reg := reg.toNat, value := content.toNat, raw := (value seq reg content).text
              reg_lt := Nat.le_of_lt_succ reg.toNat_lt, value_lt := Nat.le_of_lt_succ content.toNat_lt } := by
      rw [parseValue, hmissing _ (by simp [fields]), hint "reg" reg (by simp [fields]),
        hint "value" content (by simp [fields]), hint "seq" seq (by simp [fields])]
      have hreg : (reg.toNat : Int) ≤ 0xFFFFFFFF := by
        have := reg.toNat_lt
        omega
      have hcontent : (content.toNat : Int) ≤ 0xFFFFFFFF := by
        have := content.toNat_lt
        omega
      exact dif_pos ⟨⟨Int.natCast_nonneg _, hreg⟩, Int.natCast_nonneg _, hcontent⟩
    simp only [hread]
    exact (if_neg (by simp [marker])).trans (if_pos rfl)
  | missed symbol =>
    have hread : parseMissed asciiPython n (missed symbol).text (missed symbol).fields =
        .ok { line := n, symbol := symbol, nmissed := 0, raw := (missed symbol).text } := by
      have hsymbol : (missed symbol).fields.get "symbol" = some symbol :=
        Fields.get_of_mem (nodup_keys _) (by simp [fields])
      have hnmissed : (missed symbol).fields.get "nmissed" = some (decimalText (0 : UInt32).toNat) :=
        Fields.get_of_mem (nodup_keys _) (by simp [fields])
      rw [parseMissed, hsymbol, hint "nmissed" 0 (by simp [fields]), hnmissed]
      rfl
    simp only [hread]
    exact (if_neg (by simp [marker])).trans ((if_neg (by simp [marker])).trans (if_pos rfl))

end Record

/-! ### Captures -/

def beginFields (count : UInt32) : Fields :=
  [("bdf".toList, "0000:01:00.0".toList), ("records".toList, decimalText count.toNat),
    ("dropped".toList, decimalText (0 : UInt32).toNat)]

def endFields : Fields := [("bdf".toList, "0000:01:00.0".toList)]

def beginText (count : UInt32) : Chars := printed "BEGIN".toList (beginFields count)

def endText : Chars := printed "END".toList endFields

/-- The capture of one run that declares `count` records. -/
def captureOf (count : UInt32) (records : List Record) : Chars :=
  (beginText count :: (records.map Record.text ++ [endText])).flatMap fun line => line ++ ['\n']

/-- The run with these records, each with the number of its line. -/
def runOf (count : UInt32) (records : List (Record × Nat)) (final : Line) : Run :=
  let run := records.foldl (fun run r => r.1.store (run.keep (r.2, r.1.text)) (r.2, r.1.text))
    (Scan.opened asciiPython [] (1, beginText count))
  (run.keep final).finish asciiPython final

private theorem boundary_keys : IsKey "bdf".toList ∧ IsKey "records".toList ∧ IsKey "dropped".toList ∧
    IsWord "0000:01:00.0".toList := by decide +kernel

private theorem boundary_markers : "BEGIN".toList.all isKeyChar = true ∧ IsWord "BEGIN".toList ∧
    "END".toList.all isKeyChar = true ∧ IsWord "END".toList := by decide +kernel

private theorem printable_begin (count : UInt32) : Printable (beginFields count) := by
  obtain ⟨hbdf, hrecords, hdropped, hvalue⟩ := boundary_keys
  intro field hfield
  simp only [beginFields, List.mem_cons, List.not_mem_nil, or_false] at hfield
  rcases hfield with rfl | rfl | rfl
  · exact ⟨hbdf, hvalue⟩
  · exact ⟨hrecords, isWord_decimalText _⟩
  · exact ⟨hdropped, isWord_decimalText (0 : UInt32).toNat⟩

private theorem printable_end : Printable endFields := by
  intro field hfield
  rw [endFields, List.mem_singleton] at hfield
  subst hfield
  exact ⟨boundary_keys.1, boundary_keys.2.2.2⟩

private theorem numbered_captureOf (count : UInt32) {records : List Record} (h : ∀ r ∈ records, r.Named) :
    numbered (captureOf count records) = (1, beginText count) ::
      ((records.zipIdx 2).map (fun r => (r.2, r.1.text)) ++ [(records.length + 2, endText)]) := by
  have hlines : Text.splitLines (captureOf count records) =
      beginText count :: (records.map Record.text ++ [endText]) := by
    refine Text.splitLines_flatMap fun line hline => ?_
    simp only [List.mem_cons, List.mem_append, List.mem_map, List.not_mem_nil, or_false] at hline
    rcases hline with rfl | ⟨r, hr, rfl⟩ | rfl
    · exact printed_line boundary_markers.1 (printable_begin count)
    · exact printed_line r.marker_chars (Record.printable (h r hr))
    · exact printed_line boundary_markers.2.2.1 printable_end
  rw [numbered, hlines, List.zipIdx_cons, List.zipIdx_append, List.zipIdx_map]
  simp [Nat.add_comm]

private theorem looked_printed {n : Nat} {marker : Chars} {fields : Fields} (hword : IsWord marker)
    (harmed : marker ≠ "ARMED".toList) : looked (n, printed marker fields) = true := by
  rw [looked, contains_printed, markerOf_printed hword, beq_eq_false_iff_ne.2 harmed]
  rfl

/-- One printed record is stored. -/
private theorem step_text {r : Record} (h : r.Named) (run : Run) (n : Nat) :
    Scan.step asciiPython { current := some run } (n, r.text) =
      { current := some (r.store (run.keep (n, r.text)) (n, r.text)) } := by
  obtain ⟨harmed, hbegin, hend⟩ : r.marker.toList ≠ "ARMED".toList ∧ r.marker.toList ≠ "BEGIN".toList ∧
      r.marker.toList ≠ "END".toList := by
    cases r <;> simp [Record.marker]
  have hnotBegin : ¬isBegin (n, r.text) = true := by simpa [isBegin, r.markerOf_text] using hbegin
  have hnotEnd : ¬isEnd (n, r.text) = true := by simpa [isEnd, r.markerOf_text] using hend
  have htake : run.take asciiPython (n, r.text) = r.store (run.keep (n, r.text)) (n, r.text) :=
    (if_neg hnotEnd).trans (Record.record_text h _ n)
  have hlooked : looked (n, r.text) = true := looked_printed r.isWord_marker harmed
  rw [Scan.step_looked _ _ _ hlooked, if_neg hnotBegin, ← htake]
  exact if_neg hnotEnd

private theorem foldl_text {records : List (Record × Nat)} (h : ∀ r ∈ records, r.1.Named) (run : Run) :
    (records.map fun r => (r.2, r.1.text)).foldl (Scan.step asciiPython) { current := some run } =
      { current := some (records.foldl (fun run r => r.1.store (run.keep (r.2, r.1.text)) (r.2, r.1.text)) run) } := by
  induction records generalizing run with
  | nil => rfl
  | cons r records ih =>
    obtain ⟨hr, hrecords⟩ := List.forall_mem_cons.1 h
    rw [List.map_cons, List.foldl_cons, step_text hr, ih hrecords, List.foldl_cons]

/-- A printed capture is read back. -/
theorem runs_captureOf (count : UInt32) {records : List Record} (h : ∀ r ∈ records, r.Named) :
    (parseCapture asciiPython (captureOf count records)).runs =
      [validateRun (runOf count (records.zipIdx 2) (records.length + 2, endText))] := by
  have hnamed : ∀ r ∈ records.zipIdx 2, r.1.Named := fun r hr => h r.1 (List.fst_mem_of_mem_zipIdx hr)
  have hbegin : Scan.step asciiPython {} (1, beginText count) =
      { current := some (Scan.opened asciiPython [] (1, beginText count)) } := by
    have hmarker : isBegin (1, beginText count) = true := beq_iff_eq.2 (markerOf_printed boundary_markers.2.1)
    exact (Scan.step_looked _ _ _ (looked_printed boundary_markers.2.1 (by simp))).trans (if_pos hmarker)
  have hend (run : Run) (n : Nat) : Scan.step asciiPython { current := some run } (n, endText) =
      { runs := [validateRun ((run.keep (n, endText)).finish asciiPython (n, endText))] } := by
    have hmarker : markerOf endText = "END".toList := markerOf_printed boundary_markers.2.2.2
    have hnotBegin : ¬isBegin (n, endText) = true := by simp [isBegin, hmarker]
    have hisEnd : isEnd (n, endText) = true := beq_iff_eq.2 hmarker
    have htake : run.take asciiPython (n, endText) = (run.keep (n, endText)).finish asciiPython (n, endText) :=
      if_pos hisEnd
    have hlooked : looked (n, endText) = true := looked_printed boundary_markers.2.2.2 (by simp)
    rw [Scan.step_looked _ _ _ hlooked, if_neg hnotBegin, ← htake]
    exact if_pos hisEnd
  show (scan asciiPython (numbered (captureOf count records))).closed = _
  rw [scan, numbered_captureOf count h, List.foldl_cons, hbegin, List.foldl_append, foldl_text hnamed, List.foldl_cons,
    List.foldl_nil, hend]
  rfl

/-! ### Stages without a loss -/

/-- The logical registers of one GPC. -/
def oneGpcRegs : List Nat :=
  [LOGICAL_GPC_COUNT_REG, COMPUTE_PIPE_CONTROL_REG, tpcCountReg 0, ppcMaskReg 0 0, ppcMaskReg 0 1, ppcMaskReg 0 2]

/-- The records of stages of the given names: no loss, no time passes, POST not forced.  The values are given by seq and
register. -/
def recordsOf (value : Nat → Nat → Nat) (names : List Chars) : List Record :=
  names.zipIdx.flatMap (fun entry =>
      .stage (.ofNat entry.2) entry.1 (if entry.1 = maskReturn then 0x1000 else 0) ::
        (PHYSICAL_REGS ++ if LOGICAL_STAGES.contains entry.1 then oneGpcRegs else []).map fun reg =>
          .value (.ofNat entry.2) (.ofNat reg) (.ofNat (value entry.2 reg)))
    ++ MISSED_SYMBOLS.map .missed

theorem recordsOf_named (value : Nat → Nat → Nat) {names : List Chars} (h : ∀ name ∈ names, IsWord name) :
    ∀ r ∈ recordsOf value names, r.Named := by
  intro r hr
  rcases List.mem_append.1 hr with hr | hr
  · obtain ⟨entry, hentry, hr⟩ := List.mem_flatMap.1 hr
    rcases List.mem_cons.1 hr with rfl | hr
    · exact h entry.1 (List.fst_mem_of_mem_zipIdx hentry)
    · obtain ⟨reg, -, rfl⟩ := List.mem_map.1 hr
      trivial
  · obtain ⟨symbol, hsymbol, rfl⟩ := List.mem_map.1 hr
    have hwords : ∀ symbol ∈ MISSED_SYMBOLS, IsWord symbol := by decide +kernel
    exact hwords symbol hsymbol

end CmpUnlocker.Stages
