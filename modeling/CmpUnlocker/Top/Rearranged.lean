import CmpUnlocker.Top.Order

/-!
# Captures with rearranged lines

Lines between two boundaries may change places and lines without the prefix may be put anywhere (`Rearranged`): the
segments of the lines have the same boundaries and the same occurrences in another order (`Alike`), so the snapshots
report the same.
-/

namespace CmpUnlocker.Top

open Stages (Chars Python Line fieldsOf numbered)

/-! ### Rearranged lines -/

/-- A line with the prefix and just one of the words BEGIN and END. -/
def isBoundary (py : Python) (raw : Chars) : Bool := hasPrefix py raw && (isBegin py raw != isEnd py raw)

/-- The lines between boundaries in another order, and further lines without the prefix. -/
inductive Rearranged (py : Python) : List Chars → List Chars → Prop
  | nil : Rearranged py [] []
  | keep {raws raws' : List Chars} (raw : Chars) : Rearranged py raws raws' → Rearranged py (raw :: raws) (raw :: raws')
  | insert {raws raws' : List Chars} (raw : Chars) : hasPrefix py raw = false → Rearranged py raws raws' →
      Rearranged py raws (raw :: raws')
  | permute {inner inner' raws raws' : List Chars} : inner.Perm inner' → (∀ raw ∈ inner, isBoundary py raw = false) →
      Rearranged py raws raws' → Rearranged py (inner ++ raws) (inner' ++ raws')
  | trans {raws raws' raws'' : List Chars} : Rearranged py raws raws' → Rearranged py raws' raws'' →
      Rearranged py raws raws''

/-! ### Messages -/

/-- A line that is no boundary adds no message. -/
def Fine (py : Python) (opened : Bool) (raw : Chars) : Prop :=
  hasPrefix py raw = true → ∀ fields, registerFields (fieldsOf py raw) = some fields →
    opened = true ∧ (readRegister 0 fields).isOk = true

/-- No line adds a message, and no snapshot is left open. -/
def Quiet (py : Python) (opened : Bool) : List Line → Prop
  | [] => opened = false
  | l :: ls =>
    if boundary py l then
      if isBegin py l.2 then opened = false ∧ Quiet py true ls else opened = true ∧ Quiet py false ls
    else Fine py opened l.2 ∧ Quiet py opened ls

private theorem quiet_cons (py : Python) (opened : Bool) (l : Line) (ls : List Line) :
    Quiet py opened (l :: ls) ↔
      if boundary py l then
        if isBegin py l.2 then opened = false ∧ Quiet py true ls else opened = true ∧ Quiet py false ls
      else Fine py opened l.2 ∧ Quiet py opened ls := Iff.rfl

private theorem isOk_readRegister (line line' : Nat) (fields : Chars × Chars × Chars) :
    (readRegister line fields).isOk = (readRegister line' fields).isOk := by
  unfold readRegister
  cases parseHex32 fields.2.1 with
  | error reason => rfl
  | ok reg => cases parseHex32 fields.2.2 <;> rfl

private theorem step_fine {py : Python} {l : Line} (s : Scan) (h : boundary py l = false) :
    (s.step py l).messages = [] ↔ s.messages = [] ∧ Fine py s.current.isSome l.2 := by
  unfold Scan.step Fine
  rcases not_boundary_cases h with hp | ⟨hp, hsame⟩
  · rw [hp]
    simp
  · rw [hp, hsame]
    have hregister : (if !true then s else if isEnd py l.2 && !isEnd py l.2 then s.begin_ py l
        else if isEnd py l.2 && !isEnd py l.2 then s.end_ py l else s.register py l) = s.register py l := by
      cases isEnd py l.2 <;> rfl
    rw [hregister]
    unfold Scan.register
    cases registerFields (fieldsOf py l.2) with
    | none => simp
    | some fields =>
      cases hcurrent : s.current with
      | none => simp [Scan.say]
      | some current =>
        simp only [isOk_readRegister 0 l.1]
        cases hread : readRegister l.1 fields with
        | error reason => simp [Scan.say, Except.isOk, Except.toBool, hread]
        | ok item => simp [Except.isOk, Except.toBool, hread]

/-- The loop ends without a message and without an open snapshot exactly when the lines are quiet. -/
theorem scan_quiet (py : Python) (ls : List Line) (s : Scan) :
    (ls.foldl (Scan.step py) s).messages = [] ∧ (ls.foldl (Scan.step py) s).current = none ↔
      s.messages = [] ∧ Quiet py s.current.isSome ls := by
  induction ls generalizing s with
  | nil => simp [Quiet]
  | cons l ls ih =>
    rw [List.foldl_cons, ih, quiet_cons]
    by_cases h : boundary py l = true
    · rw [if_pos h]
      obtain ⟨hp, ⟨hb, he⟩ | ⟨hb, he⟩⟩ := boundary_cases h
      · rw [step_begin s hp hb he, if_pos hb]
        cases hcurrent : s.current <;> simp [Scan.begin_, Scan.say, hcurrent]
      · rw [step_end s hp hb he, if_neg (by simp [hb])]
        cases hcurrent : s.current <;> simp [Scan.end_, Scan.say, hcurrent]
    · rw [if_neg h]
      rw [Bool.not_eq_true] at h
      have hcurrent : (s.step py l).current.isSome = s.current.isSome := by
        rw [(step_other s h).2, Option.isSome_map]
      rw [step_fine s h, hcurrent, and_assoc]

/-! ### Alike lines -/

/-- The occurrence of a line without its number. -/
def contentAt (py : Python) (raw : Chars) : Option (Chars × Word × Word) :=
  (occurrenceAt py (0, raw)).map Occurrence.content

private theorem content_occurrenceAt (py : Python) (l : Line) :
    (occurrenceAt py l).map Occurrence.content = contentAt py l.2 := by
  unfold contentAt occurrenceAt
  cases hasPrefix py l.2 with
  | false => rfl
  | true =>
    cases registerFields (fieldsOf py l.2) with
    | none => rfl
    | some fields =>
      show ((readRegister l.1 fields).toOption).map Occurrence.content =
        ((readRegister 0 fields).toOption).map Occurrence.content
      unfold readRegister
      cases parseHex32 fields.2.1 with
      | error reason => rfl
      | ok reg => cases parseHex32 fields.2.2 <;> rfl

private theorem contents_eq (py : Python) (ls : List Line) :
    (ls.filterMap (occurrenceAt py)).map Occurrence.content = (ls.map (·.2)).filterMap (contentAt py) := by
  rw [List.map_filterMap, List.filterMap_map]
  congr 1
  funext l
  exact content_occurrenceAt py l

/-- Segments with the same boundaries and the same occurrences in some order. -/
structure Segment.Same (py : Python) (segment segment' : Segment) : Prop where
  opening : segment.opening.2 = segment'.opening.2
  registers : Shuffled (segment.registers py) (segment'.registers py)
  closing : segment.closing.map (·.2) = segment'.closing.map (·.2)

/-- Lines that give the same to an open snapshot, make the same segments, and are quiet together. -/
structure Alike (py : Python) (ls ls' : List Line) : Prop where
  inside : Shuffled ((inside py ls).filterMap (occurrenceAt py)) ((inside py ls').filterMap (occurrenceAt py))
  closing : (closing py ls).map (·.2) = (closing py ls').map (·.2)
  segments : List.Forall₂ (Segment.Same py) (segments py ls) (segments py ls')
  quiet : ∀ opened, Quiet py opened ls ↔ Quiet py opened ls'

namespace Alike

variable {py : Python}

theorem nil : Alike py [] [] := ⟨.refl _, rfl, .nil, fun _ => Iff.rfl⟩

theorem trans {ls ls' ls'' : List Line} (h : Alike py ls ls') (h' : Alike py ls' ls'') : Alike py ls ls'' where
  inside := List.Perm.trans h.inside h'.inside
  closing := h.closing.trans h'.closing
  segments := by
    have hsame := h.segments
    have hsame' := h'.segments
    generalize Top.segments py ls = a at hsame
    generalize Top.segments py ls' = b at hsame hsame'
    generalize Top.segments py ls'' = c at hsame'
    induction hsame generalizing c with
    | nil =>
      cases hsame'
      exact .nil
    | cons hfirst _ ih =>
      cases hsame' with
      | cons hfirst' hrest' =>
        exact .cons ⟨hfirst.opening.trans hfirst'.opening, List.Perm.trans hfirst.registers hfirst'.registers,
          hfirst.closing.trans hfirst'.closing⟩ (ih _ hrest')
  quiet opened := (h.quiet opened).trans (h'.quiet opened)

/-- A line of the same text in front of alike lines. -/
theorem cons {l l' : Line} {ls ls' : List Line} (hl : l.2 = l'.2) (h : Alike py ls ls') :
    Alike py (l :: ls) (l' :: ls') := by
  have hboundary : boundary py l = boundary py l' := by
    unfold boundary
    rw [hl]
  have hopens : opens py l = opens py l' := by
    unfold opens
    rw [hboundary, hl]
  have hcontent : (occurrenceAt py l).map Occurrence.content = (occurrenceAt py l').map Occurrence.content := by
    rw [content_occurrenceAt, content_occurrenceAt, hl]
  constructor
  · by_cases hb : boundary py l = true
    · rw [inside_boundary ls hb, inside_boundary ls' (hboundary ▸ hb)]
      exact .refl _
    · rw [Bool.not_eq_true] at hb
      rw [inside_other ls hb, inside_other ls' (hboundary ▸ hb), List.filterMap_cons, List.filterMap_cons]
      cases ho : occurrenceAt py l with
      | none =>
        cases ho' : occurrenceAt py l' with
        | none => exact h.inside
        | some item' => rw [ho, ho'] at hcontent; exact absurd hcontent (by simp)
      | some item =>
        cases ho' : occurrenceAt py l' with
        | none => rw [ho, ho'] at hcontent; exact absurd hcontent (by simp)
        | some item' =>
          rw [ho, ho', Option.map_some, Option.map_some, Option.some.injEq] at hcontent
          unfold Shuffled
          rw [List.map_cons, List.map_cons, hcontent]
          exact h.inside.cons _
  · by_cases hb : boundary py l = true
    · rw [closing_boundary ls hb, closing_boundary ls' (hboundary ▸ hb), hl]
      cases isEnd py l'.2 <;> simp [hl]
    · rw [Bool.not_eq_true] at hb
      rw [closing_other ls hb, closing_other ls' (hboundary ▸ hb)]
      exact h.closing
  · unfold Top.segments
    rw [← hopens]
    split
    · exact .cons ⟨hl, h.inside, h.closing⟩ h.segments
    · exact h.segments
  · intro opened
    rw [quiet_cons, quiet_cons, ← hboundary, ← hl, h.quiet true, h.quiet false, h.quiet opened]

/-- Lines that are no boundaries in front. -/
theorem append {block block' ls ls' : List Line} (hperm : (block.map (·.2)).Perm (block'.map (·.2)))
    (hblock : ∀ raw ∈ block.map (·.2), isBoundary py raw = false) (h : Alike py ls ls') :
    Alike py (block ++ ls) (block' ++ ls') := by
  have hlines : ∀ l ∈ block, boundary py l = false := fun l hl => hblock l.2 (List.mem_map_of_mem hl)
  have hlines' : ∀ l ∈ block', boundary py l = false :=
    fun l hl => hblock l.2 (hperm.mem_iff.mpr (List.mem_map_of_mem hl))
  have hinside : ∀ (b rest : List Line), (∀ l ∈ b, boundary py l = false) →
      Top.inside py (b ++ rest) = b ++ Top.inside py rest := by
    intro b rest hb
    unfold Top.inside
    exact List.takeWhile_append_of_pos fun l hl => by simp [hb l hl]
  have hclosing : ∀ (b rest : List Line), (∀ l ∈ b, boundary py l = false) →
      Top.closing py (b ++ rest) = Top.closing py rest := by
    intro b rest hb
    unfold Top.closing
    rw [List.find?_append, List.find?_eq_none.mpr fun l hl => by simp [hb l hl]]
    rfl
  have hsegments : ∀ (b rest : List Line), (∀ l ∈ b, boundary py l = false) →
      Top.segments py (b ++ rest) = Top.segments py rest := by
    intro b rest hb
    induction b with
    | nil => rfl
    | cons l b ih =>
      rw [List.forall_mem_cons] at hb
      rw [List.cons_append, ← ih hb.2]
      exact if_neg (by simp [opens, hb.1])
  have hquiet : ∀ (b rest : List Line) (opened : Bool), (∀ l ∈ b, boundary py l = false) →
      (Quiet py opened (b ++ rest) ↔ (∀ raw ∈ b.map (·.2), Fine py opened raw) ∧ Quiet py opened rest) := by
    intro b rest opened hb
    induction b with
    | nil => simp
    | cons l b ih =>
      rw [List.forall_mem_cons] at hb
      rw [List.cons_append, quiet_cons, if_neg (by simp [hb.1]), ih hb.2, List.map_cons, List.forall_mem_cons,
        and_assoc]
  constructor
  · rw [hinside _ _ hlines, hinside _ _ hlines', List.filterMap_append, List.filterMap_append]
    unfold Shuffled
    rw [List.map_append, List.map_append, contents_eq, contents_eq py block']
    exact (hperm.filterMap _).append h.inside
  · rw [hclosing _ _ hlines, hclosing _ _ hlines']
    exact h.closing
  · rw [hsegments _ _ hlines, hsegments _ _ hlines']
    exact h.segments
  · intro opened
    rw [hquiet _ _ _ hlines, hquiet _ _ _ hlines', h.quiet opened]
    have hfine : (∀ raw ∈ block.map (·.2), Fine py opened raw) ↔ ∀ raw ∈ block'.map (·.2), Fine py opened raw :=
      ⟨fun hall raw hraw => hall raw (hperm.mem_iff.mpr hraw), fun hall raw hraw => hall raw (hperm.mem_iff.mp hraw)⟩
    rw [hfine]

/-- A further line without the prefix. -/
theorem skip {l : Line} {ls ls' : List Line} (hl : hasPrefix py l.2 = false) (h : Alike py ls ls') :
    Alike py ls (l :: ls') := by
  have hb : boundary py l = false := by simp [boundary, hl]
  have ho : occurrenceAt py l = none := by simp [occurrenceAt, hl]
  constructor
  · rw [inside_other ls' hb, List.filterMap_cons, ho]
    exact h.inside
  · rw [closing_other ls' hb]
    exact h.closing
  · have hsegments : Top.segments py (l :: ls') = Top.segments py ls' := if_neg (by simp [opens, hb])
    rw [hsegments]
    exact h.segments
  · intro opened
    rw [quiet_cons, if_neg (by simp [hb]), h.quiet opened]
    simp [Fine, hl]

end Alike

/-- Rearranged lines are alike, whatever their numbers. -/
theorem Rearranged.alike {py : Python} {raws raws' : List Chars} (h : Rearranged py raws raws') :
    ∀ {ls ls' : List Line}, ls.map (·.2) = raws → ls'.map (·.2) = raws' → Alike py ls ls' := by
  induction h with
  | nil =>
    intro ls ls' hls hls'
    rw [List.map_eq_nil_iff] at hls hls'
    subst hls hls'
    exact .nil
  | keep raw _ ih =>
    intro ls ls' hls hls'
    obtain ⟨l, rest, rfl, hl, hrest⟩ := List.map_eq_cons_iff.mp hls
    obtain ⟨l', rest', rfl, hl', hrest'⟩ := List.map_eq_cons_iff.mp hls'
    exact (ih hrest hrest').cons (hl.trans hl'.symm)
  | insert raw hraw _ ih =>
    intro ls ls' hls hls'
    obtain ⟨l', rest', rfl, rfl, hrest'⟩ := List.map_eq_cons_iff.mp hls'
    exact (ih hls hrest').skip hraw
  | permute hperm hinner _ ih =>
    intro ls ls' hls hls'
    obtain ⟨block, rest, rfl, hblock, hrest⟩ := List.map_eq_append_iff.mp hls
    obtain ⟨block', rest', rfl, hblock', hrest'⟩ := List.map_eq_append_iff.mp hls'
    subst hblock hblock'
    exact (ih hrest hrest').append hperm hinner
  | trans _ _ ih ih' =>
    rename_i raws' _ _ _
    intro ls ls' hls hls'
    have hmid : (raws'.map fun raw => ((0, raw) : Line)).map (·.2) = raws' := by simp
    exact (ih hls hmid).trans (ih' hmid hls')

/-! ### Captures -/

theorem Segment.Same.reading {py : Python} {segment segment' : Segment} (h : segment.Same py segment') (i j : Nat) :
    (segment.snapshot py i).reading = (segment'.snapshot py j).reading := by
  have hbdf : ∀ closing :
      Option Line, ((closing.map fun l => (l.1, fieldsOf py l.2)).bind fun entry => entry.2.get "bdf") =
      (closing.map (·.2)).bind fun raw => (fieldsOf py raw).get "bdf" := by
    intro closing
    cases closing <;> rfl
  have hsome : ∀ closing : Option Line, (closing.map fun l => (l.1, fieldsOf py l.2)).isSome =
      (closing.map (·.2)).isSome := by
    intro closing
    cases closing <;> rfl
  unfold Segment.snapshot
  apply reading_shuffled h.registers
  · show (fieldsOf py segment.opening.2).get "bdf" = (fieldsOf py segment'.opening.2).get "bdf"
    rw [h.opening]
  · rw [hsome, hsome, h.closing]
  · rw [hbdf, hbdf, h.closing]

private theorem numbered_texts (text : Chars) : (numbered text).map (·.2) = Text.splitLines text := by
  unfold numbered
  rw [List.map_map]
  exact List.zipIdx_map_fst 1 _

/-- The verdict on a capture, from its lines and its snapshots. -/
theorem valid_iff (py : Python) (text : Chars) :
    (parseCapture py text).valid = true ↔
      Quiet py false (numbered text) ∧ (parseCapture py text).snapshots ≠ [] ∧
        ∀ snapshot ∈ (parseCapture py text).snapshots, snapshot.valid = true := by
  have hquiet := scan_quiet py (numbered text) {}
  unfold parseCapture
  generalize (numbered text).foldl (Scan.step py) {} = s at hquiet
  have hstart : Quiet py false (numbered text) ↔ s.messages = [] ∧ s.current = none := by
    rw [hquiet]
    simp
  rw [hstart]
  unfold Scan.finish
  simp only [Bool.and_eq_true, List.isEmpty_iff, List.append_eq_nil_iff, List.all_eq_true, Stages.reportIf]
  cases s.current with
  | none => cases s.snapshots <;> simp
  | some current => simp

/-- Register lines may be put in any order within each snapshot and lines without the prefix anywhere: every snapshot
reports the same, and so does the verdict on the capture. -/
theorem readings_rearranged (py : Python) (text text' : Chars)
    (h : Rearranged py (Text.splitLines text) (Text.splitLines text')) :
    (parseCapture py text).snapshots.map Snapshot.reading = (parseCapture py text').snapshots.map Snapshot.reading ∧
      (parseCapture py text).valid = (parseCapture py text').valid := by
  have halike := h.alike (numbered_texts text) (numbered_texts text')
  have hreadings : (parseCapture py text).snapshots.map Snapshot.reading =
      (parseCapture py text').snapshots.map Snapshot.reading := by
    rw [snapshots_eq, snapshots_eq, List.map_map, List.map_map]
    have hsame := halike.segments
    generalize segments py (numbered text) = a at hsame
    generalize segments py (numbered text') = b at hsame
    generalize 0 = i
    induction hsame generalizing i with
    | nil => rfl
    | cons hfirst _ ih =>
      rw [List.zipIdx_cons, List.zipIdx_cons, List.map_cons, List.map_cons, ih]
      exact congrArg (· :: _) (hfirst.reading i i)
  refine ⟨hreadings, ?_⟩
  have hvalid : ∀ snapshots : List Snapshot, (∀ snapshot ∈ snapshots, snapshot.valid = true) ↔
      ∀ reading ∈ snapshots.map Snapshot.reading, reading.valid = true := by
    intro snapshots
    rw [List.forall_mem_map]
    rfl
  have hempty : (parseCapture py text).snapshots ≠ [] ↔ (parseCapture py text').snapshots ≠ [] := by
    have hlength := congrArg List.length hreadings
    rw [List.length_map, List.length_map] at hlength
    rw [ne_eq, ne_eq, ← List.length_eq_zero_iff, ← List.length_eq_zero_iff, hlength]
  rw [Bool.eq_iff_iff, valid_iff, valid_iff, halike.quiet, hempty, hvalid, hvalid, hreadings]

/-! ### Two lines in another order -/

def beginText : Chars := "cmp100_boot_ro BEGIN".toList
def postText : Chars := "cmp100_boot_ro bdf=0 reg=0x02240c value=0x2".toList
def pmcText : Chars := "cmp100_boot_ro bdf=0 reg=0x000200 value=0x1000".toList
def noiseText : Chars := "nouveau: probe".toList
def endText : Chars := "cmp100_boot_ro END".toList

def joined (raws : List Chars) : Chars := raws.flatMap (· ++ ['\n'])

theorem readings_rearranged_swapped :
    (parseCapture Stages.asciiPython (joined [beginText, postText, pmcText, endText])).snapshots.map Snapshot.reading =
      (parseCapture Stages.asciiPython (joined [beginText, pmcText, noiseText, postText, endText])).snapshots.map
        Snapshot.reading := by
  have hlines : Text.splitLines (joined [beginText, postText, pmcText, endText]) =
      [beginText, postText, pmcText, endText] := by decide +kernel
  have hlines' : Text.splitLines (joined [beginText, pmcText, noiseText, postText, endText]) =
      [beginText, pmcText, noiseText, postText, endText] := by decide +kernel
  have hinner : ∀ raw ∈ [postText, pmcText], isBoundary Stages.asciiPython raw = false := by decide +kernel
  have hnoise : hasPrefix Stages.asciiPython noiseText = false := by decide +kernel
  have hend : Rearranged Stages.asciiPython [endText] [endText] := .keep endText .nil
  have hswapped := (Rearranged.permute (List.Perm.swap pmcText postText []) hinner hend).keep beginText
  have hinserted := (((hend.keep postText).insert noiseText hnoise).keep pmcText).keep beginText
  have hrearranged := hswapped.trans hinserted
  rw [List.cons_append, List.cons_append, List.nil_append, ← hlines, ← hlines'] at hrearranged
  exact (readings_rearranged Stages.asciiPython _ _ hrearranged).1

end CmpUnlocker.Top
