import CmpUnlocker.Top.Capture

/-!
# The lines of a snapshot

A snapshot belongs to a BEGIN line; its register lines are those up to the next line that is only BEGIN or only END, and
it has an END boundary if that line is an END (`segments`).  `snapshots_eq` says that the loop over the lines finalizes
exactly these.
-/

namespace CmpUnlocker.Top

open Stages (Chars Python Fields Line fieldsOf numbered)

/-! ### Segments -/

/-- A line with the prefix and just one of the words BEGIN and END. -/
def boundary (py : Python) (l : Line) : Bool := hasPrefix py l.2 && (isBegin py l.2 != isEnd py l.2)

/-- A line that opens a snapshot. -/
def opens (py : Python) (l : Line) : Bool := boundary py l && isBegin py l.2

/-- The occurrence of a well-formed register line. -/
def occurrenceAt (py : Python) (l : Line) : Option Occurrence :=
  if hasPrefix py l.2 then
    (registerFields (fieldsOf py l.2)).bind fun fields => (readRegister l.1 fields).toOption
  else none

/-- The lines up to the next boundary. -/
def inside (py : Python) (ls : List Line) : List Line := ls.takeWhile fun l => !boundary py l

/-- The next boundary, if it is an END line. -/
def closing (py : Python) (ls : List Line) : Option Line := (ls.find? (boundary py)).filter fun l => isEnd py l.2

/-- A BEGIN line, the lines of its snapshot, and its END line. -/
structure Segment where
  opening : Line
  body : List Line
  closing : Option Line

def segments (py : Python) : List Line → List Segment
  | [] => []
  | l :: ls =>
    if opens py l then { opening := l, body := inside py ls, closing := closing py ls } :: segments py ls
    else segments py ls

namespace Segment

/-- The occurrences of the well-formed register lines. -/
def registers (py : Python) (segment : Segment) : List Occurrence := segment.body.filterMap (occurrenceAt py)

def beginBdf (py : Python) (segment : Segment) : Option Chars := (fieldsOf py segment.opening.2).get "bdf"

def endBdf (py : Python) (segment : Segment) : Option Chars :=
  segment.closing.bind fun l => (fieldsOf py l.2).get "bdf"

/-- The snapshot of a segment. -/
def snapshot (py : Python) (index : Nat) (segment : Segment) : Snapshot :=
  finalizeSnapshot
    { snapshotIndex := index, beginLine := segment.opening.1, beginFields := fieldsOf py segment.opening.2
      occurrences := segment.registers py }
    (segment.closing.map fun l => (l.1, fieldsOf py l.2))

end Segment

/-! ### One line -/

section

variable {py : Python} {l : Line} (ls : List Line)

theorem inside_boundary (h : boundary py l = true) : inside py (l :: ls) = [] := by
  unfold inside
  rw [List.takeWhile_cons_of_neg (by simp [h])]

theorem inside_other (h : boundary py l = false) : inside py (l :: ls) = l :: inside py ls := by
  unfold inside
  rw [List.takeWhile_cons_of_pos (by simp [h])]

theorem closing_boundary (h : boundary py l = true) :
    closing py (l :: ls) = if isEnd py l.2 then some l else none := by
  unfold closing
  rw [List.find?_cons_of_pos h]
  rfl

theorem closing_other (h : boundary py l = false) : closing py (l :: ls) = closing py ls := by
  unfold closing
  rw [List.find?_cons_of_neg (by simp [h])]

/-- A boundary is a BEGIN line or an END line. -/
theorem boundary_cases (h : boundary py l = true) :
    hasPrefix py l.2 = true ∧
      (isBegin py l.2 = true ∧ isEnd py l.2 = false ∨ isBegin py l.2 = false ∧ isEnd py l.2 = true) := by
  unfold boundary at h
  rw [Bool.and_eq_true] at h
  refine ⟨h.1, ?_⟩
  cases hb : isBegin py l.2 <;> cases he : isEnd py l.2 <;> simp [hb, he] at h ⊢

theorem not_boundary_cases (h : boundary py l = false) :
    hasPrefix py l.2 = false ∨ hasPrefix py l.2 = true ∧ isBegin py l.2 = isEnd py l.2 := by
  unfold boundary at h
  cases hp : hasPrefix py l.2 with
  | false => exact Or.inl rfl
  | true =>
    right
    rw [hp, Bool.true_and, bne_eq_false_iff_eq] at h
    exact ⟨rfl, h⟩

theorem step_begin (s : Scan) (hp : hasPrefix py l.2 = true) (hb : isBegin py l.2 = true) (he : isEnd py l.2 = false) :
    s.step py l = s.begin_ py l := by
  unfold Scan.step
  rw [hp, hb, he]
  rfl

theorem step_end (s : Scan) (hp : hasPrefix py l.2 = true) (hb : isBegin py l.2 = false) (he : isEnd py l.2 = true) :
    s.step py l = s.end_ py l := by
  unfold Scan.step
  rw [hp, hb, he]
  rfl

/-- What a line that is not a boundary leaves of the state. -/
theorem step_other (s : Scan) (h : boundary py l = false) :
    (s.step py l).snapshots = s.snapshots ∧
      (s.step py l).current = s.current.map fun current =>
        { current with occurrences := current.occurrences ++ (occurrenceAt py l).toList } := by
  unfold Scan.step occurrenceAt
  rcases not_boundary_cases h with hp | ⟨hp, hsame⟩
  · rw [hp]
    cases hcurrent : s.current with
    | none => exact ⟨rfl, hcurrent⟩
    | some current => simp [hcurrent]
  · rw [hp, hsame]
    have hregister : (if !true then s else if isEnd py l.2 && !isEnd py l.2 then s.begin_ py l
        else if isEnd py l.2 && !isEnd py l.2 then s.end_ py l else s.register py l) = s.register py l := by
      cases isEnd py l.2 <;> rfl
    rw [hregister]
    unfold Scan.register
    cases registerFields (fieldsOf py l.2) with
    | none => cases s.current <;> simp
    | some fields =>
      cases hcurrent : s.current with
      | none => exact ⟨rfl, hcurrent⟩
      | some current =>
        cases hread : readRegister l.1 fields with
        | error reason => simp [Scan.say, hcurrent, hread, Except.toOption]
        | ok item => simp [hread, Except.toOption]

end

/-! ### All lines -/

/-- The snapshot that becomes of an open one. -/
def Current.closedBy (py : Python) (current : Current) (ls : List Line) : Snapshot :=
  finalizeSnapshot
    { current with occurrences := current.occurrences ++ (inside py ls).filterMap (occurrenceAt py) }
    ((closing py ls).map fun l => (l.1, fieldsOf py l.2))

/-- The number of snapshots that are there or open. -/
def Scan.count (s : Scan) : Nat := s.snapshots.length + s.current.toList.length

/-- The loop closes the open snapshot and makes one of every BEGIN. -/
theorem scan_snapshots (py : Python) (ls : List Line) (s : Scan) :
    (ls.foldl (Scan.step py) s).finish.snapshots =
      s.snapshots ++ (s.current.map fun current => current.closedBy py ls).toList
        ++ ((segments py ls).zipIdx s.count).map fun entry => entry.1.snapshot py entry.2 := by
  induction ls generalizing s with
  | nil => cases hcurrent : s.current <;> simp [Scan.finish, Current.closedBy, inside, closing, segments, hcurrent]
  | cons l ls ih =>
    rw [List.foldl_cons, ih (s.step py l)]
    by_cases h : boundary py l = true
    · obtain ⟨hp, ⟨hb, he⟩ | ⟨hb, he⟩⟩ := boundary_cases h
      · have hopens : opens py l = true := by simp [opens, h, hb]
        rw [step_begin s hp hb he]
        have hsegments : segments py (l :: ls) =
            { opening := l, body := inside py ls, closing := closing py ls } :: segments py ls := if_pos hopens
        rw [hsegments]
        cases hcurrent : s.current with
        | none =>
          simp [Scan.begin_, Scan.count, hcurrent, Current.closedBy, Segment.snapshot, Segment.registers]
        | some current =>
          have hclosed : current.closedBy py (l :: ls) = finalizeSnapshot current none := by
            unfold Current.closedBy
            rw [inside_boundary ls h, closing_boundary ls h, he]
            simp
          rw [Option.map_some, hclosed]
          simp [Scan.begin_, Scan.say, Scan.count, hcurrent, Current.closedBy, Segment.snapshot, Segment.registers]
      · have hopens : opens py l = false := by simp [opens, hb]
        rw [step_end s hp hb he]
        have hsegments : segments py (l :: ls) = segments py ls := if_neg (by simp [hopens])
        rw [hsegments]
        cases hcurrent : s.current with
        | none => simp [Scan.end_, Scan.say, Scan.count, hcurrent]
        | some current =>
          have hclosed : current.closedBy py (l :: ls) = finalizeSnapshot current (some (l.1, fieldsOf py l.2)) := by
            unfold Current.closedBy
            rw [inside_boundary ls h, closing_boundary ls h, he]
            simp
          simp [Scan.end_, Scan.count, hcurrent, hclosed]
    · rw [Bool.not_eq_true] at h
      obtain ⟨hsnapshots, hcurrent'⟩ := step_other s h
      have hsegments : segments py (l :: ls) = segments py ls := if_neg (by simp [opens, h])
      have hcount : (s.step py l).count = s.count := by
        unfold Scan.count
        rw [hsnapshots, hcurrent']
        cases s.current <;> rfl
      rw [hsnapshots, hcurrent', hcount, hsegments]
      congr 2
      cases s.current with
      | none => rfl
      | some current =>
        unfold Current.closedBy
        rw [inside_other ls h, closing_other ls h, List.filterMap_cons]
        cases occurrenceAt py l <;> simp

/-- The snapshots of a capture are those of its segments. -/
theorem snapshots_eq (py : Python) (text : Chars) :
    (parseCapture py text).snapshots =
      (segments py (numbered text)).zipIdx.map fun entry => entry.1.snapshot py entry.2 := by
  unfold parseCapture
  rw [scan_snapshots]
  simp [Scan.count]

end CmpUnlocker.Top
