import CmpUnlocker.Stages.Validate

/-!
# Reading a capture

`parse_capture`: the loop over the lines of a text, with the run that is open and the armed types seen so far.
-/

namespace CmpUnlocker.Stages

/-- A line with its number. -/
abbrev Line := Nat × Chars

namespace Run

def addUnparsed (run : Run) (l : Line) (kind reason : Chars) : Run :=
  { run with unparsedLines := run.unparsedLines ++ [{ line := l.1, kind := kind, reason := reason, raw := l.2 }] }

def addStage (run : Run) (stage : Stage) : Run := { run with stages := run.stages ++ [stage] }

/-- The values of the stages with a seq. -/
def storeValue (stages : List Stage) (value : Value) : List Stage :=
  stages.map fun stage => if stage.seq = value.seq then { stage with values := stage.values ++ [value] } else stage

/-- A VALUE record goes to the only stage with its seq, or to the orphans. -/
def addValue (run : Run) (value : Value) : Run :=
  match run.stages.filter fun stage => stage.seq = value.seq with
  | [_] => { run with stages := storeValue run.stages value }
  | _ => { run with orphanValues := run.orphanValues ++ [value] }

def addMissed (run : Run) (item : Missed) : Run := { run with missed := run.missed ++ [item] }

/-- A line of an open run that is neither BEGIN nor END. -/
def record (py : Python) (run : Run) (l : Line) : Run :=
  let fields := fieldsOf py l.2
  let marker := markerOf l.2
  if marker = "STAGE".toList then
    match parseStage py l.1 l.2 fields with
    | .ok stage => run.addStage stage
    | .error reason => run.addUnparsed l marker reason
  else if marker = "VALUE".toList then
    match parseValue py l.1 l.2 fields with
    | .ok value => run.addValue value
    | .error reason => run.addUnparsed l marker reason
  else if marker = "MISSED".toList then
    match parseMissed py l.1 l.2 fields with
    | .ok item => run.addMissed item
    | .error reason => run.addUnparsed l marker reason
  else run.addUnparsed l (if marker.isEmpty then "unknown".toList else marker) "unknown record".toList

/-- `raw_lines.append(raw)`. -/
def keep (run : Run) (l : Line) : Run := { run with rawLines := run.rawLines ++ [l.2] }

def finish (py : Python) (run : Run) (l : Line) : Run :=
  { run with endLine := some l.1, endBdf := (fieldsOf py l.2).get "bdf", delimiterComplete := true }

end Run

/-- The state of the loop; the latest armed type is the first. -/
structure Scan where
  runs : List Verdict := []
  current : Option Run := none
  armedTypes : List (Chars × Int) := []

namespace Scan

def armedType (armedTypes : List (Chars × Int)) (bdf : Option Chars) : Option Int :=
  match bdf with
  | some bdf => (armedTypes.find? fun entry => entry.1 = bdf).map (·.2)
  | none => none

/-- What an ARMED line stores, if it can be read. -/
def armedEntry (py : Python) (fields : Fields) : Option (Chars × Int) :=
  match fields.get "bdf", integerField py fields "live_gr_type" with
  | some bdf, .ok live => some (bdf, live)
  | _, _ => none

/-- The run of a BEGIN line. -/
def opened (py : Python) (armedTypes : List (Chars × Int)) (l : Line) : Run :=
  let run := newRun py l.1 l.2 (fieldsOf py l.2)
  { run with armedLiveGrType := armedType armedTypes run.beginBdf }

/-- The runs with the open one. -/
def closed (s : Scan) : List Verdict := s.runs ++ (s.current.map validateRun).toList

/-- One pass of the loop. -/
def step (py : Python) (s : Scan) (l : Line) : Scan :=
  if !Text.contains PREFIX l.2 then s
  else if markerOf l.2 = "ARMED".toList then
    { s with armedTypes := (armedEntry py (fieldsOf py l.2)).toList ++ s.armedTypes }
  else if markerOf l.2 = "BEGIN".toList then
    { s with runs := s.closed, current := some (opened py s.armedTypes l) }
  else
    match s.current with
    | none => s
    | some run =>
      if markerOf l.2 = "END".toList then
        { s with runs := s.runs ++ [validateRun ((run.keep l).finish py l)], current := none }
      else { s with current := some ((run.keep l).record py l) }

end Scan

/-- The result of `parse_capture`. -/
structure Capture where
  runCount : Nat
  latestCompleteRunIndex : Option Nat
  runs : List Verdict

/-- `enumerate(text.splitlines(), 1)`. -/
def numbered (text : Chars) : List Line := ((Text.splitLines text).zipIdx 1).map fun entry => (entry.2, entry.1)

def scan (py : Python) (lines : List Line) : Scan := lines.foldl (Scan.step py) {}

/-- The indices of the runs closed by END. -/
def completeIndices (runs : List Verdict) : List Nat :=
  (runs.zipIdx.filter fun entry => entry.1.run.delimiterComplete).map (·.2)

def capture (runs : List Verdict) : Capture :=
  { runCount := runs.length, latestCompleteRunIndex := (completeIndices runs).getLast?, runs := runs }

/-- `parse_capture`. -/
def parseCapture (py : Python) (text : Chars) : Capture := capture (scan py (numbered text)).closed

end CmpUnlocker.Stages
