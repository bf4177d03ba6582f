import CmpUnlocker.Stages.Capture

/-!
# Lines and records

Where the lines of a run go.  The lines of a run are those behind its BEGIN up to its END, or up to the next BEGIN or
the end of the text (`inside`); the runs of a capture are obtained from those lines by reading one after the other
(`runs_read`).
-/

namespace CmpUnlocker.Stages

/-! ### The lines of a run -/

def isBegin (l : Line) : Bool := markerOf l.2 == "BEGIN".toList

def isEnd (l : Line) : Bool := markerOf l.2 == "END".toList

/-- A line with the prefix that is not an ARMED line. -/
def looked (l : Line) : Bool := Text.contains PREFIX l.2 && !(markerOf l.2 == "ARMED".toList)

/-- The numbered lines with the prefix that are not ARMED lines. -/
def marked (text : Chars) : List Line := (numbered text).filter looked

/-- The lines of a run, from those behind its BEGIN. -/
def inside : List Line → List Line
  | [] => []
  | l :: ls => if isBegin l then [] else if isEnd l then [l] else l :: inside ls

/-- A line of an open run that is not BEGIN. -/
def Run.take (py : Python) (run : Run) (l : Line) : Run :=
  if isEnd l then (run.keep l).finish py l else (run.keep l).record py l

private theorem inside_split (ls : List Line) :
    ∃ body final, inside ls = body ++ final ∧ (∀ l ∈ body, isBegin l = false ∧ isEnd l = false) ∧
      (final = [] ∨ ∃ l, final = [l] ∧ isEnd l = true) := by
  induction ls with
  | nil => exact ⟨[], [], rfl, by simp, Or.inl rfl⟩
  | cons l ls ih =>
    unfold inside
    cases hb : isBegin l with
    | true => exact ⟨[], [], rfl, by simp, Or.inl rfl⟩
    | false =>
      cases he : isEnd l with
      | true => exact ⟨[], [l], rfl, by simp, Or.inr ⟨l, rfl, he⟩⟩
      | false =>
        obtain ⟨body, final, heq, hbody, hfinal⟩ := ih
        refine ⟨l :: body, final, ?_, ?_, hfinal⟩
        · simp [heq]
        · rw [List.forall_mem_cons]
          exact ⟨⟨hb, he⟩, hbody⟩

/-! ### One pass of the loop -/

namespace Scan

variable (py : Python) (s : Scan) (l : Line)

private theorem step_skip (h : looked l = false) :
    (s.step py l).runs = s.runs ∧ (s.step py l).current = s.current := by
  unfold step
  unfold looked at h
  cases hp : Text.contains PREFIX l.2 with
  | false => simp
  | true =>
    rw [hp, Bool.true_and, Bool.not_eq_false', beq_iff_eq] at h
    simp [h]

/-- What a looked-at line does, by its marker. -/
theorem step_looked (h : looked l = true) :
    s.step py l =
      if isBegin l then { s with runs := s.closed, current := some (opened py s.armedTypes l) }
      else match s.current with
        | none => s
        | some run =>
          if isEnd l then { s with runs := s.runs ++ [validateRun (run.take py l)], current := none }
          else { s with current := some (run.take py l) } := by
  unfold looked at h
  rw [Bool.and_eq_true, Bool.not_eq_true', beq_eq_false_iff_ne] at h
  unfold step
  rw [if_neg (by rw [h.1]; simp), if_neg h.2]
  simp only [isBegin, isEnd, Run.take, beq_iff_eq]
  by_cases hb : markerOf l.2 = "BEGIN".toList
  · rw [if_pos hb, if_pos hb]
  · rw [if_neg hb, if_neg hb]
    cases s.current with
    | none => rfl
    | some run =>
      by_cases he : markerOf l.2 = "END".toList
      · simp only [if_pos he]
      · simp only [if_neg he]

end Scan

/-! ### Runs of the loop -/

open Scan

/-- The BEGIN lines, each with the lines of its run. -/
def segments : List Line → List (Line × List Line)
  | [] => []
  | l :: ls => if isBegin l then (l, inside ls) :: segments ls else segments ls

private theorem inside_cons (l : Line) (ls : List Line) :
    inside (l :: ls) = if isBegin l then [] else if isEnd l then [l] else l :: inside ls := rfl

private theorem segments_cons (l : Line) (ls : List Line) :
    segments (l :: ls) = if isBegin l then (l, inside ls) :: segments ls else segments ls := rfl

/-- A run obtained from its lines by reading one after the other. -/
def ReadFrom (py : Python) (segment : Line × List Line) (v : Verdict) : Prop :=
  ∃ armedTypes, v = validateRun (segment.2.foldl (Run.take py) (opened py armedTypes segment.1))

/-- The loop finishes the open run with the lines that belong to it, and makes a run of every BEGIN. -/
theorem scan_segments (py : Python) (ls : List Line) (s : Scan) :
    ∃ rest, List.Forall₂ (ReadFrom py) (segments (ls.filter looked)) rest ∧
      (ls.foldl (step py) s).closed =
        s.runs ++ (s.current.map fun run =>
          validateRun ((inside (ls.filter looked)).foldl (Run.take py) run)).toList ++ rest := by
  induction ls generalizing s with
  | nil =>
    refine ⟨[], .nil, ?_⟩
    unfold closed inside
    simp
  | cons l ls ih =>
    rw [List.foldl_cons]
    cases hl : looked l with
    | false =>
      obtain ⟨hruns, hcurrent⟩ := step_skip py s l hl
      rw [List.filter_cons_of_neg (by simp [hl]), ← hruns, ← hcurrent]
      exact ih (s.step py l)
    | true =>
      rw [List.filter_cons_of_pos hl, step_looked py s l hl]
      rw [segments_cons, inside_cons]
      cases hb : isBegin l with
      | true =>
        -- a BEGIN closes the open run and opens the next
        obtain ⟨rest, hrest, hclosed⟩ := ih { s with runs := s.closed, current := some (opened py s.armedTypes l) }
        refine ⟨_ :: rest, .cons ⟨s.armedTypes, rfl⟩ hrest, ?_⟩
        rw [if_pos rfl, hclosed]
        simp [closed]
      | false =>
        simp only [Bool.false_eq_true, if_false]
        cases hc : s.current with
        | none =>
          obtain ⟨rest, hrest, hclosed⟩ := ih s
          refine ⟨rest, hrest, ?_⟩
          rw [hc] at hclosed
          exact hclosed
        | some run =>
          cases he : isEnd l with
          | true =>
            obtain ⟨rest, hrest, hclosed⟩ := ih
              { s with runs := s.runs ++ [validateRun (run.take py l)], current := none }
            refine ⟨rest, hrest, ?_⟩
            simp only [if_pos]
            rw [hclosed]
            simp
          | false =>
            obtain ⟨rest, hrest, hclosed⟩ := ih { s with current := some (run.take py l) }
            refine ⟨rest, hrest, ?_⟩
            simp only [Bool.false_eq_true, if_false]
            rw [hclosed]
            simp

/-- The runs of a capture are those of its BEGIN lines, in order. -/
theorem runs_read (py : Python) (text : Chars) :
    List.Forall₂ (ReadFrom py) (segments (marked text)) (parseCapture py text).runs := by
  obtain ⟨rest, hrest, hclosed⟩ := scan_segments py (numbered text) {}
  have hruns : (parseCapture py text).runs = rest := by
    unfold parseCapture capture scan
    rw [hclosed]
    simp
  rw [hruns]
  exact hrest

/-- An element of the second of two related lists has its partner in the first. -/
theorem exists_partner {α β : Type} {R : α → β → Prop} {l : List α} {m : List β} (h : List.Forall₂ R l m) {b : β}
    (hb : b ∈ m) : ∃ a ∈ l, R a b := by
  rw [List.forall₂_iff_get] at h
  obtain ⟨i, hi⟩ := List.mem_iff_get.mp hb
  have hlt : i.1 < l.length := by
    rw [h.1]
    exact i.2
  refine ⟨_, List.get_mem _ ⟨i.1, hlt⟩, ?_⟩
  rw [← hi]
  exact h.2 i.1 hlt i.2

/-- Every run of a capture is that of a BEGIN line. -/
theorem mem_runs_read {py : Python} {text : Chars} {v : Verdict} (hv : v ∈ (parseCapture py text).runs) :
    ∃ segment ∈ segments (marked text), ReadFrom py segment v :=
  exists_partner (runs_read py text) hv

/-! ### Numbers of lines -/

private theorem inside_sublist (ls : List Line) : (inside ls).Sublist ls := by
  induction ls with
  | nil => exact .slnil
  | cons l ls ih =>
    unfold inside
    cases isBegin l with
    | true => exact List.nil_sublist _
    | false =>
      cases isEnd l with
      | true => exact (List.nil_sublist ls).cons_cons l
      | false => exact ih.cons_cons l

/-- A segment is a part of the lines. -/
theorem segment_sublist {ls : List Line} {segment : Line × List Line} (h : segment ∈ segments ls) :
    (segment.1 :: segment.2).Sublist ls := by
  induction ls with
  | nil => exact absurd h List.not_mem_nil
  | cons l ls ih =>
    unfold segments at h
    cases hb : isBegin l with
    | true =>
      rw [hb, if_pos rfl] at h
      rcases List.mem_cons.mp h with rfl | h
      · exact (inside_sublist ls).cons_cons l
      · exact (ih h).cons l
    | false =>
      rw [hb, if_neg (by simp)] at h
      exact (ih h).cons l

/-- The numbers of the lines of a text increase. -/
theorem numbered_strict (text : Chars) : Keyed.Strict (·.1) (numbered text) := by
  have hnumbers : (numbered text).map (·.1) = List.range' 1 (Text.splitLines text).length := by
    unfold numbered
    rw [List.map_map]
    exact List.zipIdx_map_snd 1 _
  have hpair : ((numbered text).map (·.1)).Pairwise (· < ·) := by
    rw [hnumbers]
    exact List.pairwise_lt_range'
  exact List.pairwise_map.mp hpair

theorem segment_strict {text : Chars} {segment : Line × List Line} (h : segment ∈ segments (marked text)) :
    Keyed.Strict (·.1) (segment.1 :: segment.2) :=
  ((numbered_strict text).filter looked).sublist (segment_sublist h)

/-- The lines of a segment are looked at, and end at the first END. -/
theorem segment_shape {ls : List Line} {segment : Line × List Line} (h : segment ∈ segments ls) :
    isBegin segment.1 = true ∧ ∃ body final, segment.2 = body ++ final ∧
      (∀ l ∈ body, isBegin l = false ∧ isEnd l = false) ∧ (final = [] ∨ ∃ l, final = [l] ∧ isEnd l = true) := by
  induction ls with
  | nil => exact absurd h List.not_mem_nil
  | cons l ls ih =>
    unfold segments at h
    cases hb : isBegin l with
    | true =>
      rw [hb, if_pos rfl] at h
      rcases List.mem_cons.mp h with rfl | h
      · exact ⟨hb, inside_split ls⟩
      · exact ih h
    | false =>
      rw [hb, if_neg (by simp)] at h
      exact ih h

end CmpUnlocker.Stages
