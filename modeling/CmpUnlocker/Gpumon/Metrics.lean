import Mathlib.Data.List.Basic
import Mathlib.Data.List.Range
import Mathlib.Data.List.Pairwise
import CmpUnlocker.Lib.Text

/-!
# Numbers of a metrics page

`prometheus_number` of `gpumon_v3_llama.c` looks for the line of a metric in the body of an HTTP answer.  Its cursor is
a position in the body, whose terminating NUL is at the position `body.length`.  Behind a line without a number the
cursor is moved twice by the length of the key, so that it may pass over the line that follows, and over the NUL: the
function is correct exactly where this does no harm (`prometheusNumber_iff`).
-/

namespace CmpUnlocker.Gpumon

/-! ### The search -/

/-- The name of a metric. -/
structure Key where
  text : List Char
  ne_nil : text ≠ []
  one_line : '\n' ∉ text

private theorem Key.length_pos (key : Key) : 0 < key.text.length := List.length_pos_of_ne_nil key.ne_nil

/-- `overrun` is a cursor behind the terminating NUL. -/
inductive Outcome (ν : Type)
  | found (line : ℕ) (value : ν)
  | notFound
  | overrun
  deriving DecidableEq, Repr

def blank (c : Char) : Bool := c == ' ' || c == '\t'

/-- `strstr` from the cursor on. -/
def strstr (body key : List Char) (p : ℕ) : Option ℕ :=
  (List.range body.length).find? fun q => p ≤ q ∧ key <+: body.drop q

/-- `p == body || p[-1] == '\n'` -/
def StartsLine (body : List Char) (p : ℕ) : Prop := p = 0 ∨ body[p - 1]? = some '\n'

instance (body : List Char) (p : ℕ) : Decidable (StartsLine body p) := inferInstanceAs (Decidable (_ ∨ _))

def skipBlanks (body : List Char) (p : ℕ) : ℕ := p + ((body.drop p).takeWhile blank).length

/-- The rest of the line, which a number is read from.  `strtod` itself skips a newline, and takes a number of the next
line for one of a line that has none; the parser of numbers is given no more than the line. -/
def lineFrom (body : List Char) (p : ℕ) : List Char := (body.drop p).takeWhile (· != '\n')

private theorem strstr_spec {body key : List Char} {p : ℕ} :
    match strstr body key p with
    | some q => p ≤ q ∧ q < body.length ∧ key <+: body.drop q ∧ ∀ j, p ≤ j → j < q → ¬key <+: body.drop j
    | none => ∀ j, p ≤ j → j < body.length → ¬key <+: body.drop j := by
  cases hfound : strstr body key p with
  | none =>
    intro j hj hlt hkey
    have hnone := List.find?_eq_none.1 hfound j (List.mem_range.2 hlt)
    exact hnone (by simpa using ⟨hj, hkey⟩)
  | some q =>
    obtain ⟨hq, hlt, hfirst⟩ := List.find?_range_eq_some.1 hfound
    obtain ⟨hp, hkey⟩ : p ≤ q ∧ key <+: body.drop q := by simpa using hq
    refine ⟨hp, List.mem_range.1 hlt, hkey, fun j hj hjq hstarts => ?_⟩
    have hno := hfirst j hjq
    simp [hj, hstarts] at hno

section

variable {ν : Type} (number : List Char → Option ν) (key : Key) (body : List Char)

/-- The loop of `prometheus_number` with the cursor at `p`. -/
def search (p : ℕ) : Outcome ν :=
  if body.length < p then .overrun
  else match _hq : strstr body key.text p with
    | none => .notFound
    | some q =>
      if StartsLine body q ∧ body[q + key.text.length]?.any blank then
        let rest := skipBlanks body (q + key.text.length)
        match number (lineFrom body rest) with
        | some value => .found q value
        | none => search (rest + key.text.length)
      else search (q + key.text.length)
termination_by body.length + 1 - p
decreasing_by
  all_goals
    have hspec := @strstr_spec body key.text p
    rw [_hq] at hspec
    obtain ⟨hp, _hlt, -⟩ := hspec
    have hpos := key.length_pos
  · have hrest : q + key.text.length ≤ skipBlanks body (q + key.text.length) := Nat.le_add_right _ _
    omega
  · omega

def prometheusNumber : Outcome ν := search number key body 0

/-! ### The first line with a number -/

/-- What stands behind the key and one or more blanks. -/
def valueText (line : List Char) : Option (List Char) :=
  match Text.dropPrefix key.text line with
  | some rest => if rest.head?.any blank then some (rest.dropWhile blank) else none
  | none => none

/-- The number of a line of the form: key, blanks, number. -/
def valueOf (line : List Char) : Option ν := (valueText key line).bind number

/-- Where the first such line begins, and its number. -/
def firstNumber : Option (ℕ × ν) :=
  (List.range body.length).findSome? fun q =>
    if StartsLine body q then (valueOf number key (lineFrom body q)).map fun value => (q, value) else none

/-- The number of the first such line is to be found, if there is one. -/
def Correct (result : Outcome ν) : Prop :=
  result = match firstNumber number key body with
    | some (q, value) => .found q value
    | none => .notFound

/-! ### Lines without a number -/

/-- The line that begins here has the key and blanks, but no number. -/
def Unreadable (q : ℕ) : Prop :=
  StartsLine body q ∧ (valueText key (lineFrom body q)).any (fun text => (number text).isNone) = true

instance (q : ℕ) : Decidable (Unreadable number key body q) := inferInstanceAs (Decidable (_ ∧ _))

/-- Where the search goes on behind such a line: the length of the key behind the blanks. -/
def resume (q : ℕ) : ℕ := skipBlanks body (q + key.text.length) + key.text.length

/-- Where the first line with a number begins, or the end of the body. -/
def limit : ℕ := ((firstNumber number key body).map Prod.fst).getD body.length

/-- Going through positions in order, those are left out that are passed over. -/
def through (resume : ℕ → ℕ) (p : ℕ) : List ℕ → List ℕ
  | [] => []
  | q :: qs => if q < p then through resume p qs else q :: through resume (resume q) qs

/-- The lines without a number before the first line with a number. -/
def unreadables : List ℕ := (List.range (limit number key body)).filter (Unreadable number key body)

/-- Those of them that the search goes through. -/
def passed : List ℕ := through (resume key body) 0 (unreadables number key body)

/-! ### Lines and occurrences -/

omit number key body in
private theorem line_dropWhile (rest : List Char) :
    (rest.takeWhile (· != '\n')).dropWhile blank = (rest.dropWhile blank).takeWhile (· != '\n') := by
  induction rest with
  | nil => rfl
  | cons c rest ih =>
    by_cases hfeed : c = '\n'
    · subst hfeed
      rfl
    · by_cases hblank : blank c = true
      · simp [hfeed, hblank, ih]
      · simp [hfeed, hblank]

omit number key body in
private theorem line_head_blank (rest : List Char) :
    (rest.takeWhile (· != '\n')).head?.any blank = rest.head?.any blank := by
  cases rest with
  | nil => rfl
  | cons c rest =>
    by_cases hfeed : c = '\n'
    · subst hfeed
      rfl
    · simp [hfeed]

/-- The text behind the key and the blanks, as the search reads it. -/
theorem valueText_lineFrom (q : ℕ) :
    valueText key (lineFrom body q) =
      if key.text <+: body.drop q ∧ body[q + key.text.length]?.any blank then
        some (lineFrom body (skipBlanks body (q + key.text.length))) else none := by
  by_cases hkey : key.text <+: body.drop q
  · obtain ⟨rest, hrest⟩ := hkey
    have hbehind : body.drop (q + key.text.length) = rest := by
      rw [← List.drop_drop, ← hrest, List.drop_left]
    have hhead : body[q + key.text.length]? = rest.head? := by
      rw [← hbehind, List.head?_drop]
    have hline : lineFrom body q = key.text ++ rest.takeWhile (· != '\n') := by
      rw [lineFrom, ← hrest, List.takeWhile_append_of_pos]
      intro c hc
      have hne : c ≠ '\n' := by
        rintro rfl
        exact key.one_line hc
      simpa using hne
    have hdrop : Text.dropPrefix key.text (lineFrom body q) = some (rest.takeWhile (· != '\n')) :=
      Text.dropPrefix_eq_some.2 hline
    have hvalue : valueText key (lineFrom body q) =
        if rest.head?.any blank then some ((rest.dropWhile blank).takeWhile (· != '\n')) else none := by
      rw [valueText, hdrop, ← line_head_blank, ← line_dropWhile]
    have hskip : lineFrom body (skipBlanks body (q + key.text.length)) =
        (rest.dropWhile blank).takeWhile (· != '\n') := by
      have hblanks := @List.drop_left _ (rest.takeWhile blank) (rest.dropWhile blank)
      rw [List.takeWhile_append_dropWhile] at hblanks
      rw [lineFrom, skipBlanks, ← List.drop_drop, hbehind, hblanks]
    rw [hvalue, hhead, hskip]
    simp [← hrest]
  · have hdrop : Text.dropPrefix key.text (lineFrom body q) = none := by
      rw [Option.eq_none_iff_forall_ne_some]
      intro rest hrest
      apply hkey
      have hline : key.text <+: lineFrom body q := ⟨rest, (Text.dropPrefix_eq_some.1 hrest).symm⟩
      exact hline.trans (List.takeWhile_prefix _)
    rw [valueText, hdrop, if_neg fun h => hkey h.1]

/-- A line with a number is an occurrence of the key. -/
theorem occurs_of_valueOf {q : ℕ} {value : ν} (h : valueOf number key (lineFrom body q) = some value) :
    key.text <+: body.drop q := by
  rw [valueOf, valueText_lineFrom] at h
  by_cases hkey : key.text <+: body.drop q ∧ body[q + key.text.length]?.any blank
  · exact hkey.1
  · rw [if_neg hkey] at h
    cases h

private theorem unreadable_iff (q : ℕ) :
    Unreadable number key body q ↔ StartsLine body q ∧ key.text <+: body.drop q ∧ body[q + key.text.length]?.any blank ∧
      number (lineFrom body (skipBlanks body (q + key.text.length))) = none := by
  rw [Unreadable, valueText_lineFrom]
  by_cases hkey : key.text <+: body.drop q ∧ body[q + key.text.length]?.any blank
  · rw [if_pos hkey, Option.any_some, Option.isNone_iff_eq_none]
    simp [hkey]
  · rw [if_neg hkey]
    constructor
    · rintro ⟨-, hany⟩
      cases hany
    · rintro ⟨-, hstarts, hblank, -⟩
      exact absurd ⟨hstarts, hblank⟩ hkey

/-- No line begins within an occurrence of the key. -/
theorem startsLine_behind {q s : ℕ} (hkey : key.text <+: body.drop q) (hqs : q < s) (hs : StartsLine body s) :
    q + key.text.length < s := by
  by_contra hle
  rcases hs with rfl | hfeed
  · omega
  · obtain ⟨rest, hrest⟩ := hkey
    have hlt : s - 1 - q < key.text.length := by omega
    have hchar : body[s - 1]? = key.text[s - 1 - q]? := by
      have hindex : body[s - 1]? = (body.drop q)[s - 1 - q]? := by
        rw [List.getElem?_drop]
        congr 1
        omega
      rw [hindex, ← hrest, List.getElem?_append_left hlt]
    rw [hchar] at hfeed
    exact key.one_line (List.mem_of_getElem? hfeed)

/-! ### One step of the search -/

/-- The search ends, or goes on behind the next occurrence of the key. -/
theorem search_step {p : ℕ} (hp : p ≤ body.length) :
    (search number key body p = .notFound ∧ ∀ j, p ≤ j → j < body.length → ¬key.text <+: body.drop j) ∨
    ∃ q, p ≤ q ∧ q < body.length ∧ key.text <+: body.drop q ∧ (∀ j, p ≤ j → j < q → ¬key.text <+: body.drop j) ∧
      ((StartsLine body q ∧ ∃ value, valueOf number key (lineFrom body q) = some value ∧
          search number key body p = .found q value) ∨
        (Unreadable number key body q ∧ search number key body p = search number key body (resume key body q)) ∨
        ((StartsLine body q → valueText key (lineFrom body q) = none) ∧
          search number key body p = search number key body (q + key.text.length))) := by
  have hspec := @strstr_spec body key.text p
  rw [search, if_neg (by omega)]
  split
  · next hnone =>
    rw [hnone] at hspec
    exact .inl ⟨rfl, hspec⟩
  · next q hq =>
    rw [hq] at hspec
    obtain ⟨hpq, hlt, hkey, hfirst⟩ := hspec
    refine .inr ⟨q, hpq, hlt, hkey, hfirst, ?_⟩
    by_cases hcandidate : StartsLine body q ∧ body[q + key.text.length]?.any blank
    · obtain ⟨hstart, hblank⟩ := hcandidate
      have htext : valueText key (lineFrom body q) =
          some (lineFrom body (skipBlanks body (q + key.text.length))) := by
        rw [valueText_lineFrom, if_pos ⟨hkey, hblank⟩]
      rw [if_pos ⟨hstart, hblank⟩]
      cases hnumber : number (lineFrom body (skipBlanks body (q + key.text.length))) with
      | some value =>
        refine .inl ⟨hstart, value, ?_, by simp only [hnumber]⟩
        rw [valueOf, htext, Option.bind_some, hnumber]
      | none =>
        have hbad := (unreadable_iff number key body q).2 ⟨hstart, hkey, hblank, hnumber⟩
        exact .inr (.inl ⟨hbad, by simp only [hnumber, resume]⟩)
    · rw [if_neg hcandidate]
      refine .inr (.inr ⟨fun hstart => ?_, rfl⟩)
      rw [valueText_lineFrom, if_neg]
      rintro ⟨-, hblank⟩
      exact hcandidate ⟨hstart, hblank⟩

/-- A number is found at the cursor or behind it. -/
theorem search_found {p q : ℕ} {value : ν} (h : search number key body p = .found q value) : p ≤ q := by
  induction hn : body.length + 1 - p using Nat.strongRecOn generalizing p with
  | ind n ih =>
    by_cases hp : p ≤ body.length
    · have hpos := key.length_pos
      rcases search_step number key body hp with ⟨hnone, -⟩ | ⟨q', hpq, hlt, -, -, hcases⟩
      · rw [hnone] at h
        cases h
      · rcases hcases with ⟨-, value', -, hfound⟩ | ⟨-, hagain⟩ | ⟨-, hagain⟩
        · rw [hfound] at h
          cases h
          exact hpq
        · have hbehind : q' + key.text.length ≤ resume key body q' := by
            unfold resume skipBlanks
            omega
          have hle := ih _ (by omega) (hagain ▸ h) rfl
          omega
        · have hle := ih _ (by omega) (hagain ▸ h) rfl
          omega
    · rw [search, if_pos (by omega)] at h
      cases h

private theorem firstNumber_spec :
    match firstNumber number key body with
    | some (q, value) => q < body.length ∧ StartsLine body q ∧ valueOf number key (lineFrom body q) = some value ∧
      ∀ j < q, StartsLine body j → valueOf number key (lineFrom body j) = none
    | none => ∀ j < body.length, StartsLine body j → valueOf number key (lineFrom body j) = none := by
  cases hfirst : firstNumber number key body with
  | none =>
    intro j hj hstart
    have hnone := List.findSome?_eq_none_iff.1 hfirst j (List.mem_range.2 hj)
    rwa [if_pos hstart, Option.map_eq_none_iff] at hnone
  | some found =>
    obtain ⟨q, value⟩ := found
    obtain ⟨before, q', behind, hrange, hq', hbefore⟩ := List.findSome?_eq_some_iff.1 hfirst
    have hmem : ∀ j < body.length, j ∈ before ++ q' :: behind := by
      intro j hj
      rw [← hrange]
      exact List.mem_range.2 hj
    have hlt : q' < body.length := by
      rw [← List.mem_range, hrange]
      simp
    have hsorted : (before ++ q' :: behind).Pairwise (· < ·) := by
      rw [← hrange]
      exact List.pairwise_lt_range
    by_cases hstart : StartsLine body q'
    · rw [if_pos hstart, Option.map_eq_some_iff] at hq'
      obtain ⟨value', hvalue, heq⟩ := hq'
      cases heq
      refine ⟨hlt, hstart, hvalue, fun j hj hstartj => ?_⟩
      rcases List.mem_append.1 (hmem j (by omega)) with hj' | hj'
      · have hnone := hbefore j hj'
        rwa [if_pos hstartj, Option.map_eq_none_iff] at hnone
      · have hbehind := (List.pairwise_cons.1 (List.pairwise_append.1 hsorted).2.1).1
        rcases List.mem_cons.1 hj' with rfl | hj'
        · omega
        · have hgt := hbehind j hj'
          omega
    · rw [if_neg hstart] at hq'
      cases hq'

/-! ### Passing over lines -/

omit number key body in
private theorem through_congr {resume : ℕ → ℕ} {p p' : ℕ} {qs : List ℕ} (h : ∀ q ∈ qs, q < p ↔ q < p') :
    through resume p qs = through resume p' qs := by
  induction qs with
  | nil => rfl
  | cons q qs ih =>
    have hq := h q List.mem_cons_self
    by_cases hlt : q < p
    · rw [through, through, if_pos hlt, if_pos (hq.1 hlt), ih fun q' hq' => h q' (List.mem_cons_of_mem _ hq')]
    · rw [through, through, if_neg hlt, if_neg fun hlt' => hlt (hq.2 hlt')]

omit number key body in
private theorem through_of_lt {resume : ℕ → ℕ} {p : ℕ} {qs : List ℕ} (h : ∀ q ∈ qs, q < p) :
    through resume p qs = [] := by
  induction qs with
  | nil => rfl
  | cons q qs ih =>
    rw [through, if_pos (h q List.mem_cons_self), ih fun q' hq' => h q' (List.mem_cons_of_mem _ hq')]

omit number key body in
/-- The first position that is not left out. -/
theorem through_first {resume : ℕ → ℕ} {p q : ℕ} {qs : List ℕ} (hsorted : qs.Pairwise (· < ·)) (hq : q ∈ qs)
    (hp : p ≤ q) (hfirst : ∀ j ∈ qs, p ≤ j → q ≤ j) (hresume : q < resume q) :
    through resume p qs = q :: through resume (resume q) qs := by
  induction qs with
  | nil => cases hq
  | cons j qs ih =>
    rw [List.pairwise_cons] at hsorted
    by_cases hj : j < p
    · have hmem : q ∈ qs := by
        rcases List.mem_cons.1 hq with rfl | hmem
        · omega
        · exact hmem
      have hrest := ih hsorted.2 hmem fun i hi => hfirst i (List.mem_cons_of_mem _ hi)
      rw [through, if_pos hj, hrest, through, if_pos (by omega)]
    · have hle := hfirst j List.mem_cons_self (by omega)
      have heq : j = q := by
        rcases List.mem_cons.1 hq with rfl | hmem
        · rfl
        · have hlt := hsorted.1 q hmem
          omega
      subst heq
      rw [through, if_neg hj, through, if_pos hresume]

/-! ### When the search is correct -/

/-- What begins at the limit. -/
theorem limit_spec :
    (firstNumber number key body = none ∧ limit number key body = body.length ∧
      ∀ j < body.length, StartsLine body j → valueOf number key (lineFrom body j) = none) ∨
    ∃ s value, firstNumber number key body = some (s, value) ∧ limit number key body = s ∧ s < body.length ∧
      StartsLine body s ∧ valueOf number key (lineFrom body s) = some value ∧
      ∀ j < s, StartsLine body j → valueOf number key (lineFrom body j) = none := by
  have hspec := firstNumber_spec number key body
  unfold limit
  cases hfirst : firstNumber number key body with
  | none =>
    rw [hfirst] at hspec
    exact .inl ⟨rfl, rfl, hspec⟩
  | some found =>
    rw [hfirst] at hspec
    exact .inr ⟨found.1, found.2, rfl, rfl, hspec⟩

private theorem limit_le : limit number key body ≤ body.length := by
  rcases limit_spec number key body with ⟨-, hlimit, -⟩ | ⟨s, value, -, hlimit, hlt, -⟩ <;> omega

private theorem mem_unreadables {q : ℕ} :
    q ∈ unreadables number key body ↔ q < limit number key body ∧ Unreadable number key body q := by
  simp [unreadables]

private theorem unreadables_sorted : (unreadables number key body).Pairwise (· < ·) := List.pairwise_lt_range.filter _

private theorem Unreadable.valueText {q : ℕ} (h : Unreadable number key body q) :
    Gpumon.valueText key (lineFrom body q) ≠ none ∧ valueOf number key (lineFrom body q) = none := by
  obtain ⟨-, hany⟩ := h
  unfold valueOf
  cases htext : Gpumon.valueText key (lineFrom body q) with
  | none =>
    rw [htext] at hany
    cases hany
  | some text =>
    rw [htext, Option.any_some, Option.isNone_iff_eq_none] at hany
    exact ⟨by simp, hany⟩

/-- A cursor behind the first line with a number does not come back to it. -/
theorem not_correct_behind {p : ℕ} (hp : limit number key body < p) :
    ¬Correct number key body (search number key body p) := by
  intro hcorrect
  unfold Correct at hcorrect
  rcases limit_spec number key body with ⟨hnumber, hlimit, -⟩ | ⟨s, value, hnumber, hlimit, -⟩
  · rw [hnumber, search, if_pos (by omega)] at hcorrect
    cases hcorrect
  · rw [hnumber] at hcorrect
    have hle := search_found number key body hcorrect
    omega

/-- No line with a number begins between the cursor and the next occurrence of the key. -/
theorem next_le_limit {p q : ℕ} (hp : p ≤ limit number key body) (hq : q < body.length)
    (hfirst : ∀ j, p ≤ j → j < q → ¬key.text <+: body.drop j) : q ≤ limit number key body := by
  rcases limit_spec number key body with ⟨-, hlimit, -⟩ | ⟨s, value, -, hlimit, -, -, hvalue, -⟩
  · omega
  · by_contra hlt
    exact hfirst s (by omega) (by omega) (occurs_of_valueOf number key body hvalue)

/-- Nothing is gone through where no occurrence is left before the limit. -/
theorem through_nil {p : ℕ} (h : ∀ j, p ≤ j → j < limit number key body → ¬key.text <+: body.drop j) :
    through (resume key body) p (unreadables number key body) = [] := by
  refine through_of_lt fun j hj => ?_
  by_contra hge
  obtain ⟨hjlimit, hbad⟩ := (mem_unreadables number key body).1 hj
  obtain ⟨-, hoccurs, -⟩ := (unreadable_iff number key body j).1 hbad
  exact h j (by omega) hjlimit hoccurs

/-- The search from a cursor before the first line with a number. -/
theorem search_correct_iff {p : ℕ} (hp : p ≤ limit number key body) :
    Correct number key body (search number key body p) ↔
      ∀ q ∈ through (resume key body) p (unreadables number key body), resume key body q ≤ limit number key body := by
  induction hn : body.length + 1 - p using Nat.strongRecOn generalizing p with
  | ind n ih =>
    have hlimit := limit_le number key body
    rcases search_step number key body (hp.trans hlimit) with ⟨hnone, hno⟩ | ⟨q, hpq, hlt, hkey, hfirst, hcases⟩
    · -- no occurrence is left, so no line with a number, and none without one
      rw [through_nil number key body fun j hj hjlimit => hno j hj (by omega), hnone]
      rcases limit_spec number key body with ⟨hnumber, -⟩ | ⟨s, value, -, hs, hslt, -, hvalue, -⟩
      · simp [Correct, hnumber]
      · exact absurd (occurs_of_valueOf number key body hvalue) (hno s (by omega) hslt)
    · have hle := next_le_limit number key body hp hlt hfirst
      have hpos := key.length_pos
      rcases hcases with ⟨hstart, value, hvalue, hfound⟩ | ⟨hbad, hagain⟩ | ⟨hother, hagain⟩
      · -- the next occurrence is the first line with a number
        rcases limit_spec number key body with ⟨-, -, hnothing⟩ | ⟨s, value', hnumber, hs, -, -, hvalue', hleast⟩
        · have hnone := hnothing q hlt hstart
          rw [hvalue] at hnone
          cases hnone
        · have heq : s = q := by
            by_contra hne
            have hnone := hleast q (by omega) hstart
            rw [hvalue] at hnone
            cases hnone
          subst heq
          rw [through_nil number key body fun j hj hjlimit => hfirst j hj (by omega), hfound]
          rw [hvalue] at hvalue'
          cases hvalue'
          simp [Correct, hnumber]
      · -- a line without a number: the cursor goes behind it
        have hbehind : q + key.text.length ≤ resume key body q - key.text.length := by
          unfold resume skipBlanks
          omega
        have hqlimit : q < limit number key body := by
          rcases limit_spec number key body with ⟨-, hs, -⟩ | ⟨s, value, -, hs, -, -, hvalue, -⟩
          · omega
          · have hne : q ≠ s := by
              rintro rfl
              rw [(hbad.valueText number key body).2] at hvalue
              cases hvalue
            omega
        have hmem := (mem_unreadables number key body).2 ⟨hqlimit, hbad⟩
        have hsorted := unreadables_sorted number key body
        have hthrough := @through_first (resume key body) p q _ hsorted hmem hpq ?_ (by omega)
        · rw [hagain, hthrough, List.forall_mem_cons]
          by_cases hresume : resume key body q ≤ limit number key body
          · rw [ih _ (by omega) hresume rfl]
            simp [hresume]
          · have hwrong := not_correct_behind number key body (Nat.lt_of_not_le hresume)
            simp [hresume, hwrong]
        · intro j hj hpj
          by_contra hjq
          obtain ⟨-, hoccurs, -⟩ := (unreadable_iff number key body j).1 ((mem_unreadables number key body).1 hj).2
          exact hfirst j hpj (by omega) hoccurs
      · -- an occurrence elsewhere: no line begins within it
        have hwithin : q + key.text.length ≤ limit number key body := by
          rcases limit_spec number key body with ⟨-, hs, -⟩ | ⟨s, value, -, hs, -, hstart, hvalue, -⟩
          · have hlength := hkey.length_le
            rw [List.length_drop] at hlength
            omega
          · have hne : q ≠ s := by
              rintro rfl
              rw [valueOf, hother hstart] at hvalue
              cases hvalue
            have hbehind := startsLine_behind key body hkey (by omega) hstart
            omega
        rw [hagain, ih _ (by omega) hwithin rfl]
        have hsame : through (resume key body) p (unreadables number key body) =
            through (resume key body) (q + key.text.length) (unreadables number key body) := by
          refine through_congr fun j hj => ⟨fun h => by omega, fun h => ?_⟩
          by_contra hge
          obtain ⟨-, hbad⟩ := (mem_unreadables number key body).1 hj
          obtain ⟨hstart, hoccurs, -⟩ := (unreadable_iff number key body j).1 hbad
          have hqj : q ≤ j := by
            by_contra hjq
            exact hfirst j (by omega) (by omega) hoccurs
          have hne : q ≠ j := by
            rintro rfl
            exact (hbad.valueText number key body).1 (hother hstart)
          have hbehind := startsLine_behind key body hkey (by omega) hstart
          omega
        rw [hsame]

/-- The function is correct where no line that it goes through makes it pass over the first line with a number, or over
the end of the body if there is none. -/
theorem prometheusNumber_iff :
    Correct number key body (prometheusNumber number key body) ↔
      ∀ q ∈ passed number key body, resume key body q ≤ limit number key body :=
  search_correct_iff number key body (Nat.zero_le _)

end

/-- A parser of decimal digits. -/
def decimal (text : List Char) : Option ℕ := Text.number 10 (text.takeWhile Char.isDigit)

def abc : Key := ⟨"abc".toList, by decide, by decide⟩

/-- The line behind one without a number is passed over, and so is the end of the body. -/
theorem number_passed_over :
    ¬Correct decimal abc "abc x\nabc 5".toList (prometheusNumber decimal abc "abc x\nabc 5".toList) ∧
    ¬Correct decimal abc "abc ".toList (prometheusNumber decimal abc "abc ".toList) := by
  constructor
  · intro hcorrect
    have hall := (search_correct_iff decimal abc "abc x\nabc 5".toList (Nat.zero_le _)).1 hcorrect
    exact absurd hall (by decide)
  · intro hcorrect
    have hall := (search_correct_iff decimal abc "abc ".toList (Nat.zero_le _)).1 hcorrect
    exact absurd hall (by decide)

end CmpUnlocker.Gpumon
