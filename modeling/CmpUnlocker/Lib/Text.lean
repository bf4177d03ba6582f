import Mathlib.Algebra.Group.Nat.Defs
import Mathlib.Logic.Function.Basic

/-!
# Texts

The parts of Python's `str` that do not depend on tables of Unicode: white space, stripping, lines, and cutting at a
separator; and what the shell does with texts: words, and numbers of arithmetic.  Texts are lists of characters here.
-/

namespace Text

/-- `str.isspace` of one character. -/
def isSpace (c : Char) : Bool :=
  let n := c.toNat
  (9 ≤ n && n ≤ 13) || (28 ≤ n && n ≤ 32) || n == 0x85 || n == 0xa0 || n == 0x1680 || (0x2000 ≤ n && n ≤ 0x200a)
    || n == 0x2028 || n == 0x2029 || n == 0x202f || n == 0x205f || n == 0x3000

/-- `str.strip()`. -/
def strip (cs : List Char) : List Char :=
  ((cs.dropWhile isSpace).reverse.dropWhile isSpace).reverse

/-- A character at which `str.splitlines` ends a line. -/
def isLineEnd (c : Char) : Bool :=
  let n := c.toNat
  (10 ≤ n && n ≤ 13) || (28 ≤ n && n ≤ 30) || n == 0x85 || n == 0x2028 || n == 0x2029

/-- `str.splitlines()` after the characters `line` of the current line, in reverse. -/
def splitLinesFrom (line : List Char) : List Char → List (List Char)
  | [] => if line.isEmpty then [] else [line.reverse]
  | '\r' :: '\n' :: cs => line.reverse :: splitLinesFrom [] cs
  | c :: cs => if isLineEnd c then line.reverse :: splitLinesFrom [] cs else splitLinesFrom (c :: line) cs

def splitLines (cs : List Char) : List (List Char) := splitLinesFrom [] cs

/-- One character of a text: a carriage return takes the line feed behind it along. -/
theorem splitLinesFrom_cons (line : List Char) (c : Char) (cs : List Char) :
    splitLinesFrom line (c :: cs) =
      if c = '\r' ∧ cs.head? = some '\n' then line.reverse :: splitLinesFrom [] cs.tail
      else if isLineEnd c then line.reverse :: splitLinesFrom [] cs else splitLinesFrom (c :: line) cs := by
  by_cases h : c = '\r' ∧ cs.head? = some '\n'
  · obtain ⟨rfl, hhead⟩ := h
    obtain ⟨rest, rfl⟩ := List.head?_eq_some_iff.mp hhead
    rw [if_pos ⟨rfl, rfl⟩]
    rfl
  · rw [if_neg h]
    apply splitLinesFrom.eq_3
    rintro rest rfl rfl
    exact h ⟨rfl, rfl⟩

/-- Behind a line feed the lines start anew. -/
theorem splitLinesFrom_append (cs rest : List Char) (line : List Char) :
    splitLinesFrom line (cs ++ '\n' :: rest) = splitLinesFrom line (cs ++ ['\n']) ++ splitLinesFrom [] rest := by
  induction hn : cs.length using Nat.strongRecOn generalizing cs line with
  | ind n ih =>
    cases cs with
    | nil =>
      rw [List.nil_append, List.nil_append, splitLinesFrom_cons, splitLinesFrom_cons]
      have hfeed : ∀ tail : Option Char, ¬('\n' = '\r' ∧ tail = some '\n') := fun _ h => absurd h.1 (by decide)
      rw [if_neg (hfeed _), if_pos (by decide), if_neg (hfeed _), if_pos (by decide)]
      rfl
    | cons c cs =>
      rw [List.cons_append, List.cons_append, splitLinesFrom_cons, splitLinesFrom_cons line c (cs ++ ['\n'])]
      have hhead : (cs ++ '\n' :: rest).head? = (cs ++ ['\n']).head? := by cases cs <;> rfl
      rw [hhead]
      by_cases h : c = '\r' ∧ (cs ++ ['\n']).head? = some '\n'
      · rw [if_pos h, if_pos h, List.cons_append]
        cases cs with
        | nil => rfl
        | cons d cs =>
          have hlt : cs.length < n := by
            simp only [List.length_cons] at hn
            omega
          exact congrArg _ (ih cs.length hlt cs [] rfl)
      · have hlt : cs.length < n := by
          simp only [List.length_cons] at hn
          omega
        rw [if_neg h, if_neg h]
        by_cases hend : isLineEnd c = true
        · rw [if_pos hend, if_pos hend, ih cs.length hlt cs [] rfl, List.cons_append]
        · rw [if_neg hend, if_neg hend, ih cs.length hlt cs (c :: line) rfl]

/-- The lines of a text that ends with a line feed come before those of the text behind it. -/
theorem splitLines_append {text : List Char} (h : text.getLast? = some '\n') (rest : List Char) :
    splitLines (text ++ rest) = splitLines text ++ splitLines rest := by
  obtain ⟨front, rfl⟩ := List.getLast?_eq_some_iff.mp h
  unfold splitLines
  rw [List.append_assoc, List.singleton_append]
  exact splitLinesFrom_append front rest []

/-- The characters of a line, which none of them ends. -/
theorem splitLinesFrom_line {line : List Char} (h : ∀ c ∈ line, isLineEnd c = false) (before rest : List Char) :
    splitLinesFrom before (line ++ '\n' :: rest) = (before.reverse ++ line) :: splitLinesFrom [] rest := by
  induction line generalizing before with
  | nil =>
    rw [List.nil_append, splitLinesFrom_cons, if_neg (by simp), if_pos (by decide), List.append_nil]
  | cons c line ih =>
    have hc : isLineEnd c = false := h c List.mem_cons_self
    have hreturn : ¬(c = '\r' ∧ (line ++ '\n' :: rest).head? = some '\n') := by
      rintro ⟨rfl, -⟩
      exact absurd hc (by decide)
    rw [List.cons_append, splitLinesFrom_cons, if_neg hreturn, if_neg (by simp [hc]),
      ih (fun d hd => h d (List.mem_cons_of_mem _ hd)), List.reverse_cons, List.append_assoc, List.singleton_append]

/-- Printed lines are found again. -/
theorem splitLines_flatMap {lines : List (List Char)} (h : ∀ line ∈ lines, ∀ c ∈ line, isLineEnd c = false) :
    splitLines (lines.flatMap fun line => line ++ ['\n']) = lines := by
  induction lines with
  | nil => rfl
  | cons line lines ih =>
    have hrest := ih fun l hl => h l (List.mem_cons_of_mem _ hl)
    have hline := splitLinesFrom_line (h line List.mem_cons_self) [] (lines.flatMap fun line => line ++ ['\n'])
    unfold splitLines at hrest ⊢
    rw [List.flatMap_cons, List.append_assoc, List.singleton_append, hline, hrest, List.reverse_nil, List.nil_append]

/-- A line ends at white space only. -/
theorem isLineEnd_of_not_isSpace {c : Char} (h : isSpace c = false) : isLineEnd c = false := by
  simp only [isSpace, isLineEnd, Bool.or_eq_false_iff, Bool.and_eq_false_iff, decide_eq_false_iff_not,
    beq_eq_false_iff_ne] at h ⊢
  omega

/-- The text behind a prefix. -/
def dropPrefix : List Char → List Char → Option (List Char)
  | [], cs => some cs
  | _ :: _, [] => none
  | p :: ps, c :: cs => if p = c then dropPrefix ps cs else none

/-- `str.split(sep, 1)`: the text before the first separator, and the rest behind it if there is one. -/
def cut (sep : List Char) : List Char → List Char × Option (List Char)
  | [] => ([], dropPrefix sep [])
  | c :: cs =>
    match dropPrefix sep (c :: cs) with
    | some rest => ([], some rest)
    | none => (c :: (cut sep cs).1, (cut sep cs).2)

def contains (part cs : List Char) : Bool := (cut part cs).2.isSome

/-! ### The shell's texts -/

/-- The fields of a text, without the separators. -/
def splitOn (isSep : Char → Bool) : List Char → List (List Char)
  | [] => [[]]
  | c :: cs =>
    if isSep c then [] :: splitOn isSep cs
    else match splitOn isSep cs with
      | [] => [[c]]
      | field :: fields => (c :: field) :: fields

/-- Word splitting at blanks. -/
def words (isBlank : Char → Bool) (cs : List Char) : List (List Char) :=
  (splitOn isBlank cs).filter fun word => !word.isEmpty

/-- The separators of `IFS`. -/
def isBlank (c : Char) : Bool := c == ' ' || c == '\t' || c == '\n'

/-- `${text##*/}`. -/
def lastComponent (cs : List Char) : List Char := ((splitOn (· == '/') cs).getLast?).getD []

/-- The value of a digit in a base up to 16. -/
def digit (base : Nat) (c : Char) : Option Nat :=
  let n := c.toNat
  let value := if '0' ≤ c ∧ c ≤ '9' then n - '0'.toNat else if 'a' ≤ c ∧ c ≤ 'f' then n - 'a'.toNat + 10
    else if 'A' ≤ c ∧ c ≤ 'F' then n - 'A'.toNat + 10 else base
  if value < base then some value else none

def numberFrom (base acc : Nat) : List Char → Option Nat
  | [] => some acc
  | c :: cs =>
    match digit base c with
    | some d => numberFrom base (base * acc + d) cs
    | none => none

/-- `base#text`. -/
def number (base : Nat) : List Char → Option Nat
  | [] => none
  | c :: cs => numberFrom base 0 (c :: cs)

/-- The value of a variable in arithmetic: hexadecimal, octal or decimal; an empty one is 0. -/
def arith : List Char → Option Nat
  | [] => some 0
  | '0' :: 'x' :: cs => number 16 cs
  | '0' :: cs => numberFrom 8 0 cs
  | cs => number 10 cs

/-! ### Joined words -/

section

variable {isSep : Char → Bool} {sep : Char}

theorem splitOn_of_forall {word : List Char} (h : ∀ c ∈ word, isSep c = false) : splitOn isSep word = [word] := by
  induction word with
  | nil => rfl
  | cons c word ih =>
    have hc : ¬isSep c = true := by simpa using h c List.mem_cons_self
    rw [splitOn, if_neg hc, ih fun d hd => h d (List.mem_cons_of_mem _ hd)]

theorem splitOn_append {word : List Char} (h : ∀ c ∈ word, isSep c = false) (hsep : isSep sep = true)
    (rest : List Char) : splitOn isSep (word ++ sep :: rest) = word :: splitOn isSep rest := by
  induction word with
  | nil => rw [List.nil_append, splitOn, if_pos hsep]
  | cons c word ih =>
    have hc : ¬isSep c = true := by simpa using h c List.mem_cons_self
    rw [List.cons_append, splitOn, if_neg hc, ih fun d hd => h d (List.mem_cons_of_mem _ hd)]

/-- Joined fields are found again. -/
theorem splitOn_intercalate (hsep : isSep sep = true) {texts : List (List Char)} (hne : texts ≠ [])
    (h : ∀ text ∈ texts, ∀ c ∈ text, isSep c = false) : splitOn isSep ([sep].intercalate texts) = texts := by
  induction texts with
  | nil => exact absurd rfl hne
  | cons text texts ih =>
    have htext := h text List.mem_cons_self
    cases texts with
    | nil => simp [splitOn_of_forall htext]
    | cons t texts =>
      have hrest := ih (by simp) fun t ht => h t (List.mem_cons_of_mem _ ht)
      rw [List.intercalate_cons_cons, List.append_assoc, List.singleton_append, splitOn_append htext hsep, hrest]

/-- Joined words are found again. -/
theorem words_intercalate (hsep : isSep sep = true) {texts : List (List Char)}
    (h : ∀ text ∈ texts, text ≠ [] ∧ ∀ c ∈ text, isSep c = false) : words isSep ([sep].intercalate texts) = texts := by
  induction texts with
  | nil => rfl
  | cons text texts ih =>
    obtain ⟨hne, htext⟩ := h text List.mem_cons_self
    have hrest := ih fun t ht => h t (List.mem_cons_of_mem _ ht)
    have hkept : (!text.isEmpty) = true := by simpa using hne
    cases texts with
    | nil => simp [words, splitOn_of_forall htext, hne]
    | cons t texts =>
      rw [List.intercalate_cons_cons, List.append_assoc, List.singleton_append]
      unfold words at hrest ⊢
      rw [splitOn_append htext hsep, List.filter_cons, if_pos hkept, hrest]

theorem notMem_intercalate {c : Char} (hc : c ≠ sep) {texts : List (List Char)} (h : ∀ text ∈ texts, c ∉ text) :
    c ∉ [sep].intercalate texts := by
  induction texts with
  | nil => simp
  | cons text texts ih =>
    have hrest := ih fun t ht => h t (List.mem_cons_of_mem _ ht)
    cases texts with
    | nil => simpa using h text List.mem_cons_self
    | cons t texts =>
      rw [List.intercalate_cons_cons, List.append_assoc, List.singleton_append]
      simp only [List.mem_append, List.mem_cons, not_or]
      exact ⟨h text List.mem_cons_self, hc, hrest⟩

/-- A text without the separator is not cut. -/
theorem cut_of_notMem {cs : List Char} (h : sep ∉ cs) : cut [sep] cs = (cs, none) := by
  induction cs with
  | nil => rfl
  | cons c cs ih =>
    have hc : sep ≠ c := by
      rintro rfl
      exact h List.mem_cons_self
    have hdrop : dropPrefix [sep] (c :: cs) = none := if_neg hc
    rw [cut, hdrop, ih fun hmem => h (List.mem_cons_of_mem _ hmem)]

end

/-! ### Searching -/

theorem dropPrefix_eq_some {part cs rest : List Char} : dropPrefix part cs = some rest ↔ cs = part ++ rest := by
  induction part generalizing cs with
  | nil => simp [dropPrefix]
  | cons p part ih =>
    cases cs with
    | nil => simp [dropPrefix]
    | cons c cs =>
      by_cases h : p = c
      · subst h
        simp [dropPrefix, ih]
      · have hne : c ≠ p := Ne.symm h
        simp [dropPrefix, h, hne]

/-- A text is cut behind its beginning. -/
theorem cut_prefix {part : List Char} (hne : part ≠ []) (rest : List Char) :
    cut part (part ++ rest) = ([], some rest) := by
  cases part with
  | nil => exact absurd rfl hne
  | cons p part =>
    have hdrop : dropPrefix (p :: part) (p :: (part ++ rest)) = some rest := dropPrefix_eq_some.2 rfl
    rw [List.cons_append, cut, hdrop]

/-- A text is cut at its first separator. -/
theorem cut_append {sep : Char} {word : List Char} (h : sep ∉ word) (rest : List Char) :
    cut [sep] (word ++ sep :: rest) = (word, some rest) := by
  induction word with
  | nil =>
    have hdrop : dropPrefix [sep] (sep :: rest) = some rest := if_pos rfl
    rw [List.nil_append, cut, hdrop]
  | cons c word ih =>
    have hc : sep ≠ c := by
      rintro rfl
      exact h List.mem_cons_self
    have hdrop : dropPrefix [sep] (c :: (word ++ sep :: rest)) = none := if_neg hc
    rw [List.cons_append, cut, hdrop, ih fun hmem => h (List.mem_cons_of_mem _ hmem)]

/-! ### Hexadecimal digits -/

/-- A digit of `printf '%X'`. -/
def upperDigit (n : Nat) : Char := "0123456789ABCDEF".toList.getD n '0'

/-- `printf '%0*X'` of a number that has not more digits than that. -/
def upperHex : Nat → Nat → List Char
  | 0, _ => []
  | width + 1, n => upperHex width (n / 16) ++ [upperDigit (n % 16)]

theorem upperDigit_injective : ∀ a < 16, ∀ b < 16, upperDigit a = upperDigit b → a = b := by decide

theorem length_upperHex (width n : Nat) : (upperHex width n).length = width := by
  induction width generalizing n with
  | zero => rfl
  | succ width ih => simp [upperHex, ih]

theorem mem_upperHex {width n : Nat} {c : Char} (h : c ∈ upperHex width n) : ∃ d < 16, c = upperDigit d := by
  induction width generalizing n with
  | zero => simp [upperHex] at h
  | succ width ih =>
    simp only [upperHex, List.mem_append, List.mem_singleton] at h
    rcases h with h | h
    · exact ih h
    · exact ⟨n % 16, Nat.mod_lt _ (by decide), h⟩

theorem upperHex_injective {width n m : Nat} (hn : n < 16 ^ width) (hm : m < 16 ^ width)
    (h : upperHex width n = upperHex width m) : n = m := by
  induction width generalizing n m with
  | zero => omega
  | succ width ih =>
    rw [Nat.pow_succ] at hn hm
    simp only [upperHex] at h
    obtain ⟨hfront, hlast⟩ := List.append_inj' h rfl
    have hdiv : n / 16 = m / 16 := ih (by omega) (by omega) hfront
    have hmod : n % 16 = m % 16 :=
      upperDigit_injective _ (Nat.mod_lt _ (by decide)) _ (Nat.mod_lt _ (by decide)) (List.singleton_inj.1 hlast)
    omega

end Text
