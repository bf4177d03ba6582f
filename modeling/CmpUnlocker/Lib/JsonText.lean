import Mathlib.Data.List.Basic
import Mathlib.Data.List.Forall2
import Mathlib.Data.List.TakeWhile
import CmpUnlocker.Lib.Json
import CmpUnlocker.Lib.JsonString

/-!
# JSON texts

A reader of JSON texts given as bytes: a machine with a stack of the containers that are open.  Strings and scalars are
collected byte by byte and handed over as a whole; `Reads text v` says that the machine, where a value may come, has
read the value `v` behind the text.  Texts put together from texts that are read are read (`Fills`).
-/

namespace JsonText

open JsonString

variable {ν : Type}

/-! ### Scalars and strings -/

/-- The fraction of a number, and what is behind it. -/
def fraction : List Char → Option (List Char)
  | '.' :: text => if text.takeWhile Char.isDigit = [] then none else some (text.dropWhile Char.isDigit)
  | text => some text

/-- The exponent of a number, and what is behind it. -/
def exponent : List Char → Option (List Char)
  | [] => some []
  | c :: text =>
    if c = 'e' ∨ c = 'E' then
      let digits := if text.head? = some '+' ∨ text.head? = some '-' then text.tail else text
      if digits.takeWhile Char.isDigit = [] then none else some (digits.dropWhile Char.isDigit)
    else some (c :: text)

/-- A number.  Without a fraction and an exponent it is an integer; `double` gives the others. -/
def number (double : List Char → ν) (text : List Char) : Option (Json ν) :=
  let minus := text.head? = some '-'
  let digits := if minus then text.tail else text
  let whole := digits.takeWhile Char.isDigit
  let rest := digits.dropWhile Char.isDigit
  if whole = [] ∨ (whole.head? = some '0' ∧ whole ≠ ['0']) then none
  else if rest = [] then some (.int (if minus then -(Nat.ofDigitChars 10 whole 0 : ℤ) else Nat.ofDigitChars 10 whole 0))
  else ((fraction rest).bind exponent).bind fun behind => if behind = [] then some (.double (double text)) else none

def scalar (double : List Char → ν) (text : List Char) : Option (Json ν) :=
  if text = ['n', 'u', 'l', 'l'] then some .null
  else if text = ['t', 'r', 'u', 'e'] then some (.bool true)
  else if text = ['f', 'a', 'l', 's', 'e'] then some (.bool false)
  else number double text

/-- UTF-8, strictly. -/
def decode (bytes : List UInt8) : Option (List Char) := bytes.toByteArray.utf8Decode?.map Array.toList

/-- The string that stands between quotes. -/
def unescape (raw : List UInt8) : Option (List Char) :=
  (JsonString.string (quote :: (raw ++ [quote]))).bind fun r => if r.2 = [] then decode r.1 else none

/-! ### The containers that are open -/

/-- The elements of an array so far; the members of an object so far; these with the key of the next one. -/
inductive Frame (ν : Type)
  | elements (vs : List (Json ν))
  | members (ms : List (List Char × Json ν))
  | member (ms : List (List Char × Json ν)) (key : List Char)

/-- What may come next; at the first place of a container, its end may come instead. -/
inductive Next
  | value
  | firstValue
  | key
  | firstKey
  | colon
  | comma
  deriving DecidableEq

/-- What has been read, with the innermost container first. -/
inductive Parsed (ν : Type)
  | inside (next : Next) (stack : List (Frame ν))
  | over (v : Json ν)

/-- A value has been read. -/
def complete : List (Frame ν) → Json ν → Option (Parsed ν)
  | [], v => some (.over v)
  | .elements vs :: stack, v => some (.inside .comma (.elements (vs ++ [v]) :: stack))
  | .member ms key :: stack, v => some (.inside .comma (.members (ms ++ [(key, v)]) :: stack))
  | .members _ :: _, _ => none

def Parsed.value (v : Json ν) : Parsed ν → Option (Parsed ν)
  | .inside .value stack => complete stack v
  | .inside .firstValue stack => complete stack v
  | _ => none

/-- A string is a value or a key. -/
def Parsed.string (s : List Char) : Parsed ν → Option (Parsed ν)
  | .inside .key (.members ms :: stack) => some (.inside .colon (.member ms s :: stack))
  | .inside .firstKey (.members ms :: stack) => some (.inside .colon (.member ms s :: stack))
  | parsed => parsed.value (.string s)

inductive Mark
  | openArray
  | closeArray
  | openObject
  | closeObject
  | colon
  | comma
  deriving DecidableEq

def mark (b : UInt8) : Option Mark :=
  if b = 0x5b then some .openArray
  else if b = 0x5d then some .closeArray
  else if b = 0x7b then some .openObject
  else if b = 0x7d then some .closeObject
  else if b = 0x3a then some .colon
  else if b = 0x2c then some .comma
  else none

def Parsed.mark : Mark → Parsed ν → Option (Parsed ν)
  | .openArray, .inside .value stack => some (.inside .firstValue (.elements [] :: stack))
  | .openArray, .inside .firstValue stack => some (.inside .firstValue (.elements [] :: stack))
  | .openObject, .inside .value stack => some (.inside .firstKey (.members [] :: stack))
  | .openObject, .inside .firstValue stack => some (.inside .firstKey (.members [] :: stack))
  | .closeArray, .inside .firstValue (.elements vs :: stack) => complete stack (.array vs)
  | .closeArray, .inside .comma (.elements vs :: stack) => complete stack (.array vs)
  | .closeObject, .inside .firstKey (.members ms :: stack) => complete stack (.object ms)
  | .closeObject, .inside .comma (.members ms :: stack) => complete stack (.object ms)
  | .colon, .inside .colon stack => some (.inside .value stack)
  | .comma, .inside .comma (.elements vs :: stack) => some (.inside .value (.elements vs :: stack))
  | .comma, .inside .comma (.members ms :: stack) => some (.inside .key (.members ms :: stack))
  | _, _ => none

/-! ### Reading bytes -/

/-- Where the reader is: between two tokens, in a scalar, in a string or behind a backslash of one, with the bytes of
the token so far. -/
inductive Mode
  | between
  | scalar (raw : List UInt8)
  | string (raw : List UInt8)
  | escape (raw : List UInt8)
  deriving DecidableEq

/-- `parsed` is `none` after an error. -/
structure State (ν : Type) where
  mode : Mode
  parsed : Option (Parsed ν)

def space (b : UInt8) : Bool := b = 0x20 || b = 0x0a || b = 0x0d || b = 0x09

section

variable (double : List Char → ν)

/-- What has been read with the scalar that may be unfinished. -/
def settle (s : State ν) : Option (Parsed ν) :=
  match s.mode with
  | .between => s.parsed
  | .scalar raw => s.parsed.bind fun p => ((decode raw).bind (scalar double)).bind fun v => p.value v
  | .string _ => none
  | .escape _ => none

def Mode.scalarBytes : Mode → List UInt8
  | .scalar raw => raw
  | _ => []

/-- A byte outside of strings. -/
def stepPlain (s : State ν) (b : UInt8) : State ν :=
  if b = quote then ⟨.string [], settle double s⟩
  else if space b then ⟨.between, settle double s⟩
  else match mark b with
    | some m => ⟨.between, (settle double s).bind (Parsed.mark m)⟩
    | none => ⟨.scalar (s.mode.scalarBytes ++ [b]), s.parsed⟩

def step (s : State ν) (b : UInt8) : State ν :=
  match s.mode with
  | .string raw =>
    if b = quote then ⟨.between, s.parsed.bind fun p => (unescape raw).bind fun text => p.string text⟩
    else if b = backslash then ⟨.escape (raw ++ [b]), s.parsed⟩
    else ⟨.string (raw ++ [b]), s.parsed⟩
  | .escape raw => ⟨.string (raw ++ [b]), s.parsed⟩
  | .between => stepPlain double s b
  | .scalar _ => stepPlain double s b

def run (text : List UInt8) (s : State ν) : State ν := text.foldl (step double) s

/-- The value of a text. -/
def read (text : List UInt8) : Option (Json ν) :=
  match settle double (run double text ⟨.between, some (.inside .value [])⟩) with
  | some (.over v) => some v
  | _ => none

end

/-! ### Single tokens -/

variable {double : List Char → ν} {s : State ν} {p q : Parsed ν} {b : UInt8} {text text' raw ws : List UInt8}
  {v : Json ν}

theorem run_append : run double (text ++ text') s = run double text' (run double text s) := List.foldl_append

theorem run_cons : run double (b :: text) s = run double text (step double s b) := rfl

/-- What has been read up to here, between tokens. -/
abbrev upTo (p : Parsed ν) : State ν := ⟨.between, some p⟩

/-- A byte that ends a scalar. -/
def Ends (b : UInt8) : Prop := b = quote ∨ space b = true ∨ (mark b).isSome = true

instance (b : UInt8) : Decidable (Ends b) := inferInstanceAs (Decidable (_ ∨ _ ∨ _))

theorem step_of_settle (h : settle double s = some p) (hb : Ends b) : step double s b = step double (upTo p) b := by
  obtain ⟨mode, parsed⟩ := s
  have hplain : stepPlain double ⟨mode, parsed⟩ b = stepPlain double (upTo p) b := by
    have hp : settle double (upTo p) = some p := rfl
    simp only [stepPlain, h, hp]
    rcases hb with hb | hb | hb
    · rw [if_pos hb, if_pos hb]
    · simp only [hb, if_true]
    · obtain ⟨m, hm⟩ := Option.isSome_iff_exists.1 hb
      simp only [hm]
  cases mode with
  | between => exact hplain
  | scalar raw => exact hplain
  | string raw => cases h
  | escape raw => cases h

/-- Behind a value or between tokens, a text that starts with such a byte is read alike. -/
theorem run_of_settle (h : settle double s = some p) (hb : Ends b) :
    run double (b :: text) s = run double (b :: text) (upTo p) := by
  rw [run_cons, run_cons, step_of_settle h hb]

theorem run_mark {m : Mark} (hm : mark b = some m) (h : settle double s = some p) :
    run double (b :: text) s = run double text ⟨.between, p.mark m⟩ := by
  have hends : Ends b := .inr (.inr (by rw [hm]; rfl))
  have hne : b ≠ quote ∧ space b = false := by
    constructor
    · rintro rfl
      cases hm
    · have hcases : ∀ b : UInt8, space b = true → mark b = none := by
        intro b hspace
        simp only [space, Bool.or_eq_true, decide_eq_true_eq] at hspace
        rcases hspace with ((rfl | rfl) | rfl) | rfl <;> rfl
      exact Bool.eq_false_iff.2 fun hspace => by rw [hcases b hspace] at hm; cases hm
  rw [run_of_settle h hends, run_cons, step, stepPlain, if_neg hne.1]
  simp only [hne.2, hm]
  rfl

theorem spaces_nil : ∀ b ∈ ([] : List UInt8), space b = true := fun _ hb => absurd hb List.not_mem_nil

theorem run_spaces (hws : ∀ b ∈ ws, space b = true) : run double ws (upTo p) = upTo p := by
  induction ws with
  | nil => rfl
  | cons b ws ih =>
    have hb : space b = true := hws b List.mem_cons_self
    have hne : b ≠ quote := by
      rintro rfl
      cases hb
    rw [run_cons, step, stepPlain, if_neg hne, if_pos hb]
    exact ih fun b hb => hws b (List.mem_cons_of_mem _ hb)

theorem settle_spaces (hws : ∀ b ∈ ws, space b = true) (h : settle double s = some p) :
    settle double (run double ws s) = some p := by
  cases ws with
  | nil => exact h
  | cons b ws => rw [run_of_settle h (.inr (.inl (hws b List.mem_cons_self))), run_spaces hws]; rfl

/-- A byte of a scalar. -/
def Plain (b : UInt8) : Prop := ¬Ends b

instance (b : UInt8) : Decidable (Plain b) := inferInstanceAs (Decidable ¬_)

theorem step_plain {mode : Mode} (hmode : mode = .between ∨ ∃ raw, mode = .scalar raw) (hb : Plain b)
    (o : Option (Parsed ν)) : step double ⟨mode, o⟩ b = ⟨.scalar (mode.scalarBytes ++ [b]), o⟩ := by
  have hquote : b ≠ quote := fun heq => hb (.inl heq)
  have hspace : ¬space b = true := fun hspace => hb (.inr (.inl hspace))
  have hmark : mark b = none := by
    cases hm : mark b with
    | none => rfl
    | some m => exact absurd (.inr (.inr (by rw [hm]; rfl))) hb
  have hplain : stepPlain double ⟨mode, o⟩ b = ⟨.scalar (mode.scalarBytes ++ [b]), o⟩ := by
    rw [stepPlain, if_neg hquote, if_neg hspace, hmark]
  rcases hmode with rfl | ⟨raw, rfl⟩ <;> exact hplain

theorem run_plain (h : ∀ b ∈ text, Plain b) (raw : List UInt8) (o : Option (Parsed ν)) :
    run double text ⟨.scalar raw, o⟩ = ⟨.scalar (raw ++ text), o⟩ := by
  induction text generalizing raw with
  | nil => rw [List.append_nil]; rfl
  | cons b text ih =>
    rw [run_cons, step_plain (.inr ⟨raw, rfl⟩) (h b List.mem_cons_self), ih fun c hc => h c (List.mem_cons_of_mem _ hc)]
    simp [Mode.scalarBytes]

/-- Bytes that stand inside of a string and leave no escape open. -/
def Inside (text : List UInt8) : Prop :=
  ∀ (ν : Type) (double : List Char → ν) (raw : List UInt8) (o : Option (Parsed ν)),
    run double text ⟨.string raw, o⟩ = ⟨.string (raw ++ text), o⟩

theorem inside_nil : Inside [] := fun _ _ raw o => by rw [List.append_nil]; rfl

theorem Inside.append (h : Inside text) (h' : Inside text') : Inside (text ++ text') := fun ν double raw o => by
  rw [run_append, h ν double raw o, h' ν double _ o, List.append_assoc]

theorem inside_byte (hquote : b ≠ quote) (hbackslash : b ≠ backslash) : Inside [b] := fun ν double raw o => by
  have hstep : step double ⟨.string raw, o⟩ b = ⟨.string (raw ++ [b]), o⟩ :=
    (if_neg hquote).trans (if_neg hbackslash)
  rw [run_cons, hstep]
  rfl

theorem inside_escape (e : UInt8) : Inside [backslash, e] := fun ν double raw o => by
  have hfirst : step double ⟨.string raw, o⟩ backslash = ⟨.escape (raw ++ [backslash]), o⟩ := rfl
  have hsecond : step double ⟨.escape (raw ++ [backslash]), o⟩ e = ⟨.string (raw ++ [backslash] ++ [e]), o⟩ := rfl
  rw [run_cons, hfirst, run_cons, hsecond, List.append_assoc]
  rfl

theorem inside_of_bytes (h : ∀ b ∈ text, b ≠ quote ∧ b ≠ backslash) : Inside text := by
  induction text with
  | nil => exact inside_nil
  | cons b text ih =>
    have hb := h b List.mem_cons_self
    exact (inside_byte hb.1 hb.2).append (ih fun c hc => h c (List.mem_cons_of_mem _ hc))

theorem run_string (h : Inside raw) {t : List Char} (ht : unescape raw = some t) (hs : settle double s = some p) :
    run double (quote :: (raw ++ [quote])) s = ⟨.between, p.string t⟩ := by
  have hopen : step double (upTo p) quote = ⟨.string [], some p⟩ := rfl
  have hclose : step double ⟨.string raw, some p⟩ quote =
      ⟨.between, (unescape raw).bind fun text => p.string text⟩ := rfl
  rw [run_of_settle hs (.inl rfl), run_cons, hopen, run_append, h ν double [] (some p), List.nil_append, run_cons,
    hclose, ht]
  rfl

/-! ### Values -/

/-- Where a value may come, the reader has read `v` behind the text. -/
def Reads (double : List Char → ν) (text : List UInt8) (v : Json ν) : Prop :=
  ∀ stack : List (Frame ν), ∀ next ∈ [Next.value, .firstValue],
    settle double (run double text (upTo (.inside next stack))) = complete stack v

/-- White space may stand behind the value. -/
theorem Reads.read_spaces (h : Reads double text v) (hws : ∀ b ∈ ws, space b = true) :
    JsonText.read double (text ++ ws) = some v := by
  have hsettle : settle double (run double text (upTo (.inside .value []))) = some (.over v) := h [] .value (by decide)
  have hbehind := settle_spaces hws hsettle
  rw [JsonText.read, run_append, hbehind]

theorem value_of_mem {next : Next} (h : next ∈ [Next.value, .firstValue]) (stack : List (Frame ν)) (v : Json ν) :
    (Parsed.inside next stack).value v = complete stack v := by
  rcases List.mem_pair.1 h with rfl | rfl <;> rfl

theorem string_of_mem {next : Next} (h : next ∈ [Next.value, .firstValue]) (stack : List (Frame ν)) (t : List Char) :
    (Parsed.inside next stack).string t = complete stack (.string t) := by
  rcases List.mem_pair.1 h with rfl | rfl <;> rfl

theorem reads_scalar (h : ∀ b ∈ raw, Plain b) {t : List Char} (ht : decode raw = some t)
    (hv : scalar double t = some v) :
    Reads double raw v := by
  intro stack next hnext
  obtain ⟨b, rest, rfl⟩ : ∃ b rest, raw = b :: rest := by
    refine List.exists_cons_of_ne_nil ?_
    rintro rfl
    have hnil : t = [] := by
      have hdecode : decode [] = some [] := by decide +kernel
      exact Option.some.inj (ht.symm.trans hdecode)
    subst hnil
    simp [scalar, number] at hv
  have hrest : ∀ c ∈ rest, Plain c := fun c hc => h c (List.mem_cons_of_mem _ hc)
  rw [run_cons, step_plain (.inl rfl) (h b List.mem_cons_self), run_plain hrest]
  have hraw : Mode.between.scalarBytes ++ [b] ++ rest = b :: rest := rfl
  rw [hraw, settle]
  simp only [ht, hv, Option.bind_some, value_of_mem hnext]

theorem reads_string (h : Inside raw) {t : List Char} (ht : unescape raw = some t) :
    Reads double (quote :: (raw ++ [quote])) (.string t) := by
  intro stack next hnext
  rw [run_string h ht rfl, string_of_mem hnext]
  rfl

theorem Reads.spaces (h : Reads double text v) (hws : ∀ b ∈ ws, space b = true) : Reads double (ws ++ text) v := by
  intro stack next hnext
  rw [run_append, run_spaces hws]
  exact h stack next hnext

/-! ### Containers -/

variable {α β : Type} {frame : List α → Frame ν} {places : List Next} {xs xs' : List α}

/-- At these places of a container the text adds the entries `xs`. -/
def Fills (double : List Char → ν) (frame : List α → Frame ν) (places : List Next) (text : List UInt8) (xs : List α) :
    Prop :=
  ∀ (done : List α) (stack : List (Frame ν)), ∀ next ∈ places,
    settle double (run double text (upTo (.inside next (frame done :: stack)))) =
      some (.inside .comma (frame (done ++ xs) :: stack))

/-- Behind a comma comes one of these places. -/
def Separates (frame : List α → Frame ν) (places : List Next) : Prop :=
  ∀ done stack, ∃ next ∈ places,
    (Parsed.inside .comma (frame done :: stack)).mark .comma = some (.inside next (frame done :: stack))

theorem separates_elements : Separates (Frame.elements (ν := ν)) [.value, .firstValue] :=
  fun _ _ => ⟨.value, by decide, rfl⟩

theorem separates_members : Separates (Frame.members (ν := ν)) [.key, .firstKey] :=
  fun _ _ => ⟨.key, by decide, rfl⟩

def comma : UInt8 := 0x2c

theorem Fills.append (h : Fills double frame places text xs) (h' : Fills double frame places text' xs')
    (hseparates : Separates frame places) : Fills double frame places (text ++ comma :: text') (xs ++ xs') := by
  intro done stack next hnext
  have hfirst := h done stack next hnext
  obtain ⟨next', hnext', hmark⟩ := hseparates (done ++ xs) stack
  have hrest := h' (done ++ xs) stack next' hnext'
  rw [List.append_assoc] at hrest
  have hcomma : mark comma = some .comma := rfl
  rw [run_append, run_mark hcomma hfirst, hmark]
  exact hrest

theorem Fills.spaces (h : Fills double frame places text xs) (hws : ∀ b ∈ ws, space b = true) :
    Fills double frame places (ws ++ text) xs := by
  intro done stack next hnext
  rw [run_append, run_spaces hws]
  exact h done stack next hnext

theorem Fills.spaces_behind (h : Fills double frame places text xs) (hws : ∀ b ∈ ws, space b = true) :
    Fills double frame places (text ++ ws) xs := by
  intro done stack next hnext
  rw [run_append]
  exact settle_spaces hws (h done stack next hnext)

/-- Texts with a comma and white space between them. -/
def joined (ws : List UInt8) : List (List UInt8) → List UInt8
  | [] => []
  | [text] => text
  | text :: texts => text ++ comma :: (ws ++ joined ws texts)

theorem fills_joined (hseparates : Separates frame places) (hws : ∀ b ∈ ws, space b = true) {texts : List (List UInt8)}
    {xs : List α} (h : List.Forall₂ (fun text x => Fills double frame places text [x]) texts xs) (hne : xs ≠ []) :
    Fills double frame places (joined ws texts) xs := by
  induction h with
  | nil => exact absurd rfl hne
  | @cons text x texts xs hfirst hrest ih =>
    cases hrest with
    | nil => exact hfirst
    | cons hsecond hmore => exact hfirst.append ((ih (List.cons_ne_nil _ _)).spaces hws) hseparates

theorem Reads.fills (h : Reads double text v) : Fills double .elements [.value, .firstValue] text [v] :=
  fun done stack next hnext => h (.elements done :: stack) next hnext

/-- A member of an object; the key needs no escapes. -/
theorem Reads.member (h : Reads double text v) (hraw : Inside raw) {key : List Char} (hkey : unescape raw = some key)
    (hws : ∀ b ∈ ws, space b = true) :
    Fills double .members [.key, .firstKey] (quote :: (raw ++ [quote]) ++ 0x3a :: (ws ++ text)) [(key, v)] := by
  intro done stack next hnext
  have hstring : (Parsed.inside next (.members done :: stack)).string key =
      some (.inside .colon (.member done key :: stack)) := by
    rcases List.mem_pair.1 hnext with rfl | rfl <;> rfl
  have hcolon : mark 0x3a = some .colon := rfl
  rw [run_append, run_string hraw hkey rfl, hstring, run_mark hcolon rfl, run_append]
  have hmark : (Parsed.inside .colon (.member done key :: stack)).mark .colon =
      some (.inside .value (.member done key :: stack)) := rfl
  rw [hmark, run_spaces hws]
  exact h (.member done key :: stack) .value (by decide)

/-- A container is opened, filled and closed. -/
theorem reads_container {l r : UInt8} {opening closing : Mark} {first : Next} {empty : Frame ν}
    (hl : mark l = some opening) (hr : mark r = some closing)
    (hopen : ∀ stack, ∀ next ∈ [Next.value, .firstValue],
      (Parsed.inside next stack).mark opening = some (.inside first (empty :: stack)))
    (h : ∀ stack, ∃ q, settle double (run double text (upTo (.inside first (empty :: stack)))) = some q ∧
      q.mark closing = complete stack v) :
    Reads double (l :: (text ++ [r])) v := by
  intro stack next hnext
  obtain ⟨q, hq, hclosed⟩ := h stack
  rw [run_mark hl rfl, hopen stack next hnext, run_append, run_mark hr hq, hclosed]
  rfl

theorem opens_array (stack : List (Frame ν)) (next : Next) (h : next ∈ [Next.value, .firstValue]) :
    (Parsed.inside next stack).mark .openArray = some (.inside .firstValue (.elements [] :: stack)) := by
  rcases List.mem_pair.1 h with rfl | rfl <;> rfl

theorem opens_object (stack : List (Frame ν)) (next : Next) (h : next ∈ [Next.value, .firstValue]) :
    (Parsed.inside next stack).mark .openObject = some (.inside .firstKey (.members [] :: stack)) := by
  rcases List.mem_pair.1 h with rfl | rfl <;> rfl

theorem reads_array {vs : List (Json ν)} (h : Fills double .elements [.value, .firstValue] text vs) :
    Reads double (0x5b :: (text ++ [0x5d])) (.array vs) :=
  reads_container rfl rfl opens_array fun stack => ⟨_, h [] stack .firstValue (by decide), rfl⟩

theorem reads_object {ms : List (List Char × Json ν)} (h : Fills double .members [.key, .firstKey] text ms) :
    Reads double (0x7b :: (text ++ [0x7d])) (.object ms) :=
  reads_container rfl rfl opens_object fun stack => ⟨_, h [] stack .firstKey (by decide), rfl⟩

theorem reads_array_nil (hws : ∀ b ∈ ws, space b = true) : Reads double (0x5b :: (ws ++ [0x5d])) (.array []) :=
  reads_container rfl rfl opens_array fun stack => ⟨_, by rw [run_spaces hws]; rfl, rfl⟩

theorem reads_object_nil (hws : ∀ b ∈ ws, space b = true) : Reads double (0x7b :: (ws ++ [0x7d])) (.object []) :=
  reads_container rfl rfl opens_object fun stack => ⟨_, by rw [run_spaces hws]; rfl, rfl⟩

/-! ### Texts of characters -/

/-- UTF-8. -/
def encode (text : List Char) : List UInt8 := text.flatMap String.utf8EncodeChar

theorem decode_encode (t : List Char) : decode (encode t) = some t := by
  have h : (encode t).toByteArray = t.utf8Encode := rfl
  rw [decode, h, List.utf8Decode?_utf8Encode, Option.map_some]

theorem encode_cons (c : Char) (t : List Char) : encode (c :: t) = String.utf8EncodeChar c ++ encode t := rfl

theorem encode_ascii {t : List Char} (h : ∀ c ∈ t, c.toNat < 0x80) :
    encode t = t.map fun c => UInt8.ofNat c.toNat := by
  induction t with
  | nil => rfl
  | cons c t ih =>
    have hc : c.val.toNat ≤ 0x7f := Nat.le_of_lt_succ (h c List.mem_cons_self)
    rw [encode_cons, ih fun d hd => h d (List.mem_cons_of_mem _ hd), String.utf8EncodeChar, if_pos hc]
    rfl

/-- A character of a string that needs no escape. -/
def Bare (c : Char) : Prop := 0x20 ≤ c.toNat ∧ c.toNat < 0x80 ∧ c ≠ '"' ∧ c ≠ '\\'

instance (c : Char) : Decidable (Bare c) := inferInstanceAs (Decidable (_ ∧ _ ∧ _ ∧ _))

/-- A string that needs no escape. -/
def bare (t : List Char) : Bool := t.all fun c => decide (Bare c)

theorem bare_iff {t : List Char} : bare t = true ↔ ∀ c ∈ t, Bare c := by simp [bare]

theorem Bare.byte {c : Char} (h : Bare c) :
    UInt8.ofNat c.toNat ≠ quote ∧ UInt8.ofNat c.toNat ≠ backslash ∧ ¬UInt8.ofNat c.toNat < 0x20 := by
  obtain ⟨hle, hlt, hquote, hbackslash⟩ := h
  have hnat : (UInt8.ofNat c.toNat).toNat = c.toNat := by
    rw [UInt8.toNat_ofNat']
    omega
  have hne : ∀ n : UInt8, ∀ d : Char, d.toNat = n.toNat → c ≠ d → UInt8.ofNat c.toNat ≠ n := by
    intro n d hd hcd heq
    have htoNat : c.toNat = d.toNat := by rw [hd, ← heq, hnat]
    exact hcd (Char.toNat_inj.1 htoNat)
  refine ⟨hne _ '"' rfl hquote, hne _ '\\' rfl hbackslash, fun hcontrol => ?_⟩
  have hlt' : (UInt8.ofNat c.toNat).toNat < 0x20 := UInt8.lt_iff_toNat_lt.1 hcontrol
  omega

theorem read_bare {t : List Char} (h : ∀ c ∈ t, Bare c) (rest : List UInt8) :
    JsonString.read .plain (encode t ++ quote :: rest) = some (encode t, rest) := by
  have hascii := fun c hc => (h c hc).2.1
  rw [encode_ascii hascii]
  clear hascii
  induction t with
  | nil => exact read_quote
  | cons c t ih =>
    obtain ⟨hquote, hbackslash, hcontrol⟩ := (h c List.mem_cons_self).byte
    rw [List.map_cons, List.cons_append, read_plain hquote hbackslash hcontrol,
      ih fun d hd => h d (List.mem_cons_of_mem _ hd), Option.map_some]

theorem unescape_eq {bytes : List UInt8} {t : List Char}
    (h : JsonString.read .plain (raw ++ [quote]) = some (bytes, []))
    (ht : decode bytes = some t) : unescape raw = some t := by
  have hstring : JsonString.string (quote :: (raw ++ [quote])) = some (bytes, []) := by
    rw [JsonString.string, if_pos rfl, h]
  rw [unescape, hstring, Option.bind_some, if_pos rfl, ht]

theorem unescape_bare {t : List Char} (h : ∀ c ∈ t, Bare c) : unescape (encode t) = some t :=
  unescape_eq (read_bare h []) (decode_encode t)

theorem inside_bare {t : List Char} (h : ∀ c ∈ t, Bare c) : Inside (encode t) := by
  refine inside_of_bytes fun b hb => ?_
  rw [encode_ascii fun c hc => (h c hc).2.1] at hb
  obtain ⟨c, hc, rfl⟩ := List.mem_map.1 hb
  exact ⟨(h c hc).byte.1, (h c hc).byte.2.1⟩

/-! ### Integers -/

/-- The characters of numbers. -/
def Numeral (c : Char) : Prop := c.isDigit = true ∨ c ∈ ['-', '+', '.', 'e', 'E']

theorem Numeral.plain {c : Char} (h : Numeral c) : c.toNat < 0x80 ∧ Plain (UInt8.ofNat c.toNat) := by
  have hdigits : ∀ n < 10, Plain (UInt8.ofNat (0x30 + n)) := by decide +kernel
  rcases h with h | h
  · simp only [Char.isDigit, Bool.and_eq_true, decide_eq_true_eq, ge_iff_le, UInt32.le_iff_toNat_le] at h
    have hle : 0x30 ≤ c.toNat ∧ c.toNat ≤ 0x39 := h
    have hplain := hdigits (c.toNat - 0x30) (by omega)
    rw [Nat.add_sub_cancel' hle.1] at hplain
    exact ⟨by omega, hplain⟩
  · simp only [List.mem_cons, List.not_mem_nil, or_false] at h
    rcases h with rfl | rfl | rfl | rfl | rfl <;> decide

/-- A text of such characters is one scalar. -/
theorem plain_encode {t : List Char} (h : ∀ c ∈ t, Numeral c) : ∀ b ∈ encode t, Plain b := by
  intro b hb
  rw [encode_ascii fun c hc => (h c hc).plain.1] at hb
  obtain ⟨c, hc, rfl⟩ := List.mem_map.1 hb
  exact (h c hc).plain.2

theorem mem_digits {t : List Char} {c : Char} (h : c ∈ t) : Numeral c ∨ c ∈ t.dropWhile Char.isDigit := by
  rw [← List.takeWhile_append_dropWhile (p := Char.isDigit) (l := t)] at h
  exact (List.mem_append.1 h).imp_left fun hmem => .inl (List.mem_takeWhile_imp hmem)

theorem fraction_chars {t behind : List Char} (h : fraction t = some behind) {c : Char} (hc : c ∈ t) :
    Numeral c ∨ c ∈ behind := by
  unfold fraction at h
  split at h
  · next text =>
    split at h
    · cases h
    · cases h
      rcases List.mem_cons.1 hc with rfl | hc
      · exact .inl (.inr (by decide))
      · exact mem_digits hc
  · cases h
    exact .inr hc

theorem exponent_chars {t behind : List Char} (h : exponent t = some behind) {c : Char} (hc : c ∈ t) :
    Numeral c ∨ c ∈ behind := by
  cases t with
  | nil => cases hc
  | cons e text =>
    rw [exponent] at h
    split at h
    · next he =>
      -- behind the sign
      have hsign : c ∈ text → Numeral c ∨
          c ∈ (if text.head? = some '+' ∨ text.head? = some '-' then text.tail else text) := by
        intro hc
        split
        · next hhead =>
          cases text with
          | nil => cases hc
          | cons sign digits =>
            rcases List.mem_cons.1 hc with rfl | hc
            · rcases hhead with hhead | hhead <;> cases hhead <;> exact .inl (.inr (by decide))
            · exact .inr hc
        · exact .inr hc
      simp only at h
      generalize (if text.head? = some '+' ∨ text.head? = some '-' then text.tail else text) = digits at hsign h
      split at h
      · cases h
      · cases h
        rcases List.mem_cons.1 hc with rfl | hc
        · rcases he with rfl | rfl <;> exact .inl (.inr (by decide))
        · exact (hsign hc).elim .inl mem_digits
    · cases h
      exact .inr hc

theorem number_chars {t : List Char} (h : (number double t).isSome = true) : ∀ c ∈ t, Numeral c := by
  intro c hc
  unfold number at h
  simp only at h
  have hbody : Numeral c ∨ c ∈ (if t.head? = some '-' then t.tail else t) := by
    split
    · next hhead =>
      cases t with
      | nil => cases hc
      | cons sign digits =>
        cases hhead
        exact (List.mem_cons.1 hc).imp_left fun heq => .inr (by rw [heq]; decide)
    · exact .inr hc
  generalize (if t.head? = some '-' then t.tail else t) = body at hbody h
  have hrest : Numeral c ∨ c ∈ body.dropWhile Char.isDigit := hbody.elim .inl mem_digits
  generalize body.dropWhile Char.isDigit = rest at hrest h
  split at h
  · cases h
  · split at h
    · next hnil =>
      rw [hnil] at hrest
      exact hrest.resolve_right List.not_mem_nil
    · cases hfraction : fraction rest with
      | none => rw [hfraction] at h; cases h
      | some middle =>
        cases hexponent : exponent middle with
        | none => rw [hfraction, Option.bind_some, hexponent] at h; cases h
        | some behind =>
          rw [hfraction, Option.bind_some, hexponent, Option.bind_some] at h
          split at h
          · next hnil =>
            have hmiddle := hrest.elim .inl (fraction_chars hfraction)
            have hbehind := hmiddle.elim .inl (exponent_chars hexponent)
            rw [hnil] at hbehind
            exact hbehind.resolve_right List.not_mem_nil
          · cases h

theorem head_toDigits {n : ℕ} (h : (Nat.toDigits 10 n).head? = some '0') : n = 0 := by
  induction n using Nat.strongRecOn with
  | _ n ih =>
    rw [Nat.toDigits_eq_if (by decide)] at h
    split at h
    · next hlt =>
      have hall : ∀ n < 10, Nat.digitChar n = '0' → n = 0 := by decide
      exact hall n hlt (Option.some.inj h)
    · next hle =>
      have hhead : (Nat.toDigits 10 (n / 10)).head? = some '0' := by
        rw [List.head?_append_of_ne_nil _ Nat.toDigits_ne_nil] at h
        exact h
      have hzero := ih (n / 10) (by omega) hhead
      omega

theorem whole_toDigits (n : ℕ) : ¬(Nat.toDigits 10 n = [] ∨
    ((Nat.toDigits 10 n).head? = some '0' ∧ Nat.toDigits 10 n ≠ ['0'])) := by
  rintro (h | ⟨hhead, hne⟩)
  · exact Nat.toDigits_ne_nil h
  · rw [head_toDigits hhead] at hne
    exact hne (Nat.toDigits_zero 10)

theorem digit_toDigits {n : ℕ} {c : Char} (h : c ∈ Nat.toDigits 10 n) : c.isDigit = true :=
  Nat.isDigit_of_mem_toDigits (by decide) (by decide) h

theorem takeWhile_toDigits (n : ℕ) : (Nat.toDigits 10 n).takeWhile Char.isDigit = Nat.toDigits 10 n :=
  List.takeWhile_eq_self_iff.2 fun _ hc => digit_toDigits hc

theorem dropWhile_toDigits (n : ℕ) : (Nat.toDigits 10 n).dropWhile Char.isDigit = [] :=
  List.dropWhile_eq_nil_iff.2 fun _ hc => digit_toDigits hc

theorem head_toDigits_ne (n : ℕ) (c : Char) (hc : c.isDigit = false) : (Nat.toDigits 10 n).head? ≠ some c := by
  intro h
  rw [digit_toDigits (List.mem_of_mem_head? h)] at hc
  cases hc

theorem toList_nat (n : ℕ) : (toString (n : ℤ)).toList = Nat.toDigits 10 n := Nat.toList_repr

theorem toList_negSucc (n : ℕ) : (toString (Int.negSucc n)).toList = '-' :: Nat.toDigits 10 (n + 1) := by
  have happend : toString (Int.negSucc n) = "-" ++ toString ((n + 1 : ℕ) : ℤ) := rfl
  rw [happend, String.toList_append, toList_nat]
  rfl

/-- The text of an integer is a number. -/
theorem scalar_int (n : ℤ) : scalar double (toString n).toList = some (.int n) := by
  cases n with
  | ofNat n =>
    have hword : ∀ c text, c.isDigit = false → Nat.toDigits 10 n ≠ c :: text := fun c text hc h =>
      head_toDigits_ne n c hc (by rw [h]; rfl)
    rw [Int.ofNat_eq_natCast, toList_nat, scalar, if_neg (hword _ _ rfl), if_neg (hword _ _ rfl),
      if_neg (hword _ _ rfl), number]
    simp only [head_toDigits_ne n '-' rfl, if_false, takeWhile_toDigits, dropWhile_toDigits, if_neg (whole_toDigits n),
      if_true, Nat.ofDigitChars_ten_toDigits]
  | negSucc n =>
    have hword : ∀ c text, c ≠ '-' → '-' :: Nat.toDigits 10 (n + 1) ≠ c :: text := fun c text hc h =>
      hc (List.cons.inj h).1.symm
    rw [toList_negSucc, scalar, if_neg (hword _ _ (by decide)), if_neg (hword _ _ (by decide)),
      if_neg (hword _ _ (by decide)), number]
    simp only [List.head?_cons, if_true, List.tail_cons, takeWhile_toDigits, dropWhile_toDigits,
      if_neg (whole_toDigits (n + 1)), Nat.ofDigitChars_ten_toDigits]
    rfl

theorem chars_int (n : ℤ) : ∀ c ∈ (toString n).toList, Numeral c := by
  intro c hc
  cases n with
  | ofNat n =>
    rw [Int.ofNat_eq_natCast, toList_nat] at hc
    exact .inl (digit_toDigits hc)
  | negSucc n =>
    rw [toList_negSucc] at hc
    exact (List.mem_cons.1 hc).elim (fun heq => .inr (by rw [heq]; decide)) fun hc => .inl (digit_toDigits hc)

end JsonText
