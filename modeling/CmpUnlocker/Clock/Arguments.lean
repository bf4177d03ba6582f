import Mathlib.Algebra.Group.Int.Defs
import CmpUnlocker.Lib.Text

/-!
# The arguments of the clock tool

`val`, `flag`, `req`, `flags`, `pi` and `pw` of `cmp100-nvml-clock-v2.rs`.  `flags` steps over the token behind a value
option; `val` and `flag` look at every token of the vector, the program name, the command and the values included.

`options` is what the arguments behind the command mean: the option names, each with its value.  Where `flags` and the
calls of `val` accept the arguments, no value begins with `--` (`accepted`), so the three readings agree: `val` finds
the value of its option (`Accepted.val`) and `flag` the options given (`Accepted.flag_iff`).
-/

namespace CmpUnlocker.Clock

/-- `starts_with("--")`. -/
def isOption (x : String) : Bool := "--".toList.isPrefixOf x.toList

/-- The loop of `val` over the tokens to come, with the value found so far. -/
def valFrom (flag : String) (r : Option String) : List String → Except String (Option String)
  | [] => .ok r
  | x :: rest =>
    if x = flag then
      if r.isSome then .error (flag ++ " specified more than once")
      else match rest.head? with
        | none => .error ("missing value after " ++ flag)
        | some v => if isOption v then .error ("missing value after " ++ flag) else valFrom flag (some v) rest
    else valFrom flag r rest

def val (a : List String) (flag : String) : Except String (Option String) := valFrom flag none a

def flag (a : List String) (x : String) : Bool := a.any (· == x)

/-- `ok_or_else`. -/
def required (e : String) : Option String → Except String String
  | some v => .ok v
  | none => .error e

def req (a : List String) : Except String String := (val a "--uuid").bind (required "missing --uuid GPU-...")

/-- The loop of `flags`; `need` says that the next token is the value of an option. -/
def flagsFrom (values bools : List String) (need : Bool) : List String → Except String Unit
  | [] => if need then .error "missing option value" else .ok ()
  | x :: rest =>
    if need then flagsFrom values bools false rest
    else if x ∈ values then flagsFrom values bools true rest
    else if x ∉ bools then .error ("unknown argument: " ++ x)
    else flagsFrom values bools false rest

def flags (a values bools : List String) : Except String Unit := flagsFrom values bools false (a.drop 2)

/-- `parse::<i64>()`. -/
def parseI64 (s : String) : Option Int :=
  let magnitude := match s.toList with
    | '-' :: cs => (Text.number 10 cs).map fun n => -(n : Int)
    | '+' :: cs => (Text.number 10 cs).map fun n => (n : Int)
    | cs => (Text.number 10 cs).map fun n => (n : Int)
  magnitude.filter fun x => -2 ^ 63 ≤ x ∧ x < 2 ^ 63

/-- `parse::<u64>()`, which takes no minus sign. -/
def parseU64 (s : String) : Option Nat :=
  let magnitude := match s.toList with
    | '+' :: cs => Text.number 10 cs
    | cs => Text.number 10 cs
  magnitude.filter fun w => w < 2 ^ 64

def pi (s f : String) : Except String Int :=
  match parseI64 s with
  | none => .error (f ++ " must be a base-10 integer")
  | some x => if -2 ^ 31 ≤ x ∧ x < 2 ^ 31 then .ok x else .error (f ++ " exceeds signed 32-bit range")

/-- The power limit in milliwatts. -/
def pw (s : String) : Except String Int :=
  match parseU64 s with
  | none => .error "--watts must be a non-negative base-10 integer"
  | some w =>
    if 2 ^ 64 ≤ w * 1000 then .error "--watts overflows milliwatts"
    else if w * 1000 < 2 ^ 32 then .ok (w * 1000 : Nat) else .error "--watts exceeds NVML range"

/-- `map(parse).transpose()` of the value of an option. -/
def parsed {α : Type} (a : List String) (f : String) (parse : String → Except String α) : Except String (Option α) :=
  (val a f).bind fun
    | none => .ok none
    | some x => (parse x).map some

/-! ### What the arguments mean -/

/-- The options of the arguments, those of `values` with the token behind them. -/
def options (values : List String) : List String → List (String × Option String)
  | [] => []
  | [x] => [(x, none)]
  | x :: v :: rest =>
    if x ∈ values then (x, some v) :: options values rest else (x, none) :: options values (v :: rest)

/-- The values given to an option. -/
def supplied (f : String) (opts : List (String × Option String)) : List String :=
  opts.filterMap fun o => if o.1 = f then o.2 else none

/-- Every option is known, a value option has a value that is no option, and none is given twice. -/
structure WellFormed (values bools : List String) (opts : List (String × Option String)) : Prop where
  known : ∀ o ∈ opts, o.1 ∈ values ∨ o.1 ∈ bools
  valued : ∀ o ∈ opts, o.1 ∈ values → ∃ v, o.2 = some v ∧ isOption v = false
  once : ∀ f ∈ values, (opts.map Prod.fst).count f ≤ 1

/-- The option is given. -/
def Given (x : String) (opts : List (String × Option String)) : Prop := x ∈ opts.map Prod.fst

/-! ### Accepted arguments -/

/-- Arguments that split into known options and values that are no options. -/
inductive Accepted (values bools : List String) : List String → List (String × Option String) → Prop
  | nil : Accepted values bools [] []
  | bool {x : String} {rest : List String} {opts : List (String × Option String)} (hnot : x ∉ values) (hx : x ∈ bools)
      (h : Accepted values bools rest opts) : Accepted values bools (x :: rest) ((x, none) :: opts)
  | value {x v : String} {rest : List String} {opts : List (String × Option String)} (hx : x ∈ values)
      (hv : isOption v = false) (h : Accepted values bools rest opts) :
      Accepted values bools (x :: v :: rest) ((x, some v) :: opts)

section

variable {values bools args : List String} {opts : List (String × Option String)} {f : String} {r r' : Option String}

private theorem valFrom_self {x v : String} {rest : List String} (h : valFrom x r (x :: v :: rest) = .ok r') :
    r = none ∧ isOption v = false ∧ valFrom x (some v) (v :: rest) = .ok r' := by
  rw [valFrom, if_pos rfl] at h
  cases r with
  | some _ => cases h
  | none =>
    simp only [Option.isSome_none, Bool.false_eq_true, if_false, List.head?_cons] at h
    by_cases hv : isOption v = true
    · rw [if_pos hv] at h
      cases h
    · rw [if_neg hv] at h
      exact ⟨rfl, by simpa using hv, h⟩

theorem valFrom_other {x : String} {rest : List String} (hne : x ≠ f) :
    valFrom f r (x :: rest) = valFrom f r rest := by
  rw [valFrom, if_neg hne]

/-- A token that is an option differs from one that is not. -/
theorem ne_of_isOption {x y : String} (hx : isOption x = false) (hy : isOption y = true) : x ≠ y := by
  rintro rfl
  rw [hx] at hy
  cases hy

theorem val_behind {program command : String} (hprogram : isOption program = false)
    (hcommand : isOption command = false) (hf : isOption f = true) :
    val (program :: command :: args) f = valFrom f none args := by
  unfold val
  rw [valFrom_other (ne_of_isOption hprogram hf), valFrom_other (ne_of_isOption hcommand hf)]

theorem flag_behind {program command x : String} (hprogram : isOption program = false)
    (hcommand : isOption command = false) (hx : isOption x = true) :
    flag (program :: command :: args) x = true ↔ x ∈ args := by
  have hprogram' := ne_of_isOption hprogram hx
  have hcommand' := ne_of_isOption hcommand hx
  simp [flag, hprogram', hcommand']

/-- What `flags` and all calls of `val` accept is accepted. -/
theorem accepted (hoption : ∀ f ∈ values, isOption f = true) (hflags : flagsFrom values bools false args = .ok ())
    (hval : ∀ f ∈ values, ∃ r r', valFrom f r args = .ok r') : Accepted values bools args (options values args) := by
  induction args using options.induct values with
  | case1 => exact .nil
  | case2 x =>
    simp only [flagsFrom, Bool.false_eq_true, if_false, if_true] at hflags
    by_cases hx : x ∈ values
    · rw [if_pos hx] at hflags
      cases hflags
    · rw [if_neg hx] at hflags
      by_cases hbool : x ∈ bools
      · exact .bool hx hbool .nil
      · rw [if_pos hbool] at hflags
        cases hflags
  | case3 x v rest hx ih =>
    obtain ⟨r, r', hr⟩ := hval x hx
    obtain ⟨-, hv, -⟩ := valFrom_self hr
    -- a value is no option, so no call of `val` stops at it
    have hskip : ∀ f ∈ values, ∃ r r', valFrom f r rest = .ok r' := by
      intro f hf
      obtain ⟨s, s', hs⟩ := hval f hf
      have hvf := ne_of_isOption hv (hoption f hf)
      by_cases hxf : x = f
      · subst hxf
        obtain ⟨-, -, hs⟩ := valFrom_self hs
        rw [valFrom_other hvf] at hs
        exact ⟨_, _, hs⟩
      · rw [valFrom_other hxf, valFrom_other hvf] at hs
        exact ⟨_, _, hs⟩
    have hrest : flagsFrom values bools false rest = .ok () := by
      simpa [flagsFrom, hx] using hflags
    rw [options, if_pos hx]
    exact .value hx hv (ih hrest hskip)
  | case4 x v rest hx ih =>
    rw [flagsFrom, if_neg (by decide), if_neg hx] at hflags
    by_cases hbool : x ∈ bools
    · rw [if_neg (by simpa using hbool)] at hflags
      have hskip : ∀ f ∈ values, ∃ r r', valFrom f r (v :: rest) = .ok r' := by
        intro f hf
        obtain ⟨s, s', hs⟩ := hval f hf
        have hxf : x ≠ f := by
          rintro rfl
          exact hx hf
        rw [valFrom_other hxf] at hs
        exact ⟨_, _, hs⟩
      rw [options, if_neg hx]
      exact .bool hx hbool (ih hflags hskip)
    · rw [if_pos hbool] at hflags
      cases hflags

namespace Accepted

theorem known (h : Accepted values bools args opts) : ∀ o ∈ opts, o.1 ∈ values ∨ o.1 ∈ bools := by
  induction h with
  | nil => simp
  | bool hnot hx h ih =>
    intro o ho
    rcases List.mem_cons.1 ho with rfl | ho
    · exact .inr hx
    · exact ih o ho
  | value hx hv h ih =>
    intro o ho
    rcases List.mem_cons.1 ho with rfl | ho
    · exact .inl hx
    · exact ih o ho

private theorem valued (h : Accepted values bools args opts) :
    ∀ o ∈ opts, o.1 ∈ values → ∃ v, o.2 = some v ∧ isOption v = false := by
  induction h with
  | nil => simp
  | bool hnot hx h ih =>
    intro o ho hvalue
    rcases List.mem_cons.1 ho with rfl | ho
    · exact absurd hvalue hnot
    · exact ih o ho hvalue
  | value hx hv h ih =>
    intro o ho hvalue
    rcases List.mem_cons.1 ho with rfl | ho
    · exact ⟨_, rfl, hv⟩
    · exact ih o ho hvalue

/-- `val` finds the values of its option. -/
theorem val (h : Accepted values bools args opts) (hoption : ∀ f ∈ values, isOption f = true) (hf : f ∈ values)
    (hr : valFrom f r args = .ok r') :
    r'.toList = r.toList ++ supplied f opts ∧ (supplied f opts).length = (opts.map Prod.fst).count f := by
  induction h generalizing r with
  | nil =>
    cases hr
    simp [supplied]
  | @bool x rest opts hnot hx h ih =>
    have hne : x ≠ f := by
      rintro rfl
      exact hnot hf
    rw [valFrom_other hne] at hr
    have hrest := ih hr
    simpa [supplied, hne] using hrest
  | @value x v rest opts hx hv h ih =>
    have hvf := ne_of_isOption hv (hoption f hf)
    by_cases hxf : x = f
    · subst hxf
      obtain ⟨rfl, -, hr⟩ := valFrom_self hr
      rw [valFrom_other hvf] at hr
      have hrest := ih hr
      simpa [supplied] using hrest
    · rw [valFrom_other hxf, valFrom_other hvf] at hr
      have hrest := ih hr
      simpa [supplied, hxf] using hrest

/-- A token that looks like an option is one. -/
theorem flag_iff (h : Accepted values bools args opts) {x : String} (hx : isOption x = true) :
    x ∈ args ↔ Given x opts := by
  unfold Given
  induction h with
  | nil => simp
  | bool hnot hbool h ih => simp [ih]
  | value hvalue hv h ih =>
    have hne := (ne_of_isOption hv hx).symm
    simp [ih, hne]

theorem wellFormed (h : Accepted values bools args opts) (hoption : ∀ f ∈ values, isOption f = true)
    (hval : ∀ f ∈ values, ∃ r, valFrom f none args = .ok r) : WellFormed values bools opts := by
  refine ⟨h.known, h.valued, fun f hf => ?_⟩
  obtain ⟨r, hr⟩ := hval f hf
  obtain ⟨hlist, hcount⟩ := h.val hoption hf hr
  rw [← hcount]
  have hlength := congrArg List.length hlist
  cases r with
  | none => simp at hlength ⊢; omega
  | some v => simp at hlength ⊢; omega

/-- The value of an option is the one `val` returns. -/
theorem given (h : Accepted values bools args opts) (hoption : ∀ f ∈ values, isOption f = true) (hf : f ∈ values)
    (hr : valFrom f none args = .ok r) {v : String} (hv : (f, some v) ∈ opts) : r = some v := by
  have hlist := (h.val hoption hf hr).1
  have hmem : v ∈ supplied f opts := List.mem_filterMap.2 ⟨_, hv, by simp⟩
  rw [Option.toList_none, List.nil_append] at hlist
  rw [← hlist] at hmem
  exact Option.mem_toList.1 hmem

end Accepted

/-- The argument vector says what the options behind the command say. -/
structure Understood (a values bools : List String) (opts : List (String × Option String)) : Prop where
  wellFormed : WellFormed values bools opts
  given : ∀ f ∈ values, ∀ r, val a f = .ok r → ∀ v, (f, some v) ∈ opts → r = some v
  flag : ∀ x, isOption x = true → (flag a x = true ↔ Given x opts)

theorem understood {program command : String} (hprogram : isOption program = false)
    (hcommand : isOption command = false) (hoption : ∀ f ∈ values, isOption f = true)
    (hflags : flags (program :: command :: args) values bools = .ok ())
    (hval : ∀ f ∈ values, ∃ r, val (program :: command :: args) f = .ok r) :
    Understood (program :: command :: args) values bools (options values args) := by
  have hbehind : ∀ f ∈ values, val (program :: command :: args) f = valFrom f none args :=
    fun f hf => val_behind hprogram hcommand (hoption f hf)
  have hargs : ∀ f ∈ values, ∃ r, valFrom f none args = .ok r := by
    intro f hf
    obtain ⟨r, hr⟩ := hval f hf
    exact ⟨r, (hbehind f hf).symm.trans hr⟩
  have h : Accepted values bools args (options values args) :=
    accepted hoption hflags fun f hf => ⟨none, hargs f hf⟩
  refine ⟨h.wellFormed hoption hargs, fun f hf r hr v hv => ?_, fun x hx => ?_⟩
  · rw [hbehind f hf] at hr
    exact h.given hoption hf hr hv
  · exact (flag_behind hprogram hcommand hx).trans (h.flag_iff hx)

theorem val_of_req {a : List String} {u : String} (h : req a = .ok u) : val a "--uuid" = .ok (some u) := by
  unfold req at h
  cases hval : val a "--uuid" with
  | error e =>
    rw [hval] at h
    cases h
  | ok r =>
    rw [hval] at h
    cases r with
    | none => cases h
    | some v =>
      cases h
      rfl

theorem val_of_parsed {α : Type} {a : List String} {parse : String → Except String α} {x : Option α}
    (h : parsed a f parse = .ok x) : ∃ r, val a f = .ok r ∧ ∀ v, r = some v → ∃ y, parse v = .ok y ∧ x = some y := by
  unfold parsed at h
  cases hval : val a f with
  | error e =>
    rw [hval] at h
    cases h
  | ok r =>
    rw [hval] at h
    refine ⟨r, rfl, ?_⟩
    rintro v rfl
    change (parse v).map some = .ok x at h
    cases hparse : parse v with
    | error e =>
      rw [hparse] at h
      cases h
    | ok y =>
      rw [hparse] at h
      cases h
      exact ⟨y, rfl, rfl⟩

namespace Understood

variable {a : List String}

theorem parsed {α : Type} {parse : String → Except String α} {x : Option α} (h : Understood a values bools opts)
    (hf : f ∈ values) (hx : CmpUnlocker.Clock.parsed a f parse = .ok x) {v : String} (hv : (f, some v) ∈ opts) :
    ∃ y, parse v = .ok y ∧ x = some y := by
  obtain ⟨r, hr, hparse⟩ := val_of_parsed hx
  exact hparse v (h.given f hf r hr v hv)

theorem unknown (h : Understood a values bools opts) (hf : f ∉ values) (hb : f ∉ bools) (v : Option String) :
    (f, v) ∉ opts := by
  intro hmem
  rcases h.wellFormed.known _ hmem with hknown | hknown
  · exact hf hknown
  · exact hb hknown

end Understood

end

example : options ["--uuid", "--watts"] ["--uuid", "GPU-0", "--apply", "--watts", "120"] =
    [("--uuid", some "GPU-0"), ("--apply", none), ("--watts", some "120")] := by decide

end CmpUnlocker.Clock
