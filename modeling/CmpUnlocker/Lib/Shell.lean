import Mathlib.Logic.Function.Basic
import CmpUnlocker.Lib.Trace

/-!
# Shell scripts

A script is a program that exits with a status by `throw`.  Its requests are the commands it runs and the accesses to
its global variables `V`.  The commands that change neither files nor variables form a language of their own (`Tool`),
so that a routine written in it is known to leave the world as it is (`tool_meets`).

A signal that arrives while a command runs, or between two commands, is taken when the command has ended (`taken`):
the handlers of the scripts here exit with `128` and the number of the signal.  A command under `errexit` is `must`,
one in a condition `check`, a command substitution in an assignment `output`, and one behind `|| true` `capture`.
-/

namespace Shell

open Interaction

/-! ### Requests -/

abbrev Content : Type := List UInt8

inductive Signal
  | hup
  | int
  | term
  deriving DecidableEq, Repr

def Signal.status : Signal → Nat
  | hup => 129
  | int => 130
  | term => 143

/-- The status of a command, and what it printed as `$(…)` substitutes it. -/
structure Result where
  status : Nat
  out : String
  deriving DecidableEq, Repr

/-- Commands that change neither files nor variables. -/
inductive Tool
  | signal
  | exec (argv : List String)
  | isFile (path : String)
  | isLink (path : String)
  | isDir (path : String)
  | isReadable (path : String)
  | readText (path : String)
  | writeText (path text : String)
  | resolve (path : String)
  | digest (path : String)
  | tempDir (template : String)
  | source (path : String)

@[reducible] def Tool.Answer : Tool → Type
  | .signal => Option Signal
  | .exec _ => Result
  | .isFile _ | .isLink _ | .isDir _ | .isReadable _ => Bool
  | .readText _ | .resolve _ | .digest _ | .tempDir _ => Option String
  | .writeText _ _ => Nat
  | .source _ => Option (String → Option String)

inductive Op (V : Type)
  | tool (t : Tool)
  | get
  | update (f : V → V)
  | copy (argv : List String) (source target : String)
  | removeTree (path : String)

@[reducible] def Op.Answer {V : Type} : Op V → Type
  | .tool t => t.Answer
  | .get => V
  | .update _ => Unit
  | .copy _ _ _ | .removeTree _ => Nat

/-- A routine runs tools only. -/
abbrev Routine (α : Type) : Type := Prog Tool Tool.Answer Nat α

abbrev Script (V α : Type) : Type := Prog (Op V) Op.Answer Nat α

section

variable {V α : Type}

/-! ### Commands -/

def call (t : Tool) : Routine t.Answer := Prog.request t

/-- Take a signal that has arrived. -/
def taken : Routine Unit := do
  match ← call .signal with
  | none => return ()
  | some s => throw s.status

def sh (t : Tool) : Routine t.Answer := do
  let r ← call t
  taken
  return r

def ensure (status : Nat) : Routine Unit := if status = 0 then return () else throw status

def must (argv : List String) : Routine Unit := do
  let r ← sh (.exec argv)
  ensure r.status

def check (argv : List String) : Routine Bool := do
  let r ← sh (.exec argv)
  return r.status == 0

def output (argv : List String) : Routine String := do
  let r ← sh (.exec argv)
  ensure r.status
  return r.out

def capture (argv : List String) : Routine String := do
  let r ← sh (.exec argv)
  return r.out

def writes (path text : String) : Routine Unit := do
  let status ← sh (.writeText path text)
  ensure status

/-- Run a routine as part of a script. -/
def lift (p : Routine α) : Script V α := p.interp fun t => Prog.request (.tool t)

instance : MonadLift Routine (Script V) := ⟨lift⟩

def vars : Script V V := Prog.request (.get : Op V)

/-- An assignment. -/
def assign (f : V → V) : Script V Unit := do
  Prog.request (Op.update f)
  liftM taken

/-- The status of a copy of a file. -/
def copied (argv : List String) (source target : String) : Script V Nat := do
  let status ← Prog.request (.copy argv source target : Op V)
  liftM taken
  return status

def removed (path : String) : Script V Nat := do
  let status ← Prog.request (.removeTree path : Op V)
  liftM taken
  return status

end

/-! ### Files -/

/-- The regular files the script works with, by path; what `readlink -f` makes of a path; and the variables. -/
structure World (V : Type) where
  files : String → Option Content
  links : String → String
  vars : V

/-- A path below a directory. -/
def Under (dir path : String) : Prop := ∃ name, path = dir ++ "/" ++ name

/-- A new directory is empty; the files are changed by copies and removals only, and a failed copy may leave anything
in its target. -/
def env {V : Type} (hash : Content → String) : Env (Op V) Op.Answer (World V)
  | w, .tool (.isFile path), r, w' => w' = w ∧ r = (path ≠ "" && (w.files path).isSome)
  | w, .tool (.resolve path), r, w' => w' = w ∧ (r = none ∨ r = some (w.links path))
  | w, .tool (.digest path), r, w' => w' = w ∧ ∀ d, r = some d → ∃ content, w.files path = some content ∧
    d = hash content
  | w, .tool (.tempDir _), r, w' => w' = w ∧ ∀ dir, r = some dir → dir ≠ "" ∧ ∀ path, Under dir path →
    w.files path = none
  | w, .tool _, _, w' => w' = w
  | w, .get, r, w' => r = w.vars ∧ w' = w
  | w, .update f, _, w' => w' = { w with vars := f w.vars }
  | w, .copy _ source target, status, w' =>
    (∃ content, w' = { w with files := Function.update w.files target content }) ∧
      (status = 0 → (w.files source).isSome ∧ w' = { w with files := Function.update w.files target (w.files source) })
  | w, .removeTree dir, _, w' => ∃ files, w' = { w with files := files } ∧ ∀ path, ¬ Under dir path →
    files path = w.files path

/-! ### Rules -/

/-- Nothing is asked of the requests of a script. -/
def anyStep {V : Type} : Env (Op V) Op.Answer (World V) := fun _ _ _ _ => True

section

variable {V α : Type} {hash : Content → String} {E : Env (Op V) Op.Answer (World V)}

theorem lift_bind {β : Type} (p : Routine α) (f : α → Routine β) :
    (liftM (p.bind f) : Script V β) = (liftM p : Script V α).bind fun a => liftM (f a) :=
  Prog.interp_bind p f

theorem lift_ite {q : Prop} [Decidable q] (p₁ p₂ : Routine α) :
    (liftM (if q then p₁ else p₂) : Script V α) = if q then liftM p₁ else liftM p₂ := by
  split <;> rfl

theorem env_tool {w w' : World V} {t : Tool} {r : t.Answer} (h : env hash w (.tool t) r w') : w' = w := by
  cases t <;> first | exact h | exact h.1

variable (hE : ∀ w o r w', E w o r w' → env hash w o r w')

include hE

/-- A routine leaves the world as it is. -/
theorem lift_meets (p : Routine α) {w : World V} {Q : α → World V → Prop} {X : Nat → World V → Prop} (hQ : ∀ a, Q a w)
    (hX : ∀ status, X status w) : Prog.Meets E anyStep Q X (liftM p : Script V α) w := by
  have hkeep : Prog.Meets E anyStep (fun _ w' => w' = w) (fun _ w' => w' = w) (liftM p : Script V α) w := by
    refine Prog.interp_meets (I := fun w' => w' = w) (fun t w₁ hw₁ => ?_) p rfl
    intro r w₂ hr
    exact ⟨trivial, (env_tool (hE _ _ _ _ hr)).trans hw₁⟩
  refine hkeep.imp (fun a w' hw' => ?_) fun status w' hw' => ?_
  · rw [hw']
    exact hQ a
  · rw [hw']
    exact hX status

/-- A signal is taken only where the environment delivers one. -/
theorem taken_meets {w : World V} {Q : Unit → World V → Prop} {X : Nat → World V → Prop} (hQ : Q () w)
    (hX : ∀ s : Signal, E w (.tool .signal) (some s) w → X s.status w) :
    Prog.Meets E anyStep Q X (liftM taken : Script V Unit) w := by
  intro r w' hr
  obtain rfl : w' = w := env_tool (hE _ _ _ _ hr)
  refine ⟨trivial, ?_⟩
  cases r with
  | none => exact hQ
  | some s => exact hX s hr

theorem sh_meets {t : Tool} {w : World V} {Q : t.Answer → World V → Prop} {X : Nat → World V → Prop}
    (hQ : ∀ r, E w (.tool t) r w → Q r w) (hX : ∀ s : Signal, E w (.tool .signal) (some s) w → X s.status w) :
    Prog.Meets E anyStep Q X (liftM (sh t) : Script V t.Answer) w := by
  intro r w' hr
  obtain rfl : w' = w := env_tool (hE _ _ _ _ hr)
  refine ⟨trivial, fun r' w'' hr' => ?_⟩
  obtain rfl : w'' = w' := env_tool (hE _ _ _ _ hr')
  refine ⟨trivial, ?_⟩
  cases r' with
  | none => exact hQ r hr
  | some s => exact hX s hr'

theorem vars_meets {w : World V} {Q : V → World V → Prop} {X : Nat → World V → Prop} (hQ : Q w.vars w) :
    Prog.Meets E anyStep Q X (vars : Script V V) w := by
  intro r w' hr
  obtain ⟨rfl, rfl⟩ := hE _ _ _ _ hr
  exact ⟨trivial, hQ⟩

theorem assign_meets {f : V → V} {w : World V} {Q : Unit → World V → Prop} {X : Nat → World V → Prop}
    (hQ : Q () { w with vars := f w.vars })
    (hX : ∀ s : Signal, E { w with vars := f w.vars } (.tool .signal) (some s) { w with vars := f w.vars } →
      X s.status { w with vars := f w.vars }) :
    Prog.Meets E anyStep Q X (assign f : Script V Unit) w := by
  intro r w' hr
  obtain rfl := hE _ _ _ _ hr
  exact ⟨trivial, taken_meets hE hQ hX⟩

theorem copied_meets {argv : List String} {source target : String} {w : World V} {Q : Nat → World V → Prop}
    {X : Nat → World V → Prop}
    (h : ∀ status w', E w (.copy argv source target) status w' →
      Q status w' ∧ ∀ s : Signal, E w' (.tool .signal) (some s) w' → X s.status w') :
    Prog.Meets E anyStep Q X (copied argv source target : Script V Nat) w := by
  intro status w' hr
  obtain ⟨hQ, hX⟩ := h status w' hr
  refine ⟨trivial, ?_⟩
  show Prog.Meets E anyStep Q X ((liftM taken : Script V Unit).bind fun _ => .ret status) w'
  exact Prog.meets_bind.2 (taken_meets hE hQ hX)

theorem removed_meets {path : String} {w : World V} {Q : Nat → World V → Prop} {X : Nat → World V → Prop}
    (h : ∀ status w', E w (.removeTree path) status w' →
      Q status w' ∧ ∀ s : Signal, E w' (.tool .signal) (some s) w' → X s.status w') :
    Prog.Meets E anyStep Q X (removed path : Script V Nat) w := by
  intro status w' hr
  obtain ⟨hQ, hX⟩ := h status w' hr
  refine ⟨trivial, ?_⟩
  show Prog.Meets E anyStep Q X ((liftM taken : Script V Unit).bind fun _ => .ret status) w'
  exact Prog.meets_bind.2 (taken_meets hE hQ hX)

end

/-! ### Parts of runs -/

section

variable {V α β : Type}

/-- A run of a routine in a script is a run of the routine. -/
theorem lift_plays {p : Routine α} {s : List (Event Op.Answer)} {a : α}
    (h : Prog.Plays (liftM p : Script V α) s (.ret a)) :
    ∃ s', Prog.Plays p s' (.ret a) ∧ ∀ e ∈ s', (⟨.tool e.1, e.2⟩ : @Event (Op V) Op.Answer) ∈ s := by
  induction p generalizing s with
  | ret b =>
    obtain ⟨-, hb⟩ := Prog.plays_ret.1 h
    cases hb
    exact ⟨[], .done _, by simp⟩
  | throw e =>
    obtain ⟨-, he⟩ := Prog.plays_throw.1 h
    cases he
  | call t k ih =>
    obtain ⟨r, s', rfl, hk⟩ := Prog.plays_call_ret.1 h
    obtain ⟨s'', hs'', hevents⟩ := ih r hk
    refine ⟨⟨t, r⟩ :: s'', .answer hs'', fun e he => ?_⟩
    rcases List.mem_cons.1 he with rfl | he
    · exact List.mem_cons_self
    · exact List.mem_cons_of_mem _ (hevents e he)

theorem lift_plays_bind {p : Routine α} {f : α → Routine β} {s : List (Event Op.Answer)} {b : β}
    (h : Prog.Plays (liftM (p >>= f) : Script V β) s (.ret b)) : ∃ s₁ s₂ a, s = s₁ ++ s₂ ∧
      Prog.Plays (liftM p : Script V α) s₁ (.ret a) ∧ Prog.Plays (liftM (f a) : Script V β) s₂ (.ret b) := by
  rw [Prog.bind_eq, lift_bind] at h
  exact Prog.plays_bind_ret.1 h

/-- The output of a command in a routine is in its trace. -/
theorem capture_plays {argv : List String} {t : List (Event Tool.Answer)} {out : String}
    (h : Prog.Plays (capture argv) t (.ret out)) : ∃ r, ⟨.exec argv, r⟩ ∈ t ∧ Result.out r = out := by
  obtain ⟨t₁, t₂, r, rfl, hsh, hret⟩ := Prog.plays_bind_ret.1 h
  obtain ⟨-, hout⟩ := Prog.plays_ret.1 hret
  obtain ⟨r', t₃, rfl, hrest⟩ := Prog.plays_call_ret.1 hsh
  have htaken : Prog.Plays (taken.bind fun _ => .ret r') t₃ (.ret r) := hrest
  obtain ⟨t₄, t₅, _, rfl, -, hr⟩ := Prog.plays_bind_ret.1 htaken
  obtain ⟨-, hr⟩ := Prog.plays_ret.1 hr
  cases hr
  cases hout
  exact ⟨r, by simp, rfl⟩

/-- A command that has ended begins with its event. -/
theorem sh_plays {t : Tool} {s : List (Event Op.Answer)} {r : t.Answer}
    (h : Prog.Plays (liftM (sh t) : Script V t.Answer) s (.ret r)) : ∃ s', s = ⟨.tool t, r⟩ :: s' := by
  obtain ⟨r', s', rfl, hrest⟩ := Prog.plays_call_ret.1 h
  obtain ⟨s₁, s₂, _, -, -, hret⟩ := lift_plays_bind (p := taken) (f := fun _ => pure r') hrest
  obtain ⟨-, hr⟩ := Prog.plays_ret.1 hret
  cases hr
  exact ⟨_, rfl⟩

theorem check_plays {argv : List String} {s : List (Event Op.Answer)}
    (h : Prog.Plays (liftM (check argv) : Script V Bool) s (.ret true)) :
    ∃ r s', s = ⟨.tool (.exec argv), r⟩ :: s' ∧ Result.status r = 0 := by
  obtain ⟨s₁, s₂, r, rfl, hsh, hret⟩ := lift_plays_bind h
  obtain ⟨s', rfl⟩ := sh_plays hsh
  obtain ⟨-, hr⟩ := Prog.plays_ret.1 hret
  simp only [Prog.ret.injEq, Bool.true_eq, beq_iff_eq] at hr
  exact ⟨r, s' ++ s₂, rfl, hr⟩

end

/-! ### Bounds -/

section

variable {V α : Type} {A : Tool → Prop} {B : Nat → Prop}

/-- Statuses of failures. -/
theorem ensure_within (status : Nat) : Prog.Within A (· ≠ 0) (ensure status) :=
  .ite (fun _ => trivial) fun h => h

variable (hsignal : A .signal)

include hsignal

theorem taken_within : Prog.Within A (· ≠ 0) taken := by
  refine ⟨hsignal, fun r => ?_⟩
  cases r with
  | none => trivial
  | some s =>
    show s.status ≠ 0
    cases s <;> decide

theorem sh_within {t : Tool} (ht : A t) : Prog.Within A (· ≠ 0) (sh t) :=
  ⟨ht, fun _ => (taken_within hsignal).bind fun _ => trivial⟩

theorem check_within {argv : List String} (h : A (.exec argv)) : Prog.Within A (· ≠ 0) (check argv) :=
  (sh_within hsignal h).bind fun _ => trivial

theorem capture_within {argv : List String} (h : A (.exec argv)) : Prog.Within A (· ≠ 0) (capture argv) :=
  (sh_within hsignal h).bind fun _ => trivial

theorem must_within {argv : List String} (h : A (.exec argv)) : Prog.Within A (· ≠ 0) (must argv) :=
  (sh_within hsignal h).bind fun r => ensure_within r.status

theorem output_within {argv : List String} (h : A (.exec argv)) : Prog.Within A (· ≠ 0) (output argv) :=
  (sh_within hsignal h).bind fun r => (ensure_within r.status).bind fun _ => trivial

theorem writes_within {path text : String} (h : A (.writeText path text)) : Prog.Within A (· ≠ 0) (writes path text) :=
  (sh_within hsignal h).bind fun status => ensure_within status

omit hsignal in
/-- A routine as part of a script. -/
theorem lift_within {A' : Op V → Prop} {p : Routine α} (hp : Prog.Within A B p) (hA : ∀ t, A t → A' (.tool t)) :
    Prog.Within A' B (liftM p : Script V α) :=
  hp.interp fun t ht => ⟨hA t ht, fun _ => trivial⟩

end

section

variable {V α : Type} {A : Op V → Prop}

theorem vars_within (h : A .get) : Prog.Within A (· ≠ 0) (vars : Script V V) := ⟨h, fun _ => trivial⟩

variable (hsignal : A (.tool .signal))

include hsignal

theorem lift_taken_within : Prog.Within A (· ≠ 0) (liftM taken : Script V Unit) :=
  lift_within (taken_within rfl) fun _ ht => ht ▸ hsignal

theorem assign_within {f : V → V} (h : A (.update f)) : Prog.Within A (· ≠ 0) (assign f) :=
  ⟨h, fun _ => lift_taken_within hsignal⟩

theorem copied_within {argv : List String} {source target : String} (h : A (.copy argv source target)) :
    Prog.Within A (· ≠ 0) (copied argv source target : Script V Nat) :=
  ⟨h, fun _ => (lift_taken_within hsignal).bind fun _ => trivial⟩

theorem removed_within {path : String} (h : A (.removeTree path)) :
    Prog.Within A (· ≠ 0) (removed path : Script V Nat) :=
  ⟨h, fun _ => (lift_taken_within hsignal).bind fun _ => trivial⟩

end

end Shell
