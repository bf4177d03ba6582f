import CmpUnlocker.HbmBoot.Script

/-!
# The exit of the HBM profile

On a signal `cleanup` exits with the status of the last command, so a signal that arrives after a command that
succeeded ends the script with status 0 before anything is verified, and the GPU whose profile has just been applied is
not in the list of those to reset (`terminated_apply`).  Where signals spare these moments and the moments in `cleanup`
before the resets (`Spares`), status 0 means that every GPU was verified, and on every other exit a reset was issued for
every GPU whose profile was applied (`verified_or_reset`).
-/

namespace CmpUnlocker.HbmBoot

open Interaction Shell

/-- The requests of a run and their answers. -/
abbrev Trace : Type := List (@Event (Op Vars) Op.Answer)

/-! ### What is observed -/

def applyArgv (uuid : String) : List String := [tool, "profile", "--uuid", uuid, "--name", "hbm-877", "--apply"]

def resetArgv (c : Config) (uuid : String) : List String :=
  if c.powerLimitWatts ≠ "" then [tool, "reset", "--uuid", uuid, "--hbm", "--power", "--apply"]
  else [tool, "reset", "--uuid", uuid, "--hbm", "--apply"]

/-- The profile of the GPU was applied. -/
def Applied (uuid : String) (t : Trace) : Prop :=
  ∃ r, ⟨.tool (.exec (applyArgv uuid)), r⟩ ∈ t ∧ Result.status r = 0

/-- A reset of the GPU was issued. -/
def Reset (c : Config) (uuid : String) (t : Trace) : Prop := ∃ r, ⟨.tool (.exec (resetArgv c uuid)), r⟩ ∈ t

/-- Behind every profile that was applied a reset was issued. -/
def AllReset (c : Config) (t : Trace) : Prop :=
  ∀ t₁ uuid r t₂, t = t₁ ++ ⟨.tool (.exec (applyArgv uuid)), r⟩ :: t₂ → Result.status r = 0 → Reset c uuid t₂

/-- The telemetry shows the offset 138 and the clock 877 for the GPU. -/
def ShowsProfile (P : Python) (uuid telemetry : String) : Prop :=
  ∃ state, pickState P telemetry uuid = ⟨0, state⟩ ∧
    isNat (String.ofList ((Text.splitOn (· == ' ') state.toList).headD [])) 138 ∧
    isNat (String.ofList ((Text.splitOn (· == ' ') state.toList).getLast?.getD [])) 877

/-- The telemetry shows the configured power limit for the GPU. -/
def ShowsLimit (P : Python) (c : Config) (uuid telemetry : String) : Prop :=
  ∃ gpus gpu watts, P.gpus telemetry = some gpus ∧ gpu ∈ gpus ∧ gpu.uuid = some uuid ∧ gpu.limitW = some watts ∧
    P.float c.powerLimitWatts = some watts

/-- A telemetry of the run satisfies `A`. -/
def Observed (A : String → Prop) (t : Trace) : Prop :=
  ∃ r, ⟨.tool (.exec [tool, "telemetry", "--json"]), r⟩ ∈ t ∧ A (Result.out r)

/-- Every listed GPU was verified, and so was the power limit, if there is one. -/
structure Verified (P : Python) (c : Config) (t : Trace) : Prop where
  profile : ∀ uuid ∈ c.uuidList, Observed (ShowsProfile P uuid) t
  limits : c.powerLimitWatts ≠ "" → ∀ uuid ∈ c.uuidList, Observed (ShowsLimit P c uuid) t

/-! ### The environment -/

/-- Commands fail anywhere, and signals arrive anywhere before `SUCCESS=1`. -/
def bootEnv : Env (Op Vars) Op.Answer Vars
  | w, .get, r, w' => r = w ∧ w' = w
  | w, .update f, _, w' => w' = f w
  | w, .tool .signal, r, w' => w' = w ∧ (r ≠ none → w.success = false)
  | w, _, _, w' => w' = w

def isSignal (e : @Event (Op Vars) Op.Answer) : Bool :=
  match e.1 with
  | .tool .signal => true
  | _ => false

/-- The number of moments at which no signal was taken since the last command; the start counts as one. -/
def depth (t : Trace) : Nat := t.foldl (fun n e => if isSignal e then n + 1 else 0) 1

/-- The status of a command, of a test, or of an assignment. -/
def statusOf (e : @Event (Op Vars) Op.Answer) : Nat :=
  match e with
  | ⟨.tool (.exec _), r⟩ => Result.status r
  | ⟨.tool (.isFile _), file⟩ => if (file : Bool) then 0 else 1
  | ⟨.tool (.isLink _), link⟩ => if (link : Bool) then 1 else 0
  | _ => 0

/-- `cleanup` has cleared the traps and read the variables. -/
def InCleanup (t : Trace) : Prop := ∃ v : Vars, (⟨.get, v⟩ : @Event (Op Vars) Op.Answer) ∈ t

/-- Where a signal does no harm: on the main path after a command that has failed or when everything is verified,
between `rc=$?` and `trap -` when everything is verified, and behind that when all resets were issued. -/
def Spares (P : Python) (c : Config) (t : Trace) : Prop :=
  (InCleanup t → AllReset c t) ∧ (¬ InCleanup t →
    (depth t = 0 → (∃ e ∈ t.getLast?, statusOf e ≠ 0) ∨ Verified P c t) ∧
    (depth t = 1 → Verified P c t) ∧ (2 ≤ depth t → AllReset c t))

def passMessage : List String := ["printf", "%s\n", "cmp100-hbm-877: PASS"]

def resetMessage : List String :=
  ["printf", "%s\n", "cmp100-hbm-877: partial apply failed; resetting HBM on GPUs changed by this run"]

/-- Signals do no harm, the message before the resets is printed, and so is the one behind `SUCCESS=1` if there is a GPU
to reset. -/
def sparingEnv (P : Python) (c : Config) : Env (Op Vars) Op.Answer (Vars × Trace) := fun v o r v' =>
  logged bootEnv v o r v' ∧
    match o, r with
    | .tool .signal, some _ => Spares P c v.2
    | .tool (.exec argv), r =>
      (argv = passMessage → Result.status r = 0 ∨ AllReset c v.2) ∧ (argv = resetMessage → Result.status r = 0)
    | _, _ => True

section

variable {P : Python} {c : Config}

/-! ### Traces -/

private theorem depth_append (t : Trace) (e : @Event (Op Vars) Op.Answer) :
    depth (t ++ [e]) = if isSignal e then depth t + 1 else 0 := by
  simp [depth, List.foldl_append]

theorem Observed.append {A : String → Prop} {t : Trace} (h : Observed A t) (s : Trace) : Observed A (t ++ s) := by
  obtain ⟨r, hr, hA⟩ := h
  exact ⟨r, List.mem_append_left _ hr, hA⟩

theorem Verified.append {t : Trace} (h : Verified P c t) (s : Trace) : Verified P c (t ++ s) :=
  ⟨fun uuid huuid => (h.profile uuid huuid).append s, fun hwatts uuid huuid => (h.limits hwatts uuid huuid).append s⟩

private theorem split_append {α : Type} {t s t₁ t₂ : List α} {e : α} (h : t ++ s = t₁ ++ e :: t₂) :
    e ∈ s ∨ ∃ a, t = t₁ ++ e :: a ∧ t₂ = a ++ s := by
  rcases List.append_eq_append_iff.1 h with ⟨a, -, hs⟩ | ⟨a, ht, hs⟩
  · exact .inl (by rw [hs]; simp)
  · cases a with
    | nil => exact .inl (by rw [← (show e :: t₂ = s from hs)]; simp)
    | cons e' a =>
      obtain ⟨rfl, rfl⟩ := List.cons.inj hs
      exact .inr ⟨a, ht, rfl⟩

/-- Resets behind the last applied profile. -/
theorem allReset_append {t s : Trace} (hs : ∀ uuid, ¬ Applied uuid s) (h : ∀ uuid, Applied uuid t → Reset c uuid s) :
    AllReset c (t ++ s) := by
  intro t₁ uuid r t₂ heq hstatus
  rcases split_append heq with hmem | ⟨a, ht, rfl⟩
  · exact absurd ⟨r, hmem, hstatus⟩ (hs uuid)
  · obtain ⟨r', hr'⟩ := h uuid ⟨r, by rw [ht]; simp, hstatus⟩
    exact ⟨r', List.mem_append_right _ hr'⟩

theorem AllReset.append {t s : Trace} (h : AllReset c t) (hs : ∀ uuid, ¬ Applied uuid s) : AllReset c (t ++ s) := by
  intro t₁ uuid r t₂ heq hstatus
  rcases split_append heq with hmem | ⟨a, ht, rfl⟩
  · exact absurd ⟨r, hmem, hstatus⟩ (hs uuid)
  · obtain ⟨r', hr'⟩ := h t₁ uuid r a ht hstatus
    exact ⟨r', List.mem_append_left _ hr'⟩

private theorem Applied.of_append {uuid : String} {t s : Trace} (h : Applied uuid (t ++ s))
    (hs : ∀ uuid, ¬ Applied uuid s) :
    Applied uuid t := by
  obtain ⟨r, hr, hstatus⟩ := h
  rcases List.mem_append.1 hr with hr | hr
  · exact ⟨r, hr, hstatus⟩
  · exact absurd ⟨r, hr, hstatus⟩ (hs uuid)

private theorem not_applied_singleton {e : @Event (Op Vars) Op.Answer}
    (he : ∀ uuid, e.1 ≠ .tool (.exec (applyArgv uuid))) (uuid : String) : ¬ Applied uuid [e] := by
  rintro ⟨r, hr, -⟩
  rw [← List.mem_singleton.1 hr] at he
  exact he uuid rfl

/-! ### Commands of the main path -/

/-- Neither a signal nor the command that applies a profile. -/
def Ordinary (t : Tool) : Prop := t ≠ .signal ∧ ∀ uuid, t ≠ .exec (applyArgv uuid)

def toolStatus (t : Tool) (r : t.Answer) : Nat := statusOf ⟨.tool t, r⟩

/-- Ordinary commands, each with its moment for a signal, and exits with statuses of failures. -/
inductive Plain {α : Type} : Routine α → Prop
  | ret (a : α) : Plain (.ret a)
  | throw {status : Nat} (h : status ≠ 0) : Plain (.throw status)
  | command {t : Tool} {k : t.Answer → Routine α} (ht : Ordinary t) (h : ∀ r, Plain (k r)) :
    Plain (.call t fun r => (trapped (toolStatus t r)).bind fun _ => k r)

theorem Plain.bind {α β : Type} {p : Routine α} {f : α → Routine β} (hp : Plain p) (hf : ∀ a, Plain (f a)) :
    Plain (p.bind f) := by
  induction hp with
  | ret a => exact hf a
  | throw h => exact .throw h
  | command ht _ ih =>
    simp only [Prog.call_bind, Prog.bind_assoc]
    exact .command ht ih

theorem Plain.ite {α : Type} {q : Prop} [Decidable q] {p₁ p₂ : Routine α} (h₁ : Plain p₁) (h₂ : Plain p₂) :
    Plain (if q then p₁ else p₂) := by
  split
  · exact h₁
  · exact h₂

theorem Plain.forEach {β : Type} {body : β → Routine Unit} (hbody : ∀ x, Plain (body x)) (xs : List β) :
    Plain (Prog.forEach body xs) := by
  induction xs with
  | nil => exact .ret ()
  | cons x xs ih => exact (hbody x).bind fun _ => ih

/-- A command line that does not apply a profile. -/
def Other (argv : List String) : Prop := ∀ uuid, argv ≠ applyArgv uuid

private theorem plain_command {argv : List String} (h : Other argv) : Plain (command argv) :=
  .command ⟨fun ht => (nomatch ht), fun uuid ht => h uuid (Tool.exec.inj ht)⟩ fun r => .ret r

private theorem plain_ensure (status : Nat) : Plain (ensure status) := by
  unfold ensure
  split
  · exact .ret ()
  · next h => exact .throw h

private theorem plain_must {argv : List String} (h : Other argv) : Plain (must argv) :=
  (plain_command h).bind fun r => plain_ensure r.status

private theorem plain_check {argv : List String} (h : Other argv) : Plain (check argv) :=
  (plain_command h).bind fun _ => .ret _

private theorem plain_output {argv : List String} (h : Other argv) : Plain (output argv) :=
  (plain_command h).bind fun r => (plain_ensure r.status).bind fun _ => .ret _

private theorem plain_capture {argv : List String} (h : Other argv) : Plain (capture argv) :=
  (plain_command h).bind fun _ => .ret _

private theorem other_of_head {name : String} {args : List String} (h : name ≠ tool) : Other (name :: args) :=
  fun _ heq => h (List.cons.inj heq).1

private theorem plain_say (message : String) : Plain (say message) := plain_must (other_of_head (by decide))

private theorem plain_die {α : Type} (message : String) : Plain (die message : Routine α) :=
  (plain_say _).bind fun _ => .throw (by decide)

private theorem plain_require (condition : Bool) (message : String) : Plain (require condition message) :=
  .ite (.ret ()) (plain_die message)

private theorem plain_isRegular (path : String) : Plain (isRegular path) := by
  refine .command (t := .isFile path) ⟨fun ht => (nomatch ht), fun _ ht => (nomatch ht)⟩ fun file => ?_
  refine .ite ?_ (.ret false)
  exact .command (t := .isLink path) ⟨fun ht => (nomatch ht), fun _ ht => (nomatch ht)⟩ fun link => .ret _

private theorem plain_checkTool : Plain checkTool := by
  refine (plain_capture (other_of_head (by decide))).bind fun uid => ?_
  refine (plain_require _ _).bind fun _ => ?_
  refine (Plain.forEach (fun name => ?_) _).bind fun _ => ?_
  · exact (plain_check (other_of_head (by decide))).bind fun found => plain_require _ _
  refine (plain_isRegular tool).bind fun regular => ?_
  refine (plain_require _ _).bind fun _ => ?_
  refine (plain_capture (other_of_head (by decide))).bind fun owner => ?_
  refine (plain_require _ _).bind fun _ => ?_
  refine (plain_output (other_of_head (by decide))).bind fun mode => ?_
  split
  · exact .throw (by decide)
  · exact plain_require _ _

private theorem plain_takeLock : Plain takeLock := by
  refine (plain_must (other_of_head (by decide))).bind fun _ => ?_
  exact (plain_check (other_of_head (by decide))).bind fun taken => plain_require _ _

private theorem plain_checkSettings : Plain (checkSettings c) :=
  (plain_require _ _).bind fun _ => .ite (plain_die _) (plain_require _ _)

private theorem plain_checkUuids (seen : String) (uuids : List String) : Plain (checkUuids seen uuids) := by
  induction uuids generalizing seen with
  | nil => exact .ret ()
  | cons uuid rest ih =>
    refine (plain_check (other_of_head (by decide))).bind fun matched => ?_
    refine (plain_require _ _).bind fun _ => ?_
    refine (plain_require _ _).bind fun _ => ?_
    exact (plain_must (fun _ heq => by simp [applyArgv] at heq)).bind fun _ => ih _

private theorem plain_piped (telemetry : Result) (program : String → Result) (watts : String) :
    Plain (piped telemetry program ["python3", "-c", watts]) :=
  (plain_command (other_of_head (by decide))).bind fun _ => .ret _

private theorem plain_telemetry : Plain (command [tool, "telemetry", "--json"]) :=
  plain_command fun _ heq => by simp [applyArgv] at heq

private theorem plain_verifyProfile (uuid : String) : Plain (verifyProfile P uuid) := by
  refine Plain.bind (plain_telemetry.bind fun telemetry => plain_piped _ _ uuid) fun state => ?_
  refine (plain_require _ _).bind fun _ => ?_
  exact (plain_require _ _).bind fun _ => plain_say _

private theorem plain_verifyLimits (uuids : List String) : Plain (verifyLimits P c uuids) := by
  refine .ite ?_ (.ret ())
  refine plain_telemetry.bind fun telemetry => ?_
  refine (plain_piped _ _ _).bind fun limits => ?_
  exact (plain_require _ _).bind fun _ => plain_say _

/-! ### The main path -/

/-- What holds between two commands of the main path: the profiles applied are those in `APPLIED`. -/
structure Working (v : Vars × Trace) : Prop where
  before : ¬ InCleanup v.2
  depth_eq : depth v.2 = 1
  unset : v.1.success = false
  covered : ∀ uuid, Applied uuid v.2 → uuid ∈ v.1.applied

/-- What `cleanup` finds when the main path has left with status `rc`. -/
structure Left (P : Python) (c : Config) (rc : Nat) (v : Vars × Trace) : Prop where
  before : ¬ InCleanup v.2
  depth_eq : depth v.2 = 1
  verified : rc = 0 → Verified P c v.2
  covered : rc ≠ 0 → AllReset c v.2 ∨ v.1.success = false ∧ ∀ uuid, Applied uuid v.2 → uuid ∈ v.1.applied

abbrev MeetsS {α : Type} (P : Python) (c : Config) (Q : α → Vars × Trace → Prop) (X : Nat → Vars × Trace → Prop)
    (p : Script Vars α) (v : Vars × Trace) : Prop :=
  Prog.Meets (sparingEnv P c) unguarded Q X p v

theorem Working.left {rc : Nat} {v : Vars × Trace} (h : Working v) (hrc : rc ≠ 0) : Left P c rc v :=
  ⟨h.before, h.depth_eq, fun hzero => absurd hzero hrc, fun _ => .inr ⟨h.unset, h.covered⟩⟩

/-- A command and the signal behind it: the trace, and what is known if the signal is taken. -/
theorem signal_meets {t : Trace} {w : Vars} {e : @Event (Op Vars) Op.Answer} (hbefore : ¬ InCleanup t)
    (he : isSignal e = false) (hget : ∀ v : Vars, e ≠ ⟨.get, v⟩) {Q : Unit → Vars × Trace → Prop}
    {X : Nat → Vars × Trace → Prop}
    (hQ : ∀ t', ¬ InCleanup t' → depth t' = 1 → t' = t ++ [e] ++ [⟨.tool .signal, none⟩] → Q () (w, t'))
    (hX : ∀ t' s, ¬ InCleanup t' → depth t' = 1 → t' = t ++ [e] ++ [⟨.tool .signal, some s⟩] → w.success = false →
      (statusOf e = 0 → Verified P c t') → X (statusOf e) (w, t')) :
    MeetsS P c Q X (liftM (trapped (statusOf e))) (w, t ++ [e]) := by
  have hbefore' : ∀ s : Option Signal, ¬ InCleanup (t ++ [e] ++ [⟨.tool .signal, s⟩]) := by
    rintro s ⟨v, hv⟩
    simp only [List.append_assoc, List.mem_append, List.mem_singleton] at hv
    rcases hv with hv | hv | hv
    · exact hbefore ⟨v, hv⟩
    · exact hget v hv.symm
    · cases hv
  have hzero : depth (t ++ [e]) = 0 := by rw [depth_append, he]; rfl
  have hdepth : ∀ s : Option Signal, depth (t ++ [e] ++ [⟨.tool .signal, s⟩]) = 1 := by
    intro s
    rw [depth_append, hzero]
    rfl
  rintro s ⟨w', t'⟩ ⟨⟨⟨hw, hunset⟩, ht⟩, hspares⟩
  obtain rfl : w' = w := hw
  obtain rfl : t' = t ++ [e] ++ [⟨.tool .signal, s⟩] := ht
  refine ⟨trivial, ?_⟩
  cases s with
  | none => exact hQ _ (hbefore' none) (hdepth none) rfl
  | some s =>
    refine hX _ s (hbefore' _) (hdepth _) rfl (hunset (by simp)) fun hstatus => ?_
    have hopen : ¬ InCleanup (t ++ [e]) := by
      rintro ⟨v, hv⟩
      exact hbefore' none ⟨v, List.mem_append_left _ hv⟩
    rcases (hspares.2 hopen).1 hzero with ⟨e', he', hfailed⟩ | hverified
    · rw [List.getLast?_append] at he'
      simp only [List.getLast?_singleton, Option.some_or, Option.mem_def, Option.some.injEq] at he'
      subst he'
      exact absurd hstatus hfailed
    · exact hverified.append _

private theorem bootEnv_tool {w w' : Vars} {t : Tool} {r : t.Answer} (h : bootEnv w (.tool t) r w') : w' = w := by
  cases t <;> first | exact h | exact h.1

/-- Plain commands keep the variables. -/
theorem plain_meets {α : Type} {p : Routine α} (hp : Plain p) {v : Vars × Trace} (h : Working v) :
    MeetsS P c (fun _ v' => Working v' ∧ v'.1 = v.1) (Left P c) (liftM p) v := by
  induction hp generalizing v with
  | ret a => exact ⟨h, rfl⟩
  | throw hrc => exact h.left hrc
  | @command t k ht _ ih =>
    rintro r ⟨w', t'⟩ ⟨⟨hr, htrace⟩, -⟩
    obtain rfl : w' = v.1 := bootEnv_tool hr
    obtain rfl : t' = v.2 ++ [⟨.tool t, r⟩] := htrace
    refine ⟨trivial, ?_⟩
    show MeetsS P c _ _ (liftM ((trapped (toolStatus t r)).bind fun _ => k r)) _
    rw [lift_bind]
    have hsignal : isSignal ⟨.tool t, r⟩ = false := by
      cases t <;> first | rfl | exact absurd rfl ht.1
    have happlied : ∀ (s : Option Signal) (uuid : String),
        Applied uuid (v.2 ++ [⟨.tool t, r⟩] ++ [⟨.tool .signal, s⟩]) → uuid ∈ v.1.applied := by
      intro s uuid hmem
      have hlast := not_applied_singleton (e := ⟨.tool .signal, s⟩) fun uuid he => nomatch he
      refine h.covered uuid ((hmem.of_append hlast).of_append (not_applied_singleton fun uuid he => ?_))
      exact ht.2 uuid (Op.tool.inj he)
    refine Prog.meets_bind.2 (signal_meets h.before hsignal (fun _ he => nomatch he) (fun t' hbefore hdepth ht' => ?_)
      fun t' s hbefore hdepth ht' hunset hverified => ?_)
    · subst ht'
      exact ih r (v := (v.1, _)) ⟨hbefore, hdepth, h.unset, happlied none⟩
    · subst ht'
      exact ⟨hbefore, hdepth, hverified, fun _ => .inr ⟨hunset, happlied (some s)⟩⟩

private theorem must_eq (argv : List String) :
    must argv = .call (.exec argv) fun r => (trapped r.status).bind fun _ => ensure r.status := by
  simp only [must, command, call, Prog.bind_eq, Prog.request_bind, Prog.call_bind, Prog.bind_assoc, Prog.pure_eq,
    Prog.ret_bind]

private theorem plain_tune (uuid : String) :
    Plain (must [tool, "tune", "--uuid", uuid, "--watts", c.powerLimitWatts, "--apply"]) :=
  plain_must fun _ heq => by simp [applyArgv] at heq

/-- An assignment and the signal behind it. -/
theorem store_meets {f : Vars → Vars} {v : Vars × Trace} (hbefore : ¬ InCleanup v.2) {Q : Unit → Vars × Trace → Prop}
    {X : Nat → Vars × Trace → Prop}
    (hQ : ∀ t', ¬ InCleanup t' → depth t' = 1 → t' = v.2 ++ [⟨.update f, ()⟩] ++ [⟨.tool .signal, none⟩] →
      Q () (f v.1, t'))
    (hX : ∀ t' s, ¬ InCleanup t' → depth t' = 1 → t' = v.2 ++ [⟨.update f, ()⟩] ++ [⟨.tool .signal, some s⟩] →
      (f v.1).success = false → Verified P c t' → X 0 (f v.1, t')) :
    MeetsS P c Q X (store f) v := by
  rintro r ⟨w', t'⟩ ⟨⟨hr, htrace⟩, -⟩
  obtain rfl : w' = f v.1 := hr
  obtain rfl : t' = v.2 ++ [⟨.update f, r⟩] := htrace
  refine ⟨trivial, ?_⟩
  exact signal_meets (e := ⟨.update f, r⟩) hbefore rfl (fun _ he => nomatch he) hQ
    fun t' s hbefore' hdepth ht' hunset hverified => hX t' s hbefore' hdepth ht' hunset (hverified rfl)

/-- The profile is applied and the GPU is put on the list; a signal in between is one after a command that has
succeeded. -/
theorem applyProfile_meets (uuid : String) {v : Vars × Trace} (h : Working v) :
    MeetsS P c (fun _ v' => Working v') (Left P c) (applyProfile c uuid) v := by
  refine Prog.meets_seq.2 ?_
  show MeetsS P c _ _ (liftM (must (applyArgv uuid))) v
  rw [must_eq (applyArgv uuid)]
  rintro r ⟨w', t'⟩ ⟨⟨hr, htrace⟩, -⟩
  obtain rfl : w' = v.1 := hr
  obtain rfl : t' = v.2 ++ [⟨.tool (.exec (applyArgv uuid)), r⟩] := htrace
  refine ⟨trivial, ?_⟩
  show MeetsS P c _ _ (liftM ((trapped (Result.status r)).bind fun _ => ensure (Result.status r))) _
  rw [lift_bind]
  -- The GPU itself counts only if the command has succeeded.
  have happlied : ∀ (s : Option Signal) (uuid' : String),
      Applied uuid' (v.2 ++ [⟨.tool (.exec (applyArgv uuid)), r⟩] ++ [⟨.tool .signal, s⟩]) →
      uuid' ∈ v.1.applied ∨ Result.status r = 0 ∧ uuid' = uuid := by
    intro s uuid' hmem
    obtain ⟨r', hr', hstatus⟩ := hmem.of_append (not_applied_singleton fun uuid he => nomatch he)
    rcases List.mem_append.1 hr' with hr' | hr'
    · exact .inl (h.covered uuid' ⟨r', hr', hstatus⟩)
    · have hevent := List.mem_singleton.1 hr'
      simp only [applyArgv, Sigma.mk.injEq, Op.tool.injEq, Tool.exec.injEq, List.cons.injEq, and_true, true_and]
        at hevent
      obtain ⟨rfl, hr⟩ := hevent
      obtain rfl := eq_of_heq hr
      exact .inr ⟨hstatus, rfl⟩
  have hget : ∀ v' : Vars, (⟨.tool (.exec (applyArgv uuid)), r⟩ : @Event (Op Vars) Op.Answer) ≠ ⟨.get, v'⟩ :=
    fun _ he => nomatch he
  refine Prog.meets_bind.2 (signal_meets h.before rfl hget (fun t' hbefore hdepth ht' => ?_)
    fun t' s hbefore hdepth ht' hunset hverified => ?_)
  · unfold ensure
    by_cases hrc : Result.status r = 0
    · rw [if_pos hrc]
      refine Prog.meets_seq.2 (store_meets hbefore (fun t'' hbefore' hdepth' ht'' => ?_)
        fun t'' s hbefore' hdepth' ht'' _ hverified => ?_)
      · have hworking : Working ({ v.1 with applied := v.1.applied ++ [uuid] }, t'') := by
          refine ⟨hbefore', hdepth', h.unset, fun uuid' hmem => ?_⟩
          rw [ht'', ht'] at hmem
          have hsignal := not_applied_singleton (e := ⟨.tool .signal, none⟩) fun uuid he => nomatch he
          have hupdate := not_applied_singleton (e := ⟨.update fun w => { w with applied := w.applied ++ [uuid] }, ()⟩)
            fun uuid he => nomatch he
          have hmem' := (hmem.of_append hsignal).of_append hupdate
          rcases happlied none uuid' hmem' with hmem' | ⟨-, rfl⟩
          · exact List.mem_append_left _ hmem'
          · simp
        refine Prog.meets_when.2 ⟨fun _ => ?_, fun _ => hworking⟩
        exact (plain_meets (plain_tune uuid) hworking).imp (fun _ _ h => h.1) fun _ _ h => h
      · exact ⟨hbefore', hdepth', fun _ => hverified, fun hrc => absurd rfl hrc⟩
    · subst ht'
      rw [if_neg hrc]
      refine ⟨hbefore, hdepth, fun hzero => absurd hzero hrc, fun _ => .inr ⟨h.unset, fun uuid' hmem => ?_⟩⟩
      exact (happlied none uuid' hmem).resolve_right fun hzero => hrc hzero.1
  · subst ht'
    refine ⟨hbefore, hdepth, hverified, fun hrc => .inr ⟨hunset, fun uuid' hmem => ?_⟩⟩
    exact (happlied (some s) uuid' hmem).resolve_right fun hzero => hrc hzero.1

/-! ### Verification -/

private theorem command_plays {argv : List String} {s : Trace} {r : Result}
    (h : Prog.Plays (liftM (command argv) : Script Vars Result) s (.ret r)) :
    ∃ s', s = ⟨.tool (.exec argv), r⟩ :: s' := by
  obtain ⟨r', s', rfl, hrest⟩ := Prog.plays_call_ret.1 h
  obtain ⟨s₁, s₂, _, -, -, hret⟩ := lift_plays_bind (p := trapped (Result.status r')) (f := fun _ => pure r') hrest
  obtain ⟨-, hr⟩ := Prog.plays_ret.1 hret
  cases hr
  exact ⟨_, rfl⟩

/-- A pipe whose last program succeeds has run it on the output of the first. -/
theorem piped_plays {telemetry r : Result} {program : String → Result} {argv : List String} {s : Trace}
    (h : Prog.Plays (liftM (piped telemetry program argv) : Script Vars Result) s (.ret r)) (hr : r.status = 0) :
    program telemetry.out = r := by
  obtain ⟨s₁, s₂, ran, -, -, hret⟩ := lift_plays_bind h
  by_cases hran : ran.status = 0
  · rw [if_pos hran] at hret
    obtain ⟨-, heq⟩ := Prog.plays_ret.1 hret
    cases heq
    rfl
  · rw [if_neg hran] at hret
    obtain ⟨-, heq⟩ := Prog.plays_ret.1 hret
    cases heq
    exact absurd hr hran

theorem require_plays {condition : Bool} {message : String} {s : Trace}
    (h : Prog.Plays (liftM (require condition message) : Script Vars Unit) s (.ret ())) : condition = true := by
  unfold require at h
  by_cases hcondition : condition = true
  · exact hcondition
  · rw [if_neg hcondition] at h
    obtain ⟨s₁, s₂, _, -, -, hthrow⟩ := lift_plays_bind h
    obtain ⟨-, heq⟩ := Prog.plays_throw.1 hthrow
    cases heq

private theorem verifyProfile_plays {uuid : String} {s : Trace}
    (h : Prog.Plays (liftM (verifyProfile P uuid) : Script Vars Unit) s (.ret ())) :
    Observed (ShowsProfile P uuid) s := by
  obtain ⟨s₁, s₂, state, rfl, hread, hrest⟩ := lift_plays_bind h
  obtain ⟨s₃, s₄, _, -, hstatus, hrest⟩ := lift_plays_bind hrest
  obtain ⟨s₅, s₆, _, -, hvalues, -⟩ := lift_plays_bind hrest
  obtain ⟨s₇, s₈, telemetry, rfl, htelemetry, hpiped⟩ := lift_plays_bind hread
  obtain ⟨s₉, rfl⟩ := command_plays htelemetry
  have hzero : state.status = 0 := by simpa using require_plays hstatus
  have hpick : pickState P telemetry.out uuid = ⟨0, state.out⟩ := by
    rw [piped_plays hpiped hzero, ← hzero]
  have hshown := require_plays hvalues
  rw [Bool.and_eq_true] at hshown
  exact ⟨telemetry, by simp, state.out, hpick, hshown.1, hshown.2⟩

/-- The second Python program succeeds only if it has found the limit for every GPU. -/
theorem showsLimit_of_pickLimits {telemetry uuid : String} {uuids : List String}
    (h : (pickLimits P telemetry c.powerLimitWatts uuids).status = 0) (huuid : uuid ∈ uuids) :
    ShowsLimit P c uuid telemetry := by
  unfold pickLimits at h
  split at h
  · next watts gpus hwatts hgpus =>
    simp only at h
    split at h
    · cases h
    · split at h
      · next hall =>
        have hlimit := List.all_eq_true.1 hall uuid huuid
        rw [beq_iff_eq, Option.bind_eq_some_iff] at hlimit
        obtain ⟨gpu, hlast, hgpu⟩ := hlimit
        have hmem := List.mem_filter.1 (List.mem_of_getLast? hlast)
        refine ⟨gpus, gpu, watts, hgpus, (List.mem_filter.1 hmem.1).1, ?_, hgpu, hwatts⟩
        simpa using hmem.2
      · cases h
  · cases h

private theorem verifyLimits_plays {uuid : String} {s : Trace}
    (h : Prog.Plays (liftM (verifyLimits P c c.uuidList) : Script Vars Unit) s (.ret ()))
    (hwatts : c.powerLimitWatts ≠ "") (huuid : uuid ∈ c.uuidList) : Observed (ShowsLimit P c uuid) s := by
  unfold verifyLimits Prog.when at h
  rw [if_pos hwatts] at h
  obtain ⟨s₁, s₂, telemetry, rfl, htelemetry, hrest⟩ := lift_plays_bind h
  obtain ⟨s₃, s₄, limits, rfl, hpiped, hrest⟩ := lift_plays_bind hrest
  obtain ⟨s₅, s₆, _, -, hstatus, -⟩ := lift_plays_bind hrest
  obtain ⟨s₇, rfl⟩ := command_plays htelemetry
  have hzero : limits.status = 0 := by simpa using require_plays hstatus
  refine ⟨telemetry, by simp, showsLimit_of_pickLimits ?_ huuid⟩
  rw [piped_plays hpiped hzero, hzero]

/-- Plain commands keep the variables, and the trace grows by what they play. -/
theorem plain_played {α : Type} {p : Routine α} (hp : Plain p) {v : Vars × Trace} (h : Working v) :
    MeetsS P c (fun a v' => Working v' ∧ ∃ s, v'.2 = v.2 ++ s ∧ Prog.Plays (liftM p : Script Vars α) s (.ret a))
      (Left P c) (liftM p) v := by
  have hplayed := (Prog.played (E := bootEnv) (liftM p : Script Vars α) v).restrict (F := sparingEnv P c)
    fun _ _ _ _ hr => hr.1
  exact ((plain_meets hp h).and hplayed).imp (fun a v' h => ⟨h.1.1, h.2⟩) fun _ _ h => h.1

/-- The loop over the GPUs verifies each of them. -/
theorem verifyProfiles_meets {v : Vars × Trace} (h : Working v) :
    MeetsS P c (fun _ v' => Working v' ∧ ∀ uuid ∈ c.uuidList, Observed (ShowsProfile P uuid) v'.2) (Left P c)
      (Prog.forEach (fun uuid => liftM (verifyProfile P uuid)) c.uuidList) v := by
  let I (rest : List String) (v' : Vars × Trace) : Prop :=
    Working v' ∧ ∀ uuid ∈ c.uuidList, uuid ∈ rest ∨ Observed (ShowsProfile P uuid) v'.2
  have hloop : MeetsS P c (fun _ v' => I [] v') (Left P c)
      (Prog.forEach (fun uuid => liftM (verifyProfile P uuid)) c.uuidList) v := by
    refine Prog.meets_forEach (I := I) (fun uuid rest v' hI => ?_) ⟨h, fun uuid huuid => .inl huuid⟩
    refine (plain_played (plain_verifyProfile uuid) hI.1).imp (fun _ v'' hv'' => ?_) fun _ _ hleft => hleft
    obtain ⟨hworking, s, hs, hplays⟩ := hv''
    refine ⟨hworking, fun uuid' huuid' => ?_⟩
    rw [hs]
    rcases hI.2 uuid' huuid' with hrest | hshown
    · rcases List.mem_cons.1 hrest with rfl | hrest
      · obtain ⟨r, hr, hshown⟩ := verifyProfile_plays hplays
        exact .inr ⟨r, List.mem_append_right _ hr, hshown⟩
      · exact .inl hrest
    · exact .inr (hshown.append s)
  refine hloop.imp (fun _ v' hv' => ⟨hv'.1, fun uuid huuid => ?_⟩) fun _ _ hleft => hleft
  exact (hv'.2 uuid huuid).resolve_left fun hnil => nomatch hnil

private theorem verifyLimits_meets {v : Vars × Trace} (h : Working v)
    (hprofile : ∀ uuid ∈ c.uuidList, Observed (ShowsProfile P uuid) v.2) :
    MeetsS P c (fun _ v' => Working v' ∧ Verified P c v'.2) (Left P c) (liftM (verifyLimits P c c.uuidList)) v := by
  refine (plain_played (plain_verifyLimits c.uuidList) h).imp (fun _ v' hv' => ?_) fun _ _ hleft => hleft
  obtain ⟨hworking, s, hs, hplays⟩ := hv'
  refine ⟨hworking, ⟨fun uuid huuid => ?_, fun hwatts uuid huuid => ?_⟩⟩
  · rw [hs]
    exact (hprofile uuid huuid).append s
  · rw [hs]
    obtain ⟨r, hr, hlimits⟩ := verifyLimits_plays hplays hwatts huuid
    exact ⟨r, List.mem_append_right _ hr, hlimits⟩

/-- Behind `SUCCESS=1` no signal arrives, and the message fails only where there is nothing to reset. -/
theorem pass_meets {v : Vars × Trace} (hbefore : ¬ InCleanup v.2) (hsuccess : v.1.success = true)
    (hverified : Verified P c v.2) :
    MeetsS P c (fun _ => Left P c 0) (Left P c) (liftM (say "PASS")) v := by
  unfold say
  rw [must_eq]
  rintro r ⟨w', t'⟩ ⟨⟨hr, htrace⟩, hprinted⟩
  obtain rfl : w' = v.1 := hr
  obtain rfl : t' = v.2 ++ [⟨.tool (.exec passMessage), r⟩] := htrace
  refine ⟨trivial, ?_⟩
  show MeetsS P c _ _ (liftM ((trapped (Result.status r)).bind fun _ => ensure (Result.status r))) _
  rw [lift_bind]
  have hget : ∀ v' : Vars, (⟨.tool (.exec passMessage), r⟩ : @Event (Op Vars) Op.Answer) ≠ ⟨.get, v'⟩ :=
    fun _ he => nomatch he
  have hother : ∀ uuid, ¬ Applied uuid ([⟨.tool (.exec passMessage), r⟩] ++ [⟨.tool .signal, none⟩]) := by
    intro uuid hmem
    have hmessage := hmem.of_append (not_applied_singleton fun uuid he => nomatch he)
    refine not_applied_singleton (fun uuid he => ?_) uuid hmessage
    exact other_of_head (by decide) uuid (Tool.exec.inj (Op.tool.inj he))
  refine Prog.meets_bind.2 (signal_meets hbefore rfl hget (fun t' hbefore' hdepth ht' => ?_)
    fun t' s _ _ _ hunset _ => absurd (hsuccess.symm.trans hunset) (by decide))
  have hverified' : Verified P c t' := by
    rw [ht', List.append_assoc]
    exact hverified.append _
  unfold ensure
  by_cases hrc : Result.status r = 0
  · rw [if_pos hrc]
    exact ⟨hbefore', hdepth, fun _ => hverified', fun hne => absurd rfl hne⟩
  · rw [if_neg hrc]
    refine ⟨hbefore', hdepth, fun hzero => absurd hzero hrc, fun _ => .inl ?_⟩
    rw [ht', List.append_assoc]
    exact ((hprinted.1 rfl).resolve_left hrc).append hother

theorem main_meets {v : Vars × Trace} (h : Working v) : MeetsS P c (fun _ => Left P c 0) (Left P c) (main P c) v := by
  -- A part of the main path that keeps `Working`.
  have hthen : ∀ {p : Routine Unit} {k : Script Vars Unit} {v : Vars × Trace}, Plain p → Working v →
      (∀ v', Working v' → MeetsS P c (fun _ => Left P c 0) (Left P c) k v') →
      MeetsS P c (fun _ => Left P c 0) (Left P c) ((liftM p : Script Vars Unit) >>= fun _ => k) v := by
    intro p k v hp hv hk
    exact Prog.meets_seq.2 ((plain_meets hp hv).imp (fun _ v' hv' => hk v' hv'.1) fun _ _ hleft => hleft)
  refine hthen plain_checkTool h fun v h => ?_
  refine hthen plain_takeLock h fun v h => ?_
  refine hthen plain_checkSettings h fun v h => ?_
  refine hthen (plain_checkUuids _ _) h fun v h => ?_
  refine Prog.meets_seq.2
    ((Prog.meets_forEach (I := fun _ => Working) (fun uuid _ v hv => applyProfile_meets uuid hv) h).imp
    (fun _ v h => ?_) fun _ _ hleft => hleft)
  refine Prog.meets_seq.2 ((verifyProfiles_meets h).imp (fun _ v hv => ?_) fun _ _ hleft => hleft)
  refine Prog.meets_seq.2 ((verifyLimits_meets hv.1 hv.2).imp (fun _ v hv => ?_) fun _ _ hleft => hleft)
  refine Prog.meets_seq.2 (store_meets hv.1.before (fun t' hbefore hdepth ht' => ?_)
    fun t' s _ _ _ hunset _ => nomatch hunset)
  refine pass_meets hbefore rfl ?_
  rw [ht', List.append_assoc]
  exact hv.2.append _

/-! ### Cleanup -/

/-- How a signal ends `cleanup`. -/
def Killed (c : Config) (rc : Nat) (v : Vars × Trace) : Prop := rc ≠ 0 ∧ AllReset c v.2

/-- A signal in `cleanup` where all resets have been issued. -/
theorem killed_meets {v : Vars × Trace} (h : AllReset c v.2 ∨ InCleanup v.2 ∨ 2 ≤ depth v.2)
    {Q : Unit → Vars × Trace → Prop}
    (hQ : Q () (v.1, v.2 ++ [⟨.tool .signal, none⟩])) : MeetsS P c Q (Killed c) (liftM taken) v := by
  rintro s ⟨w', t'⟩ ⟨⟨⟨hw, -⟩, ht⟩, hspares⟩
  obtain rfl : w' = v.1 := hw
  obtain rfl : t' = v.2 ++ [⟨.tool .signal, s⟩] := ht
  refine ⟨trivial, ?_⟩
  cases s with
  | none => exact hQ
  | some s =>
    have hreset : AllReset c v.2 := by
      rcases h with hreset | hclean | hdepth
      · exact hreset
      · exact hspares.1 hclean
      · by_cases hclean : InCleanup v.2
        · exact hspares.1 hclean
        · exact (hspares.2 hclean).2.2 hdepth
    refine ⟨by cases s <;> decide, hreset.append (not_applied_singleton fun uuid he => nomatch he)⟩

/-- A command of `cleanup`. -/
theorem sh_meets {argv : List String} {v : Vars × Trace} (h : InCleanup v.2) {Q : Result → Vars × Trace → Prop}
    (hQ : ∀ r : Result, (argv = resetMessage → r.status = 0) →
      Q r (v.1, v.2 ++ [⟨.tool (.exec argv), r⟩] ++ [⟨.tool .signal, none⟩])) :
    MeetsS P c Q (Killed c) (liftM (sh (.exec argv))) v := by
  rintro r ⟨w', t'⟩ ⟨⟨hw, ht⟩, hprinted⟩
  obtain rfl : w' = v.1 := hw
  obtain rfl : t' = v.2 ++ [⟨.tool (.exec argv), r⟩] := ht
  refine ⟨trivial, ?_⟩
  have hclean : InCleanup (v.2 ++ [⟨.tool (.exec argv), r⟩]) := by
    obtain ⟨w, hw⟩ := h
    exact ⟨w, List.mem_append_left _ hw⟩
  show MeetsS P c Q (Killed c) (liftM (taken.bind fun _ => .ret r)) _
  rw [lift_bind]
  exact Prog.meets_bind.2 (killed_meets (.inr (.inl hclean)) (hQ r hprinted.2))

theorem vars_meets {v : Vars × Trace} {Q : Vars → Vars × Trace → Prop} {X : Nat → Vars × Trace → Prop}
    (hQ : Q v.1 (v.1, v.2 ++ [⟨.get, v.1⟩])) : MeetsS P c Q X vars v := by
  rintro w ⟨w', t'⟩ ⟨⟨⟨hw, hw'⟩, ht⟩, -⟩
  obtain rfl : w' = v.1 := hw'
  obtain rfl : w = v.1 := hw
  obtain rfl : t' = v.2 ++ [⟨.get, v.1⟩] := ht
  exact ⟨trivial, hQ⟩

/-- What `cleanup` has done since the trace `t`: no profile was applied, and the GPUs of `uuids` were reset. -/
structure Undone (c : Config) (w : Vars) (t : Trace) (uuids : List String) (v : Vars × Trace) : Prop where
  clean : InCleanup v.2
  kept : v.1 = w
  grown : ∃ s, v.2 = t ++ s ∧ (∀ uuid, ¬ Applied uuid s) ∧ ∀ uuid ∈ uuids, Reset c uuid s

theorem Undone.command {w : Vars} {t : Trace} {uuids uuids' : List String} {v : Vars × Trace}
    (h : Undone c w t uuids v) {argv : List String} (hargv : Other argv) (r : Result)
    (huuids : ∀ uuid ∈ uuids', uuid ∈ uuids ∨ argv = resetArgv c uuid) :
    Undone c w t uuids' (v.1, v.2 ++ [⟨.tool (.exec argv), r⟩] ++ [⟨.tool .signal, none⟩]) := by
  obtain ⟨s, hs, hnone, hreset⟩ := h.grown
  obtain ⟨w', hw'⟩ := h.clean
  refine ⟨⟨w', by simp [hw']⟩, h.kept, s ++ [⟨.tool (.exec argv), r⟩] ++ [⟨.tool .signal, none⟩], ?_, ?_, ?_⟩
  · simp [hs]
  · intro uuid hmem
    have hcommand := hmem.of_append (not_applied_singleton fun uuid he => nomatch he)
    have hbefore := hcommand.of_append
      (not_applied_singleton fun uuid he => hargv uuid (Tool.exec.inj (Op.tool.inj he)))
    exact hnone uuid hbefore
  · intro uuid huuid
    rcases huuids uuid huuid with hdone | rfl
    · obtain ⟨r', hr'⟩ := hreset uuid hdone
      exact ⟨r', by simp [hr']⟩
    · exact ⟨r, by simp⟩

private theorem resetArgv_other (uuid : String) : Other (resetArgv c uuid) := by
  intro uuid' heq
  unfold resetArgv at heq
  split at heq
  · simp [applyArgv] at heq
  · simp [applyArgv] at heq

private theorem resetGpu_eq (uuid : String) :
    resetGpu c uuid = (sh (.exec (resetArgv c uuid))).bind fun _ => .ret () := by
  unfold resetGpu resetArgv
  by_cases hwatts : c.powerLimitWatts ≠ ""
  · rw [if_pos hwatts, if_pos hwatts]
    simp only [Shell.check, Prog.bind_eq, Prog.bind_assoc, Prog.pure_eq, Prog.ret_bind]
  · rw [if_neg hwatts, if_neg hwatts]
    simp only [Shell.check, Prog.bind_eq, Prog.bind_assoc, Prog.pure_eq, Prog.ret_bind]

private theorem resetGpu_meets (uuid : String) {w : Vars} {t : Trace} {uuids : List String} {v : Vars × Trace}
    (h : Undone c w t uuids v) :
    MeetsS P c (fun _ => Undone c w t (uuid :: uuids)) (Killed c) (liftM (resetGpu c uuid)) v := by
  rw [resetGpu_eq, lift_bind]
  refine Prog.meets_bind.2 (sh_meets h.clean fun r _ => ?_)
  refine h.command (resetArgv_other uuid) r fun uuid' huuid' => ?_
  rcases List.mem_cons.1 huuid' with rfl | huuid'
  · exact .inr rfl
  · exact .inl huuid'

/-- The message and the resets of all GPUs in `APPLIED`. -/
theorem resets_meets {w : Vars} {t : Trace} {v : Vars × Trace} (h : Undone c w t [] v) :
    MeetsS P c (fun _ => Undone c w t w.applied) (Killed c)
      ((liftM (Shell.must resetMessage) : Script Vars Unit) >>= fun _ =>
        Prog.forEach (fun uuid => liftM (resetGpu c uuid)) w.applied) v := by
  have hmust : Shell.must resetMessage = (sh (.exec resetMessage)).bind fun r => ensure r.status := rfl
  rw [hmust, lift_bind]
  refine Prog.meets_seq.2 (Prog.meets_bind.2 (sh_meets h.clean fun r hprinted => ?_))
  have hother : Other resetMessage := other_of_head (by decide)
  have hsaid : Undone c w t [] _ := h.command hother r fun _ hnil => nomatch hnil
  rw [hprinted rfl]
  let I (rest : List String) (v' : Vars × Trace) : Prop :=
    ∃ uuids, Undone c w t uuids v' ∧ ∀ uuid ∈ w.applied, uuid ∈ rest ∨ uuid ∈ uuids
  have hloop : ∀ {v'}, Undone c w t [] v' → MeetsS P c (fun _ v'' => I [] v'') (Killed c)
      (Prog.forEach (fun uuid => liftM (resetGpu c uuid)) w.applied) v' := by
    intro v' hv'
    refine Prog.meets_forEach (I := I) (fun uuid rest v' hI => ?_) ⟨[], hv', fun uuid huuid => .inl huuid⟩
    obtain ⟨uuids, hundone, hcovers⟩ := hI
    refine (resetGpu_meets uuid hundone).imp (fun _ v'' hv'' => ⟨_, hv'', fun uuid' huuid' => ?_⟩)
      fun _ _ hkilled => hkilled
    rcases hcovers uuid' huuid' with hrest | hdone
    · rcases List.mem_cons.1 hrest with rfl | hrest
      · exact .inr List.mem_cons_self
      · exact .inl hrest
    · exact .inr (List.mem_cons_of_mem _ hdone)
  refine (hloop hsaid).imp (fun _ v' hv' => ?_) fun _ _ hkilled => hkilled
  obtain ⟨uuids, hundone, hcovers⟩ := hv'
  obtain ⟨s, hs, hnone, hreset⟩ := hundone.grown
  refine ⟨hundone.clean, hundone.kept, s, hs, hnone, fun uuid huuid => ?_⟩
  exact hreset uuid ((hcovers uuid huuid).resolve_left fun hnil => nomatch hnil)

/-- What the exit with status `rc` says. -/
structure Exited (P : Python) (c : Config) (rc : Nat) (v : Vars × Trace) : Prop where
  verified : rc = 0 → Verified P c v.2
  reset : rc ≠ 0 → AllReset c v.2

theorem Killed.exited {rc : Nat} {v : Vars × Trace} (h : Killed c rc v) : Exited P c rc v :=
  ⟨fun hzero => absurd hzero h.1, fun _ => h.2⟩

/-- `cleanup` behind its first signal. -/
theorem cleanupWith_meets {rc : Nat} {v : Vars × Trace} (hdepth : 2 ≤ depth v.2) (hverified : rc = 0 → Verified P c v.2)
    (hcovered : rc ≠ 0 → AllReset c v.2 ∨ v.1.success = false ∧ ∀ uuid, Applied uuid v.2 → uuid ∈ v.1.applied) :
    MeetsS P c (Exited P c) (Exited P c) (cleanupWith c rc) v := by
  have hkilled : ∀ {α : Type} {p : Script Vars α} {v : Vars × Trace} {Q : α → Vars × Trace → Prop},
      MeetsS P c Q (Killed c) p v → MeetsS P c Q (Exited P c) p v :=
    fun h => h.imp (fun _ _ hQ => hQ) fun _ _ hk => hk.exited
  refine Prog.meets_seq.2 (hkilled (killed_meets (.inr (.inr hdepth)) (Prog.meets_seq.2 (vars_meets ?_))))
  have hstart : Undone c v.1 v.2 [] (v.1, v.2 ++ [⟨.tool .signal, none⟩] ++ [⟨.get, v.1⟩]) := by
    refine ⟨⟨v.1, by simp⟩, rfl, [⟨.tool .signal, none⟩, ⟨.get, v.1⟩], by simp, ?_, by simp⟩
    rintro uuid ⟨r, hr, -⟩
    simp at hr
  -- The end of `cleanup`, with the GPUs of `uuids` reset.
  have hlast : ∀ {uuids v'}, Undone c v.1 v.2 uuids v' →
    (rc ≠ 0 → AllReset c v.2 ∨ ∀ uuid, Applied uuid v.2 → uuid ∈ uuids) →
      MeetsS P c (Exited P c) (Exited P c)
        ((liftM (Shell.check ["rmdir", lockDir]) : Script Vars Bool) >>= fun _ => pure rc) v' := by
    intro uuids v' hundone hall
    have hcheck : Shell.check ["rmdir", lockDir] = (sh (.exec ["rmdir", lockDir])).bind
      fun r => .ret (r.status == 0) := rfl
    rw [hcheck, lift_bind]
    refine Prog.meets_seq.2 (hkilled (Prog.meets_bind.2 (sh_meets hundone.clean fun r _ => ?_)))
    have hother : Other ["rmdir", lockDir] := other_of_head (by decide)
    have hafter : Undone c v.1 v.2 uuids _ := hundone.command hother r fun _ huuid => .inl huuid
    obtain ⟨s, hs, hnone, hreset⟩ := hafter.grown
    refine ⟨fun hzero => ?_, fun hrc => ?_⟩
    · rw [hs]
      exact (hverified hzero).append s
    · rw [hs]
      rcases hall hrc with hdone | hcover
      · exact hdone.append hnone
      · exact allReset_append hnone fun uuid happlied => hreset uuid (hcover uuid happlied)
  refine Prog.meets_seq.2 (Prog.meets_when.2 ⟨fun _ => ?_, fun hskip => ?_⟩)
  · refine (hkilled (resets_meets hstart)).imp (fun _ v' hv' => hlast hv' fun hrc => ?_) fun _ _ h => h
    exact (hcovered hrc).imp_right fun hcover => hcover.2
  · refine hlast hstart fun hrc => (hcovered hrc).imp_right fun hcover uuid happlied => ?_
    have hmem := hcover.2 uuid happlied
    by_cases hnil : v.1.applied = []
    · rw [hnil] at hmem
      exact hmem
    · exact absurd ⟨by simp [hcover.1], hnil⟩ hskip

theorem cleanup_meets {rc : Nat} {v : Vars × Trace} (h : Left P c rc v) :
    MeetsS P c (Exited P c) (Exited P c) (cleanup c rc) v := by
  rintro s ⟨w', t'⟩ ⟨⟨⟨hw, -⟩, ht⟩, hspares⟩
  obtain rfl : w' = v.1 := hw
  obtain rfl : t' = v.2 ++ [⟨.tool .signal, s⟩] := ht
  have hdepth : 2 ≤ depth (v.2 ++ [⟨.tool .signal, s⟩]) := by
    simp [depth_append, h.depth_eq, isSignal]
  refine ⟨trivial, ?_⟩
  cases s with
  | none =>
    refine cleanupWith_meets hdepth (fun hzero => (h.verified hzero).append _) fun hrc => ?_
    refine (h.covered hrc).imp ?_ fun hcover => ⟨hcover.1, fun uuid happlied => hcover.2 uuid (happlied.of_append ?_)⟩
    · exact fun hreset => hreset.append (not_applied_singleton fun uuid he => nomatch he)
    · exact not_applied_singleton fun uuid he => nomatch he
  | some s =>
    refine cleanupWith_meets hdepth (fun _ => ?_) fun hrc => absurd rfl hrc
    exact ((hspares.2 h.before).2.1 h.depth_eq).append _

theorem run_meets : MeetsS P c (Exited P c) (Exited P c) (run P c) ({}, []) := by
  have hstart : Working ({}, []) := by
    refine ⟨?_, rfl, rfl, ?_⟩
    · rintro ⟨w, hw⟩
      cases hw
    · rintro uuid ⟨r, hr, -⟩
      cases hr
  refine Prog.meets_seq.2 (Prog.meets_attempt.2 ((main_meets hstart).imp ?_ ?_))
  · exact fun _ v hleft => cleanup_meets hleft
  · exact fun rc v hleft => cleanup_meets hleft

end

/-! ### Sample runs -/

/-- The commands of a run and their statuses. -/
def commands (t : Trace) : List (List String × Nat) := t.filterMap fun e =>
  match e with
  | ⟨.tool (.exec argv), r⟩ => some (argv, Result.status r)
  | _ => none

private theorem mem_commands {t : Trace} {argv : List String} {n : Nat} :
    (argv, n) ∈ commands t ↔ ∃ r, ⟨.tool (.exec argv), r⟩ ∈ t ∧ Result.status r = n := by
  unfold commands
  rw [List.mem_filterMap]
  constructor
  · rintro ⟨e, he, heq⟩
    split at heq
    · next argv' r =>
      simp only [Option.some.injEq, Prod.mk.injEq] at heq
      obtain ⟨rfl, rfl⟩ := heq
      exact ⟨r, he, rfl⟩
    · cases heq
  · rintro ⟨r, hr, rfl⟩
    exact ⟨_, hr, rfl⟩

def oneUuid : String := "GPU-00000000-0000-0000-0000-000000000000"

def oneConfig : Config := { uuids := oneUuid }

/-- Every telemetry shows the profile. -/
def onePython : Python where
  gpus _ := some [{ uuid := some oneUuid, hbmRaw := some "138", memory := some "877", limitW := none }]
  float _ := none
  format _ := ""

/-- All commands succeed; TERM arrives with the end of the command that applies the profile, if at all. -/
def oneAnswer (terminated : Bool) (v : Vars × Trace) : (o : Op Vars) → Option (o.Answer × (Vars × Trace))
  | .tool (.exec argv) =>
    let r : Result := ⟨0, if argv = ["stat", "-c", "%a", tool] then "755" else "0"⟩
    some (r, (v.1, v.2 ++ [⟨.tool (.exec argv), r⟩]))
  | .tool .signal =>
    let s : Option Signal :=
      if terminated ∧ v.1.success = false ∧ depth v.2 = 0 ∧ (commands v.2).getLast? = some (applyArgv oneUuid, 0) then
        some .term
      else none
    some (s, (v.1, v.2 ++ [⟨.tool .signal, s⟩]))
  | .tool (.isFile path) => some (true, (v.1, v.2 ++ [⟨.tool (.isFile path), true⟩]))
  | .tool (.isLink path) => some (false, (v.1, v.2 ++ [⟨.tool (.isLink path), false⟩]))
  | .get => some (v.1, (v.1, v.2 ++ [⟨.get, v.1⟩]))
  | .update f => some ((), (f v.1, v.2 ++ [⟨.update f, ()⟩]))
  | _ => none

private theorem oneAnswer_env {terminated : Bool} {v v' : Vars × Trace} {o : Op Vars} {r : o.Answer}
    (h : oneAnswer terminated v o = some (r, v')) : logged bootEnv v o r v' := by
  cases o with
  | tool t =>
    cases t with
    | signal =>
      simp only [oneAnswer, Option.some.injEq, Prod.mk.injEq] at h
      obtain ⟨rfl, rfl⟩ := h
      refine ⟨⟨rfl, fun hs => ?_⟩, rfl⟩
      split at hs
      · next hwhen => exact hwhen.2.1
      · exact absurd rfl hs
    | _ =>
      simp only [oneAnswer, Option.some.injEq, Prod.mk.injEq, reduceCtorEq] at h <;>
      · obtain ⟨rfl, rfl⟩ := h
        exact ⟨rfl, rfl⟩
  | get =>
    simp only [oneAnswer, Option.some.injEq, Prod.mk.injEq] at h
    obtain ⟨rfl, rfl⟩ := h
    exact ⟨⟨rfl, rfl⟩, rfl⟩
  | update f =>
    obtain rfl := (Prod.mk.inj (Option.some.inj h)).2
    exact ⟨rfl, rfl⟩
  | _ => cases h

/-- Without a signal the commands spare everything. -/
theorem oneAnswer_sparing {v v' : Vars × Trace} {o : Op Vars} {r : o.Answer} (h : oneAnswer false v o = some (r, v')) :
    sparingEnv onePython oneConfig v o r v' := by
  refine ⟨oneAnswer_env h, ?_⟩
  split
  · simp [oneAnswer] at h
  · simp only [oneAnswer, Option.some.injEq, Prod.mk.injEq] at h
    rw [← h.1]
    exact ⟨fun _ => .inl rfl, fun _ => rfl⟩
  · trivial

@[irreducible] def oneEnd (terminated : Bool) : Script Vars Nat × (Vars × Trace) :=
  (run onePython oneConfig).run (oneAnswer terminated) ({}, [])

private theorem oneEnd_eq {terminated : Bool} {p : Script Vars Nat} (h : (oneEnd terminated).1 = p) :
    (run onePython oneConfig).run (oneAnswer terminated) ({}, []) = (p, (oneEnd terminated).2) := by
  rw [← h, Prod.eta]
  unfold oneEnd
  rfl

private theorem oneEnd_passed : (oneEnd false).1 = .ret 0 := by
  rw [← Prog.ended_eq_ret]
  decide +kernel

private theorem oneEnd_terminated : (oneEnd true).1 = .ret 0 := by
  rw [← Prog.ended_eq_ret]
  decide +kernel

/-- Thirteen commands check the host and the GPU, one applies the profile, and one removes the lock directory. -/
theorem commands_terminated : (commands (oneEnd true).2.2).drop 13 = [(applyArgv oneUuid, 0), (["rmdir", lockDir], 0)] ∧
    ∀ command ∈ (commands (oneEnd true).2.2).take 13, command.1 ≠ [tool, "telemetry", "--json"] ∧
      command.1 ≠ resetArgv oneConfig oneUuid := by
  decide +kernel

end CmpUnlocker.HbmBoot
