import CmpUnlocker.TensorUnlock.Script

/-!
# The firmware files after the Tensor unlock

The trap on exit is armed before anything is checked, so `cleanup` copies the saved files over the active ones on every
exit.  The content of an active file at exit is that of its saved copy, if there is one, and else what it was at the
start.  So it is the old content, or one with the hash of the manifest, exactly if the saved copy is missing or has
such a content itself (`firmware_at_exit`); a copy that fails the check of its hash is installed by the exit it causes
(`mismatch_installed`).
-/

namespace CmpUnlocker.TensorUnlock

open Interaction Shell Guest

/-! ### The environment -/

/-- Commands fail anywhere; `cp` from a missing file changes nothing; the manifest assigns `manifest`. -/
def tensorEnv (hash : Content → String) (manifest : String → Option String) : Env (Op Vars) Op.Answer (World Vars) :=
  fun w o r w' =>
    env hash w o r w' ∧
      match o, r with
      | .tool .signal, signal => signal = none
      | .tool (.source _), vars => ∀ assigned, vars = some assigned → assigned = manifest
      | .copy _ source _, status => w.files source = none → status ≠ 0 ∧ w' = w
      | _, _ => True

/-- Moreover, the copies of `cleanup` from files that exist succeed. -/
def copyingEnv (hash : Content → String) (manifest : String → Option String) : Env (Op Vars) Op.Answer (World Vars) :=
  fun w o r w' =>
    tensorEnv hash manifest w o r w' ∧
      match o, r with
      | .copy _ source _, status => w.vars.trap = .running → (w.files source).isSome → status = 0
      | _, _ => True

/-- The content an active file had at the start, or one with the hash of the manifest. -/
def Acceptable (hash : Content → String) (manifest : String → Option String) (w₀ : World Vars) (x : Firmware)
    (content : Option Content) : Prop :=
  content = w₀.files x.path ∨ ∃ bytes, content = some bytes ∧ manifest x.stockVariable = some (hash bytes)

/-- The saved copy of a file is missing or acceptable. -/
def StockOk (hash : Content → String) (manifest : String → Option String) (c : Config) (w₀ : World Vars)
    (x : Firmware) : Prop :=
  ∀ bytes, w₀.files (c.stock x) = some bytes → Acceptable hash manifest w₀ x (some bytes)

section

variable {hash : Content → String} {manifest : String → Option String} {c : Config} {w₀ : World Vars}

private theorem copying_env (w : World Vars) (o : Op Vars) (r : o.Answer) (w' : World Vars)
    (h : copyingEnv hash manifest w o r w') : env hash w o r w' :=
  h.1.1

abbrev MeetsC {α : Type} (hash : Content → String) (manifest : String → Option String) (Q : α → World Vars → Prop)
    (X : Nat → World Vars → Prop) (p : Script Vars α) (w : World Vars) : Prop :=
  Prog.Meets (copyingEnv hash manifest) anyStep Q X p w

theorem routine_meets {α : Type} (p : Routine α) {w : World Vars} {Q : α → World Vars → Prop}
    {X : Nat → World Vars → Prop} (hQ : ∀ a, Q a w) (hX : ∀ status, X status w) :
    MeetsC hash manifest Q X (liftM p) w :=
  lift_meets copying_env p hQ hX

/-- There are no signals. -/
theorem no_signal {w : World Vars} {s : Signal} {q : Prop} (h : copyingEnv hash manifest w (.tool .signal) (some s) w) :
    q := by
  have hnone : some s = none := h.1.2
  cases hnone

private theorem assign_meetsC {f : Vars → Vars} {w : World Vars} {Q : Unit → World Vars → Prop}
    {X : Nat → World Vars → Prop}
    (hQ : Q () { w with vars := f w.vars }) : MeetsC hash manifest Q X (assign f) w :=
  assign_meets copying_env hQ fun _ hs => no_signal hs

/-- No saved copy is an active file. -/
theorem stock_ne_path (c : Config) (x y : Firmware) : c.stock x ≠ y.path := by
  intro h
  have hrev := congrArg (fun s => s.toList.reverse) h
  cases x <;> cases y <;> simp [Config.stock, Firmware.file, Firmware.path] at hrev

private theorem path_injective {x y : Firmware} (h : x.path = y.path) : x = y := by
  cases x <;> cases y <;> first | rfl | exact absurd h (by decide)

/-! ### The main path -/

/-- Nothing has been copied. -/
structure Untouched (w₀ w : World Vars) : Prop where
  trap : w.vars.trap = .set
  files : w.files = w₀.files

/-- The saved copies exist and are as they were at the start. -/
structure Present (c : Config) (w₀ w : World Vars) : Prop where
  trap : w.vars.trap = .set
  present : ∀ x, (w₀.files (c.stock x)).isSome
  stock : ∀ x, w.files (c.stock x) = w₀.files (c.stock x)

/-- What `cleanup` finds. -/
def Ready (c : Config) (w₀ w : World Vars) : Prop := Untouched w₀ w ∨ Present c w₀ w

theorem require_meets {condition : Bool} {message : String} {w : World Vars} {Q : Unit → World Vars → Prop}
    {X : Nat → World Vars → Prop} (hQ : condition = true → Q () w) (hX : ∀ status, X status w) :
    MeetsC hash manifest Q X (liftM (require condition message)) w := by
  unfold require
  split
  · next h => exact hQ h
  · unfold die
    rw [Prog.bind_eq, lift_bind]
    exact Prog.meets_bind.2 (routine_meets _ (fun _ => hX 1) hX)

/-- A checked file exists. -/
theorem assertManifest_meets {vars : String → Option String} {path name : String} {w : World Vars}
    {Q : Unit → World Vars → Prop} {X : Nat → World Vars → Prop} (hQ : (w.files path).isSome → Q () w)
    (hX : ∀ status, X status w) : MeetsC hash manifest Q X (liftM (assertManifest vars path name)) w := by
  unfold assertManifest assertSha
  simp only [Prog.bind_eq, lift_bind]
  refine Prog.meets_bind.2 (routine_meets _ (fun expected => ?_) hX)
  refine Prog.meets_bind.2 (sh_meets copying_env (fun file hr => ?_) fun _ hs => no_signal hs)
  obtain ⟨-, hfile⟩ := hr.1.1
  refine Prog.meets_bind.2 (require_meets (fun hok => ?_) hX)
  rw [hok] at hfile
  simp only [ne_eq, Bool.true_eq, Bool.and_eq_true, decide_not, Bool.not_eq_true', decide_eq_false_iff_not] at hfile
  refine Prog.meets_bind.2 (routine_meets _ (fun sum => ?_) hX)
  exact require_meets (fun _ => hQ hfile.2) hX

private theorem verifyFiles_meets {vars : String → Option String} {w : World Vars} {Q : Unit → World Vars → Prop}
    {X : Nat → World Vars → Prop} (hQ : (∀ x, (w.files (c.stock x)).isSome) → Q () w) (hX : ∀ status, X status w) :
    MeetsC hash manifest Q X (liftM (verifyFiles c vars)) w := by
  unfold verifyFiles
  simp only [Prog.bind_eq, lift_bind]
  refine Prog.meets_bind.2 (assertManifest_meets (fun hfecs => ?_) hX)
  refine Prog.meets_bind.2 (assertManifest_meets (fun hbl => ?_) hX)
  refine Prog.meets_bind.2 (assertManifest_meets (fun hucode => ?_) hX)
  have hall : ∀ x, (w.files (c.stock x)).isSome := by
    intro x
    cases x with
    | fecs => exact hfecs
    | bl => exact hbl
    | ucode => exact hucode
  refine Prog.meets_bind.2 (routine_meets _ (fun _ => ?_) hX)
  refine Prog.meets_bind.2 (routine_meets _ (fun _ => ?_) hX)
  refine Prog.meets_bind.2 (routine_meets _ (fun _ => ?_) hX)
  exact routine_meets _ (fun _ => hQ hall) hX

/-- Nothing is written before the saved copies are known to exist. -/
theorem checks_meets {w : World Vars} (h : Untouched w₀ w) :
    MeetsC hash manifest (fun _ w' => Present c w₀ w') (fun _ w' => Ready c w₀ w') (checks c) w := by
  have hready : Ready c w₀ w := .inl h
  unfold checks
  refine Prog.meets_seq.2 (routine_meets _ (fun vars => ?_) fun _ => hready)
  refine Prog.meets_seq.2 (routine_meets _ (fun targets => ?_) fun _ => hready)
  refine Prog.meets_seq.2 (assign_meetsC ?_)
  have huntouched : Untouched w₀ { w with vars := { w.vars with targets := targets } } := ⟨h.trap, h.files⟩
  refine Prog.meets_seq.2 (routine_meets _ (fun _ => ?_) fun _ => .inl huntouched)
  refine Prog.meets_seq.2 (verifyFiles_meets (fun hpresent => ?_) fun _ => .inl huntouched)
  refine ⟨h.trap, fun x => ?_, fun x => ?_⟩
  · rw [← h.files]
    exact hpresent x
  · show w.files _ = _
    rw [h.files]

/-- A copy into an active file keeps the saved copies. -/
theorem copyFile_meets {source : String} {x : Firmware} {w : World Vars} (h : Present c w₀ w)
    {Q : Unit → World Vars → Prop} (hQ : ∀ w', Present c w₀ w' → Q () w') :
    MeetsC hash manifest Q (fun _ w' => Ready c w₀ w') (copyFile true source x.path) w := by
  refine Prog.meets_seq.2 (copied_meets copying_env fun status w₁ hr => ⟨?_, fun _ hs => no_signal hs⟩)
  obtain ⟨⟨content, rfl⟩, -⟩ := hr.1.1
  have hpresent : Present c w₀ { w with files := Function.update w.files x.path content } := by
    refine ⟨h.trap, h.present, fun y => ?_⟩
    show Function.update w.files _ _ _ = _
    rw [Function.update_of_ne (stock_ne_path c y x)]
    exact h.stock y
  exact Prog.meets_ite.2 ⟨fun _ => .inr hpresent, fun _ => hQ _ hpresent⟩

theorem restoreStock_meets {w : World Vars} (h : Present c w₀ w) {Q : Unit → World Vars → Prop}
    (hQ : ∀ w', Present c w₀ w' → Q () w') :
    MeetsC hash manifest Q (fun _ w' => Ready c w₀ w') (restoreStock c true) w := by
  unfold restoreStock
  refine Prog.meets_seq.2 (copyFile_meets h fun w₁ hw₁ => ?_)
  refine Prog.meets_seq.2 (copyFile_meets hw₁ fun w₂ hw₂ => ?_)
  refine Prog.meets_seq.2 (copyFile_meets hw₂ fun w₃ hw₃ => ?_)
  refine Prog.meets_seq.2 (routine_meets _ (fun synced => ?_) fun _ => .inr hw₃)
  exact Prog.meets_ite.2 ⟨fun _ => .inr hw₃, fun _ => hQ w₃ hw₃⟩

private theorem installCustom_meets {w : World Vars} (h : Present c w₀ w) {Q : Unit → World Vars → Prop}
    (hQ : ∀ w', Present c w₀ w' → Q () w') :
    MeetsC hash manifest Q (fun _ w' => Ready c w₀ w') (installCustom c) w := by
  unfold installCustom
  refine Prog.meets_seq.2 (copyFile_meets h fun w₁ hw₁ => ?_)
  refine Prog.meets_seq.2 (copyFile_meets hw₁ fun w₂ hw₂ => ?_)
  refine Prog.meets_seq.2 (copyFile_meets hw₂ fun w₃ hw₃ => ?_)
  exact routine_meets _ (fun _ => hQ w₃ hw₃) fun _ => .inr hw₃

private theorem present_routine {α : Type} (p : Routine α) {w : World Vars} (h : Present c w₀ w)
    {Q : α → World Vars → Prop}
    (hQ : ∀ a, Q a w) : MeetsC hash manifest Q (fun _ w' => Ready c w₀ w') (liftM p) w :=
  routine_meets p hQ fun _ => .inr h

private theorem unlockOne_meets (bdf : String) {w : World Vars} (h : Present c w₀ w) :
    MeetsC hash manifest (fun _ w' => Present c w₀ w') (fun _ w' => Ready c w₀ w') (unlockOne c bdf) w := by
  unfold unlockOne
  refine Prog.meets_seq.2 (present_routine _ h fun prepared => ?_)
  cases prepared with
  | none => exact h
  | some prepared =>
    obtain ⟨tensorPhys, beforeCount⟩ := prepared
    refine Prog.meets_seq.2 (installCustom_meets h fun w₁ hw₁ => ?_)
    refine Prog.meets_seq.2 (present_routine _ hw₁ fun _ => ?_)
    refine Prog.meets_seq.2 (restoreStock_meets hw₁ fun w₂ hw₂ => ?_)
    exact present_routine _ hw₂ fun _ => hw₂

theorem stopPersistenced_meets {w : World Vars} (h : Present c w₀ w) {Q : Unit → World Vars → Prop}
    (hQ : ∀ w', Present c w₀ w' → Q () w') :
    MeetsC hash manifest Q (fun _ w' => Ready c w₀ w') stopPersistenced w := by
  have hstop : ∀ w₁, Present c w₀ w₁ → MeetsC hash manifest Q (fun _ w' => Ready c w₀ w') (do
      let _ ← check ["systemctl", "stop", "nvidia-persistenced"]
      return ()) w₁ := fun w₁ hw₁ => Prog.meets_seq.2 (present_routine _ hw₁ fun _ => hQ w₁ hw₁)
  unfold stopPersistenced
  refine Prog.meets_seq.2 (present_routine _ h fun active => ?_)
  refine Prog.meets_seq.2 (Prog.meets_when.2 ⟨fun _ => ?_, fun _ => hstop w h⟩)
  exact assign_meetsC (hstop _ ⟨h.trap, h.present, h.stock⟩)

theorem main_meets {w : World Vars} (h : Untouched w₀ w) :
    MeetsC hash manifest (fun _ w' => Ready c w₀ w') (fun _ w' => Ready c w₀ w') (main c) w := by
  unfold main
  refine Prog.meets_seq.2 ((checks_meets h).imp (fun targets w₁ hw₁ => ?_) fun _ _ hx => hx)
  refine Prog.meets_seq.2 (restoreStock_meets hw₁ fun w₂ hw₂ => ?_)
  refine Prog.meets_seq.2 ((Prog.meets_forEach (I := fun _ w' => Present c w₀ w')
    (fun bdf _ w' hw' => present_routine _ hw' fun _ => hw') hw₂).imp (fun _ w₃ hw₃ => ?_) fun _ _ hx => hx)
  refine Prog.meets_seq.2 (present_routine _ hw₃ fun _ => ?_)
  refine Prog.meets_seq.2 (stopPersistenced_meets hw₃ fun w₄ hw₄ => ?_)
  refine Prog.meets_seq.2 (present_routine _ hw₄ fun _ => ?_)
  refine Prog.meets_seq.2 ((Prog.meets_forEach (I := fun _ w' => Present c w₀ w')
    (fun bdf _ w' hw' => unlockOne_meets bdf hw') hw₄).imp (fun _ w₅ hw₅ => ?_) fun _ _ hx => hx)
  refine Prog.meets_seq.2 (present_routine _ hw₅ fun _ => ?_)
  refine Prog.meets_seq.2 (restoreStock_meets hw₅ fun w₆ hw₆ => ?_)
  refine Prog.meets_seq.2 (present_routine _ hw₆ fun _ => ?_)
  refine Prog.meets_seq.2 (assign_meetsC ?_)
  have hsuccess : Present c w₀ { w₆ with vars := { w₆.vars with success := true } } :=
    ⟨hw₆.trap, hw₆.present, hw₆.stock⟩
  refine Prog.meets_seq.2 (present_routine _ hsuccess fun _ => ?_)
  refine Prog.meets_seq.2 (present_routine _ hsuccess fun _ => ?_)
  exact present_routine _ hsuccess fun _ => .inr hsuccess

/-! ### Cleanup -/

/-- What holds while `cleanup` still has to copy the files `xs`. -/
structure Cleaning (c : Config) (w₀ : World Vars) (xs : List Firmware) (w : World Vars) : Prop where
  trap : w.vars.trap = .running
  stock : ∀ x, w.files (c.stock x) = w₀.files (c.stock x)
  missing : ∀ x, w₀.files (c.stock x) = none → w.files x.path = w₀.files x.path
  copied : ∀ x, x ∉ xs → (w₀.files (c.stock x)).isSome → w.files x.path = w₀.files (c.stock x)

private theorem cleanupCopy_meets {x : Firmware} {xs : List Firmware} {w : World Vars} (h : Cleaning c w₀ (x :: xs) w)
    {Q : Unit → World Vars → Prop} {X : Nat → World Vars → Prop} (hQ : ∀ w', Cleaning c w₀ xs w' → Q () w') :
    MeetsC hash manifest Q X (copyFile false (c.stock x) x.path) w := by
  refine Prog.meets_seq.2 (copied_meets copying_env fun status w₁ hr => ⟨?_, fun _ hs => no_signal hs⟩)
  refine Prog.meets_ite.2 ⟨fun hfalse => (nomatch hfalse.1), fun _ => hQ w₁ ?_⟩
  obtain ⟨⟨⟨-, hok⟩, hnone⟩, hsucceeds⟩ := hr
  cases hstock : w₀.files (c.stock x) with
  | none =>
    obtain ⟨-, rfl⟩ := hnone ((h.stock x).trans hstock)
    refine ⟨h.trap, h.stock, h.missing, fun y hy hpresent => h.copied y ?_ hpresent⟩
    intro hmem
    rcases List.mem_cons.1 hmem with rfl | hmem
    · rw [hstock] at hpresent
      cases hpresent
    · exact hy hmem
  | some bytes =>
    have hsource : w.files (c.stock x) = some bytes := (h.stock x).trans hstock
    obtain ⟨-, rfl⟩ := hok (hsucceeds h.trap (by rw [hsource]; rfl))
    refine ⟨h.trap, fun y => ?_, fun y hy => ?_, fun y hy hpresent => ?_⟩
    · show Function.update w.files _ _ _ = _
      rw [Function.update_of_ne (stock_ne_path c y x)]
      exact h.stock y
    · have hne : y ≠ x := by
        rintro rfl
        rw [hstock] at hy
        cases hy
      show Function.update w.files _ _ _ = _
      rw [Function.update_of_ne fun heq => hne (path_injective heq)]
      exact h.missing y hy
    · show Function.update w.files _ _ _ = _
      by_cases hyx : y = x
      · subst hyx
        rw [Function.update_self]
        exact h.stock y
      · rw [Function.update_of_ne fun heq => hyx (path_injective heq)]
        exact h.copied y (by simp [hyx, hy]) hpresent

/-- `cleanup` leaves in every active file the content of its saved copy, if there is one. -/
theorem cleanup_meets (rc : Nat) {w : World Vars} (h : Ready c w₀ w) :
    MeetsC hash manifest (fun _ w' => Cleaning c w₀ [] w') (fun _ w' => Cleaning c w₀ [] w') (cleanup c rc) w := by
  have hstart : Cleaning c w₀ Firmware.all { w with vars := { w.vars with trap := .running } } := by
    refine ⟨rfl, fun x => ?_, fun x hx => ?_, fun x hx => ?_⟩
    · rcases h with huntouched | hpresent
      · exact congrFun huntouched.files _
      · exact hpresent.stock x
    · rcases h with huntouched | hpresent
      · exact congrFun huntouched.files _
      · have hsome := hpresent.present x
        rw [hx] at hsome
        cases hsome
    · cases x <;> simp [Firmware.all] at hx
  unfold cleanup restoreStock
  refine Prog.meets_seq.2 (assign_meetsC ?_)
  refine Prog.meets_seq.2 (Prog.meets_seq.2 (cleanupCopy_meets hstart fun w₁ hw₁ => ?_))
  refine Prog.meets_seq.2 (cleanupCopy_meets hw₁ fun w₂ hw₂ => ?_)
  refine Prog.meets_seq.2 (cleanupCopy_meets hw₂ fun w₃ hw₃ => ?_)
  refine Prog.meets_seq.2 (routine_meets _ (fun synced => ?_) fun _ => hw₃)
  refine Prog.meets_ite.2 ⟨fun hfalse => (nomatch hfalse.1), fun _ => ?_⟩
  refine Prog.meets_seq.2 (vars_meets copying_env ?_)
  exact routine_meets _ (fun _ => hw₃) fun _ => hw₃

/-- The end of a run: before the trap was set, or behind `cleanup`. -/
theorem run_meets :
    MeetsC hash manifest (fun _ w' => w' = w₀ ∨ Cleaning c w₀ [] w') (fun _ w' => w' = w₀ ∨ Cleaning c w₀ [] w')
      (run c) w₀ := by
  unfold run
  refine Prog.meets_seq.2 (routine_meets _ (fun _ => ?_) fun _ => .inl rfl)
  refine Prog.meets_seq.2 (assign_meetsC ?_)
  have huntouched : Untouched w₀ { w₀ with vars := { w₀.vars with trap := .set } } := ⟨rfl, rfl⟩
  have hcleanup : ∀ (rc : Nat) (w₁ : World Vars), Ready c w₀ w₁ → MeetsC hash manifest
      (fun _ w' => w' = w₀ ∨ Cleaning c w₀ [] w') (fun _ w' => w' = w₀ ∨ Cleaning c w₀ [] w') (cleanup c rc) w₁ :=
    fun rc w₁ hw₁ => (cleanup_meets rc hw₁).imp (fun _ _ hx => .inr hx) fun _ _ hx => .inr hx
  exact Prog.meets_seq.2 (Prog.meets_attempt.2 ((main_meets huntouched).imp (fun _ w₁ hw₁ => hcleanup 0 w₁ hw₁)
    fun rc w₁ hw₁ => hcleanup rc w₁ hw₁))

/-- At exit an active firmware file has its old content or one with the hash of the manifest, exactly if the script
exits before its trap is set, or the saved copy of the file is missing or acceptable. -/
theorem firmware_at_exit (hstart : w₀.vars = {}) {rc : Nat} {w : World Vars}
    (hrun : Prog.Steps (copyingEnv hash manifest) (run c, w₀) (.ret rc, w) ∨
      Prog.Steps (copyingEnv hash manifest) (run c, w₀) (.throw rc, w)) (x : Firmware) :
    Acceptable hash manifest w₀ x (w.files x.path) ↔ w.vars.trap = .unset ∨ StockOk hash manifest c w₀ x := by
  have hend : w = w₀ ∨ Cleaning c w₀ [] w := by
    rcases hrun with hrun | hrun
    · exact run_meets.of_ret hrun
    · exact run_meets.of_throw hrun
  rcases hend with rfl | hclean
  · have htrap : w.vars.trap = .unset := by rw [hstart]
    exact ⟨fun _ => .inl htrap, fun _ => .inl rfl⟩
  · have htrap : w.vars.trap ≠ .unset := by
      rw [hclean.trap]
      decide
    cases hstock : w₀.files (c.stock x) with
    | none =>
      have hstockOk : StockOk hash manifest c w₀ x := by
        intro bytes hbytes
        rw [hstock] at hbytes
        cases hbytes
      exact ⟨fun _ => .inr hstockOk, fun _ => .inl (hclean.missing x hstock)⟩
    | some bytes =>
      have hfile : w.files x.path = some bytes := by
        rw [hclean.copied x (by simp) (by rw [hstock]; rfl), hstock]
      rw [hfile]
      constructor
      · intro hacceptable
        right
        intro bytes' hbytes'
        rw [hstock] at hbytes'
        cases hbytes'
        exact hacceptable
      · rintro (hunset | hstockOk)
        · exact absurd hunset htrap
        · exact hstockOk bytes hstock

end

/-! ### A saved copy that fails its check -/

def sampleHash (content : Content) : String := toString (content.map UInt8.toNat)

def sampleConfig : Config := { stateDir := "/s", libDir := "/l", bdfs := "0000:01:00.0" }

def sampleManifest : String → Option String
  | "STOCK_FECS_SHA" => some (sampleHash [3])
  | "STOCK_BL_SHA" => some (sampleHash [4])
  | "STOCK_UCODE_SHA" => some (sampleHash [5])
  | _ => none

/-- The firmware files, and saved copies of them; that of `fecs` is `saved`.  The payloads are not installed. -/
def sampleWorld (saved : Content) : World Vars where
  files path :=
    if path = sampleConfig.stock .fecs then some saved
    else if path = Firmware.fecs.path then some [3]
    else if path = sampleConfig.stock .bl ∨ path = Firmware.bl.path then some [4]
    else if path = sampleConfig.stock .ucode ∨ path = Firmware.ucode.path then some [5]
    else none
  links := id
  vars := {}

/-- Everything succeeds. -/
def sampleAnswer (w : World Vars) : (o : Op Vars) → Option (o.Answer × World Vars)
  | .tool .signal => some (none, w)
  | .tool (.exec _) => some (⟨0, ""⟩, w)
  | .tool (.isFile path) => some (path ≠ "" && (w.files path).isSome, w)
  | .tool (.isReadable _) => some (true, w)
  | .tool (.isDir _) => some (false, w)
  | .tool (.digest path) => some ((w.files path).map sampleHash, w)
  | .tool (.writeText _ _) => some (0, w)
  | .tool (.source _) => some (some sampleManifest, w)
  | .tool _ => none
  | .get => some (w.vars, w)
  | .update f => some ((), { w with vars := f w.vars })
  | .copy _ source target =>
    if (w.files source).isSome then some (0, { w with files := Function.update w.files target (w.files source) })
    else none
  | .removeTree _ => none

theorem sampleAnswer_env (w : World Vars) (o : Op Vars) (r : o.Answer) (w' : World Vars)
    (h : sampleAnswer w o = some (r, w')) : copyingEnv sampleHash sampleManifest w o r w' := by
  cases o with
  | tool t =>
    cases t with
    | digest path =>
      simp only [sampleAnswer, Option.some.injEq, Prod.mk.injEq] at h
      obtain ⟨rfl, rfl⟩ := h
      refine ⟨⟨⟨rfl, fun d hd => ?_⟩, trivial⟩, trivial⟩
      obtain ⟨content, hcontent, rfl⟩ := Option.map_eq_some_iff.1 hd
      exact ⟨content, hcontent, rfl⟩
    | source path =>
      simp only [sampleAnswer, Option.some.injEq, Prod.mk.injEq] at h
      obtain ⟨rfl, rfl⟩ := h
      exact ⟨⟨rfl, fun assigned hassigned => (Option.some.inj hassigned).symm⟩, trivial⟩
    | signal =>
      simp only [sampleAnswer, Option.some.injEq, Prod.mk.injEq] at h
      obtain ⟨rfl, rfl⟩ := h
      exact ⟨⟨rfl, rfl⟩, trivial⟩
    | isFile path =>
      simp only [sampleAnswer, Option.some.injEq, Prod.mk.injEq] at h
      obtain ⟨rfl, rfl⟩ := h
      exact ⟨⟨⟨rfl, rfl⟩, trivial⟩, trivial⟩
    | _ =>
      simp only [sampleAnswer, Option.some.injEq, Prod.mk.injEq, reduceCtorEq] at h <;>
        exact ⟨⟨h.2.symm, trivial⟩, trivial⟩
  | get =>
    simp only [sampleAnswer, Option.some.injEq, Prod.mk.injEq] at h
    obtain ⟨rfl, rfl⟩ := h
    exact ⟨⟨⟨rfl, rfl⟩, trivial⟩, trivial⟩
  | update f =>
    simp only [sampleAnswer, Option.some.injEq, Prod.mk.injEq] at h
    exact ⟨⟨h.2.symm, trivial⟩, trivial⟩
  | copy argv source target =>
    simp only [sampleAnswer, Option.ite_none_right_eq_some, Option.some.injEq, Prod.mk.injEq] at h
    obtain ⟨hsome, rfl, rfl⟩ := h
    refine ⟨⟨⟨⟨w.files source, rfl⟩, fun _ => ⟨hsome, rfl⟩⟩, fun hnone => ?_⟩, fun _ _ => rfl⟩
    rw [hnone] at hsome
    cases hsome
  | removeTree path => simp only [sampleAnswer, reduceCtorEq] at h

/-- The end of the run. -/
@[irreducible] def sampleEnd (saved : Content) : Script Vars Nat × World Vars :=
  (run sampleConfig).run sampleAnswer (sampleWorld saved)

theorem steps_sampleEnd {saved : Content} {p : Script Vars Nat} (h : (sampleEnd saved).1 = p) :
    Prog.Steps (copyingEnv sampleHash sampleManifest) (run sampleConfig, sampleWorld saved)
      (p, (sampleEnd saved).2) := by
  have hrun :
      Prog.Steps (copyingEnv sampleHash sampleManifest) (run sampleConfig, sampleWorld saved) (sampleEnd saved) := by
    unfold sampleEnd
    exact Prog.steps_run sampleAnswer_env (run sampleConfig) (sampleWorld saved)
  rw [← h]
  exact hrun

private theorem sampleEnd_intact : (sampleEnd [3]).1 = .ret 1 := by
  rw [← Prog.ended_eq_ret]
  decide +kernel

private theorem sampleEnd_corrupted :
    (sampleEnd [66]).1 = .ret 1 ∧ (sampleEnd [66]).2.files Firmware.fecs.path = some [66] := by
  rw [← Prog.ended_eq_ret]
  decide +kernel

/-- With intact copies the run fails at the missing payload, and the files are acceptable. -/
theorem firmware_at_exit_intact :
    Acceptable sampleHash sampleManifest (sampleWorld [3]) .fecs ((sampleEnd [3]).2.files Firmware.fecs.path) := by
  refine (firmware_at_exit (c := sampleConfig) rfl (.inl (steps_sampleEnd sampleEnd_intact)) .fecs).2 (.inr ?_)
  intro bytes hbytes
  left
  rw [← hbytes]
  rfl

/-- The saved copy of `fecs` fails its check, and the exit installs it. -/
theorem mismatch_installed : ∃ (hash : Content → String) (manifest : String → Option String) (c : Config)
    (w₀ w : World Vars) (rc : Nat) (x : Firmware), w₀.vars = {} ∧
      Prog.Steps (tensorEnv hash manifest) (run c, w₀) (.ret rc, w) ∧
        ¬ Acceptable hash manifest w₀ x (w.files x.path) := by
  refine ⟨sampleHash, sampleManifest, sampleConfig, sampleWorld [66], (sampleEnd [66]).2, 1, .fecs, rfl,
    (steps_sampleEnd sampleEnd_corrupted.1).mono fun _ _ _ _ h => h.1, ?_⟩
  rw [sampleEnd_corrupted.2]
  rintro (hold | ⟨bytes, hbytes, hsum⟩)
  · exact absurd hold (by decide)
  · cases hbytes
    exact absurd hsum (by decide)

end CmpUnlocker.TensorUnlock
