import CmpUnlocker.PcieGen2.Script

/-!
# The backup of the firmware files

Up to `MUTATING=1` no active firmware file is written.  From then on the backup directory holds what the active files
had at the start (`During`), whatever the copies left in them, and `restore_stock` gives every file its content back
(`restoreStock_meets`).
-/

namespace CmpUnlocker.PcieGen2

open Interaction Shell Guest

/-! ### The environment -/

/-- The active firmware files have the contents they had in the world `w₀`. -/
def Original (w₀ w : World Vars) : Prop := ∀ x : Firmware, w.files (w₀.links x.path) = w₀.files (w₀.links x.path)

/-- A source of the copies of `restore_stock`. -/
def Saved (c : Config) (w : World Vars) (source : String) : Prop :=
  ∃ x : Firmware, source = w.vars.backupDir ++ "/" ++ x.file ∨ source = c.stock x

/-- INT and TERM arrive anywhere, commands fail anywhere, but the copies of `restore_stock` succeed. -/
def gen2Env (hash : Content → String) (c : Config) : Env (Op Vars) Op.Answer (World Vars) := fun w o r w' =>
  env hash w o r w' ∧
    match o, r with
    | .tool .signal, some s => s ≠ .hup
    | .copy _ source _, status => Saved c w source → status = 0
    | _, _ => True

/-- Moreover, once the trap on exit has started, signals are only taken while the active files have the contents of
`w₀`. -/
def undisturbedEnv (hash : Content → String) (c : Config) (w₀ : World Vars) : Env (Op Vars) Op.Answer (World Vars) :=
  fun w o r w' =>
    gen2Env hash c w o r w' ∧
      match o, r with
      | .tool .signal, some _ => w.vars.exitTrap = true ∨ Original w₀ w
      | _, _ => True

section

variable {hash : Content → String} {c : Config} {w₀ : World Vars}

theorem undisturbed_env (w : World Vars) (o : Op Vars) (r : o.Answer) (w' : World Vars)
    (h : undisturbedEnv hash c w₀ w o r w') : env hash w o r w' :=
  h.1.1

/-! ### What holds on the main path -/

/-- No active file lies in the backup directory. -/
def Apart (w₀ w : World Vars) : Prop := ∀ x : Firmware, ¬ Under w.vars.backupDir (w₀.links x.path)

/-- Nothing has been written to an active file. -/
structure Before (w₀ w : World Vars) : Prop where
  links : w.links = w₀.links
  mutating : w.vars.mutating = false
  original : Original w₀ w
  apart : w.vars.backupDir = "" ∨ Apart w₀ w

/-- The active files may have been written; the backup directory holds their contents. -/
structure During (w₀ w : World Vars) : Prop where
  links : w.links = w₀.links
  mutating : w.vars.mutating = true
  active : ∀ x, w.vars.active x = w₀.links x.path
  resolved : ∀ x : Firmware, w₀.links x.path ≠ ""
  backupDir : w.vars.backupDir ≠ ""
  apart : Apart w₀ w
  saved : ∀ x : Firmware, w.files (w.vars.backupDir ++ "/" ++ x.file) = w₀.files (w₀.links x.path)
  present : ∀ x : Firmware, (w₀.files (w₀.links x.path)).isSome

/-- What `cleanup` can rely on. -/
def Ready (w₀ w : World Vars) : Prop := Before w₀ w ∨ During w₀ w

/-- The path of a firmware file is resolved. -/
structure Resolved (w₀ w : World Vars) (x : Firmware) : Prop where
  active : w.vars.active x = w₀.links x.path
  ne : w₀.links x.path ≠ ""
  present : (w₀.files (w₀.links x.path)).isSome

abbrev MeetsIn {α : Type} (E : Env (Op Vars) Op.Answer (World Vars)) (Q : α → World Vars → Prop)
    (X : Nat → World Vars → Prop) (p : Script Vars α) (w : World Vars) : Prop :=
  Prog.Meets E anyStep Q X p w

abbrev MeetsE {α : Type} (hash : Content → String) (c : Config) (w₀ : World Vars) (Q : α → World Vars → Prop)
    (X : Nat → World Vars → Prop) (p : Script Vars α) (w : World Vars) : Prop :=
  Prog.Meets (undisturbedEnv hash c w₀) anyStep Q X p w

/-- An assignment to variables that `restore_stock` does not read. -/
structure Neutral (f : Vars → Vars) : Prop where
  backupDir : ∀ v, (f v).backupDir = v.backupDir
  active : ∀ v, (f v).active = v.active
  mutating : ∀ v, (f v).mutating = v.mutating

theorem Before.assign {w : World Vars} (h : Before w₀ w) {f : Vars → Vars} (hf : Neutral f) :
    Before w₀ { w with vars := f w.vars } where
  links := h.links
  mutating := (hf.mutating w.vars).trans h.mutating
  original := h.original
  apart := by
    unfold Apart
    rw [hf.backupDir w.vars]
    exact h.apart

theorem During.assign {w : World Vars} (h : During w₀ w) {f : Vars → Vars} (hf : Neutral f) :
    During w₀ { w with vars := f w.vars } where
  links := h.links
  mutating := (hf.mutating w.vars).trans h.mutating
  active x := by
    rw [hf.active w.vars]
    exact h.active x
  resolved := h.resolved
  backupDir := by
    rw [hf.backupDir w.vars]
    exact h.backupDir
  apart := by
    unfold Apart
    rw [hf.backupDir w.vars]
    exact h.apart
  saved x := by
    rw [hf.backupDir w.vars]
    exact h.saved x
  present := h.present

theorem Resolved.assign {w : World Vars} {x : Firmware} (h : Resolved w₀ w x) {f : Vars → Vars} (hf : Neutral f) :
    Resolved w₀ { w with vars := f w.vars } x where
  active := by
    rw [hf.active w.vars]
    exact h.active
  ne := h.ne
  present := h.present

/-! ### Copies -/

/-- A copy into an active file keeps the saved contents. -/
theorem During.copied {w w' : World Vars} (h : During w₀ w) {argv : List String} {source : String} {x : Firmware}
    {status : Nat} (hcopy : env hash w (.copy argv source (w₀.links x.path)) status w') :
    During w₀ w' ∧ w'.vars = w.vars := by
  obtain ⟨⟨content, rfl⟩, -⟩ := hcopy
  refine ⟨{ h with saved := fun y => ?_ }, rfl⟩
  have hne : w.vars.backupDir ++ "/" ++ y.file ≠ w₀.links x.path := fun heq => h.apart x ⟨y.file, heq.symm⟩
  show Function.update w.files _ _ _ = _
  rw [Function.update_of_ne hne]
  exact h.saved y

/-- The content of one active file is that of the start. -/
def Restored (w₀ w : World Vars) (x : Firmware) : Prop := w.files (w₀.links x.path) = w₀.files (w₀.links x.path)

/-- A copy of `restore_stock` restores its file, and no other file loses its content by it. -/
theorem During.restored {w w' : World Vars} (h : During w₀ w) {argv : List String} {x : Firmware} {status : Nat}
    (hcopy : undisturbedEnv hash c w₀ w
      (.copy argv (w.vars.backupDir ++ "/" ++ x.file) (w₀.links x.path)) status w') :
    status = 0 ∧ During w₀ w' ∧ w'.vars = w.vars ∧ Restored w₀ w' x ∧ ∀ y, Restored w₀ w y → Restored w₀ w' y := by
  obtain ⟨⟨henv, hsaved⟩, -⟩ := hcopy
  have hstatus : status = 0 := hsaved ⟨x, .inl rfl⟩
  obtain ⟨hduring, hvars⟩ := h.copied henv
  obtain ⟨-, hok⟩ := henv
  obtain ⟨-, rfl⟩ := hok hstatus
  refine ⟨hstatus, hduring, hvars, ?_, fun y hy => ?_⟩
  · show Function.update w.files _ _ _ = _
    rw [Function.update_self, h.saved x]
  · show Function.update w.files _ _ _ = _
    by_cases hxy : w₀.links y.path = w₀.links x.path
    · rw [hxy, Function.update_self, h.saved x]
    · rw [Function.update_of_ne hxy]
      exact hy

/-- The checks keep this up to the backup. -/
structure Idle (w₀ w : World Vars) : Prop extends Before w₀ w where
  empty : w.vars.backupDir = ""

theorem Idle.assign {w : World Vars} (h : Idle w₀ w) {f : Vars → Vars} (hf : Neutral f) :
    Idle w₀ { w with vars := f w.vars } :=
  { h.toBefore.assign hf with empty := (hf.backupDir w.vars).trans h.empty }

/-- What holds behind the checks. -/
def Checked (w₀ w : World Vars) : Prop := Idle w₀ w ∧ ∀ x, Resolved w₀ w x

theorem Checked.ready {w : World Vars} (h : Checked w₀ w) : Ready w₀ w := .inl h.1.toBefore

theorem Checked.assign {w : World Vars} (h : Checked w₀ w) {f : Vars → Vars} (hf : Neutral f) :
    Checked w₀ { w with vars := f w.vars } :=
  ⟨h.1.assign hf, fun x => (h.2 x).assign hf⟩

/-- The backup directory holds the content of one active file. -/
def SavedIn (w₀ w : World Vars) (dir : String) (x : Firmware) : Prop :=
  w.files (dir ++ "/" ++ x.file) = w₀.files (w₀.links x.path)

/-- What holds while the active files are saved in the new directory `dir`, except those in `xs`. -/
structure Saving (w₀ : World Vars) (dir : String) (xs : List Firmware) (w : World Vars) : Prop extends Before w₀ w where
  resolvedAll : ∀ x, Resolved w₀ w x
  ne : dir ≠ ""
  dir_eq : w.vars.backupDir = dir
  apartDir : ∀ x : Firmware, ¬ Under dir (w₀.links x.path)
  saved : ∀ x, x ∉ xs → SavedIn w₀ w dir x

private theorem file_injective {dir : String} {x y : Firmware} (h : dir ++ "/" ++ x.file = dir ++ "/" ++ y.file) :
    x = y := by
  have hfile : x.file = y.file := by
    rw [String.append_assoc, String.append_assoc] at h
    exact String.append_right_inj _ |>.1 (String.append_right_inj _ |>.1 h)
  cases x <;> cases y <;> first | rfl | exact absurd hfile (by decide)

/-! ### The main path -/

section

variable {E : Env (Op Vars) Op.Answer (World Vars)} (hE : ∀ w o r w', E w o r w' → env hash w o r w')

include hE

/-- A routine leaves the world as it is. -/
theorem routine_meets {α : Type} (p : Routine α) {w : World Vars} {Q : α → World Vars → Prop}
    {X : Nat → World Vars → Prop} (hQ : ∀ a, Q a w) (hX : ∀ status, X status w) :
    MeetsIn E Q X (liftM p) w :=
  lift_meets hE p hQ hX

private theorem die_meets {α : Type} (message : String) {w : World Vars} {Q : α → World Vars → Prop}
    {X : Nat → World Vars → Prop} (hX : ∀ status, X status w) : MeetsIn E Q X (liftM (die message)) w := by
  unfold die
  rw [Prog.bind_eq, lift_bind]
  exact Prog.meets_seq.2 (routine_meets hE _ (fun _ => hX 1) hX)

theorem require_meets {condition : Bool} {message : String} {w : World Vars} {Q : Unit → World Vars → Prop}
    {X : Nat → World Vars → Prop} (hQ : condition = true → Q () w) (hX : ∀ status, X status w) :
    MeetsIn E Q X (liftM (require condition message)) w := by
  unfold require
  split
  · next h => exact hQ h
  · exact die_meets hE message hX

private theorem isPlainFile_meets {path : String} {w : World Vars} {Q : Bool → World Vars → Prop}
    {X : Nat → World Vars → Prop}
    (hfalse : Q false w) (htrue : path ≠ "" → (w.files path).isSome → Q true w) (hX : ∀ status, X status w) :
    MeetsIn E Q X (liftM (isPlainFile path)) w := by
  unfold isPlainFile
  rw [Prog.bind_eq, lift_bind]
  refine Prog.meets_seq.2 (sh_meets hE (fun file hr => ?_) fun s _ => hX s.status)
  obtain ⟨-, hfile⟩ := hE _ _ _ _ hr
  rw [lift_ite]
  refine Prog.meets_ite.2 ⟨fun htest => ?_, fun _ => hfalse⟩
  rw [htest] at hfile
  simp only [ne_eq, Bool.true_eq, Bool.and_eq_true, decide_not, Bool.not_eq_true', decide_eq_false_iff_not] at hfile
  rw [Prog.bind_eq, lift_bind]
  refine Prog.meets_seq.2 (routine_meets hE _ (fun link => ?_) hX)
  cases link with
  | false => exact htrue hfile.1 hfile.2
  | true => exact hfalse

/-- The file a path resolves to exists. -/
theorem resolveFirmware_meets {w : World Vars} (h : Idle w₀ w) (x : Firmware) :
    MeetsIn E (fun resolved w' => w' = w ∧ resolved = w₀.links x.path ∧ w₀.links x.path ≠ "" ∧
      (w₀.files (w₀.links x.path)).isSome) (fun _ w' => Ready w₀ w') (liftM (resolveFirmware x.path)) w := by
  have hready : Ready w₀ w := .inl h.toBefore
  unfold resolveFirmware
  rw [Prog.bind_eq, lift_bind]
  refine Prog.meets_seq.2 (sh_meets hE (fun resolved hr => ?_) fun _ _ => hready)
  obtain ⟨-, hresolved⟩ := hE _ _ _ _ hr
  cases resolved with
  | none => exact die_meets hE _ fun _ => hready
  | some resolved =>
    have hlink : resolved = w₀.links x.path := by
      rcases hresolved with hnone | hsome
      · cases hnone
      · rw [← h.links]
        exact Option.some.inj hsome
    subst hlink
    simp only [Prog.bind_eq, lift_bind]
    refine Prog.meets_seq.2 (isPlainFile_meets hE ?_ (fun hne hpresent => ?_) fun _ => hready)
    · exact Prog.meets_seq.2 (require_meets hE (fun hok => nomatch hok) fun _ => hready)
    · refine Prog.meets_seq.2 (require_meets hE (fun _ => ?_) fun _ => hready)
      rw [h.original x] at hpresent
      exact ⟨rfl, rfl, hne, hpresent⟩

/-- The paths of the firmware files are resolved one after the other. -/
theorem resolveActive_meets {w : World Vars} (h : Idle w₀ w) :
    MeetsIn E (fun _ w' => Idle w₀ w' ∧ ∀ x, Resolved w₀ w' x) (fun _ w' => Ready w₀ w')
      (Prog.forEach resolveActive Firmware.all) w := by
  refine (Prog.meets_forEach (I := fun xs w' => Idle w₀ w' ∧ ∀ x, x ∉ xs → Resolved w₀ w' x) ?_ ⟨h, ?_⟩).imp
    (fun _ w' hw' => ⟨hw'.1, fun x => hw'.2 x (by simp)⟩) fun _ _ hx => hx
  · rintro x xs w₁ ⟨hidle, hresolved⟩
    refine Prog.meets_seq.2 ((resolveFirmware_meets hE hidle x).imp ?_ fun _ _ hx => hx)
    rintro resolved w₂ ⟨rfl, rfl, hne, hpresent⟩
    have hidle₂ :
        Idle w₀ { w₂ with vars := { w₂.vars with active := Function.update w₂.vars.active x (w₀.links x.path) } } :=
      { hidle with }
    refine assign_meets hE ⟨hidle₂, fun y hy => ?_⟩ fun _ _ => .inl hidle₂.toBefore
    by_cases hyx : y = x
    · subst hyx
      exact ⟨Function.update_self _ _ _, hne, hpresent⟩
    · have hold := hresolved y (by simp [hyx, hy])
      refine ⟨?_, hold.ne, hold.present⟩
      show Function.update w₂.vars.active x _ y = _
      rw [Function.update_of_ne hyx]
      exact hold.active
  · intro x hx
    cases x <;> simp [Firmware.all] at hx

private theorem forEach_assertActive_meets {w : World Vars} {Q : Unit → World Vars → Prop} {X : Nat → World Vars → Prop}
    (hQ : Q () w) (hX : ∀ status, X status w) : MeetsIn E Q X (Prog.forEach assertActive Firmware.all) w := by
  refine (Prog.meets_forEach (I := fun _ w' => w' = w) ?_ rfl).imp (fun _ w' hw' => hw' ▸ hQ) fun _ _ hx => hx
  rintro x xs w₁ rfl
  refine Prog.meets_seq.2 (vars_meets hE ?_)
  refine Prog.meets_seq.2 (routine_meets hE _ (fun sum => ?_) hX)
  exact require_meets hE (fun _ => rfl) hX

private theorem idle_assign {f : Vars → Vars} {w : World Vars} {Q : Unit → World Vars → Prop} (h : Idle w₀ w)
    (hf : Neutral f)
    (hQ : ∀ w', Idle w₀ w' → Q () w') : MeetsIn E Q (fun _ w' => Ready w₀ w') (assign f) w :=
  assign_meets hE (hQ _ (h.assign hf)) fun _ _ => .inl (h.assign hf).toBefore

/-- A neutral assignment behind the checks. -/
theorem checked_assign {f : Vars → Vars} {w : World Vars} {Q : Unit → World Vars → Prop} (h : Checked w₀ w)
    (hf : Neutral f) (hQ : ∀ w', Checked w₀ w' → Q () w') :
    MeetsIn E Q (fun _ w' => Ready w₀ w') (assign f) w :=
  assign_meets hE (hQ _ (h.assign hf)) fun _ _ => (h.assign hf).ready

theorem checks_meets {w : World Vars} (h : Idle w₀ w) :
    MeetsIn E (fun _ w' => Checked w₀ w') (fun _ w' => Ready w₀ w') (checks c) w := by
  have hready : Ready w₀ w := .inl h.toBefore
  unfold checks
  refine Prog.meets_seq.2 (routine_meets hE _ (fun given => ?_) fun _ => hready)
  refine Prog.meets_seq.2 (routine_meets hE _ (fun manifest => ?_) fun _ => hready)
  refine Prog.meets_seq.2 (idle_assign hE h ⟨fun _ => rfl, fun _ => rfl, fun _ => rfl⟩ fun w₁ hw₁ => ?_)
  have hready₁ : Ready w₀ w₁ := .inl hw₁.toBefore
  refine Prog.meets_seq.2 (routine_meets hE _ (fun _ => ?_) fun _ => hready₁)
  refine Prog.meets_seq.2 ((resolveActive_meets hE hw₁).imp (fun _ w₂ hw₂ => ?_) fun _ _ hx => hx)
  have hchecked : Checked w₀ w₂ := hw₂
  refine Prog.meets_seq.2 (forEach_assertActive_meets hE ?_ fun _ => hchecked.ready)
  refine Prog.meets_seq.2 (routine_meets hE _ (fun _ => ?_) fun _ => hchecked.ready)
  refine Prog.meets_seq.2 (checked_assign hE hchecked ⟨fun _ => rfl, fun _ => rfl, fun _ => rfl⟩ fun w₃ hw₃ => ?_)
  refine Prog.meets_seq.2 (routine_meets hE _ (fun _ => ?_) fun _ => hw₃.ready)
  exact Prog.meets_seq.2 (routine_meets hE _ (fun _ => hw₃) fun _ => hw₃.ready)

private theorem stopService_meets (unit : String) {w : World Vars} (h : Checked w₀ w) :
    MeetsIn E (fun _ w' => Checked w₀ w') (fun _ w' => Ready w₀ w') (stopService unit) w := by
  unfold stopService
  refine Prog.meets_seq.2 (routine_meets hE _ (fun active => ?_) fun _ => h.ready)
  refine Prog.meets_ite.2 ⟨fun _ => ?_, fun _ => h⟩
  refine Prog.meets_seq.2 (checked_assign hE h ⟨fun _ => rfl, fun _ => rfl, fun _ => rfl⟩ fun w₁ hw₁ => ?_)
  refine Prog.meets_seq.2 (routine_meets hE _ (fun _ => ?_) fun _ => hw₁.ready)
  refine Prog.meets_seq.2 (routine_meets hE _ (fun _ => ?_) fun _ => hw₁.ready)
  exact routine_meets hE _ (fun _ => hw₁) fun _ => hw₁.ready

theorem stopPersistenced_meets {w : World Vars} (h : Checked w₀ w) :
    MeetsIn E (fun _ w' => Checked w₀ w') (fun _ w' => Ready w₀ w') stopPersistenced w := by
  unfold stopPersistenced
  have hstop : ∀ w₁, Checked w₀ w₁ → MeetsIn E (fun _ w' => Checked w₀ w') (fun _ w' => Ready w₀ w') (do
      let _ ← check ["systemctl", "stop", "nvidia-persistenced.service"]
      return ()) w₁ := fun w₁ hw₁ =>
    Prog.meets_seq.2 (routine_meets hE _ (fun _ => hw₁) fun _ => hw₁.ready)
  refine Prog.meets_seq.2 (routine_meets hE _ (fun active => ?_) fun _ => h.ready)
  refine Prog.meets_seq.2 (Prog.meets_when.2 ⟨fun _ => ?_, fun _ => hstop w h⟩)
  exact checked_assign hE h ⟨fun _ => rfl, fun _ => rfl, fun _ => rfl⟩ hstop

private theorem unloadModule_meets (module : String) {w : World Vars} (h : Checked w₀ w) :
    MeetsIn E (fun _ w' => Checked w₀ w') (fun _ w' => Ready w₀ w') (unloadModule module) w := by
  unfold unloadModule
  refine Prog.meets_seq.2 (routine_meets hE _ (fun loaded => ?_) fun _ => h.ready)
  refine Prog.meets_ite.2 ⟨fun _ => ?_, fun _ => h⟩
  refine Prog.meets_seq.2 (checked_assign hE h ⟨fun _ => rfl, fun _ => rfl, fun _ => rfl⟩ fun w₁ hw₁ => ?_)
  refine Prog.meets_seq.2 (routine_meets hE _ (fun _ => ?_) fun _ => hw₁.ready)
  refine Prog.meets_seq.2 (routine_meets hE _ (fun _ => ?_) fun _ => hw₁.ready)
  refine Prog.meets_seq.2 (routine_meets hE _ (fun _ => ?_) fun _ => hw₁.ready)
  exact Prog.meets_when.2 ⟨fun _ => routine_meets hE _ (fun _ => hw₁) fun _ => hw₁.ready, fun _ => hw₁⟩

theorem quiesce_meets (services : List String) {w : World Vars} (h : Checked w₀ w) :
    MeetsIn E (fun _ w' => Checked w₀ w') (fun _ w' => Ready w₀ w') (quiesce services) w := by
  unfold quiesce
  refine Prog.meets_seq.2 ((Prog.meets_forEach (I := fun _ w' => Checked w₀ w')
    (fun unit _ w' hw' => stopService_meets hE unit hw') h).imp (fun _ w₁ hw₁ => ?_) fun _ _ hx => hx)
  refine Prog.meets_seq.2 (routine_meets hE _ (fun _ => ?_) fun _ => hw₁.ready)
  refine Prog.meets_seq.2 ((stopPersistenced_meets hE hw₁).imp (fun _ w₂ hw₂ => ?_) fun _ _ hx => hx)
  refine Prog.meets_seq.2 ((Prog.meets_forEach (I := fun _ w' => Checked w₀ w')
    (fun module _ w' hw' => unloadModule_meets hE module hw') hw₂).imp (fun _ w₃ hw₃ => ?_) fun _ _ hx => hx)
  exact routine_meets hE _ (fun _ => hw₃) fun _ => hw₃.ready

/-! ### The backup -/

theorem saveActive_meets {dir : String} {x : Firmware} {xs : List Firmware} {w : World Vars}
    (h : Saving w₀ dir (x :: xs) w) :
    MeetsIn E (fun _ w' => Saving w₀ dir xs w') (fun _ w' => Ready w₀ w') (saveActive x) w := by
  unfold saveActive
  refine Prog.meets_seq.2 (vars_meets hE ?_)
  rw [h.dir_eq, (h.resolvedAll x).active]
  refine Prog.meets_seq.2 (copied_meets hE fun status w₁ hr => ?_)
  obtain ⟨⟨content, rfl⟩, hok⟩ := hE _ _ _ _ hr
  have hother : ∀ p, p ≠ dir ++ "/" ++ x.file →
      Function.update w.files (dir ++ "/" ++ x.file) content p = w.files p := fun p hp => Function.update_of_ne hp _ _
  have hbefore : Before w₀ { w with files := Function.update w.files (dir ++ "/" ++ x.file) content } := by
    refine { h.toBefore with original := fun y => ?_ }
    have hne : w₀.links y.path ≠ dir ++ "/" ++ x.file := fun heq => h.apartDir y ⟨x.file, heq⟩
    exact (hother _ hne).trans (h.original y)
  refine ⟨?_, fun _ _ => .inl hbefore⟩
  unfold ensure
  rw [lift_ite]
  refine Prog.meets_ite.2 ⟨fun hstatus => ?_, fun _ => .inl hbefore⟩
  obtain ⟨-, hw₁⟩ := hok hstatus
  refine { hbefore with
    resolvedAll := fun y => ?_, ne := h.ne, dir_eq := h.dir_eq, apartDir := h.apartDir, saved := fun y hy => ?_ }
  · exact ⟨(h.resolvedAll y).active, (h.resolvedAll y).ne, (h.resolvedAll y).present⟩
  · by_cases hyx : y = x
    · subst hyx
      have hfiles := congrArg (fun w' : World Vars => w'.files (dir ++ "/" ++ y.file)) hw₁
      simp only [Function.update_self] at hfiles
      show Function.update w.files (dir ++ "/" ++ y.file) content (dir ++ "/" ++ y.file) = _
      rw [Function.update_self, hfiles]
      exact h.original y
    · have hold := h.saved y (by simp [hyx, hy])
      exact (hother _ fun heq => hyx (file_injective heq)).trans hold

omit hE in
/-- A new directory is apart from the active files. -/
theorem Checked.saving {w : World Vars} (h : Checked w₀ w) {dir : String} (hne : dir ≠ "")
    (hempty : ∀ path, Under dir path → w.files path = none) :
    Saving w₀ dir Firmware.all { w with vars := { w.vars with backupDir := dir } } := by
  have hapart : ∀ x : Firmware, ¬ Under dir (w₀.links x.path) := by
    intro x hunder
    have hnone := hempty _ hunder
    rw [h.1.original x] at hnone
    have hpresent := (h.2 x).present
    rw [hnone] at hpresent
    cases hpresent
  exact { links := h.1.links, mutating := h.1.mutating, original := h.1.original, apart := .inr hapart,
          resolvedAll := fun x => ⟨(h.2 x).active, (h.2 x).ne, (h.2 x).present⟩, ne := hne, dir_eq := rfl,
          apartDir := hapart, saved := fun x hx => by cases x <;> simp [Firmware.all] at hx }

/-- The backup is complete before `MUTATING=1`. -/
theorem backup_meets {w : World Vars} (h : Checked w₀ w) :
    MeetsIn E (fun _ w' => During w₀ w') (fun _ w' => Ready w₀ w') backup w := by
  unfold backup
  refine Prog.meets_seq.2 (sh_meets hE (fun dir hr => ?_) fun _ _ => h.ready)
  obtain ⟨-, hnew⟩ := hE _ _ _ _ hr
  cases dir with
  | none => exact h.ready
  | some dir =>
    obtain ⟨hne, hempty⟩ := hnew dir rfl
    have hsaving := h.saving hne hempty
    refine Prog.meets_seq.2 (assign_meets hE ?_ fun _ _ => .inl hsaving.toBefore)
    refine Prog.meets_seq.2
      ((Prog.meets_forEach (I := Saving w₀ dir) (fun x xs w' hw' => saveActive_meets hE hw') hsaving).imp
      (fun _ w₁ hw₁ => ?_) fun _ _ hx => hx)
    have hduring : During w₀ { w₁ with vars := { w₁.vars with mutating := true } } :=
      { links := hw₁.links, mutating := rfl, active := fun x => (hw₁.resolvedAll x).active,
        resolved := fun x => (hw₁.resolvedAll x).ne, backupDir := by rw [hw₁.dir_eq]; exact hne,
        apart := fun x => by rw [hw₁.dir_eq]; exact hw₁.apartDir x,
        saved := fun x => by rw [hw₁.dir_eq]; exact hw₁.saved x (by simp),
        present := fun x => (hw₁.resolvedAll x).present }
    exact assign_meets hE hduring fun _ _ => .inr hduring

/-! ### The signed writes -/

private theorem during_routine {α : Type} (p : Routine α) {w : World Vars} {Q : α → World Vars → Prop} (h : During w₀ w)
    (hQ : ∀ a, Q a w) : MeetsIn E Q (fun _ w' => Ready w₀ w') (liftM p) w :=
  routine_meets hE p hQ fun _ => .inr h

private theorem copyContent_meets (errexit : Bool) {source : String} {x : Firmware} {w : World Vars} (h : During w₀ w)
    {Q : Nat → World Vars → Prop} (hQ : ∀ status w', During w₀ w' → w'.vars = w.vars → Q status w') :
    MeetsIn E Q (fun _ w' => Ready w₀ w') (copyContent errexit source (w.vars.active x)) w := by
  rw [h.active]
  refine Prog.meets_seq.2 (copied_meets hE fun status w₁ hr => ?_)
  obtain ⟨hduring, hvars⟩ := h.copied (hE _ _ _ _ hr)
  exact ⟨Prog.meets_ite.2 ⟨fun _ => .inr hduring, fun _ => hQ status w₁ hduring hvars⟩, fun _ _ => .inr hduring⟩

private theorem swapFirmware_meets (payload : String) {w : World Vars} (h : During w₀ w) :
    MeetsIn E (fun _ w' => During w₀ w') (fun _ w' => Ready w₀ w') (swapFirmware c payload) w := by
  unfold swapFirmware
  refine Prog.meets_seq.2 (vars_meets hE ?_)
  refine Prog.meets_seq.2 (copyContent_meets hE true h fun _ w₁ hw₁ hvars₁ => ?_)
  rw [← hvars₁]
  refine Prog.meets_seq.2 (copyContent_meets hE true hw₁ fun _ w₂ hw₂ hvars₂ => ?_)
  rw [← hvars₂]
  exact Prog.meets_seq.2 (copyContent_meets hE true hw₂ fun _ w₃ hw₃ _ => hw₃)

/-- However its copies end, `restore_stock` keeps the saved contents. -/
theorem restoreStock_during (errexit : Bool) {w : World Vars} (h : During w₀ w) {Q : Nat → World Vars → Prop}
    (hQ : ∀ status w', During w₀ w' → w'.vars = w.vars → Q status w') :
    MeetsIn E Q (fun _ w' => Ready w₀ w') (restoreStock c errexit) w := by
  unfold restoreStock
  refine Prog.meets_seq.2 (vars_meets hE ?_)
  refine Prog.meets_ite.2 ⟨fun _ => hQ 0 w h rfl, fun _ => ?_⟩
  rw [if_neg h.backupDir]
  refine Prog.meets_seq.2 (during_routine hE _ h fun saved => ?_)
  refine Prog.meets_seq.2 (copyContent_meets hE errexit h fun _ w₁ hw₁ hvars₁ => ?_)
  rw [← hvars₁]
  refine Prog.meets_seq.2 (copyContent_meets hE errexit hw₁ fun _ w₂ hw₂ hvars₂ => ?_)
  rw [← hvars₂]
  refine copyContent_meets hE errexit hw₂ fun status w₃ hw₃ hvars₃ => ?_
  exact hQ status w₃ hw₃ (hvars₃.trans (hvars₂.trans hvars₁))

private theorem applySignedWrite_meets (bdf payload label : String) {w : World Vars} (h : During w₀ w) :
    MeetsIn E (fun _ w' => During w₀ w') (fun _ w' => Ready w₀ w') (applySignedWrite c bdf payload label) w := by
  unfold applySignedWrite
  refine Prog.meets_seq.2 (during_routine hE _ h fun beforeCount => ?_)
  refine Prog.meets_seq.2 ((swapFirmware_meets hE payload h).imp (fun _ w₁ hw₁ => ?_) fun _ _ hx => hx)
  refine Prog.meets_seq.2 (during_routine hE _ hw₁ fun _ => ?_)
  refine Prog.meets_seq.2 (restoreStock_during hE true hw₁ fun _ w₂ hw₂ _ => ?_)
  exact during_routine hE _ hw₂ fun _ => hw₂

private theorem writeTarget_meets (bdf : String) {w : World Vars} (h : During w₀ w) :
    MeetsIn E (fun _ w' => During w₀ w') (fun _ w' => Ready w₀ w') (writeTarget c bdf) w := by
  unfold writeTarget
  refine Prog.meets_seq.2 ((applySignedWrite_meets hE bdf _ _ h).imp (fun _ w₁ hw₁ => ?_) fun _ _ hx => hx)
  refine Prog.meets_seq.2 ((applySignedWrite_meets hE bdf _ _ hw₁).imp (fun _ w₂ hw₂ => ?_) fun _ _ hx => hx)
  refine Prog.meets_seq.2 (during_routine hE _ hw₂ fun advertised => ?_)
  exact during_routine hE _ hw₂ fun _ => hw₂

private theorem mutate_meets (targets : List String) {w : World Vars} (h : During w₀ w) :
    MeetsIn E (fun _ w' => Ready w₀ w') (fun _ w' => Ready w₀ w') (mutate c targets) w := by
  unfold mutate
  refine Prog.meets_seq.2 ((Prog.meets_forEach (I := fun _ w' => During w₀ w')
    (fun bdf _ w' hw' => writeTarget_meets hE bdf hw') h).imp (fun _ w₁ hw₁ => ?_) fun _ _ hx => hx)
  refine Prog.meets_seq.2 ((Prog.meets_forEach (I := fun _ w' => During w₀ w')
    (fun bdf _ w' hw' => during_routine hE _ hw' fun _ => hw') hw₁).imp (fun _ w₂ hw₂ => ?_) fun _ _ hx => hx)
  refine Prog.meets_seq.2 (restoreStock_during hE true hw₂ fun _ w₃ hw₃ _ => ?_)
  refine Prog.meets_seq.2 (during_routine hE _ hw₃ fun _ => ?_)
  have hsuccess : During w₀ { w₃ with vars := { w₃.vars with success := true } } :=
    hw₃.assign (f := fun v => { v with success := true }) ⟨fun _ => rfl, fun _ => rfl, fun _ => rfl⟩
  refine Prog.meets_seq.2 (assign_meets hE ?_ fun _ _ => .inr hsuccess)
  exact during_routine hE _ hsuccess fun _ => .inr hsuccess

/-- However the main path ends, `cleanup` can rely on the backup. -/
theorem main_meets {w : World Vars} (h : Idle w₀ w) :
    MeetsIn E (fun _ w' => Ready w₀ w') (fun _ w' => Ready w₀ w') (main c) w := by
  unfold main
  refine Prog.meets_seq.2 ((checks_meets hE h).imp (fun found w₁ hw₁ => ?_) fun _ _ hx => hx)
  obtain ⟨targets, services⟩ := found
  refine Prog.meets_seq.2 (routine_meets hE _ (fun done => ?_) fun _ => hw₁.ready)
  refine Prog.meets_ite.2 ⟨fun _ => ?_, fun _ => ?_⟩
  · refine Prog.meets_seq.2 (routine_meets hE _ (fun _ => ?_) fun _ => hw₁.ready)
    exact Prog.meets_seq.2 (checked_assign hE hw₁ ⟨fun _ => rfl, fun _ => rfl, fun _ => rfl⟩ fun w₂ hw₂ => hw₂.ready)
  · refine Prog.meets_seq.2 ((quiesce_meets hE services hw₁).imp (fun _ w₂ hw₂ => ?_) fun _ _ hx => hx)
    refine Prog.meets_seq.2 ((backup_meets hE hw₂).imp (fun _ w₃ hw₃ => ?_) fun _ _ hx => hx)
    exact mutate_meets hE targets hw₃

/-! ### Behind the recovery -/

omit hE in
theorem Ready.assign {w : World Vars} (h : Ready w₀ w) {f : Vars → Vars} (hf : Neutral f) :
    Ready w₀ { w with vars := f w.vars } := by
  rcases h with h | h
  · exact .inl (h.assign hf)
  · exact .inr (h.assign hf)

omit hE in
theorem Ready.apart {w : World Vars} (h : Ready w₀ w) : w.vars.backupDir = "" ∨ Apart w₀ w := by
  rcases h with h | h
  · exact h.apart
  · exact .inr h.apart

/-- The variables and the active files are the same. -/
def Unchanged (w₀ w w' : World Vars) : Prop :=
  w'.vars = w.vars ∧ ∀ x : Firmware, w'.files (w₀.links x.path) = w.files (w₀.links x.path)

omit hE in
theorem Unchanged.refl (w₀ w : World Vars) : Unchanged w₀ w w := ⟨rfl, fun _ => rfl⟩

/-- Modules, services and messages leave the active files alone, and so does the removal of the backup. -/
theorem finish_meets (rc : Nat) (recovered : Bool) {w : World Vars} (hapart : w.vars.backupDir = "" ∨ Apart w₀ w) :
    MeetsIn E (fun _ w' => Unchanged w₀ w w') (fun _ w' => Unchanged w₀ w w') (finish c w.vars rc recovered) w := by
  have h : Unchanged w₀ w w := .refl w₀ w
  unfold finish
  refine Prog.meets_seq.2 (routine_meets hE _ (fun reloaded => ?_) fun _ => h)
  refine Prog.meets_seq.2 (routine_meets hE _ (fun _ => ?_) fun _ => h)
  refine Prog.meets_ite.2 ⟨fun _ => ?_, fun _ => ?_⟩
  · refine Prog.meets_seq.2 (routine_meets hE _ (fun _ => ?_) fun _ => h)
    exact Prog.meets_seq.2 (routine_meets hE _ (fun _ => h) fun _ => h)
  · -- The messages behind the removal of the backup.
    have hmessages : ∀ w₁, Unchanged w₀ w w₁ → MeetsIn E (fun _ w' => Unchanged w₀ w w')
        (fun _ w' => Unchanged w₀ w w') (do
          Prog.when (rc ≠ 0) (liftM (note ("FAILED (rc=" ++ toString rc ++ ", recovery_failed=0); inspect " ++ c.log)))
          Prog.when (rc = 0 ∧ w.vars.success) (liftM (note ("PASS; cleanup completed; log saved to " ++ c.log)))
          return rc) w₁ := by
      intro w₁ hw₁
      have hlast : MeetsIn E (fun _ w' => Unchanged w₀ w w') (fun _ w' => Unchanged w₀ w w') (do
          Prog.when (rc = 0 ∧ w.vars.success) (liftM (note ("PASS; cleanup completed; log saved to " ++ c.log)))
          return rc) w₁ :=
        Prog.meets_seq.2 (Prog.meets_when.2 ⟨fun _ => routine_meets hE _ (fun _ => hw₁) fun _ => hw₁, fun _ => hw₁⟩)
      exact Prog.meets_seq.2 (Prog.meets_when.2
        ⟨fun _ => routine_meets hE _ (fun _ => hlast) fun _ => hw₁, fun _ => hlast⟩)
    refine Prog.meets_seq.2 (Prog.meets_when.2 ⟨fun hdir => ?_, fun _ => hmessages w h⟩)
    refine Prog.meets_seq.2 (removed_meets hE fun status w' hr => ?_)
    obtain ⟨files, rfl, hfiles⟩ := hE _ _ _ _ hr
    have hremoved : Unchanged w₀ w { w with files := files } := ⟨rfl, fun x => hfiles _ (hapart.resolve_left hdir x)⟩
    exact ⟨hmessages _ hremoved, fun _ _ => hremoved⟩

end

/-- Where the backup is complete, `restore_stock` gives every active file its content back. -/
theorem restoreStock_meets (errexit : Bool) {w : World Vars} (h : During w₀ w) {X : Nat → World Vars → Prop}
    (hX : ∀ w', During w₀ w' → w'.vars = w.vars → ∀ s : Signal,
      undisturbedEnv hash c w₀ w' (.tool .signal) (some s) w' → X s.status w') :
    MeetsE hash c w₀ (fun _ w' => During w₀ w' ∧ w'.vars = w.vars ∧ Original w₀ w') X (restoreStock c errexit) w := by
  unfold restoreStock
  refine Prog.meets_seq.2 (vars_meets undisturbed_env ?_)
  refine Prog.meets_ite.2 ⟨fun hempty => ?_, fun _ => ?_⟩
  · rw [h.active, h.active, h.active] at hempty
    rcases hempty with hempty | hempty | hempty <;> exact absurd hempty (h.resolved _)
  · -- The backup directory is set and holds the first file.
    rw [if_neg h.backupDir]
    refine Prog.meets_seq.2 (sh_meets undisturbed_env (fun saved hr => ?_) fun s hs => hX w h rfl s hs)
    have hsaved : saved = true := by
      obtain ⟨-, hr⟩ := hr.1.1
      rw [hr, h.saved, h.present]
      simp
    subst hsaved
    have hcopy : ∀ (x : Firmware) (w₁ : World Vars), During w₀ w₁ → w₁.vars = w.vars →
        MeetsE hash c w₀ (fun _ w' => During w₀ w' ∧ w'.vars = w.vars ∧ Restored w₀ w' x ∧
          ∀ y, Restored w₀ w₁ y → Restored w₀ w' y) X
          (copyContent errexit (w.vars.backupDir ++ "/" ++ x.file) (w.vars.active x)) w₁ := by
      intro x w₁ hw₁ hvars
      rw [h.active, ← hvars]
      refine Prog.meets_seq.2 (copied_meets undisturbed_env fun status w₂ hr => ?_)
      obtain ⟨hstatus, hduring, hvars₂, hrestored, hkept⟩ := hw₁.restored hr
      refine ⟨Prog.meets_ite.2 ⟨fun hfailed => absurd hstatus hfailed.2, fun _ => ?_⟩, fun s hs => ?_⟩
      · exact ⟨hduring, hvars₂, hrestored, hkept⟩
      · exact hX w₂ hduring (hvars₂.trans hvars) s hs
    refine Prog.meets_seq.2 ((hcopy .fecs w h rfl).imp (fun _ w₁ hw₁ => ?_) fun _ _ hx => hx)
    obtain ⟨hduring₁, hvars₁, hfecs, -⟩ := hw₁
    refine Prog.meets_seq.2 ((hcopy .bl w₁ hduring₁ hvars₁).imp (fun _ w₂ hw₂ => ?_) fun _ _ hx => hx)
    obtain ⟨hduring₂, hvars₂, hbl, hkept₂⟩ := hw₂
    refine (hcopy .ucode w₂ hduring₂ hvars₂).imp (fun _ w₃ hw₃ => ?_) fun _ _ hx => hx
    obtain ⟨hduring₃, hvars₃, hucode, hkept₃⟩ := hw₃
    refine ⟨hduring₃, hvars₃, fun x => ?_⟩
    cases x with
    | fecs => exact hkept₃ _ (hkept₂ _ hfecs)
    | bl => exact hkept₃ _ hbl
    | ucode => exact hucode

end

end CmpUnlocker.PcieGen2
