import CmpUnlocker.HbmBoot.Script

/-!
# The lock directory of the HBM profile

Any number of instances of the script on one lock directory, interleaved at every command.  Every exit runs `rmdir`,
also that of an instance which found the directory taken, so the loser of the race removes the lock of the winner and a
third instance takes it (`two_holders`).  There is at most one holder as long as no instance that has not created the
directory removes it from a holder, and none takes it between the `rmdir` of a holder and its exit (`one_holder`).
-/

namespace CmpUnlocker.HbmBoot

open Interaction Shell

/-! ### Instances -/

/-- What one instance sees and has done: the lock directory, its variables, whether it has created the directory, and
whether it has removed it since. -/
structure View where
  dir : Bool
  vars : Vars := {}
  created : Bool := false
  removed : Bool := false
  deriving DecidableEq

/-- `mkdir` and `rmdir` are atomic, and may fail for other reasons than the directory. -/
def lockCommand (w : View) (argv : List String) (status : Nat) (w' : View) : Prop :=
  if argv = ["mkdir", lockDir] then
    status = 0 ∧ w.dir = false ∧ w' = { w with dir := true, created := true } ∨ status ≠ 0 ∧ w' = w
  else if argv = ["rmdir", lockDir] then
    status = 0 ∧ w.dir = true ∧ w' = { w with dir := false, removed := true } ∨ status ≠ 0 ∧ w' = w
  else w' = w

/-- Every other command is arbitrary. -/
def lockEnv : Env (Op Vars) Op.Answer View
  | w, .tool (.exec argv), r, w' => lockCommand w argv r.status w'
  | w, .get, r, w' => r = w.vars ∧ w' = w
  | w, .update f, _, w' => w' = { w with vars := f w.vars }
  | w, _, _, w' => w' = w

/-- An instance: what is left of its script, and its part of the view. -/
structure Instance where
  prog : Script Vars Nat
  vars : Vars := {}
  created : Bool := false
  removed : Bool := false

structure System (ι : Type) where
  dir : Bool
  inst : ι → Instance

namespace System

variable {ι : Type} [DecidableEq ι]

def view (s : System ι) (i : ι) : View :=
  { dir := s.dir, vars := (s.inst i).vars, created := (s.inst i).created, removed := (s.inst i).removed }

/-- The system after a step of instance `i`. -/
def put (s : System ι) (i : ι) (prog : Script Vars Nat) (v : View) : System ι where
  dir := v.dir
  inst := Function.update s.inst i { prog := prog, vars := v.vars, created := v.created, removed := v.removed }

end System

/-- An instance that has created the lock directory and has not exited. -/
def Holding {ι : Type} (s : System ι) (i : ι) : Prop :=
  (s.inst i).created = true ∧ ∃ o k, (s.inst i).prog = .call o k

/-- All instances at their first command; the directory may be there or not. -/
def Initial {ι : Type} (P : Python) (c : ι → Config) (s : System ι) : Prop :=
  ∀ i, s.inst i = { prog := run P (c i) }

/-- Some instance takes a step that `Allowed` permits. -/
inductive Reachable {ι : Type} [DecidableEq ι] (P : Python) (c : ι → Config)
    (Allowed : System ι → ι → Op Vars → Prop) : System ι → Prop
  | initial {s : System ι} (h : Initial P c s) : Reachable P c Allowed s
  | step {s : System ι} {i : ι} {o : Op Vars} {k : o.Answer → Script Vars Nat} {r : o.Answer} {v : View}
      (hs : Reachable P c Allowed s) (hprog : (s.inst i).prog = .call o k) (hallowed : Allowed s i o)
      (henv : lockEnv (s.view i) o r v) : Reachable P c Allowed (s.put i (k r) v)

/-- No instance runs `rmdir` without having created the directory while another one holds it, and none runs `mkdir`
while a holder has run `rmdir` and not exited. -/
def Disciplined {ι : Type} (s : System ι) (i : ι) (o : Op Vars) : Prop :=
  (o = .tool (.exec ["rmdir", lockDir]) → (s.inst i).created = false → ∀ j, ¬ Holding s j) ∧
    (o = .tool (.exec ["mkdir", lockDir]) → ∀ j, Holding s j → (s.inst j).removed = false)

section

variable {ι : Type} {P : Python} {c : ι → Config}

/-- The directory is there for a holder that has not removed it, and there is at most one holder. -/
structure Exclusive (s : System ι) : Prop where
  unique : ∀ i j, Holding s i → Holding s j → i = j
  present : ∀ i, Holding s i → (s.inst i).removed = false → s.dir = true

/-- The instance that takes a step holds the directory before it, if it has created it. -/
theorem holding_of_created {s : System ι} {i : ι} {o : Op Vars} {k : o.Answer → Script Vars Nat}
    (hprog : (s.inst i).prog = .call o k) (hcreated : (s.inst i).created = true) : Holding s i :=
  ⟨hcreated, o, k, hprog⟩

private theorem initial_exclusive {s : System ι} (h : Initial P c s) : Exclusive s := by
  have hnone : ∀ j, ¬ Holding s j := by
    intro j hj
    have hcreated := hj.1
    rw [h j] at hcreated
    cases hcreated
  exact ⟨fun j _ hj _ => absurd hj (hnone j), fun j hj _ => absurd hj (hnone j)⟩

variable [DecidableEq ι]

private theorem holding_put_of_ne {s : System ι} {i j : ι} {prog : Script Vars Nat} {v : View} (h : j ≠ i) :
    Holding (s.put i prog v) j ↔ Holding s j := by
  unfold Holding System.put
  simp only [Function.update_of_ne h]

private theorem inst_put_of_ne {s : System ι} {i j : ι} {prog : Script Vars Nat} {v : View} (h : j ≠ i) :
    (s.put i prog v).inst j = s.inst j :=
  Function.update_of_ne h _ _

/-- What a step does to the lock: nothing, a creation, or a removal. -/
theorem lockEnv_cases {w w' : View} {o : Op Vars} {r : o.Answer} (h : lockEnv w o r w') :
    (w'.dir = w.dir ∧ w'.created = w.created ∧ w'.removed = w.removed) ∨
      (o = .tool (.exec ["mkdir", lockDir]) ∧ w.dir = false ∧ w'.dir = true ∧ w'.created = true) ∨
      (o = .tool (.exec ["rmdir", lockDir]) ∧ w.dir = true ∧ w'.created = w.created ∧ w'.removed = true) := by
  cases o with
  | tool t =>
    cases t with
    | exec argv =>
      have hcommand : lockCommand w argv r.status w' := h
      unfold lockCommand at hcommand
      by_cases hmkdir : argv = ["mkdir", lockDir]
      · rw [if_pos hmkdir] at hcommand
        subst hmkdir
        rcases hcommand with ⟨-, hdir, rfl⟩ | ⟨-, rfl⟩
        · exact .inr (.inl ⟨rfl, hdir, rfl, rfl⟩)
        · exact .inl ⟨rfl, rfl, rfl⟩
      · rw [if_neg hmkdir] at hcommand
        by_cases hrmdir : argv = ["rmdir", lockDir]
        · rw [if_pos hrmdir] at hcommand
          subst hrmdir
          rcases hcommand with ⟨-, hdir, rfl⟩ | ⟨-, rfl⟩
          · exact .inr (.inr ⟨rfl, hdir, rfl, rfl⟩)
          · exact .inl ⟨rfl, rfl, rfl⟩
        · rw [if_neg hrmdir] at hcommand
          rw [hcommand]
          exact .inl ⟨rfl, rfl, rfl⟩
    | _ =>
      have hw : w' = w := h
      rw [hw]
      exact .inl ⟨rfl, rfl, rfl⟩
  | get =>
    obtain ⟨-, rfl⟩ := h
    exact .inl ⟨rfl, rfl, rfl⟩
  | update f =>
    have hw : w' = { w with vars := f w.vars } := h
    rw [hw]
    exact .inl ⟨rfl, rfl, rfl⟩
  | _ =>
    have hw : w' = w := h
    rw [hw]
    exact .inl ⟨rfl, rfl, rfl⟩

private theorem exclusive_step {s : System ι} {i : ι} {o : Op Vars} {k : o.Answer → Script Vars Nat} {r : o.Answer}
    {v : View}
    (h : Exclusive s) (hprog : (s.inst i).prog = .call o k) (hallowed : Disciplined s i o)
    (henv : lockEnv (s.view i) o r v) : Exclusive (s.put i (k r) v) := by
  have hself : (s.put i (k r) v).inst i = { prog := k r, vars := v.vars, created := v.created, removed := v.removed } :=
    Function.update_self _ _ _
  rcases lockEnv_cases henv with ⟨hdir, hcreated, hremoved⟩ | ⟨ho, hfree, hdir, hcreated⟩ |
    ⟨ho, hthere, hcreated, hremoved⟩
  · -- Holders after the step are holders before it.
    have hbefore : ∀ j, Holding (s.put i (k r) v) j → Holding s j := by
      intro j hj
      by_cases hji : j = i
      · subst hji
        apply holding_of_created hprog
        have hv : v.created = true := by simpa only [hself] using hj.1
        rw [hcreated] at hv
        exact hv
      · exact (holding_put_of_ne hji).1 hj
    refine ⟨fun j j' hj hj' => h.unique j j' (hbefore j hj) (hbefore j' hj'), fun j hj hrem => ?_⟩
    show v.dir = true
    rw [hdir]
    apply h.present j (hbefore j hj)
    by_cases hji : j = i
    · subst hji
      rw [hself] at hrem
      exact hremoved.symm.trans hrem
    · rw [inst_put_of_ne hji] at hrem
      exact hrem
  · -- The directory was free, so nobody held it.
    have hnone : ∀ j, ¬ Holding s j := by
      intro j hj
      have hpresent := h.present j hj (hallowed.2 ho j hj)
      rw [show s.dir = false from hfree] at hpresent
      cases hpresent
    have honly : ∀ j, Holding (s.put i (k r) v) j → j = i := by
      intro j hj
      by_contra hji
      exact hnone j ((holding_put_of_ne hji).1 hj)
    exact ⟨fun j j' hj hj' => (honly j hj).trans (honly j' hj').symm, fun _ _ _ => hdir⟩
  · cases hmine : (s.inst i).created with
    | false =>
      have hnone := hallowed.1 ho hmine
      have hafter : ∀ j, ¬ Holding (s.put i (k r) v) j := by
        intro j hj
        by_cases hji : j = i
        · subst hji
          have hv : v.created = true := by simpa only [hself] using hj.1
          rw [hcreated] at hv
          exact absurd (hmine.symm.trans hv) (by decide)
        · exact hnone j ((holding_put_of_ne hji).1 hj)
      exact ⟨fun j _ hj _ => absurd hj (hafter j), fun j hj _ => absurd hj (hafter j)⟩
    | true =>
      have hholding : Holding s i := holding_of_created hprog hmine
      have honly : ∀ j, Holding (s.put i (k r) v) j → j = i := by
        intro j hj
        by_contra hji
        exact hji (h.unique j i ((holding_put_of_ne hji).1 hj) hholding)
      refine ⟨fun j j' hj hj' => (honly j hj).trans (honly j' hj').symm, fun j hj hrem => ?_⟩
      rw [honly j hj, hself, show v.removed = true from hremoved] at hrem
      cases hrem

/-- If removals and creations keep the discipline, at most one instance is between its creation of the lock directory
and its exit. -/
theorem one_holder {s : System ι} (h : Reachable P c Disciplined s) {i j : ι} (hi : Holding s i) (hj : Holding s j) :
    i = j := by
  have hexclusive : Exclusive s := by
    clear hi hj
    induction h with
    | initial hinit => exact initial_exclusive hinit
    | step _ hprog hallowed henv ih => exact exclusive_step ih hprog hallowed henv
  exact hexclusive.unique i j hi hj

/-! ### Runs of single instances -/

namespace System

/-- Let one instance run as far as its commands are answered. -/
def after (answer : View → (o : Op Vars) → Option (o.Answer × View)) (s : System ι) (i : ι) : System ι :=
  s.put i ((s.inst i).prog.run answer (s.view i)).1 ((s.inst i).prog.run answer (s.view i)).2

private theorem view_put {s : System ι} {i : ι} {prog : Script Vars Nat} {v : View} : (s.put i prog v).view i = v := by
  unfold view put
  simp only [Function.update_self]

private theorem put_put {s : System ι} {i : ι} {prog prog' : Script Vars Nat} {v v' : View} :
    (s.put i prog v).put i prog' v' = s.put i prog' v' := by
  unfold put
  simp only [Function.update_idem]

end System

/-- A run of one instance; the others stay as they are in `s`. -/
theorem reachable_run {answer : View → (o : Op Vars) → Option (o.Answer × View)}
    {Allowed : System ι → ι → Op Vars → Prop} {s : System ι} {i : ι}
    (hanswer : ∀ p v o r v', answer v o = some (r, v') → Allowed (s.put i p v) i o ∧ lockEnv v o r v')
    (p : Script Vars Nat) {v : View} (hs : Reachable P c Allowed (s.put i p v)) :
    Reachable P c Allowed (s.put i (p.run answer v).1 (p.run answer v).2) := by
  induction p generalizing v with
  | ret a => exact hs
  | throw e => exact hs
  | call o k ih =>
    unfold Prog.run
    split
    · next r v' hr =>
      have hprog : ((s.put i (.call o k) v).inst i).prog = .call o k := by
        unfold System.put
        simp only [Function.update_self]
      obtain ⟨hallowed, henv⟩ := hanswer (.call o k) v o r v' hr
      have hstep := Reachable.step hs hprog hallowed (by rw [System.view_put]; exact henv)
      rw [System.put_put] at hstep
      exact ih r hstep
    · exact hs

theorem Reachable.after {answer : View → (o : Op Vars) → Option (o.Answer × View)}
    {Allowed : System ι → ι → Op Vars → Prop} {s : System ι} {i : ι}
    (hanswer : ∀ p v o r v', answer v o = some (r, v') → Allowed (s.put i p v) i o ∧ lockEnv v o r v')
    (hs : Reachable P c Allowed s) : Reachable P c Allowed (s.after answer i) := by
  have hput : s.put i (s.inst i).prog (s.view i) = s := by
    unfold System.put System.view
    simp only [Function.update_eq_self]
  apply reachable_run hanswer
  rw [hput]
  exact hs

end

/-! ### Two and three instances -/

def samplePython : Python where
  gpus _ := none
  float _ := none
  format _ := ""

def sampleConfig : Config := { uuids := "GPU-00000000-0000-0000-0000-000000000000" }

/-- The checks succeed, and a run stops at its first call of the tool. -/
def sampleExec (w : View) (argv : List String) : Option (Result × View) :=
  if argv = ["mkdir", lockDir] then
    if w.removed then none
    else if w.dir then some (⟨1, ""⟩, w)
    else some (⟨0, ""⟩, { w with dir := true, created := true })
  else if argv = ["rmdir", lockDir] then
    if w.dir then some (⟨0, ""⟩, { w with dir := false, removed := true }) else some (⟨1, ""⟩, w)
  else if argv.head? = some tool then none
  else some (⟨0, if argv = ["stat", "-c", "%a", tool] then "755" else "0"⟩, w)

def sampleAnswer (w : View) : (o : Op Vars) → Option (o.Answer × View)
  | .tool (.exec argv) => sampleExec w argv
  | .tool .signal => some (none, w)
  | .tool (.isFile _) => some (true, w)
  | .tool (.isLink _) => some (false, w)
  | .tool _ => none
  | .get => some (w.vars, w)
  | .update f => some ((), { w with vars := f w.vars })
  | .copy _ _ _ => none
  | .removeTree _ => none

private theorem sampleExec_env {w w' : View} {argv : List String} {r : Result} (h : sampleExec w argv = some (r, w')) :
    lockCommand w argv r.status w' ∧ (argv = ["mkdir", lockDir] → w.removed = false) := by
  unfold sampleExec at h
  unfold lockCommand
  by_cases hmkdir : argv = ["mkdir", lockDir]
  · rw [if_pos hmkdir] at h ⊢
    by_cases hremoved : w.removed = true
    · rw [if_pos hremoved] at h
      cases h
    · rw [if_neg hremoved] at h
      refine ⟨?_, fun _ => eq_false_of_ne_true hremoved⟩
      by_cases hdir : w.dir = true
      · rw [if_pos hdir] at h
        cases h
        exact .inr ⟨by decide, rfl⟩
      · rw [if_neg hdir] at h
        cases h
        exact .inl ⟨rfl, eq_false_of_ne_true hdir, rfl⟩
  · rw [if_neg hmkdir] at h ⊢
    refine ⟨?_, fun heq => absurd heq hmkdir⟩
    by_cases hrmdir : argv = ["rmdir", lockDir]
    · rw [if_pos hrmdir] at h ⊢
      by_cases hdir : w.dir = true
      · rw [if_pos hdir] at h
        cases h
        exact .inl ⟨rfl, hdir, rfl⟩
      · rw [if_neg hdir] at h
        cases h
        exact .inr ⟨by decide, rfl⟩
    · rw [if_neg hrmdir] at h ⊢
      by_cases htool : argv.head? = some tool
      · rw [if_pos htool] at h
        cases h
      · rw [if_neg htool] at h
        simp only [Option.some.injEq, Prod.mk.injEq] at h
        exact h.2.symm

theorem sampleAnswer_env {w w' : View} {o : Op Vars} {r : o.Answer} (h : sampleAnswer w o = some (r, w')) :
    lockEnv w o r w' ∧ (o = .tool (.exec ["mkdir", lockDir]) → w.removed = false) := by
  cases o with
  | tool t =>
    cases t with
    | exec argv =>
      obtain ⟨henv, hmkdir⟩ := sampleExec_env h
      refine ⟨henv, fun ho => hmkdir ?_⟩
      cases ho
      rfl
    | _ => simp_all [sampleAnswer, lockEnv]
  | get =>
    simp only [sampleAnswer, Option.some.injEq, Prod.mk.injEq] at h
    obtain ⟨rfl, rfl⟩ := h
    exact ⟨⟨rfl, rfl⟩, fun ho => nomatch ho⟩
  | _ => simp_all [sampleAnswer, lockEnv]

/-- All instances at their start, with no lock directory. -/
def sampleStart (ι : Type) : System ι := { dir := false, inst := fun _ => { prog := run samplePython sampleConfig } }

/-- `sampleAnswer`, and an instance that has not created the directory stops in front of its `rmdir`. -/
def patientAnswer (w : View) : (o : Op Vars) → Option (o.Answer × View)
  | .tool (.exec argv) =>
    if argv = ["rmdir", lockDir] ∧ w.created = false then none else sampleAnswer w (.tool (.exec argv))
  | o => sampleAnswer w o

private theorem patientAnswer_env {w w' : View} {o : Op Vars} {r : o.Answer} (h : patientAnswer w o = some (r, w')) :
    sampleAnswer w o = some (r, w') ∧ (o = .tool (.exec ["rmdir", lockDir]) → w.created = true) := by
  cases o with
  | tool t =>
    cases t with
    | exec argv =>
      simp only [patientAnswer] at h
      split at h
      · cases h
      · next hwait =>
        refine ⟨h, fun ho => ?_⟩
        cases ho
        simpa using hwait
    | _ => exact ⟨h, fun ho => nomatch ho⟩
  | _ => exact ⟨h, fun ho => nomatch ho⟩

/-- A patient instance keeps the discipline as long as the other instances have not removed the directory. -/
theorem patient_disciplined {s : System (Fin 2)} {i : Fin 2} (hothers : ∀ j, j ≠ i → (s.inst j).removed = false)
    (p : Script Vars Nat) (v : View) (o : Op Vars) (r : o.Answer) (v' : View) (h : patientAnswer v o = some (r, v')) :
    Disciplined (s.put i p v) i o ∧ lockEnv v o r v' := by
  obtain ⟨hsample, hcreated⟩ := patientAnswer_env h
  obtain ⟨henv, hmkdir⟩ := sampleAnswer_env hsample
  have hself : (s.put i p v).inst i = { prog := p, vars := v.vars, created := v.created, removed := v.removed } :=
    Function.update_self _ _ _
  refine ⟨⟨fun ho hfalse => ?_, fun ho j _ => ?_⟩, henv⟩
  · rw [hself, show v.created = true from hcreated ho] at hfalse
    cases hfalse
  · by_cases hji : j = i
    · rw [hji, hself]
      exact hmkdir ho
    · rw [inst_put_of_ne hji]
      exact hothers j hji

/-- The first instance creates the directory; the second has lost the race and stands in front of its `rmdir`. -/
theorem one_holder_pair : ∃ s : System (Fin 2), Reachable samplePython (fun _ => sampleConfig) Disciplined s ∧
    Holding s 0 ∧ (s.inst 1).created = false ∧ (∃ k, (s.inst 1).prog = .call (.tool (.exec ["rmdir", lockDir])) k) ∧
    ∀ i j, Holding s i → Holding s j → i = j := by
  have hstart : Reachable samplePython (fun _ => sampleConfig) Disciplined (sampleStart (Fin 2)) :=
    .initial fun _ => rfl
  have hfirst := hstart.after (patient_disciplined (i := 0) fun _ _ => rfl)
  have hsecond := hfirst.after (patient_disciplined (i := 1) fun j hj => by
    have hj0 : j = 0 := by omega
    rw [hj0]
    rfl)
  exact ⟨_, hsecond, ⟨rfl, _, _, rfl⟩, rfl, ⟨_, rfl⟩, fun i j hi hj => one_holder hsecond hi hj⟩

/-- The first instance creates the directory, the second loses the race and removes it, the third creates it again. -/
theorem two_holders : ∃ (P : Python) (c : Fin 3 → Config) (s : System (Fin 3)) (i j : Fin 3),
    Reachable P c (fun _ _ _ => True) s ∧ i ≠ j ∧ Holding s i ∧ Holding s j := by
  have hafter :
      ∀ {s : System (Fin 3)} (i : Fin 3), Reachable samplePython (fun _ => sampleConfig) (fun _ _ _ => True) s →
      Reachable samplePython (fun _ => sampleConfig) (fun _ _ _ => True) (s.after sampleAnswer i) := fun i hs =>
    hs.after fun _ _ _ _ _ h => ⟨trivial, (sampleAnswer_env h).1⟩
  have hstart : Reachable samplePython (fun _ => sampleConfig) (fun _ _ _ => True) (sampleStart (Fin 3)) :=
    .initial fun _ => rfl
  exact ⟨samplePython, fun _ => sampleConfig, _, 0, 2, hafter 2 (hafter 1 (hafter 0 hstart)), by decide,
    ⟨rfl, _, _, rfl⟩, ⟨rfl, _, _, rfl⟩⟩

end CmpUnlocker.HbmBoot
