import CmpUnlocker.PcieGen2.Backup
import CmpUnlocker.PcieGen2.Bounds

/-!
# What the main path of the Gen2 helper leaves

Whatever commands fail, at every point of the main path the list of modules that `cleanup` loads again has the modules
found loaded and those the script tries to remove, no active firmware file is written before `MUTATING=1`, and behind
the checks the hashes of the manifest are known (`Known`).  Where the main path ends every target was retrained
(`Finished`); it exits with status 0 only if nothing was to be done (`Aborted`).
-/

namespace CmpUnlocker.PcieGen2

open Interaction Shell Guest

/-- The requests of a run and their answers. -/
abbrev Trace : Type := List (@Event (Op Vars) Op.Answer)

/-! ### Commands for modules -/

/-- `grep -q "^${module} " /proc/modules` -/
def probe (module : String) : List String := ["grep", "-q", "^" ++ module ++ " ", "/proc/modules"]

/-- Neither a search for a module nor the removal of one. -/
def Silent : Tool → Prop
  | .exec argv => (∀ module, argv ≠ probe module) ∧ ∀ module, argv ≠ ["modprobe", "-r", module]
  | _ => True

/-- Moreover, the hook is not loaded. -/
def Settled (t : Tool) : Prop := Silent t ∧ ∀ args, t ≠ .exec ("insmod" :: args)

theorem Harmless.settled {t : Tool} (h : Harmless t) : Settled t := by
  refine ⟨?_, fun args ht => ?_⟩
  · cases t with
    | exec argv =>
      refine ⟨fun module hargv => ?_, fun module hargv => ?_⟩
      · rw [hargv] at h
        exact h (show "grep" ∈ moduleCommands by decide)
      · rw [hargv] at h
        exact h (show "modprobe" ∈ moduleCommands by decide)
    | _ => trivial
  · rw [ht] at h
    exact h (show "insmod" ∈ moduleCommands by decide)

/-- An assignment that keeps the modules, the targets, the recorded hashes and the flag. -/
def Keeps (f : Vars → Vars) : Prop := ∀ v, (f v).initiallyLoadedModules = v.initiallyLoadedModules ∧
  (f v).targets = v.targets ∧ (f v).stockSha = v.stockSha ∧ (f v).mutating = v.mutating

/-- The requests of most of the main path. -/
def SilentOp : Op Vars → Prop
  | .tool t => Silent t
  | .update f => Keeps f
  | _ => True

/-- Moreover, no file is written. -/
def QuietOp : Op Vars → Prop
  | .copy _ _ _ => False
  | o => SilentOp o

theorem QuietOp.silentOp {o : Op Vars} (h : QuietOp o) : SilentOp o := by
  cases o with
  | copy argv source target => exact False.elim h
  | _ => exact h

theorem calm_quiet {α : Type} {p : Routine α} (hp : Calm p) :
    Prog.Within QuietOp (· ≠ 0) (liftM p : Script Vars α) :=
  lift_within hp fun _ ht => ht.settled.1

private theorem quiet_assign {f : Vars → Vars} (h : Keeps f) : Prog.Within QuietOp (· ≠ 0) (assign f) :=
  assign_within trivial h

/-! ### What is left of the main path -/

/-- The modules found loaded, except the pending ones, and those that were to be removed are in the list that `cleanup`
loads again. -/
structure Seen (pending : List String) (v : World Vars × Trace) : Prop where
  found : ∀ module (r : Result), ⟨.tool (.exec (probe module)), r⟩ ∈ v.2 → r.status = 0 →
    module ∈ v.1.vars.initiallyLoadedModules ∨ module ∈ pending
  unloaded : ∀ module (r : Result), ⟨.tool (.exec ["modprobe", "-r", module]), r⟩ ∈ v.2 →
    module ∈ v.1.vars.initiallyLoadedModules

/-- No command has copied anything to an active firmware file. -/
def Unwritten (w₀ : World Vars) (t : Trace) : Prop :=
  ∀ argv source target status, ⟨.copy argv source target, status⟩ ∈ t → ∀ x : Firmware, target ≠ w₀.links x.path

/-- What every part of the main path keeps. -/
structure Track (w₀ : World Vars) (pending : List String) (v : World Vars × Trace) : Prop where
  seen : Seen pending v
  unwritten : v.1.vars.mutating = false → Unwritten w₀ v.2

/-- Moreover, the recorded hashes are those of the manifest. -/
structure Known (w₀ : World Vars) (c : Config) (manifest : String → String) (targets pending : List String)
    (v : World Vars × Trace) : Prop extends Track w₀ pending v where
  read : Prog.Occurs (liftM (readManifest c) : Script Vars _) (.ret manifest) v.2
  stockSha : ∀ x : Firmware, v.1.vars.stockSha x = manifest x.stockVariable
  targets_eq : v.1.vars.targets = targets

/-- What an exit from the main path leaves. -/
def Aborted (w₀ : World Vars) (rc : Nat) (v : World Vars × Trace) : Prop :=
  (rc = 0 → v.1.vars.mutating = false) ∧ (v.1.vars.mutating = false → Unwritten w₀ v.2)

section

variable {hash : Content → String} {c : Config} {w₀ : World Vars} {manifest : String → String}
  {targets pending : List String}

/-- Every answer that `env` allows. -/
theorem env_self (w : World Vars) (o : Op Vars) (r : o.Answer) (w' : World Vars) (h : env hash w o r w') :
    env hash w o r w' :=
  h

private theorem Track.aborted {rc : Nat} {v : World Vars × Trace} (h : Track w₀ pending v) (hrc : rc ≠ 0) :
    Aborted w₀ rc v :=
  ⟨fun hzero => absurd hzero hrc, h.unwritten⟩

/-- A request that is silent leaves the variables as `Keeps` says. -/
theorem silent_vars {w w' : World Vars} {o : Op Vars} {r : o.Answer} (ho : SilentOp o) (h : env hash w o r w') :
    w'.vars.initiallyLoadedModules = w.vars.initiallyLoadedModules ∧ w'.vars.targets = w.vars.targets ∧
      w'.vars.stockSha = w.vars.stockSha ∧ w'.vars.mutating = w.vars.mutating := by
  cases o with
  | tool t =>
    rw [env_tool h]
    exact ⟨rfl, rfl, rfl, rfl⟩
  | get =>
    obtain ⟨-, rfl⟩ := h
    exact ⟨rfl, rfl, rfl, rfl⟩
  | update f =>
    obtain rfl : w' = { w with vars := f w.vars } := h
    exact ho w.vars
  | copy argv source target =>
    obtain ⟨⟨content, rfl⟩, -⟩ := h
    exact ⟨rfl, rfl, rfl, rfl⟩
  | removeTree path =>
    obtain ⟨files, rfl, -⟩ := h
    exact ⟨rfl, rfl, rfl, rfl⟩

private theorem exec_event_inj {argv argv' : List String} {r r' : Result}
    (h : (⟨.tool (.exec argv), r⟩ : @Event (Op Vars) Op.Answer) = ⟨.tool (.exec argv'), r'⟩) :
    argv = argv' ∧ r = r' := by
  cases h
  exact ⟨rfl, rfl⟩

/-- One more event, which is accounted for. -/
theorem Seen.append {pending' : List String} {v v' : World Vars × Trace} {e : @Event (Op Vars) Op.Answer}
    (h : Seen pending v) (htrace : v'.2 = v.2 ++ [e])
    (hmodules : ∀ module ∈ v.1.vars.initiallyLoadedModules, module ∈ v'.1.vars.initiallyLoadedModules)
    (hpending : ∀ module ∈ pending, module ∈ v'.1.vars.initiallyLoadedModules ∨ module ∈ pending')
    (hfound : ∀ module (r : Result), e = ⟨.tool (.exec (probe module)), r⟩ → r.status = 0 →
      module ∈ v'.1.vars.initiallyLoadedModules ∨ module ∈ pending')
    (hunloaded : ∀ module (r : Result), e = ⟨.tool (.exec ["modprobe", "-r", module]), r⟩ →
      module ∈ v'.1.vars.initiallyLoadedModules) : Seen pending' v' := by
  constructor
  · intro module r hmem hstatus
    rw [htrace] at hmem
    rcases List.mem_append.1 hmem with hmem | hmem
    · rcases h.found module r hmem hstatus with hm | hm
      · exact .inl (hmodules module hm)
      · exact hpending module hm
    · exact hfound module r (List.mem_singleton.1 hmem).symm hstatus
  · intro module r hmem
    rw [htrace] at hmem
    rcases List.mem_append.1 hmem with hmem | hmem
    · exact hmodules module (h.unloaded module r hmem)
    · exact hunloaded module r (List.mem_singleton.1 hmem).symm

theorem Seen.step {v v' : World Vars × Trace} {o : Op Vars} {r : o.Answer} (h : Seen pending v) (ho : SilentOp o)
    (hr : logged (env hash) v o r v') : Seen pending v' := by
  have hmodules := (silent_vars ho hr.1).1
  refine h.append hr.2 (fun module hm => ?_) (fun module hm => .inr hm) (fun module r' he _ => ?_)
    fun module r' he => ?_
  · rw [hmodules]
    exact hm
  · cases he
    exact absurd rfl (ho.1 module)
  · cases he
    exact absurd rfl (ho.2 module)

theorem Unwritten.append {t t' : Trace} {e : @Event (Op Vars) Op.Answer} (h : Unwritten w₀ t)
    (he : ∀ argv source target, e.1 = .copy argv source target → ∀ x : Firmware, target ≠ w₀.links x.path)
    (htrace : t' = t ++ [e]) : Unwritten w₀ t' := by
  intro argv source target status hmem
  rw [htrace] at hmem
  rcases List.mem_append.1 hmem with hmem | hmem
  · exact h argv source target status hmem
  · rw [← List.mem_singleton.1 hmem] at he
    exact he argv source target rfl

theorem Track.quiet {v v' : World Vars × Trace} {o : Op Vars} {r : o.Answer} (h : Track w₀ pending v) (ho : QuietOp o)
    (hr : logged (env hash) v o r v') : Track w₀ pending v' := by
  refine ⟨h.seen.step ho.silentOp hr, fun hmutating => ?_⟩
  rw [(silent_vars ho.silentOp hr.1).2.2.2] at hmutating
  refine (h.unwritten hmutating).append (fun argv source target ht => ?_) hr.2
  have ht : o = .copy argv source target := ht
  rw [ht] at ho
  exact False.elim ho

theorem Known.step {v v' : World Vars × Trace} {o : Op Vars} {r : o.Answer} (h : Known w₀ c manifest targets pending v)
    (ho : SilentOp o) (hr : logged (env hash) v o r v') (htrack : Track w₀ pending v') :
    Known w₀ c manifest targets pending v' := by
  obtain ⟨-, htargets, hsha, -⟩ := silent_vars ho hr.1
  refine { htrack with read := ?_, stockSha := fun x => ?_, targets_eq := ?_ }
  · rw [hr.2]
    exact h.read.append_right _
  · rw [hsha]
    exact h.stockSha x
  · rw [htargets]
    exact h.targets_eq

theorem Known.quiet {v v' : World Vars × Trace} {o : Op Vars} {r : o.Answer} (h : Known w₀ c manifest targets pending v)
    (ho : QuietOp o) (hr : logged (env hash) v o r v') : Known w₀ c manifest targets pending v' :=
  h.step ho.silentOp hr (h.toTrack.quiet ho hr)

/-! ### The main path -/

abbrev MeetsL {α : Type} (hash : Content → String) (Q : α → World Vars × Trace → Prop)
    (X : Nat → World Vars × Trace → Prop) (p : Script Vars α) (v : World Vars × Trace) : Prop :=
  Prog.Meets (logged (env hash)) unguarded Q X p v

theorem track_quiet {α : Type} {p : Script Vars α} (hp : Prog.Within QuietOp (· ≠ 0) p) {v : World Vars × Trace}
    (h : Track w₀ pending v) {Q : α → World Vars × Trace → Prop} (hQ : ∀ a v', Track w₀ pending v' → Q a v') :
    MeetsL hash Q (Aborted w₀) p v :=
  (hp.meets (fun _ _ _ _ ho hv hr => hv.quiet ho hr) h).imp hQ fun _ _ hx => hx.2.aborted hx.1

private theorem known_quiet {α : Type} {p : Script Vars α} (hp : Prog.Within QuietOp (· ≠ 0) p) {v : World Vars × Trace}
    (h : Known w₀ c manifest targets pending v) {Q : α → World Vars × Trace → Prop}
    (hQ : ∀ a v', Known w₀ c manifest targets pending v' → Q a v') : MeetsL hash Q (Aborted w₀) p v :=
  (hp.meets (fun _ _ _ _ ho hv hr => hv.quiet ho hr) h).imp hQ fun _ _ hx => hx.2.toTrack.aborted hx.1

/-- An assignment, and the signal that may be taken behind it. -/
theorem assign_stable {I : World Vars × Trace → Prop} {f : Vars → Vars} {v : World Vars × Trace}
    (hstable : ∀ v o r v', QuietOp o → I v → logged (env hash) v o r v' → I v')
    (h : I ({ v.1 with vars := f v.1.vars }, v.2 ++ [⟨.update f, ()⟩])) :
    MeetsL hash (fun _ v' => I v') (fun rc v' => rc ≠ 0 ∧ I v') (assign f) v := by
  rintro r ⟨w', t'⟩ ⟨hr, ht⟩
  obtain rfl : w' = { v.1 with vars := f v.1.vars } := hr
  obtain rfl : t' = v.2 ++ [⟨.update f, r⟩] := ht
  exact ⟨trivial, (lift_taken_within trivial).meets hstable h⟩

private theorem assign_known {f : Vars → Vars} {v : World Vars × Trace} {Q : Unit → World Vars × Trace → Prop}
    (h : Known w₀ c manifest targets pending ({ v.1 with vars := f v.1.vars }, v.2 ++ [⟨.update f, ()⟩]))
    (hQ : ∀ v', Known w₀ c manifest targets pending v' → Q () v') : MeetsL hash Q (Aborted w₀) (assign f) v :=
  (assign_stable (fun _ _ _ _ ho hv hr => hv.quiet ho hr) h).imp (fun _ => hQ)
    fun _ _ hx => hx.2.toTrack.aborted hx.1

theorem Track.update {pending' : List String} {v : World Vars × Trace} (h : Track w₀ pending v) {f : Vars → Vars}
    (hmodules : ∀ module ∈ v.1.vars.initiallyLoadedModules, module ∈ (f v.1.vars).initiallyLoadedModules)
    (hpending : ∀ module ∈ pending, module ∈ (f v.1.vars).initiallyLoadedModules ∨ module ∈ pending')
    (hmutating : (f v.1.vars).mutating = false → v.1.vars.mutating = false) :
    Track w₀ pending' ({ v.1 with vars := f v.1.vars }, v.2 ++ [⟨.update f, ()⟩]) := by
  refine ⟨h.seen.append rfl hmodules hpending (fun _ _ he => nomatch he) (fun _ _ he => nomatch he), fun hflag => ?_⟩
  exact (h.unwritten (hmutating hflag)).append (e := ⟨.update f, ()⟩) (fun _ _ _ ht => nomatch ht) rfl

private theorem quiet_resolveActive (x : Firmware) : Prog.Within QuietOp (· ≠ 0) (resolveActive x) :=
  (calm_quiet (calm_resolveFirmware _)).bind fun _ => quiet_assign fun _ => ⟨rfl, rfl, rfl, rfl⟩

private theorem quiet_assertActive (x : Firmware) : Prog.Within QuietOp (· ≠ 0) (assertActive x) :=
  (vars_within trivial).bind fun _ => (calm_quiet (calm_shaOf _)).bind fun _ => calm_quiet (calm_require _ _)

/-- Behind the checks the hashes of the manifest and the targets are known. -/
theorem checks_known {v : World Vars × Trace} (h : Track w₀ [] v) :
    MeetsL hash (fun found v' => ∃ manifest, Known w₀ c manifest found.1 [] v') (Aborted w₀) (checks c) v := by
  unfold checks
  refine Prog.meets_seq.2 (track_quiet (calm_quiet (calm_preflight c)) h fun given v₁ hv₁ => ?_)
  obtain ⟨bdfs, services⟩ := given
  have hread := (@track_quiet hash _ _ _ _ (calm_quiet (calm_readManifest c)) _ hv₁
    (fun _ v' => Track w₀ [] v') fun _ _ hv => hv).and (Prog.played _ v₁)
  refine Prog.meets_seq.2 (hread.imp (fun manifest v₂ hv₂ => ?_) fun _ _ hx => hx.1)
  obtain ⟨htrack, s, htrace, hplays⟩ := hv₂
  have hoccurs : Prog.Occurs (liftM (readManifest c) : Script Vars _) (.ret manifest) v₂.2 := by
    rw [htrace]
    exact hplays.occurs.append_left _
  refine Prog.meets_seq.2 (@assign_known _ c w₀ manifest v₂.1.vars.targets [] _ _ _ ?_ fun v₃ hv₃ => ?_)
  · have hupdate := @Track.update _ _ [] _ htrack (fun v => { v with stockSha := fun x => manifest x.stockVariable })
      (fun _ hm => hm) (fun _ hm => .inr hm) fun hm => hm
    exact { hupdate with read := hoccurs.append_right _, stockSha := fun _ => rfl, targets_eq := rfl }
  refine Prog.meets_seq.2 (known_quiet (calm_quiet (calm_verifyFiles c manifest)) hv₃ fun _ v₄ hv₄ => ?_)
  refine Prog.meets_seq.2 (known_quiet (.forEach fun x _ => quiet_resolveActive x) hv₄ fun _ v₅ hv₅ => ?_)
  refine Prog.meets_seq.2 (known_quiet (.forEach fun x _ => quiet_assertActive x) hv₅ fun _ v₆ hv₆ => ?_)
  refine Prog.meets_seq.2 (known_quiet (calm_quiet (calm_require _ _)) hv₆ fun _ v₇ hv₇ => ?_)
  -- The line of the allow-list is split into the targets.
  let found := (Text.words Text.isBlank (Text.cut ['\n'] bdfs.toList).1).map String.ofList
  refine Prog.meets_seq.2 (@assign_known _ c w₀ manifest found [] _ _ _ ?_ fun v₈ hv₈ => ?_)
  · have hupdate := @Track.update _ _ [] _ hv₇.toTrack (fun v => { v with targets := found })
      (fun _ hm => hm) (fun _ hm => .inr hm) fun hm => hm
    exact { hupdate with read := hv₇.read.append_right _, stockSha := hv₇.stockSha, targets_eq := rfl }
  refine Prog.meets_seq.2 (known_quiet (calm_quiet (calm_require _ _)) hv₈ fun _ v₉ hv₉ => ?_)
  exact Prog.meets_seq.2 (known_quiet (calm_quiet (calm_checkTargets _ _)) hv₉ fun _ v' hv' => ⟨manifest, hv'⟩)

/-! ### Quiescing the GPUs -/

private theorem quiet_stopService (unit : String) : Prog.Within QuietOp (· ≠ 0) (stopService unit) := by
  refine (calm_quiet (calm_check "systemctl" _ (by decide))).bind fun active => ?_
  refine .ite (fun _ => ?_) fun _ => trivial
  refine (quiet_assign fun _ => ⟨rfl, rfl, rfl, rfl⟩).bind fun _ => ?_
  refine (calm_quiet (calm_say _)).bind fun _ => ?_
  exact (calm_quiet (calm_check "timeout" _ (by decide))).bind fun stopped => calm_quiet (calm_require _ _)

private theorem quiet_stopPersistenced : Prog.Within QuietOp (· ≠ 0) stopPersistenced := by
  refine (calm_quiet (calm_check "systemctl" _ (by decide))).bind fun active => ?_
  refine Prog.Within.bind (.when fun _ => quiet_assign fun _ => ⟨rfl, rfl, rfl, rfl⟩) fun _ => ?_
  exact (calm_quiet (calm_check "systemctl" _ (by decide))).bind fun _ => trivial

private theorem probe_injective {module module' : String} (h : probe module = probe module') : module = module' := by
  simp only [probe, List.cons.injEq, true_and, and_true] at h
  exact String.append_right_inj _ |>.1 (String.append_left_inj _ |>.1 h)

/-- A module found loaded is pending until it is in the list. -/
theorem probe_known (module : String) {v : World Vars × Trace} (h : Known w₀ c manifest targets [] v) :
    MeetsL hash (fun loaded v' => Known w₀ c manifest targets (if loaded then [module] else []) v') (Aborted w₀)
      (liftM (check (probe module))) v := by
  rintro r ⟨w', t'⟩ ⟨hr, ht⟩
  obtain rfl : w' = v.1 := env_tool hr
  obtain rfl : t' = v.2 ++ [⟨.tool (.exec (probe module)), r⟩] := ht
  have hknown : Known w₀ c manifest targets (if r.status == 0 then [module] else [])
      (v.1, v.2 ++ [⟨.tool (.exec (probe module)), r⟩]) := by
    refine { h with seen := ?_, unwritten := fun hflag => ?_, read := h.read.append_right _ }
    · refine h.seen.append rfl (fun _ hm => hm) (fun _ hm => nomatch hm) (fun module' r' he hstatus => ?_)
        fun module' r' he => ?_
      · obtain ⟨hargv, rfl⟩ := exec_event_inj he
        rw [probe_injective hargv, hstatus]
        exact .inr (List.mem_singleton.2 rfl)
      · obtain ⟨hargv, -⟩ := exec_event_inj he
        simp [probe] at hargv
    · exact (h.unwritten hflag).append (e := ⟨.tool (.exec (probe module)), r⟩) (fun _ _ _ ht => nomatch ht) rfl
  refine ⟨trivial, fun s v₂ hr₂ => ⟨trivial, ?_⟩⟩
  have hknown₂ := hknown.quiet (o := .tool .signal) trivial hr₂
  cases s with
  | none => exact hknown₂
  | some s => exact hknown₂.toTrack.aborted (by cases s <;> decide)

/-- What holds while a module of the list is removed. -/
structure Listed (w₀ : World Vars) (c : Config) (manifest : String → String) (targets : List String) (module : String)
    (v : World Vars × Trace) : Prop extends Known w₀ c manifest targets [] v where
  listed : module ∈ v.1.vars.initiallyLoadedModules

theorem Listed.quiet {module : String} {v v' : World Vars × Trace} {o : Op Vars} {r : o.Answer}
    (h : Listed w₀ c manifest targets module v) (ho : QuietOp o) (hr : logged (env hash) v o r v') :
    Listed w₀ c manifest targets module v' := by
  refine { h.toKnown.quiet ho hr with listed := ?_ }
  rw [(silent_vars ho.silentOp hr.1).1]
  exact h.listed

private theorem listed_quiet {α : Type} {module : String} {p : Script Vars α} (hp : Prog.Within QuietOp (· ≠ 0) p)
    {v : World Vars × Trace} (h : Listed w₀ c manifest targets module v) {Q : α → World Vars × Trace → Prop}
    (hQ : ∀ a v', Listed w₀ c manifest targets module v' → Q a v') : MeetsL hash Q (Aborted w₀) p v :=
  (hp.meets (fun _ _ _ _ ho hv hr => hv.quiet ho hr) h).imp hQ fun _ _ hx => hx.2.toTrack.aborted hx.1

private theorem unloadAttempts_within (module : String) (attempts : List String) :
    Prog.Within (fun t => t = .exec ["modprobe", "-r", module] ∨ Silent t) (· ≠ 0)
      (unloadAttempts module attempts) := by
  induction attempts with
  | nil => trivial
  | cons attempt attempts ih =>
    refine (check_within (.inr trivial) (.inl rfl)).bind fun unloaded => ?_
    refine .ite (fun _ => trivial) fun _ => ?_
    exact (must_within (.inr trivial) (.inr (harmless_exec (by decide)).settled.1)).bind fun _ => ih

/-- A module of the list may be removed. -/
theorem unloadAttempts_listed (module : String) (attempts : List String) {v : World Vars × Trace}
    (h : Listed w₀ c manifest targets module v) :
    MeetsL hash (fun _ v' => Listed w₀ c manifest targets module v') (Aborted w₀)
      (liftM (unloadAttempts module attempts)) v := by
  have hwithin : Prog.Within (fun o => o = .tool (.exec ["modprobe", "-r", module]) ∨ QuietOp o) (· ≠ 0)
      (liftM (unloadAttempts module attempts) : Script Vars Unit) := by
    refine lift_within (unloadAttempts_within module attempts) fun t ht => ?_
    rcases ht with rfl | ht
    · exact .inl rfl
    · exact .inr ht
  refine (hwithin.meets ?_ h).imp (fun _ _ hv => hv) fun _ _ hx => hx.2.toTrack.aborted hx.1
  rintro v₁ o r ⟨w₂, t₂⟩ ho hv₁ hr
  rcases ho with rfl | ho
  · obtain ⟨hw, ht⟩ := hr
    obtain rfl : w₂ = v₁.1 := env_tool hw
    obtain rfl : t₂ = v₁.2 ++ [⟨.tool (.exec ["modprobe", "-r", module]), r⟩] := ht
    refine { hv₁ with seen := ?_, unwritten := fun hflag => ?_, read := hv₁.read.append_right _ }
    · refine hv₁.seen.append rfl (fun _ hm => hm) (fun _ hm => nomatch hm) (fun module' r' he _ => ?_)
        fun module' r' he => ?_
      · obtain ⟨hargv, -⟩ := exec_event_inj he
        simp [probe] at hargv
      · obtain ⟨hargv, -⟩ := exec_event_inj he
        cases hargv
        exact hv₁.listed
    · exact (hv₁.unwritten hflag).append (e := ⟨.tool (.exec ["modprobe", "-r", module]), r⟩)
        (fun _ _ _ ht => nomatch ht) rfl
  · exact hv₁.quiet ho hr

private theorem unloadModule_known (module : String) {v : World Vars × Trace} (h : Known w₀ c manifest targets [] v) :
    MeetsL hash (fun _ v' => Known w₀ c manifest targets [] v') (Aborted w₀) (unloadModule module) v := by
  unfold unloadModule
  refine Prog.meets_seq.2 ((probe_known module h).imp (fun loaded v₁ hv₁ => ?_) fun _ _ hx => hx)
  cases loaded with
  | false => exact hv₁
  | true =>
    have hassign : MeetsL hash (fun _ v' => Listed w₀ c manifest targets module v') (Aborted w₀)
        (assign fun v => { v with initiallyLoadedModules := v.initiallyLoadedModules ++ [module] }) v₁ := by
      have hupdate := @Track.update _ _ [] _ hv₁.toTrack
        (fun v => { v with initiallyLoadedModules := v.initiallyLoadedModules ++ [module] })
        (fun _ hm => List.mem_append_left _ hm) (fun _ hm => .inl (List.mem_append_right _ hm)) fun hm => hm
      refine (assign_stable (fun _ _ _ _ ho hv hr => hv.quiet ho hr) ?_).imp (fun _ _ hv => hv)
        fun _ _ hx => hx.2.toTrack.aborted hx.1
      have hknown : Known w₀ c manifest targets [] ({ v₁.1 with vars := { v₁.1.vars with
          initiallyLoadedModules := v₁.1.vars.initiallyLoadedModules ++ [module] } }, _) :=
        { hupdate with read := hv₁.read.append_right _, stockSha := hv₁.stockSha, targets_eq := hv₁.targets_eq }
      exact { hknown with listed := List.mem_append_right _ (List.mem_singleton.2 rfl) }
    rw [if_pos rfl]
    refine Prog.meets_seq.2 (hassign.imp (fun _ v₂ hv₂ => ?_) fun _ _ hx => hx)
    refine Prog.meets_seq.2 (listed_quiet (calm_quiet (calm_rounds 10)) hv₂ fun attempts v₃ hv₃ => ?_)
    refine Prog.meets_seq.2 ((unloadAttempts_listed module attempts hv₃).imp (fun _ v₄ hv₄ => ?_) fun _ _ hx => hx)
    refine Prog.meets_seq.2 (listed_quiet
      (calm_quiet (sh_within (A := Harmless) (t := .isDir _) trivial trivial)) hv₄ fun remains v₅ hv₅ => ?_)
    refine listed_quiet (.when fun _ => calm_quiet ?_) hv₅ fun _ v₆ hv₆ => hv₆.toKnown
    exact (calm_must "python3" _ (by decide)).bind fun _ => calm_die _

private theorem quiesce_known (services : List String) {v : World Vars × Trace} (h : Known w₀ c manifest targets [] v) :
    MeetsL hash (fun _ v' => Known w₀ c manifest targets [] v') (Aborted w₀) (quiesce services) v := by
  unfold quiesce
  refine Prog.meets_seq.2 (known_quiet (.forEach fun unit _ => quiet_stopService unit) h fun _ v₁ hv₁ => ?_)
  refine Prog.meets_seq.2 (known_quiet (calm_quiet calm_checkClients) hv₁ fun _ v₂ hv₂ => ?_)
  refine Prog.meets_seq.2 (known_quiet quiet_stopPersistenced hv₂ fun _ v₃ hv₃ => ?_)
  refine Prog.meets_seq.2 ((Prog.meets_forEach (I := fun _ v' => Known w₀ c manifest targets [] v')
    (fun module _ v' hv' => unloadModule_known module hv') hv₃).imp (fun _ v₄ hv₄ => ?_) fun _ _ hx => hx)
  have hnouveau : Silent (.exec ["modprobe", "nouveau"]) := by
    refine ⟨fun module hargv => ?_, fun module hargv => ?_⟩
    · simp [probe] at hargv
    · simp at hargv
  exact known_quiet (lift_within (must_within (A := Silent) trivial hnouveau) fun _ ht => ht) hv₄ fun _ v₅ hv₅ => hv₅

/-! ### The backup and the signed writes -/

/-- A copy into the backup directory is no copy to an active file. -/
theorem saveActive_known {dir : String} {x : Firmware} {xs : List Firmware} {v : World Vars × Trace}
    (hsaving : Saving w₀ dir (x :: xs) v.1) (h : Known w₀ c manifest targets [] v) :
    MeetsL hash (fun _ v' => Known w₀ c manifest targets [] v') (Aborted w₀) (saveActive x) v := by
  unfold saveActive
  refine Prog.meets_seq.2 ?_
  rintro vars v₁ ⟨⟨rfl, hw⟩, ht⟩
  have hknown₁ : Known w₀ c manifest targets [] v₁ := 
    @Known.quiet hash _ _ _ _ _ _ _ .get _ h trivial ⟨⟨rfl, hw⟩, ht⟩
  refine ⟨trivial, Prog.meets_seq.2 ?_⟩
  rintro status v₂ hr₂
  have hknown₂ : Known w₀ c manifest targets [] v₂ := by
    refine hknown₁.step (o := .copy _ _ _) trivial hr₂
      ⟨hknown₁.seen.step (o := .copy _ _ _) trivial hr₂, fun hflag => ?_⟩
    rw [(silent_vars (o := .copy _ _ _) trivial hr₂.1).2.2.2] at hflag
    refine (hknown₁.unwritten hflag).append (fun argv source target ho y hy => ?_) hr₂.2
    cases ho
    rw [hsaving.dir_eq] at hy
    exact hsaving.apartDir y ⟨x.file, hy.symm⟩
  refine ⟨trivial, known_quiet ((lift_taken_within trivial).bind fun _ => Prog.within_ret _) hknown₂
    fun status' v₃ hv₃ => ?_⟩
  exact known_quiet (lift_within (ensure_within (A := fun _ => False) _) fun _ ht => ht.elim) hv₃ fun _ v₄ hv₄ => hv₄

/-- What a quiet part of the script does to the world. -/
theorem known_world {α : Type} {p : Script Vars α} (hp : Prog.Within QuietOp (· ≠ 0) p) {v : World Vars × Trace}
    (h : Known w₀ c manifest targets pending v) {P : α → World Vars → Prop} {X : Nat → World Vars → Prop}
    (hworld : Prog.Meets (env hash) anyStep P X p v.1) {Q : α → World Vars × Trace → Prop}
    (hQ : ∀ a v', Known w₀ c manifest targets pending v' → P a v'.1 → Q a v') : MeetsL hash Q (Aborted w₀) p v :=
  ((known_quiet hp h (Q := fun _ v' => Known w₀ c manifest targets pending v') fun _ _ hv => hv).and
    (hworld.logged v.2)).imp (fun a v' hv => hQ a v' hv.1 hv.2.1) fun _ _ hx => hx.1

/-- The backup sets the flag last. -/
theorem backup_known {v : World Vars × Trace} (hchecked : Checked w₀ v.1) (h : Known w₀ c manifest targets [] v) :
    MeetsL hash (fun _ v' => Known w₀ c manifest targets [] v' ∧ v'.1.vars.mutating = true) (Aborted w₀) backup v := by
  unfold backup
  have hdir : MeetsIn (env hash) (fun found w' => ∀ dir, found = some dir →
      Saving w₀ dir Firmware.all { w' with vars := { w'.vars with backupDir := dir } }) (fun _ _ => True)
      (liftM (sh (.tempDir "/run/cmp100-pcie.XXXXXX"))) v.1 := by
    refine sh_meets env_self (fun found hr dir hfound => ?_) fun _ _ => trivial
    obtain ⟨hne, hempty⟩ := hr.2 dir hfound
    exact hchecked.saving hne hempty
  refine Prog.meets_seq.2 (known_world (calm_quiet (sh_within (A := Harmless) (t := .tempDir _) trivial trivial)) h hdir
    fun found v₁ hv₁ hsaving => ?_)
  cases found with
  | none => exact hv₁.toTrack.aborted (by decide)
  | some dir =>
    refine Prog.meets_seq.2
      (known_world (quiet_assign (f := fun v => { v with backupDir := dir }) fun _ => ⟨rfl, rfl, rfl, rfl⟩)
      hv₁ (assign_meets env_self (f := fun v => { v with backupDir := dir }) (X := fun _ _ => True)
        (Q := fun _ w' => Saving w₀ dir Firmware.all w') (hsaving dir rfl) fun _ _ => trivial)
          fun _ v₂ hv₂ hsaving₂ => ?_)
    have hloop := Prog.meets_forEach (E := logged (env hash)) (G := unguarded) (X := Aborted w₀) (f := saveActive)
      (I := fun xs v' => Known w₀ c manifest targets [] v' ∧ Saving w₀ dir xs v'.1) (fun x xs v' hv' =>
        ((saveActive_known hv'.2 hv'.1).and ((saveActive_meets env_self hv'.2).logged v'.2)).imp
          (fun _ _ hv => ⟨hv.1, hv.2.1⟩) fun _ _ hx => hx.1) ⟨hv₂, hsaving₂⟩
    refine Prog.meets_seq.2 (hloop.imp (fun _ v₃ hv₃ => ?_) fun _ _ hx => hx)
    have hupdate := @Track.update _ _ [] _ hv₃.1.toTrack (fun v => { v with mutating := true })
      (fun _ hm => hm) (fun _ hm => .inr hm) fun hm => nomatch hm
    have hknown : Known w₀ c manifest targets [] ({ v₃.1 with vars := { v₃.1.vars with mutating := true } }, _) :=
      { hupdate with read := hv₃.1.read.append_right _, stockSha := hv₃.1.stockSha, targets_eq := hv₃.1.targets_eq }
    refine (assign_stable (I := fun v' => Known w₀ c manifest targets [] v' ∧ v'.1.vars.mutating = true)
      ?_ ⟨hknown, rfl⟩).imp (fun _ _ hv => hv) fun _ _ hx => hx.2.1.toTrack.aborted hx.1
    rintro v₅ o r v₆ ho ⟨hv₅, hflag⟩ hr
    exact ⟨hv₅.quiet ho hr, (silent_vars ho.silentOp hr.1).2.2.2.trans hflag⟩

private theorem silent_copyContent (errexit : Bool) (source target : String) :
    Prog.Within SilentOp (· ≠ 0) (copyContent errexit source target) :=
  (copied_within trivial trivial).bind fun _ => .ite (fun h => h.2) fun _ => trivial

theorem calm_silent {α : Type} {p : Routine α} (hp : Calm p) :
    Prog.Within SilentOp (· ≠ 0) (liftM p : Script Vars α) :=
  (calm_quiet hp).mono fun _ => QuietOp.silentOp

theorem silent_restoreStock (errexit : Bool) : Prog.Within SilentOp (· ≠ 0) (restoreStock c errexit) := by
  refine (vars_within trivial).bind fun v => ?_
  refine .ite (fun _ => trivial) fun _ => ?_
  have hcopies : ∀ saved : Bool, Prog.Within SilentOp (· ≠ 0) (do
      let source (x : Firmware) : String := if saved then v.backupDir ++ "/" ++ x.file else c.stock x
      let _ ← copyContent errexit (source .fecs) (v.active .fecs)
      let _ ← copyContent errexit (source .bl) (v.active .bl)
      copyContent errexit (source .ucode) (v.active .ucode)) := by
    intro saved
    refine (silent_copyContent _ _ _).bind fun _ => ?_
    exact (silent_copyContent _ _ _).bind fun _ => silent_copyContent _ _ _
  split
  · exact hcopies false
  · exact (calm_silent (sh_within (A := Harmless) (t := .isFile _) trivial trivial)).bind hcopies

private theorem silent_armHook (bdf label : String) :
    Prog.Within SilentOp (· ≠ 0) (liftM (armHook c bdf label) : Script Vars Nat) := by
  refine lift_within (A := Silent) ?_ fun _ ht => ht
  have calm : ∀ {α : Type} {p : Routine α}, Calm p → Prog.Within Silent (· ≠ 0) p := fun hp =>
    hp.mono fun _ ht => ht.settled.1
  refine (calm (calm_busNumber bdf)).bind fun bus => ?_
  refine (calm (calm_say _)).bind fun _ => ?_
  refine (calm (calm_writes _ _)).bind fun _ => ?_
  refine (calm (calm_writes _ _)).bind fun _ => ?_
  refine (calm (calm_driverOf bdf)).bind fun driver => ?_
  refine (calm (calm_require _ _)).bind fun _ => ?_
  refine (calm (calm_mmioReadAt bdf _)).bind fun tensor => ?_
  refine (calm (calm_require _ _)).bind fun _ => ?_
  refine (calm calm_removeHook).bind fun _ => ?_
  refine (must_within trivial ⟨fun module hargv => ?_, fun module hargv => ?_⟩).bind fun _ => calm calm_bootReturns
  · simp [probe] at hargv
  · simp at hargv

private theorem silent_writeTarget (bdf : String) : Prog.Within SilentOp (· ≠ 0) (writeTarget c bdf) := by
  have happly : ∀ payload label, Prog.Within SilentOp (· ≠ 0) (applySignedWrite c bdf payload label) := by
    intro payload label
    refine (silent_armHook bdf label).bind fun beforeCount => ?_
    refine Prog.Within.bind (p := swapFirmware c payload) ?_ fun _ => ?_
    · refine (vars_within trivial).bind fun v => ?_
      refine (silent_copyContent _ _ _).bind fun _ => ?_
      refine (silent_copyContent _ _ _).bind fun _ => ?_
      exact (silent_copyContent _ _ _).bind fun _ => trivial
    · refine (calm_silent (calm_bootNouveau bdf label beforeCount)).bind fun _ => ?_
      exact (silent_restoreStock true).bind fun _ => calm_silent (calm_handBack c bdf payload label)
  refine (happly _ _).bind fun _ => ?_
  refine (happly _ _).bind fun _ => ?_
  exact (calm_silent (calm_nvidiaMaxGen bdf)).bind fun advertised => calm_silent (calm_require _ _)

private theorem silent_mutate (found : List String) : Prog.Within SilentOp (· ≠ 0) (mutate c found) := by
  refine Prog.Within.bind (.forEach fun bdf _ => silent_writeTarget bdf) fun _ => ?_
  refine Prog.Within.bind (.forEach fun bdf _ => calm_silent (calm_retrainOne bdf)) fun _ => ?_
  refine (silent_restoreStock true).bind fun _ => ?_
  refine (calm_silent calm_removeHook).bind fun _ => ?_
  refine (assign_within trivial fun _ => ⟨rfl, rfl, rfl, rfl⟩).bind fun _ => ?_
  exact calm_silent calm_inventory

/-- A run of `mutate` to its end retrains every target. -/
theorem mutate_plays {found : List String} {s : Trace} (h : Prog.Plays (mutate c found) s (.ret ())) :
    ∀ bdf ∈ found, Prog.Occurs (liftM (retrainOne bdf) : Script Vars Unit) (.ret ()) s := by
  obtain ⟨s₁, s', _, rfl, -, h⟩ := Prog.plays_bind_ret.1 h
  obtain ⟨s₂, s₃, _, rfl, hretrain, -⟩ := Prog.plays_bind_ret.1 h
  intro bdf hbdf
  exact ((Prog.plays_forEach hretrain bdf hbdf).append_right s₃).append_left s₁

/-- What holds where the main path ends. -/
structure Finished (w₀ : World Vars) (c : Config) (v : World Vars × Trace) : Prop where
  known : ∃ manifest, Known w₀ c manifest v.1.vars.targets [] v
  retrained : ∀ bdf ∈ v.1.vars.targets, Prog.Occurs (liftM (retrainOne bdf) : Script Vars Unit) (.ret ()) v.2

private theorem mutate_finished {v : World Vars × Trace} (h : Known w₀ c manifest targets [] v)
    (hflag : v.1.vars.mutating = true) :
    MeetsL hash (fun _ v' => Finished w₀ c v') (Aborted w₀) (mutate c targets) v := by
  have hsilent : MeetsL hash (fun _ v' => Known w₀ c manifest targets [] v')
      (Aborted w₀) (mutate c targets) v := by
    refine ((silent_mutate targets).meets (I := fun v' => Known w₀ c manifest targets [] v' ∧
      v'.1.vars.mutating = true) ?_ ⟨h, hflag⟩).imp (fun _ _ hv => hv.1) fun _ _ hx => hx.2.1.toTrack.aborted hx.1
    rintro v₁ o r v₂ ho ⟨hv₁, hflag₁⟩ hr
    have hflag₂ := (silent_vars ho hr.1).2.2.2.trans hflag₁
    exact ⟨hv₁.step ho hr ⟨hv₁.seen.step ho hr, fun hzero => by rw [hflag₂] at hzero; cases hzero⟩, hflag₂⟩
  refine (hsilent.and (Prog.played _ v)).imp (fun _ v' hv' => ?_) fun _ _ hx => hx.1
  obtain ⟨hknown, s, htrace, hplays⟩ := hv'
  refine ⟨⟨manifest, ?_⟩, ?_⟩
  · rw [hknown.targets_eq]
    exact hknown
  · rw [hknown.targets_eq, htrace]
    exact fun bdf hbdf => (mutate_plays hplays bdf hbdf).append_left _

/-- The main path: its end, and its exits. -/
theorem main_finished {v : World Vars × Trace} (hidle : Idle w₀ v.1) (h : Track w₀ [] v) :
    MeetsL hash (fun _ v' => Finished w₀ c v') (Aborted w₀) (main c) v := by
  unfold main
  have hchecks := (@checks_known hash c _ _ h).and ((checks_meets (c := c) env_self hidle).logged v.2)
  refine Prog.meets_seq.2 (hchecks.imp (fun found v₁ hv₁ => ?_) fun _ _ hx => hx.1)
  obtain ⟨targets, services⟩ := found
  obtain ⟨⟨manifest, hv₁⟩, hchecked, -⟩ := hv₁
  refine Prog.meets_seq.2 (known_world (calm_quiet (calm_allDone targets)) hv₁
    (routine_meets env_self (Q := fun _ w' => Checked w₀ w') (X := fun _ _ => True) _ (fun _ => hchecked)
      fun _ => trivial)
    fun done v₂ hv₂ hchecked₂ => ?_)
  refine Prog.meets_ite.2 ⟨fun _ => ?_, fun _ => ?_⟩
  · -- Nothing to do: the only exit of the main path with status 0.
    refine Prog.meets_seq.2 (known_world (calm_quiet (calm_say _)) hv₂ (routine_meets env_self
      (Q := fun _ w' => Checked w₀ w') (X := fun _ _ => True) _ (fun _ => hchecked₂) fun _ => trivial)
      fun _ v₃ hv₃ hchecked₃ => ?_)
    have hassign : MeetsIn (env hash) (fun _ w' => Checked w₀ w') (fun _ _ => True)
        (assign fun v => { v with success := true }) v₃.1 :=
      assign_meets env_self (hchecked₃.assign (f := fun v => { v with success := true })
        ⟨fun _ => rfl, fun _ => rfl, fun _ => rfl⟩) fun _ _ => trivial
    refine Prog.meets_seq.2 (known_world
      (quiet_assign (f := fun v => { v with success := true }) fun _ => ⟨rfl, rfl, rfl, rfl⟩) hv₃ hassign
      fun _ v₄ hv₄ hchecked₄ => ?_)
    exact ⟨fun _ => hchecked₄.1.mutating, hv₄.unwritten⟩
  · have hquiesce := (@quiesce_known hash _ _ _ _ services _ hv₂).and
      ((quiesce_meets env_self services hchecked₂).logged v₂.2)
    refine Prog.meets_seq.2 (hquiesce.imp (fun _ v₃ hv₃ => ?_) fun _ _ hx => hx.1)
    refine Prog.meets_seq.2 ((backup_known hv₃.2.1 hv₃.1).imp (fun _ v₄ hv₄ => ?_) fun _ _ hx => hx)
    exact mutate_finished hv₄.1 hv₄.2

end

end CmpUnlocker.PcieGen2
