import CmpUnlocker.PcieGen2.Recovery
import CmpUnlocker.PcieGen2.Track

/-!
# Exit status 0 of the Gen2 helper

Whatever commands fail, on the main path and in `cleanup`, and whatever signals arrive, a run that has set `MUTATING`
exits with status 0 only if the active firmware files have the recorded hashes, the hook is gone, every target was
rebound and retrained, and every module found loaded was loaded again; and a run that has not set it has written no
active file (`status_zero_after_mutating`).
-/

namespace CmpUnlocker.PcieGen2

open Interaction Shell Guest

/-! ### What is observed -/

/-- Requests that neither load the hook nor look for a module or remove one, nor copy a file. -/
def SettledOp : Op Vars → Prop
  | .tool t => Settled t
  | o => QuietOp o

/-- The directory of the hook module is gone, and the hook is not loaded after that. -/
def HookAbsent (t : Trace) : Prop :=
  ∃ t₁ t₂, t = t₁ ++ ⟨.tool (.isDir hookModule), false⟩ :: t₂ ∧ ∀ e ∈ t₂, SettledOp e.1

/-- The module is loaded, and no module is removed after that. -/
def Reloaded (module : String) (t : Trace) : Prop :=
  ∃ t₁ r t₂, t = t₁ ++ ⟨.tool (.exec ["modprobe", module]), r⟩ :: t₂ ∧ Result.status r = 0 ∧ ∀ e ∈ t₂, SettledOp e.1

/-- The active firmware files have the recorded hashes. -/
def Stock (hash : Content → String) (w₀ : World Vars) (sha : Firmware → String) (w : World Vars) : Prop :=
  ∀ x : Firmware, ∃ content, w.files (w₀.links x.path) = some content ∧ hash content = sha x

/-- The driver of the device was seen to be NVIDIA's, and the device in the list of `nvidia-smi`. -/
def SeenBound (bdf : String) (t : Trace) : Prop :=
  ∃ s : List (Event Tool.Answer), (∀ e ∈ s, (⟨.tool e.1, e.2⟩ : @Event (Op Vars) Op.Answer) ∈ t) ∧
    ReadDriver bdf "nvidia" s ∧ ReadListed bdf s

/-- What a run has done that has set the flag and exits with 0. -/
structure Passed (hash : Content → String) (c : Config) (w₀ w : World Vars) (t : Trace) : Prop where
  firmware : ∃ manifest, Prog.Occurs (liftM (readManifest c) : Script Vars _) (.ret manifest) t ∧
    Stock hash w₀ (fun x => manifest x.stockVariable) w
  hook : HookAbsent t
  rebound : ∀ bdf ∈ w.vars.targets, Prog.Occurs (liftM (rebindNvidia bdf) : Script Vars Bool) (.ret true) t
  loaded : ∀ module (r : Result), ⟨.tool (.exec (probe module)), r⟩ ∈ t → r.status = 0 → Reloaded module t
  unloaded : ∀ module (r : Result), ⟨.tool (.exec ["modprobe", "-r", module]), r⟩ ∈ t → Reloaded module t
  retrained : ∀ bdf ∈ w.vars.targets, Prog.Occurs (liftM (retrainOne bdf) : Script Vars Unit) (.ret ()) t

section

variable {hash : Content → String} {c : Config} {w₀ : World Vars}

private theorem SettledOp.quietOp {o : Op Vars} (h : SettledOp o) : QuietOp o := by
  cases o with
  | tool t => exact h.1
  | _ => exact h

private theorem seenBound_of_rebound {bdf : String} {t : Trace}
    (h : Prog.Occurs (liftM (rebindNvidia bdf) : Script Vars Bool) (.ret true) t) : SeenBound bdf t := by
  obtain ⟨t₁, s, t₂, rfl, hplays⟩ := h
  obtain ⟨s', hs', hevents⟩ := lift_plays hplays
  obtain ⟨s₁, s₂, rfl, ⟨r, hmem, hname⟩, r', hmem', hlisted⟩ := rebindNvidia_plays hs'
  refine ⟨s₁ ++ s₂, fun e he => ?_, ⟨r, by simp [hmem], hname⟩, r', by simp [hmem'], hlisted⟩
  simp only [List.mem_append]
  exact .inl (.inr (hevents e he))

/-- Every target of a run that has passed was seen bound to NVIDIA and listed. -/
theorem Passed.seenBound {w : World Vars} {t : Trace} (h : Passed hash c w₀ w t) :
    ∀ bdf ∈ w.vars.targets, SeenBound bdf t :=
  fun bdf hbdf => seenBound_of_rebound (h.rebound bdf hbdf)

theorem HookAbsent.append {t : Trace} (h : HookAbsent t) {s : Trace} (hs : ∀ e ∈ s, SettledOp e.1) :
    HookAbsent (t ++ s) := by
  obtain ⟨t₁, t₂, rfl, ht₂⟩ := h
  refine ⟨t₁, t₂ ++ s, by simp, fun e he => ?_⟩
  rcases List.mem_append.1 he with he | he
  · exact ht₂ e he
  · exact hs e he

theorem HookAbsent.append_left {t : Trace} (h : HookAbsent t) (s : Trace) : HookAbsent (s ++ t) := by
  obtain ⟨t₁, t₂, rfl, ht₂⟩ := h
  exact ⟨s ++ t₁, t₂, by simp, ht₂⟩

theorem Reloaded.append_left {module : String} {t : Trace} (h : Reloaded module t) (s : Trace) :
    Reloaded module (s ++ t) := by
  obtain ⟨t₁, r, t₂, rfl, hstatus, ht₂⟩ := h
  exact ⟨s ++ t₁, r, t₂, by simp, hstatus, ht₂⟩

/-! ### The parts of cleanup -/

private theorem calm_settled {α : Type} {p : Routine α} (hp : Calm p) :
    Prog.Within SettledOp (· ≠ 0) (liftM p : Script Vars α) :=
  lift_within hp fun _ ht => ht.settled

private theorem allOk_within {α : Type} {A : Tool → Prop} {B : Nat → Prop} {p : α → Routine Bool}
    (hp : ∀ a, Prog.Within A B (p a)) (as : List α) : Prog.Within A B (allOk p as) := by
  induction as with
  | nil => trivial
  | cons a as ih => exact (hp a).bind fun ok => ih.bind fun others => trivial

private theorem allOk_plays {α : Type} {p : α → Routine Bool} {as : List α} {s : Trace}
    (h : Prog.Plays (liftM (allOk p as) : Script Vars Bool) s (.ret true)) :
    ∀ a ∈ as, Prog.Occurs (liftM (p a) : Script Vars Bool) (.ret true) s := by
  induction as generalizing s with
  | nil => simp
  | cons a as ih =>
    obtain ⟨s₁, s', ok, rfl, hp, h⟩ := lift_plays_bind h
    obtain ⟨s₂, s₃, others, rfl, hrest, h⟩ := lift_plays_bind h
    obtain ⟨-, hboth⟩ := Prog.plays_ret.1 h
    simp only [Prog.ret.injEq, Bool.true_eq, Bool.and_eq_true] at hboth
    obtain ⟨rfl, rfl⟩ := hboth
    intro b hb
    rcases List.mem_cons.1 hb with rfl | hb
    · exact hp.occurs.append_right _
    · exact ((ih hrest b hb).append_right s₃).append_left s₁

private theorem settled_modprobe (module : String) : Settled (.exec ["modprobe", module]) := by
  refine ⟨⟨fun module' hargv => ?_, fun module' hargv => ?_⟩, fun args hargv => ?_⟩
  · simp [probe] at hargv
  · simp at hargv
  · simp at hargv

private theorem settled_finish (v : Vars) (rc : Nat) (recovered : Bool) :
    Prog.Within SettledOp (· ≠ 0) (finish c v rc recovered) := by
  have hsignal : Settled .signal := ⟨trivial, fun _ ht => nomatch ht⟩
  refine Prog.Within.bind (lift_within (A := Settled) ?_ fun _ ht => ht) fun reloaded => ?_
  · exact allOk_within (fun module => check_within hsignal (settled_modprobe module)) _
  refine (calm_settled (calm_restoreServices v)).bind fun _ => ?_
  refine .ite (fun _ => ?_) fun _ => ?_
  · refine (calm_settled (calm_note _)).bind fun _ => ?_
    exact (calm_settled (calm_note _)).bind fun _ => Prog.within_ret _
  · refine Prog.Within.bind (.when fun _ => ?_) fun _ => ?_
    · exact (removed_within hsignal trivial).bind fun _ => trivial
    refine Prog.Within.bind (.when fun _ => calm_settled (calm_note _)) fun _ => ?_
    exact Prog.Within.bind (.when fun _ => calm_settled (calm_note _)) fun _ => trivial

/-- `cleanup` keeps a status 0 only if the recovery has succeeded and all modules were loaded again. -/
theorem finish_plays {v : Vars} {rc : Nat} {recovered : Bool} {s : Trace}
    (h : Prog.Plays (finish c v rc recovered) s (.ret 0)) : rc = 0 ∧ recovered = true ∧
      ∀ module ∈ v.initiallyLoadedModules, Reloaded module s := by
  have hsettled : ∀ e ∈ s, SettledOp e.1 := ((settled_finish v rc recovered).plays h).1
  obtain ⟨s₁, s', reloaded, rfl, hmodules, h₁⟩ := Prog.plays_bind_ret.1 h
  obtain ⟨s₂, s₃, _, rfl, -, h₂⟩ := Prog.plays_bind_ret.1 h₁
  split at h₂
  · obtain ⟨_, _, _, -, -, h₃⟩ := Prog.plays_bind_ret.1 h₂
    obtain ⟨_, _, _, -, -, h₄⟩ := Prog.plays_bind_ret.1 h₃
    obtain ⟨-, hzero⟩ := Prog.plays_ret.1 h₄
    cases hzero
  · next hok =>
    simp only [Bool.or_eq_true, Bool.not_eq_true', not_or, Bool.not_eq_false] at hok
    obtain ⟨hrecovered, rfl⟩ := hok
    obtain ⟨_, _, _, -, -, h₃⟩ := Prog.plays_bind_ret.1 h₂
    obtain ⟨_, _, _, -, -, h₄⟩ := Prog.plays_bind_ret.1 h₃
    obtain ⟨_, _, _, -, -, h₅⟩ := Prog.plays_bind_ret.1 h₄
    obtain ⟨-, hzero⟩ := Prog.plays_ret.1 h₅
    refine ⟨(Prog.ret.inj hzero).symm, hrecovered, fun module hmodule => ?_⟩
    obtain ⟨t₁, t, t₂, rfl, hcheck⟩ := allOk_plays hmodules module hmodule
    obtain ⟨r, t', rfl, hstatus⟩ := check_plays hcheck
    refine ⟨t₁, r, t' ++ t₂ ++ (s₂ ++ s₃), by simp, hstatus, fun e he => hsettled e ?_⟩
    simp only [List.append_assoc, List.mem_append, List.mem_cons] at he ⊢
    rcases he with he | he | he | he <;> simp [he]

/-- A recovery that has succeeded has found the hook gone, and every target bound to NVIDIA and listed. -/
theorem recover_plays {v : Vars} {s : Trace} (h : Prog.Plays (recover c v) s (.ret true)) :
    HookAbsent s ∧ ∀ bdf ∈ v.targets, Prog.Occurs (liftM (rebindNvidia bdf) : Script Vars Bool) (.ret true) s := by
  obtain ⟨s₁, t₁, status, rfl, -, h₁⟩ := Prog.plays_bind_ret.1 h
  obtain ⟨s₂, t₂, same, rfl, -, h₂⟩ := Prog.plays_bind_ret.1 h₁
  obtain ⟨s₃, t₃, _, rfl, -, h₃⟩ := Prog.plays_bind_ret.1 h₂
  obtain ⟨s₄, t₄, loaded, rfl, hloaded, h₄⟩ := Prog.plays_bind_ret.1 h₃
  obtain ⟨s₅, t₅, rebound, rfl, hrebound, h₅⟩ := Prog.plays_bind_ret.1 h₄
  obtain ⟨rfl, hall⟩ := Prog.plays_ret.1 h₅
  simp only [Prog.ret.injEq, Bool.true_eq, Bool.and_eq_true, Bool.not_eq_true'] at hall
  obtain ⟨⟨-, rfl⟩, rfl⟩ := hall
  rw [List.append_nil]
  constructor
  · have hsettled₄ : ∀ e ∈ s₄, SettledOp e.1 :=
      ((calm_settled (sh_within (A := Harmless) (t := .isDir _) trivial trivial)).plays hloaded).1
    have hsettled₅ : ∀ e ∈ s₅, SettledOp e.1 :=
      ((calm_settled (allOk_within calm_rebindNvidia v.targets)).plays hrebound).1
    obtain ⟨t, rfl⟩ := sh_plays hloaded
    have hevent : HookAbsent (⟨.tool (.isDir hookModule), false⟩ :: t) :=
      ⟨[], t, rfl, fun e he => hsettled₄ e (List.mem_cons_of_mem _ he)⟩
    exact (((hevent.append hsettled₅).append_left s₃).append_left s₂).append_left s₁
  · intro bdf hbdf
    exact ((((allOk_plays hrebound bdf hbdf).append_left s₄).append_left s₃).append_left s₂).append_left s₁

/-! ### The recorded hashes -/

theorem require_plays {condition : Bool} {message : String} {s : List (Event Tool.Answer)}
    (h : Prog.Plays (require condition message) s (.ret ())) : condition = true := by
  unfold require at h
  split at h
  · assumption
  · obtain ⟨_, _, _, -, -, hthrow⟩ := Prog.plays_bind_ret.1 h
    obtain ⟨-, hret⟩ := Prog.plays_throw.1 hthrow
    cases hret

/-- The manifest has all its variables. -/
theorem readManifest_plays {manifest : String → String} {s : List (Event Tool.Answer)}
    (h : Prog.Plays (readManifest c) s (.ret manifest)) : ∀ name ∈ manifestVariables, manifest name ≠ "" := by
  obtain ⟨_, _, _, -, -, h₁⟩ := Prog.plays_bind_ret.1 h
  obtain ⟨_, _, _, -, -, h₂⟩ := Prog.plays_bind_ret.1 h₁
  obtain ⟨_, _, _, -, -, h₃⟩ := Prog.plays_bind_ret.1 h₂
  obtain ⟨_, _, vars, -, -, h₄⟩ := Prog.plays_bind_ret.1 h₃
  obtain ⟨_, _, _, -, hall, h₅⟩ := Prog.plays_bind_ret.1 h₄
  obtain ⟨_, _, _, -, -, h₆⟩ := Prog.plays_bind_ret.1 h₅
  obtain ⟨_, _, _, -, -, h₇⟩ := Prog.plays_bind_ret.1 h₆
  obtain ⟨-, hret⟩ := Prog.plays_ret.1 h₇
  cases hret
  intro name hname
  obtain ⟨_, _, _, -, hrequire⟩ := Prog.plays_forEach hall name hname
  simpa using require_plays hrequire

private theorem stockSha_ne {manifest : String → String} {t : Trace}
    (h : Prog.Occurs (liftM (readManifest c) : Script Vars _) (.ret manifest) t) (x : Firmware) :
    manifest x.stockVariable ≠ "" := by
  obtain ⟨_, _, _, -, hplays⟩ := h
  obtain ⟨_, hread, -⟩ := lift_plays hplays
  refine readManifest_plays hread _ ?_
  cases x <;> decide

/-- A hash that is not empty is that of a file. -/
theorem shaOf_meets (path : String) {w : World Vars} :
    MeetsIn (env hash) (fun sum w' => w' = w ∧ (sum ≠ "" → ∃ content, w.files path = some content ∧ hash content = sum))
      (fun _ _ => True) (liftM (shaOf path)) w := by
  unfold shaOf
  rw [Prog.bind_eq, lift_bind]
  refine Prog.meets_seq.2 (sh_meets env_self (fun sum hr => ⟨rfl, fun hne => ?_⟩) fun _ _ => trivial)
  cases sum with
  | none => exact absurd rfl hne
  | some d =>
    obtain ⟨content, hfile, hd⟩ := hr.2 d rfl
    exact ⟨content, hfile, hd.symm⟩

private theorem hashesMatch_meets (v : Vars) {w : World Vars} (hsha : ∀ x, v.stockSha x ≠ "") :
    MeetsIn (env hash) (fun same w' => w' = w ∧ (same = true →
      ∀ x, ∃ content, w.files (v.active x) = some content ∧ hash content = v.stockSha x)) (fun _ _ => True)
      (liftM (hashesMatch v)) w := by
  unfold hashesMatch
  rw [Prog.bind_eq, lift_bind]
  refine Prog.meets_seq.2 ((@shaOf_meets hash (v.active .fecs) _).imp (fun fecs w₁ hw₁ => ?_) fun _ _ hx => hx)
  obtain ⟨rfl, hfecs⟩ := hw₁
  rw [lift_ite]
  refine Prog.meets_ite.2 ⟨fun _ => ⟨rfl, fun hsame => nomatch hsame⟩, fun hfecs₁ => ?_⟩
  rw [Prog.bind_eq, lift_bind]
  refine Prog.meets_seq.2 ((@shaOf_meets hash (v.active .bl) _).imp (fun bl w₂ hw₂ => ?_) fun _ _ hx => hx)
  obtain ⟨rfl, hbl⟩ := hw₂
  rw [lift_ite]
  refine Prog.meets_ite.2 ⟨fun _ => ⟨rfl, fun hsame => nomatch hsame⟩, fun hbl₁ => ?_⟩
  rw [Prog.bind_eq, lift_bind]
  refine Prog.meets_seq.2 ((@shaOf_meets hash (v.active .ucode) _).imp (fun ucode w₃ hw₃ => ?_) fun _ _ hx => hx)
  obtain ⟨rfl, hucode⟩ := hw₃
  refine ⟨rfl, fun hsame => ?_⟩
  rw [not_not] at hfecs₁ hbl₁
  have hucode₁ : ucode = v.stockSha .ucode := by simpa using hsame
  subst hfecs₁ hbl₁ hucode₁
  intro x
  cases x with
  | fecs => exact hfecs (hsha .fecs)
  | bl => exact hbl (hsha .bl)
  | ucode => exact hucode (hsha .ucode)

/-- A recovery that has succeeded has found the recorded hashes. -/
theorem recover_stock {w : World Vars} (h : During w₀ w) (hsha : ∀ x, w.vars.stockSha x ≠ "") :
    MeetsIn (env hash) (fun recovered w' => During w₀ w' ∧ w'.vars = w.vars ∧
      (recovered = true → Stock hash w₀ w.vars.stockSha w')) (fun _ _ => True) (recover c w.vars) w := by
  unfold recover
  refine Prog.meets_seq.2 ((restoreStock_during (c := c) env_self false h
    (Q := fun _ w' => During w₀ w' ∧ w'.vars = w.vars) fun _ _ hw hvars => ⟨hw, hvars⟩).imp
    (fun status w₁ hw₁ => ?_) fun _ _ _ => trivial)
  obtain ⟨hduring, hvars⟩ := hw₁
  refine Prog.meets_seq.2 ((hashesMatch_meets w.vars hsha).imp (fun same w₂ hw₂ => ?_) fun _ _ hx => hx)
  obtain ⟨rfl, hsame⟩ := hw₂
  refine Prog.meets_seq.2 (routine_meets env_self _ (fun _ => ?_) fun _ => trivial)
  refine Prog.meets_seq.2 (routine_meets env_self _ (fun loaded => ?_) fun _ => trivial)
  refine Prog.meets_seq.2 (routine_meets env_self _ (fun rebound => ⟨hduring, hvars, fun hrecovered x => ?_⟩)
    fun _ => trivial)
  simp only [Bool.and_eq_true] at hrecovered
  obtain ⟨content, hfile, hcontent⟩ := hsame hrecovered.1.1.2 x
  rw [← hvars, hduring.active] at hfile
  exact ⟨content, hfile, hcontent⟩

/-! ### The exit -/

theorem Finished.step {v v' : World Vars × Trace} {o : Op Vars} {r : o.Answer} (h : Finished w₀ c v)
    (hflag : v.1.vars.mutating = true) (ho : SilentOp o) (hr : logged (env hash) v o r v') :
    Finished w₀ c v' ∧ v'.1.vars.mutating = true := by
  obtain ⟨manifest, hknown⟩ := h.known
  obtain ⟨-, htargets, -, hmutating⟩ := silent_vars ho hr.1
  have hflag' := hmutating.trans hflag
  have htrack : Track w₀ [] v' := ⟨hknown.seen.step ho hr, fun hzero => absurd (hflag'.symm.trans hzero) (by decide)⟩
  refine ⟨⟨⟨manifest, ?_⟩, ?_⟩, hflag'⟩
  · rw [htargets]
    exact hknown.step ho hr htrack
  · rw [htargets, hr.2]
    exact fun bdf hbdf => (h.retrained bdf hbdf).append_right _

/-- What the claims about an exit with status `rc` say. -/
def Exit (hash : Content → String) (c : Config) (w₀ : World Vars) (rc : Nat) (v : World Vars × Trace) : Prop :=
  (rc = 0 → v.1.vars.mutating = true → Passed hash c w₀ v.1 v.2) ∧
    (v.1.vars.mutating = false → Original w₀ v.1 ∧ Unwritten w₀ v.2)

/-- What `cleanup` finds when the main path has left with status `rc`. -/
structure Left (w₀ : World Vars) (c : Config) (rc : Nat) (v : World Vars × Trace) : Prop where
  ready : Ready w₀ v.1
  unwritten : v.1.vars.mutating = false → Unwritten w₀ v.2
  finished : rc = 0 → v.1.vars.mutating = true → Finished w₀ c v

theorem Left.exit {rc rc' : Nat} {v : World Vars × Trace} (h : Left w₀ c rc v) (hrc' : rc' ≠ 0) :
    Exit hash c w₀ rc' v := by
  refine ⟨fun hzero => absurd hzero hrc', fun hflag => ⟨?_, h.unwritten hflag⟩⟩
  rcases h.ready with hbefore | hduring
  · exact hbefore.original
  · rw [hduring.mutating] at hflag
    cases hflag

theorem Left.quiet {rc : Nat} {v v' : World Vars × Trace} {o : Op Vars} {r : o.Answer} (h : Left w₀ c rc v)
    (ho : QuietOp o) (hr : logged (env hash) v o r v') (hready : Ready w₀ v'.1) : Left w₀ c rc v' := by
  have hmutating := (silent_vars ho.silentOp hr.1).2.2.2
  refine ⟨hready, fun hflag => ?_, fun hrc hflag => ?_⟩
  · rw [hmutating] at hflag
    refine (h.unwritten hflag).append (fun argv source target ht => ?_) hr.2
    have ht : o = .copy argv source target := ht
    rw [ht] at ho
    exact False.elim ho
  · rw [hmutating] at hflag
    exact ((h.finished hrc hflag).step hflag ho.silentOp hr).1

private theorem silent_recover (v : Vars) : Prog.Within SilentOp (· ≠ 0) (recover c v) := by
  refine (silent_restoreStock false).bind fun status => ?_
  refine (calm_silent (calm_hashesMatch v)).bind fun same => ?_
  refine (calm_silent calm_removeHook).bind fun _ => ?_
  refine (calm_silent (sh_within (A := Harmless) (t := .isDir _) trivial trivial)).bind fun loaded => ?_
  exact (calm_silent (allOk_within calm_rebindNvidia _)).bind fun rebound => trivial

/-- `cleanup` without anything to restore. -/
theorem finish_exit {rc : Nat} {v : World Vars × Trace} (h : Left w₀ c rc v) (hflag : v.1.vars.mutating = false) :
    MeetsL hash (Exit hash c w₀) (Exit hash c w₀) (finish c v.1.vars rc true) v := by
  have hbefore : Exit hash c w₀ 1 v := h.exit (by decide)
  obtain ⟨horiginal, hunwritten⟩ := hbefore.2 hflag
  -- No copy is made, and the removal of the backup keeps the active files.
  have hquiet := ((settled_finish (c := c) v.1.vars rc true).meets (E := logged (env hash))
    (I := fun v' => v'.1.vars.mutating = false ∧ Unwritten w₀ v'.2) (fun v₁ o r v₂ ho hv₁ hr => ⟨?_, ?_⟩)
    ⟨hflag, hunwritten⟩).and ((@finish_meets hash c w₀ _ env_self rc true _ h.ready.apart).logged v.2)
  · have hend : ∀ (rc' : Nat) (v' : World Vars × Trace), (v'.1.vars.mutating = false ∧ Unwritten w₀ v'.2) →
        Unchanged w₀ v.1 v'.1 → Exit hash c w₀ rc' v' := by
      intro rc' v' hv' hunchanged
      refine ⟨fun _ hset => ?_, fun _ => ⟨fun x => (hunchanged.2 x).trans (horiginal x), hv'.2⟩⟩
      rw [hv'.1] at hset
      cases hset
    exact hquiet.imp (fun rc' v' hv' => hend rc' v' hv'.1 hv'.2.1) fun rc' v' hv' => hend rc' v' hv'.1.2 hv'.2.1
  · exact (silent_vars ho.quietOp.silentOp hr.1).2.2.2.trans hv₁.1
  · refine hv₁.2.append (fun argv source target ht => ?_) hr.2
    have ht : o = .copy argv source target := ht
    rw [ht] at ho
    exact False.elim ho

private theorem exit_of_mutating {rc : Nat} {v : World Vars × Trace} (hflag : v.1.vars.mutating = true) (hrc : rc ≠ 0) :
    Exit hash c w₀ rc v :=
  ⟨fun hzero => absurd hzero hrc, fun hfalse => absurd (hflag.symm.trans hfalse) (by decide)⟩

/-- The end of `cleanup` after a recovery with status 0 so far. -/
theorem finish_passed {recovered : Bool} {s : Trace} {v v₁ : World Vars × Trace} (hfinished : Finished w₀ c v₁)
    (hflag : v₁.1.vars.mutating = true) (hduring : During w₀ v₁.1) (htrace : v₁.2 = v.2 ++ s)
    (hplays : Prog.Plays (recover c v₁.1.vars) s (.ret recovered))
    (hstock : recovered = true → Stock hash w₀ v₁.1.vars.stockSha v₁.1) :
    MeetsL hash (Exit hash c w₀) (Exit hash c w₀) (finish c v₁.1.vars 0 recovered) v₁ := by
  have hkept := ((settled_finish (c := c) v₁.1.vars 0 recovered).meets (E := logged (env hash))
    (I := fun v' => Finished w₀ c v' ∧ v'.1.vars.mutating = true)
    (fun _ _ _ _ ho hv hr => hv.1.step hv.2 ho.quietOp.silentOp hr) ⟨hfinished, hflag⟩).and
    ((@finish_meets hash c w₀ _ env_self 0 recovered _ (.inr hduring.apart)).logged v₁.2)
  refine hkept.imp (fun rc' v' hv' => ?_) fun rc' v' hv' => exit_of_mutating hv'.1.2.2 hv'.1.1
  obtain ⟨⟨hfinished', hflag'⟩, ⟨hvars, hfiles⟩, s', htrace', hplays'⟩ := hv'
  refine ⟨fun hzero _ => ?_, fun hfalse => absurd (hflag'.symm.trans hfalse) (by decide)⟩
  subst hzero
  obtain ⟨-, rfl, hreloaded⟩ := finish_plays hplays'
  obtain ⟨hhook, hrebound⟩ := recover_plays hplays
  obtain ⟨manifest, hknown⟩ := hfinished'.known
  have hlisted : ∀ module ∈ v'.1.vars.initiallyLoadedModules, Reloaded module v'.2 := by
    intro module hmodule
    rw [hvars] at hmodule
    rw [htrace']
    exact (hreloaded module hmodule).append_left _
  refine ⟨⟨manifest, hknown.read, fun x => ?_⟩, ?_, ?_, fun module r hmem hstatus => ?_, fun module r hmem => ?_,
    hfinished'.retrained⟩
  · obtain ⟨content, hfile, hcontent⟩ := hstock rfl x
    refine ⟨content, (hfiles x).trans hfile, hcontent.trans ?_⟩
    rw [← hvars]
    exact hknown.stockSha x
  · rw [htrace', htrace]
    exact (hhook.append_left v.2).append ((settled_finish _ _ _).plays hplays').1
  · rw [hvars, htrace', htrace]
    exact fun bdf hbdf => ((hrebound bdf hbdf).append_left v.2).append_right s'
  · rcases hknown.seen.found module r hmem hstatus with hmodule | hmodule
    · exact hlisted module hmodule
    · cases hmodule
  · exact hlisted module (hknown.seen.unloaded module r hmem)

/-- `cleanup` behind a main path that has set the flag. -/
theorem recover_exit {rc : Nat} {v : World Vars × Trace} (h : Left w₀ c rc v) (hflag : v.1.vars.mutating = true) :
    MeetsL hash (Exit hash c w₀) (Exit hash c w₀) (do
      let recovered ← recover c v.1.vars
      finish c v.1.vars rc recovered) v := by
  have hduring : During w₀ v.1 := by
    rcases h.ready with hbefore | hduring
    · rw [hbefore.mutating] at hflag
      cases hflag
    · exact hduring
  by_cases hrc : rc = 0
  · subst hrc
    have hfinished := h.finished rfl hflag
    obtain ⟨manifest, hknown⟩ := hfinished.known
    have hsha : ∀ x, v.1.vars.stockSha x ≠ "" := fun x => by
      rw [hknown.stockSha]
      exact stockSha_ne hknown.read x
    have hrecover := ((silent_recover (c := c) v.1.vars).meets (E := logged (env hash))
      (I := fun v' => Finished w₀ c v' ∧ v'.1.vars.mutating = true)
      (fun _ _ _ _ ho hv hr => hv.1.step hv.2 ho hr) ⟨hfinished, hflag⟩).and
      ((@recover_stock hash c _ _ hduring hsha).logged v.2)
    refine Prog.meets_seq.2 (hrecover.imp (fun recovered v₁ hv₁ => ?_) fun _ _ hx => exit_of_mutating hx.1.2.2 hx.1.1)
    obtain ⟨⟨hfinished₁, hflag₁⟩, ⟨hduring₁, hvars, hstock⟩, s, htrace, hplays⟩ := hv₁
    rw [← hvars] at hplays hstock ⊢
    exact finish_passed hfinished₁ hflag₁ hduring₁ htrace hplays hstock
  · -- The status of the main path is not 0, and stays so.
    have hkeep : ∀ (v : World Vars × Trace) (o : Op Vars) (r : o.Answer) (v' : World Vars × Trace), SilentOp o →
        v.1.vars.mutating = true → logged (env hash) v o r v' → v'.1.vars.mutating = true :=
      fun _ _ _ _ ho hv hr => (silent_vars ho hr.1).2.2.2.trans hv
    refine Prog.meets_seq.2 (((silent_recover (c := c) v.1.vars).meets hkeep hflag).imp (fun recovered v₁ hv₁ => ?_)
      fun _ _ hx => exit_of_mutating hx.2 hx.1)
    have hfinish :=
      ((settled_finish (c := c) v.1.vars rc recovered).mono fun _ ho => ho.quietOp.silentOp).meets hkeep hv₁
    refine (hfinish.and (Prog.played _ v₁)).imp (fun rc' v' hv' => ?_) fun _ _ hx => exit_of_mutating hx.1.2 hx.1.1
    obtain ⟨hset, s, -, hplays⟩ := hv'
    refine exit_of_mutating hset fun hzero => hrc ?_
    subst hzero
    exact (finish_plays hplays).1

private theorem cleanup_exit {rc : Nat} {v : World Vars × Trace} (h : Left w₀ c rc v) :
    MeetsL hash (Exit hash c w₀) (Exit hash c w₀) (cleanup c rc) v := by
  unfold cleanup
  refine Prog.meets_seq.2 ?_
  rintro r ⟨w', t'⟩ hr
  have hready : Ready w₀ w' := by
    obtain rfl : w' = { v.1 with vars := { v.1.vars with exitTrap := false } } := hr.1
    exact h.ready.assign (f := fun v => { v with exitTrap := false }) ⟨fun _ => rfl, fun _ => rfl, fun _ => rfl⟩
  have hleft : Left w₀ c rc (w', t') := h.quiet
    (o := .update fun v => { v with exitTrap := false }) (fun _ => ⟨rfl, rfl, rfl, rfl⟩) hr hready
  refine ⟨trivial, ?_⟩
  refine ((lift_taken_within (A := (· = .tool .signal)) rfl).meets (I := Left w₀ c rc) ?_ hleft).imp
    (fun _ v₁ hv₁ => ?_) fun _ _ hx => hx.2.exit hx.1
  · rintro v₁ o r₁ v₂ rfl hv₁ hr₁
    refine hv₁.quiet (o := .tool .signal) trivial hr₁ ?_
    rw [env_tool hr₁.1]
    exact hv₁.ready
  refine Prog.meets_seq.2 ?_
  rintro vars v₂ hr₂
  obtain ⟨rfl, hw₂⟩ : vars = v₁.1.vars ∧ v₂.1 = v₁.1 := hr₂.1
  have hleft₂ : Left w₀ c rc v₂ := hv₁.quiet (o := .get) trivial hr₂ (by rw [hw₂]; exact hv₁.ready)
  rw [← hw₂]
  refine ⟨trivial, Prog.meets_ite.2 ⟨fun hflag => recover_exit hleft₂ hflag, fun hflag => ?_⟩⟩
  exact finish_exit hleft₂ (eq_false_of_ne_true hflag)

/-- Status 0 after `MUTATING=1` means that everything has succeeded, on the main path and in `cleanup`; a run that has
not set it has written no active firmware file. -/
theorem status_zero_after_mutating {w : World Vars} {t : Trace} (hstart : w₀.vars = {}) {rc : Nat}
    (hrun : Prog.Steps (logged (env hash)) (run c, (w₀, [])) (.ret rc, (w, t)) ∨
      Prog.Steps (logged (env hash)) (run c, (w₀, [])) (.throw rc, (w, t))) :
    (rc = 0 → w.vars.mutating = true → Passed hash c w₀ w t) ∧
      (w.vars.mutating = false → Original w₀ w ∧ Unwritten w₀ t) := by
  have hidle : Idle w₀ w₀ := by
    refine { links := rfl, mutating := ?_, original := fun x => rfl, apart := .inl ?_, empty := ?_ } <;> rw [hstart]
  have htrack : Track w₀ [] (w₀, []) :=
    ⟨⟨fun _ _ hmem => (nomatch hmem), fun _ _ hmem => (nomatch hmem)⟩, fun _ _ _ _ _ hmem => (nomatch hmem)⟩
  have hmeets : MeetsL hash (Exit hash c w₀) (Exit hash c w₀) (run c) (w₀, []) := by
    unfold run
    have hopen := (@track_quiet hash _ _ _ _ (calm_quiet (calm_openLog c)) _ htrack
      (fun _ v => Track w₀ [] v) fun _ _ hv => hv).and
      ((routine_meets env_self (Q := fun _ w => w = w₀) (X := fun _ w => w = w₀) (openLog c) (fun _ => rfl)
        fun _ => rfl).logged [])
    refine Prog.meets_seq.2 (hopen.imp (fun _ v hv => ?_) fun rc v hv => ?_)
    · obtain ⟨htrack, hw, -⟩ := hv
      have hidle' : Idle w₀ v.1 := by rwa [hw]
      have hmain := (@main_finished hash c _ _ hidle' htrack).and
        ((main_meets (c := c) env_self hidle').logged v.2)
      refine Prog.meets_seq.2 (Prog.meets_attempt.2 (hmain.imp (fun _ v₁ hv₁ => ?_) fun rc v₁ hv₁ => ?_))
      · obtain ⟨hfinished, hready, -⟩ := hv₁
        obtain ⟨manifest, hknown⟩ := hfinished.known
        exact cleanup_exit ⟨hready, hknown.unwritten, fun _ _ => hfinished⟩
      · obtain ⟨haborted, hready, -⟩ := hv₁
        refine cleanup_exit ⟨hready, haborted.2, fun hzero hset => ?_⟩
        rw [haborted.1 hzero] at hset
        cases hset
    · obtain ⟨haborted, hw, -⟩ := hv
      have hflag : v.1.vars.mutating = false := by rw [hw, hstart]
      refine ⟨fun _ hset => ?_, fun _ => ⟨fun x => by rw [hw], haborted.2 hflag⟩⟩
      rw [hflag] at hset
      cases hset
  rcases hrun with hrun | hrun
  · exact hmeets.of_ret hrun
  · exact hmeets.of_throw hrun

end

/-! ### A run on a working device -/

/-- The device next to the world: its driver, the boots through Nouveau, and whether the link was retrained. -/
structure Bench where
  world : World Vars := sampleWorld
  driver : String := "nvidia"
  boots : Nat := 0
  retrained : Bool := false

/-- The registers, the driver and the link; `nvidia_uvm` is loaded at the start. -/
def benchExec (b : Bench) : List String → Result
  | ["readlink", _] => ⟨0, if b.driver = "" then "" else "../drivers/" ++ b.driver⟩
  | ["grep", "-q", pattern, _] => ⟨if pattern = "^nvidia_uvm " then 0 else 1, ""⟩
  | ["dmesg", "|", "grep", "-c", _] => ⟨0, toString b.boots⟩
  | ["dmesg", "|", "grep", _, "|", "tail", "-n", "1"] => ⟨0, "BOOT_RETURN function_rc=0"⟩
  | ["timeout", "10", "nvidia-smi", "--query-compute-apps=pid", _] => ⟨0, ""⟩
  | ["timeout", "10", "nvidia-smi", _, _] =>
    ⟨0, if b.retrained then "00000000:01:00.0, 2, 2" else "00000000:01:00.0, 1, 2"⟩
  | ["busybox", "devmem", address, "32"] =>
    ⟨0, if address = "0x10088610" then "0x00000001"
      else if address = "0x1008872c" then "0x00000006"
      else if address = "0x1008c040" then "0x00040000"
      else if address = "0x10088088" then "0x00020000"
      else if address = "0x10409664" then "0x00000888" else "0x00000002"⟩
  | argv => sampleExec false argv

def Bench.written (b : Bench) (path : String) : Bench :=
  if path = unbindPath "nvidia" ∨ path = unbindPath "nouveau" then { b with driver := "" }
  else if path = bindPath "nouveau" then { b with driver := "nouveau", boots := b.boots + 1 }
  else if path = bindPath "nvidia" then { b with driver := "nvidia" }
  else b

def Bench.ran (b : Bench) : List String → Bench
  | ["busybox", "devmem", _, "32", _] => { b with retrained := true }
  | _ => b

/-- Everything succeeds. -/
def benchAnswer (b : Bench) : (o : Op Vars) → Option (o.Answer × Bench)
  | .tool (.exec argv) => some (benchExec b argv, b.ran argv)
  | .tool (.writeText path _) => some (0, b.written path)
  | .tool (.isDir path) => some (path ≠ hookModule ∧ path ≠ "/sys/module/nvidia_uvm", b)
  | .copy _ source target =>
    if b.world.vars.backupDir ≠ sampleDir ∨ (b.world.files source).isNone then none
    else
      let files := Function.update b.world.files target (b.world.files source)
      some (0, { b with world := { b.world with files := files } })
  | o => (sampleAnswer false b.world o).map fun answer => (answer.1, { b with world := answer.2 })

@[irreducible] def benchEnd : Script Vars Nat × Bench := (run sampleConfig).run benchAnswer {}

private theorem benchEnd_passed : benchEnd.1 = .ret 0 ∧ benchEnd.2.world.vars.mutating = true := by
  rw [← Prog.ended_eq_ret]
  decide +kernel

private theorem written_world (b : Bench) (path : String) : (b.written path).world = b.world := by
  unfold Bench.written
  split
  · rfl
  · split
    · rfl
    · split <;> rfl

private theorem ran_world (b : Bench) (argv : List String) : (b.ran argv).world = b.world := by
  unfold Bench.ran
  split <;> rfl

/-- What the sample answers on the world. -/
theorem sampleAnswer_bench {b b' : Bench} {o : Op Vars} {r : o.Answer} (hb : SampleFresh b.world)
    (h : (sampleAnswer false b.world o).map (fun answer => (answer.1, { b with world := answer.2 })) = some (r, b')) :
    env sampleHash b.world o r b'.world ∧ SampleFresh b'.world := by
  obtain ⟨⟨r', w'⟩, hanswer, heq⟩ := Option.map_eq_some_iff.1 h
  simp only [Prod.mk.injEq] at heq
  obtain ⟨rfl, rfl⟩ := heq
  obtain ⟨henv, hfresh⟩ := sampleAnswer_env hb hanswer
  exact ⟨henv.1, hfresh⟩

private theorem benchAnswer_env {b b' : Bench} {o : Op Vars} {r : o.Answer} (hb : SampleFresh b.world)
    (h : benchAnswer b o = some (r, b')) : env sampleHash b.world o r b'.world ∧ SampleFresh b'.world := by
  cases o with
  | tool t =>
    cases t with
    | exec argv =>
      simp only [benchAnswer, Option.some.injEq, Prod.mk.injEq] at h
      obtain ⟨rfl, rfl⟩ := h
      rw [ran_world]
      exact ⟨rfl, hb⟩
    | writeText path text =>
      simp only [benchAnswer, Option.some.injEq, Prod.mk.injEq] at h
      obtain ⟨rfl, rfl⟩ := h
      rw [written_world]
      exact ⟨rfl, hb⟩
    | isDir path =>
      simp only [benchAnswer, Option.some.injEq, Prod.mk.injEq] at h
      obtain ⟨rfl, rfl⟩ := h
      exact ⟨rfl, hb⟩
    | _ => exact sampleAnswer_bench hb h
  | copy argv source target =>
    simp only [benchAnswer] at h
    split at h
    · cases h
    · next hnone =>
      simp only [ne_eq, Option.isNone_iff_eq_none, not_or, not_not] at hnone
      simp only [Option.some.injEq, Prod.mk.injEq] at h
      obtain ⟨rfl, rfl⟩ := h
      refine ⟨⟨⟨_, rfl⟩, fun _ => ⟨Option.isSome_iff_ne_none.2 hnone.2, rfl⟩⟩, fun hempty => ?_⟩
      exact absurd (hnone.1.symm.trans hempty) (by decide)
  | _ => exact sampleAnswer_bench hb h

private theorem steps_benchEnd {p : Script Vars Nat} (h : benchEnd.1 = p) :
    Prog.Steps (env sampleHash) (run sampleConfig, sampleWorld) (p, benchEnd.2.world) := by
  have hrun : (run sampleConfig).run benchAnswer {} = (p, benchEnd.2) := by
    rw [← h, Prod.eta]
    unfold benchEnd
    rfl
  exact Prog.steps_run_through Bench.world (fun _ _ _ _ hb hr => benchAnswer_env hb hr) sampleWorld_fresh hrun

/-- One target is unlocked and retrained. -/
theorem status_zero_after_mutating_one : ∃ t, Passed sampleHash sampleConfig sampleWorld benchEnd.2.world t := by
  obtain ⟨t, hlogged⟩ := (steps_benchEnd benchEnd_passed.1).logged []
  exact ⟨t, (status_zero_after_mutating rfl (.inl hlogged)).1 rfl benchEnd_passed.2⟩

end CmpUnlocker.PcieGen2
