import CmpUnlocker.PcieGen2.Backup

/-!
# The firmware files at exit

`cleanup` restores the active firmware files from the backup, so they have their old contents when the script exits,
unless it takes a signal before the last of its three copies (`firmware_restored_at_exit`): the traps for INT and TERM
are still set then, and the trap on exit is not (`terminated_recovery`).
-/

namespace CmpUnlocker.PcieGen2

open Interaction Shell Guest

section

variable {hash : Content → String} {c : Config} {w₀ : World Vars}

/-! ### Cleanup -/

/-- Once the trap on exit has started, a signal is only taken where nothing needs to be restored. -/
theorem signal_original {w : World Vars} (hw : w.vars.exitTrap = false) {s : Signal}
    (hs : undisturbedEnv hash c w₀ w (.tool .signal) (some s) w) : Original w₀ w := by
  rcases hs.2 with htrap | horiginal
  · rw [hw] at htrap
    cases htrap
  · exact horiginal

private theorem recover_meets {w : World Vars} (h : During w₀ w) (htrap : w.vars.exitTrap = false) :
    MeetsE hash c w₀ (fun _ w' => Original w₀ w' ∧ w'.vars = w.vars) (fun _ w' => Original w₀ w')
      (recover c w.vars) w := by
  unfold recover
  refine Prog.meets_seq.2 ((restoreStock_meets false h fun w' _ hvars s hs => ?_).imp (fun status w₁ hw₁ => ?_)
    fun _ _ hx => hx)
  · exact signal_original (by rw [hvars]; exact htrap) hs
  · obtain ⟨-, hvars, horiginal⟩ := hw₁
    refine Prog.meets_seq.2 (routine_meets undisturbed_env _ (fun same => ?_) fun _ => horiginal)
    refine Prog.meets_seq.2 (routine_meets undisturbed_env _ (fun _ => ?_) fun _ => horiginal)
    refine Prog.meets_seq.2 (routine_meets undisturbed_env _ (fun loaded => ?_) fun _ => horiginal)
    exact Prog.meets_seq.2 (routine_meets undisturbed_env _ (fun rebound => ⟨horiginal, hvars⟩) fun _ => horiginal)

theorem cleanup_meets (rc : Nat) {w : World Vars} (h : Ready w₀ w) :
    MeetsE hash c w₀ (fun _ w' => Original w₀ w') (fun _ w' => Original w₀ w') (cleanup c rc) w := by
  have hready : Ready w₀ { w with vars := { w.vars with exitTrap := false } } :=
    h.assign (f := fun v => { v with exitTrap := false }) ⟨fun _ => rfl, fun _ => rfl, fun _ => rfl⟩
  have htrap : ({ w with vars := { w.vars with exitTrap := false } } : World Vars).vars.exitTrap = false := rfl
  unfold cleanup
  refine Prog.meets_seq.2 (assign_meets undisturbed_env ?_ fun s hs => signal_original htrap hs)
  generalize ({ w with vars := { w.vars with exitTrap := false } } : World Vars) = w₁ at hready htrap
  refine Prog.meets_seq.2 (vars_meets undisturbed_env ?_)
  -- The end of the handler, for either outcome of the recovery.
  have hend : ∀ (recovered : Bool) (w₂ : World Vars), Original w₀ w₂ → w₂.vars = w₁.vars →
      MeetsE hash c w₀ (fun _ w' => Original w₀ w') (fun _ w' => Original w₀ w')
        (finish c w₁.vars rc recovered) w₂ := by
    intro recovered w₂ hw₂ hvars
    rw [← hvars]
    have hapart : w₂.vars.backupDir = "" ∨ Apart w₀ w₂ := by
      unfold Apart
      rw [hvars]
      exact hready.apart
    exact (finish_meets undisturbed_env rc recovered hapart).imp (fun _ w' hw' x => (hw'.2 x).trans (hw₂ x))
      fun _ w' hw' x => (hw'.2 x).trans (hw₂ x)
  refine Prog.meets_ite.2 ⟨fun hmutating => ?_, fun hidle => ?_⟩
  · have hduring : During w₀ w₁ := by
      rcases hready with hbefore | hduring
      · rw [hbefore.mutating] at hmutating
        cases hmutating
      · exact hduring
    exact Prog.meets_seq.2 ((recover_meets hduring htrap).imp (fun recovered w₂ hw₂ => hend recovered w₂ hw₂.1 hw₂.2)
      fun _ _ hx => hx)
  · have horiginal : Original w₀ w₁ := by
      rcases hready with hbefore | hduring
      · exact hbefore.original
      · exact absurd hduring.mutating hidle
    exact hend true w₁ horiginal rfl

/-- When the script exits, the active firmware files have the contents they had when it started, unless a signal is
taken during the recovery. -/
theorem firmware_restored_at_exit {w : World Vars} (hstart : w₀.vars = {}) {rc : Nat}
    (hrun : Prog.Steps (undisturbedEnv hash c w₀) (run c, w₀) (.ret rc, w) ∨
      Prog.Steps (undisturbedEnv hash c w₀) (run c, w₀) (.throw rc, w)) (x : Firmware) :
    w.files (w₀.links x.path) = w₀.files (w₀.links x.path) := by
  have hidle : Idle w₀ w₀ := by
    refine { links := rfl, mutating := ?_, original := fun x => rfl, apart := .inl ?_, empty := ?_ } <;> rw [hstart]
  have hmeets : MeetsE hash c w₀ (fun _ w' => Original w₀ w') (fun _ w' => Original w₀ w') (run c) w₀ := by
    unfold run
    refine Prog.meets_seq.2 (routine_meets undisturbed_env _ (fun _ => ?_) fun _ => fun x => rfl)
    exact Prog.meets_seq.2
      (Prog.meets_attempt.2 ((main_meets undisturbed_env hidle).imp (fun _ w₁ hw₁ => cleanup_meets 0 hw₁)
      fun rc w₁ hw₁ => cleanup_meets rc hw₁))
  rcases hrun with hrun | hrun
  · exact hmeets.of_ret hrun x
  · exact hmeets.of_throw hrun x

end

/-! ### A run on one target -/

/-- Contents are told apart by their first byte. -/
def sampleHash : Content → String
  | [1] => expectedPolicySha
  | [2] => expectedVectorSha
  | content => toString (content.map UInt8.toNat)

def sampleConfig : Config := { stateDir := "/s", libDir := "/l", bdfs := "0000:01:00.0" }

def sampleFile (x : Firmware) : Content :=
  match x with
  | .fecs => [3]
  | .bl => [4]
  | .ucode => [5]

/-- The installed files; the firmware files are those of the distribution. -/
def sampleFiles (path : String) : Option Content :=
  if "/run/".toList.isPrefixOf path.toList then none
  else if path = sampleConfig.manifest then some [9]
  else if path = sampleConfig.customFecs then some [6]
  else if path = sampleConfig.customBl then some [7]
  else if path = sampleConfig.pciePolicy then some [1]
  else if path = sampleConfig.pcieVector then some [2]
  else if path = sampleConfig.hook then some [8]
  else (Firmware.all.find? fun x => path = x.path || path = sampleConfig.stock x).map sampleFile

def sampleWorld : World Vars := { files := sampleFiles, links := id, vars := {} }

def sampleManifest : String → Option String
  | "STOCK_FECS_SHA" => some (sampleHash [3])
  | "STOCK_BL_SHA" => some (sampleHash [4])
  | "STOCK_UCODE_SHA" => some (sampleHash [5])
  | "CUSTOM_FECS_SHA" => some (sampleHash [6])
  | "CUSTOM_BL_SHA" => some (sampleHash [7])
  | "PCIE_POLICY_UCODE_SHA" => some expectedPolicySha
  | "PCIE_VECTOR_UCODE_SHA" => some expectedVectorSha
  | "HOOK_SHA" => some (sampleHash [8])
  | _ => none

/-- The commands; `unbound` says whether the device is detached from its driver. -/
def sampleExec (unbound : Bool) : List String → Result
  | ["stat", "-c", "%a", _] => ⟨0, "600"⟩
  | ["stat", "-c", "%u:%a", "--", _] => ⟨0, "0:600"⟩
  | ["readlink", _] => ⟨0, if unbound then "" else "../../../bus/pci/drivers/nvidia"⟩
  | ["setpci", "-s", _, "CAP_EXP+0c.l"] => ⟨0, "0102"⟩
  | ["setpci", "-s", _, _] => ⟨0, "1011"⟩
  | ["timeout", "10", "nvidia-smi", "--query-compute-apps=pid", _] => ⟨0, ""⟩
  | ["timeout", "10", "nvidia-smi", _, _] => ⟨0, "00000000:01:00.0, 1, 1"⟩
  | ["systemctl", "is-active", "--quiet", _] => ⟨3, ""⟩
  | ["grep", "-q", _, _] => ⟨1, ""⟩
  | ["test", "-e", _] => ⟨1, ""⟩
  | ["uname", "-r"] => ⟨0, "6.1.0"⟩
  | ["modinfo", "-F", "vermagic", _] => ⟨0, "6.1.0 SMP"⟩
  | ["awk", _, _] => ⟨0, "0x10000000"⟩
  | ["busybox", "devmem", _, "32"] => ⟨0, "0x00000888"⟩
  | ["seq", _, _] => ⟨0, "1"⟩
  | _ => ⟨0, ""⟩

def sampleDir : String := "/run/cmp100-pcie.AAAAAA"

/-- Everything succeeds, but `dd` truncates its target instead of copying the payload `bl`; with `terminated`, TERM
arrives once the trap on exit has started. -/
def sampleAnswer (terminated : Bool) (w : World Vars) : (o : Op Vars) → Option (o.Answer × World Vars)
  | .tool .signal => some (if terminated && !w.vars.exitTrap then some .term else none, w)
  | .tool (.exec argv) => some (sampleExec (w.vars.mutating && w.vars.exitTrap) argv, w)
  | .tool (.isFile path) => some (path ≠ "" && (w.files path).isSome, w)
  | .tool (.isLink _) => some (false, w)
  | .tool (.isDir path) => some (path ≠ hookModule, w)
  | .tool (.isReadable _) => some (true, w)
  | .tool (.readText path) =>
    some (if path = devicePath "0000:01:00.0" "vendor" then some "0x10de" else some "0x1d84", w)
  | .tool (.writeText _ _) => some (0, w)
  | .tool (.resolve path) => some (some (w.links path), w)
  | .tool (.digest path) => some ((w.files path).map sampleHash, w)
  | .tool (.tempDir _) => if w.vars.backupDir = "" then some (some sampleDir, w) else none
  | .tool (.source _) => some (some sampleManifest, w)
  | .get => some (w.vars, w)
  | .update f =>
    if w.vars.backupDir = "" ∨ (f w.vars).backupDir = w.vars.backupDir then some ((), { w with vars := f w.vars })
    else none
  | .copy _ source target =>
    if w.vars.backupDir ≠ sampleDir ∨ (w.files source).isNone then none
    else if source = sampleConfig.customBl then some (1, { w with files := Function.update w.files target (some []) })
    else some (0, { w with files := Function.update w.files target (w.files source) })
  | .removeTree _ => some (0, w)

/-- The new directory is empty. -/
def SampleFresh (w : World Vars) : Prop := w.vars.backupDir = "" → ∀ path, Under sampleDir path → w.files path = none

private theorem customBl_not_saved {w : World Vars} (h : w.vars.backupDir = sampleDir) :
    ¬ Saved sampleConfig w sampleConfig.customBl := by
  rintro ⟨x, hx | hx⟩
  · rw [h] at hx
    revert hx
    cases x <;> decide
  · revert hx
    cases x <;> decide

theorem sampleAnswer_env {terminated : Bool} {w w' : World Vars} {o : Op Vars} {r : o.Answer} (hw : SampleFresh w)
    (h : sampleAnswer terminated w o = some (r, w')) :
    gen2Env sampleHash sampleConfig w o r w' ∧ SampleFresh w' := by
  cases o with
  | tool t =>
    cases t with
    | signal =>
      simp only [sampleAnswer, Option.some.injEq, Prod.mk.injEq] at h
      obtain ⟨rfl, rfl⟩ := h
      refine ⟨⟨rfl, ?_⟩, hw⟩
      cases (terminated && !w.vars.exitTrap) with
      | false => trivial
      | true =>
        show Signal.term ≠ Signal.hup
        decide
    | digest path =>
      simp only [sampleAnswer, Option.some.injEq, Prod.mk.injEq] at h
      obtain ⟨rfl, rfl⟩ := h
      refine ⟨⟨⟨rfl, fun d hd => ?_⟩, trivial⟩, hw⟩
      obtain ⟨content, hcontent, rfl⟩ := Option.map_eq_some_iff.1 hd
      exact ⟨content, hcontent, rfl⟩
    | tempDir template =>
      simp only [sampleAnswer, Option.ite_none_right_eq_some, Option.some.injEq, Prod.mk.injEq] at h
      obtain ⟨hdir, rfl, rfl⟩ := h
      refine ⟨⟨⟨rfl, fun dir hd => ?_⟩, trivial⟩, hw⟩
      obtain rfl := Option.some.inj hd
      exact ⟨by decide, hw hdir⟩
    | _ =>
      simp only [sampleAnswer, Option.some.injEq, Prod.mk.injEq] at h
      obtain ⟨rfl, rfl⟩ := h
      simp [gen2Env, env, hw]
  | get =>
    simp only [sampleAnswer, Option.some.injEq, Prod.mk.injEq] at h
    obtain ⟨rfl, rfl⟩ := h
    exact ⟨⟨⟨rfl, rfl⟩, trivial⟩, hw⟩
  | update f =>
    simp only [sampleAnswer, Option.ite_none_right_eq_some, Option.some.injEq, Prod.mk.injEq] at h
    obtain ⟨hdir, -, rfl⟩ := h
    refine ⟨⟨rfl, trivial⟩, fun hempty => ?_⟩
    rcases hdir with hdir | hdir
    · exact hw hdir
    · exact hw (hdir.symm.trans hempty)
  | copy argv source target =>
    simp only [sampleAnswer] at h
    by_cases hnone : w.vars.backupDir ≠ sampleDir ∨ (w.files source).isNone
    · rw [if_pos hnone] at h
      cases h
    · rw [if_neg hnone] at h
      simp only [ne_eq, Option.isNone_iff_eq_none, not_or, not_not] at hnone
      have hfresh : ∀ content, SampleFresh { w with files := Function.update w.files target content } :=
        fun content hempty => absurd (hnone.1.symm.trans hempty) (by decide)
      by_cases hbl : source = sampleConfig.customBl
      · rw [if_pos hbl] at h
        simp only [Option.some.injEq, Prod.mk.injEq] at h
        obtain ⟨rfl, rfl⟩ := h
        refine ⟨⟨⟨⟨some [], rfl⟩, fun h => nomatch h⟩, fun hsaved => ?_⟩, hfresh _⟩
        rw [hbl] at hsaved
        exact absurd hsaved (customBl_not_saved hnone.1)
      · rw [if_neg hbl] at h
        simp only [Option.some.injEq, Prod.mk.injEq] at h
        obtain ⟨rfl, rfl⟩ := h
        exact ⟨⟨⟨⟨w.files source, rfl⟩, fun _ => ⟨Option.isSome_iff_ne_none.2 hnone.2, rfl⟩⟩, fun _ => rfl⟩, hfresh _⟩
  | removeTree path =>
    simp only [sampleAnswer, Option.some.injEq, Prod.mk.injEq] at h
    obtain ⟨rfl, rfl⟩ := h
    exact ⟨⟨⟨w.files, rfl, fun _ _ => rfl⟩, trivial⟩, hw⟩

theorem sampleWorld_fresh : SampleFresh sampleWorld := by
  rintro - path ⟨name, rfl⟩
  have hrun : "/run/".toList.isPrefixOf (sampleDir ++ "/" ++ name).toList = true := by
    simp [sampleDir, List.isPrefixOf]
  show sampleFiles (sampleDir ++ "/" ++ name) = none
  unfold sampleFiles
  rw [if_pos hrun]

/-- The end of the run. -/
@[irreducible] def sampleEnd (terminated : Bool) : Script Vars Nat × World Vars :=
  (run sampleConfig).run (sampleAnswer terminated) sampleWorld

theorem steps_sampleEnd {E : Env (Op Vars) Op.Answer (World Vars)} {terminated : Bool}
    (hE : ∀ w o r w', SampleFresh w → sampleAnswer terminated w o = some (r, w') → E w o r w' ∧ SampleFresh w')
    {p : Script Vars Nat} (h : (sampleEnd terminated).1 = p) :
    Prog.Steps E (run sampleConfig, sampleWorld) (p, (sampleEnd terminated).2) := by
  have hrun : Prog.Steps E (run sampleConfig, sampleWorld) (sampleEnd terminated) := by
    unfold sampleEnd
    exact Prog.steps_run_of_keeps hE (run sampleConfig) sampleWorld_fresh
  rw [← h]
  exact hrun

/-- Without signals no step disturbs the recovery. -/
theorem sampleAnswer_undisturbed {w w' : World Vars} {o : Op Vars} {r : o.Answer} (hw : SampleFresh w)
    (h : sampleAnswer false w o = some (r, w')) :
    undisturbedEnv sampleHash sampleConfig sampleWorld w o r w' ∧ SampleFresh w' := by
  obtain ⟨henv, hfresh⟩ := sampleAnswer_env hw h
  refine ⟨⟨henv, ?_⟩, hfresh⟩
  cases o with
  | tool t =>
    cases t with
    | signal =>
      simp only [sampleAnswer, Option.some.injEq, Prod.mk.injEq] at h
      obtain ⟨rfl, -⟩ := h
      trivial
    | _ => trivial
  | _ => trivial

private theorem sampleEnd_failed : (sampleEnd false).1 = .ret 1 := by
  rw [← Prog.ended_eq_ret]
  decide +kernel

private theorem sampleEnd_terminated :
    (sampleEnd true).1 = .throw 143 ∧ (sampleEnd true).2.files Firmware.fecs.path = some [6] := by
  rw [← Prog.ended_eq_throw]
  decide +kernel

/-- A copy of a payload fails, and the files are restored. -/
theorem firmware_restored_at_exit_failedCopy :
    (sampleEnd false).2.files Firmware.fecs.path = sampleFiles Firmware.fecs.path ∧
      (sampleEnd false).2.files Firmware.bl.path = sampleFiles Firmware.bl.path ∧
      (sampleEnd false).2.files Firmware.ucode.path = sampleFiles Firmware.ucode.path := by
  have h := firmware_restored_at_exit rfl
    (.inl (steps_sampleEnd (fun _ _ _ _ hw hr => sampleAnswer_undisturbed hw hr) sampleEnd_failed))
  exact ⟨h .fecs, h .bl, h .ucode⟩

/-- TERM arrives when `cleanup` has started and ends it before its first copy: a payload stays in an active file. -/
theorem terminated_recovery : ∃ (hash : Content → String) (c : Config) (w₀ w : World Vars) (rc : Nat) (x : Firmware),
    w₀.vars = {} ∧ Prog.Steps (gen2Env hash c) (run c, w₀) (.throw rc, w) ∧
      w.files (w₀.links x.path) ≠ w₀.files (w₀.links x.path) := by
  refine ⟨sampleHash, sampleConfig, sampleWorld, (sampleEnd true).2, 143, .fecs, rfl,
    steps_sampleEnd (fun _ _ _ _ hw hr => sampleAnswer_env hw hr) sampleEnd_terminated.1, ?_⟩
  show (sampleEnd true).2.files Firmware.fecs.path ≠ sampleFiles Firmware.fecs.path
  rw [sampleEnd_terminated.2]
  decide

end CmpUnlocker.PcieGen2
