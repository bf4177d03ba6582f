import CmpUnlocker.PcieHost.Heard

/-!
# The latch of failed attempts

The state file over any sequence of coordinator runs, each of them cut off anywhere.  An attempt in a boot stays
latched as long as no later run writes the file with another identifier in hand (`attempt_not_repeated`); a run that
got a malformed identifier and then an exception does write it, and then the attempt is repeated
(`malformed_identifier_unlatches`).
-/

namespace CmpUnlocker.PcieHost

open Interaction

/-! ### Histories -/

/-- The worlds after any number of runs, each of them ended or cut off anywhere, in an environment `E`. -/
inductive History (P : Platform) (E : Env Op Op.Answer World) : World → Prop
  | initial {w : World} (h : w.writes = []) : History P E w
  | run {w w' : World} {p : Routine Exn Nat} (h : History P E w) (fuel : Nat) (args : Args)
      (hrun : Prog.Steps E (run P fuel args, w.start) (p, w')) : History P E w'

/-- A recorded pass. -/
def IsPass (data : Json) : Prop := ∃ bootId links aer, data = pass bootId links aer

/-- An attempt in boot `b` was started and no pass has been recorded since. -/
def Pending (b : String) (writes : List Json) : Prop :=
  ∃ before since, writes = before ++ inProgress b :: since ∧ ∀ data ∈ since, ¬ IsPass data

private theorem pending_append {b : String} {writes : List Json} {data : Json} (h : Pending b (writes ++ [data])) :
    data = inProgress b ∨ Pending b writes ∧ ¬ IsPass data := by
  obtain ⟨before, since, hwrites, hsince⟩ := h
  rcases List.eq_nil_or_concat since with rfl | ⟨since', last, rfl⟩
  · have hlast := congrArg List.getLast? hwrites
    simp only [List.getLast?_append, List.getLast?_singleton, Option.some_or] at hlast
    exact .inl (by injection hlast)
  · right
    rw [List.concat_eq_append] at hwrites hsince
    have hsplit : writes ++ [data] = (before ++ inProgress b :: since') ++ [last] := by
      rw [hwrites, List.append_assoc, List.cons_append]
    obtain ⟨hw, hd⟩ := List.append_inj' hsplit rfl
    cases hd
    exact ⟨⟨before, since', hw, fun d hd => hsince d (List.mem_append_left _ hd)⟩,
      hsince data (List.mem_append_right _ (List.mem_singleton_self data))⟩

theorem names_inProgress (b : String) : Names b (inProgress b) :=
  ⟨some (.str b), rfl, by simp [Json.isStr]⟩

theorem names_failed (b error : String) : Names b (failed b error) :=
  ⟨some (.str b), rfl, by simp [Json.isStr]⟩

/-- While an attempt in boot `b` is pending, the state file is replaced only by a run that heard `b` last. -/
def steadyEnv (P : Platform) (b : String) : Env Op Op.Answer World := fun w o r w' =>
  env P w o r w' ∧ (o = .replaceState → Pending b w.writes → w.bootId = some b)

/-- A pending attempt is named by the state file. -/
def Latched (b : String) (w : World) : Prop := Pending b w.writes → ∃ data, w.state = some data ∧ Names b data

section

variable {P : Platform} {b : String}

theorem env_files {w w' : World} {o : Op} {r : o.Answer} (ho : o ≠ .replaceState) (h : env P w o r w') :
    w'.state = w.state ∧ w'.writes = w.writes := by
  cases o with
  | replaceState => exact absurd rfl ho
  | writeTemp data =>
    obtain ⟨-, t, rfl⟩ := h
    exact ⟨rfl, rfl⟩
  | readState => rw [h.1]; exact ⟨rfl, rfl⟩
  | guestExecStatus pid =>
    rcases env_status h with ⟨text, -, rfl⟩ | ⟨-, rfl⟩ <;> exact ⟨rfl, rfl⟩
  | guestExec args =>
    have hw' : w' = { w with asked := args } := h
    rw [hw']
    exact ⟨rfl, rfl⟩
  | _ =>
    have hw' : w' = w := h
    rw [hw']
    exact ⟨rfl, rfl⟩

private theorem steady_step {retry : Bool} {previous : Option Json} {w w' : World} {o : Op} {r : o.Answer}
    (h : steadyEnv P b w o r w') (hG : Guarantee retry previous w o r w') (hl : Latched b w) : Latched b w' := by
  obtain ⟨henv, hsteady⟩ := h
  by_cases ho : o = .replaceState
  · subst ho
    rcases henv with ⟨rfl, -⟩ | ⟨data, -, htemp, rfl⟩
    · exact hl
    · obtain ⟨b', data', hbootId, htemp', hrecords⟩ := hG.1 rfl
      rw [htemp] at htemp'
      cases htemp'
      -- What is written names the boot the run heard last, unless it is a pass.
      intro hpending
      refine ⟨data, rfl, ?_⟩
      rcases pending_append hpending with rfl | ⟨hbefore, hnopass⟩
      · exact names_inProgress b
      · have hb : b' = b := by
          have hheard := hsteady rfl hbefore
          rw [hbootId] at hheard
          exact Option.some.inj hheard
        subst hb
        rcases hrecords with rfl | ⟨error, rfl⟩ | ⟨links, aer, rfl⟩
        · exact names_inProgress b'
        · exact names_failed b' error
        · exact absurd ⟨b', links, aer, rfl⟩ hnopass
  · obtain ⟨hstate, hwrites⟩ := env_files ho henv
    intro hpending
    rw [hwrites] at hpending
    rw [hstate]
    exact hl hpending

theorem History.latched {w : World} (h : History P (steadyEnv P b) w) : Latched b w := by
  induction h with
  | initial hwrites =>
    rintro ⟨before, since, h, -⟩
    rw [hwrites] at h
    simp at h
  | @run w w' p _ fuel args hrun ih =>
    have hmeets := (run_meets (P := P) fuel args (w := w.start) rfl).restrict (F := steadyEnv P b)
      fun _ _ _ _ hr => hr.1
    exact hmeets.invariant hrun (fun _ _ _ _ hr hG hl => steady_step hr hG hl) ih

/-- As long as the state file is only replaced by runs that heard `b` last from the guest, a run without `--retry`
that hears `b` issues no command that acts on the GPUs, once an attempt in boot `b` was started and not passed. -/
theorem attempt_not_repeated {w : World} (h : History P (steadyEnv P b) w) (hpending : Pending b w.writes)
    {fuel : Nat} {args : Args} (hretry : args.retry = false) {cmd : List String} (hcmd : Acts cmd)
    {k : Except Exn String → Routine Exn Nat} {w' : World}
    (hrun : Prog.Steps (env P) (run P fuel args, w.start) (.call (.guestExec cmd) k, w')) : w'.bootId ≠ some b := by
  intro hheard
  obtain ⟨data, hstate, hnames⟩ := h.latched hpending
  have hmeets := (run_meets (P := P) fuel args (w := w.start) rfl).steps hrun
  -- Any answer to the command will do.
  have hG := (Prog.meets_call.1 hmeets (.ok "") { w' with asked := cmd } rfl).1
  obtain ⟨b', hb', hor⟩ := hG.2 cmd rfl hcmd
  rw [hheard] at hb'
  cases hb'
  rcases hor with hretried | hunnamed
  · rw [hretry] at hretried
    cases hretried
  · apply hunnamed
    show Names b (w.state.getD (.obj []))
    rw [hstate]
    exact hnames

/-! ### Three runs on one host -/

def sampleBoot : String := "0a1b2c3d-0a1b-2c3d-4e5f-0123456789ab"

def otherBoot : String := "99999999-0a1b-2c3d-4e5f-0123456789ab"

/-- A guest command that ended with status 0 is a text that is not empty; the empty text is not JSON. -/
def samplePlatform : Platform where
  isDecimal c := c.isDigit
  loads text :=
    if text = "" then .error (otherError "Expecting value: line 1 column 1 (char 0)")
    else if text = "config" then .ok (.obj [("vmid", .num 100), ("devices", .arr
      [.obj [("host", .str "0000:01:00.0"), ("guest", .str "0000:01:00.0")]])])
    else if text = "pid" then .ok (.obj [("pid", .num 1)])
    else .ok (.obj [("exited", .bool true), ("exitcode", .num 0), ("out-data", .str text)])
  text _ := ""
  tail value _ := match value with
    | .str s => some s
    | _ => none

/-- The configuration space of a CMP100, and of its port, both at Gen1. -/
def sampleSpace (fd offset : Nat) : List UInt8 :=
  match fd, offset with
  | _, 0x34 => [0x60]
  | _, 0x60 => [0x10]
  | 1, 0 => [0xde, 0x10]
  | 1, 2 => [0x84, 0x1d]
  | 2, 0x62 => [0x40, 0]
  | 2, 0x6c => [2, 0]
  | _, 0x72 => [0x11, 0]
  | 2, 0x90 => [2, 0]
  | _, _ => [0, 0, 0, 0]

def sampleCommand : List String → String
  | ["qm", "status", _] => "status: running\n"
  | _ => "hostpci0: 0000:01:00.0,pcie=1\n"

/-- A host whose guest says `said` to the first boot query and answers no second one; other guest commands stop
the run. -/
def sampleAnswer (said : String) (w : World) : (o : Op) → Option (o.Answer × World)
  | .geteuid => some (0, w)
  | .configStat => some (.ok (0, 0o600), w)
  | .readConfig => some (.ok "config", w)
  | .command args => some (.ok (sampleCommand args), w)
  | .pciOpen bdf _ => some (.ok (if bdf = "0000:01:00.0" then 1 else 2), w)
  | .pciRead fd offset _ => some (.ok (sampleSpace fd offset), w)
  | .pciClose _ => some ((), w)
  | .pciCloseAll => some ((), w)
  | .driverName _ => some (.ok "vfio-pci", w)
  | .parentName _ => some (.ok "0000:00:01.0", w)
  | .readState => some (.ok w.state, w)
  | .writeTemp data => some (.ok (), { w with temp := some data })
  | .chmodTemp _ => some (.ok (), w)
  | .replaceState =>
    match w.temp with
    | some data =>
      if w.bootId = some said then
        some (.ok (), { w with temp := none, state := some data, writes := w.writes ++ [data] })
      else none
    | none => none
  | .monotonic => some (if w.bootId.isNone then 0 else 4000, w)
  | .sleep _ => some ((), w)
  | .guestExec args =>
    if args = bootCommand then some (.ok (if w.bootId.isNone then "pid" else ""), { w with asked := args }) else none
  | .guestExecStatus _ => some (.ok said, { w with bootId := w.reply samplePlatform said })
  | .log _ => some (.ok (), w)
  | .halt => none

private theorem replaceState_sampleAnswer {said : String} {w w' : World} {r : Except Exn Unit}
    (h : sampleAnswer said w .replaceState = some (r, w')) :
    w.bootId = some said ∧ ∃ data, r = .ok () ∧ w.temp = some data ∧
      w' = { w with temp := none, state := some data, writes := w.writes ++ [data] } := by
  simp only [sampleAnswer] at h
  cases htemp : w.temp with
  | none => simp [htemp] at h
  | some data =>
    simp only [htemp, Option.ite_none_right_eq_some, Option.some.injEq, Prod.mk.injEq] at h
    exact ⟨h.1, data, h.2.1.symm, rfl, h.2.2.symm⟩

theorem env_sampleAnswer (said : String) (w : World) (o : Op) (r : o.Answer) (w' : World)
    (h : sampleAnswer said w o = some (r, w')) : steadyEnv samplePlatform said w o r w' := by
  refine ⟨?_, fun ho _ => ?_⟩
  · cases o with
    | replaceState => exact .inr (replaceState_sampleAnswer h).2
    | guestExec args =>
      simp only [sampleAnswer, Option.ite_none_right_eq_some, Option.some.injEq, Prod.mk.injEq] at h
      exact h.2.2.symm
    | readState =>
      simp only [sampleAnswer, Option.some.injEq, Prod.mk.injEq] at h
      obtain ⟨rfl, rfl⟩ := h
      exact ⟨rfl, fun previous hprevious => (Except.ok.inj hprevious).symm⟩
    | writeTemp data =>
      simp only [sampleAnswer, Option.some.injEq, Prod.mk.injEq] at h
      exact ⟨fun _ => h.2.symm, some data, h.2.symm⟩
    | guestExecStatus pid =>
      simp only [sampleAnswer, Option.some.injEq, Prod.mk.injEq] at h
      obtain ⟨rfl, rfl⟩ := h
      rfl
    | _ => simp_all [sampleAnswer, env]
  · subst ho
    exact (replaceState_sampleAnswer h).1

/-- A run with the default arguments: its end, or its first guest command other than the boot query. -/
def sampleEnd (said : String) (w : World) : Routine Exn Nat × World :=
  (run samplePlatform 3 { vmid := 100 }).run (sampleAnswer said) w.start

theorem steps_sampleEnd (said : String) (w : World) :
    Prog.Steps (steadyEnv samplePlatform said) (run samplePlatform 3 { vmid := 100 }, w.start) (sampleEnd said w) :=
  Prog.steps_run (env_sampleAnswer said) _ _

private theorem history_sampleEnd {E : Env Op Op.Answer World} {said : String}
    (hE : ∀ w o r w', steadyEnv samplePlatform said w o r w' → E w o r w') {w : World}
    (h : History samplePlatform E w) : History samplePlatform E (sampleEnd said w).2 := by
  have hrun := (steps_sampleEnd said w).mono hE
  generalize sampleEnd said w = c at hrun ⊢
  obtain ⟨p, w'⟩ := c
  exact .run h 3 { vmid := 100 } hrun

/-- The first run has written the latch. -/
def firstWorld : World :=
  { state := some (inProgress sampleBoot), writes := [inProgress sampleBoot], asked := bootCommand,
    bootId := some sampleBoot }

private theorem firstRun_world : (sampleEnd sampleBoot {}).2 = firstWorld := by rfl

private theorem pending_firstWorld : Pending sampleBoot firstWorld.writes := ⟨[], [], rfl, fun _ h => nomatch h⟩

private theorem history_firstWorld : History samplePlatform (steadyEnv samplePlatform sampleBoot) firstWorld := by
  rw [← firstRun_world]
  exact history_sampleEnd (fun _ _ _ _ h => h) (.initial rfl)

/-- After a failed attempt a run in another boot starts the Tensor service. -/
theorem attempt_not_repeated_otherBoot : ∃ (k : Except Exn String → Routine Exn Nat) (w' : World),
    Prog.Steps (env samplePlatform) (run samplePlatform 3 { vmid := 100 }, firstWorld.start)
      (.call (.guestExec serviceCommand) k, w') ∧ w'.bootId = some otherBoot ∧ w'.bootId ≠ some sampleBoot := by
  have hend : ∃ k w', sampleEnd otherBoot firstWorld = (.call (.guestExec serviceCommand) k, w') ∧
      w'.bootId = some otherBoot := ⟨_, _, rfl, rfl⟩
  obtain ⟨k, w', heq, hboot⟩ := hend
  have hrun := (steps_sampleEnd otherBoot firstWorld).mono (F := env samplePlatform) fun _ _ _ _ h => h.1
  rw [heq] at hrun
  exact ⟨k, w', hrun, hboot,
    attempt_not_repeated history_firstWorld pending_firstWorld rfl (.inl rfl) hrun⟩

/-- The second run hears a malformed identifier, then output that is not JSON: its handler names the malformed one. -/
def secondWorld : World :=
  { state := some (failed "garbage" "Expecting value: line 1 column 1 (char 0)"),
    writes := [inProgress sampleBoot, failed "garbage" "Expecting value: line 1 column 1 (char 0)"],
    asked := bootCommand, bootId := some "garbage" }

private theorem secondRun_world : (sampleEnd "garbage" firstWorld).2 = secondWorld := by rfl

/-- The attempt in boot `b` is repeated by a run without `--retry`, after a run that heard a malformed identifier. -/
theorem malformed_identifier_unlatches : ∃ (P : Platform) (b : String) (w w' : World) (fuel : Nat) (args : Args)
    (cmd : List String) (k : Except Exn String → Routine Exn Nat), History P (env P) w ∧ Pending b w.writes ∧
      args.retry = false ∧ Acts cmd ∧ w'.bootId = some b ∧
      Prog.Steps (env P) (run P fuel args, w.start) (.call (.guestExec cmd) k, w') := by
  have hthird := (steps_sampleEnd sampleBoot secondWorld).mono (F := env samplePlatform) fun _ _ _ _ h => h.1
  have hend : ∃ k w', sampleEnd sampleBoot secondWorld = (.call (.guestExec serviceCommand) k, w') ∧
      w'.bootId = some sampleBoot := ⟨_, _, rfl, rfl⟩
  obtain ⟨k, w', heq, hboot⟩ := hend
  rw [heq] at hthird
  have hhistory : History samplePlatform (env samplePlatform) secondWorld := by
    rw [← secondRun_world, ← firstRun_world]
    exact history_sampleEnd (fun _ _ _ _ h => h.1) (history_sampleEnd (fun _ _ _ _ h => h.1) (.initial rfl))
  have hpending : Pending sampleBoot secondWorld.writes := by
    refine ⟨[], [failed "garbage" "Expecting value: line 1 column 1 (char 0)"], rfl, fun data hdata => ?_⟩
    rw [List.mem_singleton] at hdata
    subst hdata
    rintro ⟨b', links, aer, h⟩
    simp [failed, pass] at h
  exact ⟨samplePlatform, sampleBoot, secondWorld, w', 3, _, serviceCommand, k, hhistory, hpending, rfl, .inl rfl,
    hboot, hthird⟩

end

end CmpUnlocker.PcieHost
