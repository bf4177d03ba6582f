import CmpUnlocker.PcieHost.Checked
import CmpUnlocker.PcieHost.Latch

/-!
# The order of one run

The Tensor service and the Gen2 helper are started only when every configured device has passed its checks and the state
file names the boot of the guest; the file goes on naming it until a pass is recorded, and a pass is recorded only after
the helper, the links and the AER registers (`latched_and_verified`).  A run may be cut off anywhere.
-/

namespace CmpUnlocker.PcieHost

open Interaction

/-- What a pass says: the devices had passed their checks when the helper was started, and when it had returned every
port and endpoint was read at Gen2, with no new uncorrectable error. -/
def Passed (P : Platform) (args : Args) (t : Trace) : Prop :=
  ∃ (devices : List Device) (pairs : List (Pci × Pci)) (fuel : Nat) (targets : List Device) (output : Json)
    (t₁ t₂ t₃ : Trace), t = t₁ ++ t₂ ++ t₃ ∧ Validated P args devices pairs t₁ ∧
      Prog.Plays (guestExec P fuel (helperCommand targets) 500) t₂ (.ret output) ∧
      ∀ pair ∈ pairs, ∀ device ∈ [pair.1, pair.2], GenTwo device t₃ ∧ NoNewError device t₁ t₃

/-- The guarantee of one run: what it knows when it replaces the state file, and when it acts on the GPUs. -/
def Order (P : Platform) (args : Args) : Env Op Op.Answer (World × Trace) := fun v o _ _ =>
  (o = .replaceState → ∃ b data, v.1.bootId = some b ∧ v.1.temp = some data ∧ Records b data ∧
    (∀ d ∈ v.1.writes, Records b d) ∧ (IsPass data → Passed P args v.2)) ∧
  ∀ cmd, o = .guestExec cmd → Acts cmd → ∃ b devices pairs, v.1.bootId = some b ∧ v.1.state = some (inProgress b) ∧
    inProgress b ∈ v.1.writes ∧ Validated P args devices pairs v.2

abbrev MeetsT {ε α : Type} (P : Platform) (args : Args) (Q : α → World × Trace → Prop) (X : ε → World × Trace → Prop)
    (p : Routine ε α) (v : World × Trace) : Prop :=
  Prog.Meets (logged (env P)) (Order P args) Q X p v

/-- Requests that neither replace the state file nor act on the GPUs. -/
def Inert (o : Op) : Prop := o ≠ .replaceState ∧ ∀ cmd, o = .guestExec cmd → ¬ Acts cmd

section

variable {P : Platform} {args : Args} {ε α : Type}

theorem Passed.append {t : Trace} (h : Passed P args t) (s : Trace) : Passed P args (t ++ s) := by
  obtain ⟨devices, pairs, fuel, targets, output, t₁, t₂, t₃, rfl, hvalid, hplays, hdevices⟩ := h
  refine ⟨devices, pairs, fuel, targets, output, t₁, t₂, t₃ ++ s, by simp, hvalid, hplays,
    fun pair hpair device hdevice => ?_⟩
  obtain ⟨hgen, before, after, hbefore, hafter, hbits⟩ := hdevices pair hpair device hdevice
  exact ⟨hgen.mono (List.subset_append_left _ _), before, after, hbefore, hafter.append_right s, hbits⟩

/-! ### Inert work -/

private theorem quiet_inert {o : Op} (ho : Quiet o) : Inert o := by
  refine ⟨fun h => ?_, fun cmd h => ?_⟩
  · subst h
    exact ho.elim
  · subst h
    exact ho.elim

private theorem inert_order {o : Op} (ho : Inert o) {r : o.Answer} {v v' : World × Trace} : Order P args v o r v' :=
  ⟨fun h => absurd h ho.1, fun cmd h hacts => absurd hacts (ho.2 cmd h)⟩

/-- What inert work does to the world, it does in a run of the whole program. -/
theorem inert_meets {p : Routine ε α} (hp : p.Uses Inert) {G : Env Op Op.Answer World} {Q : α → World → Prop}
    {X : ε → World → Prop} {v : World × Trace} (h : p.Meets (env P) G Q X v.1) :
    MeetsT P args (fun a v' => Q a v'.1 ∧ ∃ s, v'.2 = v.2 ++ s ∧ Prog.Plays p s (.ret a))
      (fun e v' => X e v'.1 ∧ ∃ s, v'.2 = v.2 ++ s) p v := by
  have horder : MeetsT P args (fun _ _ => True) (fun _ _ => True) p v :=
    hp.meets (I := fun _ => True) (fun _ _ _ _ ho _ _ => ⟨inert_order ho, trivial⟩) trivial
  refine (horder.and (h.logged v.2)).imp (fun a v' hv' => hv'.2) fun e v' hv' => ?_
  obtain ⟨-, hX, s, hs, -⟩ := hv'
  exact ⟨hX, s, hs⟩

/-- Quiet work leaves the world as it is. -/
theorem quiet_order {p : Routine ε α} (hp : p.Uses Quiet) {v : World × Trace} {Q : α → World × Trace → Prop}
    {X : ε → World × Trace → Prop} (hQ : ∀ a s, Prog.Plays p s (.ret a) → Q a (v.1, v.2 ++ s))
    (hX : ∀ e s, X e (v.1, v.2 ++ s)) : MeetsT P args Q X p v := by
  have hkeep : p.Meets (env P) (Guarantee true none) (fun _ w => w = v.1) (fun _ w => w = v.1) v.1 :=
    quiet_meets hp (fun _ => rfl) fun _ => rfl
  refine (inert_meets (hp.mono fun _ => quiet_inert) hkeep).imp (fun a v' hv' => ?_) fun e v' hv' => ?_
  · obtain ⟨hw, s, hs, hplays⟩ := hv'
    rw [show v' = (v.1, v.2 ++ s) from Prod.ext hw hs]
    exact hQ a s hplays
  · obtain ⟨hw, s, hs⟩ := hv'
    rw [show v' = (v.1, v.2 ++ s) from Prod.ext hw hs]
    exact hX e s

private theorem call_order {o : Op} (ho : Quiet o) {v : World × Trace} {Q : o.Answer → World × Trace → Prop}
    {X : ε → World × Trace → Prop} (hQ : ∀ r s, Q r (v.1, v.2 ++ s)) : MeetsT P args Q X (call o) v := by
  rintro r ⟨w', t'⟩ ⟨hw, ht⟩
  obtain rfl : w' = v.1 := env_quiet ho hw
  obtain rfl : t' = v.2 ++ [⟨o, r⟩] := ht
  exact ⟨inert_order (quiet_inert ho), hQ r _⟩

/-! ### Guest commands -/

private theorem call_inert {o : Op} (ho : Quiet o) : (call o : Routine ε o.Answer).Uses Inert :=
  (call_quiet ho).mono fun _ => quiet_inert

private theorem raising_inert (r : Except Exn α) : (raising r : Routine Exn α).Uses Inert :=
  (raising_quiet r).mono fun _ => quiet_inert

private theorem pollGuest_inert (pid : Json) (deadline timeout fuel : Nat) :
    (pollGuest P pid deadline timeout fuel).Uses Inert := by
  induction fuel with
  | zero => exact ⟨⟨fun h => (nomatch h), fun _ h => nomatch h⟩, fun r => nomatch r⟩
  | succ fuel ih =>
    refine .bind (call_inert (o := .monotonic) trivial) fun now => Prog.uses_ite.2 ⟨fun _ => ?_, fun _ => trivial⟩
    refine ⟨⟨fun h => (nomatch h), fun _ h => nomatch h⟩, fun r => ?_⟩
    refine .bind (p := raising r) (raising_inert r) fun text => ?_
    refine .bind (raising_inert (guestReply P text)) fun reply => ?_
    cases reply with
    | some out => trivial
    | none => exact .bind (call_inert (o := .sleep 1000) trivial) fun _ => ih

/-- What a guest command does once it has been issued. -/
theorem guestExec_rest (cmd : List String) (fuel timeout : Nat) : ∃ k : Except Exn String → Routine Exn Json,
    guestExec P fuel cmd timeout = .call (.guestExec cmd) k ∧ ∀ r, (k r).Uses Inert := by
  refine ⟨_, rfl, fun r => ?_⟩
  refine .bind (p := raising r) (raising_inert r) fun text => ?_
  refine .bind (raising_inert (P.loads text)) fun start => ?_
  refine .bind (raising_inert (field "pid" start)) fun pid => ?_
  cases pid with
  | none => trivial
  | some pid => exact .bind (call_inert (o := .monotonic) trivial) fun now => pollGuest_inert _ _ _ _

/-- A command that acts on the GPUs, behind the latch. -/
theorem guestExec_order (fuel : Nat) {cmd : List String} (hcmd : cmd ≠ bootCommand) (timeout : Nat) {v : World × Trace}
    {b : String} {devices : List Device} {pairs : List (Pci × Pci)} (hboot : v.1.bootId = some b)
    (hstate : v.1.state = some (inProgress b)) (hwrites : inProgress b ∈ v.1.writes)
    (hvalid : Validated P args devices pairs v.2) :
    MeetsT P args
      (fun out v' => v'.1 = v.1.heard cmd v.1.bootId ∧ ∃ s, v'.2 = v.2 ++ s ∧
        Prog.Plays (guestExec P fuel cmd timeout) s (.ret out))
      (fun _ v' => v'.1 = v.1.heard cmd v.1.bootId ∧ ∃ s, v'.2 = v.2 ++ s) (guestExec P fuel cmd timeout) v := by
  have horder : MeetsT P args (fun _ _ => True) (fun _ _ => True) (guestExec P fuel cmd timeout) v := by
    obtain ⟨k, hk, hinert⟩ := guestExec_rest (P := P) cmd fuel timeout
    rw [hk]
    refine fun r v' _ => ⟨⟨fun h => (nomatch h), fun _ _ _ => ⟨b, devices, pairs, hboot, hstate, hwrites, hvalid⟩⟩, ?_⟩
    exact (hinert r).meets (I := fun _ => True) (fun _ _ _ _ ho _ _ => ⟨inert_order ho, trivial⟩) trivial
  have hworld := @guestExec_meets P true none fuel cmd timeout v.1
    fun _ => ⟨b, hboot, .inl rfl⟩
  refine (horder.and (hworld.logged v.2)).imp (fun out v' hv' => ?_) fun e v' hv' => ?_
  · obtain ⟨-, hw, s, hs, hplays⟩ := hv'
    rw [heardFrom, if_neg hcmd] at hw
    exact ⟨hw, s, hs, hplays⟩
  · obtain ⟨-, hw, s, hs, -⟩ := hv'
    exact ⟨hw, s, hs⟩

private theorem readBootId_inert (deadline guestFuel fuel : Nat) (bootId : Option String) :
    (readBootId P deadline guestFuel fuel bootId).Uses Inert := by
  have honce : (readBootOnce P guestFuel).Uses Inert := by
    obtain ⟨k, hk, hinert⟩ := guestExec_rest (P := P) bootCommand guestFuel 15
    unfold readBootOnce
    rw [hk]
    refine ⟨⟨fun h => (nomatch h), fun cmd h => ?_⟩, fun r => .bind (hinert r) fun out => raising_inert _⟩
    cases h
    exact bootCommand_inert
  induction fuel generalizing bootId with
  | zero => exact ⟨⟨fun h => (nomatch h), fun _ h => nomatch h⟩, fun r => nomatch r⟩
  | succ fuel ih =>
    have hretry : ∀ (v : Option String) (error : Exn), Prog.Uses Inert (do
        let now ← (call .monotonic : Routine Failure Nat)
        if deadline ≤ now then throw { bootId := v, error := error }
        else do
          call (.sleep 3000)
          readBootId P deadline guestFuel fuel v : Routine Failure String) := fun v error =>
      .bind (call_inert (o := .monotonic) trivial) fun now =>
        Prog.uses_ite.2 ⟨fun _ => trivial, fun _ => .bind (call_inert (o := .sleep 3000) trivial) fun _ => ih v⟩
    refine .bind honce.attempt fun outcome => ?_
    cases outcome with
    | ok text => exact Prog.uses_ite.2 ⟨fun _ => trivial, fun _ => hretry _ _⟩
    | error e => exact Prog.uses_ite.2 ⟨fun _ => hretry _ _, fun _ => trivial⟩

/-! ### The attempt -/

/-- The run has heard `b` last, and has recorded nothing about another boot. -/
def Noted (b : String) (v : World × Trace) : Prop := v.1.bootId = some b ∧ ∀ d ∈ v.1.writes, Records b d

/-- A write of the state file: it is replaced, or it is as before. -/
theorem atomicState_order {b : String} {data : Json} {v : World × Trace} (hnoted : Noted b v) (hdata : Records b data)
    (hpass : ∀ s, IsPass data → Passed P args (v.2 ++ s)) :
    MeetsT P args (fun _ v' => Noted b v' ∧ v'.1.state = some data ∧ data ∈ v'.1.writes ∧ ∃ s, v'.2 = v.2 ++ s)
      (fun _ v' => Noted b v') (atomicState data) v := by
  obtain ⟨hboot, hwrites⟩ := hnoted
  have htemp : Inert (.writeTemp data) := ⟨fun h => (nomatch h), fun _ h => nomatch h⟩
  rintro r₁ ⟨w₁, t₁⟩ ⟨⟨hok, t, ht⟩, ht₁⟩
  obtain rfl : t₁ = v.2 ++ [⟨.writeTemp data, r₁⟩] := ht₁
  refine ⟨inert_order htemp, ?_⟩
  cases r₁ with
  | error e =>
    obtain rfl : w₁ = { v.1 with temp := t } := ht
    exact ⟨hboot, hwrites⟩
  | ok _ =>
    obtain rfl : w₁ = { v.1 with temp := some data } := hok rfl
    rintro r₂ ⟨w₂, t₂⟩ ⟨hw₂, ht₂⟩
    obtain rfl : w₂ = { v.1 with temp := some data } := hw₂
    obtain rfl : t₂ = v.2 ++ [⟨.writeTemp data, .ok ()⟩] ++ [⟨.chmodTemp 0o600, r₂⟩] := ht₂
    refine ⟨inert_order (quiet_inert (o := .chmodTemp 0o600) trivial), ?_⟩
    cases r₂ with
    | error e => exact ⟨hboot, hwrites⟩
    | ok _ =>
      rintro r₃ ⟨w₃, t₃⟩ ⟨hw₃, ht₃⟩
      refine ⟨⟨fun _ => ⟨b, data, hboot, rfl, hdata, hwrites, fun hp => ?_⟩, fun cmd h => (nomatch h)⟩, ?_⟩
      · rw [List.append_assoc]
        exact hpass _ hp
      · rcases hw₃ with ⟨rfl, herror⟩ | ⟨d, rfl, hd, rfl⟩
        · cases r₃ with
          | ok _ => exact absurd rfl herror
          | error e => exact ⟨hboot, hwrites⟩
        · cases hd
          refine ⟨⟨hboot, fun d hd => ?_⟩, rfl, by simp, _, by rw [ht₃, List.append_assoc, List.append_assoc]⟩
          rcases List.mem_append.1 hd with hd | hd
          · exact hwrites d hd
          · rw [List.mem_singleton.1 hd]
            exact hdata

private theorem not_isPass_inProgress (b : String) : ¬ IsPass (inProgress b) := by
  rintro ⟨b', links, aer, h⟩
  simp [inProgress, pass] at h

private theorem not_isPass_failed (b error : String) : ¬ IsPass (failed b error) := by
  rintro ⟨b', links, aer, h⟩
  simp [failed, pass] at h

/-- The attempt: the guest commands behind the latch, and the pass behind the reads. -/
theorem attemptGen2_order (fuel : Nat) (b : String) (devices : List Device) (pairs : List (Pci × Pci))
    {v : World × Trace} (hnoted : Noted b v) (hinspected : Inspected P args devices pairs v.2) :
    MeetsT P args (fun _ => Noted b) (fun _ => Noted b) (attemptGen2 P fuel b devices pairs) v := by
  unfold attemptGen2
  refine Prog.meets_bind.2 (quiet_order (aers_quiet pairs) (fun before s₁ hbefore => ?_) fun _ _ => hnoted)
  have hnoted' : Noted b (v.1, v.2 ++ s₁) := hnoted
  refine Prog.meets_bind.2 ((atomicState_order hnoted' (.inl rfl) fun _ hp => absurd hp (not_isPass_inProgress b)).imp
    (fun _ v₁ hv₁ => ?_) fun _ _ hx => hx)
  obtain ⟨hnoted₁, hstate, hwrites, s₂, hs₂⟩ := hv₁
  refine Prog.meets_bind.2 (quiet_order (Prog.Uses.forEach checkTarget_quiet pairs) (fun _ s₃ htargets => ?_)
    fun _ _ => hnoted₁)
  -- Behind the latch.
  have hinspected₁ : Inspected P args devices pairs (v₁.2 ++ s₃) := by
    refine hinspected.mono fun e he => ?_
    rw [hs₂]
    simp [he]
  have hvalid₁ : Validated P args devices pairs (v₁.2 ++ s₃) := by
    refine ⟨hinspected₁, fun pair hpair => ?_⟩
    exact (checkTargets_plays htargets pair hpair).mono (List.subset_append_right _ _)
  have hservice : serviceCommand ≠ bootCommand := by simp [serviceCommand, bootCommand]
  have hheard : ∀ cmd, (v₁.1.heard cmd v₁.1.bootId).bootId = some b := fun _ => hnoted₁.1
  refine Prog.meets_bind.2
    ((guestExec_order (v := (v₁.1, v₁.2 ++ s₃)) fuel hservice 300 hnoted₁.1 hstate hwrites hvalid₁).imp
    (fun _ v₂ hv₂ => ?_) fun _ v₂ hv₂ => ?_)
  swap
  · rw [Noted, hv₂.1]
    exact ⟨hheard _, hnoted₁.2⟩
  obtain ⟨hw₂, s₄, hs₄, -⟩ := hv₂
  have hnoted₂ : Noted b v₂ := by
    rw [Noted, hw₂]
    exact ⟨hheard _, hnoted₁.2⟩
  refine Prog.meets_bind.2 (quiet_order (pendingDevices_quiet _) (fun pending s₅ _ => ?_) fun _ _ => hnoted₂)
  have hhelper : helperCommand (if pending.isEmpty then devices else pending) ≠ bootCommand := by
    simp [helperCommand, bootCommand]
  have hvalid₂ : Validated P args devices pairs (v₂.2 ++ s₅) := by
    refine hvalid₁.mono fun e he => ?_
    rw [hs₄]
    exact List.mem_append_left _ (List.mem_append_left _ he)
  have hstate₂ : v₂.1.state = some (inProgress b) := by
    rw [hw₂]
    exact hstate
  have hwrites₂ : inProgress b ∈ v₂.1.writes := by
    rw [hw₂]
    exact hwrites
  refine Prog.meets_bind.2
    ((guestExec_order (v := (v₂.1, v₂.2 ++ s₅)) fuel hhelper 500 hnoted₂.1 hstate₂ hwrites₂ hvalid₂).imp
    (fun output v₃ hv₃ => ?_) fun _ v₃ hv₃ => ?_)
  swap
  · rw [Noted, hv₃.1]
    exact hnoted₂
  obtain ⟨hw₃, s₆, hs₆, hplays⟩ := hv₃
  have hnoted₃ : ∀ s, Noted b (v₃.1, s) := by
    intro s
    rw [Noted, hw₃]
    exact hnoted₂
  split
  · exact hnoted₃ _
  refine Prog.meets_bind.2 (quiet_order (log_quiet _) (fun _ s₇ _ => ?_) fun _ _ => hnoted₃ _)
  refine Prog.meets_bind.2 (quiet_order (statuses_quiet pairs) (fun states s₈ hstates => ?_) fun _ _ => hnoted₃ _)
  refine Prog.meets_ite.2 ⟨fun _ => hnoted₃ _, fun hall => ?_⟩
  refine Prog.meets_bind.2 (quiet_order (aers_quiet pairs) (fun after s₉ hafter => ?_) fun _ _ => hnoted₃ _)
  refine Prog.meets_ite.2 ⟨fun _ => hnoted₃ _, fun hnone => ?_⟩
  have hpassed : ∀ s, Passed P args (v₃.2 ++ s₇ ++ s₈ ++ s₉ ++ s) := by
    intro s
    have hsettled := settled_genTwo hstates (by simpa using hall)
    have herrors := noNewError_of_collect hbefore hafter (by simpa using hnone)
    refine ⟨devices, pairs, fuel, _, output, v₂.2 ++ s₅, s₆, s₇ ++ s₈ ++ s₉ ++ s, ?_, hvalid₂, hplays, ?_⟩
    · rw [hs₆]
      simp
    · intro pair hpair device hdevice
      have hmem : device ∈ pairs.flatMap fun pair => [pair.1, pair.2] := List.mem_flatMap.2 ⟨pair, hpair, hdevice⟩
      refine ⟨(hsettled device hmem).mono fun e he => by simp [he], ?_⟩
      obtain ⟨x, y, hx, hy, hbits⟩ := herrors device hmem
      refine ⟨x, y, ?_, ?_, hbits⟩
      · rw [hs₄, hs₂]
        simpa using (hx.append_left v.2).append_right (s₂ ++ (s₃ ++ (s₄ ++ s₅)))
      · simpa using (hy.append_left (s₇ ++ s₈)).append_right s
  refine Prog.meets_bind.2 ((atomicState_order (hnoted₃ _) (.inr (.inr ⟨states, after, rfl⟩)) fun s _ => hpassed s).imp
    (fun _ v₄ hv₄ => ?_) fun _ _ hx => hx)
  exact Prog.meets_bind.2 (quiet_order (log_quiet _) (fun _ _ _ => hv₄.1) fun _ _ => hv₄.1)

private theorem runInBoot_order (fuel : Nat) (previous : Json) (b : String) (devices : List Device)
    (pairs : List (Pci × Pci))
    {v : World × Trace} (hnoted : Noted b v) (hinspected : Inspected P args devices pairs v.2) :
    MeetsT P args (fun _ => Noted b) (fun _ => Noted b) (runInBoot P fuel args previous b devices pairs) v := by
  unfold runInBoot
  refine Prog.meets_bind.2 (quiet_order (raising_quiet _) (fun latched s₁ _ => ?_) fun _ _ => hnoted)
  refine Prog.meets_ite.2 ⟨fun _ => ?_, fun _ => ?_⟩
  · exact Prog.meets_bind.2 (quiet_order (log_quiet _) (fun _ _ _ => hnoted) fun _ _ => hnoted)
  · exact attemptGen2_order fuel b devices pairs hnoted (hinspected.mono (List.subset_append_left _ _))

/-! ### The run -/

/-- The handler of `run` finds in `boot_id` what it may write about. -/
def Fails (failure : Failure) (v : World × Trace) : Prop := ∀ b, failure.bootId = some b → Noted b v

private theorem inventory_plays {assigned : List String} {devices : List Device} {pairs : List (Pci × Pci)}
    {states : List LinkStatus} {previous : Json} {s : Trace}
    (h : Prog.Plays (inventory args assigned devices) s (.ret (pairs, states, previous))) :
    List.Forall₂ (fun item pair => Checked assigned item pair s) devices pairs := by
  obtain ⟨s₁, s₂, pairs', rfl, hpairs, h₁⟩ := Prog.plays_bind_ret.1 h
  obtain ⟨s₃, s₄, states', rfl, -, h₂⟩ := Prog.plays_bind_ret.1 h₁
  obtain ⟨s₅, s₆, _, rfl, -, h₃⟩ := Prog.plays_bind_ret.1 h₂
  obtain ⟨r, previous', s₇, rfl, -, hret⟩ := asked_plays (o := .readState) (f := id) h₃
  obtain ⟨-, heq⟩ := Prog.plays_ret.1 hret
  cases heq
  refine (collect_plays hpairs).imp fun item pair hoccurs => ?_
  obtain ⟨t₁, t, t₂, rfl, hplays⟩ := hoccurs
  exact (openPair_plays hplays).mono fun e he => by simp [he]

private theorem inventory_quiet (assigned : List String) (devices : List Device) :
    (inventory args assigned devices).Uses Quiet := by
  refine .bind (collect_quiet (openPair_quiet args.vmid assigned) devices) fun pairs => ?_
  refine .bind (statuses_quiet pairs) fun states => .bind (log_quiet _) fun _ => ?_
  exact .bind (call_quiet (o := .readState) trivial) fun _ => .bind (raising_quiet _) fun _ => trivial

private theorem guarded_order (fuel : Nat) {assigned : List String} {devices : List Device} {v : World × Trace}
    (hwrites : v.1.writes = []) (hboot : v.1.bootId = none) (hconfig : Configured P args devices assigned v.2) :
    MeetsT P args (fun _ _ => True) Fails (guarded P fuel args assigned devices) v := by
  unfold guarded
  refine Prog.meets_bind.2
    (Prog.meets_handle.2 (quiet_order (inventory_quiet assigned devices) ?_ fun e s b hb => nomatch hb))
  rintro ⟨pairs, states, previous⟩ s₁ hinventory
  have hinspected : ∀ {s}, Inspected P args devices pairs (v.2 ++ s₁ ++ s) := by
    intro s
    have hall := inventory_plays hinventory
    refine ⟨assigned, hconfig.mono fun e he => by simp [he], hall.imp fun item pair hchecked => ?_⟩
    exact hchecked.mono fun e he => by simp [he]
  have hfound : ∀ (latched : Option Json) (s : Trace), MeetsT P args (fun _ _ => True) Fails
      (if states.all settledGen2 && !(latched.any Json.truthy) then do
        within none (log "Already Gen2 on both sides of every link; no guest or register mutation")
        return 0
      else if args.check then return 1
      else do
        let now ← call .monotonic
        let bootId ← readBootId P (now + 180000) fuel fuel none
        within (some bootId) (runInBoot P fuel args previous bootId devices pairs)) (v.1, v.2 ++ s₁ ++ s) := by
    intro latched s
    refine Prog.meets_ite.2 ⟨fun _ => ?_, fun _ => Prog.meets_ite.2 ⟨fun _ => trivial, fun _ => ?_⟩⟩
    · refine Prog.meets_bind.2 (Prog.meets_handle.2 (quiet_order (log_quiet _) (fun _ _ _ => trivial) ?_))
      exact fun e s b hb => nomatch hb
    · refine Prog.meets_bind.2 (call_order (o := .monotonic) trivial fun now s₂ => ?_)
      have hread := @readBootId_meets P true none (now + 180000) fuel fuel none v.1 hboot
      refine Prog.meets_bind.2
        ((inert_meets (v := (v.1, v.2 ++ s₁ ++ s ++ s₂)) (readBootId_inert _ _ _ _) hread).imp ?_ ?_)
      · rintro bootId v₁ ⟨⟨asked, hw₁⟩, s₃, hs₃, -⟩
        have hnoted : Noted bootId v₁ := by
          rw [Noted, hw₁]
          refine ⟨rfl, fun d hd => ?_⟩
          rw [show (v.1.heard asked (some bootId)).writes = [] from hwrites] at hd
          cases hd
        have hinspected₁ : Inspected P args devices pairs v₁.2 := by
          rw [hs₃]
          simpa using hinspected (s := s ++ (s₂ ++ s₃))
        refine Prog.meets_handle.2 ((runInBoot_order fuel previous bootId devices pairs hnoted hinspected₁).imp
          (fun _ _ _ => trivial) fun e v₂ hv₂ b hb => ?_)
        cases hb
        exact hv₂
      · rintro failure v₁ ⟨⟨asked, hw₁⟩, -⟩ b hb
        rw [Noted, hw₁]
        refine ⟨hb, fun d hd => ?_⟩
        rw [show (v.1.heard asked failure.bootId).writes = [] from hwrites] at hd
        cases hd
  refine Prog.meets_bind.2 (Prog.meets_handle.2 (Prog.meets_ite.2 ⟨fun _ => ?_, fun _ => ?_⟩))
  · exact quiet_order (raising_quiet _) (fun latched s _ => hfound latched s) fun e s b hb => nomatch hb
  · simpa using hfound none []

private theorem run_order (fuel : Nat) {w : World} (hwrites : w.writes = []) (hboot : w.bootId = none) :
    MeetsT P args (fun _ _ => True) (fun _ _ => True) (run P fuel args) (w, []) := by
  unfold run
  refine Prog.meets_bind.2 (quiet_order (prepare_quiet args) (fun prepared s hprepare => ?_) fun _ _ => trivial)
  cases prepared with
  | none => trivial
  | some prepared =>
    obtain ⟨devices, assigned⟩ := prepared
    have hclose : ∀ (outcome : Except Exn Nat) (v : World × Trace), MeetsT P args (fun _ _ => True) (fun _ _ => True)
        (do call .pciCloseAll; raising outcome) v := fun outcome v =>
      Prog.meets_bind.2 (call_order (o := .pciCloseAll) trivial fun _ _ =>
        quiet_order (raising_quiet _) (fun _ _ _ => trivial) fun _ _ => trivial)
    refine Prog.meets_bind.2 (Prog.meets_attempt.2 (Prog.meets_handle.2 ?_))
    refine (guarded_order (v := (w, [] ++ s)) fuel hwrites hboot (prepare_plays hprepare)).imp
      (fun value v₁ _ => hclose (.ok value) v₁) ?_
    intro failure v₁ hv₁
    unfold handleFailure
    split
    · next b hb =>
      have hdata : Records b (failed b failure.error.message) := .inr (.inl ⟨_, rfl⟩)
      refine Prog.meets_bind.2
        ((atomicState_order (hv₁ b hb) hdata fun _ hp => absurd hp (not_isPass_failed b _)).imp ?_ ?_)
      · exact fun _ v₂ _ => hclose (.error failure.error) v₂
      · exact fun error v₂ _ => hclose (.error error) v₂
    · exact hclose (.error failure.error) v₁

/-- What is known of the state file while one run goes on. -/
structure Ledger (P : Platform) (args : Args) (v : World × Trace) : Prop where
  last : ∀ d, v.1.writes.getLast? = some d → v.1.state = some d
  same : ∃ b, ∀ d ∈ v.1.writes, Records b d
  passed : ∀ d ∈ v.1.writes, IsPass d → Passed P args v.2

private theorem ledger_step {v v' : World × Trace} {o : Op} {r : o.Answer} (h : logged (env P) v o r v')
    (horder : Order P args v o r v') (hledger : Ledger P args v) : Ledger P args v' := by
  obtain ⟨henv, htrace⟩ := h
  by_cases ho : o = .replaceState
  · subst ho
    obtain ⟨b, data, -, htemp, hdata, hall, hpassed⟩ := horder.1 rfl
    rcases henv with ⟨hsame, -⟩ | ⟨d, -, hd, hw⟩
    · refine ⟨hsame ▸ hledger.last, hsame ▸ hledger.same, fun d hd hp => ?_⟩
      rw [htrace]
      exact (hledger.passed d (hsame ▸ hd) hp).append _
    · obtain rfl : data = d := Option.some.inj (htemp.symm.trans hd)
      have hstate : v'.1.state = some data := by rw [hw]
      have hwrites : v'.1.writes = v.1.writes ++ [data] := by rw [hw]
      refine ⟨fun d hd => ?_, ⟨b, fun d hd => ?_⟩, fun d hd hp => ?_⟩
      · rw [hwrites, List.getLast?_concat] at hd
        rw [hstate]
        exact hd
      · rw [hwrites] at hd
        rcases List.mem_append.1 hd with hd | hd
        · exact hall d hd
        · rw [List.mem_singleton.1 hd]
          exact hdata
      · rw [hwrites] at hd
        rw [htrace]
        rcases List.mem_append.1 hd with hd | hd
        · exact (hledger.passed d hd hp).append _
        · rw [List.mem_singleton.1 hd] at hp
          exact (hpassed hp).append _
  · obtain ⟨hstate, hwrites⟩ := env_files ho henv
    refine ⟨?_, ?_, fun d hd hp => ?_⟩
    · rw [hstate, hwrites]
      exact hledger.last
    · rw [hwrites]
      exact hledger.same
    · rw [hwrites] at hd
      rw [htrace]
      exact (hledger.passed d hd hp).append _

private theorem records_inProgress {b b' : String} (h : Records b' (inProgress b)) : b' = b := by
  rcases h with heq | ⟨error, heq⟩ | ⟨links, aer, heq⟩
  · simp only [inProgress, Json.obj.injEq, List.cons.injEq, Prod.mk.injEq, Json.str.injEq, and_true, true_and] at heq
    exact heq.symm
  · simp [inProgress, failed] at heq
  · exact absurd ⟨b', links, aer, heq⟩ (not_isPass_inProgress b)

/-- One run, stopped anywhere: when it starts the Tensor service or the helper, every device has passed its checks and
the state file names the boot the guest has reported; once it has, it names it as long as no pass is recorded; and where
a pass is recorded, everything was verified. -/
theorem latched_and_verified {fuel : Nat} {w : World} {p : Routine Exn Nat} {v : World × Trace}
    (hrun : Prog.Steps (logged (env P)) (run P fuel args, ({ w with writes := [] }.start, [])) (p, v)) :
    (∀ cmd k, p = .call (.guestExec cmd) k → Acts cmd → ∃ b devices pairs, v.1.bootId = some b ∧
      v.1.state = some (inProgress b) ∧ inProgress b ∈ v.1.writes ∧ Validated P args devices pairs v.2) ∧
    (∀ b, inProgress b ∈ v.1.writes → (∀ data ∈ v.1.writes, ¬ IsPass data) →
      ∃ data, v.1.state = some data ∧ Names b data) ∧
    (∀ data ∈ v.1.writes, IsPass data → Passed P args v.2) := by
  have hmeets :
      MeetsT P args (fun _ _ => True) (fun _ _ => True) (run P fuel args) ({ w with writes := [] }.start, []) :=
    run_order fuel rfl rfl
  have hledger : Ledger P args v := by
    refine hmeets.invariant hrun (fun _ _ _ _ hr hG hl => ledger_step hr hG hl) ⟨?_, ⟨"", ?_⟩, ?_⟩ <;>
    · intro d hd
      cases hd
  refine ⟨fun cmd k hp hcmd => ?_, fun b hb hnone => ?_, hledger.passed⟩
  · subst hp
    -- Any answer to the command will do.
    exact (Prog.meets_call.1 (hmeets.steps hrun) (.ok "") ({ v.1 with asked := cmd }, v.2 ++ [_])
      ⟨rfl, rfl⟩).1.2 cmd rfl hcmd
  · obtain ⟨b', hall⟩ := hledger.same
    obtain rfl := records_inProgress (hall _ hb)
    obtain ⟨last, hlast⟩ := Option.isSome_iff_exists.1 (List.getLast?_isSome.2 (List.ne_nil_of_mem hb))
    have hmem := List.mem_of_getLast? hlast
    refine ⟨last, hledger.last last hlast, ?_⟩
    rcases hall last hmem with rfl | ⟨error, rfl⟩ | ⟨links, aer, rfl⟩
    · exact names_inProgress b'
    · exact names_failed b' error
    · exact absurd ⟨b', links, aer, rfl⟩ (hnone _ hmem)

end

/-! ### A run that passes -/

/-- A host with AER registers, whose link is at Gen2 once the helper has been issued. -/
def passSpace (asked : List String) (fd offset : Nat) : List UInt8 :=
  match offset with
  | 0x72 => if asked.head? = some "/usr/bin/timeout" then [0x12, 0] else [0x11, 0]
  | 0x100 => [1, 0, 1, 0]
  | _ => sampleSpace fd offset

/-- Every guest command ends with status 0. -/
def passAnswer (w : World) : (o : Op) → Option (o.Answer × World)
  | .pciRead fd offset _ => some (.ok (passSpace w.asked fd offset), w)
  | .guestExec args => some (.ok "pid", { w with asked := args })
  | .guestExecStatus _ =>
    let text := if w.asked = bootCommand then sampleBoot else "done"
    some (.ok text, { w with bootId := w.reply samplePlatform text })
  | .replaceState =>
    match w.temp with
    | some data => some (.ok (), { w with temp := none, state := some data, writes := w.writes ++ [data] })
    | none => none
  | o => sampleAnswer sampleBoot w o

private theorem env_passAnswer {w w' : World} {o : Op} {r : o.Answer} (h : passAnswer w o = some (r, w')) :
    env samplePlatform w o r w' := by
  cases o with
  | pciRead fd offset size =>
    simp only [passAnswer, Option.some.injEq, Prod.mk.injEq] at h
    exact h.2.symm
  | guestExec args =>
    simp only [passAnswer, Option.some.injEq, Prod.mk.injEq] at h
    exact h.2.symm
  | guestExecStatus pid =>
    simp only [passAnswer, Option.some.injEq, Prod.mk.injEq] at h
    obtain ⟨rfl, rfl⟩ := h
    rfl
  | replaceState =>
    simp only [passAnswer] at h
    split at h
    · next data htemp =>
      simp only [Option.some.injEq, Prod.mk.injEq] at h
      exact .inr ⟨data, h.1.symm, htemp, h.2.symm⟩
    · cases h
  | _ => exact (env_sampleAnswer sampleBoot w _ r w' h).1

@[irreducible] def passEnd : Routine Exn Nat × World := (run samplePlatform 3 { vmid := 100 }).run passAnswer {}

private theorem passEnd_eq : (run samplePlatform 3 { vmid := 100 }).run passAnswer {} = (passEnd.1, passEnd.2) := by
  unfold passEnd
  rfl

def passLinks : List LinkStatus := ["0000:00:01.0", "0000:01:00.0"].map fun bdf =>
  { bdf := bdf, raw := "0x0012", generation := 2, width := 1, training := false }

def passAer : List (Option Aer) := [some ⟨0, 0⟩, some ⟨0, 0⟩]

set_option maxRecDepth 100000 in
private theorem passEnd_writes : passEnd.2.writes = [inProgress sampleBoot, pass sampleBoot passLinks passAer] := by
  with_unfolding_all rfl

set_option maxRecDepth 100000 in
private theorem passEnd_state : passEnd.2.state = some (pass sampleBoot passLinks passAer) := by with_unfolding_all rfl

/-- The device passes its checks, the helper runs, and a pass is recorded. -/
theorem latched_and_verified_pass : ∃ t, passEnd.2.state = some (pass sampleBoot passLinks passAer) ∧
    Passed samplePlatform { vmid := 100 } t := by
  have henv : ∀ w o r w', passAnswer w o = some (r, w') → env samplePlatform w o r w' :=
    fun _ _ _ _ hr => env_passAnswer hr
  have hrun := Prog.steps_run henv (run samplePlatform 3 { vmid := 100 }) {}
  rw [passEnd_eq] at hrun
  obtain ⟨t, hlogged⟩ := hrun.logged []
  have hall := (latched_and_verified (w := {}) hlogged).2.2
  refine ⟨t, passEnd_state, hall (pass sampleBoot passLinks passAer) ?_ ⟨sampleBoot, passLinks, passAer, rfl⟩⟩
  show pass sampleBoot passLinks passAer ∈ passEnd.2.writes
  rw [passEnd_writes]
  simp

end CmpUnlocker.PcieHost
