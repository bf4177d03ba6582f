import CmpUnlocker.PcieHost.Quiet

/-!
# What one run may do to the state file and the GPUs

A run writes into the state file only what it records about the boot identifier it last received from the guest, and it
issues a guest command that acts on the GPUs only with an identifier that the file did not name when the run read it,
or with `--retry` (`run_meets`).
-/

namespace CmpUnlocker.PcieHost

open Interaction

/-! ### The world of the coordinator -/

/-- The state file and its temporary file; every content the state file was given; and, for the current run, the last
guest command and the last boot identifier the guest returned. -/
structure World where
  temp : Option Json := none
  state : Option Json := none
  writes : List Json := []
  asked : List String := []
  bootId : Option String := none

namespace World

/-- A new run has heard nothing from the guest. -/
def start (w : World) : World := { w with asked := [], bootId := none }

/-- What the text of a status request says about the boot identifier. -/
def reply (P : Platform) (w : World) (text : String) : Option String :=
  if w.asked = bootCommand then
    match guestReply P text with
    | .ok (some out) =>
      match stripped out with
      | .ok bootId => some bootId
      | .error _ => w.bootId
    | _ => w.bootId
  else w.bootId

end World

/-- Files behave; a failed write may leave anything in the temporary file; every other answer is arbitrary. -/
def env (P : Platform) : Env Op Op.Answer World
  | w, .readState, r, w' => w' = w ∧ ∀ previous, r = .ok previous → previous = w.state
  | w, .writeTemp data, r, w' => (r = .ok () → w' = { w with temp := some data }) ∧ ∃ t, w' = { w with temp := t }
  | w, .replaceState, r, w' =>
    (w' = w ∧ r ≠ .ok ()) ∨
      ∃ d, r = .ok () ∧ w.temp = some d ∧ w' = { w with temp := none, state := some d, writes := w.writes ++ [d] }
  | w, .guestExec args, _, w' => w' = { w with asked := args }
  | w, .guestExecStatus _, .ok text, w' => w' = { w with bootId := w.reply P text }
  | w, _, _, w' => w' = w

/-- The Tensor-service start and the Gen2 helper. -/
def Acts (cmd : List String) : Prop := cmd = serviceCommand ∨ ∃ targets, cmd = helperCommand targets

/-- The content of the state file names boot `b` as failed. -/
def Names (b : String) (data : Json) : Prop :=
  ∃ latched, failedBoot data = .ok latched ∧ latched.any (Json.isStr b) = true

/-- What a run writes about boot `b`. -/
def Records (b : String) (data : Json) : Prop :=
  data = inProgress b ∨ (∃ error, data = failed b error) ∨ ∃ links aer, data = pass b links aer

/-! ### What one run does -/

/-- The guarantee of one run that started with the state file `previous`. -/
def Guarantee (retry : Bool) (previous : Option Json) : Env Op Op.Answer World := fun w o _ _ =>
  (o = .replaceState → ∃ b data, w.bootId = some b ∧ w.temp = some data ∧ Records b data) ∧
    ∀ cmd, o = .guestExec cmd → Acts cmd →
      ∃ b, w.bootId = some b ∧ (retry = true ∨ ¬ Names b (previous.getD (.obj [])))

section

variable {P : Platform} {retry : Bool} {previous : Option Json}

theorem env_quiet {w w' : World} {o : Op} {r : o.Answer} (ho : Quiet o) (h : env P w o r w') : w' = w := by
  cases o <;> first | exact h | exact h.1 | exact ho.elim

private theorem guarantee_of_ne {w w' : World} {o : Op} {r : o.Answer} (hreplace : o ≠ .replaceState)
    (hexec : ∀ cmd, o = .guestExec cmd → ¬ Acts cmd) : Guarantee retry previous w o r w' :=
  ⟨fun ho => absurd ho hreplace, fun cmd ho hacts => absurd hacts (hexec cmd ho)⟩

private theorem quiet_guarantee {w w' : World} {o : Op} {r : o.Answer} (ho : Quiet o) :
    Guarantee retry previous w o r w' := by
  refine guarantee_of_ne (fun h => ?_) fun cmd h => ?_
  · subst h
    exact ho.elim
  · subst h
    exact ho.elim

/-- Quiet work leaves the world as it is. -/
theorem quiet_meets {ε α : Type} {p : Routine ε α} (hp : p.Uses Quiet) {w : World} {Q : α → World → Prop}
    {X : ε → World → Prop} (hQ : ∀ a, Q a w) (hX : ∀ e, X e w) : p.Meets (env P) (Guarantee retry previous) Q X w := by
  have hkeep : p.Meets (env P) (Guarantee retry previous) (fun _ w' => w' = w) (fun _ w' => w' = w) w := by
    refine Prog.Uses.meets (A := Quiet) (I := fun w' => w' = w) ?_ hp rfl
    intro w₁ o r w₂ ho hw₁ hr
    exact ⟨quiet_guarantee ho, (env_quiet ho hr).trans hw₁⟩
  refine hkeep.imp (fun a w' hw' => ?_) fun e w' hw' => ?_
  · rw [hw']
    exact hQ a
  · rw [hw']
    exact hX e

/-! ### Guest commands -/

/-- The world of a run after its guest said `bootId` last; the files are as before. -/
def World.heard (w : World) (args : List String) (bootId : Option String) : World :=
  { w with asked := args, bootId := bootId }

/-- What the output of a guest command says about the boot identifier. -/
def heardFrom (args : List String) (bootId : Option String) (out : Json) : Option String :=
  if args = bootCommand then
    match stripped out with
    | .ok text => some text
    | .error _ => bootId
  else bootId

private theorem reply_none {w : World} {text : String} (h : ∀ out, guestReply P text ≠ .ok (some out)) :
    w.reply P text = w.bootId := by
  unfold World.reply
  split
  · split
    · next out hout => exact absurd hout (h out)
    · rfl
  · rfl

private theorem reply_some {w : World} {text : String} {out : Json} (h : guestReply P text = .ok (some out)) :
    w.reply P text = heardFrom w.asked w.bootId out := by
  unfold World.reply heardFrom
  rw [h]

private theorem raising_meets {α : Type} {r : Except Exn α} {w : World} {Q : α → World → Prop} {X : Exn → World → Prop}
    (hok : ∀ a, r = .ok a → Q a w) (herror : ∀ e, r = .error e → X e w) :
    (raising r).Meets (env P) (Guarantee retry previous) Q X w := by
  cases r with
  | ok a => exact hok a rfl
  | error e => exact herror e rfl

theorem call_meets {ε : Type} {o : Op} {w : World} {Q : o.Answer → World → Prop} {X : ε → World → Prop}
    (h : ∀ r w', env P w o r w' → Guarantee retry previous w o r w' ∧ Q r w') :
    (call o : Routine ε o.Answer).Meets (env P) (Guarantee retry previous) Q X w :=
  h

private theorem quietCall_meets {ε : Type} {o : Op} (ho : Quiet o) {w : World} {Q : o.Answer → World → Prop}
    {X : ε → World → Prop} (hQ : ∀ r, Q r w) :
    (call o : Routine ε o.Answer).Meets (env P) (Guarantee retry previous) Q X w := by
  refine call_meets fun r w' hr => ⟨quiet_guarantee ho, ?_⟩
  rw [env_quiet ho hr]
  exact hQ r

theorem env_status {pid : Json} {r : Except Exn String} {w w' : World} (h : env P w (.guestExecStatus pid) r w') :
    (∃ text, r = .ok text ∧ w' = { w with bootId := w.reply P text }) ∨ (∃ e, r = .error e) ∧ w' = w := by
  cases r with
  | ok text => exact .inl ⟨text, rfl, h⟩
  | error e => exact .inr ⟨⟨e, rfl⟩, h⟩

/-- Polling a guest command changes nothing before its end, and then at most the boot identifier. -/
theorem pollGuest_meets (pid : Json) (deadline timeout fuel : Nat) (w : World) :
    (pollGuest P pid deadline timeout fuel).Meets (env P) (Guarantee retry previous)
      (fun out w' => w' = w.heard w.asked (heardFrom w.asked w.bootId out)) (fun _ w' => w' = w) w := by
  induction fuel with
  | zero => exact fun r => nomatch r
  | succ fuel ih =>
    unfold pollGuest
    refine Prog.meets_bind.2 (quietCall_meets (o := .monotonic) trivial fun now => ?_)
    refine Prog.meets_ite.2 ⟨fun _ => ?_, fun _ => rfl⟩
    refine Prog.meets_bind.2 (call_meets fun r w₁ hr => ⟨?_, ?_⟩)
    · exact guarantee_of_ne (fun ho => nomatch ho) fun cmd ho => nomatch ho
    · rcases env_status hr with ⟨text, rfl, hw₁⟩ | ⟨⟨e, rfl⟩, hw₁⟩
      · refine Prog.meets_bind.2 (Prog.meets_bind.2 (raising_meets (fun reply hreply => ?_) fun e he => ?_))
        · cases reply with
          | some out => rw [hw₁, reply_some hreply]; rfl
          | none =>
            have hsame : w₁ = w := by
              rw [hw₁, reply_none]
              intro out hout
              rw [hreply] at hout
              cases hout
            refine Prog.meets_bind.2 (quietCall_meets (o := .sleep 1000) trivial fun _ => ?_)
            rw [hsame]
            exact ih
        · rw [hw₁, reply_none]
          intro out hout
          rw [he] at hout
          cases hout
      · exact hw₁

/-- A command that acts on the GPUs is only issued with a boot identifier the state file does not name, or with
`--retry`. -/
def Allowed (retry : Bool) (previous : Option Json) (w : World) : Prop :=
  ∃ b, w.bootId = some b ∧ (retry = true ∨ ¬ Names b (previous.getD (.obj [])))

theorem guestExec_meets (fuel : Nat) (cmd : List String) (timeout : Nat) {w : World}
    (hallowed : Acts cmd → Allowed retry previous w) :
    (guestExec P fuel cmd timeout).Meets (env P) (Guarantee retry previous)
      (fun out w' => w' = w.heard cmd (heardFrom cmd w.bootId out)) (fun _ w' => w' = w.heard cmd w.bootId) w := by
  unfold guestExec
  refine Prog.meets_bind.2 (call_meets fun r w₁ hr => ⟨?_, ?_⟩)
  · refine ⟨fun ho => (nomatch ho), fun cmd' ho hacts => ?_⟩
    cases ho
    exact hallowed hacts
  · have hw₁ : w₁ = w.heard cmd w.bootId := hr
    refine Prog.meets_bind.2 (raising_meets (fun text _ => ?_) fun e _ => hw₁)
    refine Prog.meets_bind.2 (raising_meets (fun start _ => ?_) fun e _ => hw₁)
    refine Prog.meets_bind.2 (raising_meets (fun pid _ => ?_) fun e _ => hw₁)
    cases pid with
    | none => exact hw₁
    | some pid =>
      refine Prog.meets_bind.2 (quietCall_meets (o := .monotonic) trivial fun now => ?_)
      have hpoll :
          (pollGuest P pid (now + 1000 * timeout) timeout fuel).Meets (env P) (Guarantee retry previous) _ _ w₁ :=
        pollGuest_meets pid (now + 1000 * timeout) timeout fuel w₁
      refine hpoll.imp (fun out w' hw' => ?_) fun e w' hw' => ?_
      · rw [hw', hw₁]
        rfl
      · rw [hw', hw₁]

theorem bootCommand_inert : ¬ Acts bootCommand := by
  rintro (h | ⟨targets, h⟩)
  · simp [bootCommand, serviceCommand] at h
  · simp [bootCommand, helperCommand] at h

private theorem readBootOnce_meets (fuel : Nat) (w : World) :
    (readBootOnce P fuel).Meets (env P) (Guarantee retry previous)
      (fun text w' => w' = w.heard bootCommand (some text)) (fun _ w' => w' = w.heard bootCommand w.bootId) w := by
  refine Prog.meets_bind.2 ((guestExec_meets fuel bootCommand 15 fun h => absurd h bootCommand_inert).imp
    (fun out w₁ hw₁ => raising_meets (fun text htext => ?_) fun e he => ?_) fun _ _ hx => hx)
  · rw [hw₁, heardFrom, if_pos rfl, htext]
  · rw [hw₁, heardFrom, if_pos rfl, he]

/-- The local variable `boot_id` of the readiness loop is what the guest said last, also when the loop gives up. -/
theorem readBootId_meets (deadline guestFuel fuel : Nat) (bootId : Option String) (w : World) (h : w.bootId = bootId) :
    (readBootId P deadline guestFuel fuel bootId).Meets (env P) (Guarantee retry previous)
      (fun text w' => ∃ asked, w' = w.heard asked (some text))
      (fun failure w' => ∃ asked, w' = w.heard asked failure.bootId) w := by
  induction fuel generalizing bootId w with
  | zero => exact fun r => nomatch r
  | succ fuel ih =>
    -- One more pass of the loop, or the exception of the pass if the deadline is over.
    have hretry : ∀ (v : Option String) (error : Exn), Prog.Meets (env P) (Guarantee retry previous)
        (fun text w' => ∃ asked, w' = w.heard asked (some text))
        (fun failure w' => ∃ asked, w' = w.heard asked failure.bootId)
        (do
          let now ← call .monotonic
          if deadline ≤ now then throw { bootId := v, error := error }
          else do
            call (.sleep 3000)
            readBootId P deadline guestFuel fuel v) (w.heard bootCommand v) := by
      intro v error
      refine Prog.meets_bind.2 (quietCall_meets (o := .monotonic) trivial fun now => ?_)
      refine Prog.meets_ite.2 ⟨fun _ => ⟨bootCommand, rfl⟩, fun _ => ?_⟩
      refine Prog.meets_bind.2 (quietCall_meets (o := .sleep 3000) trivial fun _ => ?_)
      exact ih v (w.heard bootCommand v) rfl
    unfold readBootId
    refine Prog.meets_bind.2 (Prog.meets_attempt.2 ((readBootOnce_meets guestFuel w).imp ?_ ?_))
    · intro text w₁ hw₁
      rw [hw₁]
      refine Prog.meets_ite.2 ⟨fun _ => ⟨bootCommand, rfl⟩, fun _ => hretry _ _⟩
    · intro error w₁ hw₁
      rw [hw₁, h]
      refine Prog.meets_ite.2 ⟨fun _ => hretry _ _, fun _ => ⟨bootCommand, rfl⟩⟩

/-! ### The state file -/

/-- A write of the state file with what the run records about the boot it is in. -/
theorem atomicState_meets {b : String} {data : Json} (hdata : Records b data) {w : World} (hw : w.bootId = some b) :
    (atomicState data).Meets (env P) (Guarantee retry previous) (fun _ w' => w'.bootId = some b)
      (fun _ w' => w'.bootId = some b) w := by
  unfold atomicState
  refine Prog.meets_bind.2 (call_meets fun r w₁ hr => ⟨?_, ?_⟩)
  · exact guarantee_of_ne (fun ho => nomatch ho) fun cmd ho => nomatch ho
  · obtain ⟨hok, t, ht⟩ := hr
    refine Prog.meets_bind.2 (raising_meets (fun _ hr => ?_) fun e _ => ?_)
    · have hw₁ : w₁ = { w with temp := some data } := hok hr
      refine Prog.meets_bind.2 (quietCall_meets (o := .chmodTemp 0o600) trivial fun _ => ?_)
      refine Prog.meets_bind.2 (raising_meets (fun _ _ => ?_) fun e _ => ?_)
      · refine Prog.meets_bind.2 (call_meets fun r w₂ hr₂ => ⟨⟨fun _ => ?_, fun cmd ho => nomatch ho⟩, ?_⟩)
        · exact ⟨b, data, by rw [hw₁]; exact hw, by rw [hw₁], hdata⟩
        · have hw₂ : w₂.bootId = some b := by
            rcases hr₂ with ⟨hsame, -⟩ | ⟨d, -, -, hrenamed⟩
            · rw [hsame, hw₁]
              exact hw
            · rw [hrenamed, hw₁]
              exact hw
          exact raising_meets (fun _ _ => hw₂) fun _ _ => hw₂
      · rw [hw₁]
        exact hw
    · rw [ht]
      exact hw

/-! ### The run -/

/-- Guest commands, and everything quiet, keep what the guest said last about its boot. -/
theorem guestExec_keeps (fuel : Nat) {cmd : List String} (hcmd : cmd ≠ bootCommand) (timeout : Nat) {w : World}
    {b : String} (hw : w.bootId = some b) (hallowed : Allowed retry previous w) :
    (guestExec P fuel cmd timeout).Meets (env P) (Guarantee retry previous) (fun _ w' => w'.bootId = some b)
      (fun _ w' => w'.bootId = some b) w := by
  refine (guestExec_meets fuel cmd timeout fun _ => hallowed).imp (fun out w' hw' => ?_) fun e w' hw' => ?_
  · rw [hw', heardFrom, if_neg hcmd]
    exact hw
  · rw [hw']
    exact hw

private theorem attemptGen2_meets (fuel : Nat) (b : String) (devices : List Device) (pairs : List (Pci × Pci))
    {w : World}
    (hw : w.bootId = some b) (hlatch : retry = true ∨ ¬ Names b (previous.getD (.obj []))) :
    (attemptGen2 P fuel b devices pairs).Meets (env P) (Guarantee retry previous) (fun _ w' => w'.bootId = some b)
      (fun _ w' => w'.bootId = some b) w := by
  unfold attemptGen2
  refine Prog.meets_bind.2 (quiet_meets (aers_quiet pairs) (fun before => ?_) fun _ => hw)
  refine Prog.meets_bind.2 ((atomicState_meets (.inl rfl) hw).imp (fun _ w₁ hw₁ => ?_) fun _ _ hx => hx)
  refine Prog.meets_bind.2 (quiet_meets (Prog.Uses.forEach checkTarget_quiet pairs) (fun _ => ?_) fun _ => hw₁)
  have hservice : serviceCommand ≠ bootCommand := by simp [serviceCommand, bootCommand]
  refine Prog.meets_bind.2 ((guestExec_keeps fuel hservice 300 hw₁ ⟨b, hw₁, hlatch⟩).imp (fun _ w₂ hw₂ => ?_)
    fun _ _ hx => hx)
  refine Prog.meets_bind.2 (quiet_meets (pendingDevices_quiet _) (fun pending => ?_) fun _ => hw₂)
  have hhelper : helperCommand (if pending.isEmpty then devices else pending) ≠ bootCommand := by
    simp [helperCommand, bootCommand]
  refine Prog.meets_bind.2 ((guestExec_keeps fuel hhelper 500 hw₂ ⟨b, hw₂, hlatch⟩).imp (fun output w₃ hw₃ => ?_)
    fun _ _ hx => hx)
  split
  · exact hw₃
  · refine Prog.meets_bind.2 (quiet_meets (log_quiet _) (fun _ => ?_) fun _ => hw₃)
    refine Prog.meets_bind.2 (quiet_meets (statuses_quiet pairs) (fun states => ?_) fun _ => hw₃)
    refine Prog.meets_ite.2 ⟨fun _ => hw₃, fun _ => ?_⟩
    refine Prog.meets_bind.2 (quiet_meets (aers_quiet pairs) (fun after => ?_) fun _ => hw₃)
    refine Prog.meets_ite.2 ⟨fun _ => hw₃, fun _ => ?_⟩
    have hpass : Records b (pass b states after) := .inr (.inr ⟨states, after, rfl⟩)
    refine Prog.meets_bind.2 ((atomicState_meets hpass hw₃).imp (fun _ w₄ hw₄ => ?_) fun _ _ hx => hx)
    exact Prog.meets_bind.2 (quiet_meets (log_quiet _) (fun _ => hw₄) fun _ => hw₄)

private theorem runInBoot_meets (fuel : Nat) (args : Args) (b : String) (devices : List Device)
    (pairs : List (Pci × Pci))
    {w : World} (hw : w.bootId = some b) :
    (runInBoot P fuel args (previous.getD (.obj [])) b devices pairs).Meets (env P) (Guarantee args.retry previous)
      (fun _ w' => w'.bootId = some b) (fun _ w' => w'.bootId = some b) w := by
  unfold runInBoot
  refine Prog.meets_bind.2 (raising_meets (fun latched hlatched => ?_) fun _ _ => hw)
  refine Prog.meets_ite.2 ⟨fun _ => ?_, fun hgo => attemptGen2_meets fuel b devices pairs hw ?_⟩
  · exact Prog.meets_bind.2 (quiet_meets (log_quiet _) (fun _ => hw) fun _ => hw)
  · by_cases hretry : args.retry = true
    · exact .inl hretry
    · right
      rintro ⟨latched', hlatched', hnames⟩
      rw [hlatched] at hlatched'
      cases hlatched'
      simp [hnames, hretry] at hgo

private theorem inventory_meets (args : Args) (assigned : List String) (devices : List Device) (w : World) :
    (inventory args assigned devices).Meets (env P) (Guarantee retry previous)
      (fun found w' => w' = w ∧ found.2.2 = w.state.getD (.obj [])) (fun _ w' => w' = w) w := by
  unfold inventory
  refine Prog.meets_bind.2 (quiet_meets (collect_quiet (openPair_quiet args.vmid assigned) devices) (fun pairs => ?_)
    fun _ => rfl)
  refine Prog.meets_bind.2 (quiet_meets (statuses_quiet pairs) (fun states => ?_) fun _ => rfl)
  refine Prog.meets_bind.2 (quiet_meets (log_quiet _) (fun _ => ?_) fun _ => rfl)
  refine Prog.meets_bind.2 (call_meets fun r w₁ hr => ⟨quiet_guarantee trivial, ?_⟩)
  obtain ⟨hw₁, hread⟩ := hr
  refine Prog.meets_bind.2 (raising_meets (fun read hok => ?_) fun _ _ => hw₁)
  exact ⟨hw₁, by rw [hread read hok]⟩

private theorem within_meets {α : Type} {v : Option String} {p : Routine Exn α} {w : World} {Q : α → World → Prop}
    {X : Failure → World → Prop}
    (h : p.Meets (env P) (Guarantee retry previous) Q (fun error w' => X { bootId := v, error := error } w') w) :
    (within v p).Meets (env P) (Guarantee retry previous) Q X w :=
  Prog.meets_handle.2 h

/-- The exception handler finds in `boot_id` what the guest said last about its boot. -/
theorem guarded_meets (fuel : Nat) (args : Args) (assigned : List String) (devices : List Device) {w : World}
    (hw : w.bootId = none) :
    (guarded P fuel args assigned devices).Meets (env P) (Guarantee args.retry w.state) (fun _ _ => True)
      (fun failure w' => w'.bootId = failure.bootId) w := by
  unfold guarded
  refine Prog.meets_bind.2 (within_meets ((inventory_meets args assigned devices w).imp ?_ ?_))
  · rintro ⟨pairs, states, previous⟩ w₁ ⟨hw₁, hprevious⟩
    rw [hw₁, show previous = _ from hprevious]
    have hfound : ∀ latched : Option Json, Prog.Meets (env P) (Guarantee args.retry w.state) (fun _ _ => True)
        (fun failure w' => w'.bootId = failure.bootId)
        (if states.all settledGen2 && !(latched.any Json.truthy) then do
          within none (log "Already Gen2 on both sides of every link; no guest or register mutation")
          return 0
        else if args.check then return 1
        else do
          let now ← call .monotonic
          let bootId ← readBootId P (now + 180000) fuel fuel none
          within (some bootId) (runInBoot P fuel args (w.state.getD (.obj [])) bootId devices pairs)) w := by
      intro latched
      refine Prog.meets_ite.2 ⟨fun _ => ?_, fun _ => Prog.meets_ite.2 ⟨fun _ => trivial, fun _ => ?_⟩⟩
      · exact Prog.meets_bind.2 (within_meets (quiet_meets (log_quiet _) (fun _ => trivial) fun _ => hw))
      · refine Prog.meets_bind.2 (quietCall_meets (o := .monotonic) trivial fun now => ?_)
        refine Prog.meets_bind.2 ((readBootId_meets (now + 180000) fuel fuel none w hw).imp ?_ ?_)
        · rintro bootId w₂ ⟨asked, hw₂⟩
          have hboot : w₂.bootId = some bootId := by rw [hw₂]; rfl
          refine within_meets ((runInBoot_meets fuel args bootId devices pairs hboot).imp (fun _ _ _ => trivial) ?_)
          exact fun _ _ hx => hx
        · rintro failure w₂ ⟨asked, hw₂⟩
          rw [hw₂]
          rfl
    refine Prog.meets_bind.2 (within_meets (Prog.meets_ite.2 ⟨fun _ => ?_, fun _ => hfound none⟩))
    exact raising_meets (fun latched _ => hfound latched) fun _ _ => hw
  · intro error w₁ hw₁
    rw [hw₁]
    exact hw

/-- The program of one run, in any environment. -/
theorem run_meets (fuel : Nat) (args : Args) {w : World} (hw : w.bootId = none) :
    (run P fuel args).Meets (env P) (Guarantee args.retry w.state) (fun _ _ => True) (fun _ _ => True) w := by
  unfold run
  refine Prog.meets_bind.2 (quiet_meets (prepare_quiet args) (fun prepared => ?_) fun _ => trivial)
  cases prepared with
  | none => trivial
  | some prepared =>
    obtain ⟨devices, assigned⟩ := prepared
    have hclose : ∀ (outcome : Except Exn Nat) (w₁ : World), Prog.Meets (env P) (Guarantee args.retry w.state)
        (fun _ _ => True) (fun _ _ => True) (do call .pciCloseAll; raising outcome) w₁ := fun outcome w₁ =>
      Prog.meets_bind.2 (quietCall_meets (o := .pciCloseAll) trivial fun _ =>
        raising_meets (fun _ _ => trivial) fun _ _ => trivial)
    refine Prog.meets_bind.2 (Prog.meets_attempt.2 (Prog.meets_handle.2 ?_))
    refine (guarded_meets fuel args assigned devices hw).imp (fun value w₁ _ => hclose (.ok value) w₁) ?_
    intro failure w₁ hw₁
    unfold handleFailure
    split
    · next b hb =>
      have hrecords : Records b (failed b failure.error.message) := .inr (.inl ⟨_, rfl⟩)
      refine Prog.meets_bind.2 ((atomicState_meets hrecords (hw₁.trans hb)).imp (fun _ w₂ _ => ?_) fun error w₂ _ => ?_)
      · exact hclose (.error failure.error) w₂
      · exact hclose (.error error) w₂
    · exact hclose (.error failure.error) w₁

end

end CmpUnlocker.PcieHost
