import CmpUnlocker.Gemm.Checks
import CmpUnlocker.Gemm.Main

/-!
# A KeyboardInterrupt in a runner

A runner that is struck once either lets the KeyboardInterrupt out or, struck in the timed section, ends normally with
the stop flag set (`Called.of_strike`, `Called.of_struck_timed`); one that is not struck does not let one out
(`Called.not_interrupted`), and does not set the stop flag (`Called.stop_le`).
-/

namespace CmpUnlocker.Gemm

open Interaction

/-- The exception is the KeyboardInterrupt if one has struck, and another one if none has. -/
def Fine (e : Exn) (w : World) : Prop := (w.strikes = 0 → e ≠ .interrupt) ∧ (w.strikes = 1 → e = .interrupt)

/-- The exception is the only KeyboardInterrupt, or there has been none. -/
def Raised (e : Exn) (w : World) : Prop := w.strikes = if e = .interrupt then 1 else 0

/-- A KeyboardInterrupt has been caught. -/
def Caught (w : World) : Prop := 1 ≤ w.strikes ∧ w.stop = true

/-- The stop flag is set only behind a KeyboardInterrupt. -/
def cautious : Env Request Request.Answer World := fun w o _ _ => o = .requestStop → 1 ≤ w.strikes

/-- From before any KeyboardInterrupt on: the first one ends the program. -/
def Undisturbed {α : Type} (p : Run Exn α) : Prop :=
  ∀ w, w.strikes = 0 → p.Meets torch cautious (fun _ w' => w'.strikes = 0) Raised w

/-- From the one that was caught on: only a second one ends the program. -/
def Winding {α : Type} (p : Run Exn α) : Prop :=
  ∀ w, Caught w → p.Meets torch cautious (fun _ w' => Caught w') (fun _ w' => 2 ≤ w'.strikes) w

/-- The request can raise nothing but a KeyboardInterrupt. -/
def Request.Safe (o : Request) : Prop := ∀ e, o.MayRaise e → e = .interrupt

private theorem safe_monotonic : Request.monotonic.Safe := by
  intro e he
  cases e with
  | interrupt => rfl
  | _ => exact he.elim

private theorem safe_stopRequested : Request.stopRequested.Safe := by
  intro e he
  cases e with
  | interrupt => rfl
  | _ => exact he.elim

private theorem safe_requestStop : Request.requestStop.Safe := by
  intro e he
  cases e with
  | interrupt => rfl
  | _ => exact he.elim

private theorem safe_readTelemetry (d : Int) : (Request.readTelemetry d).Safe := by
  intro e he
  cases e with
  | interrupt => rfl
  | _ => exact he.elim

theorem torch_strikes {w w' : World} {o : Request} {x : o.Value} (h : torch w o (.ok x) w') :
    w'.strikes = w.strikes ∧ (w.stop = true → w'.stop = true) ∧ w'.free = w.free := by
  cases o with
  | stopRequested =>
    obtain ⟨hstop, rfl⟩ := h
    exact ⟨rfl, hstop, rfl⟩
  | memGetInfo d =>
    obtain ⟨-, rfl⟩ := h
    exact ⟨rfl, id, rfl⟩
  | requestStop =>
    cases h
    exact ⟨rfl, fun _ => rfl, rfl⟩
  | _ =>
    cases h
    exact ⟨rfl, id, rfl⟩

private theorem torch_raised {w w' : World} {o : Request} {e : Exn} (h : torch w o (.error e) w') :
    o.MayRaise e ∧ w'.strikes = w.strikes + (if e = .interrupt then 1 else 0) ∧ w'.stop = w.stop ∧
      w'.free = w.free := by
  obtain ⟨hmay, rfl⟩ : _ ∧ w' = _ := h
  exact ⟨hmay, rfl, rfl, rfl⟩

private theorem raised_of_torch {w w' : World} {o : Request} {e : Exn} (hw : w.strikes = 0)
    (h : torch w o (.error e) w') :
    Raised e w' := by
  have hstrikes := (torch_raised h).2.1
  rwa [hw, Nat.zero_add] at hstrikes

theorem Raised.fine {e : Exn} {w : World} (h : Raised e w) : Fine e w := by
  unfold Raised at h
  by_cases he : e = .interrupt
  · rw [if_pos he] at h
    exact ⟨fun hzero => by omega, fun _ => he⟩
  · rw [if_neg he] at h
    exact ⟨fun _ => he, fun hone => by omega⟩

private theorem fine_beyond {e : Exn} {w : World} (h : 2 ≤ w.strikes) : Fine e w :=
  ⟨fun hzero => by omega, fun hone => by omega⟩

private theorem ask_cautious {w : World} {o : Request} {Q : o.Value → World → Prop} {X : Exn → World → Prop}
    (ho : o = .requestStop → 1 ≤ w.strikes) (hok : ∀ x w', torch w o (.ok x) w' → Q x w')
    (herror : ∀ e w', torch w o (.error e) w' → X e w') : (ask o).Meets torch cautious Q X w := by
  intro r w' hr
  refine ⟨ho, ?_⟩
  cases r with
  | ok x => exact hok x w' hr
  | error e => exact herror e w' hr

/-! ### Undisturbed programs -/

section

variable {α β : Type} {p : Run Exn α} {f : α → Run Exn β} {o : Request}

private theorem undisturbed_ask (ho : o ≠ .requestStop) : Undisturbed (ask o) := by
  intro w hw
  exact ask_cautious (fun h => absurd h ho) (fun x w' hr => (torch_strikes hr).1.trans hw)
    fun e w' hr => raised_of_torch hw hr

private theorem undisturbed_bind (hp : Undisturbed p) (hf : ∀ a, Undisturbed (f a)) : Undisturbed (p.bind f) :=
  fun w hw => Prog.meets_bind.2 ((hp w hw).imp (fun a w' hw' => hf a w' hw') fun _ _ hx => hx)

private theorem undisturbed_ret {a : α} : Undisturbed (.ret a : Run Exn α) := fun _ hw => hw

private theorem undisturbed_throw {e : Exn} (he : e ≠ .interrupt) : Undisturbed (.throw e : Run Exn α) := by
  intro w hw
  exact hw.trans (if_neg he).symm

private theorem undisturbed_ite {c : Prop} [Decidable c] {q : Run Exn α} (hp : Undisturbed p) (hq : Undisturbed q) :
    Undisturbed (if c then p else q) := by
  split
  · exact hp
  · exact hq

private theorem undisturbed_forEach {g : β → Run Exn Unit} (hg : ∀ x, Undisturbed (g x)) (xs : List β) :
    Undisturbed (Prog.forEach g xs) := by
  induction xs with
  | nil => exact undisturbed_ret
  | cons x xs ih => exact undisturbed_bind (hg x) fun _ => ih

/-! ### Programs that wind down -/

private theorem winding_ask (ho : o.Safe) : Winding (ask o) := by
  intro w hw
  refine ask_cautious (fun _ => hw.1) (fun x w' hr => ?_) fun e w' hr => ?_
  · obtain ⟨hstrikes, hstop, -⟩ := torch_strikes hr
    exact ⟨hstrikes ▸ hw.1, hstop hw.2⟩
  · obtain ⟨hmay, hstrikes, -⟩ := torch_raised hr
    rw [if_pos (ho e hmay)] at hstrikes
    have hone := hw.1
    show 2 ≤ w'.strikes
    omega

private theorem winding_bind (hp : Winding p) (hf : ∀ a, Winding (f a)) : Winding (p.bind f) :=
  fun w hw => Prog.meets_bind.2 ((hp w hw).imp (fun a w' hw' => hf a w' hw') fun _ _ hx => hx)

private theorem winding_ret {a : α} : Winding (.ret a : Run Exn α) := fun _ hw => hw

private theorem winding_ite {c : Prop} [Decidable c] {q : Run Exn α} (hp : Winding p) (hq : Winding q) :
    Winding (if c then p else q) := by
  split
  · exact hp
  · exact hq

/-- Beyond a second KeyboardInterrupt. -/
theorem beyond_meets {w : World} (h : 2 ≤ w.strikes) :
    p.Meets torch cautious (fun _ w' => 2 ≤ w'.strikes) (fun _ w' => 2 ≤ w'.strikes) w := by
  have huses : p.Uses fun _ => True := by
    induction p with
    | ret a => trivial
    | throw e => trivial
    | call o k ih => exact ⟨trivial, ih⟩
  refine huses.meets (I := fun w' : World => 2 ≤ w'.strikes)
    (fun w' o r w'' _ hw' hr => ⟨fun _ => Nat.le_of_succ_le hw', ?_⟩) h
  cases r with
  | ok x => exact (torch_strikes hr).1 ▸ hw'
  | error e =>
    have hstrikes := (torch_raised hr).2.1
    show 2 ≤ w''.strikes
    omega

end

/-! ### One configuration -/

section

variable {py : Py} {args : Args} {cfg : Config} {d : Int}

/-- A program of the timed section: the first KeyboardInterrupt ends it. -/
def UndisturbedIn {α : Type} (p : Run (Timing × Exn) α) : Prop :=
  ∀ w, w.strikes = 0 → p.Meets torch cautious (fun _ w' => w'.strikes = 0)
    (fun end' w' => Raised end'.2 w') w

private theorem undisturbedIn_askIn {s : Timing} {o : Request} (ho : o ≠ .requestStop) :
    UndisturbedIn (askIn s o) := by
  intro w hw r w' hr
  refine ⟨fun h => absurd h ho, ?_⟩
  cases r with
  | ok x => exact (torch_strikes hr).1.trans hw
  | error e => exact raised_of_torch hw hr

private theorem undisturbedIn_bind {α β : Type} {p : Run (Timing × Exn) α} {f : α → Run (Timing × Exn) β}
    (hp : UndisturbedIn p) (hf : ∀ a, UndisturbedIn (f a)) : UndisturbedIn (p.bind f) :=
  fun w hw => Prog.meets_bind.2 ((hp w hw).imp (fun a w' hw' => hf a w' hw') fun _ _ hx => hx)

private theorem undisturbedIn_ret {α : Type} {a : α} : UndisturbedIn (.ret a : Run (Timing × Exn) α) := fun _ hw => hw

private theorem undisturbedIn_ite {α : Type} {p q : Run (Timing × Exn) α} {c : Prop} [Decidable c]
    (hp : UndisturbedIn p)
    (hq : UndisturbedIn q) : UndisturbedIn (if c then p else q) := by
  split
  · exact hp
  · exact hq

private theorem undisturbedIn_check {mode : Validate} {s : Timing} : UndisturbedIn (check args mode s) :=
  undisturbedIn_bind (undisturbedIn_ite (undisturbedIn_askIn (by simp)) (undisturbedIn_askIn (by simp)))
    fun _ => undisturbedIn_ret

private theorem undisturbedIn_timedLoop {mode : Validate} {wallStart : Flt} (fuel : Nat) {s : Timing} :
    UndisturbedIn (timedLoop py cfg args mode wallStart fuel s) := by
  induction fuel generalizing s with
  | zero =>
    intro w hw
    exact hw
  | succ fuel ih =>
    unfold timedLoop
    refine undisturbedIn_ite undisturbedIn_ret (undisturbedIn_bind (undisturbedIn_askIn (by simp)) fun stop => ?_)
    refine undisturbedIn_ite undisturbedIn_ret (undisturbedIn_bind (undisturbedIn_askIn (by simp)) fun timing => ?_)
    -- an iteration that took no time is not counted; a counted one may be due for a check
    refine undisturbedIn_ite ih ?_
    refine undisturbedIn_bind (undisturbedIn_ite undisturbedIn_check undisturbedIn_ret) fun s => ?_
    exact undisturbedIn_bind (undisturbedIn_askIn (by simp)) fun now => undisturbedIn_ite undisturbedIn_ret ih

private theorem undisturbedIn_timed {mode : Validate} {wallStart : Flt} {fuel : Nat} {c : Tensor} :
    UndisturbedIn (timed py fuel cfg args mode wallStart c) := by
  refine undisturbedIn_bind (undisturbedIn_timedLoop fuel) fun s => undisturbedIn_ite ?_ undisturbedIn_ret
  refine undisturbedIn_bind undisturbedIn_check fun s => undisturbedIn_bind ?_ fun _ => undisturbedIn_ret
  exact undisturbedIn_ite (undisturbedIn_askIn (by simp)) undisturbedIn_ret

private theorem undisturbed_closing {wallStart : Flt} {res : ConfigResult} :
    Undisturbed (closing py d args wallStart res) :=
  undisturbed_bind (undisturbed_ask (by simp)) fun _ =>
    undisturbed_bind (undisturbed_ite (undisturbed_ask (by simp)) undisturbed_ret) fun _ => undisturbed_ret

private theorem winding_closing {wallStart : Flt} {res : ConfigResult} : Winding (closing py d args wallStart res) :=
  winding_bind (winding_ask safe_monotonic) fun _ =>
    winding_bind (winding_ite (winding_ask (safe_readTelemetry d)) winding_ret) fun _ => winding_ret

private theorem undisturbed_settle {res : ConfigResult} : Undisturbed (settle res) := by
  refine undisturbed_bind (undisturbed_ite undisturbed_ret (undisturbed_ask (by simp))) fun stop => ?_
  exact undisturbed_ite (undisturbed_bind (undisturbed_ask (by simp)) fun _ => undisturbed_ret) undisturbed_ret

private theorem winding_settle {res : ConfigResult} : Winding (settle res) := by
  refine winding_bind (winding_ite winding_ret (winding_ask safe_stopRequested)) fun stop => ?_
  exact winding_ite (winding_bind (winding_ask safe_stopRequested) fun _ => winding_ret) winding_ret

private theorem undisturbed_evaluate {res : ConfigResult} {s : Timing} : Undisturbed (evaluate py args res s) := by
  unfold evaluate
  split
  · exact undisturbed_ret
  · refine undisturbed_bind ?_ fun finite => ?_
    · intro w hw
      refine Prog.meets_handle.2 (ask_cautious (by simp) (fun x w' hr => (torch_strikes hr).1.trans hw)
        fun e w' hr => ?_)
      cases e with
      | runtime text =>
        obtain ⟨-, hstrikes, -⟩ := torch_raised hr
        simpa [hw] using hstrikes
      | _ => exact raised_of_torch hw hr
    · exact undisturbed_ite undisturbed_ret (undisturbed_ite undisturbed_ret undisturbed_settle)

private theorem winding_evaluate {res : ConfigResult} {s : Timing} : Winding (evaluate py args res s) := by
  unfold evaluate
  split
  · exact winding_ret
  · refine winding_bind ?_ fun finite => ?_
    · intro w hw
      refine Prog.meets_handle.2 (ask_cautious (by simp) (fun x w' hr => ?_) fun e w' hr => ?_)
      · obtain ⟨hstrikes, hstop, -⟩ := torch_strikes hr
        exact ⟨hstrikes ▸ hw.1, hstop hw.2⟩
      · obtain ⟨hmay, hstrikes, hstop, -⟩ := torch_raised hr
        have hone := hw.1
        cases e with
        | runtime text =>
          have hsame : w'.strikes = w.strikes := by simpa using hstrikes
          exact ⟨hsame ▸ hone, hstop.trans hw.2⟩
        | interrupt =>
          rw [if_pos rfl] at hstrikes
          show 2 ≤ w'.strikes
          omega
        | other text => exact hmay.elim
        | unfinished => exact hmay.elim
    · exact winding_ite winding_ret (winding_ite winding_ret winding_settle)

/-- A KeyboardInterrupt in the timed section is caught; elsewhere it is let out. -/
def Survives {α : Type} (p : Run Exn α) (w : World) : Prop :=
  p.Meets torch cautious (fun _ w' => w'.strikes = 0 ∨ Caught w') Fine w

private theorem Undisturbed.survives {α : Type} {p : Run Exn α} (h : Undisturbed p) {w : World} (hw : w.strikes = 0) :
    Survives p w :=
  (h w hw).imp (fun _ _ hok => .inl hok) fun _ _ hx => hx.fine

private theorem Winding.survives {α : Type} {p : Run Exn α} (h : Winding p) {w : World} (hw : Caught w) :
    Survives p w :=
  (h w hw).imp (fun _ _ hok => .inr hok) fun _ _ hx => fine_beyond hx

private theorem survives_bind {α β : Type} {p : Run Exn α} {f : α → Run Exn β} {w : World} (hp : Undisturbed p)
    (hw : w.strikes = 0) (hf : ∀ a w', w'.strikes = 0 → Survives (f a) w') : Survives (p.bind f) w :=
  Prog.meets_bind.2 ((hp w hw).imp (fun a w' hw' => hf a w' hw') fun _ _ hx => hx.fine)

/-- Behind a KeyboardInterrupt in the timed section the measurement goes on to its return: only a second one ends it. -/
theorem afterTimed_interrupt {wallStart : Flt} {res : ConfigResult} {s : Timing} {w : World} (hw : w.strikes = 1) :
    (afterTimed py d args wallStart res (.error (s, .interrupt))).Meets torch cautious (fun _ w' => Caught w')
      (fun _ w' => 2 ≤ w'.strikes) w := by
  have hone : 1 ≤ w.strikes := hw.ge
  refine Prog.meets_bind.2 (Prog.meets_attempt.2 (ask_cautious (fun _ => hone) (fun x w₁ h₁ => ?_) fun e w₁ h₁ => ?_))
  · have hcaught : Caught w₁ := by
      cases h₁
      exact ⟨hone, rfl⟩
    exact winding_bind winding_closing (fun _ => winding_evaluate) w₁ hcaught
  · -- a second one strikes the handler, and nothing is left to show
    obtain ⟨hmay, hstrikes, -⟩ := torch_raised h₁
    rw [if_pos (safe_requestStop e hmay)] at hstrikes
    have htwo : 2 ≤ w₁.strikes := by omega
    exact Prog.meets_bind.2 ((beyond_meets htwo).imp (fun _ _ h₂ => h₂) fun _ _ h₂ => h₂)

private theorem survives_measure {fuel : Nat} {res : ConfigResult} {w : World} (hw : w.strikes = 0) :
    Survives (measure py fuel d cfg args res) w := by
  refine survives_bind (undisturbed_ask (by simp)) hw fun wallStart w₁ h₁ => ?_
  refine survives_bind (undisturbed_ask (by simp)) h₁ fun c w₂ h₂ => ?_
  refine Prog.meets_bind.2 (Prog.meets_attempt.2 ((undisturbedIn_timed w₂ h₂).imp (fun s w₃ h₃ => ?_) ?_))
  · exact (undisturbed_bind undisturbed_closing fun _ => undisturbed_evaluate).survives h₃
  · rintro ⟨s, e⟩ w₃ h₃
    have hstrikes₃ : w₃.strikes = if e = .interrupt then 1 else 0 := h₃
    cases e with
    | runtime text => exact undisturbed_closing.survives hstrikes₃
    | other text =>
      exact (undisturbed_bind undisturbed_closing fun _ => undisturbed_throw (by simp)).survives hstrikes₃
    | unfinished =>
      exact (undisturbed_bind undisturbed_closing fun _ => undisturbed_throw (by simp)).survives hstrikes₃
    | interrupt =>
      rw [if_pos rfl] at hstrikes₃
      exact (afterTimed_interrupt hstrikes₃).imp (fun _ _ hok => .inr hok) fun _ _ hx => fine_beyond hx

private theorem undisturbed_warmUp : Undisturbed (warmUp d args) :=
  undisturbed_bind (undisturbed_forEach (fun _ => undisturbed_ask (by simp)) _) fun _ => undisturbed_ask (by simp)

private theorem survives_runConfig {fuel : Nat} {budget : Int} {w : World} (hw : w.strikes = 0) :
    Survives (runConfig py fuel d cfg args budget) w := by
  refine survives_bind (undisturbed_ask (by simp)) hw fun _ w₁ h₁ => ?_
  have hret : ∀ {res : ConfigResult} {w' : World}, w'.strikes = 0 → Survives (.ret res) w' := fun h => .inl h
  have hthrow : ∀ {e : Exn} {w' : World}, Raised e w' → Survives (.throw e : Run Exn ConfigResult) w' := Raised.fine
  refine Prog.meets_ite.2 ⟨fun _ => hret h₁, fun _ => ?_⟩
  have hallocated : Undisturbed (ask (.makeOperands d cfg args.init)) := undisturbed_ask (by simp)
  refine Prog.meets_bind.2 (Prog.meets_attempt.2 ((hallocated w₁ h₁).imp (fun _ w₂ h₂ => ?_) fun e w₂ h₂ => ?_))
  · have hwarm : Undisturbed (warmUp d args) := undisturbed_warmUp
    refine Prog.meets_bind.2 (Prog.meets_attempt.2 ((hwarm w₂ h₂).imp (fun _ w₃ h₃ => ?_) fun e w₃ h₃ => ?_))
    · exact survives_bind (undisturbed_ite (undisturbed_ask (by simp)) undisturbed_ret) h₃
        fun _ _ h₄ => survives_measure h₄
    · cases e with
      | runtime text => exact hret h₃
      | _ => exact hthrow h₃
  · cases e with
    | runtime text => exact hret h₂
    | _ => exact hthrow h₂

/-! ### One device -/

/-- Nothing has struck, or a KeyboardInterrupt has been caught and its configuration is among the results. -/
def Listed (results : List ConfigResult) (w : World) : Prop := w.strikes = 0 ∨ (Caught w ∧ results ≠ [])

/-- Behind a caught KeyboardInterrupt no further configuration is run. -/
theorem runConfigs_caught {fuel : Nat} {budget : Int} {results : List ConfigResult} {configs : List Config}
    {w : World} (hw : Caught w) :
    (runConfigs py fuel d args budget results configs).Meets torch cautious
      (fun results' w' => results' = results ∧ Caught w') (fun _ w' => 2 ≤ w'.strikes) w := by
  cases configs with
  | nil => exact ⟨rfl, hw⟩
  | cons cfg configs =>
    have hflag : (ask .stopRequested).Meets torch cautious (fun stop w' => stop = true ∧ Caught w')
        (fun _ w' => 2 ≤ w'.strikes) w := by
      refine ask_cautious (by simp) (fun stop w' hr => ?_) fun e w' hr => ?_
      · obtain ⟨hstop, rfl⟩ := hr
        exact ⟨hstop hw.2, hw.1, hstop hw.2⟩
      · obtain ⟨hmay, hstrikes, -⟩ := torch_raised hr
        rw [if_pos (safe_stopRequested e hmay)] at hstrikes
        have hone := hw.1
        show 2 ≤ w'.strikes
        omega
    refine Prog.meets_bind.2 (hflag.imp (fun stop w' hw' => ?_) fun _ _ hx => hx)
    exact Prog.meets_ite.2 ⟨fun _ => ⟨rfl, hw'.2⟩, fun hnot => absurd hw'.1 hnot⟩

private theorem runConfigs_listed {fuel : Nat} {budget : Int} {results : List ConfigResult} {configs : List Config}
    {w : World} (hw : Listed results w) :
    (runConfigs py fuel d args budget results configs).Meets torch cautious Listed Fine w := by
  induction configs generalizing results w with
  | nil => exact hw
  | cons cfg configs ih =>
    rcases hw with hw | ⟨hw, hne⟩
    · refine Prog.meets_bind.2 ((undisturbed_ask (by simp) w hw).imp (fun stop w₁ h₁ => ?_) fun _ _ hx => hx.fine)
      refine Prog.meets_ite.2 ⟨fun _ => .inl h₁, fun _ => ?_⟩
      refine Prog.meets_bind.2 ((survives_runConfig h₁).imp (fun res w₂ h₂ => ?_) fun _ _ hx => hx)
      -- the configuration that caught it is itself a result
      have hlisted : Listed (results ++ [res]) w₂ := h₂.imp_right fun hcaught => ⟨hcaught, by simp⟩
      exact Prog.meets_ite.2 ⟨fun _ => hlisted, fun _ => ih hlisted⟩
    · refine (runConfigs_caught hw).imp (fun results' w' h => .inr ⟨h.2, ?_⟩) fun _ _ hx => fine_beyond hx
      exact h.1 ▸ hne

private theorem runDevice_listed {fuel : Nat} {configs : List Config} {w : World} (hw : w.strikes = 0) :
    (runDevice py fuel d configs args).Meets torch cautious (fun out w' => Listed out.2 w') Fine w := by
  refine Prog.meets_bind.2 ((undisturbed_ask (by simp) w hw).imp (fun name w₁ h₁ => ?_) fun _ _ hx => hx.fine)
  refine Prog.meets_bind.2 ((undisturbed_ask (by simp) w₁ h₁).imp (fun _ w₂ h₂ => ?_) fun _ _ hx => hx.fine)
  refine Prog.meets_bind.2 ((undisturbed_ask (by simp) w₂ h₂).imp (fun free w₃ h₃ => ?_) fun _ _ hx => hx.fine)
  cases py.budget args.maxMemGb free with
  | none => exact (undisturbed_throw (by simp) w₃ h₃).imp (fun _ _ hok => .inl hok) fun _ _ hx => hx.fine
  | some budget =>
    exact Prog.meets_bind.2 ((runConfigs_listed (.inl h₃)).imp (fun _ _ hok => hok) fun _ _ hx => hx)

/-- What is left of a runner in the handler of its timed section. -/
def InHandler (py : Py) (fuel : Nat) (d : Int) (args : Args) (p : Run Exn (String × List ConfigResult)) : Prop :=
  ∃ name budget results configs wallStart res s,
    p = ((afterTimed py d args wallStart res (.error (s, .interrupt))).bind fun res =>
      if args.failFast = true ∧ (res.status = .FAIL ∨ res.status = .ERROR) then .ret (results ++ [res])
      else runConfigs py fuel d args budget (results ++ [res]) configs).bind fun results => .ret (name, results)

/-- From there it returns with the stop flag set, if no second KeyboardInterrupt strikes. -/
theorem InHandler.returns {fuel : Nat} {p : Run Exn (String × List ConfigResult)} (h : InHandler py fuel d args p)
    {w : World} (hw : w.strikes = 1) :
    p.Meets torch cautious (fun out w' => out.2 ≠ [] ∧ w'.stop = true) (fun _ w' => 2 ≤ w'.strikes) w := by
  obtain ⟨name, budget, results, configs, wallStart, res, s, rfl⟩ := h
  refine Prog.meets_bind.2 (Prog.meets_bind.2 ((afterTimed_interrupt hw).imp (fun res' w₁ h₁ => ?_) fun _ _ hx => hx))
  refine Prog.meets_ite.2 ⟨fun _ => ⟨by simp, h₁.2⟩, fun _ => ?_⟩
  refine (runConfigs_caught h₁).imp (fun results' w₂ h₂ => ⟨?_, h₂.2.2⟩) fun _ _ hx => hx
  simp [h₂.1]

section

variable {configs : List Config} {free : Int → Int} {flag stop : Bool} {o : Finish (String × List ConfigResult)}

private theorem runDevice_beside {fuel : Nat} :
    (runDevice py fuel d configs args).Meets (beside flag) cautious (fun out w' => Listed out.2 w') Fine
      { fresh (free d) with stop } :=
  (runDevice_listed rfl).restrict fun _ _ _ _ hr => hr.1

private theorem beside_strikes {w w' : World} {o : Request} {r : o.Answer} (h : beside flag w o r w') :
    w.strikes ≤ w'.strikes := by
  cases r with
  | ok x => exact (torch_strikes h.1).1.ge
  | error e =>
    have hstrikes := (torch_raised h.1).2.1
    omega

private theorem strikes_le_of_steps {c c' : Run Exn (String × List ConfigResult) × World}
    (h : Prog.Steps (beside flag) c c') : c.2.strikes ≤ c'.2.strikes := by
  induction h with
  | refl => exact Nat.le_refl _
  | tail _ hstep ih =>
    obtain ⟨hr⟩ := hstep
    exact ih.trans (beside_strikes hr)

/-- The stop flag of a runner is that of the other threads up to its first KeyboardInterrupt. -/
theorem stop_of_steps {fuel : Nat} {p : Run Exn (String × List ConfigResult)} {w : World}
    (hstop : stop = true → flag = true)
    (h : Prog.Steps (beside flag) (runDevice py fuel d configs args, { fresh (free d) with stop }) (p, w))
    (hset : w.stop = true) : flag = true ∨ 1 ≤ w.strikes := by
  refine runDevice_beside.invariant (I := fun w => w.stop = true → flag = true ∨ 1 ≤ w.strikes) h
    (fun w₁ o r w₂ hr hasked ih hset => ?_) (fun hset => .inl (hstop hset)) hset
  have hmono := beside_strikes hr
  rcases hr.2 hset with hbefore | hflag | hown
  · exact (ih hbefore).imp_right fun hone => hone.trans hmono
  · exact .inl hflag
  · exact .inr ((hasked hown).trans hmono)

/-- A runner is in such a handler only behind a KeyboardInterrupt. -/
theorem InHandler.strikes_pos {fuel : Nat} {p : Run Exn (String × List ConfigResult)} {w : World}
    (hp : InHandler py fuel d args p)
    (hrun : Prog.Steps (beside flag) (runDevice py fuel d configs args, { fresh (free d) with stop }) (p, w)) :
    1 ≤ w.strikes := by
  obtain ⟨name, budget, results, configs', wallStart, res, s, rfl⟩ := hp
  -- the handler's first request sets the stop flag, which is cautious
  have hmeets := runDevice_beside.steps hrun
  have hasked := (hmeets (.ok ()) { w with stop := true } ⟨rfl, fun _ => .inr (.inr rfl)⟩).1
  exact hasked rfl

/-- A runner whose only KeyboardInterrupt strikes the timed section returns normally, with the stop flag set. -/
theorem Called.of_struck_timed {fuel : Nat} {p q : Run Exn (String × List ConfigResult)} {w w' : World}
    (hstop : stop = true → flag = true) (hp : InHandler py fuel d args p)
    (hrun : Prog.Steps (beside flag) (runDevice py fuel d configs args, { fresh (free d) with stop }) (p, w))
    (hend : Prog.Steps (beside flag) (p, w) (q, w')) (hended : q.ended ≠ none) (hone : w'.strikes = 1) :
    ∃ out, q = .ret out ∧ out.2 ≠ [] ∧ Called py args configs free d flag (.returned out) true 1 := by
  -- one has struck to get here, so none strikes from here on
  have hpos := hp.strikes_pos hrun
  have hle : w.strikes ≤ w'.strikes := strikes_le_of_steps hend
  have hw : w.strikes = 1 := by omega
  have hends := ((hp.returns hw).restrict fun _ _ _ _ hr => hr.1).steps hend
  cases q with
  | call o k => exact absurd rfl hended
  | throw e =>
    have htwo : 2 ≤ w'.strikes := hends
    omega
  | ret out =>
    obtain ⟨hne, hset⟩ : out.2 ≠ [] ∧ w'.stop = true := hends
    have hcalled : Called py args configs free d flag (.returned out) w'.stop w'.strikes :=
      .returned hstop (hrun.trans hend)
    rw [hset, hone] at hcalled
    exact ⟨out, rfl, hne, hcalled⟩

/-- A runner that is not struck lets no KeyboardInterrupt out. -/
theorem Called.not_interrupted (h : Called py args configs free d flag o stop 0) : o ≠ .interrupted := by
  rintro rfl
  generalize hk : 0 = k at h
  cases h with
  | @interrupted fuel before w hstop h =>
    have hfine : Fine .interrupt w := runDevice_beside.of_throw h
    exact hfine.1 hk.symm rfl

/-- Nor does it set the stop flag. -/
theorem Called.stop_le (h : Called py args configs free d flag o stop 0) (hset : stop = true) : flag = true := by
  generalize hk : 0 = k at h
  cases h with
  | returned hstop h => exact (stop_of_steps hstop h hset).resolve_right (by omega)
  | interrupted hstop h => exact (stop_of_steps hstop h hset).resolve_right (by omega)
  | runtime hstop h => exact (stop_of_steps hstop h hset).resolve_right (by omega)
  | other hstop h => exact (stop_of_steps hstop h hset).resolve_right (by omega)

/-- A runner that is struck once lets the KeyboardInterrupt out, or it returns the results up to the configuration that
was struck, with the stop flag set. -/
theorem Called.of_strike (h : Called py args configs free d flag o stop 1) :
    o = .interrupted ∨ ∃ out, o = .returned out ∧ out.2 ≠ [] ∧ stop = true := by
  generalize hk : 1 = k at h
  cases h with
  | @returned fuel before w out hstop h =>
    have hlisted : Listed out.2 w := runDevice_beside.of_ret h
    rcases hlisted with hzero | ⟨hcaught, hne⟩
    · omega
    · exact .inr ⟨out, rfl, hne, hcaught.2⟩
  | interrupted hstop h => exact .inl rfl
  -- a strike that is let out is let out as itself
  | @runtime fuel before w text hstop h =>
    have hfine : Fine (.runtime text) w := runDevice_beside.of_throw h
    exact absurd (hfine.2 hk.symm) (by simp)
  | @other fuel before w text hstop h =>
    have hfine : Fine (.other text) w := runDevice_beside.of_throw h
    exact absurd (hfine.2 hk.symm) (by simp)

end

end

/-! ### A device that is struck -/

theorem beside_benign (s : World × List Flt) (o : Request) (r : o.Answer) (s' : World × List Flt)
    (h : benign s o = some (r, s')) : beside false s.1 o r s'.1 := by
  refine ⟨torch_benign s o r s' h, fun hset => ?_⟩
  obtain ⟨w, errs⟩ := s
  cases o with
  | requestStop => exact .inr (.inr rfl)
  | validateFull c =>
    cases errs with
    | nil => cases h
    | cons err errs =>
      cases h
      exact .inl hset
  | validateBlock c block =>
    cases errs with
    | nil => cases h
    | cons err errs =>
      cases h
      exact .inl hset
  | _ =>
    cases h
    exact .inl hset

/-- The first timed iteration is struck, and nothing is answered behind it but where `caught` is set. -/
def striking (caught : Bool) (w : World) (o : Request) : Option (o.Answer × World) :=
  match o with
  | .timedMm => some (.error .interrupt, { w with strikes := w.strikes + 1 })
  | .requestStop => if caught then some (.ok (), { w with stop := true }) else none
  | o => (benign (w, []) o).map fun answer => (answer.1, answer.2.1)

private theorem beside_striking (caught : Bool) (w : World) (o : Request) (r : o.Answer) (w' : World)
    (h : striking caught w o = some (r, w')) : beside false w o r w' := by
  have hbenign (hmap : (benign (w, []) o).map (fun answer => (answer.1, answer.2.1)) = some (r, w')) :
      beside false w o r w' := by
    obtain ⟨⟨r', w'', errs⟩, hanswer, hpair⟩ := Option.map_eq_some_iff.1 hmap
    cases hpair
    exact beside_benign (w, []) o _ _ hanswer
  cases o with
  | timedMm =>
    cases h
    exact ⟨⟨trivial, by simp⟩, .inl⟩
  | requestStop =>
    cases caught with
    | false => cases h
    | true =>
      cases h
      exact ⟨rfl, fun _ => .inr (.inr rfl)⟩
  | _ => exact hbenign h

example : ∃ out, out.2 ≠ [] ∧ Called plain (checking (.of 1) 1) [⟨8, 8, 8, .fp16, .nn⟩] (fun _ => 1000000) 0 false
    (.returned out) true 1 := by
  let runner := runDevice plain 1 0 [⟨8, 8, 8, .fp16, .nn⟩] (checking (.of 1) 1)
  let c := runner.run (striking false) (fresh 1000000)
  have hrun : Prog.Steps (beside false) (runner, fresh 1000000) c := Prog.steps_run (beside_striking false) runner _
  have hend := Prog.steps_run (beside_striking true) c.1 c.2
  have hreturns : ∃ out, (c.1.run (striking true) c.2).1 = .ret out ∧ out.2 ≠ [] ∧
      Called plain (checking (.of 1) 1) [⟨8, 8, 8, .fp16, .nn⟩] (fun _ => 1000000) 0 false (.returned out) true 1 :=
    Called.of_struck_timed id ⟨"", 1000000, [], [], _, _, _, rfl⟩ hrun hend nofun rfl
  obtain ⟨out, -, hne, hcalled⟩ := hreturns
  exact ⟨out, hne, hcalled⟩

end CmpUnlocker.Gemm
