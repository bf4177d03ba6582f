import CmpUnlocker.Gemm.Config

/-!
# The correctness checks of a configuration

The worst error is the maximum, folded from 0.0 on, of the values the checks returned (`Tracks`), and a configuration
that passes has found it not greater than the tolerance.  A fold with Python's `max` forgets the NaNs, so the verdict
says of every check that its value does not exceed the tolerance, and nothing about whether it was a number
(`checks_sound_iff`).
-/

namespace CmpUnlocker.Gemm

open Interaction
open Ieee (Value)

/-! ### The worst error -/

def worst (checks : List Flt) : Flt := checks.foldl Value.pyMax Flt.zero

private theorem zero_ne_nan : Flt.zero ≠ Value.nan := by
  unfold Flt.zero Value.of
  exact fun h => (nomatch h)

/-- The request is no correctness check. -/
def Request.Quiet : Request → Prop
  | .validateFull _ | .validateBlock _ _ => False
  | _ => True

private theorem torch_checks {w w' : World} {o : Request} {r : o.Answer} (ho : o.Quiet) (h : torch w o r w') :
    w'.checks = w.checks := by
  cases r with
  | error e =>
    obtain ⟨-, rfl⟩ : _ ∧ w' = _ := h
    rfl
  | ok x =>
    cases o with
    | validateFull c => exact ho.elim
    | validateBlock c block => exact ho.elim
    | stopRequested =>
      obtain ⟨-, rfl⟩ := h
      rfl
    | memGetInfo d =>
      obtain ⟨-, rfl⟩ := h
      rfl
    | _ =>
      cases h
      rfl

/-- What the timed section has so far accounts for every check. -/
def Tracks (s : Timing) (w : World) : Prop := s.worstErr = worst w.checks

section

variable {w : World} {s : Timing} {cfg : Config} {args : Args} {py : Py}

private theorem quietIn_meets {o : Request} (ho : o.Quiet) {Q : o.Value → World → Prop} (h : Tracks s w)
    (hok : ∀ x w', Tracks s w' → Q x w') :
    (askIn s o).Meets torch anything Q (fun end' w' => Tracks end'.1 w') w := by
  refine askIn_meets (fun x w' hr => hok x w' ?_) fun e w' hr => ?_
  · exact h.trans (congrArg worst (torch_checks ho hr).symm)
  · exact h.trans (congrArg worst (torch_checks ho hr).symm)

private theorem check_meets {mode : Validate} (h : Tracks s w) :
    (check args mode s).Meets torch anything (fun s' w' => Tracks s' w')
      (fun end' w' => Tracks end'.1 w') w := by
  have hstep : ∀ (err : Flt) (w' : World), w' = { w with checks := w.checks ++ [err] } →
      Tracks { s with worstErr := s.worstErr.pyMax err } w' := by
    intro err w' hw'
    subst hw'
    show s.worstErr.pyMax err = worst (w.checks ++ [err])
    unfold worst
    rw [List.foldl_append]
    exact congrArg (Value.pyMax · err) h
  have hraised : ∀ {o : Request} (e : Exn) (w' : World), torch w o (.error e) w' → Tracks s w' := by
    intro o e w' hr
    obtain ⟨-, rfl⟩ : _ ∧ w' = _ := hr
    exact h
  unfold check
  refine Prog.meets_bind.2 (Prog.meets_ite.2 ⟨fun _ => ?_, fun _ => ?_⟩)
  · exact askIn_meets (fun err w' hr => hstep err w' hr) hraised
  · exact askIn_meets (fun err w' hr => hstep err w' hr) hraised

private theorem checkDue_meets {mode : Validate} (h : Tracks s w) :
    (checkDue args mode s).Meets torch anything (fun s' w' => Tracks s' w') (fun end' w' => Tracks end'.1 w') w :=
  Prog.meets_ite.2 ⟨fun _ => check_meets h, fun _ => h⟩

private theorem timedLoop_meets {mode : Validate} {wallStart : Flt} (fuel : Nat) (h : Tracks s w) :
    (timedLoop py cfg args mode wallStart fuel s).Meets torch anything (fun s' w' => Tracks s' w')
      (fun end' w' => Tracks end'.1 w') w := by
  induction fuel generalizing s w with
  | zero => exact h
  | succ fuel ih =>
    unfold timedLoop
    refine Prog.meets_ite.2 ⟨fun _ => h, fun _ => ?_⟩
    refine Prog.meets_bind.2 (quietIn_meets (by exact trivial) h fun stop w₁ h₁ => ?_)
    refine Prog.meets_ite.2 ⟨fun _ => h₁, fun _ => ?_⟩
    refine Prog.meets_bind.2 (quietIn_meets (by exact trivial) h₁ fun timing w₂ h₂ => ?_)
    refine Prog.meets_ite.2 ⟨fun _ => ih h₂, fun _ => ?_⟩
    have hrecorded : Tracks (record py cfg timing.2 { s with c := timing.1 }) w₂ := h₂
    refine Prog.meets_bind.2 ((checkDue_meets hrecorded).imp (fun s' w₃ h₃ => ?_) fun _ _ hx => hx)
    refine Prog.meets_bind.2 (quietIn_meets (by exact trivial) h₃ fun now w₄ h₄ => ?_)
    exact Prog.meets_ite.2 ⟨fun _ => h₄, fun _ => ih h₄⟩

private theorem timed_meets {mode : Validate} {wallStart : Flt} {fuel : Nat} {c : Tensor} (h : w.checks = []) :
    (timed py fuel cfg args mode wallStart c).Meets torch anything (fun s' w' => Tracks s' w')
      (fun end' w' => Tracks end'.1 w') w := by
  have hstart : Tracks ⟨c, [], Flt.zero, 0, wallStart⟩ w := by
    unfold Tracks
    rw [h]
    rfl
  refine Prog.meets_bind.2 ((timedLoop_meets fuel hstart).imp (fun s' w' h' => ?_) fun _ _ hx => hx)
  refine Prog.meets_ite.2 ⟨fun _ => ?_, fun _ => h'⟩
  refine Prog.meets_bind.2 ((check_meets h').imp (fun s'' w'' h'' => ?_) fun _ _ hx => hx)
  refine Prog.meets_bind.2 (Prog.meets_when.2 ⟨fun _ => ?_, fun _ => h''⟩)
  exact quietIn_meets (by exact trivial) h'' fun _ _ hlast => hlast

/-! ### The verdict -/

/-- A configuration that passes has found the worst error not greater than the tolerance. -/
def Judged (args : Args) (res : ConfigResult) (w : World) : Prop :=
  res.status = .PASS → res.validateMode ≠ .off → args.tol.lt (worst w.checks) = false

private theorem judged_of_ne {res : ConfigResult} (h : res.status ≠ .PASS) : Judged args res w :=
  fun hpass => absurd hpass h

private theorem judged_of_fail {res : ConfigResult} (h : res.status = .FAIL) : Judged args res w :=
  judged_of_ne (by simp [h])

private theorem judged_of_error {res : ConfigResult} (h : res.status = .ERROR) : Judged args res w :=
  judged_of_ne (by simp [h])

theorem quiet_meets {α ε : Type} {p : Run ε α} (hp : p.Uses Request.Quiet) :
    p.Meets torch anything (fun _ (w' : World) => w'.checks = w.checks) (fun _ w' => w'.checks = w.checks) w :=
  hp.meets (I := fun w' : World => w'.checks = w.checks)
    (fun _ _ _ _ ho h hr => ⟨trivial, (torch_checks ho hr).trans h⟩) rfl

private theorem quiet_ask {o : Request} (ho : o.Quiet) : (ask o).Uses Request.Quiet := by
  refine ⟨ho, fun r => ?_⟩
  cases r with
  | ok x => trivial
  | error e => trivial

private theorem quiet_warmUp {d : Int} : (warmUp d args).Uses Request.Quiet :=
  (Prog.Uses.forEach (fun _ => quiet_ask (o := .mm) trivial) _).bind fun _ => quiet_ask (o := .synchronize d) trivial

/-- `closing` fills in the elapsed time. -/
theorem closing_meets {d : Int} {wallStart : Flt} {res : ConfigResult} {Q : ConfigResult → World → Prop}
    {X : Exn → World → Prop} (hok : ∀ elapsed w', w'.checks = w.checks → Q { res with elapsed } w')
    (herror : ∀ e w', X e w') : (closing py d args wallStart res).Meets torch anything Q X w := by
  refine Prog.meets_bind.2 (ask_meets (fun now w₁ h₁ => ?_) fun e w' _ => herror e w')
  have hchecks₁ : w₁.checks = w.checks := torch_checks (o := .monotonic) trivial h₁
  refine Prog.meets_bind.2 (Prog.meets_when.2 ⟨fun _ => ?_, fun _ => hok _ w₁ hchecks₁⟩)
  refine ask_meets (fun _ w₂ h₂ => hok _ w₂ ?_) fun e w' _ => herror e w'
  exact (torch_checks (o := .readTelemetry d) trivial h₂).trans hchecks₁

private theorem stopped_status (again : Bool) (res : ConfigResult) : (stopped again res).status = .FAIL := by
  unfold stopped
  split <;> rfl

private theorem settle_meets {res : ConfigResult} (h : res.validateMode ≠ .off → args.tol.lt (worst w.checks) = false) :
    (settle res).Meets torch anything (Judged args) (fun _ _ => True) w := by
  have hrest : ∀ (stop : Bool) (w' : World), w'.checks = w.checks →
      (if stop = true then (ask .stopRequested).bind fun again => .ret (stopped again res)
        else .ret { res with status := .PASS } : Run Exn ConfigResult).Meets torch anything (Judged args)
        (fun _ _ => True) w' := by
    intro stop w' hw'
    refine Prog.meets_ite.2 ⟨fun _ => ?_, fun _ _ hmode => ?_⟩
    · refine Prog.meets_bind.2 (ask_meets (fun again w'' _ => ?_) fun _ _ _ => trivial)
      exact judged_of_fail (stopped_status again res)
    · rw [hw']
      exact h hmode
  refine Prog.meets_bind.2 (Prog.meets_ite.2 ⟨fun _ => hrest true w rfl, fun _ => ?_⟩)
  exact ask_meets (fun stop w' hw' => hrest stop w' (torch_checks (o := .stopRequested) trivial hw'))
    fun _ _ _ => trivial

private theorem gated_meets {res : ConfigResult} (h : res.validateMode ≠ .off → res.maxRelErr = some (worst w.checks)) :
    (gated py args res).Meets torch anything (Judged args) (fun _ _ => True) w := by
  refine Prog.meets_ite.2 ⟨fun _ => judged_of_fail rfl, fun hgates => settle_meets fun hmode => ?_⟩
  by_contra hgt
  have htol : args.tol.lt (worst w.checks) = true := by simpa using hgt
  exact hgates (by simp [failures, h hmode, htol])

private theorem evaluate_meets {res : ConfigResult} (h : Tracks s w) :
    (evaluate py args res s).Meets torch anything (Judged args) (fun _ _ => True) w := by
  unfold evaluate
  split
  · exact judged_of_error rfl
  · next sample samples _ =>
    refine Prog.meets_bind.2 (Prog.meets_handle.2 (ask_meets (fun finite w₁ h₁ => ?_) fun e w₁ h₁ => ?_))
    · refine Prog.meets_ite.2 ⟨fun _ => judged_of_fail rfl, fun _ => gated_meets fun hmode => ?_⟩
      have hchecks : w₁.checks = w.checks := torch_checks (o := .isfinite s.c) trivial h₁
      rw [hchecks]
      exact (if_pos hmode).trans (congrArg some h)
    · cases e with
      | runtime exc =>
        exact Prog.meets_ite.2 ⟨fun _ => judged_of_fail rfl, fun hfinite => absurd rfl hfinite⟩
      | _ => trivial

private theorem measure_meets {fuel : Nat} {d : Int} {res : ConfigResult} (h : w.checks = []) :
    (measure py fuel d cfg args res).Meets torch anything (Judged args) (fun _ _ => True) w := by
  refine Prog.meets_bind.2 (ask_meets (fun wallStart w₁ h₁ => ?_) fun _ _ _ => trivial)
  refine Prog.meets_bind.2 (ask_meets (fun c w₂ h₂ => ?_) fun _ _ _ => trivial)
  have hchecks : w₂.checks = [] :=
    ((torch_checks (o := .empty) trivial h₂).trans (torch_checks (o := .monotonic) trivial h₁)).trans h
  have hclosed : ∀ {res' : ConfigResult} {s w₃}, Tracks s w₃ →
      ((closing py d args wallStart res').bind fun res'' => evaluate py args res'' s).Meets torch anything (Judged args)
        (fun _ _ => True) w₃ := by
    intro res' s w₃ h₃
    refine Prog.meets_bind.2 (closing_meets (fun elapsed w₄ h₄ => ?_) fun _ _ => trivial)
    exact evaluate_meets (h₃.trans (congrArg worst h₄.symm))
  refine Prog.meets_bind.2 (Prog.meets_attempt.2 ((timed_meets hchecks).imp (fun s w₃ h₃ => hclosed h₃) ?_))
  rintro ⟨s, e⟩ w₃ h₃
  cases e with
  | runtime exc => exact closing_meets (fun _ _ _ => judged_of_error rfl) fun _ _ => trivial
  | interrupt =>
    refine Prog.meets_bind.2 (Prog.meets_attempt.2 (ask_meets (fun _ w₄ h₄ => hclosed ?_) fun e w₄ _ => ?_))
    · exact h₃.trans (congrArg worst (torch_checks (o := .requestStop) trivial h₄).symm)
    · exact Prog.meets_bind.2 (closing_meets (fun _ _ _ => trivial) fun _ _ => trivial)
  | other text => exact Prog.meets_bind.2 (closing_meets (fun _ _ _ => trivial) fun _ _ => trivial)
  | unfinished => exact Prog.meets_bind.2 (closing_meets (fun _ _ _ => trivial) fun _ _ => trivial)

private theorem runConfig_meets {fuel : Nat} {d budget : Int} (h : w.checks = []) :
    (runConfig py fuel d cfg args budget).Meets torch anything (Judged args) (fun _ _ => True) w := by
  refine Prog.meets_bind.2 (ask_meets (fun _ w₁ h₁ => ?_) fun _ _ _ => trivial)
  have hchecks₁ : w₁.checks = [] := (torch_checks (o := .setDevice d) trivial h₁).trans h
  refine Prog.meets_ite.2 ⟨fun _ => judged_of_ne (by simp), fun _ => ?_⟩
  refine Prog.meets_bind.2 (Prog.meets_attempt.2 (ask_meets (fun _ w₂ h₂ => ?_) fun e w₂ _ => ?_))
  · have hchecks₂ : w₂.checks = [] := (torch_checks (o := .makeOperands d cfg args.init) trivial h₂).trans hchecks₁
    refine Prog.meets_bind.2
      (Prog.meets_attempt.2 ((quiet_meets quiet_warmUp).imp (fun _ w₃ h₃ => ?_) fun e w₃ _ => ?_))
    · have hchecks₃ : w₃.checks = [] := h₃.trans hchecks₂
      refine Prog.meets_bind.2 (Prog.meets_when.2 ⟨fun _ => ?_, fun _ => measure_meets hchecks₃⟩)
      refine ask_meets (fun _ w₄ h₄ => measure_meets ?_) fun _ _ _ => trivial
      exact (torch_checks (o := .readTelemetry d) trivial h₄).trans hchecks₃
    · cases e with
      | runtime exc => exact judged_of_error rfl
      | _ => trivial
  · cases e with
    | runtime exc => exact judged_of_error rfl
    | _ => trivial

end

/-! ### A run with given check values -/

/-- A device that does all it is asked, with the check values still to be returned. -/
def benign (s : World × List Flt) : (o : Request) → Option (o.Answer × (World × List Flt))
  | .validateFull _ | .validateBlock _ _ =>
    match s.2 with
    | [] => none
    | err :: errs => some (.ok err, ({ s.1 with checks := s.1.checks ++ [err] }, errs))
  | .stopRequested => some (.ok s.1.stop, s)
  | .requestStop => some (.ok (), ({ s.1 with stop := true }, s.2))
  | .timedMm => some (.ok (0, .of 1), s)
  | .monotonic => some (.ok Flt.zero, s)
  | .empty => some (.ok (0 : Nat), s)
  | .isfinite _ => some (.ok true, s)
  | .getDeviceName _ => some (.ok "", s)
  | .memGetInfo _ => some (.ok s.1.free, s)
  | .setDevice _ => some (.ok (), s)
  | .makeOperands _ _ _ => some (.ok (), s)
  | .mm => some (.ok (), s)
  | .synchronize _ => some (.ok (), s)
  | .readTelemetry _ => some (.ok (), s)
  | .progress => some (.ok (), s)
  | .manualSeed _ => some (.ok (), s)

theorem torch_benign (s : World × List Flt) (o : Request) (r : o.Answer) (s' : World × List Flt)
    (h : benign s o = some (r, s')) : torch s.1 o r s'.1 := by
  obtain ⟨w, errs⟩ := s
  cases o with
  | validateFull c =>
    cases errs with
    | nil => cases h
    | cons err errs =>
      cases h
      rfl
  | validateBlock c block =>
    cases errs with
    | nil => cases h
    | cons err errs =>
      cases h
      rfl
  | stopRequested =>
    cases h
    exact ⟨id, rfl⟩
  | memGetInfo d =>
    cases h
    exact ⟨rfl, rfl⟩
  | _ =>
    cases h
    rfl

/-- A configuration of `n` timed iterations, each of them checked. -/
def checking (tol : Flt) (n : Nat) : Args where
  devices := none
  sizes := none
  shapes := []
  dtype := [.fp16]
  layout := .nn
  init := .randn
  seed := 0
  warmup := 0
  repeats := n
  seconds := Flt.zero
  validate := .block
  validateBlock := 1
  validateEvery := 1
  tol := tol
  minTflops := Flt.zero
  tensorRatio := Flt.zero
  maxMemGb := Flt.zero
  telemetry := false
  parallel := false
  maxParallel := 0
  failFast := false
  logInterval := Flt.zero
  json := none
  csv := none

section

variable {py : Py} {cfg : Config} {tol : Flt}

private theorem sustained_checking (n : Nat) : sustained (checking tol n) = false := by
  simp [sustained, checking, Flt.zero, Value.of]

private theorem checksAt_checking (n k : Nat) : checksAt (checking tol n) k = true := by
  simp [checksAt, checking]

/-- The loop takes one check value for each of its iterations. -/
theorem timedLoop_benign {n : Nat} {wallStart : Flt} (errs : List Flt) {s : Timing} {w : World}
    (hiters : s.timedIters + errs.length = n) (hstop : w.stop = false) :
    ∃ s' w', (timedLoop py cfg (checking tol n) .block wallStart (errs.length + 1) s).run benign (w, errs) =
        (.ret s', (w', [])) ∧ s'.worstErr = errs.foldl Value.pyMax s.worstErr ∧
      w'.checks = w.checks ++ errs ∧ w'.stop = false ∧ s'.samples.length = s.samples.length + errs.length := by
  induction errs generalizing s w with
  | nil =>
    have hend : belowTarget (checking tol n) s.timedIters = false := by
      simp only [List.length_nil, Nat.add_zero] at hiters
      rw [belowTarget, sustained_checking]
      simp [hiters, checking]
    refine ⟨s, w, ?_, rfl, by simp, hstop, by simp⟩
    unfold timedLoop
    rw [if_pos hend]
    rfl
  | cons err errs ih =>
    have hbelow : ¬ belowTarget (checking tol n) s.timedIters = false := by
      simp only [List.length_cons] at hiters
      have hlt : s.timedIters < n := by omega
      simp [belowTarget, checking, hlt]
    let s₁ : Timing := { record py cfg (.of 1) { s with c := 0 } with worstErr := s.worstErr.pyMax err }
    let s₂ : Timing := { s₁ with now := Flt.zero }
    have hiters₂ : s₂.timedIters + errs.length = n := by
      simp only [List.length_cons] at hiters
      show s.timedIters + 1 + errs.length = n
      omega
    obtain ⟨s', w', hrun, hworst, hchecks, hstop', hsamples⟩ :=
      ih (s := s₂) (w := { w with checks := w.checks ++ [err] }) hiters₂ hstop
    refine ⟨s', w', ?_, hworst, ?_, hstop', ?_⟩
    · rw [List.length_cons]
      unfold timedLoop
      rw [if_neg hbelow]
      have hflag : (askIn s .stopRequested : Run (Timing × Exn) Bool).run benign (w, err :: errs) =
          (.ret false, (w, err :: errs)) := by
        rw [← hstop]
        rfl
      have hmm : (askIn s .timedMm : Run (Timing × Exn) (Tensor × Flt)).run benign (w, err :: errs) =
          (.ret (0, .of 1), (w, err :: errs)) := rfl
      have hpositive : (Value.of (1 : ℚ)).le Flt.zero = false := by
        decide
      have hcheck : (checkDue (checking tol n) .block (record py cfg (.of 1) { s with c := 0 })).run benign
          (w, err :: errs) = (.ret s₁, ({ w with checks := w.checks ++ [err] }, errs)) := by
        unfold checkDue
        rw [if_pos ⟨by decide, checksAt_checking _ _⟩]
        rfl
      refine (Prog.run_bind_of_ret hflag _).trans ((Prog.run_bind_of_ret hmm _).trans ?_)
      rw [if_neg (by simp [hpositive])]
      refine (Prog.run_bind_of_ret hcheck _).trans ((Prog.run_bind_of_ret (a := Flt.zero) rfl _).trans ?_)
      rw [if_neg (by simp [sustained_checking])]
      exact hrun
    · rw [hchecks, List.append_assoc]
      rfl
    · rw [hsamples]
      show (s.samples ++ [_]).length + errs.length = _
      simp only [List.length_append, List.length_cons, List.length_nil]
      omega

/-- Whatever the checks return, a configuration passes as long as no value exceeds the tolerance. -/
theorem runConfig_benign {errs : List Flt} (hne : errs ≠ []) (htol : tol.lt (worst errs) = false) (d : Int) :
    ∃ res w', (runConfig py (errs.length + 1) d cfg (checking tol errs.length)
        (needBytes py cfg (checking tol errs.length) 0)).run benign (fresh 0, errs) = (.ret res, (w', [])) ∧
      w'.checks = errs ∧ res.status = .PASS ∧ res.validateMode = .block := by
  obtain ⟨s, w, hrun, hworst, hchecks, hstop, hsamples⟩ := @timedLoop_benign py cfg tol errs.length Flt.zero errs
    ⟨0, [], Flt.zero, 0, Flt.zero⟩ (fresh 0) (Nat.zero_add _) rfl
  have htimed :
      (timed py (errs.length + 1) cfg (checking tol errs.length) .block Flt.zero 0).run benign (fresh 0, errs) =
      (.ret s, (w, [])) := by
    refine (Prog.run_bind_of_ret hrun _).trans ?_
    rw [if_neg (by simp [sustained_checking])]
    rfl
  have hsome : ∃ sample samples, s.samples = sample :: samples := by
    cases hs : s.samples with
    | nil =>
      rw [hs] at hsamples
      have hempty : errs.length = 0 := by simpa using hsamples.symm
      exact absurd (List.length_eq_zero_iff.1 hempty) hne
    | cons sample samples => exact ⟨sample, samples, rfl⟩
  obtain ⟨sample, samples, hsamples'⟩ := hsome
  let res : ConfigResult := { config := cfg, validateMode := .block, elapsed := py.sub Flt.zero Flt.zero }
  let figured := figures py res s sample samples
  have hgates : failures py (checking tol errs.length) figured.maxRelErr figured.medianTflops = [] := by
    have herr : figured.maxRelErr = some s.worstErr := rfl
    have hworst' : tol.lt s.worstErr = false := by
      rw [hworst]
      exact htol
    have hzero : Flt.zero.lt Flt.zero = false := by decide
    rw [herr]
    simp [failures, checking, hworst', hzero]
  have hevaluate : (evaluate py (checking tol errs.length) res s).run benign (w, []) =
      (.ret { figured with status := .PASS }, (w, [])) := by
    unfold evaluate
    rw [hsamples']
    refine (Prog.run_bind_of_ret (a := true) rfl _).trans ?_
    rw [if_neg (show ¬ true = false by decide)]
    unfold gated
    rw [if_neg (by simpa using hgates)]
    have hflag : (ask .stopRequested : Run Exn Bool).run benign (w, []) = (.ret false, (w, [])) := by
      rw [← hstop]
      rfl
    refine (Prog.run_bind_of_ret (a := false) hflag _).trans ?_
    rfl
  refine ⟨{ figured with status := .PASS }, w, ?_, by simpa [fresh] using hchecks, rfl, rfl⟩
  have hmeasure : (measure py (errs.length + 1) d cfg (checking tol errs.length)
      { config := cfg, validateMode := .block }).run benign (fresh 0, errs) =
        (.ret { figured with status := .PASS }, (w, [])) := by
    refine (Prog.run_bind_of_ret (a := Flt.zero) rfl _).trans ((Prog.run_bind_of_ret (a := (0 : Nat)) rfl _).trans ?_)
    refine (Prog.run_bind_of_ret (Prog.run_attempt_of_ret htimed) _).trans ?_
    refine (Prog.run_bind_of_ret (a := res) rfl _).trans hevaluate
  refine (Prog.run_bind_of_ret (a := ()) rfl _).trans ?_
  rw [if_neg (by exact lt_irrefl _)]
  refine (Prog.run_bind_of_ret (a := .ok ()) rfl _).trans ((Prog.run_bind_of_ret (a := .ok ()) rfl _).trans ?_)
  exact hmeasure

end

/-! ### What a passed configuration says of its checks -/

/-- Every check of a passed configuration returned a number not greater than the tolerance, if and only if the values
were all numbers, or one of them makes the configuration fail, or the tolerance is negative. -/
theorem checks_sound_iff (py : Py) (tol : Flt) (errs : List Flt) :
    (∀ fuel d cfg args budget w₀ w res, args.tol = tol → w₀.checks = [] →
        Prog.Steps torch (runConfig py fuel d cfg args budget, w₀) (.ret res, w) → w.checks = errs →
        res.validateMode ≠ .off → res.status = .PASS → ∀ err ∈ errs, err ≠ .nan ∧ tol.lt err = false) ↔
      Value.nan ∉ errs ∨ (∃ err ∈ errs, tol.lt err = true) ∨ tol.lt Flt.zero = true := by
  have hgt := Value.foldl_pyMax_gt zero_ne_nan errs tol
  constructor
  · intro hsound
    by_contra hcondition
    obtain ⟨hnan, hrest⟩ := not_or.1 hcondition
    obtain ⟨hlow, hzero⟩ := not_or.1 hrest
    have hnan : Value.nan ∈ errs := not_not.1 hnan
    have htol : tol.lt (worst errs) = false := by
      by_contra hexceeds
      have hexceeds : tol.lt (worst errs) = true := by simpa using hexceeds
      rcases hgt.1 hexceeds with h | h
      · exact hzero h
      · exact hlow h
    obtain ⟨res, w, hrun, hchecks, hpass, hmode⟩ := @runConfig_benign py ⟨1, 1, 1, .fp16, .nn⟩ tol errs
      (List.ne_nil_of_mem hnan) htol 0
    have hsteps := Prog.steps_run_through (E := torch) (I := fun _ => True) Prod.fst
      (fun s o r s' _ h => ⟨torch_benign s o r s' h, trivial⟩) trivial hrun
    exact (hsound _ _ _ _ _ _ _ res rfl rfl hsteps hchecks (by simp [hmode]) hpass _ hnan).1 rfl
  · intro hcondition fuel d cfg args budget w₀ w res htol hstart hrun hchecks hmode hpass
    have hjudged : Judged args res w := (runConfig_meets hstart).of_ret hrun
    have hworst := hjudged hpass hmode
    rw [htol, hchecks] at hworst
    have hnone : ¬ (tol.lt Flt.zero = true ∨ ∃ err ∈ errs, tol.lt err = true) := by
      intro h
      have hexceeds : tol.lt (worst errs) = true := hgt.2 h
      rw [hworst] at hexceeds
      cases hexceeds
    rcases hcondition with hnan | hsome | hzero
    · intro err herr
      refine ⟨?_, ?_⟩
      · rintro rfl
        exact hnan herr
      · by_contra hexceeds
        exact hnone (.inr ⟨err, herr, by simpa using hexceeds⟩)
    · exact absurd (.inr hsome) hnone
    · exact absurd (.inl hzero) hnone

/-- Python's arithmetic, where it does not matter. -/
def plain : Py where
  lower text := text
  int _ := none
  headroom total := total
  budget _ free := some free
  sub _ _ := Flt.zero
  rate _ secs := secs
  median _ := Flt.zero
  drift _ _ := Flt.zero
  quotient _ _ := Flt.zero
  gb _ := ""
  format _ _ := ""

/-- A configuration passes whose first check returned a NaN and whose second returned 0. -/
theorem nan_passes : ∃ res w,
    Prog.Steps torch (runConfig plain 3 0 ⟨8, 8, 8, .fp16, .nn⟩ (checking (.of 1) 2) 1000, fresh 0) (.ret res, w) ∧
      w.checks = [.nan, .of 0] ∧ res.validateMode ≠ .off ∧ res.status = .PASS := by
  refine ⟨_, _, Prog.steps_run_through (E := torch) (I := fun _ => True) (s := (fresh 0, [.nan, .of 0])) Prod.fst
    (fun s o r s' _ h => ⟨torch_benign s o r s' h, trivial⟩) trivial rfl, ?_, ?_, ?_⟩
  · rfl
  · decide
  · rfl

end CmpUnlocker.Gemm
