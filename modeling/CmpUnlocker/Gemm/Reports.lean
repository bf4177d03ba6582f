import CmpUnlocker.Gemm.Strikes

/-!
# What the results of a device say

A configuration that passes has counted at least one timed iteration, and one that is skipped exceeds the budget
(`Reported`).  A runner that returns has a result for each of its configurations, unless the stop flag is set by then or
one of its results is a FAIL or an ERROR (`Complete`).
-/

namespace CmpUnlocker.Gemm

open Interaction

/-! ### One configuration -/

/-- Every counted iteration has left its sample. -/
def Timing.Counted (s : Timing) : Prop := s.timedIters = s.samples.length

/-- The configuration was carried out: a pass has counted an iteration. -/
def Evaluated (cfg : Config) (res : ConfigResult) : Prop :=
  res.config = cfg ∧ (res.status = .PASS → 1 ≤ res.iters) ∧ res.status ≠ .SKIP

/-- What the result of a configuration says. -/
def Reported (py : Py) (args : Args) (budget : Int) (cfg : Config) (res : ConfigResult) : Prop :=
  res.config = cfg ∧ (res.status = .PASS → 1 ≤ res.iters) ∧
    (res.status = .SKIP → budget < needBytes py cfg args budget)

theorem Evaluated.reported {py : Py} {args : Args} {budget : Int} {cfg : Config} {res : ConfigResult}
    (h : Evaluated cfg res) : Reported py args budget cfg res :=
  ⟨h.1, h.2.1, fun hskip => absurd hskip h.2.2⟩

section

variable {py : Py} {args : Args} {cfg : Config} {s : Timing} {w : World} {res : ConfigResult}

private theorem askIn_counted {o : Request} {Q : o.Value → World → Prop} (h : s.Counted) (hok : ∀ x w', Q x w') :
    (askIn s o).Meets torch anything Q (fun end' _ => end'.1.Counted) w :=
  askIn_meets (fun x w' _ => hok x w') fun _ _ _ => h

private theorem check_counted {mode : Validate} (h : s.Counted) :
    (check args mode s).Meets torch anything (fun s' _ => s'.Counted) (fun end' _ => end'.1.Counted) w := by
  refine Prog.meets_bind.2 (Prog.meets_ite.2 ⟨fun _ => ?_, fun _ => ?_⟩)
  · exact askIn_counted h fun _ _ => h
  · exact askIn_counted h fun _ _ => h

private theorem record_counted {secs : Flt} (h : s.Counted) : (record py cfg secs s).Counted := by
  unfold Timing.Counted at h ⊢
  simp [record, h]

private theorem timedLoop_counted {mode : Validate} {wallStart : Flt} (fuel : Nat) (h : s.Counted) :
    (timedLoop py cfg args mode wallStart fuel s).Meets torch anything (fun s' _ => s'.Counted)
      (fun end' _ => end'.1.Counted) w := by
  induction fuel generalizing s w with
  | zero => exact h
  | succ fuel ih =>
    unfold timedLoop
    refine Prog.meets_ite.2 ⟨fun _ => h, fun _ => Prog.meets_bind.2 (askIn_counted h fun stop w₁ => ?_)⟩
    refine Prog.meets_ite.2 ⟨fun _ => h, fun _ => Prog.meets_bind.2 (askIn_counted h fun timing w₂ => ?_)⟩
    have hc : Timing.Counted { s with c := timing.1 } := h
    refine Prog.meets_ite.2 ⟨fun _ => ih hc, fun _ => ?_⟩
    have hrecorded : (record py cfg timing.2 { s with c := timing.1 }).Counted := record_counted hc
    have hdue : (checkDue args mode (record py cfg timing.2 { s with c := timing.1 })).Meets torch anything
        (fun s' _ => s'.Counted) (fun end' _ => end'.1.Counted) w₂ :=
      Prog.meets_ite.2 ⟨fun _ => check_counted hrecorded, fun _ => hrecorded⟩
    refine Prog.meets_bind.2 (hdue.imp (fun s' w₃ h₃ => ?_) fun _ _ hx => hx)
    refine Prog.meets_bind.2 (askIn_counted h₃ fun now w₄ => ?_)
    have hnow : Timing.Counted { s' with now } := h₃
    exact Prog.meets_ite.2 ⟨fun _ => hnow, fun _ => ih hnow⟩

private theorem timed_counted {mode : Validate} {wallStart : Flt} {fuel : Nat} {c : Tensor} :
    (timed py fuel cfg args mode wallStart c).Meets torch anything (fun s' _ => s'.Counted)
      (fun end' _ => end'.1.Counted) w := by
  have hstart : Timing.Counted ⟨c, [], Flt.zero, 0, wallStart⟩ := rfl
  refine Prog.meets_bind.2 ((timedLoop_counted fuel hstart).imp (fun s' w' h' => ?_) fun _ _ hx => hx)
  refine Prog.meets_ite.2 ⟨fun _ => ?_, fun _ => h'⟩
  refine Prog.meets_bind.2 ((check_counted h').imp (fun s'' w'' h'' => ?_) fun _ _ hx => hx)
  exact Prog.meets_bind.2 (Prog.meets_when.2 ⟨fun _ => askIn_counted h'' fun _ _ => h'', fun _ => h''⟩)

private theorem settle_evaluated (hconfig : res.config = cfg) (hiters : 1 ≤ res.iters) :
    (settle res).Meets torch anything (fun res' _ => Evaluated cfg res') (fun _ _ => True) w := by
  have hrest : ∀ (stop : Bool) (w' : World),
      (if stop = true then (ask .stopRequested).bind fun again => .ret (stopped again res)
        else .ret { res with status := .PASS } : Run Exn ConfigResult).Meets torch anything
        (fun res' _ => Evaluated cfg res') (fun _ _ => True) w' := by
    intro stop w'
    refine Prog.meets_ite.2 ⟨fun _ => ?_, fun _ => ⟨hconfig, fun _ => hiters, by simp⟩⟩
    refine Prog.meets_bind.2 (ask_meets (fun again w'' _ => ?_) fun _ _ _ => trivial)
    show Evaluated cfg (stopped again res)
    unfold stopped
    split
    · exact ⟨hconfig, by simp, by simp⟩
    · exact ⟨hconfig, by simp, by simp⟩
  refine Prog.meets_bind.2 (Prog.meets_ite.2 ⟨fun _ => hrest true w, fun _ => ?_⟩)
  exact ask_meets (fun stop w' _ => hrest stop w') fun _ _ _ => trivial

private theorem evaluate_evaluated (hconfig : res.config = cfg) (h : s.Counted) :
    (evaluate py args res s).Meets torch anything (fun res' _ => Evaluated cfg res') (fun _ _ => True) w := by
  unfold evaluate
  split
  · exact ⟨hconfig, by simp, by simp⟩
  · next sample samples hsamples =>
    have hiters : 1 ≤ (figures py res s sample samples).iters := by
      have hcounted : s.timedIters = s.samples.length := h
      show 1 ≤ s.timedIters
      simp [hcounted, hsamples]
    have hrest : ∀ (finite : Bool) (w' : World),
        (if finite = false then .ret { res with status := .FAIL, reason := "non-finite result" }
          else gated py args (figures py res s sample samples) : Run Exn ConfigResult).Meets torch anything
          (fun res' _ => Evaluated cfg res') (fun _ _ => True) w' := by
      intro finite w'
      refine Prog.meets_ite.2 ⟨fun _ => ⟨hconfig, by simp, by simp⟩, fun _ => ?_⟩
      exact Prog.meets_ite.2 ⟨fun _ => ⟨hconfig, by simp, by simp⟩, fun _ => settle_evaluated hconfig hiters⟩
    refine Prog.meets_bind.2 (Prog.meets_handle.2 (ask_meets (fun finite w₁ _ => hrest finite w₁) fun e w₁ _ => ?_))
    cases e with
    | runtime exc => exact hrest false w₁
    | _ => trivial

/-- `closing` fills in the elapsed time. -/
theorem closing_keeps {d : Int} {wallStart : Flt} {Q : ConfigResult → World → Prop}
    (hok : ∀ elapsed w', Q { res with elapsed } w') :
    (closing py d args wallStart res).Meets torch anything Q (fun _ _ => True) w := by
  refine Prog.meets_bind.2 (ask_meets (fun now w₁ _ => ?_) fun _ _ _ => trivial)
  refine Prog.meets_bind.2 (Prog.meets_when.2 ⟨fun _ => ?_, fun _ => hok _ w₁⟩)
  exact ask_meets (fun _ w₂ _ => hok _ w₂) fun _ _ _ => trivial

private theorem measure_evaluated {fuel : Nat} {d : Int} (hconfig : res.config = cfg) :
    (measure py fuel d cfg args res).Meets torch anything (fun res' _ => Evaluated cfg res') (fun _ _ => True) w := by
  refine Prog.meets_bind.2 (ask_meets (fun wallStart w₁ _ => ?_) fun _ _ _ => trivial)
  refine Prog.meets_bind.2 (ask_meets (fun c w₂ _ => ?_) fun _ _ _ => trivial)
  have hclosed : ∀ {res' : ConfigResult} {s : Timing} {w' : World}, res'.config = cfg → s.Counted →
      ((closing py d args wallStart res').bind fun res'' => evaluate py args res'' s).Meets torch anything
        (fun res'' _ => Evaluated cfg res'') (fun _ _ => True) w' :=
    fun hconfig hs => Prog.meets_bind.2 (closing_keeps fun _ _ => evaluate_evaluated hconfig hs)
  refine Prog.meets_bind.2 (Prog.meets_attempt.2 (timed_counted.imp (fun s w₃ h₃ => hclosed hconfig h₃) ?_))
  intro ⟨s, e⟩ w₃ h₃
  cases e with
  | runtime exc => exact closing_keeps fun _ _ => ⟨hconfig, by simp, by simp⟩
  | interrupt =>
    refine Prog.meets_bind.2 (Prog.meets_attempt.2 (ask_meets (fun _ w₄ _ => hclosed hconfig h₃) fun e w₄ _ => ?_))
    exact Prog.meets_bind.2 (closing_keeps fun _ _ => trivial)
  | other text => exact Prog.meets_bind.2 (closing_keeps fun _ _ => trivial)
  | unfinished => exact Prog.meets_bind.2 (closing_keeps fun _ _ => trivial)

/-- Of a program of which nothing is asked. -/
theorem meets_true {α : Type} (p : Run Exn α) :
    p.Meets torch anything (fun _ _ => True) (fun _ _ => True) w := by
  induction p generalizing w with
  | ret a => trivial
  | throw e => trivial
  | call o k ih => exact fun r w' _ => ⟨trivial, ih r⟩

private theorem runConfig_reported {fuel : Nat} {d budget : Int} :
    (runConfig py fuel d cfg args budget).Meets torch anything (fun res _ => Reported py args budget cfg res)
      (fun _ _ => True) w := by
  refine Prog.meets_bind.2 (ask_meets (fun _ w₁ _ => ?_) fun _ _ _ => trivial)
  refine Prog.meets_ite.2 ⟨fun hneed => ⟨rfl, by simp, fun _ => hneed⟩, fun _ => ?_⟩
  have herror : ∀ {reason : String} {w' : World},
      Prog.Meets torch anything (fun res _ => Reported py args budget cfg res) (fun _ _ => True)
        (.ret { config := cfg, validateMode := validateMode py cfg args budget, status := .ERROR, reason } :
          Run Exn ConfigResult) w' :=
    ⟨rfl, by simp, by simp⟩
  refine Prog.meets_bind.2 (Prog.meets_attempt.2 (ask_meets (fun _ w₂ _ => ?_) fun e w₂ _ => ?_))
  · refine Prog.meets_bind.2
      (Prog.meets_attempt.2 ((meets_true (warmUp d args)).imp (fun _ w₃ _ => ?_) fun e w₃ _ => ?_))
    · have hmeasure : ∀ w', (measure py fuel d cfg args
          { config := cfg, validateMode := validateMode py cfg args budget }).Meets torch anything
            (fun res _ => Reported py args budget cfg res) (fun _ _ => True) w' :=
        fun w' => (@measure_evaluated py args cfg w' _ fuel d rfl).imp (fun _ _ h => h.reported) fun _ _ hx => hx
      refine Prog.meets_bind.2 (Prog.meets_when.2 ⟨fun _ => ?_, fun _ => hmeasure w₃⟩)
      exact ask_meets (fun _ w₄ _ => hmeasure w₄) fun _ _ _ => trivial
    · cases e with
      | runtime exc => exact herror
      | _ => trivial
  · cases e with
    | runtime exc => exact herror
    | _ => trivial

end

/-! ### One device -/

/-- What the results of a device say, with the stop flag at the end. -/
def Complete (py : Py) (args : Args) (budget : Int) (configs : List Config) (results : List ConfigResult)
    (stop : Bool) : Prop :=
  (∀ res ∈ results, Reported py args budget res.config res) ∧
    (results.map (·.config) = configs ∨ stop = true ∨ ∃ res ∈ results, res.status = .FAIL ∨ res.status = .ERROR)

section

variable {py : Py} {args : Args} {d : Int} {w : World}

private theorem runConfigs_complete {fuel : Nat} {budget : Int} {results : List ConfigResult} {configs : List Config}
    (hresults : ∀ res ∈ results, Reported py args budget res.config res) :
    (runConfigs py fuel d args budget results configs).Meets torch anything
      (fun results' w' => Complete py args budget (results.map (·.config) ++ configs) results' w'.stop)
      (fun _ _ => True) w := by
  induction configs generalizing results w with
  | nil => exact ⟨hresults, .inl (by simp)⟩
  | cons cfg configs ih =>
    refine Prog.meets_bind.2 (ask_meets (fun stop w₁ h₁ => ?_) fun _ _ _ => trivial)
    refine Prog.meets_ite.2 ⟨fun hstop => ?_, fun _ => ?_⟩
    · obtain ⟨-, rfl⟩ := h₁
      exact ⟨hresults, .inr (.inl hstop)⟩
    · refine Prog.meets_bind.2 (runConfig_reported.imp (fun res w₂ hres => ?_) fun _ _ hx => hx)
      have hresults' : ∀ res' ∈ results ++ [res], Reported py args budget res'.config res' := by
        intro res' hmem
        rcases List.mem_append.1 hmem with hmem | hmem
        · exact hresults res' hmem
        · rw [List.mem_singleton.1 hmem, hres.1]
          exact hres
      refine Prog.meets_ite.2 ⟨fun hfail => ⟨hresults', .inr (.inr ⟨res, by simp, hfail.2⟩)⟩, fun _ => ?_⟩
      have hih := ih (w := w₂) hresults'
      simpa [hres.1] using hih

private theorem runDevice_complete {fuel : Nat} {configs : List Config} :
    (runDevice py fuel d configs args).Meets torch anything
      (fun out w' => ∃ budget, py.budget args.maxMemGb w.free = some budget ∧
        Complete py args budget configs out.2 w'.stop) (fun _ _ => True) w := by
  refine Prog.meets_bind.2 (ask_meets (fun name w₁ h₁ => ?_) fun _ _ _ => trivial)
  refine Prog.meets_bind.2 (ask_meets (fun _ w₂ h₂ => ?_) fun _ _ _ => trivial)
  refine Prog.meets_bind.2 (ask_meets (fun free w₃ h₃ => ?_) fun _ _ _ => trivial)
  have hfree : free = w.free := h₃.1.trans ((torch_strikes h₂).2.2.trans (torch_strikes h₁).2.2)
  subst hfree
  cases hbudget : py.budget args.maxMemGb w.free with
  | none => trivial
  | some budget =>
    have hnone : ∀ res ∈ ([] : List ConfigResult), Reported py args budget res.config res := by simp
    refine Prog.meets_bind.2 ((runConfigs_complete hnone).imp (fun results w₄ h₄ => ?_) fun _ _ hx => hx)
    exact ⟨budget, rfl, h₄⟩

/-- A runner that returns has a complete list of results. -/
theorem Called.complete {configs : List Config} {free : Int → Int} {out : String × List ConfigResult} {flag stop : Bool}
    {k : Nat} (h : Called py args configs free d flag (.returned out) stop k) :
    ∃ budget, py.budget args.maxMemGb (free d) = some budget ∧ Complete py args budget configs out.2 stop := by
  generalize ho : Finish.returned out = o at h
  cases h with
  | @returned fuel before w out' _ h =>
    cases ho
    exact runDevice_complete.of_ret (h.mono fun _ _ _ _ hr => hr.1)
  | interrupted _ h => cases ho
  | runtime _ h => cases ho
  | other _ h => cases ho

end

end CmpUnlocker.Gemm
