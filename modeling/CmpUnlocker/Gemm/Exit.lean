import CmpUnlocker.Gemm.Interrupt
import CmpUnlocker.Gemm.Reports

/-!
# The exit status 0

Where `run_all` is not interrupted every device stays in play until its results are stored (`InPlay`), and the runners
end with the stop flag clear (`Ledger`).  So a status 0 speaks for all configurations of all devices that `setup` keeps,
but for those that are estimated above the budget (`exit_zero_only_if`).
-/

namespace CmpUnlocker.Gemm

open Interaction

/-! ### No device is forgotten -/

section

variable {ι ρ : Type}

/-- The device is still to come, in the runner, in the pool, on its way, or stored. -/
def InPlay (devices : List ι) (s : State ι ρ) (d : ι) : Prop :=
  d ∈ s.pc.todo devices ∨ d ∈ s.pc.active ∨ d ∈ s.pool.map Prod.fst ∨ d ∈ s.pc.pending.map Prod.fst ∨
    d ∈ s.perDevice.map Prod.fst

variable [DecidableEq ι] {devices : List ι} {size : Int} {s s' : State ι ρ} {e : Event ρ} {d : ι}

private theorem mem_put_keys {d' : ι} {out : ρ} {m : List (ι × ρ)} :
    d ∈ (put d' out m).map Prod.fst ↔ d = d' ∨ d ∈ m.map Prod.fst := by
  unfold put
  by_cases h : d' ∈ m.map Prod.fst
  · have hkeys : (m.map fun e => if e.1 = d' then (d', out) else e).map Prod.fst = m.map Prod.fst := by
      rw [List.map_map]
      refine List.map_congr_left fun e _ => ?_
      by_cases he : e.1 = d' <;> simp [he]
    rw [if_pos h, hkeys]
    refine ⟨.inr, fun hd => ?_⟩
    rcases hd with rfl | hd
    · exact h
    · exact hd
  · rw [if_neg h]
    simp only [List.map_append, List.map_cons, List.map_nil, List.mem_append, List.mem_singleton]
    exact or_comm

theorem InPlay.step (h : InPlay devices s d) (hs : Step devices size s e s') (hpast : ¬ s'.pc.Past) :
    InPlay devices s' d := by
  unfold InPlay at h ⊢
  cases hs with
  | enter hpc hbatches => simpa [hpc, Pc.todo, Pc.active, Pc.pending, batchDevices_flatten hbatches] using h
  | call hpc _ =>
    simp only [hpc, Pc.todo, Pc.active, Pc.pending] at h ⊢
    grind -ring -linarith
  | finished hpc =>
    simp only [hpc, Pc.todo, Pc.active, Pc.pending] at h ⊢
    grind -ring -linarith
  | assign hpc =>
    simp only [hpc, Pc.todo, Pc.active, Pc.pending, mem_put_keys] at h ⊢
    grind -ring -linarith
  | pooled hpc _ =>
    simp only [hpc, Pc.todo, Pc.active, Pc.pending] at h ⊢
    grind -ring -linarith
  | submit hpc =>
    simp only [hpc, Pc.todo, Pc.active, Pc.pending] at h ⊢
    grind -ring -linarith
  | submitted hpc =>
    simp only [hpc, Pc.todo, Pc.active, Pc.pending] at h ⊢
    grind -ring -linarith
  | collect hpc hpool =>
    simp only [hpc, hpool, Pc.todo, Pc.active, Pc.pending] at h ⊢
    grind -ring -linarith
  | store hpc =>
    simp only [hpc, Pc.todo, Pc.active, Pc.pending, mem_put_keys] at h ⊢
    grind -ring -linarith
  | collected hpc hpool =>
    simp only [hpc, Pc.todo, Pc.active, Pc.pending] at h ⊢
    grind -ring -linarith
  | close hpc =>
    simp only [hpc, Pc.todo, Pc.active, Pc.pending] at h ⊢
    grind -ring -linarith
  | taken hpool => simpa [hpool] using h
  | ended hpool => simpa [hpool] using h
  | cancel hpc _ => exact absurd (by simp [hpc, Pc.Past]) hpast
  | _ => exact absurd trivial hpast

end

/-! ### Nor returns with the stop flag set -/

section

variable {py : Py} {args : Args} {configs : List Config} {free : Int → Int} {devices : List Int} {size : Int}
  {s s' : State Int Out} {e : Event Out} {log : List (State Int Out × Event Out)} {n k : Nat}

/-- The runner has returned the result, with the stop flag clear. -/
def Returned (py : Py) (args : Args) (configs : List Config) (free : Int → Int) (x : Int × Out) : Prop :=
  ∃ k, Called py args configs free x.1 false (.returned x.2) false k

theorem Step.returned (hs : Step devices size s e s') (hhits : Hits py args configs free s k e)
    (h : s.stop = false → ∀ x ∈ s.ends, Returned py args configs free x) (hstop : s'.stop = false) :
    ∀ x ∈ s'.ends, Returned py args configs free x := by
  intro x hx
  cases hs with
  | finished hpc =>
    obtain ⟨hclear, rfl⟩ := Bool.or_eq_false_iff.1 hstop
    rcases List.mem_append.1 hx with hx | hx
    · exact h hclear x hx
    · obtain ⟨d, rest, hpc', hcalled⟩ := hhits
      rw [hpc] at hpc'
      cases hpc'
      rw [List.mem_singleton.1 hx]
      exact ⟨k, hclear ▸ hcalled⟩
  | finishInterrupted _ => exact h (Bool.or_eq_false_iff.1 hstop).1 x hx
  | finishRaised _ => exact h (Bool.or_eq_false_iff.1 hstop).1 x hx
  | @ended before after d o stop hpool =>
    obtain ⟨hclear, rfl⟩ := Bool.or_eq_false_iff.1 hstop
    rcases List.mem_append.1 hx with hx | hx
    · exact h hclear x hx
    · obtain ⟨-, before', after', d', hpool', hlength, hcalled⟩ := hhits
      rw [hpool] at hpool'
      obtain ⟨-, hrest⟩ := List.append_inj hpool' hlength
      cases hrest
      cases o with
      | returned out =>
        rw [List.mem_singleton.1 hx]
        exact ⟨0, hclear ▸ hcalled⟩
      | interrupted => cases hx
      | raised text => cases hx
  | collectInterrupted _ _ => cases hstop
  | handle _ => cases hstop
  | interruptCollection _ => cases hstop
  | interruptStoring _ => cases hstop
  | _ => exact h hstop x hx

/-- What a run without an interruption has kept. -/
structure Ledger (py : Py) (args : Args) (configs : List Config) (free : Int → Int) (devices : List Int)
    (s : State Int Out) : Prop where
  played : ¬ s.pc.Past → ∀ d ∈ devices, InPlay devices s d
  returned : s.stop = false → ∀ x ∈ s.ends, Returned py args configs free x
  leaving : s.pc = .leaving → s.stop = false → ∀ d ∈ devices, d ∈ s.perDevice.map Prod.fst
  completed : s.pc = .returned false → (∀ d ∈ devices, d ∈ s.perDevice.map Prod.fst) ∧
    ∀ x ∈ s.perDevice, Returned py args configs free x

theorem Ledger.step (h : Ledger py args configs free devices s) (hsound : Sound devices s)
    (hs : Step devices size s e s') (hhits : Hits py args configs free s k e) :
    Ledger py args configs free devices s' where
  played hpast d hd := by
    by_cases hpast' : s.pc.Past
    · exact absurd (hs.past hpast') hpast
    · exact (h.played hpast' d hd).step hs hpast
  returned := hs.returned hhits h.returned
  leaving hpc hstop := by
    cases hs with
    | halt _ hset =>
      have hstop' : s.stop = false := hstop
      rw [hset] at hstop'
      cases hstop'
    | exhausted hloop =>
      intro d hd
      have hpool : s.pool = [] := hsound.idle (by simp [hloop, Pc.Idle])
      have hplayed := h.played (by simp [hloop, Pc.Past]) d hd
      simpa [InPlay, hloop, hpool, Pc.todo, Pc.active, Pc.pending] using hplayed
    | handle _ => cases hstop
    | taken _ => exact h.leaving hpc hstop
    | ended _ => exact h.leaving hpc (Bool.or_eq_false_iff.1 hstop).1
    | cancel hdraining _ =>
      rw [hdraining] at hpc
      cases hpc
    | _ => cases hpc
  completed hpc := by
    cases hs with
    | leave hleaving =>
      have hstop : s.stop = false := Pc.returned.inj hpc
      exact ⟨h.leaving hleaving hstop, fun x hx => h.returned hstop x (hsound.stored x hx)⟩
    | taken _ => exact h.completed hpc
    | ended _ => exact h.completed hpc
    | cancel hdraining _ =>
      rw [hdraining] at hpc
      cases hpc
    | _ => cases hpc

theorem Ledger.runs (hdevices : devices.Nodup) (hrun : Runs devices size log s)
    (hstruck : Struck py args configs free log n) : Ledger py args configs free devices s := by
  induction hrun generalizing n with
  | initial stop =>
    exact ⟨fun _ d hd => .inl hd, fun _ x hx => (nomatch hx), fun hpc => (nomatch hpc), fun hpc => (nomatch hpc)⟩
  | step hrun hs ih =>
    obtain ⟨m, k, -, hbefore, hhits⟩ := hstruck.last
    exact (ih hbefore).step (Sound.runs hdevices hrun) hs hhits

/-! ### The verdict on the results -/

private theorem rated_eq_or_fail (bases : List ((Int × Int × Int × Layout) × Flt)) (res : ConfigResult) :
    rated py args bases res = res ∨ (rated py args bases res).status = .FAIL := by
  unfold rated
  split
  · exact .inl rfl
  · split
    · exact .inr rfl
    · split
      · exact .inr rfl
      · dsimp only
        split
        · exact .inr rfl
        · exact .inl rfl

private theorem mem_allResults {m : PerDevice} {res : ConfigResult} : res ∈ allResults m ↔ ∃ x ∈ m, res ∈ x.2.2 := by
  simp [allResults, List.mem_flatMap]

/-- The gate on the ratio has nothing to object to where no result fails behind it. -/
theorem applyTensorRatio_eq {m : PerDevice} (h : ∀ res ∈ allResults (applyTensorRatio py args m), res.status ≠ .FAIL) :
    applyTensorRatio py args m = m := by
  unfold applyTensorRatio at h ⊢
  by_cases hratio : args.tensorRatio.le Flt.zero = true
  · rw [if_pos hratio]
  · rw [if_neg hratio] at h ⊢
    have hsame : ∀ x ∈ m, (x.1, x.2.1, x.2.2.map (rated py args (baselines x.2.2))) = x := by
      intro x hx
      have hresults : x.2.2.map (rated py args (baselines x.2.2)) = x.2.2.map id := by
        refine List.map_congr_left fun res hres => ?_
        have hrated : rated py args (baselines x.2.2) res = res ∨ _ := rated_eq_or_fail (baselines x.2.2) res
        rcases hrated with hsame | hfail
        · exact hsame
        · refine absurd hfail (h _ (mem_allResults.2 ⟨_, List.mem_map_of_mem hx, ?_⟩))
          exact List.mem_map_of_mem hres
      rw [hresults, List.map_id]
    calc m.map (fun x => (x.1, x.2.1, x.2.2.map (rated py args (baselines x.2.2)))) = m.map id :=
          List.map_congr_left hsame
      _ = m := List.map_id m

private theorem report_zero {m : PerDevice} (h : report m = 0) :
    ∀ res ∈ allResults m, res.status = .PASS ∨ res.status = .SKIP := by
  unfold report at h
  by_cases hfailed : countOf .FAIL m ≠ 0 ∨ countOf .ERROR m ≠ 0
  · rw [if_pos hfailed] at h
    cases h
  · have hnone : countOf .FAIL m = 0 ∧ countOf .ERROR m = 0 := by
      constructor
      · by_contra hfail
        exact hfailed (.inl hfail)
      · by_contra herror
        exact hfailed (.inr herror)
    intro res hres
    have hfail := List.countP_eq_zero.1 hnone.1 res hres
    have herror := List.countP_eq_zero.1 hnone.2 res hres
    cases hstatus : res.status with
    | PASS => exact .inl rfl
    | SKIP => exact .inr rfl
    | FAIL => simp [hstatus] at hfail
    | ERROR => simp [hstatus] at herror

/-- With the status 0 `run_all` was not interrupted, and its results are passed or skipped, with the gate behind
them. -/
theorem exitOf_zero (h : exitOf py args s = some (.code 0)) :
    s.pc = .returned false ∧ applyTensorRatio py args s.perDevice = s.perDevice ∧
      ∀ res ∈ allResults s.perDevice, res.status = .PASS ∨ res.status = .SKIP := by
  unfold exitOf at h
  cases hpc : s.pc with
  | returned interrupted =>
    rw [hpc] at h
    have hcode : conclude py args s.perDevice interrupted = .code 0 := Option.some.inj h
    unfold conclude at hcode
    cases interrupted with
    | true =>
      simp only [if_true] at hcode
      split at hcode
      · cases hcode
      · cases hcode
    | false =>
      simp only [Bool.false_eq_true, if_false] at hcode
      split at hcode
      · cases hcode
      · have hpassed := report_zero (Exit.code.inj hcode)
        have hsame : applyTensorRatio py args s.perDevice = s.perDevice := by
          refine applyTensorRatio_eq fun res hres hfail => ?_
          rcases hpassed res hres with hpass | hskip
          · simp [hfail] at hpass
          · simp [hfail] at hskip
        rw [hsame] at hpassed
        exact ⟨rfl, hsame, hpassed⟩
  | raised exn =>
    rw [hpc] at h
    cases exn <;> simp at h
  | _ =>
    rw [hpc] at h
    cases h

/-! ### What is configured -/

private theorem parseShape_positive {spec : List Char} {dims : Int × Int × Int} (h : parseShape py spec = some dims) :
    0 < dims.1 ∧ 0 < dims.2.1 ∧ 0 < dims.2.2 := by
  unfold parseShape at h
  split at h
  · split at h
    · next m n k _ _ _ =>
      by_cases hmin : min (min m n) k ≤ 0
      · rw [if_pos hmin] at h
        cases h
      · rw [if_neg hmin] at h
        cases h
        show 0 < m ∧ 0 < n ∧ 0 < k
        omega
    · cases h
  · cases h

private theorem parseSpecs_positive {specs : List (List Char)} {dims : List (Int × Int × Int)}
    (h : parseSpecs py specs = some dims) : ∀ dim ∈ dims, 0 < dim.1 ∧ 0 < dim.2.1 ∧ 0 < dim.2.2 := by
  induction specs generalizing dims with
  | nil =>
    cases h
    simp
  | cons spec specs ih =>
    unfold parseSpecs at h
    cases hspec : parseShape py spec with
    | none => simp [hspec] at h
    | some first =>
      simp only [hspec, Option.map_eq_some_iff] at h
      obtain ⟨rest, hrest, rfl⟩ := h
      intro dim hdim
      rcases List.mem_cons.1 hdim with rfl | hdim
      · exact parseShape_positive hspec
      · exact ih hrest dim hdim

private theorem sizesOf_positive (h : ∀ size ∈ args.sizes.getD [], 0 < size) : ∀ size ∈ sizesOf args, 0 < size := by
  unfold sizesOf
  by_cases hnone : args.sizes.getD [] = [] ∧ args.shapes = []
  · rw [if_pos hnone]
    simp
  · rw [if_neg hnone]
    exact h

/-- The devices and the configurations of `setup`: the candidates but for the AMD ones, and positive dimensions. -/
theorem setup_ok {available : Bool} {names : List String} (h : setup py args available names = .ok (devices, configs))
    (hsizes : ∀ size ∈ args.sizes.getD [], 0 < size) :
    devices = selectDevices py args.devices names ∧ ∀ cfg ∈ configs, 0 < cfg.m ∧ 0 < cfg.n ∧ 0 < cfg.k := by
  unfold setup at h
  split at h
  · cases h
  split at h
  · cases h
  split at h
  · cases h
  split at h
  · cases h
  next dims hdims =>
    split at h
    · cases h
    cases h
    refine ⟨rfl, fun cfg hcfg => ?_⟩
    obtain ⟨specs, hspecs, rfl⟩ := Option.map_eq_some_iff.1 hdims
    simp only [configsOf, List.mem_flatMap, List.mem_append, List.mem_map] at hcfg
    obtain ⟨dim, hdim, dtype, -, rfl⟩ := hcfg
    rcases hdim with ⟨size, hsize, rfl⟩ | hdim
    · have hpos := sizesOf_positive hsizes size hsize
      exact ⟨hpos, hpos, hpos⟩
    · exact parseSpecs_positive hspecs dim hdim

/-- The configuration was executed and passed, or it is skipped for being estimated above the budget. -/
def Settled (py : Py) (args : Args) (budget : Int) (res : ConfigResult) : Prop :=
  (res.status = .PASS ∧ 1 ≤ res.iters) ∨ (res.status = .SKIP ∧ budget < needBytes py res.config args budget)

/-- With positive sizes and distinct devices, `main` returns 0 only if for every candidate that is not an AMD device the
runner has returned one result for each configuration, all of positive dimensions, and every result is settled. -/
theorem exit_zero_only_if {available : Bool} {names : List String}
    (hsetup : setup py args available names = .ok (devices, configs))
    (hsizes : ∀ size ∈ args.sizes.getD [], 0 < size) (hdistinct : (candidates args.devices names).Nodup)
    (hrun : Runs devices (batchSize args.maxParallel args.parallel devices.length) log s)
    (hstruck : Struck py args configs free log n) (hexit : exitOf py args s = some (.code 0)) :
    (∀ cfg ∈ configs, 0 < cfg.m ∧ 0 < cfg.n ∧ 0 < cfg.k) ∧
      ∀ d ∈ candidates args.devices names, isSkipped py names d = false →
        ∃ name results budget, (∃ k, Called py args configs free d false (.returned (name, results)) false k) ∧
          (d, name, results) ∈ applyTensorRatio py args s.perDevice ∧
          py.budget args.maxMemGb (free d) = some budget ∧ results.map (·.config) = configs ∧
          ∀ res ∈ results, Settled py args budget res := by
  obtain ⟨rfl, hpositive⟩ := setup_ok hsetup hsizes
  refine ⟨hpositive, fun d hd hkept => ?_⟩
  obtain ⟨hpc, hsame, hpassed⟩ := exitOf_zero hexit
  have hdevices : (selectDevices py args.devices names).Nodup := hdistinct.filter _
  obtain ⟨hcovered, hreturned⟩ := (Ledger.runs hdevices hrun hstruck).completed hpc
  have hselected : d ∈ selectDevices py args.devices names := by simp [selectDevices, hd, hkept]
  obtain ⟨⟨d', name, results⟩, hmem, rfl⟩ := List.mem_map.1 (hcovered d hselected)
  obtain ⟨k, hcalled⟩ := hreturned _ hmem
  obtain ⟨budget, hbudget, hreported, hcomplete⟩ := hcalled.complete
  have hstatus : ∀ res ∈ results, res.status = .PASS ∨ res.status = .SKIP :=
    fun res hres => hpassed res (mem_allResults.2 ⟨_, hmem, hres⟩)
  have hall : results.map (·.config) = configs := by
    rcases hcomplete with hall | hstop | ⟨res, hres, hfailed⟩
    · exact hall
    · cases hstop
    · have hgood := hstatus res hres
      rcases hfailed with hfail | herror
      · simp [hfail] at hgood
      · simp [herror] at hgood
  refine ⟨name, results, budget, ⟨k, hcalled⟩, hsame.symm ▸ hmem, hbudget, hall, fun res hres => ?_⟩
  obtain ⟨-, hiters, hneed⟩ := hreported res hres
  rcases hstatus res hres with hpass | hskip
  · exact .inl ⟨hpass, hiters hpass⟩
  · exact .inr ⟨hskip, hneed hskip⟩

end

/-! ### A status 0 that says less -/

/-- The lower case of ASCII texts. -/
def ascii : Py := { plain with lower := fun text => text.map Char.toLower }

/-- One checked iteration of each size on these devices. -/
def sweep (devices sizes : List Int) : Args :=
  { checking (.of 1) 1 with devices := some devices, sizes := some sizes }

def square (size : Int) : Config := ⟨size, size, size, .fp16, .nn⟩

/-- `main` has returned 0 for these names of the devices. -/
def ExitsZero (args : Args) (names : List String) (s : State Int Out) : Prop :=
  ∃ devices configs log n, setup ascii args true names = .ok (devices, configs) ∧
    Runs devices (batchSize args.maxParallel args.parallel devices.length) log s ∧
    Struck ascii args configs (fun _ => 1000000) log n ∧ exitOf ascii args s = some (.code 0)

private theorem called_benign {args : Args} {configs : List Config} {errs errs' checks : List Flt} {out : Out}
    (hrun : (runDevice ascii 2 0 configs args).run benign (fresh 1000000, errs) =
      (.ret out, ({ fresh 1000000 with checks }, errs'))) :
    Called ascii args configs (fun _ => 1000000) 0 false (.returned out) false 0 := by
  have hsteps := Prog.steps_run_through (E := beside false) (I := fun _ => True) Prod.fst
    (fun s o r s' _ h => ⟨beside_benign s o r s' h, trivial⟩) trivial hrun
  exact @Called.returned ascii args configs (fun _ => 1000000) 0 false 2 false { fresh 1000000 with checks } out id
    hsteps

/-- A run of `run_all` on one device whose runner returns. -/
theorem run_returned {args : Args} {configs : List Config} {out : Out}
    (hcalled : Called ascii args configs (fun _ => 1000000) 0 false (.returned out) false 0) :
    ∃ log, ∃ s : State Int Out, Runs [0] (batchSize 0 false 1) log s ∧
      Struck ascii args configs (fun _ => 1000000) log 0 ∧ s.pc = .returned false ∧ s.perDevice = [(0, out)] ∧
      s.calls = [0] := by
  have h₀ : Runs [0] (batchSize 0 false 1) [] (initial false : State Int Out) := .initial false
  have h₁ := h₀.step (.enter rfl rfl)
  have h₂ := h₁.step (.call rfl rfl)
  have h₃ := h₂.step (@Step.finished _ _ _ _ _ _ 0 out false [] rfl)
  have h₄ := h₃.step (.assign rfl)
  have h₅ := h₄.step (.exhausted rfl)
  have h₆ := h₅.step (.leave rfl)
  refine ⟨_, _, h₆, ?_, rfl, rfl, rfl⟩
  exact (Struck.finish (s := { initial false with pc := .calling 0 [], calls := [0] }) Struck.nil.main.main rfl
    hcalled).main.main.main

/-- The device passes at this size. -/
theorem called_passing (size : Int) (hsize : size = 0 ∨ size = 8) (devices : List Int) : ∃ res,
    Called ascii (sweep devices [size]) [square size] (fun _ => 1000000) 0 false (.returned ("", [res])) false 0 ∧
      res.status = .PASS ∧ res.config = square size := by
  rcases hsize with rfl | rfl
  · have hrun : ∃ res checks errs', (runDevice ascii 2 0 [square 0] (sweep devices [0])).run benign
        (fresh 1000000, [Flt.zero]) = (.ret ("", [res]), ({ fresh 1000000 with checks }, errs')) ∧
          res.status = .PASS ∧ res.config = square 0 := ⟨_, _, _, rfl, rfl, rfl⟩
    obtain ⟨res, checks, errs', hrun, hres⟩ := hrun
    exact ⟨res, called_benign hrun, hres⟩
  · have hrun : ∃ res checks errs', (runDevice ascii 2 0 [square 8] (sweep devices [8])).run benign
        (fresh 1000000, [Flt.zero]) = (.ret ("", [res]), ({ fresh 1000000 with checks }, errs')) ∧
          res.status = .PASS ∧ res.config = square 8 := ⟨_, _, _, rfl, rfl, rfl⟩
    obtain ⟨res, checks, errs', hrun, hres⟩ := hrun
    exact ⟨res, called_benign hrun, hres⟩

/-- The first size passes, and the second is skipped. -/
theorem called_skipping : ∃ res res',
    Called ascii (sweep [0] [8, 1024]) [square 8, square 1024] (fun _ => 1000000) 0 false
      (.returned ("", [res, res'])) false 0 ∧ res.status = .PASS ∧ res'.status = .SKIP := by
  have hrun : ∃ res res' checks errs', (runDevice ascii 2 0 [square 8, square 1024] (sweep [0] [8, 1024])).run benign
      (fresh 1000000, [Flt.zero]) = (.ret ("", [res, res']), ({ fresh 1000000 with checks }, errs')) ∧
        res.status = .PASS ∧ res'.status = .SKIP := ⟨_, _, _, _, rfl, rfl, rfl⟩
  obtain ⟨res, res', checks, errs', hrun, hres⟩ := hrun
  exact ⟨res, res', called_benign hrun, hres⟩

/-- A device whose results are not finite. -/
def spoiled (s : World × List Flt) (o : Request) : Option (o.Answer × (World × List Flt)) :=
  match o with
  | .isfinite _ => some (.ok false, s)
  | o => benign s o

private theorem beside_spoiled (s : World × List Flt) (o : Request) (r : o.Answer) (s' : World × List Flt)
    (h : spoiled s o = some (r, s')) : beside false s.1 o r s'.1 := by
  cases o with
  | isfinite c =>
    cases h
    exact ⟨rfl, .inl⟩
  | _ => exact beside_benign s _ r s' h

private theorem called_failing (devices : List Int) : ∃ res,
    Called ascii (sweep devices [8]) [square 8] (fun _ => 1000000) 0 false (.returned ("", [res])) false 0 ∧
      res.status = .FAIL := by
  have hrun : ∃ res checks errs', (runDevice ascii 2 0 [square 8] (sweep devices [8])).run spoiled
      (fresh 1000000, [Flt.zero]) = (.ret ("", [res]), ({ fresh 1000000 with checks }, errs')) ∧ res.status = .FAIL :=
    ⟨_, _, _, rfl, rfl⟩
  obtain ⟨res, checks, errs', hrun, hres⟩ := hrun
  have hsteps := Prog.steps_run_through (E := beside false) (I := fun _ => True) Prod.fst
    (fun s o r s' _ h => ⟨beside_spoiled s o r s' h, trivial⟩) trivial hrun
  refine ⟨res, ?_, hres⟩
  exact @Called.returned ascii _ _ (fun _ => 1000000) 0 false 2 false { fresh 1000000 with checks } _ id hsteps

/-- What `main` makes of results that are passed or skipped, where it has no gate and no CSV file. -/
theorem conclude_passed {args : Args} {name : String} {results : List ConfigResult}
    (hratio : args.tensorRatio = Flt.zero) (hcsv : args.csv = none) (hpass : ∃ res ∈ results, res.status = .PASS)
    (hall : ∀ res ∈ results, res.status = .PASS ∨ res.status = .SKIP) :
    conclude ascii args [(0, name, results)] false = .code 0 := by
  have hcount : ∀ status, status ≠ .PASS → status ≠ .SKIP → countOf status [(0, name, results)] = 0 := by
    intro status hne hne'
    refine List.countP_eq_zero.2 fun res hres => ?_
    have hmem : res ∈ results := by simpa [allResults] using hres
    rcases hall res hmem with h | h
    · simp [h, Ne.symm hne]
    · simp [h, Ne.symm hne']
  have hpassed : countOf .PASS [(0, name, results)] ≠ 0 := by
    obtain ⟨res, hres, hstatus⟩ := hpass
    have hpos : 0 < countOf .PASS [(0, name, results)] :=
      List.countP_pos_iff.2 ⟨res, by simpa [allResults] using hres, by simp [hstatus]⟩
    omega
  have hgate : args.tensorRatio.le Flt.zero = true := by
    rw [hratio]
    decide
  simp [conclude, applyTensorRatio, hgate, writeOutputs, wanted, hcsv, report, hpassed,
    hcount .FAIL (by simp) (by simp), hcount .ERROR (by simp) (by simp)]

/-- The device 1 is an AMD one, and is not run. -/
theorem sweep_amd : ∃ s, ExitsZero (sweep [0, 1] [8]) ["CMP 100-210", "AMD Radeon VII"] s ∧ s.calls = [0] := by
  obtain ⟨res, hcalled, hpass, -⟩ := called_passing 8 (.inr rfl) [0, 1]
  obtain ⟨log, s, hrun, hstruck, hpc, hdict, hcalls⟩ := run_returned hcalled
  refine ⟨s, ⟨[0], [square 8], log, 0, by decide +kernel, hrun, hstruck, ?_⟩, hcalls⟩
  rw [exitOf, hpc, hdict]
  exact congrArg some (conclude_passed rfl rfl ⟨res, by simp, hpass⟩ (by simp [hpass]))

/-- The configuration has no element, and passes. -/
theorem sweep_empty : ∃ s, ExitsZero (sweep [0] [0]) ["CMP 100-210"] s ∧
    ∃ res ∈ allResults s.perDevice, res.status = .PASS ∧ res.config = square 0 := by
  obtain ⟨res, hcalled, hpass, hconfig⟩ := called_passing 0 (.inl rfl) [0]
  obtain ⟨log, s, hrun, hstruck, hpc, hdict, -⟩ := run_returned hcalled
  refine ⟨s, ⟨[0], [square 0], log, 0, by decide +kernel, hrun, hstruck, ?_⟩, res, by simp [hdict, allResults], hpass,
    hconfig⟩
  rw [exitOf, hpc, hdict]
  exact congrArg some (conclude_passed rfl rfl ⟨res, by simp, hpass⟩ (by simp [hpass]))

/-- One of two configurations is skipped. -/
theorem sweep_skipped : ∃ s, ExitsZero (sweep [0] [8, 1024]) ["CMP 100-210"] s ∧
    ∃ res ∈ allResults s.perDevice, res.status = .SKIP := by
  obtain ⟨res, res', hcalled, hpass, hskip⟩ := called_skipping
  obtain ⟨log, s, hrun, hstruck, hpc, hdict, -⟩ := run_returned hcalled
  refine ⟨s, ⟨[0], [square 8, square 1024], log, 0, by decide +kernel, hrun, hstruck, ?_⟩, res',
    by simp [hdict, allResults], hskip⟩
  rw [exitOf, hpc, hdict]
  exact congrArg some (conclude_passed rfl rfl ⟨res, by simp, hpass⟩ (by simp [hpass, hskip]))

/-- The second run of a repeated device covers up the first one, which fails. -/
theorem sweep_repeated : ∃ s, ExitsZero (sweep [0, 0] [8]) ["CMP 100-210"] s ∧
    ∃ x ∈ s.ends, ∃ res ∈ x.2.2, res.status = .FAIL := by
  obtain ⟨res, hfailing, hfail⟩ := called_failing [0, 0]
  obtain ⟨res', hpassing, hpass, -⟩ := called_passing 8 (.inr rfl) [0, 0]
  have h₀ : Runs [0, 0] (batchSize 0 false 2) [] (initial false : State Int Out) := .initial false
  have h₁ := h₀.step (.enter rfl rfl)
  have h₂ := h₁.step (.call rfl rfl)
  have h₃ := h₂.step (@Step.finished _ _ _ _ _ _ 0 ("", [res]) false [[0]] rfl)
  have h₄ := h₃.step (.assign rfl)
  have h₅ := h₄.step (.call rfl rfl)
  have h₆ := h₅.step (@Step.finished _ _ _ _ _ _ 0 ("", [res']) false [] rfl)
  have h₇ := h₆.step (.assign rfl)
  have h₈ := h₇.step (.exhausted rfl)
  have h₉ := h₈.step (.leave rfl)
  refine ⟨_, ⟨[0, 0], [square 8], _, 0, by decide +kernel, h₉, ?_, ?_⟩, (0, "", [res]), by simp [initial], res,
    by simp, hfail⟩
  · exact (Struck.finish (s := ⟨.calling 0 [], false, [(0, "", [res])], [], [0, 0], [(0, "", [res])]⟩)
      (Struck.finish (s := { initial false with pc := .calling 0 [[0]], calls := [0] }) Struck.nil.main.main rfl
        hfailing).main.main rfl hpassing).main.main.main
  · exact congrArg some (conclude_passed rfl rfl ⟨res', by simp, hpass⟩ (by simp [hpass]))

theorem exit_zero_only_if_sweep : ∃ s : State Int Out, ∃ name results budget,
    (0, name, results) ∈ applyTensorRatio ascii (sweep [0, 1] [8]) s.perDevice ∧
      results.map (·.config) = [square 8] ∧ ∀ res ∈ results, Settled ascii (sweep [0, 1] [8]) budget res := by
  obtain ⟨s, ⟨devices, configs, log, n, hsetup, hrun, hstruck, hexit⟩, -⟩ := sweep_amd
  have hall := (exit_zero_only_if hsetup (by decide) (by decide) hrun hstruck hexit).2 0 (by decide) (by decide +kernel)
  obtain ⟨name, results, budget, -, hmem, -, hconfigs, hsettled⟩ := hall
  have hvalue : setup ascii (sweep [0, 1] [8]) true ["CMP 100-210", "AMD Radeon VII"] = .ok ([0], [square 8]) := by
    decide +kernel
  rw [hvalue] at hsetup
  cases hsetup
  exact ⟨s, name, results, budget, hmem, hconfigs, hsettled⟩

/-- A status 0 with a requested device that is not run, with a passed configuration of no element, with a skipped
configuration, and with a repeated device whose first run fails. -/
theorem exit_zero_anyway :
    (∃ s, ExitsZero (sweep [0, 1] [8]) ["CMP 100-210", "AMD Radeon VII"] s ∧ 1 ∉ s.calls) ∧
      (∃ s, ExitsZero (sweep [0] [0]) ["CMP 100-210"] s ∧
        ∃ res ∈ allResults s.perDevice, res.status = .PASS ∧ res.config = square 0) ∧
      (∃ s, ExitsZero (sweep [0] [8, 1024]) ["CMP 100-210"] s ∧ ∃ res ∈ allResults s.perDevice, res.status = .SKIP) ∧
      ∃ s, ExitsZero (sweep [0, 0] [8]) ["CMP 100-210"] s ∧ ∃ x ∈ s.ends, ∃ res ∈ x.2.2, res.status = .FAIL := by
  obtain ⟨s, hexit, hcalls⟩ := sweep_amd
  exact ⟨⟨s, hexit, by simp [hcalls]⟩, sweep_empty, sweep_skipped, sweep_repeated⟩

end CmpUnlocker.Gemm
