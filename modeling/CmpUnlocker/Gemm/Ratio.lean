import CmpUnlocker.Gemm.Checks
import CmpUnlocker.Gemm.Main
import Mathlib.Algebra.Order.Field.Rat

/-!
# The ratio gate

`apply_tensor_ratio` collects the FP32 medians of a device in one pass and applies them to its FP16 results in another.
Where the medians and the division are exact, an FP16 result that still passes has a passing FP32 result of its shape
on its own device that it beats by the ratio (`applyTensorRatio_gate`); nothing but a passing FP16 result changes, and
in it nothing but the status and the reason.
-/

namespace CmpUnlocker.Gemm

open Ieee

variable {py : Py} {args : Args} {results : List ConfigResult} {res : ConfigResult}
  {bases : List ((Int × Int × Int × Layout) × Flt)}

/-- The division of two exact medians is the one of the rational numbers. -/
def Py.Exact (py : Py) : Prop := ∀ a b : ℚ, b ≠ 0 → py.quotient (.of a) (.of b) = .of (a / b)

/-- The gate turns a passing FP16 result into a failing one, with a reason of its own, or leaves a result as it is. -/
def Gated (before after : ConfigResult) : Prop :=
  after = before ∨
    (before.config.dtype = .fp16 ∧ before.status = .PASS ∧ after.status = .FAIL ∧
      after = { before with status := after.status, reason := after.reason })

private theorem gated_rated (bases : List ((Int × Int × Int × Layout) × Flt)) (res : ConfigResult) :
    Gated res (rated py args bases res) := by
  unfold rated Gated
  by_cases hskip : res.config.dtype ≠ .fp16 ∨ res.status ≠ .PASS
  · rw [if_pos hskip]
    exact .inl rfl
  · rw [if_neg hskip]
    have hfp16 : res.config.dtype = .fp16 := by tauto
    have hpass : res.status = .PASS := by tauto
    split
    · exact .inr ⟨hfp16, hpass, rfl, rfl⟩
    · split
      · exact .inr ⟨hfp16, hpass, rfl, rfl⟩
      · dsimp only
        split
        · exact .inr ⟨hfp16, hpass, rfl, rfl⟩
        · exact .inl rfl

/-- A baseline is the positive median of a passing FP32 result of the device. -/
theorem mem_baselines {base : (Int × Int × Int × Layout) × Flt} :
    base ∈ baselines results ↔ ∃ res ∈ results, res.config.dtype = .fp32 ∧ res.status = .PASS ∧
      Flt.zero.lt res.medianTflops = true ∧ base = (shapeOf res.config, res.medianTflops) := by
  simp only [baselines, List.mem_map, List.mem_reverse, List.mem_filter, decide_eq_true_eq]
  constructor
  · rintro ⟨res, ⟨hmem, hfp32, hpass, hpositive⟩, rfl⟩
    exact ⟨res, hmem, hfp32, hpass, hpositive, rfl⟩
  · rintro ⟨res, hmem, hfp32, hpass, hpositive, rfl⟩
    exact ⟨res, ⟨hmem, hfp32, hpass, hpositive⟩, rfl⟩

/-- What has made an FP16 result pass the gate. -/
theorem rated_pass (hfp16 : (rated py args bases res).config.dtype = .fp16)
    (hpass : (rated py args bases res).status = .PASS) :
    rated py args bases res = res ∧ ∃ base ∈ bases, base.1 = shapeOf res.config ∧ base.2.le Flt.zero = false ∧
      (py.quotient res.medianTflops base.2).lt args.tensorRatio = false := by
  have hsame : rated py args bases res = res := by
    have hgated : Gated res (rated py args bases res) := gated_rated bases res
    rcases hgated with hsame | ⟨-, -, hfail, -⟩
    · exact hsame
    · rw [hfail] at hpass
      cases hpass
  rw [hsame] at hfp16 hpass
  refine ⟨hsame, ?_⟩
  unfold rated at hsame
  rw [if_neg (by simp [hfp16, hpass])] at hsame
  cases hfound : bases.find? fun base => base.1 = shapeOf res.config with
  | none =>
    simp only [hfound, Option.map_none] at hsame
    have hfail := congrArg ConfigResult.status hsame
    rw [hpass] at hfail
    cases hfail
  | some base =>
    have hmem : base ∈ bases := List.mem_of_find?_eq_some hfound
    have hshape : base.1 = shapeOf res.config := by simpa using List.find?_some hfound
    simp only [hfound, Option.map_some] at hsame
    refine ⟨base, hmem, hshape, ?_⟩
    -- either comparison, had it gone the other way, would have failed the result
    by_cases hzero : base.2.le Flt.zero = true
    · rw [if_pos hzero] at hsame
      have hfail := congrArg ConfigResult.status hsame
      rw [hpass] at hfail
      cases hfail
    · by_cases hratio : (py.quotient res.medianTflops base.2).lt args.tensorRatio = true
      · rw [if_neg hzero, if_pos hratio] at hsame
        have hfail := congrArg ConfigResult.status hsame
        rw [hpass] at hfail
        cases hfail
      · exact ⟨by simpa using hzero, by simpa using hratio⟩

/-- With exact medians and an exact division, the FP16 results that pass the gate beat a baseline by the ratio. -/
theorem rated_beats {R : ℚ} (hpy : py.Exact) (hR : args.tensorRatio = .of R)
    (hmedians : ∀ res ∈ results, ∃ q : ℚ, res.medianTflops = .of q) (hmem : res ∈ results)
    (hfp16 : (rated py args (baselines results) res).config.dtype = .fp16)
    (hpass : (rated py args (baselines results) res).status = .PASS) :
    ∃ base ∈ results, ∃ a b : ℚ, base.config.dtype = .fp32 ∧ base.status = .PASS ∧
      shapeOf base.config = shapeOf res.config ∧ base.medianTflops = .of b ∧ res.medianTflops = .of a ∧ 0 < b ∧
      b * R ≤ a := by
  obtain ⟨-, entry, hentry, hshape, -, hratio⟩ := rated_pass hfp16 hpass
  obtain ⟨base, hbase, hfp32, hbasepass, hpositive, rfl⟩ := mem_baselines.1 hentry
  obtain ⟨a, ha⟩ := hmedians res hmem
  obtain ⟨b, hb⟩ := hmedians base hbase
  have hlt : 0 < b := by simpa [hb, Flt.zero] using hpositive
  have hquotient : R ≤ a / b := by
    simp only [ha, hb, hR] at hratio
    rw [hpy a b hlt.ne'] at hratio
    simpa using hratio
  have hbeats : b * R ≤ a := by
    rwa [le_div_iff₀ hlt, mul_comm] at hquotient
  exact ⟨base, hbase, a, b, hfp32, hbasepass, hshape, hb, ha, hlt, hbeats⟩

theorem applyTensorRatio_gate {py : Py} {args : Args} {R : ℚ} {perDevice : PerDevice} (hpy : py.Exact)
    (hR : args.tensorRatio = .of R) (hpositive : 0 < R)
    (hmedians : ∀ res ∈ allResults perDevice, ∃ q : ℚ, res.medianTflops = .of q) :
    (∀ e ∈ applyTensorRatio py args perDevice, ∀ res ∈ e.2.2, res.config.dtype = .fp16 → res.status = .PASS →
      ∃ base ∈ e.2.2, ∃ a b : ℚ, base.config.dtype = .fp32 ∧ base.status = .PASS ∧ base.config.m = res.config.m ∧
        base.config.n = res.config.n ∧ base.config.k = res.config.k ∧ base.config.layout = res.config.layout ∧
        base.medianTflops = .of b ∧ res.medianTflops = .of a ∧ 0 < b ∧ b * R ≤ a) ∧
    List.Forall₂ (fun before after => after.1 = before.1 ∧ after.2.1 = before.2.1 ∧
      List.Forall₂ Gated before.2.2 after.2.2) perDevice (applyTensorRatio py args perDevice) := by
  have hrated : applyTensorRatio py args perDevice =
      perDevice.map fun e => (e.1, e.2.1, e.2.2.map (rated py args (baselines e.2.2))) := by
    unfold applyTensorRatio
    rw [if_neg (by simpa [hR, Flt.zero] using hpositive)]
  rw [hrated]
  constructor
  · intro e' he' res' hres' hfp16 hpass
    obtain ⟨e, he, rfl⟩ := List.mem_map.1 he'
    obtain ⟨res, hres, rfl⟩ := List.mem_map.1 hres'
    have hexact : ∀ res ∈ e.2.2, ∃ q : ℚ, res.medianTflops = .of q :=
      fun res hres => hmedians res (List.mem_flatMap.2 ⟨e, he, hres⟩)
    obtain ⟨base, hbase, a, b, hfp32, hbasepass, hshape, hb, ha, hlt, hbeats⟩ :=
      rated_beats hpy hR hexact hres hfp16 hpass
    have hsame : rated py args (baselines e.2.2) res = res := (rated_pass hfp16 hpass).1
    -- the gate leaves the baseline alone, which is no FP16 result
    have hkept : rated py args (baselines e.2.2) base = base := by simp [rated, hfp32]
    rw [hsame]
    simp only [shapeOf, Prod.mk.injEq] at hshape
    obtain ⟨hm, hn, hk, hlayout⟩ := hshape
    exact ⟨base, List.mem_map.2 ⟨base, hbase, hkept⟩, a, b, hfp32, hbasepass, hm, hn, hk, hlayout, hb, ha, hlt, hbeats⟩
  · rw [List.forall₂_map_right_iff]
    refine List.forall₂_same.2 fun e he => ⟨rfl, rfl, ?_⟩
    rw [List.forall₂_map_right_iff]
    exact List.forall₂_same.2 fun res hres => gated_rated (baselines e.2.2) res

/-- Python's arithmetic, with the division of the rational numbers. -/
def exact : Py where
  __ := plain
  quotient
    | .num (some (some a)), .num (some (some b)) => .of (a / b)
    | _, _ => .nan

/-- A passing result of this dtype and size with this median. -/
def passing (dtype : Dtype) (size : Int) (median : ℚ) : ConfigResult where
  config := ⟨size, size, size, dtype, .nn⟩
  status := .PASS
  medianTflops := .of median

/-- One device: an FP16 result before its baseline, one that is too slow, and one without a baseline. -/
def mixed : PerDevice :=
  [(0, "CMP 100-210", [passing .fp16 64 90, passing .fp32 64 30, passing .fp16 32 50, passing .fp32 32 20,
    passing .fp16 16 70])]

theorem mixed_gate :
    (∀ e ∈ applyTensorRatio exact { checking (.of 1) 1 with tensorRatio := .of 3 } mixed,
      ∀ res ∈ e.2.2, res.config.dtype = .fp16 → res.status = .PASS →
      ∃ base ∈ e.2.2, ∃ a b : ℚ, base.config.dtype = .fp32 ∧ base.status = .PASS ∧ base.config.m = res.config.m ∧
        base.config.n = res.config.n ∧ base.config.k = res.config.k ∧ base.config.layout = res.config.layout ∧
        base.medianTflops = .of b ∧ res.medianTflops = .of a ∧ 0 < b ∧ b * 3 ≤ a) ∧
    List.Forall₂ (fun before after => after.1 = before.1 ∧ after.2.1 = before.2.1 ∧
      List.Forall₂ Gated before.2.2 after.2.2) mixed
      (applyTensorRatio exact { checking (.of 1) 1 with tensorRatio := .of 3 } mixed) := by
  have hmedians : ∀ res ∈ allResults mixed, ∃ q : ℚ, res.medianTflops = .of q := by
    simp [allResults, mixed, passing]
  exact applyTensorRatio_gate (fun a b _ => rfl) rfl (by decide) hmedians

example : (allResults (applyTensorRatio exact { checking (.of 1) 1 with tensorRatio := .of 3 } mixed)).map
    ConfigResult.status = [.PASS, .PASS, .FAIL, .PASS, .FAIL] := by decide +kernel

end CmpUnlocker.Gemm
