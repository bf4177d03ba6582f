import Mathlib.Data.Int.Notation
import CmpUnlocker.Lib.RingBuffer

/-!
# The throughput history of gpumon

`gpu_update` of `gpumon_v3_llama.c` takes the readings of one GPU and keeps its last throughput rates in two ring
buffers that share a position and a count; the reset key clears them.  What is displayed is the mean of the counted
slots, that is of the rates of the last updates (`averaged`).
-/

namespace CmpUnlocker.Gpumon

/-! ### Data -/

/-- `HIST_MAX` -/
def histMax : ℕ := 64

/-- `nvmlFieldValue_t` -/
structure FieldValue where
  success : Bool
  isUnsignedInt : Bool
  uiVal : ℕ

/-- What the calls of NVML in `gpu_update` return.  One that fails leaves the field it is given alone. -/
structure NvmlReadings where
  utilizationRates : Option (ℕ × ℕ)
  memoryInfo : Option (ℕ × ℕ)
  temperature : Option ℕ
  memoryTemp : Option FieldValue
  memoryMaxTemp : Option ℕ
  powerUsage : Option ℕ
  powerLimit : Option ℕ
  smClock : Option ℕ
  memClock : Option ℕ
  performanceState : Option ℕ
  throttleReasons : Option ℕ
  pcieGen : Option ℕ
  pcieWidth : Option ℕ
  pcieGenMax : Option ℕ
  pcieWidthMax : Option ℕ
  rxKbs : Option ℕ
  txKbs : Option ℕ

/-- `GpuStats` less the handle, the name and the bus ID. -/
structure GpuSample where
  gpuUtil : ℕ := 0
  memUtil : ℕ := 0
  memTotal : ℕ := 0
  memUsed : ℕ := 0
  temp : ℕ := 0
  memoryTemp : ℕ := 0
  memoryMaxTemp : ℕ := 0
  powerMw : ℕ := 0
  powerLimitMw : ℕ := 0
  smClock : ℕ := 0
  memClock : ℕ := 0
  pstate : ℕ := 0
  throttleReasons : ℕ := 0
  pcieGen : ℕ := 0
  pcieWidth : ℕ := 0
  pcieGenMax : ℕ := 0
  pcieWidthMax : ℕ := 0
  pcieCapacityMBps : Float := 0
  rxMBps : Float := 0
  txMBps : Float := 0
  rxPeak : Float := 0
  txPeak : Float := 0
  rxHist : List Float := List.replicate histMax 0
  txHist : List Float := List.replicate histMax 0
  histPos : ℕ := 0
  histCount : ℕ := 0

/-! ### Functions -/

/-- `pcie_lane_MBps` -/
def pcieLaneMBps : ℕ → Float
  | 1 => 250.0
  | 2 => 500.0
  | 3 => 984.615
  | 4 => 1969.231
  | 5 => 3938.462
  | 6 => 7562.5
  | _ => 0.0

def clampTarget (histTarget : ℤ) : ℕ := (min (max histTarget 1) histMax).toNat

/-- The part of `gpu_update` before the histories. -/
def takeReadings (g : GpuSample) (r : NvmlReadings) : GpuSample :=
  let memoryTemp := (r.memoryTemp.filter fun v => v.success && v.isUnsignedInt).map (·.uiVal)
  let pcieGen := r.pcieGen.getD g.pcieGen
  let pcieWidth := r.pcieWidth.getD g.pcieWidth
  let rxMBps := (r.rxKbs.map fun kbs => Float.ofNat kbs / 1024.0).getD g.rxMBps
  let txMBps := (r.txKbs.map fun kbs => Float.ofNat kbs / 1024.0).getD g.txMBps
  { g with
    gpuUtil := (r.utilizationRates.map Prod.fst).getD g.gpuUtil
    memUtil := (r.utilizationRates.map Prod.snd).getD g.memUtil
    memTotal := (r.memoryInfo.map Prod.fst).getD g.memTotal
    memUsed := (r.memoryInfo.map Prod.snd).getD g.memUsed
    temp := r.temperature.getD g.temp
    memoryTemp := memoryTemp.getD g.memoryTemp
    memoryMaxTemp := r.memoryMaxTemp.getD g.memoryMaxTemp
    powerMw := r.powerUsage.getD g.powerMw
    powerLimitMw := r.powerLimit.getD g.powerLimitMw
    smClock := r.smClock.getD g.smClock
    memClock := r.memClock.getD g.memClock
    pstate := r.performanceState.getD g.pstate
    throttleReasons := r.throttleReasons.getD g.throttleReasons
    pcieGen := pcieGen
    pcieWidth := pcieWidth
    pcieGenMax := r.pcieGenMax.getD g.pcieGenMax
    pcieWidthMax := r.pcieWidthMax.getD g.pcieWidthMax
    pcieCapacityMBps := pcieLaneMBps pcieGen * Float.ofNat pcieWidth
    rxMBps := rxMBps
    txMBps := txMBps
    rxPeak := if rxMBps > g.rxPeak then rxMBps else g.rxPeak
    txPeak := if txMBps > g.txPeak then txMBps else g.txPeak }

/-- `gpu_update` -/
def gpuUpdate (g : GpuSample) (r : NvmlReadings) (histTarget : ℤ) : GpuSample :=
  let g := takeReadings g r
  let target := clampTarget histTarget
  { g with
    rxHist := g.rxHist.set g.histPos g.rxMBps
    txHist := g.txHist.set g.histPos g.txMBps
    histPos := (g.histPos + 1) % target
    histCount := if g.histCount < target then g.histCount + 1 else g.histCount }

/-- What the key `r` does to a GPU. -/
def resetKey (g : GpuSample) : GpuSample :=
  { g with
    rxPeak := 0
    txPeak := 0
    histCount := 0
    histPos := 0
    rxHist := List.replicate histMax 0
    txHist := List.replicate histMax 0 }

/-- `avg_hist` -/
def avgHist (a : List Float) (count : ℕ) : Float :=
  if count = 0 then 0.0
  else ((List.range count).foldl (fun s i => s + a.getD i 0) 0.0) / Float.ofNat count

/-! ### Runs -/

inductive GpuEvent
  | update (r : NvmlReadings)
  | reset

/-- A step, and the rates of the updates since the last reset. -/
def record (histTarget : ℤ) : GpuSample × List (Float × Float) → GpuEvent → GpuSample × List (Float × Float)
  | (g, rates), .update r =>
    let g := gpuUpdate g r histTarget
    (g, rates ++ [(g.rxMBps, g.txMBps)])
  | (g, _), .reset => (resetKey g, [])

/-- A run from the zeroed state. -/
def recorded (histTarget : ℤ) (events : List GpuEvent) : GpuSample × List (Float × Float) :=
  events.foldl (record histTarget) ({}, [])

/-! ### The ring buffers -/

/-- A history as a ring buffer. -/
def GpuSample.ring (g : GpuSample) (hist : List Float) : RingBuffer Float := ⟨hist, g.histPos, g.histCount⟩

/-- The histories hold the rates of the updates. -/
structure Keeps (target : ℕ) (rates : List (Float × Float)) (g : GpuSample) : Prop where
  rx : (g.ring g.rxHist).Holds target (rates.map Prod.fst)
  tx : (g.ring g.txHist).Holds target (rates.map Prod.snd)

private theorem clampTarget_pos (histTarget : ℤ) : 0 < clampTarget histTarget := by
  unfold clampTarget histMax
  omega

private theorem clampTarget_le (histTarget : ℤ) : clampTarget histTarget ≤ histMax := by
  unfold clampTarget histMax
  omega

private theorem keeps_reset (histTarget : ℤ) (g : GpuSample) : Keeps (clampTarget histTarget) [] (resetKey g) := by
  have hroom : clampTarget histTarget ≤ (List.replicate histMax (0 : Float)).length := by
    rw [List.length_replicate]
    exact clampTarget_le histTarget
  exact ⟨RingBuffer.holds_nil hroom, RingBuffer.holds_nil hroom⟩

theorem Keeps.update {histTarget : ℤ} {rates : List (Float × Float)} {g : GpuSample}
    (h : Keeps (clampTarget histTarget) rates g) (r : NvmlReadings) :
    Keeps (clampTarget histTarget) (rates ++ [((gpuUpdate g r histTarget).rxMBps, (gpuUpdate g r histTarget).txMBps)])
      (gpuUpdate g r histTarget) := by
  have hpos := clampTarget_pos histTarget
  constructor
  · rw [List.map_append]
    exact h.rx.push hpos _
  · rw [List.map_append]
    exact h.tx.push hpos _

private theorem keeps_recorded (histTarget : ℤ) (events : List GpuEvent) :
    Keeps (clampTarget histTarget) (recorded histTarget events).2 (recorded histTarget events).1 := by
  have hrun :
      ∀ (events : List GpuEvent) (s : GpuSample × List (Float × Float)), Keeps (clampTarget histTarget) s.2 s.1 →
      Keeps (clampTarget histTarget) (events.foldl (record histTarget) s).2 (events.foldl (record histTarget) s).1 := by
    intro events
    induction events with
    | nil => exact fun s hs => hs
    | cons event events ih =>
      intro s hs
      apply ih
      cases event with
      | update r => exact hs.update r
      | reset => exact keeps_reset histTarget s.1
  exact hrun events ({}, []) (keeps_reset histTarget {})

/-- The recorded rates are no part of the state. -/
theorem recorded_fst (histTarget : ℤ) (events : List GpuEvent) :
    (recorded histTarget events).1 =
      events.foldl (fun g event => match event with
        | .update r => gpuUpdate g r histTarget
        | .reset => resetKey g) {} := by
  have hrun : ∀ (events : List GpuEvent) (s : GpuSample × List (Float × Float)),
      (events.foldl (record histTarget) s).1 = events.foldl (fun g event => match event with
        | .update r => gpuUpdate g r histTarget
        | .reset => resetKey g) s.1 := by
    intro events
    induction events with
    | nil => exact fun _ => rfl
    | cons event events ih =>
      intro s
      rw [List.foldl_cons, List.foldl_cons, ih]
      cases event <;> rfl
  exact hrun events ({}, [])

/-! ### The displayed averages -/

/-- The mean of samples, 0 if there are none. -/
def mean (samples : List Float) : Float :=
  if samples = [] then 0.0 else samples.foldl (· + ·) 0.0 / Float.ofNat samples.length

private theorem avgHist_eq {a : List Float} {count : ℕ} (h : count ≤ a.length) :
    avgHist a count = mean (a.take count) := by
  have hlength : (a.take count).length = count := by
    rw [List.length_take]
    omega
  have hvalues : (List.range count).map (fun i => a.getD i 0) = a.take count := by
    apply List.ext_getElem?
    intro i
    by_cases hi : i < count
    · have ha : i < a.length := by omega
      simp [hi, ha, List.getD_eq_getElem?_getD]
    · have hout : ((List.range count).map fun i => a.getD i 0).length ≤ i := by
        rw [List.length_map, List.length_range]
        omega
      rw [List.getElem?_eq_none hout, List.getElem?_eq_none (by omega)]
  unfold avgHist mean
  by_cases hzero : count = 0
  · have hnil : a.take count = [] := by simp [hzero]
    rw [if_pos hzero, if_pos hnil]
  · have hne : a.take count ≠ [] := by
      intro hnil
      rw [hnil] at hlength
      exact hzero hlength.symm
    rw [if_neg hzero, if_neg hne, hlength, ← hvalues, List.foldl_map]

/-- In every run the position is in range, the count is that of the updates since the last reset up to the target, and
the counted slots of either history are the rates of as many last updates, so that their mean is displayed. -/
theorem averaged (histTarget : ℤ) (events : List GpuEvent) :
    let target := clampTarget histTarget
    let (g, rates) := recorded histTarget events
    let last := rates.drop (rates.length - g.histCount)
    g.histPos < target ∧ g.histCount = min rates.length target ∧
      (g.rxHist.take g.histCount).Perm (last.map Prod.fst) ∧ (g.txHist.take g.histCount).Perm (last.map Prod.snd) ∧
      avgHist g.rxHist g.histCount = mean (g.rxHist.take g.histCount) ∧
      avgHist g.txHist g.histCount = mean (g.txHist.take g.histCount) := by
  have h := keeps_recorded histTarget events
  have hpos := h.rx.pos_lt (clampTarget_pos histTarget)
  have hcount := h.rx.count
  rw [List.length_map] at hcount
  have hrx := h.rx.perm
  have htx := h.tx.perm
  rw [List.length_map, ← List.map_drop] at hrx htx
  have hrxRoom := h.rx.room
  have htxRoom := h.tx.room
  have hcountRx : (recorded histTarget events).1.histCount ≤ (recorded histTarget events).1.rxHist.length := by
    simp only [GpuSample.ring] at hcount hrxRoom
    omega
  have hcountTx : (recorded histTarget events).1.histCount ≤ (recorded histTarget events).1.txHist.length := by
    simp only [GpuSample.ring] at hcount htxRoom
    omega
  exact ⟨hpos, hcount, hrx, htx, avgHist_eq hcountRx, avgHist_eq hcountTx⟩

end CmpUnlocker.Gpumon
