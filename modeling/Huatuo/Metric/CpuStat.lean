import Huatuo.Cgroups.Cpu
import Huatuo.Lib.FixedPoint
import Huatuo.Lib.Go
import Huatuo.Lib.Machine
import Huatuo.Metric.Data

/-! The CPU wait-rate collector (core/metrics/cpu_stat.go). For each normal or sidecar
container, at most once a second, `cpuMetricUpdate` reads the cgroup's cpu.stat and usage and
splits the growth of its hierarchy wait time into time throttled, time waiting behind its own
tasks (inner) and the rest (exter), each as a percentage of the wait and run time of the
interval.

With every counter growing and kept below 2^62, in nanoseconds for the usage, no subtraction or
addition wraps; the three parts add up to the hierarchy wait, which is at most the wait and run
time, so before rounding the parts of the rate add up to it and each is a percentage. The usage
is read in microseconds and multiplied by 1000 in 64 bits: a usage below 2^62 microseconds can
pass 2^64 nanoseconds, and then the wait and run time wraps below the wait. -/
namespace Huatuo.Metric

open Huatuo.Cgroups Huatuo.Pod Lib.FixedPoint Lib.Go

/-- `cpuStat`: the counters of the last reading, its time, and the rates then computed. -/
structure CpuStat where
  nrThrottled : UInt64
  throttledTime : UInt64
  nrBursts : UInt64
  burstTime : UInt64
  hierarchyWaitSum : UInt64
  innerWaitSum : UInt64
  cpuTotal : UInt64
  waitrateHierarchy : ℚ
  waitrateInner : ℚ
  waitrateExter : ℚ
  waitrateThrottled : ℚ
  lastUpdate : Int
deriving DecidableEq, Repr

def CpuStat.zero : CpuStat :=
  ⟨0, 0, 0, 0, 0, 0, 0, 0, 0, 0, 0, timeZero⟩

/-- The stat `cpuMetricUpdate` makes of a reading, before its rates. -/
def CpuStat.ofReading (raw : List (String × UInt64)) (usage : CpuUsage) (now : Int) : CpuStat :=
  { nrThrottled := rawGet raw "nr_throttled"
    throttledTime := rawGet raw "throttled_time"
    hierarchyWaitSum := rawGet raw "hierarchy_wait_sum"
    innerWaitSum := rawGet raw "inner_wait_sum"
    nrBursts := rawGet raw "nr_bursts"
    burstTime := rawGet raw "burst_time"
    cpuTotal := usage.usage * 1000
    waitrateHierarchy := 0
    waitrateInner := 0
    waitrateExter := 0
    waitrateThrottled := 0
    lastUpdate := now }

/-- The deltas of `cpuMetricUpdate`, throttled, hierarchy, inner and exter, from the last stat
`cpu` to the new one. -/
def waitDeltas (cpu stat : CpuStat) : UInt64 × UInt64 × UInt64 × UInt64 :=
  let deltaHierarchyWaitSum := stat.hierarchyWaitSum - cpu.hierarchyWaitSum
  if deltaHierarchyWaitSum ≤ 0 then (0, 0, 0, 0)
  else
    let deltaThrottledSum := stat.throttledTime - cpu.throttledTime
    let deltaInnerWaitSum := stat.innerWaitSum - cpu.innerWaitSum
    let deltaHierarchyWaitSum :=
      if deltaHierarchyWaitSum < deltaThrottledSum + deltaInnerWaitSum then
        deltaThrottledSum + deltaInnerWaitSum
      else deltaHierarchyWaitSum
    (deltaThrottledSum, deltaHierarchyWaitSum, deltaInnerWaitSum,
      deltaHierarchyWaitSum - deltaThrottledSum - deltaInnerWaitSum)

/-- `float64(delta) * 100 / float64(deltaWaitRunSum)`. -/
def waitRate (r : Rounding) (delta deltaWaitRunSum : UInt64) : ℚ :=
  r.rnd (r.rnd (r.rnd delta.toNat * 100) / r.rnd deltaWaitRunSum.toNat)

/-- `cpuStatCollector.cpuMetricUpdate` at the time `now` with what `CpuStatRaw` and `CpuUsage`
returned: the stat after it, or `none` for the error it returns, the stat left as it was. -/
def CpuStatCollector.cpuMetricUpdate (r : Rounding) (cpu : CpuStat) (now : Int)
    (raw : Option (List (String × UInt64))) (usage : Option CpuUsage) : Option CpuStat :=
  if timeSub now cpu.lastUpdate < 1000000000 then some cpu
  else
    match raw, usage with
    | none, _ => none
    | some _, none => none
    | some raw, some usage =>
      let stat := CpuStat.ofReading raw usage now
      let (deltaThrottledSum, deltaHierarchyWaitSum, deltaInnerWaitSum, deltaExterWaitSum) :=
        waitDeltas cpu stat
      let deltaWaitRunSum := deltaHierarchyWaitSum + stat.cpuTotal - cpu.cpuTotal
      if deltaWaitRunSum = 0 then some stat
      else
        some { stat with
          waitrateHierarchy := waitRate r deltaHierarchyWaitSum deltaWaitRunSum
          waitrateInner := waitRate r deltaInnerWaitSum deltaWaitRunSum
          waitrateExter := waitRate r deltaExterWaitSum deltaWaitRunSum
          waitrateThrottled := waitRate r deltaThrottledSum deltaWaitRunSum }

/-- The gauges of one container, as `Update` appends them. -/
def cpuStatData (defaultRegion defaultHostname : String) (r : Rounding) (container : Container)
    (m : CpuStat) : List Data :=
  let gauge := newContainerGaugeData defaultRegion defaultHostname container
  [gauge "wait_rate" m.waitrateHierarchy "wait rate for containers" ⟨[], List.nodup_nil⟩,
    gauge "inner_wait_rate" m.waitrateInner "inner wait rate for container" ⟨[], List.nodup_nil⟩,
    gauge "exter_wait_rate" m.waitrateExter "exter wait rate for container" ⟨[], List.nodup_nil⟩,
    gauge "throttle_wait_rate" m.waitrateThrottled "throttle wait rate for container"
      ⟨[], List.nodup_nil⟩,
    gauge "nr_throttled" (r.rnd m.nrThrottled.toNat) "throttle nr for container" ⟨[], List.nodup_nil⟩,
    gauge "nr_bursts" (r.rnd m.nrBursts.toNat) "burst nr for container" ⟨[], List.nodup_nil⟩,
    gauge "burst_time" (r.rnd m.burstTime.toNat) "burst time for container" ⟨[], List.nodup_nil⟩]

/-- What `Update` reads for a container: the clock, then its cpu.stat and usage. -/
structure CpuStatReading where
  now : Int
  raw : Option (List (String × UInt64))
  usage : Option CpuUsage

/-- `cpuStatCollector.Update`, with what `GetContainersByType` returned: the `collector_cpu_stat`
resources of the containers, by ID, after it, and the gauges, or `none` for the error. -/
def CpuStatCollector.update (defaultRegion defaultHostname : String) (r : Rounding)
    (lifeResources : String → CpuStat) (containers : Option (List Container))
    (readings : Container → CpuStatReading) : (String → CpuStat) × Option (List Data) :=
  match containers with
  | none => (lifeResources, none)
  | some containers =>
    let (lifeResources, metrics) := containers.foldl (fun (acc : (String → CpuStat) × List Data) container =>
      let reading := readings container
      match CpuStatCollector.cpuMetricUpdate r (acc.1 container.id) reading.now reading.raw reading.usage with
      | none => acc
      | some m => (Function.update acc.1 container.id m,
          acc.2 ++ cpuStatData defaultRegion defaultHostname r container m)) (lifeResources, [])
    (lifeResources, some metrics)

/-! ## The deltas without wrapping -/

/-- No subtraction or addition of `waitDeltas` wraps: each subtrahend is at most its minuend and
the sum of the throttled and inner deltas is below 2^64. -/
def DeltasNoWrap (cpu stat : CpuStat) : Prop :=
  let deltaHierarchyWaitSum := stat.hierarchyWaitSum - cpu.hierarchyWaitSum
  let deltaThrottledSum := stat.throttledTime - cpu.throttledTime
  let deltaInnerWaitSum := stat.innerWaitSum - cpu.innerWaitSum
  let clamped := (waitDeltas cpu stat).2.1
  cpu.hierarchyWaitSum ≤ stat.hierarchyWaitSum ∧
    (deltaHierarchyWaitSum ≠ 0 →
      cpu.throttledTime ≤ stat.throttledTime ∧ cpu.innerWaitSum ≤ stat.innerWaitSum ∧
      deltaThrottledSum.toNat + deltaInnerWaitSum.toNat < 2 ^ 64 ∧
      deltaThrottledSum ≤ clamped ∧ deltaInnerWaitSum ≤ clamped - deltaThrottledSum)

/-- Nor does the wait and run time: the clamped hierarchy delta plus the new usage, less the
old usage. -/
def NoWrap (cpu stat : CpuStat) : Prop :=
  let deltaHierarchyWaitSum := (waitDeltas cpu stat).2.1
  DeltasNoWrap cpu stat ∧ deltaHierarchyWaitSum.toNat + stat.cpuTotal.toNat < 2 ^ 64 ∧
    cpu.cpuTotal ≤ deltaHierarchyWaitSum + stat.cpuTotal

section Deltas

variable {cpu stat : CpuStat}

theorem clamp_sub_sub {d b c : UInt64} (hbc : b.toNat + c.toNat < 2 ^ 64) :
    let a := if d < b + c then b + c else d
    b ≤ a ∧ c ≤ a - b ∧ a.toNat = b.toNat + c.toNat + (a - b - c).toNat ∧
      a.toNat = max d.toNat (b.toNat + c.toNat) := by
  intro a
  have hs := toNat_add_of_lt hbc
  have ha : a.toNat = max d.toNat (b.toNat + c.toNat) := by
    by_cases h : d < b + c
    · rw [UInt64.lt_iff_toNat_lt, hs] at h
      simp only [a, if_pos (UInt64.lt_iff_toNat_lt.2 (hs ▸ h)), hs]
      omega
    · rw [UInt64.lt_iff_toNat_lt, hs] at h
      simp only [a, if_neg (fun h' => h (hs ▸ UInt64.lt_iff_toNat_lt.1 h'))]
      omega
  have hb : b ≤ a := UInt64.le_iff_toNat_le.2 (by omega)
  have hab := UInt64.toNat_sub_of_le _ _ hb
  have hc : c ≤ a - b := UInt64.le_iff_toNat_le.2 (by omega)
  have habc := UInt64.toNat_sub_of_le _ _ hc
  exact ⟨hb, hc, by omega, ha⟩

theorem waitDeltas_spec (hh : cpu.hierarchyWaitSum ≤ stat.hierarchyWaitSum)
    (ht : cpu.throttledTime ≤ stat.throttledTime) (hi : cpu.innerWaitSum ≤ stat.innerWaitSum)
    (hth : stat.throttledTime.toNat < 2 ^ 62) (hin : stat.innerWaitSum.toNat < 2 ^ 62)
    (hhi : stat.hierarchyWaitSum.toNat < 2 ^ 62) :
    DeltasNoWrap cpu stat ∧
      (waitDeltas cpu stat).2.1.toNat = (waitDeltas cpu stat).1.toNat +
        (waitDeltas cpu stat).2.2.1.toNat + (waitDeltas cpu stat).2.2.2.toNat ∧
      (waitDeltas cpu stat).2.1.toNat < 2 ^ 63 := by
  have hH := UInt64.toNat_sub_of_le _ _ hh
  have hT := UInt64.toNat_sub_of_le _ _ ht
  have hI := UInt64.toNat_sub_of_le _ _ hi
  unfold DeltasNoWrap waitDeltas
  by_cases h0 : stat.hierarchyWaitSum - cpu.hierarchyWaitSum ≤ 0
  · -- no hierarchy wait: every delta is 0
    have hz : stat.hierarchyWaitSum - cpu.hierarchyWaitSum = 0 := by
      rw [UInt64.le_iff_toNat_le] at h0
      exact UInt64.toNat_inj.1 (by simpa using h0)
    simp [hh, hz]
  · obtain ⟨hb, hc, hsum, hmax⟩ := clamp_sub_sub (d := stat.hierarchyWaitSum - cpu.hierarchyWaitSum)
      (show (stat.throttledTime - cpu.throttledTime).toNat +
        (stat.innerWaitSum - cpu.innerWaitSum).toNat < 2 ^ 64 by omega)
    simp only [if_neg h0]
    exact ⟨⟨hh, fun _ => ⟨ht, hi, by omega, hb, hc⟩⟩, hsum, by omega⟩

end Deltas

/-! ## The rates -/

/-- The four rates of a stat: hierarchy, inner, exter and throttled. -/
def CpuStat.rates (m : CpuStat) : List ℚ :=
  [m.waitrateHierarchy, m.waitrateInner, m.waitrateExter, m.waitrateThrottled]

/-- The rates of a stat are a split of its hierarchy rate: the inner, exter and throttled
parts add up to it, and each rate is a percentage. -/
def CpuStat.RatesSplit (m : CpuStat) : Prop :=
  m.waitrateInner + m.waitrateExter + m.waitrateThrottled = m.waitrateHierarchy ∧
    ∀ x ∈ m.rates, 0 ≤ x ∧ x ≤ 100

@[simp] theorem waitRate_exact (delta deltaWaitRunSum : UInt64) :
    waitRate .exact delta deltaWaitRunSum = delta.toNat * 100 / deltaWaitRunSum.toNat := by
  simp [waitRate]

theorem waitRate_exact_mem {delta deltaWaitRunSum : UInt64} (h : delta ≤ deltaWaitRunSum) :
    0 ≤ waitRate .exact delta deltaWaitRunSum ∧ waitRate .exact delta deltaWaitRunSum ≤ 100 := by
  rw [waitRate_exact]
  refine ⟨by positivity, ?_⟩
  rcases Nat.eq_zero_or_pos deltaWaitRunSum.toNat with hw | hw
  · simp [hw]
  · have hle : (delta.toNat : ℚ) ≤ deltaWaitRunSum.toNat := by
      exact_mod_cast UInt64.le_iff_toNat_le.1 h
    rw [div_le_iff₀ (by exact_mod_cast hw)]
    linarith

theorem waitRate_exact_add {dT dH dI dE w : UInt64}
    (h : dH.toNat = dT.toNat + dI.toNat + dE.toNat) :
    waitRate .exact dI w + waitRate .exact dE w + waitRate .exact dT w = waitRate .exact dH w := by
  simp only [waitRate_exact, h, Nat.cast_add]
  ring

theorem cpuMetricUpdate_of_le (r : Rounding) (cpu : CpuStat) {now : Int}
    (raw : List (String × UInt64)) (usage : CpuUsage) (hnow : 1000000000 ≤ timeSub now cpu.lastUpdate)
    {dT dH dI dE : UInt64} (hd : waitDeltas cpu (CpuStat.ofReading raw usage now) = (dT, dH, dI, dE)) :
    CpuStatCollector.cpuMetricUpdate r cpu now (some raw) (some usage) =
      let stat := CpuStat.ofReading raw usage now
      let deltaWaitRunSum := dH + stat.cpuTotal - cpu.cpuTotal
      some (if deltaWaitRunSum = 0 then stat
        else { stat with
          waitrateHierarchy := waitRate r dH deltaWaitRunSum
          waitrateInner := waitRate r dI deltaWaitRunSum
          waitrateExter := waitRate r dE deltaWaitRunSum
          waitrateThrottled := waitRate r dT deltaWaitRunSum }) := by
  unfold CpuStatCollector.cpuMetricUpdate
  rw [if_neg (not_lt.2 hnow)]
  simp only [hd]
  split_ifs <;> rfl

theorem le_deltaWaitRunSum {dT dH dI dE w : UInt64} (h : dH.toNat = dT.toNat + dI.toNat + dE.toNat)
    (hw : dH ≤ w) : ∀ d ∈ [dH, dI, dE, dT], d ≤ w := by
  rw [UInt64.le_iff_toNat_le] at hw
  simp only [List.mem_cons, List.not_mem_nil, or_false]
  rintro d (rfl | rfl | rfl | rfl) <;> exact UInt64.le_iff_toNat_le.2 (by omega)

/-- The reading's counters have grown from the stat's and stay below 2^62, the usage counted in
nanoseconds as `cpuTotal` keeps it. -/
structure CountersGrow (cpu : CpuStat) (raw : List (String × UInt64)) (usage : CpuUsage) : Prop where
  hierarchy : cpu.hierarchyWaitSum ≤ rawGet raw "hierarchy_wait_sum"
  inner : cpu.innerWaitSum ≤ rawGet raw "inner_wait_sum"
  throttled : cpu.throttledTime ≤ rawGet raw "throttled_time"
  total : cpu.cpuTotal.toNat ≤ usage.usage.toNat * 1000
  hierarchy_lt : (rawGet raw "hierarchy_wait_sum").toNat < 2 ^ 62
  inner_lt : (rawGet raw "inner_wait_sum").toNat < 2 ^ 62
  throttled_lt : (rawGet raw "throttled_time").toNat < 2 ^ 62
  total_lt : usage.usage.toNat * 1000 < 2 ^ 62

section Grow

variable {cpu : CpuStat} {raw : List (String × UInt64)} {usage : CpuUsage}

theorem CountersGrow.waitRunSum (h : CountersGrow cpu raw usage) (now : Int) :
    let stat : CpuStat := CpuStat.ofReading raw usage now
    let deltas : UInt64 × UInt64 × UInt64 × UInt64 := waitDeltas cpu stat
    NoWrap cpu stat ∧
      deltas.2.1.toNat = deltas.1.toNat + deltas.2.2.1.toNat + deltas.2.2.2.toNat ∧
      deltas.2.1 ≤ deltas.2.1 + stat.cpuTotal - cpu.cpuTotal := by
  intro stat deltas
  have hd : waitDeltas cpu stat = (deltas.1, deltas.2.1, deltas.2.2.1, deltas.2.2.2) := rfl
  have hcpu : stat.cpuTotal.toNat = usage.usage.toNat * 1000 :=
    toNat_mul_of_lt (by have := h.total_lt; simp; omega)
  obtain ⟨hdn, hsum, hlt⟩ := @waitDeltas_spec cpu stat h.hierarchy h.throttled h.inner
    h.throttled_lt h.inner_lt h.hierarchy_lt
  simp only [hd] at hsum hlt
  have hfit : deltas.2.1.toNat + stat.cpuTotal.toNat < 2 ^ 64 := by
    have := h.total_lt
    omega
  have hadd := toNat_add_of_lt hfit
  have hle : cpu.cpuTotal ≤ deltas.2.1 + stat.cpuTotal := by
    have := h.total
    exact UInt64.le_iff_toNat_le.2 (by omega)
  have hW := UInt64.toNat_sub_of_le _ _ hle
  rw [hadd] at hW
  refine ⟨⟨hdn, hfit, hle⟩, hsum, UInt64.le_iff_toNat_le.2 ?_⟩
  have := h.total
  omega

/-- On grown counters the update, before rounding, keeps the stat when a second has not passed,
and else splits the hierarchy rate, all 0 when the wait and run time is. -/
theorem CountersGrow.cpuMetricUpdate (h : CountersGrow cpu raw usage) (now : Int) :
    let stat : CpuStat := CpuStat.ofReading raw usage now
    let deltas : UInt64 × UInt64 × UInt64 × UInt64 := waitDeltas cpu stat
    ∃ m, CpuStatCollector.cpuMetricUpdate .exact cpu now (some raw) (some usage) = some m ∧
      (timeSub now cpu.lastUpdate < 1000000000 ∧ m = cpu ∨
        m.RatesSplit ∧ (deltas.2.1 + stat.cpuTotal - cpu.cpuTotal = 0 → ∀ x ∈ m.rates, x = 0)) := by
  intro stat deltas
  obtain ⟨-, hsum, hHW⟩ := h.waitRunSum now
  by_cases hnow : timeSub now cpu.lastUpdate < 1000000000
  · refine ⟨cpu, ?_, Or.inl ⟨hnow, rfl⟩⟩
    unfold CpuStatCollector.cpuMetricUpdate
    rw [if_pos hnow]
  · rw [cpuMetricUpdate_of_le .exact cpu raw usage (not_lt.1 hnow)
      (rfl : waitDeltas cpu stat = (deltas.1, deltas.2.1, deltas.2.2.1, deltas.2.2.2))]
    refine ⟨_, rfl, Or.inr ?_⟩
    split_ifs with hz
    · -- no wait and no run: the stat keeps the rates 0 it was made with
      simp [CpuStat.RatesSplit, CpuStat.rates, CpuStat.ofReading]
    · refine ⟨⟨waitRate_exact_add hsum, ?_⟩, fun h => absurd h hz⟩
      have hmem := le_deltaWaitRunSum hsum hHW
      simp only [CpuStat.rates, List.forall_mem_cons, List.not_mem_nil, IsEmpty.forall_iff,
        implies_true, and_true] at hmem ⊢
      exact ⟨waitRate_exact_mem hmem.1, waitRate_exact_mem hmem.2.1, waitRate_exact_mem hmem.2.2.1,
        waitRate_exact_mem hmem.2.2.2⟩

end Grow

/-- With every counter of the new reading at least the last one's and below 2^62, the usage in
nanoseconds included, no subtraction or addition wraps, and the hierarchy delta is the sum of the
other three and at most the wait and run time; so, unless a second has not passed, the update
before rounding splits the hierarchy rate, all 0 when the wait and run time is. -/
theorem cpuMetricUpdate_wait_rates (cpu : CpuStat) (now : Int) (raw : List (String × UInt64))
    (usage : CpuUsage)
    (hh : cpu.hierarchyWaitSum ≤ rawGet raw "hierarchy_wait_sum")
    (hi : cpu.innerWaitSum ≤ rawGet raw "inner_wait_sum")
    (ht : cpu.throttledTime ≤ rawGet raw "throttled_time")
    (hc : cpu.cpuTotal.toNat ≤ usage.usage.toNat * 1000)
    (hhb : (rawGet raw "hierarchy_wait_sum").toNat < 2 ^ 62)
    (hib : (rawGet raw "inner_wait_sum").toNat < 2 ^ 62)
    (htb : (rawGet raw "throttled_time").toNat < 2 ^ 62)
    (hcb : usage.usage.toNat * 1000 < 2 ^ 62) :
    let stat : CpuStat := CpuStat.ofReading raw usage now
    let deltas : UInt64 × UInt64 × UInt64 × UInt64 := waitDeltas cpu stat
    let deltaWaitRunSum : UInt64 := deltas.2.1 + stat.cpuTotal - cpu.cpuTotal
    NoWrap cpu stat ∧
      deltas.2.1.toNat = deltas.1.toNat + deltas.2.2.1.toNat + deltas.2.2.2.toNat ∧
      deltas.2.1 ≤ deltaWaitRunSum ∧
      ∃ m, CpuStatCollector.cpuMetricUpdate .exact cpu now (some raw) (some usage) = some m ∧
        (timeSub now cpu.lastUpdate < 1000000000 ∧ m = cpu ∨
          m.RatesSplit ∧ (deltaWaitRunSum = 0 → ∀ x ∈ m.rates, x = 0)) := by
  have h : CountersGrow cpu raw usage := ⟨hh, hi, ht, hc, hhb, hib, htb, hcb⟩
  obtain ⟨hnw, hsum, hHW⟩ := h.waitRunSum now
  exact ⟨hnw, hsum, hHW, h.cpuMetricUpdate now⟩

/-- A second after the first reading, with 3 µs of hierarchy wait, 1 µs inner and 0.5 µs
throttled in 10 µs of usage, the rates split the hierarchy one. -/
theorem cpuMetricUpdate_wait_rates_sample :
    ∃ m, CpuStatCollector.cpuMetricUpdate .exact CpuStat.zero 1700000000000000000
        (some [("hierarchy_wait_sum", 3000), ("inner_wait_sum", 1000), ("throttled_time", 500)])
        (some ⟨10, 0, 0⟩) = some m ∧ m.RatesSplit := by
  obtain ⟨-, -, -, m, hm, h⟩ := cpuMetricUpdate_wait_rates CpuStat.zero 1700000000000000000
    [("hierarchy_wait_sum", 3000), ("inner_wait_sum", 1000), ("throttled_time", 500)] ⟨10, 0, 0⟩
    (by decide) (by decide) (by decide) (by decide) (by decide) (by decide) (by decide) (by decide)
  refine ⟨m, hm, ?_⟩
  rcases h with ⟨hnow, -⟩ | ⟨hsplit, -⟩
  · exact absurd hnow (by decide)
  · exact hsplit

/-! ## The stored stats over scrapes -/

theorem CpuStat.ratesSplit_zero : CpuStat.zero.RatesSplit := by
  simp [CpuStat.RatesSplit, CpuStat.rates, CpuStat.zero]

theorem CpuStat.RatesSplit.cpuMetricUpdate {cpu m : CpuStat} {now : Int}
    {raw : Option (List (String × UInt64))} {usage : Option CpuUsage} (hcpu : cpu.RatesSplit)
    (hgrow : ∀ raw' usage', raw = some raw' → usage = some usage' → CountersGrow cpu raw' usage')
    (hm : CpuStatCollector.cpuMetricUpdate .exact cpu now raw usage = some m) : m.RatesSplit := by
  by_cases hnow : timeSub now cpu.lastUpdate < 1000000000
  · -- within a second the stat is kept
    unfold CpuStatCollector.cpuMetricUpdate at hm
    rw [if_pos hnow] at hm
    cases hm
    exact hcpu
  · match raw, usage, hgrow, hm with
    | none, _, _, hm =>
      unfold CpuStatCollector.cpuMetricUpdate at hm
      rw [if_neg hnow] at hm
      cases hm
    | some _, none, _, hm =>
      unfold CpuStatCollector.cpuMetricUpdate at hm
      rw [if_neg hnow] at hm
      cases hm
    | some raw, some usage, hgrow, hm =>
      obtain ⟨m', hm', hcase⟩ := (hgrow raw usage rfl rfl).cpuMetricUpdate now
      rw [hm', Option.some.injEq] at hm
      subst hm
      rcases hcase with ⟨-, rfl⟩ | ⟨hsplit, -⟩
      · exact hcpu
      · exact hsplit

/-- Every container's reading has grown from its stored stat. -/
def ReadingsGrow (lifeResources : String → CpuStat) (containers : List Container)
    (readings : Container → CpuStatReading) : Prop :=
  ∀ c ∈ containers, ∀ raw usage, (readings c).raw = some raw → (readings c).usage = some usage →
    CountersGrow (lifeResources c.id) raw usage

/-- The run rule of a scrape: over containers of distinct IDs whose readings have grown from
their stored stats, stats that split their hierarchy rates still do after `Update`, before
rounding. -/
theorem CpuStatCollector.update_ratesSplit (defaultRegion defaultHostname : String)
    {lifeResources : String → CpuStat} {containers : List Container}
    {readings : Container → CpuStatReading} (hsplit : ∀ id, (lifeResources id).RatesSplit)
    (hnodup : (containers.map (·.id)).Nodup) (hgrow : ReadingsGrow lifeResources containers readings) :
    ∀ id, ((CpuStatCollector.update defaultRegion defaultHostname .exact lifeResources
      (some containers) readings).1 id).RatesSplit := by
  unfold CpuStatCollector.update
  dsimp only
  refine (Lib.Machine.foldl_invariant (fun (acc : (String → CpuStat) × List Data) rest =>
      (∀ id, (acc.1 id).RatesSplit) ∧ ReadingsGrow acc.1 rest readings ∧ (rest.map (·.id)).Nodup)
    ?_ containers (lifeResources, []) ⟨hsplit, hgrow, hnodup⟩).1
  rintro acc c rest ⟨hs, hg, hn⟩
  obtain ⟨hc, hn'⟩ := List.nodup_cons.1 hn
  have hrest : ReadingsGrow acc.1 rest readings := fun c' hc' => hg c' (List.mem_cons_of_mem _ hc')
  cases hm : CpuStatCollector.cpuMetricUpdate .exact (acc.1 c.id) (readings c).now (readings c).raw
      (readings c).usage with
  | none => exact ⟨hs, hrest, hn'⟩
  | some m =>
    have hsm := (hs c.id).cpuMetricUpdate (fun raw usage hr hu => hg c List.mem_cons_self raw usage hr hu) hm
    dsimp only
    refine ⟨fun id => ?_, fun c' hc' raw usage hr hu => ?_, hn'⟩
    · by_cases h : id = c.id
      · subst h
        simpa using hsm
      · rw [Function.update_of_ne h]
        exact hs id
    · -- a container still to come has another ID, whose stat the update left
      have hne : c'.id ≠ c.id := fun he => hc (List.mem_map.2 ⟨c', hc', he⟩)
      rw [Function.update_of_ne hne]
      exact hrest c' hc' raw usage hr hu

theorem update_ratesSplit_one_container :
    let c : Container := ⟨"c1", "app", "host", .normal, .guaranteed, ""⟩
    let readings : Container → CpuStatReading := fun _ => ⟨1700000000000000000,
      some [("hierarchy_wait_sum", 3000), ("inner_wait_sum", 1000), ("throttled_time", 500)],
      some ⟨10, 0, 0⟩⟩
    (∀ id, ((fun _ => CpuStat.zero : String → CpuStat) id).RatesSplit) ∧ ([c].map (·.id)).Nodup ∧
      ReadingsGrow (fun _ => CpuStat.zero) [c] readings ∧
      ∀ id, ((CpuStatCollector.update "" "" .exact (fun _ => CpuStat.zero) (some [c])
        readings).1 id).RatesSplit := by
  intro c readings
  have hsplit : ∀ id, ((fun _ => CpuStat.zero : String → CpuStat) id).RatesSplit :=
    fun _ => CpuStat.ratesSplit_zero
  have hgrow : ReadingsGrow (fun _ => CpuStat.zero) [c] readings := by
    rintro c' - raw usage ⟨⟩ ⟨⟩
    show CountersGrow CpuStat.zero _ _
    exact ⟨by decide, by decide, by decide, by decide, by decide, by decide, by decide, by decide⟩
  exact ⟨hsplit, by decide, hgrow,
    CpuStatCollector.update_ratesSplit "" "" hsplit (by decide) hgrow⟩

/-- A usage below 2^62 microseconds can pass 2^64 nanoseconds: from a zero stat, at
18446744073709551 µs of usage and 1 ms of hierarchy wait, the wait and run time wraps to
999384 ns, below the wait, and the hierarchy rate passes 100. -/
theorem wait_run_sum_wraps :
    let raw : List (String × UInt64) := [("hierarchy_wait_sum", 1000000)]
    let usage : CpuUsage := ⟨18446744073709551, 0, 0⟩
    let stat : CpuStat := CpuStat.ofReading raw usage 1700000000000000000
    usage.usage.toNat < 2 ^ 62 ∧
      (waitDeltas CpuStat.zero stat).2.1 + stat.cpuTotal - CpuStat.zero.cpuTotal = 999384 ∧
      (CpuStatCollector.cpuMetricUpdate .exact CpuStat.zero 1700000000000000000 (some raw)
        (some usage)).map CpuStat.waitrateHierarchy = some (100000000 / 999384) ∧
      100 < (100000000 / 999384 : ℚ) := by
  decide +kernel

end Huatuo.Metric
