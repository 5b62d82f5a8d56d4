import Huatuo.Cgroups.Cpu
import Huatuo.Lib.FixedPoint
import Huatuo.Lib.Go
import Huatuo.Pod.Container

/-! The CPU utilisation collector (core/metrics/cpu_util.go). For each normal or sidecar
container with a CFS quota, `Update` takes its CPU count as the quota divided by the period,
truncated, and `cpuMetricUpdate` turns the growth of the cgroup's usage counters since the last
update into percentages of the count times the elapsed microseconds; then the host is updated
with its number of CPUs. An update less than a second after the last does nothing, and one whose
growth exceeds the time available only records the counters.

Each `float64` operation is rounded by a `Rounding`; a division by zero gives an infinity or NaN.
A quota below the period truncates to 0 CPUs: then the time available is 0, and an interval in
which the container did not run divides 0 by 0. -/
namespace Huatuo.Metric

open Huatuo.Cgroups Huatuo.Pod Lib.FixedPoint Lib.Go

/-- `cpuMetric`: the counters at the last update, its time, and the utilisations computed. -/
structure CpuMetric where
  lastUsrTime : UInt64
  lastSysTime : UInt64
  lastCPUTotal : UInt64
  lasTimestamp : Int
  utilTotal : Binary64
  utilSys : Binary64
  utilUsr : Binary64
deriving DecidableEq, Repr

/-- A `cpuMetric` as `LifeResouces` creates it, and the host's before its first update. -/
def CpuMetric.zero : CpuMetric :=
  ⟨0, 0, 0, timeZero, .finite 0, .finite 0, .finite 0⟩

/-- `cpuMetricUpdate` at the time `now` with what `CpuUsage` returned: the metric after it, or
`none` for the error it returns, the metric left as it was. -/
def cpuMetricUpdate (r : Rounding) (cpuMetric : CpuMetric) (now : Int) (stat : Option CpuUsage)
    (cpuCount : Int) : Option CpuMetric :=
  if timeSub now cpuMetric.lasTimestamp < 1000000000 then some cpuMetric
  else
    match stat with
    | none => none
    | some stat =>
      let usageTotal := stat.usage
      let usageUsr := stat.user
      let usageSys := stat.system
      let deltaTotal := usageTotal - cpuMetric.lastCPUTotal
      let deltaUsrTime := usageUsr - cpuMetric.lastUsrTime
      let deltaSysTime := usageSys - cpuMetric.lastSysTime
      let deltaUsageSum :=
        r.rnd (r.rnd cpuCount * r.rnd (microseconds (timeSub now cpuMetric.lasTimestamp)))
      if r.rnd deltaTotal.toNat > deltaUsageSum ∨
          r.rnd (deltaUsrTime + deltaSysTime).toNat > deltaUsageSum then
        some { cpuMetric with
          lastUsrTime := usageUsr
          lastSysTime := usageSys
          lastCPUTotal := usageTotal
          lasTimestamp := now }
      else
        let utilTotal := r.div (r.rnd (r.rnd deltaTotal.toNat * 100)) deltaUsageSum
        let utilUsr := r.div (r.rnd (r.rnd deltaUsrTime.toNat * 100)) deltaUsageSum
        let utilSys := r.div (r.rnd (r.rnd deltaSysTime.toNat * 100)) deltaUsageSum
        some ⟨usageUsr, usageSys, usageTotal, now, utilTotal, utilSys, utilUsr⟩

/-- A gauge `Update` exports: of a container, or of the host for `none`, by name, with its
`float64` value. -/
structure CpuGauge where
  container : Option Container
  name : String
  value : Binary64
deriving DecidableEq, Repr

/-- `cpuUtilCollector`: the host's CPUs and metric, and the `collector_cpu_util` resource of
each container, by its ID. -/
structure CpuUtilCollector where
  hostCPUCount : Int
  hostCPUMetric : CpuMetric
  lifeResources : String → CpuMetric

/-- What `Update` reads for a container: its quota and period, then the clock and its usage. -/
structure CpuUtilReading where
  cpuQuota : Option CpuQuota
  now : Int
  stat : Option CpuUsage

/-- The loop of `Update` over the containers, with the collector and the gauges so far; `none`
for the panic of a zero period. -/
def CpuUtilCollector.updateLoop (r : Rounding) (readings : Container → CpuUtilReading) :
    CpuUtilCollector × List CpuGauge → List Container → Option (CpuUtilCollector × List CpuGauge)
  | acc, [] => some acc
  | (c, metrics), container :: containers =>
    let reading := readings container
    match reading.cpuQuota with
    | none => updateLoop r readings (c, metrics) containers
    | some cpuQuota =>
      if cpuQuota.quota = maxUint64 then updateLoop r readings (c, metrics) containers
      else if cpuQuota.period = 0 then none
      else
        let count : Int := (cpuQuota.quota / cpuQuota.period).toInt64.toInt
        match cpuMetricUpdate r (c.lifeResources container.id) reading.now reading.stat count with
        | none => updateLoop r readings (c, metrics) containers
        | some m =>
          let c := { c with lifeResources := Function.update c.lifeResources container.id m }
          updateLoop r readings (c, metrics ++ [⟨some container, "count", .finite (r.rnd count)⟩,
            ⟨some container, "usr", m.utilUsr⟩, ⟨some container, "sys", m.utilSys⟩,
            ⟨some container, "total", m.utilTotal⟩]) containers

/-- `cpuUtilCollector.Update`, with what `GetContainersByType` returned and the host's clock and
usage: the collector after it and the gauges, or `none` for the error it returns. -/
def CpuUtilCollector.update (r : Rounding) (c : CpuUtilCollector)
    (containers : Option (List Container)) (readings : Container → CpuUtilReading)
    (hostNow : Int) (hostStat : Option CpuUsage) :
    Option (CpuUtilCollector × Option (List CpuGauge)) :=
  match containers with
  | none => some (c, none)
  | some containers =>
    (updateLoop r readings (c, []) containers).map fun (c, metrics) =>
      match cpuMetricUpdate r c.hostCPUMetric hostNow hostStat c.hostCPUCount with
      | none => (c, none)
      | some m =>
        ({ c with hostCPUMetric := m }, some (metrics ++ [⟨none, "usr", m.utilUsr⟩,
          ⟨none, "sys", m.utilSys⟩, ⟨none, "total", m.utilTotal⟩]))

/-! ## One update -/

section Update

variable {r : Rounding} {m : CpuMetric} {now : Int} {stat : CpuUsage} {cpuCount : Int}

theorem cpuMetricUpdate_of_lt (r : Rounding) (stat : Option CpuUsage) (cpuCount : Int)
    (hnow : timeSub now m.lasTimestamp < 1000000000) :
    cpuMetricUpdate r m now stat cpuCount = some m := by
  unfold cpuMetricUpdate
  rw [if_pos hnow]

theorem cpuMetricUpdate_counters (hnow : 1000000000 ≤ timeSub now m.lasTimestamp) :
    ∃ m', cpuMetricUpdate r m now (some stat) cpuCount = some m' ∧ m'.lastCPUTotal = stat.usage ∧
      m'.lastUsrTime = stat.user ∧ m'.lastSysTime = stat.system ∧ m'.lasTimestamp = now := by
  unfold cpuMetricUpdate
  rw [if_neg (by omega)]
  dsimp only
  split_ifs
  · exact ⟨_, rfl, rfl, rfl, rfl, rfl⟩
  · exact ⟨_, rfl, rfl, rfl, rfl, rfl⟩

theorem rnd_pos_of_one_le {r : Rounding} {n : ℕ} (hn : 1 ≤ n) : 0 < r.rnd n := by
  have h1 : r.rnd ((1 : ℕ) : ℚ) = 1 := by exact_mod_cast r.rnd_of_lt (n := 1) (by norm_num)
  have hle : r.rnd ((1 : ℕ) : ℚ) ≤ r.rnd n := r.mono (by exact_mod_cast hn)
  rw [h1] at hle
  linarith

theorem cpuMetricUpdate_zero_count_ran (hnow : 1000000000 ≤ timeSub now m.lasTimestamp)
    (hran : (stat.usage - m.lastCPUTotal).toNat ≠ 0) :
    cpuMetricUpdate r m now (some stat) 0 =
      some { m with
        lastUsrTime := stat.user
        lastSysTime := stat.system
        lastCPUTotal := stat.usage
        lasTimestamp := now } := by
  unfold cpuMetricUpdate
  rw [if_neg (by omega)]
  dsimp only
  rw [if_pos]
  left
  simpa using rnd_pos_of_one_le (r := r) (Nat.one_le_iff_ne_zero.2 hran)

theorem cpuMetricUpdate_zero_count_idle (hnow : 1000000000 ≤ timeSub now m.lasTimestamp)
    (htotal : stat.usage = m.lastCPUTotal) (husr : stat.user = m.lastUsrTime)
    (hsys : stat.system = m.lastSysTime) :
    cpuMetricUpdate r m now (some stat) 0 =
      some ⟨stat.user, stat.system, stat.usage, now, .nan, .nan, .nan⟩ := by
  unfold cpuMetricUpdate
  rw [if_neg (by omega)]
  simp [htotal, husr, hsys]

end Update

/-! ## With one CPU or more -/

/-- A value the collector can export as a percentage: finite, from 0 to 100. -/
def inPercent : Binary64 → Prop
  | .finite x => 0 ≤ x ∧ x ≤ 100
  | _ => False

/-- The three utilisations of a metric are percentages. -/
def CpuMetric.Sane (m : CpuMetric) : Prop :=
  inPercent m.utilTotal ∧ inPercent m.utilUsr ∧ inPercent m.utilSys

theorem CpuMetric.sane_zero : CpuMetric.zero.Sane := by
  simp [CpuMetric.Sane, CpuMetric.zero, inPercent]

theorem inPercent_div {a d : ℚ} (ha : 0 ≤ a) (hd : 0 < d) (hle : a ≤ d) :
    inPercent (Rounding.exact.div (a * 100) d) := by
  rw [Rounding.div_of_ne_zero _ hd.ne', Rounding.exact_rnd]
  refine ⟨by positivity, ?_⟩
  rw [div_le_iff₀ hd]
  linarith

theorem usageSum_pos {cpuCount : Int} (hc : 1 ≤ cpuCount) {d : Int} (hd : 1000000000 ≤ d) :
    (0 : ℚ) < cpuCount * (microseconds d : ℚ) := by
  have hus : 1000000 ≤ microseconds d := by
    unfold microseconds
    rw [Int.tdiv_eq_ediv_of_nonneg (by omega)]
    omega
  have hc' : (1 : ℚ) ≤ cpuCount := by exact_mod_cast hc
  have hus' : (1000000 : ℚ) ≤ microseconds d := by exact_mod_cast hus
  positivity

/-- With exact arithmetic and one CPU or more, an update keeps the utilisations percentages,
provided the user and system deltas add up without wrapping. -/
theorem cpuMetricUpdate_in_percent {m m' : CpuMetric} {now : Int} {stat : CpuUsage}
    {cpuCount : Int} (hm : m.Sane) (hc : 1 ≤ cpuCount)
    (hwrap : (stat.user - m.lastUsrTime).toNat + (stat.system - m.lastSysTime).toNat < 2 ^ 64)
    (h : cpuMetricUpdate .exact m now (some stat) cpuCount = some m') : m'.Sane := by
  by_cases hnow : timeSub now m.lasTimestamp < 1000000000
  · rw [cpuMetricUpdate_of_lt .exact (some stat) cpuCount hnow] at h
    cases h
    exact hm
  unfold cpuMetricUpdate at h
  rw [if_neg hnow] at h
  dsimp only at h
  split_ifs at h with hover
  · cases h
    exact hm
  · cases h
    simp only [Rounding.exact_rnd, not_or, not_lt] at hover
    obtain ⟨htotal, hsum⟩ := hover
    have hd := usageSum_pos hc (d := timeSub now m.lasTimestamp) (by omega)
    rw [toNat_add_of_lt hwrap, Nat.cast_add] at hsum
    have husr := Nat.cast_nonneg (α := ℚ) (stat.user - m.lastUsrTime).toNat
    have hsys := Nat.cast_nonneg (α := ℚ) (stat.system - m.lastSysTime).toNat
    refine ⟨?_, ?_, ?_⟩ <;> simp only [Rounding.exact_rnd] <;>
      exact inPercent_div (Nat.cast_nonneg _) hd (by linarith)

theorem cpuMetricUpdate_in_percent_one_cpu :
    let stat : CpuUsage := ⟨1500000, 1000000, 500000⟩
    CpuMetric.zero.Sane ∧ (1 : Int) ≤ 1 ∧
      (stat.user - CpuMetric.zero.lastUsrTime).toNat + (stat.system - CpuMetric.zero.lastSysTime).toNat <
        2 ^ 64 ∧
      ∃ m', cpuMetricUpdate .exact CpuMetric.zero 2000000000 (some stat) 1 = some m' ∧ m'.Sane := by
  intro stat
  have hwrap : (stat.user - CpuMetric.zero.lastUsrTime).toNat +
      (stat.system - CpuMetric.zero.lastSysTime).toNat < 2 ^ 64 := by decide
  obtain ⟨m', hm', -⟩ := @cpuMetricUpdate_counters .exact CpuMetric.zero 2000000000 stat 1
    (by decide)
  exact ⟨CpuMetric.sane_zero, le_refl 1, hwrap, m', hm',
    cpuMetricUpdate_in_percent CpuMetric.sane_zero (le_refl 1) hwrap hm'⟩

/-! ## A quota below the period -/

theorem CpuUtilCollector.update_one {r : Rounding} {c : CpuUtilCollector} {container : Container}
    {reading : CpuUtilReading} {hostNow : Int} {hostStat : Option CpuUsage} {q : CpuQuota}
    {m mh : CpuMetric} (hq : reading.cpuQuota = some q) (hmax : q.quota ≠ maxUint64)
    (hp : q.period ≠ 0)
    (hm : cpuMetricUpdate r (c.lifeResources container.id) reading.now reading.stat
      (q.quota / q.period).toInt64.toInt = some m)
    (hh : cpuMetricUpdate r c.hostCPUMetric hostNow hostStat c.hostCPUCount = some mh) :
    c.update r (some [container]) (fun _ => reading) hostNow hostStat =
      some (⟨c.hostCPUCount, mh, Function.update c.lifeResources container.id m⟩,
        some [⟨some container, "count", .finite (r.rnd (q.quota / q.period).toInt64.toInt)⟩,
          ⟨some container, "usr", m.utilUsr⟩, ⟨some container, "sys", m.utilSys⟩,
          ⟨some container, "total", m.utilTotal⟩, ⟨none, "usr", mh.utilUsr⟩,
          ⟨none, "sys", mh.utilSys⟩, ⟨none, "total", mh.utilTotal⟩]) := by
  simp only [CpuUtilCollector.update, CpuUtilCollector.updateLoop, hq, if_neg hmax, if_neg hp, hm]
  simp [hh]

/-- A container limited to half a CPU on cgroup v1 (quota 50000, period 100000 microseconds)
that ran up to its first update and then stayed idle for a second: at the second update its
three utilisations are NaN, whatever the rounding, and `Update` exports them. -/
theorem cpuUtil_half_cpu_idle_nan (r : Rounding) :
    let container : Container := ⟨"c1", "app", "app-pod", .normal, .burstable, "default"⟩
    let quota : Option CpuQuota := CgroupV1.cpuQuotaAndPeriod (some 100000) (some 50000)
    let usage : Option CpuUsage :=
      CgroupV1.cpuUsage (some [("user", 300), ("system", 200)]) (some 5000000000)
    let hostStat : Option CpuUsage := some ⟨80000000, 50000000, 30000000⟩
    let c₀ : CpuUtilCollector := ⟨8, CpuMetric.zero, fun _ => CpuMetric.zero⟩
    ∃ c₁ out₁ c₂ gauges,
      c₀.update r (some [container]) (fun _ => ⟨quota, 1700000000000000000, usage⟩)
          1700000000000000000 hostStat = some (c₁, out₁) ∧
        c₁.update r (some [container]) (fun _ => ⟨quota, 1700000001000000000, usage⟩)
          1700000001000000000 hostStat = some (c₂, some gauges) ∧
        (⟨some container, "usr", .nan⟩ : CpuGauge) ∈ gauges ∧
        (⟨some container, "sys", .nan⟩ : CpuGauge) ∈ gauges ∧
        (⟨some container, "total", .nan⟩ : CpuGauge) ∈ gauges := by
  intro container quota usage hostStat c₀
  have hq : quota = some ⟨50000, 100000⟩ := by decide
  have hu : usage = some ⟨5000000, 3000000, 2000000⟩ := by decide
  have hcount : ((50000 : UInt64) / 100000).toInt64.toInt = 0 := by decide
  have hm₁ := @cpuMetricUpdate_zero_count_ran r CpuMetric.zero 1700000000000000000
    ⟨5000000, 3000000, 2000000⟩ (by decide) (by decide)
  obtain ⟨mh₁, hh₁, -, -, -, hts₁⟩ := @cpuMetricUpdate_counters r c₀.hostCPUMetric
    1700000000000000000 ⟨80000000, 50000000, 30000000⟩ 8 (by decide)
  have hup₁ := @CpuUtilCollector.update_one r c₀ container ⟨quota, 1700000000000000000, usage⟩
    1700000000000000000 hostStat _ _ _ hq (by decide) (by decide)
    (by rw [hu, hcount]; exact hm₁) hh₁
  have hm₂ := @cpuMetricUpdate_zero_count_idle r
    ⟨3000000, 2000000, 5000000, 1700000000000000000, .finite 0, .finite 0, .finite 0⟩
    1700000001000000000 ⟨5000000, 3000000, 2000000⟩ (by decide) rfl rfl rfl
  obtain ⟨mh₂, hh₂, -⟩ := @cpuMetricUpdate_counters r mh₁ 1700000001000000000
    ⟨80000000, 50000000, 30000000⟩ 8 (by rw [hts₁]; decide)
  have hup₂ := @CpuUtilCollector.update_one r
    ⟨8, mh₁, Function.update c₀.lifeResources container.id
      ⟨3000000, 2000000, 5000000, 1700000000000000000, .finite 0, .finite 0, .finite 0⟩⟩
    container ⟨quota, 1700000001000000000, usage⟩ 1700000001000000000 hostStat _ _ _ hq
    (by decide) (by decide) (by rw [hu, hcount]; dsimp only; rw [Function.update_self]; exact hm₂)
    hh₂
  exact ⟨_, _, _, _, hup₁, hup₂, .tail _ (.head _), .tail _ (.tail _ (.head _)),
    .tail _ (.tail _ (.tail _ (.head _)))⟩

end Huatuo.Metric
