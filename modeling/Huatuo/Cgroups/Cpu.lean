import Huatuo.Lib.Strings

/-! What the collectors read of a cgroup's CPU controller (internal/cgroups): the usage in
microseconds, the quota and period of the CFS bandwidth, and the raw counters of cpu.stat, on the
legacy hierarchy (v1) and on the unified one (v2). `parseutil` reads the files; the values it
returned, `none` for its errors, are the arguments. -/
namespace Huatuo.Cgroups

/-- `math.MaxUint64`, the quota of a cgroup without one. -/
def maxUint64 : UInt64 := 0xFFFFFFFFFFFFFFFF

/-- `stats.CpuUsage`, in microseconds. -/
structure CpuUsage where
  usage : UInt64
  user : UInt64
  system : UInt64
deriving DecidableEq, Repr

structure CpuQuota where
  quota : UInt64
  period : UInt64
deriving DecidableEq, Repr

/-- `clockTicks`, `_SC_CLK_TCK` on Linux. -/
def clockTicks : UInt64 := 100

def microsecondsInSecond : UInt64 := 1000000

/-- `raw[k]` on what `parseutil.RawKV` returned: a missing key reads 0. -/
def rawGet (raw : List (String × UInt64)) (k : String) : UInt64 :=
  (raw.lookup k).getD 0

namespace CgroupV1

/-- `CgroupV1.CpuUsage` from cpuacct.stat, in clock ticks, and cpuacct.usage, in nanoseconds. -/
def cpuUsage (raw : Option (List (String × UInt64))) (usage : Option UInt64) : Option CpuUsage := do
  let raw ← raw
  let usage ← usage
  let user := (rawGet raw "user" * microsecondsInSecond) / clockTicks
  let system := (rawGet raw "system" * microsecondsInSecond) / clockTicks
  pure ⟨usage / 1000, user, system⟩

/-- `CgroupV1.CpuQuotaAndPeriod` from cpu.cfs_period_us and cpu.cfs_quota_us: no quota (-1) is
the largest `uint64`, any other quota is converted to one. -/
def cpuQuotaAndPeriod (period : Option UInt64) (quota : Option Int64) : Option CpuQuota := do
  let period ← period
  let quota ← quota
  if quota = -1 then pure ⟨maxUint64, period⟩
  else pure ⟨quota.toUInt64, period⟩

end CgroupV1

namespace CgroupV2

/-- `CgroupV2.CpuUsage` from cpu.stat. -/
def cpuUsage (raw : Option (List (String × UInt64))) : Option CpuUsage :=
  raw.map fun raw => ⟨rawGet raw "usage_usec", rawGet raw "user_usec", rawGet raw "system_usec"⟩

/-- `CgroupV2.CpuQuotaAndPeriod` from the first line of cpu.max as `parseutil.KV` splits it: the
quota word, `max` for none, and the period. -/
def cpuQuotaAndPeriod (max : Option (String × UInt64)) : Option CpuQuota := do
  let (maxQuota, period) ← max
  if maxQuota = "max" then pure ⟨maxUint64, period⟩
  else
    let (quota, err) := Lib.Strings.parseUint maxQuota 10
    if err then none else pure ⟨quota, period⟩

end CgroupV2

example : CgroupV1.cpuQuotaAndPeriod (some 100000) (some (-1)) = some ⟨maxUint64, 100000⟩ := by
  decide

example : CgroupV2.cpuQuotaAndPeriod (some ("50000", 100000)) = some ⟨50000, 100000⟩ := by
  decide

end Huatuo.Cgroups
