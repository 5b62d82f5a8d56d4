import Huatuo.Lib.Sweep
import Huatuo.Lib.FixedPoint
import Huatuo.Lib.Go
import Huatuo.Cgroups.Cpu
import Huatuo.Pod.Container
import Huatuo.Autotracing.CpuSys
import Mathlib

/-! Containers whose CPU usage jumps (core/autotracing/cpuidle.go). Each time its timer fires,
`Start` marks the normal containers `pod.GetNormalContainers` lists in the package's map
`containersCPUIdle`, then `detectCPUIdleContainer` loops over the map in the order Go's `range`
picks: it deletes the entries of containers no longer listed, and for the others reads the cgroup
and compares its usage with the reading before, in `int64` arithmetic. The first container whose
usage or rise of usage passes a threshold, once `IntervalContinuousPerf` seconds have passed
since it was last traced, ends the loop and is profiled by perf. The loop is an instance of
`Lib.Sweep`; what a visit reads (the cgroup files, by path, and `time.Now()`, once a visit) is the
round's environment, and Go's panics are `none` or `CpuIdleStop.panic`. -/
namespace Huatuo.Autotracing.CpuIdle

open Lib Lib.FixedPoint

structure CpuStats where
  user : Int64
  sys : Int64
  total : Int64
deriving DecidableEq, Repr

def CpuStats.zero : CpuStats :=
  ⟨0, 0, 0⟩

structure ContainerCPUInfo where
  prevUsagePercentage : CpuStats
  nowUsagePercentage : CpuStats
  deltaUsagePercentage : CpuStats
  prevUsage : CpuStats
  path : String
  alive : Bool
  id : String
  traceTime : Int
  updateTime : Int
deriving DecidableEq, Repr

structure CpuIdleThreshold where
  deltaUser : Int64
  deltaSys : Int64
  deltaTotal : Int64
  usageUser : Int64
  usageSys : Int64
  usageTotal : Int64
  intervalContinuousPerf : Int64
deriving DecidableEq, Repr

/-- A container as `pod.GetNormalContainers` returns it: the fields `Pod.Container` keeps, and
the cgroup suffix and start time, which the autotracers read too. -/
structure TracedContainer where
  container : Pod.Container
  cgroupSuffix : String
  startedAt : Int
deriving DecidableEq, Repr

/-! ## The map of containers -/

/-- The fields `updateContainersCPUIdle` sets on the entry of a listed container. -/
def reviveCPUIdle (container : TracedContainer) (info : ContainerCPUInfo) : ContainerCPUInfo :=
  { info with path := container.cgroupSuffix, alive := true, id := container.container.id }

/-- `&containerCPUInfo{path: container.CgroupSuffix, alive: true, id: container.ID}`. -/
def freshCPUIdle (container : TracedContainer) : ContainerCPUInfo :=
  ⟨.zero, .zero, .zero, .zero, container.cgroupSuffix, true, container.container.id, Go.timeZero,
    Go.timeZero⟩

/-- `updateContainersCPUIdle` on what `pod.GetNormalContainers` returned. -/
def updateContainersCPUIdle (containers : Except String (List TracedContainer))
    (containersCPUIdle : List (String × ContainerCPUInfo)) :
    Except String (List (String × ContainerCPUInfo)) :=
  match containers with
  | .error err => .error err
  | .ok containers =>
    .ok (Sweep.refresh (·.container.id) reviveCPUIdle freshCPUIdle containersCPUIdle containers)

/-! ## A container's usage -/

def containerCpuUsage (usage : Cgroups.CpuUsage) : CpuStats :=
  ⟨usage.user.toInt64, usage.system.toInt64, usage.usage.toInt64⟩

def containerCpuUsageDelta (cpu1 cpu2 : CpuStats) : CpuStats :=
  ⟨cpu1.user - cpu2.user, cpu1.sys - cpu2.sys, cpu1.total - cpu2.total⟩

/-- What a visit of the loop reads: a cgroup's quota and period and its usage, by path, or the
error of reading them, and `time.Now()` when it visits the container of an ID. -/
structure CpuIdleEnv where
  cpuQuotaAndPeriod : String → Except String Cgroups.CpuQuota
  cpuUsage : String → Except String Cgroups.CpuUsage
  now : String → Int

/-- `updateContainerCpuUsage`: the entry after it and the error it returns; `none` is the panic
of a division by a zero period or by a zero `updateElasped`. -/
def updateContainerCpuUsage (env : CpuIdleEnv) (now : Int) (container : ContainerCPUInfo) :
    Option (ContainerCPUInfo × Except String Unit) :=
  match env.cpuQuotaAndPeriod container.path with
  | .error err => some (container, .error err)
  | .ok cpuQuotaPeriod =>
    if cpuQuotaPeriod.quota = Cgroups.maxUint64 then some (container, .error "cpu too large")
    else if cpuQuotaPeriod.period = 0 then none
    else
      let cpuCores := (cpuQuotaPeriod.quota / cpuQuotaPeriod.period).toInt64
      if cpuCores = 0 then some (container, .error "cpu too small")
      else
        match env.cpuUsage container.path with
        | .error err => some (container, .error err)
        | .ok usage =>
          if container.prevUsage = CpuStats.zero then
            some ({ container with prevUsage := containerCpuUsage usage, updateTime := now },
              .error "cpu usage first update")
          else
            let delta := containerCpuUsageDelta
              ⟨usage.user.toInt64, usage.system.toInt64, usage.usage.toInt64⟩ container.prevUsage
            if delta.total = 0 then
              some ({ container with updateTime := now }, .error "cpu usage no changed")
            else
              let updateElasped := Int64.ofInt (Go.microseconds (Go.timeSub now container.updateTime))
              if updateElasped = 0 then none
              else
                let nowUsagePercentage : CpuStats :=
                  ⟨100 * delta.user / updateElasped / cpuCores,
                    100 * delta.sys / updateElasped / cpuCores,
                    100 * delta.total / updateElasped / cpuCores⟩
                let prevUsagePercentage :=
                  if container.prevUsagePercentage = CpuStats.zero then nowUsagePercentage
                  else container.prevUsagePercentage
                some ({ container with
                    nowUsagePercentage := nowUsagePercentage
                    deltaUsagePercentage :=
                      containerCpuUsageDelta nowUsagePercentage prevUsagePercentage
                    prevUsagePercentage := nowUsagePercentage
                    prevUsage := containerCpuUsage usage
                    updateTime := now }, .ok ())

/-- `shouldCareThisEvent` at `time.Now()` = `now`, binary64 rounding by `r`: whether to trace,
and the entry after it. -/
def shouldCareThisEvent (r : Rounding) (now : Int) (container : ContainerCPUInfo)
    (threshold : CpuIdleThreshold) : Bool × ContainerCPUInfo :=
  let intervalContinuousPerf := Go.timeSub now container.traceTime
  if Int64.ofInt (truncate (r.seconds intervalContinuousPerf)) > threshold.intervalContinuousPerf then
    if (container.nowUsagePercentage.user > threshold.usageUser &&
          container.deltaUsagePercentage.user > threshold.deltaUser) ||
        (container.nowUsagePercentage.sys > threshold.usageSys &&
          container.deltaUsagePercentage.sys > threshold.deltaSys) ||
        (container.nowUsagePercentage.total > threshold.usageTotal &&
          container.deltaUsagePercentage.total > threshold.deltaTotal) then
      (true, { container with traceTime := now, prevUsage := CpuStats.zero })
    else (false, container)
  else (false, container)

/-! ## The loop -/

/-- What `detectCPUIdleContainer`'s loop stops with: the container it found, or a panic. -/
inductive CpuIdleStop
  | found (container : ContainerCPUInfo)
  | panic
deriving DecidableEq, Repr

/-- The body of `detectCPUIdleContainer`'s loop on an entry still alive. -/
def detectCPUIdleVisit (r : Rounding) (threshold : CpuIdleThreshold) (env : CpuIdleEnv)
    (id : String) (container : ContainerCPUInfo) : ContainerCPUInfo × Option CpuIdleStop :=
  let container := { container with alive := false }
  match updateContainerCpuUsage env (env.now id) container with
  | none => (container, some .panic)
  | some (container, .error _) => (container, none)
  | some (container, .ok ()) =>
    match shouldCareThisEvent r (env.now id) container threshold with
    | (true, container) => (container, some (.found container))
    | (false, container) => (container, none)

/-- `detectCPUIdleContainer`, its loop visiting the map's keys in the order `order`: the map it
leaves, with the container it found or the panic that stopped it; a loop that runs through
returns "no cpuidle containers". -/
def detectCPUIdleContainer (r : Rounding) (threshold : CpuIdleThreshold) (env : CpuIdleEnv)
    (order : List String) (containersCPUIdle : List (String × ContainerCPUInfo)) :
    Except (CpuIdleStop × List (String × ContainerCPUInfo)) (List (String × ContainerCPUInfo)) :=
  Sweep.sweep (·.alive) (detectCPUIdleVisit r threshold env) order containersCPUIdle

/-! ## `Start` -/

structure CPUIdleTracingData where
  nowUser : Int64
  userThreshold : Int64
  deltaUser : Int64
  deltaUserThreshold : Int64
  nowSys : Int64
  sysThreshold : Int64
  deltaSys : Int64
  deltaSysThreshold : Int64
  nowUsage : Int64
  usageThreshold : Int64
  deltaUsage : Int64
  deltaUsageThreshold : Int64
  flameData : List FrameData
deriving DecidableEq, Repr

/-- `buildAndSaveCPUIdleContainer` on what `json.Unmarshal` made of perf's output: the record it
saves, or the error. -/
def buildAndSaveCPUIdleContainer (container : ContainerCPUInfo) (threshold : CpuIdleThreshold)
    (flameData : Except String (List FrameData)) : Except String CPUIdleTracingData :=
  match flameData with
  | .error err => .error err
  | .ok flameData =>
    .ok ⟨container.nowUsagePercentage.user, threshold.usageUser,
      container.deltaUsagePercentage.user, threshold.deltaUser,
      container.nowUsagePercentage.sys, threshold.usageSys,
      container.deltaUsagePercentage.sys, threshold.deltaSys,
      container.nowUsagePercentage.total, threshold.usageTotal,
      container.deltaUsagePercentage.total, threshold.deltaTotal, flameData⟩

/-- The errors `Start` returns: of `pod.GetNormalContainers`, of the perf run, and
`types.ErrExitByCancelCtx`. -/
inductive CpuIdleError
  | containers (err : String)
  | perf (err : String)
  | exitByCancelCtx
deriving DecidableEq, Repr

/-- What a firing of the timer meets: the containers listed or the error, what the loop reads,
the order of the loop, and perf's output or its error. -/
structure CpuIdleTick where
  containers : Except String (List TracedContainer)
  env : CpuIdleEnv
  order : List String
  perf : Except String (List UInt8)

section Start

variable (unmarshal : List UInt8 → Except String (List FrameData)) (r : Rounding)
  (threshold : CpuIdleThreshold)

/-- One firing of the timer: the map after it, and the record saved, with the ID and trace time
it is saved under, or the error that ends `Start`; `none` is a panic. A record that does not
decode is dropped. -/
def cpuIdleTurn (containersCPUIdle : List (String × ContainerCPUInfo)) (t : CpuIdleTick) :
    Option (List (String × ContainerCPUInfo) ×
      Except CpuIdleError (Option (String × Int × CPUIdleTracingData))) :=
  match updateContainersCPUIdle t.containers containersCPUIdle with
  | .error err => some (containersCPUIdle, .error (.containers err))
  | .ok containersCPUIdle =>
    match detectCPUIdleContainer r threshold t.env t.order containersCPUIdle with
    | .ok containersCPUIdle => some (containersCPUIdle, .ok none)
    | .error (.panic, _) => none
    | .error (.found container, containersCPUIdle) =>
      match t.perf with
      | .error err => some (containersCPUIdle, .error (.perf err))
      | .ok flamedata =>
        if flamedata.length = 0 then some (containersCPUIdle, .ok none)
        else
          match buildAndSaveCPUIdleContainer container threshold (unmarshal flamedata) with
          | .error _ => some (containersCPUIdle, .ok none)
          | .ok data => some (containersCPUIdle, .ok (some (container.id, container.traceTime, data)))

/-- `Start` over the firings of its timer until the context is cancelled: the map, the records
saved, and the error it returns; `none` is a panic. -/
def cpuIdleStart : List (String × ContainerCPUInfo) → List CpuIdleTick →
    Option (List (String × ContainerCPUInfo) × List (String × Int × CPUIdleTracingData) × CpuIdleError)
  | m, [] => some (m, [], .exitByCancelCtx)
  | m, t :: ts =>
    match cpuIdleTurn unmarshal r threshold m t with
    | none => none
    | some (m, .error err) => some (m, [], err)
    | some (m, .ok none) => cpuIdleStart m ts
    | some (m, .ok (some saved)) => (cpuIdleStart m ts).map fun res => (res.1, saved :: res.2.1, res.2.2)

end Start

/-! ## A visit -/

section Visit

variable {r : Rounding} {threshold : CpuIdleThreshold} {env : CpuIdleEnv} {now : Int}

theorem updateContainerCpuUsage_eq_some {c c' : ContainerCPUInfo} {e : Except String Unit}
    (h : updateContainerCpuUsage env now c = some (c', e)) :
    c'.traceTime = c.traceTime ∧ c'.id = c.id ∧ c'.alive = c.alive ∧
      (c.prevUsage = .zero → e ≠ .ok ()) := by
  unfold updateContainerCpuUsage at h
  dsimp only at h
  repeat' split at h
  all_goals cases h
  all_goals simp_all

theorem shouldCareThisEvent_eq {c c' : ContainerCPUInfo} {b : Bool}
    (h : shouldCareThisEvent r now c threshold = (b, c')) :
    (b = false ∧ c' = c) ∨
      (b = true ∧ c' = { c with traceTime := now, prevUsage := .zero } ∧
        threshold.intervalContinuousPerf <
          Int64.ofInt (truncate (r.seconds (Go.timeSub now c.traceTime)))) := by
  unfold shouldCareThisEvent at h
  dsimp only at h
  split_ifs at h with hgap
  · exact .inr ⟨(Prod.mk.inj h).1.symm, (Prod.mk.inj h).2.symm, hgap⟩
  · exact .inl ⟨(Prod.mk.inj h).1.symm, (Prod.mk.inj h).2.symm⟩
  · exact .inl ⟨(Prod.mk.inj h).1.symm, (Prod.mk.inj h).2.symm⟩

theorem add_le_of_gap {τ : Int}
    (h : threshold.intervalContinuousPerf < Int64.ofInt (truncate (r.seconds (Go.timeSub now τ))))
    (hτ : τ ≤ now) : τ + threshold.intervalContinuousPerf.toInt * 1000000000 ≤ now := by
  have hd0 : 0 ≤ Go.timeSub now τ := by unfold Go.timeSub; omega
  have hd1 : Go.timeSub now τ < 2 ^ 63 := by unfold Go.timeSub; omega
  have hdle : Go.timeSub now τ ≤ now - τ := by unfold Go.timeSub; omega
  obtain ⟨hs0, hs1⟩ := r.seconds_mem hd0 hd1
  have hsec : (0 : ℚ) ≤ r.seconds (Go.timeSub now τ) :=
    le_trans (by exact_mod_cast Int.ediv_nonneg hd0 (by norm_num)) hs0
  obtain ⟨ht0, ht1⟩ := truncate_mem hsec hs1
  have hfit : (Int64.ofInt (truncate (r.seconds (Go.timeSub now τ)))).toInt =
      truncate (r.seconds (Go.timeSub now τ)) := by
    have hsize : Int64.size = 2 ^ 64 := rfl
    rw [Int64.toInt_ofInt, hsize]
    exact Int.bmod_eq_of_le (by omega) (by omega)
  have hlt := Int64.lt_iff_toInt_lt.1 h
  rw [hfit] at hlt
  omega

/-- What a visit does: it panics, or the update fails, or the update succeeds and the container
is found or not. -/
theorem detectCPUIdleVisit_cases (k : String) (c : ContainerCPUInfo) :
    let v := detectCPUIdleVisit r threshold env k c
    (v.2 = some .panic ∧ v.1 = { c with alive := false }) ∨
      (v.2 = none ∧ ∃ e, updateContainerCpuUsage env (env.now k) { c with alive := false } =
        some (v.1, .error e)) ∨
      (∃ u, updateContainerCpuUsage env (env.now k) { c with alive := false } = some (u, .ok ()) ∧
        ((v.2 = none ∧ shouldCareThisEvent r (env.now k) u threshold = (false, v.1)) ∨
          (v.2 = some (.found v.1) ∧ shouldCareThisEvent r (env.now k) u threshold = (true, v.1)))) := by
  intro v
  unfold v detectCPUIdleVisit
  dsimp only
  cases hu : updateContainerCpuUsage env (env.now k) { c with alive := false } with
  | none => exact .inl ⟨rfl, rfl⟩
  | some ue =>
    obtain ⟨u, _ | ⟨⟩⟩ := ue
    · exact .inr (.inl ⟨rfl, _, rfl⟩)
    · dsimp only
      cases hs : shouldCareThisEvent r (env.now k) u threshold with
      | mk b c' =>
        cases b
        · exact .inr (.inr ⟨u, rfl, .inl ⟨rfl, hs⟩⟩)
        · exact .inr (.inr ⟨u, rfl, .inr ⟨rfl, hs⟩⟩)

theorem detectCPUIdleVisit_fst (k : String) (c : ContainerCPUInfo) :
    (detectCPUIdleVisit r threshold env k c).1.alive = false ∧
      (detectCPUIdleVisit r threshold env k c).1.id = c.id ∧
      ((∀ c', (detectCPUIdleVisit r threshold env k c).2 ≠ some (.found c')) →
        (detectCPUIdleVisit r threshold env k c).1.traceTime = c.traceTime) := by
  rcases @detectCPUIdleVisit_cases r threshold env k c with
    ⟨-, h⟩ | ⟨-, e, h⟩ | ⟨u, hu, ⟨-, hs⟩ | ⟨hf, hs⟩⟩
  · rw [h]
    exact ⟨rfl, rfl, fun _ => rfl⟩
  · obtain ⟨ht, hid, hal, -⟩ := updateContainerCpuUsage_eq_some h
    exact ⟨hal, hid, fun _ => ht⟩
  · obtain ⟨ht, hid, hal, -⟩ := updateContainerCpuUsage_eq_some hu
    rcases shouldCareThisEvent_eq hs with ⟨-, hc⟩ | ⟨h, -⟩
    · rw [hc]
      exact ⟨hal, hid, fun _ => ht⟩
    · cases h
  · obtain ⟨-, hid, hal, -⟩ := updateContainerCpuUsage_eq_some hu
    rcases shouldCareThisEvent_eq hs with ⟨h, -⟩ | ⟨-, hc, -⟩
    · cases h
    · rw [hc]
      exact ⟨hal, hid, fun hnf => absurd (hc ▸ hf) (hnf _)⟩

theorem detectCPUIdleVisit_found {k : String} {c c' : ContainerCPUInfo}
    (h : (detectCPUIdleVisit r threshold env k c).2 = some (.found c')) :
    (detectCPUIdleVisit r threshold env k c).1 = c' ∧ c.prevUsage ≠ .zero ∧
      c'.prevUsage = .zero ∧ c'.traceTime = env.now k ∧
      (c.traceTime ≤ env.now k →
        c.traceTime + threshold.intervalContinuousPerf.toInt * 1000000000 ≤ env.now k) := by
  rcases @detectCPUIdleVisit_cases r threshold env k c with
    ⟨h', -⟩ | ⟨h', -⟩ | ⟨u, hu, ⟨h', -⟩ | ⟨hf, hs⟩⟩
  · rw [h'] at h
    cases h
  · rw [h'] at h
    cases h
  · rw [h'] at h
    cases h
  · rw [hf] at h
    cases h
    obtain ⟨ht, -, -, hbase⟩ := updateContainerCpuUsage_eq_some hu
    rcases shouldCareThisEvent_eq hs with ⟨h, -⟩ | ⟨-, hc, hgap⟩
    · cases h
    · rw [hc]
      refine ⟨rfl, fun h0 => hbase h0 rfl, rfl, rfl, fun hτ => ?_⟩
      rw [ht] at hgap
      exact add_le_of_gap hgap hτ

end Visit

/-! ## Rounds

A firing of the timer whose containers were listed is a round of `Lib.Sweep`; the map
persists across firings and across restarts of `Start`. -/

abbrev CpuIdleRound := Sweep.Round String TracedContainer CpuIdleEnv

/-- The map a round leaves: `updateContainersCPUIdle`, then `detectCPUIdleContainer`, run
through or stopped. -/
def cpuIdleRound (r : Rounding) (threshold : CpuIdleThreshold)
    (containersCPUIdle : List (String × ContainerCPUInfo)) (rd : CpuIdleRound) :
    List (String × ContainerCPUInfo) :=
  Sweep.roundMap (·.container.id) reviveCPUIdle freshCPUIdle (·.alive) (detectCPUIdleVisit r threshold)
    containersCPUIdle rd

/-- The trace time a found container is saved under. -/
def CpuIdleStop.foundAt : CpuIdleStop → Option Int
  | .found container => some container.traceTime
  | .panic => none

/-- The containers a round's loop visits, that is whose cgroups it reads, each with the trace
time it was found at, if the loop found it. -/
def cpuIdleSeen (r : Rounding) (threshold : CpuIdleThreshold)
    (containersCPUIdle : List (String × ContainerCPUInfo)) (rd : CpuIdleRound) :
    List (String × Option Int) :=
  (Sweep.roundVisits (·.container.id) reviveCPUIdle freshCPUIdle (·.alive)
      (detectCPUIdleVisit r threshold) containersCPUIdle rd).map fun k =>
    (k, (Sweep.stopResult (·.alive) (detectCPUIdleVisit r threshold rd.env)
      (Sweep.refresh (·.container.id) reviveCPUIdle freshCPUIdle containersCPUIdle rd.items) k).bind
        CpuIdleStop.foundAt)

/-- Whether the entry of `k`, if there is one, has a zero baseline. -/
def zeroBaseline (k : String) (containersCPUIdle : List (String × ContainerCPUInfo)) : Bool :=
  (containersCPUIdle.lookup k).all fun c => c.prevUsage = .zero

/-- The time of the last trace of `k`, the zero time if it has no entry. -/
def traceTimeOf (k : String) (containersCPUIdle : List (String × ContainerCPUInfo)) : Int :=
  ((containersCPUIdle.lookup k).map (·.traceTime)).getD Go.timeZero

section Rounds

variable {r : Rounding} {threshold : CpuIdleThreshold}

theorem reviveCPUIdle_alive (container : TracedContainer) (info : ContainerCPUInfo) :
    (reviveCPUIdle container info).alive = true := rfl

theorem freshCPUIdle_alive (container : TracedContainer) : (freshCPUIdle container).alive = true :=
  rfl

theorem cpuIdleSeen_filter {m : List (String × ContainerCPUInfo)} {rd : CpuIdleRound}
    (ho : rd.order.Nodup) (k : String) :
    (cpuIdleSeen r threshold m rd).filter (fun p => p.1 = k) =
      if k ∈ Sweep.roundVisits (·.container.id) reviveCPUIdle freshCPUIdle (·.alive)
          (detectCPUIdleVisit r threshold) m rd then
        [(k, (Sweep.stopResult (·.alive) (detectCPUIdleVisit r threshold rd.env)
          (Sweep.refresh (·.container.id) reviveCPUIdle freshCPUIdle m rd.items) k).bind
            CpuIdleStop.foundAt)]
      else [] :=
  Sweep.filter_map_pair _ k (Sweep.nodup_visits ho _)

theorem zeroBaseline_refresh {m : List (String × ContainerCPUInfo)} {items : List TracedContainer}
    (hn : (items.map (·.container.id)).Nodup) (k : String) :
    zeroBaseline k (Sweep.refresh (·.container.id) reviveCPUIdle freshCPUIdle m items) =
      zeroBaseline k m := by
  by_cases hk : k ∈ items.map (·.container.id)
  · obtain ⟨a, ha, rfl⟩ := List.mem_map.1 hk
    unfold zeroBaseline
    rw [Sweep.lookup_refresh_of_mem hn ha]
    cases m.lookup a.container.id with
    | none => simp [Sweep.mark, freshCPUIdle]
    | some v => simp [Sweep.mark, reviveCPUIdle]
  · unfold zeroBaseline
    rw [Sweep.lookup_refresh_of_not_mem hk]

theorem lookup_refresh_of_listed {m : List (String × ContainerCPUInfo)} {items : List TracedContainer}
    (hn : (items.map (·.container.id)).Nodup) {k : String} (hk : k ∈ items.map (·.container.id)) :
    ∃ v, (Sweep.refresh (·.container.id) reviveCPUIdle freshCPUIdle m items).lookup k = some v ∧
      v.alive = true ∧ v.traceTime = traceTimeOf k m := by
  obtain ⟨a, ha, rfl⟩ := List.mem_map.1 hk
  rw [Sweep.lookup_refresh_of_mem hn ha]
  refine ⟨_, rfl, ?_, ?_⟩
  · cases m.lookup a.container.id <;> rfl
  · unfold traceTimeOf
    cases m.lookup a.container.id <;> rfl

theorem cpuIdleRound_listed {m : List (String × ContainerCPUInfo)} {rd : CpuIdleRound}
    (hn : (rd.items.map (·.container.id)).Nodup) (ho : rd.order.Nodup) {k : String}
    (hk : k ∈ rd.items.map (·.container.id)) :
    let T := ((cpuIdleSeen r threshold m rd).filter (fun p => p.1 = k)).filterMap (·.2)
    (T = [] ∧ traceTimeOf k (cpuIdleRound r threshold m rd) = traceTimeOf k m) ∨
      (T = [rd.env.now k] ∧ traceTimeOf k (cpuIdleRound r threshold m rd) = rd.env.now k ∧
        (traceTimeOf k m ≤ rd.env.now k →
          traceTimeOf k m + threshold.intervalContinuousPerf.toInt * 1000000000 ≤ rd.env.now k)) := by
  intro T
  obtain ⟨v, hl, ha, ht⟩ := lookup_refresh_of_listed (m := m) hn hk
  unfold T
  rw [cpuIdleSeen_filter ho]
  split_ifs with hv
  · obtain ⟨v', hl', -, hstop, hlook⟩ := Sweep.mem_visits ho hv
    rw [hl] at hl'
    cases hl'
    have hround : (cpuIdleRound r threshold m rd).lookup k =
        some (detectCPUIdleVisit r threshold rd.env k v).1 := hlook
    obtain ⟨-, -, hkeep⟩ := @detectCPUIdleVisit_fst r threshold rd.env k v
    rw [hstop]
    cases hvs : (detectCPUIdleVisit r threshold rd.env k v).2 with
    | none =>
      refine .inl ⟨rfl, ?_⟩
      rw [traceTimeOf, hround, Option.map_some, Option.getD_some, hkeep (by simp [hvs]), ht]
    | some st =>
      cases st with
      | panic =>
        refine .inl ⟨rfl, ?_⟩
        rw [traceTimeOf, hround, Option.map_some, Option.getD_some, hkeep (by simp [hvs]), ht]
      | found c =>
        obtain ⟨hc, -, -, htime, hgap⟩ := detectCPUIdleVisit_found hvs
        refine .inr ⟨by simp [CpuIdleStop.foundAt, htime], ?_, by rw [← ht]; exact hgap⟩
        rw [traceTimeOf, hround, Option.map_some, Option.getD_some, hc, htime]
  · refine .inl ⟨rfl, ?_⟩
    have hround : (cpuIdleRound r threshold m rd).lookup k = some v := by
      rw [← hl]
      exact Sweep.lookup_swept_of_alive ho (by rw [hl]; exact ha) hv
    rw [traceTimeOf, hround, Option.map_some, Option.getD_some, ht]

theorem isChain_le_of_le {a b : Int} {l : List Int} (hab : a ≤ b)
    (h : List.IsChain (· ≤ ·) (b :: l)) : List.IsChain (· ≤ ·) (a :: l) := by
  cases l with
  | nil => exact List.isChain_singleton a
  | cons c l =>
    obtain ⟨hbc, hl⟩ := List.isChain_cons_cons.1 h
    exact List.isChain_cons_cons.2 ⟨le_trans hab hbc, hl⟩

/-- The finds of a container that every round lists, over a run whose clock never goes back:
pairwise spaced by the gap, and each past the gap since the trace time it had at the start. -/
theorem cpuIdle_finds_spaced {k : String} :
    ∀ (m : List (String × ContainerCPUInfo)) {rounds : List CpuIdleRound},
      (∀ rd ∈ rounds, (rd.items.map (·.container.id)).Nodup ∧ rd.order.Nodup ∧
        k ∈ rd.items.map (·.container.id)) →
      List.IsChain (· ≤ ·) (traceTimeOf k m :: rounds.map fun rd => rd.env.now k) →
      let T := ((Machine.emitted (cpuIdleRound r threshold) (cpuIdleSeen r threshold) m rounds).filter
        (fun p => p.1 = k)).filterMap (·.2)
      T.Pairwise (fun t₁ t₂ => t₁ + threshold.intervalContinuousPerf.toInt * 1000000000 ≤ t₂) ∧
        ∀ t ∈ T, traceTimeOf k m + threshold.intervalContinuousPerf.toInt * 1000000000 ≤ t
  | m, [], _, _ => by simp
  | m, rd :: rds, hrounds, hclock => by
    intro T
    obtain ⟨hn, ho, hk⟩ := hrounds rd List.mem_cons_self
    rw [List.map_cons, List.isChain_cons_cons] at hclock
    obtain ⟨hnow, hclock⟩ := hclock
    have hrest := fun m' (hm' : List.IsChain (· ≤ ·) (traceTimeOf k m' :: rds.map fun rd => rd.env.now k)) =>
      cpuIdle_finds_spaced m'
        (fun rd' h => hrounds rd' (List.mem_cons_of_mem _ h)) hm'
    unfold T
    rw [Machine.emitted_cons, List.filter_append, List.filterMap_append]
    rcases @cpuIdleRound_listed r threshold m rd hn ho k hk with
      ⟨hT, hτ⟩ | ⟨hT, hτ, hgap⟩
    · -- no find: the trace time and the clock carry on
      rw [hT, List.nil_append]
      obtain ⟨hp, hall⟩ := hrest _ (by rw [hτ]; exact isChain_le_of_le hnow hclock)
      rw [hτ] at hall
      exact ⟨hp, hall⟩
    · -- a find at the time of the visit, which is the trace time from then on
      rw [hT]
      obtain ⟨hp, hall⟩ := hrest _ (by rw [hτ]; exact hclock)
      rw [hτ] at hall
      refine ⟨List.pairwise_cons.2 ⟨hall, hp⟩, fun t ht => ?_⟩
      rcases List.mem_cons.1 ht with rfl | ht
      · exact hgap hnow
      · have := hall t ht
        omega

/-- A container using a tenth of its one core, read every 10 s, is found every other round, each
find 20 s after the one before. -/
theorem cpuIdle_finds_spaced_c1 :
    let rounds : List CpuIdleRound := [0, 10, 20, 30, 40, 50].map fun s : Nat =>
      ⟨[⟨⟨"c1", "app", "host", .normal, .guaranteed, ""⟩, "/kubepods/c1", 0⟩],
        ⟨fun _ => .ok ⟨100000, 100000⟩,
          fun _ => .ok ⟨.ofNat (1000000 + s * 100000), .ofNat (1000000 + s * 100000), 0⟩,
          fun _ => (s : Int) * 1000000000⟩, ["c1"]⟩
    let threshold : CpuIdleThreshold := ⟨-1, -1, -1, 5, 5, 5, 10⟩
    (∀ rd ∈ rounds, (rd.items.map (·.container.id)).Nodup ∧ rd.order.Nodup ∧
        "c1" ∈ rd.items.map (·.container.id)) ∧
      List.IsChain (· ≤ ·) (traceTimeOf "c1" [] :: rounds.map fun rd => rd.env.now "c1") ∧
      let T := ((Machine.emitted (cpuIdleRound .exact threshold) (cpuIdleSeen .exact threshold) []
        rounds).filter (fun p => p.1 = "c1")).filterMap (·.2)
      T = [10000000000, 30000000000, 50000000000] ∧
      T.Pairwise (fun t₁ t₂ => t₁ + threshold.intervalContinuousPerf.toInt * 1000000000 ≤ t₂) ∧
        ∀ t ∈ T, traceTimeOf "c1" [] + threshold.intervalContinuousPerf.toInt * 1000000000 ≤ t :=
  ⟨by decide, by decide, by decide +kernel, cpuIdle_finds_spaced [] (by decide) (by decide)⟩

theorem isChain_flag_false {x : Bool} {l : List Bool}
    (h : List.IsChain (fun a b => a = true → b = false) (x :: l)) :
    List.IsChain (fun a b => a = true → b = false) (false :: l) := by
  cases l with
  | nil => exact List.isChain_singleton false
  | cons b l => exact List.isChain_cons_cons.2 ⟨fun h => absurd h Bool.false_ne_true, (List.isChain_cons_cons.1 h).2⟩

/-- After a find, and on a container whose entry starts with a zero baseline, as a new one does,
the next visit never finds the container: over any run of rounds, from any map, the visits of a
container that find it never come first or right after another. -/
theorem cpuIdle_rebaselines (k : String) :
    ∀ (m : List (String × ContainerCPUInfo)) {rounds : List CpuIdleRound},
      (∀ rd ∈ rounds, (rd.items.map (·.container.id)).Nodup ∧ rd.order.Nodup) →
      List.IsChain (fun a b => a = true → b = false) (zeroBaseline k m ::
        ((Machine.emitted (cpuIdleRound r threshold) (cpuIdleSeen r threshold) m rounds).filter
          (fun p => p.1 = k)).map fun p => p.2.isSome)
  | m, [], _ => List.isChain_singleton _
  | m, rd :: rds, hrounds => by
    obtain ⟨hn, ho⟩ := hrounds rd List.mem_cons_self
    have hrest := cpuIdle_rebaselines k (cpuIdleRound r threshold m rd)
      fun rd' h => hrounds rd' (List.mem_cons_of_mem _ h)
    have hz := zeroBaseline_refresh (m := m) hn k
    rw [Machine.emitted_cons, List.filter_append, List.map_append, cpuIdleSeen_filter ho]
    split_ifs with hv
    · obtain ⟨v, hl, -, hstop, hlook⟩ := Sweep.mem_visits ho hv
      have hround : (cpuIdleRound r threshold m rd).lookup k =
          some (detectCPUIdleVisit r threshold rd.env k v).1 := hlook
      rw [hstop, List.map_singleton, List.singleton_append, List.isChain_cons_cons]
      cases hvs : (detectCPUIdleVisit r threshold rd.env k v).2 with
      | none => exact ⟨fun _ => rfl, isChain_flag_false hrest⟩
      | some st =>
        cases st with
        | panic => exact ⟨fun _ => rfl, isChain_flag_false hrest⟩
        | found c =>
          obtain ⟨hc, hbase, hzero, -, -⟩ := detectCPUIdleVisit_found hvs
          refine ⟨fun h => ?_, ?_⟩
          · -- the visit took a baseline before, so the entry's baseline was not zero
            rw [← hz, zeroBaseline, hl] at h
            exact absurd (by simpa using h) hbase
          · have hz' : zeroBaseline k (cpuIdleRound r threshold m rd) = true := by
              rw [zeroBaseline, hround, hc]
              simp [hzero]
            rw [hz'] at hrest
            exact hrest
    · rw [List.map_nil, List.nil_append]
      by_cases hzm : zeroBaseline k m = true
      · have hz' : zeroBaseline k (cpuIdleRound r threshold m rd) = true := by
          rcases Sweep.lookup_swept_of_not_mem_visits ho hv with h | ⟨h, -⟩
          · have h' : (cpuIdleRound r threshold m rd).lookup k =
                (Sweep.refresh (·.container.id) reviveCPUIdle freshCPUIdle m rd.items).lookup k := h
            rw [zeroBaseline, h', ← zeroBaseline, hz, hzm]
          · have h' : (cpuIdleRound r threshold m rd).lookup k = none := h
            rw [zeroBaseline, h']
            rfl
        rw [hz'] at hrest
        rw [hzm]
        exact hrest
      · rw [Bool.not_eq_true] at hzm
        rw [hzm]
        exact isChain_flag_false hrest

theorem cpuIdle_rebaselines_c1 :
    let rounds : List CpuIdleRound := [0, 10, 20, 30, 40, 50].map fun s : Nat =>
      ⟨[⟨⟨"c1", "app", "host", .normal, .guaranteed, ""⟩, "/kubepods/c1", 0⟩],
        ⟨fun _ => .ok ⟨100000, 100000⟩,
          fun _ => .ok ⟨.ofNat (1000000 + s * 100000), .ofNat (1000000 + s * 100000), 0⟩,
          fun _ => (s : Int) * 1000000000⟩, ["c1"]⟩
    let threshold : CpuIdleThreshold := ⟨-1, -1, -1, 5, 5, 5, 10⟩
    (∀ rd ∈ rounds, (rd.items.map (·.container.id)).Nodup ∧ rd.order.Nodup) ∧
      let F := ((Machine.emitted (cpuIdleRound .exact threshold) (cpuIdleSeen .exact threshold) []
        rounds).filter (fun p => p.1 = "c1")).map fun p => p.2.isSome
      F = [false, true, false, true, false, true] ∧
      List.IsChain (fun a b => a = true → b = false) (zeroBaseline "c1" [] :: F) :=
  ⟨by decide, by decide +kernel, cpuIdle_rebaselines "c1" [] (by decide)⟩

/-- Two passes of `Start`'s loop in a row that find nothing, each over every container of its
map, as Go's `range` goes, leave the map with the containers the second listing gave and no
others: the first pass leaves every entry unmarked, and the second deletes each that
`updateContainersCPUIdle` did not mark again. -/
theorem cpuIdle_quiet_rounds_exact {m m₀₁ m₁ m₀₂ m₂ : List (String × ContainerCPUInfo)}
    {rd₁ rd₂ : CpuIdleRound}
    (hu₁ : updateContainersCPUIdle (.ok rd₁.items) m = .ok m₀₁)
    (hd₁ : detectCPUIdleContainer r threshold rd₁.env rd₁.order m₀₁ = .ok m₁)
    (hu₂ : updateContainersCPUIdle (.ok rd₂.items) m₁ = .ok m₀₂)
    (hd₂ : detectCPUIdleContainer r threshold rd₂.env rd₂.order m₀₂ = .ok m₂)
    (ho₁ : rd₁.order.Nodup) (hcover₁ : ∀ k ∈ m₀₁.map Prod.fst, k ∈ rd₁.order)
    (ho₂ : rd₂.order.Nodup) (hcover₂ : ∀ k ∈ m₀₂.map Prod.fst, k ∈ rd₂.order)
    (hn₂ : (rd₂.items.map (·.container.id)).Nodup) (k : String) :
    k ∈ m₂.map Prod.fst ↔ k ∈ rd₂.items.map (·.container.id) := by
  cases hu₁
  cases hu₂
  exact Sweep.mem_keys_of_full_rounds reviveCPUIdle_alive freshCPUIdle_alive
    (fun env k c => (@detectCPUIdleVisit_fst r threshold env k c).1) hn₂ ho₁ ho₂ hcover₁ hcover₂
    hd₁ hd₂ k

theorem cpuIdle_quiet_rounds_exact_gone :
    let c : TracedContainer := ⟨⟨"c1", "app", "host", .normal, .guaranteed, ""⟩, "/kubepods/c1", 0⟩
    let env : CpuIdleEnv := ⟨fun _ => .error "no cgroup", fun _ => .error "no cgroup", fun _ => 0⟩
    let threshold : CpuIdleThreshold := ⟨10, 10, 10, 10, 10, 10, 10⟩
    let m₀₁ := [("c1", freshCPUIdle c)]
    let m₁ := [("c1", { freshCPUIdle c with alive := false })]
    updateContainersCPUIdle (.ok [c]) [] = .ok m₀₁ ∧
      detectCPUIdleContainer .exact threshold env ["c1"] m₀₁ = .ok m₁ ∧
      updateContainersCPUIdle (.ok []) m₁ = .ok m₁ ∧
      detectCPUIdleContainer .exact threshold env ["c1"] m₁ = .ok [] ∧
      ["c1"].Nodup ∧ (∀ k ∈ m₀₁.map Prod.fst, k ∈ ["c1"]) ∧ (∀ k ∈ m₁.map Prod.fst, k ∈ ["c1"]) ∧
      (([] : List TracedContainer).map (·.container.id)).Nodup ∧
      ("c1" ∈ ([] : List (String × ContainerCPUInfo)).map Prod.fst ↔
        "c1" ∈ ([] : List TracedContainer).map (·.container.id)) := by
  intro c env threshold m₀₁ m₁
  have hd₁ : detectCPUIdleContainer .exact threshold env ["c1"] m₀₁ = .ok m₁ := rfl
  have hd₂ : detectCPUIdleContainer .exact threshold env ["c1"] m₁ = .ok [] := rfl
  have hcover₁ : ∀ k ∈ m₀₁.map Prod.fst, k ∈ ["c1"] := by decide
  have hcover₂ : ∀ k ∈ m₁.map Prod.fst, k ∈ ["c1"] := by decide
  exact ⟨rfl, hd₁, rfl, hd₂, List.nodup_singleton _, hcover₁, hcover₂, List.nodup_nil,
    @cpuIdle_quiet_rounds_exact .exact threshold [] m₀₁ m₁ m₁ [] ⟨[c], env, ["c1"]⟩ ⟨[], env, ["c1"]⟩
      rfl hd₁ rfl hd₂ (List.nodup_singleton _) hcover₁ (List.nodup_singleton _) hcover₂
      List.nodup_nil "c1"⟩

theorem map_fst_cpuIdleSeen (m : List (String × ContainerCPUInfo)) (rd : CpuIdleRound) :
    (cpuIdleSeen r threshold m rd).map Prod.fst =
      Sweep.roundVisits (·.container.id) reviveCPUIdle freshCPUIdle (·.alive)
        (detectCPUIdleVisit r threshold) m rd := by
  rw [cpuIdleSeen, List.map_map]
  exact List.map_id _

/-- A container that no round of a run lists any more has its cgroup read by the loop at most
once more, and never if its entry has no mark at the start of the run. -/
theorem cpuIdle_gone_read_once {k : String} (m : List (String × ContainerCPUInfo))
    {rounds : List CpuIdleRound}
    (hrounds : ∀ rd ∈ rounds, k ∉ rd.items.map (·.container.id) ∧ rd.order.Nodup) :
    let read := (Machine.emitted (cpuIdleRound r threshold) (cpuIdleSeen r threshold) m rounds).map
      Prod.fst
    read.count k ≤ 1 ∧ (¬(m.lookup k).any (·.alive) = true → k ∉ read) := by
  intro read
  have hread : read = Machine.emitted (cpuIdleRound r threshold)
      (Sweep.roundVisits (·.container.id) reviveCPUIdle freshCPUIdle (·.alive)
        (detectCPUIdleVisit r threshold)) m rounds := by
    simp only [read, Machine.map_emitted, map_fst_cpuIdleSeen]
  rw [hread]
  exact Sweep.count_visits_le_one (fun env k c => (@detectCPUIdleVisit_fst r threshold env k c).1)
    hrounds

theorem cpuIdle_gone_read_once_c1 :
    let c : TracedContainer := ⟨⟨"c1", "app", "host", .normal, .guaranteed, ""⟩, "/kubepods/c1", 0⟩
    let env : CpuIdleEnv := ⟨fun _ => .error "no cgroup", fun _ => .error "no cgroup", fun _ => 0⟩
    let threshold : CpuIdleThreshold := ⟨10, 10, 10, 10, 10, 10, 10⟩
    let rounds : List CpuIdleRound := [⟨[], env, ["c1"]⟩, ⟨[], env, ["c1"]⟩]
    (∀ rd ∈ rounds, "c1" ∉ rd.items.map (·.container.id) ∧ rd.order.Nodup) ∧
      let read := (Machine.emitted (cpuIdleRound .exact threshold) (cpuIdleSeen .exact threshold)
        [("c1", freshCPUIdle c)] rounds).map Prod.fst
      read.count "c1" ≤ 1 ∧ (¬(([("c1", freshCPUIdle c)] : List (String × ContainerCPUInfo)).lookup
        "c1").any (·.alive) = true → "c1" ∉ read) :=
  ⟨by decide, cpuIdle_gone_read_once _ (by decide)⟩

end Rounds

end Huatuo.Autotracing.CpuIdle
