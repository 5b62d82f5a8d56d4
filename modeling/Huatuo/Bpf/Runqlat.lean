import Huatuo.Lib.BpfMap
import Huatuo.Lib.Machine
import Huatuo.Bpf.Softirq

/-! The run-queue latency program (bpf/runqlat_tracing.c), built with `TG_ADDR_KEY`: a task
group's address keys `cpu_tg_metric`. `latency` holds the time each task was last put on a run
queue; `cpu_host_metric` is an array of one slot, so its lookup never fails and it is a record
here. The handlers run one at a time. The counters are `unsigned long`: numbers here, since a
run of 2^64 events is out of reach. -/
namespace Huatuo.Bpf

open Lib.BpfMap

def taskRunning : Int := 0

/-- The counters of `struct stat_t` and `struct g_stat_t`, by name. -/
inductive StatField
  | nvcsw
  | nivcsw
  | nlat01
  | nlat02
  | nlat03
  | nlat04
deriving DecidableEq, Repr

/-- The latency buckets. -/
def StatField.nlats : List StatField := [.nlat01, .nlat02, .nlat03, .nlat04]

/-- `struct stat_t`: the counts of one task group. -/
structure StatT where
  nvcsw : Nat
  nivcsw : Nat
  nlat01 : Nat
  nlat02 : Nat
  nlat03 : Nat
  nlat04 : Nat
deriving DecidableEq, Repr

structure GStatT where
  gNvcsw : Nat
  gNivcsw : Nat
  gNlat01 : Nat
  gNlat02 : Nat
  gNlat03 : Nat
  gNlat04 : Nat
deriving DecidableEq, Repr

/-- `struct stat_t new_stat`, every count 0. -/
def StatT.zero : StatT := ⟨0, 0, 0, 0, 0, 0⟩

def GStatT.zero : GStatT := ⟨0, 0, 0, 0, 0, 0⟩

def StatT.get (st : StatT) : StatField → Nat
  | .nvcsw => st.nvcsw
  | .nivcsw => st.nivcsw
  | .nlat01 => st.nlat01
  | .nlat02 => st.nlat02
  | .nlat03 => st.nlat03
  | .nlat04 => st.nlat04

/-- `__sync_fetch_and_add(&entry->f, 1)`. -/
def StatT.inc (st : StatT) : StatField → StatT
  | .nvcsw => { st with nvcsw := st.nvcsw + 1 }
  | .nivcsw => { st with nivcsw := st.nivcsw + 1 }
  | .nlat01 => { st with nlat01 := st.nlat01 + 1 }
  | .nlat02 => { st with nlat02 := st.nlat02 + 1 }
  | .nlat03 => { st with nlat03 := st.nlat03 + 1 }
  | .nlat04 => { st with nlat04 := st.nlat04 + 1 }

def GStatT.get (g : GStatT) : StatField → Nat
  | .nvcsw => g.gNvcsw
  | .nivcsw => g.gNivcsw
  | .nlat01 => g.gNlat01
  | .nlat02 => g.gNlat02
  | .nlat03 => g.gNlat03
  | .nlat04 => g.gNlat04

/-- `__sync_fetch_and_add(&g_entry->g_f, 1)`. -/
def GStatT.inc (g : GStatT) : StatField → GStatT
  | .nvcsw => { g with gNvcsw := g.gNvcsw + 1 }
  | .nivcsw => { g with gNivcsw := g.gNivcsw + 1 }
  | .nlat01 => { g with gNlat01 := g.gNlat01 + 1 }
  | .nlat02 => { g with gNlat02 := g.gNlat02 + 1 }
  | .nlat03 => { g with gNlat03 := g.gNlat03 + 1 }
  | .nlat04 => { g with gNlat04 := g.gNlat04 + 1 }

def GStatT.samples (g : GStatT) : Nat :=
  g.gNlat01 + g.gNlat02 + g.gNlat03 + g.gNlat04

/-- What the handlers read of a `task_struct`: `pid`, `sched_task_group` and the state. -/
structure TaskStruct where
  pid : UInt32
  schedTaskGroup : UInt64
  state : Int
deriving DecidableEq, Repr

structure RunqlatState where
  latency : Hash UInt32 UInt64
  cpuTgMetric : Hash UInt64 StatT
  cpuHostMetric : GStatT

/-- The maps as loaded: both hash maps empty with room for 10000 entries, the host slot 0. -/
def RunqlatState.init : RunqlatState :=
  ⟨Hash.empty 10000, Hash.empty 10000, GStatT.zero⟩

/-- `trace_enqueue`: the time a task other than the idle one is put on a run queue. -/
def traceEnqueue (s : RunqlatState) (pid : UInt32) (ktime : UInt64) : RunqlatState :=
  if pid = 0 then s
  else { s with latency := s.latency.updateElem pid ktime .any }

/-- The lookup of a task group's entry, a zeroed one created (`BPF_NOEXIST`) when there is
none: `none` when there still is none, and the handler returns. -/
def lookupOrInit (m : Hash UInt64 StatT) (key : UInt64) : Option (Hash UInt64 StatT) :=
  match m.lookup key with
  | some _ => some m
  | none =>
    let m := m.updateElem key StatT.zero .noexist
    if (m.lookup key).isSome then some m else none

/-- One count added to a task group's entry and to the host's: `none` when the entry cannot be
had. -/
def countIn (s : RunqlatState) (key : UInt64) (f : StatField) : Option RunqlatState :=
  (lookupOrInit s.cpuTgMetric key).map fun m =>
    { s with cpuTgMetric := m.modify key (·.inc f), cpuHostMetric := s.cpuHostMetric.inc f }

/-- The bucket of a run-queue latency: below 10, 20 and 50 ms, or more. -/
def latBucket (delta : UInt64) : StatField :=
  if delta < 10 * nsecPerMsec then .nlat01
  else if delta < 20 * nsecPerMsec then .nlat02
  else if delta < 50 * nsecPerMsec then .nlat03
  else .nlat04

/-! ## `sched_switch_entry`, in its three parts -/

/-- A task switched out while running is preempted: its time goes to `latency` as an
enqueue. -/
def recordPrev (s : RunqlatState) (prev : TaskStruct) (now : UInt64) : RunqlatState :=
  if prev.state = taskRunning ∧ prev.pid ≠ 0 then
    { s with latency := s.latency.updateElem prev.pid now .any }
  else s

/-- The voluntary or involuntary switch counted for `prev`'s group: `none` when the handler
returns because the group's entry cannot be had. -/
def countSwitch (s : RunqlatState) (prev : TaskStruct) : Option RunqlatState :=
  let key := prev.schedTaskGroup
  let isVoluntary := prev.state ≠ taskRunning
  if key ≠ 0 ∧ prev.pid ≠ 0 then countIn s key (if isVoluntary then .nvcsw else .nivcsw)
  else some s

/-- The run-queue latency of `next`, from its enqueue time, which it consumes. -/
def countLatency (s : RunqlatState) (next : TaskStruct) (now : UInt64) : RunqlatState :=
  if next.pid = 0 then s
  else
    match s.latency.lookup next.pid with
    | none => s
    | some ts =>
      if ts = 0 then s
      else
        let delta := now - ts
        let s := { s with latency := s.latency.delete next.pid }
        let key := next.schedTaskGroup
        if key ≠ 0 then (countIn s key (latBucket delta)).getD s else s

/-- `sched_switch_entry`, with the two clock readings it makes. -/
def schedSwitchEntry (s : RunqlatState) (prev next : TaskStruct) (now₁ now₂ : UInt64) : RunqlatState :=
  let s := recordPrev s prev now₁
  match countSwitch s prev with
  | none => s
  | some s => countLatency s next now₂

def schedProcessExitEntry (s : RunqlatState) (pid : UInt32) : RunqlatState :=
  if (s.latency.lookup pid).isSome then { s with latency := s.latency.delete pid } else s

def freeFairSchedGroupEntry (s : RunqlatState) (tg : UInt64) : RunqlatState :=
  if (s.cpuTgMetric.lookup tg).isSome then { s with cpuTgMetric := s.cpuTgMetric.delete tg } else s

inductive RunqlatEvent
  | schedWakeup (pid : UInt32) (ktime : UInt64)
  | schedWakeupNew (pid : UInt32) (ktime : UInt64)
  | schedSwitch (prev next : TaskStruct) (now₁ now₂ : UInt64)
  | schedProcessExit (pid : UInt32)
  | freeFairSchedGroup (tg : UInt64)
deriving DecidableEq, Repr

def RunqlatEvent.handle (s : RunqlatState) : RunqlatEvent → RunqlatState
  | .schedWakeup pid ktime => traceEnqueue s pid ktime
  | .schedWakeupNew pid ktime => traceEnqueue s pid ktime
  | .schedSwitch prev next now₁ now₂ => schedSwitchEntry s prev next now₁ now₂
  | .schedProcessExit pid => schedProcessExitEntry s pid
  | .freeFairSchedGroup tg => freeFairSchedGroupEntry s tg

/-- The enqueue times an event records: a wakeup of a task other than the idle one, and a
switch away from a running one. -/
def RunqlatEvent.records : RunqlatEvent → Nat
  | .schedWakeup pid _ | .schedWakeupNew pid _ => if pid = 0 then 0 else 1
  | .schedSwitch prev _ _ _ => if prev.state = taskRunning ∧ prev.pid ≠ 0 then 1 else 0
  | .schedProcessExit _ | .freeFairSchedGroup _ => 0

/-- Whether the event deletes a task group's entry. -/
def RunqlatEvent.deletesGroup (s : RunqlatState) : RunqlatEvent → Bool
  | .freeFairSchedGroup tg => (s.cpuTgMetric.lookup tg).isSome
  | _ => false

end Huatuo.Bpf
