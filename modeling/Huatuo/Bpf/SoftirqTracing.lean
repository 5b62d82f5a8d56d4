import Huatuo.Bpf.Ratelimit
import Huatuo.Lib.Machine
import Huatuo.Lib.Strings
import Mathlib

/-! The tick-stall detector `softirq_tracing` (bpf/softirq_tracing.c, core/events/
softirq_tracing.go). Every CPU keeps one `struct timer_softirq_run_ts` in the per-CPU array
`timerts_map`: whether its tick is traced, whether the tick was just restarted, and the time of
the last tick it saw. `account_process_tick` runs on each tick of a CPU: past the rate limiter,
which all CPUs share, it reports the CPU when the time since its last tick is at least
`softirq_thresh`. `tick_stop` stops the tracing of a CPU whose tick is stopped, and
`tick_nohz_restart_sched_tick` starts it again. The Go side drops the reports of `ksoftirqd` and
`swapper` and saves the others.

The lookups of key 0 in the one-slot per-CPU arrays never fail, and a probe reads the clock
(`bpf_ktime_get_ns()`) once: both are so here. -/
namespace Huatuo.Bpf

open Lib

structure TimerSoftirqRunTs where
  startTrace : UInt32
  restartingTick : UInt32
  softTs : UInt64
deriving DecidableEq, Repr

/-- A slot of `timerts_map` before any probe writes it. -/
def TimerSoftirqRunTs.zero : TimerSoftirqRunTs :=
  ⟨0, 0, 0⟩

/-- What a probe reads of the task it interrupts: `bpf_get_current_comm`, the pid of
`bpf_get_current_pid_tgid`, and what `bpf_get_stack` returns and writes. -/
structure TaskCtx where
  comm : String
  pid : UInt32
  stackSize : Int64
  stack : List UInt64
deriving DecidableEq, Repr

/-- `struct report_event` as `probe_account_process_tick` sends it to `irqoff_event_map`. -/
structure ReportEvent where
  stack : List UInt64
  stackSize : Int64
  now : UInt64
  stallTime : UInt64
  comm : String
  pid : UInt32
  cpu : UInt32
deriving DecidableEq, Repr

/-- `SOFTIRQ_THRESH`, the default of `softirq_thresh`: 5 ms. -/
def softirqThreshDefault : UInt64 := 5000000

def compatCpuNum : UInt64 := 128

/-- `BPF_RATELIMIT(rate, 1, COMPAT_CPU_NUM * TICK * 1000)`, with `TICK` 1000. -/
def softirqTracingRate : BpfRatelimit :=
  bpfRatelimit 1 (compatCpuNum * 1000 * 1000)

def tickDepMaskNone : Int := 0

/-- `probe_account_process_tick` on CPU `cpu` at `now`, past the rate limiter: the slot after
it and the event it sends. -/
def accountTick (softirqThresh : UInt64) (ts : TimerSoftirqRunTs) (cpu : UInt32) (now : UInt64)
    (task : TaskCtx) : TimerSoftirqRunTs × Option ReportEvent :=
  if ts.startTrace = 0 then (ts, none)
  else if ts.softTs = 0 then ({ ts with softTs := now }, none)
  -- the first tick after a restart only takes the time
  else if ts.restartingTick ≠ 0 then ({ ts with restartingTick := 0, softTs := now }, none)
  else
    let delta := now - ts.softTs
    ({ ts with softTs := now },
      if delta ≥ softirqThresh then
        some ⟨task.stack, task.stackSize, now, delta, task.comm, task.pid, cpu⟩
      else none)

/-- `probe_account_process_tick`: the limiter after it, the CPU's slot and the event sent. -/
def probeAccountProcessTick (softirqThresh : UInt64) (rate : BpfRatelimit) (ts : TimerSoftirqRunTs)
    (cpu : UInt32) (now : UInt64) (task : TaskCtx) :
    BpfRatelimit × TimerSoftirqRunTs × Option ReportEvent :=
  let limited := bpfRatelimited rate now
  if limited.1 then (limited.2, ts, none)
  else (limited.2, accountTick softirqThresh ts cpu now task)

/-- `probe_tick_stop` with the tracepoint's `success` and `dependency`. -/
def probeTickStop (ts : TimerSoftirqRunTs) (success dependency : Int) : TimerSoftirqRunTs :=
  if success = 1 ∧ dependency = tickDepMaskNone then { ts with startTrace := 0 } else ts

/-- `probe_tick_nohz_restart_sched_tick` at `now`. -/
def probeTickNohzRestartSchedTick (ts : TimerSoftirqRunTs) (now : UInt64) : TimerSoftirqRunTs :=
  { ts with softTs := now, startTrace := 1, restartingTick := 1 }

/-- The program's state: the limiter, and the slot of `timerts_map` of each CPU. -/
structure SoftirqTracingState where
  rate : BpfRatelimit
  timerts : UInt32 → TimerSoftirqRunTs

/-- The state after loading: the limiter as declared, every slot zero. -/
def SoftirqTracingState.init (rate : BpfRatelimit) : SoftirqTracingState :=
  ⟨rate, fun _ => .zero⟩

inductive TickProbe
  | accountProcessTick (cpu : UInt32) (now : UInt64) (task : TaskCtx)
  | tickStop (cpu : UInt32) (success dependency : Int)
  | tickNohzRestartSchedTick (cpu : UInt32) (now : UInt64)

/-- One probe run: the state after it, and the event it sends. -/
def softirqTracingStep (softirqThresh : UInt64) (s : SoftirqTracingState) :
    TickProbe → SoftirqTracingState × Option ReportEvent
  | .accountProcessTick cpu now task =>
    let r := probeAccountProcessTick softirqThresh s.rate (s.timerts cpu) cpu now task
    (⟨r.1, Function.update s.timerts cpu r.2.1⟩, r.2.2)
  | .tickStop cpu success dependency =>
    (⟨s.rate, Function.update s.timerts cpu (probeTickStop (s.timerts cpu) success dependency)⟩,
      none)
  | .tickNohzRestartSchedTick cpu now =>
    (⟨s.rate, Function.update s.timerts cpu (probeTickNohzRestartSchedTick (s.timerts cpu) now)⟩,
      none)

/-- `SoftirqTracingData`, what the Go side saves of a report; the stack is the addresses it
symbolizes. -/
structure SoftirqTracingData where
  offTime : UInt64
  threshold : UInt64
  comm : String
  pid : UInt32
  cpu : UInt32
  now : UInt64
  stack : List UInt64
deriving DecidableEq, Repr

/-- The body of `Start`'s loop on a report read from the perf buffer: the record it saves, none
for a report of `ksoftirqd` or of `swapper`. -/
def softirqTracingRecord (softirqThresh : UInt64) (data : ReportEvent) : Option SoftirqTracingData :=
  if Strings.hasPrefix data.comm "ksoftirqd" then none
  -- stop recording the noise from swapper
  else if Strings.hasPrefix data.comm "swapper" then none
  else
    some ⟨data.stallTime, softirqThresh, data.comm, data.pid, data.cpu, data.now,
      if data.stackSize > 0 then data.stack else []⟩

/-! ## What a CPU's slot stands for

A CPU's tick is either not traced, just restarted, or traced since a tick at a known time. Of
the ticks the limiter lets through, the first after a restart takes the time, and each later one
reports the time since the one before when it is at least the threshold. -/

/-- What a CPU's monitor sees: a tick the limiter let through, a stop of the tick, a restart. -/
inductive TickSeen
  | tick (now : UInt64)
  | stop
  | restart
deriving DecidableEq, Repr

inductive TickMode
  | off
  | restarted
  | since (last : UInt64)
deriving DecidableEq, Repr

namespace TickMode

def step : TickMode → TickSeen → TickMode
  | _, .stop => .off
  | _, .restart => .restarted
  | .off, .tick _ => .off
  | .restarted, .tick now => .since now
  | .since _, .tick now => .since now

/-- The stall a tick reports, as its time and the time since the tick before. -/
def stalls (thresh : UInt64) : TickMode → TickSeen → List (UInt64 × UInt64)
  | .since last, .tick now => if now - last ≥ thresh then [(now, now - last)] else []
  | _, _ => []

@[simp] theorem step_tick_of_ne_off {m : TickMode} (hm : m ≠ .off) (now : UInt64) :
    m.step (.tick now) = .since now := by
  cases m
  · exact absurd rfl hm
  · rfl
  · rfl

@[simp] theorem stalls_restarted (thresh : UInt64) (e : TickSeen) : restarted.stalls thresh e = [] := by
  cases e <;> rfl

@[simp] theorem step_stop (m : TickMode) : m.step .stop = .off := by
  cases m <;> rfl

@[simp] theorem step_restart (m : TickMode) : m.step .restart = .restarted := by
  cases m <;> rfl

@[simp] theorem stalls_stop (thresh : UInt64) (m : TickMode) : m.stalls thresh .stop = [] := by
  cases m <;> rfl

@[simp] theorem stalls_restart (thresh : UInt64) (m : TickMode) : m.stalls thresh .restart = [] := by
  cases m <;> rfl

end TickMode

/-- The stalls at or over the threshold between consecutive ticks, the first at `last`. -/
def tickGaps (thresh last : UInt64) (ticks : List UInt64) : List (UInt64 × UInt64) :=
  ((last :: ticks).zip ticks).filterMap fun p =>
    if p.2 - p.1 ≥ thresh then some (p.2, p.2 - p.1) else none

def TimerSoftirqRunTs.mode (ts : TimerSoftirqRunTs) : TickMode :=
  if ts.startTrace = 0 then .off
  else if ts.restartingTick ≠ 0 then .restarted
  else .since ts.softTs

/-- What a slot keeps when the clock never reads 0: a traced CPU has the time of a tick. -/
def TimerSoftirqRunTs.Inv (ts : TimerSoftirqRunTs) : Prop :=
  ts.startTrace ≠ 0 → ts.softTs ≠ 0

/-- A probe's clock reading is not 0, as the time since boot never is when a probe runs. -/
def TickProbe.ClockSet : TickProbe → Prop
  | .accountProcessTick _ now _ => now ≠ 0
  | .tickStop _ _ _ => True
  | .tickNohzRestartSchedTick _ now => now ≠ 0

instance : DecidablePred TickProbe.ClockSet := fun e => by
  cases e <;> unfold TickProbe.ClockSet <;> infer_instance

/-- What CPU `c`'s monitor sees of a probe run in state `s`. -/
def tickSeen (c : UInt32) (s : SoftirqTracingState) : TickProbe → List TickSeen
  | .accountProcessTick cpu now _ =>
    if cpu = c ∧ (bpfRatelimited s.rate now).1 = false then [.tick now] else []
  | .tickStop cpu success dependency =>
    if cpu = c ∧ success = 1 ∧ dependency = tickDepMaskNone then [.stop] else []
  | .tickNohzRestartSchedTick cpu _ => if cpu = c then [.restart] else []

/-- The stalls a probe run reports of CPU `c`, as their time and stall time. -/
def cpuStalls (softirqThresh : UInt64) (c : UInt32) (s : SoftirqTracingState) (e : TickProbe) :
    List (UInt64 × UInt64) :=
  ((softirqTracingStep softirqThresh s e).2.toList.filter fun r => r.cpu = c).map
    fun r => (r.now, r.stallTime)

section Slot

variable {thresh : UInt64} {ts : TimerSoftirqRunTs}

theorem inv_zero : TimerSoftirqRunTs.zero.Inv := fun h => absurd rfl h

theorem accountTick_spec (h : ts.Inv) {now : UInt64} (hnow : now ≠ 0) (cpu : UInt32) (task : TaskCtx) :
    (accountTick thresh ts cpu now task).1.mode = ts.mode.step (.tick now) ∧
      (accountTick thresh ts cpu now task).1.Inv ∧
      (∀ r ∈ (accountTick thresh ts cpu now task).2, r.cpu = cpu) ∧
      ((accountTick thresh ts cpu now task).2.toList.map fun r => (r.now, r.stallTime)) =
        ts.mode.stalls thresh (.tick now) := by
  unfold accountTick
  by_cases hs : ts.startTrace = 0
  · have hm : ts.mode = .off := if_pos hs
    rw [if_pos hs]
    exact ⟨by rw [hm]; rfl, h, fun r hr => absurd hr (Option.not_mem_none r), by rw [hm]; rfl⟩
  rw [if_neg hs, if_neg (h hs)]
  by_cases hr : ts.restartingTick ≠ 0
  · -- the first tick after a restart
    have hm : ts.mode = .restarted := by rw [TimerSoftirqRunTs.mode, if_neg hs, if_pos hr]
    rw [if_pos hr, hm]
    refine ⟨?_, fun _ => hnow, fun r hr => absurd hr (Option.not_mem_none r), rfl⟩
    simp [TimerSoftirqRunTs.mode, hs, TickMode.step]
  · have hm : ts.mode = .since ts.softTs := by rw [TimerSoftirqRunTs.mode, if_neg hs, if_neg hr]
    rw [if_neg hr, hm]
    refine ⟨?_, fun _ => hnow, fun r hr => ?_, ?_⟩
    · simp only [TimerSoftirqRunTs.mode, hs, if_false, hr, TickMode.step]
    · dsimp only at hr
      split_ifs at hr with hd
      · cases hr
        rfl
      · exact absurd hr (Option.not_mem_none r)
    · dsimp only [TickMode.stalls]
      split_ifs <;> rfl

theorem probeTickStop_spec (h : ts.Inv) (success dependency : Int) :
    (probeTickStop ts success dependency).mode =
        (if success = 1 ∧ dependency = tickDepMaskNone then TickMode.off else ts.mode) ∧
      (probeTickStop ts success dependency).Inv := by
  unfold probeTickStop
  split_ifs
  · exact ⟨rfl, fun h0 => absurd rfl h0⟩
  · exact ⟨rfl, h⟩

theorem probeTickNohzRestartSchedTick_spec {now : UInt64} (hnow : now ≠ 0) :
    (probeTickNohzRestartSchedTick ts now).mode = .restarted ∧
      (probeTickNohzRestartSchedTick ts now).Inv :=
  ⟨rfl, fun _ => hnow⟩

end Slot

/-! ## Every CPU, over any interleaving -/

def softirqTracingNext (softirqThresh : UInt64) (s : SoftirqTracingState) (e : TickProbe) :
    SoftirqTracingState :=
  (softirqTracingStep softirqThresh s e).1

def SoftirqTracingState.Inv (s : SoftirqTracingState) : Prop :=
  ∀ c, (s.timerts c).Inv

theorem SoftirqTracingState.inv_init (rate : BpfRatelimit) : (SoftirqTracingState.init rate).Inv :=
  fun _ => inv_zero

theorem cpu_filter_of_eq {o : Option ReportEvent} {c : UInt32} (h : ∀ r ∈ o, r.cpu = c) :
    (o.toList.filter fun r => r.cpu = c) = o.toList := by
  cases o with
  | none => rfl
  | some r => simp [h r rfl]

theorem cpu_filter_of_ne {o : Option ReportEvent} {c cpu : UInt32} (h : ∀ r ∈ o, r.cpu = cpu)
    (hc : cpu ≠ c) : (o.toList.filter fun r => r.cpu = c) = [] := by
  cases o with
  | none => rfl
  | some r => simp [h r rfl, hc]

section Run

variable {thresh : UInt64}

theorem softirqTracingStep_spec {s : SoftirqTracingState} (hs : s.Inv) {e : TickProbe}
    (he : e.ClockSet) (c : UInt32) :
    ((softirqTracingNext thresh s e).timerts c).Inv ∧
      ((softirqTracingNext thresh s e).timerts c).mode =
        Machine.run TickMode.step (s.timerts c).mode (tickSeen c s e) ∧
      cpuStalls thresh c s e =
        Machine.emitted TickMode.step (TickMode.stalls thresh) (s.timerts c).mode (tickSeen c s e) := by
  unfold softirqTracingNext cpuStalls
  cases e with
  | accountProcessTick cpu now task =>
    have hnow : now ≠ 0 := he
    simp only [softirqTracingStep, probeAccountProcessTick, tickSeen]
    by_cases hcpu : cpu = c
    · subst hcpu
      rw [Function.update_self]
      by_cases hl : (bpfRatelimited s.rate now).1 = true
      · -- a tick the limiter drops is not seen
        simp only [hl, if_true, Option.toList_none, List.filter_nil, List.map_nil]
        exact ⟨hs cpu, rfl, rfl⟩
      · obtain ⟨hmode, hinv, hcpu', hstalls⟩ := @accountTick_spec thresh _ (hs cpu) _ hnow cpu task
        simp only [hl, if_false, true_and, Bool.false_eq_true, ite_true]
        rw [cpu_filter_of_eq hcpu', hstalls]
        exact ⟨hinv, hmode, (List.append_nil _).symm⟩
    · rw [Function.update_of_ne (Ne.symm hcpu)]
      simp only [hcpu, false_and, if_false]
      refine ⟨hs c, rfl, ?_⟩
      split_ifs
      · rfl
      · rw [cpu_filter_of_ne (@accountTick_spec thresh _ (hs cpu) _ hnow cpu task).2.2.1 hcpu]
        rfl
  | tickStop cpu success dependency =>
    simp only [softirqTracingStep, tickSeen, Option.toList_none, List.filter_nil, List.map_nil]
    by_cases hcpu : cpu = c
    · subst hcpu
      rw [Function.update_self]
      obtain ⟨hmode, hinv⟩ := probeTickStop_spec (hs cpu) success dependency
      rw [hmode]
      simp only [true_and]
      split_ifs
      · exact ⟨hinv, (TickMode.step_stop (s.timerts cpu).mode).symm, by rw [Machine.emitted_cons, TickMode.stalls_stop]; rfl⟩
      · exact ⟨hinv, rfl, rfl⟩
    · rw [Function.update_of_ne (Ne.symm hcpu)]
      simp only [hcpu, false_and, if_false]
      exact ⟨hs c, rfl, rfl⟩
  | tickNohzRestartSchedTick cpu now =>
    have hnow : now ≠ 0 := he
    simp only [softirqTracingStep, tickSeen, Option.toList_none, List.filter_nil, List.map_nil]
    by_cases hcpu : cpu = c
    · subst hcpu
      rw [Function.update_self]
      obtain ⟨hmode, hinv⟩ := @probeTickNohzRestartSchedTick_spec (s.timerts cpu) _ hnow
      rw [hmode, if_pos rfl]
      exact ⟨hinv, (TickMode.step_restart (s.timerts cpu).mode).symm, by rw [Machine.emitted_cons, TickMode.stalls_restart]; rfl⟩
    · rw [Function.update_of_ne (Ne.symm hcpu)]
      simp only [hcpu, if_false]
      exact ⟨hs c, rfl, rfl⟩

theorem softirqTracingNext_inv {s : SoftirqTracingState} (hs : s.Inv) {e : TickProbe}
    (he : e.ClockSet) : (softirqTracingNext thresh s e).Inv :=
  fun c => (softirqTracingStep_spec hs he c).1

/-- Over any interleaving of the probes on all CPUs, from a state every slot of which keeps the
invariant, the program reports of each CPU what its monitor reports over what it sees: the
ticks the shared limiter lets through, the stops and the restarts of that CPU alone. -/
theorem softirqTracing_cpu_view (c : UInt32) {s : SoftirqTracingState} (hs : s.Inv)
    {es : List TickProbe} (hes : ∀ e ∈ es, e.ClockSet) :
    Machine.emitted (softirqTracingNext thresh) (cpuStalls thresh c) s es =
      Machine.emitted TickMode.step (TickMode.stalls thresh) (s.timerts c).mode
        (Machine.emitted (softirqTracingNext thresh) (tickSeen c) s es) :=
  Machine.emitted_view (fun s => (s.timerts c).mode) (tickSeen c)
    (fun s e (hs : s.Inv) (he : e.ClockSet) => softirqTracingNext_inv hs he)
    (fun s e (hs : s.Inv) (he : e.ClockSet) => (softirqTracingStep_spec hs he c).2.1)
    (fun s e (hs : s.Inv) (he : e.ClockSet) => (softirqTracingStep_spec hs he c).2.2) hs hes

end Run

/-! ## What a CPU's monitor reports -/

section Monitor

variable {thresh : UInt64}

theorem tickGaps_cons (last now : UInt64) (ticks : List UInt64) :
    tickGaps thresh last (now :: ticks) =
      (if now - last ≥ thresh then [(now, now - last)] else []) ++ tickGaps thresh now ticks := by
  unfold tickGaps
  rw [List.zip_cons_cons, List.filterMap_cons]
  split_ifs <;> rfl

theorem emitted_since_ticks : ∀ (last : UInt64) (ticks : List UInt64),
    Machine.emitted TickMode.step (TickMode.stalls thresh) (.since last) (ticks.map .tick) =
      tickGaps thresh last ticks
  | last, [] => rfl
  | last, now :: ticks => by
    rw [List.map_cons, Machine.emitted_cons, tickGaps_cons,
      TickMode.step_tick_of_ne_off (by simp) now, emitted_since_ticks now ticks]
    rfl

theorem eq_tick_of_step_eq_since {m : TickMode} {e : TickSeen} {last : UInt64}
    (h : m.step e = .since last) : e = .tick last := by
  cases e with
  | tick now => cases m <;> simp_all [TickMode.step]
  | stop => simp at h
  | restart => simp at h

/-- Every stall the monitor reports is at or over the threshold, and is the gap between two
ticks it saw one right after the other; `hist` is what it saw before. -/
theorem stalls_infix : ∀ (hist l : List TickSeen) (m : TickMode),
    (∀ last, m = .since last → [.tick last] <:+ hist) →
    ∀ p ∈ Machine.emitted TickMode.step (TickMode.stalls thresh) m l,
      thresh ≤ p.2 ∧ [.tick (p.1 - p.2), .tick p.1] <:+: hist ++ l
  | _, [], _, _, p, hp => absurd hp List.not_mem_nil
  | hist, e :: l, m, hm, p, hp => by
    rw [Machine.emitted_cons, List.mem_append] at hp
    rcases hp with hp | hp
    · -- the tick `e` reports the gap since the tick that ends `hist`
      cases m with
      | since last =>
        cases e with
        | tick now =>
          simp only [TickMode.stalls] at hp
          split_ifs at hp with hge
          · rw [List.mem_singleton] at hp
            subst hp
            obtain ⟨pre, hpre⟩ := hm last rfl
            refine ⟨hge, ⟨pre, l, ?_⟩⟩
            rw [sub_sub_cancel now last, ← hpre]
            simp
          · exact absurd hp List.not_mem_nil
        | stop => simp at hp
        | restart => simp at hp
      | off => cases e <;> simp [TickMode.stalls] at hp
      | restarted => cases e <;> simp [TickMode.stalls] at hp
    · have ih := stalls_infix (hist ++ [e]) l (m.step e)
        (fun last h => by rw [eq_tick_of_step_eq_since h]; exact List.suffix_append _ _) p hp
      rw [List.append_assoc, List.singleton_append] at ih
      exact ih

end Monitor

/-- What the program reports of CPU `c`, over a run from the loaded state: every stall is at or
over the threshold and is the gap between two ticks of `c`, one right after the other among
those the limiter let through, with no stop or restart of its tick between; and after the last
restart of its tick, the stalls reported are exactly the gaps at or over the threshold between
its consecutive ticks, the first tick only taking the time. -/
theorem softirqTracing_reports {thresh : UInt64} (rate : BpfRatelimit) (c : UInt32)
    {es : List TickProbe} (hes : ∀ e ∈ es, e.ClockSet) :
    let seen := Machine.emitted (softirqTracingNext thresh) (tickSeen c) (.init rate) es
    let reported := Machine.emitted (softirqTracingNext thresh) (cpuStalls thresh c) (.init rate) es
    (∀ p ∈ reported, thresh ≤ p.2 ∧ [.tick (p.1 - p.2), .tick p.1] <:+: seen) ∧
      ∀ (pre : List TickSeen) (t₀ : UInt64) (ticks : List UInt64),
        seen = pre ++ .restart :: .tick t₀ :: ticks.map .tick →
        ∃ earlier, reported = earlier ++ tickGaps thresh t₀ ticks := by
  intro seen reported
  have hview : reported = Machine.emitted TickMode.step (TickMode.stalls thresh) .off seen :=
    softirqTracing_cpu_view c (SoftirqTracingState.inv_init rate) hes
  refine ⟨fun p hp => ?_, fun pre t₀ ticks hseen => ?_⟩
  · rw [hview] at hp
    have h := stalls_infix [] seen .off (fun _ h => by cases h) p hp
    rwa [List.nil_append] at h
  · rw [hview, hseen, Machine.emitted_append]
    refine ⟨_, congrArg _ ?_⟩
    rw [Machine.emitted_cons, Machine.emitted_cons, TickMode.stalls_restart, TickMode.step_restart,
      TickMode.stalls_restarted, TickMode.step_tick_of_ne_off (by simp) t₀, emitted_since_ticks]
    rfl

theorem softirqTracing_reports_cpu0 :
    let task : TaskCtx := ⟨"app", 42, 0, []⟩
    let es : List TickProbe := [.tickNohzRestartSchedTick 0 1000, .accountProcessTick 0 2000 task,
      .accountProcessTick 1 2500 task, .accountProcessTick 0 9000000 task,
      .accountProcessTick 0 9500000 task]
    (∀ e ∈ es, e.ClockSet) ∧
      let seen := Machine.emitted (softirqTracingNext softirqThreshDefault) (tickSeen 0)
        (.init softirqTracingRate) es
      let reported := Machine.emitted (softirqTracingNext softirqThreshDefault)
        (cpuStalls softirqThreshDefault 0) (.init softirqTracingRate) es
      (∀ p ∈ reported, softirqThreshDefault ≤ p.2 ∧ [.tick (p.1 - p.2), .tick p.1] <:+: seen) ∧
        ∀ (pre : List TickSeen) (t₀ : UInt64) (ticks : List UInt64),
          seen = pre ++ .restart :: .tick t₀ :: ticks.map .tick →
          ∃ earlier, reported = earlier ++ tickGaps softirqThreshDefault t₀ ticks :=
  ⟨by decide, softirqTracing_reports softirqTracingRate 0 (by decide)⟩

end Huatuo.Bpf
