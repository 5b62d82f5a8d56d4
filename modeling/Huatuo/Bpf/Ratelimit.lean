import Mathlib

/-! The rate limiter of the BPF programs (bpf/include/bpf_ratelimit.h): `bpf_ratelimited` on
one `struct bpf_ratelimit`, and `bpf_ratelimited_core_in_map`, which keeps the struct in the one
slot of an array map and reports to a perf map. The fields are `uint64_t` and wrap; a call
reads the clock as `bpf_ktime_get_ns()`, and calls run one at a time. -/
namespace Huatuo.Bpf

structure BpfRatelimit where
  interval : UInt64
  begin : UInt64
  burst : UInt64
  maxBurst : UInt64
  events : UInt64
  nmissed : UInt64
  totalEvents : UInt64
  totalNmissed : UInt64
  totalInterval : UInt64
deriving DecidableEq, Repr

/-- A slot of an array map before anything is written to it: every field 0. -/
def BpfRatelimit.zero : BpfRatelimit :=
  ⟨0, 0, 0, 0, 0, 0, 0, 0, 0⟩

/-- `BPF_RATELIMIT(name, interval, burst)`. -/
def bpfRatelimit (interval burst : UInt64) : BpfRatelimit :=
  ⟨interval, 0, burst, 0, 0, 0, 0, 0, 0⟩

/-- `bpf_ktime_get_ns() / 1000000000`, the second a call is made in. -/
def curr (ktime : UInt64) : UInt64 :=
  ktime / 1000000000

namespace BpfRatelimit

/-- A `begin` of 0 is unset, and the call sets it. -/
def start (rate : BpfRatelimit) (curr : UInt64) : BpfRatelimit :=
  if rate.begin = 0 then { rate with begin := curr } else rate

/-- `curr > rate->begin + rate->interval`, in 64 bits. -/
def opens (rate : BpfRatelimit) (curr : UInt64) : Bool :=
  decide (rate.begin + rate.interval < curr)

def roll (rate : BpfRatelimit) (curr : UInt64) : BpfRatelimit :=
  if rate.opens curr then
    { rate with
      totalInterval := rate.totalInterval + (curr - rate.begin)
      begin := curr
      events := 0
      nmissed := 0 }
  else rate

/-- The call counted in its window: within the burst it passes (`false`), past it it is over
the threshold (`true`). -/
def count (rate : BpfRatelimit) : Bool × BpfRatelimit :=
  if rate.burst ≠ 0 ∧ rate.events < rate.burst then
    (false, { rate with events := rate.events + 1, totalEvents := rate.totalEvents + 1 })
  else (true, { rate with nmissed := rate.nmissed + 1, totalNmissed := rate.totalNmissed + 1 })

/-- The first call on a zeroed map slot fills it in from the config. -/
def init (rate cfg : BpfRatelimit) : BpfRatelimit :=
  if rate.interval = 0 then
    { rate with interval := cfg.interval, burst := cfg.burst, maxBurst := cfg.maxBurst }
  else rate

end BpfRatelimit

/-- `bpf_ratelimited`: whether the call at `ktime` is over the threshold, and the limiter after
it. The pointer is never `NULL` here: it is a `BPF_RATELIMIT` global or a checked map slot. -/
def bpfRatelimited (rate : BpfRatelimit) (ktime : UInt64) : Bool × BpfRatelimit :=
  if rate.interval = 0 then (false, rate)
  else ((rate.start (curr ktime)).roll (curr ktime)).count

/-- `bpf_ratelimited_core_in_map` on the map's slot (`none` when the lookup fails): its return,
the slot after it, and the record it sends to the perf map. -/
def bpfRatelimitedCoreInMap (cfg : BpfRatelimit) (slot : Option BpfRatelimit) (ktime : UInt64) :
    Bool × Option BpfRatelimit × Option BpfRatelimit :=
  match slot with
  | none => (false, none, none)
  | some rate =>
    let rate := rate.init cfg
    let oldNmissed := rate.nmissed
    match bpfRatelimited rate ktime with
    | (false, rate) => (false, some rate, none)
    | (true, rate) =>
      if oldNmissed = 0 ∨ (0 < rate.maxBurst ∧ rate.maxBurst - rate.burst < rate.nmissed) then
        (true, some rate, some rate)
      else (true, some rate, none)

/-! ## Runs -/

/-- Whether the call at `ktime` opens a new window: the test `bpf_ratelimited` makes. -/
def BpfRatelimit.opensAt (rate : BpfRatelimit) (ktime : UInt64) : Bool :=
  rate.interval ≠ 0 && (rate.start (curr ktime)).opens (curr ktime)

/-- Calls of `bpf_ratelimited` at the times `ts`, one after another: for each, whether it
opened a new window and what it returned; and the limiter after them. -/
def ratelimitedRun (rate : BpfRatelimit) : List UInt64 → List (Bool × Bool) × BpfRatelimit
  | [] => ([], rate)
  | t :: ts =>
    let run := ratelimitedRun (bpfRatelimited rate t).2 ts
    ((rate.opensAt t, (bpfRatelimited rate t).1) :: run.1, run.2)

/-- A run's calls cut into windows, `cur` the calls of the window still open. -/
def windowsFrom {α : Type} (cur : List α) : List (Bool × α) → List (List α)
  | [] => [cur]
  | (opened, a) :: rest => if opened then cur :: windowsFrom [a] rest else windowsFrom (cur ++ [a]) rest

def windows {α : Type} (calls : List (Bool × α)) : List (List α) :=
  windowsFrom [] calls

/-- The answers to the `n` calls of one window: the `i`-th is over the threshold just when
`burst` calls came before it. -/
def overBurst (burst n : Nat) : List Bool :=
  (List.range n).map fun i => decide (burst ≤ i)

/-- The `begin` a run sets first: the first second other than 0 a call is made in. -/
def firstBegin (ts : List UInt64) : UInt64 :=
  ((ts.map curr).find? (· ≠ 0)).getD 0

end Huatuo.Bpf
