import Mathlib

/-! The softirq latency program (bpf/softirq.c) and its exporter (core/metrics/softirq.go).
`softirq_percpu_lats` is a per-CPU array: every CPU has its own slot for each vector, zeroed
when the map is created, and the two handlers of one CPU run one at a time on its slots. So
one CPU's slots are a function of the vector, and a CPU's run is a fold of its events. -/
namespace Huatuo.Bpf

def nrSoftirqs : UInt32 := 10

/-- `NR_SOFTIRQS_MAX`, the number of slots of the array. -/
def nrSoftirqsMax : UInt32 := 16

def nsecPerUsec : UInt64 := 1000

def nsecPerMsec : UInt64 := 1000000

/-- `enum lat_zone`: 0 to 10us, 10us to 100us, 100us to 1ms, 1ms and more. -/
inductive LatZone
  | zone0
  | zone1
  | zone2
  | zone3
deriving DecidableEq, Repr

def LatZone.all : List LatZone := [.zone0, .zone1, .zone2, .zone3]

def LatZone.toNat : LatZone → Nat
  | .zone0 => 0
  | .zone1 => 1
  | .zone2 => 2
  | .zone3 => 3

@[ext]
structure SoftirqLat where
  timestamp : UInt64
  totalLatency : LatZone → UInt64

def SoftirqLat.zero : SoftirqLat := ⟨0, fun _ => 0⟩

/-- `__sync_fetch_and_add(&lat->total_latency[zone], 1)`. -/
def SoftirqLat.count (lat : SoftirqLat) (zone : LatZone) : SoftirqLat :=
  { lat with totalLatency := Function.update lat.totalLatency zone (lat.totalLatency zone + 1) }

/-- The zone `probe_softirq_entry` counts a latency in. -/
def latZone (latency : UInt64) : LatZone :=
  if latency < 10 * nsecPerUsec then .zone0
  else if latency < 100 * nsecPerUsec then .zone1
  else if latency < 1 * nsecPerMsec then .zone2
  else .zone3

/-- The slots of `softirq_percpu_lats` on one CPU. -/
abbrev SoftirqPercpuLats : Type := UInt32 → SoftirqLat

/-- `bpf_map_lookup_elem` on the array: `NULL` past its last slot. -/
def lookupElem (m : SoftirqPercpuLats) (vec : UInt32) : Option SoftirqLat :=
  if vec < nrSoftirqsMax then some (m vec) else none

/-- `bpf_map_update_elem` with `BPF_ANY` on the array: a key past its last slot is refused. -/
def updateElem (m : SoftirqPercpuLats) (vec : UInt32) (lat : SoftirqLat) : SoftirqPercpuLats :=
  if vec < nrSoftirqsMax then Function.update m vec lat else m

/-- `probe_softirq_raise`: the slot is written with a fresh `struct softirq_lat` holding only
the timestamp. -/
def probeSoftirqRaise (m : SoftirqPercpuLats) (vec : UInt32) (ktime : UInt64) : SoftirqPercpuLats :=
  if vec ≥ nrSoftirqs then m
  else updateElem m vec { timestamp := ktime, totalLatency := fun _ => 0 }

/-- `probe_softirq_entry`: the latency since the slot's timestamp is counted in its zone. -/
def probeSoftirqEntry (m : SoftirqPercpuLats) (vec : UInt32) (ktime : UInt64) : SoftirqPercpuLats :=
  if vec ≥ nrSoftirqs then m
  else
    match lookupElem m vec with
    | none => m
    | some lat => updateElem m vec (lat.count (latZone (ktime - lat.timestamp)))

/-- The tracepoints the program is attached to, with the vector and `bpf_ktime_get_ns()`. -/
inductive SoftirqEvent
  | softirqRaise (vec : UInt32) (ktime : UInt64)
  | softirqEntry (vec : UInt32) (ktime : UInt64)
deriving DecidableEq, Repr

def SoftirqEvent.handle (m : SoftirqPercpuLats) : SoftirqEvent → SoftirqPercpuLats
  | .softirqRaise vec ktime => probeSoftirqRaise m vec ktime
  | .softirqEntry vec ktime => probeSoftirqEntry m vec ktime

/-- One CPU's slots after its events, one at a time. -/
def softirqRun (m : SoftirqPercpuLats) (evs : List SoftirqEvent) : SoftirqPercpuLats :=
  evs.foldl SoftirqEvent.handle m

/-! ## The exporter -/

/-- `irqAllowed`: `softirqNetTx` and `softirqNetRx`. -/
def irqAllowed (id : Nat) : Bool :=
  id == 2 || id == 3

def irqTypeName : Nat → String
  | 0 => "HI"
  | 1 => "TIMER"
  | 2 => "NET_TX"
  | 3 => "NET_RX"
  | 4 => "BLOCK"
  | 5 => "IRQ_POLL"
  | 6 => "TASKLET"
  | 7 => "SCHED"
  | 8 => "HRTIMER"
  | 9 => "RCU"
  | _ => "ERR_TYPE"

/-- A gauge `latency` of `softirqLatency.Update`: its labels type, cpuid and zone, and the
counter it carries. -/
structure LatencyGauge where
  type : String
  cpuid : Nat
  zone : Nat
  value : UInt64
deriving DecidableEq, Repr

/-- `DumpMapByName("softirq_percpu_lats")`: every key of the array with its slot on each
possible CPU. -/
def dumpSoftirqPercpuLats (cpus : List SoftirqPercpuLats) : List (UInt32 × List SoftirqLat) :=
  (List.range nrSoftirqsMax.toNat).map fun k => (k.toUInt32, cpus.map fun m => m k.toUInt32)

/-- `softirqLatency.Update` on a dump: for each allowed vector, each CPU below `cpuOnline` and
each zone, one gauge. -/
def softirqLatencyUpdate (cpuOnline : Nat) (items : List (UInt32 × List SoftirqLat)) :
    List LatencyGauge :=
  items.flatMap fun item =>
    if irqAllowed item.1.toNat then
      (item.2.take cpuOnline).zipIdx.flatMap fun lc =>
        LatZone.all.map fun z => ⟨irqTypeName item.1.toNat, lc.2, z.toNat, lc.1.totalLatency z⟩
    else []

/-! ## One slot -/

/-- What an event does to the slot of `vec` (for `vec < NR_SOFTIRQS`). -/
def slotStep (vec : UInt32) (lat : SoftirqLat) : SoftirqEvent → SoftirqLat
  | .softirqRaise w ktime => if w = vec then { timestamp := ktime, totalLatency := fun _ => 0 } else lat
  | .softirqEntry w ktime => if w = vec then lat.count (latZone (ktime - lat.timestamp)) else lat

def SoftirqEvent.raises (vec : UInt32) : SoftirqEvent → Bool
  | .softirqRaise w _ => w == vec
  | .softirqEntry .. => false

/-- Whether an event is an entry of `vec` whose latency since `since` falls in `zone`. -/
def SoftirqEvent.countsIn (vec : UInt32) (since : UInt64) (zone : LatZone) : SoftirqEvent → Bool
  | .softirqRaise .. => false
  | .softirqEntry w ktime => w == vec && latZone (ktime - since) == zone

def SoftirqEvent.enters (vec : UInt32) : SoftirqEvent → Bool
  | .softirqRaise .. => false
  | .softirqEntry w _ => w == vec

section Slot

variable {vec v : UInt32} {lat : SoftirqLat} {m : SoftirqPercpuLats}

theorem lt_nrSoftirqsMax (hv : v < nrSoftirqs) : v < nrSoftirqsMax := by
  unfold nrSoftirqs at hv
  unfold nrSoftirqsMax
  rw [UInt32.lt_iff_toNat_lt] at hv ⊢
  simp only [UInt32.reduceToNat] at hv ⊢
  omega

@[simp] theorem SoftirqLat.count_timestamp (z : LatZone) : (lat.count z).timestamp = lat.timestamp :=
  rfl

theorem SoftirqLat.count_totalLatency (z z' : LatZone) :
    (lat.count z).totalLatency z' = lat.totalLatency z' + if z = z' then 1 else 0 := by
  unfold SoftirqLat.count
  by_cases h : z = z'
  · subst h
    simp
  · simp [h, Function.update_of_ne (Ne.symm h)]

theorem handle_apply (hv : v < nrSoftirqs) (e : SoftirqEvent) : e.handle m v = slotStep v (m v) e := by
  cases e with
  | softirqRaise w ktime =>
    simp only [SoftirqEvent.handle, probeSoftirqRaise, slotStep]
    by_cases hw : w ≥ nrSoftirqs
    · have hne : w ≠ v := fun h => absurd (h ▸ hv) (UInt32.not_lt.2 hw)
      simp [hw, hne]
    · have hmax : w < nrSoftirqsMax := lt_nrSoftirqsMax (UInt32.not_le.1 hw)
      by_cases hwv : w = v
      · subst hwv
        simp [hw, updateElem, hmax]
      · simp [hw, updateElem, hmax, hwv, Function.update_of_ne (Ne.symm hwv)]
  | softirqEntry w ktime =>
    simp only [SoftirqEvent.handle, probeSoftirqEntry, slotStep]
    by_cases hw : w ≥ nrSoftirqs
    · have hne : w ≠ v := fun h => absurd (h ▸ hv) (UInt32.not_lt.2 hw)
      simp [hw, hne]
    · have hmax : w < nrSoftirqsMax := lt_nrSoftirqsMax (UInt32.not_le.1 hw)
      by_cases hwv : w = v
      · subst hwv
        simp [hw, lookupElem, updateElem, hmax]
      · simp [hw, lookupElem, updateElem, hmax, hwv, Function.update_of_ne (Ne.symm hwv)]

/-- The run lemma: a CPU's run acts on the slot of a vector as the fold of `slotStep`. -/
theorem softirqRun_apply (hv : v < nrSoftirqs) (evs : List SoftirqEvent) :
    softirqRun m evs v = evs.foldl (slotStep v) (m v) := by
  induction evs generalizing m with
  | nil => rfl
  | cons e evs ih =>
    simp only [softirqRun, List.foldl_cons] at ih ⊢
    rw [ih, handle_apply hv]

theorem slotStep_of_not_raises {e : SoftirqEvent} (he : e.raises vec = false) :
    slotStep vec lat e = ⟨lat.timestamp, fun z =>
      lat.totalLatency z + if e.countsIn vec lat.timestamp z then 1 else 0⟩ := by
  cases e with
  | softirqRaise w ktime =>
    have hne : w ≠ vec := by simpa [SoftirqEvent.raises] using he
    simp [slotStep, SoftirqEvent.countsIn, hne]
  | softirqEntry w ktime =>
    by_cases hw : w = vec
    · subst hw
      refine SoftirqLat.ext (by simp [slotStep]) (funext fun z => ?_)
      simp [slotStep, SoftirqEvent.countsIn, SoftirqLat.count_totalLatency]
    · simp [slotStep, SoftirqEvent.countsIn, hw]

theorem foldl_slotStep_of_no_raise (evs : List SoftirqEvent) (hevs : ∀ e ∈ evs, e.raises vec = false) :
    evs.foldl (slotStep vec) lat = ⟨lat.timestamp, fun z =>
      lat.totalLatency z + UInt64.ofNat (evs.countP (SoftirqEvent.countsIn vec lat.timestamp z))⟩ := by
  induction evs generalizing lat with
  | nil => simp
  | cons e evs ih =>
    have he : e.raises vec = false := hevs e List.mem_cons_self
    rw [List.foldl_cons, ih fun e' h => hevs e' (List.mem_cons_of_mem e h), slotStep_of_not_raises he]
    refine SoftirqLat.ext rfl (funext fun z => ?_)
    simp only [List.countP_cons, UInt64.ofNat_add]
    split
    · rw [show UInt64.ofNat 1 = 1 from rfl, UInt64.add_assoc, UInt64.add_comm 1]
    · rw [show UInt64.ofNat 0 = 0 from rfl, UInt64.add_zero, UInt64.add_zero]

theorem sum_countsIn_eq_enters (since : UInt64) (e : SoftirqEvent) :
    (LatZone.all.map fun z => if e.countsIn vec since z then 1 else 0).sum =
      if e.enters vec then 1 else 0 := by
  cases e with
  | softirqRaise w ktime => simp [SoftirqEvent.countsIn, SoftirqEvent.enters, LatZone.all]
  | softirqEntry w ktime =>
    by_cases hw : w = vec
    · cases hz : latZone (ktime - since) <;>
        simp [SoftirqEvent.countsIn, SoftirqEvent.enters, LatZone.all, hw, hz]
    · simp [SoftirqEvent.countsIn, SoftirqEvent.enters, LatZone.all, hw]

theorem sum_countP_countsIn (since : UInt64) (evs : List SoftirqEvent) :
    (LatZone.all.map fun z => evs.countP (SoftirqEvent.countsIn vec since z)).sum =
      evs.countP (SoftirqEvent.enters vec) := by
  induction evs with
  | nil => simp [LatZone.all]
  | cons e evs ih =>
    have hone := @sum_countsIn_eq_enters vec since e
    simp only [LatZone.all, List.map_cons, List.map_nil, List.sum_cons, List.sum_nil,
      List.countP_cons] at ih hone ⊢
    omega

end Slot

/-! ## Runs -/

section Run

variable {v : UInt32} {m : SoftirqPercpuLats}

/-- Whatever came before, the slot of a vector holds the time of its last raise and, per zone,
the entries of the vector since then whose latency fell in the zone: each raise starts the
counts again from zero. -/
theorem softirqRun_since_last_raise (hv : v < nrSoftirqs) (pre rest : List SoftirqEvent) (t : UInt64)
    (hrest : ∀ e ∈ rest, e.raises v = false) :
    softirqRun m (pre ++ .softirqRaise v t :: rest) v =
      ⟨t, fun z => UInt64.ofNat (rest.countP (SoftirqEvent.countsIn v t z))⟩ := by
  rw [softirqRun_apply hv, List.foldl_append, List.foldl_cons,
    foldl_slotStep_of_no_raise rest hrest]
  simp [slotStep]

theorem softirqRun_zone_sum (hv : v < nrSoftirqs) (pre rest : List SoftirqEvent) (t : UInt64)
    (hrest : ∀ e ∈ rest, e.raises v = false) :
    (LatZone.all.map (softirqRun m (pre ++ .softirqRaise v t :: rest) v).totalLatency).sum =
      UInt64.ofNat (rest.countP (SoftirqEvent.enters v)) := by
  rw [softirqRun_since_last_raise hv pre rest t hrest, ← sum_countP_countsIn t rest]
  simp [LatZone.all, UInt64.ofNat_add]

end Run

theorem mem_softirqLatencyUpdate (cpus : List SoftirqPercpuLats) {cpuOnline c : Nat}
    (hc : c < cpuOnline) (hcs : c < cpus.length) {vec : UInt32} (hv : vec < nrSoftirqsMax)
    (ha : irqAllowed vec.toNat) (z : LatZone) :
    ⟨irqTypeName vec.toNat, c, z.toNat, (cpus[c] vec).totalLatency z⟩ ∈
      softirqLatencyUpdate cpuOnline (dumpSoftirqPercpuLats cpus) := by
  unfold softirqLatencyUpdate dumpSoftirqPercpuLats
  rw [List.mem_flatMap]
  refine ⟨(vec, cpus.map fun m => m vec), ?_, ?_⟩
  · rw [List.mem_map]
    refine ⟨vec.toNat, List.mem_range.2 (UInt32.lt_iff_toNat_lt.1 hv), ?_⟩
    simp
  · rw [if_pos ha, List.mem_flatMap]
    refine ⟨(cpus[c] vec, c), ?_, List.mem_map.2 ⟨z, ?_, rfl⟩⟩
    · rw [List.mk_mem_zipIdx_iff_getElem?]
      simp [hc, hcs]
    · cases z <;> simp [LatZone.all]

/-- Over any run of a CPU whose last raise of an allowed vector `v` came at `t`, the gauge that
`softirqLatency.Update` exports for `v` on that CPU in each zone counts the entries of `v` since
`t` whose latency fell in the zone, and the four gauges add up to the entries since `t`. -/
theorem softirq_gauges_since_last_raise (cpus : List SoftirqPercpuLats) {cpuOnline c : Nat}
    (hc : c < cpuOnline) (hcs : c < cpus.length) {v : UInt32} (hv : v < nrSoftirqs)
    (ha : irqAllowed v.toNat) {m : SoftirqPercpuLats} (pre rest : List SoftirqEvent) (t : UInt64)
    (hrun : cpus[c] = softirqRun m (pre ++ .softirqRaise v t :: rest))
    (hrest : ∀ e ∈ rest, e.raises v = false) :
    (∀ z, ⟨irqTypeName v.toNat, c, z.toNat, UInt64.ofNat (rest.countP (SoftirqEvent.countsIn v t z))⟩ ∈
        softirqLatencyUpdate cpuOnline (dumpSoftirqPercpuLats cpus)) ∧
      (LatZone.all.map fun z => UInt64.ofNat (rest.countP (SoftirqEvent.countsIn v t z))).sum =
        UInt64.ofNat (rest.countP (SoftirqEvent.enters v)) := by
  have hslot := softirqRun_since_last_raise (m := m) hv pre rest t hrest
  refine ⟨fun z => ?_, ?_⟩
  · have hmem := mem_softirqLatencyUpdate cpus hc hcs (lt_nrSoftirqsMax hv) ha z
    rwa [hrun, hslot] at hmem
  · have hsum := softirqRun_zone_sum (m := m) hv pre rest t hrest
    rwa [hslot] at hsum

theorem softirq_gauges_since_last_raise_net_rx :
    let cpus : List SoftirqPercpuLats := [softirqRun (fun _ => .zero)
      [.softirqRaise 3 0, .softirqEntry 3 5000, .softirqRaise 3 9000, .softirqEntry 3 12000]]
    0 < 1 ∧ 0 < cpus.length ∧ (3 : UInt32) < nrSoftirqs ∧ irqAllowed (3 : UInt32).toNat ∧
      cpus[0] = softirqRun (fun _ => .zero)
        ([.softirqRaise 3 0, .softirqEntry 3 5000] ++ .softirqRaise 3 9000 :: [.softirqEntry 3 12000]) ∧
      (∀ e ∈ [SoftirqEvent.softirqEntry 3 12000], e.raises 3 = false) ∧
      (∀ z, ⟨irqTypeName (3 : UInt32).toNat, 0, z.toNat,
          UInt64.ofNat ([SoftirqEvent.softirqEntry 3 12000].countP (SoftirqEvent.countsIn 3 9000 z))⟩ ∈
          softirqLatencyUpdate 1 (dumpSoftirqPercpuLats cpus)) ∧
        (LatZone.all.map fun z =>
          UInt64.ofNat ([SoftirqEvent.softirqEntry 3 12000].countP (SoftirqEvent.countsIn 3 9000 z))).sum =
          UInt64.ofNat ([SoftirqEvent.softirqEntry 3 12000].countP (SoftirqEvent.enters 3)) :=
  ⟨by decide, by decide, by decide, by decide, rfl, by decide,
    softirq_gauges_since_last_raise _ (by decide) (by decide) (by decide) (by decide)
      (m := fun _ => .zero) [.softirqRaise 3 0, .softirqEntry 3 5000] [.softirqEntry 3 12000] 9000 rfl
      (by decide)⟩

/-- A raise of NET_RX after an entry takes its counters back to zero: on the one CPU, the gauge
of zone 0 that `softirqLatency.Update` exports goes from 1 to 0 and no entry is left counted. -/
theorem softirq_raise_resets_counters :
    let before : SoftirqPercpuLats := softirqRun (fun _ => .zero) [.softirqRaise 3 0, .softirqEntry 3 5000]
    let after : SoftirqPercpuLats := softirqRun before [.softirqRaise 3 9000]
    (softirqLatencyUpdate 1 (dumpSoftirqPercpuLats [before])).filter
        (fun g => g.type == "NET_RX" && g.zone == 0) = [⟨"NET_RX", 0, 0, 1⟩] ∧
      (softirqLatencyUpdate 1 (dumpSoftirqPercpuLats [after])).filter
        (fun g => g.type == "NET_RX" && g.zone == 0) = [⟨"NET_RX", 0, 0, 0⟩] ∧
      (LatZone.all.map (after 3).totalLatency).sum = 0 := by
  decide

end Huatuo.Bpf
