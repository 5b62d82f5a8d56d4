import Huatuo.Metric.Data
import Huatuo.Lib.BpfMap
import Huatuo.Lib.FixedPoint
import Huatuo.Lib.Go
import Huatuo.Lib.Keyed
import Huatuo.Lib.Machine
import Mathlib

/-! The drops of network devices at the hardware (core/metrics/netdev_hw.go, bpf/netdev_hw.c).
`newNetdevHw` gives a gauge to each whitelisted interface with a supported driver. Each `Update`
reads `carrier_down_count` of those interfaces, so the probe on `carrier_down_count_show`
stores each one's software drop counter in `rx_sw_dropped_stats` under its index; the collector
dumps that map and keeps each counter in `ifaceSwDropCounters` under the interface's name, but
only for a name already there. An interface's count is `rx_missed_errors`, or where that is 0,
`rx_dropped` less the counter kept for it.

`ifaceSwDropCounters` starts empty, and so it stays: no counter is ever kept, and the count
shown is `rx_missed_errors` whatever the map holds. A `float64` value is the rounding `r` of the
count, and a host is seen through the devices it has and the state of the map. -/
namespace Huatuo.Metric

open Lib Lib.FixedPoint

def netDeviceDriver : List String := ["mlx5_core", "i40e", "ixgbe", "bnxt_en", "virtio_net"]

/-- The collector: its gauges, whether `Start` has the program attached, the software drop
counters it keeps, and each interface's index in `data`; every index is a gauge's, and no two
interfaces share one. -/
structure NetdevHw where
  data : List Data
  isTracerRunning : Bool
  ifaceSwDropCounters : List (String × UInt64)
  ifaceList : List (String × ℕ)
  ifaceList_nodup : (ifaceList.map Prod.fst).Nodup
  index_nodup : (ifaceList.map Prod.snd).Nodup
  index_lt : ∀ p ∈ ifaceList, p.2 < data.length

def NetdevHw.empty : NetdevHw :=
  ⟨[], false, [], [], List.nodup_nil, List.nodup_nil, fun _ hp => nomatch hp⟩

section Defaults

variable (defaultRegion defaultHostname : String)

def rxDroppedGauge (iface driver : String) : Data :=
  newGaugeData defaultRegion defaultHostname "rx_dropped" 0
    "count of packets dropped at hardware level" ⟨[("device", iface), ("driver", driver)], by simp⟩

/-- An interface that passes the checks: its index is the length of `data`, and its gauge is
added after the others. -/
def NetdevHw.addIface (n : NetdevHw) (iface driver : String) : NetdevHw where
  data := n.data ++ [rxDroppedGauge defaultRegion defaultHostname iface driver]
  isTracerRunning := n.isTracerRunning
  ifaceSwDropCounters := n.ifaceSwDropCounters
  ifaceList := Keyed.set n.ifaceList iface n.data.length
  ifaceList_nodup := Keyed.nodup_set n.ifaceList_nodup
  index_nodup := Keyed.nodup_snd_set n.ifaceList_nodup n.index_nodup fun p hp => (n.index_lt p hp).ne
  index_lt := fun p hp => by
    rw [List.length_append, List.length_singleton]
    rcases Keyed.mem_set.1 hp with rfl | ⟨hp, -⟩
    · exact Nat.lt_succ_self _
    · exact Nat.lt_succ_of_lt (n.index_lt p hp)

/-- One interface of `newNetdevHw`'s loop, `driverInfo` being `eth.DriverInfo`. -/
def newNetdevHwStep (whitelist : List String) (driverInfo : String → Except String String)
    (n : NetdevHw) (iface : String) : NetdevHw :=
  match driverInfo iface with
  | .error _ => n
  | .ok driver =>
    if !whitelist.contains iface || !netDeviceDriver.contains driver then n
    else n.addIface defaultRegion defaultHostname iface driver

/-- `newNetdevHw` on what `DefaultNetClassDevices` and `NewEthtool` returned. -/
def newNetdevHw (whitelist : List String) (interfaces : Except String (List String))
    (eth : Except String (String → Except String String)) : Except String NetdevHw := do
  let interfaces ← interfaces
  let driverInfo ← eth
  pure (interfaces.foldl (newNetdevHwStep defaultRegion defaultHostname whitelist driverInfo)
    NetdevHw.empty)

theorem newNetdevHwStep_eq_or (whitelist : List String)
    (driverInfo : String → Except String String) (n : NetdevHw) (iface : String) :
    newNetdevHwStep defaultRegion defaultHostname whitelist driverInfo n iface = n ∨
      ∃ driver, newNetdevHwStep defaultRegion defaultHostname whitelist driverInfo n iface =
        n.addIface defaultRegion defaultHostname iface driver := by
  unfold newNetdevHwStep
  split
  · exact .inl rfl
  · split_ifs
    · exact .inl rfl
    · exact .inr ⟨_, rfl⟩

end Defaults

/-- The loop of `updateIfaceSwDropCounter` over the dumped entries, `interfaceByIndex` being
`net.InterfaceByIndex`: the counters after it, and the error that ended it. A counter is kept
only under a name that has one. -/
def updateIfaceSwDropCounterLoop (interfaceByIndex : ℕ → Except String String) :
    List (String × UInt64) → List (List UInt8 × List UInt8) →
      List (String × UInt64) × Except String Unit
  | counters, [] => (counters, .ok ())
  | counters, (key, value) :: items =>
    match Go.readLE 4 key with
    | .error err => (counters, .error ("read map key: " ++ err))
    | .ok ifidx =>
      match Go.readLE 8 value with
      | .error err => (counters, .error ("read map value: " ++ err))
      | .ok counter =>
        match interfaceByIndex (UInt32.ofNat ifidx).toNat with
        | .error err => (counters, .error err)
        | .ok name =>
          let counters := if (counters.lookup name).isSome then
            Keyed.set counters name (UInt64.ofNat counter) else counters
          updateIfaceSwDropCounterLoop interfaceByIndex counters items

/-- `updateIfaceSwDropCounter` on what `DumpMapByName` returned after the reads of
`carrier_down_count`. -/
def updateIfaceSwDropCounter (interfaceByIndex : ℕ → Except String String)
    (items : Except String (List (List UInt8 × List UInt8))) (counters : List (String × UInt64)) :
    List (String × UInt64) × Except String Unit :=
  match items with
  | .error err => (counters, .error err)
  | .ok items => updateIfaceSwDropCounterLoop interfaceByIndex counters items

/-- The count `Update` shows for an interface, `readStat` being the value `parseutil.ReadUint`
returned for one of its statistics, whatever the error. -/
def hwDropCount (ifaceSwDropCounters : List (String × UInt64))
    (readStat : String → String → UInt64) (iface : String) : UInt64 :=
  let count := readStat iface "rx_missed_errors"
  if count = 0 then
    match ifaceSwDropCounters.lookup iface with
    | some sw => readStat iface "rx_dropped" - sw
    | none => count
  else count

/-- The loop of `Update` over the interfaces: each count written, as a `float64`, into the
gauge at the interface's index. -/
def writeCounts (r : Rounding) (count : String → UInt64) : List Data → List (String × ℕ) → List Data
  | data, [] => data
  | data, (iface, i) :: l =>
    writeCounts r count (data.modify i fun d => { d with value := r.rnd (count iface).toNat }) l

theorem length_writeCounts (r : Rounding) (count : String → UInt64) :
    ∀ (data : List Data) (l : List (String × ℕ)), (writeCounts r count data l).length = data.length
  | _, [] => rfl
  | data, (iface, i) :: l => by
    rw [writeCounts, length_writeCounts, List.length_modify]

/-- `netdevHw.Update`: the collector after it, and the gauges or the error. -/
def NetdevHw.update (r : Rounding) (n : NetdevHw) (interfaceByIndex : ℕ → Except String String)
    (items : Except String (List (List UInt8 × List UInt8))) (readStat : String → String → UInt64) :
    NetdevHw × Except String (List Data) :=
  if !n.isTracerRunning then (n, .ok [])
  else
    match updateIfaceSwDropCounter interfaceByIndex items n.ifaceSwDropCounters with
    | (counters, .error err) => ({ n with ifaceSwDropCounters := counters }, .error err)
    | (counters, .ok ()) =>
      let data := writeCounts r (hwDropCount counters readStat) n.data n.ifaceList
      ({ n with
          ifaceSwDropCounters := counters
          data := data
          index_lt := fun p hp => (length_writeCounts r _ n.data n.ifaceList).symm ▸ n.index_lt p hp },
        .ok data)

/-! ## No counter is ever kept -/

theorem map_fst_updateIfaceSwDropCounterLoop (interfaceByIndex : ℕ → Except String String) :
    ∀ (counters : List (String × UInt64)) (items : List (List UInt8 × List UInt8)),
      (updateIfaceSwDropCounterLoop interfaceByIndex counters items).1.map Prod.fst =
        counters.map Prod.fst
  | counters, [] => rfl
  | counters, (key, value) :: items => by
    unfold updateIfaceSwDropCounterLoop
    cases Go.readLE 4 key with
    | error err => rfl
    | ok ifidx =>
      dsimp only
      cases Go.readLE 8 value with
      | error err => rfl
      | ok counter =>
        dsimp only
        cases interfaceByIndex (UInt32.ofNat ifidx).toNat with
        | error err => rfl
        | ok name =>
          dsimp only
          rw [map_fst_updateIfaceSwDropCounterLoop]
          split_ifs with hname
          · rw [Keyed.map_fst_set, if_pos (Keyed.mem_of_lookup_isSome hname)]
          · rfl

theorem updateIfaceSwDropCounter_nil (interfaceByIndex : ℕ → Except String String)
    (items : Except String (List (List UInt8 × List UInt8))) :
    (updateIfaceSwDropCounter interfaceByIndex items []).1 = [] := by
  unfold updateIfaceSwDropCounter
  cases items with
  | error err => rfl
  | ok items => exact List.map_eq_nil_iff.1 (map_fst_updateIfaceSwDropCounterLoop _ _ _)

theorem hwDropCount_nil (readStat : String → String → UInt64) (iface : String) :
    hwDropCount [] readStat iface = readStat iface "rx_missed_errors" := by
  unfold hwDropCount
  dsimp only [List.lookup]
  split_ifs <;> rfl

/-! ## The gauges `Update` writes -/

section Write

variable (r : Rounding) (count : String → UInt64)

theorem getElem?_writeCounts_of_not_mem :
    ∀ (data : List Data) (l : List (String × ℕ)) {j : ℕ}, j ∉ l.map Prod.snd →
      (writeCounts r count data l)[j]? = data[j]?
  | data, [], j, _ => rfl
  | data, (iface, i) :: l, j, hj => by
    rw [List.map_cons, List.mem_cons, not_or] at hj
    have hij : i ≠ j := fun h => hj.1 h.symm
    rw [writeCounts, getElem?_writeCounts_of_not_mem _ l hj.2, List.getElem?_modify]
    simp [hij]

theorem getElem?_writeCounts :
    ∀ (data : List Data) (l : List (String × ℕ)), (l.map Prod.snd).Nodup → ∀ p ∈ l,
      (writeCounts r count data l)[p.2]? =
        data[p.2]?.map fun d => { d with value := r.rnd (count p.1).toNat }
  | data, [], _, p, hp => nomatch hp
  | data, (iface, i) :: l, hn, p, hp => by
    rw [List.map_cons, List.nodup_cons] at hn
    rw [writeCounts]
    rcases List.mem_cons.1 hp with rfl | hp
    · -- no later interface writes at this index
      rw [getElem?_writeCounts_of_not_mem _ _ _ l hn.1, List.getElem?_modify]
      simp
    · have hi : i ≠ p.2 := fun h => hn.1 (h ▸ (List.mem_map.2 ⟨p, hp, rfl⟩ : p.2 ∈ l.map Prod.snd))
      rw [getElem?_writeCounts _ l hn.2 p hp, List.getElem?_modify]
      simp [hi]

end Write

section Update

variable {r : Rounding} {n : NetdevHw} {interfaceByIndex : ℕ → Except String String}
  {items : Except String (List (List UInt8 × List UInt8))} {readStat : String → String → UInt64}

@[simp] theorem NetdevHw.update_ifaceList :
    (n.update r interfaceByIndex items readStat).1.ifaceList = n.ifaceList := by
  unfold NetdevHw.update
  split_ifs
  · rfl
  · split <;> rfl

theorem NetdevHw.update_counters (hrun : n.isTracerRunning = true) :
    (n.update r interfaceByIndex items readStat).1.ifaceSwDropCounters =
      (updateIfaceSwDropCounter interfaceByIndex items n.ifaceSwDropCounters).1 := by
  rcases hc : updateIfaceSwDropCounter interfaceByIndex items n.ifaceSwDropCounters with
    ⟨counters, err | u⟩ <;> simp [NetdevHw.update, hrun, hc]

theorem NetdevHw.update_data {data : List Data} (hrun : n.isTracerRunning = true)
    (hres : (n.update r interfaceByIndex items readStat).2 = .ok data) :
    data = writeCounts r (hwDropCount (n.update r interfaceByIndex items readStat).1.ifaceSwDropCounters
      readStat) n.data n.ifaceList ∧ (n.update r interfaceByIndex items readStat).1.data = data := by
  rcases hc : updateIfaceSwDropCounter interfaceByIndex items n.ifaceSwDropCounters with
    ⟨counters, err | u⟩
  · simp [NetdevHw.update, hrun, hc] at hres
  · simp only [NetdevHw.update, hrun, hc, Bool.not_true, Bool.false_eq_true, if_false,
      Except.ok.injEq] at hres ⊢
    exact ⟨hres.symm, hres⟩

end Update

/-! ## The host -/

/-- A network device as the collector meets it: its name and index, the software drop counter
`rx_dropped` of its `net_device`, and the `rx_dropped` and `rx_missed_errors` its statistics
files show. -/
structure NetDevice where
  name : String
  ifindex : UInt32
  swRxDropped : UInt64
  rxDropped : UInt64
  rxMissedErrors : UInt64
deriving DecidableEq, Repr

/-- The host: its devices, each name and index once, and the map `rx_sw_dropped_stats`. -/
structure Host where
  devices : List NetDevice
  rxSwDroppedStats : BpfMap.Hash UInt32 UInt64
  names_nodup : (devices.map NetDevice.name).Nodup
  ifindex_nodup : (devices.map NetDevice.ifindex).Nodup

def Host.device? (h : Host) (name : String) : Option NetDevice :=
  h.devices.find? (·.name = name)

/-- The probe `carrier_down_count_show`: the device's software drop counter under its index. -/
def carrierDownCountShow (m : BpfMap.Hash UInt32 UInt64) (dev : NetDevice) :
    BpfMap.Hash UInt32 UInt64 :=
  m.updateElem dev.ifindex dev.swRxDropped .any

/-- Reading `carrier_down_count` of each interface, which runs the probe for each one there. -/
def Host.readCarrierDownCounts (h : Host) (ifaces : List String) : Host :=
  { h with
    rxSwDroppedStats := ifaces.foldl (fun m iface =>
      match h.device? iface with
      | some dev => carrierDownCountShow m dev
      | none => m) h.rxSwDroppedStats }

/-- `DumpMapByName("rx_sw_dropped_stats")` of a map nothing writes meanwhile: its entries, the
keys and values in the bytes of a little-endian host. -/
def dumpMap (m : BpfMap.Hash UInt32 UInt64) : List (List UInt8 × List UInt8) :=
  m.entries.map fun e => (Go.encodeLE 4 e.1.toNat, Go.encodeLE 8 e.2.toNat)

/-- `net.InterfaceByIndex`, to the name. -/
def Host.interfaceByIndex (h : Host) (index : ℕ) : Except String String :=
  if index = 0 then .error "route ip+net: invalid network interface index"
  else
    match h.devices.find? (·.ifindex.toNat = index) with
    | some dev => .ok dev.name
    | none => .error "route ip+net: no such network interface"

/-- What `readStat` returns: the number in the statistics file, 0 where there is none. -/
def Host.readStat (h : Host) (iface stat : String) : UInt64 :=
  match h.device? iface with
  | none => 0
  | some dev =>
    if stat = "rx_dropped" then dev.rxDropped
    else if stat = "rx_missed_errors" then dev.rxMissedErrors
    else 0

/-- `Update` on a host: the reads of `carrier_down_count`, the dump of the map, the statistics;
the host after it, and the collector after it and what it returns. -/
def hostUpdate (r : Rounding) (h : Host) (n : NetdevHw) : Host × NetdevHw × Except String (List Data) :=
  if !n.isTracerRunning then (h, n, .ok [])
  else
    let h := h.readCarrierDownCounts (n.ifaceList.map Prod.fst)
    let res := n.update r h.interfaceByIndex (.ok (dumpMap h.rxSwDroppedStats)) h.readStat
    (h, res)

/-- What drives the collector: `Start` attaching the program, its context ending, and a scrape
of a host in whatever state it is. -/
inductive NetdevHwEvent
  | start
  | stop
  | update (h : Host)

def netdevHwStep (r : Rounding) (n : NetdevHw) : NetdevHwEvent → NetdevHw
  | .start => { n with isTracerRunning := true }
  | .stop => { n with isTracerRunning := false }
  | .update h => (hostUpdate r h n).2.1

/-! ## Runs of the collector -/

section Runs

variable (defaultRegion defaultHostname : String)

/-- Every interface the collector keeps has its `rx_dropped` gauge at its index, showing some
value. -/
def NetdevHw.Gauged (n : NetdevHw) : Prop :=
  ∀ p ∈ n.ifaceList, ∃ driver v,
    n.data[p.2]? = some { rxDroppedGauge defaultRegion defaultHostname p.1 driver with value := v }

/-- What a collector `newNetdevHw` built holds over any run: no software counter, and each
interface's gauge where it belongs. -/
structure NetdevHw.Holds (n : NetdevHw) : Prop where
  counters : n.ifaceSwDropCounters = []
  gauged : n.Gauged defaultRegion defaultHostname

variable {defaultRegion defaultHostname}

theorem NetdevHw.holds_empty : NetdevHw.empty.Holds defaultRegion defaultHostname :=
  ⟨rfl, fun _ hp => nomatch hp⟩

theorem NetdevHw.Holds.addIface {n : NetdevHw} (hn : n.Holds defaultRegion defaultHostname)
    (iface driver : String) :
    (n.addIface defaultRegion defaultHostname iface driver).Holds defaultRegion defaultHostname := by
  refine ⟨hn.counters, fun p hp => ?_⟩
  rcases Keyed.mem_set.1 hp with rfl | ⟨hp, -⟩
  · -- the new gauge, after the others
    refine ⟨driver, 0, ?_⟩
    simp only [NetdevHw.addIface]
    rw [List.getElem?_append_right (Nat.le_refl _), Nat.sub_self]
    rfl
  · obtain ⟨drv, v, hd⟩ := hn.gauged p hp
    refine ⟨drv, v, ?_⟩
    simp only [NetdevHw.addIface]
    rw [List.getElem?_append_left (n.index_lt p hp)]
    exact hd

theorem NetdevHw.Holds.newNetdevHwStep {n : NetdevHw} (hn : n.Holds defaultRegion defaultHostname)
    (whitelist : List String) (driverInfo : String → Except String String) (iface : String) :
    (Metric.newNetdevHwStep defaultRegion defaultHostname whitelist driverInfo n iface).Holds
      defaultRegion defaultHostname := by
  rcases newNetdevHwStep_eq_or defaultRegion defaultHostname whitelist driverInfo n iface with
    hstep | ⟨driver, hstep⟩
  · rw [hstep]
    exact hn
  · rw [hstep]
    exact hn.addIface iface driver

theorem newNetdevHw_holds {whitelist : List String} {interfaces : Except String (List String)}
    {eth : Except String (String → Except String String)} {n : NetdevHw}
    (h : newNetdevHw defaultRegion defaultHostname whitelist interfaces eth = .ok n) :
    n.Holds defaultRegion defaultHostname ∧ n.isTracerRunning = false := by
  cases interfaces with
  | error err => cases h
  | ok interfaces =>
    cases eth with
    | error err => cases h
    | ok driverInfo =>
      have hn : interfaces.foldl (Metric.newNetdevHwStep defaultRegion defaultHostname whitelist
          driverInfo) NetdevHw.empty = n := Except.ok.inj h
      subst hn
      refine ⟨Machine.run_invariant_always (fun n iface hn => hn.newNetdevHwStep whitelist
        driverInfo iface) NetdevHw.holds_empty, ?_⟩
      refine Machine.run_invariant_always
        (fun (n : NetdevHw) iface (hn : n.isTracerRunning = false) => ?_) rfl
      rcases newNetdevHwStep_eq_or defaultRegion defaultHostname whitelist driverInfo n iface with
        hstep | ⟨driver, hstep⟩
      · rw [hstep]
        exact hn
      · rw [hstep]
        exact hn

variable {r : Rounding}

/-- An update keeps it: the dump sets no counter, and only the values of the gauges change. -/
theorem NetdevHw.Holds.update {n : NetdevHw} (hn : n.Holds defaultRegion defaultHostname)
    (interfaceByIndex : ℕ → Except String String)
    (items : Except String (List (List UInt8 × List UInt8))) (readStat : String → String → UInt64) :
    (n.update r interfaceByIndex items readStat).1.Holds defaultRegion defaultHostname := by
  cases hrun : n.isTracerRunning with
  | false => simpa [NetdevHw.update, hrun] using hn
  | true =>
    have hcounters : (n.update r interfaceByIndex items readStat).1.ifaceSwDropCounters = [] := by
      rw [NetdevHw.update_counters hrun, hn.counters, updateIfaceSwDropCounter_nil]
    refine ⟨hcounters, fun p hp => ?_⟩
    rw [NetdevHw.update_ifaceList] at hp
    obtain ⟨driver, v, hd⟩ := hn.gauged p hp
    rcases hc : updateIfaceSwDropCounter interfaceByIndex items n.ifaceSwDropCounters with
      ⟨counters, err | u⟩
    · refine ⟨driver, v, ?_⟩
      simpa [NetdevHw.update, hrun, hc] using hd
    · refine ⟨driver, r.rnd (hwDropCount counters readStat p.1).toNat, ?_⟩
      simp only [NetdevHw.update, hrun, hc, Bool.not_true, Bool.false_eq_true, if_false]
      rw [getElem?_writeCounts r _ n.data n.ifaceList n.index_nodup p hp, hd]
      rfl

theorem NetdevHw.Holds.hostUpdate {n : NetdevHw} (hn : n.Holds defaultRegion defaultHostname)
    (h : Host) : (Metric.hostUpdate r h n).2.1.Holds defaultRegion defaultHostname := by
  unfold Metric.hostUpdate
  split_ifs
  · exact hn
  · exact hn.update _ _ _

theorem NetdevHw.Holds.step {n : NetdevHw} (hn : n.Holds defaultRegion defaultHostname)
    (e : NetdevHwEvent) : (netdevHwStep r n e).Holds defaultRegion defaultHostname := by
  cases e with
  | start => exact ⟨hn.counters, hn.gauged⟩
  | stop => exact ⟨hn.counters, hn.gauged⟩
  | update h => exact hn.hostUpdate h

theorem NetdevHw.Holds.hostUpdate_shows {n : NetdevHw} (hn : n.Holds defaultRegion defaultHostname)
    (hrun : n.isTracerRunning = true) (h : Host) {data : List Data}
    (hres : (Metric.hostUpdate r h n).2.2 = .ok data) :
    ∀ p ∈ n.ifaceList, ∃ driver, data[p.2]? =
      some { rxDroppedGauge defaultRegion defaultHostname p.1 driver with
        value := r.rnd (h.readStat p.1 "rx_missed_errors").toNat } := by
  intro p hp
  simp only [Metric.hostUpdate, hrun, Bool.not_true, Bool.false_eq_true, if_false] at hres
  obtain ⟨hdata, -⟩ := NetdevHw.update_data hrun hres
  rw [NetdevHw.update_counters hrun, hn.counters, updateIfaceSwDropCounter_nil] at hdata
  obtain ⟨driver, v, hd⟩ := hn.gauged p hp
  refine ⟨driver, ?_⟩
  rw [hdata, getElem?_writeCounts r _ n.data n.ifaceList n.index_nodup p hp, hd, hwDropCount_nil]
  rfl

/-- So from `newNetdevHw`, after any events, every scrape that returns gauges shows each
interface's `rx_missed_errors`, and never its `rx_dropped` less its software drops. -/
theorem netdevHw_shows_rx_missed_errors {whitelist : List String}
    {interfaces : Except String (List String)} {eth : Except String (String → Except String String)}
    {n₀ : NetdevHw} (hnew : newNetdevHw defaultRegion defaultHostname whitelist interfaces eth = .ok n₀)
    (events : List NetdevHwEvent) (hrun : (Machine.run (netdevHwStep r) n₀ events).isTracerRunning = true)
    (h : Host) {data : List Data}
    (hres : (hostUpdate r h (Machine.run (netdevHwStep r) n₀ events)).2.2 = .ok data) :
    ∀ p ∈ (Machine.run (netdevHwStep r) n₀ events).ifaceList, ∃ driver, data[p.2]? =
      some { rxDroppedGauge defaultRegion defaultHostname p.1 driver with
        value := r.rnd (h.readStat p.1 "rx_missed_errors").toNat } := by
  have hholds : (Machine.run (netdevHwStep r) n₀ events).Holds defaultRegion defaultHostname :=
    Machine.run_invariant_always (fun n e hn => hn.step e) (newNetdevHw_holds hnew).1
  exact hholds.hostUpdate_shows hrun h hres

theorem netdevHw_shows_rx_missed_errors_eth0 :
    let h : Host := ⟨[⟨"eth0", 2, 4, 10, 0⟩], BpfMap.Hash.empty 64, by decide, by decide⟩
    let n := NetdevHw.empty.addIface "" "" "eth0" "mlx5_core"
    let data := [{ rxDroppedGauge "" "" "eth0" "mlx5_core" with value := 0 }]
    newNetdevHw "" "" ["eth0"] (.ok ["eth0"]) (.ok fun _ => .ok "mlx5_core") = .ok n ∧
      (Machine.run (netdevHwStep .exact) n [.start]).isTracerRunning = true ∧
      (hostUpdate .exact h (Machine.run (netdevHwStep .exact) n [.start])).2.2 = .ok data ∧
      ∀ p ∈ (Machine.run (netdevHwStep .exact) n [.start]).ifaceList, ∃ driver, data[p.2]? =
        some { rxDroppedGauge "" "" p.1 driver with
          value := Rounding.exact.rnd (h.readStat p.1 "rx_missed_errors").toNat } := by
  intro h n data
  have hnew : newNetdevHw "" "" ["eth0"] (.ok ["eth0"]) (.ok fun _ => .ok "mlx5_core") = .ok n := rfl
  have hrun : (Machine.run (netdevHwStep .exact) n [.start]).isTracerRunning = true := rfl
  have hres : (hostUpdate .exact h (Machine.run (netdevHwStep .exact) n [.start])).2.2 = .ok data := by
    decide +kernel
  exact ⟨hnew, hrun, hres, netdevHw_shows_rx_missed_errors hnew [.start] hrun h hres⟩

end Runs

/-- `eth0`, whitelisted, on `mlx5_core`, with index 2: its `net_device` has dropped 4 packets in
software, and its statistics show 10 dropped and none missed. On the first scrape after `Start`
the probe stores 4 under index 2, and yet the gauge shows 0, not 10 - 4. -/
theorem netdevHw_sw_drops_never_subtracted (r : Rounding) :
    let eth0 : NetDevice := ⟨"eth0", 2, 4, 10, 0⟩
    let h : Host := ⟨[eth0], BpfMap.Hash.empty 64, by decide, by decide⟩
    let n := NetdevHw.empty.addIface "" "" "eth0" "mlx5_core"
    newNetdevHw "" "" ["eth0"] (.ok ["eth0"]) (.ok fun _ => .ok "mlx5_core") = .ok n ∧
      (hostUpdate r h (netdevHwStep r n .start)).1.rxSwDroppedStats.lookup 2 = some 4 ∧
      (hostUpdate r h (netdevHwStep r n .start)).2.2 =
        .ok [{ rxDroppedGauge "" "" "eth0" "mlx5_core" with value := 0 }] := by
  refine ⟨rfl, rfl, ?_⟩
  rw [← r.rnd_zero]
  rfl

end Huatuo.Metric
