import Huatuo.Metric.Data
import Huatuo.Lib.Keyed

/-! Three collectors of host metrics (core/metrics): the qdisc counters summed per device and
parent major (qdisc.go), the read-only flag of each mount point (mountpoints.go) and the
statistics of each RDMA device (rdma_link.go). A Go map is the list of its entries in insertion
order, and a loop over it visits them in the order a permutation gives; `fieldFilter.ignored`
is the predicate its patterns make. -/
namespace Huatuo.Metric

/-! ## qdisc -/

structure QdiscStats where
  ifaceName : String
  kind : String
  bytes : UInt64
  packets : UInt32
  drops : UInt32
  requeues : UInt32
  overlimits : UInt32
  qlen : UInt32
  backlog : UInt32
deriving DecidableEq, Repr

/-- `allQdiscMap`: for each device, for each parent major, the summed counters. -/
abbrev QdiscMap := List (String × List (UInt32 × QdiscStats))

section Defaults

variable (defaultRegion defaultHostname : String)

end Defaults

/-- The shape `allQdiscMap` keeps: each device once, each parent major once within its device,
and every group holding the qdiscs of its device. -/
structure QdiscMapValid (m : QdiscMap) : Prop where
  nodup : (m.map Prod.fst).Nodup
  nodup_maj : ∀ p ∈ m, (p.2.map Prod.fst).Nodup
  iface : ∀ p ∈ m, ∀ g ∈ p.2, g.2.ifaceName = p.1

namespace QdiscMapValid

variable {m : QdiscMap}

theorem set (h : QdiscMapValid m) {dev : String} {groups : List (UInt32 × QdiscStats)}
    (hnd : (groups.map Prod.fst).Nodup) (hdev : ∀ g ∈ groups, g.2.ifaceName = dev) :
    QdiscMapValid (Lib.Keyed.set m dev groups) := by
  refine ⟨Lib.Keyed.nodup_set h.nodup, fun p hp => ?_, fun p hp => ?_⟩
  · rcases Lib.Keyed.mem_set.1 hp with rfl | ⟨hp, -⟩
    · exact hnd
    · exact h.nodup_maj p hp
  · rcases Lib.Keyed.mem_set.1 hp with rfl | ⟨hp, -⟩
    · exact hdev
    · exact h.iface p hp

theorem lookup (h : QdiscMapValid m) {dev : String} {groups : List (UInt32 × QdiscStats)}
    (hl : m.lookup dev = some groups) :
    (groups.map Prod.fst).Nodup ∧ ∀ g ∈ groups, g.2.ifaceName = dev := by
  have hmem := Lib.Keyed.mem_of_lookup_eq_some hl
  exact ⟨h.nodup_maj _ hmem, h.iface _ hmem⟩

end QdiscMapValid

section Series

variable {defaultRegion defaultHostname : String}

end Series

/-! ## Mount points -/

section Rdma

variable {defaultRegion defaultHostname : String}
  {iterStat : List (String × UInt64) → List (String × UInt64)}
  {rdmaStatistic : RdmaLinkAttrs → Except String (List (List (String × UInt64)))}

end Rdma

/-! ## Containers -/

end Huatuo.Metric
