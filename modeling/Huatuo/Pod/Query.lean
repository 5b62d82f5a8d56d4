import Huatuo.Pod.Container
import Huatuo.Lib.Keyed

/-! What the collectors ask of the container map (internal/pod/container.go): the containers of
some types at some QoS level or above, by ID, and the map from the css addresses of a cgroup
subsystem to the containers they belong to. Each query first syncs the map with the kubelet when
a sync is due; the map it reads is the one the sync left, and how the sync ended is an argument.
A loop over a Go map visits the entries in the order of the list. -/
namespace Huatuo.Pod

open Lib

/-- `ContainerType` as a bit of a mask: `1 << iota`, in the order of the constants. -/
def ContainerType.bit : ContainerType → UInt32
  | .sidecar => 1
  | .daemonSet => 2
  | .node => 4
  | .static => 8
  | .normal => 16
  | .unknown => 32

def containerTypeAll : UInt32 := 64 - 1

def ContainerQos.level : ContainerQos → ℕ
  | .unknown => 0
  | .guaranteed => 1
  | .burstable => 2
  | .bestEffort => 3

def containerQosLevelMin : ContainerQos := .unknown

/-- How the sync at the start of `getContainers` ended: none was due or it succeeded, it failed
with `ECONNREFUSED`, or it failed with another error. -/
inductive SyncResult
  | synced
  | connRefused
  | failed (err : String)
deriving DecidableEq, Repr

/-- `getContainers` on the map the sync left: the containers whose type has its bit in the
mask and whose level is at least `minLevel`, by ID. A sync the kubelet refused gives no
containers and no error. -/
def getContainers (typeMask : UInt32) (minLevel : ContainerQos) (sync : SyncResult)
    (containers : List (String × Container)) : Except String (List (String × Container)) :=
  match sync with
  | .connRefused => .ok []
  | .failed err => .error err
  | .synced =>
    .ok (containers.foldl (fun res p =>
      if p.2.type.bit &&& typeMask = 0 then res
      else if p.2.qos.level < minLevel.level then res
      else Keyed.set res p.2.id p.2) [])

def getContainersByType (typeMask : UInt32) (sync : SyncResult)
    (containers : List (String × Container)) : Except String (List (String × Container)) :=
  getContainers typeMask containerQosLevelMin sync containers

def getNormalContainers (sync : SyncResult) (containers : List (String × Container)) :
    Except String (List (String × Container)) :=
  getContainersByType ContainerType.normal.bit sync containers

def getAllContainers (sync : SyncResult) (containers : List (String × Container)) :
    Except String (List (String × Container)) :=
  getContainers containerTypeAll containerQosLevelMin sync containers

/-- `GetCSSToContainerID`: each css address of the subsystem to the ID of the container whose
address it is, `css id subsys` being `CSS[subsys]` of the container `id`. -/
def getCSSToContainerID (css : String → String → Option UInt64) (subsys : String)
    (sync : SyncResult) (containers : List (String × Container)) :
    Except String (List (UInt64 × String)) := do
  let containers ← getAllContainers sync containers
  pure (containers.foldl (fun m p =>
    match css p.2.id subsys with
    | some addr => Keyed.set m addr p.2.id
    | none => m) [])

/-! ## What the queries return -/

/-- The test of `getContainers`'s loop. -/
def admits (typeMask : UInt32) (minLevel : ContainerQos) (c : Container) : Bool :=
  c.type.bit &&& typeMask ≠ 0 && minLevel.level ≤ c.qos.level

/-- A map whose entries are keyed by their containers' IDs, each once, as `getContainers` builds
its result. -/
def IdKeyed (m : List (String × Container)) : Prop :=
  (m.map Prod.fst).Nodup ∧ ∀ p ∈ m, p.1 = p.2.id

section Synced

variable {typeMask : UInt32} {minLevel : ContainerQos} {containers : List (String × Container)}

theorem getContainers_synced (typeMask : UInt32) (minLevel : ContainerQos)
    (containers : List (String × Container)) :
    getContainers typeMask minLevel .synced containers =
      .ok ((containers.filter fun p => admits typeMask minLevel p.2).foldl
        (fun res p => Keyed.set res p.2.id p.2) []) := by
  rw [List.foldl_filter]
  refine congrArg Except.ok (congrArg (fun f => List.foldl f [] containers) (funext fun res =>
    funext fun p => ?_))
  by_cases ht : p.2.type.bit &&& typeMask = 0
  · simp [admits, ht]
  · by_cases hl : p.2.qos.level < minLevel.level
    · simp [admits, ht, hl, Nat.not_le.2 hl]
    · simp [admits, ht, hl, Nat.le_of_not_lt hl]

theorem getContainers_idKeyed {res : List (String × Container)}
    (h : getContainers typeMask minLevel .synced containers = .ok res) :
    IdKeyed res ∧ ∀ p ∈ res, admits typeMask minLevel p.2 ∧ ∃ k, (k, p.2) ∈ containers := by
  rw [getContainers_synced, Except.ok.injEq] at h
  subst h
  refine ⟨⟨Keyed.nodup_foldl_set _ _ _ List.nodup_nil, fun p hp => ?_⟩, fun p hp => ?_⟩
  · rcases Keyed.mem_foldl_set _ _ _ _ hp with hp | ⟨q, -, rfl⟩
    · cases hp
    · rfl
  · rcases Keyed.mem_foldl_set _ _ _ _ hp with hp | ⟨q, hq, rfl⟩
    · cases hp
    · obtain ⟨hq, hadm⟩ := List.mem_filter.1 hq
      exact ⟨hadm, q.1, hq⟩

theorem mem_foldl_cssMap (css : String → String → Option UInt64) (subsys : String)
    {e : UInt64 × String} :
    ∀ (l : List (String × Container)) (m : List (UInt64 × String)),
      e ∈ l.foldl (fun m p =>
        match css p.2.id subsys with
        | some addr => Keyed.set m addr p.2.id
        | none => m) m →
      e ∈ m ∨ ∃ p ∈ l, e.2 = p.2.id
  | [], _, h => Or.inl h
  | p :: l, m, h => by
    rw [List.foldl_cons] at h
    rcases mem_foldl_cssMap css subsys l _ h with he | ⟨q, hq, hid⟩
    · -- the entry was there before `p`, or `p` set it
      cases hp : css p.2.id subsys with
      | none =>
        rw [hp] at he
        exact Or.inl he
      | some addr =>
        rw [hp] at he
        rcases Keyed.mem_set.1 he with rfl | ⟨he, -⟩
        · exact Or.inr ⟨p, List.mem_cons_self, rfl⟩
        · exact Or.inl he
    · exact Or.inr ⟨q, List.mem_cons_of_mem _ hq, hid⟩

theorem lookup_getCSSToContainerID {css : String → String → Option UInt64} {subsys : String}
    {cts : List (String × Container)} {m : List (UInt64 × String)}
    (hcts : getAllContainers .synced containers = .ok cts)
    (hm : getCSSToContainerID css subsys .synced containers = .ok m) {addr : UInt64} {id : String}
    (h : m.lookup addr = some id) : ∃ c, cts.lookup id = some c ∧ c.id = id := by
  unfold getCSSToContainerID at hm
  rw [hcts] at hm
  obtain rfl : _ = m := Except.ok.inj hm
  rcases mem_foldl_cssMap css subsys cts [] (Keyed.mem_of_lookup_eq_some h) with he | ⟨p, hp, hid⟩
  · cases he
  · obtain ⟨⟨hnodup, hkey⟩, -⟩ := getContainers_idKeyed hcts
    refine ⟨p.2, ?_, hid.symm⟩
    rw [show id = p.1 from hid.trans (hkey p hp).symm]
    exact Keyed.lookup_of_mem hnodup hp

end Synced

/-! ## Which containers are normal -/

/-- A container named `proxy` in a pod a ReplicaSet owns is typed a sidecar, `proxy` being a part
of `istio-proxy`, and so a query for the normal containers leaves it out. -/
theorem proxy_container_not_normal :
    let pod : KubeletPod := ⟨"web-0", "default", "", ["ReplicaSet"], ["app", "proxy"], "Running",
      "Burstable", [⟨"app", "containerd://a1", true⟩, ⟨"proxy", "containerd://p1", true⟩]⟩
    let c : Container := ⟨"p1", "proxy", "web-0", .sidecar, .burstable, "default"⟩
    kubeletUpdateContainer (.ok "node-1") (fun _ => .ok ()) "p1" "proxy" pod = .ok c ∧
      getNormalContainers .synced [("p1", c)] = .ok [] := by
  decide

end Huatuo.Pod
