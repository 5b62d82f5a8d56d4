import Huatuo.Autotracing.Dload
import Huatuo.Autotracing.CpuIdle
import Huatuo.Lib.Strings
import Mathlib

/-! The containers `dload` follows (core/autotracing/dload.go). Every five seconds `Start` marks
the containers `pod.GetAllContainers` lists in the package's map `containersDloads`, then
`detectDloadContainer` opens a netlink socket and loops over the map in the order Go's `range`
picks: it deletes the entries of containers no longer listed, skips the containers started less
than `MonitorGap` seconds ago, folds each other container's netlink sample into its averages
(`updateLoad`), and stops at the first whose D-state load passes the threshold. The loop is a
second instance of `Lib.Sweep`, beside `cpuidle`'s; what a visit reads (`time.Now()` and the
netlink sample) is the round's environment. -/
namespace Huatuo.Autotracing

open Lib Lib.FixedPoint CpuIdle

/-- `containerDloadInfo` whole: the loop's bookkeeping and the averages `ContainerDloadInfo`
keeps. -/
structure ContainerDload where
  path : String
  name : String
  container : TracedContainer
  info : ContainerDloadInfo
  alive : Bool

def rootfsDefaultPath : String := "/sys/fs/cgroup"

/-- `paths.Path(path...)`: `filepath.Join` of the root and the elements. -/
def cgroupPath (path : List String) : String :=
  Strings.pathJoin (rootfsDefaultPath :: path)

/-- The fields `updateContainersDload` sets on the entry of a listed container. -/
def reviveDload (container : TracedContainer) (dload : ContainerDload) : ContainerDload :=
  { dload with
    name := container.cgroupSuffix
    path := cgroupPath ["cpu", container.cgroupSuffix]
    container := container
    alive := true }

/-- `&containerDloadInfo{path, name, container, alive: true}`: every average zero. -/
def freshDload (container : TracedContainer) : ContainerDload :=
  ⟨cgroupPath ["cpu", container.cgroupSuffix], container.cgroupSuffix, container, .zero, true⟩

/-- `updateContainersDload` on what `pod.GetAllContainers` returned. -/
def updateContainersDload (containers : Except String (List TracedContainer))
    (containersDloads : List (String × ContainerDload)) :
    Except String (List (String × ContainerDload)) :=
  match containers with
  | .error err => .error err
  | .ok containers =>
    .ok (Sweep.refresh (·.container.id) reviveDload freshDload containersDloads containers)

/-- What a detection reads: whether `netlink.New()` failed, `time.Now()` when the loop visits
the container of an ID, and the sample `GetCpuLoad` gives for a cgroup name and path. -/
structure DloadEnv where
  netlink : Except String Unit
  now : String → Int
  getCpuLoad : String → String → Except String LoadStats

def debugDload : Bool := false

/-- `time.Second * time.Duration(interval)`, in `int64` nanoseconds. -/
def monitorGap (interval : Int) : Int :=
  (1000000000 * Int64.ofInt interval).toInt

/-- The sample the loop takes of a container: none before its monitor gap has passed since it
started, or when `GetCpuLoad` fails. -/
def dloadSample (interval : Int) (env : DloadEnv) (containerId : String) (dload : ContainerDload) :
    Option LoadStats :=
  let timeStart := dload.container.startedAt + monitorGap interval
  if env.now containerId < timeStart then none
  else
    match env.getCpuLoad dload.name dload.path with
    | .error _ => none
    | .ok stats => some stats

/-- The body of `detectDloadContainer`'s loop on an entry still alive, with binary64 rounding
by `r`: the entry it leaves, and the container and sample it returns. -/
def detectDloadVisit (r : Rounding) (thresh : ℚ) (interval : Int) (env : DloadEnv)
    (containerId : String) (dload : ContainerDload) :
    ContainerDload × Option (ContainerDload × LoadStats) :=
  let dload := { dload with alive := false }
  match dloadSample interval env containerId dload with
  | none => (dload, none)
  | some stats =>
    let dload := { dload with info := updateLoad r dload.info stats.nrRunning stats.nrUninterruptible }
    -- `loaduni[0]`, the one-minute load
    if dload.info.loaduni ⟨0, Nat.zero_lt_two⟩ > thresh || debugDload then (dload, some (dload, stats))
    else (dload, none)

/-- `detectDloadContainer`, its loop visiting the map's keys in the order `order`: the
container and sample it returns or its error, and the map it leaves. -/
def detectDloadContainer (r : Rounding) (thresh : ℚ) (interval : Int) (env : DloadEnv)
    (order : List String) (containersDloads : List (String × ContainerDload)) :
    Except String (ContainerDload × LoadStats) × List (String × ContainerDload) :=
  match env.netlink with
  | .error err => (.error err, containersDloads)
  | .ok () =>
    match Sweep.sweep (·.alive) (detectDloadVisit r thresh interval env) order containersDloads with
    | .ok containersDloads => (.error "no dload containers", containersDloads)
    | .error (found, containersDloads) => (.ok found, containersDloads)

/-! ## Rounds -/

abbrev DloadRound := Sweep.Round String TracedContainer DloadEnv

/-- The keys a round's loop goes through: none when the netlink socket could not be opened. -/
def DloadRound.loopOrder (rd : DloadRound) : List String :=
  match rd.env.netlink with
  | .ok () => rd.order
  | .error _ => []

/-- The map a round leaves: `updateContainersDload`, then `detectDloadContainer`. -/
def dloadRound (r : Rounding) (thresh : ℚ) (interval : Int)
    (containersDloads : List (String × ContainerDload)) (rd : DloadRound) :
    List (String × ContainerDload) :=
  Sweep.roundMap (·.container.id) reviveDload freshDload (·.alive)
    (detectDloadVisit r thresh interval) containersDloads ⟨rd.items, rd.env, rd.loopOrder⟩

/-- The samples a round folds into the averages: each container its loop visits, with the
sample it takes, if any. -/
def dloadSamples (r : Rounding) (thresh : ℚ) (interval : Int)
    (containersDloads : List (String × ContainerDload)) (rd : DloadRound) :
    List (String × Option LoadStats) :=
  (Sweep.roundVisits (·.container.id) reviveDload freshDload (·.alive)
      (detectDloadVisit r thresh interval) containersDloads ⟨rd.items, rd.env, rd.loopOrder⟩).map
    fun k => (k, ((Sweep.refresh (·.container.id) reviveDload freshDload containersDloads
      rd.items).lookup k).bind (dloadSample interval rd.env k))

/-- The averages of the entry of `k`, zero if it has none. -/
def infoOf (k : String) (containersDloads : List (String × ContainerDload)) : ContainerDloadInfo :=
  ((containersDloads.lookup k).map (·.info)).getD .zero

section Rounds

variable {r : Rounding} {thresh : ℚ} {interval : Int}

theorem DloadRound.nodup_loopOrder {rd : DloadRound} (ho : rd.order.Nodup) : rd.loopOrder.Nodup := by
  unfold DloadRound.loopOrder
  cases rd.env.netlink with
  | ok u => exact ho
  | error e => exact List.nodup_nil

theorem reviveDload_alive (container : TracedContainer) (dload : ContainerDload) :
    (reviveDload container dload).alive = true := rfl

theorem freshDload_alive (container : TracedContainer) : (freshDload container).alive = true :=
  rfl

theorem detectDloadVisit_fst (env : DloadEnv) (k : String) (d : ContainerDload) :
    (detectDloadVisit r thresh interval env k d).1.alive = false ∧
      (detectDloadVisit r thresh interval env k d).1.info =
        updateLoads r d.info (dloadSample interval env k d).toList := by
  unfold detectDloadVisit
  have hs : dloadSample interval env k { d with alive := false } = dloadSample interval env k d :=
    rfl
  dsimp only
  rw [hs]
  cases dloadSample interval env k d with
  | none => exact ⟨rfl, rfl⟩
  | some s =>
    dsimp only
    split_ifs <;> exact ⟨rfl, rfl⟩

theorem dloadSample_eq_some {env : DloadEnv} {k : String} {d : ContainerDload} {s : LoadStats}
    (h : dloadSample interval env k d = some s) : env.getCpuLoad d.name d.path = .ok s := by
  unfold dloadSample at h
  dsimp only at h
  split_ifs at h
  cases hl : env.getCpuLoad d.name d.path with
  | error e => rw [hl] at h; cases h
  | ok s' => rw [hl] at h; cases h; rfl

theorem lookup_refresh_dload_of_listed {m : List (String × ContainerDload)}
    {items : List TracedContainer} (hn : (items.map (·.container.id)).Nodup) {k : String}
    (hk : k ∈ items.map (·.container.id)) :
    ∃ d, (Sweep.refresh (·.container.id) reviveDload freshDload m items).lookup k = some d ∧
      d.alive = true ∧ d.info = infoOf k m := by
  obtain ⟨a, ha, rfl⟩ := List.mem_map.1 hk
  rw [Sweep.lookup_refresh_of_mem hn ha]
  refine ⟨_, rfl, ?_, ?_⟩
  · cases m.lookup a.container.id <;> rfl
  · unfold infoOf
    cases m.lookup a.container.id <;> rfl

/-- A round folds into the averages of a listed container the sample it took of it, if any. -/
theorem infoOf_dloadRound {m : List (String × ContainerDload)} {rd : DloadRound}
    (hn : (rd.items.map (·.container.id)).Nodup) (ho : rd.order.Nodup) {k : String}
    (hk : k ∈ rd.items.map (·.container.id)) :
    infoOf k (dloadRound r thresh interval m rd) = updateLoads r (infoOf k m)
      (((dloadSamples r thresh interval m rd).filter (fun p => p.1 = k)).filterMap (·.2)) := by
  have ho' := DloadRound.nodup_loopOrder ho
  obtain ⟨d, hl, ha, hi⟩ := lookup_refresh_dload_of_listed (m := m) hn hk
  unfold dloadSamples
  rw [Sweep.filter_map_pair _ k (Sweep.nodup_roundVisits ho')]
  split_ifs with hv
  · obtain ⟨d', hl', -, -, hlook⟩ := Sweep.mem_visits ho' hv
    rw [hl] at hl'
    cases hl'
    have hround : (dloadRound r thresh interval m rd).lookup k =
        some (detectDloadVisit r thresh interval rd.env k d).1 := hlook
    rw [infoOf, hround, Option.map_some, Option.getD_some, (detectDloadVisit_fst rd.env k d).2, hi,
      hl, Option.bind_some]
    cases dloadSample interval rd.env k d <;> rfl
  · -- the loop did not reach the container: its entry stays as the refresh left it
    have hround : (dloadRound r thresh interval m rd).lookup k = some d := by
      rw [← hl]
      exact Sweep.lookup_swept_of_alive ho' (by rw [hl]; exact ha) hv
    rw [infoOf, hround, Option.map_some, Option.getD_some, hi]
    rfl

/-- Over any run of rounds that each list the container, its averages are `updateLoads` of
the samples the loops took of it, in the order they took them: the map's bookkeeping (the
deletions, the skips before the monitor gap, the loops stopped at a container found) folds into
a container's averages each of its samples once, and nothing else. -/
theorem dload_averages_follow_samples {k : String} :
    ∀ (m : List (String × ContainerDload)) {rounds : List DloadRound},
      (∀ rd ∈ rounds, (rd.items.map (·.container.id)).Nodup ∧ rd.order.Nodup ∧
        k ∈ rd.items.map (·.container.id)) →
      infoOf k (Machine.run (dloadRound r thresh interval) m rounds) =
        updateLoads r (infoOf k m)
          (((Machine.emitted (dloadRound r thresh interval) (dloadSamples r thresh interval) m
            rounds).filter (fun p => p.1 = k)).filterMap (·.2))
  | m, [], _ => rfl
  | m, rd :: rounds, hrounds => by
    obtain ⟨hn, ho, hk⟩ := hrounds rd List.mem_cons_self
    have ih := dload_averages_follow_samples (dloadRound r thresh interval m rd)
      (fun rd' h => hrounds rd' (List.mem_cons_of_mem rd h))
    rw [Machine.run_cons, ih, infoOf_dloadRound hn ho hk, Machine.emitted_cons, List.filter_append,
      List.filterMap_append, updateLoads, updateLoads, updateLoads, Machine.run_append]

theorem dload_averages_follow_samples_c1 :
    let rounds : List DloadRound := [0, 20000000000].map fun t =>
      ⟨[⟨⟨"c1", "app", "host", .normal, .guaranteed, ""⟩, "/kubepods/c1", 0⟩],
        ⟨.ok (), fun _ => t, fun _ _ => .ok ⟨2, 1⟩⟩, ["c1"]⟩
    (∀ rd ∈ rounds, (rd.items.map (·.container.id)).Nodup ∧ rd.order.Nodup ∧
        "c1" ∈ rd.items.map (·.container.id)) ∧
      infoOf "c1" (Machine.run (dloadRound .exact 0 1) [] rounds) =
        updateLoads .exact (infoOf "c1" [])
          (((Machine.emitted (dloadRound .exact 0 1) (dloadSamples .exact 0 1) [] rounds).filter
            (fun p => p.1 = "c1")).filterMap (·.2)) :=
  ⟨by decide, dload_averages_follow_samples [] (by decide)⟩

theorem detectDloadVisit_inv {env : DloadEnv}
    (henv : ∀ name path s, env.getCpuLoad name path = .ok s → s.Small) (k : String)
    {d : ContainerDload} (hd : DloadInv d.info ∧ ∀ j, d.info.loaduni j ≤ d.info.load j) :
    DloadInv (detectDloadVisit r thresh interval env k d).1.info ∧
      ∀ j, (detectDloadVisit r thresh interval env k d).1.info.loaduni j ≤
        (detectDloadVisit r thresh interval env k d).1.info.load j := by
  rw [(detectDloadVisit_fst env k d).2]
  cases hsample : dloadSample interval env k d with
  | none => exact hd
  | some s =>
    have hsmall := henv _ _ _ (dloadSample_eq_some hsample)
    exact ⟨hd.1.dloadStep hsmall, loaduni_le_load hd.1 hsmall⟩

/-- From the empty map, over any run whose netlink samples are small, every entry's averages
keep `DloadInv`: the next small sample folds in without a wrap, and the D-state load shown is
never above the whole load. -/
theorem dload_loaduni_le_load {rounds : List DloadRound}
    (hrounds : ∀ rd ∈ rounds, rd.order.Nodup ∧
      ∀ name path s, rd.env.getCpuLoad name path = .ok s → s.Small) :
    ∀ k d, (Machine.run (dloadRound r thresh interval) [] rounds).lookup k = some d →
      (∀ s : LoadStats, s.Small → updateLoadFits d.info s.nrRunning s.nrUninterruptible) ∧
        ∀ j, d.info.loaduni j ≤ d.info.load j := by
  have hstep : ∀ (m : List (String × ContainerDload)) (rd : DloadRound),
      (∀ k d, m.lookup k = some d → DloadInv d.info ∧ ∀ j, d.info.loaduni j ≤ d.info.load j) →
      (rd.order.Nodup ∧ ∀ name path s, rd.env.getCpuLoad name path = .ok s → s.Small) →
      ∀ k d, (dloadRound r thresh interval m rd).lookup k = some d →
        DloadInv d.info ∧ ∀ j, d.info.loaduni j ≤ d.info.load j := by
    rintro m rd hm ⟨ho, henv⟩
    exact Sweep.forall_lookup_roundMap (DloadRound.nodup_loopOrder ho) hm (fun _ _ h => h)
      (fun _ => ⟨DloadInv.zero, fun _ => le_rfl⟩)
      (fun k _ hd _ => detectDloadVisit_inv henv k hd)
  have hempty : ∀ k d, ([] : List (String × ContainerDload)).lookup k = some d →
      DloadInv d.info ∧ ∀ j, d.info.loaduni j ≤ d.info.load j := fun _ _ h => by cases h
  have hrun := Machine.run_invariant_of_forall hstep hempty hrounds
  intro k d hd
  have hinv := hrun k d hd
  exact ⟨fun s hs => updateLoadFits_of_inv hinv.1 hs, hinv.2⟩

theorem dload_loaduni_le_load_c1 :
    let rounds : List DloadRound := [0, 20000000000].map fun t =>
      ⟨[⟨⟨"c1", "app", "host", .normal, .guaranteed, ""⟩, "/kubepods/c1", 0⟩],
        ⟨.ok (), fun _ => t, fun _ _ => .ok ⟨2, 1⟩⟩, ["c1"]⟩
    (∀ rd ∈ rounds, rd.order.Nodup ∧
        ∀ name path s, rd.env.getCpuLoad name path = .ok s → s.Small) ∧
      ∀ k d, (Machine.run (dloadRound .exact 0 1) [] rounds).lookup k = some d →
        (∀ s : LoadStats, s.Small → updateLoadFits d.info s.nrRunning s.nrUninterruptible) ∧
          ∀ j, d.info.loaduni j ≤ d.info.load j := by
  intro rounds
  have hrounds : ∀ rd ∈ rounds, rd.order.Nodup ∧
      ∀ name path s, rd.env.getCpuLoad name path = .ok s → s.Small := by
    intro rd hrd
    obtain ⟨t, -, rfl⟩ := List.mem_map.1 hrd
    exact ⟨List.nodup_singleton _, fun name path s h => by cases h; exact ⟨by decide, by decide⟩⟩
  exact ⟨hrounds, dload_loaduni_le_load hrounds⟩

theorem sweep_of_detectDloadContainer {env : DloadEnv} (hnl : env.netlink = .ok ())
    {order : List String} {m m' : List (String × ContainerDload)}
    (h : detectDloadContainer r thresh interval env order m = (.error "no dload containers", m')) :
    Sweep.sweep (·.alive) (detectDloadVisit r thresh interval env) order m = .ok m' := by
  unfold detectDloadContainer at h
  rw [hnl] at h
  dsimp only at h
  cases hs : Sweep.sweep (·.alive) (detectDloadVisit r thresh interval env) order m with
  | ok m'' =>
    rw [hs] at h
    cases h
    rfl
  | error p =>
    rw [hs] at h
    cases h

/-- Two passes of `Start`'s loop in a row that run through, each over every container of its
map, leave the map with the containers the second listing gave and no others. -/
theorem dload_quiet_rounds_exact {m m₀₁ m₁ m₀₂ m₂ : List (String × ContainerDload)}
    {rd₁ rd₂ : DloadRound}
    (hu₁ : updateContainersDload (.ok rd₁.items) m = .ok m₀₁)
    (hnl₁ : rd₁.env.netlink = .ok ())
    (hd₁ : detectDloadContainer r thresh interval rd₁.env rd₁.order m₀₁ =
      (.error "no dload containers", m₁))
    (hu₂ : updateContainersDload (.ok rd₂.items) m₁ = .ok m₀₂)
    (hnl₂ : rd₂.env.netlink = .ok ())
    (hd₂ : detectDloadContainer r thresh interval rd₂.env rd₂.order m₀₂ =
      (.error "no dload containers", m₂))
    (ho₁ : rd₁.order.Nodup) (hcover₁ : ∀ k ∈ m₀₁.map Prod.fst, k ∈ rd₁.order)
    (ho₂ : rd₂.order.Nodup) (hcover₂ : ∀ k ∈ m₀₂.map Prod.fst, k ∈ rd₂.order)
    (hn₂ : (rd₂.items.map (·.container.id)).Nodup) (k : String) :
    k ∈ m₂.map Prod.fst ↔ k ∈ rd₂.items.map (·.container.id) := by
  cases hu₁
  cases hu₂
  exact Sweep.mem_keys_of_full_rounds reviveDload_alive freshDload_alive
    (fun env k d => (@detectDloadVisit_fst r thresh interval env k d).1) hn₂ ho₁ ho₂ hcover₁ hcover₂
    (sweep_of_detectDloadContainer hnl₁ hd₁) (sweep_of_detectDloadContainer hnl₂ hd₂) k

theorem dload_quiet_rounds_exact_gone :
    let c : TracedContainer := ⟨⟨"c1", "app", "host", .normal, .guaranteed, ""⟩, "/kubepods/c1", 0⟩
    let env : DloadEnv := ⟨.ok (), fun _ => 0, fun _ _ => .error "no cgroup"⟩
    let m₀₁ := [("c1", freshDload c)]
    let m₁ := [("c1", { freshDload c with alive := false })]
    updateContainersDload (.ok [c]) [] = .ok m₀₁ ∧ env.netlink = .ok () ∧
      detectDloadContainer .exact 0 1 env ["c1"] m₀₁ = (.error "no dload containers", m₁) ∧
      updateContainersDload (.ok []) m₁ = .ok m₁ ∧
      detectDloadContainer .exact 0 1 env ["c1"] m₁ = (.error "no dload containers", []) ∧
      ["c1"].Nodup ∧ (∀ k ∈ m₀₁.map Prod.fst, k ∈ ["c1"]) ∧ (∀ k ∈ m₁.map Prod.fst, k ∈ ["c1"]) ∧
      (([] : List TracedContainer).map (·.container.id)).Nodup ∧
      ("c1" ∈ ([] : List (String × ContainerDload)).map Prod.fst ↔
        "c1" ∈ ([] : List TracedContainer).map (·.container.id)) := by
  intro c env m₀₁ m₁
  have hd₁ : detectDloadContainer .exact 0 1 env ["c1"] m₀₁ = (.error "no dload containers", m₁) :=
    rfl
  have hd₂ : detectDloadContainer .exact 0 1 env ["c1"] m₁ = (.error "no dload containers", []) :=
    rfl
  have hcover₁ : ∀ k ∈ m₀₁.map Prod.fst, k ∈ ["c1"] := by decide
  have hcover₂ : ∀ k ∈ m₁.map Prod.fst, k ∈ ["c1"] := by decide
  exact ⟨rfl, rfl, hd₁, rfl, hd₂, List.nodup_singleton _, hcover₁, hcover₂, List.nodup_nil,
    @dload_quiet_rounds_exact .exact 0 1 [] m₀₁ m₁ m₁ [] ⟨[c], env, ["c1"]⟩ ⟨[], env, ["c1"]⟩
      rfl rfl hd₁ rfl rfl hd₂ (List.nodup_singleton _) hcover₁ (List.nodup_singleton _) hcover₂
      List.nodup_nil "c1"⟩

theorem map_fst_dloadSamples (m : List (String × ContainerDload)) (rd : DloadRound) :
    (dloadSamples r thresh interval m rd).map Prod.fst =
      Sweep.roundVisits (·.container.id) reviveDload freshDload (·.alive)
        (detectDloadVisit r thresh interval) m ⟨rd.items, rd.env, rd.loopOrder⟩ := by
  rw [dloadSamples, List.map_map]
  exact List.map_id _

/-- A container that no round of a run lists any more is visited by the loop at most once more,
and never if its entry has no mark at the start of the run. -/
theorem dload_gone_visited_once {k : String} (m : List (String × ContainerDload))
    {rounds : List DloadRound}
    (hrounds : ∀ rd ∈ rounds, k ∉ rd.items.map (·.container.id) ∧ rd.order.Nodup) :
    let visited := (Machine.emitted (dloadRound r thresh interval) (dloadSamples r thresh interval) m
      rounds).map Prod.fst
    visited.count k ≤ 1 ∧ (¬(m.lookup k).any (·.alive) = true → k ∉ visited) := by
  intro visited
  have hvisited : visited = Machine.emitted
      (Sweep.roundMap (·.container.id) reviveDload freshDload (·.alive)
        (detectDloadVisit r thresh interval))
      (Sweep.roundVisits (·.container.id) reviveDload freshDload (·.alive)
        (detectDloadVisit r thresh interval)) m
      (rounds.map fun rd => ⟨rd.items, rd.env, rd.loopOrder⟩) := by
    rw [← Machine.emitted_map_events]
    simp only [visited, Machine.map_emitted, map_fst_dloadSamples]
    rfl
  have hrounds' : ∀ rd ∈ rounds.map (fun rd : DloadRound => (⟨rd.items, rd.env, rd.loopOrder⟩ :
      DloadRound)), k ∉ rd.items.map (·.container.id) ∧ rd.order.Nodup := by
    intro rd' h
    obtain ⟨rd, hrd, rfl⟩ := List.mem_map.1 h
    exact ⟨(hrounds rd hrd).1, DloadRound.nodup_loopOrder (hrounds rd hrd).2⟩
  rw [hvisited]
  exact Sweep.count_visits_le_one (fun env k d => (@detectDloadVisit_fst r thresh interval env k d).1)
    hrounds'

theorem dload_gone_visited_once_c1 :
    let c : TracedContainer := ⟨⟨"c1", "app", "host", .normal, .guaranteed, ""⟩, "/kubepods/c1", 0⟩
    let env : DloadEnv := ⟨.ok (), fun _ => 0, fun _ _ => .error "no cgroup"⟩
    let rounds : List DloadRound := [⟨[], env, ["c1"]⟩, ⟨[], env, ["c1"]⟩]
    (∀ rd ∈ rounds, "c1" ∉ rd.items.map (·.container.id) ∧ rd.order.Nodup) ∧
      let visited := (Machine.emitted (dloadRound .exact 0 1) (dloadSamples .exact 0 1)
        [("c1", freshDload c)] rounds).map Prod.fst
      visited.count "c1" ≤ 1 ∧ (¬(([("c1", freshDload c)] : List (String × ContainerDload)).lookup
        "c1").any (·.alive) = true → "c1" ∉ visited) :=
  ⟨by decide, dload_gone_visited_once _ (by decide)⟩

end Rounds

end Huatuo.Autotracing
