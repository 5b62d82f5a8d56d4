import Huatuo.Pod.Query
import Huatuo.Metric.Data
import Huatuo.Lib.Strings

/-! The OOM collector (core/events/oom.go). `Start`'s loop reads each OOM kill the BPF program
reports, looks the victim's memory cgroup up by its css address among all the containers and
counts the kill: for the host when no container has that address, else for the container; then it
saves a record of the kill. `Update` exports the host counter and the count of each normal
container, and clears the container counts. The two share the counters under one mutex, so a
run of the collector is a sequence of whole turns of the loop and whole scrapes, in any order.

With every read and every query succeeding on a container map that does not change, each kill
is counted once, and each scrape exports the counts the kills since the scrape before left. But
the loop counts the kills of every container and a scrape exports only the normal ones: the count
of a kill in a sidecar or DaemonSet container is cleared without ever being exported. -/
namespace Huatuo.Events

open Huatuo.Pod Huatuo.Metric Lib

/-- `perfEventData`, each process name the string of its 16 bytes. -/
structure PerfEventData where
  triggerProcessName : String
  victimProcessName : String
  triggerPid : Int32
  victimPid : Int32
  triggerMemcgCSS : UInt64
  victimMemcgCSS : UInt64
deriving DecidableEq, Repr

structure OOMTracingData where
  triggerMemcgCSS : String
  triggerContainerID : String
  triggerContainerHostname : String
  triggerPid : Int32
  triggerProcessName : String
  victimMemcgCSS : String
  victimContainerID : String
  victimContainerHostname : String
  victimPid : Int32
  victimProcessName : String
deriving DecidableEq, Repr

structure OomMetric where
  count : ℕ
  victimProcessName : String
deriving DecidableEq, Repr

/-- The collector's globals: `hostOOMCounter`, a `float64` that only ever counts whole kills,
and `containerOOMCounter`. -/
structure OomCounters where
  hostOOMCounter : ℕ
  containerOOMCounter : List (String × OomMetric)
deriving DecidableEq, Repr

/-- How a turn of `Start`'s loop ends: with the error it returns, having skipped the event
after the error of the css query, or with the counters after it and the record it saves. -/
inductive LoopTurn
  | stop (err : String)
  | skip
  | saved (counters : OomCounters) (caseData : OOMTracingData)
deriving DecidableEq, Repr

/-- The hostname the record shows for a container. -/
def containerHostname (c : Container) : String :=
  if c.hostname = "" then "unknown" else c.hostname

/-- The trigger's container ID and hostname as the record shows them, from the ID the css map
gave; `none` for the panic on an ID `cts` does not have. -/
def triggerContainer (cts : List (String × Container)) (triggerContainerID : String) :
    Option (String × String) :=
  if triggerContainerID = "" then some ("None", "Non-Container Cgroup")
  else (cts.lookup triggerContainerID).map fun c => (triggerContainerID, containerHostname c)

/-- The count of a kill in the container `id`: a first kill starts its metric, a later one adds
one and appends the victim's name. -/
def countContainerOOM (containerOOMCounter : List (String × OomMetric)) (id victimProcessName : String) :
    List (String × OomMetric) :=
  match containerOOMCounter.lookup id with
  | some val =>
    Keyed.set containerOOMCounter id
      { count := val.count + 1, victimProcessName := val.victimProcessName ++ "," ++ victimProcessName }
  | none => Keyed.set containerOOMCounter id { count := 1, victimProcessName := victimProcessName }

/-- One turn of `Start`'s loop on what `reader.ReadInto`, `GetCSSToContainerID("memory")` and
`GetAllContainers` returned; `none` is the panic of reading a field through the nil pointer
`cts` gives for an ID it does not have. -/
def oomLoopTurn (counters : OomCounters) (read : Except String PerfEventData)
    (cssToCtMap : Except String (List (UInt64 × String)))
    (cts : Except String (List (String × Container))) : Option LoopTurn :=
  match read with
  | .error err => some (.stop ("ReadFromPerfEvent fail: " ++ err))
  | .ok data =>
    match cssToCtMap with
    | .error _ => some .skip
    | .ok cssToCtMap =>
      match cts with
      | .error err => some (.stop err)
      | .ok cts => do
        let triggerContainerID := (cssToCtMap.lookup data.triggerMemcgCSS).getD ""
        let victimContainerID := (cssToCtMap.lookup data.victimMemcgCSS).getD ""
        let victimProcessName := Strings.trimRight data.victimProcessName '\x00'
        let trigger ← triggerContainer cts triggerContainerID
        let caseData : OOMTracingData :=
          { triggerMemcgCSS := Strings.sprintfHex data.triggerMemcgCSS
            triggerContainerID := trigger.1
            triggerContainerHostname := trigger.2
            triggerPid := data.triggerPid
            triggerProcessName := Strings.trimRight data.triggerProcessName '\x00'
            victimMemcgCSS := Strings.sprintfHex data.victimMemcgCSS
            victimContainerID := victimContainerID
            victimContainerHostname := ""
            victimPid := data.victimPid
            victimProcessName := victimProcessName }
        if victimContainerID = "" then
          pure (.saved { counters with hostOOMCounter := counters.hostOOMCounter + 1 }
            { caseData with
              victimContainerID := "None"
              victimContainerHostname := "Non-Container Cgroup" })
        else do
          let c ← cts.lookup victimContainerID
          pure (.saved
            { counters with
              containerOOMCounter := countContainerOOM counters.containerOOMCounter c.id victimProcessName }
            { caseData with victimContainerHostname := containerHostname c })

/-- The containers `Update` exports a count for, with their metrics: those of `containers` with
an entry in `containerOOMCounter`, in the order of its loop. -/
def oomExports (containerOOMCounter : List (String × OomMetric))
    (containers : List (String × Container)) : List (Container × OomMetric) :=
  containers.filterMap fun p => (containerOOMCounter.lookup p.2.id).map (p.2, ·)

/-- `oomCollector.Update` on what `GetNormalContainers` returned: the counters after it, and the
gauges or the error. -/
def oomCollectorUpdate (defaultRegion defaultHostname : String) (counters : OomCounters)
    (containers : Except String (List (String × Container))) :
    OomCounters × Except String (List Data) :=
  match containers with
  | .error err => (counters, .error ("get normal container: " ++ err))
  | .ok containers =>
    ({ counters with containerOOMCounter := [] },
      .ok (newGaugeData defaultRegion defaultHostname "host_counter" counters.hostOOMCounter
          "host oom counter" ⟨[], List.nodup_nil⟩ ::
        (oomExports counters.containerOOMCounter containers).map fun e =>
          newContainerGaugeData defaultRegion defaultHostname e.1 "counter" e.2.count
            "containers oom counter" ⟨[("process", e.2.victimProcessName)], by simp⟩))

/-! ## Runs of the collector -/

/-- What drives the collector: a turn of `Start`'s loop, with what the reader returned and how
the syncs of its two queries ended, or a scrape, with how the sync of its query ended. -/
inductive OomAction
  | event (read : Except String PerfEventData) (cssSync allSync : SyncResult)
  | update (sync : SyncResult)

/-- The collector and what it has put out: its counters, whether `Start`'s loop still reads,
the records it saved, and for each scrape that did not fail, the containers it exported a count
for, with their metrics. -/
structure OomSystem where
  counters : OomCounters
  reading : Bool
  saved : List OOMTracingData
  scrapes : List (List (Container × OomMetric))

def OomSystem.init : OomSystem :=
  ⟨⟨0, []⟩, true, [], []⟩

section Run

variable (defaultRegion defaultHostname : String) (css : String → String → Option UInt64)
  (containers : List (String × Container))

/-- One action on the container map `containers`, whose css addresses `css` gives; `none` for
a panic. A loop that has returned reads no more events. -/
def oomStep (sys : OomSystem) : OomAction → Option OomSystem
  | .event read cssSync allSync =>
    if sys.reading then
      match oomLoopTurn sys.counters read (getCSSToContainerID css "memory" cssSync containers)
          (getAllContainers allSync containers) with
      | none => none
      | some (.stop _) => some { sys with reading := false }
      | some .skip => some sys
      | some (.saved counters caseData) =>
        some { sys with counters := counters, saved := sys.saved ++ [caseData] }
    else some sys
  | .update sync =>
    let normal := getNormalContainers sync containers
    some { sys with
      counters := (oomCollectorUpdate defaultRegion defaultHostname sys.counters normal).1
      scrapes := match normal with
        | .ok normal => sys.scrapes ++ [oomExports sys.counters.containerOOMCounter normal]
        | .error _ => sys.scrapes }

def oomRun (sys : OomSystem) (acts : List OomAction) : Option OomSystem :=
  acts.foldlM (oomStep defaultRegion defaultHostname css containers) sys

end Run

/-! ## What a turn and a scrape count -/

/-- The count `containerOOMCounter` holds for the container `x`. -/
def pendingCount (containerOOMCounter : List (String × OomMetric)) (x : String) : ℕ :=
  ((containerOOMCounter.lookup x).map OomMetric.count).getD 0

/-- The count a scrape exported for the container `x`. -/
def exportedCount (x : String) (exports : List (Container × OomMetric)) : ℕ :=
  ((exports.filter fun e => e.1.id = x).map fun e => e.2.count).sum

theorem pendingCount_countContainerOOM (containerOOMCounter : List (String × OomMetric))
    (id victimProcessName x : String) :
    pendingCount (countContainerOOM containerOOMCounter id victimProcessName) x =
      pendingCount containerOOMCounter x + if x = id then 1 else 0 := by
  unfold countContainerOOM pendingCount
  cases h : containerOOMCounter.lookup id with
  | none =>
    rw [Keyed.lookup_set]
    split_ifs with hx
    · simp [hx, h]
    · simp
  | some val =>
    rw [Keyed.lookup_set]
    split_ifs with hx
    · simp [hx, h]
    · simp

section Turn

variable {m : List (UInt64 × String)} {cts : List (String × Container)}

theorem lookup_cts_of_ne
    (hm : ∀ addr id, m.lookup addr = some id → ∃ c, cts.lookup id = some c ∧ c.id = id)
    {addr : UInt64} (h : (m.lookup addr).getD "" ≠ "") :
    ∃ c, cts.lookup ((m.lookup addr).getD "") = some c ∧ c.id = (m.lookup addr).getD "" := by
  cases hl : m.lookup addr with
  | none => simp [hl] at h
  | some id =>
    simpa using hm addr id hl

theorem oomLoopTurn_counts (counters : OomCounters) (data : PerfEventData)
    (hm : ∀ addr id, m.lookup addr = some id → ∃ c, cts.lookup id = some c ∧ c.id = id) :
    let victim : String := (m.lookup data.victimMemcgCSS).getD ""
    ∃ counters' caseData, oomLoopTurn counters (.ok data) (.ok m) (.ok cts) =
        some (.saved counters' caseData) ∧
      counters'.hostOOMCounter = counters.hostOOMCounter + (if victim = "" then 1 else 0) ∧
      ∀ x, x ≠ "" → pendingCount counters'.containerOOMCounter x =
        pendingCount counters.containerOOMCounter x + (if victim = x then 1 else 0) := by
  dsimp only
  obtain ⟨trigger, htrig⟩ : ∃ t, triggerContainer cts ((m.lookup data.triggerMemcgCSS).getD "") = some t := by
    unfold triggerContainer
    split_ifs with ht
    · exact ⟨_, rfl⟩
    · obtain ⟨c, hc, -⟩ := lookup_cts_of_ne hm ht
      exact ⟨_, by rw [hc]; rfl⟩
  unfold oomLoopTurn
  dsimp only
  rw [htrig, Option.bind_eq_bind, Option.bind_some]
  by_cases hv : (m.lookup data.victimMemcgCSS).getD "" = ""
  · -- no container has the victim's address: the host's kill
    rw [if_pos hv]
    refine ⟨_, _, rfl, by simp [hv], fun x hx => ?_⟩
    simp [hv, Ne.symm hx]
  · -- the victim's container, found under its ID
    obtain ⟨c, hc, hcid⟩ := lookup_cts_of_ne hm hv
    rw [if_neg hv, hc]
    refine ⟨_, _, rfl, by simp [hv], fun x hx => ?_⟩
    rw [pendingCount_countContainerOOM, hcid]
    simp [eq_comm]

theorem exportedCount_oomExports_cons (containerOOMCounter : List (String × OomMetric))
    (p : String × Container) (res : List (String × Container)) (x : String) :
    exportedCount x (oomExports containerOOMCounter (p :: res)) =
      (if p.2.id = x then pendingCount containerOOMCounter x else 0) +
        exportedCount x (oomExports containerOOMCounter res) := by
  unfold exportedCount oomExports pendingCount
  by_cases hx : p.2.id = x
  · -- the entry is `x`'s: it adds the count held, if any
    subst hx
    cases h : containerOOMCounter.lookup p.2.id <;> simp [h]
  · cases h : containerOOMCounter.lookup p.2.id <;> simp [h, hx]

theorem exportedCount_oomExports (containerOOMCounter : List (String × OomMetric)) (x : String) :
    ∀ {res : List (String × Container)}, IdKeyed res →
      exportedCount x (oomExports containerOOMCounter res) =
        if x ∈ res.map Prod.fst then pendingCount containerOOMCounter x else 0
  | [], _ => by simp [exportedCount, oomExports]
  | p :: res, ⟨hnodup, hkey⟩ => by
    obtain ⟨hp, hres⟩ := List.nodup_cons.1 hnodup
    have ih := exportedCount_oomExports containerOOMCounter x
      ⟨hres, fun q hq => hkey q (List.mem_cons_of_mem _ hq)⟩
    rw [exportedCount_oomExports_cons, ih, ← hkey p List.mem_cons_self]
    by_cases hx : p.1 = x
    · -- the entry of `x`, which the rest of the map does not have
      subst hx
      simp [hp]
    · rw [if_neg hx, Nat.zero_add]
      simp only [List.map_cons, List.mem_cons, Ne.symm hx, false_or]

end Turn

/-! ## Each kill counted once, on a container map that does not change -/

section Account

variable (defaultRegion defaultHostname : String) (css : String → String → Option UInt64)
  (containers : List (String × Container))

/-- The ID the synced memory css map gives for an address, `""` for none. -/
def cssOwner (addr : UInt64) : String :=
  match getCSSToContainerID css "memory" .synced containers with
  | .ok m => (m.lookup addr).getD ""
  | .error _ => ""

/-- The IDs of the containers a synced `GetNormalContainers` returns. -/
def normalIDs : List String :=
  match getNormalContainers .synced containers with
  | .ok res => res.map Prod.fst
  | .error _ => []

/-- An action whose read and queries succeed. -/
def OomAction.Succeeds : OomAction → Prop
  | .event read cssSync allSync => (∃ data, read = .ok data) ∧ cssSync = .synced ∧ allSync = .synced
  | .update sync => sync = .synced

/-- The kills among the actions whose victim's address the container `x` has, the host's for
`""`. -/
def killsOf (x : String) (acts : List OomAction) : ℕ :=
  acts.countP fun a =>
    match a with
    | .event (.ok data) _ _ => cssOwner css containers data.victimMemcgCSS = x
    | _ => false

theorem oomStep_event {sys : OomSystem} (hr : sys.reading = true) (data : PerfEventData) :
    ∃ sys', oomStep defaultRegion defaultHostname css containers sys (.event (.ok data) .synced .synced) =
        some sys' ∧ sys'.reading = true ∧ sys'.scrapes = sys.scrapes ∧
      sys'.counters.hostOOMCounter = sys.counters.hostOOMCounter +
        (if cssOwner css containers data.victimMemcgCSS = "" then 1 else 0) ∧
      ∀ x, x ≠ "" → pendingCount sys'.counters.containerOOMCounter x =
        pendingCount sys.counters.containerOOMCounter x +
          (if cssOwner css containers data.victimMemcgCSS = x then 1 else 0) := by
  obtain ⟨cts, hcts⟩ : ∃ cts, getAllContainers .synced containers = .ok cts :=
    ⟨_, getContainers_synced _ _ _⟩
  obtain ⟨m, hm⟩ : ∃ m, getCSSToContainerID css "memory" .synced containers = .ok m := by
    unfold getCSSToContainerID
    rw [hcts]
    exact ⟨_, rfl⟩
  obtain ⟨counters', caseData, hturn, hhost, hpend⟩ :=
    oomLoopTurn_counts sys.counters data fun _ _ h => lookup_getCSSToContainerID hcts hm h
  have howner : cssOwner css containers data.victimMemcgCSS = (m.lookup data.victimMemcgCSS).getD "" := by
    unfold cssOwner
    rw [hm]
  unfold oomStep
  dsimp only
  rw [if_pos hr, hm, hcts, hturn, howner]
  exact ⟨_, rfl, hr, rfl, hhost, hpend⟩

theorem oomStep_update (sys : OomSystem) :
    ∃ sys', oomStep defaultRegion defaultHostname css containers sys (.update .synced) = some sys' ∧
      sys'.reading = sys.reading ∧ sys'.counters.hostOOMCounter = sys.counters.hostOOMCounter ∧
      (∀ x, pendingCount sys'.counters.containerOOMCounter x = 0) ∧
      ∃ exports, sys'.scrapes = sys.scrapes ++ [exports] ∧
        ∀ x, exportedCount x exports =
          if x ∈ normalIDs containers then pendingCount sys.counters.containerOOMCounter x else 0 := by
  obtain ⟨res, hres⟩ : ∃ res, getNormalContainers .synced containers = .ok res :=
    ⟨_, getContainers_synced _ _ _⟩
  have hkeyed := (getContainers_idKeyed hres).1
  have hnormal : normalIDs containers = res.map Prod.fst := by
    unfold normalIDs
    rw [hres]
  unfold oomStep
  dsimp only
  rw [hres]
  refine ⟨_, rfl, rfl, rfl, fun x => rfl, _, rfl, fun x => ?_⟩
  rw [exportedCount_oomExports _ _ hkeyed, hnormal]

theorem killsOf_event (x : String) (data : PerfEventData) (cssSync allSync : SyncResult)
    (acts : List OomAction) :
    killsOf css containers x (.event (.ok data) cssSync allSync :: acts) =
      killsOf css containers x acts + if cssOwner css containers data.victimMemcgCSS = x then 1 else 0 := by
  simp [killsOf, List.countP_cons]

theorem killsOf_update (x : String) (sync : SyncResult) (acts : List OomAction) :
    killsOf css containers x (.update sync :: acts) = killsOf css containers x acts := by
  simp [killsOf]

/-- The run rule: along actions that succeed, from a loop that reads, the host counter grows by
the host's kills; for a normal container the counts exported and held grow by its kills, and for
any other nothing more is exported. -/
theorem oomRun_counts (acts : List OomAction) (hacts : ∀ a ∈ acts, a.Succeeds) :
    ∀ (sys : OomSystem), sys.reading = true →
    ∃ sys', oomRun defaultRegion defaultHostname css containers sys acts = some sys' ∧
      sys'.reading = true ∧
      sys'.counters.hostOOMCounter = sys.counters.hostOOMCounter + killsOf css containers "" acts ∧
      ∀ x, x ≠ "" →
        (x ∈ normalIDs containers →
          (sys'.scrapes.map (exportedCount x)).sum + pendingCount sys'.counters.containerOOMCounter x =
            (sys.scrapes.map (exportedCount x)).sum + pendingCount sys.counters.containerOOMCounter x +
              killsOf css containers x acts) ∧
        (x ∉ normalIDs containers →
          (sys'.scrapes.map (exportedCount x)).sum = (sys.scrapes.map (exportedCount x)).sum) := by
  induction acts with
  | nil =>
    intro sys hr
    exact ⟨sys, rfl, hr, by simp [killsOf], fun x _ => ⟨fun _ => by simp [killsOf], fun _ => rfl⟩⟩
  | cons a acts ih =>
    intro sys hr
    have hrest := ih fun a ha => hacts a (List.mem_cons_of_mem _ ha)
    cases a with
    | event read cssSync allSync =>
      obtain ⟨⟨data, rfl⟩, rfl, rfl⟩ := hacts _ List.mem_cons_self
      obtain ⟨sys₁, hstep, hr₁, hsc₁, hhost₁, hpend₁⟩ :=
        oomStep_event defaultRegion defaultHostname css containers hr data
      obtain ⟨sys', hrun, hr', hhost', hcount'⟩ := hrest sys₁ hr₁
      refine ⟨sys', ?_, hr', ?_, fun x hx => ?_⟩
      · unfold oomRun
        rw [List.foldlM_cons, hstep]
        exact hrun
      · rw [hhost', hhost₁, killsOf_event]
        omega
      · obtain ⟨hnorm', hother'⟩ := hcount' x hx
        rw [hsc₁] at hnorm' hother'
        refine ⟨fun hn => ?_, hother'⟩
        rw [hnorm' hn, hpend₁ x hx, killsOf_event]
        omega
    | update sync =>
      obtain rfl : sync = .synced := hacts _ List.mem_cons_self
      obtain ⟨sys₁, hstep, hr₁, hhost₁, hpend₁, exports, hsc₁, hexp⟩ :=
        oomStep_update defaultRegion defaultHostname css containers sys
      obtain ⟨sys', hrun, hr', hhost', hcount'⟩ := hrest sys₁ (hr₁.trans hr)
      refine ⟨sys', ?_, hr', ?_, fun x hx => ?_⟩
      · unfold oomRun
        rw [List.foldlM_cons, hstep]
        exact hrun
      · rw [hhost', hhost₁, killsOf_update]
      · obtain ⟨hnorm', hother'⟩ := hcount' x hx
        simp only [hsc₁, List.map_append, List.sum_append, List.map_singleton, List.sum_singleton,
          hexp x, hpend₁ x] at hnorm' hother'
        refine ⟨fun hn => ?_, fun hn => ?_⟩
        · rw [hnorm' hn, if_pos hn, killsOf_update]
          omega
        · rw [hother' hn, if_neg hn, Nat.add_zero]

/-- Over any interleaving of kills and scrapes whose reads and queries succeed on a container map
that does not change, the host counter is the number of the host's kills; each kill in a normal
container has been exported by one scrape or is held for the next; the kills in any other
container are never exported. -/
theorem oom_kills_counted_once (acts : List OomAction) (hacts : ∀ a ∈ acts, a.Succeeds) :
    ∃ sys, oomRun defaultRegion defaultHostname css containers OomSystem.init acts = some sys ∧
      sys.counters.hostOOMCounter = killsOf css containers "" acts ∧
      ∀ x, x ≠ "" →
        (x ∈ normalIDs containers →
          (sys.scrapes.map (exportedCount x)).sum + pendingCount sys.counters.containerOOMCounter x =
            killsOf css containers x acts) ∧
        (x ∉ normalIDs containers → (sys.scrapes.map (exportedCount x)).sum = 0) := by
  obtain ⟨sys, hrun, -, hhost, hcount⟩ :=
    oomRun_counts defaultRegion defaultHostname css containers acts hacts OomSystem.init rfl
  refine ⟨sys, hrun, by simpa [OomSystem.init] using hhost, fun x hx => ?_⟩
  obtain ⟨hnorm, hother⟩ := hcount x hx
  exact ⟨fun hn => by simpa [OomSystem.init, pendingCount] using hnorm hn,
    fun hn => by simpa [OomSystem.init] using hother hn⟩

/-- A kill in a normal container, then a scrape: exported once. -/
theorem oom_kills_counted_once_pod :
    let containers : List (String × Container) :=
      [("n1", ⟨"n1", "app", "web-0", .normal, .burstable, "default"⟩)]
    let css : String → String → Option UInt64 := fun id _ => if id = "n1" then some 16 else none
    let acts : List OomAction :=
      [.event (.ok ⟨"stress", "stress", 7, 7, 16, 16⟩) .synced .synced, .update .synced]
    ∃ sys, oomRun "" "" css containers OomSystem.init acts = some sys ∧
      sys.counters.hostOOMCounter = killsOf css containers "" acts ∧
      (sys.scrapes.map (exportedCount "n1")).sum + pendingCount sys.counters.containerOOMCounter "n1" =
        killsOf css containers "n1" acts := by
  intro containers css acts
  obtain ⟨sys, hrun, hhost, hcount⟩ :=
    oom_kills_counted_once "" "" css containers acts (by simp [acts, OomAction.Succeeds])
  exact ⟨sys, hrun, hhost, (hcount "n1" (by decide)).1 (by decide)⟩

/-- A kill in a sidecar container, then a scrape: the kill is counted for the container, not
the host, and the scrape clears the count without exporting it. -/
theorem oom_sidecar_kill_lost :
    let containers : List (String × Container) :=
      [("s1", ⟨"s1", "istio-proxy", "web-0", .sidecar, .burstable, "default"⟩)]
    let css : String → String → Option UInt64 := fun id _ => if id = "s1" then some 32 else none
    let acts : List OomAction :=
      [.event (.ok ⟨"stress", "stress", 7, 7, 32, 32⟩) .synced .synced, .update .synced]
    killsOf css containers "s1" acts = 1 ∧ killsOf css containers "" acts = 0 ∧
      (oomRun "" "" css containers OomSystem.init acts).map
          (fun sys => (sys.counters.hostOOMCounter, sys.scrapes,
            pendingCount sys.counters.containerOOMCounter "s1")) =
        some (0, [[]], 0) := by
  decide

end Account

end Huatuo.Events
