import Huatuo.Lib.FixedPoint
import Huatuo.Lib.Keyed
import Huatuo.Lib.Machine
import Huatuo.Lib.Ring
import Huatuo.Lib.Search
import Huatuo.Lib.Strings

/-! The memory burst tracer (core/autotracing/memburst.go). Every sample interval `Start` calls
`checkAndRecordMemoryUsage`, which reads the anonymous memory from /proc/meminfo, writes it into
a ring of `HistoryWindowLength` slots driven through pointers, and once the ring is full
compares the new sample with the oldest one still in it: when memory has grown by the burst
ratio and passed the threshold, the largest processes are reported, at most once a silence
period.

The ring is `Lib.Ring` with a flag raised on the write to the last slot: after `k` samples the
index is `k mod n`, the flag says `k ≥ n`, and the test compares the `k`-th sample with the
`(k - n + 1)`-th; a failed read changes nothing. -/
namespace Huatuo.Autotracing

open Lib.FixedPoint Lib.Search

/-! ## Reading /proc/meminfo -/

/-- The lines of /proc/meminfo as the scanner gives them and whether it then fails; `none` when
the file does not open. -/
abbrev MemInfoFile := Option (List String × Bool)

/-- The loop of `readMemInfo` over the lines, with the values found so far: the values and
whether the loop stopped because it had them all, or `none` for a value `strconv.Atoi` refuses. -/
def readMemInfoLines (requiredKeys : List String) :
    List String → List (String × Int) → Option (List (String × Int) × Bool)
  | [], results => some (results, false)
  | line :: lines, results =>
    match Lib.Strings.fields line with
    | field₀ :: field₁ :: _ =>
      let key := Lib.Strings.trim field₀ ':'
      if key ∈ requiredKeys then
        match Lib.Strings.atoi (Lib.Strings.trimSet field₁ [' ', 'k', 'B']) with
        | none => none
        | some value =>
          let results := Lib.Keyed.set results key value
          if results.length = requiredKeys.length then some (results, true)
          else readMemInfoLines requiredKeys lines results
      else readMemInfoLines requiredKeys lines results
    | _ => readMemInfoLines requiredKeys lines results

/-- `readMemInfo`: the values of the required keys, `none` for an error. The scanner's error
is seen when the loop has read every line it gave. -/
def readMemInfo (file : MemInfoFile) (requiredKeys : List String) : Option (List (String × Int)) :=
  match file with
  | none => none
  | some (lines, scanErr) =>
    match readMemInfoLines requiredKeys lines [] with
    | none => none
    | some (results, stopped) => if scanErr && !stopped then none else some results

/-- The keys `checkAndRecordMemoryUsage` asks for. -/
def anonKeys : List String := ["Active(anon)", "Inactive(anon)"]

/-- `memInfo["Active(anon)"] + memInfo["Inactive(anon)"]`, a missing key read as 0. -/
def anonSum (memInfo : List (String × Int)) : Int :=
  (memInfo.lookup "Active(anon)").getD 0 + (memInfo.lookup "Inactive(anon)").getD 0

/-! ## The largest processes -/

structure ProcessMemoryInfo where
  pid : Int32
  processName : String
  memorySize : UInt64
deriving DecidableEq, Repr

/-- A process as `gopsutil` reads it: its resident memory and its name, or the errors reading
them. -/
structure Process where
  pid : Int32
  memoryInfo : Except String UInt64
  name : Except String String
deriving DecidableEq, Repr

/-- `getTopMemoryProcesses`: the processes whose memory and name can be read, largest first,
at most `topN` of them; `none` where a negative `topN` makes the slice panic. -/
def getTopMemoryProcesses
    (sortByMemory : SortBy ProcessMemoryInfo fun p => OrderDual.toDual p.memorySize.toNat)
    (processes : Except String (List Process)) (topN : Int) :
    Option (Except String (List ProcessMemoryInfo)) :=
  match processes with
  | .error e => some (.error e)
  | .ok processes =>
    let pmInfos := processes.filterMap fun p =>
      match p.memoryInfo, p.name with
      | .ok rss, .ok name => some ⟨p.pid, name, rss⟩
      | _, _ => none
    let pmInfos := sortByMemory.sort pmInfos
    if (pmInfos.length : Int) < topN then some (.ok pmInfos)
    else if 0 ≤ topN then some (.ok (pmInfos.take topN.toNat))
    else none

/-! ## The ring and one call -/

/-- What `Start` keeps for `checkAndRecordMemoryUsage` behind pointers: the write index, whether
the ring has been filled, and the `historyWindowLength` samples. -/
structure MemBurstState (n : ℕ) where
  currentIndex : Fin n
  isHistoryFull : Bool
  history : Fin n → Int

/-- The ring as `Start` makes it: index 0, not full, every slot 0. -/
def MemBurstState.init (n : ℕ) (hn : 0 < n) : MemBurstState n :=
  ⟨⟨0, hn⟩, false, fun _ => 0⟩

variable {n : ℕ}

/-- The write of a sample: into the slot at the index, the flag raised on the last slot, and the
index moved on. -/
def MemBurstState.record (st : MemBurstState n) (currentSum : Int) : MemBurstState n :=
  let history := Function.update st.history st.currentIndex currentSum
  let isHistoryFull := if st.currentIndex.val = n - 1 then true else st.isHistoryFull
  let currentIndex : Fin n := ⟨(st.currentIndex.val + 1) % n, Nat.mod_lt _ st.currentIndex.pos⟩
  ⟨currentIndex, isHistoryFull, history⟩

/-- What a call reads from the system: /proc/meminfo, and the processes should it look for the
largest. -/
structure MemSample where
  meminfo : MemInfoFile
  processes : Except String (List Process)

/-- The burst test on the new sample and the oldest one, and the processes it reports. -/
def burstReport (r : Rounding)
    (sortByMemory : SortBy ProcessMemoryInfo fun p => OrderDual.toDual p.memorySize.toNat)
    (processes : Except String (List Process)) (memTotal topNProcesses : Int) (burstRatio : ℚ)
    (anonThreshold : Int) (currentSum oldestSum : Int) :
    Option (Except String (List ProcessMemoryInfo)) :=
  if r.rnd currentSum ≥ r.rnd (burstRatio * r.rnd oldestSum) ∧
      currentSum ≥ (anonThreshold * memTotal).tdiv 100 then
    getTopMemoryProcesses sortByMemory processes topNProcesses
  else some (.ok [])

def checkAndRecordMemoryUsage (r : Rounding)
    (sortByMemory : SortBy ProcessMemoryInfo fun p => OrderDual.toDual p.memorySize.toNat)
    (sample : MemSample) (st : MemBurstState n) (memTotal topNProcesses : Int) (burstRatio : ℚ)
    (anonThreshold : Int) : Option (MemBurstState n × Except String (List ProcessMemoryInfo)) :=
  match readMemInfo sample.meminfo anonKeys with
  | none => some (st, .ok [])
  | some memInfo =>
    let currentSum := anonSum memInfo
    let st := st.record currentSum
    if st.isHistoryFull then
      -- the index has moved on to the oldest sample
      let oldestSum := st.history st.currentIndex
      (burstReport r sortByMemory sample.processes memTotal topNProcesses burstRatio anonThreshold
        currentSum oldestSum).map (st, ·)
    else some (st, .ok [])

/-! ## What the calls do to the ring -/

/-- The ring a call leaves: the sample written when /proc/meminfo could be read, the ring as it
was when not. -/
def MemBurstState.next (st : MemBurstState n) (sample : MemSample) : MemBurstState n :=
  match readMemInfo sample.meminfo anonKeys with
  | none => st
  | some memInfo => st.record (anonSum memInfo)

def memBurstRun (st : MemBurstState n) (calls : List MemSample) : MemBurstState n :=
  Lib.Machine.run MemBurstState.next st calls

def anonSums (calls : List MemSample) : List Int :=
  calls.filterMap fun c => (readMemInfo c.meminfo anonKeys).map anonSum

/-- The ring holds the samples `ss` as `Lib.Ring` does, and it is full once there have been as
many as it has slots. -/
def MemBurstState.Holds (st : MemBurstState n) (ss : List Int) : Prop :=
  Lib.Ring.Holds ss st.currentIndex st.history ∧ (st.isHistoryFull = true ↔ n ≤ ss.length)

theorem MemBurstState.holds_init (hn : 0 < n) : (MemBurstState.init n hn).Holds [] :=
  ⟨Lib.Ring.holds_nil _ rfl _, by simp [MemBurstState.init]; omega⟩

theorem MemBurstState.Holds.record {st : MemBurstState n} {ss : List Int} (h : st.Holds ss)
    (x : Int) : (st.record x).Holds (ss ++ [x]) := by
  obtain ⟨hring, hfull⟩ := h
  have hidx := hring.1
  have hn := st.currentIndex.pos
  refine ⟨hring.write x, ?_⟩
  simp only [MemBurstState.record, List.length_append, List.length_singleton]
  by_cases hlast : st.currentIndex.val = n - 1
  · rw [if_pos hlast]
    have hk : n ≤ ss.length + 1 := by
      have := Nat.mod_le ss.length n
      omega
    simpa using hk
  · rw [if_neg hlast, hfull]
    constructor
    · intro hk
      omega
    · intro hk
      by_contra hlt
      rw [Nat.mod_eq_of_lt (by omega)] at hidx
      omega

theorem MemBurstState.Holds.next {st : MemBurstState n} {ss : List Int} (h : st.Holds ss)
    (sample : MemSample) :
    (st.next sample).Holds (ss ++ ((readMemInfo sample.meminfo anonKeys).map anonSum).toList) := by
  unfold MemBurstState.next
  cases readMemInfo sample.meminfo anonKeys with
  | none => simpa using h
  | some memInfo => exact h.record _

/-- The run rule: after any sequence of calls the ring holds the samples they wrote. -/
theorem MemBurstState.Holds.run {st : MemBurstState n} {ss : List Int} (h : st.Holds ss)
    (calls : List MemSample) : (memBurstRun st calls).Holds (ss ++ anonSums calls) := by
  induction calls generalizing st ss with
  | nil => simpa [memBurstRun, anonSums] using h
  | cons c calls ih =>
    have hrest := ih (h.next c)
    simp only [memBurstRun, Lib.Machine.run_cons] at hrest ⊢
    cases hc : readMemInfo c.meminfo anonKeys with
    | none => simpa [anonSums, hc] using hrest
    | some memInfo => simpa [anonSums, hc] using hrest

theorem MemBurstState.Holds.checkAndRecordMemoryUsage {r : Rounding}
    {sortByMemory : SortBy ProcessMemoryInfo fun p => OrderDual.toDual p.memorySize.toNat}
    {sample : MemSample} {st : MemBurstState n} {ss : List Int} {memTotal topNProcesses : Int}
    {burstRatio : ℚ} {anonThreshold : Int} {memInfo : List (String × Int)} (h : st.Holds ss)
    (hm : readMemInfo sample.meminfo anonKeys = some memInfo) :
    let x := anonSum memInfo
    let call := Huatuo.Autotracing.checkAndRecordMemoryUsage r sortByMemory sample st memTotal
      topNProcesses burstRatio anonThreshold
    (ss.length + 1 < n → call = some (st.record x, .ok [])) ∧
      (n ≤ ss.length + 1 → ∃ oldestSum, (ss ++ [x])[ss.length + 1 - n]? = some oldestSum ∧
        call = (burstReport r sortByMemory sample.processes memTotal topNProcesses burstRatio
          anonThreshold x oldestSum).map (st.record x, ·)) := by
  intro x call
  have hrec := h.record x
  have hcall : call = if (st.record x).isHistoryFull then
      (burstReport r sortByMemory sample.processes memTotal topNProcesses burstRatio anonThreshold
        x ((st.record x).history (st.record x).currentIndex)).map (st.record x, ·)
      else some (st.record x, .ok []) := by
    simp only [call, Huatuo.Autotracing.checkAndRecordMemoryUsage, hm]
    rfl
  have hfull : (st.record x).isHistoryFull = true ↔ n ≤ ss.length + 1 := by
    simpa using hrec.2
  constructor
  · intro hlt
    rw [hcall, if_neg (by rw [hfull]; omega)]
  · intro hle
    have holdest := hrec.1.oldest (by simpa using hle)
    simp only [List.length_append, List.length_singleton] at holdest
    exact ⟨_, holdest, by rw [hcall, if_pos (hfull.2 hle)]⟩

/-! ## The window over every sequence of calls -/

theorem checkAndRecordMemoryUsage_window (r : Rounding)
    (sortByMemory : SortBy ProcessMemoryInfo fun p => OrderDual.toDual p.memorySize.toNat)
    (n : ℕ) (hn : 0 < n) (calls : List MemSample) (sample : MemSample)
    (memTotal topNProcesses : Int) (burstRatio : ℚ) (anonThreshold : Int) :
    let st : MemBurstState n := memBurstRun (MemBurstState.init n hn) calls
    let ss : List Int := anonSums calls
    st.currentIndex.val = ss.length % n ∧
      (st.isHistoryFull = true ↔ n ≤ ss.length) ∧
      (∀ j < min ss.length n,
        ss[ss.length - 1 - j]? = some (st.history ⟨(ss.length - 1 - j) % n, Nat.mod_lt _ hn⟩)) ∧
      (∀ memInfo, readMemInfo sample.meminfo anonKeys = some memInfo →
        (ss.length + 1 < n →
          checkAndRecordMemoryUsage r sortByMemory sample st memTotal topNProcesses burstRatio
            anonThreshold = some (st.record (anonSum memInfo), .ok [])) ∧
        (n ≤ ss.length + 1 → ∃ oldestSum,
          (ss ++ [anonSum memInfo])[ss.length + 1 - n]? = some oldestSum ∧
          checkAndRecordMemoryUsage r sortByMemory sample st memTotal topNProcesses burstRatio
              anonThreshold =
            (burstReport r sortByMemory sample.processes memTotal topNProcesses burstRatio
              anonThreshold (anonSum memInfo) oldestSum).map (st.record (anonSum memInfo), ·))) ∧
      ∀ st' : MemBurstState n, readMemInfo sample.meminfo anonKeys = none →
        checkAndRecordMemoryUsage r sortByMemory sample st' memTotal topNProcesses burstRatio
          anonThreshold = some (st', .ok []) := by
  intro st ss
  have h : st.Holds ss := by
    simpa using (MemBurstState.holds_init hn).run calls
  refine ⟨h.1.1, h.2, h.1.2, fun memInfo hm => h.checkAndRecordMemoryUsage hm, fun st' hm => ?_⟩
  simp only [checkAndRecordMemoryUsage, hm]

theorem checkAndRecordMemoryUsage_window_pair :
    0 < 2 ∧
      ((memBurstRun (MemBurstState.init 2 Nat.two_pos)
          [⟨some (["Active(anon):     100 kB", "Inactive(anon):    20 kB"], false), .ok []⟩]).isHistoryFull = true ↔
        2 ≤ (anonSums [⟨some (["Active(anon):     100 kB", "Inactive(anon):    20 kB"], false), .ok []⟩]).length) :=
  ⟨Nat.two_pos, (checkAndRecordMemoryUsage_window .exact (SortBy.insertion _) 2 Nat.two_pos
    [⟨some (["Active(anon):     100 kB", "Inactive(anon):    20 kB"], false), .ok []⟩]
    ⟨none, .ok []⟩ 0 0 0 0).2.1⟩

end Huatuo.Autotracing
