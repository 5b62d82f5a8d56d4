import Huatuo.Bpf.Runqlat

/-! What every run of the run-queue latency program keeps. Each count goes to a task group's
entry and to the host's together, so the host totals are the groups' counts and what deleted
groups had counted. A switch takes at most one latency sample, in one bucket, by consuming the
enqueue time of the task it switches to; so no run has more samples than enqueue times it
recorded. -/
namespace Huatuo.Bpf

open Lib.BpfMap Lib.Machine

/-! ## The counters -/

@[simp] theorem StatT.get_inc (st : StatT) (f f' : StatField) :
    (st.inc f).get f' = st.get f' + if f = f' then 1 else 0 := by
  cases f <;> cases f' <;> simp [StatT.inc, StatT.get]

@[simp] theorem GStatT.get_inc (g : GStatT) (f f' : StatField) :
    (g.inc f).get f' = g.get f' + if f = f' then 1 else 0 := by
  cases f <;> cases f' <;> simp [GStatT.inc, GStatT.get]

@[simp] theorem StatT.get_zero (f : StatField) : StatT.zero.get f = 0 := by
  cases f <;> rfl

@[simp] theorem GStatT.get_zero (f : StatField) : GStatT.zero.get f = 0 := by
  cases f <;> rfl

theorem GStatT.samples_inc (g : GStatT) (f : StatField) :
    (g.inc f).samples = g.samples + if f ∈ StatField.nlats then 1 else 0 := by
  cases f <;> simp [GStatT.inc, GStatT.samples, StatField.nlats] <;> omega

theorem latBucket_mem_nlats (delta : UInt64) : latBucket delta ∈ StatField.nlats := by
  unfold latBucket
  split_ifs <;> simp [StatField.nlats]

theorem GStatT.get_inc_of_mem_nlats (g : GStatT) {f f' : StatField} (hf : f ∉ StatField.nlats)
    (hf' : f' ∈ StatField.nlats) : (g.inc f).get f' = g.get f' := by
  have hne : f ≠ f' := fun h => hf (h ▸ hf')
  simp [hne]

/-! ## Task group entries -/

section Group

variable {m m' : Hash UInt64 StatT} {key : UInt64}

theorem lookupOrInit_eq_some (h : lookupOrInit m key = some m') :
    (m'.lookup key).isSome ∧ ∀ f, m'.sumBy (·.get f) = m.sumBy (·.get f) := by
  unfold lookupOrInit at h
  split at h
  · next st hk =>
    cases h
    exact ⟨by simp [hk], fun _ => rfl⟩
  · next hk =>
    dsimp only at h
    split_ifs at h with hs
    cases h
    refine ⟨hs, fun f => ?_⟩
    unfold Hash.updateElem
    cases hu : m.update key StatT.zero .noexist with
    | none => rfl
    | some m₁ =>
      obtain ⟨_, rfl, -⟩ := Hash.update_eq_some hu
      have hsum := Hash.sumBy_put (m := m) (k := key) (v := StatT.zero) (h := by assumption)
        fun st => st.get f
      simpa [hk] using hsum

variable {s s' : RunqlatState} {fld : StatField}

theorem countIn_eq_some (h : countIn s key fld = some s') :
    s'.latency = s.latency ∧ s'.cpuHostMetric = s.cpuHostMetric.inc fld ∧
      ∀ f, s'.cpuTgMetric.sumBy (·.get f) = s.cpuTgMetric.sumBy (·.get f) + if fld = f then 1 else 0 := by
  unfold countIn at h
  obtain ⟨m, hm, rfl⟩ := Option.map_eq_some_iff.1 h
  obtain ⟨hkey, hsum⟩ := lookupOrInit_eq_some hm
  obtain ⟨st, hst⟩ := Option.isSome_iff_exists.1 hkey
  refine ⟨rfl, rfl, fun f => ?_⟩
  have hmod := Hash.sumBy_modify (fun st => st.get f) (g := (·.inc fld)) hst
  show (m.modify key (·.inc fld)).sumBy (·.get f) = _
  rw [← hsum f]
  simp only [StatT.get_inc] at hmod
  omega

end Group

/-! ## The parts of a switch -/

section Switch

variable (s : RunqlatState) (prev next : TaskStruct) (now : UInt64)

@[simp] theorem recordPrev_cpuTgMetric : (recordPrev s prev now).cpuTgMetric = s.cpuTgMetric := by
  unfold recordPrev
  split_ifs <;> rfl

@[simp] theorem recordPrev_cpuHostMetric :
    (recordPrev s prev now).cpuHostMetric = s.cpuHostMetric := by
  unfold recordPrev
  split_ifs <;> rfl

theorem recordPrev_size_le :
    (recordPrev s prev now).latency.size ≤
      s.latency.size + if prev.state = taskRunning ∧ prev.pid ≠ 0 then 1 else 0 := by
  unfold recordPrev
  split_ifs
  · exact Hash.size_updateElem_le
  · omega

theorem countSwitch_eq_some {s' : RunqlatState} (h : countSwitch s prev = some s') :
    s'.latency = s.latency ∧
      (∀ f ∈ StatField.nlats, s'.cpuHostMetric.get f = s.cpuHostMetric.get f) ∧
      ((s'.cpuTgMetric = s.cpuTgMetric ∧ s'.cpuHostMetric = s.cpuHostMetric) ∨
        ∃ fld, countIn s prev.schedTaskGroup fld = some s') := by
  unfold countSwitch at h
  dsimp only at h
  by_cases hc : prev.schedTaskGroup ≠ 0 ∧ prev.pid ≠ 0
  · rw [if_pos hc] at h
    generalize hfld : (if prev.state ≠ taskRunning then StatField.nvcsw else .nivcsw) = fld at h
    have hnot : fld ∉ StatField.nlats := by
      rw [← hfld]
      split_ifs <;> simp [StatField.nlats]
    obtain ⟨hlat, hhost, -⟩ := countIn_eq_some h
    refine ⟨hlat, fun f hf => ?_, .inr ⟨_, h⟩⟩
    rw [hhost]
    exact GStatT.get_inc_of_mem_nlats _ hnot hf
  · rw [if_neg hc] at h
    cases h
    exact ⟨rfl, fun _ _ => rfl, .inl ⟨rfl, rfl⟩⟩

theorem countLatency_cases :
    ((countLatency s next now).cpuHostMetric = s.cpuHostMetric ∧
        (countLatency s next now).cpuTgMetric = s.cpuTgMetric ∧
        (countLatency s next now).latency.size ≤ s.latency.size) ∨
      ∃ ts, next.pid ≠ 0 ∧ s.latency.lookup next.pid = some ts ∧ ts ≠ 0 ∧
        (countLatency s next now).latency = s.latency.delete next.pid ∧
        ∃ s₁, countIn s₁ next.schedTaskGroup (latBucket (now - ts)) = some (countLatency s next now) ∧
          s₁.cpuTgMetric = s.cpuTgMetric ∧ s₁.cpuHostMetric = s.cpuHostMetric := by
  unfold countLatency
  split_ifs with hpid
  · exact .inl ⟨rfl, rfl, Nat.le_refl _⟩
  split
  · exact .inl ⟨rfl, rfl, Nat.le_refl _⟩
  next ts hts =>
  dsimp only
  split_ifs with hts0 hkey
  · exact .inl ⟨rfl, rfl, Nat.le_refl _⟩
  · -- the enqueue time is consumed; the sample is counted if the group's entry can be had
    cases hc : countIn { s with latency := s.latency.delete next.pid } next.schedTaskGroup
        (latBucket (now - ts)) with
    | none => exact .inl ⟨rfl, rfl, Hash.size_delete_le⟩
    | some s₂ =>
      obtain ⟨hlat, -, -⟩ := countIn_eq_some hc
      exact .inr ⟨ts, hpid, hts, hts0, hlat, _, hc, rfl, rfl⟩
  · exact .inl ⟨rfl, rfl, Hash.size_delete_le⟩

end Switch

section Handlers

variable (s : RunqlatState)

@[simp] theorem traceEnqueue_cpuTgMetric (pid : UInt32) (t : UInt64) :
    (traceEnqueue s pid t).cpuTgMetric = s.cpuTgMetric := by
  unfold traceEnqueue
  split_ifs <;> rfl

@[simp] theorem traceEnqueue_cpuHostMetric (pid : UInt32) (t : UInt64) :
    (traceEnqueue s pid t).cpuHostMetric = s.cpuHostMetric := by
  unfold traceEnqueue
  split_ifs <;> rfl

@[simp] theorem schedProcessExitEntry_cpuTgMetric (pid : UInt32) :
    (schedProcessExitEntry s pid).cpuTgMetric = s.cpuTgMetric := by
  unfold schedProcessExitEntry
  split_ifs <;> rfl

@[simp] theorem schedProcessExitEntry_cpuHostMetric (pid : UInt32) :
    (schedProcessExitEntry s pid).cpuHostMetric = s.cpuHostMetric := by
  unfold schedProcessExitEntry
  split_ifs <;> rfl

@[simp] theorem freeFairSchedGroupEntry_latency (tg : UInt64) :
    (freeFairSchedGroupEntry s tg).latency = s.latency := by
  unfold freeFairSchedGroupEntry
  split_ifs <;> rfl

@[simp] theorem freeFairSchedGroupEntry_cpuHostMetric (tg : UInt64) :
    (freeFairSchedGroupEntry s tg).cpuHostMetric = s.cpuHostMetric := by
  unfold freeFairSchedGroupEntry
  split_ifs <;> rfl

end Handlers

/-! ## The host totals -/

/-- The host's totals are the task groups' counts and `excess` more. -/
def Totals (s : RunqlatState) (excess : StatField → Nat) : Prop :=
  ∀ f, s.cpuTgMetric.sumBy (·.get f) + excess f = s.cpuHostMetric.get f

namespace Totals

variable {s s' : RunqlatState} {d : StatField → Nat}

theorem of_eq (h : Totals s d) (ht : s'.cpuTgMetric = s.cpuTgMetric)
    (hg : s'.cpuHostMetric = s.cpuHostMetric) : Totals s' d := by
  intro f
  rw [ht, hg]
  exact h f

theorem of_countIn (h : Totals s d) {key : UInt64} {fld : StatField}
    (hc : countIn s key fld = some s') : Totals s' d := by
  obtain ⟨-, hhost, hsum⟩ := countIn_eq_some hc
  intro f
  have hf := h f
  rw [hsum f, hhost, GStatT.get_inc]
  omega

theorem of_schedSwitchEntry (h : Totals s d) (prev next : TaskStruct) (now₁ now₂ : UInt64) :
    Totals (schedSwitchEntry s prev next now₁ now₂) d := by
  have h₁ : Totals (recordPrev s prev now₁) d := h.of_eq (by simp) (by simp)
  unfold schedSwitchEntry
  dsimp only
  cases hsw : countSwitch (recordPrev s prev now₁) prev with
  | none => exact h₁
  | some s₂ =>
    obtain ⟨-, -, hcases⟩ := countSwitch_eq_some _ _ hsw
    have h₂ : Totals s₂ d := by
      rcases hcases with ⟨ht, hg⟩ | ⟨fld, hc⟩
      · exact h₁.of_eq ht hg
      · exact h₁.of_countIn hc
    rcases countLatency_cases s₂ next now₂ with ⟨hg, ht, -⟩ | ⟨ts, -, -, -, -, s₃, hc, ht, hg⟩
    · exact h₂.of_eq ht hg
    · exact (h₂.of_eq ht hg).of_countIn hc

theorem of_handle (h : Totals s d) (e : RunqlatEvent) (he : e.deletesGroup s = false) :
    Totals (e.handle s) d := by
  cases e with
  | schedWakeup pid t => exact h.of_eq (by simp [RunqlatEvent.handle]) (by simp [RunqlatEvent.handle])
  | schedWakeupNew pid t => exact h.of_eq (by simp [RunqlatEvent.handle]) (by simp [RunqlatEvent.handle])
  | schedSwitch prev next now₁ now₂ => exact h.of_schedSwitchEntry prev next now₁ now₂
  | schedProcessExit pid => exact h.of_eq (by simp [RunqlatEvent.handle]) (by simp [RunqlatEvent.handle])
  | freeFairSchedGroup tg =>
    have hk : (s.cpuTgMetric.lookup tg).isSome = false := he
    simpa [RunqlatEvent.handle, freeFairSchedGroupEntry, hk] using h

theorem of_freeFairSchedGroupEntry (h : Totals s d) (tg : UInt64) :
    ∃ d', (∀ f, d f ≤ d' f) ∧ Totals (freeFairSchedGroupEntry s tg) d' := by
  cases hk : s.cpuTgMetric.lookup tg with
  | none => exact ⟨d, fun _ => Nat.le_refl _, by simpa [freeFairSchedGroupEntry, hk] using h⟩
  | some st =>
    refine ⟨fun f => d f + st.get f, fun f => Nat.le_add_right _ _, fun f => ?_⟩
    have hdel := Hash.sumBy_delete_of_lookup (fun st => st.get f) hk
    have hf := h f
    simp only [freeFairSchedGroupEntry, hk, Option.isSome_some, if_true]
    omega

theorem init : Totals RunqlatState.init 0 := by
  intro f
  simp [RunqlatState.init]

end Totals

/-- The host's totals are at least the task groups' counts after every run. -/
theorem totals_run (evs : List RunqlatEvent) :
    ∃ d, Totals (run RunqlatEvent.handle RunqlatState.init evs) d := by
  refine @run_invariant_always _ _ RunqlatEvent.handle (fun s => ∃ d, Totals s d) ?_ _ _
    ⟨0, Totals.init⟩
  rintro s e ⟨d, hd⟩
  cases e with
  | freeFairSchedGroup tg =>
    obtain ⟨d', -, hd'⟩ := hd.of_freeFairSchedGroupEntry tg
    exact ⟨d', hd'⟩
  | _ => exact ⟨d, hd.of_handle _ rfl⟩

theorem totals_run_of_no_deletion {evs : List RunqlatEvent}
    (h : Allowed RunqlatEvent.handle (fun s e => e.deletesGroup s = false) RunqlatState.init evs) :
    Totals (run RunqlatEvent.handle RunqlatState.init evs) 0 :=
  @run_invariant _ _ RunqlatEvent.handle _ (fun s => Totals s 0) (fun _ e hs he => hs.of_handle e he)
    _ _ Totals.init h

/-! ## Latency samples -/

theorem GStatT.samples_eq_of_nlats {g g' : GStatT}
    (h : ∀ f ∈ StatField.nlats, g'.get f = g.get f) : g'.samples = g.samples := by
  have h1 := h .nlat01 (by simp [StatField.nlats])
  have h2 := h .nlat02 (by simp [StatField.nlats])
  have h3 := h .nlat03 (by simp [StatField.nlats])
  have h4 := h .nlat04 (by simp [StatField.nlats])
  simp only [GStatT.get] at h1 h2 h3 h4
  simp only [GStatT.samples, h1, h2, h3, h4]

theorem schedSwitchEntry_samples (s : RunqlatState) (prev next : TaskStruct) (now₁ now₂ : UInt64) :
    (∀ f ∈ StatField.nlats,
        (schedSwitchEntry s prev next now₁ now₂).cpuHostMetric.get f = s.cpuHostMetric.get f) ∨
      ∃ ts, next.pid ≠ 0 ∧ (recordPrev s prev now₁).latency.lookup next.pid = some ts ∧ ts ≠ 0 ∧
        (schedSwitchEntry s prev next now₁ now₂).latency.lookup next.pid = none ∧
        ∀ f ∈ StatField.nlats, (schedSwitchEntry s prev next now₁ now₂).cpuHostMetric.get f =
          s.cpuHostMetric.get f + if latBucket (now₂ - ts) = f then 1 else 0 := by
  unfold schedSwitchEntry
  dsimp only
  cases hsw : countSwitch (recordPrev s prev now₁) prev with
  | none => exact .inl fun f _ => by simp
  | some s₂ =>
    obtain ⟨hlat, hnlat, -⟩ := countSwitch_eq_some _ _ hsw
    simp only [recordPrev_cpuHostMetric] at hnlat
    rcases countLatency_cases s₂ next now₂ with ⟨hg, -, -⟩ | ⟨ts, hpid, hts, hts0, hdel, s₃, hc, -, hg⟩
    · exact .inl fun f hf => by rw [hg, hnlat f hf]
    · obtain ⟨-, hhost, -⟩ := countIn_eq_some hc
      refine .inr ⟨ts, hpid, hlat ▸ hts, hts0, ?_, fun f hf => ?_⟩
      · rw [hdel, Hash.lookup_delete, if_pos rfl]
      · rw [hhost, hg, GStatT.get_inc, hnlat f hf]

theorem samples_size_schedSwitchEntry (s : RunqlatState) (prev next : TaskStruct) (now₁ now₂ : UInt64) :
    (schedSwitchEntry s prev next now₁ now₂).cpuHostMetric.samples +
        (schedSwitchEntry s prev next now₁ now₂).latency.size ≤
      s.cpuHostMetric.samples + s.latency.size +
        if prev.state = taskRunning ∧ prev.pid ≠ 0 then 1 else 0 := by
  have hrec := recordPrev_size_le s prev now₁
  generalize (if prev.state = taskRunning ∧ prev.pid ≠ 0 then 1 else 0) = r at hrec ⊢
  unfold schedSwitchEntry
  dsimp only
  cases hsw : countSwitch (recordPrev s prev now₁) prev with
  | none =>
    simp only [recordPrev_cpuHostMetric]
    omega
  | some s₂ =>
    dsimp only
    obtain ⟨hlat, hnlat, -⟩ := countSwitch_eq_some _ _ hsw
    have hs₂ : s₂.cpuHostMetric.samples = s.cpuHostMetric.samples := by
      simpa using GStatT.samples_eq_of_nlats hnlat
    have hsize₂ : s₂.latency.size = (recordPrev s prev now₁).latency.size := by rw [hlat]
    rcases countLatency_cases s₂ next now₂ with ⟨hg, -, hsize⟩ | ⟨ts, -, hts, -, hdel, s₃, hc, -, hg⟩
    · rw [hg, hs₂]
      omega
    · obtain ⟨-, hhost, -⟩ := countIn_eq_some hc
      have hsz := Hash.size_delete_of_lookup (m := s₂.latency) (k := next.pid) (by simp [hts])
      rw [hhost, hg, GStatT.samples_inc, if_pos (latBucket_mem_nlats _), hs₂, hdel]
      omega

theorem samples_size_handle (s : RunqlatState) (e : RunqlatEvent) :
    (e.handle s).cpuHostMetric.samples + (e.handle s).latency.size ≤
      s.cpuHostMetric.samples + s.latency.size + e.records := by
  cases e with
  | schedWakeup pid t | schedWakeupNew pid t =>
    simp only [RunqlatEvent.handle, RunqlatEvent.records, traceEnqueue_cpuHostMetric]
    unfold traceEnqueue
    split_ifs
    · omega
    · have := @Hash.size_updateElem_le _ _ _ s.latency pid t .any
      dsimp only
      omega
  | schedSwitch prev next now₁ now₂ => exact samples_size_schedSwitchEntry s prev next now₁ now₂
  | schedProcessExit pid =>
    simp only [RunqlatEvent.handle, RunqlatEvent.records, schedProcessExitEntry_cpuHostMetric]
    unfold schedProcessExitEntry
    split_ifs
    · have := Hash.size_delete_le (m := s.latency) (k := pid)
      dsimp only
      omega
    · omega
  | freeFairSchedGroup tg => simp [RunqlatEvent.handle, RunqlatEvent.records]

theorem samples_size_run (s : RunqlatState) (evs : List RunqlatEvent) :
    (run RunqlatEvent.handle s evs).cpuHostMetric.samples + (run RunqlatEvent.handle s evs).latency.size ≤
      s.cpuHostMetric.samples + s.latency.size + (evs.map RunqlatEvent.records).sum := by
  induction evs generalizing s with
  | nil => simp
  | cons e evs ih =>
    have hstep := samples_size_handle s e
    have hrest := ih (e.handle s)
    simp only [run_cons, List.map_cons, List.sum_cons]
    omega

/-- From the maps as loaded, no run has more latency samples than enqueue times it recorded. -/
theorem samples_run_le_records (evs : List RunqlatEvent) :
    (run RunqlatEvent.handle RunqlatState.init evs).cpuHostMetric.samples ≤
      (evs.map RunqlatEvent.records).sum := by
  have h := samples_size_run RunqlatState.init evs
  have h0 : RunqlatState.init.cpuHostMetric.samples + RunqlatState.init.latency.size = 0 := rfl
  omega

/-! ## The counters of every run -/

/-- After every run from the maps as loaded, the host's count of each counter is at least the
task groups' counts, and equal to them while no group's entry was deleted; every switch takes
at most one latency sample, in the one bucket of its latency, and only by consuming a pending
enqueue time of the task it switches to; and no run has more samples than enqueue times it
recorded. -/
theorem runqlat_counts_consistent :
    (∀ evs f, (run RunqlatEvent.handle RunqlatState.init evs).cpuTgMetric.sumBy (·.get f) ≤
        (run RunqlatEvent.handle RunqlatState.init evs).cpuHostMetric.get f) ∧
      (∀ evs, Allowed RunqlatEvent.handle (fun s e => e.deletesGroup s = false) RunqlatState.init evs →
        ∀ f, (run RunqlatEvent.handle RunqlatState.init evs).cpuTgMetric.sumBy (·.get f) =
          (run RunqlatEvent.handle RunqlatState.init evs).cpuHostMetric.get f) ∧
      (∀ s prev next now₁ now₂,
        (∀ f ∈ StatField.nlats,
            (schedSwitchEntry s prev next now₁ now₂).cpuHostMetric.get f = s.cpuHostMetric.get f) ∨
          ∃ ts, next.pid ≠ 0 ∧ (recordPrev s prev now₁).latency.lookup next.pid = some ts ∧ ts ≠ 0 ∧
            (schedSwitchEntry s prev next now₁ now₂).latency.lookup next.pid = none ∧
            ∀ f ∈ StatField.nlats, (schedSwitchEntry s prev next now₁ now₂).cpuHostMetric.get f =
              s.cpuHostMetric.get f + if latBucket (now₂ - ts) = f then 1 else 0) ∧
      (∀ evs, (run RunqlatEvent.handle RunqlatState.init evs).cpuHostMetric.samples ≤
        (evs.map RunqlatEvent.records).sum) := by
  refine ⟨fun evs f => ?_, fun evs h f => ?_, schedSwitchEntry_samples, samples_run_le_records⟩
  · obtain ⟨d, hd⟩ := totals_run evs
    have := hd f
    omega
  · simpa using totals_run_of_no_deletion h f

/-- A wakeup of task 7 and a switch to it from a task of the same group that blocks: no entry
is deleted, and the host's counts are the group's. -/
theorem runqlat_counts_wakeup_switch :
    Allowed RunqlatEvent.handle (fun s e => e.deletesGroup s = false) RunqlatState.init
        [.schedWakeup 7 1000, .schedSwitch ⟨3, 0x1000, 1⟩ ⟨7, 0x1000, 0⟩ 2000 5000000] ∧
      ∀ f, (run RunqlatEvent.handle RunqlatState.init
          [.schedWakeup 7 1000, .schedSwitch ⟨3, 0x1000, 1⟩ ⟨7, 0x1000, 0⟩ 2000 5000000]).cpuTgMetric.sumBy
            (·.get f) =
        (run RunqlatEvent.handle RunqlatState.init
          [.schedWakeup 7 1000, .schedSwitch ⟨3, 0x1000, 1⟩ ⟨7, 0x1000, 0⟩ 2000 5000000]).cpuHostMetric.get f :=
  have h : Allowed RunqlatEvent.handle (fun s e => e.deletesGroup s = false) RunqlatState.init
      [.schedWakeup 7 1000, .schedSwitch ⟨3, 0x1000, 1⟩ ⟨7, 0x1000, 0⟩ 2000 5000000] :=
    ⟨rfl, rfl, trivial⟩
  ⟨h, runqlat_counts_consistent.2.1 _ h⟩

end Huatuo.Bpf
