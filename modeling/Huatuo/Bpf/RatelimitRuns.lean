import Huatuo.Bpf.Ratelimit

/-! What runs of the rate limiter guarantee, from any sequence of call times: the totals count
the calls, each window lets its first `burst` calls through and refuses the rest,
`total_interval` adds up the windows' lengths, and a call past `begin + interval` opens a new
window. Under `bpf_ratelimited_core_in_map` with a burst, the first refused call of every
window sends a record. -/
namespace Huatuo.Bpf

namespace BpfRatelimit

variable (rate : BpfRatelimit) (c : UInt64)

@[simp] theorem start_eq : rate.start c = { rate with begin := if rate.begin = 0 then c else rate.begin } := by
  unfold start
  split_ifs <;> rfl

@[simp] theorem roll_interval : (rate.roll c).interval = rate.interval := by
  unfold roll; split_ifs <;> rfl

@[simp] theorem roll_burst : (rate.roll c).burst = rate.burst := by
  unfold roll; split_ifs <;> rfl

@[simp] theorem roll_totalEvents : (rate.roll c).totalEvents = rate.totalEvents := by
  unfold roll; split_ifs <;> rfl

@[simp] theorem roll_totalNmissed : (rate.roll c).totalNmissed = rate.totalNmissed := by
  unfold roll; split_ifs <;> rfl

@[simp] theorem count_interval : rate.count.2.interval = rate.interval := by
  unfold count; split_ifs <;> rfl

@[simp] theorem count_burst : rate.count.2.burst = rate.burst := by
  unfold count; split_ifs <;> rfl

@[simp] theorem count_begin : rate.count.2.begin = rate.begin := by
  unfold count; split_ifs <;> rfl

@[simp] theorem count_totalInterval : rate.count.2.totalInterval = rate.totalInterval := by
  unfold count; split_ifs <;> rfl

end BpfRatelimit

section Call

variable {rate : BpfRatelimit} (t : UInt64)

theorem bpfRatelimited_eq (hi : rate.interval ≠ 0) :
    bpfRatelimited rate t = ((rate.start (curr t)).roll (curr t)).count := by
  simp [bpfRatelimited, hi]

theorem opensAt_eq (hi : rate.interval ≠ 0) :
    rate.opensAt t = (rate.start (curr t)).opens (curr t) := by
  simp [BpfRatelimit.opensAt, hi]

@[simp] theorem bpfRatelimited_interval : (bpfRatelimited rate t).2.interval = rate.interval := by
  unfold bpfRatelimited; split_ifs <;> simp

@[simp] theorem bpfRatelimited_burst : (bpfRatelimited rate t).2.burst = rate.burst := by
  unfold bpfRatelimited; split_ifs <;> simp

theorem bpfRatelimited_interval_ne_zero (hi : rate.interval ≠ 0) :
    (bpfRatelimited rate t).2.interval ≠ 0 := by
  simpa using hi

theorem bpfRatelimited_totals (hi : rate.interval ≠ 0) :
    (bpfRatelimited rate t).2.totalEvents =
        rate.totalEvents + (if (bpfRatelimited rate t).1 then 0 else 1) ∧
      (bpfRatelimited rate t).2.totalNmissed =
        rate.totalNmissed + (if (bpfRatelimited rate t).1 then 1 else 0) := by
  rw [bpfRatelimited_eq t hi]
  unfold BpfRatelimit.count
  split <;> simp

theorem bpfRatelimited_begin_set (hi : rate.interval ≠ 0) (hb : rate.begin ≠ 0) :
    (bpfRatelimited rate t).2.begin ≠ 0 ∧
      (bpfRatelimited rate t).2.totalInterval - (bpfRatelimited rate t).2.begin =
        rate.totalInterval - rate.begin := by
  rw [bpfRatelimited_eq t hi]
  simp only [BpfRatelimit.count_begin, BpfRatelimit.count_totalInterval]
  unfold BpfRatelimit.roll BpfRatelimit.opens
  simp only [BpfRatelimit.start_eq, hb, if_false]
  split_ifs with hopen
  · -- a window opens at `curr`, which is past something, so not 0
    have hc : curr t ≠ 0 := by
      rintro hc
      simp only [hc, decide_eq_true_eq, UInt64.lt_iff_toNat_lt, UInt64.toNat_zero] at hopen
      exact Nat.not_lt_zero _ hopen
    exact ⟨hc, by simp only; grind⟩
  · exact ⟨hb, rfl⟩

theorem bpfRatelimited_begin_unset (hi : rate.interval ≠ 0) (hb : rate.begin = 0)
    (htotal : rate.totalInterval = 0) :
    (bpfRatelimited rate t).2.begin = curr t ∧ (bpfRatelimited rate t).2.totalInterval = 0 := by
  rw [bpfRatelimited_eq t hi]
  simp only [BpfRatelimit.count_begin, BpfRatelimit.count_totalInterval]
  unfold BpfRatelimit.roll
  simp only [BpfRatelimit.start_eq, hb, if_true]
  split_ifs <;> simp [htotal]

end Call

/-! ## Windows -/

theorem overBurst_succ (burst n : Nat) :
    overBurst burst (n + 1) = overBurst burst n ++ [decide (burst ≤ n)] := by
  simp [overBurst, List.range_succ]

theorem windowsFrom_cons {α : Type} (cur : List α) (opened : Bool) (a : α) (rest : List (Bool × α)) :
    windowsFrom cur ((opened, a) :: rest) =
      if opened then cur :: windowsFrom [a] rest else windowsFrom (cur ++ [a]) rest := rfl

/-- The limiter in a window whose calls so far answered `cur`: the answers follow the burst, and
`events` and `nmissed` count the calls passed and refused in it. -/
structure InWindow (cur : List Bool) (rate : BpfRatelimit) : Prop where
  answers : cur = overBurst rate.burst.toNat cur.length
  events : rate.events.toNat = min rate.burst.toNat cur.length
  nmissed : rate.nmissed = UInt64.ofNat (cur.length - rate.burst.toNat)

namespace InWindow

variable {cur : List Bool} {rate : BpfRatelimit}

theorem empty (he : rate.events = 0) (hn : rate.nmissed = 0) : InWindow [] rate :=
  ⟨rfl, by simp [he], by simp [hn]⟩

theorem start (h : InWindow cur rate) (c : UInt64) : InWindow cur (rate.start c) :=
  ⟨by simpa using h.answers, by simpa using h.events, by simpa using h.nmissed⟩

theorem roll (h : InWindow cur rate) (c : UInt64) :
    InWindow (if rate.opens c then [] else cur) (rate.roll c) := by
  unfold BpfRatelimit.roll
  split_ifs
  · exact empty rfl rfl
  · exact h

theorem count (h : InWindow cur rate) :
    rate.count.1 = decide (rate.burst.toNat ≤ cur.length) ∧
      InWindow (cur ++ [rate.count.1]) rate.count.2 := by
  have hevents := h.events
  have hlt := UInt64.toNat_lt rate.burst
  unfold BpfRatelimit.count
  by_cases hpass : rate.burst ≠ 0 ∧ rate.events < rate.burst
  · rw [if_pos hpass]
    have hlen : cur.length < rate.burst.toNat := by
      have := UInt64.lt_iff_toNat_lt.1 hpass.2
      omega
    refine ⟨by simp; omega, ⟨?_, ?_, ?_⟩⟩
    · rw [List.length_append, List.length_singleton, overBurst_succ, ← h.answers]
      simp only [List.append_cancel_left_eq, List.cons.injEq, and_true]
      simp; omega
    · simp only [List.length_append, List.length_singleton, UInt64.toNat_add]
      simp only [UInt64.toNat_one]
      omega
    · simp only [h.nmissed, List.length_append, List.length_singleton]
      congr 1
      omega
  · rw [if_neg hpass]
    have hge : rate.burst.toNat ≤ cur.length := by
      by_cases hzero : rate.burst = 0
      · simp [hzero]
      · have := UInt64.le_iff_toNat_le.1 (UInt64.not_lt.1 fun hl => hpass ⟨hzero, hl⟩)
        omega
    refine ⟨by simp [hge], ⟨?_, ?_, ?_⟩⟩
    · rw [List.length_append, List.length_singleton, overBurst_succ, ← h.answers]
      simp [hge]
    · simp only [List.length_append, List.length_singleton]
      omega
    · simp only [h.nmissed, List.length_append, List.length_singleton]
      rw [show cur.length + 1 - rate.burst.toNat = (cur.length - rate.burst.toNat) + 1 by omega,
        UInt64.ofNat_add]
      rfl

theorem ratelimited (h : InWindow cur rate) (hi : rate.interval ≠ 0) (t : UInt64) :
    (bpfRatelimited rate t).1 =
        decide (rate.burst.toNat ≤ (if rate.opensAt t then [] else cur).length) ∧
      InWindow ((if rate.opensAt t then [] else cur) ++ [(bpfRatelimited rate t).1])
        (bpfRatelimited rate t).2 := by
  have hroll := (h.start (curr t)).roll (curr t)
  have hcount := hroll.count
  rw [opensAt_eq t hi, bpfRatelimited_eq t hi]
  simpa using hcount

end InWindow

/-- Over a run from a limiter in a window, every window of the run answers by the burst. -/
theorem ratelimitedRun_windows {cur : List Bool} {rate : BpfRatelimit} (h : InWindow cur rate)
    (hi : rate.interval ≠ 0) (ts : List UInt64) :
    ∀ w ∈ windowsFrom cur (ratelimitedRun rate ts).1, w = overBurst rate.burst.toNat w.length := by
  induction ts generalizing cur rate with
  | nil =>
    intro w hw
    rw [List.mem_singleton.1 hw]
    exact h.answers
  | cons t ts ih =>
    obtain ⟨-, hnext⟩ := h.ratelimited hi t
    have hi' := bpfRatelimited_interval_ne_zero t hi
    have hrest := ih hnext hi'
    simp only [bpfRatelimited_burst] at hrest
    intro w hw
    simp only [ratelimitedRun, windowsFrom_cons] at hw
    by_cases ho : rate.opensAt t
    · simp only [ho, if_true, List.nil_append] at hw hrest
      rcases List.mem_cons.1 hw with rfl | hw
      · exact h.answers
      · exact hrest w hw
    · simp only [ho] at hw hrest
      exact hrest w hw

@[simp] theorem length_ratelimitedRun (rate : BpfRatelimit) (ts : List UInt64) :
    (ratelimitedRun rate ts).1.length = ts.length := by
  induction ts generalizing rate with
  | nil => rfl
  | cons t ts ih => simp [ratelimitedRun, ih]

theorem ratelimitedRun_totals {rate : BpfRatelimit} (hi : rate.interval ≠ 0) (ts : List UInt64) :
    (ratelimitedRun rate ts).2.totalEvents =
        rate.totalEvents + UInt64.ofNat ((ratelimitedRun rate ts).1.countP fun c => !c.2) ∧
      (ratelimitedRun rate ts).2.totalNmissed =
        rate.totalNmissed + UInt64.ofNat ((ratelimitedRun rate ts).1.countP fun c => c.2) := by
  induction ts generalizing rate with
  | nil => simp [ratelimitedRun]
  | cons t ts ih =>
    have hi' := bpfRatelimited_interval_ne_zero t hi
    obtain ⟨hev, hmiss⟩ := ih hi'
    obtain ⟨hev1, hmiss1⟩ := bpfRatelimited_totals t hi
    simp only [ratelimitedRun, List.countP_cons]
    rw [hev, hmiss, hev1, hmiss1]
    cases (bpfRatelimited rate t).1 <;> simp [UInt64.ofNat_add] <;> grind

theorem ratelimitedRun_begin_set {rate : BpfRatelimit} (hi : rate.interval ≠ 0) (hb : rate.begin ≠ 0)
    (ts : List UInt64) :
    (ratelimitedRun rate ts).2.begin ≠ 0 ∧
      (ratelimitedRun rate ts).2.totalInterval - (ratelimitedRun rate ts).2.begin =
        rate.totalInterval - rate.begin := by
  induction ts generalizing rate with
  | nil => exact ⟨hb, rfl⟩
  | cons t ts ih =>
    obtain ⟨hb', hstep⟩ := bpfRatelimited_begin_set t hi hb
    have hi' := bpfRatelimited_interval_ne_zero t hi
    obtain ⟨hlast, hrun⟩ := ih hi' hb'
    exact ⟨hlast, hrun.trans hstep⟩

theorem ratelimitedRun_totalInterval {rate : BpfRatelimit} (hi : rate.interval ≠ 0)
    (hb : rate.begin = 0) (htotal : rate.totalInterval = 0) (ts : List UInt64) :
    (ratelimitedRun rate ts).2.totalInterval = (ratelimitedRun rate ts).2.begin - firstBegin ts := by
  induction ts generalizing rate with
  | nil => simp [ratelimitedRun, firstBegin, hb, htotal]
  | cons t ts ih =>
    obtain ⟨hb', htotal'⟩ := bpfRatelimited_begin_unset t hi hb htotal
    have hi' := bpfRatelimited_interval_ne_zero t hi
    by_cases hzero : curr t = 0
    · -- a call in second 0 leaves `begin` unset
      have hfirst : firstBegin (t :: ts) = firstBegin ts := by simp [firstBegin, hzero]
      rw [hfirst]
      exact ih hi' (hb'.trans hzero) htotal'
    · have hfirst : firstBegin (t :: ts) = curr t := by simp [firstBegin, hzero]
      obtain ⟨-, hrun⟩ := ratelimitedRun_begin_set hi' (hb' ▸ hzero) ts
      rw [hfirst]
      simp only [ratelimitedRun]
      rw [hb', htotal'] at hrun
      grind

/-! ## The map variant -/

/-- The map slot in a window whose calls so far answered and reported `cur`: filled in from
`cfg`, its answers follow the burst, and the call at index `burst` of the window, the first
refused one, sent a record. -/
def SlotInWindow (cfg : BpfRatelimit) (cur : List (Bool × Bool)) (slot : Option BpfRatelimit) :
    Prop :=
  ∃ rate, slot = some rate ∧ (rate.init cfg).interval = cfg.interval ∧
    (rate.init cfg).burst = cfg.burst ∧ InWindow (cur.map Prod.fst) (rate.init cfg) ∧
    ∀ c, cur[cfg.burst.toNat]? = some c → c.2 = true

theorem init_of_interval_ne_zero {rate cfg : BpfRatelimit} (h : rate.interval ≠ 0) :
    rate.init cfg = rate := by
  simp [BpfRatelimit.init, h]

theorem bpfRatelimitedCoreInMap_some (cfg rate : BpfRatelimit) (t : UInt64) :
    (bpfRatelimitedCoreInMap cfg (some rate) t).1 = (bpfRatelimited (rate.init cfg) t).1 ∧
      (bpfRatelimitedCoreInMap cfg (some rate) t).2.1 = some (bpfRatelimited (rate.init cfg) t).2 ∧
      ((bpfRatelimited (rate.init cfg) t).1 = true → (rate.init cfg).nmissed = 0 →
        (bpfRatelimitedCoreInMap cfg (some rate) t).2.2.isSome = true) := by
  unfold bpfRatelimitedCoreInMap
  dsimp only
  generalize bpfRatelimited (rate.init cfg) t = res
  obtain ⟨_ | _, r⟩ := res
  · exact ⟨rfl, rfl, fun h => absurd h Bool.false_ne_true⟩
  · dsimp only
    refine ⟨?_, ?_, fun _ hz => ?_⟩
    · split_ifs <;> rfl
    · split_ifs <;> rfl
    · rw [if_pos (Or.inl hz)]
      rfl

theorem SlotInWindow.current {cfg : BpfRatelimit} {cur : List (Bool × Bool)}
    {slot : Option BpfRatelimit} (h : SlotInWindow cfg cur slot) :
    cur.map Prod.fst = overBurst cfg.burst.toNat cur.length ∧
      ∀ c, cur[cfg.burst.toNat]? = some c → c.2 = true := by
  obtain ⟨rate, -, -, hbur, hwin, hrec⟩ := h
  have hans := hwin.answers
  rw [hbur, List.length_map] at hans
  exact ⟨hans, hrec⟩

theorem SlotInWindow.step {cfg : BpfRatelimit} {cur : List (Bool × Bool)}
    {slot : Option BpfRatelimit} (h : SlotInWindow cfg cur slot) (hi : cfg.interval ≠ 0)
    (hburst : cfg.burst ≠ 0) (t : UInt64) :
    SlotInWindow cfg
      ((if (slot.map fun rate => (rate.init cfg).opensAt t).getD false then [] else cur) ++
        [((bpfRatelimitedCoreInMap cfg slot t).1, (bpfRatelimitedCoreInMap cfg slot t).2.2.isSome)])
      (bpfRatelimitedCoreInMap cfg slot t).2.1 := by
  obtain ⟨rate, rfl, hint, hbur, hwin, hrec⟩ := h
  have hi' : (rate.init cfg).interval ≠ 0 := hint ▸ hi
  have hb : cfg.burst.toNat ≠ 0 := fun h0 => hburst (UInt64.toNat_inj.1 (h0.trans UInt64.toNat_zero.symm))
  obtain ⟨hans, hnext⟩ := hwin.ratelimited hi' t
  obtain ⟨hret, hslot, hsent⟩ := bpfRatelimitedCoreInMap_some cfg rate t
  have hint' : (bpfRatelimited (rate.init cfg) t).2.interval = cfg.interval := by simp [hint]
  have hinit : (bpfRatelimited (rate.init cfg) t).2.init cfg = (bpfRatelimited (rate.init cfg) t).2 :=
    init_of_interval_ne_zero (hint' ▸ hi)
  simp only [Option.map_some, Option.getD_some, hslot, hret]
  refine ⟨_, rfl, by rw [hinit, hint'], by rw [hinit]; simp [hbur], ?_, ?_⟩
  · rw [hinit]
    by_cases ho : (rate.init cfg).opensAt t <;> simpa [ho] using hnext
  · intro c hc
    by_cases ho : (rate.init cfg).opensAt t
    · -- a new window holds this call alone, and the burst is past it
      simp [ho, hb] at hc
    · simp only [ho, Bool.false_eq_true, if_false, List.length_map] at hc hans
      rw [List.getElem?_append] at hc
      split_ifs at hc with hlt
      · exact hrec c hc
      · -- the call at index `burst` is this one, refused, with no call refused before it
        have hidx : cfg.burst.toNat = cur.length := by
          rw [List.getElem?_singleton] at hc
          split_ifs at hc with hz
          · omega
        rw [List.getElem?_singleton, if_pos (by omega)] at hc
        cases hc
        have hrefused : (bpfRatelimited (rate.init cfg) t).1 = true := by
          rw [hans, hbur, hidx]
          simp
        have hzero : (rate.init cfg).nmissed = 0 := by
          rw [hwin.nmissed, hbur, List.length_map, hidx, Nat.sub_self]
          rfl
        exact hsent hrefused hzero

/-- What a run of `bpf_ratelimited` from `BPF_RATELIMIT(name, interval, burst)` at the times
`ts` guarantees: the totals count the calls and the passed ones, each window answers by the
burst, and `total_interval` is how far `begin` moved from the first one set. -/
structure RunGuarantees (burst : UInt64) (ts : List UInt64)
    (run : List (Bool × Bool) × BpfRatelimit) : Prop where
  totals : run.2.totalEvents + run.2.totalNmissed = UInt64.ofNat ts.length
  totalEvents_passed : run.2.totalEvents = UInt64.ofNat (run.1.countP fun c => !c.2)
  windows_burst : ∀ w ∈ windows run.1, w = overBurst burst.toNat w.length
  totalInterval_begin : run.2.totalInterval = run.2.begin - firstBegin ts

theorem ratelimitedRun_guarantees (interval burst : UInt64) (hi : interval ≠ 0)
    (ts : List UInt64) : RunGuarantees burst ts (ratelimitedRun (bpfRatelimit interval burst) ts) := by
  obtain ⟨hev, hmiss⟩ := @ratelimitedRun_totals (bpfRatelimit interval burst) hi ts
  have hlen := @List.length_eq_countP_add_countP _ (fun c : Bool × Bool => c.2)
    (ratelimitedRun (bpfRatelimit interval burst) ts).1
  simp only [length_ratelimitedRun, decide_not, Bool.decide_eq_true] at hlen
  refine ⟨?_, ?_, ratelimitedRun_windows (InWindow.empty rfl rfl) hi ts,
    ratelimitedRun_totalInterval hi rfl rfl ts⟩
  · rw [hev, hmiss, hlen, UInt64.ofNat_add]
    simp only [bpfRatelimit]
    grind
  · rw [hev]
    simp only [bpfRatelimit]
    grind

end Huatuo.Bpf
