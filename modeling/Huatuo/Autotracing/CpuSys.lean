import Huatuo.Lib.Strings
import Huatuo.Lib.Go
import Mathlib

/-! The system share of CPU time (core/autotracing/cpusys.go). Each time its timer fires,
`updateCpuSysUsage` reads the aggregate `cpu` line of /proc/stat, sums its fields into a total and
keeps the third, the system time; against the reading before, the share is
`100 * Δsystem / Δtotal` in `uint64` arithmetic. A share, or a rise of it, past its threshold
starts a system-wide perf run whose flame graph is saved. `json.Unmarshal` is the function
`unmarshal` of perf's output, and a firing of the timer brings what the reads and the run gave.

Two readings with the same total make `Δtotal` zero, and Go's integer division by zero panics:
with `CPUSys.Interval` at 0 the timer fires at once, and two readings within one clock tick are
equal. When every field of each reading is at least the one before, some larger, and no total
wraps, no subtraction wraps and every share, so every record saved, lies in [0, 100]. -/
namespace Huatuo.Autotracing

open Lib

structure CpuUsage where
  system : UInt64
  total : UInt64
deriving DecidableEq, Repr

structure CpuSysTracing where
  usage : Option CpuUsage
  sysPercent : Int64
  sysPercentDelta : Int64
deriving DecidableEq, Repr

def CpuSysTracing.init : CpuSysTracing :=
  ⟨none, 0, 0⟩

structure FrameData where
  level : Int64
  value : Int64
  self : Int64
  label : String
deriving DecidableEq, Repr

structure CpuSysTracingData where
  nowSys : Int64
  sysThreshold : Int64
  deltaSys : Int64
  deltaSysThreshold : Int64
  flameData : List FrameData
deriving DecidableEq, Repr

structure CpuSysThreshold where
  delta : Int64
  usage : Int64
deriving DecidableEq, Repr

/-- The errors `Start` returns: of opening /proc/stat, of a field `strconv.ParseUint` rejects, of
the perf run and of decoding its output, and `types.ErrExitByCancelCtx`. -/
inductive CpuSysError
  | stat (err : String)
  | parse (err : Strings.NumError)
  | perf (err : String)
  | unmarshal (err : String)
  | exitByCancelCtx
deriving DecidableEq, Repr

/-- The loop of `cpuSysUsage` over the fields after the label, from the field `i` on. -/
def cpuSysUsageLoop : ℕ → List String → UInt64 → UInt64 → Except CpuSysError CpuUsage
  | _, [], total, sys => .ok ⟨sys, total⟩
  | i, field :: fields, total, sys =>
    let (val, err) := Strings.parseUint field 10
    if err then .error (.parse (Strings.parseUintError field val))
    else cpuSysUsageLoop (i + 1) fields (total + val) (if i = 2 then val else sys)

/-- `cpuSysUsage` on the first line of /proc/stat, or the error of opening it; `none` is the
panic of slicing the fields of an empty line. -/
def cpuSysUsage (stat : Except String String) : Option (Except CpuSysError CpuUsage) :=
  match stat with
  | .error err => some (.error (.stat err))
  | .ok line =>
    match Strings.fields line with
    | [] => none
    | _ :: fields => some (cpuSysUsageLoop 0 fields 0 0)

/-- `updateCpuSysUsage`: the state after it and the error it returns; `none` is a panic, of
`cpuSysUsage` or of the division by a zero `sysTotalDelta`. -/
def updateCpuSysUsage (c : CpuSysTracing) (stat : Except String String) :
    Option (CpuSysTracing × Except CpuSysError Unit) :=
  match cpuSysUsage stat with
  | none => none
  | some (.error err) => some (c, .error err)
  | some (.ok usage) =>
    match c.usage with
    | none => some ({ c with usage := some usage }, .ok ())
    | some prev =>
      let sysUsageDelta := usage.system - prev.system
      let sysTotalDelta := usage.total - prev.total
      if sysTotalDelta = 0 then none
      else
        let sysPercentage := (100 * sysUsageDelta / sysTotalDelta).toInt64
        some (⟨some usage, sysPercentage, sysPercentage - c.sysPercent⟩, .ok ())

def shouldCareThisEvent (c : CpuSysTracing) (threshold : CpuSysThreshold) : Bool :=
  c.sysPercent > threshold.usage || c.sysPercentDelta > threshold.delta

/-- `buildAndSaveCPUSystem` on what `json.Unmarshal` made of the flame data: the record it saves,
or the error. -/
def buildAndSaveCPUSystem (c : CpuSysTracing) (threshold : CpuSysThreshold)
    (flameData : Except String (List FrameData)) : Except String CpuSysTracingData :=
  match flameData with
  | .error err => .error err
  | .ok flameData =>
    .ok ⟨c.sysPercent, threshold.usage, c.sysPercentDelta, threshold.delta, flameData⟩

/-- What a firing of the timer meets: the first line of /proc/stat or the error of opening it,
the output of the perf run or its error, and `time.Now()`. -/
structure CpuSysTick where
  stat : Except String String
  perf : Except String (List UInt8)
  traceTime : Int

section Start

variable (unmarshal : List UInt8 → Except String (List FrameData))

/-- One firing of the timer: the state after it, and the record it saved or the error that ends
`Start`; `none` is a panic. -/
def cpuSysTurn (threshold : CpuSysThreshold) (c : CpuSysTracing) (t : CpuSysTick) :
    Option (CpuSysTracing × Except CpuSysError (Option CpuSysTracingData)) :=
  match updateCpuSysUsage c t.stat with
  | none => none
  | some (c, .error err) => some (c, .error err)
  | some (c, .ok ()) =>
    if !shouldCareThisEvent c threshold then some (c, .ok none)
    else
      match t.perf with
      | .error err => some (c, .error (.perf err))
      | .ok flamedata =>
        if flamedata.length = 0 then some (c, .ok none)
        else
          match buildAndSaveCPUSystem c threshold (unmarshal flamedata) with
          | .error err => some (c, .error (.unmarshal err))
          | .ok data => some (c, .ok (some data))

/-- `Start` over the firings of its timer until the context is cancelled: the state, the records
saved with their times, and the error it returns; `none` is a panic. -/
def cpuSysStart (threshold : CpuSysThreshold) :
    CpuSysTracing → List CpuSysTick → Option (CpuSysTracing × List (Int × CpuSysTracingData) × CpuSysError)
  | c, [] => some (c, [], .exitByCancelCtx)
  | c, t :: ts =>
    match cpuSysTurn unmarshal threshold c t with
    | none => none
    | some (c, .error err) => some (c, [], err)
    | some (c, .ok none) => cpuSysStart threshold c ts
    | some (c, .ok (some data)) =>
      (cpuSysStart threshold c ts).map fun r => (r.1, (t.traceTime, data) :: r.2.1, r.2.2)

end Start

/-! ## Readings -/

/-- A field's value, when `strconv.ParseUint` takes it. -/
def fieldValue (field : String) : Option UInt64 :=
  if (Strings.parseUint field 10).2 then none else some (Strings.parseUint field 10).1

/-- The values of a line's fields after its label, when it has one and every field parses. -/
def statValues (line : String) : Option (List UInt64) :=
  match Strings.fields line with
  | [] => none
  | _ :: fields => fields.mapM fieldValue

/-- The usage a reading gives: its third value is the system time, and the total its `uint64`
sum. -/
def CpuUsage.ofValues (vs : List UInt64) : CpuUsage :=
  ⟨vs.getD 2 0, vs.sum⟩

theorem cpuSysUsageLoop_of_mapM : ∀ {fields : List String} {vs : List UInt64} (i : ℕ)
    (total sys : UInt64), fields.mapM fieldValue = some vs →
    cpuSysUsageLoop i fields total sys =
      .ok ⟨if i ≤ 2 then vs.getD (2 - i) sys else sys, total + vs.sum⟩
  | [], vs, i, total, sys, h => by
    rw [List.mapM_nil] at h
    cases h
    simp [cpuSysUsageLoop]
  | field :: fields, vs, i, total, sys, h => by
    rw [List.mapM_cons] at h
    simp only [Option.pure_def, Option.bind_eq_bind, Option.bind_eq_some_iff,
      Option.some.injEq] at h
    obtain ⟨v, hv, vs', hvs', rfl⟩ := h
    have hparse : Strings.parseUint field 10 = (v, false) := by
      unfold fieldValue at hv
      split_ifs at hv with herr
      cases hv
      exact Prod.ext rfl (by simpa using herr)
    rw [cpuSysUsageLoop, hparse]
    simp only [Bool.false_eq_true, if_false]
    rw [cpuSysUsageLoop_of_mapM (i + 1) _ _ hvs', List.sum_cons, add_assoc]
    rcases (show i = 0 ∨ i = 1 ∨ i = 2 ∨ 3 ≤ i by omega) with rfl | rfl | rfl | hi
    · simp
    · simp
    · simp
    · have h₁ : ¬ i + 1 ≤ 2 := by omega
      have h₂ : ¬ i ≤ 2 := by omega
      have h₃ : i ≠ 2 := by omega
      simp only [h₁, h₂, h₃, if_false]

theorem cpuSysUsage_of_statValues {line : String} {vs : List UInt64}
    (h : statValues line = some vs) : cpuSysUsage (.ok line) = some (.ok (CpuUsage.ofValues vs)) := by
  unfold statValues at h
  unfold cpuSysUsage
  cases hf : Strings.fields line with
  | nil => rw [hf] at h; cases h
  | cons label fields =>
    simp only [hf] at h ⊢
    rw [cpuSysUsageLoop_of_mapM 0 0 0 h]
    simp [CpuUsage.ofValues]

/-! ## One update -/

section Update

variable {c : CpuSysTracing} {stat : Except String String} {usage prev : CpuUsage}

theorem updateCpuSysUsage_first (hc : c.usage = none) (hu : cpuSysUsage stat = some (.ok usage)) :
    updateCpuSysUsage c stat = some ({ c with usage := some usage }, .ok ()) := by
  simp only [updateCpuSysUsage, hu, hc]

theorem updateCpuSysUsage_next (hc : c.usage = some prev)
    (hu : cpuSysUsage stat = some (.ok usage)) (ht : usage.total - prev.total ≠ 0) :
    updateCpuSysUsage c stat =
      let sysPercentage := (100 * (usage.system - prev.system) / (usage.total - prev.total)).toInt64
      some (⟨some usage, sysPercentage, sysPercentage - c.sysPercent⟩, .ok ()) := by
  simp only [updateCpuSysUsage, hu, hc, ht, if_false]

theorem updateCpuSysUsage_same_total (hc : c.usage = some prev)
    (hu : cpuSysUsage stat = some (.ok usage)) (ht : usage.total = prev.total) :
    updateCpuSysUsage c stat = none := by
  simp only [updateCpuSysUsage, hu, hc, ht, sub_self, if_true]

end Update

/-! ## Shares -/

def InPercent (x : Int64) : Prop :=
  0 ≤ x.toInt ∧ x.toInt ≤ 100

theorem share_toNat_le {d t : UInt64} (hd : d ≤ t) (ht : t ≠ 0) : (100 * d / t).toNat ≤ 100 := by
  have ht' : 0 < t.toNat := by
    rw [Nat.pos_iff_ne_zero, ne_eq, ← UInt64.toNat_zero, UInt64.toNat_inj]
    exact ht
  have hd' : d.toNat ≤ t.toNat := UInt64.le_iff_toNat_le.1 hd
  rw [UInt64.toNat_div, UInt64.toNat_mul]
  calc (100 : UInt64).toNat * d.toNat % 2 ^ 64 / t.toNat
      ≤ 100 * d.toNat / t.toNat := Nat.div_le_div_right (Nat.mod_le _ _)
    _ ≤ 100 * t.toNat / t.toNat := Nat.div_le_div_right (Nat.mul_le_mul_left _ hd')
    _ = 100 := Nat.mul_div_cancel _ ht'

theorem inPercent_share {d t : UInt64} (hd : d ≤ t) (ht : t ≠ 0) :
    InPercent (100 * d / t).toInt64 := by
  have hle := share_toNat_le hd ht
  rw [InPercent, Go.toInt_toInt64_of_lt (by omega)]
  omega

/-- The state a scrape can rely on: a share in [0, 100], and a change of it within ±100. -/
structure Sane (c : CpuSysTracing) : Prop where
  percent : InPercent c.sysPercent
  delta_ge : -100 ≤ c.sysPercentDelta.toInt
  delta_le : c.sysPercentDelta.toInt ≤ 100

theorem sane_init : Sane CpuSysTracing.init :=
  ⟨⟨by decide, by decide⟩, by decide, by decide⟩

theorem Sane.next {c : CpuSysTracing} (hc : Sane c) {p : Int64} (hp : InPercent p)
    (u : Option CpuUsage) : Sane ⟨u, p, p - c.sysPercent⟩ := by
  obtain ⟨⟨h₀, h₁⟩, -, -⟩ := hc
  obtain ⟨hp₀, hp₁⟩ := hp
  have hsub := Go.toInt_sub_of_mem (a := p) (b := c.sysPercent) (by omega) (by omega)
  exact ⟨⟨hp₀, hp₁⟩, by dsimp only; omega, by dsimp only; omega⟩

/-! ## Readings that grow -/

/-- A reading grows from another when each field is at least what it was and its total does not
wrap. -/
structure Grows (vs vs' : List UInt64) : Prop where
  le : List.Forall₂ (· ≤ ·) vs vs'
  sum_lt : (vs'.map UInt64.toNat).sum < 2 ^ 64

section Growth

variable {vs vs' : List UInt64}

theorem sum_toNat_le (h : List.Forall₂ (· ≤ ·) vs vs') :
    (vs.map UInt64.toNat).sum ≤ (vs'.map UInt64.toNat).sum := by
  apply List.Forall₂.sum_le_sum
  rw [List.forall₂_map_left_iff, List.forall₂_map_right_iff]
  exact h.imp fun _ _ hab => UInt64.le_iff_toNat_le.1 hab

theorem getD_le_getD (h : List.Forall₂ (· ≤ ·) vs vs') : ∀ i, vs.getD i 0 ≤ vs'.getD i 0 := by
  induction h with
  | nil => simp
  | @cons a b l l' hab hl ih =>
    intro i
    cases i with
    | zero => simpa using hab
    | succ i => simpa using ih i

theorem getD_sub_le_sum_sub (h : List.Forall₂ (· ≤ ·) vs vs') : ∀ i,
    (vs'.getD i 0).toNat - (vs.getD i 0).toNat ≤ (vs'.map UInt64.toNat).sum - (vs.map UInt64.toNat).sum := by
  induction h with
  | nil => simp
  | @cons a b l l' hab hl ih =>
    intro i
    have hab' : a.toNat ≤ b.toNat := UInt64.le_iff_toNat_le.1 hab
    have hsum := sum_toNat_le hl
    cases i with
    | zero =>
      simp only [List.getD_cons_zero, List.map_cons, List.sum_cons]
      omega
    | succ i =>
      have := ih i
      simp only [List.getD_cons_succ, List.map_cons, List.sum_cons]
      omega

theorem sum_toNat_lt (h : List.Forall₂ (· ≤ ·) vs vs') (hne : vs ≠ vs') :
    (vs.map UInt64.toNat).sum < (vs'.map UInt64.toNat).sum := by
  induction h with
  | nil => exact absurd rfl hne
  | @cons a b l l' hab hl ih =>
    have hab' : a.toNat ≤ b.toNat := UInt64.le_iff_toNat_le.1 hab
    simp only [List.map_cons, List.sum_cons]
    by_cases heq : a = b
    · -- the heads agree, so the tails differ
      subst heq
      have := ih fun h' => hne (h' ▸ rfl)
      omega
    · have hlt : a.toNat < b.toNat := by
        have : a.toNat ≠ b.toNat := fun h' => heq (UInt64.toNat_inj.1 h')
        omega
      have := sum_toNat_le hl
      omega

theorem Grows.usage (hg : Grows vs vs') (hne : vs ≠ vs') :
    let u := CpuUsage.ofValues vs
    let u' := CpuUsage.ofValues vs'
    u.system ≤ u'.system ∧ u.total < u'.total ∧ u'.total - u.total ≠ 0 ∧
      u'.system - u.system ≤ u'.total - u.total := by
  intro u u'
  have hle := sum_toNat_le hg.le
  have hlt := sum_toNat_lt hg.le hne
  have hlt64 := hg.sum_lt
  have htot : u.total.toNat = (vs.map UInt64.toNat).sum := Go.toNat_sum_of_lt (by omega)
  have htot' : u'.total.toNat = (vs'.map UInt64.toNat).sum := Go.toNat_sum_of_lt hlt64
  have hsys : u.system ≤ u'.system := getD_le_getD hg.le 2
  have hsys' : u.system.toNat ≤ u'.system.toNat := UInt64.le_iff_toNat_le.1 hsys
  have htotal : u.total < u'.total := by
    rw [UInt64.lt_iff_toNat_lt, htot, htot']
    exact hlt
  have hdt : (u'.total - u.total).toNat = u'.total.toNat - u.total.toNat :=
    UInt64.toNat_sub_of_le _ _ (UInt64.le_of_lt htotal)
  have hds : (u'.system - u.system).toNat = u'.system.toNat - u.system.toNat :=
    UInt64.toNat_sub_of_le _ _ hsys
  have hsub := getD_sub_le_sum_sub hg.le 2
  refine ⟨hsys, htotal, ?_, ?_⟩
  · intro h0
    have := congrArg UInt64.toNat h0
    rw [hdt, UInt64.toNat_zero] at this
    omega
  · rw [UInt64.le_iff_toNat_le, hds, hdt, htot, htot']
    exact hsub

end Growth

/-! ## Two readings alike -/

/-- Reading a line whose usage is the one stored divides by zero: `Δtotal` is 0. -/
theorem updateCpuSysUsage_divides_by_zero {c : CpuSysTracing} {line : String} {vs : List UInt64}
    (hline : statValues line = some vs) (hc : c.usage = some (CpuUsage.ofValues vs)) :
    updateCpuSysUsage c (.ok line) = none :=
  updateCpuSysUsage_same_total hc (cpuSysUsage_of_statValues hline) rfl

example : updateCpuSysUsage ⟨some (CpuUsage.ofValues [100, 0, 50, 800]), 0, 0⟩
    (.ok "cpu 100 0 50 800") = none :=
  updateCpuSysUsage_divides_by_zero (by decide) rfl

/-! ## Runs of `Start` -/

/-- A firing whose /proc/stat line reads as `vs`. -/
def Reads (t : CpuSysTick) (vs : List UInt64) : Prop :=
  ∃ line, t.stat = .ok line ∧ statValues line = some vs

/-- A reading that follows another in a run: each field at least what it was, some larger, no
total wrapping. -/
def Follows (vs vs' : List UInt64) : Prop :=
  Grows vs vs' ∧ vs ≠ vs'

/-- What the state holds after the readings so far: a sane share, and the usage of the last
reading. -/
structure Holds (c : CpuSysTracing) (prev : Option (List UInt64)) : Prop where
  sane : Sane c
  usage : c.usage = prev.map CpuUsage.ofValues

theorem holds_init : Holds CpuSysTracing.init none :=
  ⟨sane_init, rfl⟩

theorem Holds.updateCpuSysUsage {c : CpuSysTracing} {prev : Option (List UInt64)}
    {t : CpuSysTick} {vs : List UInt64} (h : Holds c prev) (ht : Reads t vs)
    (hf : ∀ p ∈ prev, Follows p vs) :
    ∃ c', updateCpuSysUsage c t.stat = some (c', .ok ()) ∧ Holds c' (some vs) := by
  obtain ⟨line, hstat, hline⟩ := ht
  have hu := cpuSysUsage_of_statValues hline
  rw [hstat]
  cases prev with
  | none =>
    refine ⟨{ c with usage := some (CpuUsage.ofValues vs) }, updateCpuSysUsage_first h.usage hu, ?_⟩
    exact ⟨⟨h.sane.percent, h.sane.delta_ge, h.sane.delta_le⟩, rfl⟩
  | some p =>
    obtain ⟨hg, hne⟩ := hf p rfl
    obtain ⟨-, -, hnz, hle⟩ := hg.usage hne
    refine ⟨_, updateCpuSysUsage_next h.usage hu hnz, ?_⟩
    exact ⟨h.sane.next (inPercent_share hle hnz) _, rfl⟩

section Runs

variable (unmarshal : List UInt8 → Except String (List FrameData)) (threshold : CpuSysThreshold)

theorem cpuSysTurn_of_update {c c' : CpuSysTracing} {t : CpuSysTick} {e : Except CpuSysError Unit}
    (hu : updateCpuSysUsage c t.stat = some (c', e)) :
    ∃ r, cpuSysTurn unmarshal threshold c t = some (c', r) ∧
      ∀ d, r = .ok (some d) → d.nowSys = c'.sysPercent ∧ d.deltaSys = c'.sysPercentDelta := by
  unfold cpuSysTurn
  rw [hu]
  cases e with
  | error err => exact ⟨_, rfl, fun d hd => nomatch hd⟩
  | ok u =>
    dsimp only
    split_ifs with hcare
    · exact ⟨_, rfl, fun d hd => nomatch hd⟩
    · cases t.perf with
      | error err => exact ⟨_, rfl, fun d hd => nomatch hd⟩
      | ok flamedata =>
        dsimp only
        split_ifs with hlen
        · exact ⟨_, rfl, fun d hd => nomatch hd⟩
        · cases hb : buildAndSaveCPUSystem c' threshold (unmarshal flamedata) with
          | error err => exact ⟨_, rfl, fun d hd => nomatch hd⟩
          | ok data =>
            refine ⟨_, rfl, fun d hd => ?_⟩
            cases hd
            unfold buildAndSaveCPUSystem at hb
            split at hb
            · cases hb
            · cases hb
              exact ⟨rfl, rfl⟩

/-- The readings of a run, each but the first following the one before, starting from a state
that holds for the reading before them. -/
theorem Holds.run {ticks : List CpuSysTick} {snaps : List (List UInt64)}
    (hreads : List.Forall₂ Reads ticks snaps) :
    ∀ {c : CpuSysTracing} {prev : Option (List UInt64)}, Holds c prev →
      List.IsChain Follows (prev.toList ++ snaps) →
      ∃ r, cpuSysStart unmarshal threshold c ticks = some r ∧ Sane r.1 ∧
        ∀ p ∈ r.2.1, InPercent p.2.nowSys := by
  induction hreads with
  | nil =>
    intro c prev h _
    exact ⟨_, rfl, h.sane, fun p hp => nomatch hp⟩
  | @cons t vs ts vss ht _ ih =>
    intro c prev h hchain
    have hsplit : (∀ p ∈ prev, Follows p vs) ∧ List.IsChain Follows ((some vs).toList ++ vss) := by
      cases prev with
      | none => exact ⟨(fun p hp => nomatch hp), hchain⟩
      | some p =>
        rw [Option.toList_some, List.singleton_append, List.isChain_cons_cons] at hchain
        exact ⟨fun q hq => Option.some.inj hq ▸ hchain.1, hchain.2⟩
    obtain ⟨c', hu, h'⟩ := h.updateCpuSysUsage ht hsplit.1
    obtain ⟨r, hturn, hrec⟩ := cpuSysTurn_of_update unmarshal threshold hu
    obtain ⟨r', hrun, hsane, hrecs⟩ := ih h' hsplit.2
    unfold cpuSysStart
    rw [hturn]
    rcases r with err | _ | d
    · exact ⟨_, rfl, h'.sane, fun p hp => nomatch hp⟩
    · exact ⟨r', hrun, hsane, hrecs⟩
    · dsimp only
      rw [hrun]
      refine ⟨_, rfl, hsane, ?_⟩
      intro p hp
      have hp' : p = (t.traceTime, d) ∨ p ∈ r'.2.1 := List.mem_cons.1 hp
      rcases hp' with rfl | hp
      · rw [(hrec d rfl).1]
        exact h'.sane.percent
      · exact hrecs p hp

/-- `Start` over readings each following the one before never panics, and every record it saves
shows a share in [0, 100]. -/
theorem cpuSysStart_sane {ticks : List CpuSysTick} {snaps : List (List UInt64)}
    (hreads : List.Forall₂ Reads ticks snaps) (hfollow : List.IsChain Follows snaps) :
    ∃ r, cpuSysStart unmarshal threshold CpuSysTracing.init ticks = some r ∧ Sane r.1 ∧
      ∀ p ∈ r.2.1, InPercent p.2.nowSys :=
  holds_init.run unmarshal threshold hreads hfollow

theorem cpuSysStart_sane_two_firings :
    let ticks : List CpuSysTick :=
      [⟨.ok "cpu 100 0 50 800", .ok [], 0⟩, ⟨.ok "cpu 200 0 150 1600", .ok [], 0⟩]
    List.Forall₂ Reads ticks [[100, 0, 50, 800], [200, 0, 150, 1600]] ∧
      List.IsChain Follows [[100, 0, 50, 800], [200, 0, 150, 1600]] ∧
      ∃ r, cpuSysStart (fun _ => .ok []) ⟨30, 50⟩ CpuSysTracing.init ticks = some r ∧ Sane r.1 ∧
        ∀ p ∈ r.2.1, InPercent p.2.nowSys := by
  intro ticks
  have hreads : List.Forall₂ Reads ticks [[100, 0, 50, 800], [200, 0, 150, 1600]] :=
    .cons ⟨_, rfl, by decide⟩ (.cons ⟨_, rfl, by decide⟩ .nil)
  have hfollow : List.IsChain Follows [[100, 0, 50, 800], [200, 0, 150, 1600]] :=
    List.isChain_pair.2 ⟨⟨by simp, by decide⟩, by decide⟩
  exact ⟨hreads, hfollow, cpuSysStart_sane (fun _ => .ok []) ⟨30, 50⟩ hreads hfollow⟩

theorem cpuSysStart_same_reading_panics {t₁ t₂ : CpuSysTick} {ts : List CpuSysTick}
    {vs : List UInt64} (hu : 0 ≤ threshold.usage.toInt) (hd : 0 ≤ threshold.delta.toInt)
    (h₁ : Reads t₁ vs) (h₂ : Reads t₂ vs) :
    cpuSysStart unmarshal threshold CpuSysTracing.init (t₁ :: t₂ :: ts) = none := by
  obtain ⟨line₁, hs₁, hl₁⟩ := h₁
  obtain ⟨line₂, hs₂, hl₂⟩ := h₂
  have hfirst := updateCpuSysUsage_first (c := CpuSysTracing.init) rfl
    (hs₁ ▸ cpuSysUsage_of_statValues hl₁)
  have hcare : shouldCareThisEvent { CpuSysTracing.init with usage := some (CpuUsage.ofValues vs) }
      threshold = false := by
    simp only [shouldCareThisEvent, CpuSysTracing.init, gt_iff_lt, Int64.lt_iff_toInt_lt,
      Int64.toInt_zero, Bool.or_eq_false_iff, decide_eq_false_iff_not, not_lt]
    exact ⟨hu, hd⟩
  have hsecond := updateCpuSysUsage_divides_by_zero
    (c := { CpuSysTracing.init with usage := some (CpuUsage.ofValues vs) }) hl₂ rfl
  simp only [cpuSysStart, cpuSysTurn, hfirst, hcare, Bool.not_false, if_true, hs₂, hsecond]

/-- With the shipped thresholds, 50 for the share and 30 for its rise, and `Interval = 0`, two
firings read /proc/stat within one clock tick and alike, and `Start` panics at the second. -/
theorem cpuSysStart_interval_zero_panics :
    let t : CpuSysTick := ⟨.ok "cpu 100 0 50 800", .ok [], 0⟩
    cpuSysStart unmarshal ⟨30, 50⟩ CpuSysTracing.init [t, t] = none :=
  have hreads : Reads ⟨.ok "cpu 100 0 50 800", .ok [], 0⟩ [100, 0, 50, 800] :=
    ⟨_, rfl, by decide⟩
  cpuSysStart_same_reading_panics unmarshal ⟨30, 50⟩ (by decide) (by decide) hreads hreads

end Runs

end Huatuo.Autotracing
