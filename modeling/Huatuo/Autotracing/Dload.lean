import Huatuo.Lib.FixedPoint
import Huatuo.Lib.Go
import Huatuo.Lib.Machine
import Mathlib

/-! The D-state load of a container (core/autotracing/dload.go). Every interval a netlink sample
gives the tasks that run and those in uninterruptible sleep; `updateLoad` folds it into the
kernel's exponential load average, in fixed point with 11 fractional bits, over one minute and
five: `avgnrun` of both kinds of task, `avgnuni` of the sleeping ones alone. Each average is
shown with two decimals as a `float64`, `load` and `loaduni`, and a container whose `loaduni`
passes the threshold is reported.

With samples below 2^40 no `uint64` operation wraps; each average moves towards the active
count scaled by `fixed1` and never past it, and the sleeping tasks' average stays below the
whole one, so their shown load does too, whatever the binary64 rounding. -/
namespace Huatuo.Autotracing

open Lib.FixedPoint Lib.Go

def fShift : UInt64 := 11

def fixed1 : UInt64 := 1 <<< fShift

def exp1 : UInt64 := 1884

def exp5 : UInt64 := 2014

def calcLoad (load exp active : UInt64) : UInt64 :=
  let newload := load * exp + active * (fixed1 - exp)
  let newload := newload + (1 <<< (fShift - 1))
  newload / fixed1

def calcLoadavg (avgnrun : Fin 2 → UInt64) (active : UInt64) : Fin 2 → UInt64 :=
  let active := if active > 0 then active * fixed1 else 0
  ![calcLoad (avgnrun 0) exp1 active, calcLoad (avgnrun 1) exp5 active]

def loadInt (x : UInt64) : UInt64 :=
  x >>> fShift

def loadFrac (x : UInt64) : UInt64 :=
  loadInt ((x &&& (fixed1 - 1)) * 100)

/-- The averages shown with two decimals, each `float64` operation rounded by `r`. -/
def getAvenrun (r : Rounding) (avgnrun : Fin 2 → UInt64) (offset : UInt64) (shift : Nat) :
    Fin 2 → ℚ :=
  let loads : Fin 2 → UInt64 :=
    ![shiftLeft (avgnrun 0 + offset) shift, shiftLeft (avgnrun 1 + offset) shift]
  ![r.hundredths (loadInt (loads 0)).toNat (loadFrac (loads 0)).toNat,
    r.hundredths (loadInt (loads 1)).toNat (loadFrac (loads 1)).toNat]

/-- What `updateLoad` reads of a netlink sample (`cadvisorV1.LoadStats`). -/
structure LoadStats where
  nrRunning : UInt64
  nrUninterruptible : UInt64
deriving DecidableEq, Repr

/-- The averages of `containerDloadInfo`; its path, name, container and liveness are the
bookkeeping of the loop that samples it. -/
structure ContainerDloadInfo where
  avgnrun : Fin 2 → UInt64
  load : Fin 2 → ℚ
  avgnuni : Fin 2 → UInt64
  loaduni : Fin 2 → ℚ

/-- A container's info as it is created: every average 0. -/
def ContainerDloadInfo.zero : ContainerDloadInfo :=
  ⟨0, 0, 0, 0⟩

def updateLoad (r : Rounding) (info : ContainerDloadInfo) (nrRunning nrUninterruptible : UInt64) :
    ContainerDloadInfo :=
  let info := { info with avgnrun := calcLoadavg info.avgnrun (nrRunning + nrUninterruptible) }
  let info := { info with load := getAvenrun r info.avgnrun (fixed1 / 200) 0 }
  let info := { info with avgnuni := calcLoadavg info.avgnuni nrUninterruptible }
  { info with loaduni := getAvenrun r info.avgnuni (fixed1 / 200) 0 }

/-- One interval of a container: the sample netlink gave folded in. -/
def dloadStep (r : Rounding) (info : ContainerDloadInfo) (stats : LoadStats) : ContainerDloadInfo :=
  updateLoad r info stats.nrRunning stats.nrUninterruptible

/-- The samples of a container folded in, one each interval. -/
def updateLoads (r : Rounding) (info : ContainerDloadInfo) (samples : List LoadStats) :
    ContainerDloadInfo :=
  Lib.Machine.run (dloadStep r) info samples

/-! ## The two averages and what they follow -/

/-- The averages a container keeps: of the tasks that run or wait (`avgnrun`), and of those
in uninterruptible sleep (`avgnuni`). -/
inductive Track
  | nrun
  | nuni
deriving DecidableEq, Repr

def ContainerDloadInfo.avg (info : ContainerDloadInfo) : Track → Fin 2 → UInt64
  | .nrun => info.avgnrun
  | .nuni => info.avgnuni

/-- The count each average follows, as `updateLoad` passes it. -/
def LoadStats.activeWord (s : LoadStats) : Track → UInt64
  | .nrun => s.nrRunning + s.nrUninterruptible
  | .nuni => s.nrUninterruptible

def LoadStats.active (s : LoadStats) : Track → ℕ
  | .nrun => s.nrRunning.toNat + s.nrUninterruptible.toNat
  | .nuni => s.nrUninterruptible.toNat

/-! ## No operation wraps

Each predicate says that the largest value one function computes fits in 64 bits; every other
value it computes is at most that one. The mask, shift and multiplication by 100 of `loadFrac`
never wrap (`loadFrac_toNat`). -/

def calcLoadFits (load exp active : UInt64) : Prop :=
  exp ≤ fixed1 ∧
    load.toNat * exp.toNat + active.toNat * (fixed1 - exp).toNat +
      ((1 : UInt64) <<< (fShift - 1)).toNat < 2 ^ 64

def calcLoadavgFits (avgnrun : Fin 2 → UInt64) (active : UInt64) : Prop :=
  active.toNat * fixed1.toNat < 2 ^ 64 ∧
    calcLoadFits (avgnrun 0) exp1 (active * fixed1) ∧ calcLoadFits (avgnrun 1) exp5 (active * fixed1)

def getAvenrunFits (avgnrun : Fin 2 → UInt64) (offset : UInt64) (shift : Nat) : Prop :=
  ∀ j, ((avgnrun j).toNat + offset.toNat) * 2 ^ shift < 2 ^ 64

def updateLoadFits (info : ContainerDloadInfo) (nrRunning nrUninterruptible : UInt64) : Prop :=
  nrRunning.toNat + nrUninterruptible.toNat < 2 ^ 64 ∧
    calcLoadavgFits info.avgnrun (nrRunning + nrUninterruptible) ∧
    getAvenrunFits (calcLoadavg info.avgnrun (nrRunning + nrUninterruptible)) (fixed1 / 200) 0 ∧
    calcLoadavgFits info.avgnuni nrUninterruptible ∧
    getAvenrunFits (calcLoadavg info.avgnuni nrUninterruptible) (fixed1 / 200) 0

/-! ## The steps in numbers -/

@[simp] theorem fixed1_toNat : fixed1.toNat = 2048 := rfl

/-- The decay of each average: the one minute's, then the five minutes'. -/
def loadExp : Fin 2 → UInt64 :=
  ![exp1, exp5]

theorem loadExp_toNat_le (j : Fin 2) : (loadExp j).toNat ≤ 2048 := by
  fin_cases j <;> decide

theorem scaled_eq (active : UInt64) :
    (if active > 0 then active * fixed1 else 0) = active * fixed1 := by
  by_cases ha : active = 0
  · subst ha
    rfl
  · rw [if_pos (UInt64.pos_iff_ne_zero.2 ha)]

theorem calcLoadavg_apply (avgnrun : Fin 2 → UInt64) (active : UInt64) (j : Fin 2) :
    calcLoadavg avgnrun active j = calcLoad (avgnrun j) (loadExp j) (active * fixed1) := by
  rw [← scaled_eq active]
  fin_cases j <;> rfl

theorem calcLoad_toNat {load exp active : UInt64} (h : calcLoadFits load exp active) :
    (calcLoad load exp active).toNat = mix 2048 exp.toNat 1024 load.toNat active.toNat := by
  obtain ⟨he, hfit⟩ := h
  have hsub : (fixed1 - exp).toNat = 2048 - exp.toNat := UInt64.toNat_sub_of_le _ _ he
  have hhalf : ((1 : UInt64) <<< (fShift - 1)).toNat = 1024 := rfl
  rw [hsub, hhalf] at hfit
  have h₁ : load.toNat * exp.toNat < 2 ^ 64 := by omega
  have h₂ : active.toNat * (2048 - exp.toNat) < 2 ^ 64 := by omega
  simp only [calcLoad, mix, UInt64.toNat_div, UInt64.toNat_add, UInt64.toNat_mul, hsub, hhalf,
    fixed1_toNat]
  rw [Nat.mod_eq_of_lt h₁, Nat.mod_eq_of_lt h₂, Nat.mod_eq_of_lt (by omega),
    Nat.mod_eq_of_lt (by omega)]

theorem calcLoadFits_of_le {load exp active : UInt64} (he : exp.toNat ≤ 2048)
    (hl : load.toNat ≤ 2 ^ 52) (ha : active.toNat ≤ 2 ^ 52) : calcLoadFits load exp active := by
  have hsub : (fixed1 - exp).toNat = 2048 - exp.toNat :=
    UInt64.toNat_sub_of_le _ _ (UInt64.le_iff_toNat_le.2 he)
  have hsum := mix_sum_le he hl ha
  refine ⟨UInt64.le_iff_toNat_le.2 he, ?_⟩
  rw [hsub, show ((1 : UInt64) <<< (fShift - 1)).toNat = 1024 from rfl]
  omega

theorem calcLoadavg_toNat {avgnrun : Fin 2 → UInt64} {active : UInt64}
    (h : calcLoadavgFits avgnrun active) (j : Fin 2) :
    (calcLoadavg avgnrun active j).toNat =
      mix 2048 (loadExp j).toNat 1024 (avgnrun j).toNat (2048 * active.toNat) := by
  obtain ⟨hact, h₀, h₁⟩ := h
  have hj : calcLoadFits (avgnrun j) (loadExp j) (active * fixed1) := by
    fin_cases j
    · exact h₀
    · exact h₁
  have hscaled : (active * fixed1).toNat = 2048 * active.toNat := by
    rw [UInt64.toNat_mul, Nat.mod_eq_of_lt hact, fixed1_toNat, Nat.mul_comm]
  rw [calcLoadavg_apply, calcLoad_toNat hj, hscaled]

theorem loadInt_toNat (x : UInt64) : (loadInt x).toNat = x.toNat / 2048 := by
  rw [loadInt, UInt64.toNat_shiftRight, Nat.shiftRight_eq_div_pow]
  rfl

theorem loadFrac_toNat (x : UInt64) : (loadFrac x).toNat = x.toNat % 2048 * 100 / 2048 := by
  have hmask : (x &&& (fixed1 - 1)).toNat = x.toNat % 2048 := by
    rw [UInt64.toNat_and, show (fixed1 - 1).toNat = 2 ^ 11 - 1 from rfl,
      Nat.and_two_pow_sub_one_eq_mod]
  have hlt : x.toNat % 2048 * 100 < 2 ^ 64 := by
    have := Nat.mod_lt x.toNat (by norm_num : 0 < 2048)
    omega
  rw [loadFrac, loadInt_toNat, UInt64.toNat_mul, hmask, show (100 : UInt64).toNat = 100 from rfl,
    Nat.mod_eq_of_lt hlt]

theorem loadInt_mul_add_loadFrac (z : UInt64) :
    100 * (loadInt z).toNat + (loadFrac z).toNat = 100 * z.toNat / 2048 := by
  rw [loadInt_toNat, loadFrac_toNat, mul_div_add_mod_mul_div]

theorem getAvenrun_apply (r : Rounding) (avgnrun : Fin 2 → UInt64) (offset : UInt64) (j : Fin 2) :
    getAvenrun r avgnrun offset 0 j =
      r.hundredths (loadInt (avgnrun j + offset)).toNat (loadFrac (avgnrun j + offset)).toNat := by
  fin_cases j <;> simp [getAvenrun]

theorem hundredths_loadInt_le (r : Rounding) {x y : UInt64} (hxy : x ≤ y) (hy : y.toNat < 2 ^ 63) :
    r.hundredths (loadInt x).toNat (loadFrac x).toNat ≤
      r.hundredths (loadInt y).toNat (loadFrac y).toNat := by
  rw [loadInt_toNat, loadInt_toNat, loadFrac_toNat, loadFrac_toNat]
  apply r.hundredths_le (mod_mul_div_lt (by norm_num)).le (mod_mul_div_lt (by norm_num)).le
  · omega
  · exact div_lt_or_mod_le (UInt64.le_iff_toNat_le.1 hxy)

theorem add_offset_toNat {x : UInt64} (hx : x.toNat < 2 ^ 52) : (x + fixed1 / 200).toNat = x.toNat + 10 := by
  rw [UInt64.toNat_add, show (fixed1 / 200).toNat = 10 from rfl]
  exact Nat.mod_eq_of_lt (by omega)

/-! ## Runs from the zero info -/

/-- A sample's counts below 2^40. -/
def LoadStats.Small (s : LoadStats) : Prop :=
  s.nrRunning.toNat < 2 ^ 40 ∧ s.nrUninterruptible.toNat < 2 ^ 40

/-- What every run from the zero info on small samples keeps: each average below 2^52, and
the sleeping tasks' below the whole. -/
def DloadInv (info : ContainerDloadInfo) : Prop :=
  ∀ j, (info.avgnuni j).toNat ≤ (info.avgnrun j).toNat ∧ (info.avgnrun j).toNat < 2 ^ 52

theorem DloadInv.zero : DloadInv .zero := fun _ =>
  ⟨le_rfl, show (0 : UInt64).toNat < 2 ^ 52 by decide⟩

theorem DloadInv.avg_lt {info : ContainerDloadInfo} (hi : DloadInv info) (t : Track) (j : Fin 2) :
    (info.avg t j).toNat < 2 ^ 52 := by
  have := hi j
  cases t
  · exact this.2
  · exact Nat.lt_of_le_of_lt this.1 this.2

@[simp] theorem avg_dloadStep (r : Rounding) (info : ContainerDloadInfo) (s : LoadStats) (t : Track) :
    (dloadStep r info s).avg t = calcLoadavg (info.avg t) (s.activeWord t) := by
  cases t <;> rfl

theorem LoadStats.Small.activeWord_toNat {s : LoadStats} (hs : s.Small) (t : Track) :
    (s.activeWord t).toNat = s.active t := by
  obtain ⟨h₁, h₂⟩ := hs
  cases t
  · simp only [LoadStats.activeWord, LoadStats.active, UInt64.toNat_add]
    exact Nat.mod_eq_of_lt (by omega)
  · rfl

theorem LoadStats.Small.active_lt {s : LoadStats} (hs : s.Small) (t : Track) : s.active t < 2 ^ 41 := by
  obtain ⟨h₁, h₂⟩ := hs
  cases t <;> simp only [LoadStats.active] <;> omega

theorem active_nuni_le (s : LoadStats) : s.active .nuni ≤ s.active .nrun := by
  simp only [LoadStats.active]
  omega

section Step

variable {r : Rounding} {info : ContainerDloadInfo} {s : LoadStats}

theorem track_step (hi : DloadInv info) (hs : s.Small) (t : Track) :
    calcLoadavgFits (info.avg t) (s.activeWord t) ∧
      ∀ j, ((dloadStep r info s).avg t j).toNat =
        mix 2048 (loadExp j).toNat 1024 (info.avg t j).toNat (2048 * s.active t) := by
  have hact := hs.active_lt t
  rw [← hs.activeWord_toNat t] at hact ⊢
  have hfits : calcLoadavgFits (info.avg t) (s.activeWord t) := by
    refine ⟨by rw [fixed1_toNat]; omega, ?_, ?_⟩ <;>
    · refine calcLoadFits_of_le (by decide) (hi.avg_lt t _).le ?_
      rw [UInt64.toNat_mul, fixed1_toNat]
      exact (Nat.mod_le _ _).trans (by omega)
  exact ⟨hfits, fun j => by rw [avg_dloadStep, calcLoadavg_toNat hfits]⟩

theorem avg_dloadStep_mem (hi : DloadInv info) (hs : s.Small) (t : Track) (j : Fin 2) :
    ((dloadStep r info s).avg t j).toNat ∈ Set.uIcc (info.avg t j).toNat (2048 * s.active t) := by
  rw [(track_step hi hs t).2 j]
  exact mix_mem_uIcc (by norm_num) (loadExp_toNat_le j) _ _

theorem avg_dloadStep_lt (hi : DloadInv info) (hs : s.Small) (t : Track) (j : Fin 2) :
    ((dloadStep r info s).avg t j).toNat < 2 ^ 52 := by
  have hmem := Set.mem_uIcc.1 (avg_dloadStep_mem (r := r) hi hs t j)
  have hold := hi.avg_lt t j
  have hact := hs.active_lt t
  omega

theorem DloadInv.dloadStep (hi : DloadInv info) (hs : s.Small) : DloadInv (dloadStep r info s) := by
  intro j
  refine ⟨?_, avg_dloadStep_lt hi hs .nrun j⟩
  have huni := (track_step (r := r) hi hs .nuni).2 j
  have hrun := (track_step (r := r) hi hs .nrun).2 j
  simp only [ContainerDloadInfo.avg] at huni hrun
  rw [huni, hrun]
  exact mix_le_mix (hi j).1 (Nat.mul_le_mul_left 2048 (active_nuni_le s))

theorem updateLoadFits_of_inv (hi : DloadInv info) (hs : s.Small) :
    updateLoadFits info s.nrRunning s.nrUninterruptible := by
  obtain ⟨h₁, h₂⟩ := hs
  have hshow : ∀ t, getAvenrunFits (calcLoadavg (info.avg t) (s.activeWord t)) (fixed1 / 200) 0 := by
    intro t j
    have := avg_dloadStep_lt (r := .exact) hi ⟨h₁, h₂⟩ t j
    rw [avg_dloadStep] at this
    rw [show (fixed1 / 200).toNat = 10 from rfl]
    omega
  exact ⟨by omega, (track_step (r := .exact) hi ⟨h₁, h₂⟩ .nrun).1, hshow .nrun,
    (track_step (r := .exact) hi ⟨h₁, h₂⟩ .nuni).1, hshow .nuni⟩

/-- The sleeping tasks' shown load is never above the whole one. -/
theorem loaduni_le_load (hi : DloadInv info) (hs : s.Small) (j : Fin 2) :
    (dloadStep r info s).loaduni j ≤ (dloadStep r info s).load j := by
  have hnext := DloadInv.dloadStep (r := r) hi hs j
  show getAvenrun r (dloadStep r info s).avgnuni (fixed1 / 200) 0 j ≤
    getAvenrun r (dloadStep r info s).avgnrun (fixed1 / 200) 0 j
  rw [getAvenrun_apply, getAvenrun_apply]
  apply hundredths_loadInt_le r
  · rw [UInt64.le_iff_toNat_le, add_offset_toNat (by omega), add_offset_toNat hnext.2]
    omega
  · rw [add_offset_toNat hnext.2]
    omega

end Step

theorem DloadInv.updateLoads (r : Rounding) {samples : List LoadStats}
    (hs : ∀ s ∈ samples, s.Small) : DloadInv (updateLoads r .zero samples) :=
  Lib.Machine.run_invariant_of_forall (fun _ _ hi hs => hi.dloadStep hs) DloadInv.zero hs

theorem avg_updateLoads_le (r : Rounding) (t : Track) (M : ℕ) {samples : List LoadStats}
    (hs : ∀ s ∈ samples, s.Small ∧ s.active t ≤ M) (j : Fin 2) :
    ((updateLoads r .zero samples).avg t j).toNat ≤ 2048 * M := by
  have hstep : ∀ info s, (DloadInv info ∧ ∀ j, (info.avg t j).toNat ≤ 2048 * M) →
      s.Small ∧ s.active t ≤ M →
      DloadInv (dloadStep r info s) ∧ ∀ j, ((dloadStep r info s).avg t j).toNat ≤ 2048 * M := by
    rintro info s ⟨hi, hb⟩ ⟨hsm, hM⟩
    refine ⟨hi.dloadStep hsm, fun j => ?_⟩
    have hmem := Set.mem_uIcc.1 (avg_dloadStep_mem (r := r) hi hsm t j)
    have hold := hb j
    have hscaled := Nat.mul_le_mul_left 2048 hM
    omega
  have h0 : DloadInv .zero ∧ ∀ j, (ContainerDloadInfo.zero.avg t j).toNat ≤ 2048 * M :=
    ⟨DloadInv.zero, fun _ => by cases t <;> exact Nat.zero_le _⟩
  have hrun := Lib.Machine.run_invariant_of_forall hstep h0 hs
  exact hrun.2 j

/-! ## The load averages over every run -/

theorem updateLoad_averages (r : Rounding) (samples : List LoadStats) (s : LoadStats)
    (hs : ∀ x ∈ samples ++ [s], x.nrRunning.toNat < 2 ^ 40 ∧ x.nrUninterruptible.toNat < 2 ^ 40) :
    let info : ContainerDloadInfo := updateLoads r .zero samples
    let info' : ContainerDloadInfo := updateLoad r info s.nrRunning s.nrUninterruptible
    updateLoadFits info s.nrRunning s.nrUninterruptible ∧
      (∀ t j, (info'.avg t j).toNat ∈ Set.uIcc (info.avg t j).toNat (fixed1.toNat * s.active t)) ∧
      (∀ t M, (∀ x ∈ samples ++ [s], x.active t ≤ M) →
        ∀ j, (info'.avg t j).toNat ≤ fixed1.toNat * M) ∧
      (∀ t j, (info.avg t j).toNat = fixed1.toNat * s.active t → info'.avg t j = info.avg t j) ∧
      (∀ j, info'.avgnuni j ≤ info'.avgnrun j ∧ info'.loaduni j ≤ info'.load j) ∧
      ∀ y : UInt64, 100 * (loadInt (y + fixed1 / 200)).toNat + (loadFrac (y + fixed1 / 200)).toNat =
        100 * (y + fixed1 / 200).toNat / 2048 := by
  intro info info'
  have hsmall : ∀ x ∈ samples, x.Small := fun x hx => hs x (List.mem_append_left _ hx)
  have hss : s.Small := hs s (List.mem_append_right _ List.mem_cons_self)
  have hi : DloadInv info := DloadInv.updateLoads r hsmall
  have hmem := avg_dloadStep_mem (r := r) hi hss
  refine ⟨updateLoadFits_of_inv hi hss, fun t j => ?_, fun t M hM j => ?_, fun t j heq => ?_,
    fun j => ⟨?_, loaduni_le_load hi hss j⟩, fun y => loadInt_mul_add_loadFrac _⟩
  · rw [fixed1_toNat]
    exact hmem t j
  · -- the run through `s` is the run of `samples ++ [s]`
    have hle := avg_updateLoads_le r t M
      (fun x (hx : x ∈ samples ++ [s]) => ⟨hs x hx, hM x hx⟩) j
    simp only [updateLoads, Lib.Machine.run_append, Lib.Machine.run_cons, Lib.Machine.run_nil] at hle
    rw [fixed1_toNat]
    exact hle
  · have h := hmem t j
    rw [fixed1_toNat] at heq
    rw [← heq, Set.uIcc_self, Set.mem_singleton_iff] at h
    exact UInt64.toNat_inj.1 h
  · exact UInt64.le_iff_toNat_le.2 (DloadInv.dloadStep hi hss j).1

theorem updateLoad_averages_busy :
    (∀ x ∈ [(⟨2, 1⟩ : LoadStats)] ++ [⟨3, 1⟩],
        x.nrRunning.toNat < 2 ^ 40 ∧ x.nrUninterruptible.toNat < 2 ^ 40) ∧
      ∀ j, (updateLoad .exact (updateLoads .exact .zero [⟨2, 1⟩]) 3 1).avgnuni j ≤
        (updateLoad .exact (updateLoads .exact .zero [⟨2, 1⟩]) 3 1).avgnrun j :=
  have h : ∀ x ∈ [(⟨2, 1⟩ : LoadStats)] ++ [⟨3, 1⟩],
      x.nrRunning.toNat < 2 ^ 40 ∧ x.nrUninterruptible.toNat < 2 ^ 40 := by
    decide
  ⟨h, fun j => ((updateLoad_averages .exact [⟨2, 1⟩] ⟨3, 1⟩ h).2.2.2.2.1 j).1⟩

/-- The offset wraps on the largest words: at 2^64 - 1 the word shown is 9, and its value in
hundredths 0. -/
theorem loadavg_offset_wraps :
    let y : UInt64 := 0xFFFFFFFFFFFFFFFF
    100 * (loadInt (y + fixed1 / 200)).toNat + (loadFrac (y + fixed1 / 200)).toNat ≠
      100 * (y.toNat + (fixed1 / 200).toNat) / 2048 := by
  decide

end Huatuo.Autotracing
