import Mathlib

/-! Fixed-point averages and how a program shows them. A weighted average of two naturals with
weights `e` and `F - e` out of `F`, rounded by adding `h < F` before the division, lies between
the two and is monotone in both; a value scaled by `d` shown as its integer part and its
hundredths is the value times 100 divided by `d`, truncated. Binary64 arithmetic is any
monotone rounding of the exact result that keeps the integers below 2^53, as round to nearest
even does: a number shown that way is still monotone in the value, and a division by zero
gives an infinity or NaN. -/
namespace Lib.FixedPoint

/-! ## Weighted averages -/

/-- The average of `load` and `active` with weights `e` and `F - e` out of `F`, rounded by
adding `h` before the division. -/
def mix (F e h load active : ℕ) : ℕ :=
  (load * e + active * (F - e) + h) / F

section Mix

variable {F e h : ℕ}

theorem mix_sum_le (he : e ≤ F) {m load active : ℕ} (hl : load ≤ m) (ha : active ≤ m) :
    load * e + active * (F - e) ≤ m * F := by
  have h₁ := Nat.mul_le_mul_right e hl
  have h₂ := Nat.mul_le_mul_right (F - e) ha
  have hm : m * e + m * (F - e) = m * F := by rw [← Nat.mul_add, Nat.add_sub_cancel' he]
  omega

theorem le_mix_sum (he : e ≤ F) {m load active : ℕ} (hl : m ≤ load) (ha : m ≤ active) :
    m * F ≤ load * e + active * (F - e) := by
  have h₁ := Nat.mul_le_mul_right e hl
  have h₂ := Nat.mul_le_mul_right (F - e) ha
  have hm : m * e + m * (F - e) = m * F := by rw [← Nat.mul_add, Nat.add_sub_cancel' he]
  omega

theorem mix_mem_uIcc (hh : h < F) (he : e ≤ F) (load active : ℕ) :
    mix F e h load active ∈ Set.uIcc load active := by
  have hF : 0 < F := Nat.lt_of_le_of_lt (Nat.zero_le h) hh
  have hlo : min load active ≤ mix F e h load active := by
    rw [mix, Nat.le_div_iff_mul_le hF]
    have := le_mix_sum he (min_le_left load active) (min_le_right load active)
    omega
  have hhi : mix F e h load active ≤ max load active := by
    rw [mix, ← Nat.lt_succ_iff, Nat.div_lt_iff_lt_mul hF, Nat.succ_mul]
    have := mix_sum_le he (le_max_left load active) (le_max_right load active)
    omega
  rw [Set.mem_uIcc]
  omega

theorem mix_le_mix {load load' active active' : ℕ} (hl : load ≤ load')
    (ha : active ≤ active') : mix F e h load active ≤ mix F e h load' active' := by
  have h₁ := Nat.mul_le_mul_right e hl
  have h₂ := Nat.mul_le_mul_right (F - e) ha
  exact Nat.div_le_div_right (by omega)

end Mix

/-! ## Integer part and hundredths -/

theorem mul_div_add_mod_mul_div (c d z : ℕ) : c * (z / d) + z % d * c / d = c * z / d := by
  rcases Nat.eq_zero_or_pos d with rfl | hd
  · simp
  have hz : c * z = z % d * c + d * (c * (z / d)) := by
    have := Nat.div_add_mod z d
    calc c * z = c * (d * (z / d) + z % d) := by rw [this]
      _ = z % d * c + d * (c * (z / d)) := by ring
  rw [hz, Nat.add_mul_div_left _ _ hd, Nat.add_comm]

theorem div_lt_or_mod_le {d x y : ℕ} (hxy : x ≤ y) :
    x / d < y / d ∨ (x / d = y / d ∧ x % d * 100 / d ≤ y % d * 100 / d) := by
  rcases Nat.lt_or_eq_of_le (Nat.div_le_div_right (c := d) hxy) with hlt | heq
  · exact .inl hlt
  · refine .inr ⟨heq, Nat.div_le_div_right (Nat.mul_le_mul_right 100 ?_)⟩
    have hx := Nat.div_add_mod x d
    have hy := Nat.div_add_mod y d
    rw [heq] at hx
    omega

theorem mod_mul_div_lt {d x : ℕ} (hd : 0 < d) : x % d * 100 / d < 100 := by
  rw [Nat.div_lt_iff_lt_mul hd]
  have := Nat.mod_lt x hd
  exact Nat.mul_lt_mul_of_pos_right this (by omega) |>.trans_eq (Nat.mul_comm d 100)

/-! ## Binary64 -/

/-- Binary64 arithmetic as a program uses it: each operation is the exact one, rounded by a
monotone function that keeps the integers below 2^53. -/
structure Rounding where
  rnd : ℚ → ℚ
  mono : Monotone rnd
  rnd_natCast : ∀ n : ℕ, n < 2 ^ 53 → rnd n = n

/-- The rounding that keeps every rational, for a reader who wants the exact values. -/
def Rounding.exact : Rounding :=
  ⟨id, monotone_id, fun _ _ => rfl⟩

namespace Rounding

variable (r : Rounding)

/-- An integer part and a count of hundredths shown as one float:
`float64(i) + float64(f)/float64(100)`. -/
def hundredths (i f : ℕ) : ℚ :=
  r.rnd (r.rnd i + r.rnd (r.rnd f / r.rnd 100))

theorem rnd_of_lt {n : ℕ} (hn : n < 2 ^ 53) : r.rnd n = n :=
  r.rnd_natCast n hn

theorem rnd_hundred : r.rnd 100 = 100 := by
  exact_mod_cast r.rnd_of_lt (n := 100) (by norm_num)

theorem rnd_hundredth_mem {f : ℕ} (hf : f ≤ 100) :
    0 ≤ r.rnd (r.rnd f / r.rnd 100) ∧ r.rnd (r.rnd f / r.rnd 100) ≤ 1 := by
  have hf' : r.rnd f = f := r.rnd_of_lt (by omega)
  have h0 : r.rnd 0 = 0 := by exact_mod_cast r.rnd_of_lt (n := 0) (by norm_num)
  have h1 : r.rnd 1 = 1 := by exact_mod_cast r.rnd_of_lt (n := 1) (by norm_num)
  have hq : (f : ℚ) ≤ 100 := by exact_mod_cast hf
  rw [hf', rnd_hundred]
  constructor
  · rw [← h0]
    exact r.mono (by positivity)
  · rw [← h1]
    exact r.mono (by rw [div_le_one (by norm_num)]; exact hq)

theorem hundredths_mem {i f : ℕ} (hf : f ≤ 100) (hi : i + 1 < 2 ^ 53) :
    (i : ℚ) ≤ r.hundredths i f ∧ r.hundredths i f ≤ i + 1 := by
  obtain ⟨h0, h1⟩ := r.rnd_hundredth_mem hf
  have hri : r.rnd i = i := r.rnd_of_lt (by omega)
  have hri1 : r.rnd ((i + 1 : ℕ) : ℚ) = i + 1 := by exact_mod_cast r.rnd_of_lt hi
  unfold hundredths
  rw [hri]
  constructor
  · calc (i : ℚ) = r.rnd i := hri.symm
      _ ≤ _ := r.mono (by linarith)
  · calc _ ≤ r.rnd ((i + 1 : ℕ) : ℚ) := r.mono (by push_cast; linarith)
      _ = i + 1 := hri1

theorem hundredths_le {i i' f f' : ℕ} (hf : f ≤ 100) (hf' : f' ≤ 100) (hi : i' + 1 < 2 ^ 53)
    (h : i < i' ∨ (i = i' ∧ f ≤ f')) : r.hundredths i f ≤ r.hundredths i' f' := by
  rcases h with hlt | ⟨rfl, hle⟩
  · -- the first is at most `i + 1`, the second at least `i'`
    have h₁ := (r.hundredths_mem (i := i) hf (by omega)).2
    have h₂ := (r.hundredths_mem hf' hi).1
    have hq : (i : ℚ) + 1 ≤ i' := by exact_mod_cast hlt
    linarith
  · have hq : (f : ℚ) ≤ f' := by exact_mod_cast hle
    have hdiv : r.rnd f / r.rnd 100 ≤ r.rnd f' / r.rnd 100 := by
      rw [rnd_hundred]
      exact div_le_div_of_nonneg_right (r.mono hq) (by norm_num)
    have hsum : r.rnd i + r.rnd (r.rnd f / r.rnd 100) ≤ r.rnd i + r.rnd (r.rnd f' / r.rnd 100) := by
      linarith [r.mono hdiv]
    exact r.mono hsum

@[simp] theorem exact_rnd (x : ℚ) : exact.rnd x = x := rfl

@[simp] theorem rnd_zero : r.rnd 0 = 0 := by
  exact_mod_cast r.rnd_of_lt (n := 0) (by norm_num)

/-! ### Durations in seconds -/

/-- `d.Seconds()` of a `time.Duration` of `d` nanoseconds: `float64(sec) + float64(nsec)/1e9`,
with `sec` and `nsec` the quotient and the remainder of `d` by 10^9, truncated. -/
def seconds (d : ℤ) : ℚ :=
  r.rnd (r.rnd (d.tdiv 1000000000 : ℤ) + r.rnd (r.rnd (d.tmod 1000000000 : ℤ) / 1000000000))

theorem rnd_part_mem {f D : ℕ} (hf : f ≤ D) (hD : 0 < D) (hD' : D < 2 ^ 53) :
    0 ≤ r.rnd (r.rnd f / D) ∧ r.rnd (r.rnd f / D) ≤ 1 := by
  have hf' : r.rnd f = f := r.rnd_of_lt (by omega)
  have h1 : r.rnd 1 = 1 := by exact_mod_cast r.rnd_of_lt (n := 1) (by norm_num)
  have hDq : (0 : ℚ) < D := by exact_mod_cast hD
  have hq : (f : ℚ) ≤ D := by exact_mod_cast hf
  rw [hf']
  constructor
  · rw [← r.rnd_zero]
    exact r.mono (by positivity)
  · rw [← h1]
    exact r.mono (by rw [div_le_one hDq]; exact hq)

theorem seconds_mem {d : ℤ} (h0 : 0 ≤ d) (h1 : d < 2 ^ 63) :
    ((d / 1000000000 : ℤ) : ℚ) ≤ r.seconds d ∧ r.seconds d ≤ (d / 1000000000 : ℤ) + 1 := by
  obtain ⟨n, rfl⟩ := Int.eq_ofNat_of_zero_le h0
  have hsec : ((n : ℤ).tdiv 1000000000 : ℤ) = ((n / 1000000000 : ℕ) : ℤ) := by
    rw [Int.tdiv_eq_ediv_of_nonneg h0]
    push_cast
    rfl
  have hnsec : ((n : ℤ).tmod 1000000000 : ℤ) = ((n % 1000000000 : ℕ) : ℤ) := by
    rw [Int.tmod_eq_emod_of_nonneg h0]
    push_cast
    rfl
  have hdiv : ((n : ℤ) / 1000000000 : ℤ) = ((n / 1000000000 : ℕ) : ℤ) := by
    push_cast
    rfl
  have hlt : n / 1000000000 + 1 < 2 ^ 53 := by omega
  obtain ⟨hp0, hp1⟩ := r.rnd_part_mem (f := n % 1000000000) (D := 1000000000)
    (Nat.le_of_lt (Nat.mod_lt _ (by norm_num))) (by norm_num) (by norm_num)
  have hri : r.rnd ((n / 1000000000 : ℕ) : ℚ) = (n / 1000000000 : ℕ) := r.rnd_of_lt (by omega)
  have hri1 : r.rnd ((n / 1000000000 + 1 : ℕ) : ℚ) = (n / 1000000000 : ℕ) + 1 := by
    exact_mod_cast r.rnd_of_lt hlt
  unfold seconds
  rw [hsec, hnsec, hdiv]
  simp only [Int.cast_natCast] at hp0 hp1 ⊢
  push_cast at hp0 hp1 ⊢
  rw [hri]
  constructor
  · calc ((n / 1000000000 : ℕ) : ℚ) = r.rnd (n / 1000000000 : ℕ) := hri.symm
      _ ≤ _ := r.mono (by linarith)
  · calc _ ≤ r.rnd ((n / 1000000000 + 1 : ℕ) : ℚ) := r.mono (by push_cast; linarith)
      _ = _ := by rw [hri1]

end Rounding

/-- A binary64 value: a finite number, an infinity, or NaN. -/
inductive Binary64
  | finite (x : ℚ)
  | posInf
  | negInf
  | nan
deriving DecidableEq, Repr

/-- Division of two finite values: the rounded quotient, and by zero an infinity of the
dividend's sign or, for zero by zero, NaN. -/
def Rounding.div (r : Rounding) (a b : ℚ) : Binary64 :=
  if b = 0 then
    if a = 0 then .nan else if 0 < a then .posInf else .negInf
  else .finite (r.rnd (a / b))

@[simp] theorem Rounding.div_zero_zero (r : Rounding) : r.div 0 0 = .nan := rfl

theorem Rounding.div_of_ne_zero (r : Rounding) {a b : ℚ} (hb : b ≠ 0) :
    r.div a b = .finite (r.rnd (a / b)) :=
  if_neg hb

/-- `int64(x)` of a float in range: the fraction is discarded. -/
def truncate (x : ℚ) : ℤ :=
  x.num.tdiv x.den

theorem truncate_eq_floor {x : ℚ} (hx : 0 ≤ x) : truncate x = ⌊x⌋ := by
  rw [truncate, Int.tdiv_eq_ediv_of_nonneg (Rat.num_nonneg.2 hx), Rat.floor_def']

theorem truncate_mem {x : ℚ} {n : ℤ} (hx : 0 ≤ x) (hn : x ≤ n + 1) : 0 ≤ truncate x ∧ truncate x ≤ n + 1 := by
  rw [truncate_eq_floor hx]
  exact ⟨Int.floor_nonneg.2 hx, Int.floor_le_iff.2 (by push_cast; linarith)⟩

end Lib.FixedPoint
