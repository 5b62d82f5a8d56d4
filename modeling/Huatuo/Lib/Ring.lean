import Mathlib

/-! A ring of `n` slots written in turn: the write index moves one slot on after each write and
goes back to the first after the last. After any sequence of samples, the index is their count
modulo `n`, and the slots behind it hold the last `min k n` samples, newest first; so once `n`
samples have come in, the slot at the index holds the oldest sample still in the window. -/
namespace Lib.Ring

variable {α : Type*} {n : ℕ}

/-- The slot after `i`, the first after the last. -/
def next (i : Fin n) : Fin n :=
  ⟨(i.val + 1) % n, Nat.mod_lt _ i.pos⟩

/-- The slots `i` and `buf` hold the samples `ss`: the index is their count modulo `n`, and the
`j`-th slot behind it holds the `j`-th sample before the last, for every `j` below the count
and the size. -/
def Holds (ss : List α) (i : Fin n) (buf : Fin n → α) : Prop :=
  i.val = ss.length % n ∧
    ∀ j < min ss.length n, ss[ss.length - 1 - j]? = some (buf ⟨(ss.length - 1 - j) % n, Nat.mod_lt _ i.pos⟩)

theorem holds_nil (i : Fin n) (hi : i.val = 0) (buf : Fin n → α) : Holds [] i buf := by
  refine ⟨by simp [hi], fun j hj => ?_⟩
  simp at hj

theorem sub_mod_ne {j k : ℕ} (hj0 : 0 < j) (hjn : j < n) (hjk : j ≤ k) : (k - j) % n ≠ k % n := by
  intro h
  have hz := Nat.sub_mod_eq_zero_of_mod_eq h.symm
  rw [Nat.sub_sub_self hjk, Nat.mod_eq_of_lt hjn] at hz
  omega

/-- The step rule: a write at the index, then the move, keeps the ring holding the samples
with the new one last. -/
theorem Holds.write {ss : List α} {i : Fin n} {buf : Fin n → α} (h : Holds ss i buf) (x : α) :
    Holds (ss ++ [x]) (next i) (Function.update buf i x) := by
  obtain ⟨hi, hbuf⟩ := h
  have hn := i.pos
  refine ⟨by simp [next, hi, List.length_append, Nat.add_mod], fun j hj => ?_⟩
  simp only [List.length_append, List.length_singleton] at hj ⊢
  rcases Nat.eq_zero_or_pos j with rfl | hj0
  · -- the newest sample is in the slot just written
    have hslot : (⟨(ss.length + 1 - 1 - 0) % n, Nat.mod_lt _ hn⟩ : Fin n) = i := by
      ext
      simp [hi]
    rw [hslot, Function.update_self]
    simp
  · -- the older ones are where they were, in slots the write missed
    have hprev := hbuf (j - 1) (by omega)
    have hidx : ss.length + 1 - 1 - j = ss.length - 1 - (j - 1) := by omega
    have hne : (⟨(ss.length + 1 - 1 - j) % n, Nat.mod_lt _ hn⟩ : Fin n) ≠ i := by
      intro heq
      have hv := congrArg Fin.val heq
      simp only at hv
      rw [hi, show ss.length + 1 - 1 - j = ss.length - j by omega] at hv
      exact sub_mod_ne hj0 (by omega) (by omega) hv
    rw [Function.update_of_ne hne, List.getElem?_append_left (by omega)]
    simpa only [hidx] using hprev

theorem Holds.oldest {ss : List α} {i : Fin n} {buf : Fin n → α} (h : Holds ss i buf)
    (hk : n ≤ ss.length) : ss[ss.length - n]? = some (buf i) := by
  obtain ⟨hi, hbuf⟩ := h
  have hn := i.pos
  have hslot : (⟨(ss.length - 1 - (n - 1)) % n, Nat.mod_lt _ hn⟩ : Fin n) = i := by
    ext
    simp only [hi]
    rw [show ss.length - 1 - (n - 1) = ss.length - n by omega]
    conv_rhs => rw [show ss.length = ss.length - n + n * 1 by omega]
    rw [Nat.add_mul_mod_self_left]
  have := hbuf (n - 1) (by omega)
  rwa [hslot, show ss.length - 1 - (n - 1) = ss.length - n by omega] at this

end Lib.Ring
