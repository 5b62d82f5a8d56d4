import Mathlib

/-! Regrouping a list: taking, for each selected key, the elements with that key lists the
same elements as selecting the elements whose key is selected. -/
namespace Lib.Partition

variable {α β : Type*} [DecidableEq α] [DecidableEq β]

theorem sum_map_ite_of_nodup {S : List β} (hS : S.Nodup) (b : β) (n : Nat) :
    (S.map fun s => if b = s then n else 0).sum = if b ∈ S then n else 0 := by
  induction S with
  | nil => simp
  | cons s S ih =>
    obtain ⟨hs, hS⟩ := List.nodup_cons.1 hS
    rw [List.map_cons, List.sum_cons, ih hS]
    by_cases h : b = s
    · subst h
      simp [hs]
    · simp [h]

theorem flatMap_filter_perm (l : List α) {S : List β} (hS : S.Nodup) (g : α → β)
    (hg : ∀ x ∈ l, g x ∈ S) (P : β → Bool) :
    ((S.filter P).flatMap fun s => l.filter fun x => g x = s).Perm
      (l.filter fun x => P (g x)) := by
  rw [List.perm_iff_count]
  intro a
  have hgroup : ∀ s, List.count a (l.filter fun x => g x = s) =
      if g a = s then l.count a else 0 := by
    intro s
    by_cases h : g a = s
    · rw [if_pos h, List.count_filter (by simp [h])]
    · rw [if_neg h, List.count_eq_zero]
      simp [h]
  have hsel : List.count a (l.filter fun x => P (g x)) = if P (g a) then l.count a else 0 := by
    by_cases h : P (g a)
    · rw [if_pos h, List.count_filter (by simp [h])]
    · rw [if_neg h, List.count_eq_zero]
      simp [h]
  rw [List.count_flatMap, hsel]
  simp only [Function.comp_def, hgroup]
  rw [sum_map_ite_of_nodup (hS.filter P)]
  by_cases ha : a ∈ l
  · simp [hg a ha]
  · simp [List.count_eq_zero_of_not_mem ha]

end Lib.Partition
