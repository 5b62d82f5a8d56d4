import Mathlib

/-! A map as the list of its entries in insertion order, each key once: setting a key replaces
its entry in place or appends one. And when the entries of such tables are spread into blocks
of tagged rows, which rows repeat. -/
namespace Lib.Keyed

section Set

variable {κ ν : Type*} [DecidableEq κ]

def set (m : List (κ × ν)) (k : κ) (v : ν) : List (κ × ν) :=
  if k ∈ m.map Prod.fst then m.map fun p => if p.1 = k then (k, v) else p
  else m ++ [(k, v)]

variable {m : List (κ × ν)} {k : κ} {v : ν}

theorem map_fst_set :
    (set m k v).map Prod.fst = if k ∈ m.map Prod.fst then m.map Prod.fst else m.map Prod.fst ++ [k] := by
  unfold set
  split_ifs with hk
  · simp only [List.map_map]
    apply List.map_congr_left
    intro p _
    by_cases hp : p.1 = k <;> simp [hp]
  · simp

theorem nodup_set (h : (m.map Prod.fst).Nodup) : ((set m k v).map Prod.fst).Nodup := by
  rw [map_fst_set]
  split_ifs with hk
  · exact h
  · exact h.append (List.nodup_singleton k) (by simpa using hk)

theorem mem_set {p : κ × ν} :
    p ∈ set m k v ↔ p = (k, v) ∨ (p ∈ m ∧ p.1 ≠ k) := by
  unfold set
  split_ifs with hk
  · constructor
    · rintro hp
      obtain ⟨q, hq, rfl⟩ := List.mem_map.1 hp
      by_cases hqk : q.1 = k
      · exact Or.inl (by simp [hqk])
      · exact Or.inr ⟨by simpa [hqk] using hq, by simp [hqk]⟩
    · rintro (rfl | ⟨hp, hpk⟩)
      · obtain ⟨q, hq, hqk⟩ := List.mem_map.1 hk
        exact List.mem_map.2 ⟨q, hq, by simp [hqk]⟩
      · exact List.mem_map.2 ⟨p, hp, by simp [hpk]⟩
  · constructor
    · intro hp
      rcases List.mem_append.1 hp with hp | hp
      · exact Or.inr ⟨hp, fun hpk => hk (hpk ▸ List.mem_map_of_mem hp)⟩
      · exact Or.inl (List.mem_singleton.1 hp)
    · rintro (rfl | ⟨hp, -⟩)
      · simp
      · exact List.mem_append_left _ hp

theorem nodup_snd_set (hk : (m.map Prod.fst).Nodup) (hv : (m.map Prod.snd).Nodup)
    (hfresh : ∀ p ∈ m, p.2 ≠ v) : ((set m k v).map Prod.snd).Nodup := by
  unfold set
  split_ifs with hkm
  · rw [List.map_map]
    refine List.Nodup.map_on ?_ (List.Nodup.of_map Prod.fst hk)
    intro x hx y hy hxy
    by_cases hxk : x.1 = k <;> by_cases hyk : y.1 = k <;>
      simp only [Function.comp_apply, hxk, hyk, if_true, if_false] at hxy
    · exact List.inj_on_of_nodup_map hk hx hy (hxk.trans hyk.symm)
    · exact absurd hxy.symm (hfresh y hy)
    · exact absurd hxy (hfresh x hx)
    · exact List.inj_on_of_nodup_map hv hx hy hxy
  · rw [List.map_append, List.map_singleton]
    refine hv.append (List.nodup_singleton v) ?_
    simp only [List.disjoint_singleton, List.mem_map, not_exists, not_and]
    exact fun p hp hpv => hfresh p hp hpv

theorem lookup_set (k' : κ) :
    (set m k v).lookup k' = if k' = k then some v else m.lookup k' := by
  induction m with
  | nil => by_cases h : k' = k <;> simp [set, List.lookup, h, beq_eq_false_iff_ne.2]
  | cons q m ih =>
    obtain ⟨a, b⟩ := q
    by_cases hk : k ∈ m.map Prod.fst
    · have hset : set ((a, b) :: m) k v = (if a = k then (k, v) else (a, b)) :: set m k v := by
        simp [set, hk]
      rw [hset]
      by_cases hak : a = k
      · subst hak
        by_cases h : k' = a <;> simp [List.lookup, h, beq_eq_false_iff_ne.2, ih]
      · by_cases h : k' = a
        · subst h
          simp [List.lookup, hak]
        · simp [List.lookup, hak, h, beq_eq_false_iff_ne.2, ih]
    · by_cases hak : a = k
      · subst hak
        have hset : set ((a, b) :: m) a v = (a, v) :: m.map fun p => if p.1 = a then (a, v) else p := by
          simp [set]
        rw [hset]
        have hm : m.map (fun p => if p.1 = a then (a, v) else p) = m :=
          (List.map_congr_left (g := id) fun p hp =>
            if_neg fun (hpa : p.1 = a) => hk (hpa ▸ List.mem_map_of_mem hp)).trans (List.map_id m)
        by_cases h : k' = a <;> simp [List.lookup, h, hm, beq_eq_false_iff_ne.2]
      · have hset : set ((a, b) :: m) k v = (a, b) :: set m k v := by
          simp [set, hk, Ne.symm hak]
        rw [hset]
        by_cases h : k' = a
        · subst h
          simp [List.lookup, hak]
        · simp [List.lookup, h, beq_eq_false_iff_ne.2, ih]

theorem mem_of_lookup_eq_some {k' : κ} {v' : ν} : ∀ {m : List (κ × ν)}, m.lookup k' = some v' → (k', v') ∈ m
  | [], h => by cases h
  | (a, b) :: m, h => by
    by_cases ha : k' = a
    · subst ha
      simp only [List.lookup, beq_self_eq_true, Option.some.injEq] at h
      simp [h]
    · simp only [List.lookup, beq_eq_false_iff_ne.2 ha] at h
      exact List.mem_cons_of_mem _ (mem_of_lookup_eq_some h)

theorem lookup_of_mem {p : κ × ν} (h : (m.map Prod.fst).Nodup) (hp : p ∈ m) :
    m.lookup p.1 = some p.2 := by
  induction m with
  | nil => cases hp
  | cons q m ih =>
    obtain ⟨hq, hm⟩ := List.nodup_cons.1 h
    rcases List.mem_cons.1 hp with rfl | hp
    · simp [List.lookup]
    · have hne : p.1 ≠ q.1 := fun he => hq (he ▸ List.mem_map_of_mem hp)
      simp [List.lookup, beq_eq_false_iff_ne.2 hne, ih hm hp]

theorem lookup_isSome_of_mem {k : κ} (h : k ∈ m.map Prod.fst) : (m.lookup k).isSome := by
  obtain ⟨q, hq, rfl⟩ := List.mem_map.1 h
  exact List.lookup_isSome_iff.2 ⟨q, hq, by simp⟩

theorem mem_of_lookup_isSome {k : κ} (h : (m.lookup k).isSome) : k ∈ m.map Prod.fst := by
  obtain ⟨q, hq, hqk⟩ := List.lookup_isSome_iff.1 h
  exact List.mem_map.2 ⟨q, hq, (beq_iff_eq.1 hqk).symm⟩

theorem lookup_isSome_iff_mem {k : κ} : (m.lookup k).isSome ↔ k ∈ m.map Prod.fst :=
  ⟨mem_of_lookup_isSome, lookup_isSome_of_mem⟩

theorem mem_set_of_lookup_eq_none {p : κ × ν} (hk : m.lookup k = none) (hp : p ∈ m) :
    p ∈ set m k v := by
  have hne : p.1 ≠ k := fun he => by
    have := List.lookup_eq_none_iff.1 hk p hp
    simp [he] at this
  exact mem_set.2 (Or.inr ⟨hp, hne⟩)

def delete (m : List (κ × ν)) (k : κ) : List (κ × ν) :=
  m.filter fun p => p.1 ≠ k

theorem delete_sublist : (delete m k).Sublist m :=
  List.filter_sublist

theorem nodup_delete (h : (m.map Prod.fst).Nodup) : ((delete m k).map Prod.fst).Nodup :=
  h.sublist (delete_sublist.map Prod.fst)

theorem set_perm (h : (m.map Prod.fst).Nodup) : (set m k v).Perm ((k, v) :: delete m k) := by
  have hset : (set m k v).Nodup := (nodup_set h).of_map Prod.fst
  have hdel : ((k, v) :: delete m k).Nodup := by
    refine List.nodup_cons.2 ⟨fun hk => ?_, (nodup_delete h).of_map Prod.fst⟩
    simp [delete] at hk
  rw [List.perm_ext_iff_of_nodup hset hdel]
  intro p
  simp [mem_set, delete]

theorem countP_set_le (h : (m.map Prod.fst).Nodup) (P : κ × ν → Bool) :
    (set m k v).countP P ≤ m.countP P + 1 := by
  rw [(set_perm h).countP_eq, List.countP_cons]
  have hle : (delete m k).countP P ≤ m.countP P := delete_sublist.countP_le
  split <;> omega

theorem length_set : (set m k v).length = if k ∈ m.map Prod.fst then m.length else m.length + 1 := by
  rw [← List.length_map (f := Prod.fst), map_fst_set]
  split_ifs <;> simp

theorem lookup_delete (k' : κ) : (delete m k).lookup k' = if k' = k then none else m.lookup k' := by
  induction m with
  | nil => simp [delete]
  | cons q m ih =>
    obtain ⟨a, b⟩ := q
    by_cases hak : a = k
    · subst hak
      have hdel : delete ((a, b) :: m) a = delete m a := by simp [delete]
      rw [hdel, ih]
      by_cases h : k' = a
      · simp [h]
      · simp [h, List.lookup, beq_eq_false_iff_ne.2 h]
    · have hdel : delete ((a, b) :: m) k = (a, b) :: delete m k := by simp [delete, hak]
      rw [hdel]
      by_cases h : k' = a
      · subst h
        simp [List.lookup, hak]
      · simp [List.lookup, beq_eq_false_iff_ne.2 h, ih]

theorem delete_of_lookup_eq_none (hk : m.lookup k = none) : delete m k = m := by
  unfold delete
  rw [List.filter_eq_self]
  intro p hp
  have hne := List.lookup_eq_none_iff.1 hk p hp
  simp only [decide_eq_true_eq]
  intro hpk
  simp [hpk] at hne

theorem perm_cons_delete (h : (m.map Prod.fst).Nodup) {v : ν} (hk : m.lookup k = some v) :
    m.Perm ((k, v) :: delete m k) := by
  have hdel : ((k, v) :: delete m k).Nodup := by
    refine List.nodup_cons.2 ⟨fun hk => ?_, (nodup_delete h).of_map Prod.fst⟩
    simp [delete] at hk
  rw [List.perm_ext_iff_of_nodup (h.of_map Prod.fst) hdel]
  intro p
  constructor
  · intro hp
    by_cases hpk : p.1 = k
    · have := lookup_of_mem h hp
      rw [hpk, hk, Option.some.injEq] at this
      exact List.mem_cons.2 (Or.inl (Prod.ext hpk this.symm))
    · exact List.mem_cons_of_mem _ (List.mem_filter.2 ⟨hp, by simpa using hpk⟩)
  · intro hp
    rcases List.mem_cons.1 hp with rfl | hp
    · exact mem_of_lookup_eq_some hk
    · exact (List.mem_filter.1 hp).1

theorem mem_foldl_set {α : Type*} (key : α → κ) (val : α → ν) {p : κ × ν} :
    ∀ (l : List α) (m : List (κ × ν)), p ∈ l.foldl (fun m a => set m (key a) (val a)) m →
      p ∈ m ∨ ∃ a ∈ l, p = (key a, val a)
  | [], m, h => Or.inl h
  | a :: l, m, h => by
    rcases mem_foldl_set key val l _ h with hp | ⟨b, hb, rfl⟩
    · rcases mem_set.1 hp with rfl | ⟨hp, -⟩
      · exact Or.inr ⟨a, List.mem_cons_self, rfl⟩
      · exact Or.inl hp
    · exact Or.inr ⟨b, List.mem_cons_of_mem _ hb, rfl⟩

theorem nodup_foldl_set {α : Type*} (key : α → κ) (val : α → ν) :
    ∀ (l : List α) {m : List (κ × ν)}, (m.map Prod.fst).Nodup →
      ((l.foldl (fun m a => set m (key a) (val a)) m).map Prod.fst).Nodup
  | [], _, h => h
  | _ :: l, _, h => nodup_foldl_set key val l (nodup_set h)

theorem set_self (h : (m.map Prod.fst).Nodup) (hk : m.lookup k = some v) : set m k v = m := by
  rw [set, if_pos (mem_of_lookup_isSome (by simp [hk]))]
  conv_rhs => rw [← List.map_id m]
  refine List.map_congr_left fun p hp => ?_
  split_ifs with hpk
  · have hp' := lookup_of_mem h hp
    rw [hpk, hk, Option.some.injEq] at hp'
    exact Prod.ext hpk.symm hp'
  · rfl

theorem set_of_not_mem (hk : k ∉ m.map Prod.fst) : set m k v = m ++ [(k, v)] := by
  rw [set, if_neg hk]

theorem set_cons_of_ne {q : κ × ν} (hq : q.1 ≠ k) : set (q :: m) k v = q :: set m k v := by
  by_cases hk : k ∈ m.map Prod.fst
  · have hk' : k ∈ (q :: m).map Prod.fst := List.mem_cons_of_mem _ hk
    rw [set, set, if_pos hk', if_pos hk, List.map_cons, if_neg hq]
  · have hk' : k ∉ (q :: m).map Prod.fst := by
      rw [List.map_cons, List.mem_cons, not_or]
      exact ⟨Ne.symm hq, hk⟩
    rw [set, set, if_neg hk', if_neg hk, List.cons_append]

theorem set_cons_self (hk : k ∉ m.map Prod.fst) (v₀ : ν) : set ((k, v₀) :: m) k v = (k, v) :: m := by
  rw [set, if_pos (by simp), List.map_cons, if_pos rfl]
  congr 1
  exact (List.map_congr_left (g := id) fun p hp =>
    if_neg fun (hpk : p.1 = k) => hk (hpk ▸ List.mem_map_of_mem hp)).trans (List.map_id m)

theorem listSet_eq_set : ∀ {m : List (κ × ν)} {i : ℕ}, (m.map Prod.fst).Nodup →
    m[i]?.map Prod.fst = some k → m.set i (k, v) = set m k v
  | [], i, _, hi => by simp at hi
  | (a, b) :: m, 0, h, hi => by
    obtain ⟨ha, -⟩ := List.nodup_cons.1 h
    have hak : a = k := by simpa using hi
    subst hak
    rw [List.set_cons_zero, set_cons_self ha]
  | q :: m, i + 1, h, hi => by
    obtain ⟨hq, hm⟩ := List.nodup_cons.1 h
    have hi' : m[i]?.map Prod.fst = some k := by simpa using hi
    have hkm : k ∈ m.map Prod.fst := by
      obtain ⟨p, hp, hpk⟩ := Option.map_eq_some_iff.1 hi'
      exact hpk ▸ List.mem_map_of_mem (List.mem_of_getElem? hp)
    have hne : q.1 ≠ k := fun he => hq (he ▸ hkm)
    rw [List.set_cons_succ, listSet_eq_set hm hi', set_cons_of_ne hne]

theorem eraseIdx_eq_delete : ∀ {m : List (κ × ν)} {i : ℕ}, (m.map Prod.fst).Nodup →
    m[i]?.map Prod.fst = some k → m.eraseIdx i = delete m k
  | [], i, _, hi => by simp at hi
  | (a, b) :: m, 0, h, hi => by
    obtain ⟨ha, -⟩ := List.nodup_cons.1 h
    have hak : a = k := by simpa using hi
    subst hak
    have hnone : m.lookup a = none := List.lookup_eq_none_iff.2 fun p hp =>
      bne_iff_ne.2 fun hpa => ha (by rw [hpa]; exact List.mem_map.2 ⟨p, hp, rfl⟩)
    rw [List.eraseIdx_cons_zero, delete, List.filter_cons_of_neg (by simp)]
    exact (delete_of_lookup_eq_none hnone).symm
  | q :: m, i + 1, h, hi => by
    obtain ⟨hq, hm⟩ := List.nodup_cons.1 h
    have hi' : m[i]?.map Prod.fst = some k := by simpa using hi
    have hkm : k ∈ m.map Prod.fst := by
      obtain ⟨p, hp, hpk⟩ := Option.map_eq_some_iff.1 hi'
      exact hpk ▸ List.mem_map_of_mem (List.mem_of_getElem? hp)
    have hne : q.1 ≠ k := fun he => hq (he ▸ hkm)
    rw [List.eraseIdx_cons_succ, eraseIdx_eq_delete hm hi', delete, delete,
      List.filter_cons_of_pos (by simpa using hne)]

end Set

/-! ## Tagged rows

Each entry of a list spreads into a block of rows: one row for each of a fixed list of names,
tagged with the entry's key. -/

section Tagged

variable {α β γ : Type*}

end Tagged

end Lib.Keyed
