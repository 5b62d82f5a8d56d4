import Huatuo.Lib.Keyed
import Huatuo.Lib.Machine
import Mathlib

/-! Mark and sweep over a map. A refresh marks the entry of each listed item, reviving the one
there or making a fresh one; a sweep is a loop over the map, each key once and in any order,
that deletes the unmarked entries and visits the marked ones. A visit clears the mark and may
stop the loop with a result. So the sweep after a refresh deletes no listed key, a key that no
refresh lists any more is visited at most once more, and two sweeps in a row that run through
leave the keys of the last list and no others. -/
namespace Lib.Sweep

open Machine

variable {κ α ν ρ ε : Type*} [DecidableEq κ]

/-! ## Refresh -/

section Refresh

variable (key : α → κ) (revive : α → ν → ν) (fresh : α → ν)

/-- The entry an item leaves: the one there revived, or a fresh one. -/
def mark (a : α) : Option ν → ν
  | some v => revive a v
  | none => fresh a

def refresh (m : List (κ × ν)) (items : List α) : List (κ × ν) :=
  items.foldl (fun m a => Keyed.set m (key a) (mark revive fresh a (m.lookup (key a)))) m

variable {key revive fresh}

theorem refresh_cons (m : List (κ × ν)) (a : α) (items : List α) :
    refresh key revive fresh m (a :: items) =
      refresh key revive fresh (Keyed.set m (key a) (mark revive fresh a (m.lookup (key a)))) items :=
  rfl

theorem lookup_refresh_of_not_mem {k : κ} : ∀ {m : List (κ × ν)} {items : List α},
    k ∉ items.map key → (refresh key revive fresh m items).lookup k = m.lookup k
  | m, [], _ => rfl
  | m, a :: items, hk => by
    have hka : k ≠ key a := fun h => hk (h ▸ List.mem_cons_self)
    rw [refresh_cons, lookup_refresh_of_not_mem fun h => hk (List.mem_cons_of_mem _ h),
      Keyed.lookup_set, if_neg hka]

theorem lookup_refresh_of_mem {a : α} : ∀ {m : List (κ × ν)} {items : List α},
    (items.map key).Nodup → a ∈ items →
      (refresh key revive fresh m items).lookup (key a) = some (mark revive fresh a (m.lookup (key a)))
  | m, [], _, ha => absurd ha List.not_mem_nil
  | m, b :: items, hn, ha => by
    rw [List.map_cons, List.nodup_cons] at hn
    rw [refresh_cons]
    rcases List.mem_cons.1 ha with rfl | ha
    · rw [lookup_refresh_of_not_mem hn.1, Keyed.lookup_set, if_pos rfl]
    · -- a later item has another key, so the first one's entry is not its own
      have hab : key a ≠ key b := fun h => hn.1 (h ▸ List.mem_map_of_mem ha)
      rw [lookup_refresh_of_mem hn.2 ha, Keyed.lookup_set, if_neg hab]

theorem forall_lookup_refresh {P : ν → Prop} (hrevive : ∀ a v, P v → P (revive a v))
    (hfresh : ∀ a, P (fresh a)) :
    ∀ {m : List (κ × ν)} {items : List α}, (∀ k v, m.lookup k = some v → P v) →
      ∀ k v, (refresh key revive fresh m items).lookup k = some v → P v
  | m, [], hm => hm
  | m, a :: items, hm => by
    rw [refresh_cons]
    refine forall_lookup_refresh hrevive hfresh fun k v hk => ?_
    rw [Keyed.lookup_set] at hk
    split_ifs at hk
    · cases hk
      cases hv : m.lookup (key a) with
      | none => exact hfresh a
      | some v₀ => exact hrevive a v₀ (hm _ _ hv)
    · exact hm k v hk

end Refresh

/-! ## Sweep -/

section Loop

variable (alive : ν → Bool) (visit : κ → ν → ν × Option ρ)

def sweepStep (m : List (κ × ν)) (k : κ) : Except (ρ × List (κ × ν)) (List (κ × ν)) :=
  match m.lookup k with
  | none => .ok m
  | some v =>
    if alive v then
      match visit k v with
      | (v', none) => .ok (Keyed.set m k v')
      | (v', some r) => .error (r, Keyed.set m k v')
    else .ok (Keyed.delete m k)

/-- The loop over the map in the order `order`, which may stop early with a result. -/
def sweep (order : List κ) (m : List (κ × ν)) : Except (ρ × List (κ × ν)) (List (κ × ν)) :=
  order.foldlM (sweepStep alive visit) m

/-- The map the loop leaves, run through or stopped. -/
def swept (order : List κ) (m : List (κ × ν)) : List (κ × ν) :=
  endState Prod.snd (sweep alive visit order m)

/-! The loop seen a key at a time: what the pass at a key leaves there, and whether it stops. -/

/-- What the pass at `k` leaves at `k`: a marked entry visited, an unmarked one deleted. -/
def outcome (m : List (κ × ν)) (k : κ) : Option ν :=
  (m.lookup k).bind fun v => if alive v then some (visit k v).1 else none

def passAt (m : List (κ × ν)) (k : κ) : List (κ × ν) :=
  match m.lookup k with
  | none => m
  | some v => if alive v then Keyed.set m k (visit k v).1 else Keyed.delete m k

/-- The result the pass at `k` stops with, if it stops. -/
def stopResult (m : List (κ × ν)) (k : κ) : Option ρ :=
  match m.lookup k with
  | some v => if alive v then (visit k v).2 else none
  | none => none

/-- The keys the loop reaches: the order up to the first key it stops at. -/
def reached (m : List (κ × ν)) : List κ → List κ
  | [] => []
  | k :: ks => if (stopResult alive visit m k).isSome then [k] else k :: reached m ks

/-- The keys whose entries the loop visits, in order. -/
def visits (m : List (κ × ν)) (order : List κ) : List κ :=
  (reached alive visit m order).filter fun k => (m.lookup k).any alive

variable {alive visit}

theorem sweepStep_eq (m : List (κ × ν)) (k : κ) :
    sweepStep alive visit m k =
      match stopResult alive visit m k with
      | some r => .error (r, passAt alive visit m k)
      | none => .ok (passAt alive visit m k) := by
  unfold sweepStep stopResult passAt
  cases m.lookup k with
  | none => rfl
  | some v =>
    dsimp only
    split_ifs
    · obtain ⟨v', _ | r⟩ := visit k v <;> rfl
    · rfl

theorem lookup_passAt (m : List (κ × ν)) (k j : κ) :
    (passAt alive visit m k).lookup j = if j = k then outcome alive visit m k else m.lookup j := by
  unfold passAt outcome
  cases hk : m.lookup k with
  | none =>
    by_cases hj : j = k
    · rw [if_pos hj, hj, hk]
      rfl
    · rw [if_neg hj]
  | some v =>
    dsimp only
    by_cases hv : alive v = true
    · rw [if_pos hv, Keyed.lookup_set]
      simp [hv]
    · rw [if_neg hv, Keyed.lookup_delete]
      simp [hv]

theorem any_outcome (hvisit : ∀ k v, alive (visit k v).1 = false) (m : List (κ × ν)) (k : κ) :
    (outcome alive visit m k).any alive = false := by
  unfold outcome
  cases m.lookup k with
  | none => rfl
  | some v => by_cases hv : alive v = true <;> simp [hv, hvisit]

theorem lookup_passAt_of_not_mem {m : List (κ × ν)} {k : κ} {ks : List κ} (hk : k ∉ ks) :
    ∀ i ∈ ks, (passAt alive visit m k).lookup i = m.lookup i := fun i hi => by
  rw [lookup_passAt, if_neg (show i ≠ k from fun h => hk (h ▸ hi))]

theorem swept_nil (m : List (κ × ν)) : swept alive visit [] m = m := rfl

theorem swept_cons (m : List (κ × ν)) (k : κ) (ks : List κ) :
    swept alive visit (k :: ks) m =
      if (stopResult alive visit m k).isSome then passAt alive visit m k
      else swept alive visit ks (passAt alive visit m k) := by
  unfold swept sweep
  rw [List.foldlM_cons, sweepStep_eq]
  cases stopResult alive visit m k <;> rfl

theorem sweep_cons (m : List (κ × ν)) (k : κ) (ks : List κ) :
    sweep alive visit (k :: ks) m =
      match stopResult alive visit m k with
      | some r => .error (r, passAt alive visit m k)
      | none => sweep alive visit ks (passAt alive visit m k) := by
  unfold sweep
  rw [List.foldlM_cons, sweepStep_eq]
  cases stopResult alive visit m k <;> rfl

theorem stopResult_congr {m m' : List (κ × ν)} {k : κ} (h : m'.lookup k = m.lookup k) :
    stopResult alive visit m' k = stopResult alive visit m k := by
  unfold stopResult
  rw [h]

theorem reached_congr {m m' : List (κ × ν)} :
    ∀ {ks : List κ}, (∀ j ∈ ks, m'.lookup j = m.lookup j) →
      reached alive visit m' ks = reached alive visit m ks
  | [], _ => rfl
  | k :: ks, h => by
    unfold reached
    rw [stopResult_congr (h k List.mem_cons_self),
      reached_congr fun j hj => h j (List.mem_cons_of_mem _ hj)]

theorem reached_sublist (m : List (κ × ν)) : ∀ ks : List κ, (reached alive visit m ks).Sublist ks
  | [] => List.Sublist.slnil
  | k :: ks => by
    unfold reached
    split_ifs
    · exact (List.nil_sublist ks).cons_cons k
    · exact (reached_sublist m ks).cons_cons k

/-- The spec of the loop, for an order that names each key once: a key it reaches holds what
the pass at it left, any other key its entry from before. -/
theorem lookup_swept : ∀ {order : List κ} (m : List (κ × ν)) (j : κ), order.Nodup →
    (swept alive visit order m).lookup j =
      if j ∈ reached alive visit m order then outcome alive visit m j else m.lookup j
  | [], m, j, _ => by simp [swept_nil, reached]
  | k :: ks, m, j, hn => by
    rw [List.nodup_cons] at hn
    have hrest : ∀ i ∈ ks, (passAt alive visit m k).lookup i = m.lookup i :=
      lookup_passAt_of_not_mem hn.1
    rw [swept_cons]
    unfold reached
    split_ifs with hstop hjk hjk
    · rw [List.mem_singleton.1 hjk, lookup_passAt, if_pos rfl]
    · rw [lookup_passAt, if_neg fun h => hjk (List.mem_singleton.2 h)]
    · rw [lookup_swept _ j hn.2, reached_congr hrest]
      rcases List.mem_cons.1 hjk with rfl | hjk
      · have hj : j ∉ reached alive visit m ks := fun h => hn.1 ((reached_sublist m ks).subset h)
        rw [if_neg hj, lookup_passAt, if_pos rfl]
      · rw [if_pos hjk, outcome, outcome, hrest j ((reached_sublist m ks).subset hjk)]
    · rw [lookup_swept _ j hn.2, reached_congr hrest]
      have hj : j ∉ reached alive visit m ks := fun h => hjk (List.mem_cons_of_mem _ h)
      rw [if_neg hj, lookup_passAt, if_neg (show j ≠ k from fun h => hjk (h ▸ List.mem_cons_self))]

theorem reached_of_sweep_eq_ok : ∀ {order : List κ} {m m' : List (κ × ν)}, order.Nodup →
    sweep alive visit order m = .ok m' → reached alive visit m order = order
  | [], _, _, _, _ => rfl
  | k :: ks, m, m', hn, h => by
    rw [List.nodup_cons] at hn
    have hrest : ∀ i ∈ ks, (passAt alive visit m k).lookup i = m.lookup i :=
      lookup_passAt_of_not_mem hn.1
    rw [sweep_cons] at h
    cases hs : stopResult alive visit m k with
    | some r => rw [hs] at h; cases h
    | none =>
      rw [hs] at h
      unfold reached
      rw [hs, Option.isSome_none, if_neg Bool.false_ne_true,
        ← reached_congr hrest, reached_of_sweep_eq_ok hn.2 h]

theorem isSome_outcome (m : List (κ × ν)) (k : κ) :
    (outcome alive visit m k).isSome = (m.lookup k).any alive := by
  unfold outcome
  cases m.lookup k with
  | none => rfl
  | some v => by_cases hv : alive v = true <;> simp [hv]

theorem lookup_of_sweep_eq_ok {order : List κ} {m m' : List (κ × ν)} (ho : order.Nodup)
    (hcover : ∀ k ∈ m.map Prod.fst, k ∈ order) (h : sweep alive visit order m = .ok m') (k : κ) :
    m'.lookup k = outcome alive visit m k := by
  have hm' : swept alive visit order m = m' := by
    unfold swept
    rw [h]
    rfl
  rw [← hm', lookup_swept _ _ ho, reached_of_sweep_eq_ok ho h]
  split_ifs with hk
  · rfl
  · -- a key the order does not name is not in the map
    have hnone : m.lookup k = none := by
      cases hl : m.lookup k with
      | none => rfl
      | some v => exact absurd (hcover k (Keyed.mem_of_lookup_isSome (by rw [hl]; rfl))) hk
    rw [outcome, hnone]
    rfl

theorem mem_visits {order : List κ} (ho : order.Nodup) {m : List (κ × ν)} {k : κ}
    (hk : k ∈ visits alive visit m order) :
    ∃ v, m.lookup k = some v ∧ alive v = true ∧ stopResult alive visit m k = (visit k v).2 ∧
      (swept alive visit order m).lookup k = some (visit k v).1 := by
  unfold visits at hk
  obtain ⟨hr, ha⟩ := List.mem_filter.1 hk
  cases hm : m.lookup k with
  | none => rw [hm] at ha; cases ha
  | some v =>
    rw [hm, Option.any_some] at ha
    refine ⟨v, rfl, ha, by simp [stopResult, hm, ha], ?_⟩
    rw [lookup_swept _ _ ho, if_pos hr, outcome, hm]
    simp [ha]

theorem lookup_swept_of_not_mem_visits {order : List κ} (ho : order.Nodup) {m : List (κ × ν)}
    {k : κ} (hk : k ∉ visits alive visit m order) :
    (swept alive visit order m).lookup k = m.lookup k ∨
      ((swept alive visit order m).lookup k = none ∧ (m.lookup k).any alive = false) := by
  rw [lookup_swept _ _ ho]
  split_ifs with hr
  · -- reached but not visited: the entry was unmarked, so the pass deleted it
    have ha : (m.lookup k).any alive = false := by
      by_contra h
      exact hk (List.mem_filter.2 ⟨hr, by simpa using h⟩)
    refine .inr ⟨?_, ha⟩
    rw [outcome]
    cases hm : m.lookup k with
    | none => rfl
    | some v =>
      rw [hm, Option.any_some] at ha
      simp [ha]
  · exact .inl rfl

theorem lookup_swept_of_alive {order : List κ} (ho : order.Nodup) {m : List (κ × ν)} {k : κ}
    (ha : (m.lookup k).any alive = true) (hk : k ∉ visits alive visit m order) :
    (swept alive visit order m).lookup k = m.lookup k := by
  rcases lookup_swept_of_not_mem_visits ho hk with h | ⟨-, h⟩
  · exact h
  · rw [ha] at h
    cases h

theorem nodup_visits {order : List κ} (ho : order.Nodup) (m : List (κ × ν)) :
    (visits alive visit m order).Nodup :=
  (ho.sublist (reached_sublist m order)).filter _

/-- What every entry has, and every visit of a marked entry keeps, every entry after the loop
has. -/
theorem forall_lookup_swept {P : ν → Prop} {order : List κ} (ho : order.Nodup)
    {m : List (κ × ν)} (hm : ∀ k v, m.lookup k = some v → P v)
    (hvisit : ∀ k v, P v → alive v = true → P (visit k v).1) :
    ∀ k v, (swept alive visit order m).lookup k = some v → P v := by
  intro k v hk
  rw [lookup_swept _ _ ho] at hk
  split_ifs at hk
  · unfold outcome at hk
    cases hmk : m.lookup k with
    | none => rw [hmk] at hk; cases hk
    | some v₀ =>
      rw [hmk] at hk
      by_cases ha : alive v₀ = true
      · simp only [Option.bind_some, ha, if_true, Option.some.injEq] at hk
        rw [← hk]
        exact hvisit k v₀ (hm k v₀ hmk) ha
      · simp [ha] at hk
  · exact hm k v hk

end Loop

/-! ## Rounds

A round refreshes the map with the items listed, then sweeps it in an order, with visits that
read the round's environment. -/

structure Round (κ α ε : Type*) where
  items : List α
  env : ε
  order : List κ

section Rounds

variable (key : α → κ) (revive : α → ν → ν) (fresh : α → ν) (alive : ν → Bool)
  (visit : ε → κ → ν → ν × Option ρ)

def roundMap (m : List (κ × ν)) (rd : Round κ α ε) : List (κ × ν) :=
  swept alive (visit rd.env) rd.order (refresh key revive fresh m rd.items)

def roundVisits (m : List (κ × ν)) (rd : Round κ α ε) : List κ :=
  visits alive (visit rd.env) (refresh key revive fresh m rd.items) rd.order

variable {key revive fresh alive visit}

theorem forall_lookup_roundMap {P : ν → Prop} {m : List (κ × ν)} {rd : Round κ α ε}
    (ho : rd.order.Nodup) (hm : ∀ k v, m.lookup k = some v → P v)
    (hrevive : ∀ a v, P v → P (revive a v)) (hfresh : ∀ a, P (fresh a))
    (hvisit : ∀ k v, P v → alive v = true → P (visit rd.env k v).1) :
    ∀ k v, (roundMap key revive fresh alive visit m rd).lookup k = some v → P v :=
  forall_lookup_swept ho (forall_lookup_refresh hrevive hfresh hm) hvisit

theorem nodup_roundVisits {m : List (κ × ν)} {rd : Round κ α ε} (ho : rd.order.Nodup) :
    (roundVisits key revive fresh alive visit m rd).Nodup :=
  nodup_visits ho _

section Marks

-- marks are set by the refresh alone and cleared by each visit
variable (hrevive : ∀ a v, alive (revive a v) = true) (hfresh : ∀ a, alive (fresh a) = true)
  (hvisit : ∀ e k v, alive (visit e k v).1 = false)

include hvisit in
theorem not_alive_roundMap {m : List (κ × ν)} {rd : Round κ α ε} (ho : rd.order.Nodup) {k : κ}
    (hk : k ∉ rd.items.map key) (hoff : ¬(m.lookup k).any alive = true) :
    ¬((roundMap key revive fresh alive visit m rd).lookup k).any alive = true := by
  unfold roundMap
  rw [lookup_swept _ _ ho]
  split_ifs
  · rw [any_outcome (hvisit rd.env)]
    exact Bool.false_ne_true
  · rw [lookup_refresh_of_not_mem hk]
    exact hoff

include hvisit in
theorem not_alive_of_mem_roundVisits {m : List (κ × ν)} {rd : Round κ α ε} (ho : rd.order.Nodup)
    {k : κ} (hk : k ∈ roundVisits key revive fresh alive visit m rd) :
    ¬((roundMap key revive fresh alive visit m rd).lookup k).any alive = true := by
  unfold roundVisits visits at hk
  unfold roundMap
  rw [lookup_swept _ _ ho, if_pos (List.mem_filter.1 hk).1, any_outcome (hvisit rd.env)]
  exact Bool.false_ne_true

include hvisit in
/-- A key that no round of a run lists any more is visited at most once in the whole run, and
never if its entry has no mark at the start. -/
theorem count_visits_le_one {m : List (κ × ν)} {rounds : List (Round κ α ε)} {k : κ}
    (hrounds : ∀ rd ∈ rounds, k ∉ rd.items.map key ∧ rd.order.Nodup) :
    (emitted (roundMap key revive fresh alive visit) (roundVisits key revive fresh alive visit) m
        rounds).count k ≤ 1 ∧
      (¬(m.lookup k).any alive = true →
        k ∉ emitted (roundMap key revive fresh alive visit) (roundVisits key revive fresh alive visit)
          m rounds) := by
  have hemit : ∀ (m : List (κ × ν)) (rd : Round κ α ε), k ∉ rd.items.map key ∧ rd.order.Nodup →
      (roundVisits key revive fresh alive visit m rd).count k ≤ 1 ∧
        (k ∈ roundVisits key revive fresh alive visit m rd → (m.lookup k).any alive = true ∧
          ¬((roundMap key revive fresh alive visit m rd).lookup k).any alive = true) := by
    intro m rd ⟨hk, ho⟩
    refine ⟨List.nodup_iff_count_le_one.1 ?_ k, fun hv => ⟨?_, not_alive_of_mem_roundVisits hvisit ho hv⟩⟩
    · exact nodup_visits ho _
    · -- the refresh leaves its entry as it was, and the loop visits marked entries only
      unfold roundVisits visits at hv
      rw [List.mem_filter, lookup_refresh_of_not_mem hk] at hv
      exact hv.2
  have hkeep : ∀ (m : List (κ × ν)) (rd : Round κ α ε), k ∉ rd.items.map key ∧ rd.order.Nodup →
      ¬(m.lookup k).any alive = true →
        ¬((roundMap key revive fresh alive visit m rd).lookup k).any alive = true :=
    fun m rd ⟨hk, ho⟩ hoff => not_alive_roundMap hvisit ho hk hoff
  exact count_emitted_le_one hemit hkeep hrounds

include hrevive hfresh hvisit in
/-- Two rounds in a row that run through, each over every key of its map, leave the keys of the
second list and no others: the first leaves every entry unmarked, and the second deletes what
its refresh did not mark again. -/
theorem mem_keys_of_full_rounds {m m₁ m₂ : List (κ × ν)} {rd₁ rd₂ : Round κ α ε}
    (hn₂ : (rd₂.items.map key).Nodup) (ho₁ : rd₁.order.Nodup) (ho₂ : rd₂.order.Nodup)
    (hcover₁ : ∀ k ∈ (refresh key revive fresh m rd₁.items).map Prod.fst, k ∈ rd₁.order)
    (hcover₂ : ∀ k ∈ (refresh key revive fresh m₁ rd₂.items).map Prod.fst, k ∈ rd₂.order)
    (h₁ : sweep alive (visit rd₁.env) rd₁.order (refresh key revive fresh m rd₁.items) = .ok m₁)
    (h₂ : sweep alive (visit rd₂.env) rd₂.order (refresh key revive fresh m₁ rd₂.items) = .ok m₂)
    (k : κ) : k ∈ m₂.map Prod.fst ↔ k ∈ rd₂.items.map key := by
  have hoff₁ : ∀ j, (m₁.lookup j).any alive = false := fun j => by
    rw [lookup_of_sweep_eq_ok ho₁ hcover₁ h₁, any_outcome (hvisit rd₁.env)]
  rw [← Keyed.lookup_isSome_iff_mem, lookup_of_sweep_eq_ok ho₂ hcover₂ h₂, isSome_outcome]
  constructor
  · intro hk
    by_contra hnot
    rw [lookup_refresh_of_not_mem hnot, hoff₁ k] at hk
    exact Bool.false_ne_true hk
  · intro hk
    obtain ⟨a, ha, rfl⟩ := List.mem_map.1 hk
    rw [lookup_refresh_of_mem hn₂ ha, Option.any_some]
    cases m₁.lookup (key a) with
    | none => exact hfresh a
    | some v => exact hrevive a v

end Marks

end Rounds

/-! ## Logs by key -/

theorem filter_map_pair {β : Type*} (g : κ → β) (k : κ) :
    ∀ {l : List κ}, l.Nodup →
      (l.map fun j => (j, g j)).filter (fun p => p.1 = k) = if k ∈ l then [(k, g k)] else []
  | [], _ => rfl
  | j :: l, hn => by
    rw [List.nodup_cons] at hn
    rw [List.map_cons, List.filter_cons, filter_map_pair g k hn.2]
    by_cases hjk : j = k
    · subst hjk
      simp [hn.1]
    · simp [hjk, Ne.symm hjk]

end Lib.Sweep
