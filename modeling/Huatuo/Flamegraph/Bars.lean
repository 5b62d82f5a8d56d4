import Huatuo.Lib.Walk
import Huatuo.Lib.Partition
import Mathlib

/-! The flamebearer format that `LevelsToTree` reads, and the tree it stands for. A level is
a list of bars, stored as four numbers each: a start relative to the end of the previous bar
of the level, a total, a self value and an index into the names. Each bar below the root
belongs to the first bar of the level above that contains it; the rows of a flame graph are
the pre-order of that containment tree. -/
namespace Huatuo.Flamegraph

structure RelBar where
  rel : Int
  total : Int
  self : Int
  name : Int
deriving DecidableEq, Repr

/-- The flat `Values` array of a level: four numbers a bar. -/
def RelBar.flat : List RelBar → List Int
  | [] => []
  | b :: bs => b.rel :: b.total :: b.self :: b.name :: flat bs

structure Bar where
  start : Int
  total : Int
  self : Int
  name : Int
deriving DecidableEq, Repr, Inhabited

/-- The absolute bars of a level, the first relative start counting from `offset`. -/
def absolute : List RelBar → Int → List Bar
  | [], _ => []
  | b :: bs, offset => ⟨b.rel + offset, b.total, b.self, b.name⟩ :: absolute bs (b.rel + offset + b.total)

/-- `b` lies inside `[p.start, p.start + p.total]`. -/
def Bar.Within (b p : Bar) : Prop :=
  p.start ≤ b.start ∧ b.start + b.total ≤ p.start + p.total

instance : DecidableRel Bar.Within := fun _ _ => inferInstanceAs (Decidable (_ ∧ _))

/-- The index of the first bar of `ps` containing `b`, or `ps.length` when none does. -/
def firstContainer (ps : List Bar) (b : Bar) : Nat :=
  ps.findIdx fun p => decide (b.Within p)

/-- Bars of a level in order, each ending no later than the next one starts. -/
def Ordered (bs : List Bar) : Prop :=
  bs.Pairwise fun a b => a.start + a.total ≤ b.start

@[simp] theorem length_absolute (bs : List RelBar) (offset : Int) :
    (absolute bs offset).length = bs.length := by
  induction bs generalizing offset with
  | nil => rfl
  | cons b bs ih => simp [absolute, ih]

theorem absolute_start_ge {bs : List RelBar} {offset : Int} (hnn : ∀ b ∈ bs, 0 ≤ b.rel ∧ 0 ≤ b.total)
    {a : Bar} (ha : a ∈ absolute bs offset) : offset ≤ a.start := by
  induction bs generalizing offset with
  | nil => simp [absolute] at ha
  | cons b bs ih =>
    have hb := hnn b (by simp)
    rcases List.mem_cons.1 ha with rfl | ha
    · simp only; omega
    · have := ih (fun x hx => hnn x (by simp [hx])) ha
      omega

theorem total_nonneg_of_mem_absolute {bs : List RelBar} {offset : Int}
    (hnn : ∀ b ∈ bs, 0 ≤ b.rel ∧ 0 ≤ b.total) {a : Bar} (ha : a ∈ absolute bs offset) :
    0 ≤ a.total := by
  induction bs generalizing offset with
  | nil => simp [absolute] at ha
  | cons b bs ih =>
    rcases List.mem_cons.1 ha with rfl | ha
    · exact (hnn b (by simp)).2
    · exact ih (fun x hx => hnn x (by simp [hx])) ha

theorem ordered_absolute {bs : List RelBar} {offset : Int}
    (hnn : ∀ b ∈ bs, 0 ≤ b.rel ∧ 0 ≤ b.total) : Ordered (absolute bs offset) := by
  induction bs generalizing offset with
  | nil => exact List.Pairwise.nil
  | cons b bs ih =>
    have hrest := fun x hx => hnn x (List.mem_cons_of_mem b hx)
    refine List.Pairwise.cons (fun a ha => ?_) (ih hrest)
    have := absolute_start_ge hrest ha
    simp only
    omega

theorem firstContainer_lt {ps : List Bar} {b : Bar} (h : ∃ p ∈ ps, b.Within p) :
    firstContainer ps b < ps.length := by
  obtain ⟨p, hp, hw⟩ := h
  exact List.findIdx_lt_length_of_exists ⟨p, hp, by simpa using hw⟩

theorem within_firstContainer {ps : List Bar} {b : Bar} (h : firstContainer ps b < ps.length) :
    b.Within ps[firstContainer ps b] :=
  of_decide_eq_true (List.findIdx_getElem (w := h))

theorem not_within_of_lt_firstContainer {ps : List Bar} {b : Bar} {k : Nat}
    (hk : k < firstContainer ps b) (hkl : k < ps.length) : ¬ b.Within ps[k] :=
  of_decide_eq_false (List.not_of_lt_findIdx hk)

theorem firstContainer_le {ps : List Bar} {b : Bar} {k : Nat} (hkl : k < ps.length)
    (hw : b.Within ps[k]) : firstContainer ps b ≤ k := by
  by_contra hlt
  exact not_within_of_lt_firstContainer (by omega) hkl hw

theorem firstContainer_mono {ps : List Bar} (hps : Ordered ps) (hnn : ∀ p ∈ ps, 0 ≤ p.total)
    {b b' : Bar} (hb : 0 ≤ b.total) (hb' : 0 ≤ b'.total) (hbb' : b.start + b.total ≤ b'.start)
    (hin : firstContainer ps b < ps.length) (hin' : firstContainer ps b' < ps.length) :
    firstContainer ps b ≤ firstContainer ps b' := by
  by_contra hlt
  have hw := within_firstContainer hin
  have hw' := within_firstContainer hin'
  have hord := List.pairwise_iff_getElem.1 hps _ _ hin' hin (by omega)
  have hnn' := hnn _ (List.getElem_mem hin')
  have hcover : b.Within ps[firstContainer ps b'] := by
    unfold Bar.Within at hw hw' ⊢
    omega
  have := firstContainer_le hin' hcover
  omega

/-! ## The containment tree -/

abbrev Levels := List (List RelBar)

/-- The absolute bars of level `d` (none past the last level). -/
def barsAt (levels : Levels) (d : Nat) : List Bar :=
  absolute (levels.getD d []) 0

/-- The index, in level `d`, of the parent of bar `i` of level `d + 1`. -/
def parentIdx (levels : Levels) (d i : Nat) : Nat :=
  firstContainer (barsAt levels d) ((barsAt levels (d + 1)).getD i default)

def levelNodes (levels : Levels) (d : Nat) : List (Nat × Nat) :=
  (List.range (barsAt levels d).length).map ((d, ·))

/-- The children of bar `j` of level `d`, in the order of their level. -/
def children (levels : Levels) : Nat × Nat → List (Nat × Nat)
  | (d, j) =>
    ((List.range (barsAt levels (d + 1)).length).filter fun i => parentIdx levels d i = j).map
      ((d + 1, ·))

/-- The rows a flame graph shows: the pre-order of the containment tree from the root. -/
def preorder (levels : Levels) : List (Nat × Nat) :=
  Lib.Walk.unfoldPre (children levels) levels.length (0, 0)

/-- Every bar of the flamebearer, level by level. -/
def allBars (levels : Levels) : List (Nat × Nat) :=
  (List.range levels.length).flatMap (levelNodes levels)

/-- The flamebearers `LevelsToTree` is written for. -/
structure WellFormed (levels : Levels) (names : List String) : Prop where
  root : ∃ r, levels.head? = some [r]
  nonneg : ∀ l ∈ levels, ∀ b ∈ l, 0 ≤ b.rel ∧ 0 ≤ b.total
  nested : ∀ d, ∀ b ∈ barsAt levels (d + 1), ∃ p ∈ barsAt levels d, b.Within p
  names : ∀ l ∈ levels, ∀ b ∈ l, 0 ≤ b.name ∧ b.name < names.length

/-- The root bar starts at 0, as the flame graphs of pyroscope do. -/
def RootAtZero (levels : Levels) : Prop :=
  ∀ b ∈ barsAt levels 0, b.start = 0

section Tree

variable {levels : Levels} {names : List String}

theorem barsAt_eq_nil {d : Nat} (hd : levels.length ≤ d) : barsAt levels d = [] := by
  rw [barsAt, List.getD_eq_default _ _ hd]
  rfl

theorem lt_length_of_lt_barsAt {d i : Nat} (hi : i < (barsAt levels d).length) :
    d < levels.length := by
  by_contra hd
  rw [barsAt_eq_nil (by omega)] at hi
  simp at hi

theorem wellFormed_iff : WellFormed levels names ↔
    levels.head?.map List.length = some 1 ∧
    (∀ l ∈ levels, ∀ b ∈ l, 0 ≤ b.rel ∧ 0 ≤ b.total) ∧
    (∀ d < levels.length, ∀ b ∈ barsAt levels (d + 1), ∃ p ∈ barsAt levels d, b.Within p) ∧
    (∀ l ∈ levels, ∀ b ∈ l, 0 ≤ b.name ∧ b.name < names.length) := by
  constructor
  · rintro ⟨⟨r, hr⟩, hnn, hnest, hnames⟩
    exact ⟨by rw [hr]; rfl, hnn, fun d _ => hnest d, hnames⟩
  · rintro ⟨hroot, hnn, hnest, hnames⟩
    refine ⟨?_, hnn, fun d b hb => ?_, hnames⟩
    · obtain ⟨l, hl, hlen⟩ := Option.map_eq_some_iff.1 hroot
      obtain ⟨r, rfl⟩ := List.length_eq_one_iff.1 hlen
      exact ⟨r, hl⟩
    · rcases Nat.lt_or_ge d levels.length with hd | hd
      · exact hnest d hd b hb
      · rw [barsAt_eq_nil (by omega)] at hb
        simp at hb

instance : Decidable (WellFormed levels names) :=
  decidable_of_iff _ wellFormed_iff.symm

instance : Decidable (RootAtZero levels) :=
  inferInstanceAs (Decidable (∀ b ∈ barsAt levels 0, b.start = 0))

theorem nonneg_barsAt (hwf : WellFormed levels names) (d : Nat) :
    ∀ b ∈ levels.getD d [], 0 ≤ b.rel ∧ 0 ≤ b.total := by
  intro b hb
  rcases Nat.lt_or_ge d levels.length with hd | hd
  · rw [List.getD_eq_getElem _ _ hd] at hb
    exact hwf.nonneg _ (List.getElem_mem hd) b hb
  · rw [List.getD_eq_default _ _ hd] at hb
    simp at hb

theorem parentIdx_lt (hwf : WellFormed levels names) {d i : Nat}
    (hi : i < (barsAt levels (d + 1)).length) : parentIdx levels d i < (barsAt levels d).length := by
  apply firstContainer_lt
  apply hwf.nested d
  rw [List.getD_eq_getElem _ _ hi]
  exact List.getElem_mem hi

theorem ordered_barsAt (hwf : WellFormed levels names) (d : Nat) : Ordered (barsAt levels d) :=
  ordered_absolute (nonneg_barsAt hwf d)

theorem total_nonneg_barsAt (hwf : WellFormed levels names) {d : Nat} {b : Bar}
    (hb : b ∈ barsAt levels d) : 0 ≤ b.total :=
  total_nonneg_of_mem_absolute (nonneg_barsAt hwf d) hb

theorem name_of_mem_absolute {bs : List RelBar} {offset : Int} {a : Bar}
    (ha : a ∈ absolute bs offset) : ∃ b ∈ bs, a.name = b.name := by
  induction bs generalizing offset with
  | nil => simp [absolute] at ha
  | cons b bs ih =>
    rcases List.mem_cons.1 ha with rfl | ha
    · exact ⟨b, by simp, rfl⟩
    · obtain ⟨c, hc, he⟩ := ih ha
      exact ⟨c, by simp [hc], he⟩

theorem name_lt_barsAt (hwf : WellFormed levels names) {d : Nat} {b : Bar}
    (hb : b ∈ barsAt levels d) : 0 ≤ b.name ∧ b.name < names.length := by
  obtain ⟨c, hc, he⟩ := name_of_mem_absolute hb
  rcases Nat.lt_or_ge d levels.length with hd | hd
  · rw [List.getD_eq_getElem _ _ hd] at hc
    rw [he]
    exact hwf.names _ (List.getElem_mem hd) c hc
  · rw [List.getD_eq_default _ _ hd] at hc
    simp at hc

theorem parentIdx_mono (hwf : WellFormed levels names) {d i i' : Nat} (hii' : i ≤ i')
    (hi' : i' < (barsAt levels (d + 1)).length) : parentIdx levels d i ≤ parentIdx levels d i' := by
  rcases Nat.lt_or_eq_of_le hii' with hlt | rfl
  · have hi : i < (barsAt levels (d + 1)).length := by omega
    have hord := List.pairwise_iff_getElem.1 (ordered_barsAt hwf (d + 1)) i i' hi hi' hlt
    unfold parentIdx
    rw [List.getD_eq_getElem _ _ hi, List.getD_eq_getElem _ _ hi']
    have hin := parentIdx_lt hwf hi
    have hin' := parentIdx_lt hwf hi'
    unfold parentIdx at hin hin'
    rw [List.getD_eq_getElem _ _ hi] at hin
    rw [List.getD_eq_getElem _ _ hi'] at hin'
    exact firstContainer_mono (ordered_barsAt hwf d) (fun p hp => total_nonneg_barsAt hwf hp)
      (total_nonneg_barsAt hwf (List.getElem_mem hi)) (total_nonneg_barsAt hwf (List.getElem_mem hi'))
      hord hin hin'
  · exact Nat.le_refl _

theorem barsAt_eq_nil_of_le (hwf : WellFormed levels names) {d e : Nat}
    (hd : barsAt levels d = []) (hde : d ≤ e) : barsAt levels e = [] := by
  induction hde with
  | refl => exact hd
  | step _ ih =>
    apply List.eq_nil_iff_forall_not_mem.2
    intro b hb
    obtain ⟨p, hp, _⟩ := hwf.nested _ b hb
    rw [ih] at hp
    simp at hp

def up (levels : Levels) : Nat × Nat → Nat × Nat
  | (0, j) => (0, j)
  | (d + 1, i) => (d, parentIdx levels d i)

theorem mem_levelNodes {d : Nat} {x : Nat × Nat} :
    x ∈ levelNodes levels d ↔ x.1 = d ∧ x.2 < (barsAt levels d).length := by
  obtain ⟨e, j⟩ := x
  simp only [levelNodes, List.mem_map, List.mem_range, Prod.mk.injEq]
  constructor
  · rintro ⟨j, hj, rfl, rfl⟩
    exact ⟨rfl, hj⟩
  · rintro ⟨rfl, hj⟩
    exact ⟨j, hj, rfl, rfl⟩

theorem nodup_levelNodes (d : Nat) : (levelNodes levels d).Nodup :=
  List.Nodup.map (fun _ _ h => (Prod.mk.inj h).2) List.nodup_range

theorem up_iterate_mem (hwf : WellFormed levels names) :
    ∀ (n : Nat) {e j : Nat}, n ≤ e → j < (barsAt levels e).length →
      (up levels)^[n] (e, j) ∈ levelNodes levels (e - n)
  | 0, e, j, _, hj => mem_levelNodes.2 ⟨rfl, hj⟩
  | n + 1, e, j, hn, hj => by
    obtain ⟨e, rfl⟩ : ∃ e', e = e' + 1 := ⟨e - 1, by omega⟩
    rw [Function.iterate_succ_apply]
    have := up_iterate_mem hwf n (e := e) (by omega) (parentIdx_lt hwf hj)
    simpa [up, Nat.add_sub_add_right] using this

/-- The bars of levels `d` and below, level by level. -/
def barsFrom (levels : Levels) (d : Nat) : List (Nat × Nat) :=
  (List.range' d (levels.length - d)).flatMap (levelNodes levels)

theorem barsFrom_eq {d : Nat} (hd : d < levels.length) :
    barsFrom levels d = levelNodes levels d ++ barsFrom levels (d + 1) := by
  obtain ⟨m, hm⟩ : ∃ m, levels.length - d = m + 1 := ⟨levels.length - d - 1, by omega⟩
  rw [barsFrom, hm, List.range'_succ, List.flatMap_cons, barsFrom,
    show levels.length - (d + 1) = m by omega]

theorem mem_barsFrom {d : Nat} {x : Nat × Nat} (hx : x ∈ barsFrom levels d) :
    d ≤ x.1 ∧ x.2 < (barsAt levels x.1).length := by
  obtain ⟨e, he, hx⟩ := List.mem_flatMap.1 hx
  obtain ⟨rfl, hj⟩ := mem_levelNodes.1 hx
  obtain ⟨i, _, hi⟩ := List.mem_range'.1 he
  exact ⟨by omega, hj⟩

/-- The bars of levels `d` and below whose ancestor in level `d` is bar `k`. -/
def descendants (levels : Levels) (d k : Nat) : List (Nat × Nat) :=
  (barsFrom levels d).filter fun x => (up levels)^[x.1 - d] x = (d, k)

theorem children_eq (d k : Nat) :
    children levels (d, k) = (levelNodes levels (d + 1)).filter fun y => up levels y = (d, k) := by
  simp only [children, levelNodes, List.filter_map]
  congr 1
  apply List.filter_congr
  intro i _
  simp [up]

theorem unfoldPre_perm_descendants (hwf : WellFormed levels names) :
    ∀ (m : Nat) {d k : Nat}, levels.length - d = m → k < (barsAt levels d).length →
      (Lib.Walk.unfoldPre (children levels) m (d, k)).Perm (descendants levels d k)
  | 0, d, k, hm, hk => by
    have := lt_length_of_lt_barsAt hk
    omega
  | m + 1, d, k, hm, hk => by
    have hd := lt_length_of_lt_barsAt hk
    have hkids : ((children levels (d, k)).flatMap (Lib.Walk.unfoldPre (children levels) m)).Perm
        ((children levels (d, k)).flatMap fun y => descendants levels (d + 1) y.2) := by
      apply List.Perm.flatMap_left
      intro y hy
      rw [children_eq, List.mem_filter, mem_levelNodes] at hy
      obtain ⟨e, i⟩ := y
      obtain ⟨⟨rfl, hi⟩, -⟩ := hy
      exact unfoldPre_perm_descendants hwf m (by omega) hi
    have hgroup := Lib.Partition.flatMap_filter_perm (barsFrom levels (d + 1))
      (@nodup_levelNodes levels (d + 1))
      (fun x => (up levels)^[x.1 - (d + 1)] x)
      (fun x hx => by
        obtain ⟨hle, hlt⟩ := mem_barsFrom hx
        have := up_iterate_mem hwf (x.1 - (d + 1)) (e := x.1) (j := x.2) (by omega) hlt
        simpa [show x.1 - (x.1 - (d + 1)) = d + 1 by omega] using this)
      (fun y => decide (up levels y = (d, k)))
    rw [← children_eq] at hgroup
    have hclimb : ((barsFrom levels (d + 1)).filter fun x =>
        decide (up levels ((up levels)^[x.1 - (d + 1)] x) = (d, k))) =
        (barsFrom levels (d + 1)).filter fun x => (up levels)^[x.1 - d] x = (d, k) := by
      apply List.filter_congr
      intro x hx
      have hle := (mem_barsFrom hx).1
      rw [show x.1 - d = (x.1 - (d + 1)) + 1 by omega, Function.iterate_succ_apply']
    have hself : (levelNodes levels d).filter (fun x => (up levels)^[x.1 - d] x = (d, k)) =
        [(d, k)] := by
      have hfix : ∀ x ∈ levelNodes levels d, (up levels)^[x.1 - d] x = x := by
        intro x hx
        rw [(mem_levelNodes.1 hx).1, Nat.sub_self, Function.iterate_zero, id]
      rw [List.filter_congr fun x hx => by rw [hfix x hx], List.filter_eq,
        List.count_eq_one_of_mem (nodup_levelNodes d) (mem_levelNodes.2 ⟨rfl, hk⟩)]
      rfl
    rw [Lib.Walk.unfoldPre_succ, descendants, barsFrom_eq hd, List.filter_append, hself]
    refine List.Perm.cons _ (hkids.trans ?_)
    rw [← hclimb]
    refine List.Perm.trans (List.Perm.of_eq (List.flatMap_congr fun y hy => ?_)) hgroup
    rw [children_eq, List.mem_filter, mem_levelNodes] at hy
    obtain ⟨e, i⟩ := y
    obtain ⟨⟨rfl, -⟩, -⟩ := hy
    rfl

theorem length_barsAt_zero (hwf : WellFormed levels names) : (barsAt levels 0).length = 1 := by
  obtain ⟨r, hr⟩ := hwf.root
  cases levels with
  | nil => simp at hr
  | cons l levels =>
    simp only [List.head?_cons, Option.some.injEq] at hr
    subst hr
    rfl

/-- Every bar of a well-formed flamebearer appears exactly once in the pre-order. -/
theorem preorder_perm (hwf : WellFormed levels names) : (preorder levels).Perm (allBars levels) := by
  have h0 := length_barsAt_zero hwf
  have hperm := unfoldPre_perm_descendants hwf levels.length (d := 0) (k := 0) (by omega)
    (by omega)
  refine hperm.trans (List.Perm.of_eq ?_)
  rw [descendants, List.filter_eq_self.2]
  · rw [barsFrom, allBars, List.range_eq_range', Nat.sub_zero]
  · rintro ⟨e, j⟩ hx
    obtain ⟨-, hlt⟩ := mem_barsFrom hx
    have hroot := mem_levelNodes.1 (up_iterate_mem hwf e (Nat.le_refl e) hlt)
    rw [Nat.sub_self, h0] at hroot
    dsimp only
    rw [Nat.sub_zero, decide_eq_true_eq]
    exact Prod.ext hroot.1 (Nat.lt_one_iff.1 hroot.2)

end Tree

end Huatuo.Flamegraph
