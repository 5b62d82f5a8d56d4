import Huatuo.Flamegraph.Bars
import Huatuo.Lib.Go

/-! `LevelsToTree` (internal/flamegraph/flamegraph.go). The Go nodes are heap objects that
the loop mutates through pointers; here they live in an arena, a pointer is an index into it,
and `nodes` lists the indices of the children. The four numbers of a bar are read by position
(`StartOffest` 0, `ValueOffest` 1, `SelfOffest` 2, `NameOffest` 3), and an index out of
range is a panic, `none`. The values are `int64` in Go: on the inputs below every sum stays
inside the root bar, so the model uses `Int`. -/
namespace Huatuo.Flamegraph

structure Level where
  values : List Int
deriving DecidableEq, Repr

structure ProfileTree where
  start : Int
  value : Int
  self : Int
  level : Nat
  name : String
  nodes : List Nat
deriving DecidableEq, Repr, Inhabited

/-- The `else` branch of the bar loop, taken until it stops: while the bar does not fit in
the current parent, move on to the next parent and test the same bar again; with no parent
left the level ends (`none`). -/
def seekParent (heap : Array ProfileTree) (itemStart itemEnd : Int) (parent : Nat)
    (parents : List Nat) : Option (Nat × List Nat) :=
  if itemStart ≥ heap[parent]!.start ∧ itemEnd ≤ heap[parent]!.start + heap[parent]!.value then
    some (parent, parents)
  else
    match parents with
    | [] => none
    | next :: parents => seekParent heap itemStart itemEnd next parents

/-- The bar loop of one level. `offset` is the end of the last bar placed, which turns the
relative starts into absolute ones. A bar is attached to the parent that contains it and
becomes a parent for the next level. The result is the arena and `nextParentsStack`; the
outer `none` is a panic. -/
def itemLoop (names : List String) (level : Nat) :
    List Int → Int → Nat → List Nat → Array ProfileTree → List Nat →
      Option (Array ProfileTree × List Nat)
  | [], _, _, _, heap, next => some (heap, next)
  | rel :: value :: self :: rest, offset, parent, parents, heap, next =>
    let itemStart := rel + offset
    let itemEnd := itemStart + value
    match seekParent heap itemStart itemEnd parent parents with
    | none => some (heap, next)
    | some (parent, parents) =>
      match rest with
      | [] => none
      | nameIdx :: rest => do
        let name ← Lib.Go.index? names nameIdx
        let item := heap.size
        let heap := (heap.push ⟨itemStart, value, self, level, name, []⟩).modify parent
          fun t => { t with nodes := t.nodes ++ [item] }
        itemLoop names level rest itemEnd parent parents heap (next ++ [item])
  | _, _, _, _, _, _ => none

/-- The level loop: the nodes of a level are the parents of the next one. It stops when the
levels or the parents run out. -/
def levelLoop (names : List String) :
    List Level → Nat → Array ProfileTree → List Nat → Option (Array ProfileTree)
  | [], _, heap, _ => some heap
  | _ :: _, _, heap, [] => some heap
  | level :: levels, currentLevel, heap, parent :: parents => do
    let (heap, next) ← itemLoop names currentLevel level.values 0 parent parents heap []
    levelLoop names levels (currentLevel + 1) heap next

/-- `LevelsToTree`: the arena, its root at index 0; `some none` is the nil tree of an empty
profile. The root takes its start as 0 and its name from position 0 of level 0. -/
def levelsToTree (levels : List Level) (names : List String) :
    Option (Option (Array ProfileTree)) :=
  match levels with
  | [] => some none
  | root :: levels => do
    let value ← root.values[1]?
    let self ← root.values[2]?
    let nameIdx ← root.values[0]?
    let name ← Lib.Go.index? names nameIdx
    let heap ← levelLoop names levels 1 #[⟨0, value, self, 0, name, []⟩] [0]
    pure (some heap)

/-! ## The arena `LevelsToTree` builds from a well-formed flamebearer -/

/-- The flamebearer as `LevelsToTree` receives it. -/
def toLevels (bars : Levels) : List Level :=
  bars.map fun l => ⟨RelBar.flat l⟩

/-- The arena index of the first bar of level `d`: the nodes are allocated level by level. -/
def base (bars : Levels) : Nat → Nat
  | 0 => 0
  | d + 1 => base bars d + (barsAt bars d).length

/-- The arena index of bar `j` of level `d`. -/
def ptr (bars : Levels) (x : Nat × Nat) : Nat :=
  base bars x.1 + x.2

/-- The name the arena gives a bar of level `d`: the root's is taken from position 0. -/
def nameAt (names : List String) (d : Nat) (b : Bar) : String :=
  if d = 0 then names.getD 0 "" else names.getD b.name.toNat ""

/-- The node of bar `j` of level `d`, with the given children. -/
def nodeAt (bars : Levels) (names : List String) (d j : Nat) (kids : List Nat) : ProfileTree :=
  let b := (barsAt bars d).getD j default
  ⟨b.start, b.total, b.self, d, nameAt names d b, kids⟩

/-- The children of bar `j` of level `d` among the first `n` bars of level `d + 1`. -/
def kidsUpTo (bars : Levels) (d j n : Nat) : List Nat :=
  ((List.range n).filter fun i => parentIdx bars d i = j).map fun i => ptr bars (d + 1, i)

/-- The arena once the levels up to `d` are placed and the first `n` bars of level `d + 1`
are attached to their parents. -/
structure Built (bars : Levels) (names : List String) (heap : Array ProfileTree) (d n : Nat) :
    Prop where
  size : heap.size = base bars (d + 1) + n
  above : ∀ e < d, ∀ j < (barsAt bars e).length,
    heap[ptr bars (e, j)]? = some (nodeAt bars names e j ((children bars (e, j)).map (ptr bars)))
  parents : ∀ j < (barsAt bars d).length,
    heap[ptr bars (d, j)]? = some (nodeAt bars names d j (kidsUpTo bars d j n))
  placed : ∀ j < n, heap[ptr bars (d + 1, j)]? = some (nodeAt bars names (d + 1) j [])

/-- The finished arena: every bar has its node, with all its children. -/
structure Complete (bars : Levels) (names : List String) (heap : Array ProfileTree) : Prop where
  size : heap.size = base bars bars.length
  nodes : ∀ e, ∀ j < (barsAt bars e).length,
    heap[ptr bars (e, j)]? = some (nodeAt bars names e j ((children bars (e, j)).map (ptr bars)))

section Refinement

variable {bars : Levels} {names : List String}

theorem base_mono {d e : Nat} (h : d ≤ e) : base bars d ≤ base bars e := by
  induction h with
  | refl => exact Nat.le_refl _
  | step _ ih => exact Nat.le_trans ih (Nat.le_add_right _ _)

@[simp] theorem ptr_mk (d j : Nat) : ptr bars (d, j) = base bars d + j := rfl

theorem ptr_lt_base {d j : Nat} (hj : j < (barsAt bars d).length) :
    base bars d + j < base bars (d + 1) := by
  simp only [base]
  omega

theorem ptr_inj {d j e i : Nat} (hj : j < (barsAt bars d).length)
    (hi : i < (barsAt bars e).length) (h : ptr bars (d, j) = ptr bars (e, i)) : d = e ∧ j = i := by
  have hd := ptr_lt_base hj
  have he := ptr_lt_base hi
  rw [ptr_mk, ptr_mk] at h
  rcases Nat.lt_trichotomy d e with hde | rfl | hde
  · have := @base_mono bars (d + 1) e hde
    omega
  · omega
  · have := @base_mono bars (e + 1) d hde
    omega

@[simp] theorem kidsUpTo_zero (d j : Nat) : kidsUpTo bars d j 0 = [] := rfl

theorem kidsUpTo_succ (d j n : Nat) :
    kidsUpTo bars d j (n + 1) =
      kidsUpTo bars d j n ++ if parentIdx bars d n = j then [ptr bars (d + 1, n)] else [] := by
  unfold kidsUpTo
  rw [List.range_succ, List.filter_append, List.map_append]
  by_cases h : parentIdx bars d n = j <;> simp [h]

theorem kidsUpTo_length (d j : Nat) :
    kidsUpTo bars d j (barsAt bars (d + 1)).length = (children bars (d, j)).map (ptr bars) := by
  simp [kidsUpTo, children, List.map_map, Function.comp_def]

theorem getElem!_eq_of_getElem? {heap : Array ProfileTree} {q : Nat} {t : ProfileTree}
    (h : heap[q]? = some t) : heap[q]! = t := by
  simp [getElem!_def, h]

theorem nodeAt_start_value {d j : Nat} (kids : List Nat) (hj : j < (barsAt bars d).length) :
    (nodeAt bars names d j kids).start = (barsAt bars d)[j].start ∧
      (nodeAt bars names d j kids).value = (barsAt bars d)[j].total := by
  simp only [nodeAt, List.getD_eq_getElem _ _ hj, and_self]

theorem seekParent_spec {heap : Array ProfileTree} {d n : Nat} (hb : Built bars names heap d n)
    {b : Bar} (hin : firstContainer (barsAt bars d) b < (barsAt bars d).length) :
    ∀ k p, firstContainer (barsAt bars d) b = p + k →
      seekParent heap b.start (b.start + b.total) (ptr bars (d, p))
        (List.range' (ptr bars (d, p) + 1) ((barsAt bars d).length - p - 1)) =
      some (ptr bars (d, firstContainer (barsAt bars d) b),
        List.range' (ptr bars (d, firstContainer (barsAt bars d) b) + 1)
          ((barsAt bars d).length - firstContainer (barsAt bars d) b - 1)) := by
  intro k
  induction k with
  | zero =>
    intro p hp
    rw [Nat.add_zero] at hp
    subst hp
    have hw := within_firstContainer hin
    obtain ⟨hs, hv⟩ := @nodeAt_start_value bars names d _ (kidsUpTo bars d _ n) hin
    rw [seekParent.eq_def, if_pos]
    rw [getElem!_eq_of_getElem? (hb.parents _ hin), hs, hv]
    exact ⟨hw.1, hw.2⟩
  | succ k ih =>
    intro p hp
    have hlt : p < firstContainer (barsAt bars d) b := by omega
    have hp' : p < (barsAt bars d).length := by omega
    have hnw := not_within_of_lt_firstContainer hlt hp'
    obtain ⟨hs, hv⟩ := @nodeAt_start_value bars names d p (kidsUpTo bars d p n) hp'
    rw [seekParent.eq_def, if_neg]
    · obtain ⟨r, hr⟩ : ∃ r, (barsAt bars d).length - p - 1 = r + 1 :=
        ⟨(barsAt bars d).length - p - 2, by omega⟩
      rw [hr, List.range'_succ]
      have hnext : ptr bars (d, p) + 1 = ptr bars (d, p + 1) := by simp [ptr]; omega
      have hr' : r = (barsAt bars d).length - (p + 1) - 1 := by omega
      simp only
      rw [hnext, hr', ih (p + 1) (by omega)]
    · rw [getElem!_eq_of_getElem? (hb.parents p hp'), hs, hv]
      exact fun h => hnw ⟨h.1, h.2⟩

theorem Built.attach {heap : Array ProfileTree} {d n : Nat} (hb : Built bars names heap d n)
    (hn : n < (barsAt bars (d + 1)).length)
    (hk : parentIdx bars d n < (barsAt bars d).length) :
    Built bars names ((heap.push (nodeAt bars names (d + 1) n [])).modify
      (ptr bars (d, parentIdx bars d n)) fun t => { t with nodes := t.nodes ++ [heap.size] })
      d (n + 1) := by
  have hsize := hb.size
  have hparent := ptr_lt_base hk
  have hstep := @base_mono bars d (d + 1) (Nat.le_succ d)
  constructor
  · rw [Array.size_modify, Array.size_push, hsize, Nat.add_assoc]
  · intro e he j hj
    have hq := ptr_lt_base hj
    have hle := @base_mono bars (e + 1) d he
    rw [Array.getElem?_modify, if_neg (by simp only [ptr_mk]; omega),
      Array.getElem?_push, if_neg (by simp only [ptr_mk]; omega), hb.above e he j hj]
  · intro j hj
    have hq := ptr_lt_base hj
    have hpush : (heap.push (nodeAt bars names (d + 1) n []))[ptr bars (d, j)]? =
        heap[ptr bars (d, j)]? := by
      rw [Array.getElem?_push, if_neg (by simp only [ptr_mk]; omega)]
    rw [Array.getElem?_modify, hpush, hb.parents j hj, kidsUpTo_succ]
    by_cases hjk : parentIdx bars d n = j
    · subst hjk
      rw [if_pos rfl, if_pos rfl, Option.map_some, hsize]
      rfl
    · rw [if_neg (fun h => hjk (ptr_inj hk hj h).2), if_neg hjk, List.append_nil]
  · intro j hj
    rw [Array.getElem?_modify, if_neg]
    · rw [Array.getElem?_push]
      rcases Nat.lt_or_ge j n with hjn | hjn
      · rw [if_neg (by simp only [ptr_mk]; omega), hb.placed j hjn]
      · rw [if_pos (by simp only [ptr_mk]; omega), show j = n by omega]
    · intro h
      have := (ptr_inj hk (by omega) h).1
      omega

theorem index?_name (hwf : WellFormed bars names) {d : Nat} {b : Bar} (hb : b ∈ barsAt bars d) :
    Lib.Go.index? names b.name = some (names.getD b.name.toNat "") := by
  obtain ⟨h0, hlt⟩ := name_lt_barsAt hwf hb
  rw [Lib.Go.index?_of_nonneg h0, List.getD_eq_getElem _ _ (by omega)]
  exact List.getElem?_eq_getElem _

theorem itemLoop_spec (hwf : WellFormed bars names) {d : Nat} :
    ∀ (items : List RelBar) (n : Nat) (offset : Int) (p : Nat) (heap : Array ProfileTree),
      absolute items offset = (barsAt bars (d + 1)).drop n →
      n ≤ (barsAt bars (d + 1)).length →
      Built bars names heap d n →
      p < (barsAt bars d).length →
      (∀ i, n ≤ i → i < (barsAt bars (d + 1)).length → p ≤ parentIdx bars d i) →
      ∃ heap', itemLoop names (d + 1) (RelBar.flat items) offset (ptr bars (d, p))
          (List.range' (ptr bars (d, p) + 1) ((barsAt bars d).length - p - 1)) heap
          ((List.range n).map fun i => ptr bars (d + 1, i)) =
        some (heap', (List.range (barsAt bars (d + 1)).length).map fun i => ptr bars (d + 1, i)) ∧
        Built bars names heap' d (barsAt bars (d + 1)).length := by
  intro items
  induction items with
  | nil =>
    intro n offset p heap habs hn hb _ _
    have hlen := congrArg List.length habs
    rw [length_absolute, List.length_drop] at hlen
    obtain rfl : n = (barsAt bars (d + 1)).length := by simp at hlen; omega
    exact ⟨heap, rfl, hb⟩
  | cons it items ih =>
    intro n offset p heap habs hn hb hp hmono
    have hlen := congrArg List.length habs
    rw [length_absolute, List.length_drop] at hlen
    have hnlt : n < (barsAt bars (d + 1)).length := by simp at hlen; omega
    rw [List.drop_eq_getElem_cons hnlt, absolute, List.cons.injEq] at habs
    obtain ⟨hbar, habs⟩ := habs
    have hmem : (barsAt bars (d + 1))[n] ∈ barsAt bars (d + 1) := List.getElem_mem hnlt
    generalize hbdef : (barsAt bars (d + 1))[n] = b at hbar hmem
    subst hbar
    have hpar : parentIdx bars d n = firstContainer (barsAt bars d)
        ⟨it.rel + offset, it.total, it.self, it.name⟩ := by
      rw [parentIdx, List.getD_eq_getElem _ _ hnlt, hbdef]
    have hin := parentIdx_lt hwf hnlt
    rw [hpar] at hin
    have hseek := seekParent_spec hb hin (firstContainer (barsAt bars d)
      ⟨it.rel + offset, it.total, it.self, it.name⟩ - p) p
      (by have := hmono n (Nat.le_refl n) hnlt; rw [hpar] at this; omega)
    have hnode : nodeAt bars names (d + 1) n [] =
        ⟨it.rel + offset, it.total, it.self, d + 1, names.getD it.name.toNat "", []⟩ := by
      simp only [nodeAt, List.getD_eq_getElem _ _ hnlt, hbdef, nameAt]
      rfl
    have hname := index?_name hwf hmem
    simp only [RelBar.flat, itemLoop]
    simp only at hseek hname
    rw [hseek]
    simp only [hname, Option.bind_eq_bind, Option.bind_some]
    rw [← hpar, ← hnode, hb.size, ← ptr_mk]
    have hattach := hb.attach hnlt (by rw [hpar]; exact hin)
    rw [hb.size, ← ptr_mk] at hattach
    have hnext : (List.range n).map (fun i => ptr bars (d + 1, i)) ++ [ptr bars (d + 1, n)] =
        (List.range (n + 1)).map fun i => ptr bars (d + 1, i) := by
      rw [List.range_succ, List.map_append, List.map_singleton]
    rw [hnext]
    refine ih (n + 1) _ _ _ habs hnlt hattach (by rw [hpar]; exact hin) ?_
    intro i hi hi'
    exact parentIdx_mono hwf (by omega) hi'

theorem Built.next_level {heap : Array ProfileTree} {d : Nat}
    (hb : Built bars names heap d (barsAt bars (d + 1)).length) : Built bars names heap (d + 1) 0 := by
  constructor
  · rw [hb.size]
    rfl
  · intro e he j hj
    rcases Nat.lt_or_eq_of_le (Nat.le_of_lt_succ he) with he | rfl
    · exact hb.above e he j hj
    · rw [hb.parents j hj, kidsUpTo_length]
  · intro j hj
    exact hb.placed j hj
  · intro j hj
    omega

theorem base_eq_of_empty (hwf : WellFormed bars names) {d e : Nat}
    (hd : barsAt bars (d + 1) = []) (hde : d + 1 ≤ e) : base bars e = base bars (d + 1) := by
  induction hde with
  | refl => rfl
  | step hle ih =>
    rw [base, ih, barsAt_eq_nil_of_le hwf hd hle]
    rfl

theorem Built.complete {heap : Array ProfileTree} {d : Nat} (hwf : WellFormed bars names)
    (hb : Built bars names heap d 0) (hd : d < bars.length) (hnext : barsAt bars (d + 1) = []) :
    Complete bars names heap := by
  constructor
  · rw [hb.size, Nat.add_zero, base_eq_of_empty hwf hnext hd]
  · intro e j hj
    rcases Nat.lt_trichotomy e d with he | rfl | he
    · exact hb.above e he j hj
    · rw [hb.parents j hj, kidsUpTo_zero]
      simp [children, hnext]
    · rw [barsAt_eq_nil_of_le hwf hnext he] at hj
      simp at hj

theorem range_map_ptr (d m : Nat) :
    (List.range m).map (fun i => ptr bars (d, i)) = List.range' (base bars d) m := by
  rw [List.range'_eq_map_range]
  rfl

theorem levelLoop_spec (hwf : WellFormed bars names) :
    ∀ (rest : Levels) (d : Nat) (heap : Array ProfileTree),
      bars.drop (d + 1) = rest → d < bars.length → Built bars names heap d 0 →
      ∃ heap', levelLoop names (toLevels rest) (d + 1) heap
          (List.range' (base bars d) (barsAt bars d).length) = some heap' ∧
        Complete bars names heap' := by
  intro rest
  induction rest with
  | nil =>
    intro d heap hrest hd hb
    refine ⟨heap, rfl, hb.complete hwf hd (barsAt_eq_nil ?_)⟩
    have := List.drop_eq_nil_iff.1 hrest
    omega
  | cons l rest ih =>
    intro d heap hrest hd hb
    have hlen : d + 1 < bars.length := by
      by_contra h
      rw [List.drop_eq_nil_iff.2 (by omega)] at hrest
      simp at hrest
    rw [List.drop_eq_getElem_cons hlen, List.cons.injEq] at hrest
    obtain ⟨hl, hrest⟩ := hrest
    rcases Nat.eq_zero_or_pos (barsAt bars d).length with hm | hm
    · refine ⟨heap, by rw [hm]; rfl, hb.complete hwf hd ?_⟩
      exact barsAt_eq_nil_of_le hwf (List.eq_nil_of_length_eq_zero hm) (Nat.le_succ d)
    · have hlevel : absolute l 0 = (barsAt bars (d + 1)).drop 0 := by
        rw [List.drop_zero, barsAt, List.getD_eq_getElem _ _ hlen, hl]
      obtain ⟨heap', hloop, hbuilt⟩ := itemLoop_spec hwf l 0 0 0 heap hlevel (Nat.zero_le _) hb hm
        (fun i _ _ => Nat.zero_le _)
      obtain ⟨m, hm'⟩ : ∃ m, (barsAt bars d).length = m + 1 := ⟨_, (Nat.succ_pred_eq_of_pos hm).symm⟩
      rw [hm', List.range'_succ]
      simp only [toLevels, List.map_cons, levelLoop]
      have hptr : ptr bars (d, 0) = base bars d := rfl
      rw [hm', hptr, show m + 1 - 0 - 1 = m by omega, List.range_zero, List.map_nil] at hloop
      rw [hloop]
      simp only [Option.bind_eq_bind, Option.bind_some]
      rw [range_map_ptr]
      exact ih (d + 1) heap' hrest hlen hbuilt.next_level

/-- On a well-formed flamebearer whose root starts at 0, `LevelsToTree` does not panic and
builds a node for every bar, with the children of the containment tree. -/
theorem levelsToTree_spec (hwf : WellFormed bars names) (hzero : RootAtZero bars) :
    ∃ heap, levelsToTree (toLevels bars) names = some (some heap) ∧ Complete bars names heap := by
  obtain ⟨r, hr⟩ := hwf.root
  obtain ⟨rest, rfl⟩ : ∃ rest, bars = [r] :: rest := by
    cases bars with
    | nil => simp at hr
    | cons l rest =>
      simp only [List.head?_cons, Option.some.injEq] at hr
      exact ⟨rest, by rw [hr]⟩
  have hrel : r.rel = 0 := by
    have := hzero ⟨r.rel + 0, r.total, r.self, r.name⟩ (by simp [barsAt, absolute])
    simpa using this
  have hname := name_lt_barsAt hwf (d := 0) (b := ⟨r.rel + 0, r.total, r.self, r.name⟩)
    (by simp [barsAt, absolute])
  have hnames : Lib.Go.index? names 0 = some (names.getD 0 "") := by
    rw [Lib.Go.index?_of_nonneg (Int.le_refl 0), List.getD_eq_getElem _ _ (by simp at hname; omega)]
    exact List.getElem?_eq_getElem _
  have hb : Built ([r] :: rest) names #[⟨0, r.total, r.self, 0, names.getD 0 "", []⟩] 0 0 := by
    constructor
    · rfl
    · intro e he
      omega
    · intro j hj
      have hj0 : j = 0 := by simpa [barsAt, absolute] using hj
      subst hj0
      simp [nodeAt, barsAt, absolute, nameAt, hrel, base]
    · intro j hj
      omega
  obtain ⟨heap, hloop, hcomplete⟩ := levelLoop_spec hwf rest 0 _ rfl (by simp) hb
  refine ⟨heap, ?_, hcomplete⟩
  have hparents : List.range' (base ([r] :: rest) 0) (barsAt ([r] :: rest) 0).length = [0] := rfl
  rw [hparents, toLevels, Nat.zero_add] at hloop
  simp only [toLevels, List.map_cons, levelsToTree, RelBar.flat, hrel, List.getElem?_cons_succ,
    List.getElem?_cons_zero, Option.bind_eq_bind, Option.bind_some, hnames]
  rw [hloop]
  rfl

end Refinement

end Huatuo.Flamegraph
