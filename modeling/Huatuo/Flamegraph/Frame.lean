import Huatuo.Flamegraph.Tree

/-! `walkTree`, `EnumField` and `TreeToNestedSetDataFrame` (internal/flamegraph/flamegraph.go):
the arena is walked depth first and every node becomes a row of the frame, its name stored in
an enum column. `data.EnumItemIndex`, the type of the enum's indices and of its counter, is a
`uint16`. A `range` over a Go map visits the entries in an order the runtime picks: it is an
argument `iter`, and the results hold for every order. -/
namespace Huatuo.Flamegraph

/-- `walkTree`: the root, then the loop over the stack of pending nodes, which visits one
node an iteration; the arena size bounds the iterations. -/
def walkTree (heap : Array ProfileTree) (root : Nat) : List Nat :=
  root :: Lib.Walk.stackWalk (fun q => heap[q]!.nodes) heap.size heap[root]!.nodes

/-- `EnumField`. The map `valuesMap` is kept as its entries in insertion order. -/
structure EnumField where
  field : List UInt16
  valuesMap : List (String × UInt16)
  counter : UInt16
deriving DecidableEq, Repr

def EnumField.empty : EnumField :=
  ⟨[], [], 0⟩

/-- `EnumField.Append`: a known value repeats its index, a new one takes the counter. -/
def EnumField.append (e : EnumField) (value : String) : EnumField :=
  match e.valuesMap.lookup value with
  | some valueIndex => { e with field := e.field ++ [valueIndex] }
  | none => ⟨e.field ++ [e.counter], e.valuesMap ++ [(value, e.counter)], e.counter + 1⟩

/-- The loop `for k, v := range valuesMap { s[v] = k }` that `GetField` and `parsedata` both
run over the entries of the map, in the order `range` takes. -/
def decodeKeys (entries : List (String × UInt16)) : Option (List String) :=
  Lib.Go.setEach (List.replicate entries.length "") (entries.map fun kv => (kv.1, kv.2.toNat))

/-- `EnumField.GetField`: the indices, with the texts of the enum. -/
def EnumField.getField (iter : List (String × UInt16) → List (String × UInt16)) (e : EnumField) :
    Option (List UInt16 × List String) := do
  let s ← decodeKeys (iter e.valuesMap)
  pure (e.field, s)

/-- The fields `TreeToNestedSetDataFrame` fills while it walks the tree. -/
structure Columns where
  level : List Int
  value : List Int
  self : List Int
  label : EnumField

def Columns.empty : Columns :=
  ⟨[], [], [], .empty⟩

/-- The callback `walkTree` runs on each node. -/
def Columns.addRow (heap : Array ProfileTree) (cols : Columns) (q : Nat) : Columns :=
  ⟨cols.level ++ [(heap[q]!.level : Int)], cols.value ++ [heap[q]!.value],
    cols.self ++ [heap[q]!.self], cols.label.append heap[q]!.name⟩

/-- The frame: the fields `level`, `value`, `self` and `label`, and the texts of the enum. -/
structure Frame where
  level : List Int
  value : List Int
  self : List Int
  label : List UInt16
  text : List String
deriving DecidableEq, Repr

/-- `TreeToNestedSetDataFrame`: the frame and the label field. An empty profile gives an
empty frame. -/
def treeToNestedSetDataFrame (iter : List (String × UInt16) → List (String × UInt16))
    (tree : Option (Array ProfileTree)) : Option (Frame × EnumField) := do
  let cols := match tree with
    | none => Columns.empty
    | some heap => (walkTree heap 0).foldl (Columns.addRow heap) Columns.empty
  let (label, text) ← cols.label.getField iter
  pure (⟨cols.level, cols.value, cols.self, label, text⟩, cols.label)

structure FrameData where
  level : Int
  value : Int
  self : Int
  label : String
deriving DecidableEq, Repr

/-- The row of the flame graph that bar `x` gives: its depth, total and self, and the name
the arena gives it. -/
def rowOf (bars : Levels) (names : List String) (x : Nat × Nat) : FrameData :=
  let b := (barsAt bars x.1).getD x.2 default
  ⟨x.1, b.total, b.self, nameAt names x.1 b⟩

section Walk

variable {bars : Levels} {names : List String} {heap : Array ProfileTree}

theorem mem_children {x y : Nat × Nat} (hy : y ∈ children bars x) :
    y.1 = x.1 + 1 ∧ y.2 < (barsAt bars (x.1 + 1)).length := by
  obtain ⟨d, j⟩ := x
  rw [children_eq, List.mem_filter, mem_levelNodes] at hy
  exact hy.1

theorem bounded_children :
    ∀ (m : Nat) {x : Nat × Nat}, bars.length - x.1 = m → x.2 < (barsAt bars x.1).length →
      Lib.Walk.Bounded (children bars) m x
  | 0, x, hm, hx => by
    have := lt_length_of_lt_barsAt hx
    omega
  | m + 1, x, hm, _ => by
    intro y hy
    obtain ⟨h1, h2⟩ := mem_children hy
    exact bounded_children m (by omega) (h1 ▸ h2)

theorem mem_allBars {x : Nat × Nat} (hx : x ∈ allBars bars) : x.2 < (barsAt bars x.1).length := by
  obtain ⟨d, -, hx⟩ := List.mem_flatMap.1 hx
  obtain ⟨rfl, hj⟩ := mem_levelNodes.1 hx
  exact hj

theorem length_allBars : (allBars bars).length = base bars bars.length := by
  suffices h : ∀ n, ((List.range n).flatMap (levelNodes bars)).length = base bars n from h _
  intro n
  induction n with
  | zero => rfl
  | succ n ih =>
    rw [List.range_succ, List.flatMap_append, List.length_append, ih]
    simp [levelNodes, base]

theorem preorder_eq_cons (hwf : WellFormed bars names) :
    preorder bars = (0, 0) ::
      (children bars (0, 0)).flatMap (Lib.Walk.unfoldPre (children bars) bars.length) := by
  have h0 : 0 < (barsAt bars 0).length := by rw [length_barsAt_zero hwf]; omega
  exact Lib.Walk.unfoldPre_eq_cons (bounded_children _ (Nat.sub_zero _) h0)

theorem le_depth_of_mem_unfoldPre :
    ∀ (m : Nat) {x y : Nat × Nat}, x ∈ Lib.Walk.unfoldPre (children bars) m y → y.1 ≤ x.1
  | 0, _, _, hx => by simp at hx
  | m + 1, x, y, hx => by
    rw [Lib.Walk.unfoldPre_succ, List.mem_cons, List.mem_flatMap] at hx
    rcases hx with rfl | ⟨z, hz, hx⟩
    · exact Nat.le_refl _
    · have := le_depth_of_mem_unfoldPre m hx
      have := (mem_children hz).1
      omega

theorem depth_pos_of_mem_tail (hwf : WellFormed bars names) {x : Nat × Nat}
    (hx : x ∈ (preorder bars).tail) : 0 < x.1 := by
  rw [preorder_eq_cons hwf, List.tail_cons, List.mem_flatMap] at hx
  obtain ⟨z, hz, hx⟩ := hx
  have := le_depth_of_mem_unfoldPre _ hx
  have := (mem_children hz).1
  omega

theorem Complete.getElem!_ptr (hc : Complete bars names heap) {x : Nat × Nat}
    (hx : x.2 < (barsAt bars x.1).length) :
    heap[ptr bars x]! = nodeAt bars names x.1 x.2 ((children bars x).map (ptr bars)) :=
  getElem!_eq_of_getElem? (hc.nodes x.1 x.2 hx)

/-- `walkTree` visits the nodes of the finished arena in the pre-order of the containment
tree. -/
theorem walkTree_complete (hwf : WellFormed bars names) (hc : Complete bars names heap) :
    walkTree heap 0 = (preorder bars).map (ptr bars) := by
  have h0 : 0 < (barsAt bars 0).length := by rw [length_barsAt_zero hwf]; omega
  have hf : ∀ x : Nat × Nat, x.2 < (barsAt bars x.1).length →
      heap[ptr bars x]!.nodes = (children bars x).map (ptr bars) := fun x hx => by
    rw [hc.getElem!_ptr hx]
    rfl
  have hP : ∀ x : Nat × Nat, x.2 < (barsAt bars x.1).length →
      ∀ y ∈ children bars x, y.2 < (barsAt bars y.1).length := fun x _ y hy => by
    obtain ⟨h1, h2⟩ := mem_children hy
    exact h1 ▸ h2
  have hmap : ∀ y ∈ children bars (0, 0),
      Lib.Walk.unfoldPre (fun q => heap[q]!.nodes) bars.length (ptr bars y) =
        (Lib.Walk.unfoldPre (children bars) bars.length y).map (ptr bars) :=
    fun y hy => Lib.Walk.unfoldPre_map (ptr bars) hf hP _ (hP _ h0 y hy)
  have hpre := preorder_eq_cons hwf
  have hlen := (preorder_perm hwf).length_eq
  rw [length_allBars, ← hc.size, hpre, List.length_cons] at hlen
  have hstack : (((children bars (0, 0)).map (ptr bars)).flatMap
      (Lib.Walk.unfoldPre (fun q => heap[q]!.nodes) bars.length)) =
      ((children bars (0, 0)).flatMap (Lib.Walk.unfoldPre (children bars) bars.length)).map
        (ptr bars) := by
    rw [List.flatMap_map, List.flatMap_congr hmap, List.map_flatMap]
  rw [walkTree, show heap[0]!.nodes = (children bars (0, 0)).map (ptr bars) from hf (0, 0) h0,
    Lib.Walk.stackWalk_eq (h := bars.length), hstack, hpre, List.map_cons]
  · rfl
  · intro q hq
    obtain ⟨y, hy, rfl⟩ := List.mem_map.1 hq
    obtain ⟨h1, h2⟩ := mem_children hy
    exact Lib.Walk.bounded_map (ptr bars) hf hP (hP _ h0 y hy)
      (Lib.Walk.bounded_mono (bounded_children (bars.length - 1) (by rw [h1]) (h1 ▸ h2))
        (Nat.sub_le _ _))
  · rw [hstack, List.length_map]
    omega

theorem foldl_addRow (heap : Array ProfileTree) :
    ∀ (qs : List Nat) (cols : Columns), qs.foldl (Columns.addRow heap) cols =
      ⟨cols.level ++ qs.map (fun q => (heap[q]!.level : Int)),
        cols.value ++ qs.map (fun q => heap[q]!.value), cols.self ++ qs.map (fun q => heap[q]!.self),
        (qs.map fun q => heap[q]!.name).foldl EnumField.append cols.label⟩
  | [], cols => by simp
  | q :: qs, cols => by
    rw [List.foldl_cons, foldl_addRow heap qs]
    simp [Columns.addRow]

end Walk

/-! ## The label column decodes back to the labels -/

/-- The values of the enum, in the order they were added. -/
def EnumField.keys (e : EnumField) : List String :=
  e.valuesMap.map Prod.fst

/-- The enum after the labels `ls` were appended: each label once among the values, the
`k`-th value with index `k`, the counter at the next index, and in `field` the index
of each label in turn. -/
structure EnumField.Encodes (e : EnumField) (ls : List String) : Prop where
  nodup : e.keys.Nodup
  index : e.valuesMap.map (fun kv => (kv.1, kv.2.toNat)) = e.keys.zipIdx
  counter : e.counter = UInt16.ofNat e.keys.length
  mem_keys : ∀ s, s ∈ e.keys ↔ s ∈ ls
  field : e.field.map (fun n => e.keys[n.toNat]?) = ls.map some

section Enum

variable {e : EnumField} {ls : List String}

theorem EnumField.encodes_empty : EnumField.empty.Encodes [] :=
  ⟨List.nodup_nil, rfl, rfl, by simp [EnumField.keys, EnumField.empty], rfl⟩

theorem EnumField.Encodes.lt_of_mem_field (h : e.Encodes ls) {n : UInt16} (hn : n ∈ e.field) :
    n.toNat < e.keys.length := by
  have hmem := List.mem_map_of_mem (f := fun n => e.keys[n.toNat]?) hn
  rw [h.field] at hmem
  obtain ⟨s, -, hs⟩ := List.mem_map.1 hmem
  exact (List.getElem?_eq_some_iff.1 hs.symm).1

theorem EnumField.Encodes.append_known (h : e.Encodes ls) {value : String} {i : UInt16}
    (hi : e.valuesMap.lookup value = some i) :
    ({ e with field := e.field ++ [i] } : EnumField).Encodes (ls ++ [value]) := by
  obtain ⟨l₁, l₂, hvm, -⟩ := List.lookup_eq_some_iff.1 hi
  have hzip : (value, i.toNat) ∈ e.keys.zipIdx := by
    rw [← h.index, hvm]
    simp
  have hget := List.mem_zipIdx_iff_getElem?.1 hzip
  have hls : value ∈ ls := (h.mem_keys value).1 (List.mem_of_getElem? hget)
  refine ⟨h.nodup, h.index, h.counter, fun s => ?_, ?_⟩
  · show s ∈ e.keys ↔ _
    rw [h.mem_keys, List.mem_append, List.mem_singleton]
    constructor
    · exact .inl
    · rintro (hs | rfl)
      exacts [hs, hls]
  · show (e.field ++ [i]).map (fun n => e.keys[n.toNat]?) = (ls ++ [value]).map some
    rw [List.map_append, List.map_append, h.field, List.map_singleton, List.map_singleton, hget]

theorem EnumField.Encodes.append_new (h : e.Encodes ls) {value : String} (hv : value ∉ e.keys)
    (hroom : e.keys.length < 65536) :
    (⟨e.field ++ [e.counter], e.valuesMap ++ [(value, e.counter)], e.counter + 1⟩ :
      EnumField).Encodes (ls ++ [value]) := by
  have hk : (⟨e.field ++ [e.counter], e.valuesMap ++ [(value, e.counter)], e.counter + 1⟩ :
      EnumField).keys = e.keys ++ [value] := by
    simp [EnumField.keys]
  have hc : e.counter.toNat = e.keys.length := by
    rw [h.counter]
    simp only [UInt16.toNat_ofNat']
    omega
  refine ⟨?_, ?_, ?_, fun s => ?_, ?_⟩ <;> rw [hk]
  · rw [List.nodup_append]
    refine ⟨h.nodup, List.nodup_singleton _, fun a ha b hb => ?_⟩
    rw [List.mem_singleton] at hb
    subst hb
    exact fun hab => hv (hab ▸ ha)
  · simp only [List.map_append, List.map_singleton, h.index, List.zipIdx_append, hc]
    simp
  · rw [h.counter, List.length_append, List.length_singleton, UInt16.ofNat_add]
    rfl
  · rw [List.mem_append, List.mem_append, h.mem_keys]
  · show (e.field ++ [e.counter]).map (fun n => (e.keys ++ [value])[n.toNat]?) =
      (ls ++ [value]).map some
    rw [List.map_append, List.map_append, ← h.field, List.map_singleton, List.map_singleton, hc,
      List.getElem?_append_right (Nat.le_refl _), Nat.sub_self]
    congr 1
    apply List.map_congr_left
    intro n hn
    exact List.getElem?_append_left (h.lt_of_mem_field hn)

theorem EnumField.Encodes.append (h : e.Encodes ls) {value : String}
    (hroom : value ∉ ls → e.keys.length < 65536) : (e.append value).Encodes (ls ++ [value]) := by
  unfold EnumField.append
  split
  · next i hi => exact h.append_known hi
  · next hnone =>
    have hv : value ∉ e.keys := by
      intro hk
      obtain ⟨p, hp, rfl⟩ := List.mem_map.1 hk
      have := List.lookup_eq_none_iff.1 hnone p hp
      simp at this
    exact h.append_new hv (hroom fun hls => hv ((h.mem_keys value).2 hls))

theorem EnumField.Encodes.foldl_append {U : List String} (hU : U.length ≤ 65536) :
    ∀ (ls : List String) {e : EnumField} {pre : List String}, e.Encodes pre →
      (∀ s ∈ pre ++ ls, s ∈ U) → (ls.foldl EnumField.append e).Encodes (pre ++ ls)
  | [], e, pre, h, _ => by simpa using h
  | x :: ls, e, pre, h, hsub => by
    have hroom : x ∉ pre → e.keys.length < 65536 := by
      intro hx
      have hxU : x :: e.keys ⊆ U := by
        intro s hs
        rcases List.mem_cons.1 hs with rfl | hs
        · exact hsub s (by simp)
        · exact hsub s (List.mem_append_left _ ((h.mem_keys s).1 hs))
      have hle := (List.nodup_cons.2 ⟨fun hk => hx ((h.mem_keys x).1 hk), h.nodup⟩).length_le_of_subset hxU
      rw [List.length_cons] at hle
      omega
    rw [List.foldl_cons, show pre ++ x :: ls = (pre ++ [x]) ++ ls by simp]
    exact foldl_append hU ls (h.append hroom) (by simpa using hsub)

theorem EnumField.Encodes.decodeKeys_perm (h : e.Encodes ls) {l : List (String × UInt16)}
    (hp : l.Perm e.valuesMap) : decodeKeys l = some e.keys := by
  have hmap := hp.map (fun kv => (kv.1, kv.2.toNat))
  rw [h.index] at hmap
  have hnodup : ((l.map fun kv => (kv.1, kv.2.toNat)).map Prod.snd).Nodup := by
    rw [(hmap.map Prod.snd).nodup_iff, List.zipIdx_map_snd]
    exact List.nodup_range'
  rw [decodeKeys, Lib.Go.setEach_perm hmap hnodup, hp.length_eq,
    show e.valuesMap.length = e.keys.length by simp [EnumField.keys]]
  exact Lib.Go.setEach_replicate_zipIdx e.keys ""

theorem EnumField.Encodes.field_mapM (h : e.Encodes ls) :
    e.field.mapM (fun n => e.keys[n.toNat]?) = some ls :=
  Lib.Go.mapM_eq_some h.field

theorem EnumField.append_fresh {value : String} (hv : value ∉ e.keys) :
    e.append value = ⟨e.field ++ [e.counter], e.valuesMap ++ [(value, e.counter)], e.counter + 1⟩ := by
  have hnone : e.valuesMap.lookup value = none := by
    rw [List.lookup_eq_none_iff]
    intro p hp
    have hne : value ≠ p.1 := fun h => hv (h ▸ List.mem_map_of_mem hp)
    simpa using hne
  rw [EnumField.append, hnone]

theorem EnumField.field_foldl_fresh :
    ∀ (ls : List String) (e : EnumField), (e.keys ++ ls).Nodup →
      e.counter = UInt16.ofNat e.keys.length →
      (ls.foldl EnumField.append e).field =
        e.field ++ (List.range' e.keys.length ls.length).map UInt16.ofNat
  | [], e, _, _ => by simp
  | x :: ls, e, hnd, hc => by
    have hx : x ∉ e.keys := fun h => (List.nodup_append.1 hnd).2.2 x h x List.mem_cons_self rfl
    have hk : (⟨e.field ++ [e.counter], e.valuesMap ++ [(x, e.counter)], e.counter + 1⟩ :
        EnumField).keys = e.keys ++ [x] := by
      simp [EnumField.keys]
    rw [List.foldl_cons, EnumField.append_fresh hx,
      EnumField.field_foldl_fresh ls _ (by rw [hk, List.append_assoc]; exact hnd)
        (by rw [hk, List.length_append, List.length_singleton, UInt16.ofNat_add, hc]; rfl),
      hk, List.length_append, List.length_singleton, List.length_cons, List.range'_succ,
      List.map_cons, hc, List.append_assoc, List.singleton_append]

theorem EnumField.field_foldl_nodup {ls : List String} (h : ls.Nodup) :
    (ls.foldl EnumField.append .empty).field = (List.range ls.length).map UInt16.ofNat := by
  have := EnumField.field_foldl_fresh ls .empty (by simpa [EnumField.keys, EnumField.empty]) rfl
  simpa [List.range_eq_range', EnumField.keys, EnumField.empty] using this

end Enum

/-! ## The frame of a finished arena -/

section Frame

variable {bars : Levels} {names : List String} {heap : Array ProfileTree}

theorem valid_of_mem_preorder (hwf : WellFormed bars names) {x : Nat × Nat}
    (hx : x ∈ preorder bars) : x.2 < (barsAt bars x.1).length :=
  mem_allBars ((preorder_perm hwf).subset hx)

theorem label_rowOf_mem (hwf : WellFormed bars names) {x : Nat × Nat}
    (hx : x.2 < (barsAt bars x.1).length) : (rowOf bars names x).label ∈ names := by
  have hb : (barsAt bars x.1).getD x.2 default ∈ barsAt bars x.1 := by
    rw [List.getD_eq_getElem _ _ hx]
    exact List.getElem_mem hx
  obtain ⟨h0, hlt⟩ := name_lt_barsAt hwf hb
  simp only [rowOf, nameAt]
  split
  · rw [List.getD_eq_getElem _ _ (by omega)]
    exact List.getElem_mem _
  · rw [List.getD_eq_getElem _ _ (by omega)]
    exact List.getElem_mem _

theorem map_getElem!_preorder {β : Type} (hwf : WellFormed bars names)
    (hc : Complete bars names heap) (f : ProfileTree → β) :
    ((preorder bars).map (ptr bars)).map (fun q => f heap[q]!) =
      (preorder bars).map fun x => f (nodeAt bars names x.1 x.2 ((children bars x).map (ptr bars))) := by
  rw [List.map_map]
  apply List.map_congr_left
  intro x hx
  rw [Function.comp_apply, hc.getElem!_ptr (valid_of_mem_preorder hwf hx)]

theorem columns_complete (hwf : WellFormed bars names) (hc : Complete bars names heap) :
    (walkTree heap 0).foldl (Columns.addRow heap) Columns.empty =
      ⟨(preorder bars).map fun x => (rowOf bars names x).level,
        (preorder bars).map fun x => (rowOf bars names x).value,
        (preorder bars).map fun x => (rowOf bars names x).self,
        ((preorder bars).map fun x => (rowOf bars names x).label).foldl EnumField.append .empty⟩ := by
  rw [walkTree_complete hwf hc, foldl_addRow, map_getElem!_preorder hwf hc ProfileTree.name,
    map_getElem!_preorder hwf hc fun t => (t.level : Int), map_getElem!_preorder hwf hc fun t => t.value,
    map_getElem!_preorder hwf hc fun t => t.self]
  rfl

/-- The frame of the finished arena: a row for each bar, in pre-order, and an enum that
holds the labels exactly. -/
theorem treeToNestedSetDataFrame_complete
    (iter : List (String × UInt16) → List (String × UInt16)) (hiter : ∀ m, (iter m).Perm m)
    (hwf : WellFormed bars names) (hc : Complete bars names heap) (hn : names.length ≤ 65536) :
    ∃ e : EnumField, treeToNestedSetDataFrame iter (some heap) =
        some (⟨(preorder bars).map fun x => (rowOf bars names x).level,
          (preorder bars).map fun x => (rowOf bars names x).value,
          (preorder bars).map fun x => (rowOf bars names x).self, e.field, e.keys⟩, e) ∧
      e.Encodes ((preorder bars).map fun x => (rowOf bars names x).label) := by
  have he := EnumField.Encodes.foldl_append hn ((preorder bars).map fun x => (rowOf bars names x).label)
    EnumField.encodes_empty (fun s hs => by
      obtain ⟨x, hx, rfl⟩ := List.mem_map.1 (List.nil_append _ ▸ hs)
      exact label_rowOf_mem hwf (valid_of_mem_preorder hwf hx))
  rw [List.nil_append] at he
  refine ⟨_, ?_, he⟩
  simp only [treeToNestedSetDataFrame, columns_complete hwf hc, EnumField.getField,
    he.decodeKeys_perm (hiter _)]
  rfl

end Frame

end Huatuo.Flamegraph
