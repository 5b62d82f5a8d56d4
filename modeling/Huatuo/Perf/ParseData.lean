import Huatuo.Flamegraph.Frame

/-! The end of `parsedata` (cmd/perf/parsedata.go), from the flame graph on: its levels go
through `LevelsToTree` and `TreeToNestedSetDataFrame`, the labels are decoded through the map
of the enum, and the four columns become `FlameData`. An index of the label column is printed
with `fmt.Sprintf("%d")` and read back with `strconv.ParseInt`, which gives it back. -/
namespace Huatuo.Perf

open Huatuo.Flamegraph

/-- `parsedata` from `convertLevels` on, for the levels and names of the flame graph.
`iterField` and `iterKeys` are the orders of the two `range` loops over the label map, in
`GetField` and here. The outer `none` is a panic. -/
def parsedata (iterField iterKeys : List (String × UInt16) → List (String × UInt16))
    (levels : List Level) (names : List String) : Option (Except String (List FrameData)) := do
  let tree ← levelsToTree levels names
  let (frame, label) ← treeToNestedSetDataFrame iterField tree
  let keys ← decodeKeys (iterKeys label.valuesMap)
  let labelarr ← frame.label.mapM fun n => keys[n.toNat]?
  let dataSize := frame.level.length
  if frame.value.length ≠ dataSize ∨ frame.self.length ≠ dataSize ∨ labelarr.length ≠ dataSize then
    pure (.error "Data length is not equal")
  else
    pure (.ok ((List.range dataSize).map fun i =>
      ⟨frame.level.getD i 0, frame.value.getD i 0, frame.self.getD i 0, labelarr.getD i ""⟩))

/-- The row the flame graph shows for bar `x`: its depth, total and self, and the name its
index points at. -/
def barRow (bars : Levels) (names : List String) (x : Nat × Nat) : FrameData :=
  let b := (barsAt bars x.1).getD x.2 default
  ⟨x.1, b.total, b.self, names.getD b.name.toNat ""⟩

section Rows

variable {bars : Levels} {names : List String}

@[simp] theorem length_flat (l : List RelBar) : (RelBar.flat l).length = 4 * l.length := by
  induction l with
  | nil => rfl
  | cons b l ih =>
    rw [RelBar.flat, List.length_cons, List.length_cons, List.length_cons, List.length_cons, ih,
      List.length_cons]
    omega

theorem base_eq_sum (n : Nat) : base bars n = ((bars.take n).map List.length).sum := by
  induction n with
  | zero => simp [base]
  | succ n ih =>
    rw [base, ih, List.take_add_one, List.map_append, List.sum_append, barsAt, length_absolute]
    cases h : bars[n]? with
    | none => simp [List.getD_eq_getElem?_getD, h]
    | some l => simp [List.getD_eq_getElem?_getD, h]

theorem zip_columns (rows : List FrameData) :
    (List.range rows.length).map (fun i => (⟨(rows.map FrameData.level).getD i 0,
      (rows.map FrameData.value).getD i 0, (rows.map FrameData.self).getD i 0,
      (rows.map FrameData.label).getD i ""⟩ : FrameData)) = rows := by
  apply List.ext_getElem (by simp)
  intro i h₁ h₂
  simp [List.getElem?_eq_getElem h₂]

theorem length_preorder (hwf : WellFormed bars names) :
    (preorder bars).length = ((toLevels bars).map fun l => l.values.length / 4).sum := by
  rw [(preorder_perm hwf).length_eq, length_allBars, base_eq_sum, List.take_length]
  simp only [toLevels, List.map_map, Function.comp_def, length_flat]
  congr 1
  apply List.map_congr_left
  intro l _
  omega

theorem rowOf_eq_barRow {x : Nat × Nat} (hx : 0 < x.1) : rowOf bars names x = barRow bars names x := by
  simp only [rowOf, barRow, nameAt, if_neg (Nat.pos_iff_ne_zero.1 hx)]

theorem rowOf_root :
    rowOf bars names (0, 0) = { barRow bars names (0, 0) with label := names.getD 0 "" } := rfl

/-- What `parsedata` gives on a well-formed flamebearer whose root starts at 0, with at most
`2^16` names, whatever order the two loops over the label map take. -/
theorem parsedata_eq_rows (iterField iterKeys : List (String × UInt16) → List (String × UInt16))
    (hField : ∀ m, (iterField m).Perm m) (hKeys : ∀ m, (iterKeys m).Perm m)
    (hwf : WellFormed bars names) (hzero : RootAtZero bars) (hnames : names.length ≤ 65536) :
    parsedata iterField iterKeys (toLevels bars) names =
      some (.ok ((preorder bars).map (rowOf bars names))) := by
  obtain ⟨heap, htree, hc⟩ := levelsToTree_spec hwf hzero
  obtain ⟨e, hframe, he⟩ := treeToNestedSetDataFrame_complete iterField hField hwf hc hnames
  generalize hrows : (preorder bars).map (rowOf bars names) = rows
  have hcol : ∀ {β : Type} (f : FrameData → β),
      (preorder bars).map (fun x => f (rowOf bars names x)) = rows.map f := fun f => by
    rw [← hrows, List.map_map]
    rfl
  rw [hcol, hcol, hcol] at hframe
  rw [hcol] at he
  simp only [parsedata, htree, hframe, Option.bind_eq_bind, Option.bind_some,
    he.decodeKeys_perm (hKeys _), he.field_mapM, List.length_map, ne_eq, not_true_eq_false,
    or_self, if_false]
  rw [zip_columns]
  rfl

theorem parsedata_label_wraps
    (iterField iterKeys : List (String × UInt16) → List (String × UInt16))
    (hwf : WellFormed bars names) (hzero : RootAtZero bars)
    (hnodup : ((preorder bars).map fun x => (rowOf bars names x).label).Nodup)
    (hlong : 65536 < (preorder bars).length) {rows : List FrameData}
    (h : parsedata iterField iterKeys (toLevels bars) names = some (.ok rows)) :
    rows[0]?.map FrameData.label = rows[65536]?.map FrameData.label := by
  obtain ⟨heap, htree, hc⟩ := levelsToTree_spec hwf hzero
  have hfield := EnumField.field_foldl_nodup hnodup
  simp only [parsedata, htree, treeToNestedSetDataFrame, columns_complete hwf hc,
    EnumField.getField, Option.bind_eq_bind, Option.bind_some, Option.pure_def,
    Option.bind_eq_some_iff] at h
  obtain ⟨text, ⟨s, ⟨t, -, hs⟩, hframe⟩, keys, -, labelarr, hlab, h⟩ := h
  rw [Option.some.injEq] at hs hframe
  subst hs hframe
  split at h
  · simp at h
  · -- the rows read their labels from `labelarr`, which reads index 0 for both
    simp only [Option.some.injEq, Except.ok.injEq] at h
    subst h
    rw [hfield] at hlab
    have h0 := Lib.Go.getElem?_of_mapM_eq_some hlab 0
    have h1 := Lib.Go.getElem?_of_mapM_eq_some hlab 65536
    simp only [List.getElem?_map, List.getElem?_range, List.length_map, hlong,
      Nat.zero_lt_of_lt hlong, Option.map_some, List.getD_eq_getElem?_getD, h0, h1]
    rfl

/-- On a well-formed flamebearer whose root starts at 0, with at most `2^16` names and
whatever order the two loops over the label map take, `parsedata` does not panic and gives
one row per bar, in the pre-order of the containment tree: the bar's depth, total, self and
the name its index points at; the root row's label is left open. -/
theorem parsedata_preorder (iterField iterKeys : List (String × UInt16) → List (String × UInt16))
    (hField : ∀ m, (iterField m).Perm m) (hKeys : ∀ m, (iterKeys m).Perm m)
    (hwf : WellFormed bars names) (hzero : RootAtZero bars) (hnames : names.length ≤ 65536) :
    ∃ rootLabel : String, parsedata iterField iterKeys (toLevels bars) names =
        some (.ok ({ barRow bars names (0, 0) with label := rootLabel } ::
          (preorder bars).tail.map (barRow bars names))) ∧
      (preorder bars).Perm (allBars bars) ∧
      (preorder bars).length = ((toLevels bars).map fun l => l.values.length / 4).sum := by
  refine ⟨names.getD 0 "", ?_, preorder_perm hwf, length_preorder hwf⟩
  obtain ⟨t, ht⟩ : ∃ t, preorder bars = (0, 0) :: t := ⟨_, preorder_eq_cons hwf⟩
  have htail : t.map (rowOf bars names) = t.map (barRow bars names) := by
    apply List.map_congr_left
    intro x hx
    exact rowOf_eq_barRow (depth_pos_of_mem_tail hwf (by rw [ht]; exact hx))
  rw [parsedata_eq_rows iterField iterKeys hField hKeys hwf hzero hnames, ht, List.map_cons,
    rowOf_root, htail, List.tail_cons]

theorem parsedata_preorder_two_levels :
    ∃ rootLabel : String,
      parsedata id id (toLevels [[⟨0, 2, 1, 0⟩], [⟨0, 1, 1, 1⟩]]) ["total", "f"] =
          some (.ok ({ barRow [[⟨0, 2, 1, 0⟩], [⟨0, 1, 1, 1⟩]] ["total", "f"] (0, 0) with
            label := rootLabel } :: (preorder [[⟨0, 2, 1, 0⟩], [⟨0, 1, 1, 1⟩]]).tail.map
              (barRow [[⟨0, 2, 1, 0⟩], [⟨0, 1, 1, 1⟩]] ["total", "f"]))) ∧
        (preorder [[⟨0, 2, 1, 0⟩], [⟨0, 1, 1, 1⟩]]).Perm (allBars [[⟨0, 2, 1, 0⟩], [⟨0, 1, 1, 1⟩]]) ∧
        (preorder [[⟨0, 2, 1, 0⟩], [⟨0, 1, 1, 1⟩]]).length =
          ((toLevels [[⟨0, 2, 1, 0⟩], [⟨0, 1, 1, 1⟩]]).map fun l => l.values.length / 4).sum :=
  parsedata_preorder id id (fun m => .refl m) (fun m => .refl m) (by decide) (by decide) (by decide)

theorem parsedata_root_start :
    WellFormed [[⟨1, 2, 2, 0⟩], [⟨2, 1, 1, 1⟩]] ["r", "c"] ∧
      parsedata id id (toLevels [[⟨1, 2, 2, 0⟩], [⟨2, 1, 1, 1⟩]]) ["r", "c"] =
        some (.ok [⟨0, 2, 2, "c"⟩]) :=
  ⟨by decide, by decide +kernel⟩

end Rows

/-! ## A root with more children than the label enum has indices -/

/-- A root of width 1 with `n` bars of width 0 below it, bar `k` named by index `k`. -/
def fan (n : Nat) : Levels :=
  [[⟨0, 1, 0, 0⟩], (List.range' 1 n).map fun (k : Nat) => ⟨0, 0, 0, k⟩]

/-- The names `""`, `"a"`, `"aa"`, and so on, all distinct. -/
def fanNames (n : Nat) : List String :=
  (List.range (n + 1)).map fun k => String.ofList (List.replicate k 'a')

theorem absolute_zero_width (l : List Nat) :
    absolute (l.map fun (k : Nat) => (⟨0, 0, 0, k⟩ : RelBar)) 0 =
      l.map fun (k : Nat) => ⟨0, 0, 0, k⟩ := by
  induction l with
  | nil => rfl
  | cons k l ih =>
    simp [absolute, ih]

theorem barsAt_fan_one (n : Nat) :
    barsAt (fan n) 1 = (List.range' 1 n).map fun (k : Nat) => ⟨0, 0, 0, k⟩ :=
  absolute_zero_width _

theorem wellFormed_fan (n : Nat) : WellFormed (fan n) (fanNames n) := by
  refine ⟨⟨_, rfl⟩, fun l hl b hb => ?_, fun d b hb => ?_, fun l hl b hb => ?_⟩
  · simp only [fan, List.mem_cons, List.not_mem_nil, or_false] at hl
    rcases hl with rfl | rfl
    · rw [List.mem_singleton] at hb
      subst hb
      decide
    · obtain ⟨k, -, rfl⟩ := List.mem_map.1 hb
      exact ⟨Int.le_refl 0, Int.le_refl 0⟩
  · cases d with
    | zero =>
      rw [barsAt_fan_one, List.mem_map] at hb
      obtain ⟨k, -, rfl⟩ := hb
      exact ⟨⟨0, 1, 0, 0⟩, List.mem_singleton_self _, by simp [Bar.Within]⟩
    | succ d =>
      rw [barsAt_eq_nil (by simp [fan])] at hb
      simp at hb
  · simp only [fan, List.mem_cons, List.not_mem_nil, or_false] at hl
    have hlen : (fanNames n).length = n + 1 := by simp [fanNames]
    rw [hlen]
    rcases hl with rfl | rfl
    · rw [List.mem_singleton] at hb
      subst hb
      simp
    · obtain ⟨k, hk, rfl⟩ := List.mem_map.1 hb
      rw [List.mem_range'_1] at hk
      simp only
      omega

theorem rootAtZero_fan (n : Nat) : RootAtZero (fan n) := by
  intro b hb
  simp only [barsAt, fan, List.getD_cons_zero, absolute, List.mem_singleton] at hb
  subst hb
  rfl

theorem allBars_fan (n : Nat) : allBars (fan n) = (0, 0) :: (List.range n).map ((1, ·)) := by
  simp [allBars, fan, levelNodes, barsAt, absolute, List.range_succ]

theorem rowOf_fan (n : Nat) : rowOf (fan n) (fanNames n) = barRow (fan n) (fanNames n) := by
  funext x
  obtain ⟨d, j⟩ := x
  rcases Nat.eq_zero_or_pos d with rfl | hd
  · have hname : ((barsAt (fan n) 0).getD j default).name = 0 := by
      cases j <;> rfl
    simp only [rowOf, barRow, nameAt, hname]
    rfl
  · exact rowOf_eq_barRow hd

theorem nodup_fanNames (n : Nat) : (fanNames n).Nodup := by
  refine List.Nodup.map (fun a b h => ?_) List.nodup_range
  have := congrArg String.length h
  simpa [String.length_ofList] using this

theorem labels_fan (n : Nat) :
    (allBars (fan n)).map (fun x => (barRow (fan n) (fanNames n) x).label) = fanNames n := by
  rw [allBars_fan, List.map_cons, List.map_map]
  conv => rhs; rw [fanNames, List.range_succ_eq_map, List.map_cons, List.map_map]
  congr 1
  · simp [barRow, fanNames, fan, barsAt, absolute]
  · apply List.map_congr_left
    intro i hi
    rw [List.mem_range] at hi
    simp [barRow, barsAt_fan_one, fanNames, List.getD_eq_getElem?_getD, hi, Nat.add_comm]

/-- Below a root with at least `2^16` bars, each of its own name, the labels wrap: whatever
order the loops over the label map take, the rows are not the bars' rows. -/
theorem parsedata_fan_mislabels (n : Nat) (hn : 65536 ≤ n)
    (iterField iterKeys : List (String × UInt16) → List (String × UInt16)) :
    parsedata iterField iterKeys (toLevels (fan n)) (fanNames n) ≠
      some (.ok ((preorder (fan n)).map (barRow (fan n) (fanNames n)))) := by
  intro h
  have hperm := preorder_perm (wellFormed_fan n)
  have hnodup : ((preorder (fan n)).map fun x => (barRow (fan n) (fanNames n) x).label).Nodup := by
    rw [(hperm.map _).nodup_iff, labels_fan]
    exact nodup_fanNames n
  have hlong : 65536 < (preorder (fan n)).length := by
    rw [hperm.length_eq, allBars_fan, List.length_cons, List.length_map, List.length_range]
    omega
  have hw := parsedata_label_wraps iterField iterKeys (wellFormed_fan n) (rootAtZero_fan n)
    (by rw [rowOf_fan]; exact hnodup) hlong h
  have hsame : ((preorder (fan n)).map fun x => (barRow (fan n) (fanNames n) x).label)[0]? =
      ((preorder (fan n)).map fun x => (barRow (fan n) (fanNames n) x).label)[65536]? := by
    simpa [List.getElem?_map, Function.comp_def] using hw
  rw [List.getElem?_eq_getElem (by simp; omega), List.getElem?_eq_getElem (by simp; omega),
    Option.some.injEq, hnodup.getElem_inj_iff] at hsame
  omega

/-- Two well-formed trees `parsedata` does not flatten bar for bar: a root that starts at 1
leaves the bar below it out, and with `2^16 + 1` names the 16-bit name indices wrap and a bar
carries another's label. -/
theorem parsedata_drops_or_mislabels :
    (WellFormed [[⟨1, 2, 2, 0⟩], [⟨2, 1, 1, 1⟩]] ["r", "c"] ∧
      parsedata id id (toLevels [[⟨1, 2, 2, 0⟩], [⟨2, 1, 1, 1⟩]]) ["r", "c"] =
        some (.ok [⟨0, 2, 2, "c"⟩])) ∧
    (WellFormed (fan 65536) (fanNames 65536) ∧ RootAtZero (fan 65536) ∧
      parsedata id id (toLevels (fan 65536)) (fanNames 65536) ≠
        some (.ok ((preorder (fan 65536)).map (barRow (fan 65536) (fanNames 65536))))) :=
  ⟨parsedata_root_start, wellFormed_fan 65536, rootAtZero_fan 65536,
    parsedata_fan_mislabels 65536 (Nat.le_refl _) id id⟩

end Huatuo.Perf
